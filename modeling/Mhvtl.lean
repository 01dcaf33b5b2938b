import Mhvtl.Lib.Bytes
import Mhvtl.Lib.ByteFile
import Mhvtl.Lib.Codec
import Mhvtl.Lib.TapeRecords
import Mhvtl.Lib.Run
import Mhvtl.Lib.Trailer
import Mhvtl.Sense
import Mhvtl.Mam.Attributes
import Mhvtl.Mam.RoundTrip
import Mhvtl.Cart.Header
import Mhvtl.Cart.Store
import Mhvtl.Cart.Represents
import Mhvtl.Cart.Operations
import Mhvtl.Cart.Writing
import Mhvtl.Cart.Positioning
import Mhvtl.Cart.Refinement
import Mhvtl.Cart.Faults
import Mhvtl.Cart.Formatting
import Mhvtl.Lib.Interact
import Mhvtl.Lib.CString
import Mhvtl.Smc.Inventory
import Mhvtl.Smc.Messages
import Mhvtl.Smc.Moves
import Mhvtl.Smc.MapSlots
import Mhvtl.Smc.Conservation
import Mhvtl.Smc.Outcomes
import Mhvtl.Smc.Inventories
import Mhvtl.Smc.TapeDaemon
import Mhvtl.Smc.Protocol
import Mhvtl.Smc.Mailboxes
import Mhvtl.Smc.Answers
import Mhvtl.Smc.Exchange
import Mhvtl.Smc.Agreement
import Mhvtl.Smc.Undisturbed
import Mhvtl.Smc.ProtocolRuns
import Mhvtl.Ssc.BlockProtection
import Mhvtl.Ssc.Drive
import Mhvtl.Ssc.Transfer
import Mhvtl.Ssc.Blocks
import Mhvtl.Ssc.Recording
import Mhvtl.Ssc.Writing
import Mhvtl.Ssc.Protection
import Mhvtl.Ssc.ModePages
import Mhvtl.Ssc.ModeSelect
import Mhvtl.Ssc.AllOrNothing
import Mhvtl.Ssc.ModeSense
import Mhvtl.Ssc.PageRuns
import Mhvtl.Ssc.ModeAgreement
import Mhvtl.Cart.Volume
import Mhvtl.Ssc.Commands
import Mhvtl.Ssc.Volume
import Mhvtl.Ssc.Encryption
import Mhvtl.Cart.Layout
import Mhvtl.Ssc.Attributes
import Mhvtl.Ssc.Reservation
import Mhvtl.TapeAlert
import Mhvtl.Ssc.Reading
import Mhvtl.Cart.Outcomes
import Mhvtl.Ssc.BlockOutcomes
import Mhvtl.Ssc.Residuals
import Mhvtl.Ssc.Sent
import Mhvtl.Cart.Loading
import Mhvtl.Ssc.Loading
import Mhvtl.Ssc.Counters
import Mhvtl.Ssc.Tally
import Mhvtl.Ssc.Mounting
import Mhvtl.Ssc.Lifetime
import Mhvtl.Lib.Spacing
import Mhvtl.Cart.Spacing
import Mhvtl.Ssc.Spacing
import Mhvtl.Ssc.Locating
import Mhvtl.Ssc.Position
import Mhvtl.Lib.Shares
import Mhvtl.Ssc.Capacities
import Mhvtl.Ssc.PartitionReport
import Mhvtl.Lib.Fitting
import Mhvtl.Ssc.ReadAttribute
import Mhvtl.Lib.Buffer
import Mhvtl.Ssc.ReadBuffer
import Mhvtl.Ssc.KeyParameters
import Mhvtl.Ssc.Refusals
import Mhvtl.Ssc.Guarding
import Mhvtl.Ssc.Reformat
import Mhvtl.Lib.Walk
import Mhvtl.Ssc.SecurityProtocol
import Mhvtl.Ssc.StatisticsPage
import Mhvtl.Ssc.WriteAttribute
import Mhvtl.Cart.Mount
import Mhvtl.Ssc.RefusedLoad
import Mhvtl.Ssc.Reload
import Mhvtl.Ssc.Verifying
import Mhvtl.Ssc.DataBuffer
import Mhvtl.Ssc.PartitionCount
import Mhvtl.Lib.Desk
import Mhvtl.Kernel.Driver
import Mhvtl.Kernel.Accounting
import Mhvtl.Kernel.Runs
import Mhvtl.Kernel.Daemons
import Mhvtl.Ssc.Medium
import Mhvtl.Ssc.Altering
import Mhvtl.Ssc.Shelf
import Mhvtl.Ssc.Chronicle
import Mhvtl.Ssc.Sealing
import Mhvtl.Lib.BubbleSort
import Mhvtl.Lib.Scanf
import Mhvtl.Smc.Configuration
import Mhvtl.Smc.Configured
import Mhvtl.Smc.ElementDump
import Mhvtl.Smc.KeptLayout
import Mhvtl.Smc.LibraryLife
import Mhvtl.Smc.Restart
import Mhvtl.Ssc.Diagnostics
