import Mhvtl.Smc.Messages
import Mhvtl.Smc.Moves

/-!
# Messages of the library

Between commands the library handles its messages: the import/export port is
opened and closed, filled and emptied, storage slots are added, and drives tell
of ejected cartridges. Which handlers run is decided by the first characters of
the text. A result of `none` is the end of the daemon.
-/

namespace Mhvtl

/-- Internal state bit: the cartridge has no bar code. -/
def INSTATUS_NO_BARCODE : ℕ := 0x01

/-- A bar code in its field, cut or filled with blanks. -/
def barcodeField (barcode : Text) : Text :=
  Text.leftJust MAX_BARCODE_LEN (barcode.take MAX_BARCODE_LEN)

/-- The field is as long as it has to be. -/
theorem length_barcodeField (barcode : Text) :
    (barcodeField barcode).length = MAX_BARCODE_LEN :=
  Text.length_leftJust (List.length_take_le _ _)

/-- An import/export slot with a cartridge an operator put there. -/
def Slot.imported (sp : Slot) (mp : ℕ) : Slot :=
  { { sp with
      status := STATUS_InEnab ||| STATUS_ExEnab ||| STATUS_Access ||| STATUS_ImpExp |||
        STATUS_Full }.setImpExpStatus OPERATOR with media := some mp }

namespace Smc

/-- A full element holds a cartridge whose bar code starts like this one. -/
def already_in_slot (smc : Smc) (barcode : Text) : List Slot → Option Bool
  | [] => some false
  | sp :: slots =>
    if sp.slotOccupied then
      match smc.barcodeOf sp with
      | none => none
      | some held =>
        if held.strncmp barcode barcode.length then some true
        else already_in_slot smc barcode slots
    else
      already_in_slot smc barcode slots

/-- First import/export slot that is not full. -/
def locate_empty_map (smc : Smc) : Option ℕ :=
  smc.slots.findIdx? fun sp => !sp.slotOccupied && sp.is_map_slot

/-- Record of a bar code. -/
def lookup_barcode (smc : Smc) (barcode : Text) : Option ℕ :=
  smc.media_list.findIdx? fun m => m.barcode.strncmp barcode (MAX_BARCODE_LEN + 1)

/-- New record for a bar code. A bar code that is too long or known ends the daemon. -/
def add_barcode (smc : Smc) (barcode : Text) : Option (Smc × ℕ) :=
  if MAX_BARCODE_LEN < barcode.length then
    none
  else if (smc.lookup_barcode barcode).isSome then
    none
  else
    let m : MediaInfo :=
      { barcode := barcodeField barcode
        barcode_length := length_barcodeField barcode
        last_location := 0
        internal_status :=
          if (barcodeField barcode).strncmp "NOBAR".toList 5 then INSTATUS_NO_BARCODE else 0 }
    some ({ smc with media_list := smc.media_list ++ [m] }, smc.media_list.length)

/-- Put the cartridge with the bar code of the message into the port. -/
def load_map (smc : Smc) (msg : QMsg) : Option (Smc × Text) :=
  if smc.cap_closed then
    some (smc, "MAP not opened".toList)
  else
    let barcode := (msg.text.drop 9).dropWhile fun c => !c.isAlphanum
    if barcode = [] then
      some (smc, "Bad barcode".toList)
    else
      match smc.already_in_slot barcode smc.slots with
      | none => none
      | some true => some (smc, "barcode already in library".toList)
      | some false =>
        if MAX_BARCODE_LEN < barcode.length then
          some (smc, "barcode length too long".toList)
        else
          match smc.locate_empty_map with
          | none => some (smc, "MAP Full".toList)
          | some i =>
            let known := (smc.lookup_barcode barcode).map fun mp => (smc, mp)
            match known.or (smc.add_barcode barcode) with
            | none => none
            | some (smc, mp) =>
              some ((smc.updateMedia mp fun m =>
                { m with
                  barcode := barcodeField barcode
                  barcode_length := length_barcodeField barcode
                  internal_status := 0 }).updateSlot i fun sp => sp.imported mp, "OK".toList)

/-- Open the port. -/
def open_map (smc : Smc) : Smc × Text := ({ smc with cap_closed := false }, "OK".toList)

/-- Close the port. -/
def close_map (smc : Smc) : Smc × Text := ({ smc with cap_closed := true }, "OK".toList)

/-- Bar codes of the cartridges in the port, one after the other. -/
def list_map (smc : Smc) : List Slot → Option Text
  | [] => some []
  | sp :: slots =>
    if sp.slotOccupied && sp.is_map_slot then
      match smc.barcodeOf sp, list_map smc slots with
      | some held, some rest => some (held ++ rest)
      | _, _ => none
    else
      list_map smc slots

/-- Take the cartridges out of the port. -/
def empty_map (smc : Smc) : Smc × Text :=
  if smc.cap_closed then
    (smc, "Can't empty map while MAP is closed".toList)
  else
    ({ smc with
        slots := smc.slots.map fun sp =>
          if sp.slotOccupied && sp.is_map_slot then sp.setSlotEmpty else sp }, "OK".toList)

/-- A drive tells that it ejected its cartridge: the arm can get at it. -/
def set_access_bit (smc : Smc) (msg : QMsg) : Smc :=
  { smc with
    slots := smc.slots.map fun sp =>
      if sp.slotOccupied && sp.element_type == .DATA_TRANSFER &&
          sp.drive.any (fun d => d.drv_id == msg.snd_id) then
        sp.setAccessStatus true
      else sp }

/-- One more storage slot, behind the ones there are. -/
def add_storage_slot (smc : Smc) : Smc × Text :=
  let slt_no := smc.num_storage + 1
  let sp : Slot :=
    { slot_location := slt_no + smc.pm.start_storage - 1
      last_location := 0
      drive := none
      media := none
      status := STATUS_Access
      element_type := .STORAGE_ELEMENT
      wired := Slot.wired_storage }
  ({ smc with num_storage := slt_no, slots := smc.slots ++ [sp.setSlotEmpty] },
    "slot=".toList ++ (Nat.repr slt_no).toList)

/-- Handlers of the library's messages by the start of their texts, in the order
in which they are tried. A handler may answer the sender. -/
def handlers : List (Handler Smc) :=
  [ ("add slot".toList, fun smc _ => some (smc.add_storage_slot.map id some)),
    ("empty map".toList, fun smc _ => some (smc.empty_map.map id some)),
    (msg_eject, fun smc msg => some (smc.set_access_bit msg, none)),
    ("open map".toList, fun smc _ => some (smc.open_map.map id some)),
    ("close map".toList, fun smc _ => some (smc.close_map.map id some)),
    ("list map".toList, fun smc _ => (smc.list_map smc.slots).map fun text => (smc, some text)),
    ("load map ".toList, fun smc msg => (smc.load_map msg).map fun r => r.map id some) ]

/-- Handle a message. -/
def processMessageQ (smc : Smc) (msg : QMsg) : Option (Smc × List Text) :=
  runHandlers msg handlers smc

/-- A message of the library is handled once or ignored. -/
theorem processMessageQ_cases (smc : Smc) (msg : QMsg) :
    smc.processMessageQ msg = some (smc, []) ∨
      ∃ x ∈ handlers, x.1 <+: msg.text ∧
        smc.processMessageQ msg = (x.2 smc msg).map fun r => (r.1, r.2.toList) :=
  (runHandlers_cases (by decide) smc).imp_left And.right

end Smc

end Mhvtl
