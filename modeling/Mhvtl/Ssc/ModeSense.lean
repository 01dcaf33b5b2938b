import Mhvtl.Ssc.AllOrNothing

/-!
# MODE SENSE

The pages that a request asks for, behind a header with their length. The
length rule of MODE SELECT fits every page but the two subpages of the control
page, and the length field of the short form holds one byte.
-/

namespace Mhvtl.Ssc

open Bytes Cart

/-- Operation code of MODE SENSE(6). -/
def MODE_SENSE : UInt8 := 0x1a

/-- Saved values are not supported. -/
def E_SAVING_PARMS_UNSUP : ℕ := 0x3900

/-- The values of a page that are asked for. -/
def add_pcode (m : ModePage) (pc : UInt8) : List UInt8 :=
  if pc = 1 then m.pcodePointerBitMap else m.pcodePointer

/-- The codes that a request goes through. -/
def requestedCodes (pcode subpcode : UInt8) : List (UInt8 × UInt8) :=
  let codes := fun n => (List.range n).map UInt8.ofNat
  if pcode = 0 then []
  else if pcode = 0x3f then
    let pages := (codes 0x3f).tail
    if subpcode = 0 then pages.map (·, 0)
    else pages.flatMap fun i => (codes 0xff).map (i, ·)
  else if subpcode = 0xff then (codes 0xff).map (pcode, ·)
  else [(pcode, subpcode)]

/-- The pages that a request finds. -/
def requestedPages (l : List ModePage) (pcode subpcode : UInt8) : List ModePage :=
  (requestedCodes pcode subpcode).filterMap fun c => lookup_mode_pg l c.1 c.2

/-- Length of the block descriptor in the answer. -/
def blockDescriptorLen (scb : Cdb) : ℕ := if scb 1 &&& 0x8 ≠ 0 then 0 else 8

/-- Allocation length. -/
def mode_sense_alloc_len (scb : Cdb) : ℕ :=
  if scb 0 = MODE_SENSE then (scb 4).toNat else be16At scb 7

/-- Size of the header of the answer. -/
def mode_sense_h_sz (scb : Cdb) : ℕ := if scb 0 = MODE_SENSE then 4 else 8

/-- Page control, page code and subpage code of a request. -/
def mode_sense_page (scb : Cdb) : UInt8 × UInt8 × UInt8 := (scb 2 >>> 6, scb 2 &&& 0x3f, scb 3)

/-- MODE SENSE of a tape drive: sense data, or the bytes returned. What the handler does not
write is zero up to the allocation length and left from earlier commands behind it. -/
def spc_mode_sense (d : Drive) (scb : Cdb) (buf : ℕ → UInt8) : Except Status (List UInt8) :=
  let (pc, pcode, subpcode) := mode_sense_page scb
  let refuse := fun n : ℕ => .error (sam_illegal_request E_INVALID_FIELD_IN_CDB (some ⟨SKSV ||| CD, n⟩))
  if pc = 3 then .error (sam_illegal_request E_SAVING_PARMS_UNSUP none)
  else if pcode = 0x3f ∧ subpcode ≠ 0 ∧ subpcode ≠ 0xff then refuse 3
  else
  let pages := (requestedPages d.mode_pg pcode subpcode).flatMap (add_pcode · pc)
  if pcode ≠ 0 ∧ pages.length = 0 then refuse 2
  else
  let rest := fun j => if j < mode_sense_alloc_len scb then 0 else buf j
  let start := mode_sense_h_sz scb
  let offset := start + blockDescriptorLen scb + pages.length
  let protection : UInt8 := (if d.MediaWriteProtect then 0x80 else 0) ||| 0x10
  let descriptor := (List.range (blockDescriptorLen scb)).map fun j =>
    if pc = 1 then if 5 ≤ j then 0xff else rest (start + j) else d.modeBlockDescriptor j
  let header :=
    if scb 0 = MODE_SENSE then
      [UInt8.ofNat (offset - 1), d.mode_media_type, protection, UInt8.ofNat (blockDescriptorLen scb)]
    else
      beBytes 2 (offset - 2) ++ [d.mode_media_type, protection, rest 4, rest 5] ++
        beBytes 2 (blockDescriptorLen scb)
  .ok (header ++ descriptor ++ pages)

/-- The length field of an answer. -/
def modeDataLength (scb : Cdb) (data : List UInt8) : ℕ :=
  if scb 0 = MODE_SENSE then (data.getD 0 0).toNat else be16At (data.getD · 0) 0

/-- Size of the length field. -/
def lengthFieldSize (scb : Cdb) : ℕ := if scb 0 = MODE_SENSE then 1 else 2

/-- From place `i` on, the walk of MODE SELECT goes from page to page and ends at the end. -/
inductive WalksPages (data : List UInt8) : ℕ → List (List UInt8) → Prop where
  /-- The end. -/
  | nil : WalksPages data data.length []
  /-- The length rule leads from this page to the next. -/
  | cons {i : ℕ} {page : List UInt8} {pages : List (List UInt8)}
      (h : (data.drop i).take page.length = page)
      (hl : pageLength (pageAt (data.getD · 0) i) = page.length)
      (ht : WalksPages data (i + page.length) pages) : WalksPages data i (page :: pages)

end Mhvtl.Ssc
