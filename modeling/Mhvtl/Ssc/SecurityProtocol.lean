import Mhvtl.Lib.Walk
import Mhvtl.Ssc.KeyParameters
import Mhvtl.Ssc.ReadAttribute

/-!
# What SECURITY PROTOCOL IN answers

The pages of tape data encryption. Two of them carry key-associated data: that of the key
the initiator sent last, and that of the block the drive stands in front of. The latter page
also says whether the key is the one of the block.
-/

namespace Mhvtl.Ssc

open Bytes Cart

/-- The page with the pages that can be read. -/
def ENCR_IN_SUPPORT_PAGES : ℕ := 0
/-- The page with the pages that can be sent. -/
def ENCR_OUT_SUPPORT_PAGES : ℕ := 1
/-- The page of the encryption algorithms. -/
def ENCR_CAPABILITIES : ℕ := 0x10
/-- The page of the key formats. -/
def ENCR_KEY_FORMATS : ℕ := 0x11
/-- The page of the key management. -/
def ENCR_KEY_MGT_CAPABILITIES : ℕ := 0x12
/-- The page of the drive's encryption state. -/
def ENCR_DATA_ENCR_STATUS : ℕ := 0x20
/-- The page of the next block. -/
def ENCR_NEXT_BLK_ENCR_STATUS : ℕ := 0x21
/-- The page that sets a key. -/
def ENCR_SET_DATA_ENCRYPTION : ℕ := 0x10

/-- The page of the algorithms, over memory `z`: byte 4, whether the format of the medium is
valid, the most data of either kind, byte 32, and bytes 40 and 43. -/
def encr_capabilities (z : ℕ → UInt8) (cfg : UInt8) (avfmv : Bool)
    (max_ukad max_akad earem algorithm_40 algorithm_43 : UInt8) : List UInt8 :=
  beBytes 2 ENCR_CAPABILITIES ++ beBytes 2 40 ++ cfg :: bytesAt z 5 15 ++ [1, 0] ++ beBytes 2 0x14 ++
    [0x3a ||| (if avfmv then 0x80 else 0), 0x10, 0, max_ukad, 0, max_akad] ++ beBytes 2 0x20 ++
    earem :: bytesAt z 33 7 ++ [algorithm_40, 0x01, 0, algorithm_43]

/-- The media of LTO4 to LTO9. -/
def ultriumMedia : List UInt8 := [8, 11, 14, 17, 20, 23]

/-- The algorithms of the IBM Ultrium drives. -/
def encr_capabilities_ult (d : Drive) (z : ℕ → UInt8) : List UInt8 :=
  encr_capabilities z 1 (d.load_status = TAPE_LOADED ∧ d.cart.mam.byte .MediaType ∈ ultriumMedia)
    0x20 0x0c (0x01 ||| 0x08) 0 0x14

/-- The algorithms of the HP Ultrium drives, which do not know the last medium. -/
def encr_capabilities_ult_hp (d : Drive) (z : ℕ → UInt8) : List UInt8 :=
  encr_capabilities z 1
    (d.load_status = TAPE_LOADED ∧ d.cart.mam.byte .MediaType ∈ ultriumMedia.dropLast)
    0x20 0x0c (0x01 ||| 0x08) 0 0x14

/-- The algorithms of the 3592 drives, which leave byte 4 alone. -/
def encr_capabilities_3592 (d : Drive) (z : ℕ → UInt8) : List UInt8 :=
  if d.load_status = TAPE_LOADED then encr_capabilities z (z 4) true 0 0x0c (0x01 ||| 0x0e) 0 0x14
  else encr_capabilities z (z 4) false 0x20 0x0c 0x01 0 0x14

/-- The algorithms of the T10000 drives. -/
def encr_capabilities_t10k (d : Drive) (z : ℕ → UInt8) : List UInt8 :=
  if d.load_status = TAPE_LOADED then encr_capabilities z 1 true 0x1e 0 (0x01 ||| 0x42) 0x80 0x10
  else encr_capabilities z 1 false 0x20 0x0c 0x01 0 0x14

/-- The algorithms of the 9840 drives. -/
def encr_capabilities_9840 (d : Drive) (z : ℕ → UInt8) : List UInt8 := encr_capabilities_t10k d z

/-- The drives that support security protocols. -/
inductive SecureDrive where
  | ult3580 | hp_ultrium | ibm_03592_E05 | ibm_03592 | t10000 | stk9x40
deriving DecidableEq

/-- The page of the algorithms. The E05 has no function for it. -/
def SecureDrive.encryption_capabilities : SecureDrive → Option (Drive → (ℕ → UInt8) → List UInt8)
  | ult3580 => some encr_capabilities_ult
  | hp_ultrium => some encr_capabilities_ult_hp
  | ibm_03592_E05 => none
  | ibm_03592 => some encr_capabilities_3592
  | t10000 => some encr_capabilities_t10k
  | stk9x40 => some encr_capabilities_9840

/-- A descriptor of key-associated data, when there is any. -/
def kadBytes (kind authenticated : UInt8) (n : UInt32) (a : Fin ENCR_KEY_MAX_LEN → UInt8) :
    List UInt8 :=
  if n = 0 then [] else [kind, authenticated, 0, UInt8.ofNat n.toNat] ++ usedBytes n a

/-- Size of a descriptor. -/
def kadSize (n : UInt32) : ℕ := if n = 0 then 0 else 4 + n.toNat

/-- Size of both descriptors of a key. -/
def kadsSize (e : Encryption) : ℕ := kadSize e.ukad_length + kadSize e.akad_length

/-- The lengths stay inside the arrays. -/
def LegalLengths (e : Encryption) : Prop :=
  e.key_length.toNat ≤ ENCR_KEY_MAX_LEN ∧ e.ukad_length.toNat ≤ ENCR_KEY_MAX_LEN ∧
    e.akad_length.toNat ≤ ENCR_KEY_MAX_LEN

instance (e : Encryption) : Decidable (LegalLengths e) := inferInstanceAs (Decidable (_ ∧ _))

/-- A page of the security protocol information, over memory `z`. A bad page number is answered with
the status for a size. The copy of the certificate fills what it is given with zeros. -/
def resp_spin_page_0 (certificate : List UInt8) (d : Drive) (sps alloc_len : ℕ) (z : ℕ → UInt8) :
    Option Answer :=
  if sps = 0 then some ⟨10, bytesAt z 0 6 ++ [0, 2, 0, TAPE_DATA_ENCRYPTION], d⟩
  else if sps = 1 then
    if alloc_len < 4 then none
    else if alloc_len - 4 ≤ certificate.length then
      some ⟨alloc_len,
        bytesAt z 0 2 ++ beBytes 2 (alloc_len - 4) ++ certificate.take (alloc_len - 4), d⟩
    else some ⟨certificate.length + 4,
      bytesAt z 0 2 ++ beBytes 2 certificate.length ++ certificate, d⟩
  else some ⟨SAM_STAT_CHECK_CONDITION, [],
    d.report (sam_illegal_request E_INVALID_FIELD_IN_CDB (some ⟨SKSV ||| CD, 2⟩))⟩

/-- A page of tape data encryption, over memory `z`. The page of the next block reads its header. -/
def resp_spin_page_20 (F : SecureDrive) (d : Drive) (sps : ℕ) (z : ℕ → UInt8) : Option Answer :=
  if sps = ENCR_IN_SUPPORT_PAGES then
    some ⟨18, beBytes 2 ENCR_IN_SUPPORT_PAGES ++ beBytes 2 14 ++
      [ENCR_IN_SUPPORT_PAGES, ENCR_OUT_SUPPORT_PAGES, ENCR_CAPABILITIES, ENCR_KEY_FORMATS,
        ENCR_KEY_MGT_CAPABILITIES, ENCR_DATA_ENCR_STATUS, ENCR_NEXT_BLK_ENCR_STATUS].flatMap
        (beBytes 2), d⟩
  else if sps = ENCR_OUT_SUPPORT_PAGES then
    some ⟨6, beBytes 2 ENCR_OUT_SUPPORT_PAGES ++ beBytes 2 2 ++ beBytes 2 ENCR_SET_DATA_ENCRYPTION, d⟩
  else if sps = ENCR_CAPABILITIES then
    F.encryption_capabilities.map fun capabilities => ⟨44, capabilities d z, d⟩
  else if sps = ENCR_KEY_FORMATS then
    some ⟨6, beBytes 2 ENCR_KEY_FORMATS ++ beBytes 2 2 ++ beBytes 2 0, d⟩
  else if sps = ENCR_KEY_MGT_CAPABILITIES then
    some ⟨16, beBytes 2 ENCR_KEY_MGT_CAPABILITIES ++ beBytes 2 0x0c ++ [1, 7, 0, 7] ++ bytesAt z 8 8, d⟩
  else if sps = ENCR_DATA_ENCR_STATUS then
    let e := d.app_encryption_state
    some ⟨24 + kadsSize e.toEncryption,
      beBytes 2 ENCR_DATA_ENCR_STATUS ++ [0, UInt8.ofNat (0x20 + kadsSize e.toEncryption)] ++
        [0x21, UInt8.ofNat d.ENCRYPT_MODE, UInt8.ofNat d.DECRYPT_MODE, 0x01] ++
        beBytes 4 d.KEY_INSTANCE_COUNTER.toNat ++ bytesAt z 12 12 ++
        (kadBytes 0 0 e.ukad_length e.ukad ++ kadBytes 1 0 e.akad_length e.akad), d⟩
  else if sps = ENCR_NEXT_BLK_ENCR_STATUS then
    let pos := d.cart.c_pos
    let info := pos.blk_encryption_info
    let page := fun (length status : UInt8) =>
      beBytes 2 ENCR_NEXT_BLK_ENCR_STATUS ++ [0, length] ++ bytesAt z 4 4 ++
        beBytes 4 pos.blk_number ++ [status, 0x01] ++ bytesAt z 14 2
    if d.load_status ≠ TAPE_LOADED then
      some ⟨0, [], d.report (sam_not_ready E_MEDIUM_NOT_PRESENT)⟩
    else if pos.blk_flags &&& BLKHDR_FLG_ENCRYPTED = 0 then
      some ⟨16, page 12 (if pos.blk_type ≠ B_DATA then 0x2 else 0x3), d⟩
    else if ¬LegalLengths info then none
    else
      let e := d.app_encryption_state
      let correct_key := info.key_length = e.key_length ∧ ¬differs info.key_length info.key e.key
      some ⟨16 + kadsSize info,
        page (UInt8.ofNat (12 + kadsSize info)) (if correct_key then 0x5 else 0x6) ++
          (kadBytes 0 1 info.ukad_length info.ukad ++ kadBytes 1 3 info.akad_length info.akad), d⟩
  else some ⟨0, [], d.report (sam_illegal_request E_INVALID_FIELD_IN_CDB (some ⟨SKSV ||| CD, 2⟩))⟩

/-- SECURITY PROTOCOL IN, over a buffer that holds `mem`. -/
def resp_spin (F : SecureDrive) (certificate : List UInt8) (d : Drive) (cdb : Cdb)
    (mem : ℕ → UInt8) : Option Answer :=
  let sps := beNat (bytesAt cdb 2 2)
  let unit := if cdb 4 &&& 0x80 ≠ 0 then 512 else 1
  let alloc_len := beNat (bytesAt cdb 6 4) * unit % 2 ^ 32
  if bufsize < alloc_len then
    some ⟨0, [], d.report (sam_illegal_request E_INVALID_FIELD_IN_CDB (some ⟨SKSV ||| CD, 6⟩))⟩
  else
    -- clearing the buffer resets the status
    let d := d.declare_ssc_vars
    let z := fun i => if i < alloc_len then 0 else mem i
    if cdb 1 = 0 then resp_spin_page_0 certificate d sps alloc_len z
    else if cdb 1 = TAPE_DATA_ENCRYPTION then resp_spin_page_20 F d sps z
    else some ⟨0, [], d.report (sam_illegal_request E_INVALID_FIELD_IN_CDB (some ⟨SKSV ||| CD, 1⟩))⟩

/-- SECURITY PROTOCOL IN. -/
def ssc_spin (F : SecureDrive) (certificate : List UInt8) (d : Drive) (cdb : Cdb)
    (mem : ℕ → UInt8) : Option Answer := resp_spin F certificate d cdb mem

/-- The size of a descriptor's data, in its third and fourth byte. -/
def descriptorLength (header : List UInt8) : ℕ := beNat (header.drop 2)

/-- The key-associated data of a key, as far as there are any. -/
def associatedData (e : Encryption) : List KadDescriptor :=
  (if e.ukad_length = 0 then [] else [⟨0, usedBytes e.ukad_length e.ukad⟩]) ++
    if e.akad_length = 0 then [] else [⟨1, usedBytes e.akad_length e.akad⟩]

/-- The descriptors in some bytes are these, and the last of them ends where the bytes do. -/
def CarriesKads (bytes : List UInt8) (kads : List KadDescriptor) : Prop :=
  ∃ es, Walk.walk 3 descriptorLength bytes = some es ∧
    es.map (fun e => (⟨e.header.headD 0, e.body⟩ : KadDescriptor)) = kads

/-- The block the drive stands in front of is encrypted. -/
def NextEncrypted (d : Drive) : Prop := d.cart.c_pos.blk_flags &&& BLKHDR_FLG_ENCRYPTED ≠ 0

/-- The used bytes of two arrays are the same. -/
def SameArray (n m : UInt32) (a b : Fin ENCR_KEY_MAX_LEN → UInt8) : Prop :=
  n = m ∧ ∀ i : Fin ENCR_KEY_MAX_LEN, i.val < n.toNat → a i = b i

/-- The key of the next block is the drive's. -/
def NextKey (d : Drive) : Prop :=
  SameArray d.cart.c_pos.blk_encryption_info.key_length d.app_encryption_state.key_length
    d.cart.c_pos.blk_encryption_info.key d.app_encryption_state.key

/-- Its unauthenticated data are the drive's. -/
def NextUkad (d : Drive) : Prop :=
  SameArray d.cart.c_pos.blk_encryption_info.ukad_length d.app_encryption_state.ukad_length
    d.cart.c_pos.blk_encryption_info.ukad d.app_encryption_state.ukad

/-- The drive asks for the unauthenticated data besides the key. -/
def AsksUkad (d : Drive) : Prop := d.pm.valid_encryption_blk ≠ .valid_encryption_blk

/-- With decryption enabled, a READ accepts the key of the next block. -/
def AcceptsKey (d : Drive) : Prop :=
  NextEncrypted d ∧
    ∃ d', ({ d with DECRYPT_MODE := 2 } : Drive).valid_encryption_blk = some (true, d')

/-- The length field of a page. -/
def pageField (page : List UInt8) : ℕ := beNat ((page.take 4).drop 2)

/-- A whole page of tape data encryption. -/
structure EncryptionPage (d : Drive) (sps : ℕ) (page : List UInt8) : Prop where
  /-- It says how long it is. -/
  length : pageField page + 4 = page.length
  /-- The page of the drive's state carries the data of the key. -/
  state : sps = ENCR_DATA_ENCR_STATUS →
    CarriesKads (page.drop 24) (associatedData d.app_encryption_state.toEncryption)
  /-- The page of the next block carries those of the block, if there are any. -/
  block : sps = ENCR_NEXT_BLK_ENCR_STATUS → ∃ kads,
    CarriesKads (page.drop 16) kads ∧
    (NextEncrypted d → kads = associatedData d.cart.c_pos.blk_encryption_info) ∧
    (¬NextEncrypted d → kads = [])
  /-- It says that the key is correct just when a READ accepts it. -/
  key : sps = ENCR_NEXT_BLK_ENCR_STATUS → (page[12]? = some 5 ↔ AcceptsKey d)

/-- Number of bytes that the initiator allows. -/
def spinAllocation (cdb : Cdb) : ℕ :=
  beNat (bytesAt cdb 6 4) * if cdb 4 &&& 0x80 ≠ 0 then 512 else 1

/-- A page is refused, or it is whole and sent as far as it is allowed. -/
def SpinAnswers (d : Drive) (cdb : Cdb) (r : Option Answer) : Prop :=
  SendsNothing r ∨ ∃ page, EncryptionPage d (beNat (bytesAt cdb 2 2)) page ∧
    Sends (spinAllocation cdb) page r

/-- Size of a page of tape data encryption, none where there is no such page. -/
def spinPageSize (d : Drive) (sps : ℕ) : Option ℕ :=
  if sps = ENCR_IN_SUPPORT_PAGES then some 18
  else if sps = ENCR_OUT_SUPPORT_PAGES ∨ sps = ENCR_KEY_FORMATS then some 6
  else if sps = ENCR_CAPABILITIES then some 44
  else if sps = ENCR_KEY_MGT_CAPABILITIES then some 16
  else if sps = ENCR_DATA_ENCR_STATUS then some (24 + kadsSize d.app_encryption_state.toEncryption)
  else if sps = ENCR_NEXT_BLK_ENCR_STATUS ∧ d.load_status = TAPE_LOADED then
    some (16 + if d.cart.c_pos.blk_flags &&& BLKHDR_FLG_ENCRYPTED = 0 then 0
      else kadsSize d.cart.c_pos.blk_encryption_info)
  else none

/-- More is asked for than the buffer holds, or there is no such page, or the page is not that of the
drive's state and fits what is allowed, the drive has a function for it, and when the drive's key is
the one of the next block, the drive has it in use and its unauthenticated data are right where they
are asked for. -/
def SpinFits (F : SecureDrive) (d : Drive) (cdb : Cdb) : Prop :=
  bufsize < spinAllocation cdb % 2 ^ 32 ∨ spinPageSize d (beNat (bytesAt cdb 2 2)) = none ∨
    beNat (bytesAt cdb 2 2) ≠ ENCR_DATA_ENCR_STATUS ∧
      (∃ size, spinPageSize d (beNat (bytesAt cdb 2 2)) = some size ∧ size ≤ spinAllocation cdb) ∧
      (beNat (bytesAt cdb 2 2) = ENCR_CAPABILITIES → F.encryption_capabilities.isSome = true) ∧
      (beNat (bytesAt cdb 2 2) = ENCR_NEXT_BLK_ENCR_STATUS → NextEncrypted d → NextKey d →
        d.app_encr_info = true ∧ (AsksUkad d → NextUkad d))

section Descriptors

/-- The used bytes of an array are as many as the length says. -/
theorem usedBytes_length {n : UInt32} (h : n.toNat ≤ ENCR_KEY_MAX_LEN)
    (a : Fin ENCR_KEY_MAX_LEN → UInt8) : (usedBytes n a).length = n.toNat := by
  rw [usedBytes, List.length_take, List.length_ofFn, Nat.min_eq_left h]

/-- The entry of a descriptor. -/
def kadEntry (kind authenticated : UInt8) (n : UInt32) (a : Fin ENCR_KEY_MAX_LEN → UInt8) :
    List (Walk.Entry UInt8) :=
  if n = 0 then [] else [⟨[kind, authenticated, 0, UInt8.ofNat n.toNat], usedBytes n a⟩]

/-- A descriptor is walked by its length. -/
theorem kadEntry_sized (kind authenticated : UInt8) {n : UInt32} (h : n.toNat ≤ ENCR_KEY_MAX_LEN)
    (a : Fin ENCR_KEY_MAX_LEN → UInt8) :
    ∀ e ∈ kadEntry kind authenticated n a, e.Sized 3 descriptorLength := by
  intro e he
  rw [kadEntry] at he
  split at he
  · exact absurd he List.not_mem_nil
  · obtain rfl := List.mem_singleton.mp he
    refine ⟨rfl, ?_⟩
    have hsmall : n.toNat < 256 := h.trans_lt (by decide)
    rw [usedBytes_length h]
    simp [descriptorLength, beNat, leNat, Nat.mod_eq_of_lt hsmall]

/-- Its bytes. -/
theorem kadEntry_cells (kind authenticated : UInt8) (n : UInt32)
    (a : Fin ENCR_KEY_MAX_LEN → UInt8) :
    Walk.cells (kadEntry kind authenticated n a) = kadBytes kind authenticated n a := by
  rw [kadEntry, kadBytes]
  split
  · rfl
  · exact Walk.cells_singleton _

/-- Their number. -/
theorem kadBytes_length (kind authenticated : UInt8) {n : UInt32} (h : n.toNat ≤ ENCR_KEY_MAX_LEN)
    (a : Fin ENCR_KEY_MAX_LEN → UInt8) : (kadBytes kind authenticated n a).length = kadSize n := by
  rw [kadBytes, kadSize]
  split
  · rfl
  · rw [List.length_append, usedBytes_length h]
    rfl

/-- The descriptors of a key carry its data. -/
theorem carries_kads {e : Encryption} (h : LegalLengths e) (b₀ b₁ : UInt8) :
    CarriesKads (kadBytes 0 b₀ e.ukad_length e.ukad ++ kadBytes 1 b₁ e.akad_length e.akad)
      (associatedData e) := by
  refine ⟨kadEntry 0 b₀ e.ukad_length e.ukad ++ kadEntry 1 b₁ e.akad_length e.akad, ?_, ?_⟩
  · rw [Walk.walk_iff, Walk.cells_append, kadEntry_cells, kadEntry_cells]
    refine ⟨fun x hx => ?_, rfl⟩
    rcases List.mem_append.mp hx with hx | hx
    · exact kadEntry_sized _ _ h.2.1 _ x hx
    · exact kadEntry_sized _ _ h.2.2 _ x hx
  · rw [associatedData, kadEntry, kadEntry]
    by_cases hu : e.ukad_length = 0 <;> by_cases ha : e.akad_length = 0 <;> simp [hu, ha]

/-- Bytes that carry some data are as many as their descriptors take. -/
theorem CarriesKads.length {bytes : List UInt8} {kads : List KadDescriptor}
    (h : CarriesKads bytes kads) : bytes.length = (kads.map fun k => 4 + k.data.length).sum := by
  obtain ⟨es, hwalk, rfl⟩ := h
  obtain ⟨hsized, rfl⟩ := Walk.walk_iff.mp hwalk
  induction es with
  | nil => rfl
  | cons e es ih =>
    have hheader := (hsized e List.mem_cons_self).1
    have hrest : ∀ x ∈ es, x.Sized 3 descriptorLength := fun x hx =>
      hsized x (List.mem_cons_of_mem e hx)
    have htail := ih hrest (Walk.walk_cells hrest)
    rw [Walk.cells, List.flatMap_cons, List.length_append, List.length_append, hheader]
    rw [Walk.cells] at htail
    rw [htail, List.map_cons, List.map_cons, List.sum_cons]

/-- The data of a key take the room that is counted for them. -/
theorem associatedData_size {e : Encryption} (h : LegalLengths e) :
    ((associatedData e).map fun k => 4 + k.data.length).sum = kadsSize e := by
  rw [← (carries_kads h 0 0).length, List.length_append, kadBytes_length _ _ h.2.1,
    kadBytes_length _ _ h.2.2, kadsSize]

/-- They are not many. -/
theorem kadsSize_le {e : Encryption} (h : LegalLengths e) : kadsSize e ≤ 72 := by
  obtain ⟨-, hu, ha⟩ := h
  rw [ENCR_KEY_MAX_LEN] at hu ha
  rw [kadsSize, kadSize, kadSize]
  split <;> split <;> omega

end Descriptors

section Keys

variable {d : Drive}

/-- What the drive compares with the next block. -/
theorem other_next_iff : d.pm.valid_encryption_blk.other d.cart.c_pos.blk_encryption_info
    d.app_encryption_state = false ↔ NextKey d ∧ (AsksUkad d → NextUkad d) := by
  have hkey : otherKey d.cart.c_pos.blk_encryption_info d.app_encryption_state = false ↔ NextKey d := by
    rw [otherKey, decide_eq_false_iff_not, not_or, not_not, differs_iff, NextKey, SameArray]
  have hukad : otherUkad d.cart.c_pos.blk_encryption_info d.app_encryption_state = false ↔
      NextUkad d := by
    rw [otherUkad, decide_eq_false_iff_not, not_or, not_not, differs_iff, NextUkad, SameArray]
  rw [AsksUkad]
  cases d.pm.valid_encryption_blk with
  | valid_encryption_blk => simp [KeyCheck.other, hkey]
  | valid_encryption_blk_t10k => simp [KeyCheck.other, hkey, hukad]
  | valid_encryption_blk_9840 => simp [KeyCheck.other, hkey, hukad]

/-- With decryption enabled, the key of an encrypted block is accepted just when it is the one in
use, with its unauthenticated data where they are asked for. -/
theorem accepts_iff (hnext : NextEncrypted d) : AcceptsKey d ↔
    d.app_encr_info = true ∧ NextKey d ∧ (AsksUkad d → NextUkad d) := by
  let d₂ : Drive := { d with DECRYPT_MODE := 2 }
  have hpasses : (∃ d', d₂.valid_encryption_blk = some (true, d')) ↔
      d₂.valid_encryption_blk.map Prod.fst = some true := by
    rw [Option.map_eq_some_iff]
    constructor
    · rintro ⟨d', h⟩
      exact ⟨_, h, rfl⟩
    · rintro ⟨r, h, hr⟩
      exact ⟨r.2, h.trans (congrArg some (Prod.ext hr rfl))⟩
  have hflags : d₂.cart.c_pos.blk_flags &&& BLKHDR_FLG_ENCRYPTED ≠ 0 := hnext
  have hmode : 1 < d₂.DECRYPT_MODE := Nat.one_lt_two
  have hother := @other_next_iff d₂
  change AcceptsKey d ↔ d₂.app_encr_info = true ∧ NextKey d₂ ∧ (AsksUkad d₂ → NextUkad d₂)
  rw [AcceptsKey, hpasses, d₂.valid_encryption_blk_verdict, judgeBlock_verdict, if_pos hflags,
    if_pos hmode, ← hother, Drive.encryptp]
  by_cases happ : d₂.app_encr_info = true
  · rw [if_pos happ, Option.map_some, Option.some_inj, Bool.not_eq_true']
    exact ⟨fun h => ⟨happ, h.2⟩, fun h => ⟨hnext, h.2⟩⟩
  · rw [if_neg happ, Option.map_none]
    exact ⟨fun h => absurd h.2.symm (Option.some_ne_none _), fun h => absurd h.1 happ⟩

end Keys

section Pages

variable {F : SecureDrive} {d : Drive} {z : ℕ → UInt8}

/-- The header of the page of the next block. -/
def nextHeader (z : ℕ → UInt8) (blk_number : ℕ) (length status : UInt8) : List UInt8 :=
  beBytes 2 ENCR_NEXT_BLK_ENCR_STATUS ++ [0, length] ++ bytesAt z 4 4 ++ beBytes 4 blk_number ++
    [status, 0x01] ++ bytesAt z 14 2

/-- The header of the page of the drive's state. -/
def stateHeader (z : ℕ → UInt8) (d : Drive) (length : UInt8) : List UInt8 :=
  beBytes 2 ENCR_DATA_ENCR_STATUS ++ [0, length] ++
    [0x21, UInt8.ofNat d.ENCRYPT_MODE, UInt8.ofNat d.DECRYPT_MODE, 0x01] ++
    beBytes 4 d.KEY_INSTANCE_COUNTER.toNat ++ bytesAt z 12 12

/-- What the header of the page of the next block says. -/
theorem nextHeader_spec (blk_number : ℕ) (length status : UInt8) (rest : List UInt8) :
    (nextHeader z blk_number length status).length = 16 ∧
      pageField (nextHeader z blk_number length status ++ rest) = length.toNat ∧
      (nextHeader z blk_number length status ++ rest)[12]? = some status := by
  simp [nextHeader, pageField, beBytes, leBytes, beNat, leNat, bytesAt, List.range_succ]

/-- What the header of the page of the drive's state says. -/
theorem stateHeader_spec (length : UInt8) (rest : List UInt8) :
    (stateHeader z d length).length = 24 ∧
      pageField (stateHeader z d length ++ rest) = length.toNat := by
  simp [stateHeader, pageField, beBytes, leBytes, beNat, leNat, bytesAt, List.range_succ]

/-- The pages of the algorithms have one length. -/
theorem encr_capabilities_spec (cfg : UInt8) (avfmv : Bool)
    (max_ukad max_akad earem algorithm_40 algorithm_43 : UInt8) :
    (encr_capabilities z cfg avfmv max_ukad max_akad earem algorithm_40 algorithm_43).length = 44 ∧
      pageField (encr_capabilities z cfg avfmv max_ukad max_akad earem algorithm_40 algorithm_43) =
        40 := by
  simp [encr_capabilities, pageField, beBytes, leBytes, beNat, leNat, bytesAt, List.range_succ,
    ENCR_CAPABILITIES]

/-- Those of every drive that has them. -/
theorem encryption_capabilities_spec (F : SecureDrive) (d : Drive) (z : ℕ → UInt8) :
    ∀ capabilities ∈ F.encryption_capabilities,
      (capabilities d z).length = 44 ∧ pageField (capabilities d z) = 40 := by
  intro capabilities h
  cases F with
  | ult3580 =>
    obtain rfl := Option.some.inj h
    exact encr_capabilities_spec _ _ _ _ _ _ _
  | hp_ultrium =>
    obtain rfl := Option.some.inj h
    exact encr_capabilities_spec _ _ _ _ _ _ _
  | ibm_03592_E05 => cases h
  | ibm_03592 =>
    obtain rfl := Option.some.inj h
    rw [encr_capabilities_3592]
    split <;> exact encr_capabilities_spec _ _ _ _ _ _ _
  | t10000 =>
    obtain rfl := Option.some.inj h
    rw [encr_capabilities_t10k]
    split <;> exact encr_capabilities_spec _ _ _ _ _ _ _
  | stk9x40 =>
    obtain rfl := Option.some.inj h
    rw [encr_capabilities_9840, encr_capabilities_t10k]
    split <;> exact encr_capabilities_spec _ _ _ _ _ _ _

/-- The pages that say nothing of a key are as long as they say. -/
theorem resp_spin_page_20_plain {sps size : ℕ} (hsize : spinPageSize d sps = some size)
    (hstate : sps ≠ ENCR_DATA_ENCR_STATUS) (hnext : sps ≠ ENCR_NEXT_BLK_ENCR_STATUS)
    (hknown : sps = ENCR_CAPABILITIES → F.encryption_capabilities.isSome = true) :
    ∃ bytes, resp_spin_page_20 F d sps z = some ⟨size, bytes, d⟩ ∧ bytes.length = size ∧
      pageField bytes + 4 = size := by
  rw [spinPageSize] at hsize
  rw [resp_spin_page_20]
  by_cases h₁ : sps = ENCR_IN_SUPPORT_PAGES
  · rw [if_pos h₁] at hsize ⊢
    obtain rfl := Option.some.inj hsize
    exact ⟨_, rfl, by decide, by decide⟩
  rw [if_neg h₁] at hsize ⊢
  by_cases h₂ : sps = ENCR_OUT_SUPPORT_PAGES
  · rw [if_pos (Or.inl h₂)] at hsize
    rw [if_pos h₂]
    obtain rfl := Option.some.inj hsize
    exact ⟨_, rfl, by decide, by decide⟩
  by_cases h₃ : sps = ENCR_KEY_FORMATS
  · rw [if_pos (Or.inr h₃)] at hsize
    obtain rfl := Option.some.inj hsize
    rw [h₃, if_neg (by decide), if_neg (by decide), if_pos rfl]
    exact ⟨_, rfl, by decide, by decide⟩
  rw [if_neg (not_or.mpr ⟨h₂, h₃⟩)] at hsize
  rw [if_neg h₂]
  by_cases h₄ : sps = ENCR_CAPABILITIES
  · rw [if_pos h₄] at hsize ⊢
    obtain rfl := Option.some.inj hsize
    obtain ⟨capabilities, hF⟩ := Option.isSome_iff_exists.mp (hknown h₄)
    obtain ⟨hlength, hfield⟩ := encryption_capabilities_spec F d z capabilities hF
    rw [hF]
    exact ⟨_, rfl, hlength, by rw [hfield]⟩
  rw [if_neg h₄] at hsize ⊢
  rw [if_neg h₃]
  by_cases h₅ : sps = ENCR_KEY_MGT_CAPABILITIES
  · rw [if_pos h₅] at hsize ⊢
    obtain rfl := Option.some.inj hsize
    refine ⟨_, rfl, by simp [bytesAt_length], ?_⟩
    simp [pageField, beBytes, leBytes, beNat, leNat, ENCR_KEY_MGT_CAPABILITIES]
  · rw [if_neg h₅, if_neg hstate, if_neg fun h => hnext h.1] at hsize
    exact absurd hsize.symm (Option.some_ne_none size)

/-- The page of the drive's state says that it is twelve bytes longer than it is. -/
theorem resp_spin_page_20_state : ∃ bytes,
    resp_spin_page_20 F d ENCR_DATA_ENCR_STATUS z = some ⟨bytes.length, bytes, d⟩ ∧
      bytes.length = 24 + kadsSize d.app_encryption_state.toEncryption ∧
      pageField bytes = 0x20 + kadsSize d.app_encryption_state.toEncryption := by
  have hlegal : LegalLengths d.app_encryption_state.toEncryption :=
    ⟨d.app_encryption_state.key_le, d.app_encryption_state.ukad_le, d.app_encryption_state.akad_le⟩
  have hsmall := kadsSize_le hlegal
  let k := kadsSize d.app_encryption_state.toEncryption
  let kads := kadBytes 0 0 d.app_encryption_state.ukad_length d.app_encryption_state.ukad ++
    kadBytes 1 0 d.app_encryption_state.akad_length d.app_encryption_state.akad
  have hkads : kads.length = k := by
    rw [List.length_append, kadBytes_length _ _ hlegal.2.1, kadBytes_length _ _ hlegal.2.2]
    rfl
  obtain ⟨hlength, hfield⟩ := @stateHeader_spec d z (UInt8.ofNat (0x20 + k)) kads
  have hwhole : (stateHeader z d (UInt8.ofNat (0x20 + k)) ++ kads).length = 24 + k := by
    rw [List.length_append, hlength, hkads]
  refine ⟨stateHeader z d (UInt8.ofNat (0x20 + k)) ++ kads, ?_, hwhole, ?_⟩
  · rw [hwhole]
    rfl
  · have hk : k ≤ 72 := hsmall
    have hbyte : (UInt8.ofNat (0x20 + k)).toNat = 0x20 + k := by
      rw [UInt8.toNat_ofNat', Nat.mod_eq_of_lt (by omega)]
    rw [hfield, hbyte]

/-- The page of a next block that is not encrypted. -/
theorem resp_spin_page_20_clear (hload : d.load_status = TAPE_LOADED) (hnext : ¬NextEncrypted d) :
    ∃ status, status ≠ 5 ∧ resp_spin_page_20 F d ENCR_NEXT_BLK_ENCR_STATUS z =
      some ⟨16, nextHeader z d.cart.c_pos.blk_number 12 status, d⟩ := by
  refine ⟨if d.cart.c_pos.blk_type ≠ B_DATA then 0x2 else 0x3, ?_, ?_⟩
  · split <;> decide
  · have hclear : d.cart.c_pos.blk_flags &&& BLKHDR_FLG_ENCRYPTED = 0 := not_not.mp hnext
    have hbranch : resp_spin_page_20 F d ENCR_NEXT_BLK_ENCR_STATUS z =
        if d.load_status ≠ TAPE_LOADED then
          some ⟨0, [], d.report (sam_not_ready E_MEDIUM_NOT_PRESENT)⟩
        else if d.cart.c_pos.blk_flags &&& BLKHDR_FLG_ENCRYPTED = 0 then
          some ⟨16, nextHeader z d.cart.c_pos.blk_number 12
            (if d.cart.c_pos.blk_type ≠ B_DATA then 0x2 else 0x3), d⟩
        else _ := rfl
    rw [hbranch, if_neg (not_not_intro hload), if_pos hclear]

/-- The page of a next block that is encrypted. -/
theorem resp_spin_page_20_encrypted (hload : d.load_status = TAPE_LOADED) (hnext : NextEncrypted d)
    (hlegal : LegalLengths d.cart.c_pos.blk_encryption_info) :
    ∃ status kads, (status = 5 ↔ NextKey d) ∧
      kads.length = kadsSize d.cart.c_pos.blk_encryption_info ∧
      CarriesKads kads (associatedData d.cart.c_pos.blk_encryption_info) ∧
      resp_spin_page_20 F d ENCR_NEXT_BLK_ENCR_STATUS z =
        some ⟨16 + kads.length, nextHeader z d.cart.c_pos.blk_number
          (UInt8.ofNat (12 + kads.length)) status ++ kads, d⟩ := by
  let info := d.cart.c_pos.blk_encryption_info
  have hkads : (kadBytes 0 1 info.ukad_length info.ukad ++
      kadBytes 1 3 info.akad_length info.akad).length = kadsSize info := by
    rw [List.length_append, kadBytes_length _ _ hlegal.2.1, kadBytes_length _ _ hlegal.2.2]
    rfl
  refine ⟨if info.key_length = d.app_encryption_state.key_length ∧
    ¬differs info.key_length info.key d.app_encryption_state.key then 0x5 else 0x6, _, ?_, hkads,
    carries_kads hlegal 1 3, ?_⟩
  · rw [NextKey, SameArray, ← differs_iff]
    split
    · next h => exact ⟨fun _ => h, fun _ => rfl⟩
    · next h => exact ⟨fun h6 => absurd h6 (by decide), fun h' => absurd h' h⟩
  · have hbranch : resp_spin_page_20 F d ENCR_NEXT_BLK_ENCR_STATUS z =
        if d.load_status ≠ TAPE_LOADED then
          some ⟨0, [], d.report (sam_not_ready E_MEDIUM_NOT_PRESENT)⟩
        else if d.cart.c_pos.blk_flags &&& BLKHDR_FLG_ENCRYPTED = 0 then _
        else if ¬LegalLengths info then none
        else some ⟨16 + kadsSize info, nextHeader z d.cart.c_pos.blk_number
          (UInt8.ofNat (12 + kadsSize info)) (if info.key_length = d.app_encryption_state.key_length ∧
            ¬differs info.key_length info.key d.app_encryption_state.key then 0x5 else 0x6) ++
          (kadBytes 0 1 info.ukad_length info.ukad ++ kadBytes 1 3 info.akad_length info.akad), d⟩ :=
      rfl
    rw [hbranch, if_neg (not_not_intro hload), if_neg hnext, if_neg (not_not_intro hlegal), hkads]

end Pages

section Exact

variable {F : SecureDrive} {certificate : List UInt8} {d : Drive} {cdb : Cdb} {mem : ℕ → UInt8}

/-- Of a page that says how long it is, what is sent begins as the page does. -/
theorem sends_front {alloc_len : ℕ} {page bytes : List UInt8} {d' : Drive}
    (hgood : d'.sam_stat = SAM_STAT_GOOD) (hfour : 4 ≤ bytes.length)
    (h : Sends alloc_len page (some ⟨bytes.length, bytes, d'⟩)) :
    bytes = page.take alloc_len ∧ bytes.length ≤ alloc_len ∧ pageField bytes = pageField page := by
  obtain ⟨hsz, hbytes⟩ := (sends_iff hgood).mp h
  have hle : bytes.length ≤ alloc_len := hsz.le.trans (Nat.min_le_right _ _)
  rw [List.take_length] at hbytes
  refine ⟨hbytes, hle, ?_⟩
  have htake : bytes.take 4 = page.take 4 := by
    rw [hbytes, List.take_take, Nat.min_eq_left (by omega)]
  rw [pageField, pageField, htake]

/-- A page that is sent whole and says so is answered when it is right and fits. -/
theorem answers_iff {bytes : List UInt8} {d' : Drive} (hgood : d'.sam_stat = SAM_STAT_GOOD)
    (hfield : pageField bytes + 4 = bytes.length) :
    SpinAnswers d cdb (some ⟨bytes.length, bytes, d'⟩) ↔
      EncryptionPage d (beNat (bytesAt cdb 2 2)) bytes ∧ bytes.length ≤ spinAllocation cdb := by
  have hfour : 4 ≤ bytes.length := by omega
  constructor
  · rintro (hnothing | ⟨page, hpage, hsends⟩)
    · have hsized : (⟨bytes.length, bytes, d'⟩ : Answer).sz ≠ 0 := by
        change bytes.length ≠ 0
        omega
      exact absurd hnothing (not_sendsNothing hsized)
    · obtain ⟨hbytes, hle, hsame⟩ := sends_front hgood hfour hsends
      have hlength : page.length = bytes.length := by
        rw [← hpage.length, ← hsame, hfield]
      rw [List.take_of_length_le (by omega)] at hbytes
      rw [hbytes]
      rw [hbytes] at hle
      exact ⟨hpage, hle⟩
  · rintro ⟨hpage, hle⟩
    exact Or.inr ⟨bytes, hpage, sends_whole hgood hle⟩

/-- More than the buffer holds is refused; everything else is answered by a page. -/
theorem ssc_spin_cases (hprotocol : cdb 1 = TAPE_DATA_ENCRYPTION) :
    (bufsize < spinAllocation cdb % 2 ^ 32 ∧ SendsNothing (ssc_spin F certificate d cdb mem)) ∨
      (¬bufsize < spinAllocation cdb % 2 ^ 32 ∧ ∃ z, ssc_spin F certificate d cdb mem =
        resp_spin_page_20 F d.declare_ssc_vars (beNat (bytesAt cdb 2 2)) z) := by
  have hnot : ¬cdb 1 = 0 := by
    rw [hprotocol]
    decide
  rw [ssc_spin, resp_spin, spinAllocation]
  by_cases hbig : bufsize < (beNat (bytesAt cdb 6 4) * if cdb 4 &&& 0x80 ≠ 0 then 512 else 1) % 2 ^ 32
  · exact Or.inl ⟨hbig, by rw [if_pos hbig]; exact ⟨_, rfl, rfl, rfl⟩⟩
  · refine Or.inr ⟨hbig, ?_⟩
    rw [if_neg hbig, if_neg hnot, if_pos hprotocol]
    exact ⟨_, rfl⟩

/-- A page that is not there is refused. -/
theorem resp_spin_page_20_none {sps : ℕ} {z : ℕ → UInt8} (h : spinPageSize d sps = none) :
    SendsNothing (resp_spin_page_20 F d sps z) := by
  by_cases hnext : sps = ENCR_NEXT_BLK_ENCR_STATUS
  · have hload : d.load_status ≠ TAPE_LOADED := by
      intro hload
      rw [hnext, spinPageSize, if_neg (by decide), if_neg (by decide), if_neg (by decide),
        if_neg (by decide), if_neg (by decide), if_pos ⟨rfl, hload⟩] at h
      exact absurd h (Option.some_ne_none _)
    rw [hnext, resp_spin_page_20, if_neg (by decide), if_neg (by decide), if_neg (by decide),
      if_neg (by decide), if_neg (by decide), if_neg (by decide), if_pos rfl]
    dsimp only
    rw [if_pos hload]
    exact ⟨_, rfl, rfl, rfl⟩
  · rw [spinPageSize] at h
    rw [resp_spin_page_20]
    split at h
    · exact absurd h (Option.some_ne_none _)
    next h₁ =>
    split at h
    · exact absurd h (Option.some_ne_none _)
    next h₂ =>
    obtain ⟨h₂, h₃⟩ := not_or.mp h₂
    split at h
    · exact absurd h (Option.some_ne_none _)
    next h₄ =>
    split at h
    · exact absurd h (Option.some_ne_none _)
    next h₅ =>
    split at h
    · exact absurd h (Option.some_ne_none _)
    next h₆ =>
    rw [if_neg h₁, if_neg h₂, if_neg h₄, if_neg h₃, if_neg h₅, if_neg h₆, if_neg hnext]
    exact ⟨_, rfl, rfl, rfl⟩

/-- The page of the drive's state is never answered. -/
theorem state_not_answered {z : ℕ → UInt8} (hsps : beNat (bytesAt cdb 2 2) = ENCR_DATA_ENCR_STATUS) :
    ¬SpinAnswers d cdb (resp_spin_page_20 F d.declare_ssc_vars ENCR_DATA_ENCR_STATUS z) := by
  have hgood : d.declare_ssc_vars.sam_stat = SAM_STAT_GOOD := rfl
  have hlegal : LegalLengths d.app_encryption_state.toEncryption :=
    ⟨d.app_encryption_state.key_le, d.app_encryption_state.ukad_le, d.app_encryption_state.akad_le⟩
  obtain ⟨bytes, hrun, hlength, hfield⟩ := @resp_spin_page_20_state F d.declare_ssc_vars z
  have hlength' : bytes.length = 24 + kadsSize d.app_encryption_state.toEncryption := hlength
  have hfield' : pageField bytes = 0x20 + kadsSize d.app_encryption_state.toEncryption := hfield
  rw [hrun]
  rintro (hnothing | ⟨page, hpage, hsends⟩)
  · have hsized : (⟨bytes.length, bytes, d.declare_ssc_vars⟩ : Answer).sz ≠ 0 := by
      change bytes.length ≠ 0
      omega
    exact not_sendsNothing hsized hnothing
  · obtain ⟨-, -, hsame⟩ := sends_front hgood (by omega) hsends
    have hall := hpage.length
    have hkads := (hpage.state hsps).length
    rw [associatedData_size hlegal, List.length_drop] at hkads
    omega

/-- A drive without a function for the page of the algorithms does not survive the request. -/
theorem unknown_not_answered {z : ℕ → UInt8} (h : F.encryption_capabilities = none) :
    ¬SpinAnswers d cdb (resp_spin_page_20 F d.declare_ssc_vars ENCR_CAPABILITIES z) := by
  have hnone : resp_spin_page_20 F d.declare_ssc_vars ENCR_CAPABILITIES z = none := by
    rw [resp_spin_page_20, if_neg (by decide), if_neg (by decide), if_pos rfl, h, Option.map_none]
  rw [hnone]
  rintro (⟨a, ha, -⟩ | ⟨page, -, a, ha, -⟩)
  · exact absurd ha.symm (Option.some_ne_none a)
  · exact absurd ha.symm (Option.some_ne_none a)

/-- A page that says nothing of a key is right as it is. -/
theorem EncryptionPage.plain {sps : ℕ} {bytes : List UInt8}
    (hlength : pageField bytes + 4 = bytes.length) (hstate : sps ≠ ENCR_DATA_ENCR_STATUS)
    (hnext : sps ≠ ENCR_NEXT_BLK_ENCR_STATUS) : EncryptionPage d sps bytes :=
  ⟨hlength, fun h => absurd h hstate, fun h => absurd h hnext, fun h => absurd h hnext⟩

/-- The page of the next block is answered just when it fits, and a key that is the drive's would
be accepted. -/
theorem next_answered_iff {z : ℕ → UInt8} (hload : d.load_status = TAPE_LOADED)
    (hsps : beNat (bytesAt cdb 2 2) = ENCR_NEXT_BLK_ENCR_STATUS)
    (hlegal : NextEncrypted d → LegalLengths d.cart.c_pos.blk_encryption_info) :
    SpinAnswers d cdb (resp_spin_page_20 F d.declare_ssc_vars ENCR_NEXT_BLK_ENCR_STATUS z) ↔
      (16 + if d.cart.c_pos.blk_flags &&& BLKHDR_FLG_ENCRYPTED = 0 then 0
        else kadsSize d.cart.c_pos.blk_encryption_info) ≤ spinAllocation cdb ∧
      (NextEncrypted d → NextKey d → d.app_encr_info = true ∧ (AsksUkad d → NextUkad d)) := by
  have hgood : d.declare_ssc_vars.sam_stat = SAM_STAT_GOOD := rfl
  have hstate : beNat (bytesAt cdb 2 2) ≠ ENCR_DATA_ENCR_STATUS := by
    rw [hsps]
    decide
  by_cases hnext : NextEncrypted d
  · obtain ⟨status, kads, hkey, hkads, hcarries, hrun⟩ :=
      @resp_spin_page_20_encrypted F d.declare_ssc_vars z hload hnext (hlegal hnext)
    have hkads' : kads.length = kadsSize d.cart.c_pos.blk_encryption_info := hkads
    have hsmall := kadsSize_le (hlegal hnext)
    obtain ⟨hheader, hfield, hstatus⟩ := @nextHeader_spec z d.cart.c_pos.blk_number
      (UInt8.ofNat (12 + kads.length)) status kads
    let bytes := nextHeader z d.cart.c_pos.blk_number (UInt8.ofNat (12 + kads.length)) status ++ kads
    have hlength : bytes.length = 16 + kads.length := by
      rw [List.length_append, hheader]
    have hbyte : (UInt8.ofNat (12 + kads.length)).toNat = 12 + kads.length := by
      rw [UInt8.toNat_ofNat', Nat.mod_eq_of_lt (by omega)]
    have hown : pageField bytes + 4 = bytes.length := by
      rw [hfield, hbyte, hlength]
      omega
    have hanswer := @answers_iff d cdb bytes d.declare_ssc_vars hgood hown
    have hdrop : bytes.drop 16 = kads := List.drop_left' hheader
    have hfive : bytes[12]? = some 5 ↔ NextKey d := by
      rw [hstatus, Option.some_inj]
      exact hkey
    have hrun' : resp_spin_page_20 F d.declare_ssc_vars ENCR_NEXT_BLK_ENCR_STATUS z =
        some ⟨bytes.length, bytes, d.declare_ssc_vars⟩ := by
      rw [hlength]
      exact hrun
    rw [hrun', hanswer, hlength, hkads', if_neg hnext]
    constructor
    · rintro ⟨hpage, hle⟩
      refine ⟨hle, fun _ hsame => ?_⟩
      obtain ⟨happ, -, hukad⟩ := (accepts_iff hnext).mp ((hpage.key hsps).mp (hfive.mpr hsame))
      exact ⟨happ, hukad⟩
    · rintro ⟨hle, huse⟩
      refine ⟨⟨hown, fun h => absurd h hstate, fun _ => ?_, fun _ => ?_⟩, hle⟩
      · rw [hdrop]
        exact ⟨_, hcarries, fun _ => rfl, fun hnot => absurd hnext hnot⟩
      · rw [hfive, accepts_iff hnext]
        constructor
        · intro hsame
          obtain ⟨happ, hukad⟩ := huse hnext hsame
          exact ⟨happ, hsame, hukad⟩
        · exact fun h => h.2.1
  · obtain ⟨status, hne, hrun⟩ := @resp_spin_page_20_clear F d.declare_ssc_vars z hload hnext
    obtain ⟨hlength, hfield, hstatus⟩ := @nextHeader_spec z d.cart.c_pos.blk_number 12 status []
    rw [List.append_nil] at hfield hstatus
    let bytes := nextHeader z d.cart.c_pos.blk_number 12 status
    have hlength' : bytes.length = 16 := hlength
    have hown : pageField bytes + 4 = bytes.length := by
      rw [hfield, hlength']
      rfl
    have hanswer := @answers_iff d cdb bytes d.declare_ssc_vars hgood hown
    have hrun' : resp_spin_page_20 F d.declare_ssc_vars ENCR_NEXT_BLK_ENCR_STATUS z =
        some ⟨bytes.length, bytes, d.declare_ssc_vars⟩ := by
      rw [hlength']
      exact hrun
    have hdrop : bytes.drop 16 = [] := List.drop_of_length_le hlength'.le
    rw [hrun', hanswer, hlength', if_pos (not_not.mp hnext)]
    constructor
    · exact fun h => ⟨h.2, fun h' => absurd h' hnext⟩
    · rintro ⟨hle, -⟩
      refine ⟨⟨hown, fun h => absurd h hstate, fun _ => ⟨[], ⟨[], ?_, rfl⟩,
        fun h => absurd h hnext, fun _ => rfl⟩, fun _ => ?_⟩, hle⟩
      · rw [hdrop]
        exact Walk.walk_iff.mpr ⟨fun e he => absurd he List.not_mem_nil, rfl⟩
      · constructor
        · intro h
          exact absurd (Option.some.inj (hstatus.symm.trans h)) hne
        · exact fun h => absurd h.1 hnext

/-- The page of the next block is there when a tape is loaded. -/
theorem spinPageSize_next {size : ℕ}
    (h : spinPageSize d ENCR_NEXT_BLK_ENCR_STATUS = some size) : d.load_status = TAPE_LOADED ∧
      (16 + if d.cart.c_pos.blk_flags &&& BLKHDR_FLG_ENCRYPTED = 0 then 0
        else kadsSize d.cart.c_pos.blk_encryption_info) = size := by
  rw [spinPageSize, if_neg (by decide), if_neg (by decide), if_neg (by decide),
    if_neg (by decide), if_neg (by decide)] at h
  split at h
  · next hload => exact ⟨hload.2, Option.some.inj h⟩
  · cases h

/-- SECURITY PROTOCOL IN answers tape data encryption pages as it should just when it refuses them,
or the page is not that of the drive's state, fits what is allowed, has a function, and does not
vouch for a key that the drive has not in use or whose unauthenticated data it would miss. -/
theorem security_protocol_in_iff (F : SecureDrive) (certificate : List UInt8) (d : Drive) (cdb : Cdb)
    (mem : ℕ → UInt8) (hprotocol : cdb 1 = TAPE_DATA_ENCRYPTION)
    (hlegal : NextEncrypted d → LegalLengths d.cart.c_pos.blk_encryption_info) :
    SpinAnswers d cdb (ssc_spin F certificate d cdb mem) ↔ SpinFits F d cdb := by
  rw [SpinFits]
  rcases @ssc_spin_cases F certificate d cdb mem hprotocol with ⟨hbig, hnothing⟩ | ⟨hbig, z, hrun⟩
  · exact ⟨fun _ => Or.inl hbig, fun _ => Or.inl hnothing⟩
  rw [hrun]
  cases hsize : spinPageSize d (beNat (bytesAt cdb 2 2)) with
  | none =>
    have hsize' : spinPageSize d.declare_ssc_vars (beNat (bytesAt cdb 2 2)) = none := hsize
    exact ⟨fun _ => Or.inr (Or.inl rfl), fun _ => Or.inl (resp_spin_page_20_none hsize')⟩
  | some size =>
    by_cases hstate : beNat (bytesAt cdb 2 2) = ENCR_DATA_ENCR_STATUS
    · constructor
      · intro h
        rw [hstate] at h
        exact absurd h (state_not_answered hstate)
      · rintro (h | h | ⟨h, -⟩)
        · exact absurd h hbig
        · exact absurd h (Option.some_ne_none size)
        · exact absurd hstate h
    by_cases hnext : beNat (bytesAt cdb 2 2) = ENCR_NEXT_BLK_ENCR_STATUS
    · rw [hnext] at hsize
      obtain ⟨hload, hneed⟩ := spinPageSize_next hsize
      have hanswer := @next_answered_iff F d cdb z hload hnext hlegal
      rw [hneed] at hanswer
      rw [hnext]
      rw [hanswer]
      constructor
      · rintro ⟨hle, huse⟩
        exact Or.inr (Or.inr ⟨by decide, ⟨size, rfl, hle⟩, fun h => absurd h (by decide), fun _ => huse⟩)
      · rintro (h | h | ⟨-, ⟨size', hsame, hle⟩, -, huse⟩)
        · exact absurd h hbig
        · exact absurd h (Option.some_ne_none size)
        · rw [Option.some.inj hsame]
          exact ⟨hle, huse rfl⟩
    by_cases hunknown : beNat (bytesAt cdb 2 2) = ENCR_CAPABILITIES ∧ F.encryption_capabilities = none
    · constructor
      · intro h
        rw [hunknown.1] at h
        exact absurd h (unknown_not_answered hunknown.2)
      · rintro (h | h | ⟨-, -, hknown, -⟩)
        · exact absurd h hbig
        · exact absurd h (Option.some_ne_none size)
        · have hsome := hknown hunknown.1
          rw [hunknown.2] at hsome
          cases hsome
    · have hknown : beNat (bytesAt cdb 2 2) = ENCR_CAPABILITIES →
          F.encryption_capabilities.isSome = true := by
        intro h
        rw [Option.isSome_iff_ne_none]
        exact fun hnone => hunknown ⟨h, hnone⟩
      have hsize' : spinPageSize d.declare_ssc_vars (beNat (bytesAt cdb 2 2)) = some size := hsize
      obtain ⟨bytes, hpage, hlength, hfield⟩ :=
        @resp_spin_page_20_plain F d.declare_ssc_vars z _ size hsize' hstate hnext hknown
      have hown : pageField bytes + 4 = bytes.length := hfield.trans hlength.symm
      have hanswer := @answers_iff d cdb bytes d.declare_ssc_vars rfl hown
      rw [hpage, ← hlength, hanswer]
      constructor
      · rintro ⟨-, hle⟩
        exact Or.inr (Or.inr ⟨hstate, ⟨bytes.length, rfl, hle⟩, hknown, fun h => absurd h hnext⟩)
      · rintro (h | h | ⟨-, ⟨size', hsame, hle⟩, -⟩)
        · exact absurd h hbig
        · exact absurd h (Option.some_ne_none _)
        · rw [Option.some.inj hsame]
          exact ⟨EncryptionPage.plain hown hstate hnext, hle⟩

end Exact

/-- SECURITY PROTOCOL IN for a page of tape data encryption. -/
def spinCdb (page alloc_len : UInt8) : Cdb
  | 1 => TAPE_DATA_ENCRYPTION
  | 3 => page
  | 9 => alloc_len
  | _ => 0

private theorem keyedBlock_key : (32 : UInt32).toNat ≤ ENCR_KEY_MAX_LEN := by decide
private theorem keyedBlock_ukad : (4 : UInt32).toNat ≤ ENCR_KEY_MAX_LEN := by decide

/-- A drive in front of an encrypted block of its key with four bytes of unauthenticated data, each
of them 1. The drive's own are the given ones. -/
def keyedBlock (check : KeyCheck) (ukad : UInt8) : Drive :=
  let blk : Encryption := ⟨32, 4, 0, fun _ => 9, fun _ => 1, fun _ => 0⟩
  { emptyDrive with
    cart := { emptyDrive.cart with
      raw_pos := ⟨0, ⟨B_DATA, BLKHDR_FLG_ENCRYPTED, 0, 1, 1, 0, blk, 0⟩⟩ }
    pm := { emptyDrive.pm with valid_encryption_blk := check }
    app_encryption_state :=
      ⟨{ blk with ukad := fun _ => ukad }, keyedBlock_key, keyedBlock_ukad, Nat.zero_le _⟩ }

/-- The page of an encrypted block is answered by a T10000 with the unauthenticated data of the block
and not with others, and by a drive that does not ask for them. -/
theorem security_protocol_in_keyedBlock :
    SpinAnswers (keyedBlock .valid_encryption_blk_t10k 1) (spinCdb 0x21 24)
      (ssc_spin .t10000 [] (keyedBlock .valid_encryption_blk_t10k 1) (spinCdb 0x21 24) fun _ => 0) ∧
    ¬SpinAnswers (keyedBlock .valid_encryption_blk_t10k 2) (spinCdb 0x21 24)
      (ssc_spin .t10000 [] (keyedBlock .valid_encryption_blk_t10k 2) (spinCdb 0x21 24) fun _ => 0) ∧
    SpinAnswers (keyedBlock .valid_encryption_blk 2) (spinCdb 0x21 24)
      (ssc_spin .ult3580 [] (keyedBlock .valid_encryption_blk 2) (spinCdb 0x21 24) fun _ => 0) := by
  have hlegal : ∀ check ukad, LegalLengths (keyedBlock check ukad).cart.c_pos.blk_encryption_info := by
    exact fun _ _ => ⟨keyedBlock_key, keyedBlock_ukad, Nat.zero_le _⟩
  have hnext : ∀ check ukad, NextEncrypted (keyedBlock check ukad) := by
    intro check ukad
    change BLKHDR_FLG_ENCRYPTED &&& BLKHDR_FLG_ENCRYPTED ≠ 0
    decide
  have hkey : ∀ check ukad, NextKey (keyedBlock check ukad) := fun _ _ => ⟨rfl, fun _ _ => rfl⟩
  have hsize : ∀ check ukad, spinPageSize (keyedBlock check ukad) 0x21 = some 24 := by
    intro check ukad
    rw [spinPageSize, if_neg (by decide), if_neg (by decide), if_neg (by decide),
      if_neg (by decide), if_neg (by decide), if_pos ⟨rfl, rfl⟩, if_neg (hnext check ukad)]
    rfl
  refine ⟨?_, ?_, ?_⟩
  · refine (security_protocol_in_iff .t10000 [] (keyedBlock .valid_encryption_blk_t10k 1)
      (spinCdb 0x21 24) (fun _ => 0) rfl fun _ => hlegal _ _).mpr (Or.inr (Or.inr ⟨by decide,
        ⟨24, hsize _ _, by decide⟩, fun h => absurd h (by decide), fun _ _ _ => ⟨rfl, ?_⟩⟩))
    exact fun _ => ⟨rfl, fun _ _ => rfl⟩
  · rw [security_protocol_in_iff .t10000 [] (keyedBlock .valid_encryption_blk_t10k 2)
      (spinCdb 0x21 24) (fun _ => 0) rfl fun _ => hlegal _ _]
    rintro (hbig | hnone | ⟨-, -, -, huse⟩)
    · exact absurd hbig (by decide)
    · exact absurd ((hsize _ _).symm.trans hnone) (Option.some_ne_none 24)
    · have hukad := (huse (by decide) (hnext _ _) (hkey _ _)).2 KeyCheck.noConfusion
      exact absurd (hukad.2 ⟨0, by decide⟩ (by decide)) (by decide)
  · exact (security_protocol_in_iff .ult3580 [] (keyedBlock .valid_encryption_blk 2)
      (spinCdb 0x21 24) (fun _ => 0) rfl fun _ => hlegal _ _).mpr (Or.inr (Or.inr ⟨by decide,
        ⟨24, hsize _ _, by decide⟩, fun h => absurd h (by decide),
        fun _ _ _ => ⟨rfl, fun h => absurd rfl h⟩⟩))

/-- The page of the drive's state claims twelve bytes that it does not have, and a drive without a
function for the page of the algorithms does not survive the request. -/
theorem security_protocol_in_state : ¬NextEncrypted emptyDrive ∧
    ¬SpinAnswers emptyDrive (spinCdb 0x20 24)
      (ssc_spin .ult3580 [] emptyDrive (spinCdb 0x20 24) fun _ => 0) ∧
    ¬SpinAnswers emptyDrive (spinCdb 0x10 44)
      (ssc_spin .ibm_03592_E05 [] emptyDrive (spinCdb 0x10 44) fun _ => 0) := by
  refine ⟨?_, ?_, ?_⟩
  · rw [NextEncrypted]
    decide +kernel
  · have hsps : beNat (bytesAt (spinCdb 0x20 24) 2 2) = ENCR_DATA_ENCR_STATUS := by decide
    rcases @ssc_spin_cases .ult3580 [] emptyDrive (spinCdb 0x20 24) (fun _ => 0) rfl with
      ⟨hbig, -⟩ | ⟨-, z, hrun⟩
    · exact absurd hbig (by decide)
    · rw [hrun, hsps]
      exact state_not_answered hsps
  · have hsps : beNat (bytesAt (spinCdb 0x10 44) 2 2) = ENCR_CAPABILITIES := by decide
    rcases @ssc_spin_cases .ibm_03592_E05 [] emptyDrive (spinCdb 0x10 44) (fun _ => 0) rfl with
      ⟨hbig, -⟩ | ⟨-, z, hrun⟩
    · exact absurd hbig (by decide)
    · rw [hrun, hsps]
      exact unknown_not_answered rfl

end Mhvtl.Ssc
