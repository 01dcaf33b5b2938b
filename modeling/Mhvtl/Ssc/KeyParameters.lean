import Mhvtl.Ssc.Blocks
import Mhvtl.Ssc.Commands

/-!
# The key that SECURITY PROTOCOL OUT sets

What a parameter list of the set data encryption page says, what of it the command
looks at, and when the one is what the other leaves in the drive. Stores outside
the three arrays have no result in the model of the command, so that a run is told
to have one.
-/

namespace Mhvtl.Ssc

open Bytes Cart

/-- A key-associated data descriptor. -/
structure KadDescriptor where
  /-- 0 for unauthenticated data, 1 for authenticated data. -/
  kind : UInt8
  /-- The data. -/
  data : List UInt8

/-- Length of the key in a parameter list. -/
def keyLength (buf : ℕ → UInt8) : ℕ := beNat (bytesAt buf 18 2)

/-- The descriptors between two offsets of a parameter list, each of them four bytes in front of its
data. One that goes past the end is cut off there. -/
def kadDescriptors (buf : ℕ → UInt8) (stop start : ℕ) : List KadDescriptor :=
  if stop < start + 4 then [] else
  let len := beNat (bytesAt buf (start + 2) 2)
  ⟨buf start, bytesAt buf (start + 4) (min len (stop - (start + 4)))⟩ ::
    kadDescriptors buf stop (start + 4 + len)
termination_by stop - start
decreasing_by omega

/-- The first bytes of an array. -/
def usedBytes (n : UInt32) (a : Fin ENCR_KEY_MAX_LEN → UInt8) : List UInt8 :=
  (List.ofFn a).take n.toNat

/-- The key. -/
def keyBytes (e : BoundedEncryption) : List UInt8 := usedBytes e.key_length e.key

/-- The unauthenticated data that belong to it. -/
def ukadBytes (e : BoundedEncryption) : List UInt8 := usedBytes e.ukad_length e.ukad

/-- The authenticated data that belong to it. -/
def akadBytes (e : BoundedEncryption) : List UInt8 := usedBytes e.akad_length e.akad

/-- A descriptor is recorded with a key. -/
def KadDescriptor.RecordedIn (x : KadDescriptor) (e : BoundedEncryption) : Prop :=
  x.kind = 0 ∧ x.data = ukadBytes e ∨ x.kind = 1 ∧ x.data = akadBytes e

/-- Offsets of the parameter list that the command reads, in a list of `sz` bytes. The bytes of a
page that is refused are all looked at, to find the first one that is wrong. -/
def readOffsets (cdb : Cdb) (buf : ℕ → UInt8) (sz : ℕ) : List ℕ :=
  if cdb 1 ≠ TAPE_DATA_ENCRYPTION then []
  else match wrongPageByte buf with
  | some _ => [0, 1, 2, 3, 8, 9]
  | none =>
    let n := keyLength buf
    let len := beNat (bytesAt buf (22 + n) 2)
    [0, 1, 2, 3, 8, 9, 6, 7, 18, 19] ++ (List.range n).map (20 + ·) ++
      if sz ≤ 19 + n + 4 then []
      else if buf (20 + n) = 0 ∨ buf (20 + n) = 1 then
        [20 + n, 22 + n, 23 + n] ++ (List.range len).map (24 + n + ·)
      else [20 + n]

/-- What the command is to do with a parameter list of `sz` bytes. -/
structure SetsKey (d : Drive) (cdb : Cdb) (buf : ℕ → UInt8) (sz : ℕ) (d' : Drive) : Prop where
  /-- The lengths fit the arrays. -/
  lengths : d'.app_encryption_state.key_length.toNat ≤ ENCR_KEY_MAX_LEN ∧
    d'.app_encryption_state.ukad_length.toNat ≤ ENCR_KEY_MAX_LEN ∧
    d'.app_encryption_state.akad_length.toNat ≤ ENCR_KEY_MAX_LEN
  /-- No byte behind the list is read. -/
  inside : ∀ i ∈ readOffsets cdb buf sz, i < sz
  /-- A command that is refused changes nothing. -/
  refused : d'.sam_stat = SAM_STAT_CHECK_CONDITION →
    d'.ENCRYPT_MODE = d.ENCRYPT_MODE ∧ d'.DECRYPT_MODE = d.DECRYPT_MODE ∧
      keyBytes d'.app_encryption_state = keyBytes d.app_encryption_state ∧
      ukadBytes d'.app_encryption_state = ukadBytes d.app_encryption_state ∧
      akadBytes d'.app_encryption_state = akadBytes d.app_encryption_state ∧
      d'.KEY_INSTANCE_COUNTER = d.KEY_INSTANCE_COUNTER
  /-- One that is good leaves what the list says. -/
  good : d'.sam_stat = SAM_STAT_GOOD →
    d'.ENCRYPT_MODE = (buf 6).toNat ∧ d'.DECRYPT_MODE = (buf 7).toNat ∧
      keyBytes d'.app_encryption_state = bytesAt buf 20 (keyLength buf) ∧
      (∀ x ∈ kadDescriptors buf sz (20 + keyLength buf), x.RecordedIn d'.app_encryption_state) ∧
      ((∀ x ∈ kadDescriptors buf sz (20 + keyLength buf), x.kind ≠ 0) →
        ukadBytes d'.app_encryption_state = []) ∧
      ((∀ x ∈ kadDescriptors buf sz (20 + keyLength buf), x.kind ≠ 1) →
        akadBytes d'.app_encryption_state = []) ∧
      d'.KEY_INSTANCE_COUNTER = d.KEY_INSTANCE_COUNTER + 1

/-- Length of the key-associated data of a kind, of which only the first descriptor is looked at. -/
def kadLength (kind : UInt8) (buf : ℕ → UInt8) (sz : ℕ) : ℕ :=
  if 23 + keyLength buf < sz ∧ buf (20 + keyLength buf) = kind then
    beNat (bytesAt buf (22 + keyLength buf) 2)
  else 0

/-- When a set data encryption page is all that it has to be. -/
structure KeyFits (d : Drive) (buf : ℕ → UInt8) (sz : ℕ) : Prop where
  /-- The key fits its array. -/
  key_le : keyLength buf ≤ ENCR_KEY_MAX_LEN
  /-- It lies in the list. -/
  key_inside : 20 + keyLength buf ≤ sz
  /-- So do the data of the first descriptor. -/
  kad_le : kadLength 0 buf sz + kadLength 1 buf sz ≤ ENCR_KEY_MAX_LEN
  /-- They lie in the list. -/
  kad_inside : kadLength 0 buf sz + kadLength 1 buf sz ≤ sz - (24 + keyLength buf)
  /-- The personality refuses the lengths only where there is nothing to lose. -/
  refused : d.pm.kad_validation (buf 6).toNat (kadLength 0 buf sz) (kadLength 1 buf sz) = true →
    d.ENCRYPT_MODE = 0 ∧ d.DECRYPT_MODE = (buf 7).toNat ∧ d.app_encryption_state.key_length = 0 ∧
      d.app_encryption_state.ukad_length = 0 ∧ d.app_encryption_state.akad_length = 0
  /-- What it accepts has one descriptor, or others that say the same. -/
  accepted : d.pm.kad_validation (buf 6).toNat (kadLength 0 buf sz) (kadLength 1 buf sz) = false →
    ∀ x ∈ kadDescriptors buf sz (20 + keyLength buf), (x.kind = 0 ∨ x.kind = 1) ∧
      x.data = bytesAt buf (24 + keyLength buf) (kadLength x.kind buf sz)

/-- When SECURITY PROTOCOL OUT does what it is to do. -/
def SpoutFits (d : Drive) (cdb : Cdb) (buf : ℕ → UInt8) (sz : ℕ) : Prop :=
  cdb 1 = TAPE_DATA_ENCRYPTION → 10 ≤ sz ∧ (wrongPageByte buf = none → KeyFits d buf sz)

section Lists

variable {buf : ℕ → UInt8} {cdb : Cdb} {sz : ℕ}

/-- The bytes in use of an array that was stored to. -/
theorem usedBytes_overFront {n : ℕ} (h : n ≤ ENCR_KEY_MAX_LEN) (src : ℕ → UInt8)
    (a : Fin ENCR_KEY_MAX_LEN → UInt8) :
    usedBytes (UInt32.ofNat n) (overFront n src a) = (List.range n).map src := by
  have hn : (UInt32.ofNat n).toNat = n := UInt32.toNat_ofNat_of_lt' (lt_of_le_of_lt h (by decide))
  rw [usedBytes, hn]
  apply List.ext_getElem?
  intro j
  by_cases hj : j < n
  · have hmax : j < ENCR_KEY_MAX_LEN := lt_of_lt_of_le hj h
    rw [List.getElem?_take_of_lt hj, List.getElem?_map, List.getElem?_range hj, List.getElem?_ofFn,
      dif_pos hmax]
    exact congrArg some (if_pos hj)
  · rw [List.getElem?_eq_none, List.getElem?_eq_none]
    · rw [List.length_map, List.length_range]
      omega
    · rw [List.length_take]
      omega

/-- Nothing of an array is used without a length. -/
theorem usedBytes_zero (a : Fin ENCR_KEY_MAX_LEN → UInt8) : usedBytes 0 a = [] := rfl

/-- The length in use is seen from the bytes. -/
theorem usedBytes_eq_nil {n : UInt32} {a : Fin ENCR_KEY_MAX_LEN → UInt8}
    (h : n.toNat ≤ ENCR_KEY_MAX_LEN) : usedBytes n a = [] ↔ n = 0 := by
  constructor
  · intro hnil
    have hlen := congrArg List.length hnil
    rw [usedBytes, List.length_take, List.length_ofFn, List.length_nil, Nat.min_eq_left h] at hlen
    exact UInt32.toNat_inj.mp hlen
  · rintro rfl
    rfl

/-- The first descriptor. -/
theorem kadDescriptors_cons {stop start : ℕ} (h : start + 4 ≤ stop) :
    ∃ rest, kadDescriptors buf stop start =
      ⟨buf start, bytesAt buf (start + 4) (min (beNat (bytesAt buf (start + 2) 2))
        (stop - (start + 4)))⟩ :: rest := by
  refine ⟨kadDescriptors buf stop (start + 4 + beNat (bytesAt buf (start + 2) 2)), ?_⟩
  rw [kadDescriptors, if_neg (by omega)]

/-- Offsets that end in front of `a`, and `n` more from there on, are inside up to the last one. -/
theorem offsets_inside {xs : List ℕ} {a n : ℕ} (hlast : a - 1 ∈ xs) (hbelow : ∀ i ∈ xs, i < a) :
    (∀ i ∈ xs ++ (List.range n).map (a + ·), i < sz) ↔ a + n ≤ sz := by
  constructor
  · intro hall
    by_cases hz : n = 0
    · have hin := hall (a - 1) (List.mem_append_left _ hlast)
      omega
    · have hin := hall (a + (n - 1)) (List.mem_append_right _
        (List.mem_map_of_mem (List.mem_range.mpr (by omega))))
      omega
  · intro hle i hi
    rcases List.mem_append.mp hi with hi | hi
    · have := hbelow i hi
      omega
    · obtain ⟨k, hk, rfl⟩ := List.mem_map.mp hi
      have := List.mem_range.mp hk
      omega

/-- Where the page is right the bytes that are read are those of the key and of the first
descriptor. -/
theorem readOffsets_inside (hcdb : cdb 1 = TAPE_DATA_ENCRYPTION) (hpage : wrongPageByte buf = none) :
    (∀ i ∈ readOffsets cdb buf sz, i < sz) ↔ 20 + keyLength buf ≤ sz ∧
      kadLength 0 buf sz + kadLength 1 buf sz ≤ sz - (24 + keyLength buf) := by
  have hlist : readOffsets cdb buf sz =
      [0, 1, 2, 3, 8, 9, 6, 7, 18, 19] ++ (List.range (keyLength buf)).map (20 + ·) ++
        if sz ≤ 19 + keyLength buf + 4 then []
        else if buf (20 + keyLength buf) = 0 ∨ buf (20 + keyLength buf) = 1 then
          [20 + keyLength buf, 22 + keyLength buf, 23 + keyLength buf] ++
            (List.range (beNat (bytesAt buf (22 + keyLength buf) 2))).map (24 + keyLength buf + ·)
        else [20 + keyLength buf] := by
    unfold readOffsets
    rw [if_neg (not_not.mpr hcdb), hpage]
  have hkey : (∀ i ∈ [0, 1, 2, 3, 8, 9, 6, 7, 18, 19] ++ (List.range (keyLength buf)).map (20 + ·),
      i < sz) ↔ 20 + keyLength buf ≤ sz := offsets_inside (by decide) (by decide)
  rw [hlist]
  simp only [List.forall_mem_append]
  rw [← List.forall_mem_append, hkey]
  apply and_congr_right
  intro hle
  generalize hlen : beNat (bytesAt buf (22 + keyLength buf) 2) = len
  have hdata : (∀ i ∈ [20 + keyLength buf, 22 + keyLength buf, 23 + keyLength buf] ++
      (List.range len).map (24 + keyLength buf + ·), i < sz) ↔
      24 + keyLength buf + len ≤ sz := by
    refine offsets_inside ?_ fun i hi => ?_
    · rw [show 24 + keyLength buf - 1 = 23 + keyLength buf by omega]
      simp
    · simp only [List.mem_cons, List.not_mem_nil, or_false] at hi
      omega
  unfold kadLength
  rw [hlen]
  by_cases hshort : sz ≤ 19 + keyLength buf + 4
  · rw [if_pos hshort, if_neg (by omega), if_neg (by omega)]
    exact iff_of_true (fun i hi => absurd hi List.not_mem_nil) (Nat.zero_le _)
  rw [if_neg hshort]
  have hlong : 23 + keyLength buf < sz := by omega
  simp only [hlong, true_and]
  have hdiffer : ¬(0 : UInt8) = 1 := by decide
  have hdiffer' : ¬(1 : UInt8) = 0 := by decide
  by_cases hzero : buf (20 + keyLength buf) = 0
  · rw [if_pos (Or.inl hzero), hdata, hzero, if_pos rfl, if_neg hdiffer]
    omega
  by_cases hone : buf (20 + keyLength buf) = 1
  · rw [if_pos (Or.inr hone), hdata, hone, if_neg hdiffer', if_pos rfl]
    omega
  rw [if_neg (not_or.mpr ⟨hzero, hone⟩), if_neg hzero, if_neg hone]
  refine iff_of_true (fun i hi => ?_) (Nat.zero_le _)
  rw [List.mem_singleton.mp hi]
  omega

/-- A key that fits its array. -/
theorem putKey_fits (e : BoundedEncryption) {n : ℕ} (h : n ≤ ENCR_KEY_MAX_LEN) (src : ℕ → UInt8) :
    ∃ k, putKey e n src = some k ∧ keyBytes k = (List.range n).map src ∧ k.ukad_length = 0 ∧
      k.akad_length = 0 :=
  ⟨_, dif_pos h, usedBytes_overFront h src e.key, rfl, rfl⟩

/-- Unauthenticated data that fit theirs. -/
theorem putUkad_fits (e : BoundedEncryption) {n : ℕ} (h : n ≤ ENCR_KEY_MAX_LEN) (src : ℕ → UInt8) :
    ∃ k, putUkad e n src = some k ∧ keyBytes k = keyBytes e ∧ k.ukad_length.toNat = n ∧
      ukadBytes k = (List.range n).map src ∧ k.akad_length = e.akad_length ∧
      akadBytes k = akadBytes e :=
  ⟨_, dif_pos h, rfl, UInt32.toNat_ofNat_of_lt' (lt_of_le_of_lt h (by decide)),
    usedBytes_overFront h src e.ukad, rfl, rfl⟩

/-- Authenticated data that fit theirs. -/
theorem putAkad_fits (e : BoundedEncryption) {n : ℕ} (h : n ≤ ENCR_KEY_MAX_LEN) (src : ℕ → UInt8) :
    ∃ k, putAkad e n src = some k ∧ keyBytes k = keyBytes e ∧ k.akad_length.toNat = n ∧
      akadBytes k = (List.range n).map src ∧ k.ukad_length = e.ukad_length ∧
      ukadBytes k = ukadBytes e :=
  ⟨_, dif_pos h, rfl, UInt32.toNat_ofNat_of_lt' (lt_of_le_of_lt h (by decide)),
    usedBytes_overFront h src e.akad, rfl, rfl⟩

/-- A key that was received is that of the list, with the data of the first descriptor. -/
structure Received (buf : ℕ → UInt8) (sz : ℕ) (e : BoundedEncryption) : Prop where
  /-- The key. -/
  key : keyBytes e = bytesAt buf 20 (keyLength buf)
  /-- Length of the unauthenticated data. -/
  ukad_length : e.ukad_length.toNat = kadLength 0 buf sz
  /-- Length of the authenticated data. -/
  akad_length : e.akad_length.toNat = kadLength 1 buf sz
  /-- The unauthenticated data. -/
  ukad : ukadBytes e = bytesAt buf (24 + keyLength buf) (kadLength 0 buf sz)
  /-- The authenticated data. -/
  akad : akadBytes e = bytesAt buf (24 + keyLength buf) (kadLength 1 buf sz)

/-- Without a length no data are used. -/
theorem ukadBytes_none {e : BoundedEncryption} (h : e.ukad_length = 0) : ukadBytes e = [] := by
  rw [ukadBytes, h, usedBytes_zero]

/-- The same of authenticated data. -/
theorem akadBytes_none {e : BoundedEncryption} (h : e.akad_length = 0) : akadBytes e = [] := by
  rw [akadBytes, h, usedBytes_zero]

/-- What follows a key that fits: the first descriptor, when there is one. -/
theorem receivedKey_after {e k : BoundedEncryption}
    (h : putKey e (keyLength buf) (fun i => buf (20 + i)) = some k) :
    receivedKey e buf sz =
      if sz ≤ 19 + keyLength buf + 4 then some k
      else if buf (20 + keyLength buf) = 0 then
        putUkad k (beNat (bytesAt buf (22 + keyLength buf) 2)) fun i => buf (24 + keyLength buf + i)
      else if buf (20 + keyLength buf) = 1 then
        putAkad k (beNat (bytesAt buf (22 + keyLength buf) 2)) fun i => buf (24 + keyLength buf + i)
      else some k := by
  unfold keyLength at h
  unfold receivedKey
  dsimp only
  rw [h]
  rfl

/-- A list whose lengths fit leaves its key. -/
theorem receivedKey_fits (e : BoundedEncryption) (hkey : keyLength buf ≤ ENCR_KEY_MAX_LEN)
    (hkad : kadLength 0 buf sz + kadLength 1 buf sz ≤ ENCR_KEY_MAX_LEN) :
    ∃ k, receivedKey e buf sz = some k ∧ Received buf sz k := by
  obtain ⟨k, hput, hbytes, hu, ha⟩ := putKey_fits e hkey fun i => buf (20 + i)
  have hdiffer : ¬(0 : UInt8) = 1 := by decide
  have hdiffer' : ¬(1 : UInt8) = 0 := by decide
  rw [receivedKey_after hput]
  have hlens : ∀ kind, kadLength kind buf sz =
      if 23 + keyLength buf < sz ∧ buf (20 + keyLength buf) = kind then
        beNat (bytesAt buf (22 + keyLength buf) 2) else 0 := fun _ => rfl
  have hplain : kadLength 0 buf sz = 0 → kadLength 1 buf sz = 0 → Received buf sz k := by
    intro h0 h1
    refine ⟨hbytes, ?_, ?_, ?_, ?_⟩
    · rw [h0, hu]
      rfl
    · rw [h1, ha]
      rfl
    · rw [h0, ukadBytes_none hu]
      rfl
    · rw [h1, akadBytes_none ha]
      rfl
  by_cases hshort : sz ≤ 19 + keyLength buf + 4
  · rw [if_pos hshort]
    refine ⟨k, rfl, hplain ?_ ?_⟩
    · rw [hlens, if_neg (by omega)]
    · rw [hlens, if_neg (by omega)]
  rw [if_neg hshort]
  have hlong : 23 + keyLength buf < sz := by omega
  simp only [hlong, true_and] at hlens
  by_cases hzero : buf (20 + keyLength buf) = 0
  · have h0 := hlens 0
    have h1 := hlens 1
    rw [if_pos hzero] at h0
    rw [hzero, if_neg hdiffer] at h1
    rw [if_pos hzero]
    obtain ⟨k', hrun, hk, hlen, hdata, hother, hnone⟩ := putUkad_fits k
      (n := beNat (bytesAt buf (22 + keyLength buf) 2)) (by omega)
      fun i => buf (24 + keyLength buf + i)
    refine ⟨k', hrun, hk.trans hbytes, hlen.trans h0.symm, ?_, ?_, ?_⟩
    · rw [hother, ha, h1]
      rfl
    · rw [hdata, h0]
      rfl
    · rw [hnone, akadBytes_none ha, h1]
      rfl
  rw [if_neg hzero]
  by_cases hone : buf (20 + keyLength buf) = 1
  · have h0 := hlens 0
    have h1 := hlens 1
    rw [if_neg hzero] at h0
    rw [if_pos hone] at h1
    rw [if_pos hone]
    obtain ⟨k', hrun, hk, hlen, hdata, hother, hnone⟩ := putAkad_fits k
      (n := beNat (bytesAt buf (22 + keyLength buf) 2)) (by omega)
      fun i => buf (24 + keyLength buf + i)
    refine ⟨k', hrun, hk.trans hbytes, ?_, hlen.trans h1.symm, ?_, ?_⟩
    · rw [hother, hu, h0]
      rfl
    · rw [hnone, ukadBytes_none hu, h0]
      rfl
    · rw [hdata, h1]
      rfl
  · rw [if_neg hone]
    refine ⟨k, rfl, hplain ?_ ?_⟩
    · rw [hlens, if_neg hzero]
    · rw [hlens, if_neg hone]

/-- A list that leaves a key has lengths that fit. -/
theorem receivedKey_some {e k : BoundedEncryption} (h : receivedKey e buf sz = some k) :
    keyLength buf ≤ ENCR_KEY_MAX_LEN ∧
      kadLength 0 buf sz + kadLength 1 buf sz ≤ ENCR_KEY_MAX_LEN := by
  have hdiffer : ¬(0 : UInt8) = 1 := by decide
  have hdiffer' : ¬(1 : UInt8) = 0 := by decide
  have hkey : keyLength buf ≤ ENCR_KEY_MAX_LEN := by
    by_contra hlong
    have hput : putKey e (beNat (bytesAt buf 18 2)) (fun i => buf (20 + i)) = none := dif_neg hlong
    unfold receivedKey at h
    dsimp only at h
    rw [hput] at h
    cases h
  refine ⟨hkey, ?_⟩
  obtain ⟨k', hput, -, -, -⟩ := putKey_fits e hkey fun i => buf (20 + i)
  rw [receivedKey_after hput] at h
  unfold kadLength
  by_cases hshort : sz ≤ 19 + keyLength buf + 4
  · rw [if_neg (by omega), if_neg (by omega)]
    exact Nat.zero_le _
  rw [if_neg hshort] at h
  have hlong : 23 + keyLength buf < sz := by omega
  simp only [hlong, true_and]
  by_cases hzero : buf (20 + keyLength buf) = 0
  · rw [hzero, if_pos rfl, if_neg hdiffer, Nat.add_zero]
    rw [if_pos hzero] at h
    by_contra hbig
    have hnone : putUkad k' (beNat (bytesAt buf (22 + keyLength buf) 2))
        (fun i => buf (24 + keyLength buf + i)) = none := dif_neg hbig
    rw [hnone] at h
    cases h
  rw [if_neg hzero] at h
  by_cases hone : buf (20 + keyLength buf) = 1
  · rw [hone, if_neg hdiffer', if_pos rfl, Nat.zero_add]
    rw [if_pos hone] at h
    by_contra hbig
    have hnone : putAkad k' (beNat (bytesAt buf (22 + keyLength buf) 2))
        (fun i => buf (24 + keyLength buf + i)) = none := dif_neg hbig
    rw [hnone] at h
    cases h
  · rw [if_neg hzero, if_neg hone]
    exact Nat.zero_le _

end Lists

/-- Length of the parameter list by the command. -/
def listLength (cdb : Cdb) : ℕ :=
  beNat (bytesAt cdb 6 4) * (if cdb 4 &&& 0x80 ≠ 0 then 512 else 1) % 2 ^ 32

section Runs

variable {upd : List ModePage → ℕ → List ModePage} {d : Drive} {cdb : Cdb} {buf : ℕ → UInt8} {sz : ℕ}

/-- A command that is refused at its page, or that has another protocol. -/
theorem setsKey_refused {s : Status} (hs : s.sam_stat = SAM_STAT_CHECK_CONDITION) :
    SetsKey d cdb buf sz (d.declare_ssc_vars.report s) ↔ ∀ i ∈ readOffsets cdb buf sz, i < sz := by
  constructor
  · exact fun h => h.inside
  · intro hin
    refine ⟨⟨d.app_encryption_state.key_le, d.app_encryption_state.ukad_le,
      d.app_encryption_state.akad_le⟩, hin, fun _ => ⟨rfl, rfl, rfl, rfl, rfl, rfl⟩, fun hgood => ?_⟩
    have hne : SAM_STAT_CHECK_CONDITION = SAM_STAT_GOOD := hs.symm.trans hgood
    exact absurd hne (by decide)

/-- A list that the personality refuses leaves no lengths, and the mode of the list. -/
theorem setsKey_invalid {k : BoundedEncryption}
    (hin : ∀ i ∈ readOffsets cdb buf sz, i < sz) :
    SetsKey d cdb buf sz
        ({ d.declare_ssc_vars with
          DECRYPT_MODE := (buf 7).toNat
          ENCRYPT_MODE := 0
          app_encryption_state := withoutLengths k }.report
            (sam_illegal_request E_INVALID_FIELD_IN_CDB none)) ↔
      d.ENCRYPT_MODE = 0 ∧ d.DECRYPT_MODE = (buf 7).toNat ∧ d.app_encryption_state.key_length = 0 ∧
        d.app_encryption_state.ukad_length = 0 ∧ d.app_encryption_state.akad_length = 0 := by
  constructor
  · intro h
    obtain ⟨henc, hdec, hkey, hu, ha, -⟩ := h.refused rfl
    exact ⟨henc.symm, hdec.symm, (usedBytes_eq_nil d.app_encryption_state.key_le).mp hkey.symm,
      (usedBytes_eq_nil d.app_encryption_state.ukad_le).mp hu.symm,
      (usedBytes_eq_nil d.app_encryption_state.akad_le).mp ha.symm⟩
  · rintro ⟨henc, hdec, hkey, hu, ha⟩
    refine ⟨⟨Nat.zero_le _, Nat.zero_le _, Nat.zero_le _⟩, hin, fun _ => ?_, fun hgood => ?_⟩
    · refine ⟨henc.symm, hdec.symm, ?_, ?_, ?_, rfl⟩
      · exact ((usedBytes_eq_nil d.app_encryption_state.key_le).mpr hkey).symm
      · exact ((usedBytes_eq_nil d.app_encryption_state.ukad_le).mpr hu).symm
      · exact ((usedBytes_eq_nil d.app_encryption_state.akad_le).mpr ha).symm
    · have hne : SAM_STAT_CHECK_CONDITION = SAM_STAT_GOOD := hgood
      exact absurd hne (by decide)

/-- A descriptor is recorded when it says what the first one says. -/
theorem Received.recordedIn {k : BoundedEncryption} (h : Received buf sz k) (x : KadDescriptor) :
    x.RecordedIn k ↔ (x.kind = 0 ∨ x.kind = 1) ∧
      x.data = bytesAt buf (24 + keyLength buf) (kadLength x.kind buf sz) := by
  unfold KadDescriptor.RecordedIn
  rw [h.ukad, h.akad]
  constructor
  · rintro (⟨hkind, hdata⟩ | ⟨hkind, hdata⟩)
    · rw [hkind]
      exact ⟨Or.inl rfl, hdata⟩
    · rw [hkind]
      exact ⟨Or.inr rfl, hdata⟩
  · rintro ⟨hkind | hkind, hdata⟩
    · rw [hkind] at hdata
      exact Or.inl ⟨hkind, hdata⟩
    · rw [hkind] at hdata
      exact Or.inr ⟨hkind, hdata⟩

/-- Without a descriptor of a kind there is no length of it. -/
theorem kadLength_none {kind : UInt8}
    (h : ∀ x ∈ kadDescriptors buf sz (20 + keyLength buf), x.kind ≠ kind) :
    kadLength kind buf sz = 0 := by
  apply if_neg
  rintro ⟨hlong, hkind⟩
  have hroom : 20 + keyLength buf + 4 ≤ sz := by omega
  obtain ⟨rest, hcons⟩ := @kadDescriptors_cons buf _ _ hroom
  rw [hcons] at h
  exact h _ List.mem_cons_self hkind

/-- A list that is accepted leaves its modes, its key and the data of its first descriptor. -/
theorem setsKey_accepted {k : BoundedEncryption} (hk : Received buf sz k)
    (hin : ∀ i ∈ readOffsets cdb buf sz, i < sz) :
    SetsKey d cdb buf sz
        ({ d.declare_ssc_vars with
          DECRYPT_MODE := (buf 7).toNat
          KEY_INSTANCE_COUNTER := d.KEY_INSTANCE_COUNTER + 1
          ENCRYPT_MODE := (buf 6).toNat
          app_encryption_state := k
          mode_pg := upd d.mode_pg (buf 6).toNat }.returns SAM_STAT_GOOD) ↔
      ∀ x ∈ kadDescriptors buf sz (20 + keyLength buf), (x.kind = 0 ∨ x.kind = 1) ∧
        x.data = bytesAt buf (24 + keyLength buf) (kadLength x.kind buf sz) := by
  constructor
  · intro h x hx
    obtain ⟨-, -, -, hrec, -⟩ := h.good rfl
    exact (hk.recordedIn x).mp (hrec x hx)
  · intro hall
    refine ⟨⟨k.key_le, k.ukad_le, k.akad_le⟩, hin, fun hcheck => ?_, fun _ => ?_⟩
    · have hne : SAM_STAT_GOOD = SAM_STAT_CHECK_CONDITION := hcheck
      exact absurd hne (by decide)
    · refine ⟨rfl, rfl, hk.key, fun x hx => (hk.recordedIn x).mpr (hall x hx), ?_, ?_, rfl⟩
      · intro hnone
        change ukadBytes k = []
        rw [hk.ukad, kadLength_none hnone]
        rfl
      · intro hnone
        change akadBytes k = []
        rw [hk.akad, kadLength_none hnone]
        rfl

variable {k : BoundedEncryption}

/-- The run that ends with a refusal of the personality. -/
theorem resp_spout_invalid (upd : List ModePage → ℕ → List ModePage)
    (hcdb : cdb 1 = TAPE_DATA_ENCRYPTION) (hpage : wrongPageByte buf = none)
    (hreceived : receivedKey d.app_encryption_state buf sz = some k) (hk : Received buf sz k)
    (hvalid : d.pm.kad_validation (buf 6).toNat (kadLength 0 buf sz) (kadLength 1 buf sz) = true) :
    resp_spout upd d.declare_ssc_vars cdb buf sz = some
      ({ d.declare_ssc_vars with
        DECRYPT_MODE := (buf 7).toNat
        ENCRYPT_MODE := 0
        app_encryption_state := withoutLengths k }.report
          (sam_illegal_request E_INVALID_FIELD_IN_CDB none)) := by
  have hdeclared : receivedKey d.declare_ssc_vars.app_encryption_state buf sz = some k := hreceived
  rw [← hk.ukad_length, ← hk.akad_length] at hvalid
  unfold resp_spout
  rw [if_neg (not_not.mpr hcdb), hpage]
  dsimp only
  rw [hdeclared]
  exact if_pos hvalid

/-- The run of a list that is accepted. -/
theorem resp_spout_accepted (upd : List ModePage → ℕ → List ModePage)
    (hcdb : cdb 1 = TAPE_DATA_ENCRYPTION) (hpage : wrongPageByte buf = none)
    (hreceived : receivedKey d.app_encryption_state buf sz = some k) (hk : Received buf sz k)
    (hvalid : d.pm.kad_validation (buf 6).toNat (kadLength 0 buf sz) (kadLength 1 buf sz) = false) :
    resp_spout upd d.declare_ssc_vars cdb buf sz = some
      ({ d.declare_ssc_vars with
        DECRYPT_MODE := (buf 7).toNat
        KEY_INSTANCE_COUNTER := d.KEY_INSTANCE_COUNTER + 1
        ENCRYPT_MODE := (buf 6).toNat
        app_encryption_state := k
        mode_pg := upd d.mode_pg (buf 6).toNat }.returns SAM_STAT_GOOD) := by
  have hdeclared : receivedKey d.declare_ssc_vars.app_encryption_state buf sz = some k := hreceived
  rw [← hk.ukad_length, ← hk.akad_length] at hvalid
  unfold resp_spout
  rw [if_neg (not_not.mpr hcdb), hpage]
  dsimp only
  rw [hdeclared]
  exact if_neg fun hyes => Bool.false_ne_true (hvalid.symm.trans hyes)

/-- A page that is refused at one of its first bytes. -/
theorem setsKey_page (upd : List ModePage → ℕ → List ModePage) (hcdb : cdb 1 = TAPE_DATA_ENCRYPTION)
    {field_pointer : ℕ} (hpage : wrongPageByte buf = some field_pointer) :
    ∃ d', resp_spout upd d.declare_ssc_vars cdb buf sz = some d' ∧
      (SetsKey d cdb buf sz d' ↔ 10 ≤ sz) := by
  have hrun : resp_spout upd d.declare_ssc_vars cdb buf sz = some (d.declare_ssc_vars.report
      (sam_illegal_request E_INVALID_FIELD_IN_PARMS (some ⟨SKSV, field_pointer⟩))) := by
    unfold resp_spout
    rw [if_neg (not_not.mpr hcdb), hpage]
  have hlist : readOffsets cdb buf sz = [0, 1, 2, 3, 8, 9] := by
    unfold readOffsets
    rw [if_neg (not_not.mpr hcdb), hpage]
  refine ⟨_, hrun, (setsKey_refused rfl).trans ?_⟩
  rw [hlist]
  constructor
  · intro hall
    exact hall 9 (by simp)
  · intro hten i hi
    simp only [List.mem_cons, List.not_mem_nil, or_false] at hi
    omega

/-- A page that is not, and whose lengths fit their arrays. -/
theorem setsKey_lengths (upd : List ModePage → ℕ → List ModePage)
    (hcdb : cdb 1 = TAPE_DATA_ENCRYPTION) (hpage : wrongPageByte buf = none)
    (hkey : keyLength buf ≤ ENCR_KEY_MAX_LEN)
    (hkad : kadLength 0 buf sz + kadLength 1 buf sz ≤ ENCR_KEY_MAX_LEN) :
    ∃ d', resp_spout upd d.declare_ssc_vars cdb buf sz = some d' ∧
      (SetsKey d cdb buf sz d' ↔ 10 ≤ sz ∧ KeyFits d buf sz) := by
  obtain ⟨k, hreceived, hk⟩ := receivedKey_fits d.app_encryption_state hkey hkad
  have hall : ∀ d' : Drive, SetsKey d cdb buf sz d' → 10 ≤ sz ∧ 20 + keyLength buf ≤ sz ∧
      kadLength 0 buf sz + kadLength 1 buf sz ≤ sz - (24 + keyLength buf) := by
    intro d' h
    have hin := (readOffsets_inside hcdb hpage).mp h.inside
    exact ⟨by omega, hin⟩
  cases hvalid : d.pm.kad_validation (buf 6).toNat (kadLength 0 buf sz) (kadLength 1 buf sz) with
  | true =>
    refine ⟨_, resp_spout_invalid upd hcdb hpage hreceived hk hvalid, ?_, ?_⟩
    · intro h
      obtain ⟨hten, hin⟩ := hall _ h
      refine ⟨hten, hkey, hin.1, hkad, hin.2, fun _ => ?_, fun hno => ?_⟩
      · exact (setsKey_invalid h.inside).mp h
      · rw [hvalid] at hno
        cases hno
    · rintro ⟨-, h⟩
      have hin := (readOffsets_inside hcdb hpage).mpr ⟨h.key_inside, h.kad_inside⟩
      exact (setsKey_invalid hin).mpr (h.refused hvalid)
  | false =>
    refine ⟨_, resp_spout_accepted upd hcdb hpage hreceived hk hvalid, ?_, ?_⟩
    · intro h
      obtain ⟨hten, hin⟩ := hall _ h
      refine ⟨hten, hkey, hin.1, hkad, hin.2, fun hyes => ?_, fun _ => ?_⟩
      · rw [hvalid] at hyes
        cases hyes
      · exact (setsKey_accepted hk h.inside).mp h
    · rintro ⟨-, h⟩
      have hin := (readOffsets_inside hcdb hpage).mpr ⟨h.key_inside, h.kad_inside⟩
      exact (setsKey_accepted hk hin).mpr (h.accepted hvalid)

/-- One with a length that does not fit overruns its array. -/
theorem resp_spout_overruns (upd : List ModePage → ℕ → List ModePage)
    (hcdb : cdb 1 = TAPE_DATA_ENCRYPTION) (hpage : wrongPageByte buf = none)
    (h : ¬(keyLength buf ≤ ENCR_KEY_MAX_LEN ∧
      kadLength 0 buf sz + kadLength 1 buf sz ≤ ENCR_KEY_MAX_LEN)) :
    resp_spout upd d.declare_ssc_vars cdb buf sz = none := by
  have hnone : receivedKey d.declare_ssc_vars.app_encryption_state buf sz = none := by
    rw [Option.eq_none_iff_forall_ne_some]
    intro k hreceived
    exact h (receivedKey_some hreceived)
  unfold resp_spout
  rw [if_neg (not_not.mpr hcdb), hpage]
  dsimp only
  rw [hnone]

/-- Another protocol is refused without a look at its list. -/
theorem setsKey_protocol (upd : List ModePage → ℕ → List ModePage)
    (hcdb : cdb 1 ≠ TAPE_DATA_ENCRYPTION) :
    ∃ d', resp_spout upd d.declare_ssc_vars cdb buf sz = some d' ∧ SetsKey d cdb buf sz d' := by
  have hrun : resp_spout upd d.declare_ssc_vars cdb buf sz = some (d.declare_ssc_vars.report
      (sam_illegal_request E_INVALID_FIELD_IN_CDB (some ⟨SKSV ||| CD, 1⟩))) := by
    unfold resp_spout
    rw [if_pos hcdb]
  refine ⟨_, hrun, (setsKey_refused rfl).mpr fun i hi => ?_⟩
  have hnil : readOffsets cdb buf sz = [] := if_pos hcdb
  rw [hnil] at hi
  exact absurd hi List.not_mem_nil

end Runs

/-- SECURITY PROTOCOL OUT does what it is to do exactly when its list holds what its lengths say,
the personality has nothing to refuse or there is nothing to lose, and there is at most one
descriptor that says something. -/
theorem spout_sets_key_iff (upd : List ModePage → ℕ → List ModePage) (d : Drive) (cdb : Cdb)
    (buf : ℕ → UInt8) :
    (∃ d', ssc_spout upd d cdb buf = some d' ∧ SetsKey d cdb buf (listLength cdb) d') ↔
      SpoutFits d cdb buf (listLength cdb) := by
  change (∃ d', resp_spout upd d.declare_ssc_vars cdb buf (listLength cdb) = some d' ∧ _) ↔ _
  generalize listLength cdb = sz
  unfold SpoutFits
  by_cases hcdb : cdb 1 = TAPE_DATA_ENCRYPTION
  · rw [imp_iff_right hcdb]
    cases hpage : wrongPageByte buf with
    | some field_pointer =>
      obtain ⟨d', hrun, hiff⟩ := @setsKey_page d cdb buf sz upd hcdb _ hpage
      simp only [hrun, Option.some.injEq, exists_eq_left']
      refine hiff.trans (and_iff_left fun hno => ?_).symm
      exact absurd hno (Option.some_ne_none _)
    | none =>
      rw [imp_iff_right rfl]
      by_cases hfits : keyLength buf ≤ ENCR_KEY_MAX_LEN ∧
          kadLength 0 buf sz + kadLength 1 buf sz ≤ ENCR_KEY_MAX_LEN
      · obtain ⟨d', hrun, hiff⟩ := @setsKey_lengths d cdb buf sz upd hcdb hpage hfits.1 hfits.2
        simp only [hrun, Option.some.injEq, exists_eq_left']
        exact hiff
      · refine iff_of_false ?_ fun h => hfits ⟨h.2.key_le, h.2.kad_le⟩
        rintro ⟨d', hrun, -⟩
        rw [resp_spout_overruns upd hcdb hpage hfits] at hrun
        cases hrun
  · exact iff_of_true (setsKey_protocol upd hcdb) fun h => absurd h hcdb

/-- SECURITY PROTOCOL OUT with 53 bytes of tape data encryption. -/
def longKeyCdb : Cdb
  | 1 => TAPE_DATA_ENCRYPTION
  | 9 => 53
  | _ => 0

/-- A set data encryption page whose key takes 33 bytes. -/
def longKeyList : ℕ → UInt8
  | 1 => 0x10
  | 3 => 49
  | 8 => 1
  | 19 => 33
  | _ => 0

/-- Its last byte is stored behind the array. -/
theorem long_key_overruns : ¬∀ (upd : List ModePage → ℕ → List ModePage) (d : Drive) (cdb : Cdb)
    (buf : ℕ → UInt8), ∃ d', ssc_spout upd d cdb buf = some d' ∧
      SetsKey d cdb buf (listLength cdb) d' := by
  intro hall
  obtain ⟨d', hrun, -⟩ := hall (fun l _ => l) emptyDrive longKeyCdb longKeyList
  have hnone : (ssc_spout (fun l _ => l) emptyDrive longKeyCdb longKeyList).isSome = false := by
    decide +kernel
  rw [hrun] at hnone
  cases hnone

end Mhvtl.Ssc
