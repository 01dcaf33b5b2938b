import Mathlib.Data.List.Induction
import Mathlib.Data.List.Nodup
import Mathlib.Data.List.OfFn
import Mhvtl.Mam.Attributes

/-!
# Reading back what was written

The attribute files are rewritten in place and never cut, so a reader goes on behind
the new attributes with what an older, longer file left there. Reading is a fold
over the stored attributes. What is left over does no harm when no attribute that
is known, with a value, can be read from it.
-/

namespace Mhvtl

open Bytes

/-- An attribute as it is stored, with an identifier and a length of two bytes. -/
structure StoredAttr where
  /-- Attribute identifier. -/
  attribute_id : ℕ
  /-- Value. -/
  value : List UInt8
  /-- The identifier fits its bytes. -/
  id_fits : attribute_id < 256 ^ 2
  /-- The length of the value fits its bytes. -/
  length_fits : value.length < 256 ^ 2

/-- Identifier, length, value. -/
def StoredAttr.pack (a : StoredAttr) : List UInt8 :=
  leBytes 2 a.attribute_id ++ leBytes 2 a.value.length ++ a.value

/-- Attributes one after the other. -/
def packAttributes (l : List StoredAttr) : List UInt8 := l.flatMap StoredAttr.pack

/-- The table entry of an identifier, the first one if there were two. -/
def lookup (table : List MamAttr) (attribute_id : ℕ) : Option MamAttr :=
  table.find? fun a => a.attribute_id == attribute_id

/-- Take over what fits of a stored attribute. -/
def Mam.accept (table : List MamAttr) (m : Mam) (s : StoredAttr) : Mam :=
  ((lookup table s.attribute_id).map fun a => m.put a.field (s.value.take a.field.length)).getD m

/-- The two versions fit their fields. -/
def Mam.Fits (m : Mam) : Prop := m.tape_fmt_version < 256 ^ 4 ∧ m.mam_fmt_version < 256 ^ 4

/-- `write_mam` over the old contents of the two files. -/
def write_mam (m : Mam) (mamOld mhvtlOld : List UInt8) : List UInt8 × List UInt8 :=
  (overwriteFront (mamImage m) mamOld, overwriteFront (mhvtlImage m) mhvtlOld)

/-- Two bytes, the low one first. -/
theorem leBytes_two (n : ℕ) : leBytes 2 n = [UInt8.ofNat n, UInt8.ofNat (n / 256)] := rfl

/-- A copy of nothing changes nothing. -/
@[simp] theorem Mam.put_nil (m : Mam) (f : MamField) : m.put f [] = m := by
  obtain ⟨t, v, val⟩ := m
  simp only [put, Mam.mk.injEq, true_and]
  funext g i
  simp

/-- Reading one stored attribute. -/
theorem readAttributes_pack (table : List MamAttr) (s : StoredAttr) (rest : List UInt8) (m : Mam) :
    readAttributes table (s.pack ++ rest) m = readAttributes table rest (m.accept table s) := by
  have hid : leNat [UInt8.ofNat s.attribute_id, UInt8.ofNat (s.attribute_id / 256)] = s.attribute_id :=
    leNat_leBytes_of_lt s.id_fits
  have hlen : leNat [UInt8.ofNat s.value.length, UInt8.ofNat (s.value.length / 256)] =
      s.value.length := leNat_leBytes_of_lt s.length_fits
  simp only [StoredAttr.pack, leBytes_two, List.cons_append, List.nil_append]
  rw [readAttributes]
  simp only [hid, hlen, List.drop_left, Mam.accept, lookup]
  cases table.find? fun a => a.attribute_id == s.attribute_id with
  | none => rfl
  | some a =>
    have htake : (s.value ++ rest).take (min s.value.length a.field.length) =
        s.value.take a.field.length := by
      rw [List.take_append_of_le_length (by omega), List.take_eq_take_iff]
      omega
    simp only [htake, List.length_take, Nat.min_comm, if_true, Option.map_some, Option.getD_some]

/-- Reading stored attributes is a fold over them. -/
theorem readAttributes_packAttributes (table : List MamAttr) (l : List StoredAttr)
    (rest : List UInt8) (m : Mam) :
    readAttributes table (packAttributes l ++ rest) m =
      readAttributes table rest (l.foldl (Mam.accept table) m) := by
  induction l generalizing m with
  | nil => rfl
  | cons s l ih =>
    simp only [packAttributes, List.flatMap_cons, List.append_assoc, List.foldl_cons] at ih ⊢
    rw [readAttributes_pack, ih]

/-- A table names every attribute and every field once, with identifiers of two bytes. -/
structure TableSound (table : List MamAttr) : Prop where
  /-- Identifiers are unique. -/
  ids : (table.map MamAttr.attribute_id).Nodup
  /-- Fields are unique. -/
  fields : (table.map MamAttr.field).Nodup
  /-- Identifiers fit two bytes. -/
  fits : ∀ a ∈ table, a.attribute_id < 256 ^ 2

/-- The table of standard attributes. -/
theorem mamAttributes_sound : TableSound mamAttributes := ⟨by decide, by decide, by decide⟩

/-- The table of the attributes of its own. -/
theorem mhvtlAttributes_sound : TableSound mhvtlAttributes := ⟨by decide, by decide, by decide⟩

/-- Every field is in one of the tables. -/
theorem field_cases (f : MamField) :
    f ∈ mamAttributes.map MamAttr.field ∨ f ∈ mhvtlAttributes.map MamAttr.field := by
  cases f <;> decide

/-- No field is in both. -/
theorem field_once {f : MamField} (h : f ∈ mamAttributes.map MamAttr.field) :
    f ∉ mhvtlAttributes.map MamAttr.field := by
  revert f
  decide

/-- Fields are short. -/
theorem MamField.length_pos_fits (f : MamField) : 0 < f.length ∧ f.length < 256 ^ 2 := by
  cases f <;> decide

section Table

variable {table : List MamAttr} {a : MamAttr} {m : Mam}

/-- What is found is in the table. -/
theorem lookup_some {attribute_id : ℕ} (h : lookup table attribute_id = some a) :
    a ∈ table ∧ a.attribute_id = attribute_id := by
  have hfound : table.find? (fun b => b.attribute_id == attribute_id) = some a := h
  constructor
  · exact List.mem_of_find?_eq_some hfound
  · simpa using List.find?_some hfound

/-- What is in the table is found. -/
theorem TableSound.lookup (ht : TableSound table) (ha : a ∈ table) :
    lookup table a.attribute_id = some a := by
  cases h : Mhvtl.lookup table a.attribute_id with
  | none =>
    have hnone := List.find?_eq_none.mp h a ha
    simp at hnone
  | some b =>
    obtain ⟨hb, hid⟩ := lookup_some h
    rw [List.inj_on_of_nodup_map ht.ids hb ha hid]

/-- Other attributes leave a field alone. -/
theorem accept_other (ht : TableSound table) (ha : a ∈ table) {s : StoredAttr}
    (hs : s.attribute_id ≠ a.attribute_id) : (m.accept table s).bytes a.field = m.bytes a.field := by
  cases h : lookup table s.attribute_id with
  | none => simp [Mam.accept, h]
  | some b =>
    obtain ⟨hb, hid⟩ := lookup_some h
    have hfield : a.field ≠ b.field := by
      intro heq
      rw [List.inj_on_of_nodup_map ht.fields ha hb heq] at hs
      exact hs hid.symm
    simp only [Mam.accept, h, Option.map_some, Option.getD_some]
    exact m.bytes_put_other _ hfield

/-- Fields that are not in the table are left alone. -/
theorem accept_outside {f : MamField} (hf : f ∉ table.map MamAttr.field) (s : StoredAttr) :
    (m.accept table s).bytes f = m.bytes f := by
  cases h : lookup table s.attribute_id with
  | none => simp [Mam.accept, h]
  | some b =>
    have hfield : f ≠ b.field := by
      rintro rfl
      exact hf (List.mem_map_of_mem (lookup_some h).1)
    simp only [Mam.accept, h, Option.map_some, Option.getD_some]
    exact m.bytes_put_other _ hfield

/-- The attribute's own field. -/
theorem accept_same (ht : TableSound table) (ha : a ∈ table) {s : StoredAttr}
    (hs : s.attribute_id = a.attribute_id) :
    m.accept table s = m.put a.field (s.value.take a.field.length) := by
  simp only [Mam.accept, hs, ht.lookup ha, Option.map_some, Option.getD_some]

/-- The versions are not attributes. -/
theorem accept_versions (s : StoredAttr) :
    (m.accept table s).tape_fmt_version = m.tape_fmt_version ∧
      (m.accept table s).mam_fmt_version = m.mam_fmt_version := by
  cases h : lookup table s.attribute_id with
  | none => simp [Mam.accept, h]
  | some b => simp [Mam.accept, h]

end Table

/-- A copy replaces the front of a field. -/
theorem Mam.bytes_put (m : Mam) {f : MamField} {bs : List UInt8} (h : bs.length ≤ f.length) :
    (m.put f bs).bytes f = bs ++ (m.bytes f).drop bs.length := by
  apply List.ext_getElem
  · simp only [bytes_length, List.length_append, List.length_drop]
    omega
  · intro i hi _
    rw [bytes_length] at hi
    simp only [bytes, put, if_pos, List.getElem_ofFn]
    by_cases hlt : i < bs.length
    · rw [List.getElem_append_left hlt, List.getD_eq_getElem _ _ hlt]
    · have hge : bs.length ≤ i := by omega
      rw [List.getElem_append_right hge, List.getD_eq_default _ _ hge]
      simp only [List.getElem_drop, List.getElem_ofFn]
      congr
      omega

/-- A copy that is not shorter makes up for one before it. -/
theorem Mam.put_put (m : Mam) {f : MamField} {bs bs' : List UInt8} (h : bs'.length ≤ bs.length) :
    (m.put f bs').put f bs = m.put f bs := by
  simp only [put, Mam.mk.injEq, true_and]
  funext g i
  split
  · by_cases hlt : i.val < bs.length
    · rw [List.getD_eq_getElem _ _ hlt, List.getD_eq_getElem _ _ hlt]
    · rw [List.getD_eq_default _ _ (by omega), List.getD_eq_default _ _ (by omega),
        List.getD_eq_default _ _ (by omega)]
  · rfl

/-- A field of one byte holds that byte. -/
theorem Mam.bytes_of_byte (m : Mam) {f : MamField} (h : f.length = 1) : m.bytes f = [m.byte f] := by
  obtain ⟨b, hb⟩ := List.length_eq_one_iff.mp ((m.bytes_length f).trans h)
  rw [byte, hb, List.headD_cons]

/-- Two values with the same versions and bytes are the same. -/
theorem Mam.ext_bytes {m m' : Mam} (htape : m.tape_fmt_version = m'.tape_fmt_version)
    (hmam : m.mam_fmt_version = m'.mam_fmt_version) (h : ∀ f, m.bytes f = m'.bytes f) : m = m' := by
  obtain ⟨t, v, val⟩ := m
  obtain ⟨t', v', val'⟩ := m'
  simp only [Mam.mk.injEq]
  refine ⟨htape, hmam, ?_⟩
  funext f
  exact List.ofFn_injective (h f)

/-- The last value stored for an identifier. -/
def lastStored (attribute_id : ℕ) (l : List StoredAttr) : Option (List UInt8) :=
  ((l.filter fun s => s.attribute_id == attribute_id).getLast?).map StoredAttr.value

/-- What a field holds after a file was read: the front of the last value stored for
it, or what it held before. -/
def Assigned (l : List StoredAttr) (m m' : Mam) (a : MamAttr) : Prop :=
  (lastStored a.attribute_id l = none → m'.bytes a.field = m.bytes a.field) ∧
    ∀ value, lastStored a.attribute_id l = some value →
      (m'.bytes a.field).take value.length = value.take a.field.length

section Fold

variable {table : List MamAttr} {a : MamAttr} {m : Mam}

/-- Reading leaves fields outside the table alone. -/
theorem foldl_accept_outside {f : MamField} (hf : f ∉ table.map MamAttr.field)
    (l : List StoredAttr) : (l.foldl (Mam.accept table) m).bytes f = m.bytes f := by
  induction l generalizing m with
  | nil => rfl
  | cons s l ih => rw [List.foldl_cons, ih, accept_outside hf]

/-- Reading attributes leaves the versions alone. -/
theorem foldl_accept_versions (table : List MamAttr) (m : Mam) (l : List StoredAttr) :
    (l.foldl (Mam.accept table) m).tape_fmt_version = m.tape_fmt_version ∧
      (l.foldl (Mam.accept table) m).mam_fmt_version = m.mam_fmt_version := by
  induction l generalizing m with
  | nil => exact ⟨rfl, rfl⟩
  | cons s l ih =>
    rw [List.foldl_cons]
    exact ⟨(ih _).1.trans (accept_versions s).1, (ih _).2.trans (accept_versions s).2⟩

/-- Every attribute gets the last value stored for it. -/
theorem foldl_accept_assigned (ht : TableSound table) (ha : a ∈ table) (m : Mam)
    (l : List StoredAttr) :
    Assigned l m (l.foldl (Mam.accept table) m) a := by
  induction l using List.reverseRecOn with
  | nil =>
    refine ⟨fun _ => rfl, fun value h => ?_⟩
    cases h
  | append_singleton l s ih =>
    rw [List.foldl_append, List.foldl_cons, List.foldl_nil]
    by_cases hs : s.attribute_id = a.attribute_id
    · have hlast : lastStored a.attribute_id (l ++ [s]) = some s.value := by
        simp [lastStored, hs]
      rw [Assigned, hlast, accept_same ht ha hs, Mam.bytes_put _ (List.length_take_le _ _)]
      refine ⟨fun h => (nomatch h), fun value h => ?_⟩
      cases h
      rw [List.take_append, List.take_take, List.length_take]
      by_cases hlen : s.value.length ≤ a.field.length
      · simp [hlen, List.take_of_length_le hlen]
      · have hdrop : (((l.foldl (Mam.accept table) m).bytes a.field).drop
            (min a.field.length s.value.length)) = [] := by
          rw [List.drop_eq_nil_iff, Mam.bytes_length]
          omega
        rw [hdrop, List.take_nil, List.append_nil, List.take_eq_take_iff]
        omega
    · have hlast : lastStored a.attribute_id (l ++ [s]) = lastStored a.attribute_id l := by
        simp [lastStored, hs]
      rw [Assigned, hlast, accept_other ht ha hs]
      exact ih

/-- Copy the fields of a table. -/
def Mam.copy (table : List MamAttr) (m x : Mam) : Mam :=
  table.foldl (fun y a => y.put a.field (m.bytes a.field)) x

/-- Reading what was written copies its fields. -/
theorem readAttributes_writeAttributes (ht : TableSound table) {sub : List MamAttr}
    (hsub : ∀ a ∈ sub, a ∈ table) (m x : Mam) (rest : List UInt8) :
    readAttributes table (writeAttributes sub m ++ rest) x =
      readAttributes table rest (Mam.copy sub m x) := by
  induction sub generalizing x with
  | nil => rfl
  | cons a sub ih =>
    have ha := hsub a List.mem_cons_self
    have hlen : (m.bytes a.field).length < 256 ^ 2 := by
      rw [Mam.bytes_length]
      exact a.field.length_pos_fits.2
    have hpack : writeAttributes (a :: sub) m ++ rest =
        (StoredAttr.mk a.attribute_id (m.bytes a.field) (ht.fits a ha) hlen).pack ++
          (writeAttributes sub m ++ rest) := by
      simp [writeAttributes, StoredAttr.pack]
    have hfull : (m.bytes a.field).take a.field.length = m.bytes a.field := by
      rw [List.take_of_length_le (Mam.bytes_length m a.field).le]
    rw [hpack, readAttributes_pack, accept_same ht ha rfl, hfull,
      ih fun b hb => hsub b (List.mem_cons_of_mem _ hb)]
    rfl

/-- The fields of a table are copied, and no others. -/
theorem Mam.bytes_copy (sub : List MamAttr) (m x : Mam) (f : MamField) :
    (copy sub m x).bytes f = if f ∈ sub.map MamAttr.field then m.bytes f else x.bytes f := by
  induction sub generalizing x with
  | nil => rfl
  | cons a sub ih =>
    have hstep : copy (a :: sub) m x = copy sub m (x.put a.field (m.bytes a.field)) := rfl
    rw [hstep, ih]
    by_cases hsub : f ∈ sub.map MamAttr.field
    · simp [hsub]
    · by_cases hf : f = a.field
      · subst hf
        simp [hsub, bytes_put_self x (bytes_length m a.field)]
      · simp [hsub, hf, bytes_put_other x _ hf]

/-- Copying fields leaves the versions alone. -/
theorem Mam.copy_versions (sub : List MamAttr) (m x : Mam) :
    (copy sub m x).tape_fmt_version = x.tape_fmt_version ∧
      (copy sub m x).mam_fmt_version = x.mam_fmt_version := by
  induction sub generalizing x with
  | nil => exact ⟨rfl, rfl⟩
  | cons a sub ih => exact ih (x.put a.field (m.bytes a.field))

end Fold

/-- No attribute that is known can be read with a value. -/
inductive Skips (table : List MamAttr) : List UInt8 → Prop where
  /-- Nothing is left. -/
  | nil : Skips table []
  /-- One byte, which is no identifier. -/
  | byte (b : UInt8) : Skips table [b]
  /-- An attribute that is not known, or has no value. -/
  | attr {i0 i1 l0 l1 : UInt8} {rest : List UInt8}
      (h : (lookup table (leNat [i0, i1])).isSome = true → leNat [l0, l1] = 0)
      (hrest : Skips table (rest.drop (leNat [l0, l1]))) :
      Skips table (i0 :: i1 :: l0 :: l1 :: rest)

/-- What can be skipped changes nothing. -/
theorem Skips.read {table : List MamAttr} {bs : List UInt8} (h : Skips table bs) (m : Mam) :
    readAttributes table bs m = (0, m) := by
  induction h with
  | nil => rw [readAttributes]
  | byte b => rw [readAttributes]
  | @attr i0 i1 l0 l1 rest h _ ih =>
    rw [readAttributes]
    cases hfound : table.find? fun a => a.attribute_id == leNat [i0, i1] with
    | none => exact ih
    | some a =>
      have hzero := h (by rw [lookup, hfound]; rfl)
      rw [hzero, List.drop_zero] at ih
      simp only [hzero, Nat.zero_min, List.take_zero, List.length_nil, if_true, List.drop_zero,
        Mam.put_nil]
      exact ih

/-- What changes nothing, whatever there was, can be skipped. -/
theorem Skips.of_read {table : List MamAttr} {bs : List UInt8}
    (h : ∀ m : Mam, m.Fits → readAttributes table bs m = (0, m)) : Skips table bs := by
  have hzero : Mam.zero.Fits := ⟨by decide, by decide⟩
  induction hn : bs.length using Nat.strong_induction_on generalizing bs with
  | _ n ih =>
    rcases bs with _ | ⟨i0, _ | ⟨i1, _ | ⟨l0, _ | ⟨l1, rest⟩⟩⟩⟩
    · exact Skips.nil
    · exact Skips.byte i0
    · have hrc := congrArg Prod.fst (h Mam.zero hzero)
      rw [readAttributes] at hrc
      cases hrc
    · have hrc := congrArg Prod.fst (h Mam.zero hzero)
      rw [readAttributes] at hrc
      cases hrc
    have hshort : (rest.drop (leNat [l0, l1])).length < n := by
      rw [← hn, List.length_drop]
      simp only [List.length_cons]
      omega
    cases hfound : table.find? fun a => a.attribute_id == leNat [i0, i1] with
    | none =>
      refine Skips.attr (fun hsome => ?_) (ih _ hshort (fun m hm => ?_) rfl)
      · rw [lookup, hfound] at hsome
        cases hsome
      · have hread := h m hm
        rw [readAttributes, hfound] at hread
        exact hread
    | some a =>
      by_cases hnone : leNat [l0, l1] = 0
      · refine Skips.attr (fun _ => hnone) (ih _ hshort (fun m hm => ?_) rfl)
        have hread := h m hm
        rw [readAttributes, hfound] at hread
        simpa [hnone] using hread
      -- two values that differ in a byte that is read over
      have hread : ∀ m : Mam, m.Fits → (rest.take (min (leNat [l0, l1]) a.field.length)).length =
            min (leNat [l0, l1]) a.field.length ∧
          readAttributes table (rest.drop (leNat [l0, l1]))
            (m.put a.field (rest.take (min (leNat [l0, l1]) a.field.length))) = (0, m) := by
        intro m hm
        have hread := h m hm
        rw [readAttributes, hfound] at hread
        simp only at hread
        split at hread
        · rename_i hlen
          exact ⟨hlen, hread⟩
        · cases congrArg Prod.fst hread
      have hpos := a.field.length_pos_fits.1
      have hlen : 1 ≤ (rest.take (min (leNat [l0, l1]) a.field.length)).length := by
        rw [(hread Mam.zero hzero).1]
        omega
      have hzeros := (hread (Mam.zero.put a.field [0]) hzero).2
      have hones := (hread (Mam.zero.put a.field [1]) hzero).2
      rw [Mam.put_put Mam.zero (show [(0 : UInt8)].length ≤ _ from hlen)] at hzeros
      rw [Mam.put_put Mam.zero (show [(1 : UInt8)].length ≤ _ from hlen)] at hones
      have hsame := congrArg (fun r : ℤ × Mam => r.2.bytes a.field) (hzeros.symm.trans hones)
      simp only [Mam.bytes_put Mam.zero (show [(0 : UInt8)].length ≤ a.field.length from hpos),
        Mam.bytes_put Mam.zero (show [(1 : UInt8)].length ≤ a.field.length from hpos)] at hsame
      cases hsame

/-- Size of the new contents of the mam file. -/
def mamSize : ℕ := (mamImage Mam.zero).length

/-- Size of the new contents of the mhvtl_data file. -/
def mhvtlSize : ℕ := (mhvtlImage Mam.zero).length

/-- Packed attributes of a table have the size of the table. -/
theorem writeAttributes_length (table : List MamAttr) (m : Mam) :
    (writeAttributes table m).length = (table.map fun a => a.field.length + 4).sum := by
  induction table with
  | nil => rfl
  | cons a table ih =>
    have hcons : writeAttributes (a :: table) m = leBytes 2 a.attribute_id ++
        leBytes 2 a.field.length ++ m.bytes a.field ++ writeAttributes table m := rfl
    rw [hcons]
    simp only [List.length_append, leBytes_length, Mam.bytes_length, ih, List.map_cons,
      List.sum_cons]
    omega

/-- The mam file has the same size for all values. -/
theorem mamImage_length (m : Mam) : (mamImage m).length = mamSize := by
  simp only [mamSize, mamImage, List.length_append, leBytes_length, writeAttributes_length]

/-- The mhvtl_data file has the same size for all values. -/
theorem mhvtlImage_length (m : Mam) : (mhvtlImage m).length = mhvtlSize := by
  simp only [mhvtlSize, mhvtlImage, writeAttributes_length]

/-- Other versions, the same attributes. -/
def Mam.setVersions (x : Mam) (v w : ℕ) : Mam :=
  { x with tape_fmt_version := v, mam_fmt_version := w }

/-- Reading a mam file that begins with two versions. -/
theorem read_mam_versions {v w : ℕ} (hv : v < 256 ^ 4) (hw : w < 256 ^ 4) (bs mhvtl : List UInt8)
    (x : Mam) :
    read_mam (some (leBytes 4 v ++ leBytes 4 w ++ bs)) (some mhvtl) x =
      if (readAttributes mamAttributes bs (x.setVersions v w)).1 ≠ 0
      then readAttributes mamAttributes bs (x.setVersions v w)
      else readAttributes mhvtlAttributes mhvtl
        (readAttributes mamAttributes bs (x.setVersions v w)).2 := by
  have hfour : ∀ n, (leBytes 4 n).length = 4 := leBytes_length 4
  have hread : ∀ {n : ℕ}, n < 256 ^ 4 → ∀ old, (Codec.uint 4).overlay (leBytes 4 n) old = n := by
    intro n hn old
    rw [Codec.overlay_full _ (hfour n)]
    exact Codec.dec_enc_self (Codec.uint 4) hn
  have htake : (leBytes 4 v ++ (leBytes 4 w ++ bs)).take 4 = leBytes 4 v :=
    List.take_left' (hfour v)
  have hdrop : (leBytes 4 v ++ (leBytes 4 w ++ bs)).drop 4 = leBytes 4 w ++ bs :=
    List.drop_left' (hfour v)
  have htake' : (leBytes 4 w ++ bs).take 4 = leBytes 4 w := List.take_left' (hfour w)
  have hdrop' : (leBytes 4 w ++ bs).drop 4 = bs := List.drop_left' (hfour w)
  simp only [read_mam, List.append_assoc, htake, hdrop, htake', hdrop', hread hv, hread hw, hfour,
    ne_eq, not_true_eq_false, if_false, Mam.setVersions]
  rfl

/-- Whatever was in the files before, the value that is written is the one that is read. -/
def RoundTrips (mamOld mhvtlOld : List UInt8) : Prop :=
  ∀ m x : Mam, m.Fits →
    read_mam (some (write_mam m mamOld mhvtlOld).1) (some (write_mam m mamOld mhvtlOld).2) x = (0, m)

/-- Every file of two versions and stored attributes is read, every attribute gets the
last value stored for it, and nothing else is touched. -/
def ReadsStored : Prop :=
  ∀ (v w : ℕ) (mam mhvtl : List StoredAttr) (x : Mam), v < 256 ^ 4 → w < 256 ^ 4 →
    ∃ x', read_mam (some (leBytes 4 v ++ leBytes 4 w ++ packAttributes mam))
        (some (packAttributes mhvtl)) x = (0, x') ∧
      x'.tape_fmt_version = v ∧ x'.mam_fmt_version = w ∧
      (∀ a ∈ mamAttributes, Assigned mam x x' a) ∧ ∀ a ∈ mhvtlAttributes, Assigned mhvtl x x' a

/-- Files of stored attributes are read. -/
theorem reads_stored : ReadsStored := by
  intro v w mam mhvtl x hv hw
  have hmam := readAttributes_packAttributes mamAttributes mam [] (x.setVersions v w)
  have hfirst := fun a (ha : a ∈ mamAttributes) =>
    foldl_accept_assigned mamAttributes_sound ha (x.setVersions v w) mam
  have hversions := foldl_accept_versions mamAttributes (x.setVersions v w) mam
  have houtside : ∀ f, f ∉ mamAttributes.map MamAttr.field →
      (mam.foldl (Mam.accept mamAttributes) (x.setVersions v w)).bytes f = x.bytes f :=
    fun f hf => foldl_accept_outside hf mam
  generalize mam.foldl (Mam.accept mamAttributes) (x.setVersions v w) = z at *
  have hmhvtl := readAttributes_packAttributes mhvtlAttributes mhvtl [] z
  have hversions' := foldl_accept_versions mhvtlAttributes z mhvtl
  rw [List.append_nil, readAttributes] at hmam hmhvtl
  refine ⟨mhvtl.foldl (Mam.accept mhvtlAttributes) z, ?_, ?_, ?_, fun a ha => ?_, fun a ha => ?_⟩
  · rw [read_mam_versions hv hw, hmam]
    simp only [ne_eq, not_true_eq_false, if_false]
    exact hmhvtl
  · exact hversions'.1.trans hversions.1
  · exact hversions'.2.trans hversions.2
  · have hfield := field_once (List.mem_map_of_mem ha)
    rw [Assigned, foldl_accept_outside hfield]
    exact hfirst a ha
  · have hfield : a.field ∉ mamAttributes.map MamAttr.field :=
      fun hf => field_once hf (List.mem_map_of_mem ha)
    rw [Assigned, ← houtside a.field hfield]
    exact foldl_accept_assigned mhvtlAttributes_sound ha z mhvtl

/-- What a reader finds after a write: the new value, and what the old files left over. -/
theorem read_write_mam {m : Mam} (hm : m.Fits) (mamOld mhvtlOld : List UInt8) (x : Mam) :
    read_mam (some (write_mam m mamOld mhvtlOld).1) (some (write_mam m mamOld mhvtlOld).2) x =
      if (readAttributes mamAttributes (mamOld.drop mamSize)
          (Mam.copy mamAttributes m (x.setVersions m.tape_fmt_version m.mam_fmt_version))).1 ≠ 0
      then readAttributes mamAttributes (mamOld.drop mamSize)
          (Mam.copy mamAttributes m (x.setVersions m.tape_fmt_version m.mam_fmt_version))
      else readAttributes mhvtlAttributes (mhvtlOld.drop mhvtlSize)
        (Mam.copy mhvtlAttributes m (readAttributes mamAttributes (mamOld.drop mamSize)
          (Mam.copy mamAttributes m (x.setVersions m.tape_fmt_version m.mam_fmt_version))).2) := by
  have hmamFile : (write_mam m mamOld mhvtlOld).1 = leBytes 4 m.tape_fmt_version ++
      leBytes 4 m.mam_fmt_version ++ (writeAttributes mamAttributes m ++ mamOld.drop mamSize) := by
    rw [← mamImage_length m, ← List.append_assoc]
    rfl
  have hmhvtlFile : (write_mam m mamOld mhvtlOld).2 = writeAttributes mhvtlAttributes m ++
      mhvtlOld.drop mhvtlSize := by
    rw [← mhvtlImage_length m]
    rfl
  rw [hmamFile, hmhvtlFile, read_mam_versions hm.1 hm.2,
    readAttributes_writeAttributes mamAttributes_sound fun a ha => ha,
    readAttributes_writeAttributes mhvtlAttributes_sound fun a ha => ha]

/-- Reading depends on what was there before only in the fields that are looked at, and ends in the
same way. -/
theorem readAttributes_agree {table : List MamAttr} {bs : List UInt8} (m m' : Mam) :
    (readAttributes table bs m).1 = (readAttributes table bs m').1 ∧
      ∀ f, m.bytes f = m'.bytes f →
        (readAttributes table bs m).2.bytes f = (readAttributes table bs m').2.bytes f := by
  have hput : ∀ (m m' : Mam) (g : MamField) (v : List UInt8), v.length ≤ g.length →
      ∀ f, m.bytes f = m'.bytes f → (m.put g v).bytes f = (m'.put g v).bytes f := by
    intro m m' g v hv f hf
    by_cases hfg : f = g
    · subst hfg
      rw [Mam.bytes_put m hv, Mam.bytes_put m' hv, hf]
    · rw [Mam.bytes_put_other m v hfg, Mam.bytes_put_other m' v hfg, hf]
  have hfits : ∀ (rest : List UInt8) (n : ℕ) (a : MamAttr),
      (rest.take (min n a.field.length)).length ≤ a.field.length :=
    fun rest n a => (List.length_take_le _ _).trans (Nat.min_le_right _ _)
  fun_induction readAttributes table bs m generalizing m' with
  | case1 m i0 i1 l0 l1 rest hnone ih =>
    rw [readAttributes, hnone]
    exact ih m'
  | case2 m i0 i1 l0 l1 rest a hfound len hlen ih =>
    rw [readAttributes, hfound]
    dsimp only
    rw [if_pos hlen]
    obtain ⟨hrc, hsame⟩ := ih (m'.put a.field (rest.take len))
    exact ⟨hrc, fun f hf => hsame f (hput _ _ _ _ (hfits rest _ a) f hf)⟩
  | case3 m i0 i1 l0 l1 rest a hfound len hlen =>
    rw [readAttributes, hfound]
    dsimp only
    rw [if_neg hlen]
    exact ⟨rfl, hput _ _ _ _ (hfits rest _ a)⟩
  | case4 =>
    rw [readAttributes]
    exact ⟨rfl, fun f hf => hf⟩
  | case5 =>
    rw [readAttributes]
    exact ⟨rfl, fun f hf => hf⟩
  | case6 =>
    rw [readAttributes]
    exact ⟨rfl, fun f hf => hf⟩
  | case7 =>
    rw [readAttributes]
    exact ⟨rfl, fun f hf => hf⟩

/-- Behind new contents the old ones are read over attributes of which the mhvtl_data file holds
the new values. -/
theorem read_written (m x : Mam) (mamOld mhvtlOld : List UInt8) : ∃ y z : Mam,
    (∀ f ∈ mhvtlAttributes.map MamAttr.field, z.bytes f = m.bytes f) ∧
    read_mam (some (write_mam m mamOld mhvtlOld).1) (some (write_mam m mamOld mhvtlOld).2) x =
      if (readAttributes mamAttributes (mamOld.drop mamSize) y).1 ≠ 0
      then readAttributes mamAttributes (mamOld.drop mamSize) y
      else readAttributes mhvtlAttributes (mhvtlOld.drop mhvtlSize) z := by
  let m₁ := m.setVersions (m.tape_fmt_version % 256 ^ 4) (m.mam_fmt_version % 256 ^ 4)
  have hm₁ : m₁.Fits := ⟨Nat.mod_lt _ (by decide), Nat.mod_lt _ (by decide)⟩
  have himage : mamImage m = mamImage m₁ := by
    rw [mamImage, ← leBytes_mod 4 m.tape_fmt_version, ← leBytes_mod 4 m.mam_fmt_version]
    rfl
  have hsame : write_mam m mamOld mhvtlOld = write_mam m₁ mamOld mhvtlOld := by
    rw [write_mam, write_mam, himage]
    rfl
  rw [hsame]
  refine ⟨_, _, fun f hf => ?_, read_write_mam hm₁ mamOld mhvtlOld x⟩
  rw [Mam.bytes_copy, if_pos hf]
  rfl

/-- A property of attributes that says what some fields of the mhvtl_data file hold, and no more. -/
def PinnedBy (P : Mam → Prop) (fields : List MamField) : Prop :=
  (∀ f ∈ fields, f ∈ mhvtlAttributes.map MamAttr.field) ∧
    ∀ m m', P m → (P m' ↔ ∀ f ∈ fields, m'.bytes f = m.bytes f)

/-- What old files have behind the size of the new contents is read to its end, and attributes with
the property keep it. -/
def LeftoverKeeps (mamOld mhvtlOld : List UInt8) (P : Mam → Prop) : Prop :=
  (∀ m, (readAttributes mamAttributes (mamOld.drop mamSize) m).1 = 0) ∧
    ∀ m, P m → (readAttributes mhvtlAttributes (mhvtlOld.drop mhvtlSize) m).1 = 0 ∧
      P (readAttributes mhvtlAttributes (mhvtlOld.drop mhvtlSize) m).2

/-- Attributes with the property are read back with it just when nothing that is left of the old
files takes it away. -/
theorem written_tells {P : Mam → Prop} {fields : List MamField} {m : Mam} (hpin : PinnedBy P fields)
    (hm : P m) (mamOld mhvtlOld : List UInt8) :
    (∀ x, (read_mam (some (write_mam m mamOld mhvtlOld).1)
        (some (write_mam m mamOld mhvtlOld).2) x).1 = 0 ∧
      P (read_mam (some (write_mam m mamOld mhvtlOld).1)
        (some (write_mam m mamOld mhvtlOld).2) x).2) ↔ LeftoverKeeps mamOld mhvtlOld P := by
  obtain ⟨hfields, hpin⟩ := hpin
  constructor
  · intro htold
    obtain ⟨y, z, hz, hread⟩ := read_written m Mam.zero mamOld mhvtlOld
    obtain ⟨hrc, hheld⟩ := htold Mam.zero
    rw [hread] at hrc hheld
    by_cases hy : (readAttributes mamAttributes (mamOld.drop mamSize) y).1 = 0
    · rw [if_neg (not_not.mpr hy)] at hrc hheld
      refine ⟨fun m' => (readAttributes_agree m' y).1.trans hy, fun m' hm' => ?_⟩
      have hagree := @readAttributes_agree mhvtlAttributes (mhvtlOld.drop mhvtlSize) m' z
      refine ⟨hagree.1.trans hrc, (hpin _ _ hheld).mpr fun f hf => hagree.2 f ?_⟩
      exact ((hpin m m' hm).mp hm' f hf).trans (hz f (hfields f hf)).symm
    · rw [if_pos hy] at hrc
      exact absurd hrc hy
  · rintro ⟨hmam, hmhvtl⟩ x
    obtain ⟨y, z, hz, hread⟩ := read_written m x mamOld mhvtlOld
    rw [hread, if_neg (not_not.mpr (hmam y))]
    exact hmhvtl z ((hpin m z hm).mpr fun f hf => hz f (hfields f hf))

/-- What can be skipped takes nothing away. -/
theorem LeftoverKeeps.of_skips {mamOld mhvtlOld : List UInt8}
    (hmam : Skips mamAttributes (mamOld.drop mamSize))
    (hmhvtl : Skips mhvtlAttributes (mhvtlOld.drop mhvtlSize)) (P : Mam → Prop) :
    LeftoverKeeps mamOld mhvtlOld P := by
  refine ⟨fun m => by rw [hmam.read], fun m hm => ?_⟩
  rw [hmhvtl.read]
  exact ⟨rfl, hm⟩

/-- A rewrite leaves what is behind the new contents. -/
theorem leftoverKeeps_written (m : Mam) (mamOld mhvtlOld : List UInt8) (P : Mam → Prop) :
    LeftoverKeeps (write_mam m mamOld mhvtlOld).1 (write_mam m mamOld mhvtlOld).2 P ↔
      LeftoverKeeps mamOld mhvtlOld P := by
  have hmam : (write_mam m mamOld mhvtlOld).1.drop mamSize = mamOld.drop mamSize := by
    rw [← mamImage_length m]
    exact List.drop_left
  have hmhvtl : (write_mam m mamOld mhvtlOld).2.drop mhvtlSize = mhvtlOld.drop mhvtlSize := by
    rw [← mhvtlImage_length m]
    exact List.drop_left
  rw [LeftoverKeeps, LeftoverKeeps, hmam, hmhvtl]

/-- All fields of both tables make the whole value. -/
theorem copy_all (m x : Mam) (hm : x.tape_fmt_version = m.tape_fmt_version)
    (hv : x.mam_fmt_version = m.mam_fmt_version) :
    Mam.copy mhvtlAttributes m (Mam.copy mamAttributes m x) = m := by
  refine Mam.ext_bytes ?_ ?_ fun f => ?_
  · rw [(Mam.copy_versions _ _ _).1, (Mam.copy_versions _ _ _).1, hm]
  · rw [(Mam.copy_versions _ _ _).2, (Mam.copy_versions _ _ _).2, hv]
  · rw [Mam.bytes_copy, Mam.bytes_copy]
    rcases field_cases f with hf | hf
    · simp [hf]
    · simp [hf]

/-- Copying what is there changes nothing. -/
theorem copy_self (table : List MamAttr) (m : Mam) : Mam.copy table m m = m := by
  refine Mam.ext_bytes (Mam.copy_versions _ _ _).1 (Mam.copy_versions _ _ _).2 fun f => ?_
  rw [Mam.bytes_copy, ite_self]

/-- Reading changes fields of its table only. -/
theorem readAttributes_outside {table : List MamAttr} {f : MamField}
    (hf : f ∉ table.map MamAttr.field) (bs : List UInt8) (m : Mam) :
    (readAttributes table bs m).2.bytes f = m.bytes f ∧
      (readAttributes table bs m).2.tape_fmt_version = m.tape_fmt_version ∧
      (readAttributes table bs m).2.mam_fmt_version = m.mam_fmt_version := by
  have hput : ∀ (m : Mam) (a : MamAttr) (bs : List UInt8) (n : ℕ),
      (table.find? fun a => a.attribute_id == n) = some a →
        (m.put a.field bs).bytes f = m.bytes f := by
    intro m a bs n hfound
    apply Mam.bytes_put_other
    rintro rfl
    exact hf (List.mem_map_of_mem (List.mem_of_find?_eq_some hfound))
  fun_induction readAttributes table bs m with
  | case1 m i0 i1 l0 l1 rest hnone ih => exact ih
  | case2 m i0 i1 l0 l1 rest a hfound len hlen ih =>
    exact ⟨ih.1.trans (hput m a _ _ hfound), ih.2⟩
  | case3 m i0 i1 l0 l1 rest a hfound len hlen => exact ⟨hput m a _ _ hfound, rfl, rfl⟩
  | case4 => exact ⟨rfl, rfl, rfl⟩
  | case5 => exact ⟨rfl, rfl, rfl⟩
  | case6 => exact ⟨rfl, rfl, rfl⟩
  | case7 => exact ⟨rfl, rfl, rfl⟩

/-- When the round trip holds, what is left over changes no value. -/
theorem leftover_harmless {mamOld mhvtlOld : List UInt8} (h : RoundTrips mamOld mhvtlOld) {y : Mam}
    (hy : y.Fits) : readAttributes mamAttributes (mamOld.drop mamSize) y = (0, y) ∧
      readAttributes mhvtlAttributes (mhvtlOld.drop mhvtlSize) y = (0, y) := by
  have hread := h y y hy
  have hsame : y.setVersions y.tape_fmt_version y.mam_fmt_version = y := rfl
  rw [read_write_mam hy, hsame, copy_self] at hread
  have houtside := fun f (hf : f ∉ mamAttributes.map MamAttr.field) =>
    readAttributes_outside hf (mamOld.drop mamSize) y
  generalize readAttributes mamAttributes (mamOld.drop mamSize) y = r at *
  obtain ⟨rc, z⟩ := r
  split at hread
  · rename_i hrc
    exact absurd (congrArg Prod.fst hread) hrc
  rename_i hrc
  have hz : z = y := by
    refine Mam.ext_bytes (houtside .record_dirty (by decide)).2.1
      (houtside .record_dirty (by decide)).2.2 fun f => ?_
    rcases field_cases f with hf | hf
    · have hlater := (readAttributes_outside (field_once hf) (mhvtlOld.drop mhvtlSize)
        (Mam.copy mhvtlAttributes y z)).1
      rw [hread, Mam.bytes_copy, if_neg (field_once hf)] at hlater
      exact hlater.symm
    · exact (houtside f fun hmam => field_once hmam hf).1
  subst hz
  rw [copy_self] at hread
  exact ⟨Prod.ext (not_not.mp hrc) rfl, hread⟩

/-- The round trip holds over old files exactly when nothing that is known is left over
behind the new contents. Files of stored attributes are always read. -/
theorem mam_round_trip (mamOld mhvtlOld : List UInt8) :
    (RoundTrips mamOld mhvtlOld ↔ Skips mamAttributes (mamOld.drop mamSize) ∧
      Skips mhvtlAttributes (mhvtlOld.drop mhvtlSize)) ∧ ReadsStored := by
  refine ⟨⟨fun h => ?_, fun h m x hm => ?_⟩, reads_stored⟩
  · have hboth := fun (y : Mam) (hy : y.Fits) => leftover_harmless h hy
    exact ⟨Skips.of_read fun y hy => (hboth y hy).1, Skips.of_read fun y hy => (hboth y hy).2⟩
  · rw [read_write_mam hm, h.1.read, h.2.read, if_neg (by simp), copy_all]
    · rfl
    · rfl

/-- Two bytes left over from an older file, whose last attribute was longer, are taken
for an identifier without a length. -/
theorem longer_file_not_read : ¬ RoundTrips (mamImage Mam.zero ++ [0, 0]) (mhvtlImage Mam.zero) := by
  intro h
  have hzero : Mam.zero.Fits := ⟨by decide, by decide⟩
  have hleft := (leftover_harmless h hzero).1
  have hdrop : (mamImage Mam.zero ++ [0, 0]).drop mamSize = [0, 0] := List.drop_left
  rw [hdrop, readAttributes] at hleft
  cases congrArg Prod.fst hleft

end Mhvtl
