import Mhvtl.Lib.Walk
import Mhvtl.Ssc.BlockProtection
import Mhvtl.Ssc.Lifetime
import Mhvtl.Ssc.ReadAttribute
import Mhvtl.Ssc.Reformat

/-!
# What WRITE ATTRIBUTE sets

A list of attributes is taken one by one. Each replaces the front of its field, and the first
that cannot be written takes back those before it.
-/

namespace Mhvtl.Ssc

open Bytes Cart

/-- The identifier of a listed attribute. -/
def listedId (e : Walk.Entry UInt8) : ℕ := beNat (e.header.take 2)

/-- The length in the header of a listed attribute. -/
def listedLength (header : List UInt8) : ℕ := beNat (header.drop 3)

/-- The attributes of a parameter list, when the last of them ends where the list does. -/
def listed (alloc_len : ℕ) (buf : ℕ → UInt8) : Option (List (Walk.Entry UInt8)) :=
  Walk.walk 4 listedLength (bytesAt buf 4 (alloc_len - 4))

/-- The attribute can be written. -/
def Settable (e : Walk.Entry UInt8) : Prop :=
  ∃ a ∈ mamAttributes, a.attribute_id = listedId e ∧ a.read_only = false

instance (e : Walk.Entry UInt8) : Decidable (Settable e) := List.decidableBEx _ _

/-- The last value that is listed for an identifier. -/
def lastListed (attribute_id : ℕ) (es : List (Walk.Entry UInt8)) : Option (List UInt8) :=
  ((es.filter fun e => listedId e == attribute_id).getLast?).map (·.body)

/-- The medium becomes a write-once one. -/
def ConvertsMedium (a : MamAttr) (sent : List UInt8) : Prop :=
  a.attribute_id = MEDIUM_TYPE ∧ sent = [0x80]

instance (a : MamAttr) (sent : List UInt8) : Decidable (ConvertsMedium a sent) := instDecidableAnd

/-- How a value that was sent is read back. -/
structure ReadsSent (a : MamAttr) (sent value : List UInt8) : Prop where
  /-- It fills the field. -/
  length : value.length = a.field.length
  /-- The type of a medium that was made a write-once one. -/
  converted : ConvertsMedium a sent → value = [MEDIA_TYPE_WORM]
  /-- Otherwise the value begins with what the field holds of it. -/
  front : ¬ConvertsMedium a sent → sent.take a.field.length <+: value

/-- A list of attributes was written for partition `p`. -/
structure ListWritten (L : Libs) (p : ℕ) (es : List (Walk.Entry UInt8)) (d d' : Drive) : Prop where
  /-- The values. -/
  values : ∀ a ∈ mamAttributes, ∀ sent, lastListed a.attribute_id es = some sent →
    ∃ value, mam_attr_value L d' a p = some value ∧ ReadsSent a sent value
  /-- The attributes that are not listed. -/
  unlisted : ∀ a ∈ mamAttributes, lastListed a.attribute_id es = none →
    d'.cart.mam.bytes (attrField a p) = d.cart.mam.bytes (attrField a p)
  /-- The coherency information of other partitions. -/
  others : ∀ q ≠ p, ∀ f, coherencyRecord q = some f → d'.cart.mam.bytes f = d.cart.mam.bytes f

section Entries

variable {p : ℕ} {m : Mam} {a : MamAttr} {e : Walk.Entry UInt8}

/-- What an attribute is set to. -/
def takenValue (a : MamAttr) (sent : List UInt8) : List UInt8 :=
  if ConvertsMedium a sent then [MEDIA_TYPE_WORM] else sent.take a.field.length

/-- An attribute of the list is set. -/
def writeListed (p : ℕ) (m : Mam) (e : Walk.Entry UInt8) : Mam :=
  ((lookup mamAttributes (listedId e)).map fun a =>
    m.put (attrField a p) (takenValue a e.body)).getD m

/-- What is set fits the field. -/
theorem takenValue_length (ha : a ∈ mamAttributes) (sent : List UInt8) (p : ℕ) :
    (takenValue a sent).length ≤ (attrField a p).length := by
  have hone : ∀ a ∈ mamAttributes, a.attribute_id = MEDIUM_TYPE → a.field.length = 1 := by decide
  rw [attrField_length ha, takenValue]
  split
  · next hconv =>
    rw [hone a ha hconv.1]
    rfl
  · exact List.length_take_le _ _

/-- Coherency records beside the first are no attributes of the table. -/
def spareRecords : List MamField :=
  [.VolumeCoherencyInformation1, .VolumeCoherencyInformation2, .VolumeCoherencyInformation3]

/-- The field of an attribute is its own, but for the coherency information. -/
theorem attrField_cases (a : MamAttr) (p : ℕ) : attrField a p = a.field ∨
    a.attribute_id = VOLUME_COHERENCY ∧ attrField a p ∈ spareRecords := by
  rw [attrField.eq_def]
  split
  · next hid =>
    split
    · exact Or.inr ⟨hid, by decide⟩
    · exact Or.inr ⟨hid, by decide⟩
    · exact Or.inr ⟨hid, by decide⟩
    · exact Or.inl rfl
  · exact Or.inl rfl

/-- Every attribute has a field of its own. -/
theorem attrField_inj {b : MamAttr} (ha : a ∈ mamAttributes) (hb : b ∈ mamAttributes)
    (h : attrField a p = attrField b p) : a = b := by
  have hspare : ∀ a ∈ mamAttributes, a.field ∉ spareRecords := by decide
  rcases attrField_cases a p with hown | ⟨hid, hrecord⟩
  · rcases attrField_cases b p with hown' | ⟨-, hrecord'⟩
    · exact List.inj_on_of_nodup_map mamAttributes_sound.fields ha hb
        (hown.symm.trans (h.trans hown'))
    · rw [← h, hown] at hrecord'
      exact absurd hrecord' (hspare a ha)
  · rcases attrField_cases b p with hown' | ⟨hid', -⟩
    · rw [h, hown'] at hrecord
      exact absurd hrecord (hspare b hb)
    · exact List.inj_on_of_nodup_map table_nodup ha hb (hid.trans hid'.symm)

/-- The attribute of an identifier. -/
theorem lookup_listed (ha : a ∈ mamAttributes) (hid : listedId e = a.attribute_id) :
    lookup mamAttributes (listedId e) = some a := by
  rw [hid]
  exact mamAttributes_sound.lookup ha

/-- The attribute that is listed gets its value. -/
theorem writeListed_same (ha : a ∈ mamAttributes) (hid : listedId e = a.attribute_id) :
    writeListed p m e = m.put (attrField a p) (takenValue a e.body) := by
  rw [writeListed, lookup_listed ha hid]
  rfl

/-- All fields but the one of the listed attribute stay. -/
theorem writeListed_outside {f : MamField}
    (hf : ∀ b ∈ mamAttributes, b.attribute_id = listedId e → attrField b p ≠ f) :
    (writeListed p m e).bytes f = m.bytes f := by
  rw [writeListed]
  cases hb : lookup mamAttributes (listedId e) with
  | none => rfl
  | some b =>
    obtain ⟨hmem, hid⟩ := lookup_some hb
    exact Mam.bytes_put_other m _ (hf b hmem hid).symm

/-- Another attribute stays. -/
theorem writeListed_other (ha : a ∈ mamAttributes) (hid : listedId e ≠ a.attribute_id) :
    (writeListed p m e).bytes (attrField a p) = m.bytes (attrField a p) := by
  apply writeListed_outside
  intro b hb hbid hfield
  rw [attrField_inj hb ha hfield] at hbid
  exact hid hbid.symm

/-- Setting attributes leaves the versions alone. -/
theorem writeListed_versions : (writeListed p m e).tape_fmt_version = m.tape_fmt_version ∧
    (writeListed p m e).mam_fmt_version = m.mam_fmt_version := by
  rw [writeListed]
  cases lookup mamAttributes (listedId e) with
  | none => exact ⟨rfl, rfl⟩
  | some b => exact ⟨rfl, rfl⟩

end Entries

section Lists

variable {p : ℕ} {m : Mam} {a : MamAttr} {es : List (Walk.Entry UInt8)}

/-- The attributes after a list. -/
def writeList (p : ℕ) (m : Mam) (es : List (Walk.Entry UInt8)) : Mam := es.foldl (writeListed p) m

/-- The last value of a list with one more attribute. -/
theorem lastListed_append (attribute_id : ℕ) (es : List (Walk.Entry UInt8)) (e : Walk.Entry UInt8) :
    lastListed attribute_id (es ++ [e]) =
      if listedId e = attribute_id then some e.body else lastListed attribute_id es := by
  rw [lastListed, lastListed, List.filter_append, List.filter_singleton]
  by_cases hid : listedId e = attribute_id
  · simp [hid]
  · rw [if_neg hid, beq_eq_false_iff_ne.mpr hid, cond_false, List.append_nil]

/-- A value that was found is listed. -/
theorem exists_of_lastListed {attribute_id : ℕ} {sent : List UInt8}
    (h : lastListed attribute_id es = some sent) : ∃ e ∈ es, listedId e = attribute_id := by
  obtain ⟨e, he, -⟩ := Option.map_eq_some_iff.mp h
  obtain ⟨hmem, hid⟩ := List.mem_filter.mp (List.mem_of_getLast? he)
  exact ⟨e, hmem, of_decide_eq_true hid⟩

/-- An attribute that is not listed stays. -/
theorem writeList_unlisted (ha : a ∈ mamAttributes) (h : lastListed a.attribute_id es = none) :
    (writeList p m es).bytes (attrField a p) = m.bytes (attrField a p) := by
  induction es using List.reverseRecOn with
  | nil => rfl
  | append_singleton es e ih =>
    rw [lastListed_append] at h
    split at h
    · exact absurd h (Option.some_ne_none _)
    · next hid =>
      rw [writeList, List.foldl_append, List.foldl_cons, List.foldl_nil, writeListed_other ha hid]
      exact ih h

/-- A listed attribute has the last value in front. -/
theorem writeList_last (ha : a ∈ mamAttributes) {sent : List UInt8}
    (h : lastListed a.attribute_id es = some sent) :
    takenValue a sent <+: (writeList p m es).bytes (attrField a p) := by
  induction es using List.reverseRecOn with
  | nil => exact absurd h.symm (Option.some_ne_none sent)
  | append_singleton es e ih =>
    rw [lastListed_append] at h
    rw [writeList, List.foldl_append, List.foldl_cons, List.foldl_nil]
    split at h
    · next hid =>
      rw [writeListed_same ha hid, Mam.bytes_put _ (takenValue_length ha e.body p),
        Option.some.inj h]
      exact List.prefix_append _ _
    · next hid =>
      rw [writeListed_other ha hid]
      exact ih h

/-- A field that belongs to none of the listed attributes stays. -/
theorem writeList_outside {f : MamField}
    (hf : ∀ a ∈ mamAttributes, (∃ e ∈ es, listedId e = a.attribute_id) → attrField a p ≠ f) :
    (writeList p m es).bytes f = m.bytes f := by
  induction es generalizing m with
  | nil => rfl
  | cons e es ih =>
    have hrest := @ih (writeListed p m e) fun a ha ⟨x, hx, hid⟩ =>
      hf a ha ⟨x, List.mem_cons_of_mem e hx, hid⟩
    rw [writeList, List.foldl_cons]
    refine hrest.trans (writeListed_outside fun a ha hid => ?_)
    exact hf a ha ⟨e, List.mem_cons_self, hid.symm⟩

/-- The versions stay. -/
theorem writeList_versions : (writeList p m es).tape_fmt_version = m.tape_fmt_version ∧
    (writeList p m es).mam_fmt_version = m.mam_fmt_version := by
  induction es generalizing m with
  | nil => exact ⟨rfl, rfl⟩
  | cons e es ih =>
    rw [writeList, List.foldl_cons]
    exact ⟨(@ih (writeListed p m e)).1.trans writeListed_versions.1,
      (@ih (writeListed p m e)).2.trans writeListed_versions.2⟩

/-- Every partition has a coherency record of its own. -/
theorem coherencyRecord_inj {q : ℕ} {f : MamField} (hp : coherencyRecord p = some f)
    (hq : coherencyRecord q = some f) : p = q := by
  have hfour : ∀ {k : ℕ}, coherencyRecord k = some f → k < 4 := by
    intro k hk
    rcases k with _ | _ | _ | _ | k
    · decide
    · decide
    · decide
    · decide
    · exact absurd hk.symm (Option.some_ne_none f)
  have hinj : ∀ p < 4, ∀ q < 4, coherencyRecord p = coherencyRecord q → p = q := by decide
  exact hinj p (hfour hp) q (hfour hq) (hp.trans hq.symm)

/-- Attributes of one partition are not the coherency record of another. -/
theorem attrField_ne_record {q : ℕ} {f : MamField} (ha : a ∈ mamAttributes) (hp : p < MAX_PARTITIONS)
    (hpq : q ≠ p) (hf : coherencyRecord q = some f) : attrField a p ≠ f := by
  have hspare : ∀ a ∈ mamAttributes, a.field ∉ spareRecords := by decide
  rintro rfl
  obtain ⟨c, hc, hcid⟩ : ∃ c ∈ mamAttributes, c.attribute_id = VOLUME_COHERENCY := by decide
  have hother := coherencyRecord_eq hc hcid q
  rw [hf] at hother
  split at hother
  · have hsame := Option.some.inj hother
    have hac : a = c := by
      rcases attrField_cases a p with hown | ⟨hid, -⟩
      · rcases attrField_cases c q with hown' | ⟨-, hrecord⟩
        · exact List.inj_on_of_nodup_map mamAttributes_sound.fields ha hc
            (hown.symm.trans (hsame.trans hown'))
        · rw [← hsame, hown] at hrecord
          exact absurd hrecord (hspare a ha)
      · exact List.inj_on_of_nodup_map table_nodup ha hc (hid.trans hcid.symm)
    have hmine := coherencyRecord_eq hc hcid p
    rw [if_pos hp, ← hac] at hmine
    exact hpq (coherencyRecord_inj hf hmine)
  · exact absurd hother (Option.some_ne_none _)

/-- The value of an attribute that can be written is in its field. -/
theorem mam_attr_value_writable {L : Libs} {d : Drive} (ha : a ∈ mamAttributes) (hro : a.read_only = false) :
    mam_attr_value L d a p = some (d.cart.mam.bytes (attrField a p)) := by
  have hlate : ∀ a ∈ mamAttributes, a.read_only = false → 0x001 < a.attribute_id := by decide
  have hpos := hlate a ha hro
  rw [mam_attr_value, if_neg (by omega), if_neg (by omega)]

/-- A list that was taken over is written. -/
theorem listWritten_of {L : Libs} {d d' : Drive} (hp : p < MAX_PARTITIONS)
    (hset : ∀ e ∈ es, Settable e) (hmam : d'.cart.mam = writeList p d.cart.mam es) :
    ListWritten L p es d d' := by
  refine ⟨fun a ha sent hsent => ?_, fun a ha hnone => ?_, fun q hq f hf => ?_⟩
  · obtain ⟨e, he, hid⟩ := exists_of_lastListed hsent
    obtain ⟨b, hb, hbid, hro⟩ := hset e he
    obtain rfl := List.inj_on_of_nodup_map table_nodup hb ha (hbid.trans hid)
    have hvalue : mam_attr_value L d' b p = some (d'.cart.mam.bytes (attrField b p)) :=
      mam_attr_value_writable hb hro
    have hlast := @writeList_last p d.cart.mam b es hb sent hsent
    rw [← hmam] at hlast
    refine ⟨_, hvalue, mam_attr_value_length hb hvalue, fun hconv => ?_, fun hconv => ?_⟩
    · rw [takenValue, if_pos hconv] at hlast
      have hone : ∀ a ∈ mamAttributes, a.attribute_id = MEDIUM_TYPE → a.field.length = 1 := by decide
      have hlength := mam_attr_value_length hb hvalue
      rw [hone b hb hconv.1] at hlength
      exact (hlast.eq_of_length hlength.symm).symm
    · rwa [takenValue, if_neg hconv] at hlast
  · rw [hmam]
    exact writeList_unlisted ha hnone
  · rw [hmam]
    exact writeList_outside fun a ha _ => attrField_ne_record ha hp hq hf

end Lists

section Parameters

variable {p n i : ℕ} {buf : ℕ → UInt8} {m : Mam} {a : MamAttr} {rest : List UInt8}

/-- The front of a stretch of memory. -/
theorem bytesAt_take (buf : ℕ → UInt8) (start n k : ℕ) :
    (bytesAt buf start n).take k = bytesAt buf start (min k n) := by
  rw [bytesAt, ← List.map_take, List.take_range]
  rfl

/-- An attribute takes its value, unless it is read-only. -/
theorem takeAttribute_listed (ha : a ∈ mamAttributes) {value : ℕ → UInt8} {len : ℕ} :
    takeAttribute m p a value len = if a.read_only then none
      else some (m.put (attrField a p) (takenValue a (bytesAt value 0 len))) := by
  have htype : ∀ a ∈ mamAttributes, a.attribute_id = MEDIUM_TYPE →
      a.read_only = false ∧ a.field = .MediumType := by decide
  have hconv : ConvertsMedium a (bytesAt value 0 len) ↔
      a.attribute_id = MEDIUM_TYPE ∧ len = 1 ∧ value 0 = 0x80 := by
    rw [ConvertsMedium]
    refine and_congr_right fun _ => ⟨fun h => ?_, ?_⟩
    · have hlen := congrArg List.length h
      rw [bytesAt_length] at hlen
      obtain rfl : len = 1 := hlen
      exact ⟨rfl, List.head_eq_of_cons_eq h⟩
    · rintro ⟨rfl, hvalue⟩
      exact congrArg (· :: []) hvalue
  rw [takeAttribute, takenValue, bytesAt_take]
  by_cases h : ConvertsMedium a (bytesAt value 0 len)
  · obtain ⟨hro, hfield⟩ := htype a ha h.1
    have hown : attrField a p = .MediumType := by
      rw [attrField.eq_def, if_neg (by rw [h.1]; decide), hfield]
    rw [if_pos (hconv.mp h), if_pos h, hro, hown]
    rfl
  · rw [if_neg (fun h' => h (hconv.mpr h')), if_neg h]

/-- One entry of a list in memory. -/
theorem entry_at {e : Walk.Entry UInt8} (he : e.Sized 4 listedLength)
    (h : bytesAt buf i (n - i) = e.header ++ e.body ++ rest) :
    i < n ∧ beNat (bytesAt buf i 2) = listedId e ∧ beNat (bytesAt buf (i + 3) 2) = e.body.length ∧
      bytesAt (fun j => buf (i + 5 + j)) 0 e.body.length = e.body ∧
      bytesAt buf (i + 5 + e.body.length) (n - (i + 5 + e.body.length)) = rest := by
  obtain ⟨hheader, hbody⟩ := he
  have hlength := congrArg List.length h
  rw [bytesAt_length, List.length_append, List.length_append, hheader] at hlength
  have hsplit : n - i = 5 + e.body.length + (n - (i + 5 + e.body.length)) := by omega
  rw [hsplit, bytesAt_add, bytesAt_add] at h
  obtain ⟨hfront, hrest⟩ := List.append_inj h (by
    rw [List.length_append, List.length_append, bytesAt_length, bytesAt_length, hheader])
  obtain ⟨hhead, hvalue⟩ := List.append_inj hfront (by rw [bytesAt_length, hheader])
  have hid : bytesAt buf i 2 = e.header.take 2 := by
    rw [← hhead, bytesAt_take]
    rfl
  have hlen : bytesAt buf (i + 3) 2 = e.header.drop 3 := by
    have hcut : bytesAt buf i 5 = bytesAt buf i 3 ++ bytesAt buf (i + 3) 2 := bytesAt_add buf i 3 2
    rw [← hhead, hcut, List.drop_left' (bytesAt_length buf i 3)]
  refine ⟨by omega, by rw [hid, listedId], by rw [hlen, hbody, listedLength], ?_, ?_⟩
  · refine Eq.trans (List.map_congr_left fun j _ => ?_) hvalue
    rw [Nat.zero_add]
  · rw [← hrest, Nat.add_assoc]

/-- An attribute that can be written is taken. -/
theorem takeAttributes_settable {e : Walk.Entry UInt8} (he : e.Sized 4 listedLength)
    (h : bytesAt buf i (n - i) = e.header ++ e.body ++ rest) (hset : Settable e) :
    takeAttributes p n buf i m = takeAttributes p n buf (i + 5 + e.body.length) (writeListed p m e) := by
  obtain ⟨hin, hid, hlen, hvalue, -⟩ := entry_at he h
  obtain ⟨a, ha, haid, hro⟩ := hset
  have hfind : mamAttributes.find? (fun a => a.attribute_id == beNat (bytesAt buf i 2)) = some a := by
    rw [hid]
    exact lookup_listed ha haid.symm
  have htake : takeAttribute m p a (fun j => buf (i + 5 + j)) e.body.length =
      some (writeListed p m e) := by
    rw [takeAttribute_listed ha, hvalue, hro, writeListed_same ha haid.symm]
    rfl
  rw [takeAttributes, if_neg (Nat.not_le_of_lt hin), hfind]
  simp only [hlen, htake]

/-- The field at fault. -/
def refusedField (i : ℕ) (e : Walk.Entry UInt8) : ℕ :=
  if (lookup mamAttributes (listedId e)).isSome then i else mamAttributes.length - 1

/-- An attribute that cannot be written is refused. -/
theorem takeAttributes_refused {e : Walk.Entry UInt8} (he : e.Sized 4 listedLength)
    (h : bytesAt buf i (n - i) = e.header ++ e.body ++ rest) (hset : ¬Settable e) :
    takeAttributes p n buf i m = .inr (refusedField i e) := by
  obtain ⟨hin, hid, hlen, hvalue, -⟩ := entry_at he h
  rw [takeAttributes, if_neg (Nat.not_le_of_lt hin), hid, refusedField, lookup]
  cases hfind : mamAttributes.find? fun a => a.attribute_id == listedId e with
  | none => rfl
  | some a =>
    obtain ⟨ha, haid⟩ := lookup_some hfind
    have hro : a.read_only = true := by
      by_contra hwrite
      exact hset ⟨a, ha, haid, Bool.eq_false_iff.mpr hwrite⟩
    have htake : takeAttribute m p a (fun j => buf (i + 5 + j)) e.body.length = none := by
      rw [takeAttribute_listed ha, hro]
      rfl
    simp only [hlen, htake, Option.isSome_some, if_true]

/-- A list is taken when all its attributes can be written. -/
theorem takeAttributes_all {es : List (Walk.Entry UInt8)} (hes : ∀ e ∈ es, e.Sized 4 listedLength)
    (h : bytesAt buf i (n - i) = Walk.cells es) (hset : ∀ e ∈ es, Settable e) :
    takeAttributes p n buf i m = .inl (writeList p m es) := by
  induction es generalizing i m with
  | nil =>
    have hlength := congrArg List.length h
    rw [bytesAt_length] at hlength
    have hend : n ≤ i := Nat.le_of_sub_eq_zero hlength
    rw [takeAttributes, if_pos hend]
    rfl
  | cons e es ih =>
    have hcells : bytesAt buf i (n - i) = e.header ++ e.body ++ Walk.cells es := h
    have hsized := hes e List.mem_cons_self
    rw [takeAttributes_settable hsized hcells (hset e List.mem_cons_self)]
    exact ih (fun x hx => hes x (List.mem_cons_of_mem e hx)) (entry_at hsized hcells).2.2.2.2
      fun x hx => hset x (List.mem_cons_of_mem e hx)

/-- It is refused when one of them cannot be, whatever stands behind that. -/
theorem takeAttributes_some {es : List (Walk.Entry UInt8)} (hes : ∀ e ∈ es, e.Sized 4 listedLength)
    (h : bytesAt buf i (n - i) = Walk.cells es ++ rest) (hset : ∃ e ∈ es, ¬Settable e) :
    ∃ field, ∀ m, takeAttributes p n buf i m = .inr field := by
  induction es generalizing i with
  | nil =>
    obtain ⟨e, he, -⟩ := hset
    exact absurd he List.not_mem_nil
  | cons e es ih =>
    have hcells : bytesAt buf i (n - i) = e.header ++ e.body ++ (Walk.cells es ++ rest) := by
      rw [h, Walk.cells, List.flatMap_cons, List.append_assoc]
      rfl
    have hsized := hes e List.mem_cons_self
    by_cases hfirst : Settable e
    · have hlater : ∃ x ∈ es, ¬Settable x := by
        obtain ⟨x, hx, hno⟩ := hset
        rcases List.mem_cons.mp hx with rfl | hx
        · exact absurd hfirst hno
        · exact ⟨x, hx, hno⟩
      obtain ⟨field, hfield⟩ := ih (fun x hx => hes x (List.mem_cons_of_mem e hx))
        (entry_at hsized hcells).2.2.2.2 hlater
      exact ⟨field, fun m => by rw [takeAttributes_settable hsized hcells hfirst, hfield]⟩
    · exact ⟨_, fun m => takeAttributes_refused hsized hcells hfirst⟩

/-- A list that ends where its last attribute does is read no further. -/
theorem takeAttributes_inside {buf' : ℕ → UInt8} {es : List (Walk.Entry UInt8)}
    (hes : ∀ e ∈ es, e.Sized 4 listedLength) (h : bytesAt buf i (n - i) = Walk.cells es)
    (hsame : ∀ j < n, buf' j = buf j) :
    takeAttributes p n buf' i m = takeAttributes p n buf i m := by
  have hbytes : ∀ i, bytesAt buf' i (n - i) = bytesAt buf i (n - i) := by
    intro i
    apply List.map_congr_left
    intro j hj
    have hlt := List.mem_range.mp hj
    exact hsame _ (by omega)
  induction es generalizing i m with
  | nil =>
    have hlength := congrArg List.length h
    rw [bytesAt_length] at hlength
    have hend : n ≤ i := Nat.le_of_sub_eq_zero hlength
    rw [takeAttributes, takeAttributes, if_pos hend, if_pos hend]
  | cons e es ih =>
    have hcells : bytesAt buf i (n - i) = e.header ++ e.body ++ Walk.cells es := h
    have hcells' : bytesAt buf' i (n - i) = e.header ++ e.body ++ Walk.cells es :=
      (hbytes i).trans h
    have hsized := hes e List.mem_cons_self
    by_cases hset : Settable e
    · rw [takeAttributes_settable hsized hcells hset, takeAttributes_settable hsized hcells' hset]
      exact ih (fun x hx => hes x (List.mem_cons_of_mem e hx)) (entry_at hsized hcells).2.2.2.2
    · rw [takeAttributes_refused hsized hcells hset, takeAttributes_refused hsized hcells' hset]

end Parameters

section Command

variable {P : LoadRules} {L : Libs} {d d' : Drive} {cdb : Cdb} {buf : ℕ → UInt8} {found : Bool}
variable {es : List (Walk.Entry UInt8)} {p : ℕ} {a : MamAttr}

/-- A cartridge is in the drive with its attribute files open, as long as their images, and every
host call succeeds. -/
structure Attached (d : Drive) : Prop where
  /-- It is loaded. -/
  loaded : d.load_status = TAPE_LOADED
  /-- The formats are up to date. -/
  versions : d.cart.mam.tape_fmt_version = TAPE_FMT_VERSION ∧
    d.cart.mam.mam_fmt_version = MAM_VERSION
  /-- The attribute files can be rewritten. -/
  sized : Sized d.cart
  /-- They are open. -/
  files : d.cart.mamfile = true ∧ d.cart.mhvtlfile = true
  /-- So is the data file. -/
  data : d.cart.fd .data d.cart.partition_id = true
  /-- The host calls. -/
  io : d.cart.io = []

/-- A complete list of attributes that can be written, for a partition that the medium has. -/
structure GoodList (d : Drive) (cdb : Cdb) (buf : ℕ → UInt8) (es : List (Walk.Entry UInt8)) :
    Prop where
  /-- The last attribute ends where the list does. -/
  complete : listed (beNat (bytesAt cdb 10 4)) buf = some es
  /-- All can be written. -/
  settable : ∀ e ∈ es, Settable e
  /-- The partition is there. -/
  partition : (cdb 7).toNat < partitionCount d.cart.mam

/-- READ ATTRIBUTE from an attribute on begins with this value of it, for every allocation length with
room for it that is not below zero as an `int`. -/
def AnswersWith (L : Libs) (d : Drive) (p : ℕ) (a : MamAttr) (value : List UInt8) : Prop :=
  ∀ cdb : Cdb, cdb 1 = 0 → (cdb 7).toNat = p → beNat (bytesAt cdb 8 2) = a.attribute_id →
    4 + attrSize a ≤ beNat (bytesAt cdb 10 4) → beNat (bytesAt cdb 10 4) < 2 ^ 31 →
    ∃ answer size rest,
      ssc_read_attributes L d cdb = some answer ∧
        answer.buf = beBytes 4 size ++ (attrHeader a ++ value ++ rest)

/-- WRITE ATTRIBUTE takes a list as a whole or not at all, and keeps what it takes. -/
structure WritesExactly (P : LoadRules) (L : Libs) (d : Drive) (cdb : Cdb) (buf : ℕ → UInt8)
    (found : Bool) : Prop where
  /-- With an attribute that cannot be written, nothing but the status changes. -/
  refused : ∀ es rest, (∀ e ∈ es, e.Sized 4 listedLength) →
    bytesAt buf 4 (beNat (bytesAt cdb 10 4) - 4) = Walk.cells es ++ rest →
    (∃ e ∈ es, ¬Settable e) → ∃ st, ssc_write_attributes d cdb buf found = d.report st
  /-- Nothing behind a complete list matters. -/
  inside : ∀ es, listed (beNat (bytesAt cdb 10 4)) buf = some es → ∀ buf',
    (∀ j < beNat (bytesAt cdb 10 4), buf' j = buf j) →
    ssc_write_attributes d cdb buf' found = ssc_write_attributes d cdb buf found
  /-- The attributes are set. -/
  written : ∀ es, GoodList d cdb buf es →
    ListWritten L (cdb 7).toNat es d (ssc_write_attributes d cdb buf found)
  /-- READ ATTRIBUTE tells so. -/
  answered : ∀ es, GoodList d cdb buf es → ∀ a ∈ mamAttributes,
    lastListed a.attribute_id es ≠ none → ∀ value,
    mam_attr_value L (ssc_write_attributes d cdb buf found) a (cdb 7).toNat = some value →
    AnswersWith L (ssc_write_attributes d cdb buf found) (cdb 7).toNat a value
  /-- They are in the files. -/
  stored : ∀ es ≠ [], GoodList d cdb buf es →
    Stored (ssc_write_attributes d cdb buf found).cart.dir
      (ssc_write_attributes d cdb buf found).cart.mam
  /-- They are there when the cartridge was taken out and comes back. -/
  survive : ∀ es, GoodList d cdb buf es → ∀ d₁ r d₂,
    unloadTape P (ssc_write_attributes d cdb buf found) = some d₁ → r.pcl = d₁.cart.dir →
    loadTape P L d₁ r = some (0, d₂) → ∀ a ∈ mamAttributes, lastListed a.attribute_id es ≠ none →
    mam_attr_value L d₂ a (cdb 7).toNat =
      mam_attr_value L (ssc_write_attributes d cdb buf found) a (cdb 7).toNat

/-- A complete list consists of its attributes. -/
theorem listed_iff {n : ℕ} : listed n buf = some es ↔
    (∀ e ∈ es, e.Sized 4 listedLength) ∧ bytesAt buf 4 (n - 4) = Walk.cells es := by
  rw [listed, Walk.walk_iff]
  exact and_congr_right fun _ => eq_comm

/-- The drive after a list that was taken. -/
theorem write_attributes_taken (h : Attached d) {m : Mam}
    (htake : takeAttributes (cdb 7).toNat (beNat (bytesAt cdb 10 4)) buf 4 d.cart.mam = .inl m) :
    ssc_write_attributes d cdb buf found =
      (if beNat (bytesAt cdb 10 4) ≤ 4 ∧ !found then d.setMam fun _ => m
        else (d.setMam fun _ => m).onCart fun c => { c with dir := { c.dir with
          mam := some (mamImage m), mhvtl_data := some (mhvtlImage m) } }).returns SAM_STAT_GOOD := by
  have hin : d.load_status ≠ TAPE_UNLOADED := by
    rw [h.loaded]
    decide
  let c : Store := { d.declare_ssc_vars.cart with mam := m }
  have hio : c.io = [] := h.io
  have hwhole : c.rewriteMAM.2 = { c with dir := { c.dir with
      mam := some (mamImage m), mhvtl_data := some (mhvtlImage m) } } := by
    have hrun := rewriteMAM_whole (c := c) h.sized h.files h.data
      (by rw [hio]; exact fun r hr => absurd hr List.not_mem_nil)
    rw [hio, List.tail_nil, ← hio] at hrun
    exact hrun
  unfold ssc_write_attributes
  extract_lets e
  rw [if_neg (show ¬e.load_status = TAPE_UNLOADED from hin),
    if_neg (show ¬e.load_status ≠ TAPE_LOADED from not_not_intro h.loaded), resp_write_attribute,
    show e.cart.mam = d.cart.mam from rfl, htake]
  dsimp only
  split
  · rfl
  · have hcart : ((e.setMam fun _ => m).onCart fun c => c.rewriteMAM.2) =
        { e with cart := c.rewriteMAM.2 } := rfl
    rw [hcart, hwhole]
    rfl

/-- A list that is not taken changes the status at most. -/
theorem write_attributes_refused (hload : d.load_status = TAPE_LOADED) {field : ℕ}
    (htake : takeAttributes (cdb 7).toNat (beNat (bytesAt cdb 10 4)) buf 4 d.cart.mam = .inr field) :
    ∃ st, ssc_write_attributes d cdb buf found = d.report st := by
  have hin : d.load_status ≠ TAPE_UNLOADED := by
    rw [hload]
    decide
  unfold ssc_write_attributes
  extract_lets e
  rw [if_neg (show ¬e.load_status = TAPE_UNLOADED from hin),
    if_neg (show ¬e.load_status ≠ TAPE_LOADED from not_not_intro hload), resp_write_attribute,
    show e.cart.mam = d.cart.mam from rfl, htake]
  exact ⟨_, rfl⟩

/-- Only what is taken matters. -/
theorem write_attributes_congr {buf' : ℕ → UInt8}
    (h : takeAttributes (cdb 7).toNat (beNat (bytesAt cdb 10 4)) buf' 4 d.cart.mam =
      takeAttributes (cdb 7).toNat (beNat (bytesAt cdb 10 4)) buf 4 d.cart.mam) :
    ssc_write_attributes d cdb buf' found = ssc_write_attributes d cdb buf found := by
  unfold ssc_write_attributes resp_write_attribute
  extract_lets e
  rw [show e.cart.mam = d.cart.mam from rfl, h]

/-- Attributes that do not depend on capacities always have values. -/
theorem attributeValues_defined {alloc_len n : ℕ} {l : List MamAttr}
    (h : ∀ b ∈ l, 0x001 < b.attribute_id) : ∃ r, attributeValues L d p alloc_len l n = some r := by
  induction l generalizing n with
  | nil => exact ⟨_, rfl⟩
  | cons b l ih =>
    have hb := h b List.mem_cons_self
    obtain ⟨r, hr⟩ := @ih (n + b.field.length + 5) fun x hx => h x (List.mem_cons_of_mem b hx)
    have hvalue : mam_attr_value L d b p = some (d.cart.mam.bytes (attrField b p)) := by
      rw [mam_attr_value, if_neg (by omega), if_neg (by omega)]
    simp only [attributeValues, hvalue, hr]
    split
    · exact ⟨_, rfl⟩
    · exact ⟨_, rfl⟩

/-- READ ATTRIBUTE from an attribute on that can be written. -/
theorem answersWith_of (hload : d.load_status = TAPE_LOADED) (hp : p ≤ d.cart.mam.num_partitions)
    (ha : a ∈ mamAttributes) (hro : a.read_only = false) {value : List UInt8}
    (hvalue : mam_attr_value L d a p = some value) : AnswersWith L d p a value := by
  have htable : ∀ a ∈ mamAttributes, a.read_only = false →
      ((attributesFrom a.attribute_id).map (·.attribute_id)).head? = some a.attribute_id ∧
        ∀ b ∈ attributesFrom a.attribute_id, 0x001 < b.attribute_id := by decide
  rintro cdb hcdb rfl hid hroom hlen
  obtain ⟨hhead, hlate⟩ := htable a ha hro
  cases hfrom : attributesFrom a.attribute_id with
  | nil =>
    rw [hfrom] at hhead
    exact absurd hhead.symm (Option.some_ne_none _)
  | cons b l =>
    rw [hfrom] at hhead hlate
    have hb : b ∈ mamAttributes := by
      apply (attributesFrom_suffix a.attribute_id).subset
      rw [hfrom]
      exact List.mem_cons_self
    obtain rfl := List.inj_on_of_nodup_map table_nodup hb ha (Option.some.inj hhead)
    obtain ⟨r, hr⟩ := @attributeValues_defined L d.declare_ssc_vars (cdb 7).toNat
      (beNat (bytesAt cdb 10 4)) (4 + b.field.length + 5) l fun x hx =>
        hlate x (List.mem_cons_of_mem b hx)
    have hfits : 4 + b.field.length + 5 ≤ beNat (bytesAt cdb 10 4) := by
      rw [attrSize] at hroom
      omega
    have hvalues : attributeValues L d.declare_ssc_vars (cdb 7).toNat (beNat (bytesAt cdb 10 4))
        (b :: l) 4 = some (r.1, attrHeader b ++ value ++ r.2) := by
      have hvalue' : mam_attr_value L d.declare_ssc_vars b (cdb 7).toNat = some value := hvalue
      simp only [attributeValues, if_pos hfits, hvalue', hr]
      rfl
    have hmasked : cdb 1 &&& 0x1f = 0 := by
      rw [hcdb]
      rfl
    have hfound : attributesFrom (beNat (bytesAt cdb 8 2)) = b :: l := by rw [hid, hfrom]
    have hanswer := (resp_read_attribute_values (L := L) (d := d.declare_ssc_vars) hlen hcdb
      (by rw [hfound]; exact List.cons_ne_nil b l)).mp rfl
    rw [hfound, hvalues] at hanswer
    rcases @ssc_read_attributes_cases L d cdb hload (Or.inl hmasked) with ⟨hout, -⟩ | ⟨-, hresp⟩
    · exact absurd hout (Nat.not_lt_of_le hp)
    · exact ⟨_, r.1 - 4, r.2, hresp.trans hanswer, rfl⟩

/-- The attributes that a good list leaves in memory, and what else it leaves alone. -/
theorem good_list_taken (h : Attached d) (hgood : GoodList d cdb buf es) :
    (ssc_write_attributes d cdb buf found).cart.mam = writeList (cdb 7).toNat d.cart.mam es ∧
      Attached (ssc_write_attributes d cdb buf found) ∧
      (es ≠ [] → Stored (ssc_write_attributes d cdb buf found).cart.dir
        (ssc_write_attributes d cdb buf found).cart.mam) := by
  obtain ⟨hsized, hcells⟩ := listed_iff.mp hgood.complete
  have htake := @takeAttributes_all (cdb 7).toNat _ _ buf d.cart.mam es hsized hcells hgood.settable
  rw [@write_attributes_taken d cdb buf found h _ htake]
  have hversions := @writeList_versions (cdb 7).toNat d.cart.mam es
  have hcurrent : (writeList (cdb 7).toNat d.cart.mam es).tape_fmt_version = TAPE_FMT_VERSION ∧
      (writeList (cdb 7).toNat d.cart.mam es).mam_fmt_version = MAM_VERSION :=
    ⟨hversions.1.trans h.versions.1, hversions.2.trans h.versions.2⟩
  split
  · next hempty =>
    have hnil : es = [] := by
      cases es with
      | nil => rfl
      | cons e es =>
        have hfive := (hsized e List.mem_cons_self).1
        have hlength := congrArg List.length hcells
        rw [bytesAt_length, Walk.cells, List.flatMap_cons, List.length_append, List.length_append,
          hfive] at hlength
        omega
    exact ⟨rfl, ⟨h.loaded, hcurrent, h.sized, h.files, h.data, h.io⟩, fun hne => absurd hnil hne⟩
  · exact ⟨rfl, ⟨h.loaded, hcurrent, ⟨_, _, rfl, mamImage_length _, rfl, mhvtlImage_length _⟩, h.files,
      h.data, h.io⟩, fun _ => ⟨rfl, rfl, hcurrent⟩⟩

/-- Attributes that can be written are neither set at an unload nor at a load. -/
theorem settable_kept (ha : a ∈ mamAttributes) (hro : a.read_only = false) (p : ℕ) :
    attrField a p ∉ loadFields ∧ attrField a p ∉ unloadFields := by
  have htable : ∀ a ∈ mamAttributes, a.read_only = false →
      a.field ∉ loadFields ∧ a.field ∉ unloadFields := by decide
  have hspare : ∀ f ∈ spareRecords, f ∉ loadFields ∧ f ∉ unloadFields := by decide
  rcases attrField_cases a p with hown | ⟨-, hrecord⟩
  · rw [hown]
    exact htable a ha hro
  · exact hspare _ hrecord

/-- A listed attribute of a good list can be written. -/
theorem GoodList.writable (hgood : GoodList d cdb buf es) (ha : a ∈ mamAttributes)
    (hlisted : lastListed a.attribute_id es ≠ none) : a.read_only = false := by
  obtain ⟨sent, hsent⟩ := Option.ne_none_iff_exists'.mp hlisted
  obtain ⟨e, he, hid⟩ := exists_of_lastListed hsent
  obtain ⟨b, hb, hbid, hro⟩ := hgood.settable e he
  obtain rfl := List.inj_on_of_nodup_map table_nodup hb ha (hbid.trans hid)
  exact hro

/-- WRITE ATTRIBUTE of a complete list for a partition that is there takes the list as a whole or
not at all, and what it takes is kept. -/
theorem write_attributes_exact (P : LoadRules) (L : Libs) (d : Drive) (cdb : Cdb) (buf : ℕ → UInt8)
    (found : Bool) (h : Attached d) (hmax : partitionCount d.cart.mam ≤ MAX_PARTITIONS) :
    WritesExactly P L d cdb buf found := by
  have hcount : ∀ {p : ℕ}, p < partitionCount d.cart.mam → p ≤ d.cart.mam.num_partitions := by
    intro p hp
    rw [partitionCount] at hp
    split at hp
    · omega
    · omega
  refine ⟨fun es rest hsized hcells hbad => ?_, fun es hlisted buf' hsame => ?_, fun es hgood => ?_,
    fun es hgood a ha hlisted value hvalue => ?_, fun es hne hgood => ?_,
    fun es hgood d₁ r d₂ hunload hpcl hload a ha hlisted => ?_⟩
  · obtain ⟨field, hfield⟩ := takeAttributes_some (p := (cdb 7).toNat) hsized hcells hbad
    exact write_attributes_refused h.loaded (hfield d.cart.mam)
  · obtain ⟨hsized, hcells⟩ := listed_iff.mp hlisted
    exact write_attributes_congr (takeAttributes_inside hsized hcells hsame)
  · exact listWritten_of (Nat.lt_of_lt_of_le hgood.partition hmax) hgood.settable
      (good_list_taken h hgood).1
  · obtain ⟨hmam, hattached, -⟩ := @good_list_taken d cdb buf found es h hgood
    refine answersWith_of hattached.loaded ?_ ha (hgood.writable ha hlisted) hvalue
    have hnum : (writeList (cdb 7).toNat d.cart.mam es).num_partitions = d.cart.mam.num_partitions := by
      have hfield : ∀ a ∈ mamAttributes, a.field ≠ .num_partitions := by decide
      have hspare : MamField.num_partitions ∉ spareRecords := by decide
      have hbytes : (writeList (cdb 7).toNat d.cart.mam es).bytes .num_partitions =
          d.cart.mam.bytes .num_partitions := by
        refine writeList_outside fun b hb _ => ?_
        rcases attrField_cases b (cdb 7).toNat with hown | ⟨-, hrecord⟩
        · rw [hown]
          exact hfield b hb
        · rintro heq
          rw [heq] at hrecord
          exact hspare hrecord
      rw [Mam.num_partitions, Mam.byte, hbytes]
      rfl
    rw [hmam, hnum]
    exact hcount hgood.partition
  · exact (good_list_taken h hgood).2.2 hne
  · obtain ⟨-, hattached, -⟩ := @good_list_taken d cdb buf found es h hgood
    have hro := hgood.writable ha hlisted
    obtain ⟨hkeptLoad, hkeptUnload⟩ := settable_kept ha hro (cdb 7).toNat
    obtain ⟨-, hstored⟩ := unloadTape_stored (Or.inr hattached.loaded) hattached.versions
      hattached.sized hattached.files hattached.data
      (by rw [hattached.io]; exact fun r hr => absurd hr List.not_mem_nil) hunload
    rw [← hpcl] at hstored
    rw [mam_attr_value_writable ha hro, mam_attr_value_writable ha hro,
      loadTape_mam hstored hload hkeptLoad, unloadMam_other _ _ _ hkeptUnload]

/-- The empty cartridge with its attributes in files. -/
def attachedDrive : Drive :=
  { emptyDrive with cart := { emptyDrive.cart with
      mam := newMam
      mamfile := true
      mhvtlfile := true
      dir := { emptyDrive.cart.dir with
        mam := some (mamImage newMam), mhvtl_data := some (mhvtlImage newMam) } } }

/-- It is attached. -/
theorem attachedDrive_attached : Attached attachedDrive :=
  ⟨rfl, ⟨rfl, rfl⟩, ⟨_, _, rfl, mamImage_length _, rfl, mhvtlImage_length _⟩, ⟨rfl, rfl⟩, rfl, rfl⟩

/-- A list with one attribute of one byte, for the first partition. -/
def singleCdb : Cdb
  | 13 => 10
  | _ => 0

/-- The attribute of some identifier below 0x500 in that list. -/
def singleList (high low value : UInt8) (j : ℕ) : UInt8 :=
  [0, 0, 0, 0, high, low, 0, 0, 1, value].getD j 0

/-- The list of the type of the medium and of the localization is complete. -/
theorem singleList_good {high low value : UInt8}
    (hset : Settable ⟨[high, low, 0, 0, 1], [value]⟩) :
    GoodList attachedDrive singleCdb (singleList high low value) [⟨[high, low, 0, 0, 1], [value]⟩] := by
  refine ⟨listed_iff.mpr ⟨?_, rfl⟩, ?_, by decide +kernel⟩
  · intro e he
    rw [List.mem_singleton.mp he]
    exact ⟨rfl, rfl⟩
  · intro e he
    rw [List.mem_singleton.mp he]
    exact hset

/-- A cartridge of two partitions with its attributes in files. -/
def attachedPair : Drive :=
  { attachedDrive with cart := { attachedDrive.cart with
      mam := newMam.putByte .num_partitions 2
      dir := { attachedDrive.cart.dir with
        mam := some (mamImage (newMam.putByte .num_partitions 2))
        mhvtl_data := some (mhvtlImage (newMam.putByte .num_partitions 2)) } } }

/-- It is attached. -/
theorem attachedPair_attached : Attached attachedPair :=
  ⟨rfl, ⟨rfl, rfl⟩, ⟨_, _, rfl, mamImage_length _, rfl, mhvtlImage_length _⟩, ⟨rfl, rfl⟩, rfl, rfl⟩

/-- The localization identifier twice, and between them the coherency information. -/
def coherencyEntries : List (Walk.Entry UInt8) :=
  [⟨[0x08, 0x05, 0, 0, 1], [3]⟩, ⟨[0x08, 0x0c, 0, 0, 3], [1, 2, 3]⟩, ⟨[0x08, 0x05, 0, 0, 1], [7]⟩]

/-- An attribute that can be written and one that cannot. -/
def readOnlyEntries : List (Walk.Entry UInt8) :=
  [⟨[0x08, 0x05, 0, 0, 1], [3]⟩, ⟨[0x04, 0x01, 0, 0, 2], [1, 2]⟩]

/-- The list of some attributes. -/
def entryList (es : List (Walk.Entry UInt8)) (j : ℕ) : UInt8 :=
  ([0, 0, 0, 0] ++ Walk.cells es).getD j 0

/-- A list of that many bytes for the second partition. -/
def secondCdb (n : UInt8) : Cdb
  | 7 => 1
  | 13 => n
  | _ => 0

/-- The coherency information of the second partition is set and stored, and so is the last of two
localization identifiers. A list with an attribute that cannot be written is not taken. -/
theorem write_attributes_coherency :
    GoodList attachedPair (secondCdb 24) (entryList coherencyEntries) coherencyEntries ∧
    ListWritten storedLibs 1 coherencyEntries attachedPair
      (ssc_write_attributes attachedPair (secondCdb 24) (entryList coherencyEntries) false) ∧
    lastListed 0x805 coherencyEntries = some [7] ∧
    Stored (ssc_write_attributes attachedPair (secondCdb 24) (entryList coherencyEntries) false).cart.dir
      (ssc_write_attributes attachedPair (secondCdb 24) (entryList coherencyEntries) false).cart.mam ∧
    ∃ st, ssc_write_attributes attachedPair (secondCdb 17) (entryList readOnlyEntries) false =
      attachedPair.report st := by
  have hsized : ∀ es ∈ [coherencyEntries, readOnlyEntries], ∀ e ∈ es,
      e.header.length = 4 + 1 ∧ e.body.length = listedLength e.header := by decide
  have hgood : GoodList attachedPair (secondCdb 24) (entryList coherencyEntries) coherencyEntries := by
    refine ⟨listed_iff.mpr ⟨fun e he => hsized _ (by simp) e he, rfl⟩, by decide, by decide +kernel⟩
  have hexact := write_attributes_exact anyRules storedLibs attachedPair (secondCdb 24)
    (entryList coherencyEntries) false attachedPair_attached (by decide +kernel)
  have hrefuses := write_attributes_exact anyRules storedLibs attachedPair (secondCdb 17)
    (entryList readOnlyEntries) false attachedPair_attached (by decide +kernel)
  exact ⟨hgood, hexact.written _ hgood, rfl, hexact.stored _ (List.cons_ne_nil _ _) hgood,
    hrefuses.refused readOnlyEntries [] (fun e he => hsized _ (by simp) e he) rfl (by decide)⟩

/-- A medium type of 0x80 is not read back: the medium is write-once then. -/
theorem write_attributes_converts :
    GoodList attachedDrive singleCdb (singleList 0x04 0x08 0x80) [⟨[0x04, 0x08, 0, 0, 1], [0x80]⟩] ∧
      lastListed MEDIUM_TYPE [⟨[0x04, 0x08, 0, 0, 1], [0x80]⟩] = some [0x80] ∧
      mam_attr_value storedLibs
        (ssc_write_attributes attachedDrive singleCdb (singleList 0x04 0x08 0x80) false)
        ⟨MEDIUM_TYPE, .MediumType, false⟩ 0 = some [MEDIA_TYPE_WORM] ∧ [MEDIA_TYPE_WORM] ≠ [0x80] := by
  have hgood := @singleList_good 0x04 0x08 0x80 (by decide)
  refine ⟨hgood, by decide, ?_, by decide⟩
  have hmam := (@good_list_taken _ _ _ false _ attachedDrive_attached hgood).1
  have hvalue : ∀ d : Drive, mam_attr_value storedLibs d ⟨MEDIUM_TYPE, .MediumType, false⟩ 0 =
      some (d.cart.mam.bytes .MediumType) := fun _ => rfl
  rw [hvalue, hmam]
  decide +kernel

end Command

end Mhvtl.Ssc
