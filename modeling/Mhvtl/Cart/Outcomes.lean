import Mhvtl.Cart.Faults

/-!
# Blocks written under any outcome of the host calls

What `write_tape_block` leaves when any of its host calls may fail and any file
may be missing: when it succeeds, that the position moves only then, and which
failures leave no sense data.
-/

namespace Mhvtl.Cart

open Records

namespace Store

/-- A host call that succeeds and the ones behind it. -/
theorem okFor_succ_iff {n : ℕ} {io : List IoResult} :
    OkFor (n + 1) io ↔ io.headD .ok = .ok ∧ OkFor n io.tail := by
  constructor
  · intro h
    exact ⟨h.head, h.tail⟩
  · rintro ⟨hhead, htail⟩
    cases io with
    | nil => exact okFor_nil _
    | cons r rs =>
      intro x hx
      rw [List.take_succ_cons] at hx
      rcases List.mem_cons.mp hx with rfl | hmem
      · exact hhead
      · exact htail x hmem

/-- No host call is needed. -/
theorem okFor_zero (io : List IoResult) : OkFor 0 io := by
  intro r hr
  rw [List.take_zero] at hr
  exact absurd hr List.not_mem_nil

/-- Some calls and the ones behind them. -/
theorem okFor_add_iff {m n : ℕ} {io : List IoResult} :
    OkFor (m + n) io ↔ OkFor m io ∧ OkFor n (io.drop m) := by
  induction m generalizing io with
  | zero =>
    rw [Nat.zero_add, List.drop_zero]
    exact ⟨fun h => ⟨okFor_zero io, h⟩, fun h => h.2⟩
  | succ m ih =>
    rw [Nat.succ_add, okFor_succ_iff, okFor_succ_iff, ih, ← List.drop_one, List.drop_drop,
      Nat.add_comm 1 m]
    exact and_assoc.symm

/-- A file of partition `p` is there and open. -/
def Usable (c : Store) (k : FileKind) (p : ℕ) : Prop :=
  c.fd k p = true ∧ (c.dir.file k p).isSome

/-- Host calls on files leave everything but the files and the schedule. -/
structure Called (c c' : Store) : Prop where
  /-- What may differ. -/
  eq : ∃ file io, c' = { c with dir := { c.dir with file := file }, io := io }
  /-- The same files are there. -/
  file : ∀ k q, (c'.dir.file k q).isSome = (c.dir.file k q).isSome

namespace Called

variable {a b c : Store}

theorem refl (c : Store) : Called c c := ⟨⟨_, _, rfl⟩, fun _ _ => rfl⟩

theorem trans (h : Called a b) (h' : Called b c) : Called a c := by
  refine ⟨?_, fun k q => (h'.file k q).trans (h.file k q)⟩
  obtain ⟨f₁, i₁, rfl⟩ := h.eq
  obtain ⟨f₂, i₂, rfl⟩ := h'.eq
  exact ⟨f₂, i₂, rfl⟩

/-- A call that only spends its outcome. -/
theorem spent (c : Store) (io : List IoResult) : Called c { c with io := io } :=
  ⟨⟨_, _, rfl⟩, fun _ _ => rfl⟩

/-- A call that leaves another content in a file that is there. -/
theorem setFile (c : Store) {k : FileKind} (p : ℕ) {f : File} (g : File) (io : List IoResult)
    (hf : c.dir.file k p = some f) : Called c ({ c with io := io }.setFile k p (some g)) := by
  refine ⟨⟨_, _, rfl⟩, fun k' q => ?_⟩
  simp only [Store.setFile]
  split
  · rename_i hkq
    rw [hkq.1, hkq.2, hf]
    rfl
  · rfl

/-- The same files can be used. -/
theorem usable (h : Called a b) (k : FileKind) (q : ℕ) : Usable b k q ↔ Usable a k q := by
  have hfd : b.fd = a.fd := by
    obtain ⟨f, i, rfl⟩ := h.eq
    rfl
  rw [Usable, Usable, hfd, h.file]

/-- Position, status and the header of the filemark map are left alone. -/
theorem rest (h : Called a b) :
    b.raw_pos = a.raw_pos ∧ b.status = a.status ∧ b.meta_hdr = a.meta_hdr := by
  obtain ⟨f, i, rfl⟩ := h.eq
  exact ⟨rfl, rfl, rfl⟩

/-- So is the filemark map. -/
theorem filemarkMap (h : Called a b) (p : ℕ) : b.filemarkMap p = a.filemarkMap p := by
  obtain ⟨f, i, rfl⟩ := h.eq
  rfl

end Called

section Calls

variable (c : Store) (k : FileKind) (p : ℕ)

/-- A `pwrite` that cannot be made, or that fails, does not write everything. -/
theorem pwrite_failed (bs : List UInt8) (off : ℕ)
    (h : ¬(Usable c k p ∧ c.io.headD .ok = .ok)) :
    Called c (c.pwrite k p bs off).2 ∧ (c.pwrite k p bs off).1 ≠ bs.length := by
  have hneg : ¬(-1 : ℤ) = bs.length := by omega
  unfold Usable at h
  unfold pwrite
  cases hfd : c.fd k p with
  | false => exact ⟨Called.refl c, hneg⟩
  | true =>
    cases hf : c.dir.file k p with
    | none => exact ⟨Called.refl c, hneg⟩
    | some f =>
      cases hio : c.io.headD .ok with
      | ok => exact absurd ⟨⟨hfd, by rw [hf]; rfl⟩, hio⟩ h
      | fail =>
        simp only [nextIo, hio]
        exact ⟨Called.spent c _, hneg⟩
      | short n =>
        simp only [nextIo, hio]
        split
        · exact ⟨Called.setFile c p _ _ hf, by omega⟩
        · exact ⟨Called.spent c _, hneg⟩

/-- A `pwrite` writes everything exactly when the file can be used and its outcome
is good. -/
theorem pwrite_called (bs : List UInt8) (off : ℕ) :
    Called c (c.pwrite k p bs off).2 ∧
      ((c.pwrite k p bs off).1 = bs.length ↔ Usable c k p ∧ c.io.headD .ok = .ok) ∧
      ((c.pwrite k p bs off).1 = bs.length → (c.pwrite k p bs off).2.io = c.io.tail) := by
  by_cases h : Usable c k p ∧ c.io.headD .ok = .ok
  · obtain ⟨f, hf⟩ := Option.isSome_iff_exists.mp h.1.2
    rw [pwrite_ok c bs off h.2 h.1.1 hf]
    exact ⟨Called.setFile c p _ _ hf, iff_of_true rfl h, fun _ => rfl⟩
  · obtain ⟨hcalled, hne⟩ := pwrite_failed c k p bs off h
    exact ⟨hcalled, iff_of_false hne h, fun he => absurd he hne⟩

/-- An `ftruncate` that cannot be made, or that fails, returns -1. -/
theorem ftruncate_failed (len : ℕ) (h : ¬(Usable c k p ∧ c.io.headD .ok = .ok)) :
    Called c (c.ftruncate k p len).2 ∧ (c.ftruncate k p len).1 = -1 := by
  unfold Usable at h
  unfold ftruncate
  cases hfd : c.fd k p with
  | false => exact ⟨Called.refl c, rfl⟩
  | true =>
    cases hf : c.dir.file k p with
    | none => exact ⟨Called.refl c, rfl⟩
    | some f =>
      cases hio : c.io.headD .ok with
      | ok => exact absurd ⟨⟨hfd, by rw [hf]; rfl⟩, hio⟩ h
      | fail =>
        simp only [nextIo, hio]
        exact ⟨Called.spent c _, trivial⟩
      | short n =>
        simp only [nextIo, hio]
        exact ⟨Called.spent c _, trivial⟩

/-- An `ftruncate` returns 0 exactly when the file can be used and its outcome is good,
else -1. -/
theorem ftruncate_called (len : ℕ) :
    Called c (c.ftruncate k p len).2 ∧
      ((c.ftruncate k p len).1 = 0 ∨ (c.ftruncate k p len).1 = -1) ∧
      ((c.ftruncate k p len).1 = 0 ↔ Usable c k p ∧ c.io.headD .ok = .ok) ∧
      ((c.ftruncate k p len).1 = 0 → (c.ftruncate k p len).2.io = c.io.tail) := by
  by_cases h : Usable c k p ∧ c.io.headD .ok = .ok
  · obtain ⟨f, hf⟩ := Option.isSome_iff_exists.mp h.1.2
    rw [ftruncate_ok c len h.2 h.1.1 hf]
    exact ⟨Called.setFile c p _ _ hf, Or.inl rfl, iff_of_true rfl h, fun _ => rfl⟩
  · obtain ⟨hcalled, hm1⟩ := ftruncate_failed c k p len h
    have hne : (c.ftruncate k p len).1 ≠ 0 := by omega
    exact ⟨hcalled, Or.inr hm1, iff_of_false hne h, fun he => absurd he hne⟩

end Calls

/-- Reducing the result of an `ftruncate` to 0 and -1 changes nothing. -/
theorem ftruncate_result (c : Store) (k : FileKind) (p len : ℕ) :
    (if (c.ftruncate k p len).1 < 0 then (-1, (c.ftruncate k p len).2)
      else ((0 : ℤ), (c.ftruncate k p len).2)) = c.ftruncate k p len := by
  obtain ⟨-, hcases, -⟩ := ftruncate_called c k p len
  rcases ht : c.ftruncate k p len with ⟨rc, c'⟩
  rw [ht] at hcases
  rcases hcases with rfl | rfl
  · rfl
  · rfl

/-- Rewriting the meta file succeeds when every call on it does. -/
theorem rewrite_meta_file_called (c : Store) {p n : ℕ} (hp : c.partition_id = p)
    (hn : (c.meta_hdr p).filemark_count = n) :
    Called c c.rewrite_meta_file.2 ∧
      (c.rewrite_meta_file.1 = 0 ↔ Usable c .metaf p ∧ OkFor (metaCalls n) c.io) ∧
      (c.rewrite_meta_file.1 = 0 → c.rewrite_meta_file.2.io = c.io.drop (metaCalls n)) := by
  have hm1 : ¬(-1 : ℤ) = 0 := by decide
  have hmlen : (c.filemarkMap p).length = n := by
    rw [filemarkMap, List.length_map, List.length_range, hn]
  have hmap : ((Codec.uint 4).encList (c.filemarkMap p)).length = n * 4 := by
    rw [Codec.encList_length, hmlen]
    rfl
  have hsplit : OkFor (metaCalls n) c.io ↔
      c.io.headD .ok = .ok ∧ OkFor (metaCalls n - 1) c.io.tail := by
    have hcalls : metaCalls n = metaCalls n - 1 + 1 := by
      unfold metaCalls
      split <;> rfl
    rw [hcalls]
    exact okFor_succ_iff
  have hdrop : c.io.drop (metaCalls n) = c.io.tail.drop (metaCalls n - 1) := by
    unfold metaCalls
    split <;> rw [← List.drop_one, List.drop_drop]
  obtain ⟨hc₁, hok₁, hio₁⟩ := pwrite_called c .metaf p (meta_header.enc (c.meta_hdr p)) 0
  rw [meta_header.enc_length] at hok₁ hio₁
  unfold rewrite_meta_file
  simp only [hp]
  rcases hw : c.pwrite .metaf p (meta_header.enc (c.meta_hdr p)) 0 with ⟨nwrite, c₁⟩
  rw [hw] at hc₁ hok₁ hio₁
  have hmeta : c₁.meta_hdr = c.meta_hdr := hc₁.rest.2.2
  have hmap₁ : c₁.filemarkMap p = c.filemarkMap p := hc₁.filemarkMap p
  by_cases hgood : nwrite = HEADER_SIZE
  · obtain ⟨huse, hhead⟩ := hok₁.mp hgood
    have hin : c₁.io = c.io.tail := hio₁ hgood
    simp only [hgood, ne_eq, not_true_eq_false, if_false, hmeta, hn, hmap₁]
    by_cases h0 : n = 0
    · have hcalls : metaCalls n - 1 = 1 := by rw [metaCalls, if_pos h0]
      have hzero : n * 4 = 0 := by omega
      rw [hcalls] at hsplit hdrop
      simp only [hzero, not_true_eq_false, if_false, Nat.cast_zero, Nat.add_zero]
      obtain ⟨hc₂, -, hok₂, hio₂⟩ := ftruncate_called c₁ .metaf p HEADER_SIZE
      rw [ftruncate_result c₁ .metaf p HEADER_SIZE, hdrop, ← hin, List.drop_one]
      refine ⟨hc₁.trans hc₂, hok₂.trans ?_, hio₂⟩
      rw [hsplit, hc₁.usable, hin, okFor_succ_iff]
      exact ⟨fun h => ⟨h.1, hhead, h.2, okFor_zero _⟩, fun h => ⟨h.1, h.2.2.1⟩⟩
    · have hcalls : metaCalls n - 1 = 2 := by rw [metaCalls, if_neg h0]
      have hsome : ¬n * 4 = 0 := by omega
      rw [hcalls] at hsplit hdrop
      simp only [hsome, not_false_eq_true, if_true]
      obtain ⟨hc₂, hok₂, hio₂⟩ :=
        pwrite_called c₁ .metaf p ((Codec.uint 4).encList (c.filemarkMap p)) HEADER_SIZE
      rw [hmap] at hok₂ hio₂
      rcases hw₂ : c₁.pwrite .metaf p ((Codec.uint 4).encList (c.filemarkMap p)) HEADER_SIZE with
        ⟨nwrite₂, c₂⟩
      rw [hw₂] at hc₂ hok₂ hio₂
      by_cases hgood₂ : nwrite₂ = ((n * 4 : ℕ) : ℤ)
      · have hin₂ : c₂.io = c.io.tail.tail := by
          rw [← hin]
          exact hio₂ hgood₂
        have hhead₂ := (hok₂.mp hgood₂).2
        rw [hin] at hhead₂
        obtain ⟨hc₃, -, hok₃, hio₃⟩ := ftruncate_called c₂ .metaf p (HEADER_SIZE + n * 4)
        simp only [hgood₂, not_true_eq_false, if_false]
        rw [ftruncate_result c₂ .metaf p (HEADER_SIZE + n * 4)]
        refine ⟨(hc₁.trans hc₂).trans hc₃, hok₃.trans ?_, fun h => ?_⟩
        · rw [hsplit, hc₂.usable, hc₁.usable, hin₂, okFor_succ_iff, okFor_succ_iff]
          exact ⟨fun h => ⟨h.1, hhead, hhead₂, h.2, okFor_zero _⟩, fun h => ⟨h.1, h.2.2.2.1⟩⟩
        · rw [hio₃ h, hin₂, hdrop, ← List.drop_one, ← List.drop_one, List.drop_drop]
      · have hno : ¬(Usable c .metaf p ∧ OkFor (metaCalls n) c.io) := by
          rintro ⟨-, hall⟩
          refine hgood₂ (hok₂.mpr ⟨(hc₁.usable _ _).mpr huse, ?_⟩)
          rw [hin]
          exact (hsplit.mp hall).2.head
        simp only [hgood₂, not_false_eq_true, if_true]
        exact ⟨hc₁.trans hc₂, iff_of_false hm1 hno, fun h => absurd h hm1⟩
  · have hno : ¬(Usable c .metaf p ∧ OkFor (metaCalls n) c.io) := by
      rintro ⟨huse, hall⟩
      exact hgood (hok₁.mpr ⟨huse, (hsplit.mp hall).1⟩)
    simp only [hgood, ne_eq, not_false_eq_true, if_true]
    exact ⟨hc₁, iff_of_false hm1 hno, fun h => absurd h hm1⟩

/-- What work on the current partition may change. -/
structure Worked (c c' : Store) : Prop where
  /-- Files, schedule, position, end of data, filemark count, permission and status. -/
  eq : ∃ file io mh raw eb eo ok st, c' = { c with
    dir := { c.dir with file := file }, io := io, meta_hdr := mh, raw_pos := raw
    eod_blk_number := eb, eod_data_offset := eo, OK_to_write := ok, status := st }
  /-- The same files are there. -/
  file : ∀ k q, (c'.dir.file k q).isSome = (c.dir.file k q).isSome

namespace Worked

variable {a b c : Store}

theorem refl (c : Store) : Worked c c := ⟨⟨_, _, _, _, _, _, _, _, rfl⟩, fun _ _ => rfl⟩

theorem trans (h : Worked a b) (h' : Worked b c) : Worked a c := by
  refine ⟨?_, fun k q => (h'.file k q).trans (h.file k q)⟩
  obtain ⟨f₁, i₁, m₁, r₁, eb₁, eo₁, ok₁, st₁, rfl⟩ := h.eq
  obtain ⟨f₂, i₂, m₂, r₂, eb₂, eo₂, ok₂, st₂, rfl⟩ := h'.eq
  exact ⟨_, _, _, _, _, _, _, _, rfl⟩

/-- Host calls are work. -/
theorem of_called (h : Called a b) : Worked a b := by
  refine ⟨?_, h.file⟩
  obtain ⟨f, i, rfl⟩ := h.eq
  exact ⟨_, _, _, _, _, _, _, _, rfl⟩

/-- So are a new position and a new status. -/
theorem setRawPos (c : Store) (raw : RawHeader) : Worked c (c.setRawPos raw) :=
  ⟨⟨_, _, _, _, _, _, _, _, rfl⟩, fun _ _ => rfl⟩

theorem report (c : Store) (st : Status) : Worked c { c with status := st } :=
  ⟨⟨_, _, _, _, _, _, _, _, rfl⟩, fun _ _ => rfl⟩

theorem mkEODHeader (c : Store) (blk off : ℕ) : Worked c (c.mkEODHeader blk off).2 :=
  ⟨⟨_, _, _, _, _, _, _, _, rfl⟩, fun _ _ => rfl⟩

theorem setFilemarkCount (c : Store) (p n : ℕ) : Worked c (c.setFilemarkCount p n) :=
  ⟨⟨_, _, _, _, _, _, _, _, rfl⟩, fun _ _ => rfl⟩

/-- The same files can be used. -/
theorem usable (h : Worked a b) (k : FileKind) (q : ℕ) : Usable b k q ↔ Usable a k q := by
  have hfd : b.fd = a.fd := by
    obtain ⟨_, _, _, _, _, _, _, _, rfl⟩ := h.eq
    rfl
  rw [Usable, Usable, hfd, h.file]

/-- The attributes are left alone. -/
theorem mam (h : Worked a b) : b.mam = a.mam := by
  obtain ⟨_, _, _, _, _, _, _, _, rfl⟩ := h.eq
  rfl

end Worked

/-- The files that have to be cut in front of a rewrite can be used. -/
def CutReady (c : Store) : Prop :=
  c.c_pos.blk_type ≠ B_EOD → Usable c .indx c.partition_id ∧ Usable c .data c.partition_id ∧
    (2 < c.cutCalls → Usable c .metaf c.partition_id)

/-- The partition is cut, but its filemark map cannot be rewritten. -/
def MapFails (c : Store) : Prop :=
  2 < c.cutCalls ∧ Usable c .indx c.partition_id ∧ Usable c .data c.partition_id ∧
    OkFor 2 c.io ∧ ¬(Usable c .metaf c.partition_id ∧ OkFor c.cutCalls c.io)

/-- What `check_for_overwrite` leaves. -/
structure CutLeft (c : Store) (r : ℤ × Store) : Prop where
  /-- Work on the partition. -/
  worked : Worked c r.2
  /-- The position stays. -/
  raw_pos : r.2.raw_pos = c.raw_pos
  /-- When it succeeds. -/
  ok_iff : r.1 = 0 ↔ CutReady c ∧ OkFor c.cutCalls c.io
  /-- A success leaves the status and spends its calls. -/
  done : r.1 = 0 → r.2.status = c.status ∧ r.2.io = c.io.drop c.cutCalls
  /-- A failure is a medium error, except for the filemark map. -/
  failed : r.1 ≠ 0 → MapFails c ∧ r.2.status = c.status ∨
    ¬MapFails c ∧ r.2.status = sam_medium_error E_WRITE_ERROR

/-- Host calls of the cut, behind the end of data and in front of it. -/
theorem cutCalls_cases (c : Store) :
    c.c_pos.blk_type = B_EOD ∧ c.cutCalls = 0 ∨ c.c_pos.blk_type ≠ B_EOD ∧
      ((c.filemarkMap c.partition_id).findIdx? (c.c_pos.blk_number ≤ ·) = none ∧ c.cutCalls = 2 ∨
        ∃ j, (c.filemarkMap c.partition_id).findIdx? (c.c_pos.blk_number ≤ ·) = some j ∧
          c.cutCalls = 2 + metaCalls j) := by
  unfold cutCalls
  by_cases heod : c.c_pos.blk_type = B_EOD
  · exact Or.inl ⟨heod, if_pos heod⟩
  · rw [if_neg heod]
    cases (c.filemarkMap c.partition_id).findIdx? (c.c_pos.blk_number ≤ ·) with
    | none => exact Or.inr ⟨heod, Or.inl ⟨rfl, rfl⟩⟩
    | some j => exact Or.inr ⟨heod, Or.inr ⟨j, rfl, rfl⟩⟩

/-- One of the two truncations fails. -/
theorem CutLeft.refused {c c' : Store} (hne : c.c_pos.blk_type ≠ B_EOD) (hc : Called c c')
    (h : ¬(Usable c .indx c.partition_id ∧ Usable c .data c.partition_id ∧ OkFor 2 c.io)) :
    CutLeft c (-1, { c' with status := sam_medium_error E_WRITE_ERROR }) := by
  have hm1 : ¬(-1 : ℤ) = 0 := by decide
  have hcalls : 2 ≤ c.cutCalls := by
    rcases cutCalls_cases c with ⟨heod, -⟩ | ⟨-, ⟨-, h2⟩ | ⟨j, -, h2⟩⟩
    · exact absurd heod hne
    · omega
    · omega
  refine ⟨(Worked.of_called hc).trans (Worked.report c' _), hc.rest.1, ?_, ?_, ?_⟩
  · refine iff_of_false hm1 fun ⟨hready, hall⟩ => h ?_
    obtain ⟨hindx, hdata, -⟩ := hready hne
    exact ⟨hindx, hdata, hall.mono hcalls⟩
  · exact fun he => absurd he hm1
  · exact fun _ => Or.inr ⟨fun hmap => h ⟨hmap.2.1, hmap.2.2.1, hmap.2.2.2.1⟩, rfl⟩

/-- Both truncations succeed, and the filemark map is cut where it has to be. -/
theorem Called.cut_done {c c' : Store} (hc : Called c c') (hne : c.c_pos.blk_type ≠ B_EOD)
    (huse : Usable c .indx c.partition_id ∧ Usable c .data c.partition_id) (htwo : OkFor 2 c.io)
    (hio : c'.io = c.io.drop 2) :
    CutLeft c (match (c.filemarkMap c.partition_id).findIdx? (c.c_pos.blk_number ≤ ·) with
      | none => (0, c')
      | some i => (c'.setFilemarkCount c.partition_id i).rewrite_meta_file) := by
  have hready : ¬2 < c.cutCalls → CutReady c := fun h2 _ =>
    ⟨huse.1, huse.2, fun hlt => absurd hlt h2⟩
  rcases cutCalls_cases c with ⟨heod, -⟩ | ⟨-, ⟨hfind, hcalls⟩ | ⟨j, hfind, hcalls⟩⟩
  · exact absurd heod hne
  · simp only [hfind]
    refine ⟨Worked.of_called hc, hc.rest.1, iff_of_true rfl ⟨hready (by omega), ?_⟩, fun _ => ?_,
      fun h => absurd rfl h⟩
    · rwa [hcalls]
    · rw [hcalls]
      exact ⟨hc.rest.2.1, hio⟩
  · simp only [hfind]
    have hj : 1 < metaCalls j := by
      unfold metaCalls
      split
      · decide
      · decide
    have hp : (c'.setFilemarkCount c.partition_id j).partition_id = c.partition_id :=
      congrArg (fun r => r.hdr.partition_id) hc.rest.1
    obtain ⟨hc₃, hok₃, hio₃⟩ := rewrite_meta_file_called
      (c'.setFilemarkCount c.partition_id j) hp (setFilemarkCount_same c' _ j)
    have hsame : Usable (c'.setFilemarkCount c.partition_id j) .metaf c.partition_id ↔
        Usable c .metaf c.partition_id := hc.usable _ _
    have hin : (c'.setFilemarkCount c.partition_id j).io = c.io.drop 2 := hio
    have hall : OkFor c.cutCalls c.io ↔ OkFor (metaCalls j) (c.io.drop 2) := by
      rw [hcalls, okFor_add_iff]
      exact ⟨fun h => h.2, fun h => ⟨htwo, h⟩⟩
    rw [hsame, hin, ← hall] at hok₃
    rw [hin, List.drop_drop, ← hcalls] at hio₃
    have hst := hc₃.rest.2.1.trans (show _ = c.status from hc.rest.2.1)
    refine ⟨((Worked.of_called hc).trans (Worked.setFilemarkCount c' _ j)).trans
      (Worked.of_called hc₃), hc₃.rest.1.trans hc.rest.1, hok₃.trans ?_, fun h => ⟨hst, hio₃ h⟩,
      fun h => Or.inl ⟨?_, hst⟩⟩
    · exact ⟨fun h => ⟨fun _ => ⟨huse.1, huse.2, fun _ => h.1⟩, h.2⟩,
        fun h => ⟨(h.1 hne).2.2 (by omega), h.2⟩⟩
    · exact ⟨by omega, huse.1, huse.2, htwo, fun hm => h (hok₃.mpr hm)⟩

/-- The cut in front of a rewrite, whatever its calls do. -/
theorem check_for_overwrite_left (c : Store) : CutLeft c c.check_for_overwrite := by
  have hm1 : (-1 : ℤ) ≠ 0 := by decide
  unfold check_for_overwrite
  by_cases heod : c.c_pos.blk_type = B_EOD
  · have hcalls : c.cutCalls = 0 := if_pos heod
    rw [if_pos heod]
    refine ⟨Worked.refl c, rfl, iff_of_true rfl ⟨fun hne => absurd heod hne, ?_⟩, fun _ => ?_,
      fun hne => absurd rfl hne⟩
    · rw [hcalls]
      exact okFor_zero _
    · rw [hcalls]
      exact ⟨rfl, rfl⟩
  · simp only [if_neg heod]
    obtain ⟨hc₁, -, hok₁, hio₁⟩ :=
      ftruncate_called c .indx c.partition_id (c.c_pos.blk_number * HEADER_SIZE)
    rcases ht₁ : c.ftruncate .indx c.partition_id (c.c_pos.blk_number * HEADER_SIZE) with ⟨rc₁, c₁⟩
    rw [ht₁] at hc₁ hok₁ hio₁
    by_cases hrc₁ : rc₁ = 0
    · obtain ⟨hindx, hhead⟩ := hok₁.mp hrc₁
      have hin₁ : c₁.io = c.io.tail := hio₁ hrc₁
      obtain ⟨hc₂, -, hok₂, hio₂⟩ :=
        ftruncate_called c₁ .data c.partition_id c.raw_pos.data_offset
      rcases ht₂ : c₁.ftruncate .data c.partition_id c.raw_pos.data_offset with ⟨rc₂, c₂⟩
      rw [ht₂] at hc₂ hok₂ hio₂
      rw [hc₁.usable, hin₁] at hok₂
      simp only [hrc₁, ne_eq, not_true_eq_false, if_false]
      by_cases hrc₂ : rc₂ = 0
      · obtain ⟨hdata, hhead₂⟩ := hok₂.mp hrc₂
        have htwo : OkFor 2 c.io :=
          okFor_succ_iff.mpr ⟨hhead, okFor_succ_iff.mpr ⟨hhead₂, okFor_zero _⟩⟩
        have hin₂ : c₂.io = c.io.drop 2 := by
          rw [hio₂ hrc₂, hin₁, ← List.drop_one, ← List.drop_one, List.drop_drop]
        have hc := hc₁.trans hc₂
        have hmap : c₂.filemarkMap c.partition_id = c.filemarkMap c.partition_id :=
          hc.filemarkMap _
        simp only [hrc₂, not_true_eq_false, if_false, hmap]
        exact hc.cut_done heod ⟨hindx, hdata⟩ htwo hin₂
      · simp only [hrc₂, not_false_eq_true, if_true]
        refine CutLeft.refused heod (hc₁.trans hc₂) fun hall => hrc₂ ?_
        exact hok₂.mpr ⟨hall.2.1, hall.2.2.tail.head⟩
    · simp only [hrc₁, ne_eq, not_false_eq_true, if_true]
      refine CutLeft.refused heod hc₁ fun hall => hrc₁ ?_
      exact hok₁.mpr ⟨hall.1, hall.2.2.head⟩

/-- Everything a block needs: open files, a block number, and host calls that succeed. -/
def Recordable (c : Store) : Prop :=
  Usable c .data c.partition_id ∧ Usable c .indx c.partition_id ∧ CutReady c ∧
    c.c_pos.blk_number ≤ MAX_BLK_NUMBER ∧ OkFor (c.cutCalls + 2) c.io

/-- The failures of `write_tape_block` that leave no sense data: the filemark map cannot
be rewritten, or there are no block numbers left. -/
def FailsSilently (c : Store) : Prop :=
  c.fd .data c.partition_id = true ∧ (MapFails c ∨
    (CutReady c ∧ OkFor c.cutCalls c.io) ∧ MAX_BLK_NUMBER < c.c_pos.blk_number)

/-- A CHECK CONDITION with information bytes that count nothing. -/
structure NoResidual (s : Status) : Prop where
  /-- The status byte. -/
  sam_stat : s.sam_stat = SAM_STAT_CHECK_CONDITION
  /-- The information bytes are valid. -/
  valid : s.sense.valid = true
  /-- They are zero. -/
  information : s.sense.information = 0

/-- Sense data is born so, unit attentions apart. -/
theorem NoResidual.return_sense {key : ℕ} (h : key ≠ UNIT_ATTENTION) (asc_ascq : ℕ)
    (sd : Option SenseField) : NoResidual (return_sense key asc_ascq sd) := by
  refine ⟨rfl, ?_, rfl⟩
  have hkey : (key == UNIT_ATTENTION) = false := beq_eq_false_iff_ne.mpr h
  simp only [Mhvtl.return_sense, hkey, Bool.false_and, Bool.not_false]

/-- What `write_tape_block` leaves. -/
structure WriteLeft (c : Store) (a : BlockArgs) (r : ℤ × Store) : Prop where
  /-- Work on the partition. -/
  worked : Worked c r.2
  /-- When it succeeds. -/
  ok_iff : r.1 = 0 ↔ Recordable c
  /-- Failures are negative. -/
  negative : r.1 ≠ 0 → r.1 < 0
  /-- A success stands behind the block, leaves the status and spends its calls. -/
  done : r.1 = 0 → r.2.raw_pos = eodHeader c.partition_id (c.c_pos.blk_number + 1)
    (c.raw_pos.data_offset + a.disk_blk_size.toNat) ∧ r.2.status = c.status ∧
    r.2.io = c.io.drop (c.cutCalls + 2)
  /-- A failure stays at the block number. -/
  stays : r.1 ≠ 0 → r.2.c_pos.blk_number = c.c_pos.blk_number
  /-- It leaves sense data, or it is a silent one. -/
  failed : r.1 ≠ 0 → FailsSilently c ∧ r.2.status = c.status ∨
    ¬FailsSilently c ∧ NoResidual r.2.status

/-- A failure, told by where it stands and by its sense data. -/
theorem WriteLeft.refused {c c' : Store} (a : BlockArgs) (hw : Worked c c')
    (hno : ¬Recordable c) (hblk : c'.c_pos.blk_number = c.c_pos.blk_number)
    (hst : FailsSilently c ∧ c'.status = c.status ∨ ¬FailsSilently c ∧ NoResidual c'.status) :
    WriteLeft c a (-1, c') := by
  have hm1 : ¬(-1 : ℤ) = 0 := by decide
  have hneg : (-1 : ℤ) < 0 := by decide
  exact ⟨hw, iff_of_false hm1 hno, fun _ => hneg, fun h => absurd h hm1, fun _ => hblk,
    fun _ => hst⟩

/-- A write that failed is undone as far as the host calls allow, and reported. -/
theorem WriteLeft.undone {c c' c'' : Store} (a : BlockArgs) (hw : Worked c c')
    (hno : ¬Recordable c) (hns : ¬FailsSilently c)
    (hc : Called { c' with status := sam_medium_error E_WRITE_ERROR } c'') (off : ℕ) :
    WriteLeft c a (-1, (c''.mkEODHeader c.c_pos.blk_number off).2) := by
  refine WriteLeft.refused a (((hw.trans (Worked.report c' _)).trans (Worked.of_called hc)).trans
    (Worked.mkEODHeader c'' _ off)) hno rfl (Or.inr ⟨hns, ?_⟩)
  have hst : c''.status = sam_medium_error E_WRITE_ERROR := hc.rest.2.1
  change NoResidual c''.status
  rw [hst]
  exact NoResidual.return_sense (by decide) _ _

/-- A cut that works says nothing about the filemark map. -/
theorem CutLeft.map_kept {c c' : Store} (h : CutLeft c (0, c')) : ¬MapFails c := by
  obtain ⟨hready, hcalls⟩ := h.ok_iff.mp rfl
  rintro ⟨h2, -, -, -, hno⟩
  have hne : c.c_pos.blk_type ≠ B_EOD := by
    intro heod
    rw [cutCalls, if_pos heod] at h2
    omega
  exact hno ⟨(hready hne).2.2 h2, hcalls⟩

/-- A block that the cut stops: a filemark map that cannot be rewritten is not told. -/
theorem CutLeft.stops_write {c c' : Store} (a : BlockArgs) {rc : ℤ} (h : CutLeft c (rc, c'))
    (hrc : rc ≠ 0) (hfd : c.fd .data c.partition_id = true) : WriteLeft c a (-1, c') := by
  have hblk : c'.c_pos.blk_number = c.c_pos.blk_number := congrArg (·.hdr.blk_number) h.raw_pos
  refine WriteLeft.refused a h.worked (fun hall => hrc ?_) hblk ?_
  · exact h.ok_iff.mpr ⟨hall.2.2.1, hall.2.2.2.2.mono (Nat.le_add_right _ _)⟩
  · rcases h.failed hrc with ⟨hmap, hst⟩ | ⟨hmap, hst⟩
    · exact Or.inl ⟨⟨hfd, Or.inl hmap⟩, hst⟩
    · refine Or.inr ⟨?_, ?_⟩
      · rintro ⟨-, hmap' | ⟨hall, -⟩⟩
        · exact hmap hmap'
        · exact hrc (h.ok_iff.mpr hall)
      · rw [show c'.status = _ from hst]
        exact NoResidual.return_sense (by decide) _ _

/-- Behind the largest block number nothing is written, and nothing is told. -/
theorem CutLeft.behind_numbers {c c' : Store} (a : BlockArgs) (h : CutLeft c (0, c'))
    (hfd : c.fd .data c.partition_id = true) (hmax : MAX_BLK_NUMBER < c.c_pos.blk_number) :
    WriteLeft c a (-1, c') := by
  have hblk : c'.c_pos.blk_number = c.c_pos.blk_number := congrArg (·.hdr.blk_number) h.raw_pos
  refine WriteLeft.refused a h.worked (fun hall => ?_) hblk
    (Or.inl ⟨⟨hfd, Or.inr ⟨h.ok_iff.mp rfl, hmax⟩⟩, (h.done rfl).1⟩)
  have hle := hall.2.2.2.1
  omega

/-- A block, whatever the host calls do. -/
theorem write_tape_block_left (c : Store) {a : BlockArgs} (hnull : a.null_media_type = false) :
    WriteLeft c a (c.write_tape_block a) := by
  unfold write_tape_block tape_loaded
  cases hfd : c.fd .data c.partition_id with
  | false =>
    simp only [Bool.false_eq_true, if_false, Bool.not_false, if_true]
    refine WriteLeft.refused a (Worked.report c _) ?_ rfl (Or.inr ⟨?_, ?_⟩)
    · exact fun h => Bool.false_ne_true (hfd.symm.trans h.1.1)
    · exact fun h => Bool.false_ne_true (hfd.symm.trans h.1)
    · exact NoResidual.return_sense (by decide) _ _
  | true =>
    simp only [if_true, Bool.not_true, Bool.false_eq_true, if_false]
    have hcut := check_for_overwrite_left c
    rcases hover : c.check_for_overwrite with ⟨rc, c₁⟩
    rw [hover] at hcut
    have hraw₁ : c₁.raw_pos = c.raw_pos := hcut.raw_pos
    have hblk₁ : c₁.c_pos.blk_number = c.c_pos.blk_number := congrArg (·.hdr.blk_number) hraw₁
    have hpid₁ : c₁.partition_id = c.partition_id := congrArg (·.hdr.partition_id) hraw₁
    by_cases hrc : rc = 0
    · subst hrc
      obtain ⟨hready, hcalls⟩ := hcut.ok_iff.mp rfl
      obtain ⟨hst₁, hio₁⟩ := hcut.done rfl
      simp only [ne_eq, not_true_eq_false, if_false, hblk₁, hpid₁, hraw₁]
      by_cases hmax : MAX_BLK_NUMBER < c.c_pos.blk_number
      · rw [if_pos hmax]
        exact hcut.behind_numbers a hfd hmax
      · have hnosilent : ¬FailsSilently c := by
          rintro ⟨-, hmap | ⟨-, hlt⟩⟩
          · exact hcut.map_kept hmap
          · exact hmax hlt
        rw [if_neg hmax]
        simp only [hnull, Bool.false_eq_true, if_false]
        let off := c.raw_pos.data_offset
        let blk := c.c_pos.blk_number
        let p := c.partition_id
        let hdr := Record.blockHeader a.info p blk off a.disk_blk_size.toNat
        let c₂ := c₁.setRawPos hdr
        have hw₂ : Worked c c₂ := hcut.worked.trans (Worked.setRawPos c₁ hdr)
        have hio₂ : c₂.io = c.io.drop c.cutCalls := hio₁
        obtain ⟨hc₃, hok₃, hio₃⟩ := pwrite_called c₂ .data p a.bytes off
        rw [a.bytes_length, hw₂.usable, hio₂] at hok₃
        rw [a.bytes_length, hio₂] at hio₃
        rcases hdata : c₂.pwrite .data p a.bytes off with ⟨nwrite, c₃⟩
        rw [hdata] at hc₃ hok₃ hio₃
        change WriteLeft c a (if ¬nwrite = _ then _ else _)
        by_cases hn : nwrite = (a.disk_blk_size.toNat : ℤ)
        · obtain ⟨hdat, hhead⟩ := hok₃.mp hn
          have hin₃ : c₃.io = (c.io.drop c.cutCalls).tail := hio₃ hn
          have hw₃ := hw₂.trans (Worked.of_called hc₃)
          rw [if_neg (not_not_intro hn)]
          obtain ⟨hc₄, hok₄, hio₄⟩ :=
            pwrite_called c₃ .indx p (raw_header.enc c₃.raw_pos) (blk * HEADER_SIZE)
          rw [raw_header.enc_length, hw₃.usable, hin₃] at hok₄
          rw [raw_header.enc_length, hin₃] at hio₄
          rcases hindx : c₃.pwrite .indx p (raw_header.enc c₃.raw_pos) (blk * HEADER_SIZE) with
            ⟨nwrite₂, c₄⟩
          rw [hindx] at hc₄ hok₄ hio₄
          change WriteLeft c a (if ¬nwrite₂ = _ then _ else _)
          have hw₄ := hw₃.trans (Worked.of_called hc₄)
          by_cases hn₂ : nwrite₂ = (HEADER_SIZE : ℤ)
          · obtain ⟨hind, hhead₂⟩ := hok₄.mp hn₂
            have hall : Recordable c := ⟨hdat, hind, hready, by omega,
              okFor_add_iff.mpr ⟨hcalls, okFor_succ_iff.mpr ⟨hhead,
                okFor_succ_iff.mpr ⟨hhead₂, okFor_zero _⟩⟩⟩⟩
            have hio : c₄.io = c.io.drop (c.cutCalls + 2) := by
              rw [hio₄ hn₂, ← List.drop_one, ← List.drop_one, List.drop_drop, List.drop_drop]
            have hp₄ : c₄.partition_id = p :=
              congrArg (·.hdr.partition_id) (hc₄.rest.1.trans hc₃.rest.1)
            have hst₄ : c₄.status = c.status := (hc₄.rest.2.1.trans hc₃.rest.2.1).trans hst₁
            rw [if_neg (not_not_intro hn₂)]
            refine ⟨hw₄.trans (Worked.mkEODHeader c₄ _ _), iff_of_true rfl hall,
              fun h => absurd rfl h, fun _ => ⟨?_, hst₄, hio⟩, fun h => absurd rfl h,
              fun h => absurd rfl h⟩
            change eodHeader c₄.partition_id _ _ = _
            rw [hp₄]
          · have hno : ¬Recordable c := by
              rintro ⟨-, hind, -, -, hio⟩
              exact hn₂ (hok₄.mpr ⟨hind, (okFor_add_iff.mp hio).2.tail.head⟩)
            rw [if_pos hn₂]
            have hc₅ := (ftruncate_called { c₄ with status := sam_medium_error E_WRITE_ERROR } .indx p
              ((blk + 2 ^ 32 - 1) % 2 ^ 32 * HEADER_SIZE)).1
            have hc₆ := (ftruncate_called (ftruncate { c₄ with status := sam_medium_error E_WRITE_ERROR }
              .indx p ((blk + 2 ^ 32 - 1) % 2 ^ 32 * HEADER_SIZE)).2 .data p off).1
            exact WriteLeft.undone a hw₄ hno hnosilent (hc₅.trans hc₆) off
        · have hno : ¬Recordable c := by
            rintro ⟨hdat, -, -, -, hio⟩
            exact hn (hok₃.mpr ⟨hdat, (okFor_add_iff.mp hio).2.head⟩)
          rw [if_pos hn]
          have hc₄ := (ftruncate_called { c₃ with status := sam_medium_error E_WRITE_ERROR } .data p
            off).1
          exact WriteLeft.undone a (hw₂.trans (Worked.of_called hc₃)) hno hnosilent hc₄ off
    · simp only [hrc, ne_eq, not_false_eq_true, if_true]
      exact hcut.stops_write a hrc hfd

end Store

end Mhvtl.Cart
