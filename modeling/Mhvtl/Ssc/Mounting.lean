import Mhvtl.Ssc.Counters

/-!
# The counts at a load and at an unload

A load reads the attributes of the cartridge and starts to count from zero. An unload adds
what was counted to the totals and writes them out.
-/

namespace Mhvtl.Ssc

open Bytes Cart Store

/-- The attribute files as they were written last, with the attributes `m`. -/
structure Stored (dir : Dir) (m : Mam) : Prop where
  /-- The mam file. -/
  mam : dir.mam = some (mamImage m)
  /-- The mhvtl_data file. -/
  mhvtl_data : dir.mhvtl_data = some (mhvtlImage m)
  /-- The formats are up to date. -/
  versions : m.tape_fmt_version = TAPE_FMT_VERSION ∧ m.mam_fmt_version = MAM_VERSION

/-- Attributes that differ in the number of partitions at most. -/
structure SameMedium (m m' : Mam) : Prop where
  /-- The versions. -/
  versions : m'.tape_fmt_version = m.tape_fmt_version ∧ m'.mam_fmt_version = m.mam_fmt_version
  /-- Everything else. -/
  bytes : ∀ f ≠ .num_partitions, m'.bytes f = m.bytes f

namespace SameMedium

variable {a b c : Mam}

theorem refl (m : Mam) : SameMedium m m := ⟨⟨rfl, rfl⟩, fun _ _ => rfl⟩

theorem trans (h : SameMedium a b) (h' : SameMedium b c) : SameMedium a c where
  versions := ⟨h'.versions.1.trans h.versions.1, h'.versions.2.trans h.versions.2⟩
  bytes f hf := (h'.bytes f hf).trans (h.bytes f hf)

/-- The counts are the same. -/
theorem life (h : SameMedium a b) : SameLife a b := by
  have hcounts : ∀ f ∈ lifeFields, f ≠ .num_partitions := by decide
  exact ⟨h.versions, fun f hf => h.bytes f (hcounts f hf)⟩

/-- The number of partitions is set. -/
theorem count (m : Mam) (n : UInt8) : SameMedium m (m.putByte .num_partitions n) :=
  ⟨⟨rfl, rfl⟩, fun _ hf => Mam.bytes_put_other m _ hf⟩

end SameMedium

/-- Work that neither writes the attributes out nor spends a host call. -/
structure Looked (c c' : Store) : Prop where
  /-- The attributes. -/
  mam : SameMedium c.mam c'.mam
  /-- The attribute files. -/
  dir : c'.dir.mam = c.dir.mam ∧ c'.dir.mhvtl_data = c.dir.mhvtl_data
  /-- Their descriptors. -/
  files : c'.mamfile = c.mamfile ∧ c'.mhvtlfile = c.mhvtlfile
  /-- The host calls to come. -/
  io : c'.io = c.io

namespace Looked

variable {a b c : Store}

theorem refl (c : Store) : Looked c c := ⟨SameMedium.refl _, ⟨rfl, rfl⟩, ⟨rfl, rfl⟩, rfl⟩

theorem trans (h : Looked a b) (h' : Looked b c) : Looked a c where
  mam := h.mam.trans h'.mam
  dir := ⟨h'.dir.1.trans h.dir.1, h'.dir.2.trans h.dir.2⟩
  files := ⟨h'.files.1.trans h.files.1, h'.files.2.trans h.files.2⟩
  io := h'.io.trans h.io

/-- Work on the partitions that spends no host call. -/
theorem of_same (h : SameAttrs a b) (hio : b.io = a.io) : Looked a b where
  mam := by
    rw [h.mam]
    exact SameMedium.refl _
  dir := ⟨h.dir_mam, h.dir_mhvtl_data⟩
  files := ⟨h.mamfile, h.mhvtlfile⟩
  io := hio

/-- A guarded operation: a failure of the first part ends it. -/
theorem guarded {P : Prop} [Decidable P] {r r' : ℤ × Store} (h : Looked a r.2)
    (h' : Looked a r'.2) : Looked a (if P then r else r').2 := by
  split
  · exact h
  · exact h'

theorem tape_loaded (c : Store) : Looked c c.tape_loaded.2 := by
  refine of_same (SameAttrs.tape_loaded c) ?_
  unfold Store.tape_loaded
  split <;> rfl

theorem read_header (c : Store) (blk_number : ℕ) : Looked c (c.read_header blk_number).2 := by
  refine of_same (SameAttrs.read_header c blk_number) ?_
  unfold Store.read_header
  dsimp only
  split
  · rfl
  · split
    · rfl
    · split
      · rfl
      · split <;> rfl

/-- Status, permission, position and open files. -/
theorem settled (c : Store) (st : Status) (ok : Bool) (raw : RawHeader) (fd : FileKind → ℕ → Bool) :
    Looked c { c with status := st, OK_to_write := ok, raw_pos := raw, fd := fd } :=
  of_same (SameAttrs.settled c st ok raw fd) rfl

theorem rewind_tape (c : Store) : Looked c c.rewind_tape.2 := by
  unfold Store.rewind_tape
  have h₁ := tape_loaded c
  have h₂ := h₁.trans (read_header c.tape_loaded.2 0)
  exact guarded h₁ (guarded h₂ (h₂.trans (settled _ _ _ _ _)))

theorem position_to_eod (c : Store) : Looked c c.position_to_eod.2 := by
  unfold Store.position_to_eod
  have h₁ := tape_loaded c
  have h₂ := h₁.trans (read_header c.tape_loaded.2
    (c.tape_loaded.2.eod_blk_number c.tape_loaded.2.partition_id))
  exact guarded h₁ (guarded h₂ (guarded (h₂.trans (settled _ _ _ _ _)) h₂))

theorem position_to_block (c : Store) (blk_number : ℕ) :
    Looked c (c.position_to_block blk_number).2 := by
  unfold Store.position_to_block
  have h₁ := tape_loaded c
  have h₂ : Looked c c.tape_loaded.2.clearWormWrite := by
    refine h₁.trans ?_
    unfold Store.clearWormWrite
    split
    · exact settled _ _ _ _ _
    · exact refl _
  refine guarded h₁ (guarded ?_ (guarded (h₂.trans (rewind_tape _)) (h₂.trans (read_header _ _))))
  exact (h₂.trans (settled _ (sam_blank_check E_END_OF_DATA) _ _ _)).trans (position_to_eod _)

theorem change_partition (c : Store) (p : ℕ) : Looked c (c.change_partition p).2 := by
  unfold Store.change_partition
  have h₁ : Looked c (((c.close_partition c.partition_id).setPartition p).open_partition p).2 :=
    of_same ⟨rfl, rfl, rfl, rfl, rfl⟩ rfl
  exact (h₁.trans (read_header _ 0)).trans (settled _ _ _ _ _)

theorem check_filemarks_alloc (c : Store) (count : ℕ) :
    Looked c (c.check_filemarks_alloc count).2 := by
  refine of_same (SameAttrs.check_filemarks_alloc c count) ?_
  unfold Store.check_filemarks_alloc
  dsimp only
  split
  · split <;> rfl
  · rfl

/-- Reading the meta file into the arrays. -/
theorem load_meta (c : Store) (error_check : Bool) (p : ℕ) :
    Looked c (c.load_meta error_check p).2 := by
  unfold Store.load_meta
  extract_lets st_size bs c₁ count
  have h₁ : Looked c c₁ := of_same ⟨rfl, rfl, rfl, rfl, rfl⟩ rfl
  have h₂ := h₁.trans (check_filemarks_alloc c₁ count)
  refine guarded (refl c) (guarded h₁ (guarded h₁ (guarded h₂ (guarded h₂ (guarded h₂ ?_)))))
  exact guarded (h₂.trans (of_same ⟨rfl, rfl, rfl, rfl, rfl⟩ rfl))
    (h₂.trans (of_same ⟨rfl, rfl, rfl, rfl, rfl⟩ rfl))

/-- Reading the index. -/
theorem load_index (c : Store) (error_check : Bool) (p : ℕ) :
    Looked c (c.load_index error_check p).2 := by
  unfold Store.load_index
  extract_lets eod c₁ count
  have h₁ : Looked c c₁ := of_same ⟨rfl, rfl, rfl, rfl, rfl⟩ rfl
  refine guarded (refl c) (guarded h₁ ?_)
  have h₂ : Looked c (if eod = 0 then ((0 : ℤ), c₁) else c₁.read_header (eod - 1)).2 :=
    guarded h₁ (h₁.trans (read_header _ _))
  generalize (if eod = 0 then ((0 : ℤ), c₁) else c₁.read_header (eod - 1)) = r at h₂ ⊢
  obtain ⟨rc, c₂⟩ := r
  refine guarded h₂ ?_
  have h₃ : ∀ off : ℕ, Looked c₂ { c₂ with
      eod_data_offset := Function.update c₂.eod_data_offset p off } := fun _ =>
    of_same ⟨rfl, rfl, rfl, rfl, rfl⟩ rfl
  exact guarded (h₂.trans (h₃ _)) (h₂.trans (h₃ _))

/-- Reading a partition. -/
theorem load_partition (c : Store) (error_check : Bool) (p : ℕ) :
    Looked c (c.load_partition error_check p).2 := by
  have hclosed : ∀ {b : Store}, Looked c b → Looked c (b.close_partition p) := fun h =>
    h.trans (of_same ⟨rfl, rfl, rfl, rfl, rfl⟩ rfl)
  have h₁ : Looked c (c.open_partition p).2 := of_same ⟨rfl, rfl, rfl, rfl, rfl⟩ rfl
  have h₂ := h₁.trans (load_meta (c.open_partition p).2 error_check p)
  have h₃ := h₂.trans (load_index ((c.open_partition p).2.load_meta error_check p).2 error_check p)
  unfold Store.load_partition
  exact guarded (hclosed h₁) (guarded (hclosed h₂) (hclosed h₃))

/-- Counting the partitions. -/
theorem countPartition (h : Looked a b) (n : UInt8) :
    Looked a { b with mam := b.mam.putByte .num_partitions n } :=
  h.trans ⟨SameMedium.count _ n, ⟨rfl, rfl⟩, ⟨rfl, rfl⟩, rfl⟩

/-- Reading the partitions that there are. -/
theorem loadPartitions {error_check : Bool} {n : ℕ} (h : loadPartitions error_check n a = some b) :
    Looked a b := by
  induction n generalizing a with
  | zero =>
    unfold Store.loadPartitions at h
    split at h
    · cases h
    · obtain rfl := Option.some.inj h
      exact refl a
  | succ n ih =>
    unfold Store.loadPartitions at h
    extract_lets p c₁ at h
    split at h
    · have h₁ : Looked a (a.setPartition p) := of_same ⟨rfl, rfl, rfl, rfl, rfl⟩ rfl
      exact (countPartition (h₁.trans (load_partition _ _ _)) _).trans (ih h)
    · obtain rfl := Option.some.inj h
      exact refl a

end Looked

/-- The versions fit their fields. -/
theorem Stored.fits {dir : Dir} {m : Mam} (h : Stored dir m) : m.Fits := by
  rw [Mam.Fits, h.versions.1, h.versions.2]
  decide

/-- What was stored is read, over whatever is in memory. -/
theorem Stored.read {dir : Dir} {m : Mam} (h : Stored dir m) (x : Mam) :
    read_mam dir.mam dir.mhvtl_data x = (0, m) := by
  have hread := read_write_mam h.fits [] [] x
  have hnothing : ∀ (table : List MamAttr) (y : Mam), readAttributes table [] y = (0, y) := by
    intro table y
    rw [readAttributes]
  rw [List.drop_nil, List.drop_nil, hnothing, hnothing, if_neg (not_not_intro rfl)] at hread
  have hfront : ∀ image : List UInt8, overwriteFront image [] = image := by
    intro image
    rw [overwriteFront, List.drop_nil, List.append_nil]
  rw [Mhvtl.write_mam, hfront, hfront] at hread
  rw [h.mam, h.mhvtl_data, hread]
  exact congrArg (Prod.mk 0) (copy_all m _ rfl rfl)

/-- The versions at the head of the mam file. -/
theorem Stored.readVersions {c : Store} {m : Mam} (h : Stored c.dir m) :
    c.readVersions.mam.mam_fmt_version = MAM_VERSION := by
  have himage : mamImage m = leBytes 4 m.tape_fmt_version ++ (leBytes 4 m.mam_fmt_version ++
      writeAttributes mamAttributes m) := List.append_assoc _ _ _
  have hlen : ∀ n, (leBytes 4 n).length = 4 := fun n => leBytes_length 4 n
  unfold Store.readVersions
  dsimp only
  rw [h.mam, Option.getD_some, himage, List.drop_left' (hlen _), List.take_left' (hlen _),
    Codec.overlay_full (Codec.uint 4) (hlen _), h.versions.2]
  rfl

/-- Formats that are up to date are not updated. -/
theorem updated_current (c : Store) (error_check : Bool) (update : Dir → Bool × Dir) :
    c.updated error_check false update = (true, c) := rfl

/-- The attributes of a stored cartridge are loaded. -/
theorem load_mam_stored {U : Updater} {c : Store} {pcl : Dir} {m : Mam} (h : Stored pcl m)
    (error_check : Bool) : c.load_mam U pcl error_check =
      (0, { c with dir := pcl, mamfile := true, mhvtlfile := true, mam := m }) := by
  have hmam : pcl.mam.isSome = true := by
    rw [h.mam]
    rfl
  have hmhvtl : pcl.mhvtl_data.isSome = true := by
    rw [h.mhvtl_data]
    rfl
  have hversion : { c with dir := pcl, mamfile := true : Store }.readVersions.mam.mam_fmt_version =
      MAM_VERSION := Stored.readVersions h
  have hdir : { c with dir := pcl, mamfile := true : Store }.readVersions.dir = pcl := rfl
  have hfile : { c with dir := pcl, mamfile := true : Store }.readVersions.mamfile = true := rfl
  unfold Store.load_mam
  simp only [hmam, if_true, and_self, decide_true, Bool.not_true, Bool.false_eq_true, false_and,
    if_false, hversion, ne_eq, not_true_eq_false, decide_false, updated_current, hdir, hfile, hmhvtl,
    h.read, h.versions.1]
  rfl

/-- A stored cartridge is loaded, unless another one is still open. -/
theorem load_tape_left {U : Updater} {c c' : Store} {pcl : Dir} {m : Mam} {error_check : Bool} {rc : ℤ}
    (h : Stored pcl m) (hrun : c.load_tape U pcl error_check = some (rc, c')) :
    (rc ≠ 0 ∧ c' = c) ∨
      Looked { c with dir := pcl, mamfile := true, mhvtlfile := true, mam := m } c' := by
  unfold Store.load_tape at hrun
  rw [load_mam_stored h] at hrun
  split at hrun
  · cases hrun
    exact Or.inl ⟨by decide, rfl⟩
  · right
    dsimp only at hrun
    rw [if_neg (not_not_intro rfl)] at hrun
    have h₁ := Looked.countPartition (Looked.refl { c with
      dir := pcl, mamfile := true, mhvtlfile := true, mam := m }) 0
    split at hrun
    · cases hrun
    · rename_i c₁ hparts
      have h₂ := (h₁.trans (Looked.loadPartitions hparts)).trans (Looked.change_partition c₁ 0)
      have h₃ : Looked (c₁.change_partition 0).2 { (c₁.change_partition 0).2 with
          status := { (c₁.change_partition 0).2.status with sam_stat := SAM_STAT_GOOD } } :=
        Looked.of_same ⟨rfl, rfl, rfl, rfl, rfl⟩ rfl
      have h₄ := (h₂.trans h₃).trans (Looked.read_header _ 0)
      split at hrun
      · cases hrun
        exact h₄.trans (Looked.of_same ⟨rfl, rfl, rfl, rfl, rfl⟩ rfl)
      · cases hrun
        exact h₄

/-- A cartridge that is taken out keeps its attribute files. -/
theorem unload_tape_left {c c' : Store} (hrun : c.unload_tape = some c') :
    c'.mam = c.mam ∧ c'.dir.mam = c.dir.mam ∧ c'.dir.mhvtl_data = c.dir.mhvtl_data ∧
      c'.mamfile = false := by
  have hclose : ∀ (c : Store) (p : ℕ), SameAttrs c (c.closeOut p) := fun c p =>
    ((SameAttrs.change_partition c p).trans (SameAttrs.write_meta_out _)).trans
      ⟨rfl, rfl, rfl, rfl, rfl⟩
  unfold Store.unload_tape at hrun
  split at hrun
  · cases hrun
  · cases hrun
    have hall := SameAttrs.foldl hclose (List.range c.mam.num_partitions) c
    exact ⟨hall.mam, hall.dir_mam, hall.dir_mhvtl_data, rfl⟩

/-- A part of a load that leaves the counts of the drive and of the cartridge alone. -/
structure Steady (d d' : Drive) : Prop where
  /-- The cartridge. -/
  cart : Looked d.cart d'.cart
  /-- It stays where it is. -/
  load_status : d'.load_status = d.load_status
  /-- Bytes written. -/
  written : d'.bytesWritten_I = d.bytesWritten_I
  /-- Bytes read. -/
  read : d'.bytesRead_I = d.bytesRead_I

namespace Steady

variable {a b d : Drive}

theorem refl (d : Drive) : Steady d d := ⟨Looked.refl _, rfl, rfl, rfl⟩

theorem trans (h : Steady a b) (h' : Steady b d) : Steady a d where
  cart := h.cart.trans h'.cart
  load_status := h'.load_status.trans h.load_status
  written := h'.written.trans h.written
  read := h'.read.trans h.read

/-- Work on the cartridge. -/
theorem onCart (h : Steady a b) {c : Store} (hc : Looked b.cart c) : Steady a { b with cart := c } :=
  h.trans ⟨hc, rfl, rfl, rfl⟩

/-- Settings of the drive. -/
theorem settings (h : Steady a b) (hcart : d.cart = b.cart) (hload : d.load_status = b.load_status)
    (hwritten : d.bytesWritten_I = b.bytesWritten_I) (hread : d.bytesRead_I = b.bytesRead_I) :
    Steady a d := by
  refine h.trans ⟨?_, hload, hwritten, hread⟩
  rw [hcart]
  exact Looked.refl _

theorem permit (h : Steady a b) (ok : Bool) : Steady a (b.permit ok) :=
  h.onCart (Looked.of_same ⟨rfl, rfl, rfl, rfl, rfl⟩ rfl)

theorem report (h : Steady a b) (st : Status) : Steady a (b.report st) :=
  h.onCart (Looked.of_same ⟨rfl, rfl, rfl, rfl, rfl⟩ rfl)

theorem clearWORM (h : Steady a b) (P : LoadRules) : Steady a (b.clearWORM P) := by
  unfold Drive.clearWORM
  split
  · exact h
  · exact h.settings rfl rfl rfl rfl

theorem media_load (h : Steady a b) (P : LoadRules) (load : Bool) :
    Steady a (b.media_load P load) := h.settings rfl rfl rfl rfl

end Steady

/-- The permission of a write-once medium. -/
theorem steady_wormPermission (d : Drive) : Steady d (wormPermission d) := by
  have hd := Steady.refl d
  have hsought : Steady d { d with cart := (d.cart.position_to_block 1).2 } :=
    hd.onCart (Looked.position_to_block d.cart 1)
  unfold wormPermission
  split
  · exact hd.permit true
  split
  · exact hd.permit false
  · dsimp only
    split
    · exact hsought.permit false
    · exact (hsought.permit _).onCart (Looked.rewind_tape _)

/-- The type of the medium. -/
theorem steady_mountByType {P : LoadRules} {d d' : Drive} (h : mountByType P d = some d') :
    Steady d d' := by
  have hd := Steady.refl d
  unfold mountByType at h
  dsimp only at h
  split at h
  · cases h
    exact ((hd.permit true).clearWORM P).report _
  split at h
  · cases h
    exact ((hd.permit false).clearWORM P).report _
  split at h
  · obtain ⟨f, -, rfl⟩ := Option.map_eq_some_iff.mp h
    exact (steady_wormPermission d).settings rfl rfl rfl rfl
  split at h
  · cases h
    exact (hd.permit true).report _
  · cases h
    exact hd

/-- What the drive can do with the medium. -/
theorem steady_mountByCapability {d d' : Drive} {load_capability : UInt8}
    (h : mountByCapability d load_capability = some d') : Steady d d' := by
  have hd := Steady.refl d
  have hprotect : ∀ wp : Bool, Steady d { d with MediaWriteProtect := wp } := fun _ =>
    hd.settings rfl rfl rfl rfl
  unfold mountByCapability at h
  dsimp only at h
  split at h
  · split at h
    · cases h
      exact hd
    split at h
    · cases h
      exact hd.permit false
    · cases h
  split at h
  · split at h
    · cases h
      exact (hprotect true).permit false
    split at h
    · cases h
      exact (hprotect _).permit _
    split at h
    · cases h
    · cases h
      exact hd
  split at h
  · cases h
    exact hd
  · cases h
    exact hd.permit false

/-- The mode page of the partitions. -/
theorem steady_update_medium_partition_page {L : Libs} {d d' : Drive}
    (h : update_medium_partition_page L d = some d') : Steady d d' := by
  have hstore : ∀ (num unit : ℕ) (ks : List ℕ) (a b : Drive),
      ks.foldlM (storeDescriptor L num unit) a = some b → Steady a b := by
    intro num unit ks
    induction ks with
    | nil =>
      intro a b hl
      cases hl
      exact Steady.refl a
    | cons k ks ih =>
      intro a b hl
      rw [List.foldlM_cons] at hl
      obtain ⟨e, he, hrest⟩ := Option.bind_eq_some_iff.mp hl
      refine Steady.trans ?_ (ih e b hrest)
      unfold storeDescriptor at he
      split at he
      · cases he
      · cases he
        exact (Steady.refl a).settings rfl rfl rfl rfl
  unfold update_medium_partition_page at h
  split at h
  · cases h
    exact Steady.refl d
  · dsimp only at h
    split at h
    · cases h
    · have hrest := hstore _ _ _ _ _ h
      refine Steady.trans ?_ hrest
      exact (Steady.refl d).settings rfl rfl rfl rfl

/-- Files of the right size are rewritten as a whole. -/
theorem rewriteMAM_whole {c : Store} (hs : Sized c) (hf : c.mamfile = true ∧ c.mhvtlfile = true)
    (hopen : c.fd .data c.partition_id = true) (hio : OkFor 1 c.io) :
    c.rewriteMAM.2 = { c with io := c.io.tail, dir := { c.dir with
      mam := some (mamImage c.mam), mhvtl_data := some (mhvtlImage c.mam) } } := by
  obtain ⟨mam, mhvtl, hmam, hlen, hmhvtl, hlen'⟩ := hs
  have hhead : c.io.headD .ok = .ok := hio.head
  have hwhole : ∀ (image old : List UInt8) (n : ℕ), image.length = old.length → image.length ≤ n →
      overwriteFront (image.take n) old = image := by
    intro image old n heq hle
    rw [List.take_of_length_le hle, overwriteFront, List.drop_of_length_le (by omega), List.append_nil]
  have hall : (mamImage c.mam).length + (mhvtlImage c.mam).length - (mamImage c.mam).length =
      (mhvtlImage c.mam).length := by omega
  unfold Store.rewriteMAM Store.tape_loaded
  simp only [hopen, if_true, Bool.not_true, Bool.false_eq_true, if_false, Store.write_mam, hf.1, hf.2,
    hmam, hmhvtl, nextIo, hhead, lt_irrefl]
  rw [hwhole _ _ _ ((mamImage_length _).trans hlen.symm) (Nat.le_add_right _ _), hall,
    hwhole _ _ _ ((mhvtlImage_length _).trans hlen'.symm) (Nat.le_refl _)]

/-- A cartridge that is not open keeps its files. -/
theorem rewriteMAM_files {c : Store} (hs : Sized c) (hf : c.mamfile = true ∧ c.mhvtlfile = true)
    (hio : OkFor 1 c.io) : c.rewriteMAM.2.dir = if c.fd .data c.partition_id then
      { c.dir with mam := some (mamImage c.mam), mhvtl_data := some (mhvtlImage c.mam) } else c.dir := by
  cases hfd : c.fd .data c.partition_id with
  | false =>
    unfold Store.rewriteMAM Store.tape_loaded
    rw [hfd]
    rfl
  | true => rw [rewriteMAM_whole hs hf hfd hio, if_pos rfl]

/-- The attributes at a load keep the counts. -/
theorem sameLife_loadMam (P : LoadRules) (m : Mam) : SameLife m (loadMam P m) := by
  have hspace : ∀ m : Mam, SameLife m (mam_space_remaining m) := by
    intro m
    unfold mam_space_remaining
    dsimp only
    refine SameLife.put ?_ _ (by decide)
    split
    · exact (SameLife.refl m).put _ (by decide)
    · exact SameLife.refl m
  have h₁ : SameLife m (mam_space_remaining (m.putByte .record_dirty 1)) :=
    ((SameLife.refl m).put _ (by decide)).trans (hspace _)
  unfold loadMam
  exact (((((h₁.put _ (by decide)).put _ (by decide)).put _ (by decide)).put _ (by decide)).put _
    (by decide)).put _ (by decide)

/-- The fields that an unload fills in. -/
theorem unloadMam_life (w r : ℕ) (m : Mam) :
    (unloadMam w r m).bytes .WrittenInLastLoad = beBytes 8 w ∧
    (unloadMam w r m).bytes .ReadInLastLoad = beBytes 8 r ∧
    (unloadMam w r m).bytes .WrittenInMediumLife = beBytes 8 (m.be .WrittenInMediumLife + w) ∧
    (unloadMam w r m).bytes .ReadInMediumLife = beBytes 8 (m.be .ReadInMediumLife + r) := by
  have hother : ∀ (m : Mam) {f g : MamField} (n : ℕ), g ≠ f → (m.putBe f n).bytes g = m.bytes g :=
    fun m _ _ n hne => m.bytes_put_other (beBytes _ n) hne
  have hself : ∀ (m : Mam) {f : MamField} (n : ℕ), f.length = 8 → (m.putBe f n).bytes f = beBytes 8 n := by
    intro m f n hlen
    rw [Mam.putBe, hlen]
    exact m.bytes_put_self ((beBytes_length 8 n).trans hlen.symm)
  have hdirty : ∀ {f : MamField}, f ≠ .record_dirty → (m.putByte .record_dirty 0).be f = m.be f := by
    intro f hne
    rw [Mam.be, Mam.putByte, Mam.bytes_put_other _ _ hne, Mam.be]
  unfold unloadMam
  dsimp only
  refine ⟨?_, ?_, ?_, ?_⟩
  · rw [hother _ _ (by decide), hother _ _ (by decide), hother _ _ (by decide), hself _ _ rfl]
  · rw [hother _ _ (by decide), hother _ _ (by decide), hself _ _ rfl]
  · rw [hother _ _ (by decide), hself _ _ rfl, Mam.be, hother _ _ (by decide), hother _ _ (by decide),
      ← Mam.be, hdirty (by decide)]
  · rw [hself _ _ rfl, Mam.be, hother _ _ (by decide), hother _ _ (by decide), hother _ _ (by decide),
      ← Mam.be, hdirty (by decide)]

/-- The counts at an unload depend on those in front of it. -/
theorem SameLife.unloadMam {m m' : Mam} (h : SameLife m m') (w r : ℕ) :
    SameLife (unloadMam w r m) (unloadMam w r m') := by
  have hbe : ∀ f ∈ lifeFields, m'.be f = m.be f := by
    intro f hf
    rw [Mam.be, h.life f hf, Mam.be]
  obtain ⟨hw, hr, hwl, hrl⟩ := unloadMam_life w r m
  obtain ⟨hw', hr', hwl', hrl'⟩ := unloadMam_life w r m'
  refine ⟨h.versions, fun f hf => ?_⟩
  simp only [lifeFields, List.mem_cons, List.not_mem_nil, or_false] at hf
  rcases hf with rfl | rfl | rfl | rfl
  · rw [hw', hw]
  · rw [hr', hr]
  · rw [hwl', hwl, hbe _ (by decide)]
  · rw [hrl', hrl, hbe _ (by decide)]

/-- The cartridge is out of the drive, with the counts of `m` in its files. -/
def AtRest (m : Mam) (d : Drive) : Prop :=
  d.load_status = TAPE_UNLOADED ∧ ∃ m', Stored d.cart.dir m' ∧ SameLife m m'

/-- The cartridge is in the drive, with the counts of `m` in memory, and the drive has counted
`w` bytes written and `r` bytes read. -/
structure Counting (m : Mam) (w r : ℕ) (d : Drive) : Prop where
  /-- It is in the drive. -/
  load_status : d.load_status = TAPE_LOADING ∨ d.load_status = TAPE_LOADED
  /-- The counts of the loads before. -/
  life : SameLife m d.cart.mam
  /-- The formats are up to date. -/
  versions : m.tape_fmt_version = TAPE_FMT_VERSION ∧ m.mam_fmt_version = MAM_VERSION
  /-- The attribute files can be rewritten. -/
  sized : Sized d.cart
  /-- They are open. -/
  files : d.cart.mamfile = true ∧ d.cart.mhvtlfile = true
  /-- Bytes written. -/
  written : d.bytesWritten_I = w
  /-- Bytes read. -/
  read : d.bytesRead_I = r

/-- Files that were stored have their size. -/
theorem Stored.sized {c : Store} {m : Mam} (h : Stored c.dir m) : Sized c :=
  ⟨_, _, h.mam, mamImage_length m, h.mhvtl_data, mhvtlImage_length m⟩

/-- What rewriting the attributes over stored ones leaves. -/
theorem rewriteMAM_stored {c : Store} {m : Mam} (h : Stored c.dir m) (hlife : SameLife m c.mam)
    (hf : c.mamfile = true ∧ c.mhvtlfile = true) (hio : OkFor 1 c.io) :
    ∃ m', Stored c.rewriteMAM.2.dir m' ∧ SameLife m m' := by
  rw [rewriteMAM_files h.sized hf hio]
  split
  · have hversions : c.mam.tape_fmt_version = TAPE_FMT_VERSION ∧ c.mam.mam_fmt_version = MAM_VERSION :=
      ⟨hlife.versions.1.trans h.versions.1, hlife.versions.2.trans h.versions.2⟩
    exact ⟨c.mam, ⟨rfl, rfl, hversions⟩, hlife⟩
  · exact ⟨m, h, SameLife.refl m⟩

/-- The cartridge is being taken in: nothing is counted yet. -/
structure Taken (m : Mam) (d : Drive) : Prop where
  /-- It is in the drive. -/
  load_status : d.load_status = TAPE_LOADING ∨ d.load_status = TAPE_LOADED
  /-- The counts in its files. -/
  stored : ∃ m', Stored d.cart.dir m' ∧ SameLife m m'
  /-- The counts in memory. -/
  life : SameLife m d.cart.mam
  /-- The files are open. -/
  files : d.cart.mamfile = true ∧ d.cart.mhvtlfile = true
  /-- Bytes written. -/
  written : d.bytesWritten_I = 0
  /-- Bytes read. -/
  read : d.bytesRead_I = 0

namespace Taken

variable {m : Mam} {d d' : Drive}

/-- The load goes on. -/
theorem steady (h : Taken m d) (hs : Steady d d') : Taken m d' := by
  obtain ⟨m', ⟨hmam, hmhvtl, hversions⟩, hlife⟩ := h.stored
  refine ⟨?_, ⟨m', ⟨hs.cart.dir.1.trans hmam, hs.cart.dir.2.trans hmhvtl, hversions⟩, hlife⟩,
    h.life.trans hs.cart.mam.life, ⟨hs.cart.files.1.trans h.files.1, hs.cart.files.2.trans h.files.2⟩,
    hs.written.trans h.written, hs.read.trans h.read⟩
  rw [hs.load_status]
  exact h.load_status

/-- The attributes are brought up to date. -/
theorem updateMAM (h : Taken m d) (P : LoadRules) (hio : OkFor 1 d.cart.io) :
    Taken m (updateMAM P d true) := by
  obtain ⟨m', hstored, hlife⟩ := h.stored
  let c : Store := { d.cart with mam := loadMam P d.cart.mam }
  have hmem : SameLife m c.mam := h.life.trans (sameLife_loadMam P d.cart.mam)
  have hkept : LifeKept c c.rewriteMAM.2 := LifeKept.rewriteMAM c
  have hback : SameLife m' c.mam :=
    ⟨⟨hmem.versions.1.trans hlife.versions.1.symm, hmem.versions.2.trans hlife.versions.2.symm⟩,
      fun f hf => (hmem.life f hf).trans (hlife.life f hf).symm⟩
  obtain ⟨m'', hstored', hlife'⟩ := rewriteMAM_stored (c := c) hstored hback h.files hio
  -- the record is taken apart first: compared as a whole, its store would be evaluated
  have hcart : (Ssc.updateMAM P d true).cart = c.rewriteMAM.2 := by
    simp only [Ssc.updateMAM, if_true, Drive.onCart, Drive.setMam, c]
  have hrest : (Ssc.updateMAM P d true).load_status = d.load_status ∧
      (Ssc.updateMAM P d true).bytesWritten_I = d.bytesWritten_I ∧
      (Ssc.updateMAM P d true).bytesRead_I = d.bytesRead_I := by
    simp only [Ssc.updateMAM, if_true, Drive.onCart, Drive.setMam, and_self]
  refine ⟨?_, ⟨m'', ?_, hlife.trans hlife'⟩, ?_, ?_, hrest.2.1.trans h.written, hrest.2.2.trans h.read⟩
  · rw [hrest.1]
    exact h.load_status
  · rw [hcart]
    exact hstored'
  · rw [hcart]
    exact hmem.trans hkept.mam
  · rw [hcart]
    exact ⟨hkept.files.1.trans h.files.1, hkept.files.2.trans h.files.2⟩

/-- It has been taken in. -/
theorem counting (h : Taken m d) : Counting m 0 0 d := by
  obtain ⟨m', hstored, hlife⟩ := h.stored
  have hversions : m.tape_fmt_version = TAPE_FMT_VERSION ∧ m.mam_fmt_version = MAM_VERSION :=
    ⟨hlife.versions.1.symm.trans hstored.versions.1, hlife.versions.2.symm.trans hstored.versions.2⟩
  exact ⟨h.load_status, h.life, hversions, hstored.sized, h.files, h.written, h.read⟩

/-- The timer of the mount runs out. -/
theorem finish_mount (h : Taken m d) : Taken m (finish_mount d) := by
  unfold Ssc.finish_mount
  split
  · exact ⟨Or.inr rfl, h.stored, h.life, h.files, h.written, h.read⟩
  · exact h

end Taken

section Loads

variable {P : LoadRules} {L : Libs} {d d' : Drive} {m : Mam}

/-- A cartridge that the drive does not take is at rest. -/
theorem mismatchmedia_left {rc : ℤ} (hfiles : ∃ m', Stored d.cart.dir m' ∧ SameLife m m')
    (hrun : mismatchmedia P d = some (rc, d')) : AtRest m d' := by
  obtain ⟨c, hc, hd'⟩ := Option.map_eq_some_iff.mp hrun
  obtain ⟨-, hmam, hmhvtl, -⟩ := unload_tape_left hc
  obtain ⟨m', ⟨hmam', hmhvtl', hversions⟩, hlife⟩ := hfiles
  cases hd'
  exact ⟨rfl, m', ⟨hmam.trans hmam', hmhvtl.trans hmhvtl', hversions⟩, hlife⟩

/-- A load leaves the cartridge at rest, or starts to count. -/
theorem loadTape_left {r : LoadRequest} {rc : ℤ} (h : AtRest m d) (hpcl : r.pcl = d.cart.dir)
    (hio : OkFor 1 d.cart.io) (hrun : loadTape P L d r = some (rc, d')) :
    AtRest m d' ∨ Counting m 0 0 d' := by
  obtain ⟨hout, m', hstored, hlife⟩ := h
  unfold loadTape at hrun
  extract_lets d₀ at hrun
  split at hrun
  · cases hrun
  rename_i rc₁ c hload
  extract_lets d₁ d₂ at hrun
  rw [hpcl] at hload
  have hleft := load_tape_left hstored hload
  by_cases hrc : rc₁ ≠ 0
  · rw [if_pos hrc] at hrun
    obtain ⟨-, rfl⟩ := Prod.mk.inj (Option.some.inj hrun)
    left
    refine ⟨hout, m', ?_, hlife⟩
    rcases hleft with ⟨-, hsame⟩ | hlooked
    · change Stored c.dir m'
      rwa [hsame]
    · exact ⟨hlooked.dir.1.trans hstored.mam, hlooked.dir.2.trans hstored.mhvtl_data, hstored.versions⟩
  rw [if_neg hrc] at hrun
  have hlooked : Looked { d₀.cart with
      dir := d.cart.dir, mamfile := true, mhvtlfile := true, mam := m' } c := by
    rcases hleft with ⟨hne, -⟩ | hlooked
    · exact absurd hne hrc
    · exact hlooked
  have hstart : Taken m { d₁ with load_status := TAPE_LOADING } := by
    refine ⟨Or.inl rfl, ⟨m', ?_, hlife⟩, hlife.trans hlooked.mam.life, hlooked.files, rfl, rfl⟩
    exact ⟨hlooked.dir.1.trans hstored.mam, hlooked.dir.2.trans hstored.mhvtl_data, hstored.versions⟩
  have hsteady : Steady { d₁ with load_status := TAPE_LOADING } d₂ :=
    Steady.onCart (Steady.media_load (Steady.refl _) P true) (Looked.rewind_tape _)
  have hd₂ := hstart.steady hsteady
  have hio₂ : d₂.cart.io = d.cart.io := hsteady.cart.io.trans hlooked.io
  split at hrun
  · exact Or.inl (mismatchmedia_left hd₂.stored hrun)
  rename_i e htype
  have hsteady₃ := steady_mountByType htype
  have hupdated := (hd₂.steady hsteady₃).updateMAM P (by rwa [hsteady₃.cart.io, hio₂])
  extract_lets f at hrun
  split at hrun
  · exact Or.inl (mismatchmedia_left hupdated.stored hrun)
  split at hrun
  · exact Or.inl (mismatchmedia_left hupdated.stored hrun)
  rename_i g hcapability
  extract_lets density g₁ g₂ at hrun
  have hg₁ : Taken m g₁ := (hupdated.steady (steady_mountByCapability hcapability)).steady
    ((Steady.refl g).settings rfl rfl rfl rfl)
  have hg₂ : Taken m g₂ := by
    unfold g₂
    split
    · exact hg₁.finish_mount
    · exact hg₁
  obtain ⟨e', hpage, hd'⟩ := Option.map_eq_some_iff.mp hrun
  obtain ⟨-, rfl⟩ := Prod.mk.inj hd'
  exact Or.inr (hg₂.steady (steady_update_medium_partition_page hpage)).counting

/-- The fields that a load sets. -/
def loadFields : List MamField :=
  [.record_dirty, .MAMCapacity, .MAMSpaceRemaining, .max_partitions, .LoadCount,
   .DevMakeSerialLastLoad3, .DevMakeSerialLastLoad2, .DevMakeSerialLastLoad1, .DevMakeSerialLastLoad,
   .num_partitions]

/-- The attributes at a load but for those. -/
theorem loadMam_other (P : LoadRules) (m : Mam) {f : MamField} (hf : f ∉ loadFields) :
    (loadMam P m).bytes f = m.bytes f := by
  have hne : ∀ g ∈ loadFields, f ≠ g := by
    rintro g hg rfl
    exact hf hg
  have hspace : ∀ m : Mam, (mam_space_remaining m).bytes f = m.bytes f := by
    intro m
    unfold mam_space_remaining
    dsimp only
    rw [Mam.putBe, Mam.bytes_put_other _ _ (hne _ (by decide))]
    split
    · rw [Mam.putBe, Mam.bytes_put_other _ _ (hne _ (by decide))]
    · rfl
  unfold loadMam
  dsimp only
  rw [Mam.bytes_put_other _ _ (hne _ (by decide)), Mam.bytes_put_other _ _ (hne _ (by decide)),
    Mam.bytes_put_other _ _ (hne _ (by decide)), Mam.bytes_put_other _ _ (hne _ (by decide)),
    Mam.putBe, Mam.bytes_put_other _ _ (hne _ (by decide)), Mam.putByte,
    Mam.bytes_put_other _ _ (hne _ (by decide)), hspace, Mam.putByte,
    Mam.bytes_put_other _ _ (hne _ (by decide))]

/-- The fields that an unload sets. -/
def unloadFields : List MamField :=
  [.record_dirty, .WrittenInLastLoad, .ReadInLastLoad, .WrittenInMediumLife, .ReadInMediumLife]

/-- The attributes at an unload but for those. -/
theorem unloadMam_other (w r : ℕ) (m : Mam) {f : MamField} (hf : f ∉ unloadFields) :
    (unloadMam w r m).bytes f = m.bytes f := by
  have hne : ∀ g ∈ unloadFields, f ≠ g := by
    rintro g hg rfl
    exact hf hg
  unfold unloadMam
  dsimp only
  simp only [Mam.putBe, Mam.putByte]
  rw [Mam.bytes_put_other _ _ (hne _ (by decide)), Mam.bytes_put_other _ _ (hne _ (by decide)),
    Mam.bytes_put_other _ _ (hne _ (by decide)), Mam.bytes_put_other _ _ (hne _ (by decide)),
    Mam.bytes_put_other _ _ (hne _ (by decide))]

/-- A cartridge that is mounted has the attributes of its files but for those. -/
theorem loadTape_mam {r : LoadRequest} (h : Stored r.pcl m) (hrun : loadTape P L d r = some (0, d'))
    {f : MamField} (hf : f ∉ loadFields) : d'.cart.mam.bytes f = m.bytes f := by
  have hnum : f ≠ .num_partitions := by
    rintro rfl
    exact hf (by decide)
  have hmismatch : ∀ e : Drive, mismatchmedia P e ≠ some (0, d') := by
    intro e he
    obtain ⟨c, -, hrc⟩ := Option.map_eq_some_iff.mp he
    have hone : (1 : ℤ) = 0 := congrArg Prod.fst hrc
    exact absurd hone one_ne_zero
  unfold loadTape at hrun
  extract_lets d₀ at hrun
  split at hrun
  · cases hrun
  rename_i rc₁ c hload
  extract_lets d₁ d₂ at hrun
  split at hrun
  · next hne => exact absurd (congrArg Prod.fst (Option.some.inj hrun)) hne
  next hrc =>
  have hlooked : SameMedium m c.mam := by
    rcases load_tape_left h hload with ⟨hne, -⟩ | hlooked
    · exact absurd hne hrc
    · exact hlooked.mam
  have hsteady : Steady { d₁ with load_status := TAPE_LOADING } d₂ :=
    Steady.onCart (Steady.media_load (Steady.refl _) P true) (Looked.rewind_tape _)
  split at hrun
  · exact absurd hrun (hmismatch d₂)
  rename_i e htype
  extract_lets g at hrun
  have hupdated : g.cart.mam = loadMam P e.cart.mam := rewriteMAM_mam _
  split at hrun
  · exact absurd hrun (hmismatch g)
  split at hrun
  · exact absurd hrun (hmismatch g)
  rename_i k hcapability
  extract_lets density k₁ k₂ at hrun
  have hk₂ : k₂.cart = k.cart := by
    unfold k₂ Ssc.finish_mount
    split
    · split <;> rfl
    · rfl
  obtain ⟨e', hpage, hd'⟩ := Option.map_eq_some_iff.mp hrun
  obtain ⟨-, rfl⟩ := Prod.mk.inj hd'
  have hfront := hlooked.trans (hsteady.trans (steady_mountByType htype)).cart.mam
  have hpages := (steady_update_medium_partition_page hpage).cart.mam
  rw [hk₂] at hpages
  have hback := (steady_mountByCapability hcapability).cart.mam.trans hpages
  rw [hback.bytes f hnum, hupdated, loadMam_other P _ hf, hfront.bytes f hnum]

/-- A clean unload writes the attributes out. -/
theorem unloadTape_stored (hload : d.load_status = TAPE_LOADING ∨ d.load_status = TAPE_LOADED)
    (hversions : d.cart.mam.tape_fmt_version = TAPE_FMT_VERSION ∧
      d.cart.mam.mam_fmt_version = MAM_VERSION) (hsized : Sized d.cart)
    (hf : d.cart.mamfile = true ∧ d.cart.mhvtlfile = true)
    (hopen : d.cart.fd .data d.cart.partition_id = true) (hio : OkFor 1 d.cart.io)
    (hrun : unloadTape P d = some d') : d'.load_status = TAPE_UNLOADED ∧
      Stored d'.cart.dir (unloadMam d.bytesWritten_I d.bytesRead_I d.cart.mam) := by
  let c : Store := { d.cart with mam := unloadMam d.bytesWritten_I d.bytesRead_I d.cart.mam }
  have hfiles := rewriteMAM_files (c := c) hsized hf hio
  rw [if_pos (show c.fd .data c.partition_id = true from hopen)] at hfiles
  have hcart : (updateMAM P d false).cart = c.rewriteMAM.2 := by
    simp only [updateMAM, Bool.false_eq_true, if_false, Drive.onCart, Drive.setMam, c]
  unfold unloadTape at hrun
  extract_lets emptied d₁ at hrun
  rw [if_pos hload] at hrun
  obtain ⟨c', hc', rfl⟩ := Option.map_eq_some_iff.mp hrun
  change (updateMAM P d false).cart.unload_tape = some c' at hc'
  rw [hcart] at hc'
  obtain ⟨-, hmam, hmhvtl, -⟩ := unload_tape_left hc'
  have hsteady : Steady { d₁ with cart := c' }
      ((({ d₁ with cart := c' }.clearWORM P).media_load P false)) :=
    Steady.media_load (Steady.clearWORM (Steady.refl _) P) P false
  refine ⟨rfl, hsteady.cart.dir.1.trans (hmam.trans ?_), hsteady.cart.dir.2.trans (hmhvtl.trans ?_),
    hversions⟩
  · rw [hfiles]
  · rw [hfiles]

/-- A clean unload puts the counts of the load into the files. -/
theorem unloadTape_left {w r : ℕ} (h : Counting m w r d)
    (hopen : d.cart.fd .data d.cart.partition_id = true) (hio : OkFor 1 d.cart.io)
    (hrun : unloadTape P d = some d') : AtRest (unloadMam w r m) d' := by
  have hversions : d.cart.mam.tape_fmt_version = TAPE_FMT_VERSION ∧
      d.cart.mam.mam_fmt_version = MAM_VERSION :=
    ⟨h.life.versions.1.trans h.versions.1, h.life.versions.2.trans h.versions.2⟩
  obtain ⟨hout, hstored⟩ :=
    unloadTape_stored h.load_status hversions h.sized h.files hopen hio hrun
  rw [h.written, h.read] at hstored
  exact ⟨hout, _, hstored, h.life.unloadMam w r⟩

/-- Without a cartridge there is nothing to unload. -/
theorem unloadTape_empty (h : AtRest m d) (hrun : unloadTape P d = some d') : AtRest m d' := by
  obtain ⟨hout, m', hstored, hlife⟩ := h
  have hno : ¬(d.load_status = TAPE_LOADING ∨ d.load_status = TAPE_LOADED) := by
    rw [hout]
    decide
  unfold unloadTape at hrun
  rw [if_neg hno] at hrun
  obtain rfl := Option.some.inj hrun
  exact ⟨rfl, m', hstored, hlife⟩

/-- The counts are in the files once the cartridge is at rest. -/
theorem AtRest.read (h : AtRest m d) (x : Mam) :
    ∃ m', read_mam d.cart.dir.mam d.cart.dir.mhvtl_data x = (0, m') ∧ SameLife m m' := by
  obtain ⟨-, m', hstored, hlife⟩ := h
  exact ⟨m', hstored.read x, hlife⟩

/-- Only the files of a cartridge at rest matter. -/
theorem AtRest.same (h : AtRest m d) (hload : d'.load_status = d.load_status)
    (hmam : d'.cart.dir.mam = d.cart.dir.mam)
    (hmhvtl : d'.cart.dir.mhvtl_data = d.cart.dir.mhvtl_data) : AtRest m d' := by
  obtain ⟨hout, m', ⟨hmam₀, hmhvtl₀, hversions⟩, hlife⟩ := h
  exact ⟨hload.trans hout, m', ⟨hmam.trans hmam₀, hmhvtl.trans hmhvtl₀, hversions⟩, hlife⟩

/-- A command at which nothing is in the drive leaves the files alone. -/
theorem AtRest.kept (h : AtRest m d) (hclosed : d.cart.mamfile = false)
    (hkept : LifeKept d.cart d'.cart) (hload : d'.load_status = d.load_status) : AtRest m d' := by
  obtain ⟨hmam, hmhvtl⟩ := hkept.closed hclosed
  exact h.same hload hmam hmhvtl

/-- Bytes that a command counts. -/
theorem Counting.counted {w r w' r' : ℕ} (h : Counting m w r d) (hc : Counted w' r' d d') :
    Counting m (w + w') (r + r') d' where
  load_status := by
    rw [hc.load_status]
    exact h.load_status
  life := h.life.trans hc.attrs.mam
  versions := h.versions
  sized := hc.attrs.sized h.sized
  files := ⟨hc.attrs.files.1.trans h.files.1, hc.attrs.files.2.trans h.files.2⟩
  written := by rw [hc.written, h.written]
  read := by rw [hc.read, h.read]

/-- The partition under the position is open when LOAD UNLOAD has gone back to the first one. -/
def FirstOpens (c : Store) : Prop :=
  let c := (c.change_partition 0).2.rewind_tape.2
  c.fd .data c.partition_id = true

/-- LOAD UNLOAD takes the cartridge out. -/
def Unloads (d : Drive) (cdb : Cdb) : Prop :=
  cdb 4 &&& 0x04 = 0 ∧ cdb 4 &&& 0x01 = 0 ∧ d.load_status = TAPE_LOADED

/-- Work on the cartridge that is mounted. -/
theorem Counting.looked {w r : ℕ} (h : Counting m w r d) {c : Store} (hc : SameAttrs d.cart c) :
    Counting m w r { d with cart := c } := h.counted ((Counted.refl d).cart hc)

/-- Sense data. -/
theorem Counting.report {w r : ℕ} (h : Counting m w r d) (st : Status) :
    Counting m w r (d.report st) := h.counted ((Counted.refl d).report st)

/-- LOAD UNLOAD keeps the counts, or it unloads the cartridge. -/
theorem ssc_load_unload_counting {cdb : Cdb} {barcode : Option LoadRequest} {stale : Bool} {w r : ℕ}
    (h : Counting m w r d) (hclean : Unloads d cdb → FirstOpens d.declare_ssc_vars.cart ∧ OkFor 1 d.cart.io)
    (hrun : ssc_load_unload P L d cdb barcode stale = some d') :
    Counting m w r d' ∨ AtRest (unloadMam w r m) d' := by
  have hin : d.load_status ≠ TAPE_UNLOADED := by
    rcases h.load_status with hst | hst
    · rw [hst]
      decide
    · rw [hst]
      decide
  have hd := h.report { d.cart.status with sam_stat := SAM_STAT_GOOD }
  unfold ssc_load_unload at hrun
  extract_lets e load_request f at hrun
  have he : Counting m w r e := hd
  split at hrun
  · obtain rfl := Option.some.inj hrun
    exact Or.inl (he.report _)
  rename_i hhold
  have hf : f = e.onCart fun c => (c.change_partition 0).2 := by
    unfold f firstPartition
    exact if_neg fun hno => hin hno.1
  have hfirst : Counting m w r f := by
    rw [hf]
    exact he.looked (SameAttrs.change_partition _ 0)
  have hback := hfirst.looked (SameAttrs.rewind_tape f.cart)
  rcases hrewind : f.cart.rewind_tape with ⟨media_state, c⟩
  rw [hrewind] at hrun hback
  let g : Drive := { f with cart := c }
  have hg : Counting m w r g := hback
  have hstatus : g.load_status = d.load_status := by
    change f.load_status = d.load_status
    rw [hf]
    rfl
  change (if g.load_status = TAPE_UNLOADED then _ else if g.load_status = TAPE_LOADED then
    (if (!decide load_request) = true then unloadTape P g else some g)
      else some (g.report _)) = some d' at hrun
  rw [hstatus, if_neg hin] at hrun
  split at hrun
  · rename_i hloaded
    split at hrun
    · rename_i hload
      right
      have hbit : cdb 4 &&& 0x04 = 0 := not_not.mp hhold
      have hno : cdb 4 &&& 0x01 = 0 := by
        by_contra hne
        rw [decide_eq_true (show load_request from hne)] at hload
        cases hload
      obtain ⟨hopen, hio⟩ := hclean ⟨hbit, hno, hloaded⟩
      have hcart : g.cart = ((e.cart.change_partition 0).2.rewind_tape).2 := by
        change c = _
        rw [show c = (f.cart.rewind_tape).2 from (congrArg Prod.snd hrewind).symm, hf]
        rfl
      have hlooked : Looked d.cart g.cart := by
        rw [hcart]
        exact ((Looked.of_same ⟨rfl, rfl, rfl, rfl, rfl⟩ rfl : Looked d.cart e.cart).trans
          (Looked.change_partition _ 0)).trans (Looked.rewind_tape _)
      have hfirst : g.cart.fd .data g.cart.partition_id = true := by
        rw [hcart]
        exact hopen
      exact unloadTape_left hg hfirst (by rwa [hlooked.io]) hrun
    · obtain rfl := Option.some.inj hrun
      exact Or.inl hg
  · obtain rfl := Option.some.inj hrun
    exact Or.inl (hg.report _)

/-- Rewinding never tells that there is no medium. -/
theorem rewind_tape_ne_zero (c : Store) : c.rewind_tape.1 ≠ 0 := by
  unfold Store.rewind_tape
  dsimp only
  split
  · exact Int.neg_ne_zero.mpr one_ne_zero
  split
  · exact Int.neg_ne_zero.mpr one_ne_zero
  · exact one_ne_zero

/-- An empty drive is not loaded by LOAD UNLOAD. -/
theorem ssc_load_unload_empty {cdb : Cdb} {barcode : Option LoadRequest} {stale : Bool}
    (h : AtRest m d) (hrun : ssc_load_unload P L d cdb barcode stale = some d') : AtRest m d' := by
  unfold ssc_load_unload at hrun
  extract_lets e load_request f at hrun
  have he : AtRest m e := h.same rfl rfl rfl
  split at hrun
  · obtain rfl := Option.some.inj hrun
    exact he.same rfl rfl rfl
  have hf : AtRest m f := by
    unfold f firstPartition
    split
    · exact he.same rfl rfl rfl
    · have hsame := SameAttrs.change_partition e.cart 0
      exact he.same rfl hsame.dir_mam hsame.dir_mhvtl_data
  have hsame := SameAttrs.rewind_tape f.cart
  have hne := rewind_tape_ne_zero f.cart
  rcases hrewind : f.cart.rewind_tape with ⟨media_state, c⟩
  rw [hrewind] at hrun hsame hne
  let g : Drive := { f with cart := c }
  have hg : AtRest m g := hf.same rfl hsame.dir_mam hsame.dir_mhvtl_data
  dsimp only at hrun hne
  rw [if_pos (show g.load_status = TAPE_UNLOADED from hg.1), if_neg hne] at hrun
  split at hrun
  · obtain rfl := Option.some.inj hrun
    exact hg.same rfl rfl rfl
  split at hrun
  · obtain rfl := Option.some.inj hrun
    exact hg
  · obtain rfl := Option.some.inj hrun
    exact hg.same rfl rfl rfl

end Loads

end Mhvtl.Ssc
