import Mhvtl.Cart.Volume
import Mhvtl.Ssc.Commands
import Mhvtl.Ssc.Writing

/-!
# Commands on a mounted volume

READ, WRITE and positioning on a drive whose cartridge is a mounted volume:
which records they leave, and that they leave the settings of the drive alone.
-/

namespace Mhvtl.Ssc

open Bytes Cart Store

/-- Stores that differ in attributes, permission and status only. -/
structure SameTape (c c' : Store) : Prop where
  /-- Files and arrays. -/
  part : ∀ q, c'.part q = c.part q
  /-- The position. -/
  raw_pos : c'.raw_pos = c.raw_pos
  /-- What is open. -/
  fd : c'.fd = c.fd
  /-- Host calls go on succeeding. -/
  io : c.io = [] → c'.io = []

namespace SameTape

variable {a b c : Store}

theorem refl (c : Store) : SameTape c c := ⟨fun _ => rfl, rfl, rfl, id⟩

theorem trans (h : SameTape a b) (h' : SameTape b c) : SameTape a c :=
  ⟨fun q => (h'.part q).trans (h.part q), h'.raw_pos.trans h.raw_pos, h'.fd.trans h.fd,
    fun hio => h'.io (h.io hio)⟩

/-- The store stands where it stood. -/
theorem at_pos (h : SameTape a b) {p i : ℕ} {l : List Record} (ha : At a p l i) : At b p l i :=
  At.congr ha (h.part p) h.raw_pos h.fd

/-- A mounted volume stays mounted. -/
theorem mounted (h : SameTape a b) {n : ℕ} {recs : ℕ → List Record} (hm : Mounted n a recs) :
    Mounted n b recs where
  n_le := hm.n_le
  rep q hq := by
    rw [h.part q]
    exact hm.rep q hq
  absent q hq k := (congrArg (fun v => v.file k) (h.part q)).trans (hm.absent q hq k)
  bound := hm.bound
  place := by
    rcases hm.place with ⟨p, i, hp, hat⟩ | hclosed
    · exact Or.inl ⟨p, i, hp, h.at_pos hat⟩
    · right
      rw [h.fd, Store.partition_id, h.raw_pos]
      exact hclosed
  io := h.io hm.io

/-- Attributes, permission and status. -/
theorem of_mam (c : Store) (m : Mam) (ok : Bool) (st : Status) :
    SameTape c { c with mam := m, OK_to_write := ok, status := st } :=
  ⟨fun _ => rfl, rfl, rfl, id⟩

/-- Writing the attributes out touches their files only. -/
theorem rewriteMAM (c : Store) : SameTape c c.rewriteMAM.2 := by
  have hwrite : ∀ c : Store, SameTape c c.write_mam.2 := by
    intro c
    unfold Store.write_mam
    split
    · have htail : c.io = [] → c.io.tail = [] := fun h => by rw [h, List.tail_nil]
      cases hio : c.io.headD .ok with
      | ok => simpa only [nextIo, hio] using ⟨fun _ => rfl, rfl, rfl, htail⟩
      | fail => simpa only [nextIo, hio] using ⟨fun _ => rfl, rfl, rfl, htail⟩
      | short n =>
        simp only [nextIo, hio]
        split <;> exact ⟨fun _ => rfl, rfl, rfl, htail⟩
    · exact refl c
  have hloaded : SameTape c c.tape_loaded.2 := by
    unfold Store.tape_loaded
    split
    · exact refl c
    · exact of_mam c c.mam c.OK_to_write _
  unfold Store.rewriteMAM
  dsimp only
  split
  · exact hloaded
  · split
    · exact (hloaded.trans (hwrite _)).trans (of_mam _ _ _ _)
    · exact hloaded.trans (hwrite _)

end SameTape

/-- Drives with the same settings: they differ in cartridge, counters, block descriptor and in
whether the key is in use. The geometry of the cartridge is the same. -/
structure SettingsKept (d d' : Drive) : Prop where
  /-- What may differ. -/
  eq : ∃ c vcr info mbd rm ri wm wi, d' = { d with
    cart := c, vcr_updated := vcr, app_encr_info := info, modeBlockDescriptor := mbd
    bytesRead_M := rm, bytesRead_I := ri, bytesWritten_M := wm, bytesWritten_I := wi }
  /-- The partitions of the cartridge. -/
  geometry : SameGeometry d.cart.mam d'.cart.mam
  /-- The type of the medium. -/
  type : d'.cart.mam.MediumType = d.cart.mam.MediumType

namespace SettingsKept

variable {a b c d d' : Drive}

theorem refl (d : Drive) : SettingsKept d d := ⟨⟨_, _, _, _, _, _, _, _, rfl⟩, fun _ _ => rfl, rfl⟩

theorem trans (h : SettingsKept a b) (h' : SettingsKept b c) : SettingsKept a c := by
  refine ⟨?_, fun f hf => (h'.geometry f hf).trans (h.geometry f hf), h'.type.trans h.type⟩
  obtain ⟨c₁, v₁, i₁, m₁, r₁, s₁, w₁, x₁, rfl⟩ := h.eq
  obtain ⟨c₂, v₂, i₂, m₂, r₂, s₂, w₂, x₂, rfl⟩ := h'.eq
  exact ⟨_, _, _, _, _, _, _, _, rfl⟩

/-- Another cartridge state with the same attributes. -/
theorem of_cart (d : Drive) {c : Store} (hm : c.mam = d.cart.mam) :
    SettingsKept d { d with cart := c } :=
  ⟨⟨_, _, _, _, _, _, _, _, rfl⟩, fun _ _ => by rw [← hm], by rw [← hm]⟩

/-- The key and its use. -/
theorem keys (h : SettingsKept d d') : d'.ENCRYPT_MODE = d.ENCRYPT_MODE ∧
    d'.DECRYPT_MODE = d.DECRYPT_MODE ∧ d'.app_encryption_state = d.app_encryption_state ∧
    d'.pm = d.pm := by
  obtain ⟨c₁, v₁, i₁, m₁, r₁, s₁, w₁, x₁, rfl⟩ := h.eq
  exact ⟨rfl, rfl, rfl, rfl⟩

/-- The capacities are the same. -/
theorem capacity (h : SettingsKept d d') (L : Libs) (p : ℕ) :
    medium_partition_capacity L d' p = medium_partition_capacity L d p := by
  apply medium_partition_capacity_congr _ h.geometry
  obtain ⟨c₁, v₁, i₁, m₁, r₁, s₁, w₁, x₁, rfl⟩ := h.eq
  rfl

end SettingsKept

/-- The settings and the tape are left alone. -/
structure Beside (d d' : Drive) : Prop extends SettingsKept d d' where
  /-- The tape. -/
  tape : SameTape d.cart d'.cart

namespace Beside

variable {a b c : Drive}

theorem refl (d : Drive) : Beside d d := ⟨SettingsKept.refl d, SameTape.refl _⟩

theorem trans (h : Beside a b) (h' : Beside b c) : Beside a c :=
  ⟨h.toSettingsKept.trans h'.toSettingsKept, h.tape.trans h'.tape⟩

/-- Permission and status. -/
theorem settled (d : Drive) (ok : Bool) (st : Status) :
    Beside d { d with cart := { d.cart with OK_to_write := ok, status := st } } :=
  ⟨SettingsKept.of_cart d rfl, SameTape.of_mam d.cart d.cart.mam ok st⟩

/-- The status. -/
theorem report (d : Drive) (st : Status) : Beside d (d.report st) := settled d d.cart.OK_to_write st

/-- The status byte. -/
theorem returns (d : Drive) (sam_stat : ℕ) : Beside d (d.returns sam_stat) :=
  settled d d.cart.OK_to_write _

/-- The permission. -/
theorem permit (d : Drive) (ok : Bool) : Beside d (d.onCart fun c => { c with OK_to_write := ok }) :=
  settled d ok d.cart.status

/-- An attribute that says nothing about partitions or the type of the medium. -/
theorem setMam (d : Drive) (f : MamField) (bs : List UInt8) (hg : f ∉ geometryFields)
    (ht : f ≠ .MediumType) : Beside d (d.setMam (·.put f bs)) :=
  ⟨⟨⟨_, _, _, _, _, _, _, _, rfl⟩, sameGeometry_put _ hg bs, Mam.byte_put_other _ _ ht.symm⟩,
    SameTape.of_mam d.cart _ d.cart.OK_to_write d.cart.status⟩

/-- Writing the attributes out. -/
theorem rewriteMAM (d : Drive) : Beside d (d.onCart fun c => c.rewriteMAM.2) :=
  ⟨SettingsKept.of_cart d (rewriteMAM_mam d.cart), SameTape.rewriteMAM d.cart⟩

/-- A mounted volume stays mounted. -/
theorem mounted {d d' : Drive} (h : Beside d d') {n : ℕ} {recs : ℕ → List Record}
    (hm : Mounted n d.cart recs) : Mounted n d'.cart recs := h.tape.mounted hm

end Beside

/-- Checking the permission changes permission and status only. -/
theorem check_restrictions_beside {d d' : Drive} {b : Bool} (h : check_restrictions d = some (b, d')) :
    Beside d d' := by
  unfold check_restrictions at h
  extract_lets d₀ allow refuse type d₁ at h
  have hstart : Beside d d₀ := Beside.returns d SAM_STAT_GOOD
  have hallow : ∀ (e : Drive) (ok : Bool), Beside e (allow e ok) := Beside.permit
  have hrefuse : ∀ {e r : Drive} {st : Status}, Beside d e → refuse e st = some (b, r) →
      Beside d r := by
    intro e r st he hr
    simp only [refuse, Option.some.injEq, Prod.mk.injEq] at hr
    obtain ⟨-, rfl⟩ := hr
    exact (he.trans (Beside.report e st)).trans (hallow _ _)
  have hd₁ : Beside d d₁ := by
    unfold d₁
    split
    · exact (hstart.trans (Beside.report _ _)).trans (hallow _ _)
    split
    · split
      · exact hstart.trans (hallow _ _)
      split
      · exact hstart
      · exact hstart.trans (Beside.report _ _)
    split
    · exact hstart.trans (hallow _ _)
    · exact (hstart.trans (Beside.report _ _)).trans (hallow _ _)
  split at h
  · cases h
  split at h
  · exact hrefuse hstart h
  split at h
  · exact hrefuse hstart h
  split at h
  · exact hrefuse hstart h
  split at h
  · cases h
    exact hstart.trans (hallow _ _)
  split at h
  · exact hrefuse hd₁ h
  split at h
  · cases h
  · simp only [Option.some.injEq, Prod.mk.injEq] at h
    obtain ⟨-, rfl⟩ := h
    exact hd₁

/-- Counting the volume change reference up changes attributes only. -/
theorem update_volume_change_reference_beside (d : Drive) :
    Beside d (update_volume_change_reference d) := by
  unfold update_volume_change_reference
  split
  · exact Beside.refl d
  · extract_lets vcr vcr' d₁
    have hset : Beside d d₁ :=
      Beside.setMam d .VolumeChangeReference (beBytes 4 vcr') (by decide) (by decide)
    have hmark : Beside d₁ { d₁ with vcr_updated := true } :=
      ⟨⟨⟨_, _, _, _, _, _, _, _, rfl⟩, fun _ _ => rfl, rfl⟩, SameTape.refl _⟩
    exact (hset.trans hmark).trans (Beside.rewriteMAM _)

/-- The key that blocks are encrypted with, by the encryption mode. -/
def Drive.writeKey (d : Drive) : Option BoundedEncryption :=
  if d.ENCRYPT_MODE = 2 then some d.app_encryption_state else none

/-- The rules of a 3592 drive change attributes, the block descriptor and, for the first
block on an E06, the use of the key. -/
theorem valid_encryption_media_E06_beside (d : Drive) (drive_type : Drive3592) :
    Beside d (valid_encryption_media_E06 d drive_type) ∧
      ((valid_encryption_media_E06 d drive_type).app_encr_info = d.app_encr_info ∨
        drive_type = .E06 ∧ d.cart.c_pos.blk_number = 0 ∧
          (valid_encryption_media_E06 d drive_type).app_encr_info = false) := by
  unfold valid_encryption_media_E06
  extract_lets flags putFlags dOn d₁ density d₂ d₃ code
  have hput : ∀ (e : Drive) (n : ℕ), Beside e (putFlags e n) := fun e n =>
    Beside.setMam e .Flags (leBytes 2 n) (by decide) (by decide)
  split
  · rename_i hzero
    have hd₁ : Beside d d₁ ∧ (d₁.app_encr_info = d.app_encr_info ∨
        drive_type = .E06 ∧ d.cart.c_pos.blk_number = 0 ∧ d₁.app_encr_info = false) := by
      unfold d₁
      split
      · rename_i htype
        split
        · have hOn : Beside d dOn := hput d _
          refine ⟨hOn.trans ?_, Or.inr ⟨htype, hzero, rfl⟩⟩
          exact ⟨⟨⟨_, _, _, _, _, _, _, _, rfl⟩, fun _ _ => rfl, rfl⟩, SameTape.refl _⟩
        · exact ⟨hput d _, Or.inl rfl⟩
      · exact ⟨Beside.refl d, Or.inl rfl⟩
    have hd₂ : Beside d₁ d₂ :=
      ⟨⟨⟨_, _, _, _, _, _, _, _, rfl⟩, fun _ _ => rfl, rfl⟩, SameTape.refl _⟩
    have hd₃ : Beside d₂ d₃ :=
      (Beside.setMam d₂ .MediumDensityCode [density] (by decide) (by decide)).trans
        (Beside.setMam _ .FormattedDensityCode [density] (by decide) (by decide))
    exact ⟨((hd₁.1.trans hd₂).trans hd₃).trans (Beside.rewriteMAM d₃), hd₁.2⟩
  · split
    · exact ⟨Beside.report d _, Or.inl rfl⟩
    · split
      · exact ⟨Beside.report d _, Or.inl rfl⟩
      · exact ⟨Beside.refl d, Or.inl rfl⟩

/-- Whether the next block is encrypted: by the encryption mode, but the first block on an E06
is not. -/
theorem setup_crypto_beside (d : Drive) :
    Beside d (setup_crypto d) ∧ ((setup_crypto d).encryptp = d.writeKey ∨
      d.pm.valid_encryption_media = some .E06 ∧ d.cart.c_pos.blk_number = 0 ∧
        (setup_crypto d).encryptp = none) := by
  let d₁ : Drive := { d with app_encr_info := d.ENCRYPT_MODE = 2 }
  have hd₁ : Beside d d₁ := ⟨⟨⟨_, _, _, _, _, _, _, _, rfl⟩, fun _ _ => rfl, rfl⟩, SameTape.refl _⟩
  have hkey : d₁.encryptp = d.writeKey := by
    simp only [Drive.encryptp, Drive.writeKey, d₁, decide_eq_true_eq]
  cases hm : d.pm.valid_encryption_media with
  | none =>
    have heq : setup_crypto d = d₁ := by
      simp only [setup_crypto, hm]
      rfl
    rw [heq]
    exact ⟨hd₁, Or.inl hkey⟩
  | some drive_type =>
    have heq : setup_crypto d = valid_encryption_media_E06 d₁ drive_type := by
      simp only [setup_crypto, hm]
      rfl
    obtain ⟨hb, hinfo⟩ := valid_encryption_media_E06_beside d₁ drive_type
    rw [heq]
    refine ⟨hd₁.trans hb, ?_⟩
    rcases hinfo with hsame | ⟨rfl, hzero, hoff⟩
    · left
      rw [← hkey, Drive.encryptp, Drive.encryptp, hsame, hb.keys.2.2.1]
    · right
      refine ⟨rfl, hzero, ?_⟩
      rw [Drive.encryptp, hoff, if_neg Bool.false_ne_true]

/-- The warnings and the remaining capacity. -/
theorem warnAndCount_beside (d : Drive) (cap : ℕ) : Beside d (warnAndCount d cap) := by
  unfold warnAndCount
  extract_lets current early prog d₁ difference remaining
  have hd₁ : Beside d d₁ := by
    unfold d₁
    split
    · exact Beside.report d _
    split
    · exact Beside.report d _
    · exact Beside.refl d
  exact hd₁.trans (Beside.setMam d₁ .remaining_capacity _ (by decide) (by decide))

/-- The block that a write puts behind the position `i`. -/
structure Appends (d : Drive) (a : BlockArgs) (i : ℕ) : Prop where
  /-- It is encrypted as the settings say; the first block on an E06 is not. -/
  key : a.encryptp = d.writeKey ∨ d.pm.valid_encryption_media = some .E06 ∧ i = 0 ∧ a.encryptp = none
  /-- A medium that keeps no data keeps none of it. -/
  null : a.null_media_type = true ↔ d.cart.mam.MediumType = MEDIA_TYPE_NULL

/-- What writing a block leaves on a mounted volume: the records there were, or one more behind
the position. -/
inductive BlockLeft (n : ℕ) (d : Drive) (c : Store) (recs : ℕ → List Record) : Prop where
  /-- The records there were. -/
  | same (h : Mounted n c recs)
  /-- One more. -/
  | more (a : BlockArgs) (p i calls : ℕ) (c₁ : Store) (hp : p < n) (hat : At d.cart p (recs p) i)
    (hi : i ≤ MAX_BLK_NUMBER) (ha : Appends d a i)
    (hw : Written (setup_crypto d).cart c₁ p ((recs p).take i ++ [BlockArgs.record a]) calls)
    (hs : SameTape c₁ c)

section Writing

variable {L : Libs} {n : ℕ} {d : Drive} {recs : ℕ → List Record} {data : ℕ → UInt8}

/-- What is set beside the tape afterwards does not matter. -/
theorem BlockLeft.beside {c c' : Store} (h : BlockLeft n d c recs) (hs : SameTape c c') :
    BlockLeft n d c' recs := by
  cases h with
  | same h => exact .same (hs.mounted h)
  | more a p i calls c₁ hp hat hi ha hw hs₁ =>
    exact .more a p i calls c₁ hp hat hi ha hw (hs₁.trans hs)

/-- Recording the block that the arguments describe. -/
theorem write_args_left (h : Mounted n d.cart recs) (a : BlockArgs)
    (hkey : a.encryptp = (setup_crypto d).encryptp)
    (hnull : a.null_media_type = true ↔ d.cart.mam.MediumType = MEDIA_TYPE_NULL) :
    BlockLeft n d ((setup_crypto d).cart.write_tape_block a).2 recs ∧
      ((setup_crypto d).cart.write_tape_block a).2.mam = (setup_crypto d).cart.mam := by
  obtain ⟨hb, hsetup⟩ := setup_crypto_beside d
  have hm := hb.mounted h
  rcases hm.write_tape_block a with ⟨-, he⟩ | ⟨p, i, calls, hp, hat, hi, -, hw⟩
  · exact ⟨.same he.mounted, he.mam⟩
  · have hat' : At d.cart p (recs p) i :=
      At.congr hat (hb.tape.part p).symm hb.tape.raw_pos.symm hb.tape.fd.symm
    refine ⟨.more a p i calls _ hp hat' hi ⟨?_, hnull⟩ hw (SameTape.refl _), hw.frame.mam⟩
    rw [hkey]
    rcases hsetup with hsame | ⟨hE06, hzero, hoff⟩
    · exact Or.inl hsame
    · rw [hat'.blk_number] at hzero
      exact Or.inr ⟨hE06, hzero, hoff⟩

/-- Counters. -/
theorem countWritten_kept (d : Drive) (m i : ℕ) : SettingsKept d (d.countWritten m i) :=
  ⟨⟨_, _, _, _, _, _, _, _, rfl⟩, fun _ _ => rfl, rfl⟩

/-- Writing as it is. -/
theorem writeBlock_nocomp_left (h : Mounted n d.cart recs) {null_wr : Bool} (src_sz lbp : ℕ)
    (hnull : null_wr = true ↔ d.cart.mam.MediumType = MEDIA_TYPE_NULL) :
    SettingsKept d (writeBlock_nocomp L d data src_sz null_wr lbp).2 ∧
      BlockLeft n d (writeBlock_nocomp L d data src_sz null_wr lbp).2.cart recs := by
  obtain ⟨hb, -⟩ := setup_crypto_beside d
  unfold writeBlock_nocomp
  extract_lets d₁ args
  obtain ⟨hleft, hmam⟩ := write_args_left h args rfl hnull
  let d₂ : Drive := { d₁ with cart := (d₁.cart.write_tape_block args).2 }
  have hk₂ : SettingsKept d d₂ := hb.toSettingsKept.trans (SettingsKept.of_cart d₁ hmam)
  dsimp only
  split
  · have hr := Beside.report d₂ (sam_hardware_error E_LOGICAL_BLOCK_GUARD_FAILED)
    exact ⟨hk₂.trans hr.toSettingsKept, hleft.beside hr.tape⟩
  · exact ⟨hk₂.trans (countWritten_kept d₂ _ _), hleft⟩

/-- Writing compressed. -/
theorem writeBlock_comp_left (h : Mounted n d.cart recs) {null_wr : Bool} (src_sz lbp : ℕ)
    (compress : List UInt8 → Option (List UInt8)) (comp_type : UInt8)
    (hnull : null_wr = true ↔ d.cart.mam.MediumType = MEDIA_TYPE_NULL) :
    SettingsKept d (writeBlock_comp L d data src_sz compress comp_type null_wr lbp).2 ∧
      BlockLeft n d (writeBlock_comp L d data src_sz compress comp_type null_wr lbp).2.cart recs := by
  obtain ⟨hb, -⟩ := setup_crypto_beside d
  unfold writeBlock_comp
  extract_lets d₁
  cases compress (bytesAt data 0 src_sz) with
  | none =>
    have hr := Beside.report d₁ (sam_hardware_error E_COMPRESSION_CHECK)
    exact ⟨hb.toSettingsKept.trans hr.toSettingsKept, .same ((hb.trans hr).mounted h)⟩
  | some dest_buf =>
    let args := compArgs L d₁ data src_sz dest_buf comp_type null_wr
    obtain ⟨hleft, hmam⟩ := write_args_left h args rfl hnull
    let d₂ : Drive :=
      { d₁ with cart := (d₁.cart.write_tape_block args).2 }.countWritten dest_buf.length src_sz
    have hk₂ : SettingsKept d d₂ :=
      (hb.toSettingsKept.trans (SettingsKept.of_cart d₁ hmam)).trans (countWritten_kept _ _ _)
    dsimp only
    split
    · have hr := Beside.report d₂ (sam_hardware_error E_LOGICAL_BLOCK_GUARD_FAILED)
      exact ⟨hk₂.trans hr.toSettingsKept, hleft.beside hr.tape⟩
    · exact ⟨hk₂, hleft⟩

/-- Every way of writing. -/
theorem writeChosen_left (h : Mounted n d.cart recs) (lbp_sz lbp : ℕ) :
    SettingsKept d (writeChosen L d data lbp_sz lbp).2 ∧
      BlockLeft n d (writeChosen L d data lbp_sz lbp).2.cart recs := by
  unfold writeChosen
  split
  · rename_i hnull
    exact writeBlock_nocomp_left h lbp_sz 0 ⟨fun _ => hnull, fun _ => rfl⟩
  · rename_i hnull
    have hiff : false = true ↔ d.cart.mam.MediumType = MEDIA_TYPE_NULL :=
      ⟨fun hf => absurd hf Bool.false_ne_true, fun hn => absurd hn hnull⟩
    split
    · exact writeBlock_nocomp_left h lbp_sz lbp hiff
    split
    · exact writeBlock_comp_left h lbp_sz lbp _ _ hiff
    split
    · exact writeBlock_comp_left h lbp_sz lbp _ _ hiff
    · exact writeBlock_nocomp_left h lbp_sz lbp hiff

/-- A block behind the records `recs` of a drive, below the capacity of its partition. -/
structure Fits (L : Libs) (n : ℕ) (d : Drive) (recs : ℕ → List Record) (a : BlockArgs) (p i : ℕ) :
    Prop where
  /-- The partition is there. -/
  part : p < n
  /-- So is the position. -/
  le : i ≤ (recs p).length
  /-- Block numbers have an end. -/
  number : i ≤ MAX_BLK_NUMBER
  /-- It starts below the capacity. -/
  room : ∃ cap, medium_partition_capacity L d p = some cap ∧ offsetOf (recs p) i < cap
  /-- It is the block that the settings ask for. -/
  block : Appends d a i

/-- One block, one after another, behind positions of a volume. -/
inductive Appended (L : Libs) (n : ℕ) (d : Drive) :
    (ℕ → List Record) → (ℕ → List Record) → Prop where
  /-- None. -/
  | nil (recs : ℕ → List Record) : Appended L n d recs recs
  /-- One and the others. -/
  | cons {recs recs' : ℕ → List Record} {p i : ℕ} (a : BlockArgs) (h : Fits L n d recs a p i)
    (rest : Appended L n d
      (Function.update recs p ((recs p).take i ++ [BlockArgs.record a])) recs') :
    Appended L n d recs recs'

/-- Drives with the same settings append the same blocks. -/
theorem Fits.congr {d' : Drive} {a : BlockArgs} {p i : ℕ} (h : Fits L n d' recs a p i)
    (hk : SettingsKept d d') : Fits L n d recs a p i := by
  obtain ⟨cap, hcap, hroom⟩ := h.room
  refine ⟨h.part, h.le, h.number, ⟨cap, ?_, hroom⟩, ?_, ?_⟩
  · rw [← hk.capacity, hcap]
  · obtain ⟨hmode, -, hkey, hpm⟩ := hk.keys
    have hb := h.block.key
    rwa [Drive.writeKey, hmode, hkey, hpm] at hb
  · rw [← hk.type]
    exact h.block.null

theorem Appended.congr {d' : Drive} {recs' : ℕ → List Record} (h : Appended L n d' recs recs')
    (hk : SettingsKept d d') : Appended L n d recs recs' := by
  induction h with
  | nil recs => exact .nil recs
  | cons a h rest ih => exact .cons a (h.congr hk) ih

/-- The volume that a write leaves. -/
theorem BlockLeft.appended {c : Store} (hl : BlockLeft n d c recs) (h : Mounted n d.cart recs)
    (hroom : ∀ p i, At d.cart p (recs p) i →
      ∃ cap, medium_partition_capacity L d p = some cap ∧ offsetOf (recs p) i < cap) :
    ∃ recs', Appended L n d recs recs' ∧ Mounted n c recs' := by
  cases hl with
  | same hm => exact ⟨recs, .nil recs, hm⟩
  | more a p i calls c₁ hp hat hi ha hw hs =>
    have hlen : ((recs p).take i ++ [BlockArgs.record a]).length ≤ MAX_BLK_NUMBER + 1 := by
      rw [List.length_append, List.length_singleton, List.length_take_of_le hat.le]
      omega
    have hm := ((setup_crypto_beside d).1.mounted h).of_written hp hw hlen
    exact ⟨_, .cons a ⟨hp, hat.le, hi, hroom p i hat, ha⟩ (.nil _), hs.mounted hm⟩

/-- Where the next block starts. -/
theorem current_tape_offset_at {c : Store} {p i : ℕ} {l : List Record} (h : At c p l i) :
    c.current_tape_offset = offsetOf l i := by
  rw [current_tape_offset, h.partition_id, if_pos (h.opened .data), h.data_offset]

/-- One block written on a mounted volume. -/
theorem writeBlock_left {sz r : ℕ} {d' : Drive} (h : Mounted n d.cart recs)
    (hrun : writeBlock L d data sz = some (r, d')) :
    SettingsKept d d' ∧ ∃ recs', Appended L n d recs recs' ∧ Mounted n d'.cart recs' := by
  unfold writeBlock at hrun
  extract_lets lbp_method lbp_sz at hrun
  cases hcap : medium_partition_capacity L d d.cart.partition_id with
  | none =>
    rw [hcap] at hrun
    cases hrun
  | some cap =>
    rw [hcap] at hrun
    dsimp only at hrun
    split at hrun
    · cases hrun
      have hb := (Beside.setMam d .remaining_capacity (beBytes 8 0) (by decide) (by decide)).trans
        (Beside.report _ (sam_no_sense (VOLUME_OVERFLOW ||| SD_EOM) E_EOM))
      exact ⟨hb.toSettingsKept, recs, .nil recs, hb.mounted h⟩
    rename_i hbelow
    have hroom : ∀ p i, At d.cart p (recs p) i →
        ∃ cap, medium_partition_capacity L d p = some cap ∧ offsetOf (recs p) i < cap := by
      intro p i hat
      rw [hat.partition_id] at hcap
      rw [current_tape_offset_at hat] at hbelow
      exact ⟨cap, hcap, Nat.lt_of_not_le hbelow⟩
    split at hrun
    · cases hrun
    have hchosen : SettingsKept d (writeChosen L d data lbp_sz lbp_method).2 ∧
        BlockLeft n d (writeChosen L d data lbp_sz lbp_method).2.cart recs :=
      writeChosen_left h lbp_sz lbp_method
    generalize writeChosen L d data lbp_sz lbp_method = w at hrun hchosen
    obtain ⟨src_len, d₁⟩ := w
    obtain ⟨hkept, hleft⟩ := hchosen
    obtain ⟨recs', happ, hm⟩ := hleft.appended h hroom
    dsimp only at hrun
    split at hrun
    · cases hrun
      exact ⟨hkept, recs', happ, hm⟩
    · cases hrun
      have hb := warnAndCount_beside d₁ cap
      exact ⟨hkept.trans hb.toSettingsKept, recs', happ, hb.mounted hm⟩

theorem Appended.trans {recs₁ recs₂ recs₃ : ℕ → List Record} (h : Appended L n d recs₁ recs₂)
    (h' : Appended L n d recs₂ recs₃) : Appended L n d recs₁ recs₃ := by
  induction h with
  | nil recs => exact h'
  | cons a hf rest ih => exact .cons a hf (ih h')

/-- The blocks of a WRITE. -/
theorem writeBlocks_left {sz count : ℕ} {d' : Drive} (h : Mounted n d.cart recs)
    (hrun : writeBlocks L data sz count d = some d') :
    SettingsKept d d' ∧ ∃ recs', Appended L n d recs recs' ∧ Mounted n d'.cart recs' := by
  induction count generalizing d recs with
  | zero =>
    cases hrun
    have hb := Beside.returns d SAM_STAT_GOOD
    exact ⟨hb.toSettingsKept, recs, .nil recs, hb.mounted h⟩
  | succ count ih =>
    unfold writeBlocks at hrun
    cases hblk : writeBlock L d data sz with
    | none =>
      rw [hblk] at hrun
      cases hrun
    | some res =>
      obtain ⟨r, d₁⟩ := res
      rw [hblk] at hrun
      obtain ⟨hk, recs₁, happ, hm⟩ := writeBlock_left h hblk
      dsimp only at hrun
      split at hrun
      · cases hrun
        exact ⟨hk, recs₁, happ, hm⟩
      · obtain ⟨hk', recs₂, happ', hm'⟩ := ih hm hrun
        exact ⟨hk.trans hk', recs₂, happ.trans (happ'.congr hk), hm'⟩

/-- WRITE(6) puts blocks behind positions of the volume. -/
theorem ssc_write_6_left {cdb : Cdb} {d' : Drive} (h : Mounted n d.cart recs)
    (hrun : ssc_write_6 L d cdb data = some d') :
    SettingsKept d d' ∧ ∃ recs', Appended L n d recs recs' ∧ Mounted n d'.cart recs' := by
  unfold ssc_write_6 at hrun
  have hstart : Beside d d.declare_ssc_vars := Beside.returns d SAM_STAT_GOOD
  have hstay : ∀ e, Beside d e →
      SettingsKept d e ∧ ∃ recs', Appended L n d recs recs' ∧ Mounted n e.cart recs' :=
    fun e he => ⟨he.toSettingsKept, recs, .nil recs, he.mounted h⟩
  dsimp only at hrun
  cases hcheck : check_restrictions d.declare_ssc_vars with
  | none =>
    rw [hcheck] at hrun
    cases hrun
  | some res =>
    obtain ⟨allowed, d₁⟩ := res
    rw [hcheck] at hrun
    have hd₁ := hstart.trans (check_restrictions_beside hcheck)
    cases allowed with
    | false =>
      cases hrun
      exact hstay _ (hd₁.trans (Beside.returns d₁ _))
    | true =>
      dsimp only at hrun
      split at hrun
      · have hd₂ := hd₁.trans (update_volume_change_reference_beside d₁)
        obtain ⟨hk, recs', happ, hm⟩ := writeBlocks_left (hd₂.mounted h) hrun
        exact ⟨hd₂.toSettingsKept.trans hk, recs', happ.congr hd₂.toSettingsKept, hm⟩
      · cases hrun
        exact hstay _ (hd₁.trans (Beside.returns d₁ _))

end Writing

/-- The settings are left alone, and the head is elsewhere on the open partition. -/
structure HeadMoved (n : ℕ) (recs : ℕ → List Record) (d d' : Drive) : Prop
    extends SettingsKept d d' where
  /-- The tape. -/
  tape : Elsewhere n recs d.cart d'.cart

namespace HeadMoved

variable {n : ℕ} {recs : ℕ → List Record} {a b c : Drive}

theorem trans (h : HeadMoved n recs a b) (h' : HeadMoved n recs b c) : HeadMoved n recs a c :=
  ⟨h.toSettingsKept.trans h'.toSettingsKept, h.tape.trans h'.tape⟩

/-- The store moves. -/
theorem of_cart {d : Drive} {c : Store} (h : Elsewhere n recs d.cart c) :
    HeadMoved n recs d { d with cart := c } := ⟨SettingsKept.of_cart d h.mam, h⟩

/-- The status. -/
theorem report {d : Drive} (h : Mounted n d.cart recs) (st : Status) :
    HeadMoved n recs d (d.report st) := of_cart (h.report st)

/-- The status byte. -/
theorem returns {d : Drive} (h : Mounted n d.cart recs) (sam_stat : ℕ) :
    HeadMoved n recs d (d.returns sam_stat) := of_cart (h.report _)

/-- Counters. -/
theorem counted {d : Drive} (h : Mounted n d.cart recs) (m i : ℕ) :
    HeadMoved n recs d { d with bytesRead_M := m, bytesRead_I := i } :=
  ⟨⟨⟨_, _, _, _, _, _, _, _, rfl⟩, fun _ _ => rfl, rfl⟩, h.refl⟩

end HeadMoved

section Reading

variable {L : Libs} {n : ℕ} {d : Drive} {recs : ℕ → List Record}

/-- The content of a block. -/
theorem readContent_moves (h : Mounted n d.cart recs) : HeadMoved n recs d (readContent L d).2 := by
  have hread : ∀ m, HeadMoved n recs d { d with cart := (d.cart.read_tape_block m).2 } :=
    fun m => .of_cart (h.read_tape_block m)
  have hfail : ∀ m st, HeadMoved n recs d
      ({ d with cart := (d.cart.read_tape_block m).2 }.report st) :=
    fun m st => (hread m).trans (.report (hread m).tape.mounted st)
  have huncompress : ∀ dec, HeadMoved n recs d (uncompress_block d dec).2 := by
    intro dec
    unfold uncompress_block
    dsimp only
    split
    · exact hfail _ _
    split
    · exact hfail _ _
    split
    · exact hfail _ _
    · exact hread _
  unfold readContent
  dsimp only
  split
  · exact huncompress _
  split
  · exact huncompress _
  split
  · exact hread _
  · exact hfail _ _

/-- The sense data about the length. -/
theorem reportLength_moves {e : Drive} (h : HeadMoved n recs d e) (request_sz lbp_sz rc blk_size : ℕ)
    (sili : Bool) : HeadMoved n recs d (reportLength e request_sz lbp_sz rc blk_size sili) := by
  unfold reportLength
  split
  · exact h.trans (.report h.tape.mounted _)
  split
  · exact h.trans (.report h.tape.mounted _)
  · exact h

/-- One block read. -/
theorem readBlock_moves (h : Mounted n d.cart recs) (request_sz : ℕ) (sili : Bool)
    (lbp_method : ℕ) : HeadMoved n recs d (readBlock L d request_sz sili lbp_method).2 := by
  have hcontent : HeadMoved n recs d (readContent L d).2 := readContent_moves h
  have hreport : ∀ {e : Drive}, HeadMoved n recs d e → ∀ st, HeadMoved n recs d (e.report st) :=
    fun he st => he.trans (.report he.tape.mounted st)
  unfold readBlock
  split
  · exact .of_cart h.refl
  extract_lets lbp_sz pos d₁ blk_size stored
  split
  · exact hreport (.of_cart (h.position_blocks_forw 1)) _
  split
  · exact .report h _
  split
  · exact .report h _
  generalize readContent L d = r at hcontent
  obtain ⟨content, d₂⟩ := r
  cases content with
  | none => exact hcontent
  | some content =>
    dsimp only
    split
    · exact hreport hcontent _
    split
    · exact hreport hcontent _
    · have hcounted := hcontent.trans (.counted hcontent.tape.mounted (d₂.bytesRead_M + pos.disk_blk_size)
        (d₂.bytesRead_I + blk_size))
      exact reportLength_moves hcounted _ _ _ _ _

/-- A check that passes sets the status only. -/
theorem checked_moves (h : Mounted n d.cart recs) : HeadMoved n recs d d.checked := by
  rcases d.checked_eq with heq | heq
  · rw [heq]
    exact .of_cart h.refl
  · rw [heq]
    exact .returns h SAM_STAT_GOOD

/-- So does any check. -/
theorem valid_encryption_blk_moves {b : Bool} {d' : Drive} (h : Mounted n d.cart recs)
    (hrun : d.valid_encryption_blk = some (b, d')) : HeadMoved n recs d d' := by
  rcases d.valid_encryption_blk_cases with hno | ⟨asc_ascq, hno⟩ | hyes
  · rw [hno] at hrun
    cases hrun
  · rw [hno] at hrun
    cases hrun
    exact .report h _
  · rw [hyes] at hrun
    cases hrun
    exact checked_moves h

/-- The blocks of a READ. -/
theorem readBlocks_moves {cdb : Cdb} {sz count : ℕ} {bs : List UInt8} {d' : Drive}
    (h : Mounted n d.cart recs) (hrun : readBlocks L cdb sz count d = some (bs, d')) :
    HeadMoved n recs d d' := by
  induction count generalizing d bs with
  | zero =>
    cases hrun
    exact .of_cart h.refl
  | succ count ih =>
    unfold readBlocks at hrun
    cases hkey : d.valid_encryption_blk with
    | none =>
      rw [hkey] at hrun
      cases hrun
    | some res =>
      obtain ⟨valid, d₁⟩ := res
      rw [hkey] at hrun
      have h₁ := valid_encryption_blk_moves h hkey
      cases valid with
      | false =>
        cases hrun
        exact h₁.trans (.returns h₁.tape.mounted _)
      | true =>
        have hblk : ∀ m, HeadMoved n recs d (readBlock L d₁ sz (sili cdb) m).2 := fun m =>
          h₁.trans (readBlock_moves h₁.tape.mounted sz (sili cdb) m)
        dsimp only at hrun
        have h₂ := hblk (if d₁.LBP_R then d₁.LBP_method else 0)
        generalize readBlock L d₁ sz (sili cdb) _ = r at hrun h₂
        obtain ⟨out, d₂⟩ := r
        dsimp only at hrun
        split at hrun
        · cases hrun
          exact h₂.trans (.report h₂.tape.mounted _)
        · obtain ⟨⟨rest, d₃⟩, hrest, heq⟩ := Option.map_eq_some_iff.mp hrun
          cases heq
          exact h₂.trans (ih h₂.tape.mounted hrest)

/-- READ(6) leaves the volume alone. -/
theorem ssc_read_6_moves {cdb : Cdb} {bs : List UInt8} {d' : Drive} (h : Mounted n d.cart recs)
    (hrun : ssc_read_6 L d cdb = some (bs, d')) : HeadMoved n recs d d' := by
  have hstart : HeadMoved n recs d d.declare_ssc_vars := .returns h SAM_STAT_GOOD
  have hagain := hstart.trans (.returns hstart.tape.mounted SAM_STAT_GOOD)
  unfold ssc_read_6 at hrun
  dsimp only at hrun
  split at hrun
  · cases hrun
    exact hstart.trans (.report hstart.tape.mounted _)
  · unfold complete_read_6 at hrun
    dsimp only at hrun
    split at hrun
    · cases hrun
      exact hagain.trans (.report hagain.tape.mounted _)
    split at hrun
    · split at hrun
      · cases hrun
        exact hagain.trans (.report hagain.tape.mounted _)
      · exact hagain.trans (readBlocks_moves hagain.tape.mounted hrun)
    split at hrun
    · cases hrun
      exact hagain.trans (.report hagain.tape.mounted _)
    · cases hrun
      exact hagain.trans (.report hagain.tape.mounted _)

end Reading

section Moving

variable {n : ℕ} {d : Drive} {recs : ℕ → List Record}

/-- REWIND leaves the volume alone. -/
theorem ssc_rewind_moves (h : Mounted n d.cart recs) : HeadMoved n recs d (ssc_rewind d) := by
  have hstart : HeadMoved n recs d d.declare_ssc_vars := .returns h SAM_STAT_GOOD
  have hreport : ∀ {e : Drive}, HeadMoved n recs d e → ∀ st, HeadMoved n recs d (e.report st) :=
    fun he st => he.trans (.report he.tape.mounted st)
  have hrewound : HeadMoved n recs d
      { d.declare_ssc_vars with cart := d.declare_ssc_vars.cart.rewind_tape.2 } :=
    hstart.trans (.of_cart hstart.tape.mounted.rewind_tape)
  unfold ssc_rewind
  dsimp only
  split
  · exact hreport hstart _
  split
  · split
    · exact hreport hrewound _
    · exact hrewound
  · exact hreport hstart _

/-- SPACE leaves the volume alone. -/
theorem space_moves (h : Mounted n d.cart recs) (icount : ℤ) (code : ℕ) :
    HeadMoved n recs d (space d icount code) := by
  have hstart : HeadMoved n recs d d.declare_ssc_vars := .returns h SAM_STAT_GOOD
  have hm := hstart.tape.mounted
  have hmove : ∀ {c : Store}, Elsewhere n recs d.declare_ssc_vars.cart c →
      HeadMoved n recs d { d.declare_ssc_vars with cart := c } :=
    fun hc => hstart.trans (.of_cart hc)
  unfold space
  dsimp only
  split
  · exact hstart.trans (.report hm _)
  split
  · unfold resp_space
    split
    · split
      · exact hmove (hm.position_blocks_forw _)
      · exact hmove (hm.position_blocks_back _)
    split
    · split
      · exact hmove (hm.position_filemarks_forw _)
      · exact hmove (hm.position_filemarks_back _)
    split
    · exact hmove hm.position_to_eod
    · exact hstart.trans (.report hm _)
  · exact hstart

/-- LOCATE leaves the records and the settings alone. -/
theorem ssc_locate_keeps {cdb : Cdb} {d' : Drive} (h : Mounted n d.cart recs)
    (hrun : ssc_locate d cdb = some d') : SettingsKept d d' ∧ Mounted n d'.cart recs := by
  have hstart : HeadMoved n recs d d.declare_ssc_vars := .returns h SAM_STAT_GOOD
  have hstay : ∀ {e : Drive}, HeadMoved n recs d.declare_ssc_vars e →
      SettingsKept d e ∧ Mounted n e.cart recs := fun he =>
    ⟨(hstart.trans he).toSettingsKept, he.tape.mounted⟩
  have hm := hstart.tape.mounted
  unfold ssc_locate at hrun
  dsimp only at hrun
  split at hrun
  · cases hrun
    exact hstay (.returns hm _)
  split at hrun
  · cases hrun
    exact hstay (.report hm _)
  · rename_i partition_no blk_no htarget
    split at hrun
    · cases hrun
      exact hstay (.report hm _)
    split at hrun
    · cases hrun
    · rename_i hmax
      cases hrun
      obtain ⟨raw, ok, st, fd, heq⟩ := change_partition_only d.declare_ssc_vars.cart partition_no
      have hthere := (hm.change_partition (Nat.lt_of_not_le hmax)).1
      have hblock := hthere.position_to_block (blk_no % 2 ^ 32)
      refine ⟨hstart.toSettingsKept.trans (SettingsKept.of_cart _ ?_), hblock.mounted⟩
      rw [hblock.mam, heq]

/-- SECURITY PROTOCOL OUT leaves the tape alone. -/
theorem ssc_spout_mounted {upd : List ModePage → ℕ → List ModePage} {cdb : Cdb} {buf : ℕ → UInt8}
    {d' : Drive} (h : Mounted n d.cart recs) (hrun : ssc_spout upd d cdb buf = some d') :
    Mounted n d'.cart recs := by
  have hstart : HeadMoved n recs d d.declare_ssc_vars := .returns h SAM_STAT_GOOD
  have hreport : ∀ st, Mounted n (d.declare_ssc_vars.report st).cart recs :=
    fun st => (HeadMoved.report hstart.tape.mounted st).tape.mounted
  unfold ssc_spout resp_spout at hrun
  dsimp only at hrun
  split at hrun
  · cases hrun
    exact hreport _
  split at hrun
  · cases hrun
    exact hreport _
  split at hrun
  · cases hrun
  split at hrun
  · cases hrun
    exact hreport _
  · cases hrun
    exact (HeadMoved.returns hstart.tape.mounted SAM_STAT_GOOD).tape.mounted

end Moving

/-- The drive with the empty cartridge holds a volume of one partition. -/
theorem emptyDrive_mounted : Mounted 1 emptyDrive.cart fun _ => [] where
  n_le := by decide
  rep := emptyCartridge_holds.rep
  absent := emptyCartridge_holds.absent
  bound _ _ := Nat.zero_le _
  place := Or.inl ⟨0, 0, Nat.one_pos, emptyDrive_at⟩
  io := rfl

/-- A drive with records in two partitions. -/
def pairDrive : Drive := { emptyDrive with cart := recordedPair }

/-- It has the cartridge with them. -/
theorem pairDrive_cart : pairDrive.cart = recordedPair := by
  dsimp only [pairDrive]

/-- It holds a volume of both. -/
theorem pairDrive_mounted : Mounted 2 pairDrive.cart pairTape.recs := by
  rw [pairDrive_cart]
  exact recordedPair_holds.1.mounted recordedPair_holds.2

/-- The head is behind the records of the second. -/
theorem pairDrive_at : At pairDrive.cart 1 (pairTape.recs 1) 3 := by
  rw [pairDrive_cart]
  exact recordedPair_holds.1.here

end Mhvtl.Ssc
