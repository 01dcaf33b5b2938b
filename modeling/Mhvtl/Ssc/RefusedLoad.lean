import Mhvtl.Cart.WriteBack
import Mhvtl.Ssc.Lifetime

/-!
# A load that is refused

A drive that does not take a cartridge unloads it again. By then the load has been entered in the
attributes, unless the drive knows no write-once media and the medium is one. The unload writes the
meta files, whether they were read or not.
-/

namespace Mhvtl.Ssc

open Bytes Cart Store

/-- Nothing is in the drive, and it can mount a cartridge. -/
structure Vacant (d : Drive) : Prop where
  /-- It says so. -/
  load_status : d.load_status = TAPE_UNLOADED
  /-- No file of a partition is open. -/
  closed : ∀ k q, d.cart.fd k q = false
  /-- Every host call succeeds. -/
  io : d.cart.io = []

/-- The cartridge with the files `pcl` is in the drive, with its partitions as they are there. -/
structure Presented (n : ℕ) (recs : ℕ → List Record) (pcl : Dir) (m : Mam) (d : Drive) : Prop where
  /-- The partitions. -/
  mounted : Mounted n d.cart recs
  /-- One of them is open. -/
  place : ∃ p i, At d.cart p (recs p) i
  /-- The files. -/
  dir : d.cart.dir = pcl
  /-- The partitions are counted. -/
  count : d.cart.mam.num_partitions = n
  /-- The attributes. -/
  mam : SameMedium m d.cart.mam
  /-- Their files are open. -/
  files : d.cart.mamfile = true ∧ d.cart.mhvtlfile = true

namespace Presented

variable {n : ℕ} {recs : ℕ → List Record} {pcl : Dir} {m : Mam} {d d' : Drive} {P : LoadRules}

/-- The head moves. -/
theorem moved (h : Presented n recs pcl m d) {c : Store} (hc : Elsewhere n recs d.cart c)
    (hd' : d'.cart = c) : Presented n recs pcl m d' := by
  obtain ⟨p, i, hat⟩ := h.place
  obtain ⟨j, hat'⟩ := hc.at_pos hat
  subst hd'
  refine ⟨hc.mounted, ⟨p, j, hat'⟩, ?_, ?_, ?_, ?_⟩
  · obtain ⟨_, _, _, heq⟩ := hc.eq
    rw [heq]
    exact h.dir
  · rw [hc.mam]
    exact h.count
  · rw [hc.mam]
    exact h.mam
  · obtain ⟨_, _, _, heq⟩ := hc.eq
    rw [heq]
    exact h.files

/-- The drive is set differently. -/
theorem same (h : Presented n recs pcl m d) (hc : d'.cart = d.cart) : Presented n recs pcl m d' :=
  h.moved h.mounted.refl hc

/-- The permission is set. -/
theorem permit (h : Presented n recs pcl m d) (ok : Bool) : Presented n recs pcl m (d.permit ok) :=
  h.moved (h.mounted.permit ok) rfl

/-- Sense data. -/
theorem report (h : Presented n recs pcl m d) (st : Status) : Presented n recs pcl m (d.report st) :=
  h.moved (h.mounted.report st) rfl

/-- The personality is told. -/
theorem media_load (h : Presented n recs pcl m d) (P : LoadRules) (load : Bool) :
    Presented n recs pcl m (d.media_load P load) := h.same rfl

/-- Another medium than a write-once one. -/
theorem clearWORM (h : Presented n recs pcl m d) (P : LoadRules) :
    Presented n recs pcl m (d.clearWORM P) := by
  unfold Drive.clearWORM
  split
  · exact h
  · exact h.same rfl

/-- The first filemark of a write-once medium. -/
theorem wormPermission (h : Presented n recs pcl m d) : Presented n recs pcl m (wormPermission d) := by
  have hsought : Presented n recs pcl m { d with cart := (d.cart.position_to_block 1).2 } :=
    h.moved (h.mounted.position_to_block 1) rfl
  unfold Ssc.wormPermission
  split
  · exact h.permit true
  split
  · exact h.permit false
  · dsimp only
    split
    · exact hsought.permit false
    · have hset := hsought.permit (decide ((d.cart.position_to_block 1).2.c_pos.blk_type = B_EOD))
      exact hset.moved hset.mounted.rewind_tape rfl

/-- The type of the medium. -/
theorem mountByType (h : Presented n recs pcl m d) {e : Drive} (he : Ssc.mountByType P d = some e) :
    Presented n recs pcl m e := by
  unfold Ssc.mountByType at he
  dsimp only at he
  split at he
  · cases he
    exact ((h.permit true).clearWORM P).report _
  split at he
  · cases he
    exact ((h.permit false).clearWORM P).report _
  split at he
  · obtain ⟨f, -, rfl⟩ := Option.map_eq_some_iff.mp he
    exact h.wormPermission.same rfl
  split at he
  · cases he
    exact (h.permit true).report _
  · cases he
    exact h

/-- Its data file is open. -/
theorem opened (h : Presented n recs pcl m d) : d.cart.fd .data d.cart.partition_id = true := by
  obtain ⟨p, i, hat⟩ := h.place
  rw [hat.partition_id]
  exact hat.opened .data

end Presented

section Refused

variable {P : LoadRules} {L : Libs} {d d' : Drive} {r : LoadRequest} {m : Mam} {n : ℕ}
  {recs : ℕ → List Record}

/-- The medium of attributes that differ in the number of partitions. -/
theorem SameMedium.MediumType {m m' : Mam} (h : SameMedium m m') : m'.MediumType = m.MediumType :=
  congrArg (fun bs => bs.headD 0) (h.bytes .MediumType (by decide))

/-- A cartridge that was taken out goes into an empty drive. -/
theorem load_tape_shelved (h : Stored r.pcl m)
    (hs : Shelved n r.pcl (m.MediumType ≠ MEDIA_TYPE_NULL) recs) (hv : Vacant d) :
    ∃ c, d.cart.load_tape P.updater r.pcl r.bypass_error_check = some (0, c) ∧
      ∀ e : Drive, e.cart = c → Presented n recs r.pcl m e := by
  have hmam := @load_mam_stored P.updater d.cart r.pcl m h r.bypass_error_check
  obtain ⟨c, hrun, hmounted, hat, hdir, hcount⟩ := load_tape_ok hmam hs (fun hno => hno)
    (hv.closed _ _) hv.closed hv.io
  refine ⟨c, hrun, fun e he => ?_⟩
  subst he
  rcases load_tape_left h hrun with ⟨hne, -⟩ | hlooked
  · exact absurd rfl hne
  · exact ⟨hmounted, ⟨0, 0, hat⟩, hdir, hcount, hlooked.mam, hlooked.files⟩

/-- What the drive has refused by the type was not entered, everything else was. -/
theorem loadTape_refused {c : Store} {rc : ℤ}
    (hload : d.cart.load_tape P.updater r.pcl r.bypass_error_check = some (0, c))
    (hrun : loadTape P L d r = some (rc, d')) (hrc : rc ≠ 0) :
    ∃ e : Drive, e.cart = c.rewind_tape.2 ∧
      ((mountByType P e = none ∧ mismatchmedia P e = some (rc, d')) ∨
        ∃ f, mountByType P e = some f ∧ mismatchmedia P (updateMAM P f true) = some (rc, d')) := by
  unfold loadTape at hrun
  extract_lets d₀ at hrun
  have hload₀ : d₀.cart.load_tape P.updater r.pcl r.bypass_error_check = some (0, c) := hload
  split at hrun
  · cases hrun
  rename_i rc₁ c₁ hload₁
  obtain ⟨rfl, rfl⟩ := Prod.mk.inj (Option.some.inj (hload₁.symm.trans hload₀))
  extract_lets d₁ d₂ at hrun
  rw [if_neg (not_not_intro rfl)] at hrun
  refine ⟨d₂, rfl, ?_⟩
  split at hrun
  · rename_i hnone
    exact Or.inl ⟨hnone, hrun⟩
  rename_i f hsome
  refine Or.inr ⟨f, hsome, ?_⟩
  extract_lets g at hrun
  split at hrun
  · exact hrun
  split at hrun
  · exact hrun
  · obtain ⟨_, -, hd'⟩ := Option.map_eq_some_iff.mp hrun
    exact absurd (Prod.mk.inj hd').1.symm hrc

/-- The attributes of a load count no partitions, and allow as many as the medium does. -/
theorem loadMam_partitions (P : LoadRules) (m : Mam) : (loadMam P m).num_partitions = m.num_partitions ∧
    (loadMam P m).byte .max_partitions = media_max_partitions (m.byte .MediaType) := by
  have hspace : ∀ (m : Mam) {f : MamField}, f ≠ .MAMCapacity → f ≠ .MAMSpaceRemaining →
      (mam_space_remaining m).bytes f = m.bytes f := by
    intro m f hcap hrem
    unfold mam_space_remaining
    dsimp only
    rw [Mam.putBe, Mam.bytes_put_other _ _ hrem]
    split
    · rw [Mam.putBe, Mam.bytes_put_other _ _ hcap]
    · rfl
  constructor
  · refine congrArg (fun bs => (List.headD bs 0).toNat) (?_ : (loadMam P m).bytes _ = m.bytes _)
    unfold loadMam
    dsimp only
    rw [Mam.bytes_put_other _ _ (by decide), Mam.bytes_put_other _ _ (by decide),
      Mam.bytes_put_other _ _ (by decide), Mam.bytes_put_other _ _ (by decide), Mam.putBe,
      Mam.bytes_put_other _ _ (by decide), Mam.putByte, Mam.bytes_put_other _ _ (by decide),
      hspace _ (by decide) (by decide), Mam.putByte, Mam.bytes_put_other _ _ (by decide)]
  · have hmedia : (mam_space_remaining (m.putByte .record_dirty 1)).byte .MediaType = m.byte .MediaType := by
      refine congrArg (List.headD · 0) ((hspace _ (by decide) (by decide)).trans ?_)
      rw [Mam.putByte, Mam.bytes_put_other _ _ (by decide)]
    unfold loadMam
    dsimp only
    rw [Mam.byte_put_other _ _ (by decide), Mam.byte_put_other _ _ (by decide),
      Mam.byte_put_other _ _ (by decide), Mam.byte_put_other _ _ (by decide), Mam.putBe,
      Mam.byte_put_other _ _ (by decide), Mam.byte_putByte _ _ rfl, hmedia]

/-- Attributes that are written over those of a cartridge are in its files. -/
theorem rewritten_files {c : Store} (hfiles : c.mamfile = true ∧ c.mhvtlfile = true)
    (hopen : c.fd .data c.partition_id = true) (hio : c.io = []) (hsized : Sized c) (k : Mam) :
    { c with mam := k : Store }.rewriteMAM.2.dir.mam = some (mamImage k) ∧
      { c with mam := k : Store }.rewriteMAM.2.dir.mhvtl_data = some (mhvtlImage k) := by
  have hok : OkFor 1 c.io := by
    rw [hio]
    exact okFor_nil 1
  rw [rewriteMAM_whole (c := { c with mam := k }) hsized hfiles hopen hok]
  exact ⟨rfl, rfl⟩

/-- A load is entered in the cartridge. -/
theorem updateMAM_cart (P : LoadRules) (e : Drive) : (updateMAM P e true).cart =
    { e.cart with mam := loadMam P e.cart.mam : Store }.rewriteMAM.2 := by
  simp only [updateMAM, if_true, Drive.onCart, Drive.setMam]

/-- Its attributes are those of the load then. -/
theorem updateMAM_files {e : Drive} (hfiles : e.cart.mamfile = true ∧ e.cart.mhvtlfile = true)
    (hopen : e.cart.fd .data e.cart.partition_id = true) (hio : e.cart.io = [])
    (hsized : Sized e.cart) :
    (updateMAM P e true).cart.dir.mam = some (mamImage (loadMam P e.cart.mam)) ∧
      (updateMAM P e true).cart.dir.mhvtl_data = some (mhvtlImage (loadMam P e.cart.mam)) := by
  rw [updateMAM_cart]
  exact rewritten_files hfiles hopen hio hsized _

end Refused

section Examples

/-- An empty cartridge with the attributes `m`. -/
def newRequest (m : Mam) : LoadRequest where
  pcl := { emptyCartridge.dir with
    mam := some (mamImage m), mhvtl_data := some (mhvtlImage m) }
  bypass_error_check := true
  delay_load := 0

/-- Its attributes are stored. -/
theorem newRequest_stored {m : Mam}
    (h : m.tape_fmt_version = TAPE_FMT_VERSION ∧ m.mam_fmt_version = MAM_VERSION) :
    Stored (newRequest m).pcl m := ⟨rfl, rfl, h⟩

/-- Its partition is empty. -/
theorem newRequest_shelved (m : Mam) : Shelved 1 (newRequest m).pcl (m.MediumType ≠ MEDIA_TYPE_NULL)
    fun _ => [] := by
  have hrep : Rep 0 (emptyCartridge.part 0) [] := emptyCartridge_holds.here.rep
  refine ⟨Nat.one_pos, by decide, ?_, emptyCartridge_holds.absent, fun _ _ => Nat.zero_le _,
    fun _ _ => by decide, fun _ _ _ r hr => absurd hr List.not_mem_nil⟩
  intro q hq
  obtain rfl : q = 0 := by omega
  exact ⟨_, hrep.indx, hrep.data, hrep.metaf, hrep.filemark_count⟩

end Examples

end Mhvtl.Ssc
