import Mhvtl.Ssc.Recording

/-!
# WRITE(6) on a medium that may be written

Permission, the volume change reference, capacity and warnings around the
recording of a block, when the host calls succeed.
-/

namespace Mhvtl.Ssc

open Bytes Cart Store

/-- A store that differs in neither files, position nor arrays stands where it stood. -/
theorem At.congr {c c' : Store} {p i : ℕ} {l : List Record} (h : At c p l i)
    (hpart : c'.part p = c.part p) (hpos : c'.raw_pos = c.raw_pos) (hfd : c'.fd = c.fd) :
    At c' p l i := by
  refine ⟨?_, hpos.trans h.pos, h.le, ?_, h.part_lt⟩
  · rw [hpart]
    exact h.rep
  · rw [hfd]
    exact h.fd

/-- The attribute files are there and open. -/
structure AttrsOpen (c : Store) : Prop where
  /-- The mam file is open. -/
  mamfile : c.mamfile = true
  /-- It exists. -/
  mam : c.dir.mam.isSome
  /-- The mhvtl_data file is open. -/
  mhvtlfile : c.mhvtlfile = true
  /-- It exists. -/
  mhvtl_data : c.dir.mhvtl_data.isSome

/-- Rewriting the attributes changes nothing but their files. -/
theorem rewriteMAM_ok {c : Store} {p i : ℕ} {l : List Record} (h : At c p l i) (ha : AttrsOpen c)
    (hio : OkFor 1 c.io) :
    ∃ m v, c.rewriteMAM = (0, { c with
      io := c.io.tail, dir := { c.dir with mam := some m, mhvtl_data := some v } }) := by
  obtain ⟨m, hm⟩ := Option.isSome_iff_exists.mp ha.mam
  obtain ⟨v, hv⟩ := Option.isSome_iff_exists.mp ha.mhvtl_data
  have hhead : c.io.headD .ok = .ok := hio.head
  let all := (mamImage c.mam).length + (mhvtlImage c.mam).length
  refine ⟨overwriteFront ((mamImage c.mam).take all) m,
    overwriteFront ((mhvtlImage c.mam).take (all - (mamImage c.mam).length)) v, ?_⟩
  simp only [rewriteMAM, h.tape_loaded, Bool.not_true, Bool.false_eq_true, if_false, Store.write_mam,
    ha.mamfile, hm, ha.mhvtlfile, hv, nextIo, hhead, lt_irrefl]
  rfl

/-- The attributes a capacity is computed from. -/
def geometryFields : List MamField :=
  [.max_capacity, .num_partitions, .partition_capacity0, .partition_capacity1,
    .partition_capacity2, .partition_capacity3]

/-- Two sets of attributes that agree about the partitions. -/
def SameGeometry (m m' : Mam) : Prop := ∀ f ∈ geometryFields, m'.bytes f = m.bytes f

/-- The capacity of a partition depends on the geometry and the mode pages. -/
theorem medium_partition_capacity_congr {L : Libs} {d d' : Drive} (hpg : d'.mode_pg = d.mode_pg)
    (hm : SameGeometry d.cart.mam d'.cart.mam) (p : ℕ) :
    medium_partition_capacity L d' p = medium_partition_capacity L d p := by
  have hfield : ∀ q, partitionCapacity q ∈ geometryFields := by
    intro q
    match q with
    | 0 | 1 | 2 => decide
    | q + 3 => exact List.mem_of_getLast? rfl
  have hrec : recorded_partition_capacity d'.cart.mam p =
      recorded_partition_capacity d.cart.mam p := by
    rw [recorded_partition_capacity, recorded_partition_capacity, Mam.be, Mam.be, hm _ (hfield p)]
  have hnum : partitionCount d'.cart.mam = partitionCount d.cart.mam := by
    rw [partitionCount, partitionCount, Mam.num_partitions, Mam.num_partitions, Mam.byte, Mam.byte,
      hm _ (by decide)]
  have hmax : d'.cart.mam.be .max_capacity = d.cart.mam.be .max_capacity := by
    rw [Mam.be, Mam.be, hm _ (by decide)]
  rw [medium_partition_capacity, medium_partition_capacity, hrec,
    medium_partition_capacity_from_mode_page, medium_partition_capacity_from_mode_page, hnum, hmax,
    hpg]

/-- Storing any other attribute keeps the geometry. -/
theorem sameGeometry_put (m : Mam) {f : MamField} (hf : f ∉ geometryFields) (bs : List UInt8) :
    SameGeometry m (m.put f bs) := by
  intro g hg
  apply Mam.bytes_put_other
  rintro rfl
  exact hf hg

/-- The drive would let a data medium be written where it stands. -/
structure Writable (d : Drive) : Prop where
  /-- The permission can be reached. -/
  pointer : d.OK_2_write = true
  /-- A cartridge is mounted. -/
  loaded : d.load_status = TAPE_LOADED
  /-- It holds data. -/
  data : d.cart.mam.MediumType = MEDIA_TYPE_DATA
  /-- The switch is off. -/
  unprotected : d.MediaWriteProtect = false
  /-- In append-only mode, at the end of data or where it was allowed. -/
  append : d.append_only_mode = true →
    d.cart.c_pos.blk_number = d.allow_overwrite_block ∨ d.cart.c_pos.blk_type = B_EOD

/-- Such a drive is permitted to write. -/
theorem Writable.check_restrictions {d : Drive} (h : Writable d) :
    check_restrictions d =
      some (true, d.declare_ssc_vars.onCart fun c => { c with OK_to_write := true }) := by
  have hl₁ : ¬TAPE_LOADED = TAPE_LOADING := by decide
  have hl₂ : ¬TAPE_LOADED = TAPE_UNLOADED := by decide
  have ht₁ : ¬MEDIA_TYPE_DATA = MEDIA_TYPE_NULL := by decide
  have ht₂ : ¬MEDIA_TYPE_DATA = MEDIA_TYPE_CLEAN := by decide
  have ht₃ : ¬MEDIA_TYPE_DATA = MEDIA_TYPE_WORM := by decide
  have happ : ¬(d.append_only_mode = true ∧ d.cart.c_pos.blk_number ≠ d.allow_overwrite_block ∧
      d.cart.c_pos.blk_type ≠ B_EOD) := by
    rintro ⟨hmode, hblk, heod⟩
    rcases h.append hmode with hn | he
    · exact hblk hn
    · exact heod he
  have hpointer : d.declare_ssc_vars.OK_2_write = true := h.pointer
  have hloaded : d.declare_ssc_vars.load_status = TAPE_LOADED := h.loaded
  have hdata : d.declare_ssc_vars.cart.mam.MediumType = MEDIA_TYPE_DATA := h.data
  have hswitch : d.MediaWriteProtect = false := h.unprotected
  unfold Ssc.check_restrictions
  simp only [hpointer, Bool.not_true, Bool.false_eq_true, if_false, hloaded, if_neg hl₁, if_neg hl₂,
    ne_eq, not_true_eq_false, hdata, if_neg ht₁, if_neg ht₂, if_neg ht₃, if_true]
  simp only [Drive.onCart, Drive.declare_ssc_vars, Drive.returns, hswitch, Bool.false_eq_true,
    and_false, if_false, true_and]
  rw [if_neg]
  exact happ

/-- What counting the volume change reference up leaves. -/
structure Referenced (d d' : Drive) (p i : ℕ) (l : List Record) : Prop where
  /-- Only the store differs. -/
  eq : ∃ c, d' = { d with vcr_updated := true, cart := c }
  /-- The drive stands where it stood. -/
  at_pos : At d'.cart p l i
  /-- The geometry is kept. -/
  geometry : SameGeometry d.cart.mam d'.cart.mam
  /-- The medium type is kept. -/
  type : d'.cart.mam.MediumType = d.cart.mam.MediumType
  /-- No sense data. -/
  status : d'.cart.status = d.cart.status
  /-- The permission is kept. -/
  OK_to_write : d'.cart.OK_to_write = d.cart.OK_to_write
  /-- At most one host call was spent. -/
  io : ∀ n, OkFor (n + 1) d.cart.io → OkFor n d'.cart.io

/-- Counting the volume change reference up. -/
theorem update_volume_change_reference_ok {d : Drive} {p i : ℕ} {l : List Record}
    (h : At d.cart p l i) (ha : AttrsOpen d.cart) (hio : OkFor 1 d.cart.io) :
    Referenced d (update_volume_change_reference d) p i l := by
  unfold update_volume_change_reference
  cases hv : d.vcr_updated with
  | true =>
    rw [if_pos rfl]
    exact ⟨⟨d.cart, by rw [← hv]⟩, h, fun _ _ => rfl, rfl, rfl, rfl,
      fun n hn => hn.mono (Nat.le_succ n)⟩
  | false =>
    rw [if_neg Bool.false_ne_true]
    let vcr := (d.cart.mam.be .VolumeChangeReference + 1) % 2 ^ 32
    let m := d.cart.mam.putBe .VolumeChangeReference (if vcr = 0 then 1 else vcr)
    let c : Store := { d.cart with mam := m }
    have hc : At c p l i := ⟨h.rep, h.pos, h.le, h.fd, h.part_lt⟩
    obtain ⟨fm, fv, hrw⟩ := rewriteMAM_ok hc ⟨ha.mamfile, ha.mam, ha.mhvtlfile, ha.mhvtl_data⟩ hio
    have hgeo : SameGeometry d.cart.mam m := sameGeometry_put _ (by decide) _
    have htype : m.MediumType = d.cart.mam.MediumType := Mam.byte_put_other _ _ (by decide)
    change Referenced d { d with vcr_updated := true, cart := c.rewriteMAM.2 } p i l
    rw [hrw]
    exact ⟨⟨_, rfl⟩, ⟨hc.rep, hc.pos, hc.le, hc.fd, hc.part_lt⟩, hgeo, htype, rfl, rfl,
      fun n hn => hn.tail⟩

/-- Warnings and the remaining capacity leave the drive where it is. -/
theorem warnAndCount_at {d : Drive} {p i : ℕ} {l : List Record} (h : At d.cart p l i) (cap : ℕ) :
    At (warnAndCount d cap).cart p l i := by
  apply At.congr h <;>
  · unfold warnAndCount
    dsimp only
    split
    · rfl
    · split <;> rfl

/-- Near the end of the partition sense data says so; else the status stays. -/
theorem warnAndCount_status (d : Drive) (cap : ℕ) :
    (warnAndCount d cap).cart.status = d.cart.status ∨
      ∃ asc_ascq, (warnAndCount d cap).cart.status = sam_no_sense SD_EOM asc_ascq := by
  unfold warnAndCount
  dsimp only
  split
  · exact Or.inr ⟨_, rfl⟩
  · split
    · exact Or.inr ⟨_, rfl⟩
    · exact Or.inl rfl

/-- Size of the transfer of a block of `n` bytes. -/
def transferSize (d : Drive) (n : ℕ) : ℕ := if writeLbpMethod d ≠ 0 then n + 4 else n

/-- A block written below the capacity, when its check word is right. -/
theorem writeBlock_ok {L : Libs} (hL : L.Lossless) {d : Drive} {data : ℕ → UInt8} {p i n : ℕ}
    {l : List Record} (h₀ : At d.cart p l i) (h : At (setup_crypto d).cart p l i)
    (hi : i ≤ MAX_BLK_NUMBER) (hio : OkFor (overwriteCalls l i + 2) (setup_crypto d).cart.io)
    (hn : 0 < n) (hlt : n < 2 ^ 24) (hnull : d.cart.mam.MediumType ≠ MEDIA_TYPE_NULL)
    (hlevel : d.CompressionValid) {cap : ℕ}
    (hcap : medium_partition_capacity L d p = some cap) (hroom : offsetOf l i < cap)
    (hg : ∀ c, guardFails { setup_crypto d with cart := c } data n (writeLbpMethod d)
      (L.crc32c 0 (bytesAt data 0 n)) = false) :
    ∃ d' b, writeBlock L d data (transferSize d n) = some (n, warnAndCount d' cap) ∧
      WroteBlock L (setup_crypto d) d' p i l b (bytesAt data 0 n) := by
  obtain ⟨d', b, hrun, hw⟩ := writeChosen_ok hL h hi hio hlt hnull hlevel hg
  refine ⟨d', b, ?_, hw⟩
  have hpid : d.cart.partition_id = p := h₀.partition_id
  have hoff : d.cart.current_tape_offset = offsetOf l i := by
    rw [current_tape_offset, hpid, if_pos (h₀.opened .data), h₀.data_offset]
  have hbelow : ¬cap ≤ offsetOf l i := by omega
  have hshort : ¬(writeLbpMethod d ≠ 0 ∧ transferSize d n < 4) := by
    rintro ⟨hm, hs⟩
    rw [transferSize, if_pos hm] at hs
    omega
  have hsize : (if writeLbpMethod d ≠ 0 then transferSize d n - 4 else transferSize d n) = n := by
    by_cases hm : writeLbpMethod d ≠ 0
    · rw [if_pos hm, transferSize, if_pos hm, Nat.add_sub_cancel]
    · rw [if_neg hm, transferSize, if_neg hm]
  have hne : ¬n = 0 := by omega
  simp only [writeBlock, hpid, hcap, hoff, if_neg hbelow, if_neg hshort, hsize, hrun, if_neg hne]

end Mhvtl.Ssc
