/-
# Flash geometry

A device exposes one region of erase blocks. Offsets are absolute, and blocks
are aligned to absolute multiples of the block size, so the region has to start
at such a multiple. Any block size from one byte upwards is allowed.

`Geometry.validate` names the first thing that is wrong, and `Geometry.Valid`
says that nothing is. A valid region may still end past the largest word; the
functions that compute its end trap in that case.
-/

import NorStore.Word

namespace NorStore.Flash

/-- The layout of the erasable region of a device. -/
structure Geometry where
  regionOffset : Nat
  regionSize : Nat
  blockCount : Nat
  blockSize : Nat
  regionCount : Nat
deriving DecidableEq, Repr

/-- What is wrong with a geometry, or with an image that should have it. -/
inductive GeometryFault where
  | emptyBlocks
  | emptyRegion
  | misalignedRegion (regionOffset blockSize : Nat)
  | unevenRegion (blockCount blockSize regionSize : Nat)
  | noRegions
  | imageSize (size regionSize : Nat)
  | imageFileSize (path : String) (size regionSize : Nat)
  | queryFailure
deriving DecidableEq, Repr

namespace Geometry

variable {ε : Type}

/-- One region of equal blocks. Its size has to be a word. -/
def uniform (regionOffset blockSize blockCount : Nat) : Outcome ε Geometry := do
  let regionSize ← Word.mul blockSize blockCount
  return { regionOffset, regionSize, blockCount, blockSize, regionCount := 1 }

/-- The first thing that is wrong with a geometry. -/
def validate (geometry : Geometry) : Except GeometryFault Unit :=
  if geometry.blockSize = 0 then .error .emptyBlocks
  else if geometry.regionSize = 0 ∨ geometry.blockCount = 0 then .error .emptyRegion
  else if geometry.regionOffset % geometry.blockSize ≠ 0 then
    .error (.misalignedRegion geometry.regionOffset geometry.blockSize)
  else if geometry.blockCount * geometry.blockSize ≠ geometry.regionSize ∨
      Word.limit ≤ geometry.regionSize then
    .error (.unevenRegion geometry.blockCount geometry.blockSize geometry.regionSize)
  else if geometry.regionCount = 0 then .error .noRegions
  else .ok ()

/-- The region is made of at least one whole block, and starts at a block boundary. -/
structure Valid (geometry : Geometry) : Prop where
  blockSize_pos : 0 < geometry.blockSize
  blockCount_pos : 0 < geometry.blockCount
  regionCount_pos : 0 < geometry.regionCount
  aligned : geometry.regionOffset % geometry.blockSize = 0
  covered : geometry.blockCount * geometry.blockSize = geometry.regionSize
  regionSize_lt : geometry.regionSize < Word.limit

theorem Valid.regionSize_pos {geometry : Geometry} (valid : geometry.Valid) :
    0 < geometry.regionSize := by
  rw [← valid.covered]
  exact Nat.mul_pos valid.blockCount_pos valid.blockSize_pos

/-- Nothing is wrong exactly with the valid geometries. -/
theorem validate_eq_ok_iff (geometry : Geometry) :
    geometry.validate = .ok () ↔ geometry.Valid := by
  constructor
  · intro accepted
    simp only [validate] at accepted
    repeat' split at accepted
    all_goals first | contradiction | skip
    rename_i blocks region aligned covered regions
    exact ⟨by omega, by omega, by omega, by omega, by omega, by omega⟩
  · intro valid
    have := valid.blockSize_pos
    have := valid.blockCount_pos
    have := valid.regionCount_pos
    have := valid.regionSize_lt
    have := valid.regionSize_pos
    rw [validate, if_neg (by omega), if_neg (by omega), if_neg (by simp [valid.aligned]),
      if_neg (by simp only [valid.covered, ne_eq, not_true_eq_false, false_or]; omega),
      if_neg (by omega)]

/-- The proof that an accepting check stands for, or what the check found wrong. -/
private def evidence {ε : Type} {P : Prop} :
    (found : Except ε Unit) → (found = .ok () → P) → Except ε (PLift P)
  | .error fault, _ => .error fault
  | .ok (), means => .ok ⟨means rfl⟩

private theorem evidence_of_ok {ε : Type} {P : Prop} (holds : P) :
    ∀ (found : Except ε Unit) (means : found = .ok () → P), found = .ok () →
      evidence found means = .ok ⟨holds⟩
  | .ok (), _, _ => rfl

/-- A proof that a geometry is valid, or what is wrong with it. -/
def check (geometry : Geometry) : Except GeometryFault (PLift geometry.Valid) :=
  evidence geometry.validate (geometry.validate_eq_ok_iff).1

theorem check_of_valid {geometry : Geometry} (valid : geometry.Valid) :
    geometry.check = .ok ⟨valid⟩ :=
  evidence_of_ok valid _ _ ((geometry.validate_eq_ok_iff).2 valid)

/-- The first offset past the region. -/
def regionEnd (geometry : Geometry) : Outcome ε Nat :=
  Word.add geometry.regionOffset geometry.regionSize

/-- Whether a range lies within the region. A range that ends past the largest word does not. -/
def contains (geometry : Geometry) (offset length : Nat) : Outcome ε Bool :=
  if geometry.regionOffset ≤ offset ∧ offset + length < Word.limit then do
    let last ← geometry.regionEnd
    return decide (offset + length ≤ last)
  else
    return false

/-- The start of the block that holds an offset. -/
def alignDown (geometry : Geometry) (offset : Nat) : Outcome ε Nat := do
  let past ← Word.mod offset geometry.blockSize
  Word.sub offset past

/-- A length rounded up to whole blocks. -/
def roundUp (geometry : Geometry) (length : Nat) : Outcome ε Nat := do
  let whole ← Word.div length geometry.blockSize
  let past ← Word.mod length geometry.blockSize
  Word.mul (if past = 0 then whole else whole + 1) geometry.blockSize

/-- How many bytes are left from an offset to the end of its block. -/
def blockRemaining (geometry : Geometry) (offset : Nat) : Outcome ε Nat := do
  let past ← Word.mod offset geometry.blockSize
  Word.sub geometry.blockSize past

/-- The place in the region of the block that holds an offset. -/
def blockIndex (geometry : Geometry) (offset : Nat) : Outcome ε Nat := do
  let relative ← Word.sub offset geometry.regionOffset
  Word.div relative geometry.blockSize

theorem contains_of_lt {geometry : Geometry}
    (ends : geometry.regionOffset + geometry.regionSize < Word.limit) (offset length : Nat) :
    (geometry.contains offset length : Outcome ε Bool) = .value (decide
      (geometry.regionOffset ≤ offset ∧
        offset + length ≤ geometry.regionOffset + geometry.regionSize)) := by
  unfold contains
  split
  · rename_i reached
    simp [regionEnd, ends, reached.1]
  · rename_i missed
    have : ¬ (geometry.regionOffset ≤ offset ∧
        offset + length ≤ geometry.regionOffset + geometry.regionSize) := by omega
    simp [this]

/-- The least number of bytes in whole blocks that covers a length. -/
def covering (geometry : Geometry) (length : Nat) : Nat :=
  (length + geometry.blockSize - 1) / geometry.blockSize * geometry.blockSize

theorem le_covering {geometry : Geometry} (nonempty : 0 < geometry.blockSize) (length : Nat) :
    length ≤ geometry.covering length := by
  have split := Nat.div_add_mod (length + geometry.blockSize - 1) geometry.blockSize
  have below := Nat.mod_lt (length + geometry.blockSize - 1) nonempty
  rw [Nat.mul_comm] at split
  rw [covering]
  omega

theorem covering_mod (geometry : Geometry) (length : Nat) :
    geometry.covering length % geometry.blockSize = 0 := Nat.mul_mod_left ..

/-- Whole blocks that cover a length are at least as many bytes. -/
theorem covering_le {geometry : Geometry} {length size : Nat} (covers : length ≤ size)
    (whole : size % geometry.blockSize = 0) : geometry.covering length ≤ size := by
  by_cases nonempty : 0 < geometry.blockSize
  · obtain ⟨blocks, rfl⟩ := Nat.dvd_of_mod_eq_zero whole
    rw [covering, Nat.mul_comm geometry.blockSize blocks]
    refine Nat.mul_le_mul_right _ (Nat.le_of_lt_succ ((Nat.div_lt_iff_lt_mul nonempty).2 ?_))
    rw [Nat.succ_mul, Nat.mul_comm blocks]
    omega
  · rw [covering, Nat.eq_zero_of_not_pos nonempty, Nat.mul_zero]
    exact Nat.zero_le _

/-- The whole blocks that rounding up counts are those that cover the length. -/
private theorem roundedBlocks {geometry : Geometry} (nonempty : 0 < geometry.blockSize)
    (length : Nat) :
    (if length % geometry.blockSize = 0 then length / geometry.blockSize
      else length / geometry.blockSize + 1) =
      (length + geometry.blockSize - 1) / geometry.blockSize := by
  have whole := Nat.div_add_mod length geometry.blockSize
  have below := Nat.mod_lt length nonempty
  rw [Nat.mul_comm] at whole
  split
  · refine (Nat.div_eq_of_lt_le (by omega) ?_).symm
    rw [Nat.succ_mul]
    omega
  · refine (Nat.div_eq_of_lt_le ?_ ?_).symm
    · rw [Nat.succ_mul]
      omega
    · rw [Nat.succ_mul, Nat.succ_mul]
      omega

/-- Rounding up gives the covering blocks, if they are few enough for a word. -/
theorem roundUp_of_lt {geometry : Geometry} (nonempty : 0 < geometry.blockSize) {length : Nat}
    (fits : geometry.covering length < Word.limit) :
    (geometry.roundUp length : Outcome ε Nat) = .value (geometry.covering length) := by
  have positive : geometry.blockSize ≠ 0 := by omega
  rw [covering] at fits ⊢
  simp [roundUp, positive, roundedBlocks nonempty, fits]

/-- What rounding up gives are the covering blocks. -/
theorem roundUp_eq_value {geometry : Geometry} (nonempty : 0 < geometry.blockSize)
    {length rounded : Nat} (rounds : (geometry.roundUp length : Outcome ε Nat) = .value rounded) :
    rounded = geometry.covering length := by
  have positive : geometry.blockSize ≠ 0 := by omega
  simp only [roundUp, Word.div_of_ne positive, Word.mod_of_ne positive, Outcome.value_bind,
    roundedBlocks nonempty, Word.mul] at rounds
  split at rounds
  · exact (Outcome.value.inj rounds).symm
  · contradiction

/-- Rounding up traps exactly if the covering blocks are too many for a word. -/
theorem roundUp_eq_trap_iff {geometry : Geometry} (nonempty : 0 < geometry.blockSize)
    (length : Nat) : (geometry.roundUp length : Outcome ε Nat) = .trap ↔
      Word.limit ≤ geometry.covering length := by
  have positive : geometry.blockSize ≠ 0 := by omega
  rw [covering]
  simp only [roundUp, Word.div_of_ne positive, Word.mod_of_ne positive, Outcome.value_bind,
    roundedBlocks nonempty, Word.mul]
  split
  · simp only [reduceCtorEq, false_iff]
    omega
  · simp only [true_iff]
    omega

end Geometry

end NorStore.Flash
