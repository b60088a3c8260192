/-
# Rules of access

Every device follows the same rules. It has to be open, and a range has to lie in
the region. A write stays within one erase block, and an erase covers whole ones.
Of several rules that an access breaks, the first in this order is reported.
-/

import NorStore.Flash.Cells
import NorStore.Flash.Device

namespace NorStore.Flash.Geometry

/-- Whether a device may touch a range. -/
def checkRange (geometry : Geometry) (isOpen : Bool) (offset length : Nat) :
    Outcome FlashError Unit :=
  if isOpen then do
    if ← geometry.contains offset length then
      return ()
    else
      throw (.outOfBounds offset length (← geometry.regionEnd))
  else
    throw .notOpen

/-- Whether a device may program a number of bytes. -/
def checkWrite (geometry : Geometry) (isOpen : Bool) (offset length : Nat) :
    Outcome FlashError Unit := do
  geometry.checkRange isOpen offset length
  if length = 0 then
    return ()
  else if (← geometry.blockRemaining offset) < length then
    throw (.writeFailed offset .crossesBlock)
  else
    return ()

/-- Whether a device may erase a range. -/
def checkErase (geometry : Geometry) (isOpen : Bool) (offset length : Nat) :
    Outcome FlashError Unit := do
  geometry.checkRange isOpen offset length
  if offset % geometry.blockSize ≠ 0 ∨ length % geometry.blockSize ≠ 0 then
    throw (.misaligned offset length geometry.blockSize)
  else
    return ()

/-- A range may be touched exactly if the device is open and the range lies in the region. -/
theorem checkRange_eq_value_iff {geometry : Geometry}
    (ends : geometry.regionOffset + geometry.regionSize < Word.limit) {isOpen : Bool}
    {offset length : Nat} :
    geometry.checkRange isOpen offset length = .value () ↔
      isOpen = true ∧ geometry.regionOffset ≤ offset ∧
        offset + length ≤ geometry.regionOffset + geometry.regionSize := by
  cases isOpen with
  | false => simp [checkRange]
  | true =>
    simp only [checkRange, contains_of_lt ends, regionEnd, Word.add_of_lt ends, if_true,
      Outcome.value_bind, true_and, decide_eq_true_eq]
    split <;> simp_all

/-- A write is allowed exactly if its range may be touched and it is empty or stays in the
block in which it starts. -/
theorem checkWrite_eq_value_iff {geometry : Geometry} (valid : geometry.Valid)
    {isOpen : Bool} {offset length : Nat} :
    geometry.checkWrite isOpen offset length = .value () ↔
      geometry.checkRange isOpen offset length = .value () ∧
        (length = 0 ∨ offset % geometry.blockSize + length ≤ geometry.blockSize) := by
  have nonempty := valid.blockSize_pos
  have below := Nat.mod_lt offset nonempty
  rw [checkWrite, Outcome.bind_eq_value_iff]
  simp only [blockRemaining, Word.mod_of_ne (Nat.ne_of_gt nonempty), Outcome.value_bind,
    Word.sub_of_le (Nat.le_of_lt below)]
  constructor
  · rintro ⟨_, allowed, rest⟩
    refine ⟨allowed, ?_⟩
    split at rest
    · exact .inl ‹_›
    · split at rest
      · contradiction
      · exact .inr (by omega)
  · rintro ⟨allowed, stays⟩
    refine ⟨(), allowed, ?_⟩
    split
    · rfl
    · rw [if_neg (by omega)]
      rfl

/-- An erase is allowed exactly if its range may be touched and is made of whole blocks. -/
theorem checkErase_eq_value_iff {geometry : Geometry} {isOpen : Bool} {offset length : Nat} :
    geometry.checkErase isOpen offset length = .value () ↔
      geometry.checkRange isOpen offset length = .value () ∧
        offset % geometry.blockSize = 0 ∧ length % geometry.blockSize = 0 := by
  rw [checkErase, Outcome.bind_eq_value_iff]
  constructor
  · rintro ⟨_, allowed, rest⟩
    refine ⟨allowed, ?_⟩
    split at rest
    · contradiction
    · omega
  · rintro ⟨allowed, aligned⟩
    refine ⟨(), allowed, ?_⟩
    rw [if_neg (by omega)]
    rfl

/-- The cells of a region, all erased. -/
def blankCells (geometry : Geometry) : Cells := Cells.blank geometry.regionSize

theorem size_blankCells (geometry : Geometry) :
    geometry.blankCells.size = geometry.regionSize := Cells.size_blank _

/-- An image has to have the size of the region. -/
def checkImage (geometry : Geometry) (size : Nat) (fault : GeometryFault) :
    Except FlashError (PLift (geometry.Valid ∧ size = geometry.regionSize)) := do
  let accepted ← geometry.check.mapError .invalidGeometry
  if same : size = geometry.regionSize then
    return ⟨accepted.down, same⟩
  else
    throw (.invalidGeometry fault)

end NorStore.Flash.Geometry
