/-
# Looking past a device

What a test bench can do to the cells of a chip without going through the device:
read them, alter them against the rules of flash, and ask for the wear. Outside the
region there are no cells, and an access there traps.
-/

import NorStore.Flash.Handles

namespace NorStore.Flash

/-- A device whose cells can be reached past it. -/
class Probe (δ : Type) where
  /-- The cells of the whole region. -/
  cells : δ → Cells
  /-- The offset of the first cell. -/
  regionOffset : δ → Nat
  /-- Change cells, but not their number. -/
  overwrite : δ → Nat → Bytes → δ
  /-- How many blocks were erased and how many times cells were programmed, if that is recorded. -/
  wear? : δ → Option (Nat × Nat)
  /-- How often the block of an offset was erased, if that is recorded. -/
  eraseCount? : δ → Nat → Option (Outcome FlashError Nat)

namespace Probe

variable {δ : Type} [Probe δ]

/-- The index of the cell at an offset, for a range that lies in the region. -/
def index (device : δ) (offset length : Nat) : Outcome FlashError Nat := do
  let start ← Word.sub offset (regionOffset device)
  Outcome.require (start + length ≤ (cells device).size)
  return start

/-- The contents of a range. -/
def contents (offset length : Nat) : Action δ FlashError Bytes := Action.observe fun device => do
  let start ← index device offset length
  return (cells device).slice start length

/-- Overwrite a range. -/
def inject (offset : Nat) (data : Bytes) : Action δ FlashError Unit := Action.guarded
  (fun device => do
    let _ ← index device offset data.length
    return ())
  fun device => overwrite device (offset - regionOffset device) data

end Probe

instance : Probe MemoryFlash where
  cells flash := flash.cells
  regionOffset flash := flash.geometry.regionOffset
  overwrite flash start data := { flash with
    cells := flash.cells.overwrite start data
    size_cells := by rw [Cells.size_overwrite, flash.size_cells] }
  wear? flash := some (flash.totalErases, flash.programs)
  eraseCount? flash offset := some do
    let block ← flash.geometry.blockIndex offset
    Outcome.ofOption flash.eraseCounts[block]?

instance : Probe ImageFile where
  cells image := image.content
  regionOffset image := image.geometry.regionOffset
  overwrite image start data := { image with
    content := image.content.overwrite start data
    size_content := by rw [Cells.size_overwrite, image.size_content] }
  wear? _ := none
  eraseCount? _ _ := none

instance {δ : Type} [Probe δ] : Probe (Faulty δ) where
  cells whole := Probe.cells whole.device
  regionOffset whole := Probe.regionOffset whole.device
  overwrite whole start data := { whole with device := Probe.overwrite whole.device start data }
  wear? whole := Probe.wear? whole.device
  eraseCount? whole offset := Probe.eraseCount? whole.device offset

instance {δ : Type} [Probe δ] : Probe (Glitchy δ) where
  cells whole := Probe.cells whole.device
  regionOffset whole := Probe.regionOffset whole.device
  overwrite whole start data := { whole with device := Probe.overwrite whole.device start data }
  wear? whole := Probe.wear? whole.device
  eraseCount? whole offset := Probe.eraseCount? whole.device offset

end NorStore.Flash
