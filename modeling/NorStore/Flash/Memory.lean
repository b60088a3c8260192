/-
# Flash in memory

A chip whose cells are kept in memory. It counts how often each block was erased
and how often cells were programmed, which is what wears a real chip out. A call
that fails changes neither cells nor counts.
-/

import NorStore.Flash.Access
import NorStore.Flash.Cells

namespace NorStore.Flash

/-- A flash chip in memory. Its cells are those of the region, in order. -/
structure MemoryFlash where
  geometry : Geometry
  valid : geometry.Valid
  cells : Cells
  size_cells : cells.size = geometry.regionSize
  eraseCounts : Array Nat
  size_eraseCounts : eraseCounts.size = geometry.blockCount
  programs : Nat := 0
  isOpen : Bool := false

/-- Raise consecutive counts by one. -/
def raiseCounts (counts : Array Nat) (start : Nat) : Nat → Array Nat
  | 0 => counts
  | length + 1 => raiseCounts (counts.modify start (· + 1)) (start + 1) length

@[simp] theorem size_raiseCounts (counts : Array Nat) (start length : Nat) :
    (raiseCounts counts start length).size = counts.size := by
  induction length generalizing counts start with
  | zero => rfl
  | succ length ih => rw [raiseCounts, ih, Array.size_modify]

namespace MemoryFlash

/-- A chip that holds an image of its region. -/
def ofCells? (geometry : Geometry) (cells : Cells) : Except FlashError MemoryFlash := do
  let ⟨valid, size_cells⟩ ←
    geometry.checkImage cells.size (.imageSize cells.size geometry.regionSize)
  return {
    geometry, valid, cells, size_cells
    eraseCounts := Array.replicate geometry.blockCount 0
    size_eraseCounts := Array.size_replicate }

/-- A chip with every cell erased. -/
def blank? (geometry : Geometry) : Except FlashError MemoryFlash := do
  let ⟨valid⟩ ← geometry.check.mapError .invalidGeometry
  return {
    geometry, valid
    cells := geometry.blankCells
    size_cells := geometry.size_blankCells
    eraseCounts := Array.replicate geometry.blockCount 0
    size_eraseCounts := Array.size_replicate }

/-- The chip with bytes programmed at an offset of its region. -/
def programmed (flash : MemoryFlash) (offset : Nat) (data : Bytes) : MemoryFlash :=
  match flash with
  | ⟨geometry, valid, cells, size_cells, counts, size_counts, programs, isOpen⟩ =>
    ⟨geometry, valid, cells.program (offset - geometry.regionOffset) data,
      by rw [Cells.size_program, size_cells], counts, size_counts,
      if data.isEmpty then programs else programs + 1, isOpen⟩

/-- The chip with the blocks of a range of its region erased. -/
def erased (flash : MemoryFlash) (offset length : Nat) : MemoryFlash :=
  match flash with
  | ⟨geometry, valid, cells, size_cells, counts, size_counts, programs, isOpen⟩ =>
    ⟨geometry, valid, cells.erase (offset - geometry.regionOffset) length,
      by rw [Cells.size_erase, size_cells],
      raiseCounts counts ((offset - geometry.regionOffset) / geometry.blockSize)
        (length / geometry.blockSize),
      by rw [size_raiseCounts, size_counts], programs, isOpen⟩

/-- The total number of blocks erased. -/
def totalErases (flash : MemoryFlash) : Nat := flash.eraseCounts.foldl (· + ·) 0

instance : BlockDevice MemoryFlash where
  openDevice := Action.guarded (fun _ => .value ()) fun flash => { flash with isOpen := true }
  closeDevice flash := { flash with isOpen := false }
  geometry flash := .ok flash.geometry
  read offset length := Action.observe fun flash => do
    flash.geometry.checkRange flash.isOpen offset length
    return flash.cells.slice (offset - flash.geometry.regionOffset) length
  write offset data := Action.guarded
    (fun flash => flash.geometry.checkWrite flash.isOpen offset data.length)
    fun flash => flash.programmed offset data
  erase offset length := Action.guarded
    (fun flash => flash.geometry.checkErase flash.isOpen offset length)
    fun flash => flash.erased offset length

end MemoryFlash

end NorStore.Flash
