/-
# Flash in an image file

A file that holds exactly the bytes of a region stands in for a chip. A file can be
written anywhere, so the device has to see to it that bits are only cleared: it
reads the range to be programmed, and writes the conjunction back. Blocks are
erased one after another. No wear is recorded.
-/

import NorStore.Flash.Access
import NorStore.Flash.Cells

namespace NorStore.Flash

/-- A device whose cells are the bytes of a file. -/
structure ImageFile where
  geometry : Geometry
  valid : geometry.Valid
  content : Cells
  size_content : content.size = geometry.regionSize
  isOpen : Bool := false

namespace ImageFile

/-- A fresh file in which every byte is erased. -/
def create? (geometry : Geometry) : Except FlashError ImageFile := do
  let ⟨valid⟩ ← geometry.check.mapError .invalidGeometry
  return { geometry, valid, content := geometry.blankCells, size_content := geometry.size_blankCells }

/-- The device over a file that exists, which has to have the size of the region. -/
def ofContent? (path : String) (geometry : Geometry) (content : Cells) :
    Except FlashError ImageFile := do
  let ⟨valid, size_content⟩ ←
    geometry.checkImage content.size (.imageFileSize path content.size geometry.regionSize)
  return { geometry, valid, content, size_content }

/-- Write erased blocks one after another. -/
def writeErasedBlocks (content : Cells) (position blockSize : Nat) : Nat → Cells
  | 0 => content
  | blocks + 1 =>
    writeErasedBlocks (content.overwrite position (List.replicate blockSize Cells.erasedByte))
      (position + blockSize) blockSize blocks

@[simp] theorem size_writeErasedBlocks (content : Cells) (position blockSize blocks : Nat) :
    (writeErasedBlocks content position blockSize blocks).size = content.size := by
  induction blocks generalizing content position with
  | zero => rfl
  | succ blocks ih => rw [writeErasedBlocks, ih, Cells.size_overwrite]

/-- The file with bytes programmed at an offset of the region. -/
def programmed (image : ImageFile) (offset : Nat) (data : Bytes) : ImageFile :=
  match image with
  | ⟨geometry, valid, content, size_content, isOpen⟩ =>
    let position := offset - geometry.regionOffset
    let kept := List.zipWith (· &&& ·) (content.slice position data.length) data
    ⟨geometry, valid, content.overwrite position kept,
      by rw [Cells.size_overwrite, size_content], isOpen⟩

/-- The file with the blocks of a range of the region erased. -/
def erased (image : ImageFile) (offset length : Nat) : ImageFile :=
  match image with
  | ⟨geometry, valid, content, size_content, isOpen⟩ =>
    ⟨geometry, valid,
      writeErasedBlocks content (offset - geometry.regionOffset) geometry.blockSize
        (length / geometry.blockSize),
      by rw [size_writeErasedBlocks, size_content], isOpen⟩

instance : BlockDevice ImageFile where
  openDevice := Action.guarded (fun _ => .value ()) fun image => { image with isOpen := true }
  closeDevice image := { image with isOpen := false }
  geometry image := .ok image.geometry
  read offset length := Action.observe fun image => do
    image.geometry.checkRange image.isOpen offset length
    return image.content.slice (offset - image.geometry.regionOffset) length
  write offset data := Action.guarded
    (fun image => image.geometry.checkWrite image.isOpen offset data.length)
    fun image => image.programmed offset data
  erase offset length := Action.guarded
    (fun image => image.geometry.checkErase image.isOpen offset length)
    fun image => image.erased offset length

end ImageFile

end NorStore.Flash
