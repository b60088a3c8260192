/-
# A file behaves like NOR flash

An image file is written in ways that flash cannot be written: bytes are replaced, and an erase
is a row of blocks full of erased bytes. Since it reads what is there before it writes, what it
does to its content is what programming and erasing do to cells. So the file is one more device
that satisfies the laws of NOR flash, and nothing on it can fail.
-/

import NorStore.Flash.Image
import NorStore.Proofs.Flash.Cells
import NorStore.Proofs.Flash.NorDevice
import NorStore.Proofs.Flash.Restart

namespace NorStore.Flash

theorem Geometry.checkImage_of_valid {geometry : Geometry} (valid : geometry.Valid) {size : Nat}
    (same : size = geometry.regionSize) (fault : GeometryFault) :
    geometry.checkImage size fault = .ok ⟨valid, same⟩ := by
  rw [checkImage, check_of_valid valid]
  exact dif_pos same

namespace ImageFile

/-- Blocks that are written one after another are one range that is erased. -/
theorem writeErasedBlocks_eq (content : Cells) (position blockSize blocks : Nat) :
    writeErasedBlocks content position blockSize blocks =
      content.erase position (blocks * blockSize) := by
  induction blocks generalizing content position with
  | zero => rw [writeErasedBlocks, Nat.zero_mul, Cells.erase]
  | succ blocks ih =>
      rw [writeErasedBlocks, ih, Cells.overwrite_erased, Nat.succ_mul, Nat.add_comm (_ * _),
        Cells.erase_add]

theorem content_programmed (file : ImageFile) (offset : Nat) (data : Bytes) :
    (file.programmed offset data).content =
      file.content.program (offset - file.geometry.regionOffset) data :=
  Cells.overwrite_shared ..

/-- An erase of whole blocks erases the range. -/
theorem content_erased (file : ImageFile) (offset : Nat) {length : Nat}
    (whole : length % file.geometry.blockSize = 0) :
    (file.erased offset length).content =
      file.content.erase (offset - file.geometry.regionOffset) length := by
  have erased : (file.erased offset length).content =
      writeErasedBlocks file.content (offset - file.geometry.regionOffset) file.geometry.blockSize
        (length / file.geometry.blockSize) := rfl
  rw [erased, writeErasedBlocks_eq, Nat.div_mul_cancel (Nat.dvd_of_mod_eq_zero whole)]

instance : ChipView ImageFile where
  shape file := file.geometry
  cells file := file.content
  IsOpen file := file.isOpen = true
  Honest _ := True
  Steady _ := True
  Lost _ := False
  Healthy _ := True

private theorem keeps {before after : ImageFile} (same : after.geometry = before.geometry) :
    Keeps before after := ⟨same, id, id, id, id⟩

instance : NorDevice ImageFile where
  valid file := file.valid
  size_cells file := file.size_content
  steady_of_healthy _ := trivial
  not_lost_of_healthy _ := id
  geometry_eq _ reported := (Except.ok.inj reported).symm
  geometry_of_steady _ _ := rfl
  openDevice_ends _ := .of_value rfl ⟨⟨keeps rfl, rfl⟩, rfl⟩
  closeDevice_stays _ := ⟨keeps rfl, rfl⟩
  read_ends {file offset length} opened encloses := by
    have allowed : file.geometry.checkRange file.isOpen offset length = .value () :=
      (Geometry.checkRange_eq_value_iff encloses.ends).2 ⟨opened, encloses.first, encloses.last⟩
    have reads : BlockDevice.read offset length file =
        (.value (file.content.slice (offset - file.geometry.regionOffset) length), file) := by
      simp only [BlockDevice.read, Action.observe, Action.guarded, allowed]
      rfl
    exact .of_value reads ⟨.refl file, rfl⟩
  write_ends {file offset data} opened _ encloses within := by
    have allowed : file.geometry.checkWrite file.isOpen offset data.length = .value () :=
      (Geometry.checkWrite_eq_value_iff file.valid).2
        ⟨(Geometry.checkRange_eq_value_iff encloses.ends).2
          ⟨opened, encloses.first, encloses.last⟩, .inr within⟩
    have writes : BlockDevice.write offset data file =
        (.value (), file.programmed offset data) := by
      simp only [BlockDevice.write, Action.guarded, allowed]
    exact .of_value writes ⟨keeps rfl, opened, id, content_programmed file offset data⟩
  erase_ends {file offset length} opened encloses aligned whole := by
    have allowed : file.geometry.checkErase file.isOpen offset length = .value () :=
      Geometry.checkErase_eq_value_iff.2
        ⟨(Geometry.checkRange_eq_value_iff encloses.ends).2
          ⟨opened, encloses.first, encloses.last⟩, aligned, whole⟩
    have erases : BlockDevice.erase offset length file =
        (.value (), file.erased offset length) := by
      simp only [BlockDevice.erase, Action.guarded, allowed]
    exact .of_value erases ⟨keeps rfl, id, content_erased file offset whole⟩

instance : Restartable ImageFile where
  shape_attach _ := rfl
  cells_attach _ := rfl
  honest_attach _ := trivial
  healthy_attach _ := trivial

end ImageFile

end NorStore.Flash
