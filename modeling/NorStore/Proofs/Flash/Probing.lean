/-
# What is done past a device

A bench reaches the cells of a chip without the device. What it reads there are the cells that
the device works on, and what it overwrites is changed in them and nowhere else. The device does
not notice: its geometry and its faults are as before. So a fault that no access could have
made, a byte that has decayed for instance, can be told by the cells.
-/

import NorStore.Flash.Probe
import NorStore.Proofs.Flash.Cells
import NorStore.Proofs.Flash.FileDevice

namespace NorStore.Flash

open ChipView (cells shape)

/-- A device whose cells are the ones that can be reached past it. -/
class Probed (δ : Type) [BlockDevice δ] [NorDevice δ] [Probe δ] : Prop where
  cells_eq (device : δ) : Probe.cells device = cells device
  regionOffset_eq (device : δ) : Probe.regionOffset device = (shape device).regionOffset
  keeps_overwrite (device : δ) (start : Nat) (data : Bytes) :
    Keeps device (Probe.overwrite device start data)
  cells_overwrite (device : δ) (start : Nat) (data : Bytes) :
    cells (Probe.overwrite device start data) = (cells device).overwrite start data

instance : Probed MemoryFlash where
  cells_eq _ := rfl
  regionOffset_eq _ := rfl
  keeps_overwrite _ _ _ := ⟨rfl, id, id, id, id⟩
  cells_overwrite _ _ _ := rfl

instance : Probed ImageFile where
  cells_eq _ := rfl
  regionOffset_eq _ := rfl
  keeps_overwrite _ _ _ := ⟨rfl, id, id, id, id⟩
  cells_overwrite _ _ _ := rfl

section Wrapped

variable {δ : Type} [BlockDevice δ] [NorDevice δ] [Probe δ] [Probed δ]

instance : Probed (Faulty δ) where
  cells_eq whole := Probed.cells_eq whole.device
  regionOffset_eq whole := Probed.regionOffset_eq whole.device
  keeps_overwrite whole start data :=
    have inner := Probed.keeps_overwrite whole.device start data
    { shape := inner.shape
      honest := inner.honest
      steady := And.imp_right (And.imp_right (And.imp_right inner.steady))
      lost := Or.imp_right inner.lost
      healthy := fun ⟨opens, erases, reports, unlimited, powered, healthy⟩ =>
        ⟨opens, erases, reports, unlimited, powered, inner.healthy healthy⟩ }
  cells_overwrite whole := Probed.cells_overwrite whole.device

instance : Probed (Glitchy δ) where
  cells_eq whole := Probed.cells_eq whole.device
  regionOffset_eq whole := Probed.regionOffset_eq whole.device
  keeps_overwrite whole start data :=
    have inner := Probed.keeps_overwrite whole.device start data
    { shape := inner.shape
      honest := And.imp_right inner.honest
      steady := And.imp_right (And.imp_right inner.steady)
      lost := inner.lost
      healthy := And.imp_right (And.imp_right inner.healthy) }
  cells_overwrite whole := Probed.cells_overwrite whole.device

end Wrapped

/-- A byte that is overwritten stands in the range around it. -/
theorem Cells.slice_overwrite_byte {cells : Cells} {start length offset : Nat}
    (inside : start + length ≤ cells.size) (within : offset < length) (byte : UInt8) :
    (cells.overwrite (start + offset) [byte]).slice start length =
      (cells.slice start length).set offset byte := by
  apply List.ext_getElem?
  intro index
  rw [List.getElem?_set, length_slice inside, getElem?_slice, getElem?_slice, overwrite, overwrite,
    Array.getElem?_setIfInBounds]
  by_cases same : offset = index
  · subst same
    rw [if_pos within, if_pos rfl, if_pos rfl, if_pos (by omega), if_pos within]
  · rw [if_neg same, if_neg (by omega : ¬ start + offset = start + index)]

/-- Overwriting a range in the region changes its cells and nothing else. -/
theorem inject_of_encloses {δ : Type} [BlockDevice δ] [NorDevice δ] [Probe δ] [Probed δ]
    {device : δ} {offset : Nat} {data : Bytes}
    (encloses : (shape device).Encloses offset data.length) :
    ∃ reached, Probe.inject offset data device = (.value (), reached) ∧ Keeps device reached ∧
      cells reached = (cells device).overwrite (offset - (shape device).regionOffset) data := by
  have first := encloses.first
  have last := encloses.last
  have size := NorDevice.size_cells device
  have allowed : Probe.index device offset data.length =
      .value (offset - (shape device).regionOffset) := by
    rw [Probe.index, Probed.regionOffset_eq, Probed.cells_eq, Word.sub_of_le first,
      Outcome.value_bind, Outcome.require, if_pos (by omega), Outcome.value_bind, Outcome.pure_eq]
  refine ⟨_, ?_, Probed.keeps_overwrite device _ data, Probed.cells_overwrite device _ data⟩
  rw [Probe.inject, Action.guarded, allowed, Probed.regionOffset_eq]
  rfl

end NorStore.Flash
