/-
# Erasing a segment

Erasing a segment leaves it uncommitted. It happens or it does not: an attempt that failed
has changed no cell, whether the segment was found or not.
-/

import NorStore.Proofs.Store.Storing

namespace NorStore

open NorStore.Flash (BlockDevice NorDevice)
open NorStore.Flash.ChipView (cells)

variable {δ : Type} [BlockDevice δ] [NorDevice δ] {segment : Segment} {entry : MapEntry}

namespace Store

variable {store : Store δ}

/-- The store after a segment has been erased. -/
def noteErased (store : Store δ) (segment : Segment) : Store δ :=
  { store with
    dirty := store.dirty.set segment false
    stats := { store.stats with erases := store.stats.erases + 1 } }

/-- Erasing a segment that has been given its range. -/
private theorem eraseSegment_of_asked {found : SegmentDriver δ} (settled : store.Settled)
    (asked : SegmentDriver.ensureMapped segment store.driver = (.value entry, found)) :
    (SegmentDriver.eraseSegment segment).Ends store.driver
      (fun _ driver => SegmentDriver.Advances entry store.driver driver ∧
        ¬ Committed (driver.contents entry))
      fun _ driver => SegmentDriver.Advances entry store.driver driver ∧
        cells driver.device = cells store.device := by
  have device := SegmentDriver.device_of_ensureMapped asked
  have mapped := SegmentDriver.mapped_of_ensureMapped asked
  have first := SegmentDriver.advances_ensureMapped settled.planned.sound segment entry
  rw [asked] at first
  have sound := (first.planned settled.planned).sound
  apply Action.Ends.of_eq (SegmentDriver.ensureMapped_bind asked _)
  refine (SegmentDriver.eraseSegment_uncommits sound mapped).mono ?_ ?_
  · intro _ driver ended
    obtain ⟨confined, uncommitted⟩ := ended
    exact ⟨first.trans confined.advances, uncommitted⟩
  · intro _ driver remains
    exact ⟨first.trans remains.confined.advances, remains.cells.trans (congrArg cells device)⟩

/-- An attempt to erase a segment has erased it, or has changed no cell. -/
theorem eraseSegment_cases (settled : store.Settled) (segment : Segment) :
    (∃ entry driver, store.driver.Placed segment entry ∧
        SegmentDriver.Advances entry store.driver driver ∧ ¬ Committed (driver.contents entry) ∧
        eraseSegment segment store = (.value (), (store.atop driver).noteErased segment)) ∨
      ∃ outcome driver, outcome ≠ .value () ∧ Moves store (store.atop driver) ∧
        cells driver.device = cells store.device ∧
        eraseSegment segment store = (outcome, store.atop driver) := by
  have first := SegmentDriver.advances_ensureMapped settled.planned.sound segment ⟨segment, 0, 0, 0⟩
  have device := SegmentDriver.device_ensureMapped segment store.driver
  rcases asked : SegmentDriver.ensureMapped segment store.driver with ⟨outcome, found⟩
  rw [asked] at first device
  have moves : Moves store (store.atop found) := .of_advances first rfl rfl
  cases outcome with
  | value entry =>
      have placed := settled.planned.placed_of_asked asked
      rcases (eraseSegment_of_asked settled asked).cases with
        ⟨_, driver, erases, advances, uncommitted⟩ | ⟨cause, driver, fails, advances, same⟩
      · refine .inl ⟨entry, driver, placed, advances, uncommitted, ?_⟩
        rw [eraseSegment, Action.bind_of_value (by rw [onDriver_apply, erases])]
        rfl
      · refine .inr ⟨.error cause, driver, by simp, .of_advances advances rfl rfl, same, ?_⟩
        rw [eraseSegment, Action.bind_of_error (by rw [onDriver_apply, fails])]
  | error cause =>
      have fails : SegmentDriver.eraseSegment segment store.driver = (.error cause, found) :=
        Action.bind_of_error asked _
      refine .inr ⟨.error cause, found, by simp, moves, congrArg cells device, ?_⟩
      rw [eraseSegment, Action.bind_of_error (by rw [onDriver_apply, fails])]
  | trap =>
      have traps : SegmentDriver.eraseSegment segment store.driver = (.trap, found) :=
        Action.bind_of_trap asked _
      refine .inr ⟨.trap, found, by simp, moves, congrArg cells device, ?_⟩
      rw [eraseSegment, Action.bind_of_trap (by rw [onDriver_apply, traps])]

end Store

end NorStore
