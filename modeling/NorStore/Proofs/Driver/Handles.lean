/-
# Handles that come back

An access through a handle moves the handle when everything else is done. So one that comes to an
error hands the handle back as it was, whatever the device has done until then, and so does one
that traps.
-/

import NorStore.Driver.Access
import NorStore.Proofs.Action

namespace NorStore

open NorStore.Flash (BlockDevice)

namespace OpenSegment

variable {δ ε α β : Type}

/-- Where the access comes to no value, the handle is as it was. -/
def Steadfast (access : Action (OpenSegment δ) ε α) : Prop :=
  ∀ opened, access.Concludes opened (fun _ _ => True) fun reached => reached.handle = opened.handle

namespace Steadfast

theorem throw (cause : ε) : Steadfast (MonadExcept.throw cause : Action (OpenSegment δ) ε α) :=
  fun _ => rfl

/-- The handle may be moved once all that can fail is behind. -/
theorem bind {access : Action (OpenSegment δ) ε β} {next : β → Action (OpenSegment δ) ε α}
    (leaves : access.Leaves OpenSegment.handle) (goesOn : ∀ result, Steadfast (next result)) :
    Steadfast (access >>= next) := by
  intro opened
  have kept : access.Reaches opened fun reached => reached.handle = opened.handle := leaves opened
  have begins := Action.Concludes.of_reaches kept fun _ _ _ => trivial
  refine .bind begins fun result middle ⟨same, _⟩ => ?_
  rw [← same]
  exact goesOn result middle

theorem advance (length : Nat) :
    Steadfast (advance length : Action (OpenSegment δ) StoreError Unit) := by
  intro opened
  rw [Action.Concludes, OpenSegment.advance]
  cases opened.handle.advance length <;> trivial

/-- Nothing can fail behind the last step. -/
theorem bind_pure {access : Action (OpenSegment δ) ε β} (steadfast : Steadfast access)
    (result : β → α) : Steadfast (access >>= fun found => pure (result found)) :=
  fun opened => .bind (steadfast opened) fun _ _ _ => .pure trivial

end Steadfast

theorem getHandle_leaves :
    (getHandle : Action (OpenSegment δ) ε Handle).Leaves OpenSegment.handle := fun _ => rfl

theorem onDriver_leaves (access : Action (SegmentDriver δ) ε α) :
    (onDriver access).Leaves OpenSegment.handle := fun _ => rfl

variable {driver : SegmentDriver δ} {handle : Handle}

/-- Lending tells everything about an access but what becomes of the handle in a failure, and
that is known. -/
theorem Steadfast.apply {access : Action (OpenSegment δ) ε α} (steadfast : Steadfast access) :
    access ⟨driver, handle⟩ =
      match SegmentDriver.lend handle access driver with
      | (.value (result, next), reached) => (.value result, ⟨reached, next⟩)
      | (.error cause, reached) => (.error cause, ⟨reached, handle⟩)
      | (.trap, reached) => (.trap, ⟨reached, handle⟩) := by
  have judged := steadfast ⟨driver, handle⟩
  rw [Action.Concludes] at judged
  rw [SegmentDriver.lend]
  rcases ends : access ⟨driver, handle⟩ with ⟨_ | _ | _, reached, left⟩
  · rfl
  · rw [ends] at judged
    cases judged
    rfl
  · rw [ends] at judged
    cases judged
    rfl

variable [BlockDevice δ]

/-- A read that fails leaves its handle alone. -/
theorem read_steadfast (offset length : Nat) :
    Steadfast (read offset length : Action (OpenSegment δ) StoreError Bytes) := by
  refine .bind getHandle_leaves fun handle => .bind (.lift _) fun _ => ?_
  refine .bind (.lift _) fun past => ?_
  split
  · exact .throw _
  · exact .bind (.lift _) fun start => .bind (onDriver_leaves _) fun _ =>
      (Steadfast.advance length).bind_pure _

/-- A write that fails leaves its handle alone, though the device may have changed. -/
theorem write_steadfast (offset : Nat) (data : Bytes) :
    Steadfast (write offset data : Action (OpenSegment δ) StoreError Unit) := by
  refine .bind getHandle_leaves fun handle => .bind (.lift _) fun _ => ?_
  refine .bind (.lift _) fun past => ?_
  split
  · exact .throw _
  · exact .bind (.lift _) fun start => .bind (onDriver_leaves _) fun _ => .advance data.length

theorem read_apply (offset length : Nat) :
    read offset length ⟨driver, handle⟩ =
      match SegmentDriver.read handle offset length driver with
      | (.value (bytes, next), reached) => (.value bytes, ⟨reached, next⟩)
      | (.error cause, reached) => (.error cause, ⟨reached, handle⟩)
      | (.trap, reached) => (.trap, ⟨reached, handle⟩) := by
  rw [(read_steadfast offset length).apply, SegmentDriver.read]
  rcases SegmentDriver.lend handle (read offset length) driver with ⟨_ | _ | _, reached⟩ <;> rfl

theorem write_apply (offset : Nat) (data : Bytes) :
    write offset data ⟨driver, handle⟩ =
      match SegmentDriver.write handle offset data driver with
      | (.value next, reached) => (.value (), ⟨reached, next⟩)
      | (.error cause, reached) => (.error cause, ⟨reached, handle⟩)
      | (.trap, reached) => (.trap, ⟨reached, handle⟩) := by
  rw [(write_steadfast offset data).apply, SegmentDriver.write, Action.bind_apply, Action.bind]
  rcases SegmentDriver.lend handle (write offset data) driver with ⟨_ | _ | _, reached⟩ <;> rfl

/-- What is told of the driver after a read that has lent its handle is told of both. -/
theorem read_reaches {holds : OpenSegment δ → Prop} {offset length : Nat}
    (judged : (SegmentDriver.read handle offset length).Concludes driver
      (fun result reached => holds ⟨reached, result.2⟩) fun reached => holds ⟨reached, handle⟩) :
    (read offset length).Reaches ⟨driver, handle⟩ holds := by
  rw [Action.Reaches, read_apply]
  rw [Action.Concludes] at judged
  split at judged <;> rename_i ends <;> rwa [ends]

theorem write_reaches {holds : OpenSegment δ → Prop} {offset : Nat} {data : Bytes}
    (judged : (SegmentDriver.write handle offset data).Concludes driver
      (fun next reached => holds ⟨reached, next⟩) fun reached => holds ⟨reached, handle⟩) :
    (write offset data).Reaches ⟨driver, handle⟩ holds := by
  rw [Action.Reaches, write_apply]
  rw [Action.Concludes] at judged
  split at judged <;> rename_i ends <;> rwa [ends]

end OpenSegment

end NorStore
