/-
# What storing does to the agenda

What a store has to do next is told by its dirty flags, by when the guard band started and by
whether a commit is forced. Storing a segment clears the flag of that segment and the force,
and does so only if it succeeds; nothing else of the agenda changes, whatever the device does.
A pass is therefore the same as storing, one after another, the segments that were dirty when
it began.
-/

import NorStore.Proofs.Store.Access

namespace NorStore

open NorStore.Flash (BlockDevice)

/-- The segment, if the event tells that it was stored. -/
def Event.stored? : Event → Option Segment
  | stored segment => some segment
  | restored _ => none
  | lost _ _ => none
  | storeFailed _ _ => none

namespace Store

variable {δ ε : Type} {store middle after : Store δ} {segment : Segment}
  {stored later : List Segment}

/-- The segments that were stored since the store was as before, in order. -/
def storedSince (before after : Store δ) : List Segment :=
  (after.events.drop before.events.length).filterMap Event.stored?

/-- What a store has to do, and when. -/
structure Agenda where
  dirty : Segment.Table Bool
  windowStart : Option Nat
  forced : Bool
  config : Config
  events : List Event

/-- The agenda of a store. -/
def agenda (store : Store δ) : Agenda where
  dirty := store.dirty
  windowStart := store.windowStart
  forced := store.forced
  config := store.config
  events := store.events

/-- These segments were stored, in this order, and nothing else happened to the agenda. -/
structure Tells (stored : List Segment) (before after : Store δ) : Prop where
  isDirty : ∀ segment, after.isDirty segment =
    (before.isDirty segment && !decide (segment ∈ stored))
  windowStart : after.windowStart = before.windowStart
  forced : after.forced = (before.forced && stored.isEmpty)
  config : after.config = before.config
  events : ∃ told, after.events = before.events ++ told ∧ told.filterMap Event.stored? = stored

namespace Tells

theorem of_agenda (same : after.agenda = store.agenda) : Tells [] store after := by
  simp only [agenda, Agenda.mk.injEq] at same
  obtain ⟨dirty, windowStart, forced, config, events⟩ := same
  refine ⟨fun segment => ?_, windowStart, ?_, config, [], ?_, rfl⟩
  · simp [Store.isDirty, dirty]
  · simp [forced]
  · simp [events]

theorem refl (store : Store δ) : Tells [] store store := of_agenda rfl

theorem trans (one : Tells stored store middle) (two : Tells later middle after) :
    Tells (stored ++ later) store after where
  isDirty segment := by
    rw [two.isDirty, one.isDirty, Bool.and_assoc]
    simp
  windowStart := two.windowStart.trans one.windowStart
  forced := by
    rw [two.forced, one.forced, Bool.and_assoc]
    cases stored <;> simp
  config := two.config.trans one.config
  events := by
    obtain ⟨first, told, filtered⟩ := one.events
    obtain ⟨second, further, rest⟩ := two.events
    exact ⟨first ++ second, by rw [further, told, List.append_assoc],
      by rw [List.filterMap_append, filtered, rest]⟩

/-- What was stored is what the new events tell. -/
theorem storedSince (tells : Tells stored store after) : store.storedSince after = stored := by
  obtain ⟨told, events, filtered⟩ := tells.events
  rw [Store.storedSince, events, List.drop_left, filtered]

end Tells

theorem tells_noteStored (store : Store δ) (segment : Segment) (bytes : Nat) :
    Tells [segment] store (store.noteStored segment bytes) where
  isDirty other := by
    show (store.dirty.set segment false).get other = _
    by_cases same : other = segment
    · subst same
      simp
    · rw [Segment.Table.get_set_of_ne _ _ same]
      simp [Store.isDirty, same]
  windowStart := rfl
  forced := by simp [noteStored]
  config := rfl
  events := ⟨[.stored segment], rfl, rfl⟩

/-- Other events, and what the counts say, are not on the agenda. -/
theorem tells_note {event : Event} (other : event.stored? = none) (store : Store δ) (stats : Stats) :
    Tells [] store { store with stats, events := store.events ++ [event] } where
  isDirty _ := by simp [isDirty]
  windowStart := rfl
  forced := by simp
  config := rfl
  events := ⟨[event], rfl, by simp [other]⟩

theorem tells_advanceClock (store : Store δ) (millis : Nat) :
    Tells [] store (store.advanceClock millis) := .of_agenda rfl

@[simp]
theorem agenda_setLive (store : Store δ) (segment : Segment) (live : Bytes) :
    (store.setLive segment live).agenda = store.agenda := by
  rw [setLive]
  split <;> rfl

variable [BlockDevice δ]

/-! ## Storing one segment -/

/-- Writing a segment leaves whatever does not depend on the driver. -/
theorem writeSegment_leaves {τ : Type} {view : Store δ → τ}
    (aside : ∀ store driver, view (store.atop driver) = view store) (segment : Segment) :
    Action.Leaves view (writeSegment segment : Action (Store δ) StoreError Nat) := by
  have leaves : ∀ {α : Type} (access : Action (SegmentDriver δ) StoreError α),
      Action.Leaves view (onDriver access) := fun access store => aside store (access store.driver).2
  refine .bind .get fun store => ?_
  split
  · exact .throw _
  · refine .bind (leaves _) fun _ => ?_
    split
    · exact .throw _
    · split
      · exact .throw _
      · refine .bind .get fun opened => .bind (leaves _) fun _ => ?_
        exact .bind (leaves _) fun _ => .pure _

/-- A segment that is stored leaves the agenda; one that is not stays on it. -/
theorem storeSegment_tells (store : Store δ) (segment : Segment) :
    (storeSegment segment).Concludes store (fun _ after => Tells [segment] store after)
      (Tells [] store) := by
  have leaves : agenda (writeSegment segment store).2 = store.agenda :=
    writeSegment_leaves (fun _ _ => rfl) segment store
  rw [Action.Concludes]
  rcases writes : writeSegment segment store with ⟨bytes | cause | _, after⟩
  · rw [writes] at leaves
    rw [storeSegment_of_written writes]
    exact (Tells.of_agenda leaves).trans (tells_noteStored after segment bytes)
  · rw [writes] at leaves
    rw [storeSegment_of_failed writes]
    exact (Tells.of_agenda leaves).trans (tells_note rfl after _)
  · rw [writes] at leaves
    rw [storeSegment_of_trap writes]
    exact .of_agenda leaves

/-! ## Passes -/

/-- Store each of a list of segments, with a pause after each one that was stored. -/
def storeEach : List Segment → CommitReport → Action (Store δ) ε CommitReport
  | [], report => return report
  | segment :: rest, report => do
    match ← (storeSegment segment).attempt with
    | .ok () =>
      modify fun store => store.advanceClock store.config.yieldMillis
      storeEach rest { report with stored := report.stored ++ [segment] }
    | .error _ => storeEach rest { report with failed := report.failed ++ [segment] }

/-- A pass that tries these segments. -/
def passOver (listed : List Segment) : Action (Store δ) ε CommitReport := do
  modify fun store =>
    { store with stats := { store.stats with commitPasses := store.stats.commitPasses + 1 } }
  let report ← storeEach listed { performed := true }
  modify fun store => { store with windowStart := none }
  return report

section Each

variable {rest : List Segment} {report : CommitReport} {next : Store δ}

theorem storeEach_of_stored (stores : storeSegment segment store = (.value (), next)) :
    (storeEach (segment :: rest) report store : Outcome ε CommitReport × Store δ) =
      storeEach rest { report with stored := report.stored ++ [segment] }
        (next.advanceClock next.config.yieldMillis) := by
  have tried : ((storeSegment segment).attempt : Action (Store δ) ε _) store =
      (.value (.ok ()), next) := by
    rw [Action.attempt, stores]
  rw [storeEach, Action.bind_of_value tried]
  rfl

theorem storeEach_of_failed {cause : StoreError}
    (fails : storeSegment segment store = (.error cause, next)) :
    (storeEach (segment :: rest) report store : Outcome ε CommitReport × Store δ) =
      storeEach rest { report with failed := report.failed ++ [segment] } next := by
  have tried : ((storeSegment segment).attempt : Action (Store δ) ε _) store =
      (.value (.error cause), next) := by
    rw [Action.attempt, fails]
  rw [storeEach, Action.bind_of_value tried]

theorem storeEach_of_trap (traps : storeSegment segment store = (.trap, next)) :
    (storeEach (segment :: rest) report store : Outcome ε CommitReport × Store δ) =
      (.trap, next) := by
  have tried : ((storeSegment segment).attempt : Action (Store δ) ε _) store = (.trap, next) := by
    rw [Action.attempt, traps]
  rw [storeEach, Action.bind_of_trap tried]

end Each

/-- Storing what is dirty of a list is storing each segment of it that was dirty from the
start: none of them becomes dirty or clean before its turn. -/
theorem storeDirty_eq {listed : List Segment} (once : listed.Nodup) (report : CommitReport)
    (store : Store δ) :
    (storeDirty listed report store : Outcome ε CommitReport × Store δ) =
      storeEach (listed.filter store.isDirty) report store := by
  induction listed generalizing report store with
  | nil => rfl
  | cons segment rest ih =>
      have unlisted := (List.nodup_cons.1 once).1
      cases dirty : store.isDirty segment with
      | false =>
          rw [storeDirty_of_clean dirty, List.filter_cons_of_neg (by simp [dirty])]
          exact ih once.of_cons report store
      | true =>
          rw [List.filter_cons_of_pos dirty]
          -- The rest of the list is as dirty as before, so the same segments are left to try.
          have kept : ∀ {stored : List Segment} {next : Store δ}, Tells stored store next →
              stored ⊆ [segment] → rest.filter next.isDirty = rest.filter store.isDirty := by
            intro stored next tells only
            refine List.filter_congr fun other member => ?_
            have different : other ∉ stored := fun also =>
              unlisted (List.mem_singleton.1 (only also) ▸ member)
            simp [tells.isDirty, different]
          have concludes := storeSegment_tells store segment
          rw [Action.Concludes] at concludes
          rcases stores : storeSegment segment store with ⟨_ | cause | _, next⟩
          · rw [stores] at concludes
            have paused := concludes.trans (tells_advanceClock next next.config.yieldMillis)
            rw [storeDirty_of_stored dirty stores, storeEach_of_stored stores, ih once.of_cons,
              kept paused (by simp)]
          · rw [stores] at concludes
            rw [storeDirty_of_failed dirty stores, storeEach_of_failed stores, ih once.of_cons,
              kept concludes (by simp)]
          · have tried : ((storeSegment segment).attempt : Action (Store δ) ε _) store =
                (.trap, next) := by
              rw [Action.attempt, stores]
            rw [storeEach_of_trap stores, storeDirty, Action.get_bind, if_pos dirty,
              Action.bind_of_trap tried]

/-- A check that commits is a pass over the segments that are dirty. -/
theorem commitCheck_of_due (due : store.isCommitDue = true) :
    (commitCheck store : Outcome ε CommitReport × Store δ) = passOver store.dirtySegments store := by
  rw [commitCheck, Action.get_bind, if_pos due, passOver, Action.modify_bind, Action.modify_bind,
    Action.bind_apply, Action.bind_apply, Action.bind, Action.bind,
    storeDirty_eq (by decide : Segment.all.Nodup)]
  rfl

/-- Every segment of a list is in one of two parts, and both keep the order. -/
structure SharedOut (listed stored failed : List Segment) : Prop where
  inOrder : stored.Sublist listed
  failedInOrder : failed.Sublist listed
  everyone : (stored ++ failed).Perm listed

/-- What is reported of a list is what was tried: every segment once, in order, as stored or as
failed. Only those that are reported as stored have left the agenda. -/
theorem storeEach_report (listed : List Segment) (report : CommitReport) (store : Store δ) :
    (storeEach listed report : Action (Store δ) ε CommitReport).Concludes store
      (fun told after => ∃ stored failed, SharedOut listed stored failed ∧
        told = { report with
          stored := report.stored ++ stored
          failed := report.failed ++ failed } ∧ Tells stored store after)
      (fun after => ∃ stored, Tells stored store after) := by
  induction listed generalizing report store with
  | nil => exact .pure ⟨[], [], ⟨.slnil, .slnil, .nil⟩, by simp, .refl store⟩
  | cons segment rest ih =>
      have concludes := storeSegment_tells store segment
      rw [Action.Concludes] at concludes
      rcases stores : storeSegment segment store with ⟨_ | cause | _, next⟩
      · rw [stores] at concludes
        have paused := concludes.trans (tells_advanceClock next next.config.yieldMillis)
        refine .of_eq (storeEach_of_stored stores) ((ih _ _).mono ?_ ?_)
        · intro told after ended
          obtain ⟨stored, failed, shared, reported, tells⟩ := ended
          refine ⟨segment :: stored, failed, ⟨shared.inOrder.cons_cons _, shared.failedInOrder.cons _,
            shared.everyone.cons _⟩, by simp [reported], paused.trans tells⟩
        · intro after ended
          obtain ⟨stored, tells⟩ := ended
          exact ⟨_, paused.trans tells⟩
      · rw [stores] at concludes
        refine .of_eq (storeEach_of_failed stores) ((ih _ _).mono ?_ ?_)
        · intro told after ended
          obtain ⟨stored, failed, shared, reported, tells⟩ := ended
          refine ⟨stored, segment :: failed, ⟨shared.inOrder.cons _, shared.failedInOrder.cons_cons _,
            List.perm_middle.trans (shared.everyone.cons _)⟩, by simp [reported],
            concludes.trans tells⟩
        · intro after ended
          obtain ⟨stored, tells⟩ := ended
          exact ⟨_, concludes.trans tells⟩
      · rw [stores] at concludes
        rw [Action.Concludes, storeEach_of_trap stores]
        exact ⟨[], concludes⟩

/-- A pass tells the same, and ends the guard band unless it stops in a trap. -/
theorem passOver_report (listed : List Segment) (store : Store δ) :
    (passOver listed : Action (Store δ) ε CommitReport).Concludes store
      (fun told after => told.performed = true ∧ SharedOut listed told.stored told.failed ∧
        ∃ last, Tells told.stored store last ∧
          after.agenda = { last.agenda with windowStart := none })
      (fun after => ∃ stored, Tells stored store after) := by
  have begun : Tells [] store { store with stats :=
      { store.stats with commitPasses := store.stats.commitPasses + 1 } } := .of_agenda rfl
  apply Action.Concludes.of_eq (Action.modify_bind _ _ store)
  refine .bind ((storeEach_report listed _ _).mono (fun _ _ => id) ?_) ?_
  · intro after ended
    obtain ⟨stored, tells⟩ := ended
    exact ⟨stored, begun.trans tells⟩
  · intro told last ended
    obtain ⟨stored, failed, shared, rfl, tells⟩ := ended
    exact ⟨rfl, shared, last, begun.trans tells, rfl⟩

/-! ## The other calls -/

/-- Restoring leaves the agenda, and tells of nothing stored. -/
theorem restore_tells (store : Store δ) (segment : Segment) :
    (restore segment : Action (Store δ) ε LoadOutcome).Reaches store (Tells [] store) := by
  have leaves : Action.Leaves agenda (loadSegment segment : Action (Store δ) LossReason Bytes) := by
    refine .bind .get fun store => ?_
    split
    · exact .throw _
    · refine .bind (fun _ => rfl) fun inTransaction => ?_
      split
      · exact .throw _
      · refine .bind (.mapError fun _ => rfl) fun handle => .bind .get fun asked => ?_
        refine .bind (fun _ => rfl) fun payload => ?_
        split
        · exact .throw _
        · refine .bind (fun state => ?_) fun _ => .pure _
          exact agenda_setLive state segment _
  refine .bind (.attempt (.of_agenda (leaves store))) fun result last _ tells => ?_
  cases result with
  | ok payload =>
      exact tells.trans (tells_note rfl last _)
  | error reason =>
      exact tells.trans (tells_note rfl last _)

/-- Erasing a segment takes it off the agenda, if it succeeds. -/
theorem eraseSegment_tells (store : Store δ) (segment : Segment) :
    (eraseSegment segment).Concludes store
      (fun _ after => after.agenda =
        { store.agenda with dirty := store.dirty.set segment false })
      (fun after => after.agenda = store.agenda) := by
  have erases : (onDriver (SegmentDriver.eraseSegment segment)).Reaches store
      fun after => after.agenda = store.agenda := rfl
  refine .bind (.of_reaches erases fun _ _ _ => trivial) fun _ last ended => ?_
  obtain ⟨same, -⟩ := ended
  show agenda { last with dirty := _, stats := _ } = _
  rw [← same]
  have dirty : last.dirty = store.dirty := congrArg Agenda.dirty same
  rw [← dirty]
  rfl

end Store

end NorStore
