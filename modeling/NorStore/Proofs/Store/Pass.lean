/-
# What happens in a commit pass

A commit pass tries every segment that changed, in order, and goes on after a failure. The
relation `Pass` is the trace of such a pass: it says of each segment whether it was clean,
was stored, could not be stored, or is not registered. Every pass has a trace, and what a
pass leaves in the ranges of the segments is read off the trace by induction.
-/

import NorStore.Proofs.Store.Storing

namespace NorStore.Store

open NorStore.Flash (BlockDevice ChipView NorDevice)
open NorStore.Flash.ChipView (cells)

variable {δ ε : Type} [BlockDevice δ] [NorDevice δ] {store after : Store δ}
  {segment other : Segment} {entry range : MapEntry} {registration : Registration}
  {driver : SegmentDriver δ}

theorem Written.moves {payload : Bytes} (written : Written store entry registration payload driver)
    (segment : Segment) (bytes millis : Nat) :
    Moves store (((store.atop driver).noteStored segment bytes).advanceClock millis) :=
  .of_advances written.advances rfl rfl

theorem NotWritten.moves (missed : NotWritten store segment entry registration driver)
    (cause : StoreError) : Moves store ((store.atop driver).noteStoreFailed segment cause) :=
  .of_advances missed.advances rfl rfl

theorem moves_noteStoreFailed (store : Store δ) (segment : Segment) (cause : StoreError) :
    Moves store (store.noteStoreFailed segment cause) :=
  .of_driver rfl rfl rfl

/-! ## The trace of a pass -/

/-- What a pass over some segments does: which of them it stores, which of them it fails to
store, and the store that it leaves. -/
inductive Pass : Store δ → List Segment → List Segment → List Segment → Store δ → Prop
  | done (store : Store δ) : Pass store [] [] [] store
  | clean {store after : Store δ} {segment : Segment} {listed stored failed : List Segment}
      (isClean : store.isDirty segment = false) (rest : Pass store listed stored failed after) :
      Pass store (segment :: listed) stored failed after
  | stored {store after : Store δ} {segment : Segment} {listed stored failed : List Segment}
      {entry : MapEntry} {registration : Registration} {driver : SegmentDriver δ} {payload : Bytes}
      {bytes millis : Nat} (isDirty : store.isDirty segment = true)
      (home : store.Home segment entry)
      (registered : store.registrations.get segment = some registration)
      (written : Written store entry registration payload driver)
      (rest : Pass (((store.atop driver).noteStored segment bytes).advanceClock millis) listed
        stored failed after) :
      Pass store (segment :: listed) (segment :: stored) failed after
  | failed {store after : Store δ} {segment : Segment} {listed stored failed : List Segment}
      {entry : MapEntry} {registration : Registration} {driver : SegmentDriver δ}
      {cause : StoreError} (isDirty : store.isDirty segment = true)
      (home : store.Home segment entry)
      (registered : store.registrations.get segment = some registration)
      (missed : NotWritten store segment entry registration driver)
      (rest : Pass ((store.atop driver).noteStoreFailed segment cause) listed stored failed after) :
      Pass store (segment :: listed) stored (segment :: failed) after
  | unregistered {store after : Store δ} {segment : Segment} {listed stored failed : List Segment}
      {cause : StoreError} (isDirty : store.isDirty segment = true)
      (unknown : store.registrations.get segment = none)
      (rest : Pass (store.noteStoreFailed segment cause) listed stored failed after) :
      Pass store (segment :: listed) stored (segment :: failed) after

/-- The segments of a list that are dirty and registered are at home. -/
def PlacedEach (store : Store δ) (listed : List Segment) : Prop :=
  ∀ segment ∈ listed, store.isDirty segment = true → ∀ registration,
    store.registrations.get segment = some registration →
      ∃ entry, store.Home segment entry ∧ store.driver.Allotted segment entry

/-- Being at home outlives a step of a pass, which makes no segment dirty. -/
theorem PlacedEach.of_moves {listed : List Segment} (places : store.PlacedEach (segment :: listed))
    (moves : Moves store after)
    (cleans : ∀ other, after.isDirty other = true → store.isDirty other = true) :
    after.PlacedEach listed := by
  intro other member isDirty registration registered
  rw [moves.registrations] at registered
  obtain ⟨entry, home, allotted⟩ :=
    places other (.tail _ member) (cleans other isDirty) registration registered
  exact ⟨entry, moves.home home, moves.allotted other entry allotted⟩

omit [BlockDevice δ] [NorDevice δ] in
theorem isDirty_noteStored (store : Store δ) (segment : Segment) (bytes millis : Nat)
    (other : Segment) :
    ((store.noteStored segment bytes).advanceClock millis).isDirty other =
      (store.isDirty other && !decide (other = segment)) := by
  show (store.dirty.set segment false).get other = _
  by_cases same : other = segment
  · subst same
    rw [Segment.Table.get_set_self, decide_eq_true rfl, Bool.not_true, Bool.and_false]
  · rw [Segment.Table.get_set_of_ne _ _ same, decide_eq_false same, Bool.not_false, Bool.and_true]
    rfl

/-- Every pass has a trace, which its report tells, and ends without an error. -/
theorem storeDirty_pass {listed : List Segment} {report : CommitReport}
    (sound : store.driver.Sound) (places : store.PlacedEach listed) :
    ∃ stored failed after, Pass store listed stored failed after ∧
      (storeDirty listed report store : Outcome ε CommitReport × Store δ) =
        (.value { report with
          stored := report.stored ++ stored
          failed := report.failed ++ failed }, after) := by
  induction listed generalizing store report with
  | nil =>
      refine ⟨[], [], store, .done store, ?_⟩
      rw [List.append_nil, List.append_nil]
      rfl
  | cons segment rest ih =>
      cases dirty : store.isDirty segment with
      | false =>
          obtain ⟨stored, failed, after, trace, ends⟩ := @ih store report sound
            (places.of_moves (.refl store) fun _ => id)
          exact ⟨stored, failed, after, .clean dirty trace, (storeDirty_of_clean dirty).trans ends⟩
      | true =>
          cases registered : store.registrations.get segment with
          | none =>
              have fails := storeSegment_of_unregistered registered
              have moves := moves_noteStoreFailed store segment (.unregistered segment)
              obtain ⟨stored, failed, after, trace, ends⟩ := @ih
                (store.noteStoreFailed segment (.unregistered segment))
                { report with failed := report.failed ++ [segment] } (moves.sound sound)
                (places.of_moves moves fun _ => id)
              refine ⟨stored, segment :: failed, after, .unregistered dirty registered trace, ?_⟩
              refine (storeDirty_of_failed dirty fails).trans (ends.trans ?_)
              exact congrArg (fun failed => (Outcome.value { report with
                stored := report.stored ++ stored, failed }, after)) (List.append_assoc ..)
          | some registration =>
              obtain ⟨entry, home, allotted⟩ :=
                places segment List.mem_cons_self dirty registration registered
              have gives := allotted.gives sound.honest
              rcases (storeSegment_ends sound gives (home.room registered) registered).cases with
                ⟨_, next, stores, driver, payload, written, rfl⟩ |
                ⟨cause, next, fails, driver, missed, rfl⟩
              · have moves := written.moves segment (Header.size + payload.length)
                  store.config.yieldMillis
                have cleans : ∀ other, (((store.atop driver).noteStored segment
                    (Header.size + payload.length)).advanceClock store.config.yieldMillis).isDirty
                      other = true → store.isDirty other = true := by
                  intro other still
                  rw [isDirty_noteStored, Bool.and_eq_true] at still
                  exact still.1
                obtain ⟨stored, failed, after, trace, ends⟩ := @ih _
                  { report with stored := report.stored ++ [segment] }
                  (moves.sound sound) (places.of_moves moves cleans)
                refine ⟨segment :: stored, failed, after,
                  .stored dirty home registered written trace, ?_⟩
                refine (storeDirty_of_stored dirty stores).trans (ends.trans ?_)
                exact congrArg (fun stored => (Outcome.value { report with
                  stored, failed := report.failed ++ failed }, after)) (List.append_assoc ..)
              · have moves := missed.moves cause
                obtain ⟨stored, failed, after, trace, ends⟩ := @ih _
                  { report with failed := report.failed ++ [segment] }
                  (moves.sound sound) (places.of_moves moves fun _ => id)
                refine ⟨stored, segment :: failed, after,
                  .failed dirty home registered missed trace, ?_⟩
                refine (storeDirty_of_failed dirty fails).trans (ends.trans ?_)
                exact congrArg (fun failed => (Outcome.value { report with
                  stored := report.stored ++ stored, failed }, after)) (List.append_assoc ..)

/-- The store when a pass begins. -/
def begun (store : Store δ) : Store δ :=
  { store with stats := { store.stats with commitPasses := store.stats.commitPasses + 1 } }

/-- The store when a pass has ended. -/
def ended (store : Store δ) : Store δ := { store with windowStart := none }

/-- A check that commits makes a pass over all segments. -/
theorem commitCheck_pass (sound : store.driver.Sound) (places : store.PlacedEach Segment.all)
    (due : store.isCommitDue = true) :
    ∃ stored failed after, Pass store.begun Segment.all stored failed after ∧
      (commitCheck store : Outcome ε CommitReport × Store δ) =
        (.value { performed := true, stored, failed }, after.ended) := by
  obtain ⟨stored, failed, after, trace, ends⟩ :=
    @storeDirty_pass δ ε _ _ store.begun Segment.all { performed := true } sound places
  refine ⟨stored, failed, after, trace, ?_⟩
  rw [commitCheck, Action.get_bind, if_pos due, Action.modify_bind]
  exact Action.bind_of_value ends _

/-! ## What a trace tells -/

namespace Pass

variable {listed stored failed : List Segment}

theorem moves (trace : Pass store listed stored failed after) : Moves store after := by
  induction trace with
  | done store => exact .refl store
  | clean _ _ ih => exact ih
  | stored _ _ _ written _ ih => exact (written.moves _ _ _).trans ih
  | failed _ _ _ missed _ ih => exact (missed.moves _).trans ih
  | unregistered _ _ _ ih => exact (moves_noteStoreFailed _ _ _).trans ih

/-- Only what is listed is tried. -/
theorem mem_listed (trace : Pass store listed stored failed after)
    (tried : segment ∈ stored ∨ segment ∈ failed) : segment ∈ listed := by
  induction trace with
  | done store => simp at tried
  | clean _ _ ih => exact .tail _ (ih tried)
  | stored _ _ _ _ _ ih =>
      rw [List.mem_cons, or_assoc] at tried
      exact List.mem_cons.2 (tried.imp_right ih)
  | failed _ _ _ _ _ ih =>
      rw [List.mem_cons, or_left_comm] at tried
      exact List.mem_cons.2 (tried.imp_right ih)
  | unregistered _ _ _ ih =>
      rw [List.mem_cons, or_left_comm] at tried
      exact List.mem_cons.2 (tried.imp_right ih)

/-- A segment is still dirty afterwards if it was dirty and was not stored. -/
theorem isDirty_after (trace : Pass store listed stored failed after) (segment : Segment) :
    after.isDirty segment = (store.isDirty segment && !decide (segment ∈ stored)) := by
  induction trace with
  | done store => simp
  | clean _ _ ih => exact ih
  | stored _ _ _ _ _ ih =>
      rw [ih, isDirty_noteStored, Bool.and_assoc]
      simp
      rfl
  | failed _ _ _ _ _ ih => exact ih
  | unregistered _ _ _ ih => exact ih

/-- The home of a segment that is not tried keeps its bytes. -/
theorem contents_of_not_tried (trace : Pass store listed stored failed after)
    (home : store.Home segment entry) (notStored : segment ∉ stored)
    (notFailed : segment ∉ failed) : after.driver.contents entry = store.driver.contents entry := by
  induction trace with
  | done store => rfl
  | clean _ _ ih => exact ih home notStored notFailed
  | stored _ tried _ written _ ih =>
      rw [List.mem_cons, not_or] at notStored
      rw [ih ((written.moves _ _ _).home home) notStored.2 notFailed]
      exact tried.contents_of_ne written.advances home notStored.1
  | failed _ tried _ missed _ ih =>
      rw [List.mem_cons, not_or] at notFailed
      rw [ih ((missed.moves _).home home) notStored notFailed.2]
      exact tried.contents_of_ne missed.advances home notFailed.1
  | unregistered _ _ _ ih => exact ih home notStored (fun later => notFailed (.tail _ later))

theorem contents_of_not_listed (trace : Pass store listed stored failed after)
    (home : store.Home segment entry) (unlisted : segment ∉ listed) :
    after.driver.contents entry = store.driver.contents entry :=
  trace.contents_of_not_tried home (fun member => unlisted (trace.mem_listed (.inl member)))
    fun member => unlisted (trace.mem_listed (.inr member))

/-- Without power, nothing is stored and no cell changes. -/
theorem of_lost (trace : Pass store listed stored failed after)
    (lost : ChipView.Lost store.device) :
    stored = [] ∧ cells after.device = cells store.device := by
  induction trace with
  | done store => exact ⟨rfl, rfl⟩
  | clean _ _ ih => exact ih lost
  | stored _ _ _ written _ _ => exact absurd lost written.powered
  | failed _ _ _ missed _ ih =>
      obtain ⟨none, same⟩ := ih (missed.advances.keeps.lost lost)
      exact ⟨none, same.trans (missed.advances.dead lost)⟩
  | unregistered _ _ _ ih => exact ih lost

/-- A stored segment carries the payload of its live bytes. -/
theorem carries (trace : Pass store listed stored failed after) (once : listed.Nodup)
    (member : segment ∈ stored) (home : store.Home segment entry)
    (registered : store.registrations.get segment = some registration) :
    ∃ payload, registration.codec.serialize registration.live = .ok payload ∧
      payload.length ≤ registration.codec.maxSize ∧
      Carries store.config.appSignature registration.codec.span payload
        (after.driver.contents entry) := by
  induction trace with
  | done store => exact nomatch member
  | clean _ _ ih => exact ih once.of_cons member home registered
  | @stored _ _ tried _ _ _ range _ _ payload _ _ _ found known written rest ih =>
      rw [List.mem_cons] at member
      rcases member with rfl | later
      · have same := SegmentDriver.Placed.unique home found
        subst same
        have again : registration = _ := Option.some.inj (registered.symm.trans known)
        subst again
        refine ⟨payload, written.serialized, written.fits, ?_⟩
        rw [rest.contents_of_not_listed ((written.moves _ _ _).home home)
          (List.nodup_cons.1 once).1]
        exact written.carries
      · exact ih once.of_cons later ((written.moves _ _ _).home home) registered
  | failed _ _ _ missed _ ih =>
      exact ih once.of_cons member ((missed.moves _).home home) registered
  | unregistered _ _ _ ih => exact ih once.of_cons member home registered

/-- A segment that could not be stored keeps its bytes, or is not committed. -/
theorem kept (trace : Pass store listed stored failed after) (once : listed.Nodup)
    (member : segment ∈ failed) (home : store.Home segment entry) :
    after.driver.contents entry = store.driver.contents entry ∨
      ¬ Committed (after.driver.contents entry) := by
  induction trace with
  | done store => exact nomatch member
  | clean _ _ ih => exact ih once.of_cons member home
  | @stored _ _ tried _ _ _ _ _ _ _ _ _ _ found _ written rest ih =>
      have other : segment ≠ tried := by
        rintro rfl
        exact (List.nodup_cons.1 once).1 (rest.mem_listed (.inr member))
      rw [← found.contents_of_ne written.advances home other]
      exact ih once.of_cons member ((written.moves _ _ _).home home)
  | @failed _ _ tried _ _ _ _ _ _ _ _ found _ missed rest ih =>
      rw [List.mem_cons] at member
      rcases member with rfl | later
      · have same := SegmentDriver.Placed.unique home found
        subst same
        rw [rest.contents_of_not_listed ((missed.moves _).home home)
          (List.nodup_cons.1 once).1]
        exact missed.kept.imp_left fun same => missed.advances.contents_of_cells same _
      · have other : segment ≠ tried := by
          rintro rfl
          exact (List.nodup_cons.1 once).1 (rest.mem_listed (.inr later))
        rw [← found.contents_of_ne missed.advances home other]
        exact ih once.of_cons later ((missed.moves _).home home)
  | unregistered _ unknown rest ih =>
      rw [List.mem_cons] at member
      rcases member with rfl | later
      · exact .inl (rest.contents_of_not_listed home (List.nodup_cons.1 once).1)
      · exact ih once.of_cons later home

end Pass

end NorStore.Store
