/-
# When a store commits

The schedule of commits is told by what has happened so far, without looking at the flags in
which the store keeps it. A check makes a pass if the guard band is over since the first mark
after the last pass, or if a commit was forced and nothing has been stored since; the pass
tries the segments that were marked after they were last stored or erased, and no other check
does anything. This holds after every run of calls, whatever the device does in between.
-/

import NorStore.Proofs.Store.Agenda

namespace NorStore

open NorStore.Flash (BlockDevice)

/-- What can happen that matters for the schedule. -/
inductive Happening where
  | marked (segment : Segment) (time : Nat)
  | forced
  | stored (segment : Segment)
  | erased (segment : Segment)
  | passed
  /-- The guard band was set to a length of time. -/
  | guardBand (nanos : Nat)
deriving DecidableEq, Repr

namespace Happening

/-- When a segment was marked. -/
def time? : Happening → Option Nat
  | marked _ time => some time
  | _ => none

/-- The guard band that was set. -/
def guardBand? : Happening → Option Nat
  | guardBand nanos => some nanos
  | _ => none

/-- Whether a segment was stored. -/
def isStored : Happening → Bool
  | stored _ => true
  | _ => false

/-- Whether this segment was marked. -/
def marks (segment : Segment) : Happening → Bool
  | marked other _ => other = segment
  | _ => false

/-- Whether this segment was stored or erased. -/
def settles (segment : Segment) : Happening → Bool
  | stored other => other = segment
  | erased other => other = segment
  | _ => false

/-- What happened since the last time something of a kind happened. The latest happening
comes first. -/
def since (kind : Happening → Bool) (history : List Happening) : List Happening :=
  history.takeWhile (!kind ·)

/-- When the first mark after the last pass was made. -/
def firstMark? (history : List Happening) : Option Nat :=
  ((since (· = passed) history).filterMap time?).getLast?

/-- The guard band that is in force. -/
def guardBandOf (history : List Happening) : Nat := (history.findSome? guardBand?).getD 0

/-- The segments that were marked after they were last stored or erased, in order. -/
def outstanding (history : List Happening) : List Segment :=
  Segment.all.filter fun segment => (since (settles segment) history).any (marks segment)

/-- A check at a time makes a pass if the guard band is over, or if a commit was forced. A
clock that was set back counts as standing still. -/
def Due (now : Nat) (history : List Happening) : Prop :=
  (∃ first, firstMark? history = some first ∧
      guardBandOf history ≤ Duration.ofMillis (now - first)) ∨
    forced ∈ since isStored history

/-! ## One more happening -/

@[simp]
theorem since_cons (kind : Happening → Bool) (latest : Happening) (history : List Happening) :
    since kind (latest :: history) = if kind latest then [] else latest :: since kind history := by
  rw [since, List.takeWhile_cons]
  cases kind latest <;> rfl

/-- What happened since, when nothing of the kind is among the latest happenings. -/
theorem since_append {kind : Happening → Bool} {latest history : List Happening}
    (none : ∀ happening ∈ latest, kind happening = false) :
    since kind (latest ++ history) = latest ++ since kind history :=
  List.takeWhile_append_of_pos fun happening member => by simp [none happening member]

/-- Segments that were stored are not outstanding, and the others are as before. -/
theorem any_since_stored (segment : Segment) (stored : List Segment) (history : List Happening) :
    (since (settles segment) (stored.map .stored ++ history)).any (marks segment) =
      ((since (settles segment) history).any (marks segment) && !decide (segment ∈ stored)) := by
  induction stored with
  | nil => simp
  | cons other rest ih =>
      rw [List.map_cons, List.cons_append, since_cons]
      by_cases same : other = segment
      · simp [settles, same]
      · simp [settles, marks, same, Ne.symm same, ih]

/-- Storing is not marking. -/
theorem firstMark?_stored (stored : List Segment) (history : List Happening) :
    firstMark? (stored.map .stored ++ history) = firstMark? history := by
  have times : (stored.map .stored).filterMap time? = [] := by simp [time?]
  rw [firstMark?, since_append (by simp), List.filterMap_append, times, List.nil_append, firstMark?]

theorem guardBandOf_stored (stored : List Segment) (history : List Happening) :
    guardBandOf (stored.map .stored ++ history) = guardBandOf history := by
  have bands : (stored.map .stored).findSome? guardBand? = none := by simp [guardBand?]
  rw [guardBandOf, List.findSome?_append, bands, Option.none_or, guardBandOf]

end Happening

/-- What can be done with a store on a device that does as it likes. -/
inductive Occurrence (δ : Type) where
  | register (segment : Segment) (codec : Codec) (live : Bytes)
  | setLive (segment : Segment) (live : Bytes)
  | markDirty (segment : Segment)
  | advanceClock (millis : Nat)
  | setClock (millis : Nat)
  | forceCommit
  | commitCheck
  | store (segment : Segment)
  | restore (segment : Segment)
  | erase (segment : Segment)
  | setGuardBand (millis : Nat)
  /-- Something happens to the device, such as a fault. -/
  | disturb (change : δ → δ)

/-- A store, and what has happened to it, the latest first. -/
structure Schedule (δ : Type) where
  store : Store δ
  history : List Happening

namespace Schedule

open Happening

variable {δ ε : Type}

/-- A new store. -/
def start (device : δ) (config : Config) (clock : Clock) : Schedule δ where
  store := .start device config clock
  history := [.guardBand config.guardBand]

/-- The schedule after a call that has stored some segments, in this order. -/
def learn (schedule : Schedule δ) (stored : List Segment) (after : Store δ) : Schedule δ where
  store := after
  history := stored.reverse.map .stored ++ schedule.history

/-- Something else has happened. -/
def note (happening : Happening) (schedule : Schedule δ) : Schedule δ :=
  { schedule with history := happening :: schedule.history }

variable [BlockDevice δ]

/-- The schedule after one call. Of a check that ends in a trap there is no report, but the
store has told which segments it stored before the trap. -/
def step (schedule : Schedule δ) : Occurrence δ → Schedule δ
  | .register segment codec live =>
    { schedule with store := schedule.store.register segment codec live }
  | .setLive segment live => { schedule with store := schedule.store.setLive segment live }
  | .markDirty segment =>
    note (.marked segment schedule.store.clock.now)
      { schedule with store := schedule.store.markDirty segment }
  | .advanceClock millis => { schedule with store := schedule.store.advanceClock millis }
  | .setClock millis => { schedule with store := schedule.store.setClock millis }
  | .forceCommit =>
    match (Store.forceCommit schedule.store : Outcome StoreError Bool × _) with
    | (.value true, after) => note .forced { schedule with store := after }
    | (_, after) => { schedule with store := after }
  | .commitCheck =>
    match (Store.commitCheck schedule.store : Outcome StoreError CommitReport × _) with
    | (.value report, after) =>
      if report.performed then note .passed (schedule.learn report.stored after)
      else schedule.learn report.stored after
    | (_, after) => schedule.learn (schedule.store.storedSince after) after
  | .store segment =>
    match Store.storeSegment segment schedule.store with
    | (.value (), after) => schedule.learn [segment] after
    | (_, after) => { schedule with store := after }
  | .restore segment =>
    { schedule with store :=
      (Store.restore segment schedule.store : Outcome StoreError LoadOutcome × _).2 }
  | .erase segment =>
    match Store.eraseSegment segment schedule.store with
    | (.value (), after) => note (.erased segment) { schedule with store := after }
    | (_, after) => { schedule with store := after }
  | .setGuardBand millis =>
    note (.guardBand (Duration.ofMillis millis))
      { schedule with store := schedule.store.setGuardBandMillis millis }
  | .disturb change =>
    { schedule with store := { schedule.store with
      driver := { schedule.store.driver with device := change schedule.store.driver.device } } }

/-- The schedule after a run. -/
def run (schedule : Schedule δ) (occurrences : List (Occurrence δ)) : Schedule δ :=
  occurrences.foldl step schedule

omit [BlockDevice δ]

/-- The flags of the store say what the history says. -/
structure Agrees (schedule : Schedule δ) : Prop where
  windowStart : schedule.store.windowStart = firstMark? schedule.history
  forced : schedule.store.forced = decide (.forced ∈ since isStored schedule.history)
  isDirty : ∀ segment, schedule.store.isDirty segment =
    (since (settles segment) schedule.history).any (marks segment)
  guardBand : schedule.store.config.guardBand = guardBandOf schedule.history

namespace Agrees

variable {schedule : Schedule δ} {after : Store δ} {stored : List Segment}

theorem start (device : δ) (config : Config) (clock : Clock) :
    (Schedule.start device config clock).Agrees where
  windowStart := rfl
  forced := by simp [Schedule.start, Store.start, isStored, since]
  isDirty segment := by simp [Schedule.start, Store.start, Store.isDirty, settles, marks, since]
  guardBand := rfl

/-- What leaves the agenda leaves the agreement. -/
theorem of_agenda (agrees : schedule.Agrees) (same : after.agenda = schedule.store.agenda) :
    Agrees { schedule with store := after } := by
  simp only [Store.agenda, Store.Agenda.mk.injEq] at same
  obtain ⟨dirty, windowStart, forced, config, -⟩ := same
  refine ⟨windowStart.trans agrees.windowStart, forced.trans agrees.forced, fun segment => ?_,
    config ▸ agrees.guardBand⟩
  rw [Store.isDirty, dirty]
  exact agrees.isDirty segment

/-- What is stored leaves the agenda and is noted. -/
theorem learn (agrees : schedule.Agrees) (tells : Store.Tells stored schedule.store after) :
    (schedule.learn stored after).Agrees := by
  refine ⟨?_, ?_, fun segment => ?_, ?_⟩
  · rw [Schedule.learn, firstMark?_stored, tells.windowStart, agrees.windowStart]
  · rw [Schedule.learn, tells.forced, agrees.forced]
    cases reversed : stored.reverse with
    | nil => simp [List.reverse_eq_nil_iff.1 reversed]
    | cons last rest =>
        have some : stored ≠ [] := by
          rintro rfl
          simp at reversed
        simp [isStored, some]
  · rw [Schedule.learn, any_since_stored, tells.isDirty, agrees.isDirty]
    simp
  · rw [Schedule.learn, guardBandOf_stored, tells.config, agrees.guardBand]

theorem markDirty (agrees : schedule.Agrees) (segment : Segment) :
    Agrees (note (.marked segment schedule.store.clock.now)
      { schedule with store := schedule.store.markDirty segment }) where
  windowStart := by
    simp [note, firstMark?, time?, Store.markDirty, agrees.windowStart, List.getLast?_cons]
  forced := by simp [note, isStored, Store.markDirty, agrees.forced]
  isDirty other := by
    show (schedule.store.dirty.set segment true).get other = _
    by_cases same : other = segment
    · subst same
      simp [note, settles, marks]
    · rw [Segment.Table.get_set_of_ne _ _ same]
      simpa [note, settles, marks, Ne.symm same, Store.isDirty] using agrees.isDirty other
  guardBand := agrees.guardBand

theorem note_forced (agrees : schedule.Agrees) :
    Agrees (note .forced
      { schedule with store := { schedule.store with forced := true } }) where
  windowStart := by simpa [note, firstMark?, time?] using agrees.windowStart
  forced := by simp [note, isStored]
  isDirty segment := by simpa [note, settles, marks, Store.isDirty] using agrees.isDirty segment
  guardBand := agrees.guardBand

theorem note_erased (agrees : schedule.Agrees) {segment : Segment}
    (erased : after.agenda = { schedule.store.agenda with
      dirty := schedule.store.dirty.set segment false }) :
    Agrees (note (.erased segment) { schedule with store := after }) := by
  simp only [Store.agenda, Store.Agenda.mk.injEq] at erased
  obtain ⟨dirty, windowStart, forced, config, -⟩ := erased
  refine ⟨?_, ?_, fun other => ?_, config ▸ agrees.guardBand⟩
  · simpa [note, firstMark?, time?] using windowStart.trans agrees.windowStart
  · simpa [note, isStored] using forced.trans agrees.forced
  · show after.dirty.get other = _
    rw [dirty]
    by_cases same : other = segment
    · subst same
      simp [note, settles]
    · rw [Segment.Table.get_set_of_ne _ _ same]
      simpa [note, settles, marks, Ne.symm same, Store.isDirty] using agrees.isDirty other

/-- A pass that has ended ends the guard band. -/
theorem note_passed (agrees : schedule.Agrees)
    (ended : after.agenda = { schedule.store.agenda with windowStart := none }) :
    Agrees (note .passed { schedule with store := after }) := by
  simp only [Store.agenda, Store.Agenda.mk.injEq] at ended
  obtain ⟨dirty, windowStart, forced, config, -⟩ := ended
  refine ⟨?_, ?_, fun segment => ?_, config ▸ agrees.guardBand⟩
  · simpa [note, firstMark?] using windowStart
  · simpa [note, isStored] using forced.trans agrees.forced
  · simpa [note, settles, marks, Store.isDirty, dirty] using agrees.isDirty segment

theorem setGuardBand (agrees : schedule.Agrees) (millis : Nat) :
    Agrees (note (.guardBand (Duration.ofMillis millis))
      { schedule with store := schedule.store.setGuardBandMillis millis }) where
  windowStart := by
    simpa [note, firstMark?, time?, Store.setGuardBandMillis] using agrees.windowStart
  forced := by simpa [note, isStored, Store.setGuardBandMillis] using agrees.forced
  isDirty segment := by
    simpa [note, settles, marks, Store.setGuardBandMillis, Store.isDirty] using
      agrees.isDirty segment
  guardBand := rfl

/-! ## Checks -/

/-- The store commits when the history says so. -/
theorem isCommitDue_iff (agrees : schedule.Agrees) :
    schedule.store.isCommitDue = true ↔ Due schedule.store.clock.now schedule.history := by
  rw [Store.isCommitDue, Store.guardBandRemaining?, agrees.windowStart, agrees.forced,
    agrees.guardBand, Due]
  cases firstMark? schedule.history with
  | none => simp
  | some first => simp [Nat.sub_eq_zero_iff_le]

/-- The segments that the store takes to have changed are those that the history says have. -/
theorem dirtySegments_eq (agrees : schedule.Agrees) :
    schedule.store.dirtySegments = outstanding schedule.history :=
  List.filter_congr fun segment _ => agrees.isDirty segment

variable [BlockDevice δ]

theorem commitCheck (agrees : schedule.Agrees) : (schedule.step .commitCheck).Agrees := by
  cases due : schedule.store.isCommitDue with
  | false =>
      rw [Schedule.step, Store.commitCheck_of_not_due due]
      exact agrees.learn (.refl schedule.store)
  | true =>
      have concludes := Store.passOver_report (ε := StoreError) schedule.store.dirtySegments
        schedule.store
      rw [Action.Concludes] at concludes
      rw [Schedule.step, Store.commitCheck_of_due due]
      rcases ended : Store.passOver (ε := StoreError) schedule.store.dirtySegments schedule.store
        with ⟨report | cause | _, after⟩
      · rw [ended] at concludes
        obtain ⟨performed, -, last, tells, closed⟩ := concludes
        dsimp only
        rw [if_pos performed]
        exact (agrees.learn tells).note_passed closed
      · rw [ended] at concludes
        obtain ⟨stored, tells⟩ := concludes
        exact agrees.learn (tells.storedSince ▸ tells)
      · rw [ended] at concludes
        obtain ⟨stored, tells⟩ := concludes
        exact agrees.learn (tells.storedSince ▸ tells)

/-- Every call keeps the agreement. -/
theorem step (agrees : schedule.Agrees) (occurrence : Occurrence δ) :
    (schedule.step occurrence).Agrees := by
  cases occurrence with
  | register segment codec live => exact agrees.of_agenda rfl
  | setLive segment live => exact agrees.of_agenda (Store.agenda_setLive ..)
  | markDirty segment => exact agrees.markDirty segment
  | advanceClock millis => exact agrees.of_agenda rfl
  | setClock millis => exact agrees.of_agenda rfl
  | forceCommit =>
      rw [Schedule.step, Store.forceCommit_eq]
      cases schedule.store.dirtySegments.isEmpty with
      | true =>
          refine agrees.of_agenda ?_
          simp [Store.agenda]
      | false =>
          rw [Bool.not_false, Bool.or_true]
          exact agrees.note_forced
  | commitCheck => exact agrees.commitCheck
  | store segment =>
      have concludes := Store.storeSegment_tells schedule.store segment
      rw [Action.Concludes] at concludes
      rw [Schedule.step]
      rcases ended : Store.storeSegment segment schedule.store with ⟨_ | cause | _, after⟩
      · rw [ended] at concludes
        exact agrees.learn concludes
      · rw [ended] at concludes
        exact agrees.learn concludes
      · rw [ended] at concludes
        exact agrees.learn concludes
  | restore segment => exact agrees.learn (Store.restore_tells schedule.store segment)
  | erase segment =>
      have concludes := Store.eraseSegment_tells schedule.store segment
      rw [Action.Concludes] at concludes
      rw [Schedule.step]
      rcases ended : Store.eraseSegment segment schedule.store with ⟨_ | cause | _, after⟩
      · rw [ended] at concludes
        exact agrees.note_erased concludes
      · rw [ended] at concludes
        exact agrees.of_agenda concludes
      · rw [ended] at concludes
        exact agrees.of_agenda concludes
  | setGuardBand millis => exact agrees.setGuardBand millis
  | disturb change => exact agrees.of_agenda rfl

/-- And so does every run. -/
theorem run (agrees : schedule.Agrees) (occurrences : List (Occurrence δ)) :
    (schedule.run occurrences).Agrees := by
  induction occurrences generalizing schedule with
  | nil => exact agrees
  | cons occurrence rest ih => exact ih (agrees.step occurrence)

end Agrees

variable [BlockDevice δ]

/-- After every run from a new store, a check makes a pass exactly if one is due. The pass
tries the outstanding segments, each once and in order, and reports which were stored and
which failed; a check that makes no pass touches neither the device nor the store. -/
theorem commitCheck_of_run (device : δ) (config : Config) (clock : Clock)
    (occurrences : List (Occurrence δ)) :
    let schedule := (start device config clock).run occurrences
    let due := Due schedule.store.clock.now schedule.history
    let checked : Outcome ε CommitReport × Store δ := Store.commitCheck schedule.store
    (due → checked = Store.passOver (outstanding schedule.history) schedule.store) ∧
      (¬ due → checked = (.value {}, schedule.store)) ∧
      ∀ report after, checked = (.value report, after) →
        (report.performed = true ↔ due) ∧
        (due → Store.SharedOut (outstanding schedule.history) report.stored report.failed) := by
  intro schedule due checked
  have agrees : schedule.Agrees := (Agrees.start device config clock).run occurrences
  have passes : due → checked = Store.passOver (outstanding schedule.history) schedule.store := by
    intro isDue
    rw [← agrees.dirtySegments_eq]
    exact Store.commitCheck_of_due (agrees.isCommitDue_iff.2 isDue)
  have rests : ¬ due → checked = (.value {}, schedule.store) := by
    intro early
    exact Store.commitCheck_of_not_due (by simpa using mt agrees.isCommitDue_iff.1 early)
  refine ⟨passes, rests, fun report after ended => ?_⟩
  by_cases isDue : due
  · have concludes := Store.passOver_report (ε := ε) (outstanding schedule.history) schedule.store
    rw [Action.Concludes, ← passes isDue, ended] at concludes
    exact ⟨iff_of_true concludes.1 isDue, fun _ => concludes.2.1⟩
  · rw [rests isDue] at ended
    cases ended
    exact ⟨iff_of_false Bool.false_ne_true isDue, fun again => absurd again isDue⟩

end Schedule

end NorStore
