/-
# Changes that wait

A change that has been marked waits for a commit: the guard band runs for it, whatever happened to
the other segments. Only a pass ends the guard band, and a pass tries every segment that is dirty
when it begins, so nothing that was marked is passed over. A segment that is dirty and waits for
nothing is one that was tried since it was marked, and could not be stored. It is dirty until it is
stored or erased itself.
-/

import NorStore.Proofs.Store.Forcing

namespace NorStore

open NorStore.Flash (BlockDevice Faulty MemoryFlash)

/-- What happened to a segment. -/
inductive Incident where
  | marked (segment : Segment)
  | stored (segment : Segment)
  /-- The segment was to be stored, and could not be. -/
  | failed (segment : Segment)
  | erased (segment : Segment)
deriving DecidableEq, Repr

namespace Incident

/-- The segment that something happened to. -/
def subject : Incident → Segment
  | marked segment => segment
  | stored segment => segment
  | failed segment => segment
  | erased segment => segment

/-- What happened to a segment last. The latest incident comes first. -/
def latest? (segment : Segment) (incidents : List Incident) : Option Incident :=
  incidents.find? (·.subject = segment)

/-- Whether the segment of an incident is dirty after it. -/
def leavesDirty (before : Bool) : Incident → Bool
  | marked _ => true
  | stored _ => false
  | failed _ => before
  | erased _ => false

/-- Whether a segment is dirty after some incidents, by whether it was dirty before. -/
def dirtyAfter (segment : Segment) (before : Bool) : List Incident → Bool
  | [] => before
  | incident :: earlier =>
    if incident.subject = segment then incident.leavesDirty (dirtyAfter segment before earlier)
    else dirtyAfter segment before earlier

theorem latest?_append (segment : Segment) (later earlier : List Incident) :
    latest? segment (later ++ earlier) = (latest? segment later).or (latest? segment earlier) :=
  List.find?_append

theorem dirtyAfter_append (segment : Segment) (before : Bool) (later earlier : List Incident) :
    dirtyAfter segment before (later ++ earlier) =
      dirtyAfter segment (dirtyAfter segment before earlier) later := by
  induction later with
  | nil => rfl
  | cons incident rest ih => rw [List.cons_append, dirtyAfter, dirtyAfter, ih]

theorem mem_of_latest {segment : Segment} {incidents : List Incident} {incident : Incident}
    (latest : latest? segment incidents = some incident) : incident ∈ incidents :=
  List.mem_of_find?_eq_some latest

section Map

variable {does : Segment → Incident} (does_subject : ∀ other, (does other).subject = other)

include does_subject

/-- The same has happened to each segment of a list. -/
theorem latest?_map (segment : Segment) (listed : List Segment) :
    latest? segment (listed.map does) = if segment ∈ listed then some (does segment) else none := by
  induction listed with
  | nil => rfl
  | cons other rest ih =>
      rw [List.map_cons, latest?, List.find?_cons, does_subject]
      by_cases same : other = segment
      · simp [same]
      · rw [decide_eq_false same]
        simp only [List.mem_cons, Ne.symm same, false_or]
        exact ih

theorem dirtyAfter_map (segment : Segment) (before : Bool) (listed : List Segment) :
    dirtyAfter segment before (listed.map does) =
      if segment ∈ listed then (does segment).leavesDirty before else before := by
  induction listed with
  | nil => rfl
  | cons other rest ih =>
      rw [List.map_cons, dirtyAfter, does_subject, ih]
      by_cases same : other = segment
      · -- The same once more makes no difference.
        subst same
        cases does other <;> simp [leavesDirty]
      · simp [same, Ne.symm same]

end Map

/-- An incident that settles whether its segment is dirty settles nothing else. -/
theorem get_set_eq_dirtyAfter (incident : Incident) (flag : Bool)
    (leaves : ∀ before, incident.leavesDirty before = flag) (dirty : Segment.Table Bool)
    (other : Segment) :
    (dirty.set incident.subject flag).get other =
      dirtyAfter other (dirty.get other) [incident] := by
  rw [dirtyAfter, leaves]
  by_cases same : incident.subject = other
  · rw [if_pos same, same, Segment.Table.get_set_self]
  · rw [if_neg same, Segment.Table.get_set_of_ne _ _ (Ne.symm same), dirtyAfter]

/-! ## What the incidents tell -/

variable {segment : Segment} {incidents : List Incident}

theorem dirtyAfter_of_latest_marked (latest : latest? segment incidents = some (.marked segment)) :
    dirtyAfter segment before incidents = true := by
  induction incidents with
  | nil => cases latest
  | cons incident earlier ih =>
      rw [latest?, List.find?_cons] at latest
      rw [dirtyAfter]
      split
      · rename_i same
        rw [decide_eq_true same] at latest
        cases latest
        rfl
      · rename_i other
        rw [decide_eq_false other] at latest
        exact ih latest

/-- A segment that is dirty was marked, and since then it was at most tried in vain. -/
theorem marked_of_dirtyAfter (unclean : dirtyAfter segment false incidents = true) :
    .marked segment ∈ incidents ∧ (latest? segment incidents = some (.marked segment) ∨
      latest? segment incidents = some (.failed segment)) := by
  induction incidents with
  | nil => cases unclean
  | cons incident earlier ih =>
      rw [dirtyAfter] at unclean
      rw [latest?, List.find?_cons]
      split at unclean
      · rename_i same
        rw [decide_eq_true same]
        subst same
        cases incident with
        | marked => exact ⟨List.mem_cons_self, .inl rfl⟩
        | failed => exact ⟨.tail _ (ih unclean).1, .inr rfl⟩
        | stored => cases unclean
        | erased => cases unclean
      · rename_i other
        rw [decide_eq_false other]
        exact (ih unclean).imp_left (.tail _)

/-- A segment that is no longer dirty was stored or erased. -/
theorem settled_of_dirtyAfter (clean : dirtyAfter segment true incidents = false) :
    .stored segment ∈ incidents ∨ .erased segment ∈ incidents := by
  induction incidents with
  | nil => cases clean
  | cons incident earlier ih =>
      rw [dirtyAfter] at clean
      split at clean
      · rename_i same
        subst same
        cases incident with
        | marked => cases clean
        | failed => exact (ih clean).imp (.tail _) (.tail _)
        | stored => exact .inl List.mem_cons_self
        | erased => exact .inr List.mem_cons_self
      · exact (ih clean).imp (.tail _) (.tail _)

end Incident

open Incident

namespace Store

variable {δ : Type} {store after last : Store δ} {stored failed : List Segment}

/-! ## What a call does -/

/-- What a call did to the segments tells which of them are dirty after it. A mark is followed by a
guard band, and a guard band that is over has had every dirty segment tried. -/
structure Does (incidents : List Incident) (before after : Store δ) : Prop where
  isDirty : ∀ segment, after.isDirty segment = dirtyAfter segment (before.isDirty segment) incidents
  begins : ∀ segment, .marked segment ∈ incidents → after.windowStart.isSome = true
  ends : before.windowStart.isSome = true → after.windowStart.isSome = true ∨
    ∀ segment, before.isDirty segment = true → latest? segment incidents ≠ none

namespace Does

theorem of_same (dirty : after.dirty = store.dirty)
    (windowStart : after.windowStart = store.windowStart) : Does [] store after where
  isDirty segment := congrArg (·.get segment) dirty
  begins _ marked := nomatch marked
  ends runs := .inl (windowStart ▸ runs)

theorem of_agenda (same : after.agenda = store.agenda) : Does [] store after :=
  of_same (congrArg Agenda.dirty same) (congrArg Agenda.windowStart same)

theorem markDirty (store : Store δ) (segment : Segment) :
    Does [.marked segment] store (store.markDirty segment) where
  isDirty := get_set_eq_dirtyAfter (.marked segment) true (fun _ => rfl) store.dirty
  begins _ _ := rfl
  ends _ := .inl rfl

/-- Storing some segments, and failing to store others, leaves the guard band. -/
theorem of_tells (tells : Tells stored store after) (failed : List Segment) :
    Does (stored.map .stored ++ failed.map .failed) store after where
  isDirty segment := by
    rw [dirtyAfter_append, dirtyAfter_map fun _ => rfl, dirtyAfter_map fun _ => rfl, tells.isDirty]
    by_cases member : segment ∈ stored <;> simp [member, leavesDirty]
  begins segment marked := by simp at marked
  ends runs := .inl (tells.windowStart ▸ runs)

theorem of_erased {segment : Segment}
    (erased : after.agenda = { store.agenda with dirty := store.dirty.set segment false }) :
    Does [.erased segment] store after := by
  simp only [agenda, Agenda.mk.injEq] at erased
  obtain ⟨dirty, windowStart, -⟩ := erased
  refine ⟨fun other => ?_, fun _ marked => by simp at marked, fun runs => .inl (windowStart ▸ runs)⟩
  rw [Store.isDirty, dirty]
  exact get_set_eq_dirtyAfter (.erased segment) false (fun _ => rfl) store.dirty other

/-- A pass ends the guard band, after it has tried every dirty segment. -/
theorem of_pass (shared : SharedOut store.dirtySegments stored failed)
    (tells : Tells stored store last)
    (closed : after.agenda = { last.agenda with windowStart := none }) :
    Does (stored.map .stored ++ failed.map .failed) store after := by
  simp only [agenda, Agenda.mk.injEq] at closed
  obtain ⟨dirty, -⟩ := closed
  have does := of_tells tells failed
  refine ⟨fun segment => ?_, fun _ marked => by simp at marked, fun _ => .inr ?_⟩
  · rw [Store.isDirty, dirty]
    exact does.isDirty segment
  · intro segment unclean
    have listed : segment ∈ stored ++ failed :=
      shared.everyone.mem_iff.2 (List.mem_filter.2 ⟨Segment.mem_all segment, unclean⟩)
    rw [latest?_append, latest?_map fun _ => rfl, latest?_map fun _ => rfl]
    rcases List.mem_append.1 listed with isStored | hasFailed
    · simp [isStored]
    · by_cases isStored : segment ∈ stored <;> simp [isStored, hasFailed]

end Does

/-- What happened to a segment tells whether it is dirty, and if it was marked last, then the guard
band runs. -/
structure Recalls (segment : Segment) (incidents : List Incident) (store : Store δ) : Prop where
  isDirty : store.isDirty segment = dirtyAfter segment false incidents
  waits : latest? segment incidents = some (.marked segment) → store.windowStart.isSome = true

namespace Recalls

variable {segment : Segment} {incidents later : List Incident}

theorem start (device : δ) (config : Config) (clock : Clock) (segment : Segment) :
    Recalls segment [] (Store.start device config clock) where
  isDirty := Segment.Table.get_replicate false segment
  waits latest := nomatch latest

/-- What a call does is recalled after it. -/
theorem does (recalls : Recalls segment incidents store) (does : Does later store after) :
    Recalls segment (later ++ incidents) after where
  isDirty := by rw [dirtyAfter_append, does.isDirty, recalls.isDirty]
  waits latest := by
    rw [latest?_append] at latest
    cases now : latest? segment later with
    | some incident =>
        rw [now] at latest
        cases latest
        exact does.begins segment (mem_of_latest now)
    | none =>
        rw [now, Option.none_or] at latest
        have unclean : store.isDirty segment = true :=
          recalls.isDirty.trans (dirtyAfter_of_latest_marked latest)
        rcases does.ends (recalls.waits latest) with runs | tried
        · exact runs
        · exact absurd now (tried segment unclean)

/-- A segment that was marked last waits for a commit. -/
theorem commitPending (recalls : Recalls segment incidents store)
    (latest : latest? segment incidents = some (.marked segment)) :
    store.segmentState segment = .commitPending := by
  have unclean : store.isDirty segment = true :=
    recalls.isDirty.trans (dirtyAfter_of_latest_marked latest)
  simp [segmentState, unclean, isCommitScheduled, recalls.waits latest]

/-- A dirty segment that waits for nothing was marked, and has been tried in vain since. -/
theorem failed_of_dirty (recalls : Recalls segment incidents store)
    (state : store.segmentState segment = .dirty) :
    .marked segment ∈ incidents ∧ latest? segment incidents = some (.failed segment) := by
  have unclean : store.isDirty segment = true := by
    rw [segmentState] at state
    split at state
    · assumption
    · contradiction
  obtain ⟨marked, latest | latest⟩ := marked_of_dirtyAfter (recalls.isDirty.symm.trans unclean)
  · rw [recalls.commitPending latest] at state
    contradiction
  · exact ⟨marked, latest⟩

end Recalls

end Store

namespace Schedule

variable {δ : Type} [BlockDevice δ]

/-- What a call does to the segments, as its result tells, the latest first. A check that ends in a
trap reports nothing, but the store has told which segments it stored before the trap. -/
def incidents (schedule : Schedule δ) : Occurrence δ → List Incident
  | .markDirty segment => [.marked segment]
  | .commitCheck =>
    match (Store.commitCheck schedule.store : Outcome StoreError CommitReport × _) with
    | (.value report, _) => report.stored.map .stored ++ report.failed.map .failed
    | (_, after) => (schedule.store.storedSince after).map .stored
  | .store segment =>
    match Store.storeSegment segment schedule.store with
    | (.value (), _) => [.stored segment]
    | (.error _, _) => [.failed segment]
    | (.trap, _) => []
  | .erase segment =>
    match Store.eraseSegment segment schedule.store with
    | (.value (), _) => [.erased segment]
    | _ => []
  | _ => []

/-- What the calls of a run do to the segments, the latest first. -/
def incidentsOfRun (schedule : Schedule δ) : List (Occurrence δ) → List Incident
  | [] => []
  | occurrence :: rest =>
    (schedule.step occurrence).incidentsOfRun rest ++ schedule.incidents occurrence

theorem does_commitCheck (schedule : Schedule δ) :
    Store.Does (schedule.incidents .commitCheck) schedule.store
      (schedule.step .commitCheck).store := by
  cases due : schedule.store.isCommitDue with
  | false =>
      rw [Schedule.step, Schedule.incidents, Store.commitCheck_of_not_due due]
      exact .of_agenda rfl
  | true =>
      have concludes := Store.passOver_report (ε := StoreError) schedule.store.dirtySegments
        schedule.store
      rw [Action.Concludes] at concludes
      rw [Schedule.step, Schedule.incidents, Store.commitCheck_of_due due]
      rcases ended : Store.passOver (ε := StoreError) schedule.store.dirtySegments schedule.store
        with ⟨report | cause | _, after⟩
      · rw [ended] at concludes
        obtain ⟨performed, shared, last, tells, closed⟩ := concludes
        dsimp only
        rw [if_pos performed]
        exact .of_pass shared tells closed
      · rw [ended] at concludes
        obtain ⟨stored, tells⟩ := concludes
        simpa using Store.Does.of_tells (tells.storedSince ▸ tells) []
      · rw [ended] at concludes
        obtain ⟨stored, tells⟩ := concludes
        simpa using Store.Does.of_tells (tells.storedSince ▸ tells) []

/-- Every call does what its result tells. -/
theorem does_step (schedule : Schedule δ) (occurrence : Occurrence δ) :
    Store.Does (schedule.incidents occurrence) schedule.store (schedule.step occurrence).store := by
  cases occurrence with
  | register segment codec live => exact .of_agenda rfl
  | setLive segment live => exact .of_agenda (Store.agenda_setLive ..)
  | markDirty segment => exact .markDirty schedule.store segment
  | advanceClock millis => exact .of_agenda rfl
  | setClock millis => exact .of_agenda rfl
  | forceCommit =>
      rw [Schedule.step, Store.forceCommit_eq]
      cases schedule.store.dirtySegments.isEmpty <;> exact .of_same rfl rfl
  | commitCheck => exact schedule.does_commitCheck
  | store segment =>
      have concludes := Store.storeSegment_tells schedule.store segment
      rw [Action.Concludes] at concludes
      rw [Schedule.step, Schedule.incidents]
      rcases ended : Store.storeSegment segment schedule.store with ⟨_ | cause | _, after⟩
      · rw [ended] at concludes
        exact .of_tells concludes []
      · rw [ended] at concludes
        exact .of_tells concludes [segment]
      · rw [ended] at concludes
        exact .of_tells concludes []
  | restore segment => exact .of_tells (Store.restore_tells schedule.store segment) []
  | erase segment =>
      have concludes := Store.eraseSegment_tells schedule.store segment
      rw [Action.Concludes] at concludes
      rw [Schedule.step, Schedule.incidents]
      rcases ended : Store.eraseSegment segment schedule.store with ⟨_ | cause | _, after⟩
      · rw [ended] at concludes
        exact .of_erased concludes
      · rw [ended] at concludes
        exact .of_agenda concludes
      · rw [ended] at concludes
        exact .of_agenda concludes
  | setGuardBand millis => exact .of_same rfl rfl
  | disturb change => exact .of_agenda rfl

theorem recalls_run {segment : Segment} {earlier : List Incident} (schedule : Schedule δ)
    (recalls : Store.Recalls segment earlier schedule.store) (occurrences : List (Occurrence δ)) :
    Store.Recalls segment (schedule.incidentsOfRun occurrences ++ earlier)
      (schedule.run occurrences).store := by
  induction occurrences generalizing schedule earlier with
  | nil => exact recalls
  | cons occurrence rest ih =>
      rw [incidentsOfRun, List.append_assoc]
      exact ih _ (recalls.does (schedule.does_step occurrence))

/-- After every run from a new store, a segment that was marked after it was last stored, tried or
erased waits for a commit. A segment is dirty without waiting only if it was marked and the latest
attempt to store it, which came after that, has failed. And no call makes a dirty segment clean but
one that stores or erases that segment. -/
theorem commitPending_of_marked (device : δ) (config : Config) (clock : Clock)
    (occurrences : List (Occurrence δ)) (segment : Segment) :
    let schedule := (start device config clock).run occurrences
    let incidents := (start device config clock).incidentsOfRun occurrences
    (latest? segment incidents = some (.marked segment) →
        schedule.store.segmentState segment = .commitPending) ∧
      (schedule.store.segmentState segment = .dirty →
        .marked segment ∈ incidents ∧ latest? segment incidents = some (.failed segment)) ∧
      ∀ next, schedule.store.isDirty segment = true →
        (schedule.step next).store.isDirty segment = false →
        .stored segment ∈ schedule.incidents next ∨ .erased segment ∈ schedule.incidents next := by
  intro schedule incidents
  have recalls : Store.Recalls segment incidents schedule.store := by
    rw [← List.append_nil incidents]
    exact recalls_run (start device config clock) (.start device config clock segment) occurrences
  refine ⟨recalls.commitPending, recalls.failed_of_dirty, fun next unclean clean => ?_⟩
  rw [(schedule.does_step next).isDirty, unclean] at clean
  exact settled_of_dirtyAfter clean

/-! ### A pass that stores one change of two -/

/-- Two segments have changed. One is stored directly, and then the pass cannot store the other,
which ends the guard band all the same. -/
def halfStored : List (Occurrence (Faulty MemoryFlash)) :=
  changed ++ [.markDirty .applicationData, .store .applicationData, .advanceClock 1000,
    faultsSet { failErase := true }, .commitCheck]

/-- The same, and then the segment that was stored changes again. -/
def changedAgain : List (Occurrence (Faulty MemoryFlash)) :=
  halfStored ++ [.markDirty .applicationData]

/-- The segment that could not be stored waits for nothing, and one that is marked next waits. -/
theorem commitPending_of_marked_sample :
    (pairStart.run halfStored).store.segmentState .uniqueId = .dirty ∧
      latest? .uniqueId (pairStart.incidentsOfRun halfStored) = some (.failed .uniqueId) ∧
      latest? .applicationData (pairStart.incidentsOfRun changedAgain) =
        some (.marked .applicationData) ∧
      (pairStart.run changedAgain).store.segmentState .applicationData = .commitPending := by
  have dirty : (pairStart.run halfStored).store.segmentState .uniqueId = .dirty := by
    decide +kernel
  have marked : latest? .applicationData (pairStart.incidentsOfRun changedAgain) =
      some (.marked .applicationData) := by
    decide +kernel
  obtain ⟨-, ofDirty, -⟩ := commitPending_of_marked { device := Store.pairChip } {} {} halfStored
    .uniqueId
  obtain ⟨ofMarked, -⟩ := commitPending_of_marked { device := Store.pairChip } {} {} changedAgain
    .applicationData
  exact ⟨dirty, (ofDirty dirty).2, marked, ofMarked marked⟩

end Schedule

end NorStore
