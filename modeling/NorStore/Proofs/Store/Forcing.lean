/-
# Forced commits

A forced commit is one request of the whole store, and not one of each segment: it lasts until a
segment is stored, whichever that is. As long as nothing has been stored since, a check makes a
pass over every dirty segment, whatever the guard band says; a pass or a store that fails leaves
the request as it is, and so do erasing and restoring. Once something has been stored, the guard
band decides again, and the segments that are still dirty wait for it.
-/

import NorStore.Proofs.Store.Interruption
import NorStore.Proofs.Store.Schedule

namespace NorStore

open NorStore.Flash (BlockDevice Faulty MemoryFlash)

/-- A forced commit lasts while nothing has been stored since a commit was forced. -/
theorem Happening.forced_mem_since_iff {history : List Happening} :
    forced ∈ since isStored history ↔ forced ∈ history ∧
      ∀ happening ∈ since (· = forced) history, happening.isStored = false := by
  induction history with
  | nil => simp [since]
  | cons latest rest ih =>
      rw [since_cons, since_cons]
      cases latest with
      | forced => simp [isStored]
      | stored segment => simp [isStored]
      | _ => simpa [isStored] using ih

namespace Store

variable {δ ε : Type} [BlockDevice δ]

/-- Storing one of the segments is a trap, in some state of the store. -/
def Trapping (δ : Type) [BlockDevice δ] (listed : List Segment) : Prop :=
  ∃ segment ∈ listed, ∃ reached : Store δ, (storeSegment segment reached).1 = .trap

/-- Storing one segment after another ends in a report, unless storing one of them is a trap. -/
theorem storeEach_returns (listed : List Segment) (report : CommitReport) (store : Store δ) :
    (∃ told after, (storeEach listed report store : Outcome ε CommitReport × Store δ) =
        (.value told, after)) ∨
      (storeEach listed report store : Outcome ε CommitReport × Store δ).1 = .trap ∧
        Trapping δ listed := by
  induction listed generalizing report store with
  | nil => exact .inl ⟨report, store, rfl⟩
  | cons segment rest ih =>
      have later : Trapping δ rest → Trapping δ (segment :: rest) := by
        intro trapping
        obtain ⟨other, listed, reached, traps⟩ := trapping
        exact ⟨other, .tail _ listed, reached, traps⟩
      rcases stores : storeSegment segment store with ⟨_ | cause | _, next⟩
      · rw [storeEach_of_stored stores]
        exact (ih _ _).imp id (And.imp id later)
      · rw [storeEach_of_failed stores]
        exact (ih _ _).imp id (And.imp id later)
      · refine .inr ⟨by rw [storeEach_of_trap stores], segment, List.mem_cons_self, store, ?_⟩
        rw [stores]

/-- A pass tries every segment of its list and reports how that went, unless storing one of them
is a trap. -/
theorem passOver_returns (listed : List Segment) (store : Store δ) :
    (∃ report after, (passOver listed store : Outcome ε CommitReport × Store δ) =
        (.value report, after) ∧
      report.performed = true ∧ SharedOut listed report.stored report.failed) ∨
      (passOver listed store : Outcome ε CommitReport × Store δ).1 = .trap ∧
        Trapping δ listed := by
  rcases storeEach_returns (ε := ε) listed { performed := true } { store with
      stats := { store.stats with commitPasses := store.stats.commitPasses + 1 } } with
    ⟨report, last, stores⟩ | ⟨traps, trapping⟩
  · have passes : (passOver listed store : Outcome ε CommitReport × Store δ) =
        (.value report, { last with windowStart := none }) := by
      rw [passOver, Action.modify_bind, Action.bind_of_value stores]
      rfl
    have told := passOver_report (ε := ε) listed store
    rw [Action.Concludes, passes] at told
    exact .inl ⟨report, _, passes, told.1, told.2.1⟩
  · refine .inr ⟨?_, trapping⟩
    rw [passOver, Action.modify_bind, Action.bind_of_trap (Prod.ext traps rfl)]

end Store

namespace Schedule

open Happening

variable {δ ε : Type} [BlockDevice δ] {schedule : Schedule δ}

/-- What has happened is not forgotten. -/
theorem history_step (schedule : Schedule δ) (occurrence : Occurrence δ) :
    schedule.history <:+ (schedule.step occurrence).history := by
  cases occurrence with
  | markDirty segment => exact List.suffix_cons _ _
  | setGuardBand millis => exact List.suffix_cons _ _
  | forceCommit =>
      rw [step]
      split
      · exact List.suffix_cons _ _
      · exact List.suffix_rfl
  | commitCheck =>
      rw [step]
      split
      · split
        · exact (List.suffix_append _ _).trans (List.suffix_cons _ _)
        · exact List.suffix_append _ _
      · exact List.suffix_append _ _
  | store segment =>
      rw [step]
      split
      · exact List.suffix_append _ _
      · exact List.suffix_rfl
  | erase segment =>
      rw [step]
      split
      · exact List.suffix_cons _ _
      · exact List.suffix_rfl
  | _ => exact List.suffix_rfl

theorem history_run (schedule : Schedule δ) (occurrences : List (Occurrence δ)) :
    schedule.history <:+ (schedule.run occurrences).history := by
  induction occurrences generalizing schedule with
  | nil => exact List.suffix_rfl
  | cons occurrence rest ih => exact (schedule.history_step occurrence).trans (ih _)

/-- A request that is answered with yes is noted. -/
theorem history_forceCommit
    (answers : (Store.forceCommit schedule.store : Outcome ε Bool × Store δ).1 = .value true) :
    (schedule.step .forceCommit).history = forced :: schedule.history := by
  have some : (!schedule.store.dirtySegments.isEmpty) = true := by
    rw [Store.forceCommit_eq] at answers
    exact Outcome.value.inj answers
  rw [step, Store.forceCommit_eq, some]
  rfl

/-- A commit that was forced is made by the next check, whatever the guard band is and whatever
else is done in between, unless a segment has been stored since: the pass tries every segment that
is dirty then. If one has been stored, the check makes a pass only if the guard band is over. -/
theorem passes_of_forced (device : δ) (config : Config) (clock : Clock)
    (earlier later : List (Occurrence δ)) :
    let before := (start device config clock).run earlier
    let after := (before.step .forceCommit).run later
    let unstored := ∀ happening ∈ since (· = forced) after.history, happening.isStored = false
    let dirty := after.store.dirtySegments
    let checked : Outcome ε CommitReport × Store δ := Store.commitCheck after.store
    (Store.forceCommit before.store : Outcome ε Bool × Store δ).1 = .value true →
      (unstored → checked = Store.passOver dirty after.store ∧
        ((∃ report last, checked = (.value report, last) ∧ report.performed = true ∧
            Store.SharedOut dirty report.stored report.failed) ∨
          checked.1 = .trap ∧ Store.Trapping δ dirty)) ∧
      (¬ unstored → checked =
        if after.store.guardBandRemaining? = some 0 then Store.passOver dirty after.store
        else (.value {}, after.store)) := by
  intro before after unstored dirty checked answers
  have agrees : after.Agrees :=
    ((((Agrees.start device config clock).run earlier).step .forceCommit).run later)
  have noted : forced ∈ after.history :=
    ((before.step .forceCommit).history_run later).subset
      (history_forceCommit answers ▸ List.mem_cons_self)
  have lasts : after.store.forced = true ↔ unstored := by
    rw [agrees.forced, decide_eq_true_iff, forced_mem_since_iff, and_iff_right noted]
  refine ⟨fun still => ?_, fun spent => ?_⟩
  · have due : after.store.isCommitDue = true := by
      rw [Store.isCommitDue, lasts.2 still, Bool.or_true]
    have passes : checked = Store.passOver dirty after.store := Store.commitCheck_of_due due
    exact ⟨passes, passes ▸ Store.passOver_returns dirty after.store⟩
  · have unforced : after.store.forced = false := by simpa using mt lasts.1 spent
    split
    · rename_i expired
      refine Store.commitCheck_of_due ?_
      rw [Store.isCommitDue, expired]
      rfl
    · rename_i running
      refine Store.commitCheck_of_not_due ?_
      rw [Store.isCommitDue, unforced, Bool.or_false]
      simpa using running

/-! ### Two changes before a reset -/

/-- A device whose operations go wrong from now on as they are told to. -/
def faultsSet (faults : Flash.Faults) : Occurrence (Faulty MemoryFlash) :=
  .disturb fun device => { device with faults }

/-- A new store on a chip of two blocks. -/
def pairStart : Schedule (Faulty MemoryFlash) := start { device := Store.pairChip } {} {}

/-- Two segments are known, and one of them has changed. -/
def changed : List (Occurrence (Faulty MemoryFlash)) :=
  [.register .applicationData (.blob 2 none .full) [3],
    .register .uniqueId (.blob 2 none .full) [4], .markDirty .uniqueId]

/-- The guard band becomes longer, the other segment changes too, and storing it fails. -/
def thwarted : List (Occurrence (Faulty MemoryFlash)) :=
  [.setGuardBand 60000, .markDirty .applicationData, faultsSet { failErase := true },
    .store .applicationData, faultsSet {}, .restore .uniqueId, .advanceClock 5]

/-- The check after that makes a pass over both segments, although the guard band has most of a
minute left. -/
theorem passes_of_forced_sample :
    let after := ((pairStart.run changed).step .forceCommit).run thwarted
    after.store.dirtySegments = [.applicationData, .uniqueId] ∧
      (Store.commitCheck after.store : Outcome StoreError CommitReport × _) =
        Store.passOver [.applicationData, .uniqueId] after.store := by
  have passes := passes_of_forced (ε := StoreError) { device := Store.pairChip } {} {} changed
    thwarted
  have dirty : (((pairStart.run changed).step .forceCommit).run thwarted).store.dirtySegments =
      [.applicationData, .uniqueId] := by decide +kernel
  refine ⟨dirty, dirty ▸ ((passes ?answers).1 ?unstored).1⟩
  case answers => decide +kernel
  case unstored => decide +kernel

/-- Both segments have changed and a commit is forced. If one of them is then stored directly, the
next check makes no pass, and the change of the other one is still only in the live bytes. -/
theorem unpassed_of_stored :
    let forced := (pairStart.run changed).run [.markDirty .applicationData]
    let after := (forced.step .forceCommit).step (.store .uniqueId)
    (Store.forceCommit forced.store : Outcome StoreError Bool × _).1 = .value true ∧
      after.store.isDirty .applicationData = true ∧
      (Store.commitCheck after.store : Outcome StoreError CommitReport × _).1 =
        .value { performed := false } := by
  decide +kernel

end Schedule

end NorStore
