/-
# The guard band as a delay

A change waits for the guard band to be over, unless a commit was forced before and nothing has
been stored since. The band is not that of the change alone: it began with the first mark after
the last pass. Where segments become clean in passes only, that is the mark of the change itself
if no other segment was dirty. Storing or erasing a segment directly makes it clean as well, and
leaves the band running; and erasing leaves a commit forced. What is marked then waits for less.
-/

import NorStore.Proofs.Store.Lifetime
import NorStore.Proofs.Store.Schedule

namespace NorStore

open NorStore.Flash (BlockDevice MemoryFlash)

namespace Happening

variable {first band now : Nat} {history : List Happening}

/-- Whether a segment became clean. -/
def cleans : Happening → Bool
  | stored _ => true
  | erased _ => true
  | _ => false

/-- When the guard band begins that a mark made now has to wait for. -/
def bandStart (now : Nat) (history : List Happening) : Nat := (firstMark? history).getD now

/-- Where nothing of the other kind has happened since, it has happened longer ago. -/
theorem since_subset {kind other : Happening → Bool} {happening : Happening}
    (none : ∀ happening ∈ since kind history, other happening = false)
    (recent : happening ∈ since kind history) : happening ∈ since other history := by
  induction history with
  | nil => exact recent
  | cons latest rest ih =>
      rw [since_cons] at none recent ⊢
      cases ends : kind latest with
      | true => simp [ends] at recent
      | false =>
          simp only [ends, Bool.false_eq_true, if_false] at none recent
          rw [if_neg (Bool.eq_false_iff.1 (none latest List.mem_cons_self))]
          rcases List.mem_cons.1 recent with rfl | before
          · exact List.mem_cons_self
          · exact .tail _ (ih (fun other listed => none other (.tail _ listed)) before)

/-- Where no segment is outstanding, and none became clean since the last pass, none was marked
since. -/
theorem firstMark?_eq_none
    (direct : ∀ happening ∈ since (· = passed) history, happening.cleans = false)
    (clean : outstanding history = []) : firstMark? history = none := by
  rw [firstMark?, List.getLast?_eq_none_iff, List.filterMap_eq_nil_iff]
  intro happening recent
  cases happening with
  | marked segment time =>
      have unsettled : ∀ other ∈ since (· = passed) history, settles segment other = false := by
        intro other listed
        have kept := direct other listed
        cases other <;> first | rfl | contradiction
      have waits : (since (settles segment) history).any (marks segment) = true :=
        List.any_eq_true.2 ⟨_, since_subset unsettled recent, by simp [marks]⟩
      have idle := List.filter_eq_nil_iff.1 clean segment (Segment.mem_all segment)
      exact absurd waits idle
  | _ => rfl

/-- A guard band of this length runs since then, and no commit is forced. -/
structure Waits (first band : Nat) (history : List Happening) : Prop where
  firstMark : firstMark? history = some first
  unforced : forced ∉ since isStored history
  guardBand : guardBandOf history = band

namespace Waits

theorem not_due (waits : Waits first band history)
    (early : Duration.ofMillis (now - first) < band) : ¬ Due now history := by
  rintro (⟨start, begins, reached⟩ | isForced)
  · cases waits.firstMark.symm.trans begins
    rw [waits.guardBand] at reached
    omega
  · exact waits.unforced isForced

/-- A mark begins the band, or meets one that runs already. -/
theorem of_marked (unforced : forced ∉ since isStored history) (segment : Segment) (now : Nat) :
    Waits (bandStart now history) (guardBandOf history) (marked segment now :: history) where
  firstMark := by simp [firstMark?, bandStart, time?, List.getLast?_cons]
  unforced := by simpa [isStored] using unforced
  guardBand := rfl

theorem marked (waits : Waits first band history) (segment : Segment) (time : Nat) :
    Waits first band (marked segment time :: history) := by
  have start : bandStart time history = first := by rw [bandStart, waits.firstMark]; rfl
  exact start ▸ waits.guardBand ▸ of_marked waits.unforced segment time

theorem erased (waits : Waits first band history) (segment : Segment) :
    Waits first band (erased segment :: history) where
  firstMark := by simpa [firstMark?, time?] using waits.firstMark
  unforced := by simpa [isStored] using waits.unforced
  guardBand := waits.guardBand

theorem stored (waits : Waits first band history) (listed : List Segment) :
    Waits first band (listed.map .stored ++ history) where
  firstMark := (firstMark?_stored ..).trans waits.firstMark
  unforced := by
    cases listed with
    | nil => exact waits.unforced
    | cons segment rest => simp [isStored]
  guardBand := (guardBandOf_stored ..).trans waits.guardBand

end Waits

end Happening

/-- What neither forces a commit nor sets the guard band. -/
def Occurrence.IsOrdinary {δ : Type} : Occurrence δ → Prop
  | .forceCommit => False
  | .setGuardBand _ => False
  | _ => True

namespace Schedule

open Happening

variable {δ ε : Type} [BlockDevice δ] {schedule : Schedule δ} {first band : Nat}

/-- The clock does not go back during the run. -/
def Onward (schedule : Schedule δ) : List (Occurrence δ) → Prop
  | [] => True
  | occurrence :: rest =>
    schedule.store.clock.now ≤ (schedule.step occurrence).store.clock.now ∧
      (schedule.step occurrence).Onward rest

theorem Onward.le {occurrences : List (Occurrence δ)} (onward : schedule.Onward occurrences) :
    schedule.store.clock.now ≤ (schedule.run occurrences).store.clock.now := by
  induction occurrences generalizing schedule with
  | nil => exact Nat.le_refl _
  | cons occurrence rest ih => exact Nat.le_trans onward.1 (ih onward.2)

/-- Before the guard band is over, nothing but a force ends the waiting. -/
theorem waits_step (agrees : schedule.Agrees) (waits : Waits first band schedule.history)
    (early : Duration.ofMillis (schedule.store.clock.now - first) < band) {occurrence : Occurrence δ}
    (ordinary : occurrence.IsOrdinary) :
    Waits first band (schedule.step occurrence).history := by
  cases occurrence with
  | forceCommit => exact ordinary.elim
  | setGuardBand => exact ordinary.elim
  | markDirty segment => exact waits.marked segment _
  | commitCheck =>
      have notDue : schedule.store.isCommitDue = false := by
        simpa using mt agrees.isCommitDue_iff.1 (waits.not_due early)
      rw [step, Store.commitCheck_of_not_due notDue]
      exact waits
  | store segment =>
      rw [step]
      split
      · exact waits.stored [segment]
      · exact waits
  | erase segment =>
      rw [step]
      split
      · exact waits.erased segment
      · exact waits
  | _ => exact waits

/-- And so it is with a run that ends before the guard band does. -/
theorem waits_run {occurrences : List (Occurrence δ)} (agrees : schedule.Agrees)
    (waits : Waits first band schedule.history)
    (ordinary : ∀ occurrence ∈ occurrences, occurrence.IsOrdinary)
    (onward : schedule.Onward occurrences)
    (early : Duration.ofMillis ((schedule.run occurrences).store.clock.now - first) < band) :
    Waits first band (schedule.run occurrences).history := by
  induction occurrences generalizing schedule with
  | nil => exact waits
  | cons occurrence rest ih =>
      have here : Duration.ofMillis (schedule.store.clock.now - first) < band :=
        Nat.lt_of_le_of_lt (Nat.mul_le_mul_right _ (Nat.sub_le_sub_right onward.le first)) early
      refine ih (agrees.step occurrence)
        (waits_step agrees waits here (ordinary occurrence List.mem_cons_self))
        (fun other listed => ordinary other (.tail _ listed)) onward.2 early

/-- If a segment is marked while no forced commit is outstanding, and none is forced later, then no
check makes a pass until the guard band is over, whatever else is done and whatever has happened
before. The band began with the first mark since the last pass. That is this mark, if no segment
was dirty and none had become clean since that pass. -/
theorem rests_of_marked (device : δ) (config : Config) (clock : Clock)
    (earlier : List (Occurrence δ)) (segment : Segment) :
    let before := (start device config clock).run earlier
    let start := bandStart before.store.clock.now before.history
    (before.store.dirtySegments = [] →
      (∀ happening ∈ since (· = passed) before.history, happening.cleans = false) →
        start = before.store.clock.now) ∧
    (forced ∉ since isStored before.history → ∀ later : List (Occurrence δ),
      (∀ occurrence ∈ later, occurrence.IsOrdinary) →
      let marked := before.step (.markDirty segment)
      let after := marked.run later
      marked.Onward later →
        Duration.ofMillis (after.store.clock.now - start) < before.store.config.guardBand →
        (Store.commitCheck after.store : Outcome ε CommitReport × Store δ) =
          (.value {}, after.store)) := by
  intro before start
  have agrees : before.Agrees := (Agrees.start device config clock).run earlier
  refine ⟨?_, ?_⟩
  · intro clean direct
    rw [agrees.dirtySegments_eq] at clean
    simp only [start, bandStart, firstMark?_eq_none direct clean, Option.getD_none]
  · intro unforced later ordinary marked after onward early
    rw [agrees.guardBand] at early
    have waits : Waits start (guardBandOf before.history) after.history :=
      waits_run (agrees.step _) (.of_marked unforced segment _) ordinary onward early
    have waiting : after.Agrees := (agrees.step _).run later
    have notDue : after.store.isCommitDue = false := by
      simpa using mt waiting.isCommitDue_iff.1 (waits.not_due early)
    exact Store.commitCheck_of_not_due notDue

/-- A segment is stored in a pass, and then it is marked again. -/
def storedInPass : List (Occurrence MemoryFlash) :=
  [.register .uniqueId (.blob 8 none .full) [7], .markDirty .uniqueId, .advanceClock 1000,
    .commitCheck]

/-- What goes on while the band runs: another mark, and a store that does not end it. -/
def whileWaiting : List (Occurrence MemoryFlash) :=
  [.advanceClock 600, .markDirty .uniqueId, .commitCheck, .store .uniqueId, .markDirty .uniqueId,
    .advanceClock 399]

/-- The mark after the pass begins a band of its own, and a check a millisecond before its end makes
no pass. -/
theorem rests_of_marked_sample :
    let before := (start Life.blankSampleChip {} {}).run storedInPass
    let after := (before.step (.markDirty .uniqueId)).run whileWaiting
    bandStart before.store.clock.now before.history = before.store.clock.now ∧
      after.store.clock.now = 2019 ∧
      (Store.commitCheck after.store : Outcome StoreError CommitReport × _) =
        (.value {}, after.store) := by
  have waits :=
    rests_of_marked (ε := StoreError) Life.blankSampleChip {} {} storedInPass .uniqueId
  refine ⟨waits.1 ?clean ?direct, ?time, waits.2 ?unforced whileWaiting ?ordinary ?onward ?early⟩
  case clean => decide +kernel
  case direct => decide +kernel
  case time => decide +kernel
  case unforced => decide +kernel
  case ordinary => simp [whileWaiting, Occurrence.IsOrdinary]
  case onward =>
    exact ⟨by decide +kernel, by decide +kernel, by decide +kernel, by decide +kernel,
      by decide +kernel, by decide +kernel, trivial⟩
  case early => decide +kernel

/-! ### Less than the guard band -/

/-- A segment is stored as soon as it was marked, which leaves the guard band running. -/
def storedDirectly : List (Occurrence MemoryFlash) :=
  [.register .uniqueId (.blob 8 none .full) [7], .markDirty .uniqueId, .store .uniqueId,
    .advanceClock 900]

/-- A commit is forced, and then the segment is erased, which leaves the commit forced. -/
def forcedAndErased : List (Occurrence MemoryFlash) :=
  [.register .uniqueId (.blob 8 none .full) [7], .markDirty .uniqueId, .forceCommit,
    .erase .uniqueId, .advanceClock 500]

/-- The segment is marked, and a tenth of the guard band passes. -/
def markedAgain (before : Schedule MemoryFlash) : Schedule MemoryFlash :=
  (before.step (.markDirty .uniqueId)).run [.advanceClock 100]

/-- In both cases no segment is dirty any more. What is marked then is stored by the next check,
before the guard band is over and with no other commit forced. -/
theorem stored_early :
    let direct := (start Life.blankSampleChip {} {}).run storedDirectly
    let erased := (start Life.blankSampleChip {} {}).run forcedAndErased
    let early : CommitReport := { performed := true, stored := [.uniqueId] }
    (direct.store.dirtySegments = [] ∧
      Duration.ofMillis ((markedAgain direct).store.clock.now - direct.store.clock.now) <
        direct.store.config.guardBand ∧
      (Store.commitCheck (markedAgain direct).store : Outcome StoreError CommitReport × _).1 =
        .value early) ∧
    erased.store.dirtySegments = [] ∧
      Duration.ofMillis ((markedAgain erased).store.clock.now - erased.store.clock.now) <
        erased.store.config.guardBand ∧
      (Store.commitCheck (markedAgain erased).store : Outcome StoreError CommitReport × _).1 =
        .value early := by
  decide +kernel

end Schedule

end NorStore
