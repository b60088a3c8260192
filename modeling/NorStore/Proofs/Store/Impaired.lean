/-
# Restoring on a device that fails

A device can fail at any time: when it is asked for its geometry, when it is opened, and when it is
read. What that does to restoring is told by a second run, of the same calls over the same cells on
a device on which nothing fails. The failing run comes to the same outcome or to a loss, and what it
restores is what the other run restores. After a failure the two runs differ, since a map that could
not be planned is not planned later; the relation `Impaired` says what is left in common.
-/

import NorStore.Proofs.Store.Interruption
import NorStore.Proofs.Store.Isolation

namespace NorStore

open NorStore.Flash (BlockDevice Cells ChipView Glitchy MemoryFlash NorDevice)
open NorStore.Flash.ChipView (cells shape)

variable {δ ε : Type} [BlockDevice δ] [NorDevice δ]

namespace SegmentDriver

variable {driver clear reached also : SegmentDriver δ} {segment : Segment}

/-- Two drivers over the same chip, of which the second one is on a device on which nothing fails.
They have the same map, unless planning it has failed for the first one. -/
structure Impaired (driver clear : SegmentDriver δ) : Prop where
  sound : driver.Sound
  soundly : clear.Sound
  mended : Flash.Mended driver.device clear.device
  capacities : clear.capacities = driver.capacities
  planner : clear.planner = driver.planner ∨ ∃ reason, driver.planner = .failed reason

namespace Impaired

/-- What is in a range is the same for both. -/
theorem contents (impaired : Impaired driver clear) (entry : MapEntry) :
    clear.contents entry = driver.contents entry := by
  rw [SegmentDriver.contents, base, impaired.mended.shape, impaired.mended.cells,
    SegmentDriver.contents, base]

/-- Accesses that change neither map nor cells, whatever they come to. -/
theorem remains (impaired : Impaired driver clear) (first : Remains driver reached)
    (second : Remains clear also) : Impaired reached also where
  sound := first.toFollows.sound impaired.sound
  soundly := second.toFollows.sound impaired.soundly
  mended := {
    healthy := second.keeps.healthy impaired.mended.healthy
    honest := second.keeps.honest impaired.mended.honest
    shape := second.keeps.shape.trans (impaired.mended.shape.trans first.keeps.shape.symm)
    cells := second.cells.trans (impaired.mended.cells.trans first.cells.symm) }
  capacities := second.capacities.trans (impaired.capacities.trans first.capacities.symm)
  planner := by
    rw [first.planner, second.planner]
    exact impaired.planner

/-- Asking for a range comes to the same for both, unless the first one has no map and never gets
one. -/
theorem ensureMapped_cases (impaired : Impaired driver clear) (segment : Segment) :
    SegmentDriver.ensureMapped segment clear = ((SegmentDriver.ensureMapped segment driver).1,
        { (SegmentDriver.ensureMapped segment driver).2 with device := clear.device }) ∨
      ∃ cause reason, (SegmentDriver.ensureMapped segment driver).1 = .error cause ∧
        (SegmentDriver.ensureMapped segment driver).2.planner = .failed reason := by
  have alike : clear.planner = driver.planner → clear = { driver with device := clear.device } := by
    intro same
    obtain ⟨device, capacities, planner⟩ := clear
    cases same
    cases impaired.capacities
    rfl
  rcases impaired.planner with same | ⟨reason, failed⟩
  · cases known : driver.planner with
    | mapped map =>
        rw [alike same]
        exact .inl (ensureMapped_over_of_known known segment)
    | failed reason =>
        rw [ensureMapped_of_failed known]
        exact .inr ⟨_, reason, rfl, known⟩
    | unmapped =>
        cases reported : BlockDevice.geometry driver.device with
        | ok geometry =>
            rw [alike same]
            refine .inl (ensureMapped_over ?_ segment)
            rw [impaired.mended.geometry, reported,
              NorDevice.geometry_eq impaired.sound.honest reported]
        | error cause =>
            have plans : driver.plan = .value (.failed (.device cause)) := by
              rw [plan, reported]
              rfl
            have asked : SegmentDriver.ensureMapped segment driver =
                (.error (.deviceUnavailable (.device cause)),
                  { driver with planner := .failed (.device cause) }) := by
              rw [ensureMapped_of_plan known plans]
              exact ensureMapped_of_failed rfl
            rw [asked]
            exact .inr ⟨_, _, rfl, rfl⟩
  · rw [ensureMapped_of_failed failed]
    exact .inr ⟨_, reason, rfl, failed⟩

/-- Asking for a range leaves the two as they are related. -/
theorem ensureMapped (impaired : Impaired driver clear) (segment : Segment) :
    Impaired (SegmentDriver.ensureMapped segment driver).2
      (SegmentDriver.ensureMapped segment clear).2 where
  sound := impaired.sound.ensureMapped segment
  soundly := impaired.soundly.ensureMapped segment
  mended := by
    rw [device_ensureMapped, device_ensureMapped]
    exact impaired.mended
  capacities := by
    rw [capacities_ensureMapped, capacities_ensureMapped]
    exact impaired.capacities
  planner := by
    rcases impaired.ensureMapped_cases segment with same | ⟨cause, reason, -, failed⟩
    · exact .inl (by rw [same])
    · exact .inr ⟨reason, failed⟩

end Impaired

end SegmentDriver

namespace Store

variable {store clear after : Store δ} {segment : Segment} {registration : Registration}
  {entry : MapEntry} {placed : SegmentDriver δ}

/-! ## One segment -/

/-- The settings and the codecs are the same. -/
structure SameSetup (before after : Store δ) : Prop where
  config : after.config = before.config
  codecs : ∀ segment, (after.registrations.get segment).map (·.codec) =
    (before.registrations.get segment).map (·.codec)

/-- Restoring a segment that is given a range only looks, and what it restores is the reading of the
range. -/
theorem restore_of_range (sound : store.driver.Sound)
    (registered : store.registrations.get segment = some registration)
    (asked : SegmentDriver.ensureMapped segment store.driver = (.value entry, placed)) :
    ∃ outcome after, (restore segment store : Outcome ε LoadOutcome × Store δ) =
        (.value outcome, after) ∧
      SegmentDriver.Remains placed after.driver ∧ SameSetup store after ∧
      ((∃ live, store.reading registration.codec entry = .ok live ∧ outcome = .restored ∧
          after.live? segment = some live) ∨
        ∃ reason, outcome = .lost reason ∧ (store.reading registration.codec entry = .error reason ∨
          ¬ ChipView.Steady store.device ∧ Unread reason)) := by
  obtain ⟨driver, outcome, after, ends, remains, came⟩ :=
    restore_of_asked (ε := ε) sound registered asked
  refine ⟨outcome, after, ends, ?_⟩
  rcases came with ⟨live, bytes, reads, rfl, rfl⟩ | ⟨reason, told, rfl, rfl⟩
  · have still : (store.atop driver).registrations.get segment = some registration := registered
    refine ⟨?_, ⟨config_setLive .., codecs_setLive _ segment live⟩,
      .inl ⟨live, reads, rfl, live?_setLive_self still live⟩⟩
    show SegmentDriver.Remains placed ((store.atop driver).setLive segment live).driver
    rwa [driver_setLive]
  · exact ⟨remains, ⟨rfl, fun _ => rfl⟩, .inr ⟨reason, rfl, told⟩⟩

/-- Whatever it comes to, restoring a registered segment asks for its range and then only looks. -/
theorem restore_remains (sound : store.driver.Sound)
    (registered : store.registrations.get segment = some registration) :
    (restore segment : Action (Store δ) ε LoadOutcome).Reaches store fun after =>
      SegmentDriver.Remains (SegmentDriver.ensureMapped segment store.driver).2 after.driver ∧
        SameSetup store after := by
  rw [Action.Reaches]
  rcases asked : SegmentDriver.ensureMapped segment store.driver with ⟨entry | cause | _, placed⟩
  · obtain ⟨outcome, after, ends, remains, setup, -⟩ :=
      restore_of_range (ε := ε) sound registered asked
    rw [ends]
    exact ⟨remains, setup⟩
  · rw [restore_of_unmapped registered asked]
    exact ⟨.refl placed, rfl, fun _ => rfl⟩
  · rw [restore_of_trap registered asked]
    exact ⟨.refl placed, rfl, fun _ => rfl⟩

/-! ## Two runs -/

/-- What restoring a segment may come to on a device that fails, if it comes to the first outcome on
one that does not. -/
def Impairs (plain found : LoadOutcome) : Prop :=
  found = plain ∨ ∃ reason, found = .lost reason ∧ Unread reason

/-- The same store on a device on which nothing fails. Which live bytes it has does not matter. -/
structure Impaired (store clear : Store δ) : Prop where
  driver : store.driver.Impaired clear.driver
  setup : SameSetup store clear

omit [BlockDevice δ] [NorDevice δ] in
theorem SameSetup.unregistered (setup : SameSetup store clear)
    (unregistered : store.registrations.get segment = none) :
    clear.registrations.get segment = none := by
  have codec := setup.codecs segment
  rw [unregistered] at codec
  exact Option.map_eq_none_iff.1 codec

omit [BlockDevice δ] [NorDevice δ] in
theorem SameSetup.registered (setup : SameSetup store clear)
    (registered : store.registrations.get segment = some registration) :
    ∃ also, clear.registrations.get segment = some also ∧ also.codec = registration.codec := by
  have codec := setup.codecs segment
  rw [registered] at codec
  exact Option.map_eq_some_iff.1 codec

omit [BlockDevice δ] [NorDevice δ] in
theorem SameSetup.both {later clearLater : Store δ} (setup : SameSetup store clear)
    (first : SameSetup store later) (second : SameSetup clear clearLater) :
    SameSetup later clearLater where
  config := second.config.trans (setup.config.trans first.config.symm)
  codecs segment :=
    (second.codecs segment).trans ((setup.codecs segment).trans (first.codecs segment).symm)

namespace Impaired

theorem reading_eq (impaired : Impaired store clear) (codec : Codec) (entry : MapEntry) :
    clear.reading codec entry = store.reading codec entry := by
  rw [reading, impaired.setup.config, impaired.driver.contents, reading]

/-- Restoring the same segment in both leaves them as they are related. -/
theorem restore (impaired : Impaired store clear) (segment : Segment) :
    Impaired (Store.restore segment store : Outcome ε LoadOutcome × Store δ).2
      (Store.restore segment clear : Outcome ε LoadOutcome × Store δ).2 := by
  cases registered : store.registrations.get segment with
  | none =>
      rw [restore_of_unregistered registered,
        restore_of_unregistered (impaired.setup.unregistered registered)]
      exact ⟨impaired.driver, impaired.setup.config, impaired.setup.codecs⟩
  | some registration =>
      obtain ⟨also, known, -⟩ := impaired.setup.registered registered
      obtain ⟨remains, setup⟩ := restore_remains (ε := ε) impaired.driver.sound registered
      obtain ⟨alsoRemains, alsoSetup⟩ := restore_remains (ε := ε) impaired.driver.soundly known
      exact ⟨(impaired.driver.ensureMapped segment).remains remains alsoRemains,
        impaired.setup.both setup alsoSetup⟩

/-- A segment that has a range is restored to the same in both, unless the device fails. -/
theorem outcome_of_asked (impaired : Impaired store clear) {also : Registration}
    {clearPlaced : SegmentDriver δ}
    (registered : store.registrations.get segment = some registration)
    (known : clear.registrations.get segment = some also) (codec : also.codec = registration.codec)
    (asked : SegmentDriver.ensureMapped segment store.driver = (.value entry, placed))
    (clearAsked : SegmentDriver.ensureMapped segment clear.driver = (.value entry, clearPlaced)) :
    ∃ plain clearAfter found after,
      (Store.restore segment clear : Outcome ε LoadOutcome × Store δ) =
        (.value plain, clearAfter) ∧
      (Store.restore segment store : Outcome ε LoadOutcome × Store δ) = (.value found, after) ∧
      Impairs plain found ∧
      (found = .restored → after.live? segment = clearAfter.live? segment) := by
  obtain ⟨plain, clearAfter, clearEnds, -, -, clearCame⟩ :=
    restore_of_range (ε := ε) impaired.driver.soundly known clearAsked
  obtain ⟨found, after, ends, -, -, came⟩ :=
    restore_of_range (ε := ε) impaired.driver.sound registered asked
  refine ⟨plain, clearAfter, found, after, clearEnds, ends, ?_⟩
  rw [codec, impaired.reading_eq] at clearCame
  have steady := NorDevice.steady_of_healthy impaired.driver.mended.healthy
  rcases came with ⟨live, reads, rfl, lives⟩ | ⟨reason, rfl, reads | ⟨-, unread⟩⟩
  · rcases clearCame with ⟨clearLive, clearReads, rfl, clearLives⟩ |
      ⟨reason, rfl, clearReads | ⟨unsteady, -⟩⟩
    · cases reads.symm.trans clearReads
      exact ⟨.inl rfl, fun _ => lives.trans clearLives.symm⟩
    · cases reads.symm.trans clearReads
    · exact absurd steady unsteady
  · rcases clearCame with ⟨clearLive, clearReads, rfl, clearLives⟩ |
      ⟨clearReason, rfl, clearReads | ⟨unsteady, -⟩⟩
    · cases reads.symm.trans clearReads
    · cases reads.symm.trans clearReads
      exact ⟨.inl rfl, nofun⟩
    · exact absurd steady unsteady
  · exact ⟨.inr ⟨reason, rfl, unread⟩, nofun⟩

/-- How restoring a segment ends on a device that fails, by how it ends on one that does not: in the
same outcome with the same live bytes, or in a loss. Only a device that does not report its geometry
can keep it from a trap. -/
theorem outcome (impaired : Impaired store clear) (segment : Segment) :
    (∃ plain clearAfter found after,
      (Store.restore segment clear : Outcome ε LoadOutcome × Store δ) =
        (.value plain, clearAfter) ∧
      (Store.restore segment store : Outcome ε LoadOutcome × Store δ) = (.value found, after) ∧
      Impairs plain found ∧
      (found = .restored → after.live? segment = clearAfter.live? segment)) ∨
    (Store.restore segment clear : Outcome ε LoadOutcome × Store δ).1 = .trap ∧
      ((Store.restore segment store : Outcome ε LoadOutcome × Store δ).1 = .trap ∨
        (Store.restore segment store : Outcome ε LoadOutcome × Store δ).1 =
          .value (.lost .noPersistence)) := by
  cases registered : store.registrations.get segment with
  | none =>
      rw [restore_of_unregistered (impaired.setup.unregistered registered),
        restore_of_unregistered registered]
      exact .inl ⟨_, _, _, _, rfl, rfl, .inl rfl, nofun⟩
  | some registration =>
      obtain ⟨also, known, codec⟩ := impaired.setup.registered registered
      rcases impaired.driver.ensureMapped_cases segment with same | ⟨cause, reason, unmapped, -⟩
      · rcases asked : SegmentDriver.ensureMapped segment store.driver with
          ⟨entry | cause | _, placed⟩
        · rw [asked] at same
          exact .inl (impaired.outcome_of_asked registered known codec asked same)
        · rw [asked] at same
          rw [restore_of_unmapped registered asked, restore_of_unmapped known same]
          exact .inl ⟨_, _, _, _, rfl, rfl, .inl rfl, nofun⟩
        · rw [asked] at same
          rw [restore_of_trap registered asked, restore_of_trap known same]
          exact .inr ⟨rfl, .inl rfl⟩
      · obtain ⟨placed, asked⟩ : ∃ placed, SegmentDriver.ensureMapped segment store.driver =
            (.error cause, placed) := ⟨_, Prod.ext unmapped rfl⟩
        rw [restore_of_unmapped registered asked]
        have lost : ∀ plain, Impairs plain (.lost .noPersistence) := fun _ =>
          .inr ⟨_, rfl, .inl rfl⟩
        obtain ⟨driver, -, ⟨_, _, live, bytes, -, -, -, ends⟩ | ⟨reason, ends⟩ | ends⟩ :=
          restore_cases (ε := ε) impaired.driver.soundly segment
        · exact .inl ⟨_, _, _, _, ends, rfl, lost _, nofun⟩
        · exact .inl ⟨_, _, _, _, ends, rfl, lost _, nofun⟩
        · exact .inr ⟨congrArg Prod.fst ends, .inr rfl⟩

end Impaired

/-! ## What restoring spares -/

variable {middle : Store δ} {listed further rest : List Segment}

/-- The flash was only looked at, and no other live bytes have changed than those of these
segments. -/
structure Looked (listed : List Segment) (before after : Store δ) : Prop where
  looks : before.driver.Looks after.driver
  lives : ∀ other, other ∉ listed → after.live? other = before.live? other

theorem Looked.refl (store : Store δ) : Looked [] store store := ⟨.refl _, fun _ _ => rfl⟩

theorem Looked.trans (one : Looked listed store middle) (two : Looked further middle after) :
    Looked (listed ++ further) store after where
  looks := one.looks.trans two.looks
  lives other unlisted := by
    rw [List.mem_append, not_or] at unlisted
    exact (two.lives other unlisted.2).trans (one.lives other unlisted.1)

theorem Looked.append_right (looked : Looked listed store after) (further : List Segment) :
    Looked (listed ++ further) store after where
  looks := looked.looks
  lives other unlisted := looked.lives other fun member =>
    unlisted (List.mem_append_left further member)

/-- Restoring a segment changes at most its own live bytes, and not even these if it is lost. -/
theorem restore_looked (sound : store.driver.Sound) (segment : Segment) :
    (restore segment : Action (Store δ) ε LoadOutcome).Concludes store
      (fun outcome after => Looked [segment] store after ∧
        ∀ reason, outcome = .lost reason → after.live? segment = store.live? segment)
      (Looked [segment] store) := by
  obtain ⟨driver, looks, ⟨_, _, live, bytes, -, -, -, ends⟩ | ⟨reason, ends⟩ | ends⟩ :=
    restore_cases (ε := ε) sound segment
  · rw [Action.Concludes, ends]
    refine ⟨⟨?_, fun other unlisted => ?_⟩, fun reason lost => by cases lost⟩
    · show store.driver.Looks ((store.atop driver).setLive segment live).driver
      rwa [driver_setLive]
    · exact live?_setLive_of_ne (store.atop driver) live (List.ne_of_not_mem_cons unlisted)
  · rw [Action.Concludes, ends]
    exact ⟨⟨looks, fun _ _ => rfl⟩, fun _ _ => rfl⟩
  · rw [Action.Concludes, ends]
    exact ⟨looks, fun _ _ => rfl⟩

/-- Restore each of a list of segments. -/
def restoreEach (listed : List Segment) : Action (Store δ) ε (List (Segment × LoadOutcome)) :=
  listed.mapM fun segment => do
    let outcome ← restore segment
    return (segment, outcome)

omit [NorDevice δ] in
theorem restoreEach_nil : (restoreEach [] : Action (Store δ) ε _) = return [] := List.mapM_nil

omit [NorDevice δ] in
theorem restoreEach_cons (segment : Segment) (rest : List Segment) :
    (restoreEach (segment :: rest) : Action (Store δ) ε _) = do
      let outcome ← restore segment
      let others ← restoreEach rest
      return (segment, outcome) :: others := by
  rw [restoreEach, List.mapM_cons, bind_assoc]
  rfl

/-- A segment that is lost among others keeps its live bytes, also when the others are restored. -/
theorem restoreEach_looked (sound : store.driver.Sound) (once : listed.Nodup) :
    (restoreEach listed : Action (Store δ) ε _).Concludes store
      (fun found after => Looked listed store after ∧ found.map Prod.fst = listed ∧
        ∀ segment reason, (segment, .lost reason) ∈ found →
          after.live? segment = store.live? segment)
      (Looked listed store) := by
  induction listed generalizing store with
  | nil =>
      rw [restoreEach_nil]
      exact .pure ⟨.refl store, rfl, by simp⟩
  | cons segment rest ih =>
      obtain ⟨unlisted, onceRest⟩ := List.nodup_cons.1 once
      rw [restoreEach_cons]
      refine .bind ((restore_looked sound segment).mono (fun _ _ => id) fun _ looked =>
        looked.append_right rest) ?_
      intro outcome middle ended
      obtain ⟨first, kept⟩ := ended
      refine .bind ((ih (first.looks.sound sound) onceRest).mono (fun _ _ => id)
        fun _ looked => first.trans looked) ?_
      intro others after ended
      obtain ⟨looked, names, lost⟩ := ended
      refine .pure ⟨first.trans looked, by rw [List.map_cons, names], fun other reason member => ?_⟩
      rcases List.mem_cons.1 member with same | later
      · cases same
        exact (looked.lives segment unlisted).trans (kept reason rfl)
      · have different : other ∉ [segment] := by
          rw [List.mem_singleton]
          rintro rfl
          exact unlisted (names ▸ List.mem_map_of_mem later)
        exact (lost other reason later).trans (first.lives other different)

/-- Where restoring a list of segments has outcomes, it also has outcomes on a device that fails:
each of them is the same, with the same live bytes, or a loss. -/
theorem Impaired.restoreEach (impaired : Impaired store clear) (once : listed.Nodup)
    {plain : List (Segment × LoadOutcome)} {clearAfter : Store δ}
    (restores : (Store.restoreEach listed clear : Outcome ε _ × Store δ) =
      (.value plain, clearAfter)) :
    ∃ found after,
      (Store.restoreEach listed store : Outcome ε _ × Store δ) = (.value found, after) ∧
      plain.map Prod.fst = listed ∧ found.map Prod.fst = listed ∧
      ∀ both ∈ plain.zip found, Impairs both.1.2 both.2.2 ∧
        (both.2.2 = .restored → after.live? both.2.1 = clearAfter.live? both.2.1) := by
  induction listed generalizing store clear plain with
  | nil =>
      rw [restoreEach_nil] at restores
      cases restores
      exact ⟨[], store, rfl, rfl, rfl, by simp⟩
  | cons segment rest ih =>
      obtain ⟨unlisted, onceRest⟩ := List.nodup_cons.1 once
      rw [restoreEach_cons, Action.bind_eq_value_iff] at restores
      obtain ⟨outcome, clearMiddle, clearFirst, later⟩ := restores
      rw [Action.bind_eq_value_iff] at later
      obtain ⟨others, _, clearRest, ends⟩ := later
      cases ends
      rcases impaired.outcome (ε := ε) segment with
        ⟨_, _, found, middle, clearEnds, first, impairs, lives⟩ | ⟨traps, -⟩
      · cases clearFirst.symm.trans clearEnds
        have still := impaired.restore (ε := ε) segment
        rw [clearFirst, first] at still
        obtain ⟨foundRest, after, restEnds, clearNames, names, each⟩ := ih still onceRest clearRest
        refine ⟨(segment, found) :: foundRest, after, ?_, by rw [List.map_cons, clearNames],
          by rw [List.map_cons, names], fun both member => ?_⟩
        · rw [restoreEach_cons, Action.bind_of_value first, Action.bind_of_value restEnds]
          rfl
        · rw [List.zip_cons_cons] at member
          rcases List.mem_cons.1 member with rfl | inRest
          · -- The rest of the list leaves the live bytes of this segment in both runs.
            have looked := restoreEach_looked (ε := ε) still.driver.sound onceRest
            have clearLooked := restoreEach_looked (ε := ε) still.driver.soundly onceRest
            rw [Action.Concludes, restEnds] at looked
            rw [Action.Concludes, clearRest] at clearLooked
            refine ⟨impairs, fun restored => ?_⟩
            exact (looked.1.lives segment unlisted).trans
              ((lives restored).trans (clearLooked.1.lives segment unlisted).symm)
          · exact each both inRest
      · rw [clearFirst] at traps
        cases traps

/-! ## What faults can do -/

/-- What restoring a segment does on a device that fails, by what it does on one that does not. -/
structure SameOrLost (segment : Segment) (store : Store δ)
    (failing clear : Outcome ε LoadOutcome × Store δ) : Prop where
  cells : cells failing.2.device = cells store.device
  others : ∀ other, other ≠ segment → failing.2.live? other = store.live? other
  kept : ∀ reason, failing.1 = .value (.lost reason) →
    failing.2.live? segment = store.live? segment
  outcome : ∀ plain, clear.1 = .value plain → ∃ found, failing.1 = .value found ∧
    Impairs plain found ∧ (found = .restored → failing.2.live? segment = clear.2.live? segment)
  /-- Where the range of a segment cannot even be computed, there is no outcome to compare. -/
  trap : clear.1 = .trap → failing.1 = .trap ∨ failing.1 = .value (.lost .noPersistence)

/-- The same of restoring every registered segment. -/
structure EachSameOrLost (store : Store δ)
    (failing clear : Outcome ε (List (Segment × LoadOutcome)) × Store δ) : Prop where
  cells : ChipView.cells failing.2.device = ChipView.cells store.device
  kept : ∀ found, failing.1 = .value found → ∀ segment reason, (segment, .lost reason) ∈ found →
    failing.2.live? segment = store.live? segment
  outcomes : ∀ plain, clear.1 = .value plain → ∃ found, failing.1 = .value found ∧
    plain.map Prod.fst = store.registered ∧ found.map Prod.fst = store.registered ∧
    ∀ both ∈ plain.zip found, Impairs both.1.2 both.2.2 ∧
      (both.2.2 = .restored → failing.2.live? both.2.1 = clear.2.live? both.2.1)

theorem Impaired.sameOrLost (impaired : Impaired store clear) (segment : Segment) :
    SameOrLost segment store (Store.restore segment store : Outcome ε LoadOutcome × Store δ)
      (Store.restore segment clear) := by
  have looked := restore_looked (ε := ε) impaired.driver.sound segment
  have spared : Looked [segment] store
      (Store.restore segment store : Outcome ε LoadOutcome × Store δ).2 := by
    exact (looked.mono (fun _ _ => And.left) fun _ => id).reaches
  refine ⟨spared.looks.cells, fun other different => spared.lives other (by simpa using different),
    fun reason lost => (looked.of_fst lost).2 reason rfl, fun plain restores => ?_, fun traps => ?_⟩
  · rcases impaired.outcome (ε := ε) segment with
      ⟨_, _, found, after, clearEnds, ends, impairs, lives⟩ | ⟨clearTraps, -⟩
    · rw [clearEnds] at restores ⊢
      cases restores
      rw [ends]
      exact ⟨found, rfl, impairs, lives⟩
    · rw [clearTraps] at restores
      cases restores
  · rcases impaired.outcome (ε := ε) segment with ⟨_, _, _, _, clearEnds, -⟩ | ⟨-, told⟩
    · rw [clearEnds] at traps
      cases traps
    · exact told

theorem Impaired.eachSameOrLost (impaired : Impaired store clear)
    (registered : clear.registered = store.registered) :
    EachSameOrLost store (restoreAll store : Outcome ε (List (Segment × LoadOutcome)) × Store δ)
      (restoreAll clear) := by
  have once : store.registered.Nodup :=
    (by decide : Segment.all.Nodup).sublist List.filter_sublist
  have failing : (restoreAll store : Outcome ε _ × Store δ) =
      Store.restoreEach store.registered store := rfl
  have plainly : (restoreAll clear : Outcome ε _ × Store δ) =
      Store.restoreEach store.registered clear := by rw [← registered]; rfl
  have looked := restoreEach_looked (ε := ε) impaired.driver.sound once
  have spared : Looked store.registered store
      (Store.restoreEach store.registered store : Outcome ε _ × Store δ).2 :=
    (looked.mono (fun _ _ => And.left) fun _ => id).reaches
  rw [failing, plainly]
  refine ⟨spared.looks.cells, fun found ends => (looked.of_fst ends).2.2, fun plain restores => ?_⟩
  obtain ⟨found, after, ends, names⟩ := impaired.restoreEach once (Prod.ext restores rfl)
  rw [ends]
  exact ⟨found, rfl, names⟩

theorem impaired_remounted (sound : store.driver.Sound) {fresh : δ}
    (mended : Flash.Mended store.device fresh) : Impaired store (store.remounted fresh) where
  driver := ⟨sound, remounted_sound sound mended, mended, rfl, .inl rfl⟩
  setup := ⟨rfl, fun _ => rfl⟩

/-- Whatever fails while a segment is restored, or all of them are, no cell changes, and no live
bytes change but those of a segment that is restored. Compared with the same call on a device on
which nothing fails, each segment comes to the same outcome, to nothing persistent or to a
corruption, and one that is restored is restored to the same live bytes. -/
theorem restores_same_or_lost (sound : store.driver.Sound) {fresh : δ}
    (mended : Flash.Mended store.device fresh) :
    (∀ segment, SameOrLost segment store
      (restore segment store : Outcome ε LoadOutcome × Store δ)
      (restore segment (store.remounted fresh))) ∧
    EachSameOrLost store (restoreAll store : Outcome ε (List (Segment × LoadOutcome)) × Store δ)
      (restoreAll (store.remounted fresh)) := by
  have impaired := impaired_remounted sound mended
  exact ⟨impaired.sameOrLost, impaired.eachSameOrLost rfl⟩

/-- A store of two segments, both with a committed payload, on a device whose reads may fail. -/
def pairWith (readFails : Nat → Bool) : Store (Glitchy MemoryFlash) :=
  ((Store.start { device := pairChip, readFails } { appSignature := 5 } {}).register
    .applicationData (.blob 2 none .full) [3]).register .uniqueId (.blob 2 none .full) [4]

/-- If the second read fails, then the first segment is lost and keeps its live bytes, and the other
one is restored as without the failure. -/
theorem restores_same_or_lost_sample :
    let failing : Outcome StoreError _ × Store (Glitchy MemoryFlash) :=
      restoreAll (pairWith (· == 1))
    let clear : Outcome StoreError _ × Store (Glitchy MemoryFlash) :=
      restoreAll (pairWith fun _ => false)
    clear.1 = .value [(.applicationData, .restored), (.uniqueId, .restored)] ∧
      ∃ reason, Unread reason ∧
        failing.1 = .value [(.applicationData, .lost reason), (.uniqueId, .restored)] ∧
        failing.2.live? .applicationData = some [3] ∧
        failing.2.live? .uniqueId = clear.2.live? .uniqueId := by
  have sound : (pairWith (· == 1)).driver.Sound := ⟨⟨rfl, trivial⟩, fun _ known => nomatch known⟩
  have mended : Flash.Mended (pairWith (· == 1)).device (pairWith fun _ => false).device :=
    ⟨⟨fun _ => rfl, fun _ => rfl, trivial⟩, ⟨rfl, trivial⟩, rfl, rfl⟩
  have each := (restores_same_or_lost (ε := StoreError) sound mended).2
  have clearly : (restoreAll (pairWith fun _ => false) : Outcome StoreError _ × _).1 =
      .value [(.applicationData, .restored), (.uniqueId, .restored)] := by decide +kernel
  have failing : (restoreAll (pairWith (· == 1)) : Outcome StoreError _ × _).1 =
      .value [(.applicationData, .lost (.corruption (.headerUnread (.flash (.io .readGlitch))))),
        (.uniqueId, .restored)] := by decide +kernel
  obtain ⟨found, ends, -, -, both⟩ := each.outcomes _ clearly
  cases failing.symm.trans ends
  refine ⟨clearly, _, .inr ⟨_, rfl⟩, failing, ?_, ?_⟩
  · exact each.kept _ failing .applicationData _ List.mem_cons_self
  · exact (both ((.uniqueId, .restored), (.uniqueId, .restored)) (by simp)).2 rfl

end Store

end NorStore
