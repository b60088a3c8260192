/-
# Segments with a place of their own

Where a segment lies is settled by the geometry of the chip and the capacities, before the
driver asks for either. A planned driver finds it there, or cannot use its device at all,
as when the geometry could not be asked for. So the range of a segment does not depend on
what happens, and an access to one segment stays out of the ranges of all others.
-/

import NorStore.Proofs.Driver.Transaction

namespace NorStore.SegmentDriver

open NorStore.Flash (BlockDevice Cells ChipView Keeps NorDevice)
open NorStore.Flash.ChipView (cells shape)

variable {δ : Type} [BlockDevice δ] [NorDevice δ] {driver middle reached : SegmentDriver δ}
  {segment other : Segment} {entry range : MapEntry}

/-- The map of the chip for these capacities gives the segment this range. -/
def Placed (driver : SegmentDriver δ) (segment : Segment) (entry : MapEntry) : Prop :=
  ∃ map, MemoryMap.planned (shape driver.device) driver.capacities = .value map ∧
    map.entry? segment = some entry

/-- The device has been found usable, or is going to be. -/
structure Usable (driver : SegmentDriver δ) : Prop where
  steady : ChipView.Steady driver.device
  found : ∀ reason, driver.planner ≠ .failed reason

/-- The segment has this range in the map, or is going to have it once the map is made. A
device that was found unusable gives no range at all. -/
structure Allotted (driver : SegmentDriver δ) (segment : Segment) (entry : MapEntry) : Prop where
  known : ∀ map, driver.planner = .mapped map → map.entry? segment = some entry
  coming : driver.planner = .unmapped → driver.Placed segment entry

/-- Asked for the segment, the driver gives this range, or fails as its device cannot be used. -/
def Gives (driver : SegmentDriver δ) (segment : Segment) (entry : MapEntry) : Prop :=
  (ensureMapped segment driver).1 = .value entry ∨
    (∃ cause, (ensureMapped segment driver).1 = .error cause) ∧ ¬ driver.Usable

/-- What an access to a segment does at most. -/
structure Advances (entry : MapEntry) (before after : SegmentDriver δ) : Prop where
  sound : before.Sound → after.Sound
  planned : before.Planned → after.Planned
  usable : before.Usable → after.Usable
  allotted : ∀ other range, before.Allotted other range → after.Allotted other range
  capacities : after.capacities = before.capacities
  keeps : Keeps before.device after.device
  outside : Cells.AgreeOutside (before.base entry) entry.reserved (cells before.device)
    (cells after.device)
  dead : ChipView.Lost before.device → cells after.device = cells before.device

theorem Placed.of_keeps (placed : driver.Placed segment entry)
    (keeps : Keeps driver.device reached.device)
    (capacities : reached.capacities = driver.capacities) : reached.Placed segment entry := by
  rw [Placed, keeps.shape, capacities]
  exact placed

/-- Two segments that have a place have it in one map. -/
private theorem Placed.both (placed : driver.Placed segment entry)
    (also : driver.Placed other range) : ∃ map,
      MemoryMap.planned (shape driver.device) driver.capacities = .value map ∧
        map.entry? segment = some entry ∧ map.entry? other = some range := by
  obtain ⟨map, plans, lookup⟩ := placed
  obtain ⟨again, replans, found⟩ := also
  rw [plans] at replans
  cases replans
  exact ⟨map, plans, lookup, found⟩

theorem Placed.unique (placed : driver.Placed segment entry)
    (also : driver.Placed segment range) : range = entry := by
  obtain ⟨map, -, lookup, found⟩ := placed.both also
  exact Option.some.inj (found.symm.trans lookup)

theorem Planned.placed (planned : driver.Planned) (mapped : driver.Mapped segment entry) :
    driver.Placed segment entry := by
  obtain ⟨map, known, lookup⟩ := mapped
  exact ⟨map, planned.planned map known, lookup⟩

/-- In a planned driver every segment that has a place is allotted it. -/
theorem Planned.allotted (planned : driver.Planned) (placed : driver.Placed segment entry) :
    driver.Allotted segment entry := by
  refine ⟨fun map known => ?_, fun _ => placed⟩
  obtain ⟨again, plans, lookup⟩ := placed
  rw [planned.planned map known] at plans
  cases plans
  exact lookup

/-- The ranges of two segments share no byte. -/
theorem Placed.apart (placed : driver.Placed segment entry) (also : driver.Placed other range)
    (different : other ≠ segment) : range.Apart entry := by
  obtain ⟨map, plans, lookup, found⟩ := placed.both also
  exact (MemoryMap.planned_eq_value plans).1.laidOut.apart other segment range entry found lookup
    different

theorem Placed.fits (placed : driver.Placed segment entry) : entry.Fits (shape driver.device) := by
  obtain ⟨map, plans, lookup⟩ := placed
  exact (MemoryMap.planned_eq_value plans).1.laidOut.fits segment entry lookup

/-! ## Asking for the range -/

/-- What planning comes to over a chip whose map can be made. -/
theorem plan_of_planned {map : MemoryMap} (honest : ChipView.Honest driver.device)
    (plans : MemoryMap.planned (shape driver.device) driver.capacities = .value map) :
    driver.plan = .value (.mapped map) ∨
      ∃ cause, BlockDevice.geometry driver.device = .error cause ∧
        driver.plan = .value (.failed (.device cause)) ∧ ¬ ChipView.Steady driver.device := by
  rw [MemoryMap.planned, Outcome.bind_eq_value_iff] at plans
  obtain ⟨start, starts, fitted⟩ := plans
  cases reported : BlockDevice.geometry driver.device with
  | error cause =>
      refine .inr ⟨cause, rfl, by rw [plan, reported]; rfl, fun steady => ?_⟩
      rw [NorDevice.geometry_of_steady honest steady] at reported
      contradiction
  | ok geometry =>
      have same := NorDevice.geometry_eq honest reported
      subst same
      refine .inl ?_
      rw [plan, reported]
      simp only [starts, fitted]
      rfl

/-- A steady device is not found unusable. -/
theorem plan_of_steady {planner : Planner} (honest : ChipView.Honest driver.device)
    (steady : ChipView.Steady driver.device) (plans : driver.plan = .value planner) :
    ∃ map, planner = .mapped map := by
  rcases plan_eq_value plans with ⟨reason, rfl⟩ | ⟨map, _, rfl, -⟩
  · rw [plan, NorDevice.geometry_of_steady honest steady] at plans
    simp only [MemoryMap.empty_of_valid (NorDevice.valid driver.device)] at plans
    by_cases ends :
        (shape driver.device).regionOffset + (shape driver.device).regionSize < Word.limit
    · simp only [Flash.Geometry.regionEnd, Word.add_of_lt ends, Outcome.value_bind,
        Outcome.pure_eq, Outcome.bind_eq_value_iff] at plans
      obtain ⟨_, -, impossible⟩ := plans
      have clash := Outcome.value.inj impossible
      contradiction
    · simp only [Flash.Geometry.regionEnd, Word.add, if_neg ends, Outcome.trap_bind] at plans
      contradiction
  · exact ⟨map, rfl⟩

/-- A driver gives a segment the range that it is allotted, unless its device cannot be used. -/
theorem Allotted.gives (allotted : driver.Allotted segment entry)
    (honest : ChipView.Honest driver.device) : driver.Gives segment entry := by
  cases known : driver.planner with
  | mapped map =>
      have mapped : driver.Mapped segment entry := ⟨map, known, allotted.known map known⟩
      exact .inl (congrArg Prod.fst (ensureMapped_of_mapped mapped))
  | failed reason =>
      exact .inr ⟨⟨_, congrArg Prod.fst (ensureMapped_of_failed known)⟩,
        fun usable => usable.found reason known⟩
  | unmapped =>
      obtain ⟨map, plans, lookup⟩ := allotted.coming known
      rcases plan_of_planned honest plans with made | ⟨cause, -, failed, unsteady⟩
      · refine .inl ?_
        rw [ensureMapped_of_plan known made, ensureMapped_of_mapped ⟨map, rfl, lookup⟩]
      · have asked : ensureMapped segment driver =
            (.error (.deviceUnavailable (.device cause)), _) :=
          (ensureMapped_of_plan known failed).trans (ensureMapped_of_failed rfl)
        exact .inr ⟨⟨_, congrArg Prod.fst asked⟩, fun usable => unsteady usable.steady⟩

/-- A segment keeps the range that it is allotted, whichever is asked for. -/
theorem Allotted.ensureMapped (allotted : driver.Allotted other range)
    (honest : ChipView.Honest driver.device) (segment : Segment) :
    (ensureMapped segment driver).2.Allotted other range := by
  refine ensureMapped_induction segment (·.Allotted other range) allotted ?_ ?_
  · intro planner unmapped plans
    obtain ⟨map, made, lookup⟩ := allotted.coming unmapped
    refine ⟨fun again known => ?_, fun still => ?_⟩
    · have same := planned_of_plan honest plans known
      rw [made] at same
      cases same
      exact lookup
    · rcases plan_eq_value plans with ⟨reason, rfl⟩ | ⟨_, _, rfl, -⟩ <;> contradiction
  · intro start map next maxPayload entry before known _ _ placed
    refine ⟨fun again same => ?_, nofun⟩
    cases same
    exact (MemoryMap.place_extends placed).2.2 other range (before.known map known)

/-- The range that a planned driver gives is the place of the segment. -/
theorem Planned.placed_of_asked (planned : driver.Planned)
    (asked : SegmentDriver.ensureMapped segment driver = (.value entry, reached)) :
    driver.Placed segment entry := by
  have capacities := capacities_ensureMapped segment driver
  have later := planned.ensureMapped segment
  rw [asked] at capacities later
  have placed := later.placed (mapped_of_ensureMapped asked)
  rwa [Placed, device_of_ensureMapped asked, capacities] at placed

/-- A planned driver whose device can be used gives the segment its range. -/
theorem Usable.asked (usable : driver.Usable) (planned : driver.Planned)
    (placed : driver.Placed segment entry) :
    ∃ found, SegmentDriver.ensureMapped segment driver = (.value entry, found) := by
  rcases (planned.allotted placed).gives planned.honest with given | ⟨-, unusable⟩
  · exact ⟨_, Prod.ext given rfl⟩
  · exact absurd usable unusable

theorem advances_ensureMapped (sound : driver.Sound) (segment : Segment) (entry : MapEntry) :
    Advances entry driver (ensureMapped segment driver).2 := by
  have device := device_ensureMapped segment driver
  refine ⟨fun sound => sound.ensureMapped segment, fun planned => planned.ensureMapped segment,
    fun usable => ?_, fun other range allotted => allotted.ensureMapped sound.honest segment,
    capacities_ensureMapped segment driver, device ▸ .refl _, device ▸ .refl _ _ _,
    fun _ => by rw [device]⟩
  refine ensureMapped_induction segment (·.Usable) usable (fun planner _ plans => ?_) ?_
  · obtain ⟨map, rfl⟩ := plan_of_steady sound.honest usable.steady plans
    exact ⟨usable.steady, nofun⟩
  · intro start map next maxPayload entry before _ _ _ _
    exact ⟨before.steady, nofun⟩

/-! ## Accesses, one after another -/

/-- A change in one range leaves the bytes of a range that is apart from it. -/
theorem contents_of_apart (same : shape reached.device = shape driver.device)
    (outside : Cells.AgreeOutside (driver.base entry) entry.reserved (cells driver.device)
      (cells reached.device))
    (apart : range.Apart entry) (mine : (shape driver.device).regionOffset ≤ entry.start)
    (theirs : (shape driver.device).regionOffset ≤ range.start) :
    reached.contents range = driver.contents range := by
  rw [MapEntry.Apart, MapEntry.past, MapEntry.past] at apart
  have places : driver.base range + range.reserved ≤ driver.base entry ∨
      driver.base entry + entry.reserved ≤ driver.base range := by
    rw [SegmentDriver.base, SegmentDriver.base]
    omega
  have kept : reached.base range = driver.base range := by
    rw [SegmentDriver.base, same, SegmentDriver.base]
  rw [contents, kept, Cells.slice_eq_of_agreeOutside outside places, contents]

namespace Advances

theorem base (advances : Advances entry driver reached) (range : MapEntry) :
    reached.base range = driver.base range := by
  rw [SegmentDriver.base, advances.keeps.shape, SegmentDriver.base]

theorem trans (one : Advances entry driver middle) (two : Advances entry middle reached) :
    Advances entry driver reached where
  sound := two.sound ∘ one.sound
  planned := two.planned ∘ one.planned
  usable := two.usable ∘ one.usable
  allotted other range := two.allotted other range ∘ one.allotted other range
  capacities := two.capacities.trans one.capacities
  keeps := one.keeps.trans two.keeps
  outside := one.outside.trans (one.base entry ▸ two.outside)
  dead lost := (two.dead (one.keeps.lost lost)).trans (one.dead lost)

theorem placed (advances : Advances entry driver reached) (placed : driver.Placed other range) :
    reached.Placed other range := placed.of_keeps advances.keeps advances.capacities

/-- The bytes of another segment stay. -/
theorem contents_of_ne (advances : Advances entry driver reached)
    (placed : driver.Placed segment entry) (also : driver.Placed other range)
    (different : other ≠ segment) : reached.contents range = driver.contents range :=
  contents_of_apart advances.keeps.shape advances.outside (placed.apart also different)
    placed.fits.first also.fits.first

/-- Cells that have not changed are the same bytes of every range. -/
theorem contents_of_cells (advances : Advances entry driver reached)
    (same : cells reached.device = cells driver.device) (range : MapEntry) :
    reached.contents range = driver.contents range := by
  rw [contents, advances.base, same, contents]

end Advances

theorem Confined.advances (confined : Confined entry driver reached) :
    Advances entry driver reached where
  sound := confined.toFollows.sound
  planned := confined.toFollows.planned
  usable usable := ⟨confined.keeps.steady usable.steady,
    fun reason known => usable.found reason (confined.planner.symm.trans known)⟩
  allotted _ _ allotted := ⟨fun map known => allotted.known map (confined.planner.symm.trans known),
    fun unmapped => (allotted.coming (confined.planner.symm.trans unmapped)).of_keeps
      confined.keeps confined.capacities⟩
  capacities := confined.capacities
  keeps := confined.keeps
  outside := confined.outside
  dead := confined.dead

/-- In the range of a planned segment there is room for its largest payload. -/
theorem Placed.room {maxPayload : Nat} (placed : driver.Placed segment entry)
    (capacity : driver.capacities.get segment = some maxPayload) :
    Header.size + maxPayload ≤ entry.maxDataSize := by
  have fits := placed.fits
  obtain ⟨map, plans, lookup⟩ := placed
  obtain ⟨size, known, reserved⟩ := MemoryMap.sizedFor_planned plans segment entry lookup
  rw [capacity] at known
  cases known
  have least := Flash.Geometry.le_covering (NorDevice.valid driver.device).blockSize_pos
    (Ledger.size + Header.size + maxPayload)
  rw [fits.maxDataSize, reserved]
  omega

end NorStore.SegmentDriver
