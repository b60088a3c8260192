/-
# Which range a segment has

Everything the driver does to a segment starts by asking for its range. The answer may
plan the map and may place the segment, but it touches neither the device nor the
capacities, and a range that was given once is given again.

A driver is *sound* if its device reports its own geometry and its map was grown from
it. *Planned* says more: the map is the one that a driver over the same device would plan
from the same capacities, as it is when everything is reserved before the first access.
-/

import NorStore.Driver.Basic
import NorStore.Proofs.Flash.NorDevice
import NorStore.Proofs.Layout

namespace NorStore.SegmentDriver

open NorStore.Flash (BlockDevice ChipView Keeps NorDevice)

variable {δ : Type}

/-- The driver has a map, in which the segment has the given range. -/
def Mapped (driver : SegmentDriver δ) (segment : Segment) (entry : MapEntry) : Prop :=
  ∃ map, driver.planner = .mapped map ∧ map.entry? segment = some entry

section View

variable [ChipView δ]

/-- The device reports its own geometry, and the map was grown from it. -/
structure Sound (driver : SegmentDriver δ) : Prop where
  honest : ChipView.Honest driver.device
  grown : ∀ map, driver.planner = .mapped map →
    MemoryMap.Grown (ChipView.shape driver.device) map

/-- The map is the one that the capacities lead to when they are all known from the start. -/
structure Planned (driver : SegmentDriver δ) : Prop where
  honest : ChipView.Honest driver.device
  planned : ∀ map, driver.planner = .mapped map →
    MemoryMap.planned (ChipView.shape driver.device) driver.capacities = .value map

/-- The range of a segment bears its name. -/
theorem Sound.segment_eq {driver : SegmentDriver δ} {segment : Segment} {entry : MapEntry}
    (sound : driver.Sound) (mapped : driver.Mapped segment entry) : entry.segment = segment := by
  obtain ⟨map, known, found⟩ := mapped
  exact (sound.grown map known).segment_eq found

theorem Planned.sound {driver : SegmentDriver δ} (planned : driver.Planned) : driver.Sound :=
  ⟨planned.honest, fun map mapped => (MemoryMap.planned_eq_value (planned.planned map mapped)).1⟩

/-- The same driver over a device that has moved on. -/
structure Follows (before after : SegmentDriver δ) : Prop where
  planner : after.planner = before.planner
  capacities : after.capacities = before.capacities
  keeps : Keeps before.device after.device

namespace Follows

variable {first second third : SegmentDriver δ}

theorem refl (driver : SegmentDriver δ) : Follows driver driver := ⟨rfl, rfl, .refl _⟩

theorem trans (one : Follows first second) (two : Follows second third) : Follows first third :=
  ⟨two.planner.trans one.planner, two.capacities.trans one.capacities, one.keeps.trans two.keeps⟩

theorem mapped {segment : Segment} {entry : MapEntry} (follows : Follows first second)
    (mapped : first.Mapped segment entry) : second.Mapped segment entry := by
  obtain ⟨map, known, found⟩ := mapped
  exact ⟨map, follows.planner.trans known, found⟩

theorem sound (follows : Follows first second) (sound : first.Sound) : second.Sound where
  honest := follows.keeps.honest sound.honest
  grown map known := by
    rw [follows.keeps.shape]
    exact sound.grown map (follows.planner.symm.trans known)

theorem planned (follows : Follows first second) (planned : first.Planned) : second.Planned where
  honest := follows.keeps.honest planned.honest
  planned map known := by
    rw [follows.keeps.shape, follows.capacities]
    exact planned.planned map (follows.planner.symm.trans known)

end Follows

end View

variable [BlockDevice δ] {driver reached : SegmentDriver δ} {segment : Segment} {entry : MapEntry}
  {map : MemoryMap}

/-! ## Asking for a range, case by case -/

private theorem planOnce_of_mapped (known : driver.planner = .mapped map) :
    planOnce driver = (.value (), driver) := by rw [planOnce, known]

theorem ensureMapped_of_mapped (mapped : driver.Mapped segment entry) :
    ensureMapped segment driver = (.value entry, driver) := by
  obtain ⟨map, known, found⟩ := mapped
  rw [ensureMapped, Action.bind_of_value (planOnce_of_mapped known), Action.get_bind]
  simp only [known, found]
  rfl

theorem ensureMapped_of_failed {reason : Unavailability}
    (failed : driver.planner = .failed reason) :
    ensureMapped segment driver = (.error (.deviceUnavailable reason), driver) := by
  have kept : planOnce driver = (.value (), driver) := by rw [planOnce, failed]
  rw [ensureMapped, Action.bind_of_value kept, Action.get_bind]
  simp only [failed]
  rfl

theorem ensureMapped_of_unreserved (known : driver.planner = .mapped map)
    (vacant : map.entry? segment = none) (unreserved : driver.capacity? segment = none) :
    ensureMapped segment driver = (.error (.unregistered segment), driver) := by
  rw [ensureMapped, Action.bind_of_value (planOnce_of_mapped known), Action.get_bind]
  simp only [known, vacant, unreserved]
  rfl

/-- A segment that was reserved after the map was planned is placed when it is asked for. -/
theorem ensureMapped_of_vacant {maxPayload : Nat} (known : driver.planner = .mapped map)
    (vacant : map.entry? segment = none) (reserved : driver.capacity? segment = some maxPayload) :
    ensureMapped segment driver =
      match MemoryMap.place segment maxPayload map with
      | (.value entry, next) => (.value entry, { driver with planner := .mapped next })
      | (.error cause, _) => (.error cause, driver)
      | (.trap, _) => (.trap, driver) := by
  rw [ensureMapped, Action.bind_of_value (planOnce_of_mapped known), Action.get_bind]
  simp only [known, vacant, reserved]
  -- A refused segment leaves the map as it is, and so the driver.
  have same : { driver with planner := .mapped map } = driver := by rw [← known]
  rcases MemoryMap.place_cases segment maxPayload map with
    ⟨entry, next, places⟩ | ⟨cause, refused⟩ | traps
  · rw [onMap, places]
  · rw [onMap, refused]
    exact congrArg (Prod.mk _) same
  · rw [onMap, traps]
    exact congrArg (Prod.mk _) same

/-- A plan that succeeds as a computation either found the device unusable or made the map of
the geometry that the device reports. -/
theorem plan_eq_value {planner : Planner} (plans : driver.plan = .value planner) :
    (∃ reason, planner = .failed reason) ∨
      ∃ map geometry, planner = .mapped map ∧
        BlockDevice.geometry driver.device = .ok geometry ∧
        MemoryMap.planned geometry driver.capacities = .value map := by
  rw [plan] at plans
  split at plans
  · cases plans
    exact .inl ⟨_, rfl⟩
  · rename_i geometry reported
    split at plans
    · contradiction
    · cases plans
      exact .inl ⟨_, rfl⟩
    · cases plans
      exact .inl ⟨_, rfl⟩
    · rename_i map starts
      rw [Outcome.bind_eq_value_iff] at plans
      obtain ⟨planned, fitted, result⟩ := plans
      cases result
      refine .inr ⟨planned, geometry, rfl, reported, ?_⟩
      rw [MemoryMap.planned, starts]
      exact fitted

/-- At the first access the map is planned, and then the range is looked up in it. -/
theorem ensureMapped_of_plan {planner : Planner} (unmapped : driver.planner = .unmapped)
    (plans : driver.plan = .value planner) :
    ensureMapped segment driver = ensureMapped segment { driver with planner } := by
  have tried : planOnce driver = (.value (), { driver with planner }) := by
    rw [planOnce, unmapped]
    simp only [plans]
  have again : planOnce { driver with planner } = (.value (), { driver with planner }) := by
    rcases plan_eq_value plans with ⟨reason, rfl⟩ | ⟨map, geometry, rfl, -⟩ <;> rfl
  rw [ensureMapped, Action.bind_of_value tried, Action.bind_of_value again]

/-- A plan that comes to nothing leaves the driver as it was. -/
theorem ensureMapped_of_no_plan (segment : Segment) (unmapped : driver.planner = .unmapped)
    (fails : ∀ planner, driver.plan ≠ .value planner) :
    ∃ outcome, ensureMapped segment driver = (outcome, driver) ∧
      ∀ entry, outcome ≠ .value entry := by
  cases plans : driver.plan with
  | value planner => exact absurd plans (fails planner)
  | error cause =>
      have tried : planOnce driver = (.error cause, driver) := by
        rw [planOnce, unmapped]
        simp only [plans]
      refine ⟨.error cause, ?_, nofun⟩
      rw [ensureMapped, Action.bind_of_error tried]
  | trap =>
      have tried : planOnce driver = (.trap, driver) := by
        rw [planOnce, unmapped]
        simp only [plans]
      refine ⟨.trap, ?_, nofun⟩
      rw [ensureMapped, Action.bind_of_trap tried]

/-! ## What asking for a range keeps -/

/-- Once the map is there, a range is found in it, or the segment is placed, or neither the
answer is a range nor does the driver change. -/
private theorem ensureMapped_of_known (segment : Segment)
    (known : driver.planner = .mapped map) :
    (∃ entry, driver.Mapped segment entry ∧
        ensureMapped segment driver = (.value entry, driver)) ∨
      (∃ map maxPayload entry next, driver.planner = .mapped map ∧
        map.entry? segment = none ∧ driver.capacity? segment = some maxPayload ∧
        MemoryMap.place segment maxPayload map = (.value entry, next) ∧
        ensureMapped segment driver = (.value entry, { driver with planner := .mapped next })) ∨
      ∃ outcome, ensureMapped segment driver = (outcome, driver) ∧
        ∀ entry, outcome ≠ .value entry := by
  cases lookup : map.entry? segment with
  | some entry =>
      have mapped : driver.Mapped segment entry := ⟨map, known, lookup⟩
      exact .inl ⟨entry, mapped, ensureMapped_of_mapped mapped⟩
  | none =>
      right
      cases capacity : driver.capacity? segment with
      | none => exact .inr ⟨_, ensureMapped_of_unreserved known lookup capacity, nofun⟩
      | some maxPayload =>
          have asked := ensureMapped_of_vacant known lookup capacity
          rcases MemoryMap.place_cases segment maxPayload map with
            ⟨entry, next, places⟩ | ⟨cause, refused⟩ | traps
          · rw [places] at asked
            exact .inl ⟨map, maxPayload, entry, next, known, lookup, rfl, places, asked⟩
          · rw [refused] at asked
            exact .inr ⟨_, asked, nofun⟩
          · rw [traps] at asked
            exact .inr ⟨_, asked, nofun⟩

/-- Asking for a range starts from the driver, planned if it had no map, and finds the range,
or places the segment, or stops there. -/
private theorem ensureMapped_cases (segment : Segment) (driver : SegmentDriver δ) :
    ∃ start, (start = driver ∨ ∃ planner, driver.planner = .unmapped ∧
        driver.plan = .value planner ∧ start = { driver with planner }) ∧
      ((∃ entry, start.Mapped segment entry ∧
          ensureMapped segment driver = (.value entry, start)) ∨
        (∃ map maxPayload entry next, start.planner = .mapped map ∧
          map.entry? segment = none ∧ start.capacity? segment = some maxPayload ∧
          MemoryMap.place segment maxPayload map = (.value entry, next) ∧
          ensureMapped segment driver = (.value entry, { start with planner := .mapped next })) ∨
        ∃ outcome, ensureMapped segment driver = (outcome, start) ∧
          ∀ entry, outcome ≠ .value entry) := by
  cases planner : driver.planner with
  | unmapped =>
      by_cases succeeds : ∃ planner, driver.plan = .value planner
      · obtain ⟨planned, succeeds⟩ := succeeds
        refine ⟨{ driver with planner := planned }, .inr ⟨planned, rfl, succeeds, rfl⟩, ?_⟩
        rw [ensureMapped_of_plan planner succeeds]
        rcases plan_eq_value succeeds with ⟨reason, rfl⟩ | ⟨map, geometry, rfl, -⟩
        · exact .inr (.inr ⟨_, ensureMapped_of_failed rfl, nofun⟩)
        · have known : ({ driver with planner := .mapped map } : SegmentDriver δ).planner =
              .mapped map := rfl
          exact ensureMapped_of_known segment known
      · exact ⟨driver, .inl rfl,
          .inr (.inr (ensureMapped_of_no_plan segment planner (not_exists.1 succeeds)))⟩
  | mapped map => exact ⟨driver, .inl rfl, ensureMapped_of_known segment planner⟩
  | failed reason =>
      exact ⟨driver, .inl rfl, .inr (.inr ⟨_, ensureMapped_of_failed planner, nofun⟩)⟩

/-- What planning and placing keep holds after a range was asked for. -/
theorem ensureMapped_induction (segment : Segment) (holds : SegmentDriver δ → Prop)
    (before : holds driver)
    (plans : ∀ planner, driver.planner = .unmapped → driver.plan = .value planner →
      holds { driver with planner })
    (places : ∀ (start : SegmentDriver δ) map next maxPayload entry, holds start →
      start.planner = .mapped map → start.capacity? segment = some maxPayload →
      map.entry? segment = none → MemoryMap.place segment maxPayload map = (.value entry, next) →
      holds { start with planner := .mapped next }) :
    holds (ensureMapped segment driver).2 := by
  obtain ⟨start, origin, answer⟩ := ensureMapped_cases segment driver
  have begins : holds start := by
    rcases origin with rfl | ⟨planner, unmapped, succeeds, rfl⟩
    · exact before
    · exact plans planner unmapped succeeds
  rcases answer with ⟨entry, -, asked⟩ |
    ⟨map, maxPayload, entry, next, known, vacant, capacity, placed, asked⟩ | ⟨outcome, asked, -⟩
  · rwa [asked]
  · rw [asked]
    exact places start map next maxPayload entry begins known capacity vacant placed
  · rwa [asked]

/-- A range that was given is in the map from then on. -/
theorem mapped_of_ensureMapped (asked : ensureMapped segment driver = (.value entry, reached)) :
    reached.Mapped segment entry := by
  obtain ⟨start, -, answer⟩ := ensureMapped_cases segment driver
  rcases answer with ⟨found, mapped, answer⟩ |
    ⟨map, maxPayload, found, next, -, vacant, -, placed, answer⟩ | ⟨outcome, answer, missing⟩
  · rw [answer] at asked
    cases asked
    exact mapped
  · rw [answer] at asked
    cases asked
    rcases MemoryMap.place_eq_value placed with ⟨lookup, -⟩ | ⟨-, -, -, -, -, rfl⟩
    · rw [vacant] at lookup
      contradiction
    · exact ⟨_, rfl, MemoryMap.lookup_set_self ..⟩
  · rw [answer] at asked
    cases asked
    exact absurd rfl (missing entry)

/-- Asking for the range first makes no difference to an access that asks for it itself. -/
theorem ensureMapped_bind {α : Type} (asked : ensureMapped segment driver = (.value entry, reached))
    (next : MapEntry → Action (SegmentDriver δ) StoreError α) :
    (ensureMapped segment >>= next) driver = (ensureMapped segment >>= next) reached := by
  rw [Action.bind_of_value asked,
    Action.bind_of_value (ensureMapped_of_mapped (mapped_of_ensureMapped asked))]

@[simp]
theorem device_ensureMapped (segment : Segment) (driver : SegmentDriver δ) :
    (ensureMapped segment driver).2.device = driver.device :=
  ensureMapped_induction segment (·.device = driver.device) rfl (fun _ _ _ => rfl)
    fun _ _ _ _ _ same _ _ _ _ => same

@[simp]
theorem capacities_ensureMapped (segment : Segment) (driver : SegmentDriver δ) :
    (ensureMapped segment driver).2.capacities = driver.capacities :=
  ensureMapped_induction segment (·.capacities = driver.capacities) rfl (fun _ _ _ => rfl)
    fun _ _ _ _ _ same _ _ _ _ => same

/-- Giving a range does nothing to the device. -/
theorem device_of_ensureMapped (asked : ensureMapped segment driver = (.value entry, reached)) :
    reached.device = driver.device := by
  have same := device_ensureMapped segment driver
  rwa [asked] at same

/-! ## What the answer is up to -/

/-- Planning again changes nothing. -/
theorem ensureMapped_planOnce (segment : Segment) (driver : SegmentDriver δ) :
    ensureMapped segment (planOnce driver).2 = ensureMapped segment driver := by
  cases known : driver.planner with
  | mapped map => rw [planOnce_of_mapped known]
  | failed reason =>
      have kept : planOnce driver = (.value (), driver) := by rw [planOnce, known]
      rw [kept]
  | unmapped =>
      rw [planOnce, known]
      dsimp only
      split
      · rename_i planner plans
        rw [ensureMapped_of_plan known plans]
      · rfl
      · rfl

/-- What planning comes to is up to the geometry, and not to the cells. -/
theorem planOnce_over {device : δ}
    (geometry : BlockDevice.geometry device = BlockDevice.geometry driver.device) :
    planOnce { driver with device } =
      ((planOnce driver).1, { (planOnce driver).2 with device }) := by
  obtain ⟨own, capacities, planner⟩ := driver
  cases planner with
  | mapped map => rfl
  | failed reason => rfl
  | unmapped =>
      have plans : plan ⟨device, capacities, .unmapped⟩ = plan ⟨own, capacities, .unmapped⟩ := by
        rw [plan, plan, geometry]
      rw [planOnce, planOnce]
      dsimp only
      rw [plans]
      cases plan ⟨own, capacities, .unmapped⟩ <;> rfl

/-- If planning comes to the same over another device, then so does asking for a range. -/
theorem ensureMapped_over_of_planOnce {device : δ}
    (plans : planOnce { driver with device } =
      ((planOnce driver).1, { (planOnce driver).2 with device }))
    (segment : Segment) :
    ensureMapped segment { driver with device } =
      ((ensureMapped segment driver).1, { (ensureMapped segment driver).2 with device }) := by
  rw [ensureMapped, Action.bind_apply, Action.bind_apply, Action.bind, Action.bind, plans]
  rcases planOnce driver with ⟨_ | _ | _, own, capacities, planner⟩
  · cases planner with
    | unmapped => rfl
    | failed reason => rfl
    | mapped map =>
        dsimp only
        rw [Action.get_bind, Action.get_bind, capacity?, capacity?]
        dsimp only
        cases map.entry? segment with
        | some entry => rfl
        | none =>
            cases capacities.get segment with
            | none => rfl
            | some maxPayload =>
                rfl
  · rfl
  · rfl

/-- So the answer to which range a segment has is up to the geometry. -/
theorem ensureMapped_over {device : δ}
    (geometry : BlockDevice.geometry device = BlockDevice.geometry driver.device)
    (segment : Segment) :
    ensureMapped segment { driver with device } =
      ((ensureMapped segment driver).1, { (ensureMapped segment driver).2 with device }) :=
  ensureMapped_over_of_planOnce (planOnce_over geometry) segment

/-- Once there is a map, it is not even up to that. -/
theorem ensureMapped_over_of_known {device : δ} (known : driver.planner = .mapped map)
    (segment : Segment) :
    ensureMapped segment { driver with device } =
      ((ensureMapped segment driver).1, { (ensureMapped segment driver).2 with device }) := by
  refine ensureMapped_over_of_planOnce ?_ segment
  have also : ({ driver with device } : SegmentDriver δ).planner = .mapped map := known
  rw [planOnce_of_mapped known, planOnce_of_mapped also]

/-- The same driver, whether its map was planned or not, over a device that reports the same
geometry. -/
structure Kin (before after : SegmentDriver δ) : Prop where
  planner : after.planner = before.planner ∨ after.planner = (planOnce before).2.planner
  capacities : after.capacities = before.capacities
  geometry : BlockDevice.geometry after.device = BlockDevice.geometry before.device

/-- Planning changes nothing but the map. -/
theorem planOnce_snd (driver : SegmentDriver δ) :
    (planOnce driver).2 = { driver with planner := (planOnce driver).2.planner } := by
  rw [planOnce]
  split
  · split <;> rfl
  · rfl
  · rfl

/-- Kindred drivers give every segment the same range. -/
theorem Kin.ensureMapped {before after : SegmentDriver δ} (kin : Kin before after)
    (segment : Segment) : ensureMapped segment after =
      ((ensureMapped segment before).1,
        { (ensureMapped segment before).2 with device := after.device }) := by
  have planned := planOnce_snd before
  obtain ⟨device, capacities, planner⟩ := after
  obtain ⟨rfl | rfl, rfl, geometry⟩ := kin
  · exact ensureMapped_over geometry segment
  · have same : BlockDevice.geometry device =
        BlockDevice.geometry (planOnce before).2.device := by rw [planned, geometry]
    have told := ensureMapped_over same segment
    rw [ensureMapped_planOnce, planned] at told
    exact told

/-- Whether an unplanned driver gives a segment a range is up to the geometry and the
capacities, and not to the cells. -/
theorem ensureMapped_congr {first second : SegmentDriver δ} (segment : Segment)
    (unmapped : first.planner = .unmapped) (also : second.planner = .unmapped)
    (capacities : second.capacities = first.capacities)
    (geometry : BlockDevice.geometry second.device = BlockDevice.geometry first.device) :
    (ensureMapped segment second).1 = (ensureMapped segment first).1 := by
  have same : second = { first with device := second.device } := by
    cases second
    simp_all
  rw [same, ensureMapped_over geometry]

/-- Asking for a range plans the map, and places the segment if it has no range yet. -/
theorem ensureMapped_snd (segment : Segment) (driver : SegmentDriver δ) :
    (ensureMapped segment driver).2 = (planOnce driver).2 ∨
      ∃ map maxPayload entry next, (planOnce driver).2.planner = .mapped map ∧
        map.entry? segment = none ∧ (planOnce driver).2.capacity? segment = some maxPayload ∧
        MemoryMap.place segment maxPayload map = (.value entry, next) := by
  rw [ensureMapped, Action.bind_apply, Action.bind]
  rcases planOnce driver with ⟨_ | _ | _, own, capacities, planner⟩
  · cases planner with
    | unmapped => exact .inl rfl
    | failed reason => exact .inl rfl
    | mapped map =>
        dsimp only
        rw [Action.get_bind]
        dsimp only
        cases vacant : map.entry? segment with
        | some entry => exact .inl rfl
        | none =>
            dsimp only
            cases reserved : capacity? ⟨own, capacities, .mapped map⟩ segment with
            | none => exact .inl rfl
            | some maxPayload =>
                dsimp only
                rcases MemoryMap.place_cases segment maxPayload map with
                  ⟨entry, next, placed⟩ | ⟨cause, refused⟩ | traps
                · exact .inr ⟨map, maxPayload, entry, next, rfl, vacant, rfl, placed⟩
                · rw [onMap, refused]
                  exact .inl rfl
                · rw [onMap, traps]
                  exact .inl rfl
  · exact .inl rfl
  · exact .inl rfl

/-- A segment keeps its range, whichever is asked for. -/
theorem Mapped.ensureMapped (mapped : driver.Mapped segment entry) (other : Segment) :
    (ensureMapped other driver).2.Mapped segment entry := by
  refine ensureMapped_induction other (·.Mapped segment entry) mapped ?_ ?_
  · intro planner unmapped _
    obtain ⟨map, known, -⟩ := mapped
    rw [unmapped] at known
    contradiction
  · intro start map next maxPayload range still known _ _ placed
    obtain ⟨same, again, found⟩ := still
    rw [known] at again
    cases again
    exact ⟨_, rfl, (MemoryMap.place_extends placed).2.2 segment entry found⟩

variable [NorDevice δ]

/-- The map that is planned is the one of the chip, since the device reports that geometry. -/
theorem planned_of_plan {planner : Planner} (honest : ChipView.Honest driver.device)
    (plans : driver.plan = .value planner) (mapped : planner = .mapped map) :
    MemoryMap.planned (ChipView.shape driver.device) driver.capacities = .value map := by
  rcases plan_eq_value plans with ⟨reason, rfl⟩ | ⟨planned, geometry, rfl, reported, made⟩
  · contradiction
  · cases mapped
    rwa [← NorDevice.geometry_eq honest reported]

theorem Sound.ensureMapped (sound : driver.Sound) (segment : Segment) :
    (ensureMapped segment driver).2.Sound := by
  refine ensureMapped_induction segment Sound sound (fun planner _ plans => ?_) ?_
  · exact ⟨sound.honest, fun map mapped =>
      (MemoryMap.planned_eq_value (planned_of_plan sound.honest plans mapped)).1⟩
  · intro start map next maxPayload entry before known _ _ placed
    refine ⟨before.honest, fun later mapped => ?_⟩
    cases mapped
    exact .place (before.grown map known) placed

theorem Sound.of_ensureMapped (sound : driver.Sound)
    (asked : SegmentDriver.ensureMapped segment driver = (.value entry, reached)) :
    reached.Sound := by
  have later := sound.ensureMapped segment
  rwa [asked] at later

theorem Planned.ensureMapped (planned : driver.Planned) (segment : Segment) :
    (ensureMapped segment driver).2.Planned := by
  refine ensureMapped_induction segment Planned planned (fun planner _ plans => ?_) ?_
  · exact ⟨planned.honest, fun map mapped => planned_of_plan planned.honest plans mapped⟩
  · intro start map next maxPayload entry before known capacity vacant placed
    exact absurd placed (MemoryMap.place_ne_value (before.planned map known) capacity vacant)

theorem Sound.planOnce (sound : driver.Sound) : (planOnce driver).2.Sound := by
  rw [SegmentDriver.planOnce]
  split
  · split
    · rename_i planner plans
      exact ⟨sound.honest, fun map mapped =>
        (MemoryMap.planned_eq_value (planned_of_plan sound.honest plans mapped)).1⟩
    · exact sound
    · exact sound
  · exact sound
  · exact sound

theorem Planned.planOnce (planned : driver.Planned) : (planOnce driver).2.Planned := by
  rw [SegmentDriver.planOnce]
  split
  · split
    · rename_i planner plans
      exact ⟨planned.honest, fun map mapped => planned_of_plan planned.honest plans mapped⟩
    · exact planned
    · exact planned
  · exact planned
  · exact planned

/-- A planned driver has nothing left to place. -/
theorem Planned.ensureMapped_snd (planned : driver.Planned) (segment : Segment) :
    (SegmentDriver.ensureMapped segment driver).2 = (SegmentDriver.planOnce driver).2 := by
  rcases SegmentDriver.ensureMapped_snd segment driver with
    same | ⟨map, maxPayload, entry, next, known, vacant, capacity, placed⟩
  · exact same
  · exact absurd placed (MemoryMap.place_ne_value (planned.planOnce.planned map known) capacity
      vacant)

/-- What the layout says of a range of the driver. -/
theorem Sound.fits (sound : driver.Sound) (mapped : driver.Mapped segment entry) :
    entry.Fits (ChipView.shape driver.device) := by
  obtain ⟨map, known, found⟩ := mapped
  exact (sound.grown map known).laidOut.fits segment entry found

theorem Sound.ends (sound : driver.Sound) (mapped : driver.Mapped segment entry) :
    (ChipView.shape driver.device).regionOffset + (ChipView.shape driver.device).regionSize <
      Word.limit := by
  obtain ⟨map, known, -⟩ := mapped
  exact (sound.grown map known).laidOut.ends

end NorStore.SegmentDriver
