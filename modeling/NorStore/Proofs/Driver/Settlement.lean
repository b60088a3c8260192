/-
# The map is settled before it is made

With everything reserved before the first access, it is settled which range each segment has:
it is up to the geometry and the capacities. It makes no difference in which order they were
reserved, which segments are visited first and in which way, or what the device does meanwhile,
as long as it reports its geometry when it is first asked for it.
-/

import NorStore.Flash.Memory
import NorStore.Proofs.Assignment
import NorStore.Proofs.Driver.Usage

namespace NorStore.SegmentDriver

open NorStore.Flash (BlockDevice Geometry MemoryFlash)
open NorStore.Segment (Table)
open MemoryMap (PlannedFor)

variable {δ : Type} [BlockDevice δ] {driver : SegmentDriver δ} {segment : Segment}
  {geometry : Geometry} {capacities : Table (Option Nat)} {map : MemoryMap}

/-! ## The first visit -/

/-- Planning first makes no difference to what asks for a range itself. -/
theorem planOnce_bind {α : Type} (next : MapEntry → Action (SegmentDriver δ) StoreError α) :
    (ensureMapped segment >>= next) (planOnce driver).2 = (ensureMapped segment >>= next) driver :=
  Action.bind_congr (ensureMapped_planOnce segment driver) next

/-- Every visit begins by asking for the range. -/
theorem Visit.perform_planOnce (segment : Segment) (handles : List Handle) (kind : Visit)
    (driver : SegmentDriver δ) :
    kind.perform segment handles (planOnce driver).2 = kind.perform segment handles driver := by
  cases kind with
  | isInTransaction =>
      have ledger : SegmentDriver.readLedger segment (planOnce driver).2 =
          SegmentDriver.readLedger segment driver := planOnce_bind _
      refine Action.bind_congr (Action.bind_congr ?_ _) _
      rw [Action.attempt, Action.attempt, ledger]
  | ensureMapped => exact planOnce_bind _
  | _ => exact Action.bind_congr (planOnce_bind _) _

/-- The driver has these capacities, and has made this map if it has made any. -/
structure Settled (capacities : Table (Option Nat)) (map : MemoryMap) (driver : SegmentDriver δ) :
    Prop where
  capacities : driver.capacities = capacities
  planner : driver.planner = .unmapped ∨ driver.planner = .mapped map

/-- The device reports the geometry, if the driver has no map yet. -/
def Reported (geometry : Geometry) (driver : SegmentDriver δ) : Prop :=
  driver.planner = .unmapped → BlockDevice.geometry driver.device = .ok geometry

theorem planOnce_of_settled (plans : PlannedFor geometry capacities map)
    (settled : Settled capacities map driver) (reported : driver.Reported geometry) :
    planOnce driver = (.value (), { driver with planner := .mapped map }) := by
  obtain ⟨rfl, unmapped | known⟩ := settled
  · have made := plans.plans
    rw [MemoryMap.planned, Outcome.bind_eq_value_iff] at made
    obtain ⟨start, starts, fitted⟩ := made
    have plan : driver.plan = .value (.mapped map) := by
      rw [plan, reported unmapped]
      simp only [starts, fitted]
      rfl
    rw [planOnce, unmapped]
    simp only [plan]
  · obtain ⟨device, capacities, planner⟩ := driver
    cases known
    rfl

/-- What a settled driver answers to the question for a range. -/
theorem ensureMapped_of_settled (plans : PlannedFor geometry capacities map)
    (counts : Countable geometry capacities) (settled : Settled capacities map driver)
    (reported : driver.Reported geometry) (segment : Segment) :
    ensureMapped segment driver =
      (assigned geometry capacities segment, { driver with planner := .mapped map }) := by
  rw [← ensureMapped_planOnce, planOnce_of_settled plans settled reported]
  obtain ⟨rfl, -⟩ := settled
  generalize made : ({ driver with planner := .mapped map } : SegmentDriver δ) = start
  have known : start.planner = .mapped map := by rw [← made]
  have same : start.capacities = driver.capacities := by rw [← made]
  cases found : map.entry? segment with
  | some entry =>
      rw [ensureMapped_of_mapped ⟨map, known, found⟩, plans.assigned_of_entry found]
  | none =>
      cases capacity : driver.capacities.get segment with
      | none =>
          have unreserved : start.capacity? segment = none := by rw [capacity?, same, capacity]
          rw [ensureMapped_of_unreserved known found unreserved, assigned, capacity]
      | some maxPayload =>
          have reserved : start.capacity? segment = some maxPayload := by
            rw [capacity?, same, capacity]
          obtain ⟨cause, refused, told⟩ := plans.place_of_vacant counts found capacity
          rw [ensureMapped_of_vacant known found reserved, refused, told]

/-! ## Runs -/

/-- A driver that has made the map keeps it, since no other range can be placed. -/
theorem stable_mapped (plans : PlannedFor geometry capacities map)
    (counts : Countable geometry capacities) :
    Stable fun driver : SegmentDriver δ =>
      driver.capacities = capacities ∧ driver.planner = .mapped map where
  moves _ told := told
  asks segment told := by
    have settled : Settled capacities map _ := ⟨told.1, .inr told.2⟩
    rw [ensureMapped_of_settled plans counts settled fun unmapped => by
      rw [told.2] at unmapped
      contradiction]
    exact ⟨told.1, rfl⟩

/-- Until the first visit there is no map, and from then on there is this one. -/
theorem Settled.request (plans : PlannedFor geometry capacities map)
    (counts : Countable geometry capacities) (settled : Settled capacities map driver)
    (handles : List Handle) (request : Request δ) (reserves : ¬ request.IsReserve)
    (reported : request.IsVisit → driver.Reported geometry) :
    Settled capacities map (request.perform handles driver).2 := by
  by_cases visits : request.IsVisit
  · cases request with
    | visit segment kind =>
        rw [Request.perform, ← kind.perform_planOnce,
          planOnce_of_settled plans settled (reported visits)]
        have planned : Action.Reaches (kind.perform segment handles)
            { driver with planner := .mapped map } fun reached =>
              reached.capacities = capacities ∧ reached.planner = .mapped map :=
          (stable_mapped plans counts).visit segment handles kind ⟨settled.capacities, rfl⟩
        exact ⟨planned.1, .inr planned.2⟩
    | _ => contradiction
  · have movable : Movable (Settled (δ := δ) capacities map) := ⟨fun _ told => ⟨told.1, told.2⟩⟩
    exact movable.request handles request visits reserves settled

/-- Whenever a segment is visited before there is a map, the device reports the geometry, and
also at the end of the run. -/
def Usage.Reports (geometry : Geometry) (usage : Usage δ) : List (Request δ) → Prop
  | [] => usage.driver.Reported geometry
  | request :: rest =>
    (request.IsVisit → usage.driver.Reported geometry) ∧ (usage.step request).Reports geometry rest

theorem Settled.run {usage : Usage δ} {requests : List (Request δ)}
    (plans : PlannedFor geometry capacities map) (counts : Countable geometry capacities)
    (settled : Settled capacities map usage.driver)
    (reserves : ∀ request ∈ requests, ¬ request.IsReserve)
    (reports : usage.Reports geometry requests) :
    Settled capacities map (usage.run requests).driver ∧
      (usage.run requests).driver.Reported geometry := by
  induction requests generalizing usage with
  | nil => exact ⟨settled, reports⟩
  | cons request rest ih =>
      obtain ⟨reported, later⟩ := reports
      refine ih ?_ (fun other listed => reserves other (.tail _ listed)) later
      rw [Usage.driver_step]
      exact settled.request plans counts usage.handles request
        (reserves request List.mem_cons_self) reported

omit [BlockDevice δ] in
theorem foldl_reserve (driver : SegmentDriver δ) (pairs : List (Segment × Nat)) :
    pairs.foldl (fun driver pair => driver.reserve pair.1 pair.2) driver =
      { driver with capacities := enterEach driver.capacities pairs } := by
  induction pairs generalizing driver with
  | nil => rfl
  | cons pair rest ih => exact ih (driver.reserve pair.1 pair.2)

omit [BlockDevice δ] in
/-- A driver that was just made has the capacities that were reserved, in whichever order. -/
theorem Settled.start {pairs : List (Segment × Nat)} (lists : Lists pairs capacities) (device : δ)
    (map : MemoryMap) : Settled capacities map (Usage.start device pairs).driver := by
  rw [Usage.start, foldl_reserve]
  exact ⟨lists.enterEach_eq, .inl rfl⟩

/-- A segment keeps its range, whatever is reserved and done. -/
theorem Mapped.run {usage : Usage δ} {entry : MapEntry} (mapped : usage.driver.Mapped segment entry)
    (requests : List (Request δ)) : (usage.run requests).driver.Mapped segment entry := by
  have stable : Stable fun driver : SegmentDriver δ => driver.Mapped segment entry :=
    { moves := fun _ told => told, asks := fun other told => told.ensureMapped other }
  induction requests generalizing usage with
  | nil => exact mapped
  | cons request rest ih =>
      refine ih ?_
      rw [Usage.driver_step]
      exact stable.request usage.handles request (fun _ _ _ => mapped) mapped

/-- Which range a segment is given, or how it is refused one, is settled by the geometry and by
what was reserved before the first access. It does not depend on the order in which that was
reserved, or on anything that was done before the question. A range that was given once is given
again, whatever is reserved and done later, and it stays in a boot that differs only in the
capacities of segments placed after it. If planning from the same pairs at once succeeds, in
any order of theirs, it comes to the same map. -/
theorem Usage.range_of_capacities (valid : geometry.Valid)
    (ends : geometry.regionOffset + geometry.regionSize < Word.limit) :
    (∀ capacities pairs (device : δ) requests, Countable geometry capacities →
      Lists pairs capacities → (∀ request ∈ requests, ¬ request.IsReserve) →
      (Usage.start device pairs).Reports geometry requests →
      (∀ segment, (ensureMapped segment ((Usage.start device pairs).run requests).driver).1 =
        assigned geometry capacities segment) ∧
      ∀ listed map, listed.Perm pairs → MemoryMap.plan geometry listed = .value map →
        ∀ segment, (ensureMapped segment
          ((Usage.start device pairs).run requests).driver).2.memoryMap? = some map) ∧
    (∀ (usage : Usage δ) segment entry, usage.driver.Mapped segment entry →
      ∀ requests, (ensureMapped segment (usage.run requests).driver).1 = .value entry) ∧
    ∀ capacities other segment entry,
      (∀ earlier : Segment, earlier.ordinal ≤ segment.ordinal →
        other.get earlier = capacities.get earlier) →
      assigned geometry capacities segment = .value entry →
      assigned geometry other segment = .value entry := by
  refine ⟨?_, ?_, fun _ _ _ _ same found => assigned_eq_value_congr same found⟩
  · intro capacities pairs device requests counts lists reserves reports
    obtain ⟨map, plans⟩ := MemoryMap.planned_of_countable valid ends counts
    obtain ⟨settled, reported⟩ :=
      (Settled.start lists device map).run plans counts reserves reports
    have asked := ensureMapped_of_settled plans counts settled reported
    refine ⟨fun segment => by rw [asked], fun listed made same success segment => ?_⟩
    have known := MemoryMap.planned_of_plan (lists.perm same) success
    rw [plans.plans] at known
    cases known
    rw [asked]
    rfl
  · intro usage segment entry mapped requests
    rw [ensureMapped_of_mapped (mapped.run requests)]

/-- Of three segments the last one does not fit. It is refused after the others have been read
and the handle has been left open, as it is at first, and a fourth one is unknown. -/
theorem Usage.range_of_capacities_sample :
    ∃ chip, MemoryFlash.blank? ⟨64, 128, 4, 32, 1⟩ = .ok chip ∧
      let driver := ((start chip [(.security, 9), (.nodeDefinition, 100), (.networkImage, 8)]).run
        [.visit .security .openForRead, .visit .nodeDefinition .erase, .read 0 0 4,
          .disturb fun chip => { chip with isOpen := true }]).driver
      (ensureMapped .networkImage driver).1 = .value ⟨.networkImage, 160, 32, 24⟩ ∧
      (ensureMapped .security driver).1 = .value ⟨.security, 96, 64, 56⟩ ∧
      (ensureMapped .nodeDefinition driver).1 =
        .error (.capacityExceeded .nodeDefinition 128 32) ∧
      (ensureMapped .uniqueId driver).1 = .error (.unregistered .uniqueId) := by
  have blank : MemoryFlash.blank? ⟨64, 128, 4, 32, 1⟩ = .ok _ := rfl
  refine ⟨_, blank, ?_⟩
  intro driver
  have lists : Lists [(.security, 9), (.nodeDefinition, 100), (.networkImage, 8)]
      ⟨some 8, none, some 9, none, none, none, some 100⟩ :=
    ⟨by decide, fun segment _ => by cases segment <;> simp [Table.get, eq_comm]⟩
  have answers : ∀ segment, (ensureMapped segment driver).1 =
      assigned ⟨64, 128, 4, 32, 1⟩ ⟨some 8, none, some 9, none, none, none, some 100⟩ segment := by
    refine ((range_of_capacities ⟨by decide, by decide, by decide, by decide, by decide,
      by decide⟩ (by decide)).1 _ _ _ _ ?_ lists (by simp [Request.IsReserve]) ?_).1
    · exact fun segment _ capacity => by cases segment <;> cases capacity <;> decide
    · have reported : ∀ driver : SegmentDriver MemoryFlash,
          driver.device.geometry = ⟨64, 128, 4, 32, 1⟩ → driver.Reported ⟨64, 128, 4, 32, 1⟩ :=
        fun _ same _ => congrArg Except.ok same
      exact ⟨fun _ => reported _ (by decide +kernel), fun _ => reported _ (by decide +kernel),
        nofun, nofun, reported _ (by decide +kernel)⟩
  exact ⟨(answers _).trans (by decide), (answers _).trans (by decide),
    (answers _).trans (by decide), (answers _).trans (by decide)⟩

end NorStore.SegmentDriver
