/-
# Where planning leaves the words

A valid geometry may describe a region whose end is no word, and a payload may be so large that
the blocks for it are too many bytes for a word. Nothing checks for either before planning, so
there the arithmetic traps. These are the only two ways: over any other region and for any other
capacities, every question for a range is answered with a range or with an error.
-/

import Mathlib.Algebra.GroupWithZero.Nat
import NorStore.Flash.Memory
import NorStore.Proofs.Assignment
import NorStore.Proofs.Driver.Settlement

namespace NorStore

open NorStore.Flash (BlockDevice Geometry MemoryFlash)
open NorStore.Segment (Table)

theorem Flash.Geometry.regionEnd_eq_trap_iff {ε : Type} {geometry : Geometry} :
    (geometry.regionEnd : Outcome ε Nat) = .trap ↔
      Word.limit ≤ geometry.regionOffset + geometry.regionSize := by
  rw [regionEnd, Word.add]
  split
  · simp only [reduceCtorEq, false_iff]
    omega
  · simp only [true_iff]
    omega

namespace MemoryMap

variable {geometry : Geometry} {map : MemoryMap} {segment : Segment} {maxPayload : Nat}
  {capacities : Table (Option Nat)}

/-! ## Maps -/

/-- The map of a region can be started unless the region ends past the words. -/
theorem empty_eq_trap_iff (valid : geometry.Valid) :
    MemoryMap.empty geometry = .trap ↔
      Word.limit ≤ geometry.regionOffset + geometry.regionSize := by
  rw [empty_of_valid valid, ← Flash.Geometry.regionEnd_eq_trap_iff]
  cases (geometry.regionEnd : Outcome StoreError Nat) <;> simp

theorem empty_of_ends (valid : geometry.Valid)
    (ends : geometry.regionOffset + geometry.regionSize < Word.limit) :
    ∃ map, MemoryMap.empty geometry = .value map := by
  rw [empty_of_valid valid, Geometry.regionEnd, Word.add_of_lt ends]
  exact ⟨_, rfl⟩

/-- Of a region that is not valid there is no map, and no trap either. -/
theorem empty_of_invalid (invalid : ¬ geometry.Valid) :
    ∃ cause, MemoryMap.empty geometry = .error cause := by
  rw [MemoryMap.empty]
  split
  · exact ⟨_, rfl⟩
  · rename_i valid _
    exact absurd valid invalid

/-- There is no counting the blocks of the next range exactly if they are too many. -/
theorem LaidOut.nextRange_eq_trap_iff (laid : LaidOut geometry map) (segment : Segment) :
    map.nextRange segment maxPayload = .trap ↔ Word.limit ≤ geometry.footprint maxPayload := by
  by_cases rounds : geometry.footprint maxPayload < Word.limit
  · rw [laid.nextRange_eq rounds]
    have countable : ¬ Word.limit ≤ geometry.footprint maxPayload := by omega
    split <;> simp [countable]
  · have exceeds : Word.limit ≤ geometry.footprint maxPayload := by omega
    simp only [exceeds, iff_true]
    obtain rfl := laid.geometry_eq
    have traps := (Geometry.roundUp_eq_trap_iff (ε := StoreError) map.valid.blockSize_pos
      (Ledger.size + Header.size + maxPayload)).2 exceeds
    rw [nextRange]
    -- Already the sum may be too large, and if it is not, its blocks are.
    by_cases small : Ledger.size + Header.size + maxPayload < Word.limit
    · simp only [Word.add_of_lt small, Outcome.value_bind, traps, Outcome.trap_bind]
    · simp only [Word.add, if_neg small, Outcome.trap_bind]

/-- Placing traps exactly for a segment without a range whose blocks cannot be counted. -/
theorem LaidOut.place_eq_trap_iff (laid : LaidOut geometry map) :
    (MemoryMap.place segment maxPayload map).1 = .trap ↔
      map.entry? segment = none ∧ Word.limit ≤ geometry.footprint maxPayload := by
  cases found : map.entry? segment with
  | some entry => simp [place_of_placed found]
  | none =>
      rw [place_of_none found, ← laid.nextRange_eq_trap_iff segment]
      cases map.nextRange segment maxPayload <;> simp

/-- Some segment of a list cannot be placed for want of words: those before it can, and it has no
range yet. -/
def Stumbles (geometry : Geometry) (map : MemoryMap) (listed : List (Segment × Nat)) : Prop :=
  ∃ before segment maxPayload rest reached, listed = before ++ (segment, maxPayload) :: rest ∧
    placeEach before map = (.value (), reached) ∧ reached.entry? segment = none ∧
    Word.limit ≤ geometry.footprint maxPayload

theorem placeEach_append (before rest : List (Segment × Nat)) :
    placeEach (before ++ rest) = placeEach before >>= fun _ => placeEach rest := by
  induction before with
  | nil => rfl
  | cons first before ih =>
      rw [List.cons_append, placeEach, placeEach, bind_assoc, ih]

theorem LaidOut.placeEach {listed : List (Segment × Nat)} {reached : MemoryMap}
    (laid : LaidOut geometry map)
    (places : MemoryMap.placeEach listed map = (.value (), reached)) :
    LaidOut geometry reached := by
  induction listed generalizing map with
  | nil =>
      cases places
      exact laid
  | cons first rest ih =>
      rw [MemoryMap.placeEach, Action.bind_eq_value_iff] at places
      obtain ⟨entry, next, places, later⟩ := places
      exact ih (laid.place places) later

/-- Placing a list of segments traps exactly where one of them stumbles. -/
theorem LaidOut.placeEach_eq_trap_iff {listed : List (Segment × Nat)}
    (laid : LaidOut geometry map) :
    (MemoryMap.placeEach listed map).1 = .trap ↔ Stumbles geometry map listed := by
  constructor
  · intro traps
    induction listed generalizing map with
    | nil => cases traps
    | cons first rest ih =>
        rw [MemoryMap.placeEach] at traps
        rcases place_cases first.1 first.2 map with
          ⟨entry, next, places⟩ | ⟨cause, refused⟩ | stops
        · rw [Action.bind_of_value places] at traps
          obtain ⟨before, segment, maxPayload, later, reached, rfl, follows, stumbles⟩ :=
            ih (laid.place places) traps
          refine ⟨first :: before, segment, maxPayload, later, reached, rfl, ?_, stumbles⟩
          rw [MemoryMap.placeEach, Action.bind_of_value places]
          exact follows
        · rw [Action.bind_of_error refused] at traps
          cases traps
        · obtain ⟨vacant, exceeds⟩ := laid.place_eq_trap_iff.1 (congrArg Prod.fst stops)
          exact ⟨[], first.1, first.2, rest, map, rfl, rfl, vacant, exceeds⟩
  · intro ended
    obtain ⟨before, segment, maxPayload, rest, reached, rfl, places, stumbles⟩ := ended
    have stops := (laid.placeEach places).place_eq_trap_iff.2 stumbles
    rw [placeEach_append, Action.bind_of_value places, MemoryMap.placeEach]
    rcases place_cases segment maxPayload reached with ⟨_, _, given⟩ | ⟨_, refused⟩ | traps
    · rw [given] at stops
      cases stops
    · rw [refused] at stops
      cases stops
    · rw [Action.bind_of_trap traps]

/-- Planning from a list of pairs traps where the region does, or where a pair stumbles, taken in
the order of the segments. -/
theorem plan_eq_trap_iff (valid : geometry.Valid) (listed : List (Segment × Nat)) :
    MemoryMap.plan geometry listed = .trap ↔
      Word.limit ≤ geometry.regionOffset + geometry.regionSize ∨
        ∃ map, MemoryMap.empty geometry = .value map ∧
          Stumbles geometry map (Segment.sortBy Prod.fst listed) := by
  rw [plan, ← empty_eq_trap_iff valid]
  cases starts : MemoryMap.empty geometry with
  | value map => simp [Action.final_eq_trap_iff, (LaidOut.empty starts).placeEach_eq_trap_iff]
  | error cause => simp
  | trap => simp

/-- The blocks of some segment with a capacity are too many to be counted. -/
def Exceeds (geometry : Geometry) (capacities : Table (Option Nat)) (listed : List Segment) :
    Prop :=
  ∃ segment ∈ listed, ∃ maxPayload, capacities.get segment = some maxPayload ∧
    Word.limit ≤ geometry.footprint maxPayload

theorem exceeds_cons {first : Segment} {rest : List Segment} :
    Exceeds geometry capacities (first :: rest) ↔
      (∃ maxPayload, capacities.get first = some maxPayload ∧
        Word.limit ≤ geometry.footprint maxPayload) ∨ Exceeds geometry capacities rest := by
  simp [Exceeds]

/-- Placing what fits traps exactly if the blocks of some segment cannot be counted, wherever it
stands in the order. -/
theorem LaidOut.placeFitting_eq_trap_iff {listed : List Segment} (laid : LaidOut geometry map)
    (once : listed.Nodup) (vacant : ∀ segment ∈ listed, map.entry? segment = none) :
    (MemoryMap.placeFitting capacities listed map).1 = .trap ↔
      Exceeds geometry capacities listed := by
  induction listed generalizing map with
  | nil => simp [MemoryMap.placeFitting, Exceeds]
  | cons first rest ih =>
      obtain ⟨fresh, once⟩ := List.nodup_cons.1 once
      have here := vacant first List.mem_cons_self
      have there := ih laid once fun other listed => vacant other (.tail _ listed)
      rw [exceeds_cons]
      cases capacity : capacities.get first with
      | none => simp [placeFitting_of_none capacity, there]
      | some maxPayload =>
          have traps : (MemoryMap.place first maxPayload map).1 = .trap ↔
              Word.limit ≤ geometry.footprint maxPayload := by
            rw [laid.place_eq_trap_iff, and_iff_right here]
          simp only [Option.some.injEq, exists_eq_left', ← traps]
          rcases place_cases first maxPayload map with
            ⟨entry, next, places⟩ | ⟨cause, refused⟩ | stops
          · -- The other segments have no range in the map that this one leaves either.
            have later := ih (laid.place places) once fun other listed => by
              rcases place_eq_value places with ⟨found, -⟩ | ⟨-, -, -, -, -, next⟩
              · rw [here] at found
                cases found
              · have different : other ≠ first := by
                  rintro rfl
                  exact fresh listed
                rw [next, lookup_set_of_ne map _ _ different]
                exact vacant other (.tail _ listed)
            simp [placeFitting_of_value capacity places, places, later]
          · simp [placeFitting_of_error capacity refused, refused, there]
          · simp [placeFitting_of_trap capacity stops, stops]

end MemoryMap

/-! ## Drivers -/

namespace SegmentDriver

variable {δ : Type} [BlockDevice δ] {driver : SegmentDriver δ} {segment : Segment}

/-- The map of the driver was grown in its region. -/
def Growing (driver : SegmentDriver δ) : Prop :=
  ∀ map, driver.planner = .mapped map → MemoryMap.Grown map.geometry map

/-- Asking for the range of a segment leaves the words. If that plans the map, any segment with a
capacity may be the reason; from then on only the segment itself. -/
def Overflows (driver : SegmentDriver δ) (segment : Segment) : Prop :=
  match driver.planner with
  | .unmapped => ∃ geometry, BlockDevice.geometry driver.device = .ok geometry ∧ geometry.Valid ∧
      (Word.limit ≤ geometry.regionOffset + geometry.regionSize ∨
        MemoryMap.Exceeds geometry driver.capacities Segment.all)
  | .mapped map => map.entry? segment = none ∧ ∃ maxPayload,
      driver.capacity? segment = some maxPayload ∧ Word.limit ≤ map.geometry.footprint maxPayload
  | .failed _ => False

/-- The map stays one that was grown in its region, whatever is asked for. -/
theorem stable_growing : Stable (Growing (δ := δ)) where
  moves _ growing := growing
  asks {driver} segment growing := by
    refine ensureMapped_induction segment Growing growing ?_ ?_
    · intro planner unmapped plans map known
      rcases plan_eq_value plans with ⟨reason, rfl⟩ | ⟨planned, geometry, rfl, -, made⟩
      · cases known
      · cases known
        have grown := (MemoryMap.planned_eq_value made).1
        rwa [grown.laidOut.geometry_eq]
    · intro start map next maxPayload entry growing known _ _ places found same
      cases same
      have laid := (growing map known).laidOut.place places
      rw [laid.geometry_eq]
      exact .place (growing map known) places

theorem Growing.run {usage : Usage δ} (growing : usage.driver.Growing)
    (requests : List (Request δ)) : (usage.run requests).driver.Growing := by
  induction requests generalizing usage with
  | nil => exact growing
  | cons request rest ih =>
      refine ih ?_
      rw [Usage.driver_step]
      exact stable_growing.request usage.handles request (fun _ _ _ => growing) growing

/-- Planning traps exactly over a region that ends past the words, or for a capacity whose blocks
cannot be counted. -/
theorem plan_eq_trap_iff (driver : SegmentDriver δ) :
    driver.plan = .trap ↔ ∃ geometry, BlockDevice.geometry driver.device = .ok geometry ∧
      geometry.Valid ∧ (Word.limit ≤ geometry.regionOffset + geometry.regionSize ∨
        MemoryMap.Exceeds geometry driver.capacities Segment.all) := by
  rw [plan]
  cases reported : BlockDevice.geometry driver.device with
  | error cause => simp
  | ok geometry =>
      simp only [Except.ok.injEq, exists_eq_left']
      by_cases valid : geometry.Valid
      · simp only [valid, true_and]
        by_cases ends : geometry.regionOffset + geometry.regionSize < Word.limit
        · obtain ⟨map, starts⟩ := MemoryMap.empty_of_ends valid ends
          have fitting : (MemoryMap.placeFitting driver.capacities Segment.all).final map = .trap ↔
              MemoryMap.Exceeds geometry driver.capacities Segment.all := by
            rw [Action.final_eq_trap_iff]
            exact (MemoryMap.LaidOut.empty starts).placeFitting_eq_trap_iff Segment.nodup_all
              fun other _ => (MemoryMap.empty_eq_value starts).2.2.2.2 other
          simp only [starts, Nat.not_le.2 ends, false_or, ← fitting]
          cases (MemoryMap.placeFitting driver.capacities Segment.all).final map <;> simp
        · have traps := (MemoryMap.empty_eq_trap_iff valid).2 (Nat.not_lt.1 ends)
          simp [traps, Nat.not_lt.1 ends]
      · obtain ⟨cause, fails⟩ := MemoryMap.empty_of_invalid valid
        simp only [fails, valid, false_and, iff_false]
        split <;> simp_all

/-- With a map, asking for a range traps exactly if placing the segment does. -/
private theorem ensureMapped_eq_trap_of_mapped {map : MemoryMap}
    (known : driver.planner = .mapped map) (grown : MemoryMap.Grown map.geometry map) :
    (ensureMapped segment driver).1 = .trap ↔ map.entry? segment = none ∧ ∃ maxPayload,
      driver.capacity? segment = some maxPayload ∧
        Word.limit ≤ map.geometry.footprint maxPayload := by
  cases found : map.entry? segment with
  | some entry => simp [ensureMapped_of_mapped ⟨map, known, found⟩]
  | none =>
      cases reserved : driver.capacity? segment with
      | none => simp [ensureMapped_of_unreserved known found reserved]
      | some maxPayload =>
          have traps : (MemoryMap.place segment maxPayload map).1 = .trap ↔
              Word.limit ≤ map.geometry.footprint maxPayload := by
            rw [grown.laidOut.place_eq_trap_iff, and_iff_right found]
          simp only [ensureMapped_of_vacant known found reserved, Option.some.injEq,
            exists_eq_left', true_and, ← traps]
          rcases MemoryMap.place segment maxPayload map with ⟨_ | _ | _, next⟩ <;> simp

/-- Asking for a range traps exactly where the driver overflows. -/
theorem Growing.ensureMapped_eq_trap_iff (growing : driver.Growing) (segment : Segment) :
    (ensureMapped segment driver).1 = .trap ↔ driver.Overflows segment := by
  rw [Overflows]
  cases planner : driver.planner with
  | failed reason => simp [ensureMapped_of_failed planner]
  | mapped map => exact ensureMapped_eq_trap_of_mapped planner (growing map planner)
  | unmapped =>
      dsimp only
      rw [← plan_eq_trap_iff]
      cases plans : driver.plan with
      | trap =>
          have tried : planOnce driver = (.trap, driver) := by
            rw [planOnce, planner]
            simp only [plans]
          simp [ensureMapped, Action.bind_of_trap tried]
      | error cause =>
          have tried : planOnce driver = (.error cause, driver) := by
            rw [planOnce, planner]
            simp only [plans]
          simp [ensureMapped, Action.bind_of_error tried]
      | value planned =>
          simp only [ensureMapped_of_plan planner plans, reduceCtorEq, iff_false]
          rcases plan_eq_value plans with ⟨reason, rfl⟩ | ⟨map, geometry, rfl, reported, made⟩
          · simp [ensureMapped_of_failed]
          · have grown := (MemoryMap.planned_eq_value made).1
            obtain rfl := grown.laidOut.geometry_eq
            rw [ensureMapped_eq_trap_of_mapped rfl grown]
            rintro ⟨-, maxPayload, reserved, exceeds⟩
            -- Planning has placed every capacity, and would have stopped at this one.
            have stops := (plan_eq_trap_iff driver).2 ⟨map.geometry, reported, map.valid,
              .inr ⟨segment, Segment.mem_all segment, maxPayload, reserved, exceeds⟩⟩
            rw [plans] at stops
            cases stops

omit [BlockDevice δ] in
theorem Growing.start (device : δ) (pairs : List (Segment × Nat)) :
    (Usage.start device pairs).driver.Growing := by
  rw [Usage.start, foldl_reserve]
  intro map known
  cases known

/-- Over a valid geometry, planning and placing come to a value or to an error, unless the region
ends past the words or the blocks for a payload are too many bytes for a word. Asking a driver
for a range does so too, whatever was reserved and done before and whatever the device does. -/
theorem trap_iff_overflows {geometry : Geometry} (valid : geometry.Valid) :
    (MemoryMap.empty geometry = .trap ↔
      Word.limit ≤ geometry.regionOffset + geometry.regionSize) ∧
    (∀ map segment maxPayload, MemoryMap.Grown geometry map →
      ((MemoryMap.place segment maxPayload map).1 = .trap ↔
        map.entry? segment = none ∧ Word.limit ≤ geometry.footprint maxPayload)) ∧
    (∀ listed, MemoryMap.plan geometry listed = .trap ↔
      Word.limit ≤ geometry.regionOffset + geometry.regionSize ∨
        ∃ map, MemoryMap.empty geometry = .value map ∧
          MemoryMap.Stumbles geometry map (Segment.sortBy Prod.fst listed)) ∧
    ∀ (device : δ) pairs requests segment,
      let driver := ((Usage.start device pairs).run requests).driver
      (ensureMapped segment driver).1 = .trap ↔ driver.Overflows segment :=
  ⟨MemoryMap.empty_eq_trap_iff valid,
    fun _ _ _ grown => grown.laidOut.place_eq_trap_iff,
    MemoryMap.plan_eq_trap_iff valid,
    fun device pairs requests segment =>
      ((Growing.start device pairs).run requests).ensureMapped_eq_trap_iff segment⟩

/-- A region of 16 blocks has a map, and in it the payload of the largest word traps. -/
theorem trap_iff_overflows_sample :
    let geometry : Geometry := ⟨0, 2048, 16, 128, 1⟩
    geometry.Valid ∧ MemoryMap.empty geometry ≠ .trap ∧
      ∀ map, MemoryMap.empty geometry = .value map →
        (MemoryMap.place .security 100 map).1 ≠ .trap ∧
          (MemoryMap.place .security Word.largest map).1 = .trap := by
  have valid : (⟨0, 2048, 16, 128, 1⟩ : Geometry).Valid := (Geometry.validate_eq_ok_iff _).1 rfl
  obtain ⟨empty, places, -, -⟩ := trap_iff_overflows (δ := MemoryFlash) valid
  refine ⟨valid, fun traps => absurd (empty.1 traps) (by decide), fun map starts => ⟨?_, ?_⟩⟩
  · intro traps
    exact absurd ((places map .security 100 (.empty starts)).1 traps).2 (by decide)
  · exact (places map .security Word.largest (.empty starts)).2
      ⟨(MemoryMap.empty_eq_value starts).2.2.2.2 .security, by decide⟩

/-- Over regions that are valid, starting a map traps at the top of the words, and so does asking
for the range of a segment with a large payload. -/
theorem trapped_of_valid :
    let high : Geometry := ⟨2 ^ 63, 2 ^ 63, 1, 2 ^ 63, 1⟩
    let small : Geometry := ⟨0, 2048, 16, 128, 1⟩
    high.validate = .ok () ∧ MemoryMap.empty high = .trap ∧
      small.validate = .ok () ∧
      MemoryMap.plan small [(.applicationData, Word.largest)] = .trap ∧
      ∃ chip, MemoryFlash.blank? small = .ok chip ∧
        (ensureMapped .applicationData
          (Usage.start chip [(.applicationData, Word.largest)]).driver).1 = .trap := by
  exact ⟨rfl, rfl, rfl, rfl, _, rfl, rfl⟩

end SegmentDriver

end NorStore
