/-
# Which range a capacity leads to

A map that is planned gives the segments their ranges in one fixed order, and passes over those
that do not fit. Told in plain numbers: each segment meets the low-water mark that the segments
before it have left, and gets the blocks just below it if they fit there. So a range is up to
the capacities of the segment and of those before it, and to nothing else. Only the free bytes
in a refusal are those that all the segments have left.
-/

import NorStore.Proofs.Tiling

namespace NorStore

open NorStore.Flash (Geometry)
open NorStore.Segment (Table)

/-- The segments that are placed before a segment. -/
def Segment.before (segment : Segment) : List Segment :=
  Segment.all.filter (·.ordinal < segment.ordinal)

/-- The segments that are placed after a segment. -/
def Segment.after (segment : Segment) : List Segment :=
  Segment.all.filter (segment.ordinal < ·.ordinal)

theorem Segment.all_eq (segment : Segment) :
    Segment.all = segment.before ++ segment :: segment.after := by
  cases segment <;> rfl

theorem Segment.nodup_all : Segment.all.Nodup := by decide

/-- The range that a segment gets below a mark, if it has a capacity and its blocks fit. -/
def MapEntry.fit? (geometry : Geometry) (mark : Nat) (segment : Segment) :
    Option Nat → Option MapEntry
  | none => none
  | some maxPayload =>
    if geometry.regionOffset + geometry.footprint maxPayload ≤ mark then
      some (.below geometry mark segment maxPayload)
    else
      none

/-- The mark that some segments leave, which get their ranges below it if they fit. -/
def lowered (geometry : Geometry) (capacities : Table (Option Nat)) : Nat → List Segment → Nat
  | mark, [] => mark
  | mark, segment :: rest =>
    match MapEntry.fit? geometry mark segment (capacities.get segment) with
    | none => lowered geometry capacities mark rest
    | some entry => lowered geometry capacities entry.start rest

/-- The mark that a segment meets. -/
def markAt (geometry : Geometry) (capacities : Table (Option Nat)) (segment : Segment) : Nat :=
  lowered geometry capacities (geometry.regionOffset + geometry.regionSize) segment.before

/-- The mark that all the segments leave. -/
def lastMark (geometry : Geometry) (capacities : Table (Option Nat)) : Nat :=
  lowered geometry capacities (geometry.regionOffset + geometry.regionSize) Segment.all

/-- What is answered to the question for the range of a segment. -/
def assigned (geometry : Geometry) (capacities : Table (Option Nat)) (segment : Segment) :
    Outcome StoreError MapEntry :=
  match capacities.get segment with
  | none => .error (.unregistered segment)
  | some maxPayload =>
    match MapEntry.fit? geometry (markAt geometry capacities segment) segment (some maxPayload) with
    | some entry => .value entry
    | none => .error (.capacityExceeded segment (geometry.footprint maxPayload)
        (lastMark geometry capacities - geometry.regionOffset))

/-- The blocks of every segment with a capacity can be counted. -/
def Countable (geometry : Geometry) (capacities : Table (Option Nat)) : Prop :=
  ∀ segment maxPayload, capacities.get segment = some maxPayload →
    geometry.footprint maxPayload < Word.limit

/-- The pairs are the capacities, one for each segment that has one, in any order. -/
structure Lists (pairs : List (Segment × Nat)) (capacities : Table (Option Nat)) : Prop where
  once : (pairs.map Prod.fst).Nodup
  mem_iff : ∀ segment maxPayload, (segment, maxPayload) ∈ pairs ↔
    capacities.get segment = some maxPayload

variable {geometry : Geometry} {capacities : Table (Option Nat)} {segment : Segment}

/-- The capacities after some more have been entered, one after another. -/
def enterEach (capacities : Table (Option Nat)) (pairs : List (Segment × Nat)) :
    Table (Option Nat) :=
  pairs.foldl (fun table pair => table.set pair.1 (some pair.2)) capacities

theorem get_enterEach_of_absent {pairs : List (Segment × Nat)}
    (absent : segment ∉ pairs.map Prod.fst) :
    (enterEach capacities pairs).get segment = capacities.get segment := by
  induction pairs generalizing capacities with
  | nil => rfl
  | cons pair rest ih =>
      rw [List.map_cons, List.mem_cons, not_or] at absent
      exact (ih absent.2).trans (Table.get_set_of_ne capacities _ absent.1)

theorem get_enterEach_of_mem {pairs : List (Segment × Nat)} {maxPayload : Nat}
    (once : (pairs.map Prod.fst).Nodup) (listed : (segment, maxPayload) ∈ pairs) :
    (enterEach capacities pairs).get segment = some maxPayload := by
  induction pairs generalizing capacities with
  | nil => contradiction
  | cons pair rest ih =>
      obtain ⟨fresh, once⟩ := List.nodup_cons.1 once
      rcases List.mem_cons.1 listed with rfl | later
      · exact (get_enterEach_of_absent fresh).trans (Table.get_set_self capacities segment _)
      · exact ih once later

theorem isSome_enterEach {pairs : List (Segment × Nat)} (named : segment ∈ pairs.map Prod.fst) :
    ((enterEach capacities pairs).get segment).isSome := by
  induction pairs generalizing capacities with
  | nil => contradiction
  | cons pair rest ih =>
      by_cases later : segment ∈ rest.map Prod.fst
      · exact ih later
      · have here : segment = pair.1 := (List.mem_cons.1 named).resolve_right later
        have stays : (enterEach capacities (pair :: rest)).get segment = some pair.2 :=
          (get_enterEach_of_absent later).trans (here ▸ Table.get_set_self capacities pair.1 _)
        rw [stays]
        rfl

namespace Lists

variable {pairs other : List (Segment × Nat)}

/-- What is listed for a segment is its capacity. -/
theorem filter_eq (lists : Lists pairs capacities) (segment : Segment) :
    pairs.filter (·.1 = segment) = (capacities.get segment).elim [] fun maxPayload =>
      [(segment, maxPayload)] := by
  cases capacity : capacities.get segment with
  | none =>
      refine List.filter_eq_nil_iff.2 fun pair listed named => ?_
      obtain rfl := of_decide_eq_true named
      rw [(lists.mem_iff pair.1 pair.2).1 listed] at capacity
      contradiction
  | some maxPayload =>
      have once : pairs.Nodup := List.Pairwise.of_map Prod.fst
        (fun _ _ different same => different (congrArg Prod.fst same)) lists.once
      refine List.perm_singleton.1
        ((List.perm_ext_iff_of_nodup (once.filter _) (by simp)).2 fun pair => ?_)
      rw [List.mem_filter, List.mem_singleton, decide_eq_true_eq]
      constructor
      · rintro ⟨listed, rfl⟩
        have same := (lists.mem_iff pair.1 pair.2).1 listed
        rw [capacity] at same
        cases same
        rfl
      · rintro rfl
        exact ⟨(lists.mem_iff segment maxPayload).2 capacity, rfl⟩

theorem perm (lists : Lists pairs capacities) (same : other.Perm pairs) :
    Lists other capacities where
  once := (same.map Prod.fst).nodup_iff.2 lists.once
  mem_iff segment maxPayload := same.mem_iff.trans (lists.mem_iff segment maxPayload)

/-- The capacities are those that entering the pairs comes to. -/
theorem enterEach_eq (lists : Lists pairs capacities) :
    enterEach (.replicate none) pairs = capacities := by
  refine Table.ext_get fun segment => ?_
  cases capacity : capacities.get segment with
  | some maxPayload =>
      exact get_enterEach_of_mem lists.once ((lists.mem_iff segment maxPayload).2 capacity)
  | none =>
      rw [get_enterEach_of_absent, Table.get_replicate]
      intro named
      obtain ⟨pair, listed, rfl⟩ := List.mem_map.1 named
      rw [(lists.mem_iff pair.1 pair.2).1 listed] at capacity
      contradiction

/-- Pairs for different segments list what entering them comes to. -/
theorem of_once (once : (pairs.map Prod.fst).Nodup) :
    Lists pairs (enterEach (.replicate none) pairs) := by
  refine ⟨once, fun segment maxPayload => ⟨get_enterEach_of_mem once, fun capacity => ?_⟩⟩
  by_cases named : segment ∈ pairs.map Prod.fst
  · obtain ⟨pair, listed, rfl⟩ := List.mem_map.1 named
    rw [get_enterEach_of_mem once listed] at capacity
    cases capacity
    exact listed
  · rw [get_enterEach_of_absent named, Table.get_replicate] at capacity
    contradiction

end Lists

/-! ## What comes later makes no difference -/

/-- A mark is up to the capacities of the segments that were given ranges. -/
theorem lowered_congr {other : Table (Option Nat)} {listed : List Segment} (mark : Nat)
    (same : ∀ segment ∈ listed, other.get segment = capacities.get segment) :
    lowered geometry other mark listed = lowered geometry capacities mark listed := by
  induction listed generalizing mark with
  | nil => rfl
  | cons segment rest ih =>
      have later := fun mark => ih mark fun segment listed => same segment (.tail _ listed)
      simp only [lowered, same segment List.mem_cons_self, later]

/-- A range stays when segments after it are given other capacities, or none. -/
theorem assigned_eq_value_congr {other : Table (Option Nat)} {entry : MapEntry}
    (same : ∀ earlier : Segment, earlier.ordinal ≤ segment.ordinal →
      other.get earlier = capacities.get earlier)
    (found : assigned geometry capacities segment = .value entry) :
    assigned geometry other segment = .value entry := by
  have mark : markAt geometry other segment = markAt geometry capacities segment :=
    lowered_congr _ fun earlier listed => same earlier
      (Nat.le_of_lt (of_decide_eq_true (List.mem_filter.1 listed).2))
  rw [assigned] at found ⊢
  rw [same segment (Nat.le_refl _), mark]
  split at found
  · contradiction
  · split at found
    · exact found
    · contradiction

namespace MemoryMap

variable {map : MemoryMap}

/-! ## Planning in plain numbers -/

/-- A segment without a range is placed exactly if its blocks fit below the low-water mark. -/
theorem LaidOut.place_of_fit {maxPayload : Nat} (laid : LaidOut geometry map)
    (vacant : map.entry? segment = none) (rounds : geometry.footprint maxPayload < Word.limit) :
    MemoryMap.place segment maxPayload map =
      match MapEntry.fit? geometry map.lowWater segment (some maxPayload) with
      | some entry => (.value entry, map.assign segment maxPayload)
      | none => (.error (.capacityExceeded segment (geometry.footprint maxPayload)
          (map.lowWater - geometry.regionOffset)), map) := by
  obtain rfl := laid.geometry_eq
  have low := laid.le_lowWater
  rw [laid.place_of_vacant vacant rounds, MapEntry.fit?, free]
  by_cases fits : map.geometry.regionOffset + map.geometry.footprint maxPayload ≤ map.lowWater
  · rw [if_pos fits, if_neg (by omega)]
  · rw [if_neg fits, if_pos (by omega)]

/-- A map after one segment without a range was offered one. -/
structure Offered (geometry : Geometry) (capacities : Table (Option Nat)) (map : MemoryMap)
    (segment : Segment) (next : MemoryMap) : Prop where
  laidOut : LaidOut geometry next
  fits : ∀ rest, placeFitting capacities (segment :: rest) map = placeFitting capacities rest next
  lowWater : ∀ rest, lowered geometry capacities map.lowWater (segment :: rest) =
    lowered geometry capacities next.lowWater rest
  here : next.entry? segment =
    MapEntry.fit? geometry map.lowWater segment (capacities.get segment)
  elsewhere : ∀ other, other ≠ segment → next.entry? other = map.entry? other

/-- A segment without a capacity, or one that does not fit, leaves the map as it is. -/
private theorem Offered.passed (laid : LaidOut geometry map)
    (vacant : map.entry? segment = none)
    (passes : ∀ rest, placeFitting capacities (segment :: rest) map =
      placeFitting capacities rest map)
    (misses : MapEntry.fit? geometry map.lowWater segment (capacities.get segment) = none) :
    Offered geometry capacities map segment map where
  laidOut := laid
  fits := passes
  lowWater rest := by simp only [lowered, misses]
  here := by rw [vacant, misses]
  elsewhere _ _ := rfl

theorem LaidOut.offered (laid : LaidOut geometry map) (vacant : map.entry? segment = none)
    (counts : Countable geometry capacities) :
    ∃ next, Offered geometry capacities map segment next := by
  cases capacity : capacities.get segment with
  | none =>
      refine ⟨map, .passed laid vacant (fun rest => ?_) (by rw [capacity]; rfl)⟩
      rw [placeFitting_of_none capacity]
  | some maxPayload =>
      have places := laid.place_of_fit vacant (counts segment maxPayload capacity)
      cases fit : MapEntry.fit? geometry map.lowWater segment (some maxPayload) with
      | none =>
          rw [fit] at places
          refine ⟨map, .passed laid vacant (fun rest => ?_) (by rw [capacity, fit])⟩
          rw [placeFitting_of_error capacity places]
      | some entry =>
          rw [fit] at places
          have given : entry = .below geometry map.lowWater segment maxPayload :=
            (Option.some.inj (Option.ite_none_right_eq_some.1 fit).2).symm
          have start : (map.assign segment maxPayload).lowWater = entry.start := by
            rw [given, ← laid.geometry_eq]
            rfl
          exact ⟨map.assign segment maxPayload, {
            laidOut := laid.place places
            fits := fun rest => placeFitting_of_value capacity places
            lowWater := fun rest => by simp only [lowered, capacity, fit, start]
            here := by rw [entry?_assign_self, laid.geometry_eq, capacity, fit, given]
            elsewhere := fun _ => entry?_assign_of_ne map maxPayload }⟩

/-- What a list of segments without ranges leads to: every one of them meets the mark that those
before it left. -/
theorem LaidOut.placeFitting {listed : List Segment} (laid : LaidOut geometry map)
    (once : listed.Nodup) (vacant : ∀ segment ∈ listed, map.entry? segment = none)
    (counts : Countable geometry capacities) :
    ∃ final, MemoryMap.placeFitting capacities listed map = (.value (), final) ∧
      final.lowWater = lowered geometry capacities map.lowWater listed ∧
      (∀ segment, segment ∉ listed → final.entry? segment = map.entry? segment) ∧
      ∀ before segment after, listed = before ++ segment :: after →
        final.entry? segment = MapEntry.fit? geometry
          (lowered geometry capacities map.lowWater before) segment (capacities.get segment) := by
  induction listed generalizing map with
  | nil => exact ⟨map, rfl, rfl, fun _ _ => rfl, by simp⟩
  | cons first rest ih =>
      obtain ⟨fresh, once⟩ := List.nodup_cons.1 once
      obtain ⟨next, offered⟩ := laid.offered (vacant first List.mem_cons_self) counts
      obtain ⟨final, places, low, outside, inside⟩ := ih offered.laidOut once fun segment listed => by
        rw [offered.elsewhere segment fun same => fresh (same ▸ listed)]
        exact vacant segment (.tail _ listed)
      refine ⟨final, (offered.fits rest).trans places, low.trans (offered.lowWater rest).symm,
        ?_, ?_⟩
      · intro segment absent
        obtain ⟨different, missing⟩ : segment ≠ first ∧ segment ∉ rest := by simpa using absent
        rw [outside segment missing, offered.elsewhere segment different]
      · intro before segment after split
        cases before with
        | nil =>
            obtain ⟨rfl, rfl⟩ := List.cons.inj split
            rw [outside first fresh, offered.here, lowered]
        | cons head before =>
            obtain ⟨rfl, rfl⟩ := List.cons.inj split
            rw [inside before segment after rfl, offered.lowWater before]

/-- The map that is planned for some capacities. -/
structure PlannedFor (geometry : Geometry) (capacities : Table (Option Nat)) (map : MemoryMap) :
    Prop where
  plans : planned geometry capacities = .value map
  lowWater : map.lowWater = lastMark geometry capacities
  places : ∀ segment, map.entry? segment = MapEntry.fit? geometry
    (markAt geometry capacities segment) segment (capacities.get segment)

/-- Over a region that ends within the words, planning always comes to a map. -/
theorem planned_of_countable (valid : geometry.Valid)
    (ends : geometry.regionOffset + geometry.regionSize < Word.limit)
    (counts : Countable geometry capacities) :
    ∃ map, PlannedFor geometry capacities map := by
  have starts := empty_of_valid valid
  rw [Geometry.regionEnd, Word.add_of_lt ends, Outcome.value_bind, Outcome.pure_eq] at starts
  obtain ⟨map, fitted, low, -, found⟩ := (LaidOut.empty starts).placeFitting Segment.nodup_all
    (fun segment _ => (empty_eq_value starts).2.2.2.2 segment) counts
  refine ⟨map, ?_, low, fun segment => found _ segment _ segment.all_eq⟩
  rw [planned, starts]
  exact Action.final_eq_value_iff.2 fitted

namespace PlannedFor

variable (plans : PlannedFor geometry capacities map)

include plans

theorem assigned_of_entry {entry : MapEntry} (found : map.entry? segment = some entry) :
    assigned geometry capacities segment = .value entry := by
  rw [plans.places] at found
  rw [assigned]
  cases capacity : capacities.get segment with
  | none =>
      rw [capacity] at found
      contradiction
  | some maxPayload =>
      rw [capacity] at found
      simp only [found]

/-- A segment with a capacity that has no range is refused one, and told what is free. -/
theorem place_of_vacant {maxPayload : Nat} (counts : Countable geometry capacities)
    (vacant : map.entry? segment = none) (capacity : capacities.get segment = some maxPayload) :
    ∃ cause, place segment maxPayload map = (.error cause, map) ∧
      assigned geometry capacities segment = .error cause := by
  have laid := (planned_eq_value plans.plans).1.laidOut
  have missed := plans.places segment
  rw [vacant, capacity] at missed
  have refused := laid.place_of_fit vacant (counts segment maxPayload capacity)
  cases fit : MapEntry.fit? geometry map.lowWater segment (some maxPayload) with
  | some entry =>
      rw [fit] at refused
      exact absurd refused (place_ne_value plans.plans capacity vacant)
  | none =>
      rw [fit, plans.lowWater] at refused
      refine ⟨_, refused, ?_⟩
      simp only [assigned, capacity, ← missed]

end PlannedFor

/-! ## Planning from a list -/

/-- Placing the segments of a list for what it says of them comes to the same as offering each
of them a range, if nothing is refused. -/
theorem placeFitting_of_placeEach {pairs : List (Segment × Nat)} {listed : List Segment}
    {final : MemoryMap} (lists : Lists pairs capacities)
    (places : placeEach (listed.flatMap fun segment => pairs.filter (·.1 = segment)) map =
      (.value (), final)) : placeFitting capacities listed map = (.value (), final) := by
  induction listed generalizing map with
  | nil => exact places
  | cons segment rest ih =>
      rw [List.flatMap_cons, lists.filter_eq] at places
      cases capacity : capacities.get segment with
      | none =>
          rw [capacity] at places
          rw [placeFitting_of_none capacity]
          exact ih places
      | some maxPayload =>
          rw [capacity, Option.elim_some, List.singleton_append, placeEach,
            Action.bind_eq_value_iff] at places
          obtain ⟨entry, next, placed, later⟩ := places
          rw [placeFitting_of_value capacity placed]
          exact ih later

/-- If all the segments of a list are placed, the map is the one that is planned. -/
theorem planned_of_plan {pairs : List (Segment × Nat)} (lists : Lists pairs capacities)
    (plans : plan geometry pairs = .value map) : planned geometry capacities = .value map := by
  rw [plan, Outcome.bind_eq_value_iff] at plans
  obtain ⟨start, starts, places⟩ := plans
  rw [planned, starts]
  exact Action.final_eq_value_iff.2
    (placeFitting_of_placeEach lists (Action.final_eq_value_iff.1 places))

end MemoryMap

/-! ## Planning with room for all -/

/-- The bytes that some segments take together in whole blocks, as far as they have capacities. -/
def demand (geometry : Geometry) (capacities : Table (Option Nat)) : List Segment → Nat
  | [] => 0
  | segment :: rest =>
      match capacities.get segment with
      | none => demand geometry capacities rest
      | some maxPayload => geometry.footprint maxPayload + demand geometry capacities rest

theorem demand_of_none (capacity : capacities.get segment = none) (rest : List Segment) :
    demand geometry capacities (segment :: rest) = demand geometry capacities rest := by
  rw [demand, capacity]

theorem demand_of_capacity {maxPayload : Nat} (capacity : capacities.get segment = some maxPayload)
    (rest : List Segment) : demand geometry capacities (segment :: rest) =
      geometry.footprint maxPayload + demand geometry capacities rest := by
  rw [demand, capacity]

theorem demand_append (before rest : List Segment) : demand geometry capacities (before ++ rest) =
    demand geometry capacities before + demand geometry capacities rest := by
  induction before with
  | nil => exact (Nat.zero_add _).symm
  | cons segment before ih =>
      rw [List.cons_append]
      cases capacity : capacities.get segment with
      | none => rw [demand_of_none capacity, demand_of_none capacity, ih]
      | some maxPayload =>
          rw [demand_of_capacity capacity, demand_of_capacity capacity, ih, Nat.add_assoc]

/-- If there is room for some segments, the mark that they leave lies as far below. -/
theorem lowered_of_room {listed : List Segment} {mark : Nat}
    (room : geometry.regionOffset + demand geometry capacities listed ≤ mark) :
    lowered geometry capacities mark listed + demand geometry capacities listed = mark := by
  induction listed generalizing mark with
  | nil => rfl
  | cons segment rest ih =>
      cases capacity : capacities.get segment with
      | none =>
          rw [demand_of_none capacity] at room ⊢
          simpa only [lowered, capacity, MapEntry.fit?] using ih room
      | some maxPayload =>
          rw [demand_of_capacity capacity] at room ⊢
          have fits : geometry.regionOffset + geometry.footprint maxPayload ≤ mark := by omega
          have later : lowered geometry capacities (mark - geometry.footprint maxPayload) rest +
              demand geometry capacities rest = mark - geometry.footprint maxPayload :=
            ih (by omega)
          simp only [lowered, capacity, MapEntry.fit?, if_pos fits, MapEntry.below]
          omega

/-- A region has room for every segment with a capacity, and ends within the words. -/
structure Roomy (geometry : Geometry) (capacities : Table (Option Nat)) : Prop where
  ends : geometry.regionOffset + geometry.regionSize < Word.limit
  room : demand geometry capacities Segment.all ≤ geometry.regionSize

namespace Roomy

variable (roomy : Roomy geometry capacities)

include roomy

/-- What a segment and those before it take is not more than the region has. -/
theorem before_add_footprint {maxPayload : Nat}
    (capacity : capacities.get segment = some maxPayload) :
    demand geometry capacities segment.before + geometry.footprint maxPayload ≤
      geometry.regionSize := by
  have room := roomy.room
  rw [segment.all_eq, demand_append, demand_of_capacity capacity] at room
  omega

theorem countable : Countable geometry capacities := by
  intro segment maxPayload capacity
  have inside := roomy.before_add_footprint capacity
  have ends := roomy.ends
  omega

/-- Then each of these segments has its place in the map. -/
theorem planned (valid : geometry.Valid) :
    ∃ map, MemoryMap.planned geometry capacities = .value map ∧
      ∀ segment, (capacities.get segment).isSome → ∃ entry, map.entry? segment = some entry := by
  obtain ⟨map, plans⟩ := MemoryMap.planned_of_countable valid roomy.ends roomy.countable
  refine ⟨map, plans.plans, fun segment known => ?_⟩
  obtain ⟨maxPayload, capacity⟩ := Option.isSome_iff_exists.1 known
  have inside := roomy.before_add_footprint capacity
  have mark : markAt geometry capacities segment + demand geometry capacities segment.before =
      geometry.regionOffset + geometry.regionSize := lowered_of_room (by omega)
  have fits : geometry.regionOffset + geometry.footprint maxPayload ≤
      markAt geometry capacities segment := by omega
  rw [plans.places, capacity, MapEntry.fit?, if_pos fits]
  exact ⟨_, rfl⟩

end Roomy

end NorStore
