/-
# The layout of a memory map

A map is *grown* if it was made from an empty region by placing segments one after
another, in any order and with any sizes. Every grown map is *laid out*: its ranges are
made of whole blocks of the region, lie above its low-water mark, have room for a ledger
and a header, and do not share a byte.

A map that was planned with some capacities is *full* for them: a segment that found no
room when it was planned finds none later, so asking again does not change the map.
-/

import NorStore.MemoryMap
import NorStore.Proofs.Action

namespace NorStore

open NorStore.Flash (Geometry)

/-- A range of whole blocks of the region, with room for a ledger and a header. -/
structure MapEntry.Fits (geometry : Geometry) (entry : MapEntry) : Prop where
  first : geometry.regionOffset ≤ entry.start
  last : entry.past ≤ geometry.regionOffset + geometry.regionSize
  aligned : entry.start % geometry.blockSize = 0
  whole : entry.reserved % geometry.blockSize = 0
  room : Ledger.size + Header.size ≤ entry.reserved
  maxDataSize : entry.maxDataSize = entry.reserved - Ledger.size

/-- The two ranges share no byte. -/
def MapEntry.Apart (entry other : MapEntry) : Prop :=
  entry.past ≤ other.start ∨ other.past ≤ entry.start

theorem MapEntry.Apart.symm {entry other : MapEntry} (apart : entry.Apart other) :
    other.Apart entry := Or.symm apart

/-- A sum that is found is the sum. -/
theorem Word.add_eq_value {ε : Type} {left right result : Nat}
    (adds : (Word.add left right : Outcome ε Nat) = .value result) : result = left + right := by
  rw [Word.add] at adds
  split at adds
  · exact (Outcome.value.inj adds).symm
  · contradiction

private theorem sub_eq_value {ε : Type} {left right result : Nat}
    (subtracts : (Word.sub left right : Outcome ε Nat) = .value result) :
    right ≤ left ∧ result = left - right := by
  rw [Word.sub] at subtracts
  split at subtracts
  · exact ⟨‹_›, (Outcome.value.inj subtracts).symm⟩
  · contradiction

private theorem mod_eq_value {ε : Type} {left right result : Nat}
    (divides : (Word.mod left right : Outcome ε Nat) = .value result) :
    result = left % right := by
  rw [Word.mod] at divides
  split at divides
  · contradiction
  · exact (Outcome.value.inj divides).symm

namespace MemoryMap

variable {geometry : Geometry} {map next : MemoryMap} {entry : MapEntry}
  {segment other : Segment} {maxPayload : Nat}

/-- A map that was made from an empty region by placing segments. -/
inductive Grown (geometry : Geometry) : MemoryMap → Prop
  | empty {map : MemoryMap} (starts : MemoryMap.empty geometry = .value map) :
      Grown geometry map
  | place {map next : MemoryMap} {segment : Segment} {maxPayload : Nat} {entry : MapEntry}
      (before : Grown geometry map)
      (places : MemoryMap.place segment maxPayload map = (.value entry, next)) :
      Grown geometry next

/-- The ranges of a map lie in the region, above the low-water mark, and apart. -/
structure LaidOut (geometry : Geometry) (map : MemoryMap) : Prop where
  geometry_eq : map.geometry = geometry
  ends : geometry.regionOffset + geometry.regionSize < Word.limit
  le_lowWater : geometry.regionOffset ≤ map.lowWater
  lowWater_le : map.lowWater ≤ geometry.regionOffset + geometry.regionSize
  lowWater_mod : map.lowWater % geometry.blockSize = 0
  fits : ∀ segment entry, map.entry? segment = some entry → entry.Fits geometry
  above : ∀ segment entry, map.entry? segment = some entry → map.lowWater ≤ entry.start
  apart : ∀ first second entry other, map.entry? first = some entry →
    map.entry? second = some other → first ≠ second → entry.Apart other

/-- Over a valid geometry, an empty map only needs the end of the region. -/
theorem empty_of_valid (valid : geometry.Valid) :
    MemoryMap.empty geometry = do
      let lowWater ← geometry.regionEnd
      return { geometry, valid, lowWater } := by
  rw [MemoryMap.empty, Geometry.check_of_valid valid]

/-- The map of an empty region has no ranges and starts at the end of the region. -/
theorem empty_eq_value (starts : MemoryMap.empty geometry = .value map) :
    map.geometry = geometry ∧ geometry.Valid ∧
      geometry.regionOffset + geometry.regionSize < Word.limit ∧
      map.lowWater = geometry.regionOffset + geometry.regionSize ∧
      ∀ segment, map.entry? segment = none := by
  rw [MemoryMap.empty] at starts
  split at starts
  · contradiction
  · rename_i valid _
    rw [Outcome.bind_eq_value_iff] at starts
    obtain ⟨lowWater, ends, rest⟩ := starts
    rw [Geometry.regionEnd, Word.add] at ends
    split at ends
    · rename_i fits
      cases ends
      cases rest
      exact ⟨rfl, valid, fits, rfl, fun segment => Segment.Table.get_replicate none segment⟩
    · contradiction

/-- The next range is the highest free one that is large enough for the payload. -/
theorem nextRange_eq_value (gives : map.nextRange segment maxPayload = .value entry) :
    entry.segment = segment ∧
      (map.geometry.roundUp (Ledger.size + Header.size + maxPayload) : Outcome StoreError Nat) =
        .value entry.reserved ∧
      map.geometry.regionOffset + entry.reserved ≤ map.lowWater ∧
      entry.start = map.lowWater - entry.reserved -
        (map.lowWater - entry.reserved) % map.geometry.blockSize ∧
      entry.maxDataSize = entry.reserved - Ledger.size := by
  simp only [nextRange, Outcome.bind_eq_value_iff] at gives
  obtain ⟨needed, added, reserved, rounded, available, subtracted, rest⟩ := gives
  have neededEq := Word.add_eq_value added
  obtain ⟨ordered, availableEq⟩ := sub_eq_value subtracted
  subst neededEq availableEq
  split at rest
  · contradiction
  · rename_i enough
    simp only [Outcome.bind_eq_value_iff, Geometry.alignDown] at rest
    obtain ⟨start, ⟨past, remainder, aligned⟩, maxDataSize, data, result⟩ := rest
    have remainderEq := mod_eq_value remainder
    obtain ⟨-, startEq⟩ := sub_eq_value aligned
    obtain ⟨-, dataEq⟩ := sub_eq_value data
    subst remainderEq startEq dataEq
    cases result
    exact ⟨rfl, rounded, by dsimp only; omega, rfl, rfl⟩

theorem place_of_placed (found : map.entry? segment = some entry) :
    place segment maxPayload map = (.value entry, map) := by
  rw [place, Action.get_bind, found]
  rfl

/-- A segment without a range gets the next one, and the map is as it was unless there is one. -/
theorem place_of_none (vacant : map.entry? segment = none) :
    place segment maxPayload map =
      match map.nextRange segment maxPayload with
      | .value entry => (.value entry, { map with
          entries := map.entries.set segment (some entry), lowWater := entry.start })
      | .error cause => (.error cause, map)
      | .trap => (.trap, map) := by
  rw [place, Action.get_bind, vacant]
  dsimp only
  cases map.nextRange segment maxPayload <;> rfl

/-- A call that comes to no range leaves the whole map as it is. -/
theorem place_cases (segment : Segment) (maxPayload : Nat) (map : MemoryMap) :
    (∃ entry next, place segment maxPayload map = (.value entry, next)) ∨
      (∃ cause, place segment maxPayload map = (.error cause, map)) ∨
        place segment maxPayload map = (.trap, map) := by
  cases found : map.entry? segment with
  | some entry => exact .inl ⟨entry, map, place_of_placed found⟩
  | none =>
      rw [place_of_none found]
      split
      · exact .inl ⟨_, _, rfl⟩
      · exact .inr (.inl ⟨_, rfl⟩)
      · exact .inr (.inr rfl)

/-- What placing does: a segment keeps its range, or gets the next one. -/
theorem place_eq_value (places : place segment maxPayload map = (.value entry, next)) :
    ( map.entry? segment = some entry ∧ next = map) ∨
      ( map.entry? segment = none ∧
        (map.geometry.roundUp (Ledger.size + Header.size + maxPayload) : Outcome StoreError Nat) =
          .value entry.reserved ∧
        map.geometry.regionOffset + entry.reserved ≤ map.lowWater ∧
        entry.start = map.lowWater - entry.reserved -
          (map.lowWater - entry.reserved) % map.geometry.blockSize ∧
        entry.maxDataSize = entry.reserved - Ledger.size ∧
        next = { map with
          entries := map.entries.set segment (some entry), lowWater := entry.start }) := by
  cases found : map.entry? segment with
  | some kept =>
      rw [place_of_placed found] at places
      cases places
      exact .inl ⟨rfl, rfl⟩
  | none =>
      rw [place_of_none found] at places
      split at places <;> cases places
      rename_i gives
      obtain ⟨-, rounded, room, start, data⟩ := nextRange_eq_value gives
      exact .inr ⟨rfl, rounded, room, start, data, rfl⟩

/-- A range that is assigned bears the name of its segment. -/
theorem place_segment (vacant : map.entry? segment = none)
    (places : place segment maxPayload map = (.value entry, next)) : entry.segment = segment := by
  rw [place_of_none vacant] at places
  split at places <;> cases places
  rename_i gives
  exact (nextRange_eq_value gives).1

theorem lookup_set_self (map : MemoryMap) (segment : Segment) (entry : MapEntry) (lowWater : Nat) :
    MemoryMap.entry? { map with entries := map.entries.set segment (some entry), lowWater } segment =
      some entry := Segment.Table.get_set_self ..

theorem lookup_set_of_ne (map : MemoryMap) (entry : MapEntry) (lowWater : Nat)
    (different : other ≠ segment) :
    MemoryMap.entry? { map with entries := map.entries.set segment (some entry), lowWater } other =
      map.entry? other := Segment.Table.get_set_of_ne map.entries (some entry) different

namespace LaidOut

theorem empty (starts : MemoryMap.empty geometry = .value map) : LaidOut geometry map := by
  obtain ⟨sameGeometry, valid, ends, lowWater, vacant⟩ := empty_eq_value starts
  refine ⟨sameGeometry, ends, by omega, by omega, ?_, ?_, ?_, ?_⟩
  · rw [lowWater, ← valid.covered, Nat.add_mul_mod_self_right, valid.aligned]
  · intro segment entry found
    rw [vacant] at found
    contradiction
  · intro segment entry found
    rw [vacant] at found
    contradiction
  · intro first second entry other found
    rw [vacant] at found
    contradiction

/-- Placing takes the new range from just below the low-water mark, so it meets no other. -/
theorem place (laid : LaidOut geometry map)
    (places : MemoryMap.place segment maxPayload map = (.value entry, next)) :
    LaidOut geometry next := by
  rcases place_eq_value places with ⟨-, rfl⟩ | ⟨free, rounded, room, start, data, rfl⟩
  · exact laid
  · have sameGeometry := laid.geometry_eq
    subst sameGeometry
    have nonempty := map.valid.blockSize_pos
    have covers := Geometry.roundUp_eq_value nonempty rounded
    have whole : entry.reserved % map.geometry.blockSize = 0 := by
      rw [covers, Geometry.covering_mod]
    have least := Geometry.le_covering nonempty (Ledger.size + Header.size + maxPayload)
    have aligned : (map.lowWater - entry.reserved) % map.geometry.blockSize = 0 :=
      Nat.mod_eq_zero_of_dvd (Nat.dvd_sub (Nat.dvd_of_mod_eq_zero laid.lowWater_mod)
        (Nat.dvd_of_mod_eq_zero whole))
    rw [aligned, Nat.sub_zero] at start
    have past : entry.past = map.lowWater := by
      rw [MapEntry.past]
      omega
    have high := laid.lowWater_le
    have fits : entry.Fits map.geometry :=
      ⟨by omega, by omega, by rw [start, aligned], whole, by omega, data⟩
    refine ⟨rfl, laid.ends, fits.first, ?_, fits.aligned, ?_, ?_, ?_⟩
    · show entry.start ≤ _
      omega
    · intro asked found lookup
      by_cases same : asked = segment
      · subst same
        rw [lookup_set_self] at lookup
        cases lookup
        exact fits
      · rw [lookup_set_of_ne map entry _ same] at lookup
        exact laid.fits asked found lookup
    · intro asked found lookup
      by_cases same : asked = segment
      · subst same
        rw [lookup_set_self] at lookup
        cases lookup
        exact Nat.le_refl _
      · rw [lookup_set_of_ne map entry _ same] at lookup
        have := laid.above asked found lookup
        show entry.start ≤ _
        omega
    · -- only a pair with the new range is new, and that range ends at the old mark
      have below : ∀ asked found, map.entry? asked = some found → entry.Apart found :=
        fun asked found lookup => .inl (past ▸ laid.above asked found lookup)
      intro first second one two lookupOne lookupTwo different
      by_cases isFirst : first = segment
      · subst isFirst
        rw [lookup_set_self] at lookupOne
        rw [lookup_set_of_ne map entry _ (Ne.symm different)] at lookupTwo
        cases lookupOne
        exact below second two lookupTwo
      · rw [lookup_set_of_ne map entry _ isFirst] at lookupOne
        by_cases isSecond : second = segment
        · subst isSecond
          rw [lookup_set_self] at lookupTwo
          cases lookupTwo
          exact (below first one lookupOne).symm
        · rw [lookup_set_of_ne map entry _ isSecond] at lookupTwo
          exact laid.apart first second one two lookupOne lookupTwo different

end LaidOut

/-- Every map that was grown is laid out. -/
theorem Grown.laidOut (grown : Grown geometry map) : LaidOut geometry map := by
  induction grown with
  | empty starts => exact .empty starts
  | place _ places ih => exact ih.place places

/-- In a map that was grown every range bears the name of its segment. -/
theorem Grown.segment_eq (grown : Grown geometry map)
    (found : map.entry? segment = some entry) : entry.segment = segment := by
  induction grown generalizing segment entry with
  | empty starts =>
      rw [(empty_eq_value starts).2.2.2.2 segment] at found
      contradiction
  | @place before after placed maxPayload range _ places ih =>
      have named := place_eq_value places
      rcases named with ⟨-, rfl⟩ | ⟨vacant, -, -, -, -, rfl⟩
      · exact ih found
      · by_cases same : segment = placed
        · subst same
          rw [lookup_set_self] at found
          cases found
          exact place_segment vacant places
        · rw [lookup_set_of_ne before range _ same] at found
          exact ih found

/-- There is a next range exactly if whole blocks for a ledger, a header and the payload are
free. -/
theorem LaidOut.nextRange_eq_value_iff (laid : LaidOut geometry map) (segment : Segment) :
    (∃ entry, map.nextRange segment maxPayload = .value entry) ↔
      geometry.regionOffset + geometry.covering (Ledger.size + Header.size + maxPayload) ≤
        map.lowWater := by
  have sameGeometry := laid.geometry_eq
  subst sameGeometry
  have nonempty := map.valid.blockSize_pos
  constructor
  · intro ended
    obtain ⟨entry, gives⟩ := ended
    obtain ⟨-, rounded, room, -⟩ := nextRange_eq_value gives
    rwa [← Geometry.roundUp_eq_value nonempty rounded]
  · intro room
    have least := Geometry.le_covering nonempty (Ledger.size + Header.size + maxPayload)
    have high := laid.lowWater_le
    have ends := laid.ends
    have low := laid.le_lowWater
    have small : Ledger.size ≤ Ledger.size + Header.size := Nat.le_add_right ..
    have past := Nat.mod_le (map.lowWater -
      map.geometry.covering (Ledger.size + Header.size + maxPayload)) map.geometry.blockSize
    rw [nextRange]
    simp only [Word.add_of_lt (show Ledger.size + Header.size + maxPayload < Word.limit by omega),
      Outcome.value_bind, Geometry.roundUp_of_lt nonempty (show map.geometry.covering
        (Ledger.size + Header.size + maxPayload) < Word.limit by omega), Word.sub_of_le low,
      if_neg (show ¬ map.lowWater - map.geometry.regionOffset <
        map.geometry.covering (Ledger.size + Header.size + maxPayload) by omega),
      Geometry.alignDown, Word.mod_of_ne (Nat.ne_of_gt nonempty), Word.sub_of_le past,
      Word.sub_of_le (show Ledger.size ≤ map.geometry.covering
        (Ledger.size + Header.size + maxPayload) by omega)]
    exact ⟨_, rfl⟩

/-- A segment without a range gets one exactly if there is that much room. -/
theorem LaidOut.place_eq_value_iff (laid : LaidOut geometry map)
    (vacant : map.entry? segment = none) :
    (∃ entry next, MemoryMap.place segment maxPayload map = (.value entry, next)) ↔
      geometry.regionOffset + geometry.covering (Ledger.size + Header.size + maxPayload) ≤
        map.lowWater := by
  rw [← laid.nextRange_eq_value_iff segment, place_of_none vacant]
  cases map.nextRange segment maxPayload <;> simp

/-! ## Planning -/

/-- The map of a region that is planned with some capacities. -/
def planned (geometry : Geometry) (capacities : Segment.Table (Option Nat)) :
    Outcome StoreError MemoryMap := do
  let map ← MemoryMap.empty geometry
  (placeFitting capacities Segment.all).final map

/-- A segment with a capacity and without a range does not fit below the low-water mark. -/
def FullFor (geometry : Geometry) (capacities : Segment.Table (Option Nat)) (listed : List Segment)
    (map : MemoryMap) : Prop :=
  ∀ segment ∈ listed, ∀ maxPayload, capacities.get segment = some maxPayload →
    map.entry? segment = none →
      map.lowWater <
        geometry.regionOffset + geometry.covering (Ledger.size + Header.size + maxPayload)

/-- Placing moves the low-water mark down and keeps what is placed. -/
theorem place_extends (places : place segment maxPayload map = (.value entry, next)) :
    next.lowWater ≤ map.lowWater ∧ next.entry? segment = some entry ∧
      ∀ asked found, map.entry? asked = some found → next.entry? asked = some found := by
  rcases place_eq_value places with ⟨found, rfl⟩ | ⟨free, -, -, start, -, rfl⟩
  · exact ⟨Nat.le_refl _, found, fun _ _ => id⟩
  · refine ⟨?_, lookup_set_self .., fun asked found lookup => ?_⟩
    · show entry.start ≤ map.lowWater
      omega
    · rw [lookup_set_of_ne map entry _ ?_]
      · exact lookup
      · rintro rfl
        rw [free] at lookup
        contradiction

section Fitting

variable {capacities : Segment.Table (Option Nat)} {rest : List Segment}

theorem placeFitting_of_none (unreserved : capacities.get segment = none) :
    placeFitting capacities (segment :: rest) = placeFitting capacities rest := by
  rw [placeFitting, unreserved]

theorem placeFitting_of_value (capacity : capacities.get segment = some maxPayload)
    (places : place segment maxPayload map = (.value entry, next)) :
    placeFitting capacities (segment :: rest) map = placeFitting capacities rest next := by
  simp only [placeFitting, capacity, Action.bind_apply, Action.bind, Action.attempt, places]

/-- A segment that is refused is passed over. -/
theorem placeFitting_of_error {cause : StoreError}
    (capacity : capacities.get segment = some maxPayload)
    (refused : place segment maxPayload map = (.error cause, map)) :
    placeFitting capacities (segment :: rest) map = placeFitting capacities rest map := by
  simp only [placeFitting, capacity, Action.bind_apply, Action.bind, Action.attempt, refused]

theorem placeFitting_of_trap (capacity : capacities.get segment = some maxPayload)
    (traps : place segment maxPayload map = (.trap, map)) :
    placeFitting capacities (segment :: rest) map = (.trap, map) := by
  simp only [placeFitting, capacity, Action.bind_apply, Action.bind, Action.attempt, traps]

end Fitting

/-- What placing a list of segments leads to, one segment after another. -/
private theorem placeFitting_eq_value {capacities : Segment.Table (Option Nat)}
    {listed : List Segment} {final : MemoryMap} (grown : Grown geometry map)
    (fitted : placeFitting capacities listed map = (.value (), final)) :
    Grown geometry final ∧ final.lowWater ≤ map.lowWater ∧
      (∀ asked found, map.entry? asked = some found → final.entry? asked = some found) ∧
      FullFor geometry capacities listed final := by
  induction listed generalizing map with
  | nil =>
      cases fitted
      exact ⟨grown, Nat.le_refl _, fun _ _ => id, fun _ listed => nomatch listed⟩
  | cons segment rest ih =>
      cases reserved : capacities.get segment with
      | none =>
          rw [placeFitting_of_none reserved] at fitted
          obtain ⟨later, lower, kept, full⟩ := ih grown fitted
          refine ⟨later, lower, kept, fun asked member maxPayload capacity vacant => ?_⟩
          rcases List.mem_cons.1 member with rfl | further
          · rw [reserved] at capacity
            contradiction
          · exact full asked further maxPayload capacity vacant
      | some size =>
          rcases place_cases segment size map with ⟨entry, next, places⟩ | ⟨cause, refused⟩ | traps
          · rw [placeFitting_of_value reserved places] at fitted
            obtain ⟨below, placed, extends'⟩ := place_extends places
            obtain ⟨later, lower, kept, full⟩ := ih (.place grown places) fitted
            refine ⟨later, Nat.le_trans lower below, fun asked found lookup =>
              kept asked found (extends' asked found lookup), ?_⟩
            intro asked member maxPayload capacity vacant
            rcases List.mem_cons.1 member with rfl | further
            · rw [kept asked entry placed] at vacant
              contradiction
            · exact full asked further maxPayload capacity vacant
          · rw [placeFitting_of_error reserved refused] at fitted
            obtain ⟨later, lower, kept, full⟩ := ih grown fitted
            refine ⟨later, lower, kept, fun asked member maxPayload capacity vacant => ?_⟩
            rcases List.mem_cons.1 member with rfl | further
            · -- the segment found no room, and there is no more of it now
              rw [reserved] at capacity
              cases capacity
              have free : map.entry? asked = none := by
                cases lookup : map.entry? asked with
                | none => rfl
                | some found =>
                    rw [kept asked found lookup] at vacant
                    contradiction
              refine Nat.lt_of_le_of_lt lower (Nat.lt_of_not_le fun room => ?_)
              obtain ⟨entry, next, places⟩ := (grown.laidOut.place_eq_value_iff free).2 room
              rw [refused] at places
              cases places
            · exact full asked further maxPayload capacity vacant
          · rw [placeFitting_of_trap reserved traps] at fitted
            cases fitted

/-- A planned map was grown from its region and is full for its capacities. -/
theorem planned_eq_value {capacities : Segment.Table (Option Nat)}
    (plans : planned geometry capacities = .value map) :
    Grown geometry map ∧ FullFor geometry capacities Segment.all map := by
  rw [planned, Outcome.bind_eq_value_iff] at plans
  obtain ⟨start, starts, fitted⟩ := plans
  obtain ⟨grown, -, -, full⟩ :=
    placeFitting_eq_value (.empty starts) (Action.final_eq_value_iff.1 fitted)
  exact ⟨grown, full⟩

/-- Every range was made for the capacity of its segment. -/
def SizedFor (geometry : Geometry) (capacities : Segment.Table (Option Nat)) (map : MemoryMap) :
    Prop :=
  ∀ segment entry, map.entry? segment = some entry → ∃ maxPayload,
    capacities.get segment = some maxPayload ∧
      entry.reserved = geometry.covering (Ledger.size + Header.size + maxPayload)

/-- Placing a segment for its capacity keeps every range the right size. -/
private theorem SizedFor.place {capacities : Segment.Table (Option Nat)}
    (sized : SizedFor geometry capacities map) (same : map.geometry = geometry)
    (capacity : capacities.get segment = some maxPayload)
    (places : MemoryMap.place segment maxPayload map = (.value entry, next)) :
    SizedFor geometry capacities next := by
  rcases place_eq_value places with ⟨-, rfl⟩ | ⟨-, rounded, -, -, -, rfl⟩
  · exact sized
  · intro asked found lookup
    by_cases isPlaced : asked = segment
    · subst isPlaced
      rw [lookup_set_self] at lookup
      cases lookup
      refine ⟨maxPayload, capacity, ?_⟩
      rw [← same]
      exact Geometry.roundUp_eq_value map.valid.blockSize_pos rounded
    · rw [lookup_set_of_ne map entry _ isPlaced] at lookup
      exact sized asked found lookup

private theorem SizedFor.placeFitting {capacities : Segment.Table (Option Nat)}
    {listed : List Segment} {final : MemoryMap} (sized : SizedFor geometry capacities map)
    (grown : Grown geometry map)
    (fitted : MemoryMap.placeFitting capacities listed map = (.value (), final)) :
    SizedFor geometry capacities final := by
  induction listed generalizing map with
  | nil =>
      cases fitted
      exact sized
  | cons segment rest ih =>
      cases reserved : capacities.get segment with
      | none =>
          rw [placeFitting_of_none reserved] at fitted
          exact ih sized grown fitted
      | some size =>
          rcases place_cases segment size map with ⟨entry, next, places⟩ | ⟨cause, refused⟩ | traps
          · rw [placeFitting_of_value reserved places] at fitted
            exact ih (sized.place grown.laidOut.geometry_eq reserved places) (.place grown places)
              fitted
          · rw [placeFitting_of_error reserved refused] at fitted
            exact ih sized grown fitted
          · rw [placeFitting_of_trap reserved traps] at fitted
            cases fitted

/-- In a planned map every segment has a range for its capacity, or none. -/
theorem sizedFor_planned {capacities : Segment.Table (Option Nat)}
    (plans : planned geometry capacities = .value map) : SizedFor geometry capacities map := by
  rw [planned, Outcome.bind_eq_value_iff] at plans
  obtain ⟨start, starts, fitted⟩ := plans
  refine SizedFor.placeFitting (fun segment entry lookup => ?_) (.empty starts)
    (Action.final_eq_value_iff.1 fitted)
  rw [(empty_eq_value starts).2.2.2.2 segment] at lookup
  contradiction

/-- Segments without a capacity are passed over. -/
private theorem placeFitting_append {capacities : Segment.Table (Option Nat)}
    {listed rest : List Segment} (unreserved : ∀ other ∈ listed, capacities.get other = none) :
    placeFitting capacities (listed ++ rest) = placeFitting capacities rest := by
  induction listed with
  | nil => rfl
  | cons first listed ih =>
      rw [List.cons_append, placeFitting_of_none (unreserved first List.mem_cons_self)]
      exact ih fun other member => unreserved other (.tail _ member)

/-- The only segment with a capacity has a range if the region has room for it. -/
theorem planned_of_only {capacities : Segment.Table (Option Nat)} (valid : geometry.Valid)
    (ends : geometry.regionOffset + geometry.regionSize < Word.limit)
    (capacity : capacities.get segment = some maxPayload)
    (only : ∀ other, other ≠ segment → capacities.get other = none)
    (room : geometry.covering (Ledger.size + Header.size + maxPayload) ≤ geometry.regionSize) :
    ∃ map entry, planned geometry capacities = .value map ∧ map.entry? segment = some entry := by
  have starts := empty_of_valid valid
  rw [Geometry.regionEnd, Word.add_of_lt ends, Outcome.value_bind, Outcome.pure_eq] at starts
  have vacant := (empty_eq_value starts).2.2.2.2 segment
  have fits := Nat.add_le_add_left room geometry.regionOffset
  obtain ⟨entry, next, places⟩ := ((LaidOut.empty starts).place_eq_value_iff vacant).2 fits
  obtain ⟨before, after, split, fresh⟩ := List.eq_append_cons_of_mem (Segment.mem_all segment)
  have once : Segment.all.Nodup := by decide
  rw [split, List.nodup_append, List.nodup_cons] at once
  have passed : ∀ listed : List Segment, segment ∉ listed →
      ∀ other ∈ listed, capacities.get other = none :=
    fun listed absent other member => only other fun same => absent (same ▸ member)
  have skips : placeFitting capacities (after ++ []) next = (.value (), next) := by
    rw [placeFitting_append (passed after once.2.1.1)]
    rfl
  rw [List.append_nil] at skips
  refine ⟨next, entry, ?_, (place_extends places).2.1⟩
  rw [planned, starts, Outcome.value_bind, split, placeFitting_append (passed before fresh),
    Action.final_eq_value_iff, placeFitting_of_value capacity places, skips]

/-- In a planned map there is no room for a segment that has no range. -/
theorem place_ne_value {capacities : Segment.Table (Option Nat)}
    (plans : planned geometry capacities = .value map)
    (capacity : capacities.get segment = some maxPayload) (vacant : map.entry? segment = none) :
    place segment maxPayload map ≠ (.value entry, next) := by
  intro places
  obtain ⟨grown, full⟩ := planned_eq_value plans
  have room := (grown.laidOut.place_eq_value_iff vacant).1 ⟨entry, next, places⟩
  have crowded := full segment (Segment.mem_all segment) maxPayload capacity vacant
  omega

end MemoryMap

end NorStore
