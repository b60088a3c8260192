/-
# How placing fills a region

A map in use is surveyed: beside it stand the calls that it has answered. Whatever was asked
for, in any order and however often, the ranges that were given tile the region from its end
down to the low-water mark. Each range is as large as the first call that was granted to its
segment needed, and no larger. What becomes of one more call is told by the free bytes.
-/

import NorStore.Proofs.Layout

namespace NorStore

open NorStore.Flash (Geometry)

/-! ## How much room a segment takes -/

namespace Flash.Geometry

variable {geometry : Geometry}

/-- The size is the least number of bytes in whole blocks that covers the length. -/
structure LeastCover (geometry : Geometry) (length size : Nat) : Prop where
  whole : size % geometry.blockSize = 0
  covers : length ≤ size
  least : ∀ other, other % geometry.blockSize = 0 → length ≤ other → size ≤ other

theorem leastCover_covering (nonempty : 0 < geometry.blockSize) (length : Nat) :
    geometry.LeastCover length (geometry.covering length) where
  whole := geometry.covering_mod length
  covers := le_covering nonempty length
  least _ whole covers := covering_le covers whole

/-- The whole blocks that a ledger, a header and a payload take. -/
def footprint (geometry : Geometry) (maxPayload : Nat) : Nat :=
  geometry.covering (Ledger.size + Header.size + maxPayload)

theorem le_footprint (nonempty : 0 < geometry.blockSize) (maxPayload : Nat) :
    Ledger.size + Header.size + maxPayload ≤ geometry.footprint maxPayload :=
  le_covering nonempty _

@[simp]
theorem footprint_mod (geometry : Geometry) (maxPayload : Nat) :
    geometry.footprint maxPayload % geometry.blockSize = 0 := geometry.covering_mod _

end Flash.Geometry

/-- The range of a segment just below a mark. -/
def MapEntry.below (geometry : Geometry) (mark : Nat) (segment : Segment) (maxPayload : Nat) :
    MapEntry where
  segment := segment
  start := mark - geometry.footprint maxPayload
  reserved := geometry.footprint maxPayload
  maxDataSize := geometry.footprint maxPayload - Ledger.size

namespace MemoryMap

variable {geometry : Geometry} {map : MemoryMap} {segment other : Segment} {maxPayload : Nat}

/-- The map with the next range below its low-water mark. -/
def assign (map : MemoryMap) (segment : Segment) (maxPayload : Nat) : MemoryMap :=
  let entry := MapEntry.below map.geometry map.lowWater segment maxPayload
  { map with entries := map.entries.set segment (some entry), lowWater := entry.start }

@[simp]
theorem entry?_assign_self (map : MemoryMap) (segment : Segment) (maxPayload : Nat) :
    MemoryMap.entry? (map.assign segment maxPayload) segment =
      some (MapEntry.below map.geometry map.lowWater segment maxPayload) := lookup_set_self ..

theorem entry?_assign_of_ne (map : MemoryMap) (maxPayload : Nat) (different : other ≠ segment) :
    MemoryMap.entry? (map.assign segment maxPayload) other = map.entry? other :=
  lookup_set_of_ne map _ _ different

/-- The next range is the one below the low-water mark, if that many bytes are free. -/
theorem LaidOut.nextRange_eq (laid : LaidOut geometry map)
    (rounds : geometry.footprint maxPayload < Word.limit) :
    map.nextRange segment maxPayload =
      if map.free < geometry.footprint maxPayload then
        .error (.capacityExceeded segment (geometry.footprint maxPayload) map.free)
      else
        .value (.below geometry map.lowWater segment maxPayload) := by
  obtain rfl := laid.geometry_eq
  have nonempty := map.valid.blockSize_pos
  have room := Geometry.le_footprint nonempty maxPayload
  have small : Ledger.size + Header.size + maxPayload < Word.limit := by omega
  have data : Ledger.size ≤ map.geometry.footprint maxPayload := by omega
  have rounded : (map.geometry.roundUp (Ledger.size + Header.size + maxPayload) :
      Outcome StoreError Nat) = .value (map.geometry.footprint maxPayload) :=
    Geometry.roundUp_of_lt nonempty rounds
  -- Both the mark and the footprint are whole blocks, so aligning the start changes nothing.
  have aligned : (map.lowWater - map.geometry.footprint maxPayload) % map.geometry.blockSize = 0 :=
    Nat.mod_eq_zero_of_dvd (Nat.dvd_sub (Nat.dvd_of_mod_eq_zero laid.lowWater_mod)
      (Nat.dvd_of_mod_eq_zero (map.geometry.footprint_mod maxPayload)))
  rw [nextRange]
  simp only [Word.add_of_lt small, rounded, Word.sub_of_le laid.le_lowWater, Outcome.value_bind,
    Geometry.alignDown, Word.mod_of_ne (Nat.ne_of_gt nonempty), aligned,
    Word.sub_of_le (Nat.zero_le _), Word.sub_of_le data, Nat.sub_zero]
  rfl

/-- A segment without a range gets the next one below the low-water mark if that many bytes
are free, and is refused otherwise. -/
theorem LaidOut.place_of_vacant (laid : LaidOut geometry map)
    (vacant : map.entry? segment = none) (rounds : geometry.footprint maxPayload < Word.limit) :
    MemoryMap.place segment maxPayload map =
      if map.free < geometry.footprint maxPayload then
        (.error (.capacityExceeded segment (geometry.footprint maxPayload) map.free), map)
      else
        (.value (.below geometry map.lowWater segment maxPayload),
          map.assign segment maxPayload) := by
  rw [place_of_none vacant, laid.nextRange_eq rounds]
  obtain rfl := laid.geometry_eq
  by_cases full : map.free < map.geometry.footprint maxPayload
  · rw [if_pos full, if_pos full]
  · rw [if_neg full, if_neg full]
    rfl

end MemoryMap

/-! ## Ranges that follow one another -/

/-- The ranges fill the offsets from a low one to a high one, each beginning where the one
before it ends. -/
def Tiles : Nat → List MapEntry → Nat → Prop
  | low, [], high => low = high
  | low, entry :: rest, high => entry.start = low ∧ Tiles entry.past rest high

/-- The bytes that some ranges take together. -/
def bytesOf : List MapEntry → Nat
  | [] => 0
  | entry :: rest => entry.reserved + bytesOf rest

namespace Tiles

variable {low high offset : Nat} {ranges : List MapEntry} {entry : MapEntry}

theorem low_add (tiles : Tiles low ranges high) : low + bytesOf ranges = high := by
  induction ranges generalizing low with
  | nil => exact tiles
  | cons first rest ih =>
      obtain ⟨rfl, later⟩ := tiles
      rw [bytesOf, ← Nat.add_assoc]
      exact ih later

theorem le_start (tiles : Tiles low ranges high) (listed : entry ∈ ranges) : low ≤ entry.start := by
  induction ranges generalizing low with
  | nil => contradiction
  | cons first rest ih =>
      obtain ⟨rfl, later⟩ := tiles
      rcases List.mem_cons.1 listed with rfl | further
      · exact Nat.le_refl _
      · exact Nat.le_trans (Nat.le_add_right ..) (ih later further)

/-- No two ranges of a tiling share a byte. -/
theorem pairwise (tiles : Tiles low ranges high) :
    ranges.Pairwise fun lower upper => lower.past ≤ upper.start := by
  induction ranges generalizing low with
  | nil => exact .nil
  | cons first rest ih =>
      obtain ⟨rfl, later⟩ := tiles
      exact .cons (fun entry => later.le_start) (ih later)

/-- Every byte between the two ends is in a range of the tiling, and no other byte is. -/
theorem mem_iff (tiles : Tiles low ranges high) :
    low ≤ offset ∧ offset < high ↔ ∃ entry ∈ ranges, entry.start ≤ offset ∧ offset < entry.past := by
  induction ranges generalizing low with
  | nil =>
      have same : low = high := tiles
      simp [same]
  | cons first rest ih =>
      obtain ⟨rfl, later⟩ := tiles
      have split := @ih first.past later
      have reach : first.start ≤ first.past := Nat.le_add_right ..
      have total := later.low_add
      simp only [List.mem_cons, exists_eq_or_imp, ← split]
      omega

end Tiles

/-! ## Surveys -/

/-- A call for a range, and the answer to it. -/
structure Placement where
  segment : Segment
  maxPayload : Nat
  answer : Outcome StoreError MapEntry

/-- A range that was given to a segment without one, and the payload that it was given for. -/
structure Grant where
  maxPayload : Nat
  entry : MapEntry

/-- The first call of each segment that was given a range. The latest comes first, as it does
among the calls. -/
def grants : List Placement → List Grant
  | [] => []
  | call :: earlier =>
    match call.answer with
    | .value entry =>
      if (grants earlier).any (·.entry.segment = call.segment) then grants earlier
      else ⟨call.maxPayload, entry⟩ :: grants earlier
    | .error _ => grants earlier
    | .trap => grants earlier

/-- A map in use, and the calls that it has answered, the latest first. -/
structure Survey where
  map : MemoryMap
  calls : List Placement := []

namespace Survey

/-- The ranges that were given, from the lowest upwards. -/
def ranges (survey : Survey) : List MapEntry := (grants survey.calls).map Grant.entry

/-- The survey after one more call. -/
def ask (survey : Survey) (segment : Segment) (maxPayload : Nat) : Survey :=
  match MemoryMap.place segment maxPayload survey.map with
  | (answer, map) => ⟨map, ⟨segment, maxPayload, answer⟩ :: survey.calls⟩

/-- The survey after some calls, one after another. -/
def askEach (survey : Survey) (calls : List (Segment × Nat)) : Survey :=
  calls.foldl (fun survey call => survey.ask call.1 call.2) survey

/-- The ranges of the map are those that were given, each for the payload of its grant, and they
tile the region from its end down to the low-water mark. -/
structure Filled (geometry : Geometry) (survey : Survey) : Prop where
  grown : MemoryMap.Grown geometry survey.map
  tiles : Tiles survey.map.lowWater survey.ranges (geometry.regionOffset + geometry.regionSize)
  entry?_iff : ∀ segment entry, survey.map.entry? segment = some entry ↔
    entry.segment = segment ∧ entry ∈ survey.ranges
  reserved : ∀ grant ∈ grants survey.calls,
    grant.entry.reserved = geometry.footprint grant.maxPayload
  answered : ∀ call ∈ survey.calls, call.answer ≠ .trap

namespace Filled

variable {geometry : Geometry} {survey : Survey} {segment : Segment} {maxPayload : Nat}
  {entry : MapEntry}

/-- Every range that was given is still the range of its segment. -/
theorem entry?_of_mem (filled : Filled geometry survey) (listed : entry ∈ survey.ranges) :
    survey.map.entry? entry.segment = some entry :=
  (filled.entry?_iff entry.segment entry).2 ⟨rfl, listed⟩

theorem fits (filled : Filled geometry survey) (listed : entry ∈ survey.ranges) :
    entry.Fits geometry :=
  filled.grown.laidOut.fits _ entry (filled.entry?_of_mem listed)

/-- What is free of the region is what the ranges have left of it. -/
theorem free_add (filled : Filled geometry survey) :
    survey.map.free + bytesOf survey.ranges = geometry.regionSize := by
  have total := filled.tiles.low_add
  have low := filled.grown.laidOut.le_lowWater
  rw [MemoryMap.free, filled.grown.laidOut.geometry_eq]
  omega

/-- A segment has been granted a range exactly if it has one. -/
theorem granted_iff (filled : Filled geometry survey) :
    (grants survey.calls).any (·.entry.segment = segment) = true ↔
      ∃ entry, survey.map.entry? segment = some entry := by
  simp only [filled.entry?_iff, ranges, List.any_eq_true, decide_eq_true_eq, List.mem_map]
  constructor
  · rintro ⟨grant, listed, named⟩
    exact ⟨grant.entry, named, grant, listed, rfl⟩
  · rintro ⟨_, named, grant, listed, rfl⟩
    exact ⟨grant, listed, named⟩

theorem start {map : MemoryMap} (starts : MemoryMap.empty geometry = .value map) :
    Filled geometry { map } where
  grown := .empty starts
  tiles := (MemoryMap.empty_eq_value starts).2.2.2.1
  entry?_iff segment entry := by
    simp [(MemoryMap.empty_eq_value starts).2.2.2.2, ranges, grants]
  reserved grant listed := by contradiction
  answered call listed := by contradiction

/-- A call that gives no new range changes nothing but the record of calls. -/
theorem unchanged (filled : Filled geometry survey) {answer : Outcome StoreError MapEntry}
    (same : grants (⟨segment, maxPayload, answer⟩ :: survey.calls) = grants survey.calls)
    (answers : answer ≠ .trap) :
    Filled geometry ⟨survey.map, ⟨segment, maxPayload, answer⟩ :: survey.calls⟩ where
  grown := filled.grown
  tiles := by simpa [ranges, same] using filled.tiles
  entry?_iff := by simpa [ranges, same] using filled.entry?_iff
  reserved := by simpa [same] using filled.reserved
  answered := by simpa [answers] using filled.answered

/-- A new range begins where the map did not reach so far and ends where it did. -/
theorem assign (filled : Filled geometry survey) (vacant : survey.map.entry? segment = none)
    (room : geometry.footprint maxPayload ≤ survey.map.free)
    (places : MemoryMap.place segment maxPayload survey.map =
      (.value (.below geometry survey.map.lowWater segment maxPayload),
        survey.map.assign segment maxPayload)) :
    Filled geometry ⟨survey.map.assign segment maxPayload, ⟨segment, maxPayload,
      .value (.below geometry survey.map.lowWater segment maxPayload)⟩ :: survey.calls⟩ := by
  obtain rfl := filled.grown.laidOut.geometry_eq
  have fresh : grants (⟨segment, maxPayload, .value
      (.below survey.map.geometry survey.map.lowWater segment maxPayload)⟩ :: survey.calls) =
      ⟨maxPayload, .below survey.map.geometry survey.map.lowWater segment maxPayload⟩ ::
        grants survey.calls := by
    simp [grants, filled.granted_iff, vacant]
  have past : (MapEntry.below survey.map.geometry survey.map.lowWater segment maxPayload).past =
      survey.map.lowWater := Nat.sub_add_cancel (Nat.le_trans room (Nat.sub_le ..))
  refine ⟨.place filled.grown places, ?_, fun asked entry => ?_, ?_, ?_⟩
  · simp only [ranges, fresh, List.map_cons]
    refine ⟨rfl, ?_⟩
    rw [past]
    exact filled.tiles
  · simp only [ranges, fresh, List.map_cons, List.mem_cons]
    by_cases isPlaced : asked = segment
    · subst isPlaced
      have absent : ¬ (entry.segment = asked ∧ entry ∈ survey.ranges) := by
        simp [← filled.entry?_iff, vacant]
      rw [MemoryMap.entry?_assign_self, Option.some.injEq, eq_comm]
      constructor
      · rintro rfl
        exact ⟨rfl, .inl rfl⟩
      · rintro ⟨named, rfl | listed⟩
        · rfl
        · exact absurd ⟨named, listed⟩ absent
    · rw [MemoryMap.entry?_assign_of_ne _ _ isPlaced, filled.entry?_iff]
      constructor
      · exact fun found => ⟨found.1, .inr found.2⟩
      · rintro ⟨named, rfl | listed⟩
        · exact absurd named.symm isPlaced
        · exact ⟨named, listed⟩
  · rw [fresh]
    exact List.forall_mem_cons.2 ⟨rfl, filled.reserved⟩
  · simpa using filled.answered

/-- One more call keeps all of this, whether or not it is granted. -/
theorem ask (filled : Filled geometry survey) (rounds : geometry.footprint maxPayload < Word.limit) :
    Filled geometry (survey.ask segment maxPayload) := by
  cases found : survey.map.entry? segment with
  | some entry =>
      rw [Survey.ask, MemoryMap.place_of_placed found]
      exact filled.unchanged (by simp [grants, filled.granted_iff, found]) nofun
  | none =>
      have places := filled.grown.laidOut.place_of_vacant found rounds
      rw [Survey.ask]
      by_cases full : survey.map.free < geometry.footprint maxPayload
      · rw [if_pos full] at places
        rw [places]
        exact filled.unchanged rfl nofun
      · rw [if_neg full] at places
        rw [places]
        exact filled.assign found (Nat.le_of_not_lt full) places

theorem askEach {calls : List (Segment × Nat)} (filled : Filled geometry survey)
    (rounds : ∀ call ∈ calls, geometry.footprint call.2 < Word.limit) :
    Filled geometry (survey.askEach calls) := by
  induction calls generalizing survey with
  | nil => exact filled
  | cons call rest ih =>
      exact ih (filled.ask (rounds call List.mem_cons_self)) fun later listed =>
        rounds later (.tail _ listed)

/-- A grant is of the least whole blocks for its payload, which fits behind the header. -/
theorem sized {grant : Grant} (filled : Filled geometry survey)
    (granted : grant ∈ grants survey.calls) :
    geometry.LeastCover (Ledger.size + Header.size + grant.maxPayload) grant.entry.reserved ∧
      Header.size + grant.maxPayload ≤ grant.entry.maxDataSize := by
  have nonempty : 0 < geometry.blockSize :=
    filled.grown.laidOut.geometry_eq ▸ survey.map.valid.blockSize_pos
  have least := Flash.Geometry.leastCover_covering nonempty
    (Ledger.size + Header.size + grant.maxPayload)
  have covers := least.covers
  rw [(filled.fits (List.mem_map_of_mem granted)).maxDataSize, filled.reserved grant granted]
  refine ⟨least, ?_⟩
  rw [Flash.Geometry.footprint]
  omega

end Filled

/-- A call that is refused leaves the whole map as it is. -/
theorem map_ask_of_error {survey : Survey} {segment : Segment} {maxPayload : Nat}
    {cause : StoreError}
    (refused : (MemoryMap.place segment maxPayload survey.map).1 = .error cause) :
    (survey.ask segment maxPayload).map = survey.map := by
  rw [ask]
  rcases MemoryMap.place_cases segment maxPayload survey.map with
    ⟨entry, next, places⟩ | ⟨cause, fails⟩ | traps
  · rw [places] at refused
    cases refused
  · rw [fails]
  · rw [traps]

/-- Whatever ranges are asked for in a region, in any order and again, they tile it from its end
downwards in the order in which they were given. Each is the least whole blocks for the first
call that its segment was granted, and stays the range of that segment. A segment without a
range is refused one exactly if its blocks are more than the free bytes, which are what the
ranges have left of the region, and a refusal leaves the whole map as it is. -/
theorem tiles_of_calls {geometry : Geometry} (valid : geometry.Valid)
    (ends : geometry.regionOffset + geometry.regionSize < Word.limit)
    (calls : List (Segment × Nat))
    (rounds : ∀ call ∈ calls, geometry.footprint call.2 < Word.limit) :
    ∃ start, MemoryMap.empty geometry = .value start ∧
      let survey := ({ map := start } : Survey).askEach calls
      Tiles survey.map.lowWater survey.ranges (geometry.regionOffset + geometry.regionSize) ∧
      survey.ranges.Pairwise (fun lower upper => lower.past ≤ upper.start) ∧
      (∀ offset, survey.map.lowWater ≤ offset ∧
          offset < geometry.regionOffset + geometry.regionSize ↔
        ∃ entry ∈ survey.ranges, entry.start ≤ offset ∧ offset < entry.past) ∧
      (∀ segment entry, survey.map.entry? segment = some entry ↔
        entry.segment = segment ∧ entry ∈ survey.ranges) ∧
      (∀ grant ∈ grants survey.calls,
        grant.entry.start % geometry.blockSize = 0 ∧
        geometry.LeastCover (Ledger.size + Header.size + grant.maxPayload) grant.entry.reserved ∧
        grant.entry.maxDataSize = grant.entry.reserved - Ledger.size ∧
        Header.size + grant.maxPayload ≤ grant.entry.maxDataSize) ∧
      survey.map.free + bytesOf survey.ranges = geometry.regionSize ∧
      (∀ call ∈ survey.calls, call.answer ≠ .trap) ∧
      ∀ segment maxPayload,
        (∀ entry, survey.map.entry? segment = some entry →
          MemoryMap.place segment maxPayload survey.map = (.value entry, survey.map)) ∧
        (geometry.footprint maxPayload < Word.limit → survey.map.entry? segment = none →
          MemoryMap.place segment maxPayload survey.map =
            if survey.map.free < geometry.footprint maxPayload then
              (.error (.capacityExceeded segment (geometry.footprint maxPayload) survey.map.free),
                survey.map)
            else
              (.value (.below geometry survey.map.lowWater segment maxPayload),
                survey.map.assign segment maxPayload)) ∧
        ∀ cause, (MemoryMap.place segment maxPayload survey.map).1 = .error cause →
          (survey.ask segment maxPayload).map = survey.map := by
  have starts := MemoryMap.empty_of_valid valid
  rw [Geometry.regionEnd, Word.add_of_lt ends, Outcome.value_bind, Outcome.pure_eq] at starts
  refine ⟨_, starts, ?_⟩
  have filled := (Filled.start starts).askEach rounds
  refine ⟨filled.tiles, filled.tiles.pairwise, fun _ => filled.tiles.mem_iff, filled.entry?_iff,
    fun grant granted => ?_, filled.free_add, filled.answered, fun segment maxPayload =>
      ⟨fun entry found => ?_, ?_, ?_⟩⟩
  · have fits := filled.fits (List.mem_map_of_mem granted)
    obtain ⟨least, room⟩ := filled.sized granted
    exact ⟨fits.aligned, least, fits.maxDataSize, room⟩
  · exact MemoryMap.place_of_placed found
  · exact fun small vacant => filled.grown.laidOut.place_of_vacant vacant small
  · exact fun cause refused => map_ask_of_error refused

/-- In five blocks of an odd size one segment gets two blocks, another one asks for six and is
refused, the first one asks for more and keeps its range, and a third one gets the next block. -/
theorem tiles_of_calls_sample :
    ∃ start, MemoryMap.empty ⟨72, 120, 5, 24, 1⟩ = .value start ∧
      let survey := ({ map := start } : Survey).askEach
        [(.security, 10), (.networkImage, 100), (.security, 60), (.applicationData, 0)]
      survey.ranges = [⟨.applicationData, 120, 24, 16⟩, ⟨.security, 144, 48, 40⟩] ∧
      Tiles 120 survey.ranges 192 ∧ survey.map.free + bytesOf survey.ranges = 120 := by
  have valid : (⟨72, 120, 5, 24, 1⟩ : Geometry).Valid :=
    ⟨by decide, by decide, by decide, by decide, by decide, by decide⟩
  obtain ⟨start, starts, tiles, -, -, -, -, free, -⟩ := tiles_of_calls valid (by decide)
    [(.security, 10), (.networkImage, 100), (.security, 60), (.applicationData, 0)] (by decide)
  have known : (MemoryMap.empty ⟨72, 120, 5, 24, 1⟩ : Outcome StoreError MemoryMap) = .value _ := rfl
  rw [known] at starts
  cases starts
  exact ⟨_, known, by decide, tiles, free⟩

end Survey

end NorStore
