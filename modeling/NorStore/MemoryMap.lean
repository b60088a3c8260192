/-
# Memory maps

Every segment has a fixed range of whole blocks: its ledger, its header, and room for
its largest payload. Ranges are taken from the top of the region downwards, in the
order in which segments are placed, so a later segment never moves an earlier one.
-/

import NorStore.Record.Header

namespace NorStore

open NorStore.Flash (Geometry)

/-- The range of one segment. -/
structure MapEntry where
  segment : Segment
  start : Nat
  /-- The size of the range, in whole blocks. -/
  reserved : Nat
  /-- What the range holds behind the ledger. -/
  maxDataSize : Nat
deriving DecidableEq, Repr

namespace MapEntry

/-- The offset behind the ledger. -/
def dataOffset (entry : MapEntry) : Nat := entry.start + Ledger.size

/-- The first offset past the range. -/
def past (entry : MapEntry) : Nat := entry.start + entry.reserved

/-- Whether two ranges share a byte. -/
def overlaps (entry other : MapEntry) : Bool :=
  entry.start < other.past && other.start < entry.past

end MapEntry

/-- The ranges that have been assigned in a region. -/
structure MemoryMap where
  geometry : Geometry
  valid : geometry.Valid
  entries : Segment.Table (Option MapEntry) := .replicate none
  /-- The start of the lowest range, or the end of the region. -/
  lowWater : Nat

namespace MemoryMap

/-- A map without ranges. -/
def empty (geometry : Geometry) : Outcome StoreError MemoryMap :=
  match geometry.check with
  | .error fault => throw (.deviceUnavailable (.device (.invalidGeometry fault)))
  | .ok ⟨valid⟩ => do
    let lowWater ← geometry.regionEnd
    return { geometry, valid, lowWater }

/-- The range of a segment, if it has one. -/
def entry? (map : MemoryMap) (segment : Segment) : Option MapEntry := map.entries.get segment

/-- How many bytes below the lowest range are free. -/
def free (map : MemoryMap) : Nat := map.lowWater - map.geometry.regionOffset

/-- The range below all others that has room for a payload. -/
def nextRange (map : MemoryMap) (segment : Segment) (maxPayload : Nat) :
    Outcome StoreError MapEntry := do
  let needed ← Word.add (Ledger.size + Header.size) maxPayload
  let reserved ← map.geometry.roundUp needed
  let available ← Word.sub map.lowWater map.geometry.regionOffset
  if available < reserved then
    throw (.capacityExceeded segment reserved available)
  else
    let start ← map.geometry.alignDown (map.lowWater - reserved)
    let maxDataSize ← Word.sub reserved Ledger.size
    return { segment, start, reserved, maxDataSize }

/-- Assign a range with room for a payload. A segment that has a range keeps it. -/
def place (segment : Segment) (maxPayload : Nat) : Action MemoryMap StoreError MapEntry := do
  let map ← get
  match map.entry? segment with
  | some entry => return entry
  | none =>
    let entry ← map.nextRange segment maxPayload
    set { map with entries := map.entries.set segment (some entry), lowWater := entry.start }
    return entry

/-- Place each of a list of segments in turn. -/
def placeEach : List (Segment × Nat) → Action MemoryMap StoreError Unit
  | [] => return ()
  | (segment, maxPayload) :: rest => do
    let _ ← place segment maxPayload
    placeEach rest

/-- The map of a region in which all the given segments have their ranges. They are
placed in the order of the segments, whatever order they are given in. -/
def plan (geometry : Geometry) (capacities : List (Segment × Nat)) :
    Outcome StoreError MemoryMap := do
  let map ← empty geometry
  (placeEach (Segment.sortBy Prod.fst capacities)).final map

/-- Place those of a list of segments that have a capacity. One that does not fit is
left out. -/
def placeFitting (capacities : Segment.Table (Option Nat)) :
    List Segment → Action MemoryMap StoreError Unit
  | [] => return ()
  | segment :: rest =>
    match capacities.get segment with
    | none => placeFitting capacities rest
    | some maxPayload => do
      let _ ← ((place segment maxPayload).attempt : Action _ _ (Except StoreError MapEntry))
      placeFitting capacities rest

end MemoryMap

end NorStore
