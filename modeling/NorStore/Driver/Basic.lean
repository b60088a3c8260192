/-
# The segment driver

The driver keeps a device, the capacities that were reserved on it, and the memory
map. The map is planned at the first access and not before, so that everything that
was reserved until then is placed in the fixed order of the segments; what is
reserved later is placed when it is first used.
-/

import NorStore.Flash.Device
import NorStore.MemoryMap

namespace NorStore

open NorStore.Flash (BlockDevice FlashError Geometry)

/-- How far the memory map of a device has come. -/
inductive Planner where
  | unmapped
  | mapped (map : MemoryMap)
  | failed (reason : Unavailability)

/-- A device and the segments on it. -/
structure SegmentDriver (δ : Type) where
  device : δ
  capacities : Segment.Table (Option Nat) := .replicate none
  planner : Planner := .unmapped

namespace SegmentDriver

variable {δ ε α : Type}

/-- Reserve room for payloads of a segment. -/
def reserve (driver : SegmentDriver δ) (segment : Segment) (maxPayload : Nat) : SegmentDriver δ :=
  { driver with capacities := driver.capacities.set segment (some maxPayload) }

/-- The capacity that was reserved for a segment. -/
def capacity? (driver : SegmentDriver δ) (segment : Segment) : Option Nat :=
  driver.capacities.get segment

/-- The memory map, once there is one. -/
def memoryMap? (driver : SegmentDriver δ) : Option MemoryMap :=
  match driver.planner with
  | .mapped map => some map
  | .unmapped => none
  | .failed _ => none

/-- An access to the device. -/
def onDevice (access : Action δ ε α) : Action (SegmentDriver δ) ε α := fun driver =>
  match driver with
  | ⟨device, capacities, planner⟩ =>
    match access device with
    | (outcome, reached) => (outcome, ⟨reached, capacities, planner⟩)

/-- An access to the map, which is kept as it is left. -/
def onMap (map : MemoryMap) (access : Action MemoryMap ε α) : Action (SegmentDriver δ) ε α :=
  fun driver =>
    match access map with
    | (outcome, reached) => (outcome, { driver with planner := .mapped reached })

variable [BlockDevice δ]

/-- Plan the map of the device with what has been reserved. -/
def plan (driver : SegmentDriver δ) : Outcome StoreError Planner :=
  match BlockDevice.geometry driver.device with
  | .error cause => return .failed (.device cause)
  | .ok geometry =>
    match MemoryMap.empty geometry with
    | .trap => .trap
    | .error (.deviceUnavailable (.device cause)) => return .failed (.noMap cause)
    | .error _ => return .failed .unplanned
    | .value map => do
      let planned ← (MemoryMap.placeFitting driver.capacities Segment.all).final map
      return .mapped planned

/-- Plan the map unless that has been tried. -/
def planOnce : Action (SegmentDriver δ) StoreError Unit := fun driver =>
  match driver.planner with
  | .unmapped =>
    match driver.plan with
    | .value planner => (.value (), { driver with planner })
    | .error cause => (.error cause, driver)
    | .trap => (.trap, driver)
  | .mapped _ => (.value (), driver)
  | .failed _ => (.value (), driver)

/-- The range of a segment, which is assigned now if the segment has none yet. -/
def ensureMapped (segment : Segment) : Action (SegmentDriver δ) StoreError MapEntry := do
  planOnce
  let driver ← get
  match driver.planner with
  | .unmapped => throw (.deviceUnavailable .unplanned)
  | .failed reason => throw (.deviceUnavailable reason)
  | .mapped map =>
    match map.entry? segment with
    | some entry => return entry
    | none =>
      match driver.capacity? segment with
      | none => throw (.unregistered segment)
      | some maxPayload =>
        onMap map (MemoryMap.place segment maxPayload)

end SegmentDriver

end NorStore
