/-
# One round trip

The shortest useful life of a store: a change is marked and committed at once, the
live bytes are forgotten, and the segment is restored.
-/

import NorStore.Flash.Probe
import NorStore.Store.Commit
import NorStore.Store.Restore

namespace NorStore.Bench

open NorStore.Flash (FlashError Geometry MemoryFlash)

/-- What a round trip came to. -/
structure RoundTrip where
  report : CommitReport
  outcome : LoadOutcome
  live : Bytes
  flash : MemoryFlash

/-- Store a payload and restore it, on an erased chip of the given geometry. -/
def RoundTrip.run (geometry : Geometry) (appSignature : UInt32) (segment : Segment)
    (codec : Codec) (payload : Bytes) : Outcome FlashError RoundTrip := do
  let flash ← Outcome.ofExcept (MemoryFlash.blank? geometry)
  let config : Config := { guardBand := 0, commitYield := 0, appSignature }
  let store := ((Store.start flash config {}).register segment codec payload).markDirty segment
  let life : Action (Store MemoryFlash) FlashError (CommitReport × LoadOutcome) := do
    let report ← Store.commitCheck
    modify fun reached => reached.setLive segment []
    let outcome ← Store.restore segment
    return (report, outcome)
  match life store with
  | (.value (report, outcome), reached) =>
    return { report, outcome, live := (reached.live? segment).getD [], flash := reached.device }
  | (.error cause, _) => throw cause
  | (.trap, _) => .trap

end NorStore.Bench
