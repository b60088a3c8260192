/-
# A store on a test bench

A store on a small chip in memory, with the segments of a typical node and a clock
that is moved by hand. A reboot starts a new store over the same cells, with empty live
bytes and no events.
-/

import NorStore.Flash.Probe
import NorStore.Store.Commit
import NorStore.Store.Restore

namespace NorStore

open NorStore.Flash (Geometry MemoryFlash)

namespace Bench

/-- The chip of the bench: sixty-four blocks of 256 bytes. -/
def geometry : Geometry where
  regionOffset := 0
  regionSize := 16384
  blockCount := 64
  blockSize := 256
  regionCount := 1

/-- The application signature of the bench: the letters `TEST`, last letter first. -/
def appSignature : UInt32 := 0x54455354

/-- The segments of a typical node, with their largest payloads. -/
def standardSegments : List (Segment × Nat) :=
  [(.networkImage, 1024), (.applicationData, 64), (.security, 48), (.uniqueId, 6),
    (.isiConnectionTable, 512), (.isiPersistentState, 32), (.nodeDefinition, 256)]

/-- The chip of the bench, erased. -/
def blankFlash : MemoryFlash where
  geometry := geometry
  valid := geometry.validate_eq_ok_iff.1 rfl
  cells := geometry.blankCells
  size_cells := geometry.size_blankCells
  eraseCounts := Array.replicate geometry.blockCount 0
  size_eraseCounts := Array.size_replicate

/-- Register segments one after another, each with empty live bytes. -/
def registerAll {δ : Type} (segments : List (Segment × Nat)) (store : Store δ) : Store δ :=
  segments.foldl
    (fun reached (segment, maxSize) => reached.register segment (.blob maxSize none .full) [])
    store

/-- A store on a bench, what each boot registers, and the signature of the application
that was booted last. The store can change its own signature without a boot. -/
structure Fixture where
  segments : List (Segment × Nat)
  booted : UInt32
  store : Store MemoryFlash

namespace Fixture

/-- A store over an erased chip. -/
def new (segments : List (Segment × Nat)) : Fixture where
  segments := segments
  booted := appSignature
  store := registerAll segments (Store.start blankFlash { appSignature } {})

/-- Reboot into an application with the given signature. -/
def rebootInto (fixture : Fixture) (appSignature : UInt32) : Fixture :=
  { fixture with
    booted := appSignature
    store := registerAll fixture.segments (fixture.store.reboot { appSignature }) }

/-- Reboot into the same application. -/
def reboot (fixture : Fixture) : Fixture := fixture.rebootInto fixture.booted

/-- The live bytes of a segment, which are empty if it is not registered. -/
def live (fixture : Fixture) (segment : Segment) : Bytes :=
  (fixture.store.live? segment).getD []

end Fixture

end Bench

end NorStore
