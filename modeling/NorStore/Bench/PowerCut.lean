/-
# Cutting power at every byte

A sweep commits an old payload and stores a new one over it with a power cut after
every possible number of bytes. After each cut the device is rebooted and restored.
The old payload, the new one, and nothing at all are what may be found; of these, the
old one and nothing only if the store reported a failure.
-/

import NorStore.Bench.Fixture

namespace NorStore.Bench.PowerCut

open NorStore.Flash (Faulty Geometry MemoryFlash Shareable)

/-- The segment that is stored, and where. -/
structure Trial where
  geometry : Geometry := Bench.geometry
  segment : Segment
  maxSize : Nat

/-- What was found after a cut. -/
inductive Finding where
  | old
  | new
  | noPersistence
  | violation (cut : Nat) (stored : Bool) (outcome : LoadOutcome) (length : Nat)
deriving DecidableEq, Repr

/-- What a sweep found. -/
structure Report where
  /-- The number of bytes that an uninterrupted store programs. -/
  totalBytes : Nat
  /-- What was found after a cut at each number of bytes. -/
  findings : List Finding

/-- Whether something was found that must not be. -/
def Finding.isViolation : Finding → Bool
  | violation .. => true
  | old => false
  | new => false
  | noPersistence => false

/-- The name of a finding in a report. -/
def Finding.describe : Finding → String
  | old => "old"
  | new => "new"
  | noPersistence => "no_persistence"
  | violation cut stored outcome length =>
    let found :=
      match outcome with
      | .restored => "restored"
      | .lost reason => reason.message
    s!"violation: cut after {cut} bytes (store ok: {stored}): {found}, restored {length} bytes"

/-- A sweep is clean if nothing forbidden was found. -/
def Report.isClean (report : Report) : Bool := !report.findings.any Finding.isViolation

/-- The findings with their run lengths: neighbours that are the same count as one run. -/
def runs : List Finding → List (Finding × Nat)
  | [] => []
  | finding :: rest =>
    match runs rest with
    | [] => [(finding, 1)]
    | (next, length) :: more =>
      if next = finding then (finding, length + 1) :: more
      else (finding, 1) :: (next, length) :: more

namespace Trial

variable {ε : Type}

/-- A store of the trial that has just been started. -/
def boot {δ : Type} (trial : Trial) (device : δ) (live : Bytes) : Store δ :=
  (Store.start device { appSignature := Bench.appSignature } {}).register trial.segment
    (.blob trial.maxSize none .full) live

/-- Store a payload, and tell whether that succeeded. -/
def store (trial : Trial) (device : Faulty MemoryFlash) (payload : Bytes) :
    Outcome ε (Bool × Faulty MemoryFlash) :=
  match Store.storeSegment trial.segment (trial.boot device payload) with
  | (.value (), reached) => .value (true, reached.device)
  | (.error _, reached) => .value (false, reached.device)
  | (.trap, _) => .trap

/-- Restore the segment on a rebooted device, and give its live bytes. -/
def restore (trial : Trial) (flash : MemoryFlash) : Outcome ε (LoadOutcome × Bytes) :=
  match Store.restore trial.segment (trial.boot flash []) with
  | (.value outcome, reached) => .value (outcome, (reached.live? trial.segment).getD [])
  | (.error cause, _) => .error cause
  | (.trap, _) => .trap

/-- A chip on which a payload is committed. A trial in which that fails traps. -/
def committed (trial : Trial) (payload : Bytes) : Outcome ε MemoryFlash :=
  match MemoryFlash.blank? trial.geometry with
  | .error _ => .trap
  | .ok flash => do
    let (stored, device) ← trial.store { device := flash } payload
    Outcome.require (stored = true)
    return Shareable.attach device.device

/-- Judge what a restore gave after a cut. -/
def judge (old new : Bytes) (cut : Nat) (stored : Bool) (outcome : LoadOutcome) (live : Bytes) :
    Finding :=
  if outcome = .restored ∧ live = new then .new
  else if outcome = .restored ∧ live = old ∧ stored = false then .old
  else if outcome = .lost .noPersistence ∧ stored = false then .noPersistence
  else .violation cut stored outcome live.length

/-- What is found after power was cut at one number of bytes. -/
def cutAt (trial : Trial) (image : MemoryFlash) (old new : Bytes) (cut : Nat) :
    Outcome ε Finding := do
  let device : Faulty MemoryFlash := { device := image, faults := { powerLeft := some cut } }
  let (stored, reached) ← trial.store device new
  let (outcome, live) ← trial.restore (Shareable.attach reached.device)
  return judge old new cut stored outcome live

/-- Cut power at every number of bytes. A trial in which the uninterrupted stores fail
traps. -/
def sweep (trial : Trial) (old new : Bytes) : Outcome ε Report := do
  let image ← trial.committed old
  let (stored, device) ← trial.store { device := image } new
  Outcome.require (stored = true)
  let totalBytes := device.faults.bytesWritten
  let findings ← (List.range (totalBytes + 1)).mapM (trial.cutAt image old new)
  return { totalBytes, findings }

end Trial

end NorStore.Bench.PowerCut
