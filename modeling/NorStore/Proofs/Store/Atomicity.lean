/-
# Storing is all or nothing

What a reboot recovers after one attempt to store a segment. If the store succeeded it is
the new payload. If it failed it is what would have been recovered before, or nothing; once
the transaction was open it is nothing. This holds for every content of the flash and
every way in which power, the device or the codec can fail, and a mixture of the old
payload and the new one is never recovered.

It holds of a segment that the reboot finds where it was. A segment that was registered after
the first access got a range below all others, and the reboot may give that range to another
segment, even if the same segments are registered.
-/

import NorStore.Proofs.Store.Reboot

namespace NorStore.Store

open NorStore.Flash (BlockDevice Faulty Geometry Glitchy MemoryFlash NorDevice Restartable
  Shareable)

variable {δ ε : Type} [BlockDevice δ] [NorDevice δ] [Shareable δ] [Restartable δ] {store : Store δ}
  {segment : Segment} {entry : MapEntry} {registration : Registration} {driver : SegmentDriver δ}

/-- What is recovered when there is nothing. -/
def nothing (defaults : Segment → Bytes) (segment : Segment) :
    Outcome ε LoadOutcome × Option Bytes :=
  (.value (.lost .noPersistence), some (defaults segment))

section Recovered

variable (home : store.Home segment entry)
  (registered : store.registrations.get segment = some registration) (defaults : Segment → Bytes)

include home registered

/-- A segment whose home is not committed is recovered as nothing. -/
theorem recovered_of_not_committed (uncommitted : ¬ Committed (store.driver.contents entry)) :
    (store.recovered defaults segment : Outcome ε LoadOutcome × Option Bytes) =
      nothing defaults segment := by
  rw [recovered_eq home registered, reading_of_not_committed _ uncommitted]
  rfl

/-- A segment whose home carries a payload is recovered with what its codec makes of it. -/
theorem recovered_of_carries {payload live : Bytes}
    (carries : Carries store.config.appSignature registration.codec.span payload
      (store.driver.contents entry))
    (short : payload.length < UInt32.size)
    (known : Header.currentVersion ≤ store.config.maxVersion)
    (accepted : registration.codec.deserialize payload = .ok live) :
    (store.recovered defaults segment : Outcome ε LoadOutcome × Option Bytes) =
      (.value .restored, some live) := by
  rw [recovered_eq home registered, reading_of_carries carries short known accepted]
  rfl

end Recovered

/-- A segment whose home has not changed is recovered as before. -/
theorem recovered_atop {range : MapEntry}
    (advances : SegmentDriver.Advances range store.driver driver)
    (same : ∀ entry, store.Home segment entry →
      driver.contents entry = store.driver.contents entry) (defaults : Segment → Bytes) :
    ((store.atop driver).recovered defaults segment : Outcome ε LoadOutcome × Option Bytes) =
      store.recovered defaults segment :=
  recovered_congr (registrations_atop store driver) rfl advances.keeps.shape same defaults

/-- After one attempt to store a segment and a reboot with working power that gives the segment
the same range, the segment is recovered as before or as nothing if the attempt failed, as
nothing if the transaction was opened, and with the new payload if it succeeded. -/
theorem recovered_storeSegment {store : Store (Glitchy (Faulty MemoryFlash))}
    (sound : store.driver.Sound) (gives : store.driver.Gives segment entry)
    (home : store.Home segment entry)
    (registered : store.registrations.get segment = some registration)
    (version : 1 ≤ store.config.maxVersion) (defaults : Segment → Bytes) :
    ∃ outcome after, storeSegment segment store = (outcome, after) ∧ outcome ≠ .trap ∧
      (∀ cause, outcome = .error cause →
        ((after.recovered defaults segment : Outcome ε LoadOutcome × Option Bytes) =
            store.recovered defaults segment ∨
          (after.recovered defaults segment : Outcome ε LoadOutcome × Option Bytes) =
            nothing defaults segment) ∧
        ((SegmentDriver.enterTransaction segment store.driver).1 = .value () →
          (after.recovered defaults segment : Outcome ε LoadOutcome × Option Bytes) =
            nothing defaults segment)) ∧
      (outcome = .value () → ∃ payload,
        registration.codec.serialize registration.live = .ok payload ∧
        ∀ live, payload.length < UInt32.size → registration.codec.deserialize payload = .ok live →
          (after.recovered defaults segment : Outcome ε LoadOutcome × Option Bytes) =
            (.value .restored, some live)) := by
  have room := home.room registered
  rcases (storeSegment_ends sound gives room registered).cases with
    ⟨_, after, stores, driver, payload, written, rfl⟩ | ⟨cause, after, fails, driver, missed, rfl⟩
  · refine ⟨_, _, stores, nofun, nofun, fun _ => ⟨payload, written.serialized, ?_⟩⟩
    intro live short accepted
    have later : (store.atop driver).registrations.get segment = some registration := registered
    have there : (store.atop driver).Home segment entry := home.of_keeps written.advances.keeps rfl
    exact recovered_of_carries there later defaults written.carries short version accepted
  · have later : (store.atop driver).registrations.get segment = some registration := registered
    have there : (store.atop driver).Home segment entry := home.of_keeps missed.advances.keeps rfl
    have uncommitted : ¬ Committed (driver.contents entry) →
        ((store.atop driver).recovered defaults segment : Outcome ε LoadOutcome × Option Bytes) =
          nothing defaults segment := recovered_of_not_committed there later defaults
    refine ⟨_, _, fails, nofun, fun _ _ => ⟨?_, fun opened => uncommitted (missed.opened opened)⟩,
      nofun⟩
    rcases missed.kept with same | open_
    · exact .inl (recovered_atop missed.advances
        (fun entry _ => missed.advances.contents_of_cells same entry) defaults)
    · exact .inr (uncommitted open_)

/-- The sample chip with power for thirty more bytes, in a store with new live bytes. -/
def interruptedStore : Store (Glitchy (Faulty MemoryFlash)) :=
  (Store.start { device := { device := sampleChip, faults := { powerLeft := some 30 } } }
    { appSignature := 5 } {}).register .uniqueId (.blob 2 none .full) [4]

theorem recovered_storeSegment_sample :
    ∃ outcome after, storeSegment .uniqueId interruptedStore = (outcome, after) ∧
      outcome ≠ .trap ∧
      (∀ cause, outcome = .error cause →
        ((after.recovered (fun _ => []) .uniqueId : Outcome StoreError LoadOutcome × Option Bytes) =
            interruptedStore.recovered (fun _ => []) .uniqueId ∨
          (after.recovered (fun _ => []) .uniqueId : Outcome StoreError LoadOutcome × Option Bytes) =
            nothing (fun _ => []) .uniqueId) ∧
        ((SegmentDriver.enterTransaction .uniqueId interruptedStore.driver).1 = .value () →
          (after.recovered (fun _ => []) .uniqueId : Outcome StoreError LoadOutcome × Option Bytes) =
            nothing (fun _ => []) .uniqueId)) ∧
      (outcome = .value () → ∃ payload,
        (Codec.blob 2 none .full).serialize [4] = .ok payload ∧
        ∀ live, payload.length < UInt32.size →
          (Codec.blob 2 none .full).deserialize payload = .ok live →
          (after.recovered (fun _ => []) .uniqueId : Outcome StoreError LoadOutcome × Option Bytes) =
            (.value .restored, some live)) := by
  have sound : interruptedStore.driver.Sound := ⟨⟨rfl, trivial⟩, fun _ known => nomatch known⟩
  have gives : interruptedStore.driver.Gives .uniqueId ⟨.uniqueId, 0, 32, 24⟩ := .inl rfl
  have home : interruptedStore.Home .uniqueId ⟨.uniqueId, 0, 32, 24⟩ := ⟨_, rfl, rfl⟩
  have registered : interruptedStore.registrations.get .uniqueId =
      some { codec := .blob 2 none .full, live := [4] } := rfl
  exact recovered_storeSegment sound gives home registered (by decide) fun _ => []

/-! ### A segment that is registered late -/

/-- Two blocks of 32 bytes. -/
def pairGeometry : Geometry where
  regionOffset := 0
  regionSize := 64
  blockCount := 2
  blockSize := 32
  regionCount := 1

/-- A chip with a committed payload in each of its blocks. -/
def pairChip : MemoryFlash where
  geometry := pairGeometry
  valid := (pairGeometry.validate_eq_ok_iff).1 rfl
  cells := (sampleImage ++ sampleImage).toArray
  size_cells := rfl
  eraseCounts := #[0, 0]
  size_eraseCounts := rfl

/-- A store that restores one segment, which gets the upper block, before another one is
registered, which comes first in the order of the segments. -/
def lateStore (device : δ) : Store δ :=
  let early := (start device { appSignature := 5 } {}).register .applicationData
    (.blob 2 none .full) []
  let restored : Outcome StoreError LoadOutcome × Store δ := restore .applicationData early
  restored.2.register .networkImage (.blob 2 none .full) [3]

/-- The late segment is stored in the lower block. The reboot gives it the upper one, and so it
restores another payload than the one that was stored. -/
theorem recovered_of_late :
    let store := lateStore ({ device := { device := pairChip } } : Glitchy (Faulty MemoryFlash))
    let stored := storeSegment .networkImage store
    (SegmentDriver.ensureMapped .networkImage store.driver).1 =
        .value ⟨.networkImage, 0, 32, 24⟩ ∧
      store.registrations.get .networkImage =
        some { codec := .blob 2 none .full, live := [3] } ∧
      (Codec.blob 2 none .full).deserialize [3] = .ok [3] ∧
      1 ≤ store.config.maxVersion ∧ stored.1 = .value () ∧
      (stored.2.recovered (fun _ => []) .networkImage :
        Outcome StoreError LoadOutcome × Option Bytes) = (.value .restored, some [7, 9]) :=
  ⟨by decide +kernel, rfl, rfl, by decide +kernel, by decide +kernel, by decide +kernel⟩

end NorStore.Store
