/-
# The store

A store keeps the registered segments of an application on one device. It knows which
of them changed since they were last stored, and when the first of those changes
happened.
-/

import NorStore.Codec
import NorStore.Driver.Inspection
import NorStore.Flash.Handles
import NorStore.Store.Config
import NorStore.Store.Record

namespace NorStore

open NorStore.Flash (BlockDevice Shareable)

/-- A segment of the application: its codec and its live bytes. -/
structure Registration where
  codec : Codec
  live : Bytes

/-- The segments of an application on a device. -/
structure Store (δ : Type) where
  driver : SegmentDriver δ
  config : Config := {}
  clock : Clock := {}
  registrations : Segment.Table (Option Registration) := .replicate none
  dirty : Segment.Table Bool := .replicate false
  /-- When the running guard band started. -/
  windowStart : Option Nat := none
  /-- Whether the next check commits in any case. -/
  forced : Bool := false
  stats : Stats := {}
  /-- What happened, in order. -/
  events : List Event := []

namespace Store

variable {δ ε α : Type}

/-- A store that has just been started on a device. -/
def start (device : δ) (config : Config) (clock : Clock) : Store δ :=
  { driver := { device }, config, clock }

/-- A store started anew over the same cells. Only the cells and the clock survive. -/
def reboot [Shareable δ] (store : Store δ) (config : Config) : Store δ :=
  start (Shareable.attach store.driver.device) config store.clock

/-- The device of the store. -/
def device (store : Store δ) : δ := store.driver.device

/-- An access to the driver. -/
def onDriver (access : Action (SegmentDriver δ) ε α) : Action (Store δ) ε α := fun store =>
  match store with
  | ⟨driver, config, clock, registrations, dirty, windowStart, forced, stats, events⟩ =>
    match access driver with
    | (outcome, reached) =>
      (outcome, ⟨reached, config, clock, registrations, dirty, windowStart, forced, stats, events⟩)

/-- Register a segment, and reserve room for it. A segment that is registered again
gets the new codec and live bytes. -/
def register (store : Store δ) (segment : Segment) (codec : Codec) (live : Bytes) : Store δ :=
  { store with
    driver := store.driver.reserve segment codec.maxSize
    registrations := store.registrations.set segment (some { codec, live }) }

/-- Whether a segment is registered. -/
def isRegistered (store : Store δ) (segment : Segment) : Bool :=
  (store.registrations.get segment).isSome

/-- The registered segments, in order. -/
def registered (store : Store δ) : List Segment := store.registrations.filled

/-- The live bytes of a registered segment. -/
def live? (store : Store δ) (segment : Segment) : Option Bytes :=
  (store.registrations.get segment).map Registration.live

/-- Replace the live bytes of a registered segment. -/
def setLive (store : Store δ) (segment : Segment) (live : Bytes) : Store δ :=
  match store.registrations.get segment with
  | none => store
  | some registration =>
    { store with
      registrations := store.registrations.set segment (some { registration with live }) }

/-- Let time pass. -/
def advanceClock (store : Store δ) (millis : Nat) : Store δ :=
  { store with clock := store.clock.advance millis }

/-- Set the time. -/
def setClock (store : Store δ) (millis : Nat) : Store δ :=
  { store with clock := store.clock.setTo millis }

/-- Change the signature of the application. -/
def setAppSignature (store : Store δ) (appSignature : UInt32) : Store δ :=
  { store with config := { store.config with appSignature } }

/-- Change the guard band, also the one that is running. -/
def setGuardBandMillis (store : Store δ) (millis : Nat) : Store δ :=
  { store with config := { store.config with guardBand := Duration.ofMillis millis } }

/-- Forget the events so far. -/
def clearEvents (store : Store δ) : Store δ := { store with events := [] }

/-- The losses among the events. -/
def losses (store : Store δ) : List (Segment × LossReason) := store.events.filterMap Event.loss?

/-- The memory map, once there is one. -/
def memoryMap? (store : Store δ) : Option MemoryMap := store.driver.memoryMap?

variable [BlockDevice δ]

/-- The ranges of the registered segments, up to the first that has none. -/
def ensureMapped : Action (Store δ) StoreError (List MapEntry) := do
  (← get).registered.mapM fun segment => onDriver (SegmentDriver.ensureMapped segment)

/-- Look at what is on flash for a segment, with the settings of the store. -/
def inspect (segment : Segment) : Action (Store δ) StoreError Inspection := do
  let store ← get
  let span := (store.registrations.get segment).elim ChecksumSpan.full (·.codec.span)
  onDriver (SegmentDriver.inspect segment store.config.appSignature store.config.maxVersion span)

end Store

end NorStore
