/-
# Storing a segment

A store that succeeds leaves the segment committed with its new payload. One that fails
leaves it uncommitted or does nothing to it; which of the two depends on whether the
transaction was opened, and not on how much was written afterwards. Neither touches
another segment. The device fails for a reason: if nothing but power can fail, a store
that should have succeeded fails because power was lost.
-/

import NorStore.Proofs.Driver.Content
import NorStore.Proofs.Store.Settled

namespace NorStore

open NorStore.Flash (BlockDevice ChipView NorDevice)
open NorStore.Flash.ChipView (cells)

variable {δ : Type} [BlockDevice δ] [NorDevice δ]

/-- The codec makes a payload of the live bytes, and one that fits. -/
def Registration.Storable (registration : Registration) : Prop :=
  ∃ payload, registration.codec.serialize registration.live = .ok payload ∧
    payload.length ≤ registration.codec.maxSize

namespace Store

variable {store : Store δ} {segment : Segment} {entry : MapEntry}
  {registration : Registration} {driver : SegmentDriver δ}

/-- The driver after the segment was written. -/
structure Written (store : Store δ) (entry : MapEntry) (registration : Registration)
    (payload : Bytes) (driver : SegmentDriver δ) : Prop where
  advances : SegmentDriver.Advances entry store.driver driver
  serialized : registration.codec.serialize registration.live = .ok payload
  fits : payload.length ≤ registration.codec.maxSize
  powered : ¬ ChipView.Lost store.device
  carries : Carries store.config.appSignature registration.codec.span payload
    (driver.contents entry)

/-- The driver after the segment could not be written. -/
structure NotWritten (store : Store δ) (segment : Segment) (entry : MapEntry)
    (registration : Registration) (driver : SegmentDriver δ) : Prop where
  advances : SegmentDriver.Advances entry store.driver driver
  kept : cells driver.device = cells store.device ∨ ¬ Committed (driver.contents entry)
  opened : (SegmentDriver.enterTransaction segment store.driver).1 = .value () →
    ¬ Committed (driver.contents entry)
  spent : store.driver.Usable → registration.Storable → ChipView.Lost driver.device

/-- What an attempt to write a segment in its range comes to if it fails. -/
structure Missed (store : Store δ) (segment : Segment) (entry : MapEntry)
    (registration : Registration) (driver : SegmentDriver δ) : Prop
    extends SegmentDriver.Stopped segment entry store.driver driver where
  spent : Header.size + registration.codec.maxSize ≤ entry.maxDataSize →
    ChipView.Steady store.device → registration.Storable → ChipView.Lost driver.device

theorem Missed.notWritten (missed : Missed store segment entry registration driver)
    (room : Header.size + registration.codec.maxSize ≤ entry.maxDataSize) :
    NotWritten store segment entry registration driver :=
  ⟨missed.confined.advances, missed.kept, missed.opened,
    fun usable => missed.spent room usable.steady⟩

/-- Writing a segment that has its range, whether or not its payloads fit there. -/
theorem writeSegment_ends (sound : store.driver.Sound)
    (mapped : store.driver.Mapped segment entry)
    (registered : store.registrations.get segment = some registration) :
    (writeSegment segment).Ends store
      (fun bytes after => ∃ driver payload, SegmentDriver.Confined entry store.driver driver ∧
        Written store entry registration payload driver ∧
        bytes = Header.size + payload.length ∧ after = store.atop driver)
      fun _ after => ∃ driver, Missed store segment entry registration driver ∧
        after = store.atop driver := by
  cases prepared : registration.prepared segment with
  | error cause =>
      -- The transaction is opened all the same, and nothing is written in it.
      have unstorable : ¬ registration.Storable := by
        intro storable
        obtain ⟨payload, serialized, fits⟩ := storable
        rw [registration.prepared_eq serialized fits] at prepared
        contradiction
      apply Action.Ends.of_eq (writeSegment_of_unprepared registered prepared)
      refine onDriver_bind_ends (SegmentDriver.enterTransaction_stops sound mapped) ?_ ?_
      · intro failure driver ended
        obtain ⟨stopped, spent⟩ := ended
        exact ⟨driver, ⟨stopped, fun _ steady _ => spent steady⟩, rfl⟩
      · intro _ entered ended
        obtain ⟨opening, opened⟩ := ended
        have stopped : SegmentDriver.Stopped segment entry store.driver entered :=
          .of_open opening (SegmentDriver.Remains.refl entered).confined opened
        exact .throw ⟨entered, ⟨stopped, fun _ _ storable => absurd storable unstorable⟩, rfl⟩
  | ok payload =>
      have serialized := Registration.serialize_of_prepared prepared
      have fits := Registration.length_le_of_prepared prepared
      apply Action.Ends.of_eq (writeSegment_of_prepared registered prepared)
      refine onDriver_bind_ends (SegmentDriver.commitContent_ends sound mapped) ?_ ?_
      · intro cause driver ended
        obtain ⟨stopped, spent⟩ := ended
        exact ⟨driver, ⟨stopped, fun room steady _ => spent (by omega) steady⟩, rfl⟩
      · intro _ driver ended
        obtain ⟨confined, powered, isCommitted, holds⟩ := ended
        exact .pure ⟨driver, payload, confined, ⟨confined.advances, serialized, fits, powered,
          ⟨isCommitted, holds⟩⟩, rfl, rfl⟩

/-- Writing a segment that is given its range first. -/
private theorem writeSegment_of_asked {found : SegmentDriver δ} (sound : store.driver.Sound)
    (registered : store.registrations.get segment = some registration)
    (room : Header.size + registration.codec.maxSize ≤ entry.maxDataSize)
    (asked : SegmentDriver.ensureMapped segment store.driver = (.value entry, found)) :
    (writeSegment segment).Ends store
      (fun bytes after => ∃ driver payload, Written store entry registration payload driver ∧
        bytes = Header.size + payload.length ∧ after = store.atop driver)
      fun _ after => ∃ driver, NotWritten store segment entry registration driver ∧
        after = store.atop driver := by
  have device := SegmentDriver.device_of_ensureMapped asked
  have first := SegmentDriver.advances_ensureMapped sound segment entry
  rw [asked] at first
  have enters : SegmentDriver.enterTransaction segment store.driver =
      SegmentDriver.enterTransaction segment found := SegmentDriver.ensureMapped_bind asked _
  have known : (store.atop found).registrations.get segment = some registration := registered
  apply Action.Ends.of_eq (writeSegment_atop registered asked)
  refine (writeSegment_ends (first.sound sound)
    (SegmentDriver.mapped_of_ensureMapped asked) known).mono ?_ ?_
  · intro bytes after ended
    obtain ⟨driver, payload, -, written, total, rfl⟩ := ended
    have powered := written.powered
    rw [Store.device, driver_atop, device] at powered
    exact ⟨driver, payload, ⟨first.trans written.advances, written.serialized, written.fits,
      powered, written.carries⟩, total, rfl⟩
  · intro cause after ended
    obtain ⟨driver, fails, rfl⟩ := ended
    have missed := fails.notWritten room
    have kept := missed.kept
    rw [Store.device, driver_atop, device] at kept
    refine ⟨driver, ⟨first.trans missed.advances, kept, fun opened => ?_, fun usable storable =>
      missed.spent (first.usable usable) storable⟩, rfl⟩
    rw [enters] at opened
    exact missed.opened opened

/-- A segment whose device cannot be used is not written. -/
private theorem writeSegment_of_unavailable {cause : StoreError} {found : SegmentDriver δ}
    (sound : store.driver.Sound)
    (registered : store.registrations.get segment = some registration)
    (unusable : ¬ store.driver.Usable)
    (asked : SegmentDriver.ensureMapped segment store.driver = (.error cause, found)) :
    writeSegment segment store = (.error cause, store.atop found) ∧
      NotWritten store segment entry registration found := by
  have first := SegmentDriver.advances_ensureMapped sound segment entry
  have device := SegmentDriver.device_ensureMapped segment store.driver
  rw [asked] at first device
  have fails : SegmentDriver.enterTransaction segment store.driver = (.error cause, found) :=
    Action.bind_of_error asked _
  constructor
  · rw [writeSegment, Action.get_bind, registered]
    refine Action.bind_of_error ?_ _
    rw [onDriver_apply, fails]
  · refine ⟨first, .inl (congrArg cells device), fun opened => ?_,
      fun usable => absurd usable unusable⟩
    rw [fails] at opened
    contradiction

/-- Storing a segment has written it, or has not, and does not trap. -/
theorem storeSegment_ends (sound : store.driver.Sound) (gives : store.driver.Gives segment entry)
    (room : Header.size + registration.codec.maxSize ≤ entry.maxDataSize)
    (registered : store.registrations.get segment = some registration) :
    (storeSegment segment).Ends store
      (fun _ after => ∃ driver payload, Written store entry registration payload driver ∧
        after = (store.atop driver).noteStored segment (Header.size + payload.length))
      fun cause after => ∃ driver, NotWritten store segment entry registration driver ∧
        after = (store.atop driver).noteStoreFailed segment cause := by
  have writes : (writeSegment segment).Ends store
      (fun bytes after => ∃ driver payload, Written store entry registration payload driver ∧
        bytes = Header.size + payload.length ∧ after = store.atop driver)
      fun _ after => ∃ driver, NotWritten store segment entry registration driver ∧
        after = store.atop driver := by
    rcases gives with asked | ⟨⟨cause, asked⟩, unusable⟩
    · exact writeSegment_of_asked sound registered room (Prod.ext asked rfl)
    · obtain ⟨fails, missed⟩ :=
        writeSegment_of_unavailable sound registered unusable (Prod.ext asked rfl)
      exact .of_error fails ⟨_, missed, rfl⟩
  apply Action.Ends.attempt_bind writes
  · intro _ _ ended
    obtain ⟨driver, payload, written, rfl, rfl⟩ := ended
    exact .of_value rfl ⟨driver, payload, written, rfl⟩
  · intro cause _ ended
    obtain ⟨driver, missed, rfl⟩ := ended
    exact .of_error rfl ⟨driver, missed, rfl⟩

/-- In a settled store a segment that has a place is written there. -/
theorem Settled.storeSegment_ends (settled : store.Settled)
    (placed : store.driver.Placed segment entry)
    (registered : store.registrations.get segment = some registration) :
    (storeSegment segment).Ends store
      (fun _ after => ∃ driver payload, Written store entry registration payload driver ∧
        after = (store.atop driver).noteStored segment (Header.size + payload.length))
      fun cause after => ∃ driver, NotWritten store segment entry registration driver ∧
        after = (store.atop driver).noteStoreFailed segment cause :=
  Store.storeSegment_ends settled.planned.sound
    ((settled.planned.allotted placed).gives settled.planned.honest)
    (settled.room placed registered) registered

end Store

end NorStore
