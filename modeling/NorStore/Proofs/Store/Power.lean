/-
# What a store costs

On a device on which nothing but power is limited, storing a payload of some length costs
that many bytes, those of its header, and those of two ledgers. With so much power the store
succeeds, and with less it fails. It opens its transaction if there is power for a ledger;
otherwise power is cut in the first bytes of the segment, and nothing behind them is reached.
-/

import NorStore.Proofs.Driver.Power
import NorStore.Proofs.Store.Storing

namespace NorStore

open NorStore.Flash (BlockDevice Faulty NorDevice)
open NorStore.Flash.Faulty (Costs CutOff Spends)

variable {δ : Type} [BlockDevice δ] [NorDevice δ] {segment : Segment} {entry : MapEntry}

/-- The driver can go on with the segment, whose ledger is committed or erased, and nothing but
its power is limited. -/
structure SegmentDriver.Powered (driver : SegmentDriver (Faulty δ)) (segment : Segment)
    (entry : MapEntry) : Prop where
  planned : driver.Planned
  placed : driver.Placed segment entry
  usable : driver.Usable
  ready : driver.device.Ready
  ledger : Committed (driver.contents entry) ∨ Unwritten (driver.contents entry)

/-- Such a driver gives the segment its range. -/
theorem SegmentDriver.Powered.asked {driver : SegmentDriver (Faulty δ)}
    (powered : driver.Powered segment entry) :
    ∃ found, SegmentDriver.ensureMapped segment driver = (.value entry, found) ∧
      found.Sound ∧ found.device = driver.device := by
  obtain ⟨found, asked⟩ := powered.usable.asked powered.planned powered.placed
  exact ⟨found, asked, powered.planned.sound.of_ensureMapped asked,
    SegmentDriver.device_of_ensureMapped asked⟩

/-- Opening a transaction costs the bytes of a ledger, and if power is cut, it is in them. -/
theorem SegmentDriver.Powered.enterTransaction_ends {driver : SegmentDriver (Faulty δ)}
    (powered : driver.Powered segment entry) :
    (SegmentDriver.enterTransaction segment).Ends driver
      (fun _ reached => Spends Ledger.size driver.device reached.device)
      fun _ reached => CutOff entry.start Ledger.opened.encode driver.device reached.device := by
  obtain ⟨found, asked, sound, device⟩ := powered.asked
  have same : SegmentDriver.enterTransaction segment driver =
      SegmentDriver.enterTransaction segment found := SegmentDriver.ensureMapped_bind asked _
  have enters := SegmentDriver.enterTransaction_ends_costs (device ▸ powered.ready) sound
    (SegmentDriver.mapped_of_ensureMapped asked) (by
      rw [SegmentDriver.contents_congr device]
      exact powered.ledger)
  rw [device] at enters
  exact .of_eq same enters

namespace Store

variable {store : Store (Faulty δ)} {registration : Registration} {payload : Bytes}

/-- With power for a ledger the transaction is opened. -/
theorem enterTransaction_of_lasts (powered : store.driver.Powered segment entry)
    (lasts : store.device.faults.lastsFor Ledger.size = true) :
    (SegmentDriver.enterTransaction segment store.driver).1 = .value () := by
  rcases powered.enterTransaction_ends.cases with ⟨_, _, enters, -⟩ | ⟨_, _, -, cut⟩
  · rw [enters]
  · exact absurd lasts (ne_true_of_eq_false cut.short)

/-- Without power for a ledger, power is cut in the first bytes of the segment. -/
theorem storeSegment_of_cutOff (powered : store.driver.Powered segment entry)
    (registered : store.registrations.get segment = some registration)
    (short : store.device.faults.lastsFor Ledger.size = false) :
    (storeSegment segment).Ends store (fun _ _ => False)
      fun _ after => CutOff entry.start Ledger.opened.encode store.device after.device := by
  rcases powered.enterTransaction_ends.cases with ⟨_, _, -, spends⟩ | ⟨_, _, fails, cut⟩
  · exact absurd spends.lasts (ne_true_of_eq_false short)
  · exact .of_error (storeSegment_of_not_entered registered fails) cut

/-- Storing a segment costs the bytes of its payload, of its header, and of two ledgers. -/
theorem storeSegment_costs (powered : store.driver.Powered segment entry)
    (registered : store.registrations.get segment = some registration)
    (serialized : registration.codec.serialize registration.live = .ok payload)
    (fits : payload.length ≤ registration.codec.maxSize)
    (room : Header.size + registration.codec.maxSize ≤ entry.maxDataSize) :
    Costs Store.device (32 + payload.length) (storeSegment segment) store := by
  obtain ⟨found, asked, sound, device⟩ := powered.asked
  have prepared := Registration.prepared_eq serialized fits segment
  have mapped := SegmentDriver.mapped_of_ensureMapped asked
  have before : Committed (found.contents entry) ∨ Unwritten (found.contents entry) := by
    rw [SegmentDriver.contents_congr device]
    exact powered.ledger
  have enough : Header.size + payload.length ≤ entry.maxDataSize := by omega
  have commits : Costs SegmentDriver.device (32 + payload.length) (SegmentDriver.commitContent
      segment (.forPayload payload store.config.appSignature registration.codec.span) payload) found :=
    SegmentDriver.commitContent_costs (device ▸ powered.ready) sound mapped enough before
  rw [Costs, device] at commits
  rcases commits.cases with ⟨_, driver, ends, spends⟩ | ⟨_, driver, ends, short⟩
  · exact .of_value (storeSegment_of_committed registered asked prepared ends) spends
  · exact .of_error (storeSegment_of_not_committed registered asked prepared ends) short

/-- A settled store has written the segment if power lasted for it, and has not if it did not. -/
theorem storeSegment_ends_costs (settled : store.Settled)
    (powered : store.driver.Powered segment entry)
    (registered : store.registrations.get segment = some registration)
    (serialized : registration.codec.serialize registration.live = .ok payload)
    (fits : payload.length ≤ registration.codec.maxSize) :
    (storeSegment segment).Ends store
      (fun _ after => Spends (32 + payload.length) store.device after.device ∧
        Written store entry registration payload after.driver)
      fun _ after => store.device.faults.lastsFor (32 + payload.length) = false ∧
        NotWritten store segment entry registration after.driver := by
  have costs := storeSegment_costs powered registered serialized fits
    (settled.room powered.placed registered)
  refine (costs.both (settled.storeSegment_ends powered.placed registered)).mono ?_ ?_
  · intro _ after ended
    obtain ⟨spends, driver, stored, written, rfl⟩ := ended
    have same := written.serialized
    rw [serialized] at same
    cases same
    exact ⟨spends, written⟩
  · intro _ after ended
    obtain ⟨short, driver, missed, rfl⟩ := ended
    exact ⟨short, missed⟩

end Store

end NorStore
