/-
# Inspection

What is on flash for a segment can be told without its codec: its ledger, its header
as far as it can be read, whether the header is acceptable, and whether the checksum
fits the payload. Inspection changes nothing, and predicts what restoring would say
up to the codec's own judgement.
-/

import NorStore.Driver.Transaction

namespace NorStore

open NorStore.Flash (BlockDevice)

/-- What became of the checksum of a payload. -/
inductive ChecksumVerdict where
  | valid
  | invalid
  | notChecked
deriving DecidableEq, Repr

/-- What is on flash for a segment. -/
structure Inspection where
  entry : MapEntry
  ledger : Ledger
  header : Option Header := none
  headerCheck : Except LossReason Unit := .error .noPersistence
  checksum : ChecksumVerdict := .notChecked

namespace Inspection

/-- What the ledger says. -/
def ledgerState (inspection : Inspection) : LedgerState := inspection.ledger.classify

/-- What restoring the segment would come to, if its codec takes the payload. -/
def outcome (inspection : Inspection) : LoadOutcome :=
  match inspection.headerCheck, inspection.checksum with
  | .error reason, _ => .lost reason
  | .ok (), .valid => .restored
  | .ok (), .invalid => .lost (.corruption .unverified)
  | .ok (), .notChecked => .lost (.corruption .unverified)

end Inspection

namespace Header

/-- Whether a header may be followed: it has to be valid, and its payload has to fit
behind it into the data of the segment. -/
def examine {ε : Type} (header : Header) (entry : MapEntry) (appSignature : UInt32)
    (maxVersion : UInt16) : Outcome ε (Except LossReason Unit) := do
  match header.validate appSignature maxVersion with
  | .error reason => return .error reason
  | .ok () =>
    let capacity ← Word.sub entry.maxDataSize Header.size
    if capacity < header.length.toNat then
      return .error (.corruption (.lengthExceedsCapacity header.length.toNat capacity))
    else
      return .ok ()

end Header

namespace SegmentDriver

variable {δ : Type} [BlockDevice δ]

/-- Read the payload behind a header that may be followed, and judge its checksum. -/
def inspectPayload (inspection : Inspection) (header : Header) (handle : Handle)
    (span : ChecksumSpan) : Action (SegmentDriver δ) StoreError Inspection := do
  match ← (read handle Header.size header.length.toNat).attempt with
  | .error cause => return { inspection with headerCheck := .error (.corruption (.unread cause)) }
  | .ok (payload, _) =>
    match header.verify payload span with
    | .ok () => return { inspection with headerCheck := .ok (), checksum := .valid }
    | .error _ => return { inspection with headerCheck := .ok (), checksum := .invalid }

/-- Look at what is on flash for a segment. -/
def inspect (segment : Segment) (appSignature : UInt32) (maxVersion : UInt16)
    (span : ChecksumSpan) : Action (SegmentDriver δ) StoreError Inspection := do
  let entry ← ensureMapped segment
  let ledger ← readLedger segment
  let inspection : Inspection := { entry, ledger }
  match ← (openForRead segment).attempt with
  | .error _ => return inspection
  | .ok handle =>
    match ← (read handle 0 Header.size).attempt with
    | .error cause =>
      if ledger.classify.isInTransaction then
        return inspection
      else
        return { inspection with headerCheck := .error (.corruption (.unread cause)) }
    | .ok (bytes, handle) =>
      let header := Header.decode bytes
      let inspection := { inspection with header := some header }
      if ledger.classify.isInTransaction then
        return inspection
      else
        match ← (header.examine entry appSignature maxVersion : Outcome StoreError _) with
        | .error reason => return { inspection with headerCheck := .error reason }
        | .ok () => inspectPayload inspection header handle span

end SegmentDriver

end NorStore
