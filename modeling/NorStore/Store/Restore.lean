/-
# Restoring

A segment is restored if its ledger is committed, its header may be followed, its
payload has the right checksum, and its codec takes the payload. Otherwise its live
bytes stay as they are, and the first of these that failed is the reason.
-/

import NorStore.Store.Basic

namespace NorStore

open NorStore.Flash (BlockDevice)

namespace SegmentDriver

variable {δ : Type} [BlockDevice δ]

/-- Read the payload of an open segment, if its header and checksum allow it. -/
def readContent (handle : Handle) (appSignature : UInt32) (maxVersion : UInt16)
    (span : ChecksumSpan) : Action (SegmentDriver δ) LossReason Bytes := do
  let (bytes, reached) ← (read handle 0 Header.size).mapError fun cause =>
    .corruption (.headerUnread cause)
  let header := Header.decode bytes
  match ← (header.examine handle.entry appSignature maxVersion : Outcome LossReason _) with
  | .error reason => throw reason
  | .ok () =>
    let (payload, _) ← (read reached Header.size header.length.toNat).mapError fun cause =>
      .corruption (.payloadUnread cause)
    match header.verify payload span with
    | .error reason => throw reason
    | .ok () => return payload

end SegmentDriver

namespace Store

variable {δ ε : Type} [BlockDevice δ]

/-- Load a registered segment into its live bytes. The result is its payload. -/
def loadSegment (segment : Segment) : Action (Store δ) LossReason Bytes := do
  match (← get).registrations.get segment with
  | none => throw .noPersistence
  | some { codec, live := _ } =>
    if ← onDriver (SegmentDriver.isInTransaction segment) then
      throw .noPersistence
    else
      let handle ← (onDriver (SegmentDriver.openForRead segment)).mapError fun _ => .noPersistence
      let { appSignature, maxVersion, .. } := (← get).config
      let payload ← onDriver (SegmentDriver.readContent handle appSignature maxVersion codec.span)
      match codec.deserialize payload with
      | .error cause => throw (.layoutChange cause)
      | .ok live =>
        modify fun store => store.setLive segment live
        return payload

/-- The store after a segment has been restored. -/
def noteRestored (store : Store δ) (segment : Segment) (bytes : Nat) : Store δ :=
  { store with
    stats := { store.stats with
      restores := store.stats.restores + 1
      bytesRead := store.stats.bytesRead + bytes }
    events := store.events ++ [.restored segment] }

/-- The store after a segment was found lost. -/
def noteLost (store : Store δ) (segment : Segment) (reason : LossReason) : Store δ :=
  { store with
    stats := { store.stats with losses := store.stats.losses + 1 }
    events := store.events ++ [.lost segment reason] }

/-- Restore a segment, or say why it is lost. -/
def restore (segment : Segment) : Action (Store δ) ε LoadOutcome := do
  match ← (loadSegment segment).attempt with
  | .ok payload =>
    modify fun store => store.noteRestored segment payload.length
    return .restored
  | .error reason =>
    modify fun store => store.noteLost segment reason
    return .lost reason

/-- Restore every registered segment, in order. -/
def restoreAll : Action (Store δ) ε (List (Segment × LoadOutcome)) := do
  (← get).registered.mapM fun segment => do
    let outcome ← restore segment
    return (segment, outcome)

end Store

end NorStore
