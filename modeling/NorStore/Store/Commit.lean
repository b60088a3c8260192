/-
# Storing and committing

The first change after a commit starts the guard band, and later changes do not
restart it. A check after the guard band stores every changed segment, in order. A
commit can be forced while something has changed; the force lasts until a segment
has been stored.
-/

import NorStore.Store.Basic

namespace NorStore

open NorStore.Flash (BlockDevice)

namespace SegmentDriver

variable {δ : Type} [BlockDevice δ]

/-- Write the header and the payload of a segment into freshly erased blocks. -/
def writeContent (segment : Segment) (header : Header) (payload : Bytes) :
    Action (SegmentDriver δ) StoreError Unit := do
  let opened ← openForWrite segment (Header.size + payload.length)
  let reached ← write opened 0 header.encode
  let _ ← write reached Header.size payload
  return ()

end SegmentDriver

namespace Store

variable {δ ε : Type}

/-- Whether a segment changed since it was last stored. -/
def isDirty (store : Store δ) (segment : Segment) : Bool := store.dirty.get segment

/-- The segments that changed, in order. -/
def dirtySegments (store : Store δ) : List Segment := Segment.all.filter store.isDirty

/-- Note that a segment has changed. -/
def markDirty (store : Store δ) (segment : Segment) : Store δ :=
  { store with
    dirty := store.dirty.set segment true
    windowStart := some (store.windowStart.getD store.clock.now) }

/-- Whether a commit is going to happen. -/
def isCommitScheduled (store : Store δ) : Bool := store.windowStart.isSome || store.forced

/-- Where a segment stands. -/
def segmentState (store : Store δ) (segment : Segment) : SegmentState :=
  if store.isDirty segment then
    if store.isCommitScheduled then .commitPending else .dirty
  else .clean

/-- What is left of the running guard band. A clock that was set back counts as standing
still. -/
def guardBandRemaining? (store : Store δ) : Option Nat :=
  store.windowStart.map fun start =>
    store.config.guardBand - Duration.ofMillis (store.clock.now - start)

/-- Make the next check commit, if something has changed. -/
def forceCommit : Action (Store δ) ε Bool := modifyGet fun store =>
  if store.dirtySegments.isEmpty then (false, store) else (true, { store with forced := true })

/-- Whether a check would commit now. -/
def isCommitDue (store : Store δ) : Bool :=
  store.guardBandRemaining? == some 0 || store.forced

/-- The store after a segment has been stored. -/
def noteStored (store : Store δ) (segment : Segment) (bytes : Nat) : Store δ :=
  { store with
    dirty := store.dirty.set segment false
    forced := false
    stats := { store.stats with
      commits := store.stats.commits + 1
      bytesWritten := store.stats.bytesWritten + bytes }
    events := store.events ++ [.stored segment] }

/-- The store after a segment could not be stored. -/
def noteStoreFailed (store : Store δ) (segment : Segment) (cause : StoreError) : Store δ :=
  { store with
    stats := { store.stats with commitFailures := store.stats.commitFailures + 1 }
    events := store.events ++ [.storeFailed segment cause] }

variable [BlockDevice δ]

/-- Write a registered segment, inside a transaction. The result is the number of bytes
of its header and payload. -/
def writeSegment (segment : Segment) : Action (Store δ) StoreError Nat := do
  match (← get).registrations.get segment with
  | none => throw (.unregistered segment)
  | some { codec, live } =>
    onDriver (SegmentDriver.enterTransaction segment)
    match codec.serialize live with
    | .error cause => throw (.codec cause)
    | .ok payload =>
      if codec.maxSize < payload.length then
        throw (.capacityExceeded segment payload.length codec.maxSize)
      else
        let header := Header.forPayload payload (← get).config.appSignature codec.span
        onDriver (SegmentDriver.writeContent segment header payload)
        onDriver (SegmentDriver.exitTransaction segment)
        return Header.size + payload.length

/-- Store a segment now. -/
def storeSegment (segment : Segment) : Action (Store δ) StoreError Unit := do
  match ← (writeSegment segment).attempt with
  | .ok bytes => modify fun store => store.noteStored segment bytes
  | .error cause =>
    modify fun store => store.noteStoreFailed segment cause
    throw cause

/-- Store those of a list of segments that changed, with a pause after each one that
was stored. -/
def storeDirty : List Segment → CommitReport → Action (Store δ) ε CommitReport
  | [], report => return report
  | segment :: rest, report => do
    if (← get).isDirty segment then
      match ← (storeSegment segment).attempt with
      | .ok () =>
        modify fun store => store.advanceClock store.config.yieldMillis
        storeDirty rest { report with stored := report.stored ++ [segment] }
      | .error _ => storeDirty rest { report with failed := report.failed ++ [segment] }
    else
      storeDirty rest report

/-- Commit if it is time. A commit ends the guard band, even if segments failed. -/
def commitCheck : Action (Store δ) ε CommitReport := do
  if (← get).isCommitDue then
    modify fun store =>
      { store with stats := { store.stats with commitPasses := store.stats.commitPasses + 1 } }
    let report ← storeDirty Segment.all { performed := true }
    modify fun store => { store with windowStart := none }
    return report
  else
    return {}

/-- Erase a segment, so that the next boot finds nothing. -/
def eraseSegment (segment : Segment) : Action (Store δ) StoreError Unit := do
  onDriver (SegmentDriver.eraseSegment segment)
  modify fun store =>
    { store with
      dirty := store.dirty.set segment false
      stats := { store.stats with erases := store.stats.erases + 1 } }

end Store

end NorStore
