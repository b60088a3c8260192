/-
# What a store tells

Every attempt to store or restore a segment leaves one event, in order, and the
counts of a store sum up what happened since it was started.
-/

import NorStore.Loss

namespace NorStore

/-- What happened to a segment. -/
inductive Event where
  | restored (segment : Segment)
  | lost (segment : Segment) (reason : LossReason)
  | stored (segment : Segment)
  | storeFailed (segment : Segment) (cause : StoreError)
deriving DecidableEq, Repr

/-- The segment and the reason, if the event is a loss. -/
def Event.loss? : Event → Option (Segment × LossReason)
  | lost segment reason => some (segment, reason)
  | restored _ => none
  | stored _ => none
  | storeFailed _ _ => none

/-- Counts of what happened since a store was started. -/
structure Stats where
  commitPasses : Nat := 0
  commits : Nat := 0
  commitFailures : Nat := 0
  restores : Nat := 0
  losses : Nat := 0
  erases : Nat := 0
  /-- The bytes of headers and payloads stored. -/
  bytesWritten : Nat := 0
  /-- The bytes of payloads restored. -/
  bytesRead : Nat := 0
deriving DecidableEq, Repr

/-- What a check whether to commit came to. -/
structure CommitReport where
  performed : Bool := false
  stored : List Segment := []
  failed : List Segment := []
deriving DecidableEq, Repr

/-- A commit succeeds when no segment failed. -/
def CommitReport.isSuccess (report : CommitReport) : Bool := report.failed.isEmpty

/-- Where a segment stands between a change and its commit. -/
inductive SegmentState where
  | clean
  | dirty
  | commitPending
deriving DecidableEq, Repr

end NorStore
