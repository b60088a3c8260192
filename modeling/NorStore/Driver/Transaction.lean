/-
# Transactions

Before a segment is changed its ledger is opened, and after the change it is
committed. A segment whose ledger cannot be read counts as being changed.
-/

import NorStore.Driver.Access

namespace NorStore.SegmentDriver

open NorStore.Flash (BlockDevice)

variable {δ ε : Type} [BlockDevice δ]

/-- The ledger of a segment. -/
def readLedger (segment : Segment) : Action (SegmentDriver δ) StoreError Ledger := do
  let entry ← ensureMapped segment
  let bytes ← (onDevice (BlockDevice.session (BlockDevice.read entry.start Ledger.size))).mapError
    .flash
  return Ledger.decode bytes

/-- Whether a segment is being changed. -/
def isInTransaction (segment : Segment) : Action (SegmentDriver δ) ε Bool := do
  match ← (readLedger segment).attempt with
  | .ok ledger => return ledger.classify.isInTransaction
  | .error _ => return true

/-- Take the ledger of a segment through an event. -/
def applyEvent (segment : Segment) (event : LedgerEvent) :
    Action (SegmentDriver δ) StoreError Unit := do
  let entry ← ensureMapped segment
  let ledger ← readLedger segment
  match ledger.classify.apply event with
  | .illegal => throw (.invalidTransition segment ledger.classify event)
  | .noChange => return ()
  | .program next => program segment entry.start next.encode

/-- Open the transaction of a segment. -/
def enterTransaction (segment : Segment) : Action (SegmentDriver δ) StoreError Unit :=
  applyEvent segment .enter

/-- Commit a segment. -/
def exitTransaction (segment : Segment) : Action (SegmentDriver δ) StoreError Unit :=
  applyEvent segment .exit

end NorStore.SegmentDriver
