/-
# Errors of the store

What a codec, the segment driver and the store report to their callers, as causes.
The wording of each stands in one function.
-/

import NorStore.Flash.Error
import NorStore.Record.Ledger
import NorStore.Segment

namespace NorStore

open NorStore.Flash (FlashError)

/-- Why a codec did not turn state into bytes, or bytes into state. -/
inductive CodecError where
  | layoutMismatch (expected actual : Nat)
  | oversized (length maximum : Nat)
  | rejected (reason : String)
  | unavailable (reason : String)
deriving DecidableEq, Repr

/-- What a handle was opened for. -/
inductive AccessMode where
  | read
  | write
deriving DecidableEq, Repr

/-- Why a device cannot be used at all. -/
inductive Unavailability where
  /-- The device itself reported an error. -/
  | device (cause : FlashError)
  /-- No memory map could be made for the device. -/
  | noMap (cause : FlashError)
  /-- There is no memory map yet. -/
  | unplanned
deriving DecidableEq, Repr

/-- How an access broke the order in which a handle has to be used. -/
inductive OrderFault where
  | wrongMode (segment : Segment) (opened wanted : AccessMode)
  | notSequential (segment : Segment) (offset expected : Nat)
deriving DecidableEq, Repr

/-- What the segment driver and the store report. -/
inductive StoreError where
  | deviceUnavailable (reason : Unavailability)
  | capacityExceeded (segment : Segment) (requested capacity : Nat)
  | writeFailure (segment : Segment) (cause : FlashError)
  | readPastCapacity (segment : Segment) (length offset : Nat)
  | unregistered (segment : Segment)
  | invalidTransition (segment : Segment) (origin : LedgerState) (event : LedgerEvent)
  | invalidOperation (fault : OrderFault)
  | flash (cause : FlashError)
  | codec (cause : CodecError)
deriving DecidableEq, Repr

/-- The wording of a codec error. -/
def CodecError.message : CodecError → String
  | layoutMismatch expected actual => s!"layout mismatch: expected {expected} bytes, got {actual}"
  | oversized length maximum =>
    s!"payload rejected: {length} bytes exceed maximum of {maximum}"
  | rejected reason => s!"payload rejected: {reason}"
  | unavailable reason => s!"state unavailable: {reason}"

/-- The name of a mode in an error message. -/
def AccessMode.name : AccessMode → String
  | read => "Read"
  | write => "Write"

/-- The wording of a reason for which a device is unavailable. -/
def Unavailability.message : Unavailability → String
  | device cause => cause.message
  | noMap cause => s!"flash device unavailable: {cause.message}"
  | unplanned => "memory map not planned"

/-- The wording of an access out of order. -/
def OrderFault.message : OrderFault → String
  | wrongMode segment opened wanted =>
    s!"segment {segment} opened for {opened.name}, not {wanted.name}"
  | notSequential segment offset expected =>
    s!"segment {segment}: non-sequential access at {offset}, expected {expected}"

/-- The wording of a store error. -/
def StoreError.message : StoreError → String
  | deviceUnavailable reason => s!"flash device unavailable: {reason.message}"
  | capacityExceeded segment requested capacity =>
    s!"segment {segment}: {requested} bytes exceed reserved capacity of {capacity}"
  | writeFailure segment _ => s!"segment {segment}: write failed"
  | readPastCapacity segment length offset =>
    s!"segment {segment}: corruption: read of {length} bytes at {offset} passes reserved capacity"
  | unregistered segment => s!"segment {segment} is not registered"
  | invalidTransition segment origin event =>
    s!"segment {segment}: illegal ledger transition {event.name} from {origin.name}"
  | invalidOperation fault => s!"invalid operation: {fault.message}"
  | flash cause => s!"flash error: {cause.message}"
  | codec cause => s!"codec error: {cause.message}"

end NorStore
