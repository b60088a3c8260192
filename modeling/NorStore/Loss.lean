/-
# Why a segment was not restored

A segment that cannot be restored keeps the defaults of its application, so a loss
is a result and not an error. It still says what was found.
-/

import NorStore.Error

namespace NorStore

/-- The two signatures that a header carries. -/
inductive SignatureKind where
  | format
  | application
deriving DecidableEq, Repr

/-- How the stored bytes contradict themselves. -/
inductive Corruption where
  | shortPayload (length expected : Nat)
  | checksumMismatch (stored : UInt16) (computed : UInt8)
  | lengthExceedsCapacity (length capacity : Nat)
  | headerUnread (cause : StoreError)
  | payloadUnread (cause : StoreError)
  | unread (cause : StoreError)
  | unverified
deriving DecidableEq, Repr

/-- Why a segment was not restored. -/
inductive LossReason where
  | noPersistence
  | signatureMismatch (kind : SignatureKind) (expected found : UInt32)
  | versionNotSupported (found supported : UInt16)
  | corruption (detail : Corruption)
  | layoutChange (cause : CodecError)
deriving DecidableEq, Repr

/-- What restoring a segment came to. -/
inductive LoadOutcome where
  | restored
  | lost (reason : LossReason)
deriving DecidableEq, Repr

/-- The name of a kind of signature. -/
def SignatureKind.name : SignatureKind → String
  | format => "format"
  | application => "application"

/-- The wording of a corruption. -/
def Corruption.message : Corruption → String
  | shortPayload length expected => s!"short payload: {length} of {expected} bytes"
  | checksumMismatch stored computed =>
    s!"checksum mismatch: stored {Text.hexWide 2 stored.toNat}, computed {Text.hexWide 2 computed.toNat}"
  | lengthExceedsCapacity length capacity => s!"length {length} exceeds capacity {capacity}"
  | headerUnread cause => s!"short header read: {cause.message}"
  | payloadUnread cause => s!"short payload read: {cause.message}"
  | unread cause => cause.message
  | unverified => "checksum mismatch"

/-- The wording of a loss. -/
def LossReason.message : LossReason → String
  | noPersistence => "no persistent data"
  | signatureMismatch kind expected found =>
    s!"{kind.name} signature mismatch (expected {Text.hexWide 8 expected.toNat}, found {Text.hexWide 8 found.toNat})"
  | versionNotSupported found supported => s!"version {found} not supported (max {supported})"
  | corruption detail => s!"corruption: {detail.message}"
  | layoutChange cause => s!"data integrity or layout change: {cause.message}"

/-- Whether the segment was restored. -/
def LoadOutcome.isRestored : LoadOutcome → Bool
  | restored => true
  | lost _ => false

end NorStore
