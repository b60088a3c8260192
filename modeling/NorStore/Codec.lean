/-
# Codecs

The store does not know what payloads mean. Each segment comes with a codec that
turns the live bytes of the application into a payload and back.
-/

import NorStore.Record.Header

namespace NorStore

/-- How the live bytes of a segment are stored. -/
structure Codec where
  /-- The largest payload to make room for. -/
  maxSize : Nat
  /-- What the checksum covers. -/
  span : ChecksumSpan
  /-- The payload of the live bytes. -/
  serialize : Bytes → Except CodecError Bytes
  /-- The live bytes of a payload. -/
  deserialize : Bytes → Except CodecError Bytes

namespace Codec

/-- A codec that stores the live bytes as they are. It takes back payloads of the
expected length, if one is given, and never more than its largest. -/
def blob (maxSize : Nat) (layout : Option Nat) (span : ChecksumSpan) : Codec where
  maxSize := maxSize
  span := span
  serialize live := .ok live
  deserialize payload :=
    match layout.filter (· ≠ payload.length) with
    | some expected => .error (.layoutMismatch expected payload.length)
    | none =>
      if maxSize < payload.length then .error (.oversized payload.length maxSize)
      else .ok payload

/-- A codec that fails with the given reasons, and otherwise takes anything. -/
def scripted (maxSize : Nat) (failSerialize failDeserialize : Option String) : Codec where
  maxSize := maxSize
  span := .full
  serialize live :=
    match failSerialize with
    | some reason => .error (.unavailable reason)
    | none => .ok live
  deserialize payload :=
    match failDeserialize with
    | some reason => .error (.rejected reason)
    | none => .ok payload

end Codec

end NorStore
