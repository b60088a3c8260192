/-
# What a segment has been through

All that matters of the past of a segment is the payload that was stored last and whether
an attempt to store it has failed since; erasing it starts its past anew. The past explains
what can be found in the range of the segment. Each step of a store leads from one past to
the next, and the bytes that the step leaves are explained by the new one.
-/

import NorStore.Proofs.Record.Image

namespace NorStore

/-- The past of a segment, from the last time that it was erased. -/
inductive Past where
  /-- No attempt to store the segment has succeeded. -/
  | nothing
  /-- The last attempt has stored this payload. -/
  | stored (payload : Bytes)
  /-- This payload was stored last, and a later attempt has failed. -/
  | doubtful (payload : Bytes)
deriving DecidableEq, Repr

namespace Past

/-- The payload that was stored last. -/
def payload? : Past → Option Bytes
  | nothing => none
  | stored payload => some payload
  | doubtful payload => some payload

/-- The past after one more attempt, which has failed. -/
def failed : Past → Past
  | nothing => nothing
  | stored payload => doubtful payload
  | doubtful payload => doubtful payload

end Past

/-- The range carries a payload that the codec may make. -/
structure Bears (appSignature : UInt32) (codec : Codec) (payload range : Bytes) : Prop where
  fits : payload.length ≤ codec.maxSize
  carries : Carries appSignature codec.span payload range

/-- What can be found in the range of a segment with a given past. -/
def Past.Explains (appSignature : UInt32) (codec : Codec) (range : Bytes) : Past → Prop
  | nothing => ¬ Committed range
  | stored payload => Bears appSignature codec payload range
  | doubtful payload => Committed range → Bears appSignature codec payload range

namespace Past.Explains

variable {appSignature : UInt32} {codec : Codec} {past : Past} {before after : Bytes}

/-- A committed range bears the payload that was stored last. -/
theorem payload (explains : past.Explains appSignature codec before)
    (isCommitted : Committed before) :
    ∃ payload, past.payload? = some payload ∧ Bears appSignature codec payload before := by
  cases past with
  | nothing => exact absurd isCommitted explains
  | stored payload => exact ⟨payload, rfl, explains⟩
  | doubtful payload => exact ⟨payload, rfl, explains isCommitted⟩

/-- An attempt that fails keeps the bytes, or leaves the range uncommitted. -/
theorem failed (explains : past.Explains appSignature codec before)
    (kept : after = before ∨ ¬ Committed after) :
    past.failed.Explains appSignature codec after := by
  rcases kept with rfl | uncommitted
  · cases past with
    | nothing => exact explains
    | stored payload => exact fun _ => explains
    | doubtful payload => exact explains
  · cases past with
    | nothing => exact uncommitted
    | stored payload => exact fun isCommitted => absurd isCommitted uncommitted
    | doubtful payload => exact fun isCommitted => absurd isCommitted uncommitted

end Past.Explains

end NorStore
