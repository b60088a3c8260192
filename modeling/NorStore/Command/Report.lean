/-
# Reports on an image

What is on an image for each of a list of segments, as a table and as JSON, and the
verdict on it: a committed segment that cannot be restored makes an image bad, and a
segment without persistent data does not.
-/

import NorStore.Command.Settings
import NorStore.Text.Json

namespace NorStore.Command

/-- What is on an image. -/
structure ImageReport where
  path : String
  map : MemoryMap
  segments : List Inspection

/-- How a segment counts in a verification. -/
inductive Verdict where
  | valid
  | empty
  | invalid
deriving DecidableEq, Repr

/-- The mark of a verdict. -/
def Verdict.mark : Verdict → String
  | valid => "✓"
  | empty => "-"
  | invalid => "✗"

end NorStore.Command

namespace NorStore.Inspection

open NorStore.Command (Verdict)

/-- Whether the ledger is committed. -/
def isCommitted (inspection : Inspection) : Bool := inspection.ledgerState = .committed

/-- What restoring would come to, in words. -/
def status (inspection : Inspection) : String :=
  match inspection.outcome with
  | .restored => "restorable"
  | .lost reason => reason.message

/-- How the segment counts in a verification. -/
def verdict (inspection : Inspection) : Verdict :=
  if inspection.outcome.isRestored then .valid
  else if inspection.isCommitted then .invalid
  else .empty

end NorStore.Inspection

namespace NorStore.Command

open NorStore.Text (Json)

/-- The judgement of a checksum in a report. -/
def checksumText : ChecksumVerdict → String
  | .valid => "valid"
  | .invalid => "invalid"
  | .notChecked => "not checked"

/-- A header as JSON. -/
def headerJson (header : Header) : Json := .record [
  ("length", .number header.length.toNat),
  ("signature", .number header.signature.toNat),
  ("app_signature", .number header.appSignature.toNat),
  ("version", .number header.version.toNat),
  ("checksum", .number header.checksum.toNat)]

/-- An inspection as JSON. A header that could not be read is left out. -/
def inspectionJson (inspection : Inspection) : Json := .record (
  [("segment", .string inspection.entry.segment.name),
    ("start", .number inspection.entry.start),
    ("reserved", .number inspection.entry.reserved),
    ("max_data_size", .number inspection.entry.maxDataSize),
    ("ledger", .string inspection.ledgerState.description),
    ("ledger_signature", .number inspection.ledger.signature.toNat),
    ("ledger_state", .number inspection.ledger.state.toNat)] ++
  inspection.header.toList.map (fun header => ("header", headerJson header)) ++
  [("checksum", .string (checksumText inspection.checksum)),
    ("status", .string inspection.status),
    ("restorable", .boolean inspection.outcome.isRestored),
    ("committed", .boolean inspection.isCommitted)])

/-- One row of the table of segments. -/
def tableRow (name start reserved capacity ledger length status : String) : String :=
  String.intercalate " " [Text.alignLeft 22 name, Text.alignRight 10 start,
    Text.alignRight 8 reserved, Text.alignRight 8 capacity, "", Text.alignLeft 17 ledger,
    Text.alignRight 8 length, "", status]

/-- The row of a segment. Its length is shown only if it is committed. -/
def inspectionRow (inspection : Inspection) : String :=
  let length :=
    match inspection.header, inspection.isCommitted with
    | some header, true => toString header.length
    | _, _ => "-"
  tableRow inspection.entry.segment.name (Text.hex inspection.entry.start)
    (toString inspection.entry.reserved) (toString inspection.entry.maxDataSize)
    inspection.ledgerState.description length inspection.status

/-- The line of a segment in a verification. -/
def verdictLine (inspection : Inspection) : String :=
  s!"  {inspection.verdict.mark} {Text.alignLeft 22 inspection.entry.segment.name} {inspection.status}"

namespace ImageReport

/-- The report as JSON. -/
def json (report : ImageReport) : Json := .record [
  ("image", .string report.path),
  ("region_offset", .number report.map.geometry.regionOffset),
  ("region_size", .number report.map.geometry.regionSize),
  ("block_size", .number report.map.geometry.blockSize),
  ("free_bytes", .number report.map.free),
  ("segments", .list (report.segments.map inspectionJson))]

/-- The report as a table, line by line. -/
def table (report : ImageReport) : List String :=
  let geometry := report.map.geometry
  let past := geometry.regionOffset + geometry.regionSize
  [s!"Image: {report.path}",
    s!"Region: {Text.hex geometry.regionOffset}..{Text.hex past} ({geometry.regionSize} bytes, {geometry.blockSize} byte blocks, {report.map.free} free)",
    "",
    tableRow "segment" "start" "reserved" "capacity" "ledger" "length" "status"] ++
  report.segments.map inspectionRow

/-- How many segments have a verdict. -/
def count (report : ImageReport) (verdict : Verdict) : Nat :=
  report.segments.countP (·.verdict = verdict)

/-- The verification, line by line. -/
def verification (report : ImageReport) : List String :=
  let invalid := report.segments.filter (·.verdict = .invalid)
  report.segments.map verdictLine ++
  ["",
    s!"{report.segments.length} checked, {report.count .valid} valid, {report.count .empty} empty, {report.count .invalid} invalid"] ++
  invalid.map (fun inspection =>
    s!"  error: {inspection.entry.segment}: {inspection.status}") ++
  [if invalid.isEmpty then "✓ Image verification passed" else "✗ Image verification failed"]

end ImageReport

end NorStore.Command
