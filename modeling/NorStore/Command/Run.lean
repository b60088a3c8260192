/-
# The commands

Formatting creates an erased image, inspecting and verifying report on one, and
erasing a segment makes the next boot find nothing in it.
-/

import NorStore.Command.Report
import NorStore.Store.Commit

namespace NorStore.Command

open NorStore.Flash (ImageFile)

/-- How an inspection is printed. -/
inductive OutputFormat where
  | table
  | json
deriving DecidableEq, Repr

/-- What to do with an image. -/
inductive Request where
  | format (force : Bool)
  | inspect (output : OutputFormat)
  | verify
  | erase (segment : Segment)
deriving DecidableEq, Repr

namespace Settings

/-- A block is held in memory while it is written. One of this size is larger than
memory can be. -/
def blockLimit : Nat := UInt64.size / 2

/-- A block of this size is larger than the memory of the host. -/
def memoryLimit : Nat := UInt32.size

/-- Create an erased image. A file that exists is only replaced by force. The file is
there before its first block, so a block that memory cannot hold leaves it empty. -/
def format (settings : Settings) (force : Bool) : Action Workspace Failure Unit := do
  let image := (← get).image
  if image.isPresent && !force then
    throw (.usage (.alreadyExists settings.path))
  let geometry ← (Outcome.ofExcept
    (settings.geometry (settings.regionSize.getD defaultRegionSize)) : Outcome Failure _)
  if image = .directory then
    throw (.flash (.io .isDirectory))
  modify fun workspace => { workspace with image := .file #[] }
  if blockLimit ≤ geometry.blockSize then
    (Outcome.trap : Outcome Failure Unit)
  if memoryLimit ≤ geometry.blockSize then
    throw (.outOfMemory geometry.blockSize)
  let created ← (Outcome.ofExcept
    ((ImageFile.create? geometry).mapError .flash) : Outcome Failure ImageFile)
  modify fun workspace => { workspace with image := .file created.content }
  printLine s!"Formatted {settings.path} ({geometry.blockCount} blocks of {geometry.blockSize} bytes at {Text.hex geometry.regionOffset})"

/-- Look at the listed segments. -/
def collect (settings : Settings) : Action Workspace Failure ImageReport := do
  let (segments, map?) ← settings.withDriver do
    let segments ← settings.listed.mapM fun segment =>
      SegmentDriver.inspect segment settings.appSignature Header.currentVersion .full
    return (segments, (← get).memoryMap?)
  match map? with
  | none => throw (.usage .nothingMapped)
  | some map => return { path := settings.path, map, segments }

/-- Report on the listed segments. -/
def inspect (settings : Settings) (output : OutputFormat) : Action Workspace Failure Unit := do
  let report ← settings.collect
  match output with
  | .json => printLine (report.json.write 0)
  | .table => report.table.forM printLine

/-- Check that every committed segment can be restored. -/
def verify (settings : Settings) : Action Workspace Failure Unit := do
  printLine s!"Verifying flash image at {settings.path}"
  printLine ""
  let report ← settings.collect
  report.verification.forM printLine
  if report.count .invalid = 0 then
    return ()
  else
    throw (.verificationFailed (report.count .invalid))

/-- Erase the range of a listed segment. -/
def erase (settings : Settings) (segment : Segment) : Action Workspace Failure Unit := do
  if segment ∉ settings.listed then
    throw (.usage (.notListed segment))
  let entry ← settings.withDriver do
    let entry ← SegmentDriver.ensureMapped segment
    SegmentDriver.eraseSegment segment
    return entry
  printLine s!"Erased {segment}: {entry.reserved} bytes at {Text.hex entry.start}"

/-- Store a payload in an image as an application with the listed segments would. A
failure of the store itself is part of the result. -/
def storePayload (settings : Settings) (segment : Segment) (payload : Bytes)
    (span : ChecksumSpan) : Action Workspace Failure (Except StoreError Unit) := fun workspace =>
  match settings.openImage workspace.image with
  | .error failure => (.error failure, workspace)
  | .ok device =>
    let started := Store.start device { appSignature := settings.appSignature } {}
    let store := settings.segments.foldl (fun reached (listed, maxSize) =>
      reached.register listed (.blob maxSize none span) (if listed = segment then payload else []))
      started
    match (Store.storeSegment segment).attempt store with
    | (outcome, reached) => (outcome, { workspace with image := .file reached.device.content })

end Settings

/-- Do what is asked. -/
def Request.run (settings : Settings) : Request → Action Workspace Failure Unit
  | format force => settings.format force
  | inspect output => settings.inspect output
  | verify => settings.verify
  | erase segment => settings.erase segment

end NorStore.Command
