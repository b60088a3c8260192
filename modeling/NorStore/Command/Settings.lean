/-
# Commands on an image

A command works on one image file. It prints lines, and it may create or change the
file; both stay when the command fails. The settings say where in the file the
segments are, and which signature their application has.
-/

import NorStore.Driver.Inspection
import NorStore.Flash.Image
import NorStore.Host.Entry

namespace NorStore.Command

open NorStore.Flash (FlashError Geometry HostFault ImageFile)
open NorStore.Host (Entry)

/-- What a command was told. -/
structure Settings where
  path : String
  blockSize : Nat := 4096
  regionOffset : Nat := 0
  /-- The size of the region, if it is not that of the file. -/
  regionSize : Option Nat := none
  segments : List (Segment × Nat) := []
  appSignature : UInt32 := 0

/-- How a command was used wrongly. -/
inductive UsageFault where
  | alreadyExists (path : String)
  | unevenRegion (regionSize blockSize : Nat)
  | noSegments
  | notListed (segment : Segment)
  | nothingMapped
deriving DecidableEq, Repr

/-- Why a command failed. -/
inductive Failure where
  | flash (cause : FlashError)
  | store (cause : StoreError)
  | io (fault : HostFault)
  | usage (fault : UsageFault)
  | verificationFailed (count : Nat)
  /-- The host stops a program that needs more memory than there is. -/
  | outOfMemory (size : Nat)
deriving DecidableEq, Repr

/-- The wording of a usage fault. -/
def UsageFault.message : UsageFault → String
  | alreadyExists path => s!"{path} already exists (use --force to overwrite)"
  | unevenRegion regionSize blockSize =>
    s!"region size {regionSize} is not a multiple of block size {blockSize}"
  | noSegments => "at least one --segment <name>=<max> is required"
  | notListed segment => s!"segment {segment} is not registered (add --segment {segment}=<max>)"
  | nothingMapped => "no segments mapped"

/-- The wording of a failure. -/
def Failure.message : Failure → String
  | flash cause => s!"flash image: {cause.message}"
  | store cause => cause.message
  | io fault => s!"I/O error: {fault.message}"
  | usage fault => fault.message
  | verificationFailed count => s!"{count} segment(s) failed verification"
  | outOfMemory size => s!"memory allocation of {size} bytes failed"

/-- The image file and what has been printed. -/
structure Workspace where
  /-- What stands at the path of the image file. -/
  image : Entry := .absent
  /-- The lines printed so far. -/
  lines : List String := []

/-- Print a line. -/
def printLine (line : String) : Action Workspace Failure Unit := modify fun workspace =>
  { workspace with lines := workspace.lines ++ [line] }

namespace Settings

/-- The size of a region that is formatted without saying how large. -/
def defaultRegionSize : Nat := 64 * 1024

/-- The geometry of a region of the given size. -/
def geometry (settings : Settings) (regionSize : Nat) : Except Failure Geometry :=
  if settings.blockSize = 0 ∨ regionSize % settings.blockSize ≠ 0 then
    .error (.usage (.unevenRegion regionSize settings.blockSize))
  else
    let geometry : Geometry := {
      regionOffset := settings.regionOffset
      regionSize
      blockCount := regionSize / settings.blockSize
      blockSize := settings.blockSize
      regionCount := 1 }
    match geometry.validate with
    | .error fault => .error (.flash (.invalidGeometry fault))
    | .ok () => .ok geometry

/-- The size that the host gives for a directory. -/
def directorySize : Nat := 4096

/-- The size of what stands at the path of the image file. -/
def sizeOf : Entry → Except Failure Nat
  | .absent => .error (.io .fileNotFound)
  | .file content => .ok content.size
  | .directory => .ok directorySize

/-- Open the image file. -/
def openImage (settings : Settings) (image : Entry) : Except Failure ImageFile := do
  let regionSize ←
    match settings.regionSize with
    | some regionSize => pure regionSize
    | none => sizeOf image
  let geometry ← settings.geometry regionSize
  match image with
  | .absent => throw (.flash (.io .fileNotFound))
  | .directory => throw (.flash (.io .isDirectory))
  | .file content => (ImageFile.ofContent? settings.path geometry content).mapError .flash

/-- A driver on the image file, with room reserved for the listed segments. Of the
sizes listed for one segment the last counts. -/
def openDriver (settings : Settings) (image : Entry) :
    Except Failure (SegmentDriver ImageFile) := do
  if settings.segments.isEmpty then
    throw (.usage .noSegments)
  let device ← settings.openImage image
  return settings.segments.foldl
    (fun driver (segment, maxPayload) => driver.reserve segment maxPayload) { device }

/-- The listed segments, each once, in order. -/
def listed (settings : Settings) : List Segment :=
  Segment.distinct (settings.segments.map Prod.fst)

/-- Use a driver on the image file. What it does to the file stays, however it ends. -/
def withDriver {α : Type} (settings : Settings)
    (use : Action (SegmentDriver ImageFile) StoreError α) : Action Workspace Failure α :=
  fun workspace =>
    match settings.openDriver workspace.image with
    | .error failure => (.error failure, workspace)
    | .ok driver =>
      match use driver with
      | (outcome, reached) =>
        (outcome.mapError .store, { workspace with image := .file reached.device.content })

end Settings

end NorStore.Command
