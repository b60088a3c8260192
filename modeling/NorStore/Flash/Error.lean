/-
# What can go wrong at a device

Each error names its cause. The wording, which reports and messages repeat, is
written once, in `FlashError.message`.
-/

import NorStore.Flash.Geometry
import NorStore.Text.Number

namespace NorStore.Flash

/-- Why the host could not reach a device. -/
inductive HostFault where
  | fileNotFound
  | isDirectory
  | openFailure
  | openGlitch
  | readGlitch
deriving DecidableEq, Repr

/-- Why a write did not reach all of its cells. -/
inductive WriteFault where
  | crossesBlock
  | noPower
  | powerCut (programmed length : Nat)
deriving DecidableEq, Repr

/-- Why an erase did not happen. -/
inductive EraseFault where
  | noPower
  | refused
deriving DecidableEq, Repr

/-- What a device access can report. -/
inductive FlashError where
  | io (fault : HostFault)
  | outOfBounds (offset length regionEnd : Nat)
  | misaligned (offset length blockSize : Nat)
  | notOpen
  | invalidGeometry (fault : GeometryFault)
  | writeFailed (offset : Nat) (fault : WriteFault)
  | eraseFailed (offset : Nat) (fault : EraseFault)
deriving DecidableEq, Repr

/-- The wording of a geometry fault. -/
def GeometryFault.message : GeometryFault → String
  | emptyBlocks => "block size is zero"
  | emptyRegion => "region is empty"
  | misalignedRegion regionOffset blockSize =>
    s!"region offset {Text.hex regionOffset} not aligned to block size {blockSize}"
  | unevenRegion blockCount blockSize regionSize =>
    s!"{blockCount} blocks of {blockSize} bytes do not cover region of {regionSize} bytes"
  | noRegions => "no erasable regions"
  | imageSize size regionSize =>
    s!"image of {size} bytes does not match region of {regionSize} bytes"
  | imageFileSize path size regionSize =>
    s!"image {path} is {size} bytes, geometry expects {regionSize}"
  | queryFailure => "simulated geometry query failure"

/-- The wording of a host fault. -/
def HostFault.message : HostFault → String
  | fileNotFound => "No such file or directory (os error 2)"
  | isDirectory => "Is a directory (os error 21)"
  | openFailure => "simulated open failure"
  | openGlitch => "simulated open glitch"
  | readGlitch => "simulated read glitch"

/-- The wording of a write fault. -/
def WriteFault.message : WriteFault → String
  | crossesBlock => "write crosses erase block boundary"
  | noPower => "device has no power"
  | powerCut programmed length => s!"simulated power cut after {programmed} of {length} bytes"

/-- The wording of an erase fault. -/
def EraseFault.message : EraseFault → String
  | noPower => "device has no power"
  | refused => "simulated erase failure"

/-- The wording of a device error. -/
def FlashError.message : FlashError → String
  | io fault => s!"I/O error: {fault.message}"
  | outOfBounds offset length regionEnd =>
    s!"access out of bounds: offset {Text.hex offset}, len {length}, region end {Text.hex regionEnd}"
  | misaligned offset length blockSize =>
    s!"erase not block aligned: offset {Text.hex offset}, len {length}, block size {blockSize}"
  | notOpen => "device is not open"
  | invalidGeometry fault => s!"invalid geometry: {fault.message}"
  | writeFailed offset fault => s!"write failed at offset {Text.hex offset}: {fault.message}"
  | eraseFailed offset fault => s!"erase failed at offset {Text.hex offset}: {fault.message}"

end NorStore.Flash
