/-
# Injected faults

A device in a wrapper that fails on demand. Power can be cut after a given number
of programmed bytes: the write that would pass it programs only what is left, and
no later write or erase reaches the device until the faults are reset. Opening,
erasing and asking for the geometry can be made to fail as well. The wrapper counts
what it passes on; a reset keeps the counts.
-/

import NorStore.Flash.Device

namespace NorStore.Flash

/-- The faults that are armed, and what was passed on so far. -/
structure Faults where
  /-- How many bytes can still be programmed before power is cut. -/
  powerLeft : Option Nat := none
  powerLost : Bool := false
  failGeometry : Bool := false
  failOpen : Bool := false
  failErase : Bool := false
  bytesWritten : Nat := 0
  opens : Nat := 0
  writes : Nat := 0
  erases : Nat := 0
deriving DecidableEq, Repr

namespace Faults

/-- Cut power once that many more bytes have been programmed. -/
def cutPowerAfter (faults : Faults) (bytes : Nat) : Faults :=
  { faults with powerLeft := some bytes }

/-- Restore power and clear every fault. -/
def reset (faults : Faults) : Faults :=
  { bytesWritten := faults.bytesWritten, opens := faults.opens, writes := faults.writes
    erases := faults.erases }

/-- Record that bytes were programmed. -/
def spend (faults : Faults) (bytes : Nat) : Faults :=
  { faults with
    powerLeft := faults.powerLeft.map (· - bytes)
    bytesWritten := faults.bytesWritten + bytes }

/-- Whether power lasts for that many bytes. -/
def lastsFor (faults : Faults) (bytes : Nat) : Bool :=
  match faults.powerLeft with
  | none => true
  | some left => bytes ≤ left

end Faults

/-- A device that fails on demand. -/
structure Faulty (δ : Type) where
  device : δ
  faults : Faults := {}

namespace Faulty

variable {δ : Type} [BlockDevice δ]

/-- Open the device, unless opening is made to fail. -/
def openDevice : Action (Faulty δ) FlashError Unit := fun whole =>
  match whole with
  | ⟨device, faults⟩ =>
    if faults.failOpen then (.error (.io .openFailure), ⟨device, faults⟩)
    else
      match BlockDevice.openDevice device with
      | (.value (), ready) => (.value (), ⟨ready, { faults with opens := faults.opens + 1 }⟩)
      | (outcome, reached) => (outcome, ⟨reached, faults⟩)

/-- The write during which power is cut: what is left of it reaches the device, and
whether the device accepts that much makes no difference. -/
def writeLast (offset : Nat) (data : Bytes) (left : Nat) : Action (Faulty δ) FlashError Unit :=
  fun whole =>
    match whole with
    | ⟨device, faults⟩ =>
      let faults := { faults with powerLost := true }
      let failure := FlashError.writeFailed offset (.powerCut left data.length)
      if left = 0 then (.error failure, ⟨device, faults⟩)
      else
        match BlockDevice.write offset (data.take left) device with
        | (.trap, reached) => (.trap, ⟨reached, faults⟩)
        | (_, reached) => (.error failure, ⟨reached, faults.spend left⟩)

/-- Program bytes as long as there is power. -/
def write (offset : Nat) (data : Bytes) : Action (Faulty δ) FlashError Unit := fun whole =>
  match whole with
  | ⟨device, faults⟩ =>
    if faults.powerLost then (.error (.writeFailed offset .noPower), ⟨device, faults⟩)
    else
      let faults := { faults with writes := faults.writes + 1 }
      if faults.lastsFor data.length then
        match BlockDevice.write offset data device with
        | (.value (), reached) => (.value (), ⟨reached, faults.spend data.length⟩)
        | (outcome, reached) => (outcome, ⟨reached, faults⟩)
      else
        writeLast offset data (faults.powerLeft.getD 0) ⟨device, faults⟩

/-- Erase blocks as long as there is power, unless erasing is made to fail. -/
def erase (offset length : Nat) : Action (Faulty δ) FlashError Unit := fun whole =>
  match whole with
  | ⟨device, faults⟩ =>
    if faults.powerLost then (.error (.eraseFailed offset .noPower), ⟨device, faults⟩)
    else if faults.failErase then (.error (.eraseFailed offset .refused), ⟨device, faults⟩)
    else
      match BlockDevice.erase offset length device with
      | (outcome, reached) => (outcome, ⟨reached, { faults with erases := faults.erases + 1 }⟩)

instance : BlockDevice (Faulty δ) where
  openDevice := openDevice
  closeDevice whole := { whole with device := BlockDevice.closeDevice whole.device }
  geometry whole :=
    if whole.faults.failGeometry then .error (.invalidGeometry .queryFailure)
    else BlockDevice.geometry whole.device
  read offset length := fun whole =>
    match whole with
    | ⟨device, faults⟩ =>
      match BlockDevice.read offset length device with
      | (outcome, reached) => (outcome, ⟨reached, faults⟩)
  write := write
  erase := erase

end Faulty

end NorStore.Flash
