/-
# Glitches

A device in a wrapper in which chosen calls fail. Opens and reads are numbered in
the order in which they arrive, and for each of the two kinds a schedule says which
numbers fail; a call that fails does not reach the device. The geometry that the
device reports can be replaced by another one.
-/

import NorStore.Flash.Device

namespace NorStore.Flash

/-- A device in which chosen calls fail. -/
structure Glitchy (δ : Type) where
  device : δ
  /-- How many opens have arrived. -/
  opens : Nat := 0
  /-- How many reads have arrived. -/
  reads : Nat := 0
  /-- Which opens fail. -/
  openFails : Nat → Bool := fun _ => false
  /-- Which reads fail. -/
  readFails : Nat → Bool := fun _ => false
  /-- The geometry to report, if it is not the device's own. -/
  reported : Option Geometry := none

namespace Glitchy

variable {δ : Type}

/-- Let a number of opens through, and fail the next one. -/
def failOpenAfter (whole : Glitchy δ) (passed : Nat) : Glitchy δ :=
  let chosen := whole.opens + passed
  { whole with openFails := (· == chosen) }

/-- Let a number of reads through, and fail the next one. -/
def failReadAfter (whole : Glitchy δ) (passed : Nat) : Glitchy δ :=
  let chosen := whole.reads + passed
  { whole with readFails := (· == chosen) }

variable [BlockDevice δ]

/-- Pass a call on to the device. -/
private def onDevice {α : Type} (access : Action δ FlashError α) :
    Action (Glitchy δ) FlashError α := fun whole =>
  match whole with
  | ⟨device, opens, reads, openFails, readFails, reported⟩ =>
    match access device with
    | (outcome, reached) => (outcome, ⟨reached, opens, reads, openFails, readFails, reported⟩)

instance : BlockDevice (Glitchy δ) where
  openDevice := fun whole =>
    let number := whole.opens
    let whole := { whole with opens := number + 1 }
    if whole.openFails number then (.error (.io .openGlitch), whole)
    else onDevice BlockDevice.openDevice whole
  closeDevice whole := { whole with device := BlockDevice.closeDevice whole.device }
  geometry whole :=
    match BlockDevice.geometry whole.device with
    | .error cause => .error cause
    | .ok own => .ok (whole.reported.getD own)
  read offset length := fun whole =>
    let number := whole.reads
    let whole := { whole with reads := number + 1 }
    if whole.readFails number then (.error (.io .readGlitch), whole)
    else onDevice (BlockDevice.read offset length) whole
  write offset data := onDevice (BlockDevice.write offset data)
  erase offset length := onDevice (BlockDevice.erase offset length)

end Glitchy

end NorStore.Flash
