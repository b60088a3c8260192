/-
# Block devices

The interface between the store and a flash chip. A device is opened before it is
accessed and closed afterwards; every call reports what went wrong, and the state
it leaves behind is kept even when it fails.
-/

import NorStore.Bytes
import NorStore.Flash.Error

namespace NorStore.Flash

/-- A NOR flash device with a state of its own. -/
class BlockDevice (δ : Type) where
  /-- Make the device ready for access. -/
  openDevice : Action δ FlashError Unit
  /-- End the access. -/
  closeDevice : δ → δ
  /-- The geometry that the device reports. -/
  geometry : δ → Except FlashError Geometry
  /-- The bytes of a range. -/
  read (offset length : Nat) : Action δ FlashError Bytes
  /-- Program bytes, within one block. -/
  write (offset : Nat) (data : Bytes) : Action δ FlashError Unit
  /-- Erase whole blocks. -/
  erase (offset length : Nat) : Action δ FlashError Unit

namespace BlockDevice

variable {δ α : Type} [BlockDevice δ]

/-- Open the device, access it, and close it again, whether or not the access
succeeded. A trap leaves the device open. -/
def session (access : Action δ FlashError α) : Action δ FlashError α := fun device =>
  match openDevice device with
  | (.error cause, reached) => (.error cause, reached)
  | (.trap, reached) => (.trap, reached)
  | (.value _, ready) =>
    match access ready with
    | (.trap, reached) => (.trap, reached)
    | (outcome, reached) => (outcome, closeDevice reached)

end BlockDevice

end NorStore.Flash
