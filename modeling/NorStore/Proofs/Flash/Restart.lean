/-
# Faults and starting again

Faults are armed and cleared while a device is in use, and none of that reaches its cells. A
handle that is attached anew sees the cells as they are, and none of the faults that the old
handle had. This is what a reboot with working power comes to for the flash.
-/

import NorStore.Flash.Handles
import NorStore.Proofs.Flash.NorDevice

namespace NorStore

open NorStore.Flash (Faults)

/-- What can be done to the faults of a device. -/
inductive Fault where
  | cutPowerAfter (bytes : Nat)
  | failGeometry (on : Bool)
  | failOpen (on : Bool)
  | failErase (on : Bool)
  | reset
deriving DecidableEq, Repr

/-- The faults after one of them was armed or cleared. -/
def Fault.arm (faults : Faults) : Fault → Faults
  | cutPowerAfter bytes => faults.cutPowerAfter bytes
  | failGeometry on => { faults with failGeometry := on }
  | failOpen on => { faults with failOpen := on }
  | failErase on => { faults with failErase := on }
  | reset => faults.reset

namespace Flash

/-- A device over which a new handle starts without a fault and with the same cells. -/
class Restartable (δ : Type) [BlockDevice δ] [NorDevice δ] [Shareable δ] : Prop where
  shape_attach (device : δ) :
    ChipView.shape (Shareable.attach device) = ChipView.shape device
  cells_attach (device : δ) :
    ChipView.cells (Shareable.attach device) = ChipView.cells device
  honest_attach (device : δ) : ChipView.Honest (Shareable.attach device)
  healthy_attach (device : δ) : ChipView.Healthy (Shareable.attach device)

instance : Restartable MemoryFlash where
  shape_attach _ := rfl
  cells_attach _ := rfl
  honest_attach _ := trivial
  healthy_attach _ := trivial

variable {δ : Type} [BlockDevice δ] [NorDevice δ] [Shareable δ] [Restartable δ]

instance : Restartable (Faulty δ) where
  shape_attach whole := Restartable.shape_attach whole.device
  cells_attach whole := Restartable.cells_attach whole.device
  honest_attach whole := Restartable.honest_attach whole.device
  healthy_attach whole := ⟨rfl, rfl, rfl, rfl, rfl, Restartable.healthy_attach whole.device⟩

instance : Restartable (Glitchy δ) where
  shape_attach whole := Restartable.shape_attach whole.device
  cells_attach whole := Restartable.cells_attach whole.device
  honest_attach whole := ⟨rfl, Restartable.honest_attach whole.device⟩
  healthy_attach whole := ⟨fun _ => rfl, fun _ => rfl, Restartable.healthy_attach whole.device⟩

end Flash

end NorStore
