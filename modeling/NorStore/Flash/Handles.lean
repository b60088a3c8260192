/-
# Several handles on the same cells

A chip outlives the handles on it: a rebooted host attaches a new one, and two hosts
can hold one each. A handle keeps what is its own (whether it is open, its faults and
glitches), and sees the cells as the last access through any handle has left them.
-/

import NorStore.Flash.Faulty
import NorStore.Flash.Glitchy
import NorStore.Flash.Image
import NorStore.Flash.Memory

namespace NorStore.Flash

/-- A device that several handles can share. -/
class Shareable (δ : Type) where
  /-- A new handle on the same cells: closed, with nothing armed. -/
  attach : δ → δ
  /-- The first handle, with the cells as the second one sees them. -/
  follow : δ → δ → δ

instance : Shareable MemoryFlash where
  attach flash := { flash with isOpen := false }
  follow handle latest := { latest with isOpen := handle.isOpen }

instance : Shareable ImageFile where
  attach image := { image with isOpen := false }
  follow handle latest := { latest with isOpen := handle.isOpen }

instance {δ : Type} [Shareable δ] : Shareable (Faulty δ) where
  attach whole := { device := Shareable.attach whole.device }
  follow handle latest := { handle with device := Shareable.follow handle.device latest.device }

instance {δ : Type} [Shareable δ] : Shareable (Glitchy δ) where
  attach whole := { device := Shareable.attach whole.device }
  follow handle latest := { handle with device := Shareable.follow handle.device latest.device }

/-- The handles on one set of cells, in the order in which they were attached. -/
structure Handles (δ : Type) where
  list : List δ

namespace Handles

variable {δ ε α : Type} [Shareable δ]

/-- A first handle. -/
def single (device : δ) : Handles δ := ⟨[device]⟩

/-- Attach another handle. -/
def attach (handles : Handles δ) : Handles δ :=
  match handles.list with
  | [] => handles
  | first :: rest => ⟨first :: rest ++ [Shareable.attach first]⟩

/-- An access through one of the handles, after which the others follow it. There is no
such access if there is no such handle. -/
def through? (handles : Handles δ) (number : Nat) (access : Action δ ε α) :
    Option (Outcome ε α × Handles δ) :=
  match handles.list[number]? with
  | none => none
  | some handle =>
    match access handle with
    | (outcome, latest) =>
      some (outcome, ⟨(handles.list.map (Shareable.follow · latest)).set number latest⟩)

end Handles

end NorStore.Flash
