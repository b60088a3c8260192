/-
# Flash cells

A row of cells and the two things that NOR flash can do to it: programming clears
bits, so a programmed cell holds the conjunction of its old content and the byte;
erasing sets every bit. A cell is read at its index, and each operation is told by
what it does to that reading.
-/

import NorStore.Bytes

namespace NorStore.Flash

/-- A row of flash cells. -/
abbrev Cells := Array UInt8

namespace Cells

/-- The content of an erased cell. -/
def erasedByte : UInt8 := 0xff

/-- A row of erased cells. -/
def blank (size : Nat) : Cells := Array.replicate size erasedByte

/-- The contents of a range. -/
def slice (cells : Cells) (start length : Nat) : Bytes :=
  (cells.extract start (start + length)).toList

/-- Program bytes into consecutive cells. -/
def program (cells : Cells) (start : Nat) : Bytes → Cells
  | [] => cells
  | byte :: rest => program (cells.modify start (· &&& byte)) (start + 1) rest

/-- Erase consecutive cells. -/
def erase (cells : Cells) (start : Nat) : Nat → Cells
  | 0 => cells
  | length + 1 => erase (cells.setIfInBounds start erasedByte) (start + 1) length

/-- Replace the contents of consecutive cells, whatever they hold. No flash
can do this; it stands for decay, and for a file behind an image. -/
def overwrite (cells : Cells) (start : Nat) : Bytes → Cells
  | [] => cells
  | byte :: rest => overwrite (cells.setIfInBounds start byte) (start + 1) rest

/-- The byte that lies over a cell when bytes are laid out from a start. Where there is
none, an erased byte stands for it, which programs nothing. -/
def overlay (start : Nat) (data : Bytes) (index : Nat) : UInt8 :=
  if start ≤ index then data.getD (index - start) erasedByte else erasedByte

@[simp] theorem size_blank (size : Nat) : (blank size).size = size := Array.size_replicate

theorem length_slice {cells : Cells} {start length : Nat} (inside : start + length ≤ cells.size) :
    (cells.slice start length).length = length := by
  simp only [slice, Array.length_toList, Array.size_extract]
  omega

@[simp] theorem size_program (cells : Cells) (start : Nat) (data : Bytes) :
    (cells.program start data).size = cells.size := by
  induction data generalizing cells start with
  | nil => rfl
  | cons byte rest ih => rw [program, ih, Array.size_modify]

@[simp] theorem size_erase (cells : Cells) (start length : Nat) :
    (cells.erase start length).size = cells.size := by
  induction length generalizing cells start with
  | zero => rfl
  | succ length ih => rw [erase, ih, Array.size_setIfInBounds]

@[simp] theorem size_overwrite (cells : Cells) (start : Nat) (data : Bytes) :
    (cells.overwrite start data).size = cells.size := by
  induction data generalizing cells start with
  | nil => rfl
  | cons byte rest ih => rw [overwrite, ih, Array.size_setIfInBounds]

theorem getElem?_slice (cells : Cells) (start length index : Nat) :
    (cells.slice start length)[index]? = if index < length then cells[start + index]? else none := by
  rw [slice, Array.getElem?_toList, Array.getElem?_extract]
  by_cases inside : index < length
  · rw [if_pos inside]
    split
    · rfl
    · rw [Array.getElem?_eq_none (by omega)]
  · rw [if_neg inside, if_neg (by omega)]

@[simp] theorem and_erasedByte (cell : UInt8) : cell &&& erasedByte = cell := by
  apply UInt8.eq_of_toBitVec_eq
  show cell.toBitVec &&& 255#8 = cell.toBitVec
  exact BitVec.and_allOnes

theorem overlay_nil (start index : Nat) : overlay start [] index = erasedByte := by
  simp [overlay]

theorem overlay_cons_self (start : Nat) (byte : UInt8) (rest : Bytes) :
    overlay start (byte :: rest) start = byte := by
  simp [overlay]

theorem overlay_cons_of_ne {start index : Nat} (byte : UInt8) (rest : Bytes)
    (other : start ≠ index) :
    overlay start (byte :: rest) index = overlay (start + 1) rest index := by
  by_cases behind : start ≤ index
  · have step : index - start = index - (start + 1) + 1 := by omega
    rw [overlay, overlay, if_pos behind, if_pos (by omega), step, List.getD_cons_succ]
  · rw [overlay, overlay, if_neg behind, if_neg (by omega)]

/-- A programmed cell keeps the bits that it shares with the byte over it. -/
theorem getElem?_program (cells : Cells) (start : Nat) (data : Bytes) (index : Nat) :
    (cells.program start data)[index]? = cells[index]?.map (· &&& overlay start data index) := by
  induction data generalizing cells start with
  | nil => simp [program, overlay_nil]
  | cons byte rest ih =>
    rw [program, ih, Array.getElem?_modify]
    by_cases same : start = index
    · subst same
      have past : ¬ start + 1 ≤ start := by omega
      rw [if_pos rfl, overlay_cons_self, overlay, if_neg past]
      cases cells[start]? <;> simp
    · rw [if_neg same, overlay_cons_of_ne byte rest same]

/-- Exactly the cells of the range are erased. -/
theorem getElem?_erase (cells : Cells) (start length index : Nat) :
    (cells.erase start length)[index]? =
      if start ≤ index ∧ index < start + length then cells[index]?.map fun _ => erasedByte
      else cells[index]? := by
  induction length generalizing cells start with
  | zero => rw [erase, if_neg (by omega)]
  | succ length ih =>
    rw [erase, ih, Array.getElem?_setIfInBounds]
    by_cases same : start = index
    · subst same
      rw [if_neg (by omega), if_pos rfl]
      by_cases inside : start < cells.size <;> simp [inside]
    · rw [if_neg same]
      simp only [show start + 1 ≤ index ∧ index < start + 1 + length ↔
        start ≤ index ∧ index < start + (length + 1) by omega]

/-- Exactly the cells under the bytes are replaced. -/
theorem getElem?_overwrite (cells : Cells) (start : Nat) (data : Bytes) (index : Nat) :
    (cells.overwrite start data)[index]? =
      if start ≤ index ∧ index < start + data.length then
        cells[index]?.map fun _ => overlay start data index
      else cells[index]? := by
  induction data generalizing cells start with
  | nil => rw [overwrite, if_neg (by simp only [List.length_nil]; omega)]
  | cons byte rest ih =>
    rw [overwrite, ih, Array.getElem?_setIfInBounds, List.length_cons]
    by_cases same : start = index
    · subst same
      rw [if_neg (by omega), if_pos rfl]
      by_cases inside : start < cells.size <;> simp [inside, overlay_cons_self]
    · rw [if_neg same, overlay_cons_of_ne byte rest same]
      simp only [show start + 1 ≤ index ∧ index < start + 1 + rest.length ↔
        start ≤ index ∧ index < start + (rest.length + 1) by omega]

end Cells

end NorStore.Flash
