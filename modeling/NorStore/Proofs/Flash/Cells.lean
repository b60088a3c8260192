/-
# What stays of a range

Programming and erasing are told cell by cell where they are defined. This module says
what they do to ranges: a range that an operation does not reach keeps its contents, an
erased range reads as erased bytes, and bytes programmed over erased cells read back, but
not those that lie behind the erased cells. Programming part of the data and then nothing
is a power cut, so the first bytes of some data are treated like any other data.
-/

import NorStore.Flash.Cells

namespace NorStore.Flash.Cells

variable {cells before middle after : Cells} {start length position count : Nat} {data : Bytes}

/-- Two rows of cells that agree outside a range. -/
def AgreeOutside (start length : Nat) (before after : Cells) : Prop :=
  ∀ index, ¬ (start ≤ index ∧ index < start + length) → after[index]? = before[index]?

namespace AgreeOutside

theorem refl (start length : Nat) (cells : Cells) : AgreeOutside start length cells cells :=
  fun _ _ => rfl

theorem trans (first : AgreeOutside start length before middle)
    (second : AgreeOutside start length middle after) :
    AgreeOutside start length before after := by
  intro index outside
  exact (second index outside).trans (first index outside)

/-- A larger range leaves less to agree on. -/
theorem mono (agree : AgreeOutside position count before after) (first : start ≤ position)
    (last : position + count ≤ start + length) : AgreeOutside start length before after := by
  intro index outside
  exact agree index (by omega)

end AgreeOutside

/-- Ranges outside of which everything changed read the same. -/
theorem slice_eq_of_agreeOutside (agree : AgreeOutside start length before after)
    (apart : position + count ≤ start ∨ start + length ≤ position) :
    after.slice position count = before.slice position count := by
  apply List.ext_getElem?
  intro index
  rw [getElem?_slice, getElem?_slice]
  split
  · exact agree (position + index) (by omega)
  · rfl

/-- Cells that agree outside a range and in it are the same. -/
theorem eq_of_slice_eq (agree : AgreeOutside start length before after)
    (same : after.slice start length = before.slice start length) : after = before := by
  apply Array.ext_getElem?
  intro index
  by_cases inside : start ≤ index ∧ index < start + length
  · have read := congrArg (·[index - start]?) same
    simpa only [getElem?_slice, show index - start < length by omega, if_true,
      Nat.add_sub_cancel' inside.1] using read
  · exact agree index inside

theorem take_slice (cells : Cells) (start : Nat) {length count : Nat} (fits : count ≤ length) :
    (cells.slice start length).take count = cells.slice start count := by
  apply List.ext_getElem?
  intro index
  rw [List.getElem?_take, getElem?_slice, getElem?_slice]
  split
  · rw [if_pos (by omega)]
  · rfl

theorem drop_slice (cells : Cells) (start length count : Nat) :
    (cells.slice start length).drop count = cells.slice (start + count) (length - count) := by
  apply List.ext_getElem?
  intro index
  rw [List.getElem?_drop, getElem?_slice, getElem?_slice, Nat.add_assoc]
  simp only [show count + index < length ↔ index < length - count by omega]

/-- Programming changes nothing outside the data. -/
theorem agreeOutside_program (cells : Cells) (start : Nat) (data : Bytes) :
    AgreeOutside start data.length cells (cells.program start data) := by
  intro index outside
  have erased : overlay start data index = erasedByte := by
    rw [overlay]
    split
    · rw [List.getD_eq_getElem?_getD, List.getElem?_eq_none (by omega), Option.getD_none]
    · rfl
  simp [getElem?_program, erased]

/-- Erasing changes nothing outside the range. -/
theorem agreeOutside_erase (cells : Cells) (start length : Nat) :
    AgreeOutside start length cells (cells.erase start length) := by
  intro index outside
  rw [getElem?_erase, if_neg outside]

/-- A range reads, after programming, as the conjunction of what it held and the data. -/
theorem slice_program (cells : Cells) (start : Nat) (data : Bytes) :
    (cells.program start data).slice start data.length =
      List.zipWith (· &&& ·) (cells.slice start data.length) data := by
  apply List.ext_getElem?
  intro index
  rw [getElem?_slice, List.getElem?_zipWith, getElem?_slice]
  split
  · rename_i below
    rw [getElem?_program, overlay, if_pos (Nat.le_add_right start index),
      Nat.add_sub_cancel_left, List.getD_eq_getElem?_getD, List.getElem?_eq_getElem below]
    cases cells[start + index]? <;> rfl
  · rfl

/-- Erased cells read as erased bytes. -/
theorem slice_erase (first : start ≤ position) (last : position + count ≤ start + length)
    (inside : start + length ≤ cells.size) :
    (cells.erase start length).slice position count = List.replicate count erasedByte := by
  apply List.ext_getElem?
  intro index
  rw [getElem?_slice, List.getElem?_replicate, getElem?_erase]
  split
  · rw [if_pos (by omega), Array.getElem?_eq_getElem (by omega)]
    rfl
  · rfl

theorem slice_blank {size : Nat} (inside : start + length ≤ size) :
    (blank size).slice start length = List.replicate length erasedByte := by
  apply List.ext_getElem?
  intro index
  rw [getElem?_slice, List.getElem?_replicate, blank, Array.getElem?_replicate]
  split
  · rw [if_pos (by omega)]
  · rfl

theorem erasedByte_and (byte : UInt8) : erasedByte &&& byte = byte := by
  rw [UInt8.and_comm, and_erasedByte]

private theorem zipWith_erased (data : Bytes) :
    List.zipWith (· &&& ·) (List.replicate data.length erasedByte) data = data := by
  induction data with
  | nil => rfl
  | cons byte rest ih =>
      rw [List.length_cons, List.replicate_succ, List.zipWith_cons_cons, erasedByte_and, ih]

/-- Bytes programmed over erased cells read back. -/
theorem slice_program_of_erased
    (erased : cells.slice start data.length = List.replicate data.length erasedByte) :
    (cells.program start data).slice start data.length = data := by
  rw [slice_program, erased, zipWith_erased]

/-- A range that bytes are programmed into, where it is erased, holds them in their place. -/
theorem slice_program_within {offset : Nat} (fits : offset + data.length ≤ length)
    (erased : cells.slice (start + offset) data.length =
      List.replicate data.length erasedByte) :
    (cells.program (start + offset) data).slice start length =
      (cells.slice start length).take offset ++ data ++
        (cells.slice start length).drop (offset + data.length) := by
  have agree := agreeOutside_program cells (start + offset) data
  rw [← List.take_append_drop (offset + data.length) (slice _ start length), List.take_add]
  congr 1
  · congr 1
    · rw [take_slice _ _ (by omega), take_slice _ _ (by omega),
        slice_eq_of_agreeOutside agree (.inl (Nat.le_refl _))]
    · rw [drop_slice, take_slice _ _ (by omega), slice_program_of_erased erased]
  · rw [drop_slice, drop_slice, slice_eq_of_agreeOutside agree (.inr (by omega))]

/-- Programming in two goes is programming at once. -/
theorem program_append (cells : Cells) (start : Nat) (first second : Bytes) :
    cells.program start (first ++ second) =
      (cells.program start first).program (start + first.length) second := by
  induction first generalizing cells start with
  | nil => rfl
  | cons byte rest ih =>
      rw [List.cons_append, program, program, ih, List.length_cons, Nat.add_assoc,
        Nat.add_comm 1]

/-- What data programmed over old bytes reads as, if so many of the first of them were erased
for it: it stands where they were erased, and behind that it shares its cells with them. -/
def merged (erased : Nat) (old data : Bytes) : Bytes :=
  data.take erased ++ List.zipWith (· &&& ·) (old.drop erased) (data.drop erased)

/-- Where enough was erased, nothing is left of what was there before. -/
theorem merged_of_le {erased : Nat} (old : Bytes) (covers : data.length ≤ erased) :
    merged erased old data = data := by
  rw [merged, List.take_of_length_le covers, List.drop_of_length_le covers, List.zipWith_nil_right,
    List.append_nil]

/-- Data that is programmed into a range that was erased, and on past its end. -/
theorem slice_program_erase (first : start ≤ position) (last : position ≤ start + length)
    (inside : start + length ≤ cells.size) :
    ((cells.erase start length).program position data).slice position data.length =
      merged (start + length - position) (cells.slice position data.length) data := by
  obtain ⟨erased, ends⟩ := Nat.exists_eq_add_of_le last
  rw [show start + length - position = erased by omega]
  by_cases covers : data.length ≤ erased
  · rw [merged_of_le _ covers, slice_program_of_erased (slice_erase first (by omega) inside)]
  have head : (data.take erased).length = erased := List.length_take_of_le (by omega)
  have tail : (data.drop erased).length = data.length - erased := List.length_drop
  have blank : (cells.erase start length).slice position (data.take erased).length =
      List.replicate (data.take erased).length erasedByte :=
    slice_erase first (by omega) inside
  have past := agreeOutside_program (cells.erase start length) position (data.take erased)
  rw [head] at past
  -- Programming goes on behind the range with cells that still hold what they held before.
  have stale : ((cells.erase start length).program position (data.take erased)).slice
      (position + erased) (data.drop erased).length =
        (cells.slice position data.length).drop erased := by
    rw [slice_eq_of_agreeOutside past (.inr (Nat.le_refl _)),
      slice_eq_of_agreeOutside (agreeOutside_erase cells start length) (.inr (by omega)),
      drop_slice, tail]
  have split : (cells.erase start length).program position data =
      ((cells.erase start length).program position (data.take erased)).program
        (position + erased) (data.drop erased) := by
    have both := program_append (cells.erase start length) position (data.take erased)
      (data.drop erased)
    rwa [head, List.take_append_drop] at both
  rw [merged, split, ← stale, ← slice_program, ← List.take_append_drop erased (slice ..)]
  congr 1
  · rw [take_slice _ _ (by omega),
      slice_eq_of_agreeOutside (agreeOutside_program _ _ (data.drop erased))
        (.inl (Nat.le_refl _))]
    have placed := slice_program_of_erased blank
    rwa [head] at placed
  · rw [drop_slice, tail]

/-! ## Cells that are simply replaced -/

/-- Replacing cells with erased bytes is erasing them. -/
theorem overwrite_erased (cells : Cells) (start length : Nat) :
    cells.overwrite start (List.replicate length erasedByte) = cells.erase start length := by
  induction length generalizing cells start with
  | zero => rfl
  | succ length ih => rw [List.replicate_succ, overwrite, erase, ih]

/-- Erasing in two goes is erasing at once. -/
theorem erase_add (cells : Cells) (start first second : Nat) :
    cells.erase start (first + second) =
      (cells.erase start first).erase (start + first) second := by
  induction first generalizing cells start with
  | zero => rw [Nat.zero_add, erase, Nat.add_zero]
  | succ first ih =>
      rw [show first + 1 + second = first + second + 1 by omega, erase, erase, ih,
        show start + 1 + first = start + (first + 1) by omega]

/-- A range that reaches past the last cell is read up to there. -/
private theorem length_slice_eq_min (cells : Cells) (start length : Nat) :
    (cells.slice start length).length = min length (cells.size - start) := by
  rw [slice, Array.length_toList, Array.size_extract]
  omega

/-- Replacing cells with what they share with some data is programming the data. -/
theorem overwrite_shared (cells : Cells) (start : Nat) (data : Bytes) :
    cells.overwrite start (List.zipWith (· &&& ·) (cells.slice start data.length) data) =
      cells.program start data := by
  apply Array.ext_getElem?
  intro index
  rw [getElem?_overwrite, ← slice_program, length_slice_eq_min, size_program]
  by_cases reached : start ≤ index ∧ index < start + data.length
  · by_cases inside : index < cells.size
    · rw [if_pos (by omega), overlay, if_pos reached.1, List.getD_eq_getElem?_getD,
        getElem?_slice, if_pos (by omega), Nat.add_sub_cancel' reached.1, getElem?_program]
      cases cells[index]? <;> rfl
    · rw [if_neg (by omega), getElem?_program, Array.getElem?_eq_none (by omega)]
      rfl
  · rw [if_neg (by omega), agreeOutside_program cells start data index reached]

end NorStore.Flash.Cells
