/-
# Changes that stay in a range

A change to the cells is *local* to a range if it alters nothing else, and what it makes of the
range is up to what the range held. Programming and erasing are local, and so is everything
that is put together from them. Two changes that are local to ranges without a common cell
may be made in either order, and erasing a range forgets every change that was local to it.
-/

import NorStore.Proofs.Flash.Cells

namespace NorStore.Flash.Cells

variable {cells before after : Cells} {start length position count : Nat}
  {change next : Cells → Cells} {data : Bytes}

/-- Two rows of cells that agree in a range. -/
def AgreeInside (start length : Nat) (one two : Cells) : Prop :=
  ∀ index, start ≤ index → index < start + length → two[index]? = one[index]?

/-- The change stays in the range, and so does what it depends on. -/
structure Local (start length : Nat) (change : Cells → Cells) : Prop where
  outside : ∀ cells, AgreeOutside start length cells (change cells)
  inside : ∀ one two, AgreeInside start length one two →
    AgreeInside start length (change one) (change two)

/-- Cells that agree in a range read the same there. -/
theorem AgreeInside.slice_eq {one two : Cells} (agree : AgreeInside start length one two)
    (first : start ≤ position) (last : position + count ≤ start + length) :
    two.slice position count = one.slice position count := by
  apply List.ext_getElem?
  intro index
  rw [getElem?_slice, getElem?_slice]
  split
  · exact agree (position + index) (by omega) (by omega)
  · rfl

/-- Outside a range, cells that agree there agree in every other range. -/
theorem AgreeOutside.agreeInside (agree : AgreeOutside start length before after)
    (apart : position + count ≤ start ∨ start + length ≤ position) :
    AgreeInside position count before after := by
  intro index first last
  exact agree index (by omega)

namespace Local

/-- A change that is local to a part of the range. -/
theorem mono (inner : Local position count change) (first : start ≤ position)
    (last : position + count ≤ start + length) : Local start length change where
  outside cells := (inner.outside cells).mono first last
  inside one two agree := by
    intro index above below
    by_cases within : position ≤ index ∧ index < position + count
    · refine inner.inside one two (fun other above below => ?_) index within.1 within.2
      exact agree other (by omega) (by omega)
    · rw [inner.outside two index within, inner.outside one index within]
      exact agree index above below

theorem comp (inner : Local start length change) (outer : Local start length next) :
    Local start length fun cells => next (change cells) where
  outside cells := (inner.outside cells).trans (outer.outside _)
  inside one two agree := outer.inside _ _ (inner.inside one two agree)

theorem program (start : Nat) (data : Bytes) :
    Local start data.length fun cells => cells.program start data where
  outside cells := agreeOutside_program cells start data
  inside one two agree := by
    intro index above below
    rw [getElem?_program, getElem?_program, agree index above below]

theorem erase (start length : Nat) : Local start length fun cells => cells.erase start length where
  outside cells := agreeOutside_erase cells start length
  inside one two agree := by
    intro index above below
    rw [getElem?_erase, getElem?_erase, agree index above below]

/-- Changes of ranges without a common cell do not depend on their order. -/
theorem comm (one : Local start length change) (two : Local position count next)
    (apart : position + count ≤ start ∨ start + length ≤ position) (cells : Cells) :
    next (change cells) = change (next cells) := by
  apply Array.ext_getElem?
  intro index
  by_cases mine : start ≤ index ∧ index < start + length
  · have kept := (two.outside cells).agreeInside apart.symm
    rw [two.outside (change cells) index (by omega),
      one.inside cells (next cells) kept index mine.1 mine.2]
  · rw [one.outside (next cells) index mine]
    by_cases theirs : position ≤ index ∧ index < position + count
    · have kept := (one.outside cells).agreeInside apart
      exact two.inside cells (change cells) kept index theirs.1 theirs.2
    · rw [two.outside (change cells) index theirs, one.outside cells index mine,
        two.outside cells index theirs]

end Local

/-- Erasing a range forgets what was changed in it. -/
theorem erase_eq_of_agreeOutside (agree : AgreeOutside position count before after)
    (size : after.size = before.size) (first : start ≤ position)
    (last : position + count ≤ start + length) :
    after.erase start length = before.erase start length := by
  apply Array.ext_getElem?
  intro index
  rw [getElem?_erase, getElem?_erase]
  split
  · by_cases inside : index < before.size <;> simp [inside, size]
  · exact agree index (by omega)

/-- Programming only clears bits, so it may be done in any order. -/
theorem program_comm (cells : Cells) (start position : Nat) (first second : Bytes) :
    (cells.program start first).program position second =
      (cells.program position second).program start first := by
  apply Array.ext_getElem?
  intro index
  simp only [getElem?_program, Option.map_map, Function.comp_def, UInt8.and_assoc,
    UInt8.and_comm (overlay start first index)]

end NorStore.Flash.Cells
