/-
# Pieces and the whole

A handle can be used bit by bit. Where nothing fails, data that is written in pieces, empty ones
among them, leaves the cells and the handle as one write of all of it does, and what is read in
pieces is what one read gives.

In between the handle may be used in ways that it refuses: for what it was not opened for, at
another place than its own, or beyond the room of its range. Such a use comes to an error before
the device is asked for anything, and it leaves the handle where it is, as every use does that
fails. It may be tried any number of times at any point of the sequence. Only if its place and its
length do not add up to a word, it traps instead, and this too leaves everything as it is.
-/

import Mathlib.Algebra.GroupWithZero.Nat
import NorStore.Proofs.Driver.Chunks
import NorStore.Proofs.Driver.Handles

namespace NorStore

open NorStore.Flash (BlockDevice Cells ChipView MemoryFlash NorDevice)
open NorStore.Flash.ChipView (cells shape)

namespace Handle

variable {handle : Handle} {mode : AccessMode} {offset length : Nat} {σ α : Type}

/-- A handle cannot be used for what it is not made for, or at another place. -/
theorem checkSequential_eq_error (wrong : handle.mode ≠ mode ∨ offset ≠ handle.position) :
    ∃ cause, handle.checkSequential mode offset = .error cause := by
  rw [checkSequential]
  split
  · exact ⟨_, rfl⟩
  · rename_i suits
    rw [if_pos (wrong.resolve_left suits)]
    exact ⟨_, rfl⟩

theorem checkSequential_eq_value (suits : handle.mode = mode) (follows : offset = handle.position) :
    handle.checkSequential mode offset = .value () := by
  subst suits follows
  exact handle.checkSequential_self

/-- The checks with which every access begins stop one that the handle refuses, before anything
has been done. They trap only if the end of the access is no word. -/
theorem stops_of_refused (refused : handle.mode ≠ mode ∨ offset ≠ handle.position ∨
      handle.entry.maxDataSize < offset + length)
    (failure : Nat → StoreError) (rest : Action σ StoreError α) (state : σ) :
    let access : Action σ StoreError α := do
      handle.checkSequential mode offset
      let past ← (Word.add offset length : Outcome StoreError Nat)
      if handle.entry.maxDataSize < past then throw (failure past) else rest
    (∃ cause, access state = (.error cause, state)) ∨
      Word.limit ≤ offset + length ∧ access state = (.trap, state) := by
  intro access
  by_cases wrong : handle.mode ≠ mode ∨ offset ≠ handle.position
  · obtain ⟨cause, stops⟩ := checkSequential_eq_error wrong
    exact .inl ⟨cause, Action.bind_of_error (congrArg (·, state) stops) _⟩
  · obtain ⟨suits, follows⟩ := not_or.1 wrong
    have passes :=
      checkSequential_eq_value (Decidable.not_not.1 suits) (Decidable.not_not.1 follows)
    have full : handle.entry.maxDataSize < offset + length :=
      (refused.resolve_left suits).resolve_left follows
    have begins : access state = _ := Action.lift_bind_of_value passes _ state
    by_cases fits : offset + length < Word.limit
    · rw [Action.lift_bind_of_value (Word.add_of_lt fits), if_pos full] at begins
      exact .inl ⟨_, begins⟩
    · have sum : (Word.add offset length : Outcome StoreError Nat) = .trap := if_neg fits
      exact .inr ⟨Nat.not_lt.1 fits, begins.trans (Action.bind_of_trap (congrArg (·, state) sum) _)⟩

end Handle

namespace SegmentDriver

/-- What can be tried with a handle. -/
inductive Use where
  | read (offset length : Nat)
  | write (offset : Nat) (data : Bytes)
deriving DecidableEq, Repr

namespace Use

/-- What a handle has to be opened for. -/
def mode : Use → AccessMode
  | read _ _ => .read
  | write _ _ => .write

def offset : Use → Nat
  | read offset _ => offset
  | write offset _ => offset

/-- The number of bytes that are read or written. -/
def length : Use → Nat
  | read _ length => length
  | write _ data => data.length

/-- The handle is not made for this use, or is at another place, or its range has no room. -/
def Refused (use : Use) (handle : Handle) : Prop :=
  handle.mode ≠ use.mode ∨ use.offset ≠ handle.position ∨
    handle.entry.maxDataSize < use.offset + use.length

instance (use : Use) (handle : Handle) : Decidable (use.Refused handle) :=
  inferInstanceAs (Decidable (_ ∨ _ ∨ _))

variable {δ : Type} [BlockDevice δ]

/-- Use the handle. The bytes that were read are returned. -/
def perform : Use → Action (OpenSegment δ) StoreError (List Bytes)
  | read offset length => do
    let bytes ← OpenSegment.read offset length
    return [bytes]
  | write offset data => do
    OpenSegment.write offset data
    return []

end Use

/-- A handle in use over a driver, and the pieces that were read through it so far. -/
structure Cursor (δ : Type) extends OpenSegment δ where
  pieces : List Bytes := []

namespace Cursor

variable {δ : Type} [BlockDevice δ]

/-- Use the handle once, and go on with what is left of it and of the driver. -/
def step (cursor : Cursor δ) (use : Use) : Cursor δ :=
  match use.perform cursor.toOpenSegment with
  | (.value found, opened) => ⟨opened, cursor.pieces ++ found⟩
  | (.error _, opened) => ⟨opened, cursor.pieces⟩
  | (.trap, opened) => ⟨opened, cursor.pieces⟩

def run (cursor : Cursor δ) (uses : List Use) : Cursor δ := uses.foldl step cursor

/-- Some uses, with others tried in between that the handle refuses as it is then. -/
inductive Interrupted : Cursor δ → List Use → List Use → Prop
  | done {cursor : Cursor δ} : Interrupted cursor [] []
  | goesOn {cursor : Cursor δ} {use : Use} {plan uses : List Use} :
      Interrupted (cursor.step use) plan uses → Interrupted cursor (use :: plan) (use :: uses)
  | refused {cursor : Cursor δ} {use : Use} {plan uses : List Use} : use.Refused cursor.handle →
      Interrupted cursor plan uses → Interrupted cursor plan (use :: uses)

end Cursor

/-! ## Uses that are refused -/

section Refusal

variable {δ : Type} [BlockDevice δ] {use : Use}

/-- What the handle refuses does not reach the device, and does not move the handle. -/
theorem Use.perform_of_refused (opened : OpenSegment δ) (refused : use.Refused opened.handle) :
    (∃ cause, use.perform opened = (.error cause, opened)) ∨
      Word.limit ≤ use.offset + use.length ∧ use.perform opened = (.trap, opened) := by
  cases use with
  | read offset length =>
      rcases Handle.stops_of_refused refused _ _ opened with ⟨cause, stops⟩ | ⟨long, stops⟩
      · exact .inl ⟨cause, Action.bind_of_error stops _⟩
      · exact .inr ⟨long, Action.bind_of_trap stops _⟩
  | write offset data =>
      rcases Handle.stops_of_refused refused _ _ opened with ⟨cause, stops⟩ | ⟨long, stops⟩
      · exact .inl ⟨cause, Action.bind_of_error stops _⟩
      · exact .inr ⟨long, Action.bind_of_trap stops _⟩

/-- A use that fails, for whatever reason, does not move the handle. -/
theorem Use.perform_steadfast (use : Use) :
    OpenSegment.Steadfast (use.perform : Action (OpenSegment δ) StoreError (List Bytes)) := by
  cases use with
  | read offset length => exact (OpenSegment.read_steadfast offset length).bind_pure _
  | write offset data => exact (OpenSegment.write_steadfast offset data).bind_pure _

theorem Cursor.step_of_refused {cursor : Cursor δ} (refused : use.Refused cursor.handle) :
    cursor.step use = cursor := by
  rcases Use.perform_of_refused cursor.toOpenSegment refused with ⟨cause, stops⟩ | ⟨-, stops⟩
  · rw [step, stops]
  · rw [step, stops]

/-- What is refused in between does not matter. -/
theorem Cursor.Interrupted.run_eq {cursor : Cursor δ} {plan uses : List Use}
    (interrupted : Interrupted cursor plan uses) : cursor.run uses = cursor.run plan := by
  induction interrupted with
  | done => rfl
  | goesOn _ ih => exact ih
  | refused refused _ ih =>
      rw [← ih]
      exact congrArg (List.foldl step · _) (step_of_refused refused)

end Refusal

/-! ## Uses in order -/

/-- Write pieces one after another, from a place on. -/
def writesFrom (position : Nat) : List Bytes → List Use
  | [] => []
  | piece :: rest => .write position piece :: writesFrom (position + piece.length) rest

/-- Read pieces of the given lengths one after another, from a place on. -/
def readsFrom (position : Nat) : List Nat → List Use
  | [] => []
  | length :: rest => .read position length :: readsFrom (position + length) rest

section Order

variable {δ : Type} [BlockDevice δ] [NorDevice δ] {driver opened : SegmentDriver δ}
  {segment : Segment} {entry : MapEntry} {handle : Handle} {position length : Nat}
  {data : Bytes} {pieces : List Bytes} {lengths : List Nat}

/-- What fits is written, and moves the handle behind itself. -/
theorem openSegment_write (working : driver.Working segment entry)
    (inside : position + data.length ≤ entry.maxDataSize) :
    ∃ reached, OpenSegment.write position data ⟨driver, { entry, mode := .write, position }⟩ =
        (.value (), ⟨reached, { entry, mode := .write, position := position + data.length }⟩) ∧
      Follows driver reached ∧ cells reached.device = (cells driver.device).program
        (driver.base entry + (Ledger.size + position)) data := by
  obtain ⟨reached, writes, done⟩ := write_does working inside
  refine ⟨reached, ?_, done⟩
  rw [OpenSegment.write_apply, writes]

/-- What the range has room for is read, and the handle moves behind it. -/
theorem openSegment_read (working : driver.Working segment entry)
    (inside : position + length ≤ entry.maxDataSize) :
    ∃ reached, OpenSegment.read position length ⟨driver, { entry, mode := .read, position }⟩ =
        (.value (((driver.contents entry).drop (Ledger.size + position)).take length),
          ⟨reached, { entry, mode := .read, position := position + length }⟩) ∧
      Follows driver reached ∧ cells reached.device = cells driver.device := by
  obtain ⟨reached, reads, done⟩ := read_does working inside
  refine ⟨reached, ?_, done⟩
  rw [OpenSegment.read_apply, reads]

/-- Pieces that are written in order are programmed like the whole. -/
theorem run_writesFrom (found : List Bytes) (working : driver.Working segment entry)
    (inside : position + pieces.flatten.length ≤ entry.maxDataSize) :
    ∃ reached, Cursor.run ⟨⟨driver, { entry, mode := .write, position }⟩, found⟩
        (writesFrom position pieces) =
          ⟨⟨reached, { entry, mode := .write, position := position + pieces.flatten.length }⟩,
            found⟩ ∧
      cells reached.device = (cells driver.device).program
        (driver.base entry + (Ledger.size + position)) pieces.flatten := by
  induction pieces generalizing driver position with
  | nil => exact ⟨driver, rfl, rfl⟩
  | cons piece rest ih =>
      rw [List.flatten_cons, List.length_append] at inside
      have room : position + piece.length ≤ entry.maxDataSize := by omega
      obtain ⟨middle, writes, follows, programmed⟩ := openSegment_write working room
      obtain ⟨reached, goes, finished⟩ :=
        ih (working.follows follows) (show position + piece.length + _ ≤ _ by omega)
      have steps : Cursor.step ⟨⟨driver, { entry, mode := .write, position }⟩, found⟩
          (.write position piece) =
            ⟨⟨middle, { entry, mode := .write, position := position + piece.length }⟩, found⟩ := by
        rw [Cursor.step, Use.perform, Action.bind_of_value writes]
        exact congrArg (Cursor.mk _) (List.append_nil found)
      refine ⟨reached, ?_, ?_⟩
      · rw [writesFrom, Cursor.run, List.foldl_cons, steps, List.flatten_cons, List.length_append,
          ← Nat.add_assoc]
        exact goes
      · rw [finished, programmed, follows.base, List.flatten_cons, Cells.program_append]
        simp only [Nat.add_assoc]

/-- Pieces that are read in order are parts of the range, one behind the other. -/
theorem run_readsFrom (found : List Bytes) (working : driver.Working segment entry)
    (inside : position + lengths.sum ≤ entry.maxDataSize) :
    ∃ reached further, Cursor.run ⟨⟨driver, { entry, mode := .read, position }⟩, found⟩
        (readsFrom position lengths) =
          ⟨⟨reached, { entry, mode := .read, position := position + lengths.sum }⟩,
            found ++ further⟩ ∧
      cells reached.device = cells driver.device ∧ further.map List.length = lengths ∧
      further.flatten =
        ((driver.contents entry).drop (Ledger.size + position)).take lengths.sum := by
  induction lengths generalizing driver position found with
  | nil => exact ⟨driver, [], by rw [List.append_nil]; rfl, rfl, rfl, rfl⟩
  | cons length rest ih =>
      rw [List.sum_cons] at inside
      have room : position + length ≤ entry.maxDataSize := by omega
      obtain ⟨middle, reads, follows, kept⟩ := openSegment_read working room
      let piece := ((driver.contents entry).drop (Ledger.size + position)).take length
      have steps : Cursor.step ⟨⟨driver, { entry, mode := .read, position }⟩, found⟩
          (.read position length) =
            ⟨⟨middle, { entry, mode := .read, position := position + length }⟩,
              found ++ [piece]⟩ := by
        rw [Cursor.step, Use.perform, Action.bind_of_value reads]
        rfl
      obtain ⟨reached, further, goes, same, measured, joined⟩ :=
        ih (found ++ [piece]) (working.follows follows)
          (show position + length + _ ≤ _ by omega)
      have size := length_contents working.sound working.mapped
      have capacity := (working.sound.fits working.mapped).maxDataSize
      have reserve := (working.sound.fits working.mapped).room
      rw [(Remains.mk follows kept).contents] at joined
      refine ⟨reached, piece :: further, ?_, same.trans kept, ?_, ?_⟩
      · rw [readsFrom, Cursor.run, List.foldl_cons, steps, List.sum_cons, ← Nat.add_assoc,
          List.append_cons found piece further]
        exact goes
      · rw [List.map_cons, measured, List.length_take, List.length_drop, size,
          Nat.min_eq_left (by omega)]
      · rw [List.flatten_cons, joined, List.sum_cons, List.take_add, List.drop_drop, Nat.add_assoc]

/-- A handle for reading is given out without a change to the device. -/
theorem openForRead_eq_value (sound : driver.Sound)
    (opens : openForRead segment driver = (.value handle, opened)) :
    ∃ entry, handle = { entry, mode := .read, position := 0 } ∧ opened.Sound ∧
      opened.Mapped segment entry ∧ Flash.Keeps driver.device opened.device ∧
      cells opened.device = cells driver.device := by
  obtain ⟨entry, placed, asked, -⟩ := Action.bind_eq_value_iff.1 opens
  have mapped := mapped_of_ensureMapped asked
  have same := device_of_ensureMapped asked
  have known := sound.of_ensureMapped asked
  have again : openForRead segment placed = (.value handle, opened) :=
    (ensureMapped_bind asked _).symm.trans opens
  have ends := openForRead_ends mapped
  rw [Action.Ends, again] at ends
  obtain ⟨remains, rfl⟩ := ends
  exact ⟨entry, rfl, remains.sound known, remains.mapped mapped, same ▸ remains.keeps,
    same ▸ remains.cells⟩

/-- Neither how data is cut into pieces matters nor what is refused between them. What is refused
leaves the handle and the driver as they are, and whatever else fails leaves the handle. -/
theorem access_in_pieces (sound : driver.Sound) (healthy : ChipView.Healthy driver.device) :
    (∀ (segment : Segment) (size : Nat) (handle : Handle) (opened : SegmentDriver δ)
        (data : Bytes) (pieces : List Bytes),
      openForWrite segment size driver = (.value handle, opened) →
      data.length ≤ handle.entry.maxDataSize → pieces.flatten = data →
      ∃ once, OpenSegment.write 0 data ⟨opened, handle⟩ = (.value (), once) ∧
        ∀ uses, Cursor.Interrupted ⟨⟨opened, handle⟩, []⟩ (writesFrom 0 pieces) uses →
          let after := Cursor.run ⟨⟨opened, handle⟩, []⟩ uses
          after.handle = once.handle ∧
            cells after.driver.device = cells once.driver.device) ∧
    (∀ (segment : Segment) (handle : Handle) (opened : SegmentDriver δ) (lengths : List Nat),
      openForRead segment driver = (.value handle, opened) →
      lengths.sum ≤ handle.entry.maxDataSize →
      ∃ whole once, OpenSegment.read 0 lengths.sum ⟨opened, handle⟩ = (.value whole, once) ∧
        ∀ uses, Cursor.Interrupted ⟨⟨opened, handle⟩, []⟩ (readsFrom 0 lengths) uses →
          let after := Cursor.run ⟨⟨opened, handle⟩, []⟩ uses
          after.pieces.flatten = whole ∧ after.pieces.map List.length = lengths ∧
            after.handle = once.handle ∧
              cells after.driver.device = cells once.driver.device) ∧
    (∀ (use : Use) (opened : OpenSegment δ), use.Refused opened.handle →
      (∃ cause, use.perform opened = (.error cause, opened)) ∨
        Word.limit ≤ use.offset + use.length ∧ use.perform opened = (.trap, opened)) ∧
    ∀ (use : Use) (opened reached : OpenSegment δ) (cause : StoreError),
      use.perform opened = (.error cause, reached) → reached.handle = opened.handle := by
  refine ⟨?_, ?_, fun use opened => Use.perform_of_refused opened, ?_⟩
  · intro segment size handle opened data pieces opens inside whole
    obtain ⟨entry, rfl, -, known, mapped, keeps, -⟩ := openForWrite_eq_value sound opens
    subst whole
    have working : opened.Working segment entry := ⟨known, mapped, keeps.healthy healthy⟩
    rw [← Nat.zero_add pieces.flatten.length] at inside
    obtain ⟨reached, writes, -, programmed⟩ := openSegment_write working inside
    refine ⟨_, writes, fun uses interrupted => ?_⟩
    obtain ⟨after, runs, finished⟩ := run_writesFrom [] working inside
    rw [interrupted.run_eq, runs]
    exact ⟨rfl, finished.trans programmed.symm⟩
  · intro segment handle opened lengths opens inside
    obtain ⟨entry, rfl, known, mapped, keeps, -⟩ := openForRead_eq_value sound opens
    have working : opened.Working segment entry := ⟨known, mapped, keeps.healthy healthy⟩
    rw [← Nat.zero_add lengths.sum] at inside
    obtain ⟨reached, reads, -, kept⟩ := openSegment_read working inside
    refine ⟨_, _, reads, fun uses interrupted => ?_⟩
    obtain ⟨after, further, runs, same, measured, joined⟩ := run_readsFrom [] working inside
    rw [interrupted.run_eq, runs]
    exact ⟨joined, measured, rfl, same.trans kept.symm⟩
  · intro use opened reached cause fails
    have judged := use.perform_steadfast opened
    rwa [Action.Concludes, fails] at judged

end Order

/-- A handle that was given out for writing three bytes, and one for reading. -/
def stripWriter : Cursor MemoryFlash :=
  ⟨⟨(openForWrite .uniqueId 3 stripDriver).2, stripHandle⟩, []⟩

def stripReader : Cursor MemoryFlash :=
  ⟨⟨(openForRead .uniqueId stripDriver).2, { stripHandle with mode := .read }⟩, []⟩

/-- Three bytes in three pieces, one of them empty. A read, a write behind the position and one
that is too long are refused on the way; reading goes on after a write and a leap. -/
theorem access_in_pieces_sample :
    let written := stripWriter.run [.read 0 1, .write 0 [7, 9], .write 0 [1], .write 2 [],
      .write 2 (List.replicate 20 0), .write 2 [5]]
    let whole := OpenSegment.write 0 [7, 9, 5] stripWriter.toOpenSegment
    let found := stripReader.run [.read 0 2, .write 2 [1], .read 5 1, .read 2 1]
    let once := OpenSegment.read 0 3 stripReader.toOpenSegment
    whole.1 = .value () ∧ written.handle = whole.2.handle ∧
      cells written.driver.device = cells whole.2.driver.device ∧
      once.1 = .value found.pieces.flatten ∧ found.handle = once.2.handle := by
  have sound : stripDriver.Sound := ⟨trivial, fun _ known => nomatch known⟩
  have opensForWrite : openForWrite .uniqueId 3 stripDriver =
    (.value stripWriter.handle, stripWriter.driver) := Prod.ext (by rfl) rfl
  have opensForRead : openForRead .uniqueId stripDriver =
    (.value stripReader.handle, stripReader.driver) := Prod.ext (by rfl) rfl
  have writing : Cursor.Interrupted stripWriter (writesFrom 0 [[7, 9], [], [5]])
      [.read 0 1, .write 0 [7, 9], .write 0 [1], .write 2 [], .write 2 (List.replicate 20 0),
        .write 2 [5]] :=
    .refused (by decide +kernel) <| .goesOn <| .refused (by decide +kernel) <| .goesOn <|
      .refused (by decide +kernel) <| .goesOn .done
  have reading : Cursor.Interrupted stripReader (readsFrom 0 [2, 1])
      [.read 0 2, .write 2 [1], .read 5 1, .read 2 1] :=
    .goesOn <| .refused (by decide +kernel) <| .refused (by decide +kernel) <| .goesOn .done
  obtain ⟨writes, reads, -⟩ := access_in_pieces sound trivial
  obtain ⟨once, ends, alike⟩ := writes _ _ _ _ _ [[7, 9], [], [5]]
    opensForWrite (show [7, 9, 5].length ≤ 16 by decide) rfl
  obtain ⟨bytes, single, answers, pieces⟩ := reads _ _ _ [2, 1] opensForRead (by decide)
  obtain ⟨same, equal⟩ := alike _ writing
  obtain ⟨joined, -, left, -⟩ := pieces _ reading
  have wrote : OpenSegment.write 0 [7, 9, 5] stripWriter.toOpenSegment = (.value (), once) := ends
  have gave : OpenSegment.read 0 3 stripReader.toOpenSegment = (.value bytes, single) := answers
  intro written whole found all
  rw [show whole = _ from wrote, show all = _ from gave]
  exact ⟨rfl, same, equal, congrArg Outcome.value joined.symm, left⟩

end SegmentDriver

end NorStore
