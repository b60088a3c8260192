/-
# Writing the content of a segment

New content is written into freshly erased blocks: first its header, then its payload, and
only then is the segment committed. As long as that goes on the ledger is erased, so what
has been written when a step fails is never taken for content.
-/

import NorStore.Proofs.Driver.Transaction
import NorStore.Proofs.Record.Image
import NorStore.Store.Commit

namespace NorStore

namespace SegmentDriver

open NorStore.Flash (BlockDevice Cells ChipView NorDevice)
open NorStore.Flash.ChipView (cells shape)

variable {δ : Type} [BlockDevice δ] [NorDevice δ] {driver middle reached : SegmentDriver δ}
  {segment : Segment} {entry : MapEntry} {header : Header} {payload : Bytes}

/-- Open the transaction of a segment, write its content, and commit it. -/
def commitContent (segment : Segment) (header : Header) (payload : Bytes) :
    Action (SegmentDriver δ) StoreError Unit := do
  enterTransaction segment
  writeContent segment header payload
  exitTransaction segment

/-- Erasing blocks from the start of a range stays in the range. -/
theorem Follows.confined_of_erase (follows : Follows driver reached)
    (powered : ¬ ChipView.Lost driver.device) {length : Nat}
    (erased : cells reached.device = (cells driver.device).erase (driver.base entry) length)
    (inside : length ≤ entry.reserved) : Confined entry driver reached := by
  have agree : Cells.AgreeOutside (driver.base entry + 0) length (cells driver.device)
      (cells reached.device) := by
    rw [erased, Nat.add_zero]
    exact Cells.agreeOutside_erase _ _ _
  exact follows.confined powered agree (by omega)

/-- Erasing blocks from the start of a range erases its ledger. -/
theorem Follows.unwritten_of_erase (follows : Follows driver reached) (sound : driver.Sound)
    (mapped : driver.Mapped segment entry) {length : Nat}
    (erased : cells reached.device = (cells driver.device).erase (driver.base entry) length)
    (covers : Ledger.size ≤ length) (inside : length ≤ entry.reserved) :
    Unwritten (reached.contents entry) := by
  have room := sound.ledger_le mapped
  have top := sound.base_add_le mapped
  rw [Unwritten, take_contents _ room, follows.base, erased,
    Cells.slice_erase (Nat.le_refl _) (by omega) (by omega)]
  rfl

/-- Erasing a segment leaves its range uncommitted, and a failure leaves every cell. -/
theorem eraseSegment_uncommits (sound : driver.Sound) (mapped : driver.Mapped segment entry) :
    (eraseSegment segment).Ends driver
      (fun _ reached => Confined entry driver reached ∧ ¬ Committed (reached.contents entry))
      fun _ reached => Remains driver reached := by
  refine (eraseSegment_ends sound mapped).mono ?_ fun _ _ ended => ended.1
  intro _ reached ended
  obtain ⟨follows, powered, erased⟩ := ended
  have whole := Nat.le_refl entry.reserved
  exact ⟨follows.confined_of_erase powered erased whole, (follows.unwritten_of_erase sound mapped
    erased (sound.ledger_le mapped) whole).not_committed⟩

/-- The header and the payload, written into erased cells behind an erased ledger. -/
private theorem writeBoth_ends (sound : driver.Sound) (mapped : driver.Mapped segment entry)
    (fits : Header.size + payload.length ≤ entry.maxDataSize)
    (unwritten : Unwritten (driver.contents entry))
    (blank : (cells driver.device).slice (driver.base entry + Ledger.size)
      (Header.size + payload.length) =
        List.replicate (Header.size + payload.length) Cells.erasedByte) :
    (do
      let next ← write { entry, mode := .write, position := 0 } 0 header.encode
      let _ ← write next Header.size payload
      return ()).Ends driver
      (fun _ reached => Confined entry driver reached ∧ Unwritten (reached.contents entry) ∧
        Holds (reached.contents entry) header payload)
      fun _ reached => Confined entry driver reached ∧
        (ChipView.Steady driver.device → ChipView.Lost reached.device) ∧
        Unwritten (reached.contents entry) := by
  have room := (sound.fits mapped).room
  have size := (sound.fits mapped).maxDataSize
  have first : Ledger.size + 0 + header.encode.length ≤ entry.reserved := by
    rw [Header.length_encode]
    omega
  have second : Ledger.size + Header.size + payload.length ≤ entry.reserved := by omega
  refine .chain (write_ends sound mapped ?_) ?_ ?_
  · rw [Header.length_encode]
    omega
  · intro cause reached broken
    exact ⟨broken.confined first, broken.spent,
      unwritten_of_agree sound mapped broken.toFollows broken.agreeOutside unwritten⟩
  intro _ middle ended
  obtain ⟨rfl, follows, powered, programmed⟩ := ended
  have powered := powered (List.cons_ne_nil _ _)
  have agree := Cells.agreeOutside_program (cells driver.device)
    (driver.base entry + (Ledger.size + 0)) header.encode
  rw [← programmed] at agree
  have later := follows.sound sound
  have known := follows.mapped mapped
  have writes := write_ends later known fits
  apply Action.Ends.chain writes
  · intro cause reached broken
    have begun : Confined entry driver middle := follows.confined powered agree first
    have outside : Cells.AgreeOutside (middle.base entry + Ledger.size)
        (Header.size + payload.length) (cells middle.device) (cells reached.device) :=
      broken.agreeOutside.mono (by omega) (by omega)
    exact ⟨begun.trans (broken.confined second),
      fun steady => broken.spent (follows.keeps.steady steady),
      unwritten_of_agree later known broken.toFollows outside
        (unwritten_of_agree sound mapped follows agree unwritten)⟩
  intro _ reached ended
  obtain ⟨-, further, -, finished⟩ := ended
  have total : (header.encode ++ payload).length = Header.size + payload.length := by
    rw [List.length_append, Header.length_encode]
  have both : cells reached.device = (cells driver.device).program
      (driver.base entry + Ledger.size) (header.encode ++ payload) := by
    rw [finished, programmed, follows.base, Cells.program_append, Header.length_encode,
      Nat.add_zero, Nat.add_assoc]
  have whole := Cells.agreeOutside_program (cells driver.device) (driver.base entry + Ledger.size)
    (header.encode ++ payload)
  have done := follows.trans further
  rw [← both] at whole
  refine .pure ⟨done.confined powered whole (by omega),
    unwritten_of_agree sound mapped done whole unwritten, ?_⟩
  rw [Holds, ← slice_base_add reached (by omega), done.base, both, ← total]
  exact Cells.slice_program_of_erased (by rw [total, blank])

/-- Writing the content of a segment leaves its ledger erased, and if it fails, then before
the blocks were erased or with an erased ledger. -/
theorem writeContent_ends (sound : driver.Sound) (mapped : driver.Mapped segment entry)
    (fits : Header.size + payload.length ≤ entry.maxDataSize) :
    (writeContent segment header payload).Ends driver
      (fun _ reached => Confined entry driver reached ∧ ¬ ChipView.Lost driver.device ∧
        Unwritten (reached.contents entry) ∧ Holds (reached.contents entry) header payload)
      fun _ reached => Confined entry driver reached ∧
        (ChipView.Steady driver.device → ChipView.Lost reached.device) ∧
        (cells reached.device = cells driver.device ∨ Unwritten (reached.contents entry)) := by
  have range := sound.fits mapped
  have room := range.room
  have size := range.maxDataSize
  have top := sound.base_add_le mapped
  have covered := Flash.Geometry.le_covering (NorDevice.valid driver.device).blockSize_pos
    (Ledger.size + (Header.size + payload.length))
  have inside : (shape driver.device).covering (Ledger.size + (Header.size + payload.length)) ≤
      entry.reserved := Flash.Geometry.covering_le (by omega) range.whole
  apply Action.Ends.chain (openForWrite_ends sound mapped fits)
  · intro cause reached ended
    obtain ⟨remains, spent⟩ := ended
    exact ⟨remains.confined, spent, .inl remains.cells⟩
  intro _ opened ended
  obtain ⟨rfl, follows, powered, erased⟩ := ended
  have begun := follows.confined_of_erase powered erased inside
  have later := follows.sound sound
  have known := follows.mapped mapped
  have unwritten := follows.unwritten_of_erase sound mapped erased (by omega) inside
  refine (writeBoth_ends later known fits unwritten ?_).mono ?_ ?_
  · rw [follows.base, erased, Cells.slice_erase (by omega) (by omega) (by omega)]
  · intro _ reached ended
    obtain ⟨confined, same, holds⟩ := ended
    exact ⟨begun.trans confined, powered, same, holds⟩
  · intro cause reached ended
    obtain ⟨confined, spent, same⟩ := ended
    exact ⟨begun.trans confined, fun steady => spent (follows.keeps.steady steady), .inr same⟩

/-! ## Committing content -/

/-- A range that keeps its cells, or its ledger erased, does not become committed. -/
private theorem not_committed_of_kept (confined : Confined entry driver reached)
    (kept : cells reached.device = cells driver.device ∨ Unwritten (reached.contents entry))
    (uncommitted : ¬ Committed (driver.contents entry)) : ¬ Committed (reached.contents entry) := by
  rcases kept with same | unwritten
  · rwa [(Remains.mk confined.toFollows same).contents]
  · exact unwritten.not_committed

/-- Content that is written in an open transaction is committed when the transaction is closed,
and a segment for which that fails stays uncommitted. It does not fail for a payload that fits
the range, as long as there is power. -/
theorem finishContent_ends (sound : driver.Sound) (mapped : driver.Mapped segment entry)
    (uncommitted : ¬ Committed (driver.contents entry)) :
    (writeContent segment header payload >>= fun _ => exitTransaction segment).Ends driver
      (fun _ reached => Confined entry driver reached ∧ ¬ ChipView.Lost driver.device ∧
        Committed (reached.contents entry) ∧ Holds (reached.contents entry) header payload)
      fun _ reached => (Confined entry driver reached ∧ ¬ Committed (reached.contents entry)) ∧
        (Header.size + payload.length ≤ entry.maxDataSize → ChipView.Steady driver.device →
          ChipView.Lost reached.device) := by
  by_cases fits : Header.size + payload.length ≤ entry.maxDataSize
  · refine .chain (writeContent_ends sound mapped fits) ?_ ?_
    · intro cause reached ended
      obtain ⟨writing, spent, kept⟩ := ended
      exact ⟨⟨writing, not_committed_of_kept writing kept uncommitted⟩, fun _ => spent⟩
    intro _ written ended
    obtain ⟨writing, powered, unwritten, holds⟩ := ended
    refine (exitTransaction_ends (writing.toFollows.sound sound) (writing.toFollows.mapped mapped)
      unwritten).mono ?_ ?_
    · intro _ reached ended
      obtain ⟨closing, -, exits⟩ := ended
      refine ⟨writing.trans closing, powered, ?_, ?_⟩
      · rw [Committed, exits, List.take_left' (Ledger.length_encode _)]
      · rw [Holds, exits, List.drop_left' (Ledger.length_encode _)]
        exact holds
    · intro cause reached ended
      obtain ⟨closing, spent, torn⟩ := ended
      exact ⟨⟨writing.trans closing, torn⟩, fun _ steady => spent (writing.keeps.steady steady)⟩
  · -- A range that is too small for the payload is not opened for writing.
    have refused := openForWrite_of_long mapped (Nat.lt_of_not_le fits)
    have fails : writeContent segment header payload driver = (.error (.capacityExceeded segment
        (Header.size + payload.length) entry.maxDataSize), driver) :=
      Action.bind_of_error refused _
    exact .of_error (Action.bind_of_error fails _)
      ⟨⟨(Remains.refl driver).confined, uncommitted⟩, fun room => absurd room fits⟩

/-- What is left of a range after an attempt to commit content in it has failed. -/
structure Stopped (segment : Segment) (entry : MapEntry) (before after : SegmentDriver δ) :
    Prop where
  confined : Confined entry before after
  kept : cells after.device = cells before.device ∨ ¬ Committed (after.contents entry)
  opened : (enterTransaction segment before).1 = .value () → ¬ Committed (after.contents entry)

/-- What goes wrong in an open transaction leaves the segment uncommitted. -/
theorem Stopped.of_open (opening : Confined entry driver middle)
    (confined : Confined entry middle reached) (uncommitted : ¬ Committed (reached.contents entry)) :
    Stopped segment entry driver reached :=
  ⟨opening.trans confined, .inr uncommitted, fun _ => uncommitted⟩

/-- A transaction that is not opened keeps the range or leaves it uncommitted. -/
theorem enterTransaction_stops (sound : driver.Sound) (mapped : driver.Mapped segment entry) :
    (enterTransaction segment).Ends driver
      (fun _ reached => Confined entry driver reached ∧ ¬ Committed (reached.contents entry))
      fun _ reached => Stopped segment entry driver reached ∧
        (ChipView.Steady driver.device → ChipView.Lost reached.device) := by
  refine (enterTransaction_ends sound mapped).known.mono (fun _ _ => And.right) ?_
  intro cause reached ended
  obtain ⟨failed, confined, spent, torn⟩ := ended
  refine ⟨⟨confined, torn, fun opened => ?_⟩, spent⟩
  rw [failed] at opened
  contradiction

/-- Committing content commits it, or stops there. -/
theorem commitContent_ends (sound : driver.Sound) (mapped : driver.Mapped segment entry) :
    (commitContent segment header payload).Ends driver
      (fun _ reached => Confined entry driver reached ∧ ¬ ChipView.Lost driver.device ∧
        Committed (reached.contents entry) ∧ Holds (reached.contents entry) header payload)
      fun _ reached => Stopped segment entry driver reached ∧
        (Header.size + payload.length ≤ entry.maxDataSize → ChipView.Steady driver.device →
          ChipView.Lost reached.device) := by
  apply Action.Ends.chain (enterTransaction_stops sound mapped)
  · intro cause reached ended
    obtain ⟨stopped, spent⟩ := ended
    exact ⟨stopped, fun _ => spent⟩
  intro _ entered ended
  obtain ⟨opening, opened⟩ := ended
  refine (finishContent_ends (opening.toFollows.sound sound) (opening.toFollows.mapped mapped)
    opened).mono ?_ ?_
  · intro _ reached ended
    obtain ⟨confined, powered, ended⟩ := ended
    exact ⟨opening.trans confined, powered ∘ opening.keeps.lost, ended⟩
  · intro cause reached ended
    obtain ⟨⟨confined, uncommitted⟩, spent⟩ := ended
    exact ⟨.of_open opening confined uncommitted,
      fun fits steady => spent fits (opening.keeps.steady steady)⟩

end SegmentDriver

end NorStore
