/-
# Opening and committing

A change to a segment begins by opening its transaction and ends by committing it. Both
program the ledger, and both may stop at any of its bytes. The theorems here say which
ledgers can be found afterwards: a segment that was opened is not committed, and neither
is one whose commit stopped before the last byte; a segment that failed to open is either
not committed or has kept every cell.
-/

import NorStore.Proofs.Driver.Sequential
import NorStore.Proofs.Record.Ledger

namespace NorStore.SegmentDriver

open NorStore.Flash (BlockDevice Cells ChipView NorDevice)
open NorStore.Flash.ChipView (cells)

variable {δ : Type} [BlockDevice δ] [NorDevice δ] {driver middle reached : SegmentDriver δ}
  {segment : Segment} {entry : MapEntry} {start : Nat} {data : Bytes} {ledger : Ledger}

/-! ## Changes within a range -/

/-- Nothing has changed outside the range, and without power nothing has changed at all. -/
structure Confined (entry : MapEntry) (before after : SegmentDriver δ) : Prop
    extends Follows before after where
  outside : Cells.AgreeOutside (before.base entry) entry.reserved (cells before.device)
    (cells after.device)
  dead : ChipView.Lost before.device → cells after.device = cells before.device

theorem Confined.trans (one : Confined entry driver middle) (two : Confined entry middle reached) :
    Confined entry driver reached where
  toFollows := one.toFollows.trans two.toFollows
  outside := one.outside.trans (one.toFollows.base entry ▸ two.outside)
  dead lost := (two.dead (one.keeps.lost lost)).trans (one.dead lost)

theorem Remains.confined (remains : Remains driver reached) : Confined entry driver reached where
  toFollows := remains.toFollows
  outside := remains.cells ▸ Cells.AgreeOutside.refl _ _ _
  dead _ := remains.cells

/-- A change that needs power and reaches a part of the range. -/
theorem Follows.confined (follows : Follows driver reached) {length : Nat}
    (powered : ¬ ChipView.Lost driver.device)
    (agree : Cells.AgreeOutside (driver.base entry + start) length (cells driver.device)
      (cells reached.device)) (inside : start + length ≤ entry.reserved) :
    Confined entry driver reached where
  toFollows := follows
  outside := agree.mono (by omega) (by omega)
  dead lost := absurd lost powered

theorem Broken.agreeOutside (broken : Broken start data driver reached) :
    Cells.AgreeOutside start data.length (cells driver.device) (cells reached.device) := by
  obtain ⟨count, -, -, programmed⟩ := broken.programmed
  rw [programmed]
  refine (Cells.agreeOutside_program _ _ _).mono (Nat.le_refl _) ?_
  rw [List.length_take]
  omega

theorem Broken.confined (broken : Broken (driver.base entry + start) data driver reached)
    (inside : start + data.length ≤ entry.reserved) : Confined entry driver reached where
  toFollows := broken.toFollows
  outside := broken.agreeOutside.mono (by omega) (by omega)
  dead lost := by
    obtain ⟨count, -, nothing, programmed⟩ := broken.programmed
    rw [programmed, nothing lost]
    rfl

/-- The last byte of some data is reached last. -/
theorem Broken.last (broken : Broken start data driver reached) {last : Nat}
    (isLast : data.length = last + 1) :
    (cells reached.device)[start + last]? = (cells driver.device)[start + last]? := by
  obtain ⟨count, fewer, -, programmed⟩ := broken.programmed
  have fewer := fewer (List.ne_nil_of_length_eq_add_one isLast)
  rw [programmed]
  apply Cells.agreeOutside_program _ _ _ _
  rw [List.length_take]
  omega

/-! ## Bytes of the ledger -/

theorem getElem?_contents (driver : SegmentDriver δ) {index : Nat} (inside : index < entry.reserved) :
    (driver.contents entry)[index]? = (cells driver.device)[driver.base entry + index]? := by
  rw [contents, Cells.getElem?_slice, if_pos inside]

theorem take_contents (driver : SegmentDriver δ) {length : Nat} (inside : length ≤ entry.reserved) :
    (driver.contents entry).take length = (cells driver.device).slice (driver.base entry) length :=
  Cells.take_slice _ _ inside

/-- Two changes that leave the same committed ledger leave the same cells. -/
theorem cells_eq_of_committed (sound : driver.Sound) (mapped : driver.Mapped segment entry)
    (follows : Follows driver reached)
    (agree : Cells.AgreeOutside (driver.base entry) Ledger.size (cells driver.device)
      (cells reached.device))
    (before : Committed (driver.contents entry)) (after : Committed (reached.contents entry)) :
    cells reached.device = cells driver.device := by
  have room := sound.ledger_le mapped
  rw [Committed, take_contents _ room] at before after
  rw [follows.base] at after
  exact Cells.eq_of_slice_eq agree (after.trans before.symm)

/-! ## Opening a transaction -/

theorem Remains.committed_iff (remains : Remains driver reached) :
    Committed (reached.contents entry) ↔ Committed (driver.contents entry) := by
  rw [remains.contents]

/-- The byte of a ledger that is programmed last is a cell of the range. -/
private theorem lastIndex_lt (sound : driver.Sound) (mapped : driver.Mapped segment entry) :
    Ledger.lastIndex < entry.reserved :=
  Nat.lt_of_lt_of_le (by decide) (sound.ledger_le mapped)

theorem last_cell_of_committed (sound : driver.Sound) (mapped : driver.Mapped segment entry)
    (isCommitted : Committed (driver.contents entry)) :
    (cells driver.device)[driver.base entry + Ledger.lastIndex]? = some 0x5a := by
  rw [← getElem?_contents driver (lastIndex_lt sound mapped)]
  exact isCommitted.last

theorem last_cell_of_unwritten (sound : driver.Sound) (mapped : driver.Mapped segment entry)
    (unwritten : Unwritten (driver.contents entry)) :
    (cells driver.device)[driver.base entry + Ledger.lastIndex]? = some Cells.erasedByte := by
  rw [← getElem?_contents driver (lastIndex_lt sound mapped)]
  exact unwritten.last

/-- A ledger whose last byte is that of another state is not committed. -/
theorem not_committed_of_last (sound : driver.Sound) (mapped : driver.Mapped segment entry)
    (follows : Follows driver reached) {last : UInt8}
    (read : (cells reached.device)[driver.base entry + Ledger.lastIndex]? = some last)
    (other : last ≠ 0x5a) : ¬ Committed (reached.contents entry) := by
  intro isCommitted
  have found := last_cell_of_committed (follows.sound sound) (follows.mapped mapped) isCommitted
  rw [follows.base, read] at found
  exact other (Option.some.inj found)

/-- Programming the ledger that opens a transaction over a committed or an erased one. -/
private theorem program_opened_ends (sound : driver.Sound) (mapped : driver.Mapped segment entry)
    (ready : Committed (driver.contents entry) ∨ Unwritten (driver.contents entry)) :
    (program segment entry.start Ledger.opened.encode).Ends driver
      (fun _ reached => Confined entry driver reached ∧ ¬ Committed (reached.contents entry))
      fun _ reached => Confined entry driver reached ∧
        (ChipView.Steady driver.device → ChipView.Lost reached.device) ∧
        (cells reached.device = cells driver.device ∨ ¬ Committed (reached.contents entry)) := by
  have room := sound.ledger_le mapped
  have inside : 0 + Ledger.opened.encode.length ≤ entry.reserved := by
    rwa [Nat.zero_add, Ledger.length_encode]
  refine (program_ends segment sound mapped inside).mono ?_ ?_
  · intro _ reached ended
    obtain ⟨follows, powered, programmed⟩ := ended
    have agree := Cells.agreeOutside_program (cells driver.device) (driver.base entry + 0)
      Ledger.opened.encode
    rw [← programmed] at agree
    refine ⟨follows.confined (powered (List.cons_ne_nil _ _)) agree inside, ?_⟩
    have last : (cells reached.device)[driver.base entry + Ledger.lastIndex]? = some 0 := by
      obtain ⟨byte, here⟩ : ∃ byte,
          (cells driver.device)[driver.base entry + Ledger.lastIndex]? = some byte := by
        rcases ready with before | unwritten
        · exact ⟨0x5a, last_cell_of_committed sound mapped before⟩
        · exact ⟨Cells.erasedByte, last_cell_of_unwritten sound mapped unwritten⟩
      rw [programmed, Nat.add_zero, Cells.getElem?_program, Cells.overlay,
        if_pos (Nat.le_add_right ..), Nat.add_sub_cancel_left, here]
      exact congrArg some UInt8.and_zero
    exact not_committed_of_last sound mapped follows last (by decide)
  · intro cause reached broken
    refine ⟨broken.confined inside, broken.spent, ?_⟩
    by_cases isCommitted : Committed (reached.contents entry)
    · rcases ready with before | unwritten
      · exact .inl (cells_eq_of_committed sound mapped broken.toFollows broken.agreeOutside before
          isCommitted)
      · refine absurd isCommitted (not_committed_of_last sound mapped broken.toFollows ?_
          (by decide : Cells.erasedByte ≠ 0x5a))
        exact (broken.last rfl).trans (last_cell_of_unwritten sound mapped unwritten)
    · exact .inr isCommitted

/-- A segment whose transaction was opened is not committed. If that failed, the segment is
not committed either, or nothing has happened to it. -/
theorem enterTransaction_ends (sound : driver.Sound) (mapped : driver.Mapped segment entry) :
    (enterTransaction segment).Ends driver
      (fun _ reached => Confined entry driver reached ∧ ¬ Committed (reached.contents entry))
      fun _ reached => Confined entry driver reached ∧
        (ChipView.Steady driver.device → ChipView.Lost reached.device) ∧
        (cells reached.device = cells driver.device ∨ ¬ Committed (reached.contents entry)) := by
  have whole := sound.length_ledger mapped
  apply Action.Ends.value_bind (ensureMapped_of_mapped mapped)
  apply Action.Ends.chain (readLedger_ends sound mapped)
  · intro cause reached ended
    obtain ⟨remains, unsteady⟩ := ended
    exact ⟨remains.confined, fun steady => absurd steady unsteady, .inl remains.cells⟩
  · intro _ middle ended
    obtain ⟨remains, rfl⟩ := ended
    rcases Ledger.apply_enter (Ledger.decode ((driver.contents entry).take Ledger.size)) with
      ⟨programs, found⟩ | ⟨keeps, open_⟩
    · rw [programs]
      rw [Ledger.decode_eq_iff whole, Ledger.decode_eq_iff whole] at found
      have follows := remains.toFollows
      rw [← remains.contents] at found
      refine (program_opened_ends (follows.sound sound) (follows.mapped mapped) found).mono ?_ ?_
      · intro _ reached ended
        obtain ⟨confined, opened⟩ := ended
        exact ⟨remains.confined.trans confined, opened⟩
      · intro cause reached ended
        obtain ⟨confined, spent, torn⟩ := ended
        exact ⟨remains.confined.trans confined, fun steady => spent (follows.keeps.steady steady),
          torn.imp_left (·.trans remains.cells)⟩
    · rw [keeps]
      refine .pure ⟨remains.confined, fun isCommitted => ?_⟩
      rw [remains.contents] at isCommitted
      exact open_ ((Ledger.decode_eq_iff whole).2 isCommitted)

/-! ## Committing -/

/-- What is written behind the ledger does not change it. -/
theorem ledger_of_agree (sound : driver.Sound) (mapped : driver.Mapped segment entry)
    (follows : Follows driver reached) {length : Nat} (behind : Ledger.size ≤ start)
    (agree : Cells.AgreeOutside (driver.base entry + start) length (cells driver.device)
      (cells reached.device)) :
    (reached.contents entry).take Ledger.size = (driver.contents entry).take Ledger.size := by
  have room := sound.ledger_le mapped
  rw [take_contents _ room, take_contents _ room, follows.base]
  exact Cells.slice_eq_of_agreeOutside agree (.inl (Nat.add_le_add_left behind _))

theorem unwritten_of_agree (sound : driver.Sound) (mapped : driver.Mapped segment entry)
    (follows : Follows driver reached)
    (agree : Cells.AgreeOutside (driver.base entry + Ledger.size) start (cells driver.device)
      (cells reached.device))
    (unwritten : Unwritten (driver.contents entry)) : Unwritten (reached.contents entry) :=
  (ledger_of_agree sound mapped follows (Nat.le_refl _) agree).trans unwritten

/-- An erased segment is committed by programming its ledger, and not before the last byte. -/
theorem exitTransaction_ends (sound : driver.Sound) (mapped : driver.Mapped segment entry)
    (unwritten : Unwritten (driver.contents entry)) :
    (exitTransaction segment).Ends driver
      (fun _ reached => Confined entry driver reached ∧ ¬ ChipView.Lost driver.device ∧
        reached.contents entry =
          Ledger.committed.encode ++ (driver.contents entry).drop Ledger.size)
      fun _ reached => Confined entry driver reached ∧
        (ChipView.Steady driver.device → ChipView.Lost reached.device) ∧
        ¬ Committed (reached.contents entry) := by
  have room := sound.ledger_le mapped
  have inside : 0 + Ledger.committed.encode.length ≤ entry.reserved := by
    rwa [Nat.zero_add, Ledger.length_encode]
  apply Action.Ends.value_bind (ensureMapped_of_mapped mapped)
  apply Action.Ends.chain (readLedger_ends sound mapped)
  · intro cause reached ended
    obtain ⟨remains, unsteady⟩ := ended
    exact ⟨remains.confined, fun steady => absurd steady unsteady,
      mt remains.committed_iff.1 unwritten.not_committed⟩
  · intro _ middle ended
    obtain ⟨remains, rfl⟩ := ended
    have follows := remains.toFollows
    have later := follows.sound sound
    have still := follows.mapped mapped
    rw [unwritten, Ledger.decode_encode]
    refine (program_ends segment later still inside).mono ?_ ?_
    · intro _ reached ended
      obtain ⟨further, powered, programmed⟩ := ended
      have agree := Cells.agreeOutside_program (cells middle.device) (middle.base entry + 0)
        Ledger.committed.encode
      rw [← programmed] at agree
      have powered := powered (List.cons_ne_nil _ _)
      refine ⟨remains.confined.trans (further.confined powered agree inside),
        powered ∘ follows.keeps.lost, ?_⟩
      have erased : (cells middle.device).slice (middle.base entry + 0)
          Ledger.committed.encode.length =
            List.replicate Ledger.committed.encode.length Cells.erasedByte := by
        rw [Nat.add_zero, Ledger.length_encode, ← take_contents middle room, remains.contents]
        exact unwritten
      rw [contents, further.base, programmed, Cells.slice_program_within inside erased, ← contents,
        remains.contents]
      rfl
    · intro cause reached broken
      refine ⟨remains.confined.trans (broken.confined inside),
        fun steady => broken.spent (follows.keeps.steady steady), ?_⟩
      refine not_committed_of_last later still broken.toFollows ((broken.last rfl).trans ?_)
        (by decide : Cells.erasedByte ≠ 0x5a)
      apply last_cell_of_unwritten later still
      rwa [Unwritten, remains.contents]

/-- A ledger that is not erased is never programmed by committing. -/
theorem exitTransaction_of_written (sound : driver.Sound) (mapped : driver.Mapped segment entry)
    (written : ¬ Unwritten (driver.contents entry)) :
    (exitTransaction segment).Ends driver (fun _ => Remains driver) fun _ => Remains driver := by
  have whole := sound.length_ledger mapped
  apply Action.Ends.value_bind (ensureMapped_of_mapped mapped)
  apply Action.Ends.chain (readLedger_ends sound mapped)
  · exact fun cause reached ended => ended.1
  · intro _ reached ended
    obtain ⟨remains, rfl⟩ := ended
    cases state : (Ledger.decode ((driver.contents entry).take Ledger.size)).classify with
    | erased =>
        have unwritten := (Ledger.decode_eq_iff whole).1 (Ledger.classify_eq_erased_iff.1 state)
        exact absurd unwritten written
    | committed => exact .pure remains
    | transactionOpen => exact .throw remains
    | corrupt => exact .throw remains

end NorStore.SegmentDriver
