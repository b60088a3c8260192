/-
# Reading a committed segment

What reading the content of a segment gives, compared with the format on flash. On a
device on which nothing fails it is the payload that the range holds, or the first thing
that is wrong with it. A device that fails to read makes a segment look corrupt, never
intact.
-/

import NorStore.Proofs.Driver.Sequential
import NorStore.Proofs.Record.Image
import NorStore.Store.Restore

namespace NorStore

/-- Whether a header may be followed in a range, told without a trap. -/
def Header.judge (header : Header) (entry : MapEntry) (appSignature : UInt32) (maxVersion : UInt16) :
    Except LossReason Unit := do
  header.validate appSignature maxVersion
  if entry.maxDataSize - Header.size < header.length.toNat then
    .error (.corruption (.lengthExceedsCapacity header.length.toNat
      (entry.maxDataSize - Header.size)))
  else .ok ()

namespace SegmentDriver

open NorStore.Flash (BlockDevice ChipView NorDevice)

variable {δ ε : Type} [BlockDevice δ] [NorDevice δ] {driver reached : SegmentDriver δ}
  {segment : Segment} {entry : MapEntry} {appSignature : UInt32} {maxVersion : UInt16}
  {span : ChecksumSpan}

/-- Examining a header is a check without a trap, if the range has room for it. -/
theorem examine_of_le (header : Header) (room : Header.size ≤ entry.maxDataSize) :
    (header.examine entry appSignature maxVersion : Outcome ε (Except LossReason Unit)) =
      .value (header.judge entry appSignature maxVersion) := by
  rw [Header.examine, Header.judge]
  cases header.validate appSignature maxVersion with
  | error reason => rfl
  | ok _ =>
      by_cases long : entry.maxDataSize - Header.size < header.length.toNat
      · simp only [Word.sub_of_le room, Outcome.value_bind, if_pos long]
        rfl
      · simp only [Word.sub_of_le room, Outcome.value_bind, if_neg long]
        rfl

/-- A segment is taken to be outside any transaction only if its range is committed. -/
theorem isInTransaction_ends (sound : driver.Sound) (mapped : driver.Mapped segment entry) :
    (isInTransaction segment : Action (SegmentDriver δ) ε Bool).Ends driver
      (fun inTransaction reached => Remains driver reached ∧
        (inTransaction = !decide (Committed (driver.contents entry)) ∨
          inTransaction = true ∧ ¬ ChipView.Steady driver.device))
      fun _ _ => False := by
  have whole := sound.length_ledger mapped
  apply Action.Ends.attempt_bind (readLedger_ends sound mapped)
  · intro _ reached ended
    obtain ⟨remains, rfl⟩ := ended
    refine .pure ⟨remains, .inl ?_⟩
    rw [Ledger.isInTransaction_classify]
    exact congrArg not (decide_eq_decide.2 (Ledger.decode_eq_iff whole))
  · intro cause reached ended
    obtain ⟨remains, unsteady⟩ := ended
    exact .pure ⟨remains, .inr ⟨rfl, unsteady⟩⟩

/-- Reading the content of a committed range. -/
theorem readContent_ends (sound : driver.Sound) (mapped : driver.Mapped segment entry)
    (isCommitted : Committed (driver.contents entry)) :
    (readContent { entry, mode := .read, position := 0 } appSignature maxVersion span).Ends driver
      (fun payload reached => Remains driver reached ∧
        Image.payload appSignature maxVersion span (driver.contents entry) = .ok payload)
      fun reason reached => Remains driver reached ∧
        (Image.payload appSignature maxVersion span (driver.contents entry) = .error reason ∨
          ¬ ChipView.Steady driver.device ∧ ∃ detail, reason = .corruption detail) := by
  have room := (sound.fits mapped).room
  have size := (sound.fits mapped).maxDataSize
  have length := length_contents sound mapped
  rw [Image.payload_eq (by rw [length]; exact room), if_pos isCommitted, length]
  refine .bind (.mapError ((read_ends sound mapped (by omega)).mono (fun _ _ => id) ?_)) ?_
  · intro cause reached ended
    obtain ⟨remains, unsteady⟩ := ended
    exact ⟨remains, .inr ⟨unsteady, _, rfl⟩⟩
  intro _ middle ended
  obtain ⟨remains, rfl⟩ := ended
  have header : Header.decode (((driver.contents entry).drop (Ledger.size + 0)).take Header.size) =
      Image.header (driver.contents entry) := rfl
  dsimp only
  rw [header]
  apply Action.Ends.lift_bind (examine_of_le _ (by omega))
  rw [Header.judge, show entry.maxDataSize - Header.size = entry.reserved - 24 by rw [size]; rfl]
  cases valid : (Image.header (driver.contents entry)).validate appSignature maxVersion with
  | error reason => exact .throw ⟨remains, .inl rfl⟩
  | ok _ =>
      by_cases long : entry.reserved - 24 < (Image.header (driver.contents entry)).length.toNat
      · simp only [if_pos long]
        exact .throw ⟨remains, .inl rfl⟩
      · simp only [if_neg long]
        refine .bind (.mapError ((read_ends (remains.toFollows.sound sound)
          (remains.toFollows.mapped mapped) ?_).mono (fun _ _ => id) ?_)) ?_
        · rw [size]
          have behind : entry.reserved - Ledger.size - Header.size = entry.reserved - 24 :=
            Nat.sub_sub ..
          omega
        · intro cause reached ended
          obtain ⟨later, unsteady⟩ := ended
          exact ⟨remains.trans later,
            .inr ⟨fun steady => unsteady (remains.keeps.steady steady), _, rfl⟩⟩
        · intro _ reached ended
          obtain ⟨later, rfl⟩ := ended
          have behind : Ledger.size + (0 + Header.size) = 24 := rfl
          rw [behind, remains.contents]
          dsimp only
          cases verified : (Image.header (driver.contents entry)).verify
              (((driver.contents entry).drop 24).take
                (Image.header (driver.contents entry)).length.toNat) span with
          | error reason => exact .throw ⟨remains.trans later, .inl rfl⟩
          | ok _ => exact .pure ⟨remains.trans later, rfl⟩

end SegmentDriver

end NorStore
