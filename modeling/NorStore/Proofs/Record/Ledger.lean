/-
# Which bytes commit a segment

Eight bytes stand for a committed ledger, and every other reading of the ledger leaves the
segment in a transaction. Programming stops at some byte when power is cut, so it matters
that the last of the eight bytes is neither the erased one nor the one that opens a
transaction: a ledger whose last byte has not been programmed is not committed.
-/

import NorStore.Flash.Access
import NorStore.Record.Ledger
import NorStore.Proofs.Flash.Cells

namespace NorStore

namespace Ledger

/-- Eight bytes are decoded to a ledger exactly if they are its bytes. -/
theorem decode_eq_iff {bytes : Bytes} {ledger : Ledger} (whole : bytes.length = size) :
    decode bytes = ledger ↔ bytes = ledger.encode := by
  constructor
  · rintro rfl
    exact (encode_decode whole).symm
  · rintro rfl
    exact decode_encode ledger

theorem classify_eq_committed_iff {ledger : Ledger} :
    ledger.classify = .committed ↔ ledger = committed := by
  constructor
  · intro isCommitted
    rw [classify] at isCommitted
    split at isCommitted
    · contradiction
    · split at isCommitted
      · rename_i marked
        split at isCommitted
        · rename_i valid
          cases ledger
          exact congr (congrArg mk marked) valid
        · contradiction
      · contradiction
  · rintro rfl
    rfl

theorem classify_eq_erased_iff {ledger : Ledger} :
    ledger.classify = .erased ↔ ledger = erased := by
  constructor
  · intro isErased
    rw [classify] at isErased
    split at isErased
    · assumption
    · split at isErased
      · split at isErased <;> contradiction
      · contradiction
  · rintro rfl
    rfl

/-- A segment is outside any transaction exactly if its ledger is the committed one. -/
theorem isInTransaction_classify {ledger : Ledger} :
    ledger.classify.isInTransaction = !decide (ledger = committed) := by
  by_cases isCommitted : ledger = committed
  · rw [isCommitted]
    rfl
  · have other : ledger.classify ≠ .committed := mt classify_eq_committed_iff.1 isCommitted
    simp [LedgerState.isInTransaction, isCommitted, other]

end Ledger

/-- Opening programs the ledger of a segment that is committed or erased, and leaves any
other segment as it is. -/
theorem Ledger.apply_enter (ledger : Ledger) :
    (ledger.classify.apply .enter = .program Ledger.opened ∧
        (ledger = Ledger.committed ∨ ledger = Ledger.erased)) ∨
      (ledger.classify.apply .enter = .noChange ∧ ledger ≠ Ledger.committed) := by
  cases state : ledger.classify with
  | erased => exact .inl ⟨rfl, .inr (classify_eq_erased_iff.1 state)⟩
  | committed => exact .inl ⟨rfl, .inl (classify_eq_committed_iff.1 state)⟩
  | transactionOpen =>
      refine .inr ⟨rfl, ?_⟩
      rintro rfl
      contradiction
  | corrupt =>
      refine .inr ⟨rfl, ?_⟩
      rintro rfl
      contradiction

/-- A range whose first eight bytes are those of a committed ledger. -/
def Committed (range : Bytes) : Prop := range.take Ledger.size = Ledger.committed.encode

instance (range : Bytes) : Decidable (Committed range) :=
  inferInstanceAs (Decidable (range.take Ledger.size = Ledger.committed.encode))

/-- A range whose ledger is erased. -/
def Unwritten (range : Bytes) : Prop := range.take Ledger.size = Ledger.erased.encode

/-- The first bytes of an open ledger clear no bit of a committed one, as long as they are
bytes of the marker. -/
theorem Ledger.masks_opened_iff : ∀ cut < Ledger.size,
    (List.zipWith (· &&& ·) (Ledger.committed.encode.take cut) (Ledger.opened.encode.take cut) =
      Ledger.committed.encode.take cut ↔ cut ≤ 4) := by decide

/-- The place of the byte of a ledger that is programmed last. -/
def Ledger.lastIndex : Nat := Ledger.size - 1

theorem Committed.last {range : Bytes} (isCommitted : Committed range) :
    range[Ledger.lastIndex]? = some 0x5a := by
  have read := congrArg (·[Ledger.lastIndex]?) isCommitted
  simp only [List.getElem?_take] at read
  exact read

theorem Unwritten.not_committed {range : Bytes} (unwritten : Unwritten range) :
    ¬ Committed range := by
  intro isCommitted
  rw [Committed, unwritten] at isCommitted
  exact absurd isCommitted (by decide)

/-- No range of a blank chip is committed. -/
theorem not_committed_of_blank {geometry : Flash.Geometry} {start length : Nat} :
    ¬ Committed (geometry.blankCells.slice start length) := by
  intro isCommitted
  have last := isCommitted.last
  rw [Flash.Cells.getElem?_slice] at last
  split at last
  · rw [Flash.Geometry.blankCells, Flash.Cells.blank, Array.getElem?_replicate] at last
    split at last
    · exact absurd (Option.some.inj last) (by decide)
    · contradiction
  · contradiction

theorem Unwritten.last {range : Bytes} (unwritten : Unwritten range) :
    range[Ledger.lastIndex]? = some Flash.Cells.erasedByte := by
  have read := congrArg (·[Ledger.lastIndex]?) unwritten
  simp only [List.getElem?_take] at read
  exact read

end NorStore
