/-
# When nothing fails

What the accesses that make up a store come to on a device on which nothing fails. Each of
them ends in a value, and what it does to the cells is a function of the cells: reading does
nothing, an event of the ledger programs the next ledger if it asks for one, and new content
replaces whatever was in its blocks.
-/

import NorStore.Proofs.Driver.Content
import NorStore.Proofs.Flash.Locality

namespace NorStore

open NorStore.Flash (BlockDevice Cells ChipView Geometry NorDevice)
open NorStore.Flash.ChipView (cells shape)

/-! ## What happens to the cells -/

/-- The cells after a step of the ledger that starts at a place. -/
def Flash.Cells.stepped (cells : Cells) (base : Nat) : LedgerStep → Cells
  | .program next => cells.program base next.encode
  | .noChange => cells
  | .illegal => cells

/-- What an event asks of the ledger that starts at a place. -/
def Flash.Cells.ledgerStep (cells : Cells) (base : Nat) (event : LedgerEvent) : LedgerStep :=
  (Ledger.decode (cells.slice base Ledger.size)).classify.apply event

/-- The cells after the transaction at a place was opened. -/
def Flash.Cells.entered (base : Nat) (cells : Cells) : Cells :=
  cells.stepped base (cells.ledgerStep base .enter)

/-- The cells after some bytes were written to a place whose blocks were erased for them. -/
def Flash.Cells.imprinted (base length : Nat) (image : Bytes) (cells : Cells) : Cells :=
  (cells.erase base length).program base image

theorem Flash.Cells.size_entered (base : Nat) (cells : Cells) :
    (cells.entered base).size = cells.size := by
  rw [entered]
  cases cells.ledgerStep base .enter with
  | program next => exact size_program ..
  | noChange => rfl
  | illegal => rfl

/-- Every ledger that a step asks for has the same size, and no step reaches further. -/
theorem Flash.Cells.Local.entered (base : Nat) : Local base Ledger.size (Cells.entered base) where
  outside cells := by
    rw [Cells.entered]
    cases cells.ledgerStep base .enter with
    | program next => exact agreeOutside_program cells base next.encode
    | noChange => exact .refl base Ledger.size cells
    | illegal => exact .refl base Ledger.size cells
  inside one two agree := by
    have same : two.ledgerStep base .enter = one.ledgerStep base .enter := by
      rw [ledgerStep, agree.slice_eq (Nat.le_refl _) (Nat.le_refl _), ledgerStep]
    rw [Cells.entered, Cells.entered, same]
    cases one.ledgerStep base .enter with
    | program next => exact (Local.program base next.encode).inside one two agree
    | noChange => exact agree
    | illegal => exact agree

theorem Flash.Cells.Local.imprinted {base length : Nat} {image : Bytes}
    (fits : image.length ≤ length) : Local base length (Cells.imprinted base length image) :=
  (Local.erase base length).comp ((Local.program base image).mono (Nat.le_refl _) (by omega))

namespace SegmentDriver

variable {δ : Type} [BlockDevice δ] [NorDevice δ] {driver middle reached : SegmentDriver δ}
  {segment : Segment} {entry : MapEntry} {ε α : Type} {header : Header} {payload : Bytes}

/-- The segment has its range, and nothing fails. -/
structure Working (driver : SegmentDriver δ) (segment : Segment) (entry : MapEntry) : Prop where
  sound : driver.Sound
  mapped : driver.Mapped segment entry
  healthy : ChipView.Healthy driver.device

/-- The access gives a result, and leaves these cells. -/
def Does (access : Action (SegmentDriver δ) ε α) (driver : SegmentDriver δ) (result : α)
    (after : Cells) : Prop :=
  ∃ reached, access driver = (.value result, reached) ∧ Follows driver reached ∧
    cells reached.device = after

theorem Working.follows (working : driver.Working segment entry)
    (follows : Follows driver reached) : reached.Working segment entry :=
  ⟨follows.sound working.sound, follows.mapped working.mapped,
    follows.keeps.healthy working.healthy⟩

theorem Working.steady (working : driver.Working segment entry) :
    ChipView.Steady driver.device := NorDevice.steady_of_healthy working.healthy

/-- Power is not lost on a device on which nothing fails. -/
theorem Working.not_spent (working : driver.Working segment entry)
    (follows : Follows driver reached) :
    ¬ (ChipView.Steady driver.device → ChipView.Lost reached.device) :=
  fun spent => NorDevice.not_lost_of_healthy (working.follows follows).healthy
    (spent working.steady)

/-- An access that is judged to do something does it, if its errors are ruled out. -/
theorem Does.of_ends {access : Action (SegmentDriver δ) ε α} {after : Cells} {result : α}
    {done : α → SegmentDriver δ → Prop} {failed : ε → SegmentDriver δ → Prop}
    (judged : access.Ends driver done failed) (succeeds : ∀ cause reached, ¬ failed cause reached)
    (told : ∀ found reached, done found reached → found = result ∧ Follows driver reached ∧
      cells reached.device = after) : Does access driver result after := by
  obtain ⟨found, reached, ends, holds⟩ :=
    (judged.mono (fun _ _ => id) succeeds).exists_value
  obtain ⟨rfl, follows, changed⟩ := told found reached holds
  exact ⟨reached, ends, follows, changed⟩

/-! ## The accesses of a store -/

/-- The ledger of a range is in its first bytes. -/
theorem ledgerStep_eq (driver : SegmentDriver δ) (room : Ledger.size ≤ entry.reserved)
    (event : LedgerEvent) :
    (cells driver.device).ledgerStep (driver.base entry) event =
      (Ledger.decode ((driver.contents entry).take Ledger.size)).classify.apply event := by
  rw [Cells.ledgerStep, take_contents driver room]

theorem readLedger_does (working : driver.Working segment entry) :
    Does (readLedger segment) driver
      (Ledger.decode ((driver.contents entry).take Ledger.size)) (cells driver.device) := by
  apply Does.of_ends (readLedger_ends working.sound working.mapped)
  · exact fun cause reached failed => failed.2 working.steady
  · exact fun ledger reached done => ⟨done.2, done.1.toFollows, done.1.cells⟩

/-- Programming at an offset of the range. -/
theorem program_does (working : driver.Working segment entry) {offset : Nat} {data : Bytes}
    (asked : Segment) (inside : offset + data.length ≤ entry.reserved) :
    Does (program asked (entry.start + offset) data) driver ()
      ((cells driver.device).program (driver.base entry + offset) data) := by
  apply Does.of_ends (program_ends asked working.sound working.mapped inside)
  · exact fun cause reached broken => working.not_spent broken.toFollows broken.spent
  · exact fun _ reached done => ⟨rfl, done.1, done.2.2⟩

/-- An event that the ledger allows takes the ledger one step. -/
theorem applyEvent_does (working : driver.Working segment entry) {event : LedgerEvent}
    (legal : (cells driver.device).ledgerStep (driver.base entry) event ≠ .illegal) :
    Does (applyEvent segment event) driver ()
      ((cells driver.device).stepped (driver.base entry)
        ((cells driver.device).ledgerStep (driver.base entry) event)) := by
  have room := working.sound.ledger_le working.mapped
  have step := ledgerStep_eq driver room event
  rw [step] at legal ⊢
  obtain ⟨middle, reads, follows, same⟩ := readLedger_does working
  have asks : applyEvent segment event driver = _ :=
    (Action.bind_of_value (ensureMapped_of_mapped working.mapped) _).trans
      (Action.bind_of_value reads _)
  cases next : (Ledger.decode ((driver.contents entry).take Ledger.size)).classify.apply event with
  | illegal => exact absurd next legal
  | noChange =>
      refine ⟨middle, ?_, follows, same⟩
      rw [asks, next]
      rfl
  | program ledger =>
      have inside : 0 + ledger.encode.length ≤ entry.reserved := by
        rwa [Nat.zero_add, Ledger.length_encode]
      obtain ⟨reached, programs, later, changed⟩ :=
        program_does (working.follows follows) segment inside
      refine ⟨reached, ?_, follows.trans later, ?_⟩
      · rw [asks, next]
        exact programs
      · rw [changed, same, follows.base]
        rfl

/-- A transaction can always be opened. -/
theorem enterTransaction_does (working : driver.Working segment entry) :
    Does (enterTransaction segment) driver ()
      ((cells driver.device).entered (driver.base entry)) := by
  apply applyEvent_does working
  rw [Cells.ledgerStep]
  rcases Ledger.apply_enter (Ledger.decode ((cells driver.device).slice (driver.base entry)
      Ledger.size)) with ⟨programs, -⟩ | ⟨keeps, -⟩
  · rw [programs]
    exact nofun
  · rw [keeps]
    exact nofun

/-- An erased ledger can be committed. -/
theorem exitTransaction_does (working : driver.Working segment entry)
    (unwritten : Unwritten (driver.contents entry)) :
    Does (exitTransaction segment) driver ()
      ((cells driver.device).program (driver.base entry) Ledger.committed.encode) := by
  have room := working.sound.ledger_le working.mapped
  have step : (cells driver.device).ledgerStep (driver.base entry) .exit =
      .program Ledger.committed := by
    rw [ledgerStep_eq driver room, unwritten, Ledger.decode_encode]
    rfl
  have legal : (cells driver.device).ledgerStep (driver.base entry) .exit ≠ .illegal := by
    rw [step]
    exact nofun
  have commits := applyEvent_does working legal
  rw [step] at commits
  exact commits

theorem openForWrite_does (working : driver.Working segment entry) {size : Nat}
    (fits : size ≤ entry.maxDataSize) :
    Does (openForWrite segment size) driver { entry, mode := .write, position := 0 }
      ((cells driver.device).erase (driver.base entry)
        ((shape driver.device).covering (Ledger.size + size))) := by
  apply Does.of_ends (openForWrite_ends working.sound working.mapped fits)
  · exact fun cause reached failed => working.not_spent failed.1.toFollows failed.2
  · exact fun handle reached done => ⟨done.1, done.2.1, done.2.2.2⟩

theorem write_does (working : driver.Working segment entry) {offset : Nat} {data : Bytes}
    (inside : offset + data.length ≤ entry.maxDataSize) :
    Does (write { entry, mode := .write, position := offset } offset data) driver
      { entry, mode := .write, position := offset + data.length }
      ((cells driver.device).program (driver.base entry + (Ledger.size + offset)) data) := by
  apply Does.of_ends (write_ends working.sound working.mapped inside)
  · exact fun cause reached broken => working.not_spent broken.toFollows broken.spent
  · exact fun next reached done => ⟨done.1, done.2.1, done.2.2.2⟩

theorem openForRead_does (working : driver.Working segment entry) :
    Does (openForRead segment) driver { entry, mode := .read, position := 0 }
      (cells driver.device) := by
  apply Does.of_ends (openForRead_ends working.mapped)
  · exact fun cause reached failed => failed.2 working.steady
  · exact fun handle reached done => ⟨done.2, done.1.toFollows, done.1.cells⟩

theorem read_does (working : driver.Working segment entry) {offset length : Nat}
    (inside : offset + length ≤ entry.maxDataSize) :
    Does (read { entry, mode := .read, position := offset } offset length) driver
      (((driver.contents entry).drop (Ledger.size + offset)).take length,
        { entry, mode := .read, position := offset + length }) (cells driver.device) := by
  apply Does.of_ends (read_ends working.sound working.mapped inside)
  · exact fun cause reached failed => failed.2 working.steady
  · exact fun result reached done => ⟨done.2, done.1.toFollows, done.1.cells⟩

/-- New content is programmed behind the ledger of freshly erased blocks. -/
theorem writeContent_does (working : driver.Working segment entry)
    (fits : Header.size + payload.length ≤ entry.maxDataSize) :
    Does (writeContent segment header payload) driver ()
      (((cells driver.device).erase (driver.base entry) ((shape driver.device).covering
        (Ledger.size + (Header.size + payload.length)))).program (driver.base entry + Ledger.size)
          (header.encode ++ payload)) := by
  have headed : 0 + header.encode.length ≤ entry.maxDataSize := by
    rw [Header.length_encode]
    omega
  obtain ⟨opened, opens, first, erased⟩ := openForWrite_does working fits
  obtain ⟨written, writes, second, begun⟩ := write_does (working.follows first) headed
  rw [Header.length_encode, Nat.zero_add] at writes
  obtain ⟨reached, finishes, third, filled⟩ :=
    write_does ((working.follows first).follows second) fits
  refine ⟨reached, ?_, (first.trans second).trans third, ?_⟩
  · rw [writeContent, Action.bind_of_value opens, Action.bind_of_value writes,
      Action.bind_of_value finishes]
    rfl
  · rw [filled, begun, erased, (first.trans second).base, first.base, Cells.program_append,
      Header.length_encode, Nat.add_zero, Nat.add_assoc]

/-- A whole store replaces what was in its blocks, whatever that was. -/
theorem commitContent_does (working : driver.Working segment entry)
    (fits : Header.size + payload.length ≤ entry.maxDataSize) :
    Does (commitContent segment header payload) driver ()
      ((cells driver.device).imprinted (driver.base entry) ((shape driver.device).covering
        (Ledger.size + (Header.size + payload.length)))
          (Ledger.committed.encode ++ (header.encode ++ payload))) := by
  have covered := Geometry.le_covering (NorDevice.valid driver.device).blockSize_pos
    (Ledger.size + (Header.size + payload.length))
  obtain ⟨entered, enters, first, opened⟩ := enterTransaction_does working
  have begun := working.follows first
  obtain ⟨written, writes, second, filled⟩ := writeContent_does begun fits
  have unwritten : Unwritten (written.contents entry) := by
    have ended : (writeContent segment header payload).Ends entered _ _ :=
      writeContent_ends begun.sound begun.mapped fits
    rw [Action.Ends, writes] at ended
    exact ended.2.2.1
  obtain ⟨reached, exits, third, closed⟩ :=
    exitTransaction_does (begun.follows second) unwritten
  refine ⟨reached, ?_, (first.trans second).trans third, ?_⟩
  · rw [commitContent, Action.bind_of_value enters, Action.bind_of_value writes, exits]
  · have forgotten := Cells.erase_eq_of_agreeOutside
      ((Cells.Local.entered (driver.base entry)).outside (cells driver.device))
      (Cells.size_entered _ _) (Nat.le_refl _)
      (show driver.base entry + Ledger.size ≤ driver.base entry + (shape driver.device).covering
        (Ledger.size + (Header.size + payload.length)) by omega)
    rw [closed, filled, opened, (first.trans second).base, first.base, first.keeps.shape, forgotten,
      Cells.program_comm, Cells.imprinted, Cells.program_append _ _ Ledger.committed.encode,
      Ledger.length_encode]

end SegmentDriver

end NorStore
