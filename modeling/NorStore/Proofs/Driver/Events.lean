/-
# Events on any ledger

Cells decay, and power is cut while a ledger is programmed, so an event may find any eight bytes
in the place of a ledger. What it comes to is told by these bytes alone. A transaction can be
opened whatever they are, and committed if they are those of an erased ledger or of a committed
one. Every ledger that is programmed clears bits and sets none, so it is the one that is found
afterwards, whether or not the end of a block cuts it in two. An event that was taken is taken
again, and does nothing then.
-/

import NorStore.Flash.Memory
import NorStore.Proofs.Driver.Effect
import NorStore.Proofs.Record.Clearing

namespace NorStore

open NorStore.Flash (BlockDevice Cells ChipView Geometry MemoryFlash NorDevice)
open NorStore.Flash.ChipView (cells)

/-! ## Ledgers and events -/

/-- An event that asks for nothing has happened already. -/
theorem LedgerState.isInTransaction_of_noChange {state : LedgerState} {event : LedgerEvent}
    (settled : state.apply event = .noChange) :
    state.isInTransaction = decide (event = .enter) := by
  cases state <;> cases event <;> first | rfl | contradiction

namespace Ledger

variable {ledger next : Ledger} {event : LedgerEvent}

/-- A ledger that is programmed sets no bit. -/
theorem canProgram_of_apply (asks : ledger.classify.apply event = .program next) :
    ledger.canProgram next = true := by
  cases state : ledger.classify with
  | erased =>
      obtain rfl := classify_eq_erased_iff.1 state
      cases event <;> cases asks <;> rfl
  | committed =>
      obtain rfl := classify_eq_committed_iff.1 state
      cases event <;> cases asks
      rfl
  | transactionOpen | corrupt =>
      rw [state] at asks
      cases event <;> cases asks

/-- The ledger after a step. -/
def stepped (ledger : Ledger) : LedgerStep → Ledger
  | .program next => next
  | .noChange => ledger
  | .illegal => ledger

/-- A transaction can be opened from any ledger. -/
theorem apply_enter_ne_illegal (ledger : Ledger) : ledger.classify.apply .enter ≠ .illegal := by
  cases ledger.classify <;> exact nofun

/-- And it can be committed from two of them. -/
theorem apply_exit_eq_illegal_iff :
    ledger.classify.apply .exit = .illegal ↔ ¬ (ledger = erased ∨ ledger = committed) := by
  rw [← classify_eq_erased_iff, ← classify_eq_committed_iff]
  cases ledger.classify <;> simp [LedgerState.apply]

/-- The ledger that an event asks for is one that the same event leaves alone. -/
theorem apply_of_program (asks : ledger.classify.apply event = .program next) :
    next.classify.apply event = .noChange := by
  cases state : ledger.classify <;> cases event <;> rw [state] at asks <;> cases asks <;> rfl

/-- Once an event was taken it asks for nothing more, and the ledger says so. -/
theorem apply_stepped (legal : ledger.classify.apply event ≠ .illegal) :
    (ledger.stepped (ledger.classify.apply event)).classify.apply event = .noChange ∧
      (ledger.stepped (ledger.classify.apply event)).classify.isInTransaction =
        decide (event = .enter) := by
  have settled : (ledger.stepped (ledger.classify.apply event)).classify.apply event =
      .noChange := by
    cases step : ledger.classify.apply event with
    | program next => exact apply_of_program step
    | noChange => exact step
    | illegal => exact absurd step legal
  exact ⟨settled, LedgerState.isInTransaction_of_noChange settled⟩

end Ledger

/-- A step does not reach past the ledger. -/
theorem Flash.Cells.agreeOutside_stepped (cells : Cells) (base : Nat) (step : LedgerStep) :
    AgreeOutside base Ledger.size cells (cells.stepped base step) := by
  cases step with
  | program next => exact agreeOutside_program cells base next.encode
  | noChange => exact .refl base Ledger.size cells
  | illegal => exact .refl base Ledger.size cells

namespace SegmentDriver

variable {δ : Type} [BlockDevice δ] [NorDevice δ] {driver reached : SegmentDriver δ}
  {segment : Segment} {entry : MapEntry}

/-! ## Events on a segment -/

/-- The ledger that the first bytes of a range stand for, whatever they are. -/
def ledgerAt (driver : SegmentDriver δ) (entry : MapEntry) : Ledger :=
  Ledger.decode ((cells driver.device).slice (driver.base entry) Ledger.size)

/-- The ledger that is read is the one that the first bytes stand for. -/
theorem readLedger_at (working : driver.Working segment entry) :
    Does (readLedger segment) driver (driver.ledgerAt entry) (cells driver.device) := by
  have reads := readLedger_does working
  rwa [take_contents driver (working.sound.ledger_le working.mapped)] at reads

theorem isInTransaction_at (working : driver.Working segment entry) :
    (isInTransaction segment driver : Outcome StoreError Bool × SegmentDriver δ).1 =
      .value (driver.ledgerAt entry).classify.isInTransaction := by
  obtain ⟨reached, reads, -, -⟩ := readLedger_at working
  have attempted : (readLedger segment).attempt driver =
      ((.value (.ok (driver.ledgerAt entry)), reached) :
        Outcome StoreError (Except StoreError Ledger) × SegmentDriver δ) := by
    rw [Action.attempt, reads]
  rw [isInTransaction, Action.bind_of_value attempted]
  rfl

/-- An event that the ledger does not allow leaves every cell. -/
theorem applyEvent_of_illegal (working : driver.Working segment entry) {event : LedgerEvent}
    (illegal : (driver.ledgerAt entry).classify.apply event = .illegal) :
    ∃ reached, applyEvent segment event driver =
        (.error (.invalidTransition segment (driver.ledgerAt entry).classify event), reached) ∧
      cells reached.device = cells driver.device := by
  obtain ⟨reached, reads, -, same⟩ := readLedger_at working
  refine ⟨reached, ?_, same⟩
  rw [applyEvent, Action.bind_of_value (ensureMapped_of_mapped working.mapped),
    Action.bind_of_value reads, illegal]
  rfl

/-- Programming clears bits only, so the ledger that was asked for is the one that is there. -/
theorem ledgerAt_of_stepped (working : driver.Working segment entry) {event : LedgerEvent}
    (follows : Follows driver reached)
    (stepped : cells reached.device = (cells driver.device).stepped (driver.base entry)
      ((driver.ledgerAt entry).classify.apply event)) :
    reached.ledgerAt entry =
      (driver.ledgerAt entry).stepped ((driver.ledgerAt entry).classify.apply event) := by
  rw [ledgerAt, follows.base, stepped]
  cases step : (driver.ledgerAt entry).classify.apply event with
  | noChange => rfl
  | illegal => rfl
  | program next =>
      have room := working.sound.ledger_le working.mapped
      have whole := working.sound.length_ledger working.mapped
      rw [take_contents driver room] at whole
      have held : (cells driver.device).slice (driver.base entry) Ledger.size =
          (driver.ledgerAt entry).encode := (Ledger.encode_decode whole).symm
      have clears := Ledger.canProgram_of_apply step
      rw [Cells.stepped, Ledger.slice_program_encode held, Ledger.decode_encode, Ledger.stepped]
      exact Ledger.canProgram_iff_shared.1 clears

/-- What an event comes to on a segment that has its range. -/
theorem applyEvent_at (working : driver.Working segment entry) {event : LedgerEvent}
    (legal : (driver.ledgerAt entry).classify.apply event ≠ .illegal) :
    ∃ reached, applyEvent segment event driver = (.value (), reached) ∧
      reached.Working segment entry ∧
      cells reached.device = (cells driver.device).stepped (driver.base entry)
        ((driver.ledgerAt entry).classify.apply event) ∧
      reached.ledgerAt entry =
        (driver.ledgerAt entry).stepped ((driver.ledgerAt entry).classify.apply event) := by
  obtain ⟨reached, applies, follows, stepped⟩ := applyEvent_does working legal
  exact ⟨reached, applies, working.follows follows, stepped,
    ledgerAt_of_stepped working follows stepped⟩

/-- An event that was taken is taken again, and does nothing then. -/
theorem applyEvent_again (working : driver.Working segment entry) {event : LedgerEvent}
    (legal : (driver.ledgerAt entry).classify.apply event ≠ .illegal) :
    ∃ reached again, applyEvent segment event driver = (.value (), reached) ∧
      (isInTransaction segment reached : Outcome StoreError Bool × SegmentDriver δ).1 =
        .value (decide (event = .enter)) ∧
      applyEvent segment event reached = (.value (), again) ∧
      cells again.device = cells reached.device := by
  obtain ⟨reached, applies, works, -, after⟩ := applyEvent_at working legal
  have ⟨settled, told⟩ := Ledger.apply_stepped legal
  rw [← after] at settled told
  have taken : (reached.ledgerAt entry).classify.apply event ≠ .illegal := by
    rw [settled]
    exact nofun
  obtain ⟨again, repeats, -, stays, -⟩ := applyEvent_at works taken
  rw [settled] at stays
  exact ⟨reached, again, applies, by rw [isInTransaction_at works, told], repeats, stays⟩

/-- What an event leaves of the cells, whether or not it was taken. -/
theorem cells_applyEvent (working : driver.Working segment entry) (event : LedgerEvent) :
    cells (applyEvent segment event driver).2.device =
      (cells driver.device).stepped (driver.base entry)
        ((driver.ledgerAt entry).classify.apply event) := by
  by_cases illegal : (driver.ledgerAt entry).classify.apply event = .illegal
  · obtain ⟨reached, refuses, same⟩ := applyEvent_of_illegal working illegal
    rw [refuses, same, illegal]
    rfl
  · obtain ⟨reached, applies, -, stepped, -⟩ := applyEvent_at working illegal
    rw [applies, stepped]

/-- An event is taken if and only if the ledger allows it. -/
theorem applyEvent_eq_value_iff (working : driver.Working segment entry) {event : LedgerEvent} :
    (applyEvent segment event driver).1 = .value () ↔
      (driver.ledgerAt entry).classify.apply event ≠ .illegal := by
  constructor
  · intro succeeds illegal
    obtain ⟨reached, refuses, -⟩ := applyEvent_of_illegal working illegal
    rw [refuses] at succeeds
    contradiction
  · intro legal
    obtain ⟨reached, applies, -⟩ := applyEvent_at working legal
    rw [applies]

/-- The first eight bytes are those of a ledger exactly if they stand for it. -/
theorem slice_eq_encode_iff (working : driver.Working segment entry) (ledger : Ledger) :
    (cells driver.device).slice (driver.base entry) 8 = ledger.encode ↔
      driver.ledgerAt entry = ledger := by
  have whole := working.sound.length_ledger working.mapped
  rw [take_contents driver (working.sound.ledger_le working.mapped)] at whole
  exact (Ledger.decode_eq_iff whole).symm

/-- Whatever eight bytes stand in the place of a ledger, a transaction can be opened. Exactly
those of an erased and of a committed ledger can be committed. A ledger that is programmed is
found as it was asked for, an event that was taken is taken again without effect, and no other
byte changes. -/
theorem event_on_any_ledger (sound : driver.Sound) (healthy : ChipView.Healthy driver.device)
    (placed : (ensureMapped segment driver).1 = .value entry) :
    let raw := (cells driver.device).slice (driver.base entry) 8
    let state := (Ledger.decode raw).classify
    (enterTransaction segment driver).1 = .value () ∧
    ((exitTransaction segment driver).1 = .value () ↔
      raw = Ledger.erased.encode ∨ raw = Ledger.committed.encode) ∧
    (¬ (raw = Ledger.erased.encode ∨ raw = Ledger.committed.encode) →
      ∃ reached, exitTransaction segment driver =
          (.error (.invalidTransition segment state .exit), reached) ∧
        cells reached.device = cells driver.device) ∧
    ∀ event : LedgerEvent,
      let reached := (applyEvent segment event driver).2
      cells reached.device =
        (cells driver.device).stepped (driver.base entry) (state.apply event) ∧
      Cells.AgreeOutside (driver.base entry) 8 (cells driver.device) (cells reached.device) ∧
      (∀ next, state.apply event = .program next →
        (Ledger.decode raw).canProgram next = true ∧
          (readLedger segment reached).1 = .value next) ∧
      ((applyEvent segment event driver).1 = .value () →
        (isInTransaction segment reached : Outcome StoreError Bool × SegmentDriver δ).1 =
          .value (decide (event = .enter)) ∧
        ∃ again, applyEvent segment event reached = (.value (), again) ∧
          cells again.device = cells reached.device) := by
  -- The range may have to be planned first. The device and its cells are the same before and after.
  obtain ⟨found, asked⟩ : ∃ found, ensureMapped segment driver = (.value entry, found) :=
    ⟨_, Prod.ext placed rfl⟩
  have device := device_of_ensureMapped asked
  have begins (event : LedgerEvent) :
      applyEvent segment event driver = applyEvent segment event found := ensureMapped_bind asked _
  have working : found.Working segment entry :=
    ⟨sound.of_ensureMapped asked, mapped_of_ensureMapped asked, device ▸ healthy⟩
  have base : driver.base entry = found.base entry := by rw [SegmentDriver.base, ← device]; rfl
  intro raw state
  have read : raw = (cells found.device).slice (found.base entry) 8 := by rw [device, ← base]
  have stands : Ledger.decode raw = found.ledgerAt entry := by rw [read]; rfl
  have classified : (found.ledgerAt entry).classify = state := by rw [← stands]
  have taken (event : LedgerEvent) :
      (applyEvent segment event driver).1 = .value () ↔ state.apply event ≠ .illegal := by
    rw [begins, applyEvent_eq_value_iff working, classified]
  have marked : raw = Ledger.erased.encode ∨ raw = Ledger.committed.encode ↔
      state.apply .exit ≠ .illegal := by
    rw [read, slice_eq_encode_iff working, slice_eq_encode_iff working, ne_eq, ← classified,
      Ledger.apply_exit_eq_illegal_iff, not_not]
  refine ⟨(taken .enter).2 (Ledger.apply_enter_ne_illegal _), (taken .exit).trans marked.symm,
    fun unmarked => ?_, fun event => ⟨?_, ?_, fun next asks => ⟨?_, ?_⟩, fun succeeds => ?_⟩⟩
  · have illegal := not_not.1 (mt marked.2 unmarked)
    rw [← classified] at illegal
    obtain ⟨reached, refuses, same⟩ := applyEvent_of_illegal working illegal
    rw [classified] at refuses
    exact ⟨reached, (begins .exit).trans refuses, same.trans (congrArg cells device)⟩
  · rw [begins, cells_applyEvent working, classified, device, base]
  · rw [begins, cells_applyEvent working, device, base]
    exact Cells.agreeOutside_stepped _ _ _
  · exact Ledger.canProgram_of_apply asks
  · have legal : (found.ledgerAt entry).classify.apply event ≠ .illegal := by
      rw [classified, asks]
      intro same
      contradiction
    obtain ⟨reached, applies, works, -, after⟩ := applyEvent_at working legal
    obtain ⟨later, reads, -, -⟩ := readLedger_at works
    rw [begins, applies, reads, after, classified, asks]
    rfl
  · have legal : (found.ledgerAt entry).classify.apply event ≠ .illegal := by
      rw [classified]
      exact (taken event).1 succeeds
    obtain ⟨reached, again, applies, told, repeats, stays⟩ := applyEvent_again working legal
    rw [begins, applies]
    exact ⟨told, again, repeats, stays⟩

/-- Blocks of three bytes, the first of which starts at offset 3. -/
def thirdsShape : Geometry := ⟨3, 24, 8, 3, 1⟩

/-- A blank chip of such blocks. -/
def thirdsChip : MemoryFlash where
  geometry := thirdsShape
  valid := (thirdsShape.validate_eq_ok_iff).1 rfl
  cells := thirdsShape.blankCells
  size_cells := thirdsShape.size_blankCells
  eraseCounts := Array.replicate 8 0
  size_eraseCounts := Array.size_replicate

/-- A driver with a segment whose ledger lies in three blocks. -/
def thirdsDriver : SegmentDriver MemoryFlash :=
  ({ device := thirdsChip } : SegmentDriver MemoryFlash).reserve .security 0

theorem event_on_any_ledger_sample :
    let reached := (applyEvent .security .exit thirdsDriver).2
    (exitTransaction .security thirdsDriver).1 = .value () ∧
      (readLedger .security reached).1 = .value Ledger.committed ∧
      (isInTransaction .security reached : Outcome StoreError Bool × _).1 = .value false ∧
      ∃ again, applyEvent .security .exit reached = (.value (), again) ∧
        cells again.device = cells reached.device := by
  have sound : thirdsDriver.Sound := ⟨trivial, fun _ known => nomatch known⟩
  have placed : (ensureMapped .security thirdsDriver).1 = .value ⟨.security, 3, 24, 16⟩ := by rfl
  obtain ⟨-, commits, -, events⟩ := event_on_any_ledger sound trivial placed
  have blank : (cells thirdsDriver.device).slice
      (thirdsDriver.base ⟨.security, 3, 24, 16⟩) 8 = Ledger.erased.encode := by decide
  have succeeds := commits.2 (.inl blank)
  obtain ⟨-, -, programs, taken⟩ := events .exit
  have asks : (Ledger.decode ((cells thirdsDriver.device).slice
      (thirdsDriver.base ⟨.security, 3, 24, 16⟩) 8)).classify.apply .exit =
        .program Ledger.committed := by rw [blank]; rfl
  exact ⟨succeeds, (programs _ asks).2, taken succeeds⟩

end SegmentDriver

end NorStore
