/-
# What it costs to store a segment

Over a device whose power is limited, every access of the driver costs what it programs:
nothing for reading or erasing, and eight bytes for each step of a ledger. Storing a payload
costs its length and thirty-two bytes more, whatever was in the segment before and wherever
the blocks end, and it succeeds exactly if there is power for that.
-/

import NorStore.Proofs.Driver.Content
import NorStore.Proofs.Flash.Power

namespace NorStore

open NorStore.Flash (BlockDevice Cells ChipView Faulty FlashError NorDevice Stays)
open NorStore.Flash.ChipView (cells shape)
open NorStore.Flash.Faulty (Costs CutOff Spends)

variable {δ : Type} [BlockDevice δ] [NorDevice δ]

/-! ## Sessions -/

section Device

variable {α : Type} {whole : Faulty δ} {offset length : Nat} {data : Bytes}

/-- A session on a device that is ready ends as its access does. -/
theorem Flash.Faulty.session_ends {access : Action (Faulty δ) FlashError α}
    {done : α → Faulty δ → Prop} {failed : FlashError → Faulty δ → Prop} (ready : whole.Ready)
    (judged : ∀ opened, Stays whole opened → ChipView.IsOpen opened → Spends 0 whole opened →
      access.Ends opened done failed)
    (closes : ∀ result reached, done result reached → done result (BlockDevice.closeDevice reached))
    (closesFailed : ∀ cause reached, failed cause reached →
      failed cause (BlockDevice.closeDevice reached)) :
    (BlockDevice.session access).Ends whole done failed := by
  rcases ((NorDevice.openDevice_ends whole).both (Faulty.openDevice_costs ready)).cases with
    ⟨_, opened, opens, ⟨stays, isOpen⟩, spends⟩ | ⟨_, _, -, -, short⟩
  · rcases (judged opened stays isOpen spends).cases with
      ⟨result, reached, ends, holds⟩ | ⟨cause, reached, ends, holds⟩
    · exact .of_value (by rw [BlockDevice.session, opens]; simp only [ends])
        (closes result reached holds)
    · exact .of_error (by rw [BlockDevice.session, opens]; simp only [ends])
        (closesFailed cause reached holds)
  · exact absurd whole.faults.lastsFor_zero (ne_true_of_eq_false short)

theorem Flash.Faulty.session_costs {bytes : Nat} {access : Action (Faulty δ) FlashError α}
    (ready : whole.Ready)
    (judged : ∀ opened, Stays whole opened → ChipView.IsOpen opened → opened.Ready →
      Costs id bytes access opened) :
    Costs id bytes (BlockDevice.session access) whole := by
  refine Faulty.session_ends ready (fun opened stays isOpen spends => ?_)
    (fun _ _ => Spends.close) fun _ _ => id
  refine (judged opened stays isOpen spends.ready).mono ?_ ?_
  · intro _ reached further
    have total := spends.trans further
    rwa [Nat.zero_add] at total
  · intro _ _ short
    have total := spends.not_lasts short
    rwa [Nat.zero_add] at total

theorem session_read_costs (ready : whole.Ready) (encloses : (shape whole).Encloses offset length) :
    Costs id 0 (BlockDevice.session (BlockDevice.read offset length)) whole :=
  Faulty.session_costs ready fun _ stays isOpen readily =>
    Faulty.read_costs readily isOpen (stays.shape ▸ encloses)

theorem session_erase_costs (ready : whole.Ready) (encloses : (shape whole).Encloses offset length)
    (aligned : offset % (shape whole).blockSize = 0) (blocks : length % (shape whole).blockSize = 0) :
    Costs id 0 (BlockDevice.session (BlockDevice.erase offset length)) whole :=
  Faulty.session_costs ready fun _ stays isOpen readily =>
    Faulty.erase_costs readily isOpen (stays.shape ▸ encloses) (stays.shape ▸ aligned)
      (stays.shape ▸ blocks)

end Device

namespace SegmentDriver

/-! ## Programming -/

section Runs

variable {whole : Faulty δ} {runs : List (Nat × Bytes)} {offset : Nat} {data : Bytes}

/-- Runs cost their bytes, and when power is cut the bytes before the cut are programmed,
whichever run it falls in. -/
theorem writeRuns_costs (ready : whole.Ready) (isOpen : ChipView.IsOpen whole)
    (chained : Chained offset runs)
    (within : ∀ run ∈ runs,
      run.1 % (shape whole).blockSize + run.2.length ≤ (shape whole).blockSize)
    (encloses : (shape whole).Encloses offset (runs.flatMap Prod.snd).length) :
    (writeRuns runs).Ends whole
      (fun _ reached => Spends (runs.flatMap Prod.snd).length whole reached)
      fun _ reached => CutOff offset (runs.flatMap Prod.snd) whole reached := by
  induction runs generalizing offset whole with
  | nil => exact .pure (.of_same rfl rfl ready)
  | cons head runs ih =>
      obtain ⟨start, run⟩ := head
      obtain ⟨rfl, nonempty, chained⟩ := chained
      obtain ⟨ends, first, last⟩ := encloses
      rw [List.flatMap_cons] at last ⊢
      rw [List.length_append] at last
      dsimp only at last ⊢
      have positive : 0 < run.length := List.length_pos_iff.2 nonempty
      have part : (shape whole).Encloses start run.length := ⟨ends, first, by omega⟩
      have block := within _ List.mem_cons_self
      refine .chain ((NorDevice.write_ends isOpen nonempty part block).both
        (Faulty.write_costs ready isOpen part block nonempty)) ?_ ?_
      · intro cause reached ended
        exact ended.2.before _
      · intro _ middle ended
        obtain ⟨⟨kept, opened, -, programmed⟩, spends⟩ := ended
        apply Action.Ends.lift_bind (Word.add_of_lt (by omega))
        refine (ih spends.ready opened chained
          (kept.shape ▸ fun run member => within run (.tail _ member))
          (kept.shape ▸ ⟨ends, by omega, by omega⟩)).mono ?_ ?_
        · intro _ reached further
          rw [List.length_append]
          exact spends.trans further
        · intro cause reached cut
          exact cut.behind spends kept.shape programmed first

/-- Some data costs its length, and if power is cut, its first bytes are programmed. -/
theorem session_writeRuns_costs (ready : whole.Ready)
    (encloses : (shape whole).Encloses offset data.length) :
    (BlockDevice.session (writeRuns (blockRuns (shape whole).blockSize offset data))).Ends whole
      (fun _ reached => Spends data.length whole reached)
      fun _ reached => CutOff offset data whole reached := by
  have bytes := blockRuns_bytes (shape whole).blockSize offset data
  have chained := chained_blockRuns (shape whole).blockSize offset data
  have within : ∀ run ∈ blockRuns (shape whole).blockSize offset data,
      run.1 % (shape whole).blockSize + run.2.length ≤ (shape whole).blockSize :=
    fun _ => blockRuns_within (NorDevice.valid whole).blockSize_pos offset data
  refine Faulty.session_ends ready (fun opened stays isOpen spends => ?_) (fun _ _ => Spends.close) ?_
  · refine (writeRuns_costs spends.ready isOpen chained ?_ ?_).mono ?_ ?_
    · rwa [stays.shape]
    · rwa [stays.shape, bytes]
    · intro _ reached further
      have total := spends.trans further
      rwa [bytes, Nat.zero_add] at total
    · intro cause reached cut
      rw [bytes] at cut
      exact cut.later spends stays
  · exact fun cause reached => CutOff.close

end Runs

section Range

variable {driver reached : SegmentDriver (Faulty δ)} {segment : Segment} {entry : MapEntry}
  {offset length : Nat} {data : Bytes}

/-- What an access to the device costs. -/
theorem onDevice_costs {α : Type} {bytes : Nat} {access : Action (Faulty δ) FlashError α}
    (costs : Costs id bytes access driver.device) : Costs device bytes (onDevice access) driver :=
  onDevice_ends costs

/-- Programming costs the length of the data. -/
theorem program_costs (asked : Segment) (ready : driver.device.Ready) (sound : driver.Sound)
    (mapped : driver.Mapped segment entry) (inside : offset + data.length ≤ entry.reserved) :
    (program asked (entry.start + offset) data).Ends driver
      (fun _ reached => Spends data.length driver.device reached.device)
      fun _ reached => CutOff (entry.start + offset) data driver.device reached.device := by
  apply Action.Ends.of_eq (program_eq asked sound mapped ..)
  exact .mapError (onDevice_ends (session_writeRuns_costs ready (sound.encloses mapped inside)))

theorem readLedger_costs (ready : driver.device.Ready) (sound : driver.Sound)
    (mapped : driver.Mapped segment entry) : Costs device 0 (readLedger segment) driver := by
  have inside : 0 + Ledger.size ≤ entry.reserved := by
    rw [Nat.zero_add]
    exact sound.ledger_le mapped
  have encloses : (shape driver.device).Encloses entry.start Ledger.size :=
    sound.encloses mapped inside
  apply Action.Ends.of_eq (readLedger_eq mapped)
  have reads := onDevice_costs (session_read_costs ready encloses)
  exact .bind (.mapError reads) fun _ _ spends => .pure spends

/-- A step of the ledger costs the eight bytes of a ledger. -/
theorem applyEvent_costs {event : LedgerEvent} {next : Ledger} (ready : driver.device.Ready)
    (sound : driver.Sound) (mapped : driver.Mapped segment entry)
    (programs : (Ledger.decode ((driver.contents entry).take Ledger.size)).classify.apply event =
      .program next) :
    (applyEvent segment event).Ends driver
      (fun _ reached => Spends Ledger.size driver.device reached.device)
      fun _ reached => CutOff entry.start next.encode driver.device reached.device := by
  have inside : 0 + next.encode.length ≤ entry.reserved := by
    rw [Nat.zero_add, Ledger.length_encode]
    exact sound.ledger_le mapped
  apply Action.Ends.value_bind (ensureMapped_of_mapped mapped)
  refine .chain ((readLedger_ends sound mapped).both (readLedger_costs ready sound mapped)) ?_ ?_
  · intro _ _ ended
    exact absurd driver.device.faults.lastsFor_zero (ne_true_of_eq_false ended.2)
  · intro _ middle ended
    obtain ⟨⟨remains, rfl⟩, spends⟩ := ended
    rw [programs]
    refine (program_costs segment spends.ready (remains.toFollows.sound sound)
      (remains.toFollows.mapped mapped) inside).mono ?_ ?_
    · intro _ reached further
      have total := spends.trans further
      rwa [Nat.zero_add] at total
    · intro cause reached cut
      exact cut.later spends ⟨remains.keeps, remains.cells⟩

/-- Opening a transaction over a committed or an erased ledger. -/
theorem enterTransaction_ends_costs (ready : driver.device.Ready) (sound : driver.Sound)
    (mapped : driver.Mapped segment entry)
    (before : Committed (driver.contents entry) ∨ Unwritten (driver.contents entry)) :
    (enterTransaction segment).Ends driver
      (fun _ reached => Spends Ledger.size driver.device reached.device)
      fun _ reached => CutOff entry.start Ledger.opened.encode driver.device reached.device := by
  apply applyEvent_costs ready sound mapped
  rcases before with isCommitted | unwritten
  · rw [isCommitted, Ledger.decode_encode]
    rfl
  · rw [unwritten, Ledger.decode_encode]
    rfl

theorem enterTransaction_costs (ready : driver.device.Ready) (sound : driver.Sound)
    (mapped : driver.Mapped segment entry)
    (before : Committed (driver.contents entry) ∨ Unwritten (driver.contents entry)) :
    Costs device Ledger.size (enterTransaction segment) driver :=
  (enterTransaction_ends_costs ready sound mapped before).mono (fun _ _ => id)
    fun _ _ => CutOff.short

theorem exitTransaction_costs (ready : driver.device.Ready) (sound : driver.Sound)
    (mapped : driver.Mapped segment entry) (unwritten : Unwritten (driver.contents entry)) :
    Costs device Ledger.size (exitTransaction segment) driver := by
  have programs : (Ledger.decode ((driver.contents entry).take Ledger.size)).classify.apply .exit =
      .program Ledger.committed := by
    rw [unwritten, Ledger.decode_encode]
    rfl
  exact (applyEvent_costs ready sound mapped programs).mono (fun _ _ => id) fun _ _ => CutOff.short

theorem openForWrite_costs {size : Nat} (ready : driver.device.Ready) (sound : driver.Sound)
    (mapped : driver.Mapped segment entry) (fits : size ≤ entry.maxDataSize) :
    Costs device 0 (openForWrite segment size) driver := by
  have range := sound.fits mapped
  have room := range.room
  have data := range.maxDataSize
  have inside : 0 + (shape driver.device).covering (Ledger.size + size) ≤ entry.reserved := by
    rw [Nat.zero_add]
    exact Flash.Geometry.covering_le (by omega) range.whole
  have encloses : (shape driver.device).Encloses entry.start
      ((shape driver.device).covering (Ledger.size + size)) := sound.encloses mapped inside
  apply Action.Ends.of_eq (openForWrite_eq sound mapped fits)
  have erases := onDevice_costs (session_erase_costs ready encloses range.aligned
    (Flash.Geometry.covering_mod ..))
  exact .bind (.mapError erases) fun _ _ spends => .pure spends

theorem write_costs (ready : driver.device.Ready) (sound : driver.Sound)
    (mapped : driver.Mapped segment entry) (inside : offset + data.length ≤ entry.maxDataSize) :
    Costs device data.length (write { entry, mode := .write, position := offset } offset data)
      driver := by
  have room := (sound.fits mapped).room
  have size := (sound.fits mapped).maxDataSize
  have within : Ledger.size + offset + data.length ≤ entry.reserved := by omega
  apply Action.Ends.of_eq (write_eq sound mapped inside)
  refine .bind ((program_costs _ ready sound mapped within).mono (fun _ _ => id)
    fun _ _ => CutOff.short) ?_
  exact fun _ _ spends => .pure spends

/-- New content costs the bytes of its header and its payload. -/
theorem writeContent_costs {header : Header} {payload : Bytes} (ready : driver.device.Ready)
    (sound : driver.Sound) (mapped : driver.Mapped segment entry)
    (fits : Header.size + payload.length ≤ entry.maxDataSize) :
    Costs device (Header.size + payload.length) (writeContent segment header payload) driver := by
  have first : 0 + header.encode.length ≤ entry.maxDataSize := by
    rw [Header.length_encode]
    omega
  rw [← Nat.zero_add (Header.size + payload.length)]
  refine Costs.bind (openForWrite_ends sound mapped fits)
    (openForWrite_costs ready sound mapped fits) ?_
  rintro _ opened ⟨rfl, follows, -⟩ spends
  have soundly := follows.sound sound
  have still := follows.mapped mapped
  rw [← Header.length_encode header]
  refine Costs.bind (write_ends soundly still first) (write_costs spends.ready soundly still first)
    ?_
  rintro _ headed ⟨rfl, further, -⟩ spends
  rw [← Nat.add_zero payload.length]
  refine Costs.bind (write_ends (further.sound soundly) (further.mapped still) fits)
    (write_costs spends.ready (further.sound soundly) (further.mapped still) fits) ?_
  exact fun _ _ _ spends => .pure (.of_same rfl rfl spends.ready)

/-- Storing a payload costs the bytes of its header and its payload, and of two ledgers. -/
theorem commitContent_costs {header : Header} {payload : Bytes} (ready : driver.device.Ready)
    (sound : driver.Sound) (mapped : driver.Mapped segment entry)
    (fits : Header.size + payload.length ≤ entry.maxDataSize)
    (before : Committed (driver.contents entry) ∨ Unwritten (driver.contents entry)) :
    Costs device (32 + payload.length) (commitContent segment header payload) driver := by
  have total : 32 + payload.length =
      Ledger.size + (Header.size + payload.length + Ledger.size) := by
    show 32 + payload.length = 8 + (16 + payload.length + 8)
    omega
  rw [total]
  refine Costs.bind (enterTransaction_ends sound mapped) (enterTransaction_costs ready sound mapped
    before) ?_
  intro _ entered ended spends
  have opening := ended.1.toFollows
  have soundly := opening.sound sound
  have still := opening.mapped mapped
  refine Costs.bind (writeContent_ends soundly still fits)
    (writeContent_costs spends.ready soundly still fits) ?_
  intro _ written ended spends
  obtain ⟨writing, -, unwritten, -⟩ := ended
  exact exitTransaction_costs spends.ready (writing.toFollows.sound soundly)
    (writing.toFollows.mapped still) unwritten

/-- Where power is cut in the ledger that opens a transaction, a committed segment is as it was
if only bytes of the marker were programmed, and not committed any more otherwise. -/
theorem opened_of_cutOff (room : Ledger.size ≤ entry.reserved)
    (same : shape reached.device = shape driver.device)
    (isCommitted : Committed (driver.contents entry))
    (cut : CutOff entry.start Ledger.opened.encode driver.device reached.device) :
    ∃ left, driver.device.faults.powerLeft = some left ∧
      (left ≤ 4 → cells reached.device = cells driver.device) ∧
      (4 < left → ¬ Committed (reached.contents entry)) := by
  obtain ⟨left, limit, few, programmed⟩ := cut.programmed
  rw [Ledger.length_encode] at few
  have length : (Ledger.opened.encode.take left).length = left := by
    rw [List.length_take, Ledger.length_encode, Nat.min_eq_left (Nat.le_of_lt few)]
  have before : (cells driver.device).slice (driver.base entry) left =
      Ledger.committed.encode.take left := by
    rw [← Cells.take_slice _ _ (Nat.le_of_lt few), ← take_contents driver room, isCommitted]
  have after := Cells.slice_program (cells driver.device) (driver.base entry)
    (Ledger.opened.encode.take left)
  have agree := Cells.agreeOutside_program (cells driver.device) (driver.base entry)
    (Ledger.opened.encode.take left)
  rw [length, before] at after
  rw [length] at agree
  rw [show entry.start - (shape driver.device).regionOffset = driver.base entry from rfl]
    at programmed
  have masks := Ledger.masks_opened_iff left few
  refine ⟨left, limit, fun marker => ?_, fun beyond still => ?_⟩
  · rw [programmed]
    apply Cells.eq_of_slice_eq agree
    rw [after, before, masks.2 marker]
  · have kept := congrArg (List.take left) (show _ = _ from still)
    rw [List.take_take, Nat.min_eq_left (Nat.le_of_lt few),
      take_contents reached (Nat.le_trans (Nat.le_of_lt few) room), programmed,
      show reached.base entry = driver.base entry by rw [base, same, base], after] at kept
    exact absurd (masks.1 kept) (Nat.not_le.2 beyond)

end Range

end SegmentDriver

end NorStore
