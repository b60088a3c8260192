/-
# Writing again

A write in which power was cut has programmed the front of its data and has left its handle where
it was. So it can be tried again, at the same place and with the same data, once there is power:
the bytes that were programmed before are programmed a second time, and that changes nothing. No
matter how often power was cut and after how many bytes, the first write that gets through leaves
the cells and the handle as it would have left them without those before it.

Clearing the faults restores power only if the device behind them has not failed in the meantime.
It has not, for it takes each part of a write that is passed on to it.
-/

import NorStore.Proofs.Driver.Pieces
import NorStore.Proofs.Driver.Runs
import NorStore.Proofs.Flash.Restart

namespace NorStore

open NorStore.Flash (BlockDevice Cells ChipView Faults Faulty FlashError Geometry Keeps MemoryFlash
  NorDevice Stays)
open NorStore.Flash.ChipView (cells shape)

/-! ## Programming twice -/

namespace Flash.Cells

/-- The byte over a cell clears what a front of the data clears there. -/
theorem overlay_take_and (start count index : Nat) (data : Bytes) :
    overlay start (data.take count) index &&& overlay start data index =
      overlay start data index := by
  rw [overlay, overlay]
  split
  · rw [List.getD_eq_getElem?_getD, List.getElem?_take, List.getD_eq_getElem?_getD]
    split
    · exact UInt8.and_self
    · exact erasedByte_and _
  · exact and_erasedByte _

/-- A front that was programmed before makes no difference to the whole. -/
theorem program_take_program (cells : Cells) (start count : Nat) (data : Bytes) :
    (cells.program start (data.take count)).program start data = cells.program start data := by
  apply Array.ext_getElem?
  intro index
  simp only [getElem?_program, Option.map_map, Function.comp_def, UInt8.and_assoc,
    overlay_take_and]

end Flash.Cells

/-! ## The device behind the faults -/

section Behind

variable {δ : Type} [BlockDevice δ] {whole : Faulty δ} {offset : Nat} {data : Bytes}

/-- A front of the data is passed on, or nothing at all. -/
theorem Flash.Faulty.device_write (offset : Nat) (filled : data ≠ []) (whole : Faulty δ) :
    (BlockDevice.write offset data whole).2.device = whole.device ∨
      ∃ front, front ≠ [] ∧ front <+: data ∧ (BlockDevice.write offset data whole).2.device =
        (BlockDevice.write offset front whole.device).2 := by
  obtain ⟨device, faults⟩ := whole
  change (Faulty.write offset data ⟨device, faults⟩).2.device = _ ∨ ∃ front, _ ∧ _ ∧
    (Faulty.write offset data ⟨device, faults⟩).2.device = _
  rw [Faulty.write]
  split
  · exact .inl rfl
  dsimp only
  split
  · refine .inr ⟨data, filled, List.prefix_refl data, ?_⟩
    rcases BlockDevice.write offset data device with ⟨_ | _ | _, reached⟩ <;> rfl
  · rw [Faulty.writeLast]
    dsimp only
    split
    · exact .inl rfl
    · rename_i some
      refine .inr ⟨_, ?_, List.take_prefix (faults.powerLeft.getD 0) data, ?_⟩
      · simp [filled, some]
      · rcases BlockDevice.write offset (data.take _) device with ⟨_ | _ | _, reached⟩ <;> rfl

variable [NorDevice δ]

theorem Flash.Faulty.healthy_write (healthy : ChipView.Healthy whole.device)
    (isOpen : ChipView.IsOpen whole) (filled : data ≠ [])
    (encloses : (shape whole).Encloses offset data.length)
    (within : offset % (shape whole).blockSize + data.length ≤ (shape whole).blockSize) :
    ChipView.Healthy (BlockDevice.write offset data whole).2.device := by
  rcases Faulty.device_write offset filled whole with same | ⟨front, more, begins, same⟩
  · rwa [same]
  · have shorter := begins.length_le
    have opened : ChipView.IsOpen whole.device := isOpen
    have part : (shape whole.device).Encloses offset front.length := encloses.mono shorter
    have writes := NorDevice.write_ends opened more part
      (Nat.le_trans (Nat.add_le_add_left shorter _) within)
    have keeps : (BlockDevice.write offset front).Reaches whole.device (Keeps whole.device) :=
      .of_ends (writes.mono (fun _ _ ended => ended.1) fun _ _ torn => torn.toKeeps)
    rw [same]
    exact keeps.healthy healthy

theorem Flash.Faulty.healthy_openDevice (healthy : ChipView.Healthy whole.device) :
    ChipView.Healthy
      ((BlockDevice.openDevice : Action _ FlashError Unit) whole).2.device := by
  obtain ⟨device, faults⟩ := whole
  have keeps : (BlockDevice.openDevice : Action _ FlashError Unit).Reaches device (Keeps device) :=
    .of_ends ((NorDevice.openDevice_ends device).mono (fun _ _ ended => ended.1.toKeeps)
      fun _ _ ended => ended.1.toKeeps)
  rw [Action.Reaches] at keeps
  change ChipView.Healthy (Faulty.openDevice ⟨device, faults⟩).2.device
  rw [Faulty.openDevice]
  split
  · exact healthy
  · split <;> rename_i ends <;> rw [ends] at keeps <;> exact keeps.healthy healthy

theorem Flash.Faulty.healthy_session {α : Type} {access : Action (Faulty δ) FlashError α}
    (healthy : ChipView.Healthy whole.device)
    (judged : ∀ opened, Stays whole opened → ChipView.IsOpen opened →
      ChipView.Healthy opened.device →
      access.Reaches opened fun reached => ChipView.Healthy reached.device) :
    (BlockDevice.session access).Reaches whole fun reached => ChipView.Healthy reached.device := by
  have safe := Faulty.healthy_openDevice healthy
  rw [Action.Reaches, BlockDevice.session]
  rcases (NorDevice.openDevice_ends whole).cases with
    ⟨_, opened, ends, stays, isOpen⟩ | ⟨_, reached, ends, -⟩
  · rw [ends] at safe ⊢
    have accessed := judged opened stays isOpen safe
    rw [Action.Reaches] at accessed
    dsimp only
    split <;> rename_i answers <;> rw [answers] at accessed
    · exact accessed
    · exact (NorDevice.closeDevice_stays _).healthy accessed
  · rwa [ends] at safe ⊢

end Behind

namespace SegmentDriver

section Range

variable {δ : Type} [BlockDevice δ] [NorDevice δ] {whole : Faulty δ}
  {runs : List (Nat × Bytes)} {offset : Nat} {data : Bytes}

theorem healthy_writeRuns (healthy : ChipView.Healthy whole.device)
    (isOpen : ChipView.IsOpen whole) (chained : Chained offset runs)
    (within : ∀ run ∈ runs,
      run.1 % (shape whole).blockSize + run.2.length ≤ (shape whole).blockSize)
    (encloses : (shape whole).Encloses offset (runs.flatMap Prod.snd).length) :
    (writeRuns runs).Reaches whole fun reached => ChipView.Healthy reached.device := by
  induction runs generalizing offset whole with
  | nil => exact .pure healthy
  | cons head runs ih =>
      obtain ⟨start, run⟩ := head
      obtain ⟨rfl, nonempty, chained⟩ := chained
      obtain ⟨ends, first, last⟩ := encloses
      rw [List.flatMap_cons, List.length_append] at last
      dsimp only at last
      have part : (shape whole).Encloses start run.length := ⟨ends, first, by omega⟩
      have block := within _ List.mem_cons_self
      have writes := NorDevice.write_ends isOpen nonempty part block
      refine .bind (Faulty.healthy_write healthy isOpen nonempty part block) ?_
      intro _ middle ended safe
      rw [Action.Ends, ended] at writes
      obtain ⟨kept, opened, -, -⟩ := writes
      refine .lift_bind safe fun _ _ => ih safe opened chained ?_ ?_
      · rw [kept.shape]
        exact fun run member => within run (.tail _ member)
      · rw [kept.shape]
        exact ⟨ends, by omega, by omega⟩

/-- Data that there is room for in the range of a segment lies in the region. -/
theorem Sound.encloses_data {δ : Type} [BlockDevice δ] [NorDevice δ] {driver : SegmentDriver δ}
    {segment : Segment} {entry : MapEntry} (sound : driver.Sound)
    (mapped : driver.Mapped segment entry) (inside : offset + data.length ≤ entry.maxDataSize) :
    (shape driver.device).Encloses (entry.start + (Ledger.size + offset)) data.length := by
  have room := (sound.fits mapped).room
  have size := (sound.fits mapped).maxDataSize
  exact sound.encloses mapped (by omega)

/-- Whatever becomes of a write through a handle, the device behind the faults is as healthy as it
was before. -/
theorem healthy_write {driver : SegmentDriver (Faulty δ)} {segment : Segment} {entry : MapEntry}
    (sound : driver.Sound) (mapped : driver.Mapped segment entry)
    (healthy : ChipView.Healthy driver.device.device)
    (inside : offset + data.length ≤ entry.maxDataSize) :
    (write { entry, mode := .write, position := offset } offset data).Reaches driver
      fun reached => ChipView.Healthy reached.device.device := by
  have encloses := sound.encloses_data mapped inside
  have bytes := blockRuns_bytes (shape driver.device).blockSize
    (entry.start + (Ledger.size + offset)) data
  have runs : (BlockDevice.session (writeRuns (blockRuns (shape driver.device).blockSize
      (entry.start + (Ledger.size + offset)) data))).Reaches driver.device
        fun reached => ChipView.Healthy reached.device := by
    refine Faulty.healthy_session healthy fun opened stays isOpen safe => ?_
    refine healthy_writeRuns safe isOpen (chained_blockRuns ..) ?_ ?_
    · rw [stays.shape]
      exact fun run => blockRuns_within (NorDevice.valid driver.device).blockSize_pos _ data
    · rwa [stays.shape, bytes]
  have programs : (program entry.segment (entry.start + (Ledger.size + offset)) data).Reaches driver
      fun reached => ChipView.Healthy reached.device.device := by
    rw [Action.Reaches, program_eq entry.segment sound mapped]
    exact runs
  rw [Action.Reaches, write_eq sound mapped inside]
  exact programs.bind fun _ _ _ safe => safe

end Range

/-! ## Attempts -/

/-- The driver after a fault of its device was armed or cleared. -/
def arm {δ : Type} (driver : SegmentDriver (Faulty δ)) (fault : Fault) : SegmentDriver (Faulty δ) :=
  { driver with device := { driver.device with faults := fault.arm driver.device.faults } }

end SegmentDriver

namespace OpenSegment

variable {δ : Type}

/-- The same with a handle in use. -/
def arm (opened : OpenSegment (Faulty δ)) (fault : Fault) : OpenSegment (Faulty δ) :=
  { opened with driver := opened.driver.arm fault }

/-- Write at the position of the handle with power for some bytes only, go on with what is left of
the handle and the driver, and clear the faults. -/
def attempt [BlockDevice δ] (data : Bytes) (opened : OpenSegment (Faulty δ)) (power : Nat) :
    OpenSegment (Faulty δ) :=
  (write opened.handle.position data (opened.arm (.cutPowerAfter power))).2.arm .reset

end OpenSegment

namespace SegmentDriver

section Attempts

variable {δ : Type} [BlockDevice δ] [NorDevice δ] {driver : SegmentDriver (Faulty δ)}
  {segment : Segment} {entry : MapEntry} {position power : Nat} {data : Bytes}

/-- With power for a part of the data only, a write through a handle fails and has programmed this
part. -/
theorem write_cutOff (sound : driver.Sound) (mapped : driver.Mapped segment entry)
    (ready : driver.device.Ready) (limit : driver.device.faults.powerLeft = some power)
    (inside : position + data.length ≤ entry.maxDataSize) (few : power < data.length) :
    (write { entry, mode := .write, position } position data).Ends driver (fun _ _ => False)
      fun failure reached => (∃ cause, failure = .writeFailure segment cause) ∧
        cells reached.device = (cells driver.device).program
          (driver.base entry + (Ledger.size + position)) (data.take power) := by
  have ⟨map, known, _⟩ := mapped
  have programs := program_cutOff sound known ready limit few segment
    (sound.encloses_data mapped inside)
  rw [sound.start_add mapped] at programs
  refine .of_eq (write_eq sound mapped inside) (.bind ?_ fun _ _ => False.elim)
  rwa [sound.segment_eq mapped]

/-- After such a write the handle is where it was, and the driver works again once the faults are
cleared. -/
theorem write_of_short (working : driver.Working segment entry)
    (inside : position + data.length ≤ entry.maxDataSize) (few : power < data.length) :
    let handle : Handle := { entry, mode := .write, position }
    ∃ cause reached, OpenSegment.write position data
        (OpenSegment.arm ⟨driver, handle⟩ (.cutPowerAfter power)) =
          (.error (.writeFailure segment cause), ⟨reached, handle⟩) ∧
      (reached.arm .reset).Working segment entry ∧ reached.base entry = driver.base entry ∧
      cells reached.device = (cells driver.device).program
        (driver.base entry + (Ledger.size + position)) (data.take power) := by
  intro handle
  obtain ⟨sound, mapped, opens, erases, -, -, powered, healthy⟩ := working
  have armed : (driver.arm (.cutPowerAfter power)).Sound := ⟨sound.honest, sound.grown⟩
  have ready : (driver.arm (.cutPowerAfter power)).device.Ready :=
    ⟨powered, opens, erases, healthy⟩
  have cut := write_cutOff armed mapped ready rfl inside few
  have safe := healthy_write armed mapped healthy inside
  rcases (cut.both (write_ends armed mapped inside)).cases with
    ⟨_, _, -, impossible, -⟩ | ⟨failure, reached, ends, ⟨⟨cause, rfl⟩, programmed⟩, broken⟩
  · exact impossible.elim
  · rw [Action.Reaches, ends] at safe
    have follows := broken.toFollows
    have known := follows.sound armed
    refine ⟨cause, reached, ?_, ⟨⟨known.honest, known.grown⟩, follows.mapped mapped,
      rfl, rfl, rfl, rfl, rfl, safe⟩, follows.base entry, programmed⟩
    rw [OpenSegment.arm, OpenSegment.write_apply, ends]

/-- Programming the data over the cells as they are then comes to the same as at first, however
often it has been tried. -/
theorem foldl_attempt (working : driver.Working segment entry)
    (inside : position + data.length ≤ entry.maxDataSize) {powers : List Nat}
    (short : ∀ power ∈ powers, power < data.length) :
    let handle : Handle := { entry, mode := .write, position }
    ∃ reached, powers.foldl (OpenSegment.attempt data) ⟨driver, handle⟩ = ⟨reached, handle⟩ ∧
      reached.Working segment entry ∧ reached.base entry = driver.base entry ∧
      (cells reached.device).program (driver.base entry + (Ledger.size + position)) data =
        (cells driver.device).program (driver.base entry + (Ledger.size + position)) data := by
  -- The cells do change with every attempt. What stays is their program with all of the data.
  induction powers generalizing driver with
  | nil => exact ⟨driver, rfl, working, rfl, rfl⟩
  | cons power rest ih =>
      obtain ⟨cause, middle, fails, restored, base, programmed⟩ :=
        write_of_short working inside (short power List.mem_cons_self)
      obtain ⟨reached, goes, works, again, finished⟩ :=
        ih restored fun power member => short power (.tail _ member)
      have same : (middle.arm .reset).base entry = driver.base entry := base
      have kept : cells (middle.arm .reset).device = cells middle.device := rfl
      refine ⟨reached, ?_, works, again.trans same, ?_⟩
      · rw [List.foldl_cons, ← goes, OpenSegment.attempt, fails]
        rfl
      · rw [same, kept, programmed, Cells.program_take_program] at finished
        exact finished

/-- However often power was cut in a write, and wherever, the handle is where it was, and the write
that gets through in the end comes to what it would have come to at first. -/
theorem write_after_attempts {handle : Handle} (writing : handle.mode = .write)
    (working : driver.Working segment handle.entry)
    (inside : handle.position + data.length ≤ handle.entry.maxDataSize) {powers : List Nat}
    (short : ∀ power ∈ powers, power < data.length) :
    let tried := powers.foldl (OpenSegment.attempt data) ⟨driver, handle⟩
    tried.handle = handle ∧
    (∀ power < data.length, ∃ cause reached,
      OpenSegment.write handle.position data (tried.arm (.cutPowerAfter power)) =
        (.error (.writeFailure segment cause), reached) ∧ reached.handle = handle) ∧
    ∃ last once, OpenSegment.write handle.position data tried = (.value (), last) ∧
      OpenSegment.write handle.position data ⟨driver, handle⟩ = (.value (), once) ∧
      last.handle = once.handle ∧ cells last.driver.device = cells once.driver.device := by
  intro tried
  obtain ⟨entry, mode, position⟩ := handle
  cases writing
  obtain ⟨middle, goes, works, same, retried⟩ := foldl_attempt working inside short
  obtain ⟨reached, writes, -, programmed⟩ := openSegment_write works inside
  obtain ⟨whole, once, -, plain⟩ := openSegment_write working inside
  rw [same, retried, ← plain] at programmed
  have stands : tried = ⟨middle, _⟩ := goes
  rw [stands]
  refine ⟨rfl, fun power few => ?_, _, _, writes, once, rfl, programmed⟩
  obtain ⟨cause, reached, fails, -⟩ := write_of_short works inside few
  exact ⟨cause, _, fails, rfl⟩

end Attempts

/-- A driver over a device that may fail, after a handle was given out for twelve bytes. -/
def failingDriver : SegmentDriver (Faulty MemoryFlash) :=
  (openForWrite .uniqueId 12 (stripDriver.onto { device := stripDriver.device })).2

/-- Power is cut before the first byte, in the middle of a block and at the end of one. -/
theorem write_after_attempts_sample :
    let data : Bytes := [1, 2, 3, 4, 5, 6, 7, 8, 9, 10, 11, 12]
    let tried := [0, 5, 8].foldl (OpenSegment.attempt data) ⟨failingDriver, stripHandle⟩
    let last := OpenSegment.write stripHandle.position data tried
    let once := OpenSegment.write stripHandle.position data ⟨failingDriver, stripHandle⟩
    tried.handle = stripHandle ∧ last.1 = .value () ∧
      last.2.handle = { stripHandle with position := 12 } ∧
      cells last.2.driver.device = cells once.2.driver.device := by
  have sound : (stripDriver.onto ({ device := stripDriver.device } : Faulty MemoryFlash)).Sound :=
    ⟨trivial, fun _ known => nomatch known⟩
  have opens : openForWrite .uniqueId 12 (stripDriver.onto { device := stripDriver.device }) =
    (.value stripHandle, failingDriver) := Prod.ext (by rfl) rfl
  obtain ⟨entry, isHandle, -, known, mapped, keeps, -⟩ := openForWrite_eq_value sound opens
  have working : failingDriver.Working .uniqueId stripHandle.entry := by
    rw [isHandle]
    exact ⟨known, mapped, keeps.healthy ⟨rfl, rfl, rfl, rfl, rfl, trivial⟩⟩
  obtain ⟨stands, -, reached, whole, writes, once, moved, same⟩ :=
    write_after_attempts rfl working
      (show 0 + [1, 2, 3, 4, 5, 6, 7, 8, 9, 10, 11, 12].length ≤ 16 by decide)
      (show ∀ power ∈ [0, 5, 8], power < 12 by decide)
  have past : (OpenSegment.write stripHandle.position [1, 2, 3, 4, 5, 6, 7, 8, 9, 10, 11, 12]
      ⟨failingDriver, stripHandle⟩).2.handle = { stripHandle with position := 12 } := by
    decide +kernel
  rw [once] at past
  refine ⟨stands, ?_, ?_, ?_⟩
  · rw [writes]
  · rw [writes]
    exact moved.trans past
  · rw [writes, once]
    exact same

end SegmentDriver

end NorStore
