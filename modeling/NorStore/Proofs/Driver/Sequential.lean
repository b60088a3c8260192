/-
# Sequential access

What opening, reading, writing and erasing a segment come to, for a sound driver that has
the range of the segment in its map. A handle that is used in order gives the bytes of
the range one piece after another; opening for writing erases the blocks that the new
content needs, and no more.
-/

import NorStore.Proofs.Driver.Transfer

namespace NorStore

/-! ## Handles -/

theorem Handle.checkSequential_self (handle : Handle) :
    handle.checkSequential handle.mode handle.position = .value () := by
  rw [checkSequential, if_neg fun different => different rfl, if_neg fun different => different rfl]
  rfl

theorem Handle.advance_of_lt {handle : Handle} {length : Nat}
    (fits : handle.position + length < Word.limit) :
    handle.advance length = .value { handle with position := handle.position + length } := by
  rw [advance, Word.add_of_lt fits]
  rfl

namespace SegmentDriver

open NorStore.Flash (BlockDevice Cells ChipView NorDevice)
open NorStore.Flash.ChipView (cells shape)

variable {δ : Type} [BlockDevice δ] [NorDevice δ] {driver reached : SegmentDriver δ}
  {segment : Segment} {entry : MapEntry} {handle : Handle} {offset length size : Nat} {data : Bytes}

/-- The bytes of a range. -/
def contents (driver : SegmentDriver δ) (entry : MapEntry) : Bytes :=
  (cells driver.device).slice (driver.base entry) entry.reserved

theorem contents_congr (same : reached.device = driver.device) (entry : MapEntry) :
    reached.contents entry = driver.contents entry := by
  rw [contents, base, same, contents, base]

theorem length_contents (sound : driver.Sound) (mapped : driver.Mapped segment entry) :
    (driver.contents entry).length = entry.reserved :=
  Cells.length_slice (sound.base_add_le mapped)

/-- A part of a range is a part of its bytes. -/
theorem slice_base_add (driver : SegmentDriver δ) (inside : offset + length ≤ entry.reserved) :
    (cells driver.device).slice (driver.base entry + offset) length =
      ((driver.contents entry).drop offset).take length := by
  rw [contents, Cells.drop_slice, Cells.take_slice _ _ (by omega)]

theorem Remains.contents (remains : Remains driver reached) (entry : MapEntry) :
    reached.contents entry = driver.contents entry := by
  rw [SegmentDriver.contents, remains.cells, remains.toFollows.base, SegmentDriver.contents]

/-- A range ends at a word. -/
theorem Sound.past_lt (sound : driver.Sound) (mapped : driver.Mapped segment entry) :
    entry.start + entry.reserved < Word.limit := by
  have last := (sound.fits mapped).last
  have ends := sound.ends mapped
  rw [MapEntry.past] at last
  omega

theorem Sound.ledger_le (sound : driver.Sound) (mapped : driver.Mapped segment entry) :
    Ledger.size ≤ entry.reserved :=
  Nat.le_trans (Nat.le_add_right ..) (sound.fits mapped).room

/-- A range begins with the eight bytes of a ledger. -/
theorem Sound.length_ledger (sound : driver.Sound) (mapped : driver.Mapped segment entry) :
    ((driver.contents entry).take Ledger.size).length = Ledger.size := by
  rw [List.length_take, length_contents sound mapped, Nat.min_eq_left (sound.ledger_le mapped)]

/-! ## Accesses to the device -/

section Accesses

omit [NorDevice δ]

theorem readLedger_eq (mapped : driver.Mapped segment entry) :
    readLedger segment driver =
      ((onDevice (BlockDevice.session (BlockDevice.read entry.start Ledger.size))).mapError
        StoreError.flash >>= fun bytes => return Ledger.decode bytes) driver :=
  Action.bind_of_value (ensureMapped_of_mapped mapped) _

/-- A segment whose ledger cannot be read counts as being changed. -/
theorem isInTransaction_eq {ε : Type} (segment : Segment) (driver : SegmentDriver δ) :
    (isInTransaction segment driver : Outcome ε Bool × SegmentDriver δ) =
      match readLedger segment driver with
      | (.value ledger, reached) => (.value ledger.classify.isInTransaction, reached)
      | (.error _, reached) => (.value true, reached)
      | (.trap, reached) => (.trap, reached) := by
  rw [isInTransaction, Action.bind_apply, Action.bind, Action.attempt]
  rcases readLedger segment driver with ⟨_ | _ | _, _⟩ <;> rfl

theorem openForRead_eq (mapped : driver.Mapped segment entry) :
    openForRead segment driver =
      ((onDevice (BlockDevice.session (pure ()))).mapError (fun cause =>
          StoreError.deviceUnavailable (.device cause)) >>= fun _ =>
        return { entry, mode := .read, position := 0 }) driver :=
  Action.bind_of_value (ensureMapped_of_mapped mapped) _

/-- More than the range has room for is refused. -/
theorem openForWrite_of_long (mapped : driver.Mapped segment entry)
    (long : entry.maxDataSize < size) : openForWrite segment size driver =
      (.error (.capacityExceeded segment size entry.maxDataSize), driver) := by
  rw [openForWrite, Action.bind_of_value (ensureMapped_of_mapped mapped), if_pos long]
  rfl

theorem eraseSegment_eq (mapped : driver.Mapped segment entry) :
    eraseSegment segment driver =
      ((onDevice (BlockDevice.session (BlockDevice.erase entry.start entry.reserved))).mapError
        (.writeFailure segment)) driver :=
  Action.bind_of_value (ensureMapped_of_mapped mapped) _

end Accesses

/-- Reading in order is one read of the device. -/
theorem read_eq (sound : driver.Sound) (mapped : driver.Mapped segment entry)
    (inside : offset + length ≤ entry.maxDataSize) :
    read { entry, mode := .read, position := offset } offset length driver =
      ((onDevice (BlockDevice.session (BlockDevice.read
          (entry.start + (Ledger.size + offset)) length))).mapError StoreError.flash >>= fun bytes =>
        return (bytes, { entry, mode := .read, position := offset + length })) driver := by
  have past := sound.past_lt mapped
  have room := (sound.fits mapped).room
  have data := (sound.fits mapped).maxDataSize
  have start : entry.dataOffset + offset = entry.start + (Ledger.size + offset) :=
    Nat.add_assoc ..
  have small : entry.dataOffset + offset < Word.limit := by omega
  have advances := @Handle.advance_of_lt ⟨entry, .read, offset⟩ length (by dsimp only; omega)
  rw [read_steps, Action.lift_bind_of_value (Handle.checkSequential_self _),
    Action.lift_bind_of_value (Word.add_of_lt (by omega)), if_neg (Nat.not_lt.2 inside),
    Action.lift_bind_of_value (Word.add_of_lt small), start]
  simp only [advances]
  rfl

/-- Opening for writing is one erase of the blocks that the content needs. -/
theorem openForWrite_eq (sound : driver.Sound) (mapped : driver.Mapped segment entry)
    (fits : size ≤ entry.maxDataSize) :
    openForWrite segment size driver =
      ((onDevice (BlockDevice.session (BlockDevice.erase entry.start
          ((shape driver.device).covering (Ledger.size + size))))).mapError
            (.writeFailure segment) >>= fun _ =>
        return { entry, mode := .write, position := 0 }) driver := by
  obtain ⟨map, known, same⟩ := memoryMap?_of_mapped sound mapped
  have nonempty := (NorDevice.valid driver.device).blockSize_pos
  have past := sound.past_lt mapped
  have range := sound.fits mapped
  have room := range.room
  have data := range.maxDataSize
  have inside : (shape driver.device).covering (Ledger.size + size) ≤ entry.reserved :=
    Flash.Geometry.covering_le (by omega) range.whole
  rw [openForWrite, Action.bind_of_value (ensureMapped_of_mapped mapped),
    if_neg (Nat.not_lt.2 fits), Action.get_bind, known]
  dsimp only
  rw [Action.lift_bind_of_value (Word.add_of_lt (by omega)), same,
    Action.lift_bind_of_value (Flash.Geometry.roundUp_of_lt nonempty (by omega))]

/-- Writing in order is programming the next bytes behind the ledger. -/
theorem write_eq (sound : driver.Sound) (mapped : driver.Mapped segment entry)
    (inside : offset + data.length ≤ entry.maxDataSize) :
    write { entry, mode := .write, position := offset } offset data driver =
      (program entry.segment (entry.start + (Ledger.size + offset)) data >>= fun _ =>
        return { entry, mode := .write, position := offset + data.length }) driver := by
  have past := sound.past_lt mapped
  have room := (sound.fits mapped).room
  have size := (sound.fits mapped).maxDataSize
  have start : entry.dataOffset + offset = entry.start + (Ledger.size + offset) :=
    Nat.add_assoc ..
  have small : entry.dataOffset + offset < Word.limit := by omega
  have advances := @Handle.advance_of_lt ⟨entry, .write, offset⟩ data.length (by dsimp only; omega)
  rw [write_steps, Action.lift_bind_of_value (Handle.checkSequential_self _),
    Action.lift_bind_of_value (Word.add_of_lt (by omega)), if_neg (Nat.not_lt.2 inside),
    Action.lift_bind_of_value (Word.add_of_lt small), start]
  simp only [advances]
  rfl

/-! ## Reading -/

theorem readLedger_ends (sound : driver.Sound) (mapped : driver.Mapped segment entry) :
    (readLedger segment).Ends driver
      (fun ledger reached => Remains driver reached ∧
        ledger = Ledger.decode ((driver.contents entry).take Ledger.size))
      fun _ reached => Remains driver reached ∧ ¬ ChipView.Steady driver.device := by
  have room := sound.ledger_le mapped
  apply Action.Ends.of_eq (readLedger_eq mapped)
  have inside : 0 + Ledger.size ≤ entry.reserved := by rwa [Nat.zero_add]
  apply Action.Ends.bind (.mapError (onDevice_read_ends sound mapped inside))
  intro bytes reached ended
  obtain ⟨remains, rfl⟩ := ended
  rw [slice_base_add driver inside, List.drop_zero]
  exact .pure ⟨remains, rfl⟩

theorem openForRead_ends (mapped : driver.Mapped segment entry) :
    (openForRead segment).Ends driver
      (fun handle reached => Remains driver reached ∧ handle = { entry, mode := .read, position := 0 })
      fun _ reached => Remains driver reached ∧ ¬ ChipView.Steady driver.device := by
  apply Action.Ends.of_eq (openForRead_eq mapped)
  exact .bind (.mapError (onDevice_pure_ends driver)) fun _ reached remains => .pure ⟨remains, rfl⟩

/-- Reading in order gives the next bytes behind the ledger. -/
theorem read_ends (sound : driver.Sound) (mapped : driver.Mapped segment entry)
    (inside : offset + length ≤ entry.maxDataSize) :
    (read { entry, mode := .read, position := offset } offset length).Ends driver
      (fun result reached => Remains driver reached ∧ result =
        (((driver.contents entry).drop (Ledger.size + offset)).take length,
          { entry, mode := .read, position := offset + length }))
      fun _ reached => Remains driver reached ∧ ¬ ChipView.Steady driver.device := by
  have room := (sound.fits mapped).room
  have data := (sound.fits mapped).maxDataSize
  have within : Ledger.size + offset + length ≤ entry.reserved := by omega
  apply Action.Ends.of_eq (read_eq sound mapped inside)
  apply Action.Ends.bind (.mapError (onDevice_read_ends sound mapped within))
  intro bytes reached ended
  obtain ⟨remains, rfl⟩ := ended
  rw [slice_base_add driver within]
  exact .pure ⟨remains, rfl⟩

/-! ## Writing -/

/-- Opening for writing erases the blocks that the content needs. -/
theorem openForWrite_ends (sound : driver.Sound) (mapped : driver.Mapped segment entry)
    (fits : size ≤ entry.maxDataSize) :
    (openForWrite segment size).Ends driver
      (fun handle reached => handle = { entry, mode := .write, position := 0 } ∧
        Follows driver reached ∧ ¬ ChipView.Lost driver.device ∧
        cells reached.device = (cells driver.device).erase (driver.base entry)
          ((shape driver.device).covering (Ledger.size + size)))
      fun _ reached => Remains driver reached ∧
        (ChipView.Steady driver.device → ChipView.Lost reached.device) := by
  have range := sound.fits mapped
  have room := range.room
  have data := range.maxDataSize
  have inside : (shape driver.device).covering (Ledger.size + size) ≤ entry.reserved :=
    Flash.Geometry.covering_le (by omega) range.whole
  apply Action.Ends.of_eq (openForWrite_eq sound mapped fits)
  refine .bind (.mapError (onDevice_erase_ends sound mapped inside
    (Flash.Geometry.covering_mod ..))) ?_
  intro _ reached ended
  obtain ⟨follows, powered, erased⟩ := ended
  exact .pure ⟨rfl, follows, powered, erased⟩

/-- Writing in order programs the next bytes behind the ledger. -/
theorem write_ends (sound : driver.Sound) (mapped : driver.Mapped segment entry)
    (inside : offset + data.length ≤ entry.maxDataSize) :
    (write { entry, mode := .write, position := offset } offset data).Ends driver
      (fun next reached => next = { entry, mode := .write, position := offset + data.length } ∧
        Follows driver reached ∧ (data ≠ [] → ¬ ChipView.Lost driver.device) ∧
        cells reached.device = (cells driver.device).program
          (driver.base entry + (Ledger.size + offset)) data)
      fun _ reached => Broken (driver.base entry + (Ledger.size + offset)) data driver reached := by
  have room := (sound.fits mapped).room
  have size := (sound.fits mapped).maxDataSize
  have within : Ledger.size + offset + data.length ≤ entry.reserved := by omega
  apply Action.Ends.of_eq (write_eq sound mapped inside)
  apply Action.Ends.bind (program_ends _ sound mapped within)
  intro _ reached ended
  obtain ⟨follows, powered, programmed⟩ := ended
  exact .pure ⟨rfl, follows, powered, programmed⟩

/-! ## Erasing -/

theorem eraseSegment_ends (sound : driver.Sound) (mapped : driver.Mapped segment entry) :
    (eraseSegment segment).Ends driver
      (fun _ reached => Follows driver reached ∧ ¬ ChipView.Lost driver.device ∧
        cells reached.device = (cells driver.device).erase (driver.base entry) entry.reserved)
      fun _ reached => Remains driver reached ∧
        (ChipView.Steady driver.device → ChipView.Lost reached.device) := by
  apply Action.Ends.of_eq (eraseSegment_eq mapped)
  exact .mapError (onDevice_erase_ends sound mapped (Nat.le_refl _) (sound.fits mapped).whole)

end SegmentDriver

end NorStore
