/-
# Writing in pieces

A handle takes data in pieces of any length, and gives it back in pieces of any length. What
was written is found behind the ledger, one piece after another, as far as the blocks were
erased when the handle was opened.

How far that is depends on the size that was announced then. How much may be written depends on
the capacity of the range alone, so pieces may go on past the erased blocks, and there they
share their cells with whatever those held before.
-/

import NorStore.Flash.Memory
import NorStore.Proofs.Driver.Effect

namespace NorStore

open NorStore.Flash (BlockDevice Cells ChipView Geometry MemoryFlash NorDevice)
open NorStore.Flash.ChipView (cells shape)

/-- A handle that may be used is used for what it was opened for, and at its position. -/
theorem Handle.of_checkSequential {handle : Handle} {mode : AccessMode} {offset : Nat}
    (passes : handle.checkSequential mode offset = .value ()) :
    handle.mode = mode ∧ offset = handle.position := by
  rw [checkSequential] at passes
  split at passes
  · contradiction
  · rename_i suits
    split at passes
    · contradiction
    · rename_i follows
      exact ⟨Decidable.not_not.1 suits, Decidable.not_not.1 follows⟩

namespace SegmentDriver

variable {δ : Type} [BlockDevice δ]

/-- Write pieces one after another, each to the offset that comes with it. -/
def writeEach : List (Nat × Bytes) → Handle → Action (SegmentDriver δ) StoreError Handle
  | [], handle => return handle
  | (offset, data) :: rest, handle => do
    let next ← write handle offset data
    writeEach rest next

/-- Read pieces of the given lengths one after another. -/
def readEach : List Nat → Handle → Action (SegmentDriver δ) StoreError (List Bytes)
  | [], _ => return []
  | length :: rest, handle => do
    let (bytes, next) ← read handle handle.position length
    let others ← readEach rest next
    return bytes :: others

variable [NorDevice δ] {driver reached opened written : SegmentDriver δ} {segment : Segment}
  {entry : MapEntry} {handle last : Handle} {size position offset : Nat} {data : Bytes}
  {pieces : List (Nat × Bytes)} {chunks : List Bytes}

/-! ## What success says -/

/-- Opening for writing succeeds for a size that the range has room for, and has erased the
blocks that it needs. -/
theorem openForWrite_eq_value (sound : driver.Sound)
    (opens : openForWrite segment size driver = (.value handle, opened)) :
    ∃ entry, handle = { entry, mode := .write, position := 0 } ∧ size ≤ entry.maxDataSize ∧
      opened.Sound ∧ opened.Mapped segment entry ∧
      Flash.Keeps driver.device opened.device ∧
      cells opened.device = (cells driver.device).erase (driver.base entry)
        ((shape driver.device).covering (Ledger.size + size)) := by
  obtain ⟨entry, placed, asked, -⟩ := Action.bind_eq_value_iff.1 opens
  have mapped := mapped_of_ensureMapped asked
  have same := device_of_ensureMapped asked
  have known := sound.of_ensureMapped asked
  have again : openForWrite segment size placed = (.value handle, opened) :=
    (ensureMapped_bind asked _).symm.trans opens
  have fits : size ≤ entry.maxDataSize := by
    refine Nat.le_of_not_lt fun long => ?_
    rw [openForWrite_of_long mapped long] at again
    cases again
  have ends := openForWrite_ends known mapped fits
  rw [Action.Ends, again] at ends
  obtain ⟨rfl, follows, -, erased⟩ := ends
  refine ⟨entry, rfl, fits, follows.sound known, follows.mapped mapped, same ▸ follows.keeps, ?_⟩
  rw [erased, base, same, base]

/-- Writing succeeds at the position of the handle and within the capacity of the range. -/
theorem write_eq_value {next : Handle} (sound : driver.Sound) (mapped : driver.Mapped segment entry)
    (writes : write { entry, mode := .write, position } offset data driver =
      (.value next, reached)) :
    next = { entry, mode := .write, position := position + data.length } ∧
      position + data.length ≤ entry.maxDataSize ∧ Follows driver reached ∧
      cells reached.device =
        (cells driver.device).program (driver.base entry + (Ledger.size + position)) data := by
  have used : offset = position ∧ offset + data.length ≤ entry.maxDataSize := by
    simp only [write_steps, Action.bind_eq_value_iff] at writes
    obtain ⟨_, _, checks, past, _, adds, rest⟩ := writes
    have sequential := (Handle.of_checkSequential (Prod.mk.inj checks).1).2
    have sum := Word.add_eq_value (Prod.mk.inj adds).1
    split at rest
    · rw [Action.throw_apply] at rest
      cases rest
    · exact ⟨sequential, by omega⟩
  obtain ⟨rfl, inside⟩ := used
  have ends := write_ends sound mapped inside
  rw [Action.Ends, writes] at ends
  obtain ⟨same, follows, -, programmed⟩ := ends
  exact ⟨same, inside, follows, programmed⟩

/-- Pieces that could all be written were programmed like one. -/
theorem writeEach_eq_value (sound : driver.Sound) (mapped : driver.Mapped segment entry)
    (begins : position ≤ entry.maxDataSize)
    (writes : writeEach pieces { entry, mode := .write, position } driver =
      (.value last, reached)) :
    position + (pieces.flatMap Prod.snd).length ≤ entry.maxDataSize ∧ Follows driver reached ∧
      cells reached.device = (cells driver.device).program
        (driver.base entry + (Ledger.size + position)) (pieces.flatMap Prod.snd) := by
  induction pieces generalizing driver position with
  | nil =>
      cases writes
      exact ⟨begins, .refl _, rfl⟩
  | cons piece rest ih =>
      obtain ⟨offset, data⟩ := piece
      obtain ⟨next, middle, first, later⟩ := Action.bind_eq_value_iff.1 writes
      obtain ⟨rfl, inside, follows, programmed⟩ := write_eq_value sound mapped first
      obtain ⟨fits, further, finished⟩ :=
        ih (follows.sound sound) (follows.mapped mapped) inside later
      rw [List.flatMap_cons, List.length_append, ← Nat.add_assoc]
      refine ⟨fits, follows.trans further, ?_⟩
      rw [finished, programmed, follows.base, Cells.program_append]
      simp only [Nat.add_assoc]

/-! ## What is read -/

/-- However the next bytes of a range are cut into pieces, these are what is read. -/
theorem readEach_does (working : driver.Working segment entry)
    (inside : position + chunks.flatten.length ≤ entry.maxDataSize)
    (found : chunks.flatten <+: (driver.contents entry).drop (Ledger.size + position)) :
    Does (readEach (chunks.map List.length) { entry, mode := .read, position }) driver chunks
      (cells driver.device) := by
  induction chunks generalizing driver position with
  | nil => exact ⟨driver, rfl, .refl driver, rfl⟩
  | cons chunk rest ih =>
      rw [List.flatten_cons] at inside found
      rw [List.length_append] at inside
      obtain ⟨behind, whole⟩ := found
      rw [List.append_assoc] at whole
      obtain ⟨middle, reads, follows, kept⟩ :=
        read_does working (show position + chunk.length ≤ entry.maxDataSize by omega)
      rw [← whole, List.take_left] at reads
      have later : rest.flatten <+:
          (middle.contents entry).drop (Ledger.size + (position + chunk.length)) := by
        rw [(Remains.mk follows kept).contents, ← Nat.add_assoc, ← List.drop_drop, ← whole,
          List.drop_left]
        exact List.prefix_append _ _
      obtain ⟨reached, goes, further, same⟩ :=
        ih (working.follows follows) (by omega) later
      refine ⟨reached, ?_, follows.trans further, same.trans kept⟩
      rw [List.map_cons, readEach, Action.bind_of_value reads]
      dsimp only
      rw [Action.bind_of_value goes]
      rfl

/-- Reading a range from its start gives the bytes behind its ledger. -/
theorem openForRead_readEach (working : driver.Working segment entry)
    (inside : chunks.flatten.length ≤ entry.maxDataSize)
    (found : chunks.flatten <+: (driver.contents entry).drop Ledger.size) :
    ((openForRead segment >>= readEach (chunks.map List.length)) driver).1 = .value chunks := by
  obtain ⟨middle, opens, follows, kept⟩ := openForRead_does working
  rw [← (Remains.mk follows kept).contents] at found
  rw [← Nat.zero_add chunks.flatten.length] at inside
  obtain ⟨reached, reads, -, -⟩ := readEach_does (working.follows follows) inside found
  rw [Action.bind_of_value opens, reads]

/-! ## Written and read -/

/-- What lies behind the ledger after pieces were written there. -/
theorem slice_of_writes (sound : driver.Sound)
    (opens : openForWrite segment size driver = (.value { entry, mode := .write, position := 0 },
      opened))
    (writes : writeEach pieces { entry, mode := .write, position := 0 } opened =
      (.value last, written)) :
    let data := pieces.flatMap Prod.snd
    let start := driver.base entry + Ledger.size
    (cells written.device).slice start data.length = Cells.merged
      ((shape driver.device).covering (Ledger.size + size) - Ledger.size)
      ((cells driver.device).slice start data.length) data := by
  intro data start
  obtain ⟨_, ⟨⟩, announced, known, mapped, keeps, blank⟩ := openForWrite_eq_value sound opens
  obtain ⟨-, -, programmed⟩ := writeEach_eq_value known mapped (Nat.zero_le _) writes
  have range := known.fits mapped
  have room := range.room
  have capacity := range.maxDataSize
  have covers := Geometry.le_covering (NorDevice.valid driver.device).blockSize_pos
    (Ledger.size + size)
  have covered : (shape driver.device).covering (Ledger.size + size) ≤ entry.reserved :=
    Geometry.covering_le (by omega) (keeps.shape ▸ range.whole)
  have same : opened.base entry = driver.base entry := by rw [base, keeps.shape, base]
  have top := known.base_add_le mapped
  rw [blank, Cells.size_erase, same] at top
  rw [programmed, blank, same, Nat.add_zero,
    Cells.slice_program_erase (Nat.le_add_right ..) (by omega) (by omega),
    Nat.add_sub_add_left]

/-- Pieces that could all be written are read back, by pieces of any lengths, up to the cells that
were not erased when the handle was opened: there the bytes share their cells with what those held
before. As many bytes as were announced, and more up to a whole number of blocks, are read back as
they were written. -/
theorem read_of_writes (sound : driver.Sound) (healthy : ChipView.Healthy driver.device)
    (opens : openForWrite segment size driver = (.value handle, opened))
    (writes : writeEach pieces handle opened = (.value last, written)) :
    let data := pieces.flatMap Prod.snd
    let start := handle.entry.dataOffset - (shape driver.device).regionOffset
    let erased := (shape driver.device).covering (Ledger.size + size) - Ledger.size
    let stored := Cells.merged erased ((cells driver.device).slice start data.length) data
    (cells written.device).slice start data.length = stored ∧
      (∀ chunks : List Bytes, chunks.flatten = stored →
        ((openForRead segment >>= readEach (chunks.map List.length)) written).1 =
          .value chunks) ∧
      size ≤ erased ∧ (data.length ≤ erased → stored = data) := by
  intro data start erased stored
  obtain ⟨entry, rfl, -, known, mapped, keeps, -⟩ := openForWrite_eq_value sound opens
  obtain ⟨fits, follows, -⟩ := writeEach_eq_value known mapped (Nat.zero_le _) writes
  have inside : data.length ≤ entry.maxDataSize := Nat.zero_add data.length ▸ fits
  have room := (known.fits mapped).room
  have capacity := (known.fits mapped).maxDataSize
  have first := (known.fits mapped).first
  rw [keeps.shape] at first
  have begins : start = driver.base entry + Ledger.size := Nat.sub_add_comm first
  have same : written.base entry = driver.base entry := by
    rw [follows.base, base, keeps.shape, base]
  have found : (cells written.device).slice start data.length = stored := by
    simpa only [← begins] using slice_of_writes sound opens writes
  have working : written.Working segment entry :=
    ⟨follows.sound known, follows.mapped mapped,
      follows.keeps.healthy (keeps.healthy healthy)⟩
  have covers := Geometry.le_covering (NorDevice.valid driver.device).blockSize_pos
    (Ledger.size + size)
  refine ⟨found, fun chunks whole => ?_, by omega, fun fits => Cells.merged_of_le _ fits⟩
  rw [begins, ← same, slice_base_add written (by omega)] at found
  apply openForRead_readEach working
  · rw [whole, ← found, List.length_take]
    omega
  · rw [whole, ← found]
    exact List.take_prefix _ _

/-! ### A chip that was written before -/

/-- Four blocks of eight bytes. -/
def stripGeometry : Geometry where
  regionOffset := 16
  regionSize := 32
  blockCount := 4
  blockSize := 8
  regionCount := 1

/-- A chip on which every bit is programmed. -/
def stripChip : MemoryFlash where
  geometry := stripGeometry
  valid := (stripGeometry.validate_eq_ok_iff).1 rfl
  cells := Array.replicate 32 0
  size_cells := Array.size_replicate
  eraseCounts := Array.replicate 4 0
  size_eraseCounts := Array.size_replicate

/-- A driver with a segment that has sixteen bytes behind its ledger. -/
def stripDriver : SegmentDriver MemoryFlash :=
  ({ device := stripChip } : SegmentDriver MemoryFlash).reserve .uniqueId 0

/-- The range of the segment, opened for writing. -/
def stripHandle : Handle where
  entry := ⟨.uniqueId, 24, 24, 16⟩
  mode := .write
  position := 0

/-- One byte is announced, and the two blocks that are erased for it have room for seven more. -/
theorem read_of_writes_sample :
    let opened := (openForWrite .uniqueId 1 stripDriver).2
    let written := (writeEach [(0, [7, 9]), (2, [5])] stripHandle opened).2
    (cells written.device).slice 16 3 = [7, 9, 5] ∧
      ((openForRead .uniqueId >>= readEach [1, 2]) written).1 = .value [[7], [9, 5]] := by
  have sound : stripDriver.Sound := ⟨trivial, fun _ known => nomatch known⟩
  have healthy : ChipView.Healthy stripDriver.device := trivial
  have opens : openForWrite .uniqueId 1 stripDriver = (.value stripHandle, _) :=
    Prod.ext (by rfl) rfl
  have writes : writeEach [(0, [7, 9]), (2, [5])] stripHandle
      (openForWrite .uniqueId 1 stripDriver).2 = (.value { stripHandle with position := 3 }, _) :=
    Prod.ext (by rfl) rfl
  obtain ⟨found, reads, -, placed⟩ := read_of_writes sound healthy opens writes
  rw [placed (by decide)] at found reads
  exact ⟨found, reads [[7], [9, 5]] rfl⟩

/-- Nothing is announced, so that only the block of the ledger is erased. A byte can be written
all the same, and none of its bits is read back. -/
theorem stale_of_writes :
    let opening := openForWrite .uniqueId 0 stripDriver
    let writing := writeEach [(0, [7])] stripHandle opening.2
    opening.1 = .value stripHandle ∧ writing.1 = .value { stripHandle with position := 1 } ∧
      (cells writing.2.device).slice 16 1 = [0] ∧
      ((openForRead .uniqueId >>= readEach [1]) writing.2).1 = .value [[0]] := by
  decide +kernel

end SegmentDriver

end NorStore
