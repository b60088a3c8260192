/-
# Moving bytes

What each access of the driver does to the cells of the chip, for a sound driver that has
the range of the segment in its map. Reading gives the bytes of the range. Programming in
runs comes to the same cells as programming at once, and a failure on the way leaves the
data programmed up to some byte, wherever the blocks end. An erase is all or nothing.
-/

import NorStore.Driver.Transaction
import NorStore.Proofs.Driver.Mapping
import NorStore.Proofs.Flash.Cells

namespace NorStore

open NorStore.Flash (BlockDevice Cells ChipView FlashError Keeps NorDevice Stays Torn)
open NorStore.Flash.ChipView (cells shape)

variable {δ : Type}

/-! ## Sessions -/

namespace Flash.BlockDevice

variable {α : Type} [BlockDevice δ] [NorDevice δ] {device : δ} {access : Action δ FlashError α}

/-- A session ends as its access does, or the device did not open and nothing happened. What
is claimed of the end must not depend on whether the device is open. -/
theorem session_ends {done : α → δ → Prop} {failed : FlashError → δ → Prop}
    (judged : ∀ ready, Stays device ready → ChipView.IsOpen ready → access.Ends ready done failed)
    (refused : ∀ cause reached, Stays device reached → ¬ ChipView.Steady device →
      failed cause reached)
    (closes : ∀ result reached, done result reached → done result (closeDevice reached))
    (closesFailed : ∀ cause reached, failed cause reached → failed cause (closeDevice reached)) :
    (session access).Ends device done failed := by
  rcases (NorDevice.openDevice_ends device).cases with
    ⟨_, ready, opens, stays, isOpen⟩ | ⟨cause, reached, fails, stays, unsteady⟩
  · rcases (judged ready stays isOpen).cases with
      ⟨result, reached, ends, holds⟩ | ⟨cause, reached, ends, holds⟩
    · exact .of_value (by rw [session, opens]; simp only [ends]) (closes result reached holds)
    · exact .of_error (by rw [session, opens]; simp only [ends]) (closesFailed cause reached holds)
  · exact .of_error (by rw [session, fails]) (refused cause reached stays unsteady)

/-- What is claimed of the device up to its being open survives closing it. -/
theorem stays_closeDevice {reached : δ} (stays : Stays device reached) :
    Stays device (closeDevice reached) := stays.trans (NorDevice.closeDevice_stays reached)

theorem session_pure_ends (device : δ) :
    (session (pure () : Action δ FlashError Unit)).Ends device
      (fun _ reached => Stays device reached)
      fun _ reached => Stays device reached ∧ ¬ ChipView.Steady device :=
  session_ends (fun _ stays _ => .pure stays) (fun _ _ => .intro)
    (fun _ _ => stays_closeDevice) fun _ _ failed => ⟨stays_closeDevice failed.1, failed.2⟩

theorem session_read_ends {offset length : Nat}
    (encloses : (shape device).Encloses offset length) :
    (session (read offset length)).Ends device
      (fun bytes reached => Stays device reached ∧ bytes =
        (cells device).slice (offset - (shape device).regionOffset) length)
      fun _ reached => Stays device reached ∧ ¬ ChipView.Steady device := by
  refine session_ends (fun ready stays isOpen => ?_) (fun _ _ => .intro)
    (fun _ _ done => ⟨stays_closeDevice done.1, done.2⟩)
    fun _ _ failed => ⟨stays_closeDevice failed.1, failed.2⟩
  refine (NorDevice.read_ends isOpen (stays.shape ▸ encloses)).mono ?_ ?_
  · intro bytes reached ended
    obtain ⟨later, holds⟩ := ended
    rw [stays.cells, stays.shape] at holds
    exact ⟨stays.trans later, holds⟩
  · intro cause reached ended
    obtain ⟨later, unsteady⟩ := ended
    exact ⟨stays.trans later, unsteady ∘ stays.steady⟩

theorem session_erase_ends {offset length : Nat}
    (encloses : (shape device).Encloses offset length)
    (aligned : offset % (shape device).blockSize = 0)
    (whole : length % (shape device).blockSize = 0) :
    (session (erase offset length)).Ends device
      (fun _ reached => Keeps device reached ∧ ¬ ChipView.Lost device ∧ cells reached =
        (cells device).erase (offset - (shape device).regionOffset) length)
      fun _ reached => Stays device reached ∧
        (ChipView.Steady device → ChipView.Lost reached) := by
  refine session_ends (fun ready stays isOpen => ?_)
    (fun _ _ stays unsteady => ⟨stays, fun steady => absurd steady unsteady⟩) ?_ ?_
  · refine (NorDevice.erase_ends isOpen (stays.shape ▸ encloses) (stays.shape ▸ aligned)
      (stays.shape ▸ whole)).mono ?_ ?_
    · intro _ reached ended
      obtain ⟨kept, powered, erased⟩ := ended
      rw [stays.cells, stays.shape] at erased
      exact ⟨stays.toKeeps.trans kept, powered ∘ stays.lost, erased⟩
    · intro cause reached ended
      obtain ⟨later, spent⟩ := ended
      exact ⟨stays.trans later, fun steady => later.lost (spent (stays.steady steady))⟩
  · intro _ reached ended
    obtain ⟨kept, powered, erased⟩ := ended
    have closed := NorDevice.closeDevice_stays reached
    exact ⟨kept.trans closed.toKeeps, powered, closed.cells.trans erased⟩
  · intro cause reached ended
    obtain ⟨stays, spent⟩ := ended
    exact ⟨stays_closeDevice stays,
      fun steady => (NorDevice.closeDevice_stays reached).lost (spent steady)⟩

end Flash.BlockDevice

/-! ## Runs -/

/-- Nonempty runs, each of which starts where the one before it ends. -/
def Chained : Nat → List (Nat × Bytes) → Prop
  | _, [] => True
  | offset, (start, run) :: runs => start = offset ∧ run ≠ [] ∧ Chained (offset + run.length) runs

/-- The runs of some data are chained. -/
theorem chained_blockRuns (blockSize offset : Nat) (data : Bytes) :
    Chained offset (blockRuns blockSize offset data) := by
  induction data generalizing offset with
  | nil => trivial
  | cons byte rest ih =>
      have later := ih (offset + 1)
      rw [blockRuns]
      split
      · exact ⟨rfl, List.cons_ne_nil _ _, trivial⟩
      · rename_i start run runs cut
        rw [cut] at later
        obtain ⟨rfl, nonempty, chained⟩ := later
        split
        · exact ⟨rfl, List.cons_ne_nil _ _, rfl, nonempty, chained⟩
        · refine ⟨rfl, List.cons_ne_nil _ _, ?_⟩
          rwa [List.length_cons, Nat.add_comm run.length, ← Nat.add_assoc]

namespace SegmentDriver

variable [BlockDevice δ] [NorDevice δ]

/-- Writing chained runs programs all of their bytes, or the bytes up to the one at which it
stopped. -/
theorem writeRuns_ends {runs : List (Nat × Bytes)} {offset : Nat} {device : δ}
    (isOpen : ChipView.IsOpen device) (chained : Chained offset runs)
    (within : ∀ run ∈ runs,
      run.1 % (shape device).blockSize + run.2.length ≤ (shape device).blockSize)
    (encloses : (shape device).Encloses offset (runs.flatMap Prod.snd).length) :
    (writeRuns runs).Ends device
      (fun _ reached => Keeps device reached ∧ (runs ≠ [] → ¬ ChipView.Lost device) ∧
        cells reached = (cells device).program (offset - (shape device).regionOffset)
          (runs.flatMap Prod.snd))
      fun _ reached => Torn offset (runs.flatMap Prod.snd) device reached := by
  suffices claim : (writeRuns runs).Ends device
      (fun _ reached => Keeps device reached ∧ (runs ≠ [] → ¬ ChipView.Lost device) ∧
        cells reached = (cells device).program (offset - (shape device).regionOffset)
          (runs.flatMap Prod.snd))
      fun _ reached => runs ≠ [] ∧ Torn offset (runs.flatMap Prod.snd) device reached from
    claim.mono (fun _ _ => id) fun _ _ failed => failed.2
  induction runs generalizing offset device with
  | nil => exact .pure ⟨.refl device, fun missing => absurd rfl missing, rfl⟩
  | cons head runs ih =>
      obtain ⟨start, run⟩ := head
      obtain ⟨rfl, nonempty, chained⟩ := chained
      obtain ⟨ends, first, last⟩ := encloses
      rw [List.flatMap_cons] at last ⊢
      rw [List.length_append] at last
      dsimp only at last ⊢
      have positive : 0 < run.length := List.length_pos_iff.2 nonempty
      refine .chain (NorDevice.write_ends isOpen nonempty ⟨ends, first, by omega⟩
        (within _ List.mem_cons_self)) ?_ ?_
      · intro cause reached torn
        obtain ⟨count, fewer, dead, programmed⟩ := torn.programmed
        have fewer := fewer nonempty
        refine ⟨List.cons_ne_nil _ _, torn.toKeeps, torn.spent, count, fun _ => ?_, dead, ?_⟩
        · rw [List.length_append]
          omega
        · rw [programmed, List.take_append_of_le_length (Nat.le_of_lt fewer)]
      · intro _ middle ended
        obtain ⟨kept, opened, powered, programmed⟩ := ended
        apply Action.Ends.lift_bind (Word.add_of_lt (by omega))
        refine (ih opened chained (kept.shape ▸ fun run member => within run (.tail _ member))
          (kept.shape ▸ ⟨ends, by omega, by omega⟩)).mono ?_ ?_
        · intro _ reached ended
          obtain ⟨further, -, rest⟩ := ended
          refine ⟨kept.trans further, fun _ => powered, ?_⟩
          rw [rest, programmed, kept.shape, Nat.sub_add_comm first, ← Cells.program_append]
        · intro cause reached ended
          obtain ⟨more, torn⟩ := ended
          have remains : runs.flatMap Prod.snd ≠ [] := by
            obtain - | ⟨⟨next, rest⟩, later⟩ := runs
            · exact absurd rfl more
            · obtain ⟨-, filled, -⟩ := chained
              rw [List.flatMap_cons]
              exact fun empty => filled (List.append_eq_nil_iff.1 empty).1
          obtain ⟨count, fewer, -, rest⟩ := torn.programmed
          have fewer := fewer remains
          refine ⟨List.cons_ne_nil _ _, kept.trans torn.toKeeps,
            fun steady => torn.spent (kept.steady steady), run.length + count, fun _ => ?_,
            fun gone => absurd gone powered, ?_⟩
          · rw [List.length_append]
            omega
          · rw [rest, programmed, kept.shape, Nat.sub_add_comm first, ← Cells.program_append,
              List.take_length_add_append]

theorem session_writeRuns_ends {device : δ} {offset : Nat} {data : Bytes}
    (encloses : (shape device).Encloses offset data.length) :
    (BlockDevice.session (writeRuns (blockRuns (shape device).blockSize offset data))).Ends device
      (fun _ reached => Keeps device reached ∧ (data ≠ [] → ¬ ChipView.Lost device) ∧
        cells reached = (cells device).program (offset - (shape device).regionOffset) data)
      fun _ reached => Torn offset data device reached := by
  have bytes := blockRuns_bytes (shape device).blockSize offset data
  have chained := chained_blockRuns (shape device).blockSize offset data
  have within : ∀ run ∈ blockRuns (shape device).blockSize offset data,
      run.1 % (shape device).blockSize + run.2.length ≤ (shape device).blockSize :=
    fun _ => blockRuns_within (NorDevice.valid device).blockSize_pos offset data
  refine BlockDevice.session_ends (fun ready stays isOpen => ?_) (fun cause reached stays unsteady => ?_)
    ?_ ?_
  · refine (writeRuns_ends isOpen chained ?_ ?_).mono ?_ ?_
    · rwa [stays.shape]
    · rwa [stays.shape, bytes]
    · intro _ reached ended
      obtain ⟨kept, powered, programmed⟩ := ended
      rw [stays.shape, bytes, stays.cells] at programmed
      refine ⟨stays.toKeeps.trans kept, fun filled lost => ?_, programmed⟩
      refine powered (fun empty => filled ?_) (stays.lost lost)
      rw [← bytes, empty, List.flatMap_nil]
    · intro cause reached torn
      rw [bytes] at torn
      exact torn.after stays
  · exact ⟨stays.toKeeps, fun steady => absurd steady unsteady, 0, List.length_pos_iff.2,
      fun _ => rfl, stays.cells⟩
  · intro _ reached ended
    obtain ⟨kept, powered, programmed⟩ := ended
    have closed := NorDevice.closeDevice_stays reached
    exact ⟨kept.trans closed.toKeeps, powered, closed.cells.trans programmed⟩
  · intro cause reached torn
    exact torn.before (NorDevice.closeDevice_stays reached)

/-! ## The range of a segment -/

/-- The place among the cells at which a range starts. -/
def base (driver : SegmentDriver δ) (entry : MapEntry) : Nat :=
  entry.start - (shape driver.device).regionOffset

/-- The driver has moved on and no cell has changed. -/
structure Remains (before after : SegmentDriver δ) : Prop extends Follows before after where
  cells : cells after.device = cells before.device

/-- A program that failed on the way has reached a proper part of its cells. -/
structure Broken (start : Nat) (data : Bytes) (before after : SegmentDriver δ) : Prop
    extends Follows before after where
  spent : ChipView.Steady before.device → ChipView.Lost after.device
  programmed : ∃ count, (data ≠ [] → count < data.length) ∧
    (ChipView.Lost before.device → count = 0) ∧
    ChipView.cells after.device = (ChipView.cells before.device).program start (data.take count)

variable {driver reached : SegmentDriver δ} {segment : Segment} {entry : MapEntry}
  {ε α : Type} {offset length : Nat} {data : Bytes}

theorem Remains.refl (driver : SegmentDriver δ) : Remains driver driver := ⟨.refl driver, rfl⟩

theorem Remains.trans {middle : SegmentDriver δ} (one : Remains driver middle)
    (two : Remains middle reached) : Remains driver reached :=
  ⟨one.toFollows.trans two.toFollows, two.cells.trans one.cells⟩

theorem Follows.base (follows : Follows driver reached) (entry : MapEntry) :
    reached.base entry = driver.base entry := by
  rw [SegmentDriver.base, follows.keeps.shape, SegmentDriver.base]

/-- Over a driver with a sound map, a part of a range may be accessed. -/
theorem Sound.encloses (sound : driver.Sound) (mapped : driver.Mapped segment entry)
    (inside : offset + length ≤ entry.reserved) :
    (shape driver.device).Encloses (entry.start + offset) length := by
  have fits := sound.fits mapped
  have first := fits.first
  have last := fits.last
  rw [MapEntry.past] at last
  exact ⟨sound.ends mapped, by omega, by omega⟩

theorem Sound.start_add (sound : driver.Sound) (mapped : driver.Mapped segment entry) (offset : Nat) :
    entry.start + offset - (shape driver.device).regionOffset = driver.base entry + offset :=
  Nat.sub_add_comm (sound.fits mapped).first

theorem Sound.base_add_le (sound : driver.Sound) (mapped : driver.Mapped segment entry) :
    driver.base entry + entry.reserved ≤ (cells driver.device).size := by
  have fits := sound.fits mapped
  have first := fits.first
  have last := fits.last
  rw [MapEntry.past] at last
  rw [NorDevice.size_cells, base]
  omega

omit [NorDevice δ] in
/-- An access to the device changes nothing else of the driver. -/
theorem onDevice_ends [NorDevice δ] {access : Action δ ε α} {done : α → SegmentDriver δ → Prop}
    {failed : ε → SegmentDriver δ → Prop}
    (judged : access.Ends driver.device
      (fun result device => done result { driver with device })
      fun cause device => failed cause { driver with device }) :
    (onDevice access).Ends driver done failed := by
  rcases judged.cases with ⟨result, device, ends, holds⟩ | ⟨cause, device, ends, holds⟩
  · exact .of_value (by rw [onDevice, ends]) holds
  · exact .of_error (by rw [onDevice, ends]) holds

theorem memoryMap?_of_mapped (sound : driver.Sound) (mapped : driver.Mapped segment entry) :
    ∃ map, driver.memoryMap? = some map ∧ map.geometry = shape driver.device := by
  obtain ⟨map, known, -⟩ := mapped
  exact ⟨map, by rw [memoryMap?, known], (sound.grown map known).laidOut.geometry_eq⟩

/-- Opening and closing the device. -/
theorem onDevice_pure_ends (driver : SegmentDriver δ) :
    (onDevice (BlockDevice.session (pure () : Action δ FlashError Unit))).Ends driver
      (fun _ reached => Remains driver reached)
      fun _ reached => Remains driver reached ∧ ¬ ChipView.Steady driver.device := by
  refine onDevice_ends ((BlockDevice.session_pure_ends driver.device).mono ?_ ?_)
  · exact fun _ device stays => ⟨⟨rfl, rfl, stays.toKeeps⟩, stays.cells⟩
  · exact fun _ device failed => ⟨⟨⟨rfl, rfl, failed.1.toKeeps⟩, failed.1.cells⟩, failed.2⟩

/-- Reading a part of the range. -/
theorem onDevice_read_ends (sound : driver.Sound) (mapped : driver.Mapped segment entry)
    (inside : offset + length ≤ entry.reserved) :
    (onDevice (BlockDevice.session (BlockDevice.read (entry.start + offset) length))).Ends driver
      (fun bytes reached => Remains driver reached ∧
        bytes = (cells driver.device).slice (driver.base entry + offset) length)
      fun _ reached => Remains driver reached ∧ ¬ ChipView.Steady driver.device := by
  refine onDevice_ends ((BlockDevice.session_read_ends (sound.encloses mapped inside)).mono ?_ ?_)
  · intro bytes device ended
    obtain ⟨stays, holds⟩ := ended
    rw [sound.start_add mapped] at holds
    exact ⟨⟨⟨rfl, rfl, stays.toKeeps⟩, stays.cells⟩, holds⟩
  · intro cause device ended
    obtain ⟨stays, unsteady⟩ := ended
    exact ⟨⟨⟨rfl, rfl, stays.toKeeps⟩, stays.cells⟩, unsteady⟩

/-- Programming is writing runs to the device. -/
theorem program_eq (asked : Segment) (sound : driver.Sound) (mapped : driver.Mapped segment entry)
    (start : Nat) (data : Bytes) :
    program asked start data driver =
      ((onDevice (BlockDevice.session (writeRuns
        (blockRuns (shape driver.device).blockSize start data)))).mapError
          (.writeFailure asked)) driver := by
  obtain ⟨map, known, same⟩ := memoryMap?_of_mapped sound mapped
  rw [program, Action.get_bind, known, ← same]

/-- Programming data into the range. -/
theorem program_ends (asked : Segment) (sound : driver.Sound)
    (mapped : driver.Mapped segment entry) (inside : offset + data.length ≤ entry.reserved) :
    (program asked (entry.start + offset) data).Ends driver
      (fun _ reached => Follows driver reached ∧ (data ≠ [] → ¬ ChipView.Lost driver.device) ∧
        cells reached.device =
          (cells driver.device).program (driver.base entry + offset) data)
      fun _ reached => Broken (driver.base entry + offset) data driver reached := by
  have encloses := sound.encloses mapped inside
  apply Action.Ends.of_eq (program_eq asked sound mapped ..)
  refine .mapError (onDevice_ends ((session_writeRuns_ends encloses).mono ?_ ?_))
  · intro _ device ended
    obtain ⟨kept, powered, programmed⟩ := ended
    rw [sound.start_add mapped] at programmed
    exact ⟨⟨rfl, rfl, kept⟩, powered, programmed⟩
  · rintro cause device torn
    have programmed := torn.programmed
    rw [sound.start_add mapped] at programmed
    exact ⟨⟨rfl, rfl, torn.toKeeps⟩, torn.spent, programmed⟩

/-- Erasing whole blocks from the start of the range. -/
theorem onDevice_erase_ends (sound : driver.Sound) (mapped : driver.Mapped segment entry)
    (inside : length ≤ entry.reserved) (whole : length % (shape driver.device).blockSize = 0) :
    (onDevice (BlockDevice.session (BlockDevice.erase entry.start length))).Ends driver
      (fun _ reached => Follows driver reached ∧ ¬ ChipView.Lost driver.device ∧
        cells reached.device = (cells driver.device).erase (driver.base entry) length)
      fun _ reached => Remains driver reached ∧
        (ChipView.Steady driver.device → ChipView.Lost reached.device) := by
  have encloses : (shape driver.device).Encloses (entry.start + 0) length :=
    sound.encloses mapped (by omega)
  refine onDevice_ends ((BlockDevice.session_erase_ends encloses (sound.fits mapped).aligned
    whole).mono ?_ ?_)
  · intro _ device ended
    obtain ⟨kept, powered, erased⟩ := ended
    exact ⟨⟨rfl, rfl, kept⟩, powered, erased⟩
  · intro cause device ended
    obtain ⟨stays, spent⟩ := ended
    exact ⟨⟨⟨rfl, rfl, stays.toKeeps⟩, stays.cells⟩, spent⟩

end SegmentDriver

end NorStore
