/-
# Runs and the blocks under them

Data is programmed in runs, one for each erase block that some of it lies in. Over a device on
which nothing fails nobody can tell from the cells that it was cut: each of them holds what it held
together with the byte over it. Nor can it be told when power is cut on the way, for what has been
programmed then is the front of the data, as long as there was power, whichever run that ends in.

Nothing is assumed of the data but that it lies in the region. A driver that has a map knows that
the region ends at a word, so offsets in the region do not overflow.
-/

import Mathlib.Data.Finset.Card
import Mathlib.Data.Finset.Image
import Mathlib.Data.Finset.Range
import NorStore.Proofs.Driver.Chunks
import NorStore.Proofs.Driver.Mirror
import NorStore.Proofs.Driver.Power

namespace NorStore

open NorStore.Flash (BlockDevice Cells ChipView Demand Faults Faulty FlashError Geometry
  MemoryFlash NorDevice Watched)
open NorStore.Flash.ChipView (cells shape)

/-! ## Runs and blocks -/

section Blocks

variable {blockSize offset length block : Nat}

/-- The blocks that some of that many bytes from an offset on lie in, by their numbers. -/
def blocksUnder (blockSize offset length : Nat) : Finset Nat :=
  (Finset.range length).image fun place => (offset + place) / blockSize

theorem mem_blocksUnder : block ∈ blocksUnder blockSize offset length ↔
    ∃ place < length, (offset + place) / blockSize = block := by
  simp [blocksUnder]

/-- The first byte lies in a block, and the others begin at the next offset. -/
theorem blocksUnder_succ (blockSize offset length : Nat) :
    blocksUnder blockSize offset (length + 1) =
      insert (offset / blockSize) (blocksUnder blockSize (offset + 1) length) := by
  ext block
  rw [Finset.mem_insert, mem_blocksUnder, mem_blocksUnder]
  constructor
  · rintro ⟨_ | place, below, rfl⟩
    · exact .inl rfl
    · exact .inr ⟨place, by omega, by rw [Nat.add_assoc, Nat.add_comm 1]⟩
  · rintro (rfl | ⟨place, below, rfl⟩)
    · exact ⟨0, by omega, rfl⟩
    · exact ⟨place + 1, by omega, by rw [Nat.add_assoc, Nat.add_comm 1]⟩

/-- The block of an offset is behind, once the next one starts a block. -/
private theorem notMem_blocksUnder (starts : (offset + 1) % blockSize = 0) (length : Nat) :
    offset / blockSize ∉ blocksUnder blockSize (offset + 1) length := by
  rw [mem_blocksUnder]
  rintro ⟨place, -, same⟩
  have next := Nat.succ_div_of_dvd (Nat.dvd_of_mod_eq_zero starts)
  have later : (offset + 1) / blockSize ≤ (offset + 1 + place) / blockSize :=
    Nat.div_le_div_right (Nat.le_add_right ..)
  omega

/-- There are as many runs as there are blocks under the data. -/
theorem length_blockRuns (blockSize offset : Nat) (data : Bytes) :
    (blockRuns blockSize offset data).length = (blocksUnder blockSize offset data.length).card := by
  induction data generalizing offset with
  | nil => rfl
  | cons byte rest ih =>
      have later := ih (offset + 1)
      have bytes := blockRuns_bytes blockSize (offset + 1) rest
      rw [List.length_cons, blocksUnder_succ, blockRuns]
      -- A byte is the end of a run where the next offset starts a block, and its block is not
      -- under the rest then. Everywhere else the next byte lies in the same block.
      split
      · rename_i cut
        rw [cut] at bytes
        subst bytes
        rfl
      · rename_i start run runs cut
        rw [cut] at later bytes
        rw [start_of_blockRuns cut]
        split
        · rename_i starts
          rw [Finset.card_insert_of_notMem (notMem_blocksUnder starts _), ← later]
          rfl
        · rename_i goesOn
          have same := Nat.succ_div_of_not_dvd (mt Nat.mod_eq_zero_of_dvd goesOn)
          have remains : 0 < rest.length := by
            rw [List.length_pos_iff]
            rintro rfl
            cases cut
          rw [Finset.insert_eq_of_mem (mem_blocksUnder.2 ⟨0, remains, same⟩), ← later]
          rfl

/-- The runs are those of a loop that writes what there is room for in the block, as long as there
is data left. -/
theorem blockRuns_of_ne_nil (nonempty : 0 < blockSize) (offset : Nat) {data : Bytes}
    (filled : data ≠ []) :
    let length := min (blockSize - offset % blockSize) data.length
    blockRuns blockSize offset data =
      (offset, data.take length) ::
        blockRuns blockSize (offset + length) (data.drop length) := by
  induction data generalizing offset with
  | nil => exact absurd rfl filled
  | cons byte rest ih =>
      have below := Nat.mod_lt offset nonempty
      by_cases single : rest = []
      · subst single
        have one : min (blockSize - offset % blockSize) [byte].length = 1 := by
          simp only [List.length_singleton]
          omega
        rw [one]
        rfl
      have here := Nat.div_add_mod offset blockSize
      have next := Nat.div_add_mod (offset + 1) blockSize
      have positive : 0 < rest.length := List.length_pos_iff.2 single
      have cut := ih (offset + 1) single
      rw [List.length_cons]
      -- The room in the block is one byte less at the next offset, unless a block starts there.
      by_cases starts : (offset + 1) % blockSize = 0
      · rw [Nat.succ_div_of_dvd (Nat.dvd_of_mod_eq_zero starts), Nat.mul_succ] at next
        have one : min (blockSize - offset % blockSize) (rest.length + 1) = 1 := by omega
        rw [one, blockRuns, cut]
        simp only [starts, if_true, List.drop_succ_cons, List.drop_zero, cut]
        rfl
      · rw [Nat.succ_div_of_not_dvd (mt Nat.mod_eq_zero_of_dvd starts)] at next
        have more : min (blockSize - offset % blockSize) (rest.length + 1) =
            min (blockSize - (offset + 1) % blockSize) rest.length + 1 := by omega
        rw [more, blockRuns, cut]
        simp only [starts, if_false, List.drop_succ_cons, List.take_succ_cons]
        rw [Nat.add_assoc, Nat.add_comm 1]

end Blocks

/-! ## What is written -/

namespace Flash

/-- A demand that was answered by a value is written down with it. -/
theorem Watched.note_eq_value {δ α : Type} {kind : DemandKind} {offset length : Nat}
    {access : Action δ FlashError α} {watched reached : Watched δ} {result : α}
    (noted : note kind offset length access watched = (.value result, reached)) :
    ∃ device, reached =
      watched.answered device ⟨kind, offset, length, watched.isOpen, .value ()⟩ := by
  rw [note] at noted
  rcases answer : access watched.device with ⟨_ | _ | _, device⟩
  all_goals
    rw [answer] at noted
    cases noted
  exact ⟨device, rfl⟩

/-- A device that was opened has been asked for nothing else. -/
theorem Watched.openDevice_eq_value {δ : Type} [BlockDevice δ] {watched reached : Watched δ}
    (opens : (BlockDevice.openDevice : Action _ FlashError Unit) watched = (.value (), reached)) :
    reached.isOpen = true ∧ reached.demands = watched.demands := by
  change openDevice watched = _ at opens
  rw [openDevice] at opens
  rcases answer : BlockDevice.openDevice watched.device with ⟨_ | _ | _, device⟩
  all_goals
    rw [answer] at opens
    cases opens
  exact ⟨rfl, rfl⟩

/-- The demand of a run that was written to an open device. -/
def Demand.ofRun (run : Nat × Bytes) : Demand := ⟨.write, run.1, run.2.length, true, .value ()⟩

end Flash

namespace SegmentDriver

section Watching

variable {δ : Type} [BlockDevice δ] {runs : List (Nat × Bytes)} {watched reached : Watched δ}

/-- Each run is one demand. -/
theorem writeRuns_demands (isOpen : watched.isOpen = true)
    (writes : writeRuns runs watched = (.value (), reached)) :
    reached.demands = watched.demands ++ runs.map Demand.ofRun := by
  induction runs generalizing watched with
  | nil =>
      cases writes
      rw [List.map_nil, List.append_nil]
  | cons head runs ih =>
      obtain ⟨_, middle, first, rest⟩ := Action.bind_eq_value_iff.1 writes
      obtain ⟨_, _, advances, later⟩ := Action.bind_eq_value_iff.1 rest
      obtain ⟨-, rfl⟩ := Prod.mk.inj advances
      obtain ⟨device, rfl⟩ := Watched.note_eq_value first
      have further := ih (show (watched.answered device _).isOpen = true from isOpen) later
      rw [further, List.map_cons, Watched.answered, isOpen, List.append_assoc]
      rfl

/-- A session asks for nothing but what its access asks for. -/
theorem session_writeRuns_demands
    (writes : BlockDevice.session (writeRuns runs) watched = (.value (), reached)) :
    reached.demands = watched.demands ++ runs.map Demand.ofRun := by
  rw [BlockDevice.session] at writes
  split at writes
  · cases writes
  · cases writes
  · rename_i ready opens
    obtain ⟨isOpen, same⟩ := Watched.openDevice_eq_value opens
    split at writes
    · cases writes
    · rename_i outcome finished _ ends
      obtain ⟨rfl, rfl⟩ := Prod.mk.inj writes
      have made := writeRuns_demands isOpen ends
      rwa [same] at made

end Watching

/-! ## Programming in runs -/

/-- The same driver over another device. -/
def onto {δ ω : Type} (driver : SegmentDriver δ) (device : ω) : SegmentDriver ω :=
  ⟨device, driver.capacities, driver.planner⟩

theorem program_of_mapped {δ : Type} [BlockDevice δ] {driver : SegmentDriver δ} {map : MemoryMap}
    (known : driver.planner = .mapped map) (asked : Segment) (start : Nat) (data : Bytes) :
    program asked start data driver =
      ((onDevice (BlockDevice.session (writeRuns
        (blockRuns map.geometry.blockSize start data)))).mapError
          (.writeFailure asked)) driver := by
  have found : driver.memoryMap? = some map := by rw [memoryMap?, known]
  rw [program, Action.get_bind, found]

/-- Programming asks a watched device for its runs, and for nothing else. -/
theorem program_demands {δ : Type} [BlockDevice δ] {driver reached : SegmentDriver (Watched δ)}
    {map : MemoryMap} {asked : Segment} {start : Nat} {data : Bytes}
    (known : driver.planner = .mapped map)
    (programs : program asked start data driver = (.value (), reached)) :
    reached.device.demands = driver.device.demands ++
      (blockRuns map.geometry.blockSize start data).map Demand.ofRun := by
  rw [program_of_mapped known, Action.mapError_eq_value_iff, onDevice] at programs
  rcases ends : BlockDevice.session (writeRuns (blockRuns map.geometry.blockSize start data))
    driver.device with ⟨_ | _ | _, device⟩
  all_goals
    rw [ends] at programs
    cases programs
  exact session_writeRuns_demands ends

/-- Under the data the cells hold what they held together with it, and elsewhere what they held. -/
structure Imposed (start : Nat) (data : Bytes) (before after : Cells) : Prop where
  under : after.slice start data.length =
    List.zipWith (· &&& ·) (before.slice start data.length) data
  outside : Cells.AgreeOutside start data.length before after

theorem Imposed.program (before : Cells) (start : Nat) (data : Bytes) :
    Imposed start data before (before.program start data) :=
  ⟨Cells.slice_program .., Cells.agreeOutside_program before start data⟩

section Programming

variable {δ : Type} [BlockDevice δ] [NorDevice δ] {driver : SegmentDriver δ} {map : MemoryMap}
  {start : Nat} {data : Bytes}

theorem Sound.geometry_eq (sound : driver.Sound) (known : driver.planner = .mapped map) :
    map.geometry = shape driver.device := (sound.grown map known).laidOut.geometry_eq

theorem program_imposes (sound : driver.Sound) (known : driver.planner = .mapped map)
    (healthy : ChipView.Healthy driver.device) (asked : Segment)
    (encloses : (shape driver.device).Encloses start data.length) :
    (program asked start data).Ends driver
      (fun _ reached => Imposed (start - (shape driver.device).regionOffset) data
        (cells driver.device) (cells reached.device))
      fun _ _ => False := by
  apply Action.Ends.of_eq (program_of_mapped known ..)
  rw [sound.geometry_eq known]
  refine .mapError (onDevice_ends ((session_writeRuns_ends encloses).mono ?_ ?_))
  · intro _ device ended
    obtain ⟨-, -, programmed⟩ := ended
    rw [programmed]
    exact .program ..
  · intro cause device torn
    exact NorDevice.not_lost_of_healthy (torn.healthy healthy)
      (torn.spent (NorDevice.steady_of_healthy healthy))

/-- If there is power for a part of the data, programming fails, and has programmed this part. -/
theorem program_cutOff {driver : SegmentDriver (Faulty δ)} {left : Nat} (sound : driver.Sound)
    (known : driver.planner = .mapped map) (ready : driver.device.Ready)
    (limit : driver.device.faults.powerLeft = some left) (few : left < data.length)
    (asked : Segment) (encloses : (shape driver.device).Encloses start data.length) :
    (program asked start data).Ends driver (fun _ _ => False)
      fun failure reached => (∃ cause, failure = .writeFailure asked cause) ∧
        cells reached.device = (cells driver.device).program
          (start - (shape driver.device).regionOffset) (data.take left) := by
  apply Action.Ends.of_eq (program_of_mapped known ..)
  rw [sound.geometry_eq known]
  refine .mapError (onDevice_ends ((session_writeRuns_costs ready encloses).mono ?_ ?_))
  · intro _ device spends
    have lasts := spends.lasts
    rw [Faults.lastsFor, limit] at lasts
    exact Nat.not_le.2 few (of_decide_eq_true lasts)
  · intro cause device cut
    obtain ⟨count, limited, -, programmed⟩ := cut.programmed
    rw [limit] at limited
    cases limited
    exact ⟨⟨cause, rfl⟩, programmed⟩

/-- How data is cut into runs shows neither in the cells nor in what a power cut leaves of it. -/
theorem program_in_runs (sound : driver.Sound) (known : driver.planner = .mapped map)
    (healthy : ChipView.Healthy driver.device) (asked : Segment)
    (first : (shape driver.device).regionOffset ≤ start)
    (last : start + data.length ≤
      (shape driver.device).regionOffset + (shape driver.device).regionSize) :
    let geometry := shape driver.device
    let place := start - geometry.regionOffset
    let watched : Watched δ := { device := driver.device }
    let demands := (program asked start data (driver.onto watched)).2.device.demands
    (program asked start data).Ends driver
      (fun _ reached => Imposed place data (cells driver.device) (cells reached.device))
      (fun _ _ => False) ∧
    demands.length = (blocksUnder geometry.blockSize start data.length).card ∧
    (∀ demand ∈ demands, demand.kind = .write ∧ demand.answer = .value () ∧
      geometry.Within demand.offset demand.length) ∧
    ∀ (faults : Faults) (left : Nat), (⟨driver.device, faults⟩ : Faulty δ).Ready →
      faults.powerLeft = some left → left < data.length →
      (program asked start data).Ends (driver.onto (⟨driver.device, faults⟩ : Faulty δ))
        (fun _ _ => False)
        fun failure reached => (∃ cause, failure = .writeFailure asked cause) ∧
          Imposed place (data.take left) (cells driver.device) (cells reached.device) := by
  intro geometry place watched demands
  have encloses : geometry.Encloses start data.length :=
    ⟨(sound.grown map known).laidOut.ends, first, last⟩
  have imposes := program_imposes sound known healthy asked encloses
  have made : demands = (blockRuns geometry.blockSize start data).map Demand.ofRun := by
    obtain ⟨_, reached, programs, -⟩ := imposes.exists_value
    have mirrors : Mirrors (program asked start data) (program asked start data)
      (driver.onto watched) := mirrors_program asked start data
    have same : (program asked start data (driver.onto watched)).1 = .value () :=
      (congrArg Prod.fst mirrors).symm.trans (congrArg Prod.fst programs)
    have watches : program asked start data (driver.onto watched) = (.value (), _) :=
      Prod.ext same rfl
    have told := program_demands (show (driver.onto watched).planner = _ from known) watches
    rwa [sound.geometry_eq known] at told
  refine ⟨imposes, ?_, fun demand asks => ?_, fun faults left ready limit few => ?_⟩
  · rw [made, List.length_map, length_blockRuns]
  · rw [made] at asks
    obtain ⟨run, cut, rfl⟩ := List.mem_map.1 asks
    exact ⟨rfl, rfl, blockRuns_within (NorDevice.valid driver.device).blockSize_pos _ _ cut⟩
  · have same : (driver.onto (⟨driver.device, faults⟩ : Faulty δ)).Sound :=
      ⟨sound.honest, sound.grown⟩
    refine (program_cutOff same known ready limit few asked encloses).mono (fun _ _ => id) ?_
    rintro failure reached ⟨fails, programmed⟩
    rw [programmed]
    exact ⟨fails, .program ..⟩

end Programming

/-- A chip on which the upper half of every cell is programmed, and the empty map of it. -/
def halfDriver : SegmentDriver MemoryFlash where
  device := { stripChip with
    cells := Array.replicate 32 0x0f
    size_cells := Array.size_replicate }
  planner := .mapped
    { geometry := stripGeometry, valid := stripChip.valid, lowWater := 48 }

/-- Twelve bytes that begin two bytes before the end of a block lie in three of them. With power
for five they end in the second one. -/
theorem program_in_runs_sample :
    let data : Bytes := List.replicate 12 0x3c
    let watched := halfDriver.onto ({ device := halfDriver.device } : Watched MemoryFlash)
    let failing := halfDriver.onto
      (⟨halfDriver.device, ({} : Faults).cutPowerAfter 5⟩ : Faulty MemoryFlash)
    (program .uniqueId 22 data halfDriver).1 = .value () ∧
      (program .uniqueId 22 data watched).2.device.demands.length = 3 ∧
      (program .uniqueId 22 data).Ends failing (fun _ _ => False) fun _ reached =>
        (cells reached.device).slice 6 5 = List.replicate 5 0x0c ∧
          (cells reached.device).slice 11 21 = List.replicate 21 0x0f := by
  intro data watched failing
  have grown : MemoryMap.Grown stripGeometry
      { geometry := stripGeometry, valid := stripChip.valid, lowWater := 48 } := .empty (by rfl)
  have sound : halfDriver.Sound := by
    refine ⟨trivial, fun map known => ?_⟩
    cases known
    exact grown
  have ready : failing.device.Ready := ⟨rfl, rfl, rfl, trivial⟩
  obtain ⟨programs, count, -, cuts⟩ := program_in_runs sound rfl trivial .uniqueId
    (show 16 ≤ 22 by decide) (show 22 + data.length ≤ 16 + 32 by decide)
  have touched : (blocksUnder 8 22 12).card = 3 := by decide +kernel
  have shared : List.zipWith (· &&& ·) ((cells halfDriver.device).slice 6 5) (data.take 5) =
    List.replicate 5 0x0c := by decide +kernel
  have kept : (cells halfDriver.device).slice 11 21 = List.replicate 21 0x0f := by
    decide +kernel
  rw [show data.length = 12 from List.length_replicate,
    show (shape halfDriver.device).blockSize = 8 from rfl, touched] at count
  refine ⟨?_, count, ?_⟩
  · obtain ⟨_, reached, ends, -⟩ := programs.exists_value
    rw [ends]
  · refine (cuts _ 5 ready rfl (by decide)).mono (fun _ _ => id) ?_
    rintro _ reached ⟨-, imposed⟩
    have outside : (cells reached.device).slice 11 21 = (cells halfDriver.device).slice 11 21 :=
      Cells.slice_eq_of_agreeOutside imposed.outside (.inr (Nat.le_refl 11))
    exact ⟨imposed.under.trans shared, outside.trans kept⟩

end SegmentDriver

end NorStore
