/-
# Devices that behave like NOR flash

What the store needs from a device, said once for every device that can fail. A read
gives the contents of its range or an error; a write that succeeds programs all of its
data, and one that fails a proper part of it from the front; an erase happens or does
not. No access traps inside the region, and none of them changes the geometry.

How a device can fail is told by three conditions. A *steady* device fails only for want
of power, a device that has *lost* its power neither programs nor erases until its faults
are cleared, and on a *healthy* device nothing fails. A device is *honest* if the geometry
that it reports is its own. The memory chip and both wrappers satisfy these laws.
-/

import NorStore.Flash.Faulty
import NorStore.Flash.Glitchy
import NorStore.Flash.Memory
import NorStore.Proofs.Action

namespace NorStore.Flash

/-- The region ends at a word, and the range lies in it. -/
structure Geometry.Encloses (geometry : Geometry) (offset length : Nat) : Prop where
  ends : geometry.regionOffset + geometry.regionSize < Word.limit
  first : geometry.regionOffset ≤ offset
  last : offset + length ≤ geometry.regionOffset + geometry.regionSize

/-- What can be said of a device without accessing it. -/
class ChipView (δ : Type) where
  /-- The geometry of the chip, whatever the device reports. -/
  shape : δ → Geometry
  /-- The cells of the region. -/
  cells : δ → Cells
  IsOpen : δ → Prop
  /-- The geometry that is reported is the chip's. -/
  Honest : δ → Prop
  /-- Nothing fails, unless power is lost. -/
  Steady : δ → Prop
  /-- Nothing is programmed or erased any more. -/
  Lost : δ → Prop
  /-- Nothing fails. -/
  Healthy : δ → Prop

/-- What an access leaves as it was. Power may be lost on the way, but does not return. -/
structure Keeps {δ : Type} [ChipView δ] (before after : δ) : Prop where
  shape : ChipView.shape after = ChipView.shape before
  honest : ChipView.Honest before → ChipView.Honest after
  steady : ChipView.Steady before → ChipView.Steady after
  lost : ChipView.Lost before → ChipView.Lost after
  healthy : ChipView.Healthy before → ChipView.Healthy after

/-- What an access leaves as it was if it does not change the cells. -/
structure Stays {δ : Type} [ChipView δ] (before after : δ) : Prop extends Keeps before after where
  cells : ChipView.cells after = ChipView.cells before

namespace Keeps

variable {δ : Type} [ChipView δ] {first second third : δ}

theorem refl (device : δ) : Keeps device device := ⟨rfl, id, id, id, id⟩

theorem trans (one : Keeps first second) (two : Keeps second third) : Keeps first third where
  shape := two.shape.trans one.shape
  honest := two.honest ∘ one.honest
  steady := two.steady ∘ one.steady
  lost := two.lost ∘ one.lost
  healthy := two.healthy ∘ one.healthy

end Keeps

namespace Stays

variable {δ : Type} [ChipView δ] {first second third : δ}

theorem refl (device : δ) : Stays device device := ⟨.refl device, rfl⟩

theorem trans (one : Stays first second) (two : Stays second third) : Stays first third :=
  ⟨one.toKeeps.trans two.toKeeps, two.cells.trans one.cells⟩

end Stays

/-- A write that failed has programmed a proper part of its data, from the front. -/
structure Torn {δ : Type} [ChipView δ] (offset : Nat) (data : Bytes) (before after : δ) : Prop
    extends Keeps before after where
  spent : ChipView.Steady before → ChipView.Lost after
  programmed : ∃ count, (data ≠ [] → count < data.length) ∧ (ChipView.Lost before → count = 0) ∧
    ChipView.cells after = (ChipView.cells before).program
      (offset - (ChipView.shape before).regionOffset) (data.take count)

namespace Torn

variable {δ : Type} [ChipView δ] {first second third : δ} {offset : Nat} {data : Bytes}

/-- A write that failed may have been preceded by an access that changed no cell. -/
theorem after (torn : Torn offset data second third) (stays : Stays first second) :
    Torn offset data first third where
  toKeeps := stays.toKeeps.trans torn.toKeeps
  spent steady := torn.spent (stays.steady steady)
  programmed := by
    obtain ⟨count, fewer, dead, programmed⟩ := torn.programmed
    rw [stays.cells, stays.shape] at programmed
    exact ⟨count, fewer, fun lost => dead (stays.lost lost), programmed⟩

/-- It may be followed by one as well. -/
theorem before (torn : Torn offset data first second) (stays : Stays second third) :
    Torn offset data first third where
  toKeeps := torn.toKeeps.trans stays.toKeeps
  spent steady := stays.lost (torn.spent steady)
  programmed := by
    obtain ⟨count, fewer, dead, programmed⟩ := torn.programmed
    exact ⟨count, fewer, dead, stays.cells.trans programmed⟩

end Torn

open ChipView in
/-- A device whose accesses do to its cells what NOR flash does, also when they fail. -/
class NorDevice (δ : Type) [BlockDevice δ] extends ChipView δ where
  valid (device : δ) : (shape device).Valid
  size_cells (device : δ) : (cells device).size = (shape device).regionSize
  steady_of_healthy {device : δ} : Healthy device → Steady device
  not_lost_of_healthy {device : δ} : Healthy device → ¬ Lost device
  geometry_eq {device : δ} {reported : Geometry} : Honest device →
    BlockDevice.geometry device = .ok reported → reported = shape device
  geometry_of_steady {device : δ} : Honest device → Steady device →
    BlockDevice.geometry device = .ok (shape device)
  openDevice_ends (device : δ) : (BlockDevice.openDevice : Action δ FlashError Unit).Ends device
    (fun _ reached => Stays device reached ∧ IsOpen reached)
    fun _ reached => Stays device reached ∧ ¬ Steady device
  closeDevice_stays (device : δ) : Stays device (BlockDevice.closeDevice device)
  read_ends {device : δ} {offset length : Nat} : IsOpen device →
    (shape device).Encloses offset length →
    (BlockDevice.read offset length).Ends device
      (fun bytes reached => Stays device reached ∧
        bytes = (cells device).slice (offset - (shape device).regionOffset) length)
      fun _ reached => Stays device reached ∧ ¬ Steady device
  write_ends {device : δ} {offset : Nat} {data : Bytes} : IsOpen device → data ≠ [] →
    (shape device).Encloses offset data.length →
    offset % (shape device).blockSize + data.length ≤ (shape device).blockSize →
    (BlockDevice.write offset data).Ends device
      (fun _ reached => Keeps device reached ∧ IsOpen reached ∧ ¬ Lost device ∧
        cells reached = (cells device).program (offset - (shape device).regionOffset) data)
      fun _ reached => Torn offset data device reached
  erase_ends {device : δ} {offset length : Nat} : IsOpen device →
    (shape device).Encloses offset length → offset % (shape device).blockSize = 0 →
    length % (shape device).blockSize = 0 →
    (BlockDevice.erase offset length).Ends device
      (fun _ reached => Keeps device reached ∧ ¬ Lost device ∧
        cells reached = (cells device).erase (offset - (shape device).regionOffset) length)
      fun _ reached => Stays device reached ∧ (Steady device → Lost device)

/-- The same chip in a device on which nothing fails. -/
structure Mended {δ : Type} [BlockDevice δ] [NorDevice δ] (device mended : δ) : Prop where
  healthy : ChipView.Healthy mended
  honest : ChipView.Honest mended
  shape : ChipView.shape mended = ChipView.shape device
  cells : ChipView.cells mended = ChipView.cells device

theorem Mended.geometry {δ : Type} [BlockDevice δ] [NorDevice δ] {device mended : δ}
    (same : Mended device mended) :
    BlockDevice.geometry mended = .ok (ChipView.shape device) := by
  rw [← same.shape]
  exact NorDevice.geometry_of_steady same.honest (NorDevice.steady_of_healthy same.healthy)

/-! ## The memory chip -/

namespace MemoryFlash

instance : ChipView MemoryFlash where
  shape flash := flash.geometry
  cells flash := flash.cells
  IsOpen flash := flash.isOpen = true
  Honest _ := True
  Steady _ := True
  Lost _ := False
  Healthy _ := True

/-- A chip is the same to the store whatever its counts. -/
private theorem keeps {before after : MemoryFlash} (same : after.geometry = before.geometry) :
    Keeps before after := ⟨same, id, id, id, id⟩

instance : NorDevice MemoryFlash where
  valid flash := flash.valid
  size_cells flash := flash.size_cells
  steady_of_healthy _ := trivial
  not_lost_of_healthy _ := id
  geometry_eq _ reported := (Except.ok.inj reported).symm
  geometry_of_steady _ _ := rfl
  openDevice_ends _ := .of_value rfl ⟨⟨keeps rfl, rfl⟩, rfl⟩
  closeDevice_stays _ := ⟨keeps rfl, rfl⟩
  read_ends {flash offset length} opened encloses := by
    have allowed : flash.geometry.checkRange flash.isOpen offset length = .value () :=
      (Geometry.checkRange_eq_value_iff encloses.ends).2 ⟨opened, encloses.first, encloses.last⟩
    have reads : BlockDevice.read offset length flash =
        (.value (flash.cells.slice (offset - flash.geometry.regionOffset) length), flash) := by
      simp only [BlockDevice.read, Action.observe, Action.guarded, allowed]
      rfl
    exact .of_value reads ⟨.refl flash, rfl⟩
  write_ends {flash offset data} opened _ encloses within := by
    have allowed : flash.geometry.checkWrite flash.isOpen offset data.length = .value () :=
      (Geometry.checkWrite_eq_value_iff flash.valid).2
        ⟨(Geometry.checkRange_eq_value_iff encloses.ends).2
          ⟨opened, encloses.first, encloses.last⟩, .inr within⟩
    have writes : BlockDevice.write offset data flash =
        (.value (), flash.programmed offset data) := by
      simp only [BlockDevice.write, Action.guarded, allowed]
    exact .of_value writes ⟨keeps rfl, opened, id, rfl⟩
  erase_ends {flash offset length} opened encloses aligned whole := by
    have allowed : flash.geometry.checkErase flash.isOpen offset length = .value () :=
      Geometry.checkErase_eq_value_iff.2
        ⟨(Geometry.checkRange_eq_value_iff encloses.ends).2
          ⟨opened, encloses.first, encloses.last⟩, aligned, whole⟩
    have erases : BlockDevice.erase offset length flash =
        (.value (), flash.erased offset length) := by
      simp only [BlockDevice.erase, Action.guarded, allowed]
    exact .of_value erases ⟨keeps rfl, id, rfl⟩

/-- The cells of a blank chip are erased. -/
theorem cells_of_blank {geometry : Geometry} {chip : MemoryFlash}
    (blank : MemoryFlash.blank? geometry = .ok chip) : chip.cells = geometry.blankCells := by
  rw [MemoryFlash.blank?] at blank
  cases checked : geometry.check.mapError FlashError.invalidGeometry with
  | error cause =>
      rw [checked] at blank
      contradiction
  | ok evidence =>
      rw [checked] at blank
      cases blank
      rfl

end MemoryFlash

/-! ## Injected faults -/

namespace Faulty

variable {δ : Type}

instance [ChipView δ] : ChipView (Faulty δ) where
  shape whole := ChipView.shape whole.device
  cells whole := ChipView.cells whole.device
  IsOpen whole := ChipView.IsOpen whole.device
  Honest whole := ChipView.Honest whole.device
  Steady whole := whole.faults.failOpen = false ∧ whole.faults.failErase = false ∧
    whole.faults.failGeometry = false ∧ ChipView.Steady whole.device
  Lost whole := whole.faults.powerLost = true ∨ ChipView.Lost whole.device
  Healthy whole := whole.faults.failOpen = false ∧ whole.faults.failErase = false ∧
    whole.faults.failGeometry = false ∧ whole.faults.powerLeft = none ∧
    whole.faults.powerLost = false ∧ ChipView.Healthy whole.device

/-- The switches of two sets of faults are the same, up to power that is spent or lost. -/
structure SameSwitches (before after : Faults) : Prop where
  failOpen : after.failOpen = before.failOpen
  failErase : after.failErase = before.failErase
  failGeometry : after.failGeometry = before.failGeometry
  powerLost : before.powerLost = true → after.powerLost = true
  unlimited : before.powerLeft = none → before.powerLost = false →
    after.powerLeft = none ∧ after.powerLost = false

private theorem keeps [ChipView δ] {before after : δ} {faults latest : Faults}
    (inner : Keeps before after) (switches : SameSwitches faults latest) :
    Keeps (⟨before, faults⟩ : Faulty δ) ⟨after, latest⟩ where
  shape := inner.shape
  honest := inner.honest
  steady := by
    intro ended
    obtain ⟨opens, erases, reports, steady⟩ := ended
    exact ⟨switches.failOpen.trans opens, switches.failErase.trans erases,
      switches.failGeometry.trans reports, inner.steady steady⟩
  lost := by
    rintro (lost | lost)
    · exact .inl (switches.powerLost lost)
    · exact .inr (inner.lost lost)
  healthy := by
    intro ended
    obtain ⟨opens, erases, reports, unlimited, powered, healthy⟩ := ended
    obtain ⟨stillUnlimited, stillPowered⟩ := switches.unlimited unlimited powered
    exact ⟨switches.failOpen.trans opens, switches.failErase.trans erases,
      switches.failGeometry.trans reports, stillUnlimited, stillPowered, inner.healthy healthy⟩

theorem SameSwitches.refl (faults : Faults) : SameSwitches faults faults :=
  ⟨rfl, rfl, rfl, id, .intro⟩

theorem SameSwitches.spend {before after : Faults} (switches : SameSwitches before after)
    (bytes : Nat) : SameSwitches before (after.spend bytes) where
  failOpen := switches.failOpen
  failErase := switches.failErase
  failGeometry := switches.failGeometry
  powerLost := switches.powerLost
  unlimited unlimited powered := by
    obtain ⟨left, lost⟩ := switches.unlimited unlimited powered
    exact ⟨by rw [Faults.spend, left]; rfl, lost⟩

/-- Power that is lost was limited. -/
theorem SameSwitches.cut {before after : Faults} {bytes : Nat}
    (switches : SameSwitches before after) (short : after.lastsFor bytes = false) :
    SameSwitches before { after with powerLost := true } where
  failOpen := switches.failOpen
  failErase := switches.failErase
  failGeometry := switches.failGeometry
  powerLost _ := rfl
  unlimited unlimited powered := by
    rw [Faults.lastsFor, (switches.unlimited unlimited powered).1] at short
    contradiction

variable [BlockDevice δ] [NorDevice δ] {device : δ} {faults : Faults} {offset length : Nat}
  {data : Bytes}

private theorem openDevice_ends (device : δ) (faults : Faults) :
    (Faulty.openDevice : Action (Faulty δ) FlashError Unit).Ends ⟨device, faults⟩
      (fun _ reached => Stays ⟨device, faults⟩ reached ∧ ChipView.IsOpen reached)
      fun _ reached => Stays ⟨device, faults⟩ reached ∧ ¬ ChipView.Steady (⟨device, faults⟩ : Faulty δ) := by
  by_cases refused : faults.failOpen = true
  · refine .of_error (by rw [Faulty.openDevice, if_pos refused]) ⟨.refl _, ?_⟩
    intro ended
    obtain ⟨opens, -⟩ := ended
    rw [refused] at opens
    contradiction
  · rcases (NorDevice.openDevice_ends device).cases with
      ⟨_, ready, opens, stays, isOpen⟩ | ⟨cause, reached, fails, stays, unsteady⟩
    · have ready : Faulty.openDevice (⟨device, faults⟩ : Faulty δ) =
          (.value (), ⟨ready, { faults with opens := faults.opens + 1 }⟩) := by
        rw [Faulty.openDevice, if_neg refused, opens]
      exact .of_value ready ⟨⟨keeps stays.toKeeps ⟨rfl, rfl, rfl, id, .intro⟩, stays.cells⟩, isOpen⟩
    · exact .of_error (by rw [Faulty.openDevice, if_neg refused, fails])
        ⟨⟨keeps stays.toKeeps (.refl faults), stays.cells⟩, fun steady => unsteady steady.2.2.2⟩

private theorem read_ends (opened : ChipView.IsOpen device)
    (encloses : (ChipView.shape device).Encloses offset length) :
    (BlockDevice.read offset length).Ends (⟨device, faults⟩ : Faulty δ)
      (fun bytes reached => Stays ⟨device, faults⟩ reached ∧
        bytes = (ChipView.cells device).slice (offset - (ChipView.shape device).regionOffset) length)
      fun _ reached => Stays ⟨device, faults⟩ reached ∧
        ¬ ChipView.Steady (⟨device, faults⟩ : Faulty δ) := by
  rcases (NorDevice.read_ends opened encloses).cases with
    ⟨bytes, reached, inner, stays, holds⟩ | ⟨cause, reached, inner, stays, unsteady⟩
  · have reads : BlockDevice.read offset length (⟨device, faults⟩ : Faulty δ) =
        (.value bytes, ⟨reached, faults⟩) := by
      simp only [BlockDevice.read, inner]
    exact .of_value reads ⟨⟨keeps stays.toKeeps (.refl faults), stays.cells⟩, holds⟩
  · have fails : BlockDevice.read offset length (⟨device, faults⟩ : Faulty δ) =
        (.error cause, ⟨reached, faults⟩) := by
      simp only [BlockDevice.read, inner]
    exact .of_error fails
      ⟨⟨keeps stays.toKeeps (.refl faults), stays.cells⟩, fun steady => unsteady steady.2.2.2⟩

/-- However much of the last write the device accepts, it is a proper part of the data. -/
private theorem writeLast_ends {latest : Faults} {left : Nat} {done : Unit → Faulty δ → Prop}
    (opened : ChipView.IsOpen device)
    (encloses : (ChipView.shape device).Encloses offset data.length)
    (within : offset % (ChipView.shape device).blockSize + data.length ≤
      (ChipView.shape device).blockSize)
    (powered : ¬ faults.powerLost = true)
    (switches : SameSwitches faults { latest with powerLost := true })
    (short : left < data.length) :
    (Faulty.writeLast offset data left).Ends (⟨device, latest⟩ : Faulty δ) done
      fun _ reached => Torn offset data ⟨device, faults⟩ reached := by
  by_cases none : left = 0
  · subst none
    exact .of_error (by rw [Faulty.writeLast, if_pos rfl]) {
      toKeeps := keeps (.refl device) switches
      spent := fun _ => .inl rfl
      programmed := ⟨0, fun _ => Nat.zero_lt_of_lt short, fun _ => rfl, rfl⟩ }
  · have length : (data.take left).length = left := by
      rw [List.length_take, Nat.min_eq_left (Nat.le_of_lt short)]
    have nonempty : data.take left ≠ [] := fun empty => none (by rw [← length, empty]; rfl)
    have first := encloses.last
    have inner := NorDevice.write_ends opened nonempty
      ⟨encloses.ends, encloses.first, by omega⟩ (by omega)
    rcases inner.cases with
      ⟨_, reached, writes, kept, -, alive, programmed⟩ | ⟨cause, reached, fails, torn⟩
    · exact .of_error (by rw [Faulty.writeLast, if_neg none, writes]) {
        toKeeps := keeps kept (switches.spend left)
        spent := fun _ => .inl rfl
        programmed := ⟨left, fun _ => short, fun gone => gone.elim (absurd · powered) (absurd · alive),
          programmed⟩ }
    · obtain ⟨count, fewer, dead, programmed⟩ := torn.programmed
      have fewer := fewer nonempty
      rw [List.take_take, Nat.min_eq_left (by omega)] at programmed
      exact .of_error (by rw [Faulty.writeLast, if_neg none, fails]) {
        toKeeps := keeps torn.toKeeps (switches.spend left)
        spent := fun _ => .inl rfl
        programmed := ⟨count, fun _ => by omega, fun gone => gone.elim (absurd · powered) dead,
          programmed⟩ }

private theorem write_ends (opened : ChipView.IsOpen device) (nonempty : data ≠ [])
    (encloses : (ChipView.shape device).Encloses offset data.length)
    (within : offset % (ChipView.shape device).blockSize + data.length ≤
      (ChipView.shape device).blockSize) :
    (Faulty.write offset data).Ends (⟨device, faults⟩ : Faulty δ)
      (fun _ reached => Keeps ⟨device, faults⟩ reached ∧ ChipView.IsOpen reached ∧
        ¬ ChipView.Lost (⟨device, faults⟩ : Faulty δ) ∧ ChipView.cells reached =
          (ChipView.cells device).program (offset - (ChipView.shape device).regionOffset) data)
      fun _ reached => Torn offset data ⟨device, faults⟩ reached := by
  have positive : 0 < data.length := List.length_pos_iff.2 nonempty
  have counted : SameSwitches faults { faults with writes := faults.writes + 1 } :=
    ⟨rfl, rfl, rfl, id, .intro⟩
  by_cases lost : faults.powerLost = true
  · exact .of_error (by rw [Faulty.write, if_pos lost])
      { toKeeps := .refl _
        spent := fun _ => .inl lost
        programmed := ⟨0, fun _ => positive, fun _ => rfl, rfl⟩ }
  · by_cases lasts : { faults with writes := faults.writes + 1 }.lastsFor data.length = true
    · rcases (NorDevice.write_ends opened nonempty encloses within).cases with
        ⟨_, reached, inner, kept, isOpen, powered, programmed⟩ | ⟨cause, reached, inner, torn⟩
      · have writes : Faulty.write offset data (⟨device, faults⟩ : Faulty δ) = (.value (),
            ⟨reached, { faults with writes := faults.writes + 1 }.spend data.length⟩) := by
          rw [Faulty.write, if_neg lost]
          simp only [lasts, inner, if_true]
        exact .of_value writes ⟨keeps kept (counted.spend _), isOpen,
          fun gone => gone.elim lost powered, programmed⟩
      · have fails : Faulty.write offset data (⟨device, faults⟩ : Faulty δ) = (.error cause,
            ⟨reached, { faults with writes := faults.writes + 1 }⟩) := by
          rw [Faulty.write, if_neg lost]
          simp only [lasts, inner, if_true]
        obtain ⟨count, short, dead, programmed⟩ := torn.programmed
        exact .of_error fails {
          toKeeps := keeps torn.toKeeps counted
          spent := fun steady => .inr (torn.spent steady.2.2.2)
          programmed := ⟨count, short, fun gone => gone.elim (absurd · lost) dead, programmed⟩ }
    · rw [Bool.not_eq_true] at lasts
      have left : faults.powerLeft.getD 0 < data.length := by
        rw [Faults.lastsFor] at lasts
        split at lasts
        · contradiction
        · rename_i left limited
          rw [show faults.powerLeft = some left from limited, Option.getD_some]
          exact Nat.lt_of_not_le (of_decide_eq_false lasts)
      have last : Faulty.write offset data (⟨device, faults⟩ : Faulty δ) =
          Faulty.writeLast offset data (faults.powerLeft.getD 0)
            ⟨device, { faults with writes := faults.writes + 1 }⟩ := by
        rw [Faulty.write, if_neg lost]
        simp only [lasts, Bool.false_eq_true, if_false]
      rw [Action.Ends, last]
      exact writeLast_ends opened encloses within lost (counted.cut lasts) left

private theorem erase_ends (opened : ChipView.IsOpen device)
    (encloses : (ChipView.shape device).Encloses offset length)
    (aligned : offset % (ChipView.shape device).blockSize = 0)
    (whole : length % (ChipView.shape device).blockSize = 0) :
    (Faulty.erase offset length).Ends (⟨device, faults⟩ : Faulty δ)
      (fun _ reached => Keeps ⟨device, faults⟩ reached ∧
        ¬ ChipView.Lost (⟨device, faults⟩ : Faulty δ) ∧ ChipView.cells reached =
          (ChipView.cells device).erase (offset - (ChipView.shape device).regionOffset) length)
      fun _ reached => Stays ⟨device, faults⟩ reached ∧
        (ChipView.Steady (⟨device, faults⟩ : Faulty δ) →
          ChipView.Lost (⟨device, faults⟩ : Faulty δ)) := by
  by_cases lost : faults.powerLost = true
  · exact .of_error (by rw [Faulty.erase, if_pos lost]) ⟨.refl _, fun _ => .inl lost⟩
  · by_cases refused : faults.failErase = true
    · refine .of_error (by rw [Faulty.erase, if_neg lost, if_pos refused]) ⟨.refl _, ?_⟩
      intro ended
      obtain ⟨-, erases, -⟩ := ended
      rw [refused] at erases
      contradiction
    · have counted : SameSwitches faults { faults with erases := faults.erases + 1 } :=
        ⟨rfl, rfl, rfl, id, .intro⟩
      rcases (NorDevice.erase_ends opened encloses aligned whole).cases with
        ⟨_, reached, inner, kept, powered, erased⟩ | ⟨cause, reached, inner, stays, spent⟩
      · exact .of_value (by rw [Faulty.erase, if_neg lost, if_neg refused, inner])
          ⟨keeps kept counted, fun gone => gone.elim lost powered, erased⟩
      · exact .of_error (by rw [Faulty.erase, if_neg lost, if_neg refused, inner])
          ⟨⟨keeps stays.toKeeps counted, stays.cells⟩, fun steady => .inr (spent steady.2.2.2)⟩

instance : NorDevice (Faulty δ) where
  valid whole := NorDevice.valid whole.device
  size_cells whole := NorDevice.size_cells whole.device
  steady_of_healthy healthy := ⟨healthy.1, healthy.2.1, healthy.2.2.1,
    NorDevice.steady_of_healthy healthy.2.2.2.2.2⟩
  not_lost_of_healthy healthy lost := by
    rcases lost with lost | lost
    · rw [healthy.2.2.2.2.1] at lost
      contradiction
    · exact NorDevice.not_lost_of_healthy healthy.2.2.2.2.2 lost
  geometry_eq {whole reported} honest reports := by
    have own : BlockDevice.geometry whole.device = .ok reported := by
      simp only [BlockDevice.geometry] at reports
      split at reports
      · contradiction
      · exact reports
    exact NorDevice.geometry_eq (show ChipView.Honest whole.device from honest) own
  geometry_of_steady {whole} honest steady := by
    simp only [BlockDevice.geometry, steady.2.2.1, Bool.false_eq_true, if_false]
    exact NorDevice.geometry_of_steady honest steady.2.2.2
  openDevice_ends whole := openDevice_ends whole.device whole.faults
  closeDevice_stays whole :=
    have stays := NorDevice.closeDevice_stays whole.device
    ⟨keeps stays.toKeeps (.refl _), stays.cells⟩
  read_ends := read_ends
  write_ends := write_ends
  erase_ends := erase_ends

end Faulty

/-! ## Glitches -/

namespace Glitchy

variable {δ : Type}

instance [ChipView δ] : ChipView (Glitchy δ) where
  shape whole := ChipView.shape whole.device
  cells whole := ChipView.cells whole.device
  IsOpen whole := ChipView.IsOpen whole.device
  Honest whole := whole.reported = none ∧ ChipView.Honest whole.device
  Steady whole := (∀ number, whole.openFails number = false) ∧
    (∀ number, whole.readFails number = false) ∧ ChipView.Steady whole.device
  Lost whole := ChipView.Lost whole.device
  Healthy whole := (∀ number, whole.openFails number = false) ∧
    (∀ number, whole.readFails number = false) ∧ ChipView.Healthy whole.device

/-- The same schedules over a device that has moved on. -/
private theorem keeps [ChipView δ] {before after : Glitchy δ}
    (inner : Keeps before.device after.device) (opens : after.openFails = before.openFails)
    (reads : after.readFails = before.readFails) (reports : after.reported = before.reported) :
    Keeps before after where
  shape := inner.shape
  honest honest := ⟨reports.trans honest.1, inner.honest honest.2⟩
  steady steady := ⟨fun number => (congrFun opens number).trans (steady.1 number),
    fun number => (congrFun reads number).trans (steady.2.1 number), inner.steady steady.2.2⟩
  lost := inner.lost
  healthy healthy := ⟨fun number => (congrFun opens number).trans (healthy.1 number),
    fun number => (congrFun reads number).trans (healthy.2.1 number), inner.healthy healthy.2.2⟩

variable [BlockDevice δ] [NorDevice δ] {whole : Glitchy δ} {offset length : Nat} {data : Bytes}

private theorem openDevice_ends (whole : Glitchy δ) :
    (BlockDevice.openDevice : Action (Glitchy δ) FlashError Unit).Ends whole
      (fun _ reached => Stays whole reached ∧ ChipView.IsOpen reached)
      fun _ reached => Stays whole reached ∧ ¬ ChipView.Steady whole := by
  have counted : Stays whole { whole with opens := whole.opens + 1 } :=
    ⟨keeps (.refl _) rfl rfl rfl, rfl⟩
  by_cases fails : whole.openFails whole.opens = true
  · have glitch : (BlockDevice.openDevice : Action (Glitchy δ) FlashError Unit) whole =
        (.error (.io .openGlitch), { whole with opens := whole.opens + 1 }) := if_pos fails
    refine .of_error glitch ⟨counted, ?_⟩
    intro ended
    obtain ⟨opens, -⟩ := ended
    rw [opens] at fails
    contradiction
  · have passes : (BlockDevice.openDevice : Action (Glitchy δ) FlashError Unit) whole =
        ((BlockDevice.openDevice whole.device).1, { whole with
          opens := whole.opens + 1, device := (BlockDevice.openDevice whole.device).2 }) :=
      if_neg fails
    rcases (NorDevice.openDevice_ends whole.device).cases with
      ⟨_, reached, inner, stays, isOpen⟩ | ⟨cause, reached, inner, stays, unsteady⟩
    · rw [inner] at passes
      exact .of_value passes ⟨⟨keeps stays.toKeeps rfl rfl rfl, stays.cells⟩, isOpen⟩
    · rw [inner] at passes
      exact .of_error passes
        ⟨⟨keeps stays.toKeeps rfl rfl rfl, stays.cells⟩, fun steady => unsteady steady.2.2⟩

private theorem read_ends (opened : ChipView.IsOpen whole)
    (encloses : (ChipView.shape whole).Encloses offset length) :
    (BlockDevice.read offset length).Ends whole
      (fun bytes reached => Stays whole reached ∧
        bytes = (ChipView.cells whole).slice (offset - (ChipView.shape whole).regionOffset) length)
      fun _ reached => Stays whole reached ∧ ¬ ChipView.Steady whole := by
  have counted : Stays whole { whole with reads := whole.reads + 1 } :=
    ⟨keeps (.refl _) rfl rfl rfl, rfl⟩
  by_cases fails : whole.readFails whole.reads = true
  · have glitch : BlockDevice.read offset length whole =
        (.error (.io .readGlitch), { whole with reads := whole.reads + 1 }) := if_pos fails
    refine .of_error glitch ⟨counted, ?_⟩
    intro ended
    obtain ⟨-, reads, -⟩ := ended
    rw [reads] at fails
    contradiction
  · have passes : BlockDevice.read offset length whole =
        ((BlockDevice.read offset length whole.device).1, { whole with
          reads := whole.reads + 1, device := (BlockDevice.read offset length whole.device).2 }) :=
      if_neg fails
    have isOpen : ChipView.IsOpen whole.device := opened
    rcases (NorDevice.read_ends isOpen encloses).cases with
      ⟨bytes, reached, inner, stays, holds⟩ | ⟨cause, reached, inner, stays, unsteady⟩
    · rw [inner] at passes
      exact .of_value passes ⟨⟨keeps stays.toKeeps rfl rfl rfl, stays.cells⟩, holds⟩
    · rw [inner] at passes
      exact .of_error passes
        ⟨⟨keeps stays.toKeeps rfl rfl rfl, stays.cells⟩, fun steady => unsteady steady.2.2⟩

private theorem write_ends (opened : ChipView.IsOpen whole) (nonempty : data ≠ [])
    (encloses : (ChipView.shape whole).Encloses offset data.length)
    (within : offset % (ChipView.shape whole).blockSize + data.length ≤
      (ChipView.shape whole).blockSize) :
    (BlockDevice.write offset data).Ends whole
      (fun _ reached => Keeps whole reached ∧ ChipView.IsOpen reached ∧ ¬ ChipView.Lost whole ∧
        ChipView.cells reached =
          (ChipView.cells whole).program (offset - (ChipView.shape whole).regionOffset) data)
      fun _ reached => Torn offset data whole reached := by
  have passes : BlockDevice.write offset data whole =
      ((BlockDevice.write offset data whole.device).1, { whole with
        device := (BlockDevice.write offset data whole.device).2 }) := rfl
  have isOpen : ChipView.IsOpen whole.device := opened
  rcases (NorDevice.write_ends isOpen nonempty encloses within).cases with
    ⟨_, reached, inner, kept, opened, powered, programmed⟩ | ⟨cause, reached, inner, torn⟩
  · rw [inner] at passes
    exact .of_value passes ⟨keeps kept rfl rfl rfl, opened, powered, programmed⟩
  · rw [inner] at passes
    exact .of_error passes {
      toKeeps := keeps torn.toKeeps rfl rfl rfl
      spent := fun steady => torn.spent steady.2.2
      programmed := torn.programmed }

private theorem erase_ends (opened : ChipView.IsOpen whole)
    (encloses : (ChipView.shape whole).Encloses offset length)
    (aligned : offset % (ChipView.shape whole).blockSize = 0)
    (blocks : length % (ChipView.shape whole).blockSize = 0) :
    (BlockDevice.erase offset length).Ends whole
      (fun _ reached => Keeps whole reached ∧ ¬ ChipView.Lost whole ∧ ChipView.cells reached =
        (ChipView.cells whole).erase (offset - (ChipView.shape whole).regionOffset) length)
      fun _ reached => Stays whole reached ∧ (ChipView.Steady whole → ChipView.Lost whole) := by
  have passes : BlockDevice.erase offset length whole =
      ((BlockDevice.erase offset length whole.device).1, { whole with
        device := (BlockDevice.erase offset length whole.device).2 }) := rfl
  have isOpen : ChipView.IsOpen whole.device := opened
  rcases (NorDevice.erase_ends isOpen encloses aligned blocks).cases with
    ⟨_, reached, inner, kept, powered, erased⟩ | ⟨cause, reached, inner, stays, spent⟩
  · rw [inner] at passes
    exact .of_value passes ⟨keeps kept rfl rfl rfl, powered, erased⟩
  · rw [inner] at passes
    exact .of_error passes ⟨⟨keeps stays.toKeeps rfl rfl rfl, stays.cells⟩,
      fun steady => spent steady.2.2⟩

instance : NorDevice (Glitchy δ) where
  valid whole := NorDevice.valid whole.device
  size_cells whole := NorDevice.size_cells whole.device
  steady_of_healthy healthy :=
    ⟨healthy.1, healthy.2.1, NorDevice.steady_of_healthy healthy.2.2⟩
  not_lost_of_healthy healthy := NorDevice.not_lost_of_healthy healthy.2.2
  geometry_eq {whole reported} honest reports := by
    have own : BlockDevice.geometry whole.device = .ok reported := by
      simp only [BlockDevice.geometry] at reports
      split at reports
      · contradiction
      · rename_i answer
        rw [honest.1, Option.getD_none] at reports
        exact answer.trans reports
    exact NorDevice.geometry_eq honest.2 own
  geometry_of_steady {whole} honest steady := by
    simp only [BlockDevice.geometry, NorDevice.geometry_of_steady honest.2 steady.2.2, honest.1,
      Option.getD_none]
    rfl
  openDevice_ends := openDevice_ends
  closeDevice_stays whole :=
    have stays := NorDevice.closeDevice_stays whole.device
    ⟨keeps stays.toKeeps rfl rfl rfl, stays.cells⟩
  read_ends := read_ends
  write_ends := write_ends
  erase_ends := erase_ends

end Glitchy

end NorStore.Flash
