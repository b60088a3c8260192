/-
# Looking at the flash

Many calls only look: they may plan the map, place a segment and open the device, but they
change no cell. Every access that names a segment starts by looking up its range, and one that
gets no range has only looked.
-/

import NorStore.Proofs.Driver.Sequential

namespace NorStore.SegmentDriver

open NorStore.Flash (BlockDevice ChipView NorDevice)
open NorStore.Flash.ChipView (cells shape)

variable {δ : Type} [BlockDevice δ] [NorDevice δ] {driver middle reached : SegmentDriver δ}
  {segment : Segment}

/-- The map may have been planned, and segments placed, but no cell has changed. -/
structure Looks (before after : SegmentDriver δ) : Prop where
  sound : before.Sound → after.Sound
  shape : shape after.device = shape before.device
  cells : cells after.device = cells before.device

namespace Looks

theorem refl (driver : SegmentDriver δ) : Looks driver driver := ⟨id, rfl, rfl⟩

theorem trans (one : Looks driver middle) (two : Looks middle reached) : Looks driver reached :=
  ⟨two.sound ∘ one.sound, two.shape.trans one.shape, two.cells.trans one.cells⟩

/-- What touches neither the cells nor the map only looks. -/
theorem of_planner (honest : ChipView.Honest driver.device → ChipView.Honest reached.device)
    (sameShape : ChipView.shape reached.device = ChipView.shape driver.device)
    (sameCells : ChipView.cells reached.device = ChipView.cells driver.device)
    (planner : ∀ map, reached.planner = .mapped map → driver.planner = .mapped map) :
    Looks driver reached where
  sound sound := ⟨honest sound.honest, fun map known =>
    sameShape ▸ sound.grown map (planner map known)⟩
  shape := sameShape
  cells := sameCells

theorem contents (looks : Looks driver reached) (entry : MapEntry) :
    reached.contents entry = driver.contents entry := by
  rw [SegmentDriver.contents, base, looks.shape, looks.cells, SegmentDriver.contents, base]

end Looks

theorem Remains.looks (remains : Remains driver reached) : Looks driver reached :=
  ⟨remains.toFollows.sound, remains.keeps.shape, remains.cells⟩

theorem looks_ensureMapped (segment : Segment) (driver : SegmentDriver δ) :
    Looks driver (ensureMapped segment driver).2 := by
  have device := device_ensureMapped segment driver
  exact ⟨fun sound => sound.ensureMapped segment, congrArg _ device, congrArg _ device⟩

/-- An access that asks for a range first goes on from a driver that has the range, or stops
where it has only looked. -/
theorem ensureMapped_reaches {α : Type} {holds : SegmentDriver δ → Prop}
    {next : MapEntry → Action (SegmentDriver δ) StoreError α} (sound : driver.Sound)
    (stops : ∀ found, Looks driver found → holds found)
    (goesOn : ∀ entry found, Looks driver found → found.Sound → found.Mapped segment entry →
      (ensureMapped segment >>= next).Reaches found holds) :
    (ensureMapped segment >>= next).Reaches driver holds := by
  have looks := looks_ensureMapped segment driver
  rcases asked : ensureMapped segment driver with ⟨entry | cause | _, found⟩
  · rw [asked] at looks
    rw [Action.Reaches, ensureMapped_bind asked]
    exact goesOn entry found looks (looks.sound sound) (mapped_of_ensureMapped asked)
  · rw [asked] at looks
    rw [Action.Reaches, Action.bind_of_error asked]
    exact stops found looks
  · rw [asked] at looks
    rw [Action.Reaches, Action.bind_of_trap asked]
    exact stops found looks

end NorStore.SegmentDriver
