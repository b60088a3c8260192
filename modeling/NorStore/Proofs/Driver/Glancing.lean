/-
# Looking at segments in their places

If the map of a driver is the one that its capacities lead to, looking at a segment finds it in
its place and leaves all others in theirs. So some segments can be inspected one after another,
and each report says what the bytes of its place say.
-/

import NorStore.Proofs.Driver.Inspecting
import NorStore.Proofs.Driver.Placed

namespace NorStore.SegmentDriver

open NorStore.Flash (BlockDevice ChipView Keeps NorDevice)

variable {δ : Type} [BlockDevice δ] [NorDevice δ] {driver middle reached : SegmentDriver δ}
  {segment : Segment} {entry : MapEntry}

/-- The map may have been made, and then it stays. No cell has changed. -/
structure Glances (before after : SegmentDriver δ) : Prop where
  planned : before.Planned → after.Planned
  usable : before.Usable → after.Usable
  known : ∀ map, before.Planned → before.planner = .mapped map → after.planner = .mapped map
  capacities : after.capacities = before.capacities
  keeps : Keeps before.device after.device
  cells : ChipView.cells after.device = ChipView.cells before.device

namespace Glances

theorem refl (driver : SegmentDriver δ) : Glances driver driver :=
  ⟨id, id, fun _ _ => id, rfl, .refl _, rfl⟩

theorem trans (one : Glances driver middle) (two : Glances middle reached) :
    Glances driver reached where
  planned := two.planned ∘ one.planned
  usable := two.usable ∘ one.usable
  known map planned known := two.known map (one.planned planned) (one.known map planned known)
  capacities := two.capacities.trans one.capacities
  keeps := one.keeps.trans two.keeps
  cells := two.cells.trans one.cells

theorem of_remains (remains : Remains driver reached) : Glances driver reached where
  planned := remains.toFollows.planned
  usable usable := ⟨remains.keeps.steady usable.steady,
    fun reason failed => usable.found reason (remains.planner.symm.trans failed)⟩
  known _ _ known := remains.planner.trans known
  capacities := remains.capacities
  keeps := remains.keeps
  cells := remains.cells

theorem of_ensureMapped (planned : driver.Planned) (segment : Segment) :
    Glances driver (ensureMapped segment driver).2 := by
  have advances := advances_ensureMapped planned.sound segment ⟨segment, 0, 0, 0⟩
  refine ⟨advances.planned, advances.usable, fun map _ known => ?_, advances.capacities,
    advances.keeps, congrArg _ (device_ensureMapped segment driver)⟩
  rw [planned.ensureMapped_snd, planOnce, known]
  exact known

theorem placed_iff (glances : Glances driver reached) :
    reached.Placed segment entry ↔ driver.Placed segment entry := by
  rw [Placed, glances.keeps.shape, glances.capacities, Placed]

theorem contents (glances : Glances driver reached) (entry : MapEntry) :
    reached.contents entry = driver.contents entry := by
  rw [SegmentDriver.contents, base, glances.keeps.shape, glances.cells, SegmentDriver.contents,
    base]

end Glances

variable (appSignature : UInt32) (maxVersion : UInt16) (span : ChecksumSpan)

/-- On a usable device a segment is reported by the bytes of its place. -/
theorem inspect_of_usable (planned : driver.Planned) (usable : driver.Usable)
    (placed : driver.Placed segment entry) :
    ∃ reached, inspect segment appSignature maxVersion span driver =
        (.value (.ofRange entry appSignature maxVersion span (driver.contents entry)), reached) ∧
      Glances driver reached ∧ reached.Mapped segment entry := by
  obtain ⟨found, asked⟩ := usable.asked planned placed
  have first := Glances.of_ensureMapped planned segment
  rw [asked] at first
  have mapped := mapped_of_ensureMapped asked
  have same : inspect segment appSignature maxVersion span driver =
      inspect segment appSignature maxVersion span found := ensureMapped_bind asked _
  rcases (inspect_ends (first.planned planned).sound mapped appSignature maxVersion span).cases with
    ⟨inspection, last, ends, remains, told⟩ | ⟨_, _, _, _, unsteady⟩
  · rw [told (first.usable usable).steady, first.contents] at ends
    exact ⟨last, same.trans ends, first.trans (.of_remains remains),
      remains.toFollows.mapped mapped⟩
  · exact absurd (first.usable usable).steady unsteady

/-- So are some segments, one after another. -/
theorem inspectEach_of_usable {listed : List Segment} (planned : driver.Planned)
    (usable : driver.Usable) (placed : ∀ segment ∈ listed, ∃ entry, driver.Placed segment entry) :
    ∃ (entries : List MapEntry) (reached : SegmentDriver δ),
      (listed.mapM fun segment => inspect segment appSignature maxVersion span) driver =
        (.value (entries.map fun entry =>
          .ofRange entry appSignature maxVersion span (driver.contents entry)), reached) ∧
      entries.map MapEntry.segment = listed ∧
      (∀ entry ∈ entries, driver.Placed entry.segment entry) ∧ Glances driver reached ∧
      (listed ≠ [] → ∃ map, reached.planner = .mapped map) := by
  induction listed generalizing driver with
  | nil =>
      refine ⟨[], driver, ?_, rfl, by simp, .refl driver, fun none => absurd rfl none⟩
      rw [List.mapM_nil]
      rfl
  | cons segment rest ih =>
      obtain ⟨entry, place⟩ := placed segment List.mem_cons_self
      obtain ⟨middle, inspects, first, mapped⟩ :=
        inspect_of_usable appSignature maxVersion span planned usable place
      obtain ⟨entries, reached, later, named, places, second, -⟩ :=
        ih (first.planned planned) (first.usable usable) fun other listed =>
          (placed other (.tail _ listed)).imp fun _ => first.placed_iff.2
      have segment_eq : entry.segment = segment :=
        (first.planned planned).sound.segment_eq mapped
      refine ⟨entry :: entries, reached, ?_, ?_, ?_, first.trans second, fun _ => ?_⟩
      · rw [List.mapM_cons, Action.bind_of_value inspects, Action.bind_of_value later]
        simp only [first.contents]
        rfl
      · rw [List.map_cons, segment_eq, named]
      · intro range listed
        rcases List.mem_cons.1 listed with rfl | listed
        · rwa [segment_eq]
        · exact first.placed_iff.1 (places range listed)
      · obtain ⟨map, known, -⟩ := mapped
        exact ⟨map, second.known map (first.planned planned) known⟩

end NorStore.SegmentDriver
