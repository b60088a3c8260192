/-
# Segments do not get in each other's way

Whatever is done to a segment, no byte outside its range changes, so every other segment is
restored and inspected as it was before, even if the operation failed half-way. On a device on
which nothing fails two segments can therefore be stored in either order: each of the two
comes to the same result, and the region ends up the same.
-/

import NorStore.Proofs.Driver.Confinement
import NorStore.Proofs.Store.Imprint
import NorStore.Proofs.Store.Inspecting

namespace NorStore.Store

open NorStore.Flash (BlockDevice Cells ChipView NorDevice)
open NorStore.Flash.ChipView (cells shape)

variable {δ ε : Type} [BlockDevice δ] [NorDevice δ] {store middle after : Store δ}
  {segment other : Segment} {entry : MapEntry} {registration : Registration}

/-! ## What an operation leaves of the store -/

/-- The settings and the registrations of all other segments stay. -/
structure Spares (segment : Segment) (before after : Store δ) : Prop where
  config : after.config = before.config
  registrations : ∀ other, other ≠ segment →
    after.registrations.get other = before.registrations.get other

/-- Of the store only the segment has changed, and of the flash only its range. -/
structure Narrowed (segment : Segment) (entry : MapEntry) (before after : Store δ) : Prop
    extends Spares segment before after where
  confined : SegmentDriver.Confined entry before.driver after.driver

omit [BlockDevice δ] [NorDevice δ] in
theorem Spares.refl (segment : Segment) (store : Store δ) : Spares segment store store :=
  ⟨rfl, fun _ _ => rfl⟩

omit [BlockDevice δ] [NorDevice δ] in
theorem Spares.trans (one : Spares segment store middle) (two : Spares segment middle after) :
    Spares segment store after where
  config := two.config.trans one.config
  registrations other different :=
    (two.registrations other different).trans (one.registrations other different)

omit [BlockDevice δ] [NorDevice δ] in
/-- Replacing the live bytes of the segment spares the others. -/
theorem Spares.setLive (store : Store δ) (segment : Segment) (live : Bytes) :
    Spares segment store (store.setLive segment live) := by
  rw [Store.setLive]
  split
  · exact .refl segment store
  · exact ⟨rfl, fun other different => Segment.Table.get_set_of_ne _ _ different⟩

namespace Narrowed

theorem refl (segment : Segment) (entry : MapEntry) (store : Store δ) :
    Narrowed segment entry store store := ⟨.refl segment store, .refl entry store.driver⟩

theorem trans (one : Narrowed segment entry store middle)
    (two : Narrowed segment entry middle after) : Narrowed segment entry store after :=
  ⟨one.toSpares.trans two.toSpares, one.confined.trans two.confined⟩

/-- An access to the driver that stays in the range. -/
theorem onDriver {α : Type} {access : Action (SegmentDriver δ) ε α}
    (reaches : access.Reaches store.driver (SegmentDriver.Confined entry store.driver)) :
    (Store.onDriver access).Reaches store (Narrowed segment entry store) :=
  ⟨⟨rfl, fun _ _ => rfl⟩, reaches⟩

end Narrowed

section Mapped

variable (sound : store.driver.Sound) (mapped : store.driver.Mapped segment entry)

include sound mapped

theorem writeSegment_reaches :
    (writeSegment segment).Reaches store (Narrowed segment entry store) := by
  apply Action.Reaches.get_bind
  cases store.registrations.get segment with
  | none => exact .throw (.refl segment entry store)
  | some registration =>
      obtain ⟨codec, live⟩ := registration
      refine .bind (.onDriver (SegmentDriver.applyEvent_reaches sound mapped .enter)) ?_
      intro _ entered _ first
      dsimp only
      cases codec.serialize live with
      | error cause => exact .throw first
      | ok payload =>
          dsimp only
          split
          · exact .throw first
          · have soundly := first.confined.toFollows.sound sound
            have still := first.confined.toFollows.mapped mapped
            refine .get_bind (.bind (((Narrowed.onDriver
              (SegmentDriver.writeContent_reaches soundly still _ payload)).mono
                fun _ => first.trans)) ?_)
            intro _ written _ second
            have soundly := second.confined.toFollows.sound sound
            have still := second.confined.toFollows.mapped mapped
            refine .bind ((Narrowed.onDriver
              (SegmentDriver.applyEvent_reaches soundly still .exit)).mono fun _ => second.trans) ?_
            exact fun _ _ _ => .pure

theorem storeSegment_reaches :
    (storeSegment segment).Reaches store (Narrowed segment entry store) := by
  refine .bind (.attempt (writeSegment_reaches sound mapped)) fun result reached _ narrowed => ?_
  cases result with
  | ok bytes => exact ⟨⟨narrowed.config, narrowed.registrations⟩, narrowed.confined⟩
  | error cause => exact ⟨⟨narrowed.config, narrowed.registrations⟩, narrowed.confined⟩

theorem restore_reaches :
    (restore segment : Action (Store δ) ε LoadOutcome).Reaches store
      (Narrowed segment entry store) := by
  cases registered : store.registrations.get segment with
  | none =>
      rw [Action.Reaches, restore_of_unregistered registered]
      exact ⟨⟨rfl, fun _ _ => rfl⟩, .refl entry store.driver⟩
  | some registration =>
      obtain ⟨outcome, after, ends, came⟩ := (restore_ends (ε := ε) sound mapped
        registered).exists_value
      rw [Action.Reaches, ends]
      rcases came with ⟨bytes, loaded, ⟨driver, live, remains, -, rfl⟩, -, rfl⟩ |
        ⟨reason, missed, ⟨driver, remains, -, rfl⟩, -, rfl⟩
      · have spares := Spares.setLive (store.atop driver) segment live
        refine ⟨⟨spares.config, spares.registrations⟩, ?_⟩
        show SegmentDriver.Confined entry store.driver
          ((store.atop driver).setLive segment live).driver
        rw [driver_setLive]
        exact remains.confined
      · exact ⟨⟨rfl, fun _ _ => rfl⟩, remains.confined⟩

end Mapped

/-! ## Operations -/

/-- Of the store only the segment has changed, and of the flash only its range, after the map
may have been planned. -/
structure Disturbed (segment : Segment) (entry : MapEntry) (before after : Store δ) : Prop
    extends Spares segment before after where
  touched : before.driver.Touched entry after.driver

/-- What can be done to a segment, by its driver or by the store. -/
inductive Operation where
  | ofDriver (access : SegmentDriver.Access)
  | store
  | restore
  | erase

/-- Carry out an operation on a segment. -/
def Operation.perform (segment : Segment) (entry : MapEntry) :
    Operation → Action (Store δ) StoreError Unit
  | .ofDriver access => onDriver (access.perform segment entry)
  | .store => storeSegment segment
  | .restore => do let _ ← Store.restore segment
  | .erase => eraseSegment segment

/-- An operation that has stayed in the range after the range was asked for. -/
theorem Narrowed.disturbed
    (narrowed : Narrowed segment entry (store.atop (SegmentDriver.planOnce store.driver).2) after) :
    Disturbed segment entry store after :=
  ⟨⟨narrowed.config, narrowed.registrations⟩, .inr narrowed.confined⟩

/-- Whatever an operation comes to, it has stayed in the range of its segment. -/
theorem Operation.reaches (sound : store.driver.Sound)
    (assigned : store.driver.Assigned segment entry) (operation : Operation) :
    (operation.perform segment entry).Reaches store (Disturbed segment entry store) := by
  have unchanged : Disturbed segment entry store store :=
    ⟨.refl segment store, .inl (.refl entry store.driver)⟩
  have begun : Disturbed segment entry store
      (store.atop (SegmentDriver.planOnce store.driver).2) :=
    (Narrowed.refl segment entry _).disturbed
  have told := assigned.asks sound
  cases operation with
  | ofDriver access =>
      have reaches := access.reaches sound assigned
      exact ⟨⟨rfl, fun _ _ => rfl⟩, reaches⟩
  | store =>
      rw [perform]
      cases registered : store.registrations.get segment with
      | none =>
          rw [Action.Reaches, storeSegment_of_unregistered registered]
          exact ⟨⟨rfl, fun _ _ => rfl⟩, unchanged.touched⟩
      | some registration =>
          rcases told with asked | ⟨cause, -, -, asked⟩
          · rw [Action.Reaches, storeSegment_atop registered asked]
            exact (storeSegment_reaches (sound.of_ensureMapped asked)
              (SegmentDriver.mapped_of_ensureMapped asked)).disturbed
          · rw [Action.Reaches, storeSegment_of_unmapped registered asked]
            exact ⟨⟨rfl, fun _ _ => rfl⟩, begun.touched⟩
  | restore =>
      refine .bind ?_ fun _ _ _ => .pure
      cases registered : store.registrations.get segment with
      | none =>
          rw [Action.Reaches, restore_of_unregistered registered]
          exact ⟨⟨rfl, fun _ _ => rfl⟩, unchanged.touched⟩
      | some registration =>
          rcases told with asked | ⟨cause, -, -, asked⟩
          · rw [Action.Reaches, restore_atop registered asked]
            exact (restore_reaches (sound.of_ensureMapped asked)
              (SegmentDriver.mapped_of_ensureMapped asked)).disturbed
          · rw [Action.Reaches, restore_of_unmapped registered asked]
            exact ⟨⟨rfl, fun _ _ => rfl⟩, begun.touched⟩
  | erase =>
      have erases : (onDriver (SegmentDriver.eraseSegment segment)).Reaches store
          (Disturbed segment entry store) := by
        have reaches := SegmentDriver.Access.reaches sound assigned .erase
        exact ⟨⟨rfl, fun _ _ => rfl⟩, reaches⟩
      refine .bind erases fun _ _ _ disturbed => ?_
      exact ⟨⟨disturbed.config, disturbed.registrations⟩, disturbed.touched⟩

/-! ## What the others see -/

/-- Kindred stores in which the segment holds the same bytes restore it to the same. -/
theorem restore_congr (kin : store.driver.Kin after.driver) (sound : store.driver.Sound)
    (soundly : after.driver.Sound) (healthy : ChipView.Healthy store.device)
    (healthily : ChipView.Healthy after.device) (config : after.config = store.config)
    (registrations : after.registrations.get segment = store.registrations.get segment)
    (same : ∀ range, (SegmentDriver.ensureMapped segment store.driver).1 = .value range →
      after.driver.contents range = store.driver.contents range) :
    (restore segment after : Outcome ε LoadOutcome × Store δ).1 =
        (restore segment store : Outcome ε LoadOutcome × Store δ).1 ∧
      (restore segment after : Outcome ε LoadOutcome × Store δ).2.live? segment =
        (restore segment store : Outcome ε LoadOutcome × Store δ).2.live? segment := by
  have told := kin.ensureMapped segment
  have lives : after.live? segment = store.live? segment := by rw [live?, registrations, live?]
  cases registered : store.registrations.get segment with
  | none =>
      rw [registered] at registrations
      rw [restore_of_unregistered registered, restore_of_unregistered registrations]
      exact ⟨rfl, lives⟩
  | some registration =>
      rw [registered] at registrations
      rcases asked : SegmentDriver.ensureMapped segment store.driver with
        ⟨range | cause | _, placed⟩
      · rw [asked] at told same
        have reads : after.reading registration.codec range =
            store.reading registration.codec range := by
          rw [reading, config, same range rfl, reading]
        obtain ⟨first, restores, came⟩ := restore_of_healthy (ε := ε) sound healthy registered
          (congrArg Prod.fst asked)
        obtain ⟨second, again, back⟩ := restore_of_healthy (ε := ε) soundly healthily registrations
          (congrArg Prod.fst told)
        rw [restores, again]
        refine ⟨by rw [reads], ?_⟩
        rw [back.live, came.live, reads, lives]
      · rw [asked] at told
        rw [restore_of_unmapped registered asked, restore_of_unmapped registrations told]
        exact ⟨rfl, lives⟩
      · rw [asked] at told
        rw [restore_of_trap registered asked, restore_of_trap registrations told]
        exact ⟨rfl, lives⟩

/-- The store over another device. -/
def remounted (store : Store δ) (device : δ) : Store δ := store.atop { store.driver with device }

theorem remounted_sound (sound : store.driver.Sound) {fresh : δ}
    (mended : Flash.Mended store.device fresh) : (store.remounted fresh).driver.Sound := by
  refine ⟨mended.honest, fun map known => ?_⟩
  show MemoryMap.Grown (shape fresh) map
  rw [mended.shape]
  exact sound.grown map known

/-- Nothing that is done to a segment changes what restoring or inspecting another one comes
to on a device on which nothing fails. -/
theorem Disturbed.outcomes (disturbed : Disturbed segment entry store after)
    (sound : store.driver.Sound) (assigned : store.driver.Assigned segment entry)
    (reported : BlockDevice.geometry store.device = .ok (shape store.device))
    (different : other ≠ segment) {fresh later : δ} (before : Flash.Mended store.device fresh)
    (mended : Flash.Mended after.device later) :
    ((restore other (after.remounted later) : Outcome ε LoadOutcome × Store δ).1 =
        (restore other (store.remounted fresh) : Outcome ε LoadOutcome × Store δ).1 ∧
      (restore other (after.remounted later) : Outcome ε LoadOutcome × Store δ).2.live? other =
        (restore other (store.remounted fresh) : Outcome ε LoadOutcome × Store δ).2.live? other) ∧
    ∀ appSignature maxVersion span,
      (SegmentDriver.inspect other appSignature maxVersion span (after.remounted later).driver).1 =
        (SegmentDriver.inspect other appSignature maxVersion span (store.remounted fresh).driver).1 := by
  have touched := disturbed.touched
  have shaped : shape after.device = shape store.device := touched.keeps.shape
  have kin : (store.remounted fresh).driver.Kin (after.remounted later).driver := by
    apply touched.kin
    · exact before.geometry.trans reported.symm
    · rw [before.geometry, mended.geometry, shaped]
  have soundly := remounted_sound sound before
  have assigns : (store.remounted fresh).driver.Assigned segment entry := by
    refine assigned.imp id (And.imp_right fun placed => ?_)
    rw [SegmentDriver.Placed, remounted, driver_atop, before.shape]
    exact placed
  have same : ∀ range, (SegmentDriver.ensureMapped other (store.remounted fresh).driver).1 =
      .value range → (after.remounted later).driver.contents range =
        (store.remounted fresh).driver.contents range := by
    intro range asked
    obtain ⟨placed, asked⟩ : ∃ placed, SegmentDriver.ensureMapped other
        (store.remounted fresh).driver = (.value range, placed) := ⟨_, Prod.ext asked rfl⟩
    have range_fits := (soundly.of_ensureMapped asked).fits
      (SegmentDriver.mapped_of_ensureMapped asked)
    rw [SegmentDriver.device_of_ensureMapped asked] at range_fits
    apply SegmentDriver.contents_of_apart
    · exact mended.shape.trans (shaped.trans before.shape.symm)
    · show Cells.AgreeOutside (entry.start - (shape fresh).regionOffset) entry.reserved (cells fresh)
        (cells later)
      rw [before.shape, before.cells, mended.cells]
      exact touched.outside
    · exact assigns.apart_of_asked soundly
        (before.geometry.trans (congrArg Except.ok before.shape.symm)) different.symm asked
    · exact (assigns.fits soundly).first
    · exact range_fits.first
  exact ⟨restore_congr kin soundly (remounted_sound (touched.sound sound) mended) before.healthy
      mended.healthy disturbed.config (disturbed.registrations other different) same,
    SegmentDriver.inspect_congr kin soundly (remounted_sound (touched.sound sound) mended)
      (NorDevice.steady_of_healthy before.healthy) (NorDevice.steady_of_healthy mended.healthy)
      same⟩

end NorStore.Store
