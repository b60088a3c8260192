/-
# The order of stores

On a device on which nothing fails, what storing a segment comes to is a function of the
settings and the registrations, and what it does to the cells is a change that stays in the
range of the segment. Neither is up to whether other segments were stored before, so two
segments can be stored in either order.
-/

import NorStore.Proofs.Store.Interruption
import NorStore.Proofs.Store.Isolation

namespace NorStore

open NorStore.Flash (BlockDevice Cells ChipView Faulty Geometry MemoryFlash NorDevice)
open NorStore.Flash.ChipView (cells shape)

namespace Store

variable {δ : Type} [BlockDevice δ] [NorDevice δ] {store after : Store δ}
  {segment other : Segment} {entry range : MapEntry} {registration also : Registration}
  {found driver : SegmentDriver δ}

/-- What storing a segment comes to when nothing fails, and what becomes of the cells. -/
def storing (store : Store δ) (segment : Segment) (registration : Registration) :
    Outcome StoreError Unit × (Cells → Cells) :=
  match (SegmentDriver.ensureMapped segment store.driver).1 with
  | .error cause => (.error cause, id)
  | .trap => (.trap, id)
  | .value entry =>
    match registration.prepared segment with
    | .error cause => (.error cause, Cells.entered (store.driver.base entry))
    | .ok payload =>
      (.value (), Cells.imprinted (store.driver.base entry) (store.imprintSize payload)
        (store.image registration.codec payload))

/-- Another store of the same settings and registrations over the same chip, on which nothing
fails and which plans the same map. -/
structure Akin (before after : Store δ) : Prop where
  kin : before.driver.Kin after.driver
  settled : after.Settled
  healthy : ChipView.Healthy after.device
  shape : shape after.device = shape before.device
  config : after.config = before.config
  registrations : after.registrations = before.registrations

/-- A store whose driver has moved on after it gave a segment its range. -/
theorem akin_atop (settled : store.Settled) (healthy : ChipView.Healthy store.device)
    (follows : (SegmentDriver.ensureMapped segment store.driver).2.Follows driver) :
    Akin store (store.atop driver) := by
  have device := SegmentDriver.device_ensureMapped segment store.driver
  have capacities := follows.capacities.trans
    (SegmentDriver.capacities_ensureMapped segment store.driver)
  have keeps := follows.keeps
  rw [device] at keeps
  have planned := follows.planned (settled.planned.ensureMapped segment)
  refine ⟨⟨.inr ?_, capacities, ?_⟩, ⟨planned, ?_⟩, keeps.healthy healthy, keeps.shape, rfl, rfl⟩
  · rw [← settled.planned.ensureMapped_snd segment]
    exact follows.planner
  · have steady := NorDevice.steady_of_healthy healthy
    have steadily := keeps.steady steady
    rw [NorDevice.geometry_of_steady settled.planned.honest steady]
    show BlockDevice.geometry driver.device = _
    rw [NorDevice.geometry_of_steady planned.honest steadily, keeps.shape]
  · show ∀ segment, driver.capacities.get segment = _
    rw [capacities]
    exact settled.capacities

/-- What is noted of an operation makes no difference. -/
theorem Akin.congr {noted : Store δ} (akin : Akin store after)
    (driver : noted.driver = after.driver) (config : noted.config = after.config)
    (registrations : noted.registrations = after.registrations) : Akin store noted := by
  obtain ⟨kin, ⟨planned, capacities⟩, healthy, shape, settings, codecs⟩ := akin
  rw [device, ← driver] at healthy shape
  rw [← driver] at kin planned
  rw [← driver, ← registrations] at capacities
  exact ⟨kin, ⟨planned, capacities⟩, healthy, shape, config.trans settings,
    registrations.trans codecs⟩

theorem storeSegment_does (settled : store.Settled) (healthy : ChipView.Healthy store.device)
    (registered : store.registrations.get segment = some registration) :
    (storeSegment segment store).1 = (store.storing segment registration).1 ∧
      cells (storeSegment segment store).2.device =
        (store.storing segment registration).2 (cells store.device) ∧
      Akin store (storeSegment segment store).2 := by
  have sound := settled.planned.sound
  have device := SegmentDriver.device_ensureMapped segment store.driver
  have moved := @akin_atop _ _ _ store segment
  rw [storing]
  rcases asked : SegmentDriver.ensureMapped segment store.driver with ⟨entry | cause | _, found⟩
  · have device := SegmentDriver.device_of_ensureMapped asked
    rw [asked] at moved
    dsimp only
    cases prepared : registration.prepared segment with
    | ok payload =>
        have room := settled.room (settled.planned.placed_of_asked asked) registered
        have fits := Registration.length_le_of_prepared prepared
        obtain ⟨driver, -, follows, changed, stores⟩ := storeSegment_of_prepared sound healthy
          registered asked prepared (by omega)
        rw [stores]
        dsimp only
        exact ⟨rfl, changed, (moved settled healthy follows).congr rfl rfl rfl⟩
    | error cause =>
        obtain ⟨driver, follows, changed, fails⟩ := storeSegment_of_unprepared sound healthy
          registered asked prepared
        rw [fails]
        dsimp only
        exact ⟨rfl, changed, (moved settled healthy follows).congr rfl rfl rfl⟩
  · rw [asked] at device moved
    rw [storeSegment_of_unmapped registered asked]
    exact ⟨rfl, congrArg cells device, (moved settled healthy (.refl found)).congr rfl rfl rfl⟩
  · rw [asked] at device moved
    rw [storeSegment_of_no_range registered asked]
    exact ⟨rfl, congrArg cells device, moved settled healthy (.refl found)⟩

/-- What storing comes to is the same for all stores that are akin. -/
theorem Akin.storing (akin : Akin store after) (segment : Segment) (registration : Registration) :
    after.storing segment registration = store.storing segment registration := by
  have shaped : ChipView.shape after.driver.device = ChipView.shape store.driver.device := akin.shape
  have bases : ∀ entry, after.driver.base entry = store.driver.base entry := by
    intro entry
    rw [SegmentDriver.base, shaped, SegmentDriver.base]
  rw [Store.storing, akin.kin.ensureMapped, Store.storing]
  simp only [bases, imprintSize, image, akin.shape, akin.config]

/-- Storing a segment leaves the cells, or makes a change that stays in its range. -/
theorem storing_local (settled : store.Settled)
    (registered : store.registrations.get segment = some registration) :
    (store.storing segment registration).2 = id ∨
      ∃ entry, store.driver.Placed segment entry ∧
        Cells.Local (store.driver.base entry) entry.reserved
          (store.storing segment registration).2 := by
  rw [storing]
  rcases asked : SegmentDriver.ensureMapped segment store.driver with ⟨entry | cause | _, found⟩
  · right
    have placed := settled.planned.placed_of_asked asked
    have fits : entry.Fits (shape store.device) := placed.fits
    have room := fits.room
    have data := fits.maxDataSize
    refine ⟨entry, placed, ?_⟩
    dsimp only
    cases prepared : registration.prepared segment with
    | error cause =>
        dsimp only
        exact (Cells.Local.entered _).mono (Nat.le_refl _) (by omega)
    | ok payload =>
        have enough := settled.room placed registered
        have short := Registration.length_le_of_prepared prepared
        have covered := store.length_image_le registration.codec payload
        have inside : store.imprintSize payload ≤ entry.reserved :=
          Geometry.covering_le (by omega) fits.whole
        dsimp only
        exact (Cells.Local.imprinted covered).mono (Nat.le_refl _) (Nat.add_le_add_left inside _)
  · exact .inl rfl
  · exact .inl rfl

/-- The changes that storing two segments makes do not depend on their order. -/
theorem storing_comm (settled : store.Settled)
    (registered : store.registrations.get segment = some registration)
    (second : store.registrations.get other = some also) (different : other ≠ segment)
    (before : Cells) :
    (store.storing other also).2 ((store.storing segment registration).2 before) =
      (store.storing segment registration).2 ((store.storing other also).2 before) := by
  rcases storing_local settled registered with none_ | ⟨entry, placed, mine⟩
  · rw [none_]
    rfl
  rcases storing_local settled second with none_ | ⟨range, there, theirs⟩
  · rw [none_]
    rfl
  · have first := placed.fits.first
    have start := there.fits.first
    have apart := placed.apart there different
    rw [MapEntry.Apart, MapEntry.past, MapEntry.past] at apart
    apply mine.comm theirs
    rw [SegmentDriver.base, SegmentDriver.base]
    omega

/-- Two segments can be stored in either order. -/
theorem storeSegment_comm (settled : store.Settled) (healthy : ChipView.Healthy store.device)
    (registered : store.registrations.get segment = some registration)
    (second : store.registrations.get other = some also) (different : other ≠ segment) :
    (storeSegment other (storeSegment segment store).2).1 = (storeSegment other store).1 ∧
      (storeSegment segment (storeSegment other store).2).1 = (storeSegment segment store).1 ∧
      cells (storeSegment other (storeSegment segment store).2).2.device =
        cells (storeSegment segment (storeSegment other store).2).2.device := by
  obtain ⟨mine, changed, akin⟩ := storeSegment_does settled healthy registered
  obtain ⟨theirs, altered, kindred⟩ := storeSegment_does settled healthy second
  obtain ⟨again, further, -⟩ := storeSegment_does akin.settled akin.healthy
    (akin.registrations ▸ second)
  obtain ⟨back, later, -⟩ := storeSegment_does kindred.settled kindred.healthy
    (kindred.registrations ▸ registered)
  rw [akin.storing] at again further
  rw [kindred.storing] at back later
  refine ⟨again.trans theirs.symm, back.trans mine.symm, ?_⟩
  rw [further, later, changed, altered]
  exact storing_comm settled registered second different _

/-! ## Independence -/

/-- Segments are independent of each other. Whatever is done to a segment, and whatever fails
on the way, no byte outside its range changes, and every other segment is restored and
inspected on the repaired chip as it would have been before. And if nothing fails, two
segments can be stored in either order. -/
theorem segments_independent (store : Store δ) :
    (∀ segment entry, store.driver.Sound → store.driver.Assigned segment entry →
      ∀ operation : Operation,
        Cells.AgreeOutside (store.driver.base entry) entry.reserved (cells store.device)
          (cells (operation.perform segment entry store).2.device) ∧
        (BlockDevice.geometry store.device = .ok (shape store.device) →
          ∀ other, other ≠ segment → ∀ fresh later, Flash.Mended store.device fresh →
            Flash.Mended (operation.perform segment entry store).2.device later →
            (let before := store.remounted fresh
            let after := (operation.perform segment entry store).2.remounted later
            (restore other after : Outcome StoreError LoadOutcome × Store δ).1 =
                (restore other before).1 ∧
              (restore other after : Outcome StoreError LoadOutcome × Store δ).2.live? other =
                (restore other before : Outcome StoreError LoadOutcome × Store δ).2.live? other ∧
              ∀ appSignature maxVersion span,
                (SegmentDriver.inspect other appSignature maxVersion span after.driver).1 =
                  (SegmentDriver.inspect other appSignature maxVersion span before.driver).1))) ∧
    ∀ segment other registration also, store.Settled → ChipView.Healthy store.device →
      store.registrations.get segment = some registration →
      store.registrations.get other = some also → other ≠ segment →
        (storeSegment other (storeSegment segment store).2).1 = (storeSegment other store).1 ∧
        (storeSegment segment (storeSegment other store).2).1 = (storeSegment segment store).1 ∧
        cells (storeSegment other (storeSegment segment store).2).2.device =
          cells (storeSegment segment (storeSegment other store).2).2.device := by
  constructor
  · intro segment entry sound assigned operation
    have disturbed := operation.reaches sound assigned
    refine ⟨disturbed.touched.outside, fun reported other different fresh later before mended => ?_⟩
    obtain ⟨⟨outcomes, lives⟩, inspections⟩ := disturbed.outcomes (ε := StoreError) sound assigned
      reported different before mended
    exact ⟨outcomes, lives, inspections⟩
  · intro segment other registration also settled healthy registered second different
    exact storeSegment_comm settled healthy registered second different

/-- Clearing the faults of a device mends it. -/
theorem mended_of_clear (whole : Faulty MemoryFlash) :
    Flash.Mended whole { whole with faults := {} } :=
  ⟨⟨rfl, rfl, rfl, rfl, rfl, trivial⟩, trivial, rfl, rfl⟩

/-- A store of two segments, on a device that may be made to fail. -/
def pairOver (faults : Flash.Faults) : Store (Faulty MemoryFlash) :=
  pairStore.remounted { device := pairChip, faults }

/-- The same, with power for twenty more bytes. -/
def cutStore : Store (Faulty MemoryFlash) := pairOver { powerLeft := some 20 }

theorem segments_independent_sample :
    Cells.AgreeOutside 0 32 (cells cutStore.device)
        (cells (storeSegment .uniqueId cutStore).2.device) ∧
      (restore .applicationData ((storeSegment .uniqueId cutStore).2.remounted
          { (storeSegment .uniqueId cutStore).2.device with faults := {} }) :
            Outcome StoreError LoadOutcome × _).1 =
        (restore .applicationData (cutStore.remounted { cutStore.device with faults := {} })).1 ∧
      cells (storeSegment .uniqueId (storeSegment .applicationData (pairOver {})).2).2.device =
        cells (storeSegment .applicationData (storeSegment .uniqueId (pairOver {})).2).2.device := by
  have sound : cutStore.driver.Sound := ⟨trivial, fun _ known => nomatch known⟩
  have assigned : cutStore.driver.Assigned .uniqueId ⟨.uniqueId, 0, 32, 24⟩ :=
    .inr ⟨rfl, _, rfl, rfl⟩
  have settled : (pairOver {}).Settled := by
    refine ⟨⟨trivial, fun _ known => nomatch known⟩, fun segment => ?_⟩
    cases segment <;> rfl
  have healthy : ChipView.Healthy (pairOver {}).device := ⟨rfl, rfl, rfl, rfl, rfl, trivial⟩
  obtain ⟨outside, others⟩ := (segments_independent cutStore).1 .uniqueId _ sound assigned .store
  obtain ⟨outcomes, -⟩ := others rfl .applicationData (by decide) _ _ (mended_of_clear _)
    (mended_of_clear _)
  obtain ⟨-, -, same⟩ := (segments_independent (pairOver {})).2 .applicationData .uniqueId _ _
    settled healthy rfl rfl (by decide)
  dsimp only [Operation.perform] at outside outcomes
  exact ⟨outside, outcomes, same⟩

end Store

end NorStore
