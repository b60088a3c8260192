/-
# Stores whose segments have their places

The map that a reboot plans follows from the geometry and the codecs that are registered. It
gives each segment its *home*. If everything is registered before the first access, the map
in use is that map, so the homes of the segments are where they are, and the bytes of a
segment can be followed through all accesses: those to other segments leave them alone. A
segment that was registered later may have its range elsewhere.
-/

import NorStore.Proofs.Driver.Placed
import NorStore.Proofs.Store.Access

namespace NorStore.Store

open NorStore.Flash (BlockDevice ChipView Keeps NorDevice)
open NorStore.Flash.ChipView (cells)

variable {δ : Type} [BlockDevice δ] [NorDevice δ] {store middle after : Store δ}
  {segment : Segment} {entry : MapEntry} {registration : Registration} {driver : SegmentDriver δ}

/-- Everything was registered before the first access, so the map is the one that a reboot
with the same registrations would plan. -/
structure Settled (store : Store δ) : Prop where
  planned : store.driver.Planned
  capacities : ∀ segment, store.driver.capacities.get segment =
    (store.registrations.get segment).map (·.codec.maxSize)

/-- What is to be reserved for the registered segments: what their codecs need. -/
def sizes (store : Store δ) : Segment.Table (Option Nat) :=
  store.registrations.map (Option.map (·.codec.maxSize))

/-- The range that a reboot with the same registrations gives the segment. -/
def Home (store : Store δ) (segment : Segment) (entry : MapEntry) : Prop :=
  ({ store.driver with capacities := store.sizes } : SegmentDriver δ).Placed segment entry

/-- At home there is room for every payload that the codec of the segment may make. -/
theorem Home.room (home : store.Home segment entry)
    (registered : store.registrations.get segment = some registration) :
    Header.size + registration.codec.maxSize ≤ entry.maxDataSize := by
  apply SegmentDriver.Placed.room home
  show store.sizes.get segment = _
  rw [sizes, Segment.Table.get_map, registered]
  rfl

/-- The homes are up to the chip and to what is registered. -/
theorem Home.of_keeps (home : store.Home segment entry) (keeps : Keeps store.device after.device)
    (registrations : after.registrations = store.registrations) : after.Home segment entry :=
  SegmentDriver.Placed.of_keeps home keeps (by rw [sizes, registrations, sizes])

/-- What is done to one segment at home leaves the bytes of the home of another one. -/
theorem Home.contents_of_ne {other : Segment} {range : MapEntry} (home : store.Home segment entry)
    (advances : SegmentDriver.Advances entry store.driver driver) (also : store.Home other range)
    (different : other ≠ segment) : driver.contents range = store.driver.contents range :=
  SegmentDriver.contents_of_apart advances.keeps.shape advances.outside
    (SegmentDriver.Placed.apart home also different) (SegmentDriver.Placed.fits home).first
    (SegmentDriver.Placed.fits also).first

theorem Settled.sizes_eq (settled : store.Settled) : store.sizes = store.driver.capacities := by
  apply Segment.Table.ext_get
  intro asked
  rw [sizes, Segment.Table.get_map, settled.capacities]

/-- In a settled store every segment that has a place is at home. -/
theorem Settled.home_iff (settled : store.Settled) :
    store.Home segment entry ↔ store.driver.Placed segment entry := by
  rw [Home, settled.sizes_eq]

/-- In the range of a segment there is room for every payload that its codec may make. -/
theorem Settled.room (settled : store.Settled) (placed : store.driver.Placed segment entry)
    (registered : store.registrations.get segment = some registration) :
    Header.size + registration.codec.maxSize ≤ entry.maxDataSize :=
  (settled.home_iff.2 placed).room registered

/-- A store over a driver that has moved on is settled. -/
theorem Settled.atop (settled : store.Settled)
    (advances : SegmentDriver.Advances entry store.driver driver) : (store.atop driver).Settled where
  planned := advances.planned settled.planned
  capacities segment := by
    rw [driver_atop, advances.capacities, registrations_atop]
    exact settled.capacities segment

/-- A store over the same driver is settled if it has the same codecs. -/
theorem Settled.of_codecs (settled : store.Settled) (driver : after.driver = store.driver)
    (codecs : ∀ segment, (after.registrations.get segment).map (·.codec) =
      (store.registrations.get segment).map (·.codec)) : after.Settled := by
  refine ⟨driver ▸ settled.planned, fun segment => ?_⟩
  have sizes := congrArg (Option.map (·.maxSize)) (codecs segment)
  rw [Option.map_map, Option.map_map] at sizes
  rw [driver, settled.capacities]
  exact sizes.symm

/-- A store that has just been started is settled. -/
theorem settled_start {device : δ} (honest : ChipView.Honest device) (config : Config)
    (clock : Clock) : (start device config clock).Settled where
  planned := ⟨honest, fun _ known => nomatch known⟩
  capacities segment := by
    rw [show (start device config clock).driver.capacities = .replicate none from rfl,
      show (start device config clock).registrations = .replicate none from rfl,
      Segment.Table.get_replicate, Segment.Table.get_replicate, Option.map_none]

/-- Registering a segment before the first access leaves the store settled. -/
theorem Settled.register (settled : store.Settled) (unmapped : store.driver.planner = .unmapped)
    (segment : Segment) (codec : Codec) (live : Bytes) :
    (store.register segment codec live).Settled where
  planned := by
    refine ⟨settled.planned.honest, fun map known => ?_⟩
    have still : store.driver.planner = .mapped map := known
    rw [unmapped] at still
    contradiction
  capacities asked := by
    rw [Store.register, SegmentDriver.reserve]
    by_cases same : asked = segment
    · subst same
      simp only [Segment.Table.get_set_self, Option.map_some]
    · simp only [Segment.Table.get_set_of_ne _ _ same, settled.capacities]

/-! ## Moving on -/

/-- The same registrations and settings, over a driver that has moved on. No segment leaves
its place that way. -/
structure Moves (before after : Store δ) : Prop where
  registrations : after.registrations = before.registrations
  config : after.config = before.config
  sound : before.driver.Sound → after.driver.Sound
  planned : before.driver.Planned → after.driver.Planned
  usable : before.driver.Usable → after.driver.Usable
  allotted : ∀ segment entry, before.driver.Allotted segment entry →
    after.driver.Allotted segment entry
  capacities : after.driver.capacities = before.driver.capacities
  keeps : Keeps before.device after.device

namespace Moves

theorem refl (store : Store δ) : Moves store store :=
  ⟨rfl, rfl, id, id, id, fun _ _ => id, rfl, .refl _⟩

theorem trans (one : Moves store middle) (two : Moves middle after) : Moves store after where
  registrations := two.registrations.trans one.registrations
  config := two.config.trans one.config
  sound := two.sound ∘ one.sound
  planned := two.planned ∘ one.planned
  usable := two.usable ∘ one.usable
  allotted segment entry := two.allotted segment entry ∘ one.allotted segment entry
  capacities := two.capacities.trans one.capacities
  keeps := one.keeps.trans two.keeps

theorem of_advances (advances : SegmentDriver.Advances entry store.driver after.driver)
    (registrations : after.registrations = store.registrations)
    (config : after.config = store.config) : Moves store after where
  registrations := registrations
  config := config
  sound := advances.sound
  planned := advances.planned
  usable := advances.usable
  allotted := advances.allotted
  capacities := advances.capacities
  keeps := advances.keeps

theorem of_driver (driver : after.driver = store.driver)
    (registrations : after.registrations = store.registrations)
    (config : after.config = store.config) : Moves store after where
  registrations := registrations
  config := config
  sound := driver ▸ id
  planned := driver ▸ id
  usable := driver ▸ id
  allotted := driver ▸ fun _ _ => id
  capacities := driver ▸ rfl
  keeps := by
    rw [device, device, driver]
    exact .refl _

theorem settled (moves : Moves store after) (settled : store.Settled) : after.Settled where
  planned := moves.planned settled.planned
  capacities segment := by
    rw [moves.capacities, moves.registrations]
    exact settled.capacities segment

theorem home (moves : Moves store after) (home : store.Home segment entry) :
    after.Home segment entry := home.of_keeps moves.keeps moves.registrations

theorem placed (moves : Moves store after) (placed : store.driver.Placed segment entry) :
    after.driver.Placed segment entry := placed.of_keeps moves.keeps moves.capacities

/-- Cells that have not changed are the same bytes of every range. -/
theorem contents_of_cells (moves : Moves store after)
    (same : cells after.device = cells store.device) (entry : MapEntry) :
    after.driver.contents entry = store.driver.contents entry := by
  have shape : ChipView.shape after.driver.device = ChipView.shape store.driver.device :=
    moves.keeps.shape
  have cells : cells after.driver.device = cells store.driver.device := same
  rw [SegmentDriver.contents, SegmentDriver.base, shape, cells, SegmentDriver.contents,
    SegmentDriver.base]

end Moves

end NorStore.Store
