/-
# After a reboot

A reboot keeps the cells and forgets the rest of the store: its faults, its map, its live
bytes. The application registers its segments again, with the same codecs and with default
live bytes, and restores them. What it recovers that way depends on the cells alone, so it
tells what a change to the store has left behind.
-/

import NorStore.Proofs.Flash.Restart
import NorStore.Proofs.Store.Restoring
import NorStore.Proofs.Store.Storing

namespace NorStore

open NorStore.Flash (BlockDevice ChipView NorDevice Restartable Shareable)

variable {δ ε : Type}

namespace Store

/-- Register the segments of a table that are listed, with default live bytes. -/
def registerListed (registrations : Segment.Table (Option Registration)) (defaults : Segment → Bytes) :
    List Segment → Store δ → Store δ
  | [], store => store
  | segment :: rest, store =>
    match registrations.get segment with
    | none => registerListed registrations defaults rest store
    | some { codec, live := _ } =>
      registerListed registrations defaults rest
        (store.register segment codec (defaults segment))

/-- A store that has just been started on a device, with segments registered again. -/
def boot (device : δ) (config : Config) (clock : Clock)
    (registrations : Segment.Table (Option Registration)) (defaults : Segment → Bytes) : Store δ :=
  registerListed registrations defaults Segment.all (start device config clock)

/-- Reboot, and register the same segments again, with default live bytes. -/
def revive [Shareable δ] (store : Store δ) (config : Config) (defaults : Segment → Bytes) : Store δ :=
  boot (Shareable.attach store.driver.device) config store.clock store.registrations defaults

/-- What restoring a segment gives after a reboot, and the live bytes that it leaves. -/
def recovered [BlockDevice δ] [Shareable δ] (store : Store δ) (defaults : Segment → Bytes)
    (segment : Segment) : Outcome ε LoadOutcome × Option Bytes :=
  match restore segment (store.revive store.config defaults) with
  | (outcome, after) => (outcome, after.live? segment)

/-! ## What is registered again -/

section Registrations

variable {registrations : Segment.Table (Option Registration)} {defaults : Segment → Bytes}
  {segment : Segment} {listed : List Segment} {store : Store δ}

/-- The driver, the settings and the events of a store are not for its registrations to change. -/
theorem registerListed_frame :
    (registerListed registrations defaults listed store).driver.device = store.driver.device ∧
      (registerListed registrations defaults listed store).driver.planner = store.driver.planner ∧
      (registerListed registrations defaults listed store).config = store.config ∧
      (registerListed registrations defaults listed store).events = store.events := by
  induction listed generalizing store with
  | nil => exact ⟨rfl, rfl, rfl, rfl⟩
  | cons first rest ih =>
      rw [registerListed]
      split
      · exact ih
      · exact ih

/-- A listed segment is registered with its codec and default live bytes, and has room
reserved for it; any other segment is as it was. -/
theorem get_registerListed :
    (registerListed registrations defaults listed store).registrations.get segment =
        (if segment ∈ listed ∧ (registrations.get segment).isSome then
          (registrations.get segment).map fun old => { old with live := defaults segment }
        else store.registrations.get segment) ∧
      (registerListed registrations defaults listed store).driver.capacities.get segment =
        if segment ∈ listed ∧ (registrations.get segment).isSome then
          (registrations.get segment).map fun old => old.codec.maxSize
        else store.driver.capacities.get segment := by
  induction listed generalizing store with
  | nil => simp [registerListed]
  | cons first rest ih =>
      rw [registerListed]
      by_cases same : segment = first
      · subst same
        cases found : registrations.get segment with
        | none =>
            simpa [found] using ih
        | some old =>
            have later := @ih (store.register segment old.codec (defaults segment))
            simp only [found, Option.isSome_some, and_true, List.mem_cons, true_or, if_true,
              register, SegmentDriver.reserve, Segment.Table.get_set_self, Option.map_some,
              ite_self] at later ⊢
            exact later
      · have members : segment ∈ first :: rest ↔ segment ∈ rest := by
          rw [List.mem_cons, or_iff_right same]
        simp only [members]
        cases registrations.get first with
        | none => exact ih
        | some old =>
            have later := @ih (store.register first old.codec (defaults first))
            simp only [register, SegmentDriver.reserve,
              Segment.Table.get_set_of_ne _ _ same] at later
            exact later

end Registrations

section Booted

variable (device : δ) (config : Config) (clock : Clock)
  (registrations : Segment.Table (Option Registration)) (defaults : Segment → Bytes)

theorem registrations_boot (segment : Segment) :
    (boot device config clock registrations defaults).registrations.get segment =
      (registrations.get segment).map fun old => { old with live := defaults segment } := by
  rw [boot, get_registerListed.1]
  cases registrations.get segment with
  | none =>
      rw [if_neg (fun known => nomatch known.2)]
      exact Segment.Table.get_replicate none segment
  | some old => rw [if_pos ⟨Segment.mem_all segment, rfl⟩]

theorem capacities_boot (segment : Segment) :
    (boot device config clock registrations defaults).driver.capacities.get segment =
      (registrations.get segment).map fun old => old.codec.maxSize := by
  rw [boot, get_registerListed.2]
  cases registrations.get segment with
  | none =>
      rw [if_neg (fun known => nomatch known.2)]
      exact Segment.Table.get_replicate none segment
  | some old => rw [if_pos ⟨Segment.mem_all segment, rfl⟩]

@[simp]
theorem device_boot :
    (boot device config clock registrations defaults).driver.device = device :=
  registerListed_frame.1

@[simp]
theorem planner_boot :
    (boot device config clock registrations defaults).driver.planner = .unmapped :=
  registerListed_frame.2.1

@[simp]
theorem config_boot :
    (boot device config clock registrations defaults).config = config :=
  registerListed_frame.2.2.1

@[simp]
theorem events_boot :
    (boot device config clock registrations defaults).events = [] :=
  registerListed_frame.2.2.2

/-- A store that has just been started is settled. -/
theorem settled_boot [BlockDevice δ] [NorDevice δ] (honest : ChipView.Honest device) :
    (boot device config clock registrations defaults).Settled where
  planned := by
    refine ⟨?_, fun map known => ?_⟩
    · rw [device_boot]
      exact honest
    · rw [planner_boot] at known
      contradiction
  capacities segment := by
    rw [capacities_boot, registrations_boot, Option.map_map]
    rfl

end Booted

section Revived

variable [Shareable δ] (store : Store δ) (config : Config) (defaults : Segment → Bytes)

theorem registrations_revive (segment : Segment) :
    (store.revive config defaults).registrations.get segment =
      (store.registrations.get segment).map fun old => { old with live := defaults segment } :=
  registrations_boot ..

theorem capacities_revive (segment : Segment) :
    (store.revive config defaults).driver.capacities.get segment =
      (store.registrations.get segment).map fun old => old.codec.maxSize := capacities_boot ..

@[simp]
theorem device_revive :
    (store.revive config defaults).driver.device = Shareable.attach store.driver.device :=
  device_boot ..

@[simp]
theorem planner_revive : (store.revive config defaults).driver.planner = .unmapped :=
  planner_boot ..

@[simp]
theorem config_revive : (store.revive config defaults).config = config := config_boot ..

end Revived

variable [BlockDevice δ] [NorDevice δ] [Shareable δ] [Restartable δ] {store : Store δ}
  {config : Config} {defaults : Segment → Bytes} {segment : Segment} {entry : MapEntry}
  {registration : Registration}

theorem settled_revive (store : Store δ) (config : Config) (defaults : Segment → Bytes) :
    (store.revive config defaults).Settled := settled_boot _ _ _ _ _ (Restartable.honest_attach _)

omit [BlockDevice δ] [NorDevice δ] [Restartable δ] in
/-- A reboot reserves what the registered segments need. -/
theorem sizes_revive (store : Store δ) (config : Config) (defaults : Segment → Bytes) :
    (store.revive config defaults).driver.capacities = store.sizes := by
  apply Segment.Table.ext_get
  intro asked
  rw [capacities_revive, sizes, Segment.Table.get_map]

/-- So it gives each segment its home. -/
theorem placed_revive_iff :
    (store.revive config defaults).driver.Placed segment entry ↔ store.Home segment entry := by
  rw [SegmentDriver.Placed, device_revive, Restartable.shape_attach, sizes_revive]
  rfl

theorem contents_revive (store : Store δ) (config : Config) (defaults : Segment → Bytes)
    (entry : MapEntry) :
    (store.revive config defaults).driver.contents entry = store.driver.contents entry := by
  rw [SegmentDriver.contents, SegmentDriver.base, device_revive, Restartable.shape_attach,
    Restartable.cells_attach, SegmentDriver.contents, SegmentDriver.base]

/-- After a reboot the device can be used. -/
theorem usable_revive (store : Store δ) (config : Config) (defaults : Segment → Bytes) :
    (store.revive config defaults).driver.Usable where
  steady := by
    rw [device_revive]
    exact NorDevice.steady_of_healthy (Restartable.healthy_attach _)
  found reason failed := by
    rw [planner_revive] at failed
    contradiction

/-- After a reboot, restoring a segment is reading its home. -/
theorem restore_revive (home : store.Home segment entry)
    (registered : store.registrations.get segment = some registration) (config : Config)
    (defaults : Segment → Bytes) :
    ∃ after, (restore segment (store.revive config defaults) : Outcome ε LoadOutcome × Store δ) =
        (.value (Image.outcome (Image.read config.appSignature config.maxVersion registration.codec
          (store.driver.contents entry))), after) ∧
      after.live? segment = some ((Image.read config.appSignature config.maxVersion
        registration.codec (store.driver.contents entry)).toOption.getD (defaults segment)) := by
  have again := settled_revive store config defaults
  have healthy : ChipView.Healthy (store.revive config defaults).device := by
    rw [Store.device, device_revive]
    exact Restartable.healthy_attach _
  have known : (store.revive config defaults).registrations.get segment =
      some { registration with live := defaults segment } := by
    rw [registrations_revive, registered]
    rfl
  have fresh := live?_of_registered known
  obtain ⟨found, asked⟩ := (usable_revive store config defaults).asked again.planned
    (placed_revive_iff.2 home)
  have reads : (store.revive config defaults).reading registration.codec entry =
      Image.read config.appSignature config.maxVersion registration.codec
        (store.driver.contents entry) := by
    rw [reading, config_revive, contents_revive]
  obtain ⟨after, restores, came⟩ :=
    restore_of_healthy (ε := ε) again.planned.sound healthy known (congrArg Prod.fst asked)
  have lives := came.live
  rw [fresh, Option.map_some, reads] at lives
  rw [reads] at restores
  exact ⟨after, restores, lives⟩

/-- What is recovered is the reading of the home of the segment. -/
theorem recovered_eq (home : store.Home segment entry)
    (registered : store.registrations.get segment = some registration)
    (defaults : Segment → Bytes) :
    (store.recovered defaults segment : Outcome ε LoadOutcome × Option Bytes) =
      (.value (Image.outcome (store.reading registration.codec entry)),
        some ((store.reading registration.codec entry).toOption.getD (defaults segment))) := by
  obtain ⟨after, restores, lives⟩ :=
    restore_revive (ε := ε) home registered store.config defaults
  rw [recovered, restores]
  exact congrArg (_, ·) lives

/-- The home of a segment is the range that a revived store gives it. -/
theorem asked_revive_iff :
    (SegmentDriver.ensureMapped segment (store.revive config defaults).driver).1 = .value entry ↔
      store.Home segment entry := by
  have planned := (settled_revive store config defaults).planned
  rw [← placed_revive_iff]
  refine ⟨fun asked => planned.placed_of_asked (Prod.ext asked rfl), fun placed => ?_⟩
  obtain ⟨found, asked⟩ := (usable_revive store config defaults).asked planned placed
  exact congrArg Prod.fst asked

/-- A revived store knows the geometry of its chip. -/
theorem geometry_revive (store : Store δ) (config : Config) (defaults : Segment → Bytes) :
    BlockDevice.geometry (store.revive config defaults).driver.device =
      .ok (ChipView.shape store.device) := by
  have healthy := Restartable.healthy_attach store.driver.device
  rw [device_revive, NorDevice.geometry_of_steady (Restartable.honest_attach _)
    (NorDevice.steady_of_healthy healthy), Restartable.shape_attach, device]

/-- What is recovered of a segment is up to the bytes of its home, and to nothing else of
the flash. It makes no difference whether the segment is registered or has a place. -/
theorem recovered_congr {other : Store δ} (registrations : other.registrations = store.registrations)
    (config : other.config = store.config)
    (shape : ChipView.shape other.device = ChipView.shape store.device)
    (contents : ∀ entry, store.Home segment entry →
      other.driver.contents entry = store.driver.contents entry) (defaults : Segment → Bytes) :
    (other.recovered defaults segment : Outcome ε LoadOutcome × Option Bytes) =
      store.recovered defaults segment := by
  have lives : (other.revive other.config defaults).live? segment =
      (store.revive store.config defaults).live? segment := by
    rw [live?, live?, registrations_revive, registrations_revive, registrations]
  have first := registrations_revive store store.config defaults segment
  have second := registrations_revive other other.config defaults segment
  rw [registrations] at second
  have sizes : other.sizes = store.sizes := by rw [Store.sizes, registrations, Store.sizes]
  cases registered : store.registrations.get segment with
  | none =>
      rw [registered] at first second
      rw [recovered, recovered, restore_of_unregistered first, restore_of_unregistered second]
      exact Prod.ext rfl lives
  | some registration =>
      rw [registered] at first second
      have answers : (SegmentDriver.ensureMapped segment (other.revive other.config defaults).driver).1 =
          (SegmentDriver.ensureMapped segment (store.revive store.config defaults).driver).1 := by
        apply SegmentDriver.ensureMapped_congr segment (planner_revive ..) (planner_revive ..)
        · rw [sizes_revive, sizes_revive, sizes]
        · rw [geometry_revive, geometry_revive, shape]
      cases asked : (SegmentDriver.ensureMapped segment
          (store.revive store.config defaults).driver).1 with
      | value entry =>
          have home := asked_revive_iff.1 asked
          have there := asked_revive_iff.1 (answers.trans asked)
          have known : other.registrations.get segment = some registration := by
            rw [registrations, registered]
          rw [recovered_eq home registered, recovered_eq there known, reading,
            contents entry home, config, reading]
      | error cause =>
          rw [recovered, recovered, restore_of_unmapped first (Prod.ext asked rfl),
            restore_of_unmapped second (Prod.ext (answers.trans asked) rfl)]
          exact Prod.ext rfl lives
      | trap =>
          rw [recovered, recovered, restore_of_trap first (Prod.ext asked rfl),
            restore_of_trap second (Prod.ext (answers.trans asked) rfl)]
          exact Prod.ext rfl lives

end Store

end NorStore
