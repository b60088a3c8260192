/-
# Inspection agrees with restoring

An inspection and a restore that start from the same state of the driver come to the same
judgement of a segment: what inspection calls restored is restored or refused by the codec,
and what it calls lost is lost for the same reason, up to the wording of a corruption. That
holds for every content of the region and wherever opening or reading the device fails,
and neither of the two changes a cell.
-/

import NorStore.Proofs.Driver.Inspecting
import NorStore.Proofs.Store.Restoring

namespace NorStore

open NorStore.Flash (BlockDevice Glitchy MemoryFlash NorDevice)
open NorStore.Flash.ChipView (cells)

/-- What an inspection says and what restoring came to are the same up to the judgement of
the codec and the wording of a corruption. -/
structure Inspection.Agrees (inspection : Inspection) (outcome : LoadOutcome) : Prop where
  restored : inspection.outcome = .restored ↔
    outcome = .restored ∨ ∃ cause, outcome = .lost (.layoutChange cause)
  lost : ∀ reason, inspection.outcome = .lost reason →
    ∃ found, outcome = .lost found ∧ reason.Alike found

namespace Store

variable {δ ε : Type} [BlockDevice δ] {store : Store δ} {segment : Segment}
  {entry : MapEntry} {registration : Registration} {placed : SegmentDriver δ}

/-- Loading a segment is reading its payload, and then asking the codec. -/
theorem loadSegment_eq (registered : store.registrations.get segment = some registration) :
    loadSegment segment store =
      (onDriver (SegmentDriver.fetch segment store.config.appSignature store.config.maxVersion
          registration.codec.span) >>= fun payload =>
        match registration.codec.deserialize payload with
        | .error cause => throw (.layoutChange cause)
        | .ok live => do
          modify fun store => store.setLive segment live
          return payload) store := by
  rw [loadSegment, Action.get_bind, registered, SegmentDriver.fetch, onDriver_bind, bind_assoc]
  apply onDriver_bind_congr
  intro isOpen driver
  cases isOpen with
  | true => rfl
  | false =>
      simp only [Bool.false_eq_true, if_false]
      rw [onDriver_bind, bind_assoc, ← onDriver_mapError]
      apply onDriver_bind_congr
      intro handle opened
      rfl

/-- What restoring comes to for a payload that was read. -/
def judgement (codec : Codec) (payload : Bytes) : LoadOutcome :=
  match codec.deserialize payload with
  | .error cause => .lost (.layoutChange cause)
  | .ok _ => .restored

theorem restore_of_fetched {payload : Bytes}
    (registered : store.registrations.get segment = some registration)
    (fetched : SegmentDriver.fetch segment store.config.appSignature store.config.maxVersion
      registration.codec.span store.driver = (.value payload, placed)) :
    (restore segment store : Outcome ε LoadOutcome × Store δ).1 =
      .value (judgement registration.codec payload) := by
  have loads := loadSegment_eq registered
  rw [Action.bind_apply, Action.bind, onDriver_apply, fetched] at loads
  dsimp only at loads
  rw [judgement]
  cases accepted : registration.codec.deserialize payload with
  | error cause =>
      rw [accepted] at loads
      rw [restore_of_error loads]
  | ok live =>
      rw [accepted] at loads
      have tried : ((loadSegment segment).attempt : Action (Store δ) ε _) store =
          (.value (.ok payload), (store.atop placed).setLive segment live) := by
        rw [Action.attempt, loads]
        rfl
      rw [restore, Action.bind_of_value tried]
      rfl

theorem restore_of_unfetched {reason : LossReason}
    (registered : store.registrations.get segment = some registration)
    (fetched : SegmentDriver.fetch segment store.config.appSignature store.config.maxVersion
      registration.codec.span store.driver = (.error reason, placed)) :
    (restore segment store : Outcome ε LoadOutcome × Store δ).1 = .value (.lost reason) := by
  have loads := loadSegment_eq registered
  rw [Action.bind_apply, Action.bind, onDriver_apply, fetched] at loads
  rw [restore_of_error loads]

/-- How the result of an inspection and that of a restore compare. -/
def Agreeing (inspected : Outcome StoreError Inspection) (restored : Outcome ε LoadOutcome) : Prop :=
  match inspected with
  | .value inspection => ∃ outcome, restored = .value outcome ∧ inspection.Agrees outcome
  | .error _ => restored = .value (.lost .noPersistence)
  | .trap => restored = .trap

theorem Agreeing.of_fetched {inspected : Outcome StoreError Inspection} {payload : Bytes}
    (foretells : SegmentDriver.Foretells inspected (.value payload)) (codec : Codec) :
    Agreeing inspected (.value (judgement codec payload) : Outcome ε LoadOutcome) := by
  cases foretells with
  | restored _ told =>
      refine ⟨_, rfl, ?_, by simp [told]⟩
      rw [judgement]
      cases codec.deserialize payload <;> simp [told]

theorem Agreeing.of_unfetched {inspected : Outcome StoreError Inspection} {reason : LossReason}
    (foretells : SegmentDriver.Foretells inspected (.error reason)) :
    Agreeing inspected (.value (.lost reason) : Outcome ε LoadOutcome) := by
  cases foretells with
  | lost told alike settled =>
      refine ⟨_, rfl, by simp [told, settled], fun other same => ⟨reason, rfl, ?_⟩⟩
      cases told.symm.trans same
      exact alike
  | unread cause => rfl

variable [NorDevice δ]

/-- An inspection of a segment that has a range, and a restore of it. -/
theorem agreeing_of_mapped (sound : store.driver.Sound) (mapped : store.driver.Mapped segment entry)
    (registered : store.registrations.get segment = some registration) :
    Agreeing (SegmentDriver.inspect segment store.config.appSignature store.config.maxVersion
      registration.codec.span store.driver).1
      (restore segment store : Outcome ε LoadOutcome × Store δ).1 := by
  have foretells := SegmentDriver.inspect_foretells sound mapped store.config.appSignature
    store.config.maxVersion registration.codec.span
  rw [Action.Beside] at foretells
  rcases fetched : SegmentDriver.fetch segment store.config.appSignature store.config.maxVersion
    registration.codec.span store.driver with ⟨payload | reason | _, reached⟩
  · rw [fetched] at foretells
    rw [restore_of_fetched registered fetched]
    exact .of_fetched foretells registration.codec
  · rw [fetched] at foretells
    rw [restore_of_unfetched registered fetched]
    exact .of_unfetched foretells
  · rw [fetched] at foretells
    rcases (SegmentDriver.inspect_ends sound mapped _ _ _).cases with
      ⟨_, _, ends, -⟩ | ⟨_, _, ends, -⟩ <;>
    · rw [ends] at foretells
      cases foretells

/-- An inspection of a registered segment and a restore of it from the same store agree,
whatever the region holds and wherever the device fails. Only asking for the range can trap,
and neither changes a cell. -/
theorem restore_of_inspect (sound : store.driver.Sound)
    (registered : store.registrations.get segment = some registration) :
    Agreeing (SegmentDriver.inspect segment store.config.appSignature store.config.maxVersion
        registration.codec.span store.driver).1
      (restore segment store : Outcome ε LoadOutcome × Store δ).1 ∧
    ((SegmentDriver.inspect segment store.config.appSignature store.config.maxVersion
        registration.codec.span store.driver).1 = .trap →
      (SegmentDriver.ensureMapped segment store.driver).1 = .trap) ∧
    cells (SegmentDriver.inspect segment store.config.appSignature store.config.maxVersion
      registration.codec.span store.driver).2.device = cells store.device ∧
    cells (restore segment store : Outcome ε LoadOutcome × Store δ).2.device =
      cells store.device := by
  have looks := SegmentDriver.inspect_looks sound segment store.config.appSignature
    store.config.maxVersion registration.codec.span
  have still := restore_looks (ε := ε) sound segment
  rcases asked : SegmentDriver.ensureMapped segment store.driver with ⟨entry | cause | _, placed⟩
  · have mapped := SegmentDriver.mapped_of_ensureMapped asked
    have soundly := sound.of_ensureMapped asked
    have known : (store.atop placed).registrations.get segment = some registration := registered
    have inspects : ∀ span, SegmentDriver.inspect segment store.config.appSignature
        store.config.maxVersion span store.driver = SegmentDriver.inspect segment
          store.config.appSignature store.config.maxVersion span placed := fun _ =>
      SegmentDriver.ensureMapped_bind asked _
    refine ⟨?_, fun traps => ?_, looks.cells, still.cells⟩
    · rw [inspects, restore_atop registered asked]
      exact agreeing_of_mapped soundly mapped known
    · rw [inspects] at traps
      rcases (SegmentDriver.inspect_ends soundly mapped _ _ _).cases with
        ⟨_, _, ends, -⟩ | ⟨_, _, ends, -⟩ <;>
      · rw [ends] at traps
        contradiction
  · have fails : ∀ span, SegmentDriver.inspect segment store.config.appSignature
        store.config.maxVersion span store.driver = (.error cause, placed) := fun _ =>
      Action.bind_of_error asked _
    refine ⟨?_, fun traps => ?_, looks.cells, still.cells⟩
    · rw [fails, restore_of_unmapped registered asked]
      rfl
    · rw [fails] at traps
      contradiction
  · have traps : ∀ span, SegmentDriver.inspect segment store.config.appSignature
        store.config.maxVersion span store.driver = (.trap, placed) := fun _ =>
      Action.bind_of_trap asked _
    refine ⟨?_, fun _ => rfl, looks.cells, still.cells⟩
    rw [traps, restore_of_trap registered asked]
    rfl

/-- The store that holds a payload, on a device whose second read fails. -/
def glitchyStore : Store (Glitchy MemoryFlash) :=
  (Store.start { device := sampleChip, readFails := (· == 1) } { appSignature := 5 } {}).register
    .uniqueId (.blob 2 none .full) [1]

theorem restore_of_inspect_sample :
    ∃ found, (restore .uniqueId glitchyStore :
        Outcome StoreError LoadOutcome × Store (Glitchy MemoryFlash)).1 = .value (.lost found) ∧
      LossReason.Alike (.corruption (.unread (.flash (.io .readGlitch)))) found := by
  have sound : glitchyStore.driver.Sound := ⟨⟨rfl, trivial⟩, fun _ known => nomatch known⟩
  have registered : glitchyStore.registrations.get .uniqueId =
      some { codec := .blob 2 none .full, live := [1] } := rfl
  obtain ⟨agreeing, -⟩ := restore_of_inspect (ε := StoreError) sound registered
  have inspects : (SegmentDriver.inspect .uniqueId glitchyStore.config.appSignature
      glitchyStore.config.maxVersion .full glitchyStore.driver).1 = .value {
        entry := ⟨.uniqueId, 0, 32, 24⟩, ledger := .committed
        headerCheck := .error (.corruption (.unread (.flash (.io .readGlitch)))) } := by rfl
  change Agreeing (SegmentDriver.inspect .uniqueId glitchyStore.config.appSignature
    glitchyStore.config.maxVersion .full glitchyStore.driver).1 _ at agreeing
  rw [inspects] at agreeing
  obtain ⟨outcome, restores, agrees⟩ := agreeing
  obtain ⟨found, rfl, alike⟩ := agrees.lost _ rfl
  exact ⟨found, restores, alike⟩

end Store

end NorStore
