/-
# The books of a commit pass

A pass tries every segment that is dirty, once and in order, whatever becomes of the others. It
tells of each attempt and counts it, and it pauses after each segment that was stored. The
segments that were not stored are still dirty, and nothing is written outside the ranges of the
segments that were tried. All of this holds in every state that a store can come to, however the
device and the codecs fail, and also for segments that are not registered or have no range.
-/

import NorStore.Proofs.Driver.Overflow
import NorStore.Proofs.Store.Accounts
import NorStore.Proofs.Store.Forcing
import NorStore.Proofs.Store.Isolation

namespace NorStore

open NorStore.Flash (BlockDevice ChipView Faulty MemoryFlash NorDevice)
open NorStore.Flash.ChipView (cells shape)

variable {δ ε : Type}

/-! ## What stays of the flash -/

namespace SegmentDriver

variable [BlockDevice δ] [NorDevice δ] {driver middle reached : SegmentDriver δ}
  {segment : Segment} {entry : MapEntry} {tried : List Segment}

/-- The ranges of two segments do not meet. -/
theorem Sound.apart {other : Segment} {range : MapEntry} (sound : driver.Sound)
    (mapped : driver.Mapped segment entry) (also : driver.Mapped other range)
    (different : segment ≠ other) : entry.Apart range := by
  obtain ⟨map, known, found⟩ := mapped
  obtain ⟨_, known', there⟩ := also
  cases known.symm.trans known'
  exact (sound.grown map known).laidOut.apart segment other entry range found there different

/-- No cell has changed but in the ranges that some segments have. -/
structure Within (tried : List Segment) (before after : SegmentDriver δ) : Prop where
  sound : after.Sound
  shape : shape after.device = shape before.device
  capacities : after.capacities = before.capacities
  grows : ∀ segment entry, before.Mapped segment entry → after.Mapped segment entry
  outside : ∀ index, (∀ segment ∈ tried, ∀ entry, after.Mapped segment entry →
    ¬ (after.base entry ≤ index ∧ index < after.base entry + entry.reserved)) →
    (cells after.device)[index]? = (cells before.device)[index]?

theorem base_congr (same : shape reached.device = shape driver.device) (entry : MapEntry) :
    reached.base entry = driver.base entry := by
  rw [base, same, base]

namespace Within

theorem refl (sound : driver.Sound) : Within tried driver driver where
  sound := sound
  shape := rfl
  capacities := rfl
  grows _ _ := id
  outside _ _ := rfl

/-- Asking for a range writes nothing. -/
theorem of_asked (sound : driver.Sound) (segment : Segment) :
    Within tried driver (ensureMapped segment driver).2 where
  sound := sound.ensureMapped segment
  shape := congrArg ChipView.shape (device_ensureMapped segment driver)
  capacities := capacities_ensureMapped segment driver
  grows _ _ mapped := mapped.ensureMapped segment
  outside _ _ := by rw [device_ensureMapped]

theorem of_confined (sound : driver.Sound) (mapped : driver.Mapped segment entry)
    (member : segment ∈ tried) (confined : Confined entry driver reached) :
    Within tried driver reached where
  sound := confined.toFollows.sound sound
  shape := confined.keeps.shape
  capacities := confined.capacities
  grows _ _ := confined.toFollows.mapped
  outside index apart := by
    have clear := apart segment member entry (confined.toFollows.mapped mapped)
    rw [base_congr confined.keeps.shape] at clear
    exact confined.outside index clear

/-- A range that a segment had on the way it has in the end, so what is outside then was outside
before. -/
theorem trans (one : Within tried driver middle) (two : Within tried middle reached) :
    Within tried driver reached where
  sound := two.sound
  shape := two.shape.trans one.shape
  capacities := two.capacities.trans one.capacities
  grows segment entry mapped := two.grows segment entry (one.grows segment entry mapped)
  outside index apart := by
    refine (two.outside index apart).trans (one.outside index fun segment member entry mapped => ?_)
    rw [← base_congr two.shape]
    exact apart segment member entry (two.grows segment entry mapped)

/-- The range of any other segment holds what it held. -/
theorem contents (within : Within tried driver reached) (other : segment ∉ tried)
    (mapped : reached.Mapped segment entry) : reached.contents entry = driver.contents entry := by
  apply List.ext_getElem?
  intro index
  rw [SegmentDriver.contents, SegmentDriver.contents, Flash.Cells.getElem?_slice,
    Flash.Cells.getElem?_slice, base_congr within.shape]
  split
  · refine within.outside _ fun tried member range also => ?_
    have apart := within.sound.apart mapped also fun same => other (same ▸ member)
    have mine := (within.sound.fits mapped).first
    have theirs := (within.sound.fits also).first
    rw [MapEntry.Apart, MapEntry.past, MapEntry.past] at apart
    rw [← base_congr within.shape, SegmentDriver.base, SegmentDriver.base]
    omega
  · rfl

end Within

/-- The region ends at a word, and the blocks for every capacity can be counted. -/
def Countable (driver : SegmentDriver δ) : Prop :=
  (shape driver.device).regionOffset + (shape driver.device).regionSize < Word.limit ∧
    ¬ MemoryMap.Exceeds (shape driver.device) driver.capacities Segment.all

/-- Then every question for a range has an answer. -/
theorem Countable.ensureMapped_ne_trap (countable : driver.Countable) (sound : driver.Sound)
    (segment : Segment) : (ensureMapped segment driver).1 ≠ .trap := by
  have growing : driver.Growing := by
    intro map known
    have grown := sound.grown map known
    rwa [grown.laidOut.geometry_eq]
  rw [Ne, growing.ensureMapped_eq_trap_iff, Overflows]
  obtain ⟨ends, countable⟩ := countable
  split
  · intro overflows
    obtain ⟨geometry, reported, -, past | exceeds⟩ := overflows
    · rw [NorDevice.geometry_eq sound.honest reported] at past
      omega
    · rw [NorDevice.geometry_eq sound.honest reported] at exceeds
      exact countable exceeds
  · rename_i map known
    intro overflows
    obtain ⟨-, maxPayload, reserved, exceeds⟩ := overflows
    rw [(sound.grown map known).laidOut.geometry_eq] at exceeds
    exact countable ⟨segment, Segment.mem_all segment, maxPayload, reserved, exceeds⟩
  · exact id

theorem Within.countable (within : Within tried driver reached) (countable : driver.Countable) :
    reached.Countable := by
  rwa [Countable, within.shape, within.capacities]

end SegmentDriver

namespace Store

variable {store middle after : Store δ} {segment : Segment} {tried stored failed listed : List Segment}

section Flash

variable [BlockDevice δ] [NorDevice δ]

/-- An attempt to store a segment writes in its range, or nowhere. -/
theorem storeSegment_within (sound : store.driver.Sound) (member : segment ∈ tried) :
    (storeSegment segment).Reaches store fun after =>
      SegmentDriver.Within tried store.driver after.driver := by
  rw [Action.Reaches]
  cases registered : store.registrations.get segment with
  | none =>
      rw [storeSegment_of_unregistered registered]
      exact .refl sound
  | some registration =>
      have within : SegmentDriver.Within tried store.driver _ := .of_asked sound segment
      rcases asked : SegmentDriver.ensureMapped segment store.driver with ⟨entry | cause | _, found⟩
      · rw [asked] at within
        have soundly : (store.atop found).driver.Sound := within.sound
        have mapped : (store.atop found).driver.Mapped segment entry :=
          SegmentDriver.mapped_of_ensureMapped asked
        rw [storeSegment_atop registered asked]
        exact within.trans
          (.of_confined soundly mapped member (storeSegment_reaches soundly mapped).confined)
      · rw [asked] at within
        rwa [storeSegment_of_unmapped registered asked]
      · rw [asked] at within
        rwa [storeSegment_of_no_range registered asked]

/-- Storing a segment succeeds or fails, if its range can be found or refused. -/
theorem storeSegment_ne_trap (sound : store.driver.Sound) (countable : store.driver.Countable)
    (segment : Segment) : (storeSegment segment store).1 ≠ .trap := by
  cases registered : store.registrations.get segment with
  | none =>
      rw [storeSegment_of_unregistered registered]
      exact nofun
  | some registration =>
      rcases asked : SegmentDriver.ensureMapped segment store.driver with ⟨entry | cause | _, found⟩
      · have soundly : (store.atop found).driver.Sound := sound.of_ensureMapped asked
        have mapped : (store.atop found).driver.Mapped segment entry :=
          SegmentDriver.mapped_of_ensureMapped asked
        have known : (store.atop found).registrations.get segment = some registration := registered
        rw [storeSegment_atop registered asked]
        rcases (writeSegment_ends soundly mapped known).cases with
          ⟨bytes, reached, writes, -⟩ | ⟨cause, reached, fails, -⟩
        · rw [storeSegment_of_written writes]
          exact nofun
        · rw [storeSegment_of_failed fails]
          exact nofun
      · rw [storeSegment_of_unmapped registered asked]
        exact nofun
      · exact absurd (congrArg Prod.fst asked) (countable.ensureMapped_ne_trap sound segment)

theorem storeEach_within (sound : store.driver.Sound) (members : listed ⊆ tried)
    (report : CommitReport) :
    (storeEach listed report : Action (Store δ) ε CommitReport).Reaches store fun after =>
      SegmentDriver.Within tried store.driver after.driver := by
  induction listed generalizing report store with
  | nil => exact .pure (.refl sound)
  | cons segment rest ih =>
      have first := storeSegment_within sound (members List.mem_cons_self)
      have others : rest ⊆ tried := fun _ member => members (.tail _ member)
      refine .bind (.attempt first) fun result reached _ begun => ?_
      cases result with
      | ok _ =>
          have paused : (reached.advanceClock reached.config.yieldMillis).driver.Sound := begun.sound
          exact Action.Reaches.value_bind rfl ((ih paused others _).mono fun _ => begun.trans)
      | error cause => exact (ih begun.sound others _).mono fun _ => begun.trans

/-- Then a list of segments is worked off. -/
theorem storeEach_ne_trap (sound : store.driver.Sound) (countable : store.driver.Countable)
    (listed : List Segment) (report : CommitReport) :
    (storeEach listed report store : Outcome ε CommitReport × Store δ).1 ≠ .trap := by
  induction listed generalizing report store with
  | nil => exact nofun
  | cons segment rest ih =>
      have within := storeSegment_within sound (List.mem_singleton_self segment)
      rw [Action.Reaches] at within
      rcases stores : storeSegment segment store with ⟨_ | cause | _, next⟩
      · rw [stores] at within
        have paused : (next.advanceClock next.config.yieldMillis).driver.Sound := within.sound
        rw [storeEach_of_stored stores]
        exact ih paused (within.countable countable) _
      · rw [stores] at within
        rw [storeEach_of_failed stores]
        exact ih within.sound (within.countable countable) _
      · exact absurd (congrArg Prod.fst stores) (storeSegment_ne_trap sound countable segment)

theorem passOver_within (sound : store.driver.Sound) (listed : List Segment) :
    (passOver listed : Action (Store δ) ε CommitReport).Reaches store fun after =>
      SegmentDriver.Within listed store.driver after.driver := by
  have begun : ({ store with stats :=
      { store.stats with commitPasses := store.stats.commitPasses + 1 } } : Store δ).driver.Sound :=
    sound
  refine Action.Reaches.value_bind rfl
    (.bind (storeEach_within begun (List.Subset.refl listed) _) fun _ _ _ within => ?_)
  exact within

theorem commitCheck_within (sound : store.driver.Sound) :
    (commitCheck : Action (Store δ) ε CommitReport).Reaches store fun after =>
      SegmentDriver.Within store.dirtySegments store.driver after.driver := by
  rw [Action.Reaches]
  cases due : store.isCommitDue with
  | false =>
      rw [commitCheck_of_not_due due]
      exact .refl sound
  | true =>
      rw [commitCheck_of_due due]
      exact passOver_within sound store.dirtySegments

theorem passOver_ne_trap (sound : store.driver.Sound) (countable : store.driver.Countable)
    (listed : List Segment) :
    (passOver listed store : Outcome ε CommitReport × Store δ).1 ≠ .trap := by
  have begun : ({ store with stats :=
      { store.stats with commitPasses := store.stats.commitPasses + 1 } } : Store δ).driver.Sound :=
    sound
  have tried := storeEach_ne_trap (ε := ε) begun countable listed { performed := true }
  rw [passOver, Action.modify_bind, Action.bind_apply, Action.bind]
  rcases ends : (storeEach listed _ _ : Outcome ε CommitReport × Store δ) with ⟨_ | _ | _, last⟩
  · intro traps
    cases traps
  · intro traps
    cases traps
  · exact absurd (congrArg Prod.fst ends) tried

end Flash

/-! ## What is told and counted -/

theorem now_advance (clock : Clock) (millis : Nat) :
    (clock.advance millis).now = (clock.now + millis) % 2 ^ 64 := by
  rw [Clock.now, Clock.advance, UInt64.toNat_add, UInt64.toNat_ofNat', Nat.add_mod_mod, Clock.now]

/-- The events that tell how segments were tried, one after another: one event for each, which
says whether it was stored or failed. -/
inductive Told : (tried stored failed : List Segment) → List Event → Prop where
  | nil : Told [] [] [] []
  | stored {tried stored failed : List Segment} {events : List Event} (segment : Segment)
      (rest : Told tried stored failed events) :
      Told (segment :: tried) (segment :: stored) failed (.stored segment :: events)
  | failed {tried stored failed : List Segment} {events : List Event} (segment : Segment)
      (cause : StoreError) (rest : Told tried stored failed events) :
      Told (segment :: tried) stored (segment :: failed) (.storeFailed segment cause :: events)

/-- What trying segments adds to the books: for each of them an event, in order, the numbers of
those that were stored and that failed, and the pauses after those that were stored. -/
structure Booked (tried stored failed : List Segment) (before after : Store δ) : Prop where
  events : ∃ events, after.events = before.events ++ events ∧ Told tried stored failed events
  commits : after.stats.commits = before.stats.commits + stored.length
  failures : after.stats.commitFailures = before.stats.commitFailures + failed.length
  passes : after.stats.commitPasses = before.stats.commitPasses
  config : after.config = before.config
  time : after.clock.now = (before.clock.now + before.config.yieldMillis * stored.length) % 2 ^ 64

namespace Booked

theorem done (store : Store δ) : Booked [] [] [] store store where
  events := ⟨[], (List.append_nil _).symm, .nil⟩
  commits := rfl
  failures := rfl
  passes := rfl
  config := rfl
  time := (Nat.mod_eq_of_lt store.clock.ticks.toNat_lt).symm

variable {driver : SegmentDriver δ} {bytes : Nat} {cause : StoreError}

/-- A segment that is stored comes first, and then the pause. -/
theorem cons_stored
    (rest : Booked tried stored failed
      (((store.atop driver).noteStored segment bytes).advanceClock store.config.yieldMillis) after) :
    Booked (segment :: tried) (segment :: stored) failed store after where
  events := by
    obtain ⟨events, appended, told⟩ := rest.events
    refine ⟨_, ?_, told.stored segment⟩
    rw [appended]
    exact List.append_assoc store.events [_] events
  commits := by
    rw [rest.commits, List.length_cons, Nat.add_comm stored.length, ← Nat.add_assoc]
    rfl
  failures := rest.failures
  passes := rest.passes
  config := rest.config
  time := by
    have pause : (((store.atop driver).noteStored segment bytes).advanceClock
        store.config.yieldMillis).clock.now =
          (store.clock.now + store.config.yieldMillis) % 2 ^ 64 := now_advance ..
    rw [rest.time, pause, Nat.mod_add_mod, List.length_cons, Nat.mul_succ, Nat.add_assoc,
      Nat.add_comm (store.config.yieldMillis * _)]
    rfl

/-- A segment that fails comes first, and there is no pause. -/
theorem cons_failed
    (rest : Booked tried stored failed ((store.atop driver).noteStoreFailed segment cause) after) :
    Booked (segment :: tried) stored (segment :: failed) store after where
  events := by
    obtain ⟨events, appended, told⟩ := rest.events
    refine ⟨_, ?_, told.failed segment cause⟩
    rw [appended]
    exact List.append_assoc store.events [_] events
  commits := rest.commits
  failures := by
    rw [rest.failures, List.length_cons, Nat.add_comm failed.length, ← Nat.add_assoc]
    rfl
  passes := rest.passes
  config := rest.config
  time := rest.time

end Booked

variable [BlockDevice δ]

/-- Writing a segment is an access to the driver. -/
theorem exists_atop_of_writeSegment (segment : Segment) (store : Store δ) :
    ∃ driver, (writeSegment segment store).2 = store.atop driver := by
  have leaves : (writeSegment segment store).2.atop = store.atop :=
    writeSegment_leaves (fun _ _ => rfl) segment store
  exact ⟨(writeSegment segment store).2.driver, congrFun leaves _⟩

/-- What is reported of a list is what went to the books. -/
theorem storeEach_booked (listed : List Segment) (report : CommitReport) (store : Store δ) :
    (storeEach listed report : Action (Store δ) ε CommitReport).Concludes store
      (fun told after => ∃ stored failed, told = { report with
          stored := report.stored ++ stored
          failed := report.failed ++ failed } ∧ Booked listed stored failed store after)
      fun _ => True := by
  induction listed generalizing report store with
  | nil => exact .pure ⟨[], [], by simp, .done store⟩
  | cons segment rest ih =>
      obtain ⟨driver, written⟩ := exists_atop_of_writeSegment segment store
      rcases writes : writeSegment segment store with ⟨bytes | cause | _, reached⟩
      · obtain rfl : reached = store.atop driver := by rw [← written, writes]
        refine .of_eq (storeEach_of_stored (storeSegment_of_written writes)) ((ih _ _).mono ?_ ?_)
        · intro told after ended
          obtain ⟨stored, failed, reported, booked⟩ := ended
          exact ⟨segment :: stored, failed, by simp [reported], .cons_stored booked⟩
        · exact fun _ => id
      · obtain rfl : reached = store.atop driver := by rw [← written, writes]
        refine .of_eq (storeEach_of_failed (storeSegment_of_failed writes)) ((ih _ _).mono ?_ ?_)
        · intro told after ended
          obtain ⟨stored, failed, reported, booked⟩ := ended
          exact ⟨stored, segment :: failed, by simp [reported], .cons_failed booked⟩
        · exact fun _ => id
      · rw [Action.Concludes, storeEach_of_trap (storeSegment_of_trap writes)]
        trivial

/-- A pass counts itself, and the rest of the books is that of its list. -/
theorem passOver_booked (listed : List Segment) (store : Store δ) :
    (passOver listed : Action (Store δ) ε CommitReport).Concludes store
      (fun report after => ∃ last, Booked listed report.stored report.failed
          { store with stats :=
            { store.stats with commitPasses := store.stats.commitPasses + 1 } } last ∧
        after = { last with windowStart := none })
      fun _ => True := by
  apply Action.Concludes.of_eq (Action.modify_bind _ _ store)
  refine .bind (storeEach_booked listed _ _) fun report last ended => ?_
  obtain ⟨stored, failed, rfl, booked⟩ := ended
  exact .of_eq (Action.modify_bind _ _ last) (.pure ⟨last, booked, rfl⟩)

omit [BlockDevice δ] in
/-- What was not stored failed, in its order. -/
theorem SharedOut.failed_eq (shared : SharedOut listed stored failed) (once : listed.Nodup) :
    failed = listed.filter fun segment => !decide (segment ∈ stored) := by
  have apart := List.nodup_append.1 (shared.everyone.nodup_iff.2 once)
  have kept : failed.filter (fun segment => !decide (segment ∈ stored)) = failed := by
    rw [List.filter_eq_self]
    intro segment member
    have other : segment ∉ stored := fun also => apart.2.2 segment also segment member rfl
    simpa using other
  have none : stored.filter (fun segment => !decide (segment ∈ stored)) = [] := by
    rw [List.filter_eq_nil_iff]
    intro segment member
    simpa using member
  have parts := (shared.everyone.filter fun segment => !decide (segment ∈ stored)).length_eq
  rw [List.filter_append, none, kept, List.nil_append] at parts
  have within := shared.failedInOrder.filter fun segment => !decide (segment ∈ stored)
  rw [kept] at within
  exact within.eq_of_length parts

end Store

/-! ## Every state that a store can come to -/

/-- Whatever is done to the device, it stays the same chip and reports its own geometry. Its
faults and even its cells may change. -/
def Activity.Gentle [ChipView δ] : Activity δ → Prop
  | .occurs (.disturb change) => ∀ device, shape (change device) = shape device ∧
      (ChipView.Honest device → ChipView.Honest (change device))
  | _ => True

namespace Store

variable [BlockDevice δ] [NorDevice δ] {store : Store δ}

/-- A state that a store has come to since it was started, on whatever device. A reboot starts a
new store. -/
inductive Reached : Store δ → Prop where
  | start {device : δ} (honest : ChipView.Honest device) (config : Config) (clock : Clock) :
      Reached (start device config clock)
  | perform {store : Store δ} {activity : Activity δ} (reached : Reached store)
      (gentle : activity.Gentle) : Reached (store.perform activity)
  | clearEvents {store : Store δ} (reached : Reached store) : Reached store.clearEvents

/-- An activity leaves the driver sound. -/
theorem sound_perform (sound : store.driver.Sound) {activity : Activity δ}
    (gentle : activity.Gentle) : (store.perform activity).driver.Sound := by
  have stays : ∀ {after : Store δ}, after.driver.device = store.driver.device →
      after.driver.planner = store.driver.planner → after.driver.Sound := by
    intro after device planner
    refine ⟨device ▸ sound.honest, fun map known => ?_⟩
    rw [device]
    exact sound.grown map (planner ▸ known)
  cases activity with
  | occurs occurrence =>
      cases occurrence with
      | register | markDirty | advanceClock | setClock | setGuardBand => exact stays rfl rfl
      | setLive segment live =>
          have same := driver_setLive store segment live
          exact stays (congrArg (·.device) same) (congrArg (·.planner) same)
      | forceCommit =>
          rw [perform, forceCommit_eq]
          exact stays rfl rfl
      | commitCheck => exact (commitCheck_within sound).sound
      | store segment => exact (storeSegment_within sound (List.mem_singleton_self segment)).sound
      | restore segment => exact (restore_looks sound segment).sound sound
      | erase segment =>
          have treads : Action.Reaches _ store fun after => store.driver.Treads
              ⟨segment, 0, 0, 0⟩ [segment] (fun _ => False) after.driver :=
            eraseSegment_treads sound (List.mem_singleton_self segment)
          exact treads.sound
      | disturb change =>
          obtain ⟨same, honest⟩ := gentle store.driver.device
          refine ⟨honest sound.honest, fun map known => ?_⟩
          show MemoryMap.Grown (shape (change store.driver.device)) map
          rw [same]
          exact sound.grown map known
  | restoreAll => exact (restoreAll_looks sound).sound sound
  | inspect segment => exact (SegmentDriver.inspect_looks sound segment _ _ _).sound sound
  | ensureMapped => exact (ensureMapped_looks sound).sound sound
  | setAppSignature appSignature => exact stays rfl rfl

theorem Reached.sound (reached : store.Reached) : store.driver.Sound := by
  induction reached with
  | start honest => exact ⟨honest, fun _ known => nomatch known⟩
  | perform _ gentle ih => exact sound_perform ih gentle
  | clearEvents _ ih => exact ih

/-- A run goes on through states that the store can come to. -/
theorem Reached.run (reached : store.Reached) {activities : List (Activity δ)}
    (gentle : ∀ activity ∈ activities, activity.Gentle) :
    (activities.foldl Store.perform store).Reached := by
  induction activities generalizing store with
  | nil => exact reached
  | cons activity rest ih =>
      obtain ⟨first, others⟩ := List.forall_mem_cons.1 gentle
      exact ih (reached.perform first) others

/-! ## A pass -/

/-- What a pass comes to that ends in a report. The pause after each segment that was stored is
the yield of the settings, in whole milliseconds and at most the largest word. -/
structure Passed (before : Store δ) (report : CommitReport) (after : Store δ) : Prop where
  storedInOrder : report.stored.Pairwise (·.ordinal < ·.ordinal)
  failedInOrder : report.failed.Pairwise (·.ordinal < ·.ordinal)
  disjoint : ∀ segment ∈ report.stored, segment ∉ report.failed
  everyone : (report.stored ++ report.failed).Perm before.dirtySegments
  dirty : after.dirtySegments = report.failed
  windowStart : after.windowStart = none
  forced : after.forced = (before.forced && report.stored.isEmpty)
  events : ∃ events, after.events = before.events ++ events ∧
    Told before.dirtySegments report.stored report.failed events
  commits : after.stats.commits = before.stats.commits + report.stored.length
  failures : after.stats.commitFailures = before.stats.commitFailures + report.failed.length
  passes : after.stats.commitPasses = before.stats.commitPasses + 1
  time : after.clock.now =
    (before.clock.now + before.config.yieldMillis * report.stored.length) % 2 ^ 64
  outside : SegmentDriver.Within before.dirtySegments before.driver after.driver
  others : ∀ segment entry, segment ∉ before.dirtySegments → after.driver.Mapped segment entry →
    after.driver.contents entry = before.driver.contents entry

/-- The report of a pass is true, and its books are in order. -/
theorem passed_of_passOver {report : CommitReport} {after : Store δ} (sound : store.driver.Sound)
    (passes : (passOver store.dirtySegments store : Outcome ε CommitReport × Store δ) =
      (.value report, after)) : Passed store report after := by
  have once : store.dirtySegments.Nodup := List.Pairwise.filter _ (by decide)
  have ordered : store.dirtySegments.Pairwise (·.ordinal < ·.ordinal) :=
    List.Pairwise.filter _ (by decide)
  have within := passOver_within (ε := ε) sound store.dirtySegments
  have reports := passOver_report (ε := ε) store.dirtySegments store
  have books := passOver_booked (ε := ε) store.dirtySegments store
  rw [Action.Reaches, passes] at within
  rw [Action.Concludes, passes] at reports books
  obtain ⟨-, shared, told, tells, agenda⟩ := reports
  obtain ⟨last, booked, rfl⟩ := books
  have dirty : last.dirty = told.dirty := congrArg Agenda.dirty agenda
  have forced : last.forced = told.forced := congrArg Agenda.forced agenda
  have apart := List.nodup_append.1 (shared.everyone.nodup_iff.2 once)
  refine ⟨ordered.sublist shared.inOrder, ordered.sublist shared.failedInOrder, ?_,
    shared.everyone, ?_, rfl, ?_, booked.events, booked.commits, booked.failures, booked.passes,
    booked.time, within, ?_⟩
  · exact fun segment stored failed => apart.2.2 segment stored segment failed rfl
  · rw [shared.failed_eq once, dirtySegments, dirtySegments, List.filter_filter]
    refine List.filter_congr fun segment _ => ?_
    rw [Bool.and_comm, ← tells.isDirty]
    show last.dirty.get segment = told.dirty.get segment
    rw [dirty]
  · exact forced.trans tells.forced
  · exact fun segment entry other mapped => within.contents other mapped

/-- In every state that a store can come to, a check makes a pass exactly if it is due. A pass
stores or fails each dirty segment, in order, and the rest is as it should be: only those that
failed are dirty, no guard band is running, the force is spent if anything was stored, every
attempt was told of and counted, the clock has gone on by the pauses, and whatever is not in the
range of a segment that was dirty has stayed on the flash. The pass ends that way unless the map
is to be planned with numbers that are no words. -/
theorem commitCheck_passed (reached : store.Reached) :
    (∃ report after, (commitCheck store : Outcome ε CommitReport × Store δ) =
        (.value report, after) ∧ report.performed = store.isCommitDue ∧
      (report.performed = true → Passed store report after)) ∨
      (commitCheck store : Outcome ε CommitReport × Store δ).1 = .trap ∧
        ¬ store.driver.Countable := by
  cases due : store.isCommitDue with
  | false =>
      refine .inl ⟨{}, store, commitCheck_of_not_due due, rfl, fun performed => ?_⟩
      contradiction
  | true =>
      rw [commitCheck_of_due due]
      rcases passOver_returns (ε := ε) store.dirtySegments store with
        ⟨report, after, passes, performed, -⟩ | ⟨traps, -⟩
      · exact .inl ⟨report, after, passes, performed, fun _ =>
          passed_of_passOver reached.sound passes⟩
      · exact .inr ⟨traps, fun countable => passOver_ne_trap reached.sound countable _ traps⟩

/-- Three segments have changed. One can be stored, the codec of one fails, and one is not even
registered. -/
def mixedChanges : List (Activity (Faulty MemoryFlash)) :=
  [.occurs (.register .networkImage (.blob 2 none .full) [7, 9]),
    .occurs (.register .security (.scripted 2 (some "busy") none) [1]),
    .occurs (.markDirty .uniqueId), .occurs (.markDirty .security),
    .occurs (.markDirty .networkImage), .occurs .forceCommit]

/-- A store with these changes, over a device that is about to lose its power. -/
def mixedStore : Store (Faulty MemoryFlash) :=
  mixedChanges.foldl perform
    (start { device := pairChip, faults := ({} : Flash.Faults).cutPowerAfter 60 } {} {})

theorem commitCheck_passed_sample : mixedStore.Reached ∧
    ∃ report after, (commitCheck mixedStore : Outcome StoreError CommitReport × _) =
        (.value report, after) ∧ report.stored = [.networkImage] ∧
      report.failed = [.security, .uniqueId] ∧ Passed mixedStore report after := by
  have reached : mixedStore.Reached := by
    refine .run (.start trivial {} {}) ?_
    simp [mixedChanges, Activity.Gentle]
  have answers : (commitCheck mixedStore : Outcome StoreError CommitReport × _).1 =
      .value { performed := true, stored := [.networkImage], failed := [.security, .uniqueId] } := by
    decide +kernel
  rcases commitCheck_passed (ε := StoreError) reached with
    ⟨report, after, ends, -, passed⟩ | ⟨traps, -⟩
  · rw [ends] at answers
    obtain rfl := Outcome.value.inj answers
    exact ⟨reached, _, after, ends, rfl, rfl, passed rfl⟩
  · rw [answers] at traps
    exact nomatch traps

end Store

end NorStore
