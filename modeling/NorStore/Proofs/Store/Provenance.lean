/-
# What a call leaves in a range

A call changes cells only in the ranges of the segments that it stores or erases. A range that
meets none of them holds what it held; and what has become committed in the range of one of
them is the payload that this segment had to store, and it is told as stored. The other calls
only look. This holds for every order in which segments are registered and placed, and
wherever the device fails.
-/

import NorStore.Proofs.Store.Agenda
import NorStore.Proofs.Store.Erasing
import NorStore.Proofs.Store.Inspecting

namespace NorStore

open NorStore.Flash (BlockDevice ChipView NorDevice)
open NorStore.Flash.ChipView (shape)

variable {δ ε : Type} [BlockDevice δ] [NorDevice δ]

namespace SegmentDriver

variable {driver middle reached : SegmentDriver δ} {segment : Segment} {entry home : MapEntry}
  {tried : List Segment} {fresh wider : Bytes → Prop}

/-! ## Treading on a range -/

/-- None of these segments has a range that meets another range. -/
def Clear (home : MapEntry) (tried : List Segment) (driver : SegmentDriver δ) : Prop :=
  ∀ segment ∈ tried, ∀ entry, driver.Mapped segment entry → entry = home ∨ entry.Apart home

/-- In a range that is clear of what was tried, nothing has become committed but what is
fresh. -/
structure Treads (home : MapEntry) (tried : List Segment) (fresh : Bytes → Prop)
    (before after : SegmentDriver δ) : Prop where
  sound : after.Sound
  shape : shape after.device = shape before.device
  kept : (ChipView.shape before.device).regionOffset ≤ home.start → after.Clear home tried →
    Committed (after.contents home) →
      after.contents home = before.contents home ∨ fresh (after.contents home)

namespace Treads

theorem mono (treads : Treads home tried fresh driver reached)
    (implies : ∀ range, fresh range → wider range) : Treads home tried wider driver reached where
  sound := treads.sound
  shape := treads.shape
  kept inside clear isCommitted := (treads.kept inside clear isCommitted).imp_right (implies _)

/-- What is clear in the end was clear before, as segments keep their ranges. -/
theorem trans (one : Treads home tried fresh driver middle)
    (two : Treads home tried fresh middle reached)
    (grows : ∀ segment entry, middle.Mapped segment entry → reached.Mapped segment entry) :
    Treads home tried fresh driver reached where
  sound := two.sound
  shape := two.shape.trans one.shape
  kept inside clear isCommitted := by
    have still : middle.Clear home tried := fun segment member entry mapped =>
      clear segment member entry (grows segment entry mapped)
    rcases two.kept (one.shape ▸ inside) clear isCommitted with same | isFresh
    · rw [same] at isCommitted ⊢
      exact one.kept inside still isCommitted
    · exact .inr isFresh

/-- An access in the range of a segment that was tried. -/
theorem of_confined (sound : driver.Sound) (mapped : driver.Mapped segment entry)
    (member : segment ∈ tried) (confined : Confined entry driver reached)
    (own : entry = home → Committed (reached.contents home) →
      reached.contents home = driver.contents home ∨ fresh (reached.contents home)) :
    Treads home tried fresh driver reached where
  sound := confined.toFollows.sound sound
  shape := confined.keeps.shape
  kept inside clear isCommitted := by
    rcases clear segment member entry (confined.toFollows.mapped mapped) with same | apart
    · exact own same isCommitted
    · exact .inl (contents_of_apart confined.keeps.shape confined.outside apart.symm
        (sound.fits mapped).first inside)

end Treads

/-- Looking treads on nothing. -/
theorem Looks.treads (looks : Looks driver reached) (sound : driver.Sound) :
    Treads home tried fresh driver reached where
  sound := looks.sound sound
  shape := looks.shape
  kept _ _ _ := .inl (looks.contents home)

/-- Erasing a segment makes nothing committed, wherever it stops. -/
theorem eraseSegment_treads (sound : driver.Sound) (member : segment ∈ tried) :
    (eraseSegment segment).Reaches driver (Treads home tried fresh driver) := by
  refine ensureMapped_reaches sound (fun _ looks => looks.treads sound) ?_
  intro entry found looks soundly mapped
  refine .of_ends ((eraseSegment_uncommits soundly mapped).mono ?_ ?_)
  · intro _ reached ended
    obtain ⟨confined, uncommitted⟩ := ended
    refine (looks.treads sound).trans (.of_confined soundly mapped member confined ?_)
      fun _ _ => confined.toFollows.mapped
    rintro rfl isCommitted
    exact absurd isCommitted uncommitted
  · exact fun _ _ remains => (looks.trans remains.looks).treads sound

end SegmentDriver

namespace Store

variable {store middle after : Store δ} {segment : Segment} {home : MapEntry}
  {tried stored later : List Segment}

omit [BlockDevice δ] [NorDevice δ] in
/-- The payload that a segment has to store, if it has one. -/
def payload? (store : Store δ) (segment : Segment) : Option Bytes :=
  (store.registrations.get segment).bind fun registration =>
    (registration.codec.serialize registration.live).toOption

/-- The range carries the payload that its segment has to store, and the segment was stored. -/
def Newly (store : Store δ) (home : MapEntry) (stored : List Segment) (range : Bytes) : Prop :=
  home.segment ∈ stored ∧ ∃ payload appSignature span,
    store.payload? home.segment = some payload ∧ Carries appSignature span payload range

/-- These segments were stored, of those that were tried, and only in their own ranges. -/
structure Stores (home : MapEntry) (tried stored : List Segment) (before after : Store δ) : Prop where
  treads : before.driver.Treads home tried (before.Newly home stored) after.driver
  grows : ∀ segment entry, before.driver.Mapped segment entry → after.driver.Mapped segment entry
  registrations : after.registrations = before.registrations
  events : ∃ told, after.events = before.events ++ told ∧
    told.filterMap Event.stored? = stored

namespace Stores

/-- What only looks at the flash stores nothing. -/
theorem of_looks (sound : store.driver.Sound) (looks : store.driver.Looks after.driver)
    (grows : ∀ segment entry, store.driver.Mapped segment entry → after.driver.Mapped segment entry)
    (registrations : after.registrations = store.registrations)
    (events : ∃ told, after.events = store.events ++ told ∧ told.filterMap Event.stored? = []) :
    Stores home tried [] store after := ⟨looks.treads sound, grows, registrations, events⟩

theorem trans (one : Stores home tried stored store middle)
    (two : Stores home tried later middle after) : Stores home tried (stored ++ later) store after where
  treads := by
    refine (one.treads.mono fun range newly => ?_).trans (two.treads.mono fun range newly => ?_)
      two.grows
    · exact ⟨List.mem_append_left _ newly.1, newly.2⟩
    · obtain ⟨member, payload, appSignature, span, has, carries⟩ := newly
      rw [payload?, one.registrations] at has
      exact ⟨List.mem_append_right _ member, payload, appSignature, span, has, carries⟩
  grows segment entry mapped := two.grows segment entry (one.grows segment entry mapped)
  registrations := two.registrations.trans one.registrations
  events := by
    obtain ⟨first, told, filtered⟩ := one.events
    obtain ⟨second, further, rest⟩ := two.events
    exact ⟨first ++ second, by rw [further, told, List.append_assoc],
      by rw [List.filterMap_append, filtered, rest]⟩

theorem storedSince (stores : Stores home tried stored store after) :
    store.storedSince after = stored := by
  obtain ⟨told, events, filtered⟩ := stores.events
  rw [Store.storedSince, events, List.drop_left, filtered]

end Stores

/-- An attempt to store a segment stores it in its range, or nothing anywhere. -/
theorem storeSegment_stores (sound : store.driver.Sound) (member : segment ∈ tried)
    (home : MapEntry) :
    (storeSegment segment).Reaches store fun after =>
      ∃ stored, Stores home tried stored store after := by
  rw [Action.Reaches]
  cases registered : store.registrations.get segment with
  | none =>
      rw [storeSegment_of_unregistered registered]
      exact ⟨[], .of_looks sound (.refl store.driver) (fun _ _ => id) rfl ⟨[_], rfl, rfl⟩⟩
  | some registration =>
      have looks := SegmentDriver.looks_ensureMapped segment store.driver
      have grows : ∀ other range, store.driver.Mapped other range →
          (SegmentDriver.ensureMapped segment store.driver).2.Mapped other range :=
        fun _ _ mapped => mapped.ensureMapped segment
      rcases asked : SegmentDriver.ensureMapped segment store.driver with ⟨entry | cause | _, found⟩
      · rw [asked] at looks grows
        have soundly : (store.atop found).driver.Sound := looks.sound sound
        have mapped : (store.atop found).driver.Mapped segment entry :=
          SegmentDriver.mapped_of_ensureMapped asked
        have known : (store.atop found).registrations.get segment = some registration := registered
        rw [storeSegment_atop registered asked]
        rcases (writeSegment_ends soundly mapped known).cases with
          ⟨bytes, _, writes, driver, payload, confined, written, rfl, rfl⟩ |
          ⟨cause, _, fails, driver, missed, rfl⟩
        · rw [storeSegment_of_written writes]
          refine ⟨[segment], ?_, fun other range given => ?_, rfl, [.stored segment], rfl, rfl⟩
          · refine (looks.treads sound).trans (.of_confined soundly mapped member confined ?_)
              fun _ _ => confined.toFollows.mapped
            rintro rfl -
            have named := soundly.segment_eq mapped
            refine .inr ⟨List.mem_singleton.2 named, payload, _, _, ?_, written.carries⟩
            rw [named, payload?, registered]
            exact congrArg Except.toOption written.serialized
          · exact confined.toFollows.mapped (grows other range given)
        · rw [storeSegment_of_failed fails]
          refine ⟨[], ?_, fun other range given => ?_, rfl, [.storeFailed segment cause], rfl, rfl⟩
          · refine (looks.treads sound).trans (.of_confined soundly mapped member missed.confined ?_)
              fun _ _ => missed.confined.toFollows.mapped
            rintro rfl isCommitted
            rcases missed.kept with same | uncommitted
            · exact .inl (missed.confined.advances.contents_of_cells same _)
            · exact absurd isCommitted uncommitted
          · exact missed.confined.toFollows.mapped (grows other range given)
      · rw [asked] at looks grows
        rw [storeSegment_of_unmapped registered asked]
        exact ⟨[], .of_looks sound looks grows rfl ⟨[_], rfl, rfl⟩⟩
      · rw [asked] at looks grows
        rw [storeSegment_of_no_range registered asked]
        exact ⟨[], .of_looks sound looks grows rfl ⟨[], (List.append_nil _).symm, rfl⟩⟩

/-- A pass stores some of the segments that it tries. -/
theorem storeEach_stores {listed : List Segment} (sound : store.driver.Sound)
    (members : listed ⊆ tried) (report : CommitReport) (home : MapEntry) :
    (storeEach listed report : Action (Store δ) ε CommitReport).Reaches store fun after =>
      ∃ stored, Stores home tried stored store after := by
  induction listed generalizing report store with
  | nil =>
      exact .pure ⟨[], .of_looks sound (.refl store.driver) (fun _ _ => id) rfl
        ⟨[], (List.append_nil _).symm, rfl⟩⟩
  | cons segment rest ih =>
      have first := storeSegment_stores sound (members List.mem_cons_self) home
      have others : rest ⊆ tried := fun _ member => members (.tail _ member)
      refine .bind (.attempt first) fun result reached _ begun => ?_
      obtain ⟨stored, begun⟩ := begun
      cases result with
      | ok _ =>
          have paused : Stores home tried stored store
              (reached.advanceClock reached.config.yieldMillis) :=
            ⟨begun.treads, begun.grows, begun.registrations, begun.events⟩
          refine Action.Reaches.value_bind rfl ((ih paused.treads.sound others _).mono ?_)
          intro after ended
          obtain ⟨later, ended⟩ := ended
          exact ⟨_, paused.trans ended⟩
      | error cause =>
          refine (ih begun.treads.sound others _).mono fun after ended => ?_
          obtain ⟨later, ended⟩ := ended
          exact ⟨_, begun.trans ended⟩

theorem passOver_stores (sound : store.driver.Sound) (listed : List Segment) (home : MapEntry) :
    (passOver listed : Action (Store δ) ε CommitReport).Reaches store fun after =>
      ∃ stored, Stores home listed stored store after := by
  have begun : ({ store with stats :=
      { store.stats with commitPasses := store.stats.commitPasses + 1 } } : Store δ).driver.Sound :=
    sound
  have passes := storeEach_stores (ε := ε) begun (List.Subset.refl listed) { performed := true } home
  refine Action.Reaches.value_bind rfl (.bind (passes.mono ?_) ?_)
  · intro after ended
    obtain ⟨stored, ended⟩ := ended
    exact ⟨stored, ended.treads, ended.grows, ended.registrations, ended.events⟩
  · intro report last _ ended
    obtain ⟨stored, ended⟩ := ended
    exact ⟨stored, ended.treads, ended.grows, ended.registrations, ended.events⟩

/-- A check stores some of the segments that are dirty, if it makes a pass. -/
theorem commitCheck_stores (sound : store.driver.Sound) (home : MapEntry) :
    (commitCheck : Action (Store δ) ε CommitReport).Reaches store fun after =>
      ∃ stored, Stores home store.dirtySegments stored store after := by
  rw [Action.Reaches]
  cases due : store.isCommitDue with
  | false =>
      rw [commitCheck_of_not_due due]
      exact ⟨[], .of_looks sound (.refl store.driver) (fun _ _ => id) rfl
        ⟨[], (List.append_nil _).symm, rfl⟩⟩
  | true =>
      rw [commitCheck_of_due due]
      exact passOver_stores sound store.dirtySegments home

/-- Erasing a segment makes nothing committed. -/
theorem eraseSegment_treads {fresh : Bytes → Prop} (sound : store.driver.Sound)
    (member : segment ∈ tried) :
    (eraseSegment segment).Reaches store fun after =>
      store.driver.Treads home tried fresh after.driver :=
  .bind (SegmentDriver.eraseSegment_treads sound member) fun _ _ _ treads => treads

/-! ## Calls that only look -/

/-- Each of a list of calls only looks, and so does the whole. -/
theorem mapM_looks {α β : Type} {call : α → Action (Store δ) ε β} (sound : store.driver.Sound)
    (each : ∀ (asked : α) (reached : Store δ), reached.driver.Sound →
      (call asked).Reaches reached fun after => reached.driver.Looks after.driver)
    (listed : List α) :
    (listed.mapM call).Reaches store fun after => store.driver.Looks after.driver := by
  induction listed generalizing store with
  | nil => exact .pure (.refl store.driver)
  | cons first rest ih =>
      rw [List.mapM_cons]
      refine .bind (each first store sound) fun result middle _ looks => ?_
      refine .bind ((ih (looks.sound sound)).mono fun _ => looks.trans) ?_
      exact fun _ _ _ looked => .pure looked

theorem restoreAll_looks (sound : store.driver.Sound) :
    (restoreAll : Action (Store δ) ε _).Reaches store fun after =>
      store.driver.Looks after.driver := by
  refine .get_bind (mapM_looks sound (fun segment reached soundly => ?_) _)
  exact .bind (restore_looks soundly segment) fun _ _ _ looks => .pure looks

theorem ensureMapped_looks (sound : store.driver.Sound) :
    (ensureMapped : Action (Store δ) StoreError _).Reaches store fun after =>
      store.driver.Looks after.driver := by
  refine .get_bind (mapM_looks sound (fun segment reached _ => ?_) _)
  exact SegmentDriver.looks_ensureMapped segment reached.driver

end Store

end NorStore
