/-
# A commit that is interrupted

Power can be lost at any byte of a commit pass, and the pass goes on over a device that
no longer takes anything. The pass then falls into three parts: the segments that were
stored before, at most one segment in which power was lost, and the segments after it,
which keep the bytes they had. A reboot recovers each of them accordingly, and only those
that were not stored are still dirty.
-/

import NorStore.Proofs.Store.Atomicity
import NorStore.Proofs.Store.Pass

namespace NorStore.Store

open NorStore.Flash (BlockDevice ChipView Faulty Geometry MemoryFlash NorDevice Restartable
  Shareable)

variable {δ ε : Type} [BlockDevice δ] [NorDevice δ] {store middle after : Store δ}
  {segment : Segment} {entry : MapEntry} {registration : Registration}
  {listed stored failed : List Segment}

/-! ## Passes that only power can interrupt -/

/-- The segments of a list that are dirty are registered and can be stored. -/
def Ready (store : Store δ) (listed : List Segment) : Prop :=
  ∀ segment ∈ listed, store.isDirty segment = true → ∃ registration,
    store.registrations.get segment = some registration ∧ registration.Storable

/-- Being ready outlives a step of a pass, which makes no segment dirty. -/
theorem Ready.of_moves (ready : store.Ready (segment :: listed)) (moves : Moves store after)
    (cleans : ∀ other, after.isDirty other = true → store.isDirty other = true) :
    after.Ready listed := by
  intro other member isDirty
  rw [moves.registrations]
  exact ready other (.tail _ member) (cleans other isDirty)

/-- What is known of a pass that only power can interrupt: it stores the dirty segments up
to some place in their order, it stores all of them if power lasts, and the segments after
the one that was interrupted keep their bytes. -/
structure Parts (store : Store δ) (listed stored failed : List Segment) (after : Store δ) :
    Prop where
  order : stored ++ failed = listed.filter store.isDirty
  powerless : failed ≠ [] → ChipView.Lost after.device
  untouched : ∀ segment ∈ failed.tail, ∀ entry, store.Home segment entry →
    after.driver.contents entry = store.driver.contents entry

theorem Pass.parts (trace : Pass store listed stored failed after)
    (usable : store.driver.Usable) (ready : store.Ready listed) (once : listed.Nodup) :
    Parts store listed stored failed after := by
  induction trace with
  | done store => exact ⟨rfl, fun some => absurd rfl some, nofun⟩
  | clean isClean _ ih =>
      have rest := ih usable (ready.of_moves (.refl _) fun _ => id) (List.nodup_cons.1 once).2
      exact ⟨by rw [List.filter_cons_of_neg (by simp [isClean]), rest.order], rest.powerless,
        rest.untouched⟩
  | @stored store _ tried listed _ _ _ _ _ _ bytes millis isDirty found _ written trace ih =>
      obtain ⟨fresh, once⟩ := List.nodup_cons.1 once
      have moves := written.moves tried bytes millis
      have rest := ih (moves.usable usable)
        (ready.of_moves moves fun other still => by
          rw [isDirty_noteStored, Bool.and_eq_true] at still
          exact still.1) once
      refine ⟨?_, rest.powerless, fun segment member entry home => ?_⟩
      · rw [List.filter_cons_of_pos isDirty, List.cons_append, rest.order]
        congr 1
        refine List.filter_congr fun other member => ?_
        have different : other ≠ tried := fun same => fresh (same ▸ member)
        rw [isDirty_noteStored, decide_eq_false different, Bool.not_false, Bool.and_true]
        rfl
      · have different : segment ≠ tried := fun same =>
          fresh (same ▸ trace.mem_listed (.inr (List.mem_of_mem_tail member)))
        rw [← found.contents_of_ne written.advances home different]
        exact rest.untouched segment member entry (moves.home home)
  | @failed store after tried listed stored failed _ _ _ cause isDirty found known missed trace
      ih =>
      obtain ⟨fresh, once⟩ := List.nodup_cons.1 once
      obtain ⟨registration, registered, storable⟩ := ready tried List.mem_cons_self isDirty
      rw [known] at registered
      cases registered
      -- From here on the device is dead, so nothing that follows is stored or changed.
      have lost := missed.spent usable storable
      obtain ⟨rfl, same⟩ := trace.of_lost lost
      have moves : Moves store _ := missed.moves cause
      have rest := ih (moves.usable usable)
        (ready.of_moves moves fun _ => id) once
      refine ⟨?_, fun _ => trace.moves.keeps.lost lost, fun segment member entry home => ?_⟩
      · have order := rest.order
        rw [List.nil_append] at order
        rw [List.filter_cons_of_pos isDirty, List.nil_append, order]
        rfl
      · have different : segment ≠ tried := fun same =>
          fresh (same ▸ trace.mem_listed (.inr member))
        rw [trace.moves.contents_of_cells same]
        exact found.contents_of_ne missed.advances home different
  | unregistered isDirty unknown _ _ =>
      obtain ⟨registration, registered, -⟩ := ready _ List.mem_cons_self isDirty
      rw [unknown] at registered
      contradiction

/-! ## What a reboot recovers -/

/-- The segment is one of blobs without an exact layout, has the range that a reboot gives it,
and has live bytes that it can hold. -/
structure HoldsBlob (store : Store δ) (segment : Segment) (entry : MapEntry) (maxSize : Nat)
    (span : ChecksumSpan) (live : Bytes) : Prop where
  allotted : store.driver.Allotted segment entry
  home : store.Home segment entry
  registered : store.registrations.get segment = some { codec := .blob maxSize none span, live }
  fits : live.length ≤ maxSize
  short : live.length < UInt32.size

omit [BlockDevice δ] [NorDevice δ] in
theorem mem_dirtySegments : segment ∈ store.dirtySegments ↔ store.isDirty segment = true := by
  rw [dirtySegments, List.mem_filter]
  exact and_iff_right (Segment.mem_all segment)

/-- The segments that are still dirty after a pass are those that could not be stored. -/
theorem Pass.dirtySegments_after (trace : Pass store Segment.all stored failed after)
    (order : stored ++ failed = store.dirtySegments) : after.dirtySegments = failed := by
  have once : (stored ++ failed).Nodup := by
    rw [order]
    exact List.Pairwise.filter _ (by decide)
  have dirty : after.isDirty = fun segment =>
      !decide (segment ∈ stored) && store.isDirty segment := by
    funext segment
    rw [trace.isDirty_after, Bool.and_comm]
  rw [dirtySegments, dirty, ← List.filter_filter]
  show store.dirtySegments.filter _ = failed
  rw [← order, List.filter_append, List.filter_eq_nil_iff.2, List.nil_append, List.filter_eq_self]
  · intro segment member
    have apart : segment ∉ stored := fun also =>
      (List.nodup_append.1 once).2.2 segment also segment member rfl
    simpa using apart
  · intro segment member
    simpa using member

section Recovered

variable [Shareable δ] [Restartable δ] (trace : Pass store listed stored failed after)
  (defaults : Segment → Bytes)

include trace

theorem Pass.recovered_of_contents (same : ∀ entry, store.Home segment entry →
    after.driver.contents entry = store.driver.contents entry) :
    (after.recovered defaults segment : Outcome ε LoadOutcome × Option Bytes) =
      store.recovered defaults segment :=
  recovered_congr trace.moves.registrations trace.moves.config trace.moves.keeps.shape same defaults

/-- A segment that was stored is recovered with its new payload. -/
theorem Pass.recovered_of_stored {maxSize : Nat} {span : ChecksumSpan} {live : Bytes}
    (once : listed.Nodup) (member : segment ∈ stored)
    (blob : store.HoldsBlob segment entry maxSize span live)
    (version : Header.currentVersion ≤ store.config.maxVersion) :
    (after.recovered defaults segment : Outcome ε LoadOutcome × Option Bytes) =
      (.value .restored, store.live? segment) := by
  obtain ⟨payload, serialized, -, carries⟩ := trace.carries once member blob.home blob.registered
  cases serialized
  have moves := trace.moves
  have known := blob.registered
  have lives := live?_of_registered known
  rw [← moves.registrations] at known
  rw [← moves.config] at carries version
  rw [lives]
  exact recovered_of_carries (moves.home blob.home) known defaults carries blob.short version
    (deserialize_blob_of_fits blob.fits)

/-- A segment that could not be stored is recovered as before, or as nothing. -/
theorem Pass.recovered_of_failed (once : listed.Nodup) (member : segment ∈ failed)
    (home : store.Home segment entry)
    (registered : store.registrations.get segment = some registration) :
    (after.recovered defaults segment : Outcome ε LoadOutcome × Option Bytes) =
        store.recovered defaults segment ∨
      (after.recovered defaults segment : Outcome ε LoadOutcome × Option Bytes) =
        nothing defaults segment := by
  have moves := trace.moves
  rw [← moves.registrations] at registered
  rcases trace.kept once member home with same | uncommitted
  · refine .inl (trace.recovered_of_contents defaults fun range also => ?_)
    rw [SegmentDriver.Placed.unique home also]
    exact same
  · exact .inr (recovered_of_not_committed (moves.home home) registered defaults uncommitted)

end Recovered

/-- After a commit pass that power may interrupt at any byte, and a reboot with working power
that gives each dirty segment the range it had, there is a position in the order of the dirty
segments such that those before it are recovered with their new payloads, the one at it as
before or as nothing, and all other segments as before. The report says where that was, and
the segments from there on are still dirty. -/
theorem recovered_commitCheck {store : Store (Faulty MemoryFlash)} (sound : store.driver.Sound)
    (usable : store.driver.Usable) (due : store.isCommitDue = true)
    (version : 1 ≤ store.config.maxVersion)
    (blobs : ∀ segment ∈ store.dirtySegments, ∃ entry maxSize span live,
      store.HoldsBlob segment entry maxSize span live) (defaults : Segment → Bytes) :
    ∃ position after, position ≤ store.dirtySegments.length ∧
      (commitCheck store : Outcome ε CommitReport × Store (Faulty MemoryFlash)) =
        (.value {
          performed := true
          stored := store.dirtySegments.take position
          failed := store.dirtySegments.drop position }, after) ∧
      after.dirtySegments = store.dirtySegments.drop position ∧
      (∀ segment ∈ store.dirtySegments.take position,
        (after.recovered defaults segment : Outcome ε LoadOutcome × Option Bytes) =
          (.value .restored, store.live? segment)) ∧
      (∀ segment, store.dirtySegments[position]? = some segment →
        (after.recovered defaults segment : Outcome ε LoadOutcome × Option Bytes) =
            store.recovered defaults segment ∨
          (after.recovered defaults segment : Outcome ε LoadOutcome × Option Bytes) =
            nothing defaults segment) ∧
      (∀ segment, segment ∉ store.dirtySegments.take (position + 1) →
        (after.recovered defaults segment : Outcome ε LoadOutcome × Option Bytes) =
          store.recovered defaults segment) ∧
      (after.device.faults.powerLost = false → position = store.dirtySegments.length) := by
  have once : Segment.all.Nodup := by decide
  have places : store.PlacedEach Segment.all := by
    intro segment _ isDirty _ _
    obtain ⟨entry, _, _, _, blob⟩ := blobs segment (mem_dirtySegments.2 isDirty)
    exact ⟨entry, blob.home, blob.allotted⟩
  have ready : store.begun.Ready Segment.all := by
    intro segment _ isDirty
    obtain ⟨_, _, _, live, blob⟩ := blobs segment (mem_dirtySegments.2 isDirty)
    exact ⟨_, blob.registered, live, rfl, blob.fits⟩
  obtain ⟨stored, failed, after, trace, commits⟩ := commitCheck_pass (ε := ε) sound places due
  have parts := trace.parts usable ready once
  have order : store.dirtySegments = stored ++ failed := parts.order.symm
  refine ⟨stored.length, after.ended, ?_, ?_, ?_, ?_, ?_, ?_, ?_⟩
  · rw [order, List.length_append]
    exact Nat.le_add_right ..
  · rw [commits, order, List.take_left, List.drop_left]
  · rw [order, List.drop_left]
    exact trace.dirtySegments_after parts.order
  · intro segment member
    rw [order, List.take_left] at member
    obtain ⟨_, _, _, _, blob⟩ := blobs segment (order ▸ List.mem_append_left _ member)
    exact trace.recovered_of_stored defaults once member
      ⟨blob.allotted, blob.home, blob.registered, blob.fits, blob.short⟩ version
  · intro segment there
    rw [order, List.getElem?_append_right (Nat.le_refl _), Nat.sub_self] at there
    have member : segment ∈ failed := List.mem_of_getElem? there
    obtain ⟨_, _, _, _, blob⟩ := blobs segment (order ▸ List.mem_append_right _ member)
    exact trace.recovered_of_failed defaults once member blob.home blob.registered
  · intro segment elsewhere
    rw [order, List.take_length_add_append, List.mem_append, not_or] at elsewhere
    refine trace.recovered_of_contents defaults fun entry home => ?_
    by_cases member : segment ∈ failed.tail
    · exact parts.untouched segment member entry home
    · refine trace.contents_of_not_tried home elsewhere.1 fun later => ?_
      cases failed with
      | nil => exact nomatch later
      | cons first rest =>
          rcases List.mem_cons.1 later with rfl | behind
          · exact elsewhere.2 List.mem_cons_self
          · exact member behind
  · intro powered
    have none : failed = [] := by
      apply Decidable.byContradiction
      intro some
      have lost : after.device.faults.powerLost = true :=
        (parts.powerless some).resolve_right id
      exact Bool.false_ne_true (powered.symm.trans lost)
    rw [order, none, List.append_nil]

/-! ### Power for one segment and a half -/

/-- A store with two changed segments, whose power lasts for forty more bytes. -/
def pairStore : Store (Faulty MemoryFlash) :=
  { (((Store.start { device := pairChip, faults := { powerLeft := some 40 } }
      { appSignature := 5 } {}).register .applicationData (.blob 2 none .full) [3]).register
        .uniqueId (.blob 2 none .full) [4]) with
    dirty := ((Segment.Table.replicate false).set .applicationData true).set .uniqueId true
    forced := true }

theorem recovered_commitCheck_sample :
    ∃ position after, position ≤ 2 ∧
      (commitCheck pairStore : Outcome StoreError CommitReport × Store (Faulty MemoryFlash)) =
        (.value {
          performed := true
          stored := [.applicationData, .uniqueId].take position
          failed := [.applicationData, .uniqueId].drop position }, after) ∧
      after.dirtySegments = [.applicationData, .uniqueId].drop position ∧
      ∀ segment ∈ [Segment.applicationData, .uniqueId].take position,
        (after.recovered (fun _ => []) segment : Outcome StoreError LoadOutcome × Option Bytes) =
          (.value .restored, pairStore.live? segment) := by
  have planned : pairStore.driver.Planned := ⟨trivial, fun _ known => nomatch known⟩
  have usable : pairStore.driver.Usable := ⟨⟨rfl, rfl, rfl, trivial⟩, nofun⟩
  have dirty : pairStore.dirtySegments = [.applicationData, .uniqueId] := rfl
  have blobs : ∀ segment ∈ pairStore.dirtySegments, ∃ entry maxSize span live,
      pairStore.HoldsBlob segment entry maxSize span live := by
    rw [dirty, List.forall_mem_cons, List.forall_mem_singleton]
    exact ⟨⟨⟨.applicationData, 32, 32, 24⟩, 2, .full, [3], planned.allotted ⟨_, rfl, rfl⟩,
        ⟨_, rfl, rfl⟩, rfl, by decide, by decide⟩,
      ⟨⟨.uniqueId, 0, 32, 24⟩, 2, .full, [4], planned.allotted ⟨_, rfl, rfl⟩, ⟨_, rfl, rfl⟩, rfl,
        by decide, by decide⟩⟩
  obtain ⟨position, after, bound, commits, remaining, new, -⟩ :=
    recovered_commitCheck (ε := StoreError) planned.sound usable rfl (by decide) blobs fun _ => []
  exact ⟨position, after, bound, commits, remaining, new⟩

/-! ### A late segment in a pass -/

/-- A segment that was registered late has changed, and a commit is forced. -/
def lateChange : Store (Faulty MemoryFlash) :=
  { (lateStore { device := pairChip }).markDirty .networkImage with forced := true }

/-- The pass stores the late segment, and power lasts. The reboot exchanges the ranges of the two
segments, so it restores the payload of the other one, and the other one, which was clean, is not
recovered as before. -/
theorem recovered_of_late_pass :
    let checked : Outcome StoreError CommitReport × Store (Faulty MemoryFlash) :=
      commitCheck lateChange
    (SegmentDriver.ensureMapped .networkImage lateChange.driver).1 =
        .value ⟨.networkImage, 0, 32, 24⟩ ∧
      lateChange.registrations.get .networkImage =
        some { codec := .blob 2 none .full, live := [3] } ∧
      lateChange.dirtySegments = [.networkImage] ∧ lateChange.isCommitDue = true ∧
      1 ≤ lateChange.config.maxVersion ∧
      checked.1 = .value { performed := true, stored := [.networkImage] } ∧
      checked.2.device.faults.powerLost = false ∧
      (checked.2.recovered (fun _ => []) .networkImage :
        Outcome StoreError LoadOutcome × Option Bytes) = (.value .restored, some [7, 9]) ∧
      (lateChange.recovered (fun _ => []) .applicationData :
        Outcome StoreError LoadOutcome × Option Bytes) = (.value .restored, some [7, 9]) ∧
      (checked.2.recovered (fun _ => []) .applicationData :
        Outcome StoreError LoadOutcome × Option Bytes) = (.value .restored, some [3]) :=
  ⟨by decide +kernel, rfl, by decide +kernel⟩

end NorStore.Store
