/-
# What a sweep of power cuts finds

A cut in the marker of the first ledger finds the old payload, since the marker is already
there and programming it again changes no cell. Any later cut finds nothing, until all of
the new payload is stored. This is so on every chip with room for the segment, and neither
the size of its blocks nor the payloads make a difference.
-/

import NorStore.Bench.PowerCut
import NorStore.Proofs.Flash.Restart
import NorStore.Proofs.Store.Power
import NorStore.Proofs.Store.Restoring

namespace NorStore.Bench.PowerCut

open NorStore.Flash (BlockDevice Cells ChipView Faulty Geometry MemoryFlash NorDevice Shareable)

/-- The region ends at a word, and has room for the segment with its largest payload. -/
structure Trial.Feasible (trial : Trial) : Prop where
  valid : trial.geometry.Valid
  ends : trial.geometry.regionOffset + trial.geometry.regionSize < Word.limit
  room : trial.geometry.covering (Ledger.size + Header.size + trial.maxSize) ≤
    trial.geometry.regionSize

/-- The payload can be stored in the segment. -/
structure Trial.Admits (trial : Trial) (payload : Bytes) : Prop where
  fits : payload.length ≤ trial.maxSize
  short : payload.length < UInt32.size

/-- What a cut finds if a store programs that many bytes. -/
def foreseen (total cut : Nat) : Finding :=
  if cut ≤ 4 then .old else if cut < total then .noPersistence else .new

/-- In the order of the cuts, there are five in the marker, and one at the end. -/
theorem map_foreseen (count : Nat) :
    (List.range (33 + count)).map (foreseen (32 + count)) =
      List.replicate 5 .old ++ List.replicate (27 + count) .noPersistence ++ [.new] := by
  have middle : ∀ cut ∈ List.range (27 + count),
      (foreseen (32 + count) ∘ (5 + ·)) cut = .noPersistence := by
    intro cut member
    have few := List.mem_range.1 member
    rw [Function.comp_apply, foreseen, if_neg (by omega), if_pos (by omega)]
  have last : foreseen (32 + count) (5 + (27 + count)) = .new := by
    rw [foreseen, if_neg (by omega), if_neg (by omega)]
  rw [show 33 + count = 5 + (27 + count) + 1 by omega, List.range_succ, List.range_add,
    List.map_append, List.map_append, List.map_map, List.map_congr_left middle, List.map_const',
    List.length_range, List.map_singleton, last]
  rfl

namespace Trial

variable {ε : Type} {trial : Trial} {entry : MapEntry} {payload old new : Bytes}

/-! ## A store of the trial -/

/-- The segment lies in this range of a chip with the geometry of the trial. -/
def Range (trial : Trial) (entry : MapEntry) : Prop :=
  ∃ map, MemoryMap.planned trial.geometry
      ((Segment.Table.replicate none).set trial.segment (some trial.maxSize)) = .value map ∧
    map.entry? trial.segment = some entry

/-- The bytes of a range of a chip. -/
def bytesIn (entry : MapEntry) (flash : MemoryFlash) : Bytes :=
  flash.cells.slice (entry.start - flash.geometry.regionOffset) entry.reserved

theorem exists_range (feasible : trial.Feasible) : ∃ entry, trial.Range entry := by
  obtain ⟨map, entry, plans, lookup⟩ := MemoryMap.planned_of_only feasible.valid feasible.ends
    (Segment.Table.get_set_self _ trial.segment (some trial.maxSize))
    (fun other different => (Segment.Table.get_set_of_ne _ _ different).trans
      (Segment.Table.get_replicate none other)) feasible.room
  exact ⟨entry, map, plans, lookup⟩

theorem Range.fits (range : trial.Range entry) : entry.Fits trial.geometry := by
  obtain ⟨map, plans, lookup⟩ := range
  exact (MemoryMap.planned_eq_value plans).1.laidOut.fits _ _ lookup

section Boot

variable {δ : Type} (trial : Trial) (device : δ) (live : Bytes)

theorem registrations_boot : (trial.boot device live).registrations.get trial.segment =
    some { codec := .blob trial.maxSize none .full, live } := Segment.Table.get_set_self ..

variable [BlockDevice δ] [NorDevice δ]

theorem settled_boot (honest : ChipView.Honest device) : (trial.boot device live).Settled :=
  (Store.settled_start honest ..).register rfl ..

variable {trial device} in
theorem Range.placed_boot (range : trial.Range entry)
    (same : ChipView.shape device = trial.geometry) :
    (trial.boot device live).driver.Placed trial.segment entry := by
  rw [SegmentDriver.Placed, show (trial.boot device live).driver.device = device from rfl, same]
  exact range

end Boot

/-! ## Storing with limited power -/

/-- A chip whose power is limited, or is not. -/
def limited (flash : MemoryFlash) (power : Option Nat) : Faulty MemoryFlash :=
  { device := flash, faults := { powerLeft := power } }

section Limited

variable {flash : MemoryFlash} (range : trial.Range entry)
  (same : flash.geometry = trial.geometry)

include range same

theorem powered_boot (ledger : Committed (bytesIn entry flash) ∨ Unwritten (bytesIn entry flash))
    (power : Option Nat) (live : Bytes) :
    (trial.boot (limited flash power) live).driver.Powered trial.segment entry where
  planned := (settled_boot trial (limited flash power) live trivial).planned
  placed := range.placed_boot live same
  usable := ⟨⟨rfl, rfl, rfl, trivial⟩, nofun⟩
  ready := ⟨rfl, rfl, rfl, trivial⟩
  ledger := ledger

/-- With power for a payload, its header and two ledgers, the trial stores it. -/
theorem store_of_lasts {power : Option Nat}
    (ledger : Committed (bytesIn entry flash) ∨ Unwritten (bytesIn entry flash))
    (admits : trial.Admits payload)
    (lasts : (limited flash power).faults.lastsFor (32 + payload.length) = true) :
    ∃ reached, (trial.store (limited flash power) payload : Outcome ε _) = .value (true, reached) ∧
      reached.device.geometry = trial.geometry ∧
      reached.faults.bytesWritten = 32 + payload.length ∧
      Carries Bench.appSignature .full payload (bytesIn entry reached.device) := by
  have settled := settled_boot trial (limited flash power) payload trivial
  rcases (Store.storeSegment_ends_costs settled (powered_boot range same ledger power payload)
    (registrations_boot ..) rfl admits.fits).cases with
    ⟨_, after, stores, spends, written⟩ | ⟨_, _, -, short, -⟩
  · refine ⟨after.device, ?_, written.advances.keeps.shape.trans same,
      spends.written.trans (Nat.zero_add _), written.carries⟩
    rw [store]
    simp only [stores]
  · exact absurd lasts (ne_true_of_eq_false short)

/-- With less power the store fails. A committed segment is as it was if power was cut in the
marker of the first ledger, and not committed any more otherwise. -/
theorem store_of_short {cut : Nat} (isCommitted : Committed (bytesIn entry flash))
    (admits : trial.Admits payload) (short : cut < 32 + payload.length) :
    ∃ reached, (trial.store (limited flash (some cut)) payload : Outcome ε _) =
        .value (false, reached) ∧
      reached.device.geometry = trial.geometry ∧
      (cut ≤ 4 → bytesIn entry reached.device = bytesIn entry flash) ∧
      (4 < cut → ¬ Committed (bytesIn entry reached.device)) := by
  have powered := powered_boot range same (.inl isCommitted) (some cut) payload
  have settled := settled_boot trial (limited flash (some cut)) payload trivial
  have registered := registrations_boot trial (limited flash (some cut)) payload
  rcases (Store.storeSegment_ends_costs settled powered registered rfl admits.fits).cases with
    ⟨_, _, -, spends, -⟩ | ⟨cause, after, fails, -, missed⟩
  · exact absurd (of_decide_eq_true spends.lasts) (Nat.not_le.2 short)
  have stores : (trial.store (limited flash (some cut)) payload : Outcome ε _) =
      .value (false, after.device) := by
    rw [store]
    simp only [fails]
  have shape := missed.advances.keeps.shape
  by_cases opens : Ledger.size ≤ cut
  · have opened := missed.opened (Store.enterTransaction_of_lasts powered (decide_eq_true opens))
    have marker : 4 < cut := Nat.lt_of_lt_of_le (by decide) opens
    exact ⟨after.device, stores, shape.trans same, fun few => absurd few (Nat.not_le.2 marker),
      fun _ => opened⟩
  · -- power is cut in the first ledger, so its bytes say what is left of the segment
    have stops := Store.storeSegment_of_cutOff powered registered (decide_eq_false opens)
    rw [Action.Ends, fails] at stops
    have room := Nat.le_trans (Nat.le_add_right ..) powered.placed.fits.room
    obtain ⟨left, limit, marker, beyond⟩ :=
      SegmentDriver.opened_of_cutOff room shape isCommitted stops
    cases limit
    exact ⟨after.device, stores, shape.trans same,
      fun few => missed.advances.contents_of_cells (marker few) entry, beyond⟩

/-! ## Restoring -/

/-- Restoring is reading the range. -/
theorem restore_eq (flashed : Image.read Bench.appSignature Header.currentVersion
      (.blob trial.maxSize none .full) (bytesIn entry flash) = found) :
    (trial.restore flash : Outcome ε _) = .value (Image.outcome found, found.toOption.getD []) := by
  have settled := settled_boot trial flash [] trivial
  have registered := registrations_boot trial flash []
  have usable : (trial.boot flash []).driver.Usable := ⟨trivial, nofun⟩
  obtain ⟨_, asked⟩ := usable.asked settled.planned (range.placed_boot [] same)
  obtain ⟨after, restores, came⟩ := Store.restore_of_healthy (ε := ε) settled.planned.sound trivial
    registered (congrArg Prod.fst asked)
  have reads : (trial.boot flash []).reading (.blob trial.maxSize none .full) entry = found :=
    flashed
  have lives := came.live
  rw [Store.live?_of_registered registered, reads] at lives
  rw [reads] at restores
  rw [restore, restores]
  simp only [lives]
  rfl

theorem restore_of_carries (admits : trial.Admits payload)
    (carries : Carries Bench.appSignature .full payload (bytesIn entry flash)) :
    (trial.restore flash : Outcome ε _) = .value (.restored, payload) :=
  restore_eq range same (carries.read_eq admits.short (Nat.le_refl _)
    (Store.deserialize_blob_of_fits admits.fits))

theorem restore_of_not_committed (uncommitted : ¬ Committed (bytesIn entry flash)) :
    (trial.restore flash : Outcome ε _) = .value (.lost .noPersistence, []) :=
  restore_eq range same (Image.read_of_not_committed uncommitted ..)

/-! ## The sweep -/

omit range same in
theorem cutAt_of_restores {cut : Nat} {stored : Bool} {reached : Faulty MemoryFlash}
    {outcome : LoadOutcome} {live : Bytes}
    (stores : (trial.store (limited flash (some cut)) new : Outcome ε _) =
      .value (stored, reached))
    (restores : (trial.restore (Shareable.attach reached.device) : Outcome ε _) =
      .value (outcome, live)) :
    (trial.cutAt flash old new cut : Outcome ε Finding) =
      .value (judge old new cut stored outcome live) := by
  rw [limited] at stores
  rw [cutAt]
  simp only [stores, Outcome.value_bind, restores, Outcome.pure_eq]

/-- What is found after a cut. -/
theorem cutAt_eq (carries : Carries Bench.appSignature .full old (bytesIn entry flash))
    (admitsOld : trial.Admits old) (admitsNew : trial.Admits new) (different : old ≠ new)
    (cut : Nat) :
    (trial.cutAt flash old new cut : Outcome ε Finding) =
      .value (foreseen (32 + new.length) cut) := by
  rw [foreseen]
  by_cases short : cut < 32 + new.length
  · obtain ⟨reached, stores, shape, marker, beyond⟩ :=
      store_of_short (ε := ε) range same carries.isCommitted admitsNew short
    by_cases early : cut ≤ 4
    · rw [← marker early] at carries
      rw [cutAt_of_restores stores (restore_of_carries range shape admitsOld carries),
        if_pos early, judge, if_neg (fun claimed => different claimed.2), if_pos ⟨rfl, rfl, rfl⟩]
    · have uncommitted := beyond (Nat.lt_of_not_le early)
      rw [cutAt_of_restores stores (restore_of_not_committed range shape uncommitted),
        if_neg early, if_pos short, judge, if_neg (fun claimed => nomatch claimed.1),
        if_neg (fun claimed => nomatch claimed.1), if_pos ⟨rfl, rfl⟩]
  · have late : ¬ cut ≤ 4 := by omega
    have lasts : (limited flash (some cut)).faults.lastsFor (32 + new.length) = true :=
      decide_eq_true (Nat.le_of_not_lt short)
    obtain ⟨reached, stores, shape, -, carried⟩ :=
      store_of_lasts (ε := ε) range same (.inl carries.isCommitted) admitsNew lasts
    rw [cutAt_of_restores stores (restore_of_carries range shape admitsNew carried), if_neg late,
      if_neg short, judge, if_pos ⟨rfl, rfl⟩]

end Limited

/-- A payload that the segment admits can be committed on a blank chip. -/
theorem exists_committed (feasible : trial.Feasible) (range : trial.Range entry)
    (admits : trial.Admits payload) :
    ∃ image, (trial.committed payload : Outcome ε _) = .value image ∧
      image.geometry = trial.geometry ∧
      Carries Bench.appSignature .full payload (bytesIn entry image) := by
  obtain ⟨flash, made, same, blank⟩ : ∃ flash, MemoryFlash.blank? trial.geometry = .ok flash ∧
      flash.geometry = trial.geometry ∧ flash.cells = Cells.blank trial.geometry.regionSize := by
    rw [MemoryFlash.blank?, Geometry.check_of_valid feasible.valid]
    exact ⟨_, rfl, rfl, rfl⟩
  have unwritten : Unwritten (bytesIn entry flash) := by
    have room := range.fits.room
    have first := range.fits.first
    have last := range.fits.last
    rw [MapEntry.past] at last
    rw [Unwritten, bytesIn, Cells.take_slice _ _ (Nat.le_trans (Nat.le_add_right ..) room), blank,
      Cells.slice_blank (by rw [same]; omega)]
    rfl
  have lasts : (limited flash none).faults.lastsFor (32 + payload.length) = true := rfl
  obtain ⟨reached, stores, shape, -, carries⟩ :=
    store_of_lasts (ε := ε) range same (.inr unwritten) admits lasts
  refine ⟨Shareable.attach reached.device, ?_, shape, carries⟩
  rw [limited] at stores
  rw [committed, made]
  simp only [stores, Outcome.value_bind]
  rfl

/-- Cutting power at every byte of a store finds the old payload after up to four bytes, and
nothing after any further one, until with the last byte the new payload is there. -/
theorem sweep_findings (feasible : trial.Feasible) (admitsOld : trial.Admits old)
    (admitsNew : trial.Admits new) (different : old ≠ new) :
    ∃ report, (trial.sweep old new : Outcome ε Report) = .value report ∧
      report.totalBytes = 32 + new.length ∧ report.isClean = true ∧
      report.findings = List.replicate 5 .old ++
        List.replicate (27 + new.length) .noPersistence ++ [.new] := by
  obtain ⟨entry, range⟩ := exists_range feasible
  obtain ⟨image, commits, same, carries⟩ := exists_committed (ε := ε) feasible range admitsOld
  have lasts : (limited image none).faults.lastsFor (32 + new.length) = true := rfl
  obtain ⟨reached, stores, -, total, -⟩ :=
    store_of_lasts (ε := ε) range same (.inl carries.isCommitted) admitsNew lasts
  have cuts : trial.cutAt image old new = fun cut =>
      (pure (foreseen (32 + new.length) cut) : Outcome ε Finding) :=
    funext (cutAt_eq range same carries admitsOld admitsNew different)
  rw [limited] at stores
  refine ⟨⟨32 + new.length, _⟩, ?_, rfl, ?_, rfl⟩
  · rw [sweep, commits]
    simp only [Outcome.value_bind, stores, total, cuts, List.mapM_pure]
    rw [show 32 + new.length + 1 = 33 + new.length by omega, map_foreseen]
    rfl
  · rw [Report.isClean]
    simp [Finding.isViolation]

/-- A segment of four blocks in a region of six, which are too small for a header. -/
def sample : Trial where
  geometry := {
    regionOffset := 64
    regionSize := 48
    blockCount := 6
    blockSize := 8
    regionCount := 1 }
  segment := .uniqueId
  maxSize := 2

theorem sweep_findings_sample :
    ∃ report, (sample.sweep [7] [9, 8] : Outcome StoreError Report) = .value report ∧
      report.totalBytes = 34 ∧ report.isClean = true ∧
      report.findings = List.replicate 5 .old ++ List.replicate 29 .noPersistence ++ [.new] := by
  have valid : sample.geometry.Valid := (sample.geometry.validate_eq_ok_iff).1 rfl
  exact sweep_findings ⟨valid, by decide, by decide⟩ ⟨by decide, by decide⟩
    ⟨by decide, by decide⟩ (by decide)

end Trial

end NorStore.Bench.PowerCut
