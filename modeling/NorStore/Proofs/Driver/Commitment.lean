/-
# What commits a segment

Programming clears bits, and power can be cut at any byte of it, so a ledger can hold eight
bytes that nobody meant to write. None of them is the committed ledger unless a commit was
finished. This module says of each access which segment it may have committed: none at all,
except that a commit that reports success may have committed its own segment.
-/

import NorStore.Proofs.Driver.Confinement

namespace NorStore

open NorStore.Flash (BlockDevice Cells ChipView Geometry NorDevice)
open NorStore.Flash.ChipView (cells shape)

namespace SegmentDriver

variable {δ : Type} [BlockDevice δ] [NorDevice δ] {driver middle reached : SegmentDriver δ}
  {segment other : Segment} {entry : MapEntry} {gain : Option Segment} {α : Type}

/-! ## Becoming committed -/

/-- The segment has its place, and a committed ledger there. -/
def CommittedAt (driver : SegmentDriver δ) (segment : Segment) : Prop :=
  ∃ entry, driver.Placed segment entry ∧ Committed (driver.contents entry)

/-- At most one segment has become committed on the way, and only if it is the given one. -/
structure Gains (gain : Option Segment) (before after : SegmentDriver δ) : Prop where
  planned : before.Planned → after.Planned
  capacities : after.capacities = before.capacities
  shape : shape after.device = shape before.device
  gained : ∀ segment, after.CommittedAt segment → before.CommittedAt segment ∨ gain = some segment

namespace Gains

theorem refl (gain : Option Segment) (driver : SegmentDriver δ) : Gains gain driver driver :=
  ⟨id, rfl, rfl, fun _ => .inl⟩

/-- A step before which nothing has become committed does not count. -/
theorem trans (one : Gains none driver middle) (two : Gains gain middle reached) :
    Gains gain driver reached where
  planned := two.planned ∘ one.planned
  capacities := two.capacities.trans one.capacities
  shape := two.shape.trans one.shape
  gained segment committed := by
    rcases two.gained segment committed with before | given
    · rcases one.gained segment before with first | impossible
      · exact .inl first
      · contradiction
    · exact .inr given

theorem placed_iff (gains : Gains gain driver reached) :
    reached.Placed segment entry ↔ driver.Placed segment entry := by
  rw [Placed, gains.shape, gains.capacities, Placed]

end Gains

theorem not_committedAt (placed : driver.Placed segment entry)
    (uncommitted : ¬ Committed (driver.contents entry)) : ¬ driver.CommittedAt segment := by
  intro committed
  obtain ⟨range, also, isCommitted⟩ := committed
  rw [placed.unique also] at isCommitted
  exact uncommitted isCommitted

/-- A change in the range of a segment commits no other one. -/
theorem Confined.gains (confined : Confined entry driver reached) (planned : driver.Planned)
    (mapped : driver.Mapped segment entry)
    (own : Committed (reached.contents entry) →
      Committed (driver.contents entry) ∨ gain = some segment) : Gains gain driver reached where
  planned := confined.toFollows.planned
  capacities := confined.capacities
  shape := confined.keeps.shape
  gained other committed := by
    obtain ⟨range, also, isCommitted⟩ := committed
    have placed := planned.placed mapped
    have before : driver.Placed other range := by
      rwa [Placed, confined.keeps.shape, confined.capacities] at also
    by_cases same : other = segment
    · subst same
      rw [placed.unique before] at isCommitted
      exact (own isCommitted).imp_left fun committed => ⟨entry, placed, committed⟩
    · rw [confined.advances.contents_of_ne placed before same] at isCommitted
      exact .inl ⟨range, before, isCommitted⟩

/-- What changes no cell commits nothing. -/
theorem Remains.gains (remains : Remains driver reached) : Gains gain driver reached where
  planned := remains.toFollows.planned
  capacities := remains.capacities
  shape := remains.keeps.shape
  gained segment committed := by
    obtain ⟨range, placed, isCommitted⟩ := committed
    rw [Placed, remains.keeps.shape, remains.capacities] at placed
    exact .inl ⟨range, placed, remains.committed_iff.1 isCommitted⟩

theorem gains_ensureMapped (planned : driver.Planned) (segment : Segment) :
    Gains none driver (ensureMapped segment driver).2 where
  planned _ := planned.ensureMapped segment
  capacities := capacities_ensureMapped segment driver
  shape := congrArg shape (device_ensureMapped segment driver)
  gained other committed := by
    obtain ⟨range, placed, isCommitted⟩ := committed
    rw [Placed, device_ensureMapped, capacities_ensureMapped] at placed
    rw [contents_congr (device_ensureMapped segment driver)] at isCommitted
    exact .inl ⟨range, placed, isCommitted⟩

/-- A segment that is found outside any transaction is committed. -/
theorem committedAt_of_isInTransaction {ε : Type} (planned : driver.Planned)
    (outside : (isInTransaction segment driver : Outcome ε Bool × SegmentDriver δ).1 =
      .value false) : driver.CommittedAt segment := by
  rcases asked : ensureMapped segment driver with ⟨_ | _ | _, start⟩
  · have reads : readLedger segment driver = readLedger segment start := ensureMapped_bind asked _
    have device := device_of_ensureMapped asked
    rw [isInTransaction_eq, reads, ← isInTransaction_eq] at outside
    rcases (isInTransaction_ends (ε := ε) (planned.sound.of_ensureMapped asked)
        (mapped_of_ensureMapped asked)).cases with
      ⟨answer, reached, ends, -, told⟩ | ⟨_, _, _, impossible⟩
    · rw [ends] at outside
      cases outside
      rcases told with exactly | ⟨impossible, -⟩
      · refine ⟨_, planned.placed_of_asked asked, ?_⟩
        rw [← contents_congr device]
        simpa using exactly
      · contradiction
    · exact impossible.elim
  · have fails : readLedger segment driver = (.error _, start) := Action.bind_of_error asked _
    rw [isInTransaction_eq, fails] at outside
    cases outside
  · have traps : readLedger segment driver = (.trap, start) := Action.bind_of_trap asked _
    rw [isInTransaction_eq, traps] at outside
    cases outside

/-- Neither does starting again over the same cells with the same reservations. -/
theorem Gains.resumed {device : δ} (honest : ChipView.Honest device)
    (same : ChipView.shape device = ChipView.shape driver.device)
    (kept : cells device = cells driver.device) :
    Gains none driver { device, capacities := driver.capacities } where
  planned _ := ⟨honest, fun map mapped => nomatch mapped⟩
  capacities := rfl
  shape := same
  gained segment committed := by
    obtain ⟨entry, placed, isCommitted⟩ := committed
    rw [Placed, same] at placed
    rw [contents, base, kept, same] at isCommitted
    exact .inl ⟨entry, placed, isCommitted⟩

/-! ## What each access may commit -/

/-- An access that begins by asking for the range is judged from there. Where no range is
given nothing becomes committed. -/
theorem concludes_of_asked {access : Action (SegmentDriver δ) StoreError α}
    {next : MapEntry → Action (SegmentDriver δ) StoreError α} {also : α → SegmentDriver δ → Prop}
    (planned : driver.Planned) (begins : access = ensureMapped segment >>= next)
    (within : ∀ (start : SegmentDriver δ) entry, start.Planned → start.Mapped segment entry →
      access.Concludes start (fun result reached => Gains gain start reached ∧ also result reached)
        (Gains none start)) :
    access.Concludes driver (fun result reached => Gains gain driver reached ∧ also result reached)
      (Gains none driver) := by
  subst begins
  have first := gains_ensureMapped planned segment
  rcases asked : ensureMapped segment driver with ⟨_ | _ | _, start⟩
  · rw [asked] at first
    apply Action.Concludes.of_eq (ensureMapped_bind asked next)
    refine (within start _ (first.planned planned) (mapped_of_ensureMapped asked)).mono ?_ ?_
    · exact fun _ _ done => ⟨first.trans done.1, done.2⟩
    · exact fun _ => first.trans
  · rw [asked] at first
    rwa [Action.Concludes, Action.bind_of_error asked]
  · rw [asked] at first
    rwa [Action.Concludes, Action.bind_of_trap asked]

/-- The same for an access of which only the state is told. -/
theorem reaches_of_asked {access : Action (SegmentDriver δ) StoreError α}
    {next : MapEntry → Action (SegmentDriver δ) StoreError α}
    (planned : driver.Planned) (begins : access = ensureMapped segment >>= next)
    (within : ∀ (start : SegmentDriver δ) entry, start.Planned → start.Mapped segment entry →
      access.Ends start (fun _ => Remains start) fun _ => Remains start) :
    access.Reaches driver (Gains none driver) := by
  have judged : access.Concludes driver
      (fun _ reached => Gains none driver reached ∧ True) (Gains none driver) := by
    refine concludes_of_asked planned begins fun start entry soundly mapped => ?_
    refine .of_ends ((within start entry soundly mapped).mono ?_ ?_)
    · exact fun _ _ remains => ⟨remains.gains, trivial⟩
    · exact fun _ _ remains => remains.gains
  exact (judged.mono (fun _ _ => And.left) fun _ => id).reaches

/-- Opening a transaction commits nothing, and its own segment is not committed afterwards. -/
theorem enterTransaction_concludes (planned : driver.Planned) (segment : Segment) :
    (enterTransaction segment).Concludes driver
      (fun _ reached => Gains none driver reached ∧ ¬ reached.CommittedAt segment)
      (Gains none driver) := by
  refine concludes_of_asked planned rfl fun start entry planned mapped => .of_ends ?_
  refine (enterTransaction_ends planned.sound mapped).mono ?_ ?_
  · intro _ reached ended
    obtain ⟨confined, opened⟩ := ended
    exact ⟨confined.gains planned mapped fun committed => absurd committed opened,
      not_committedAt (confined.advances.placed (planned.placed mapped)) opened⟩
  · intro _ reached ended
    obtain ⟨confined, -, same | opened⟩ := ended
    · exact (Remains.mk confined.toFollows same).gains
    · exact confined.gains planned mapped fun committed => absurd committed opened

/-- Only a commit that succeeds can commit a segment, and only its own. -/
theorem exitTransaction_concludes (planned : driver.Planned) (segment : Segment) :
    (exitTransaction segment).Concludes driver
      (fun _ reached => Gains (some segment) driver reached ∧ True) (Gains none driver) := by
  refine concludes_of_asked planned rfl fun start entry planned mapped => .of_ends ?_
  by_cases unwritten : Unwritten (start.contents entry)
  · refine (exitTransaction_ends planned.sound mapped unwritten).mono ?_ ?_
    · exact fun _ _ ended => ⟨ended.1.gains planned mapped fun _ => .inr rfl, trivial⟩
    · intro _ _ ended
      obtain ⟨confined, -, uncommitted⟩ := ended
      exact confined.gains planned mapped fun committed => absurd committed uncommitted
  · refine (exitTransaction_of_written planned.sound mapped unwritten).mono ?_ ?_
    · exact fun _ _ remains => ⟨remains.gains, trivial⟩
    · exact fun _ _ remains => remains.gains

theorem readLedger_reaches_none (planned : driver.Planned) (segment : Segment) :
    (readLedger segment).Reaches driver (Gains none driver) :=
  reaches_of_asked planned rfl fun _ _ planned mapped =>
    (readLedger_ends planned.sound mapped).mono (fun _ _ => And.left) fun _ _ => And.left

theorem isInTransaction_reaches_none {ε : Type} (planned : driver.Planned) (segment : Segment) :
    (isInTransaction segment : Action (SegmentDriver δ) ε Bool).Reaches driver
      (Gains none driver) := by
  refine .bind (.attempt (readLedger_reaches_none planned segment)) fun result _ _ gains => ?_
  cases result with
  | ok ledger => exact .pure gains
  | error cause => exact .pure gains

theorem inspect_reaches_none (planned : driver.Planned) (segment : Segment)
    (appSignature : UInt32) (maxVersion : UInt16) (span : ChecksumSpan) :
    (inspect segment appSignature maxVersion span).Reaches driver (Gains none driver) :=
  reaches_of_asked planned rfl fun _ _ planned mapped =>
    (inspect_ends planned.sound mapped appSignature maxVersion span).mono (fun _ _ => And.left)
      fun _ _ => And.left

/-- Erasing a segment leaves it uncommitted. -/
theorem eraseSegment_concludes (planned : driver.Planned) (segment : Segment) :
    (eraseSegment segment).Concludes driver
      (fun _ reached => Gains none driver reached ∧ ¬ reached.CommittedAt segment)
      (Gains none driver) := by
  refine concludes_of_asked planned rfl fun start entry planned mapped => .of_ends ?_
  refine (eraseSegment_uncommits planned.sound mapped).mono ?_ fun _ _ remains => remains.gains
  intro _ reached ended
  obtain ⟨confined, uncommitted⟩ := ended
  exact ⟨confined.gains planned mapped fun committed => absurd committed uncommitted,
    not_committedAt (confined.advances.placed (planned.placed mapped)) uncommitted⟩

/-- So does opening it for writing, which gives a handle of its place. -/
theorem openForWrite_concludes (planned : driver.Planned) (segment : Segment) (size : Nat) :
    (openForWrite segment size).Concludes driver
      (fun handle reached => Gains none driver reached ∧ reached.Placed segment handle.entry ∧
        ¬ reached.CommittedAt segment)
      (Gains none driver) := by
  refine concludes_of_asked planned rfl fun start entry planned mapped => .of_ends ?_
  by_cases fits : size ≤ entry.maxDataSize
  · refine (openForWrite_ends planned.sound mapped fits).mono ?_ fun _ _ ended => ended.1.gains
    intro _ reached ended
    obtain ⟨rfl, follows, powered, erased⟩ := ended
    have range := planned.sound.fits mapped
    have room := range.room
    have data := range.maxDataSize
    have covered := Geometry.le_covering (NorDevice.valid start.device).blockSize_pos
      (Ledger.size + size)
    have inside : (shape start.device).covering (Ledger.size + size) ≤ entry.reserved :=
      Geometry.covering_le (by omega) range.whole
    have confined := follows.confined_of_erase powered erased inside
    have placed := confined.advances.placed (planned.placed mapped)
    have uncommitted := (follows.unwritten_of_erase planned.sound mapped erased (by omega)
      inside).not_committed
    exact ⟨confined.gains planned mapped fun committed => absurd committed uncommitted, placed,
      not_committedAt placed uncommitted⟩
  · exact .of_error (openForWrite_of_long mapped (Nat.lt_of_not_le fits)) (.refl none start)

theorem openForRead_concludes (planned : driver.Planned) (segment : Segment) :
    (openForRead segment).Concludes driver
      (fun handle reached => Gains none driver reached ∧ reached.Placed segment handle.entry)
      (Gains none driver) := by
  refine concludes_of_asked planned rfl fun start entry planned mapped => .of_ends ?_
  refine (openForRead_ends mapped).mono ?_ fun _ _ ended => ended.1.gains
  intro _ reached ended
  obtain ⟨remains, rfl⟩ := ended
  have gains : Gains none start reached := remains.gains
  exact ⟨gains, gains.placed_iff.2 (planned.placed mapped)⟩

/-! ## Through a handle -/

theorem Placed.ends (placed : driver.Placed segment entry) :
    (shape driver.device).regionOffset + (shape driver.device).regionSize < Word.limit := by
  obtain ⟨map, plans, -⟩ := placed
  exact (MemoryMap.planned_eq_value plans).1.laidOut.ends

/-- Once the map is there, every place is in it. -/
theorem Placed.mapped {map : MemoryMap} (placed : driver.Placed segment entry)
    (planned : driver.Planned) (known : driver.planner = .mapped map) :
    driver.Mapped segment entry := by
  obtain ⟨foreseen, plans, lookup⟩ := placed
  have same := planned.planned map known
  rw [plans] at same
  cases same
  exact ⟨map, known, lookup⟩

/-- Programming behind the ledger of a range commits nothing. -/
theorem program_gains {asked : Segment} {offset : Nat} {data : Bytes} (planned : driver.Planned)
    (mapped : driver.Mapped segment entry) (behind : Ledger.size ≤ offset)
    (inside : offset + data.length ≤ entry.reserved) :
    (program asked (entry.start + offset) data).Reaches driver (Gains none driver) := by
  have sound := planned.sound
  have judged : (program asked (entry.start + offset) data).Reaches driver fun reached =>
      Cells.AgreeOutside (driver.base entry + offset) data.length (cells driver.device)
        (cells reached.device) := by
    refine .of_ends ((program_ends asked sound mapped inside).mono ?_ ?_)
    · intro _ reached ended
      rw [ended.2.2]
      exact Cells.agreeOutside_program _ _ _
    · exact fun _ _ broken => broken.agreeOutside
  refine ((program_reaches sound mapped asked inside).both judged).mono fun reached told => ?_
  obtain ⟨confined, agree⟩ := told
  refine confined.gains planned mapped fun committed => .inl ?_
  rwa [Committed, ledger_of_agree sound mapped confined.toFollows behind agree] at committed

theorem entry_of_advance {handle next : Handle} {length : Nat}
    (advances : handle.advance length = .value next) : next.entry = handle.entry := by
  rw [Handle.advance, Outcome.bind_eq_value_iff] at advances
  obtain ⟨position, -, moved⟩ := advances
  rw [← Outcome.value.inj moved]

/-- Reading through a handle changes no cell, and gives back a handle of the same range. -/
theorem read_concludes {handle : Handle} (placed : driver.Placed segment handle.entry)
    (offset length : Nat) :
    (read handle offset length).Concludes driver
      (fun result reached => Gains none driver reached ∧ result.2.entry = handle.entry)
      (Gains none driver) := by
  apply Action.Concludes.of_reaches
  · exact (read_reaches placed.fits placed.ends offset length).mono fun _ remains => remains.gains
  · intro result reached reads
    simp only [read_steps, Action.bind_eq_value_iff] at reads
    obtain ⟨_, _, -, _, _, -, reads⟩ := reads
    split at reads
    · rw [Action.throw_apply] at reads
      cases reads
    · simp only [Action.bind_eq_value_iff] at reads
      obtain ⟨_, _, -, _, _, -, next, _, advances, gives⟩ := reads
      have advanced := entry_of_advance (Prod.mk.inj advances).1
      rw [Action.pure_apply] at gives
      cases gives
      exact advanced

/-- Writing through a handle stays behind the ledger. -/
theorem write_concludes {handle : Handle} (planned : driver.Planned)
    (placed : driver.Placed segment handle.entry) (offset : Nat) (data : Bytes) :
    (write handle offset data).Concludes driver
      (fun next reached => Gains none driver reached ∧ next.entry = handle.entry)
      (Gains none driver) := by
  have still := Gains.refl none driver
  rw [write_steps]
  refine .lift_bind still fun _ _ => .lift_bind still fun past added => ?_
  have reach := Word.add_eq_value added
  split
  · exact .throw still
  · refine .lift_bind still fun place located => ?_
    have start := Word.add_eq_value located
    have programs : (program handle.entry.segment place data).Reaches driver
        (Gains none driver) := by
      cases known : driver.planner with
      | mapped map =>
          have mapped := placed.mapped planned known
          have room := (planned.sound.fits mapped).room
          have size := (planned.sound.fits mapped).maxDataSize
          rw [MapEntry.dataOffset, Nat.add_assoc] at start
          subst start
          exact program_gains planned mapped (Nat.le_add_right ..) (by omega)
      | unmapped =>
          rw [Action.Reaches, program, Action.get_bind, memoryMap?, known]
          exact still
      | failed reason =>
          rw [Action.Reaches, program, Action.get_bind, memoryMap?, known]
          exact still
    refine .bind (.of_reaches programs fun _ _ _ => trivial) fun _ reached gains => ?_
    exact .lift gains.1 fun next advances => ⟨gains.1, entry_of_advance advances⟩

end SegmentDriver

end NorStore
