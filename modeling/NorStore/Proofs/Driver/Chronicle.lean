/-
# No segment is committed by accident

A chip is used through a driver for as long as one likes: transactions are opened and
committed, segments are erased, read and written through handles, power is cut at any byte,
faults come and go, and the driver is started again with the same reservations. Beside the
driver we keep the handles that it gave out, and the milestones that it reported. A segment
that is then found outside any transaction owes that to a commit that was reported, and
neither an erase nor a new transaction of that segment was reported after it.
-/

import NorStore.Proofs.Driver.Commitment
import NorStore.Proofs.Driver.Handles
import NorStore.Proofs.Flash.Restart

namespace NorStore

open NorStore.Flash (ChipView Faulty Geometry MemoryFlash Restartable Shareable)
open NorStore.SegmentDriver (Gains)

/-- What a driver can report about the ledger of a segment. -/
inductive Milestone where
  | entered (segment : Segment)
  | exited (segment : Segment)
  | erased (segment : Segment)
deriving DecidableEq, Repr

/-- What can be done with a driver. Handles are numbered in the order in which they were
given out, and may be used at any time. -/
inductive Call where
  | enter (segment : Segment)
  | exit (segment : Segment)
  | isInTransaction (segment : Segment)
  | openForRead (segment : Segment)
  | openForWrite (segment : Segment) (size : Nat)
  | read (number offset length : Nat)
  | write (number offset : Nat) (data : Bytes)
  | erase (segment : Segment)
  | inspect (segment : Segment) (appSignature : UInt32) (maxVersion : UInt16) (span : ChecksumSpan)
  | fault (fault : Fault)
  /-- Start again over the same device, with the faults that it has. -/
  | restart
  /-- Start again over a new handle on the same cells. -/
  | reboot

/-- A driver in use, the handles it gave out, and what it reported, in order. -/
structure Chronicle where
  driver : SegmentDriver (Faulty MemoryFlash)
  handles : List Handle := []
  milestones : List Milestone := []

namespace Chronicle

variable {ε α : Type}

/-- A first driver over a chip, without faults. -/
def start (chip : MemoryFlash) (capacities : Segment.Table (Option Nat)) : Chronicle where
  driver := { device := { device := chip }, capacities }

/-- A milestone was reported. -/
def pass (milestone : Milestone) (chronicle : Chronicle) : Chronicle :=
  { chronicle with milestones := chronicle.milestones ++ [milestone] }

/-- A handle was given out. -/
def give (handle : Handle) (chronicle : Chronicle) : Chronicle :=
  { chronicle with handles := chronicle.handles ++ [handle] }

/-- A handle and the driver have been in use together, and this is what has become of both. -/
def retake (number : Nat) (opened : OpenSegment (Faulty MemoryFlash)) (chronicle : Chronicle) :
    Chronicle :=
  { chronicle with
    driver := opened.driver, handles := chronicle.handles.set number opened.handle }

/-- The chronicle after an access, of which something is noted only if it has a value. -/
def conclude (chronicle : Chronicle)
    (ended : Outcome ε α × SegmentDriver (Faulty MemoryFlash))
    (note : α → Chronicle → Chronicle) : Chronicle :=
  match ended with
  | (.value result, driver) => note result { chronicle with driver }
  | (.error _, driver) => { chronicle with driver }
  | (.trap, driver) => { chronicle with driver }

/-- The chronicle after one call. -/
def step (chronicle : Chronicle) : Call → Chronicle
  | .enter segment =>
    chronicle.conclude (SegmentDriver.enterTransaction segment chronicle.driver) fun _ =>
      pass (.entered segment)
  | .exit segment =>
    chronicle.conclude (SegmentDriver.exitTransaction segment chronicle.driver) fun _ =>
      pass (.exited segment)
  | .isInTransaction segment =>
    { chronicle with driver :=
      (SegmentDriver.isInTransaction segment chronicle.driver : Outcome StoreError Bool × _).2 }
  | .openForRead segment =>
    chronicle.conclude (SegmentDriver.openForRead segment chronicle.driver) give
  | .openForWrite segment size =>
    chronicle.conclude (SegmentDriver.openForWrite segment size chronicle.driver) fun handle =>
      give handle ∘ pass (.erased segment)
  | .read number offset length =>
    match chronicle.handles[number]? with
    | none => chronicle
    | some handle =>
      chronicle.retake number (OpenSegment.read offset length ⟨chronicle.driver, handle⟩).2
  | .write number offset data =>
    match chronicle.handles[number]? with
    | none => chronicle
    | some handle =>
      chronicle.retake number (OpenSegment.write offset data ⟨chronicle.driver, handle⟩).2
  | .erase segment =>
    chronicle.conclude (SegmentDriver.eraseSegment segment chronicle.driver) fun _ =>
      pass (.erased segment)
  | .inspect segment appSignature maxVersion span =>
    { chronicle with driver :=
      (SegmentDriver.inspect segment appSignature maxVersion span chronicle.driver).2 }
  | .fault fault =>
    { chronicle with driver := { chronicle.driver with device :=
      { chronicle.driver.device with faults := fault.arm chronicle.driver.device.faults } } }
  | .restart =>
    { chronicle with driver :=
      { device := chronicle.driver.device, capacities := chronicle.driver.capacities } }
  | .reboot =>
    { chronicle with driver :=
      { device := Shareable.attach chronicle.driver.device
        capacities := chronicle.driver.capacities } }

/-- The chronicle after a run. -/
def run (chronicle : Chronicle) (calls : List Call) : Chronicle := calls.foldl step chronicle

/-- A commit of the segment was reported, and no erase and no new transaction since. -/
def Exited (milestones : List Milestone) (segment : Segment) : Prop :=
  ∃ before after, milestones = before ++ .exited segment :: after ∧
    .erased segment ∉ after ∧ .entered segment ∉ after

theorem exited_snoc (milestones : List Milestone) (segment : Segment) :
    Exited (milestones ++ [.exited segment]) segment := ⟨milestones, [], rfl, nofun, nofun⟩

/-- A milestone of another kind, or of another segment, takes nothing back. -/
theorem Exited.snoc {milestones : List Milestone} {segment : Segment} {milestone : Milestone}
    (exited : Exited milestones segment) (kept : milestone ≠ .erased segment)
    (closed : milestone ≠ .entered segment) : Exited (milestones ++ [milestone]) segment := by
  obtain ⟨before, after, rfl, notErased, notEntered⟩ := exited
  refine ⟨before, after ++ [milestone], by simp, ?_, ?_⟩
  · simp [notErased, kept.symm]
  · simp [notEntered, closed.symm]

/-- Handles are of ranges that segments have, and every committed segment was committed by a
commit that was reported. -/
structure Lawful (chronicle : Chronicle) : Prop where
  planned : chronicle.driver.Planned
  handles : ∀ handle ∈ chronicle.handles, ∃ segment,
    chronicle.driver.Placed segment handle.entry
  exited : ∀ segment, chronicle.driver.CommittedAt segment → Exited chronicle.milestones segment

namespace Lawful

variable {chronicle : Chronicle} {driver : SegmentDriver (Faulty MemoryFlash)} {segment : Segment}
  {handle : Handle} {number : Nat}

/-! ## What is noted -/

/-- An access that commits nothing keeps the chronicle lawful. -/
theorem of_gains (lawful : Lawful chronicle) (gains : Gains none chronicle.driver driver) :
    Lawful { chronicle with driver } where
  planned := gains.planned lawful.planned
  handles handle given := by
    obtain ⟨segment, placed⟩ := lawful.handles handle given
    exact ⟨segment, gains.placed_iff.2 placed⟩
  exited segment committed := by
    rcases gains.gained segment committed with before | impossible
    · exact lawful.exited segment before
    · contradiction

theorem conclude {access : Action (SegmentDriver (Faulty MemoryFlash)) ε α}
    {done : α → SegmentDriver (Faulty MemoryFlash) → Prop} {note : α → Chronicle → Chronicle}
    (lawful : Lawful chronicle)
    (judged : access.Concludes chronicle.driver done (Gains none chronicle.driver))
    (noted : ∀ result driver, done result driver →
      Lawful (note result { chronicle with driver })) :
    Lawful (chronicle.conclude (access chronicle.driver) note) := by
  rw [Action.Concludes] at judged
  rcases ended : access chronicle.driver with ⟨_ | _ | _, driver⟩
  · rw [ended] at judged
    exact noted _ driver judged
  · rw [ended] at judged
    exact lawful.of_gains judged
  · rw [ended] at judged
    exact lawful.of_gains judged

theorem pass_entered (lawful : Lawful chronicle)
    (uncommitted : ¬ chronicle.driver.CommittedAt segment) :
    Lawful (chronicle.pass (.entered segment)) where
  planned := lawful.planned
  handles := lawful.handles
  exited other committed := by
    have different : segment ≠ other := fun same => uncommitted (same ▸ committed)
    exact (lawful.exited other committed).snoc (by simp) (by simpa using different)

theorem pass_erased (lawful : Lawful chronicle)
    (uncommitted : ¬ chronicle.driver.CommittedAt segment) :
    Lawful (chronicle.pass (.erased segment)) where
  planned := lawful.planned
  handles := lawful.handles
  exited other committed := by
    have different : segment ≠ other := fun same => uncommitted (same ▸ committed)
    exact (lawful.exited other committed).snoc (by simpa using different) (by simp)

theorem pass_exited (lawful : Lawful chronicle)
    (gains : Gains (some segment) chronicle.driver driver) :
    Lawful (Chronicle.pass (.exited segment) { chronicle with driver }) where
  planned := gains.planned lawful.planned
  handles handle given := by
    obtain ⟨range, placed⟩ := lawful.handles handle given
    exact ⟨range, gains.placed_iff.2 placed⟩
  exited other committed := by
    rcases gains.gained other committed with before | same
    · exact (lawful.exited other before).snoc (by simp) (by simp)
    · cases same
      exact exited_snoc chronicle.milestones segment

theorem give (lawful : Lawful chronicle) (placed : chronicle.driver.Placed segment handle.entry) :
    Lawful (chronicle.give handle) where
  planned := lawful.planned
  handles other given := by
    rcases List.mem_append.1 given with before | new
    · exact lawful.handles other before
    · rw [List.mem_singleton] at new
      subst new
      exact ⟨segment, placed⟩
  exited := lawful.exited

theorem retake {access : Action (OpenSegment (Faulty MemoryFlash)) ε α} (lawful : Lawful chronicle)
    (given : handle ∈ chronicle.handles)
    (judged : access.Reaches ⟨chronicle.driver, handle⟩ fun opened =>
      Gains none chronicle.driver opened.driver ∧ opened.handle.entry = handle.entry) :
    Lawful (chronicle.retake number (access ⟨chronicle.driver, handle⟩).2) := by
  obtain ⟨gains, same⟩ := judged
  have stands := lawful.of_gains gains
  refine ⟨stands.planned, fun other listed => ?_, stands.exited⟩
  rcases List.mem_or_eq_of_mem_set listed with before | new
  · exact stands.handles other before
  · obtain ⟨segment, placed⟩ := stands.handles handle given
    subst new
    exact ⟨segment, same ▸ placed⟩

/-! ## Calls -/

/-- Every call keeps the chronicle lawful. -/
theorem step (lawful : Lawful chronicle) (call : Call) : Lawful (chronicle.step call) := by
  have planned := lawful.planned
  cases call with
  | enter segment =>
      apply lawful.conclude (SegmentDriver.enterTransaction_concludes planned segment)
      exact fun _ driver done => (lawful.of_gains done.1).pass_entered done.2
  | exit segment =>
      apply lawful.conclude (SegmentDriver.exitTransaction_concludes planned segment)
      exact fun _ driver done => lawful.pass_exited done.1
  | isInTransaction segment =>
      exact lawful.of_gains (SegmentDriver.isInTransaction_reaches_none planned segment)
  | openForRead segment =>
      apply lawful.conclude (SegmentDriver.openForRead_concludes planned segment)
      exact fun handle driver done => (lawful.of_gains done.1).give done.2
  | openForWrite segment size =>
      apply lawful.conclude (SegmentDriver.openForWrite_concludes planned segment size)
      intro handle driver done
      obtain ⟨gains, placed, uncommitted⟩ := done
      exact ((lawful.of_gains gains).pass_erased uncommitted).give placed
  | read number offset length =>
      rw [Chronicle.step]
      split
      · exact lawful
      · rename_i handle found
        have given := List.mem_of_getElem? found
        obtain ⟨segment, placed⟩ := lawful.handles handle given
        refine lawful.retake given (OpenSegment.read_reaches ?_)
        exact (SegmentDriver.read_concludes placed offset length).mono (fun _ _ => id)
          fun _ gains => ⟨gains, rfl⟩
  | write number offset data =>
      rw [Chronicle.step]
      split
      · exact lawful
      · rename_i handle found
        have given := List.mem_of_getElem? found
        obtain ⟨segment, placed⟩ := lawful.handles handle given
        refine lawful.retake given (OpenSegment.write_reaches ?_)
        exact (SegmentDriver.write_concludes planned placed offset data).mono (fun _ _ => id)
          fun _ gains => ⟨gains, rfl⟩
  | erase segment =>
      apply lawful.conclude (SegmentDriver.eraseSegment_concludes planned segment)
      exact fun _ driver done => (lawful.of_gains done.1).pass_erased done.2
  | inspect segment appSignature maxVersion span =>
      exact lawful.of_gains
        (SegmentDriver.inspect_reaches_none planned segment appSignature maxVersion span)
  | fault fault => exact ⟨⟨planned.honest, planned.planned⟩, lawful.handles, lawful.exited⟩
  | restart => exact lawful.of_gains (.resumed planned.honest rfl rfl)
  | reboot =>
      exact lawful.of_gains (.resumed (Restartable.honest_attach _) (Restartable.shape_attach _)
        (Restartable.cells_attach _))

/-- And so does every run. -/
theorem run (lawful : Lawful chronicle) (calls : List Call) : Lawful (chronicle.run calls) := by
  induction calls generalizing chronicle with
  | nil => exact lawful
  | cons call rest ih => exact ih (lawful.step call)

/-- On a blank chip no segment is committed. -/
theorem start {geometry : Geometry} {chip : MemoryFlash}
    (blank : MemoryFlash.blank? geometry = .ok chip) (capacities : Segment.Table (Option Nat)) :
    Lawful (Chronicle.start chip capacities) where
  planned := ⟨trivial, fun map mapped => nomatch mapped⟩
  handles _ given := nomatch given
  exited segment committed := by
    obtain ⟨entry, -, isCommitted⟩ := committed
    have erased : ChipView.cells (Chronicle.start chip capacities).driver.device =
        geometry.blankCells := MemoryFlash.cells_of_blank blank
    rw [SegmentDriver.contents, erased] at isCommitted
    exact absurd isCommitted not_committed_of_blank

end Lawful

/-- Whatever has been done with a chip that was blank, with power cut at any byte, a segment
that is found outside any transaction was committed: a commit of it was reported, and neither
an erase nor a new transaction of it was reported after that. -/
theorem exited_of_outside {geometry : Geometry} {chip : MemoryFlash}
    (blank : MemoryFlash.blank? geometry = .ok chip) (capacities : Segment.Table (Option Nat))
    (calls : List Call) (segment : Segment)
    (outside : (SegmentDriver.isInTransaction segment
      ((start chip capacities).run calls).driver : Outcome ε Bool × _).1 = .value false) :
    Exited ((start chip capacities).run calls).milestones segment := by
  have lawful := (Lawful.start blank capacities).run calls
  exact lawful.exited segment
    (SegmentDriver.committedAt_of_isInTransaction lawful.planned outside)

/-- A segment is committed, a transaction is torn while its marker is programmed, and the chip
is rebooted: the commit still stands. -/
theorem exited_of_outside_sample :
    ∃ chip, MemoryFlash.blank? ⟨64, 64, 2, 32, 1⟩ = .ok chip ∧
      Exited ((start chip ((Segment.Table.replicate none).set .security (some 4))).run
        [.openForWrite .security 2, .write 0 0 [7, 9], .exit .security, .fault (.cutPowerAfter 3),
          .enter .security, .reboot]).milestones .security := by
  have blank : MemoryFlash.blank? ⟨64, 64, 2, 32, 1⟩ = .ok _ := rfl
  refine ⟨_, blank, exited_of_outside (ε := StoreError) blank _ _ _ ?_⟩
  decide +kernel

end Chronicle

end NorStore
