/-
# A driver in use

A driver can be used in any order and over any device, also one that follows no rules: segments
are visited, handles that were given out are read and written, more is reserved, and the device
is changed from outside. What the driver knows of the map is changed by asking for ranges and
by nothing else, so what asking keeps is kept by every use.
-/

import NorStore.Driver.Inspection
import NorStore.Proofs.Driver.Handles
import NorStore.Proofs.Driver.Mapping

namespace NorStore.SegmentDriver

open NorStore.Flash (BlockDevice)

variable {δ ε α : Type}

/-- What can be done to a segment. -/
inductive Visit where
  | ensureMapped
  | readLedger
  | isInTransaction
  | enter
  | exit
  | openForRead
  | openForWrite (size : Nat)
  | erase
  | inspect (appSignature : UInt32) (maxVersion : UInt16) (span : ChecksumSpan)

/-- What can be done with a driver. Handles are numbered in the order in which they were given
out, and may be used at any time. -/
inductive Request (δ : Type) where
  | reserve (segment : Segment) (maxPayload : Nat)
  | visit (segment : Segment) (kind : Visit)
  | read (number offset length : Nat)
  | write (number offset : Nat) (data : Bytes)
  /-- Something happens to the device, which the driver has no part in. -/
  | disturb (change : δ → δ)

/-- Whether a segment is visited. -/
def Request.IsVisit : Request δ → Prop
  | visit _ _ => True
  | _ => False

/-- Whether a capacity is reserved. -/
def Request.IsReserve : Request δ → Prop
  | reserve _ _ => True
  | _ => False

/-- A driver, and the handles that it has given out. -/
structure Usage (δ : Type) where
  driver : SegmentDriver δ
  handles : List Handle := []

/-- A driver that was just made, on which some capacities have been reserved. -/
def Usage.start (device : δ) (pairs : List (Segment × Nat)) : Usage δ where
  driver := pairs.foldl (fun driver pair => driver.reserve pair.1 pair.2) { device }

section Device

variable [BlockDevice δ]

/-- Visit a segment. A handle that is given joins the others. -/
def Visit.perform (segment : Segment) (handles : List Handle) :
    Visit → Action (SegmentDriver δ) StoreError (List Handle)
  | .ensureMapped => do
    let _ ← SegmentDriver.ensureMapped segment
    return handles
  | .readLedger => do
    let _ ← SegmentDriver.readLedger segment
    return handles
  | .isInTransaction => do
    let _ ← SegmentDriver.isInTransaction segment
    return handles
  | .enter => do
    enterTransaction segment
    return handles
  | .exit => do
    exitTransaction segment
    return handles
  | .openForRead => do
    let handle ← SegmentDriver.openForRead segment
    return handles ++ [handle]
  | .openForWrite size => do
    let handle ← SegmentDriver.openForWrite segment size
    return handles ++ [handle]
  | .erase => do
    eraseSegment segment
    return handles
  | .inspect appSignature maxVersion span => do
    let _ ← SegmentDriver.inspect segment appSignature maxVersion span
    return handles

/-- Do what is requested, and return the handles as they are from then on. A handle that is used is
lent, so nothing is said of it if that fails. -/
def Request.perform (handles : List Handle) :
    Request δ → Action (SegmentDriver δ) StoreError (List Handle)
  | .reserve segment maxPayload => do
    modify (SegmentDriver.reserve · segment maxPayload)
    return handles
  | .visit segment kind => kind.perform segment handles
  | .read number offset length =>
    match handles[number]? with
    | none => return handles
    | some handle => do
      let (_, next) ← SegmentDriver.read handle offset length
      return handles.set number next
  | .write number offset data =>
    match handles[number]? with
    | none => return handles
    | some handle => do
      let next ← SegmentDriver.write handle offset data
      return handles.set number next
  | .disturb change => do
    modify fun driver => { driver with device := change driver.device }
    return handles

/-- A handle and the driver have been in use together, and this is what has become of both. -/
def Usage.retake (usage : Usage δ) (number : Nat) (opened : OpenSegment δ) : Usage δ where
  driver := opened.driver
  handles := usage.handles.set number opened.handle

/-- The usage after one more request. -/
def Usage.step (usage : Usage δ) (request : Request δ) : Usage δ :=
  match request with
  | .read number offset length =>
    match usage.handles[number]? with
    | none => usage
    | some handle =>
      usage.retake number (OpenSegment.read offset length ⟨usage.driver, handle⟩).2
  | .write number offset data =>
    match usage.handles[number]? with
    | none => usage
    | some handle =>
      usage.retake number (OpenSegment.write offset data ⟨usage.driver, handle⟩).2
  | other =>
    match other.perform usage.handles usage.driver with
    | (.value handles, driver) => ⟨driver, handles⟩
    | (.error _, driver) => { usage with driver }
    | (.trap, driver) => { usage with driver }

omit [BlockDevice δ] in
/-- The handle is among the others as it was before, unless the access has moved it. -/
theorem Usage.retake_eq {access : Action (OpenSegment δ) StoreError α} {usage : Usage δ}
    {number : Nat} {handle : Handle} (steadfast : OpenSegment.Steadfast access)
    (found : usage.handles[number]? = some handle) :
    usage.retake number (access ⟨usage.driver, handle⟩).2 =
      match lend handle access usage.driver with
      | (.value (_, next), driver) => ⟨driver, usage.handles.set number next⟩
      | (.error _, driver) => { usage with driver }
      | (.trap, driver) => { usage with driver } := by
  obtain ⟨inside, rfl⟩ := List.getElem?_eq_some_iff.1 found
  rw [steadfast.apply, retake]
  rcases lend usage.handles[number] access usage.driver with ⟨⟨_, _⟩ | _ | _, reached⟩
  · rfl
  · exact congrArg (Usage.mk reached) (List.set_getElem_self inside)
  · exact congrArg (Usage.mk reached) (List.set_getElem_self inside)

/-- A request that fails leaves the handles alone. -/
theorem Usage.step_eq (usage : Usage δ) (request : Request δ) :
    usage.step request =
      match request.perform usage.handles usage.driver with
      | (.value handles, driver) => ⟨driver, handles⟩
      | (.error _, driver) => { usage with driver }
      | (.trap, driver) => { usage with driver } := by
  cases request with
  | read number offset length =>
      cases found : usage.handles[number]? with
      | none => simp only [step, Request.perform, found, Action.pure_apply]
      | some handle =>
          simp only [step, Request.perform, found, Action.bind_apply, Action.bind, read,
            retake_eq (OpenSegment.read_steadfast offset length) found]
          rcases lend handle _ usage.driver with ⟨_ | _ | _, reached⟩ <;> rfl
  | write number offset data =>
      cases found : usage.handles[number]? with
      | none => simp only [step, Request.perform, found, Action.pure_apply]
      | some handle =>
          simp only [step, Request.perform, found, Action.bind_apply, Action.bind, write,
            retake_eq (OpenSegment.write_steadfast offset data) found]
          rcases lend handle _ usage.driver with ⟨_ | _ | _, reached⟩ <;> rfl
  | reserve segment maxPayload => rfl
  | visit segment kind => rfl
  | disturb change => rfl

/-- The usage after a run. -/
def Usage.run (usage : Usage δ) (requests : List (Request δ)) : Usage δ :=
  requests.foldl step usage

theorem Usage.driver_step (usage : Usage δ) (request : Request δ) :
    (usage.step request).driver = (request.perform usage.handles usage.driver).2 := by
  rw [step_eq]
  split <;> rename_i performed <;> rw [performed]

/-! ## What every use keeps -/

/-- Whatever the device does, what is told of a driver stays. -/
structure Movable (holds : SegmentDriver δ → Prop) : Prop where
  moves : ∀ {driver : SegmentDriver δ} (device : δ), holds driver → holds { driver with device }

/-- Asking for ranges keeps what is told of a driver as well. -/
structure Stable (holds : SegmentDriver δ → Prop) : Prop extends Movable holds where
  asks : ∀ {driver : SegmentDriver δ} (segment : Segment), holds driver →
    holds (ensureMapped segment driver).2

namespace Movable

variable {holds : SegmentDriver δ → Prop} {driver : SegmentDriver δ}

omit [BlockDevice δ] in
theorem onDevice (movable : Movable holds) (access : Action δ ε α) (told : holds driver) :
    (onDevice access).Reaches driver holds := by
  obtain ⟨device, capacities, planner⟩ := driver
  exact movable.moves (access device).2 told

theorem program (movable : Movable holds) (segment : Segment) (start : Nat) (data : Bytes)
    (told : holds driver) : (program segment start data).Reaches driver holds := by
  refine .get_bind ?_
  split
  · exact .throw told
  · exact .mapError (movable.onDevice _ told)

theorem read (movable : Movable holds) (handle : Handle) (offset length : Nat)
    (told : holds driver) : (read handle offset length).Reaches driver holds := by
  rw [read_steps]
  refine .lift_bind told fun _ _ => .lift_bind told fun _ _ => ?_
  split
  · exact .throw told
  · refine .lift_bind told fun _ _ => .bind (.mapError (movable.onDevice _ told)) ?_
    exact fun _ _ _ told => .lift_bind told fun _ _ => .pure told

theorem write (movable : Movable holds) (handle : Handle) (offset : Nat) (data : Bytes)
    (told : holds driver) : (write handle offset data).Reaches driver holds := by
  rw [write_steps]
  refine .lift_bind told fun _ _ => .lift_bind told fun _ _ => ?_
  split
  · exact .throw told
  · refine .lift_bind told fun _ _ => .bind (movable.program _ _ _ told) ?_
    exact fun _ _ _ told => .lift told

/-- A request that visits no segment and reserves nothing asks for no range. -/
theorem request (movable : Movable holds) (handles : List Handle) (request : Request δ)
    (visits : ¬ request.IsVisit) (reserves : ¬ request.IsReserve) (told : holds driver) :
    (request.perform handles).Reaches driver holds := by
  cases request with
  | reserve => exact absurd trivial reserves
  | visit => exact absurd trivial visits
  | read number offset length =>
      rw [Request.perform]
      split
      · exact .pure told
      · exact .bind (movable.read _ _ _ told) fun _ _ _ => .pure
  | write number offset data =>
      rw [Request.perform]
      split
      · exact .pure told
      · exact .bind (movable.write _ _ _ told) fun _ _ _ => .pure
  | disturb change => exact movable.moves _ told

end Movable

namespace Stable

variable {holds : SegmentDriver δ → Prop} {driver : SegmentDriver δ} {segment : Segment}

theorem ensureMapped (stable : Stable holds) (segment : Segment) (told : holds driver) :
    (ensureMapped segment).Reaches driver holds := stable.asks segment told

theorem openForRead (stable : Stable holds) (segment : Segment) (told : holds driver) :
    (openForRead segment).Reaches driver holds := by
  refine .bind (stable.ensureMapped segment told) fun _ _ _ told => ?_
  exact .bind (.mapError (stable.onDevice _ told)) fun _ _ _ => .pure

theorem openForWrite (stable : Stable holds) (segment : Segment) (size : Nat)
    (told : holds driver) : (openForWrite segment size).Reaches driver holds := by
  refine .bind (stable.ensureMapped segment told) fun entry reached _ told => ?_
  split
  · exact .throw told
  · refine .get_bind ?_
    split
    · exact .throw told
    · refine .lift_bind told fun _ _ => .lift_bind told fun _ _ => ?_
      exact .bind (.mapError (stable.onDevice _ told)) fun _ _ _ => .pure

theorem eraseSegment (stable : Stable holds) (segment : Segment) (told : holds driver) :
    (eraseSegment segment).Reaches driver holds :=
  .bind (stable.ensureMapped segment told) fun _ _ _ told =>
    .mapError (stable.onDevice _ told)

theorem readLedger (stable : Stable holds) (segment : Segment) (told : holds driver) :
    (readLedger segment).Reaches driver holds :=
  .bind (stable.ensureMapped segment told) fun _ _ _ told =>
    .bind (.mapError (stable.onDevice _ told)) fun _ _ _ => .pure

theorem isInTransaction (stable : Stable holds) (segment : Segment) (told : holds driver) :
    (isInTransaction segment : Action _ ε Bool).Reaches driver holds := by
  refine .bind (.attempt (stable.readLedger segment told)) fun result _ _ told => ?_
  cases result with
  | ok ledger => exact .pure told
  | error cause => exact .pure told

theorem applyEvent (stable : Stable holds) (segment : Segment) (event : LedgerEvent)
    (told : holds driver) : (applyEvent segment event).Reaches driver holds := by
  refine .bind (stable.ensureMapped segment told) fun entry _ _ told => ?_
  refine .bind (stable.readLedger segment told) fun ledger _ _ told => ?_
  cases ledger.classify.apply event with
  | illegal => exact .throw told
  | noChange => exact .pure told
  | program next => exact stable.program _ _ _ told

theorem inspectPayload (stable : Stable holds) (inspection : Inspection) (header : Header)
    (handle : Handle) (span : ChecksumSpan) (told : holds driver) :
    (inspectPayload inspection header handle span).Reaches driver holds := by
  refine .bind (.attempt (stable.read _ _ _ told)) fun result _ _ told => ?_
  split
  · exact .pure told
  · split <;> exact .pure told

theorem inspect (stable : Stable holds) (segment : Segment) (appSignature : UInt32)
    (maxVersion : UInt16) (span : ChecksumSpan) (told : holds driver) :
    (inspect segment appSignature maxVersion span).Reaches driver holds := by
  refine .bind (stable.ensureMapped segment told) fun entry _ _ told => ?_
  refine .bind (stable.readLedger segment told) fun ledger _ _ told => ?_
  refine .bind (.attempt (stable.openForRead segment told)) fun opened _ _ told => ?_
  cases opened with
  | error cause => exact .pure told
  | ok handle =>
      refine .bind (.attempt (stable.read handle _ _ told)) fun header _ _ told => ?_
      cases header with
      | error cause =>
          dsimp only
          split <;> exact .pure told
      | ok found =>
          obtain ⟨bytes, handle⟩ := found
          dsimp only
          split
          · exact .pure told
          · refine .lift_bind told fun examined _ => ?_
            cases examined with
            | error reason => exact .pure told
            | ok => exact stable.inspectPayload _ _ _ _ told

/-- Every visit keeps what is told of the driver. -/
theorem visit (stable : Stable holds) (segment : Segment) (handles : List Handle)
    (kind : Visit) (told : holds driver) : (kind.perform segment handles).Reaches driver holds := by
  cases kind with
  | ensureMapped => exact .bind (stable.ensureMapped segment told) fun _ _ _ => .pure
  | readLedger => exact .bind (stable.readLedger segment told) fun _ _ _ => .pure
  | isInTransaction => exact .bind (stable.isInTransaction segment told) fun _ _ _ => .pure
  | enter => exact .bind (stable.applyEvent segment .enter told) fun _ _ _ => .pure
  | exit => exact .bind (stable.applyEvent segment .exit told) fun _ _ _ => .pure
  | openForRead => exact .bind (stable.openForRead segment told) fun _ _ _ => .pure
  | openForWrite size => exact .bind (stable.openForWrite segment size told) fun _ _ _ => .pure
  | erase => exact .bind (stable.eraseSegment segment told) fun _ _ _ => .pure
  | inspect appSignature maxVersion span =>
      exact .bind (stable.inspect segment _ _ _ told) fun _ _ _ => .pure

/-- So does every request, if reserving does. -/
theorem request (stable : Stable holds) (handles : List Handle) (request : Request δ)
    (reserves : ∀ segment maxPayload, request = .reserve segment maxPayload →
      holds (driver.reserve segment maxPayload))
    (told : holds driver) : (request.perform handles).Reaches driver holds := by
  by_cases visits : request.IsVisit
  · cases request with
    | visit segment kind => exact stable.visit segment handles kind told
    | _ => contradiction
  · by_cases isReserve : request.IsReserve
    · cases request with
      | reserve segment maxPayload => exact reserves segment maxPayload rfl
      | _ => contradiction
    · exact stable.toMovable.request handles request visits isReserve told

end Stable

end Device

end NorStore.SegmentDriver
