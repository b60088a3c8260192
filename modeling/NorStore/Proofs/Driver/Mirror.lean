/-
# Watching changes nothing

A driver over a watched device does what it does over the device itself: every request comes to
the same outcome, and to the same capacities, map and device. So what is told of the demands of a
driver is told of the driver over any device, watched or not.
-/

import NorStore.Proofs.Driver.Usage
import NorStore.Proofs.Flash.Watched

namespace NorStore

open NorStore.Flash (BlockDevice FlashError Watched)

variable {δ : Type} [BlockDevice δ]

namespace Flash.Watched

variable {α : Type} {watched : Watched δ}

/-- What is asked of the watched device is asked of the device. -/
def Mirrors (first : Action (Watched δ) FlashError α) (second : Action δ FlashError α)
    (watched : Watched δ) : Prop := Action.Mirrors Watched.device first second watched

theorem mirrors_read (offset length : Nat) :
    Mirrors (BlockDevice.read offset length) (BlockDevice.read offset length) watched := rfl

theorem mirrors_write (offset : Nat) (data : Bytes) :
    Mirrors (BlockDevice.write offset data) (BlockDevice.write offset data) watched := rfl

theorem mirrors_erase (offset length : Nat) :
    Mirrors (BlockDevice.erase offset length) (BlockDevice.erase offset length) watched := rfl

theorem mirrors_openDevice : Mirrors BlockDevice.openDevice BlockDevice.openDevice watched := by
  show BlockDevice.openDevice watched.device =
    ((openDevice watched).1, (openDevice watched).2.device)
  rw [openDevice]
  rcases BlockDevice.openDevice watched.device with ⟨_ | _ | _, device⟩ <;> rfl

theorem mirrors_session {first : Action (Watched δ) FlashError α} {second : Action δ FlashError α}
    (judged : ∀ ready, Mirrors first second ready) :
    Mirrors (BlockDevice.session first) (BlockDevice.session second) watched := by
  have opens : BlockDevice.openDevice watched.device = ((BlockDevice.openDevice watched).1,
    (BlockDevice.openDevice watched).2.device) := mirrors_openDevice
  rw [Mirrors, Action.Mirrors, BlockDevice.session, BlockDevice.session, opens]
  rcases (BlockDevice.openDevice watched : Outcome FlashError Unit × _) with ⟨_ | _ | _, ready⟩
  · have same : second ready.device = ((first ready).1, (first ready).2.device) := judged ready
    dsimp only
    rw [same]
    rcases first ready with ⟨_ | _ | _, reached⟩ <;> rfl
  · rfl
  · rfl

end Flash.Watched

namespace SegmentDriver

variable {ε α : Type} {driver : SegmentDriver (Watched δ)}

/-- The driver over the device itself. -/
def unwatched (driver : SegmentDriver (Watched δ)) : SegmentDriver δ :=
  ⟨driver.device.device, driver.capacities, driver.planner⟩

/-- The two accesses come to the same, but for the demands that are written down. -/
def Mirrors (first : Action (SegmentDriver (Watched δ)) ε α) (second : Action (SegmentDriver δ) ε α)
    (driver : SegmentDriver (Watched δ)) : Prop := Action.Mirrors unwatched first second driver

omit [BlockDevice δ] in
theorem mirrors_onDevice {first : Action (Watched δ) FlashError α}
    {second : Action δ FlashError α} (judged : Watched.Mirrors first second driver.device) :
    Mirrors (onDevice first) (onDevice second) driver := by
  have same : second driver.device.device =
    ((first driver.device).1, (first driver.device).2.device) := judged
  rw [Mirrors, Action.Mirrors, unwatched, onDevice, onDevice, same]
  rfl

theorem mirrors_planOnce : Mirrors planOnce planOnce driver := by
  have plan : driver.unwatched.plan = driver.plan := rfl
  obtain ⟨device, capacities, planner⟩ := driver
  cases planner with
  | mapped map => rfl
  | failed reason => rfl
  | unmapped =>
      show planOnce (unwatched _) = _
      rw [planOnce, planOnce]
      dsimp only [unwatched] at plan ⊢
      rw [plan]
      cases SegmentDriver.plan (⟨device, capacities, .unmapped⟩ : SegmentDriver (Watched δ)) <;> rfl

theorem mirrors_ensureMapped (segment : Segment) :
    Mirrors (ensureMapped segment) (ensureMapped segment) driver := by
  refine .bind mirrors_planOnce fun _ reached => ?_
  obtain ⟨device, capacities, planner⟩ := reached
  cases planner with
  | unmapped => rfl
  | failed reason => rfl
  | mapped map =>
      rw [Action.Mirrors, Action.get_bind, Action.get_bind]
      dsimp only [unwatched, capacity?]
      cases map.entry? segment with
      | some entry => rfl
      | none =>
          cases capacities.get segment with
          | none => rfl
          | some maxPayload => rfl

theorem mirrors_writeRuns (runs : List (Nat × Bytes)) (watched : Watched δ) :
    Watched.Mirrors (writeRuns runs) (writeRuns runs) watched := by
  induction runs generalizing watched with
  | nil => rfl
  | cons head runs ih =>
      refine .bind (Watched.mirrors_write head.1 head.2) fun _ reached => ?_
      exact .bind (.lift _) fun _ => ih

theorem mirrors_program (segment : Segment) (start : Nat) (data : Bytes) :
    Mirrors (program segment start data) (program segment start data) driver := by
  rw [Mirrors, Action.Mirrors, program, program, Action.get_bind, Action.get_bind]
  rw [show driver.unwatched.memoryMap? = driver.memoryMap? from rfl]
  cases driver.memoryMap? with
  | none => rfl
  | some map =>
      exact Action.Mirrors.mapError (mirrors_onDevice (Watched.mirrors_session
        (mirrors_writeRuns (blockRuns map.geometry.blockSize start data))))

theorem mirrors_openForRead (segment : Segment) :
    Mirrors (openForRead segment) (openForRead segment) driver :=
  .bind (mirrors_ensureMapped segment) fun _ _ =>
    .bind (.mapError (mirrors_onDevice (Watched.mirrors_session fun _ => .pure ()))) fun _ _ =>
      .pure _

theorem mirrors_openForWrite (segment : Segment) (size : Nat) :
    Mirrors (openForWrite segment size) (openForWrite segment size) driver := by
  refine .bind (mirrors_ensureMapped segment) fun entry reached => ?_
  split
  · exact .throw _
  · rw [Action.Mirrors, Action.get_bind, Action.get_bind]
    rw [show reached.unwatched.memoryMap? = reached.memoryMap? from rfl]
    cases reached.memoryMap? with
    | none => rfl
    | some map =>
        exact Action.Mirrors.bind (.lift _) fun _ _ => .bind (.lift _) fun length _ =>
          .bind (.mapError (mirrors_onDevice (Watched.mirrors_session fun _ =>
            Watched.mirrors_erase entry.start length))) fun _ _ => .pure _

theorem mirrors_read (handle : Handle) (offset length : Nat) :
    Mirrors (read handle offset length) (read handle offset length) driver := by
  rw [read_steps, read_steps]
  refine .bind (.lift _) fun _ _ => .bind (.lift _) fun _ _ => ?_
  split
  · exact .throw _
  · exact .bind (.lift _) fun start _ =>
      .bind (.mapError (mirrors_onDevice (Watched.mirrors_session fun _ =>
        Watched.mirrors_read start length))) fun _ _ => .bind (.lift _) fun _ _ => .pure _

theorem mirrors_write (handle : Handle) (offset : Nat) (data : Bytes) :
    Mirrors (write handle offset data) (write handle offset data) driver := by
  rw [write_steps, write_steps]
  refine .bind (.lift _) fun _ _ => .bind (.lift _) fun _ _ => ?_
  split
  · exact .throw _
  · exact .bind (.lift _) fun _ _ => .bind (mirrors_program ..) fun _ _ => .lift _

theorem mirrors_eraseSegment (segment : Segment) :
    Mirrors (eraseSegment segment) (eraseSegment segment) driver :=
  .bind (mirrors_ensureMapped segment) fun entry _ =>
    .mapError (mirrors_onDevice (Watched.mirrors_session fun _ =>
      Watched.mirrors_erase entry.start entry.reserved))

theorem mirrors_readLedger (segment : Segment) :
    Mirrors (readLedger segment) (readLedger segment) driver :=
  .bind (mirrors_ensureMapped segment) fun entry _ =>
    .bind (.mapError (mirrors_onDevice (Watched.mirrors_session fun _ =>
      Watched.mirrors_read entry.start Ledger.size))) fun _ _ => .pure _

theorem mirrors_isInTransaction (segment : Segment) :
    Mirrors (isInTransaction segment : Action _ ε Bool) (isInTransaction segment) driver := by
  refine .bind (.attempt (mirrors_readLedger segment)) fun result _ => ?_
  cases result <;> exact .pure _

theorem mirrors_applyEvent (segment : Segment) (event : LedgerEvent) :
    Mirrors (applyEvent segment event) (applyEvent segment event) driver := by
  refine .bind (mirrors_ensureMapped segment) fun entry _ => ?_
  refine .bind (mirrors_readLedger segment) fun ledger _ => ?_
  cases ledger.classify.apply event with
  | illegal => exact .throw _
  | noChange => exact .pure _
  | program next => exact mirrors_program ..

theorem mirrors_inspectPayload (inspection : Inspection) (header : Header) (handle : Handle)
    (span : ChecksumSpan) : Mirrors (inspectPayload inspection header handle span)
      (inspectPayload inspection header handle span) driver := by
  refine .bind (.attempt (mirrors_read ..)) fun result _ => ?_
  cases result with
  | error cause => exact .pure _
  | ok found =>
      dsimp only
      split <;> exact .pure _

theorem mirrors_inspect (segment : Segment) (appSignature : UInt32) (maxVersion : UInt16)
    (span : ChecksumSpan) : Mirrors (inspect segment appSignature maxVersion span)
      (inspect segment appSignature maxVersion span) driver := by
  refine .bind (mirrors_ensureMapped segment) fun entry _ => ?_
  refine .bind (mirrors_readLedger segment) fun ledger _ => ?_
  refine .bind (.attempt (mirrors_openForRead segment)) fun opened _ => ?_
  cases opened with
  | error cause => exact .pure _
  | ok handle =>
      refine .bind (.attempt (mirrors_read ..)) fun header _ => ?_
      cases header with
      | error cause =>
          dsimp only
          split <;> exact .pure _
      | ok found =>
          dsimp only
          split
          · exact .pure _
          · refine .bind (.lift _) fun examined _ => ?_
            cases examined with
            | error reason => exact .pure _
            | ok => exact mirrors_inspectPayload ..

/-! ## Runs -/

theorem Visit.mirrors (segment : Segment) (handles : List Handle) (kind : Visit) :
    Mirrors (kind.perform segment handles) (kind.perform segment handles) driver := by
  cases kind with
  | ensureMapped => exact .bind (mirrors_ensureMapped segment) fun _ _ => .pure _
  | readLedger => exact .bind (mirrors_readLedger segment) fun _ _ => .pure _
  | isInTransaction => exact .bind (mirrors_isInTransaction segment) fun _ _ => .pure _
  | enter => exact .bind (mirrors_applyEvent segment .enter) fun _ _ => .pure _
  | exit => exact .bind (mirrors_applyEvent segment .exit) fun _ _ => .pure _
  | openForRead => exact .bind (mirrors_openForRead segment) fun _ _ => .pure _
  | openForWrite size => exact .bind (mirrors_openForWrite segment size) fun _ _ => .pure _
  | erase => exact .bind (mirrors_eraseSegment segment) fun _ _ => .pure _
  | inspect appSignature maxVersion span =>
      exact .bind (mirrors_inspect segment appSignature maxVersion span) fun _ _ => .pure _

/-- The same request to a driver over a watched device. What happens to the device goes on behind
the back of the watch. -/
def Request.watched : Request δ → Request (Watched δ)
  | .reserve segment maxPayload => .reserve segment maxPayload
  | .visit segment kind => .visit segment kind
  | .read number offset length => .read number offset length
  | .write number offset data => .write number offset data
  | .disturb change => .disturb fun watched => { watched with device := change watched.device }

theorem Request.mirrors (handles : List Handle) (request : Request δ) :
    Mirrors (request.watched.perform handles) (request.perform handles) driver := by
  cases request with
  | reserve segment maxPayload => rfl
  | visit segment kind => exact kind.mirrors segment handles
  | read number offset length =>
      rw [Request.watched, Request.perform, Request.perform]
      cases handles[number]? with
      | none => exact .pure _
      | some handle => exact .bind (mirrors_read ..) fun _ _ => .pure _
  | write number offset data =>
      rw [Request.watched, Request.perform, Request.perform]
      cases handles[number]? with
      | none => exact .pure _
      | some handle => exact .bind (mirrors_write ..) fun _ _ => .pure _
  | disturb change => rfl

/-- The usage of the driver over the device itself. -/
def Usage.unwatched (usage : Usage (Watched δ)) : Usage δ := ⟨usage.driver.unwatched, usage.handles⟩

theorem Usage.unwatched_step (usage : Usage (Watched δ)) (request : Request δ) :
    (usage.step request.watched).unwatched = usage.unwatched.step request := by
  have same : request.perform usage.unwatched.handles usage.unwatched.driver =
    ((request.watched.perform usage.handles usage.driver).1,
      (request.watched.perform usage.handles usage.driver).2.unwatched) :=
    request.mirrors usage.handles
  rw [step_eq, step_eq, same]
  rcases request.watched.perform usage.handles usage.driver with ⟨_ | _ | _, reached⟩ <;> rfl

/-- A run over the watched device is the run over the device. -/
theorem Usage.unwatched_run (usage : Usage (Watched δ)) (requests : List (Request δ)) :
    (usage.run (requests.map Request.watched)).unwatched = usage.unwatched.run requests := by
  induction requests generalizing usage with
  | nil => rfl
  | cons request rest ih =>
      rw [List.map_cons]
      refine (ih (usage.step request.watched)).trans ?_
      rw [unwatched_step]
      rfl

end SegmentDriver

end NorStore
