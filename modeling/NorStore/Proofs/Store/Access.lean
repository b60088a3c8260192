/-
# A store over its driver

The driver is the part of a store that the flash is behind. An access to it changes nothing
else of the store, and a segment that has a range has it after every later access, so what
is said about the driver carries over.
-/

import NorStore.Proofs.Driver.Content
import NorStore.Store.Restore

namespace NorStore

open NorStore.Flash (BlockDevice)

variable {δ ε α β : Type}

/-- The payload that there is to store, or why there is none. -/
def Registration.prepared (registration : Registration) (segment : Segment) :
    Except StoreError Bytes :=
  match registration.codec.serialize registration.live with
  | .error cause => .error (.codec cause)
  | .ok payload =>
    if registration.codec.maxSize < payload.length then
      .error (.capacityExceeded segment payload.length registration.codec.maxSize)
    else .ok payload

/-- A payload that the codec makes and that fits it is prepared. -/
theorem Registration.prepared_eq {registration : Registration} {payload : Bytes}
    (serialized : registration.codec.serialize registration.live = .ok payload)
    (fits : payload.length ≤ registration.codec.maxSize) (segment : Segment) :
    registration.prepared segment = .ok payload := by
  rw [Registration.prepared, serialized]
  exact if_neg (Nat.not_lt.2 fits)

/-- A payload that is prepared is what the codec makes. -/
theorem Registration.serialize_of_prepared {registration : Registration} {segment : Segment}
    {payload : Bytes} (prepared : registration.prepared segment = .ok payload) :
    registration.codec.serialize registration.live = .ok payload := by
  rw [Registration.prepared] at prepared
  grind

/-- A payload that is prepared fits what its codec makes room for. -/
theorem Registration.length_le_of_prepared {registration : Registration} {segment : Segment}
    {payload : Bytes} (prepared : registration.prepared segment = .ok payload) :
    payload.length ≤ registration.codec.maxSize := by
  rw [Registration.prepared] at prepared
  grind

/-! ## Accesses of a store -/

namespace Store

variable {store : Store δ} {driver : SegmentDriver δ} {segment other : Segment}
  {registration : Registration} {live : Bytes}

/-- A codec of blobs takes what fits it as it is. -/
theorem deserialize_blob_of_fits {maxSize : Nat} {span : ChecksumSpan} {live : Bytes}
    (fits : live.length ≤ maxSize) : (Codec.blob maxSize none span).deserialize live = .ok live := by
  show (if maxSize < live.length then _ else _) = _
  rw [if_neg (Nat.not_lt.2 fits)]

/-- The store over a driver that has moved on. -/
def atop (store : Store δ) (driver : SegmentDriver δ) : Store δ := { store with driver }

@[simp]
theorem driver_atop (store : Store δ) (driver : SegmentDriver δ) :
    (store.atop driver).driver = driver := rfl

@[simp]
theorem config_atop (store : Store δ) (driver : SegmentDriver δ) :
    (store.atop driver).config = store.config := rfl

@[simp]
theorem registrations_atop (store : Store δ) (driver : SegmentDriver δ) :
    (store.atop driver).registrations = store.registrations := rfl

/-- An access to the driver leaves the rest of the store. -/
theorem onDriver_apply (access : Action (SegmentDriver δ) ε α) (store : Store δ) :
    onDriver access store = ((access store.driver).1, store.atop (access store.driver).2) := rfl

theorem onDriver_ends {access : Action (SegmentDriver δ) ε α} {done : α → Store δ → Prop}
    {failed : ε → Store δ → Prop}
    (judged : access.Ends store.driver (fun result driver => done result (store.atop driver))
      fun cause driver => failed cause (store.atop driver)) :
    (onDriver access).Ends store done failed := by
  rcases judged.cases with ⟨result, driver, ends, holds⟩ | ⟨cause, driver, ends, holds⟩
  · exact .of_value (by rw [onDriver_apply, ends]) holds
  · exact .of_error (by rw [onDriver_apply, ends]) holds

/-- Accesses one after another are one access. -/
theorem onDriver_bind (first : Action (SegmentDriver δ) ε α)
    (next : α → Action (SegmentDriver δ) ε β) :
    onDriver (first >>= next) = onDriver first >>= fun result => onDriver (next result) := by
  funext store
  rw [onDriver_apply, Action.bind_apply, Action.bind_apply, Action.bind, Action.bind,
    onDriver_apply]
  rcases first store.driver with ⟨_ | _ | _, driver⟩ <;> rfl

theorem onDriver_mapError {φ : Type} (restate : ε → φ) (access : Action (SegmentDriver δ) ε α) :
    onDriver (access.mapError restate) = (onDriver access).mapError restate := rfl

/-- Two actions that start with the same access to the driver come to the same if they do so
after it. -/
theorem onDriver_bind_congr {access : Action (SegmentDriver δ) ε α}
    {first second : α → Action (Store δ) ε β}
    (same : ∀ result driver, first result (store.atop driver) = second result (store.atop driver)) :
    (onDriver access >>= first) store = (onDriver access >>= second) store := by
  rw [Action.bind_apply, Action.bind_apply, Action.bind, Action.bind, onDriver_apply]
  rcases access store.driver with ⟨_ | _ | _, driver⟩
  · exact same _ driver
  · rfl
  · rfl

/-- An action that starts with an access to the driver, and goes on from where it ended. -/
theorem onDriver_bind_ends {access : Action (SegmentDriver δ) ε α}
    {next : α → Action (Store δ) ε β} {middle : α → SegmentDriver δ → Prop}
    {broken : ε → SegmentDriver δ → Prop} {done : β → Store δ → Prop} {failed : ε → Store δ → Prop}
    (judged : access.Ends store.driver middle broken)
    (stops : ∀ cause driver, broken cause driver → failed cause (store.atop driver))
    (goesOn : ∀ result driver, middle result driver →
      (next result).Ends (store.atop driver) done failed) :
    (onDriver access >>= next).Ends store done failed := by
  rcases judged.cases with ⟨result, driver, ends, holds⟩ | ⟨cause, driver, ends, holds⟩
  · exact .value_bind (by rw [onDriver_apply, ends]) (goesOn result driver holds)
  · refine .of_error (Action.bind_of_error ?_ next) (stops cause driver holds)
    rw [onDriver_apply, ends]

/-- An action that starts with an access to the driver starts just as well from a driver on
which the access comes to the same. -/
theorem onDriver_bind_atop {access : Action (SegmentDriver δ) ε α}
    {next : α → Action (Store δ) ε β} (same : access store.driver = access driver) :
    (onDriver access >>= next) store = (onDriver access >>= next) (store.atop driver) := by
  have first : onDriver access store = onDriver access (store.atop driver) := by
    rw [onDriver_apply, same]
    rfl
  rw [Action.bind_apply, Action.bind_apply, Action.bind, Action.bind, first]

/-! ## Restoring, by whether there is a range -/

section Restoring

variable [BlockDevice δ] {entry : MapEntry} {placed : SegmentDriver δ} {reason : LossReason}

theorem restore_of_error {reached : Store δ}
    (misses : loadSegment segment store = (.error reason, reached)) :
    (restore segment store : Outcome ε LoadOutcome × Store δ) =
      (.value (.lost reason), reached.noteLost segment reason) := by
  have tried : ((loadSegment segment).attempt : Action (Store δ) ε _) store =
      (.value (.error reason), reached) := by
    rw [Action.attempt, misses]
  rw [restore, Action.bind_of_value tried]
  rfl

theorem restore_of_unregistered (unregistered : store.registrations.get segment = none) :
    (restore segment store : Outcome ε LoadOutcome × Store δ) =
      (.value (.lost .noPersistence), store.noteLost segment .noPersistence) := by
  apply restore_of_error
  rw [loadSegment, Action.get_bind, unregistered]
  rfl

/-- A segment that cannot be given a range is lost, and a trap on the way is one of the
whole. -/
theorem restore_of_unmapped {cause : StoreError}
    (registered : store.registrations.get segment = some registration)
    (asked : SegmentDriver.ensureMapped segment store.driver = (.error cause, placed)) :
    (restore segment store : Outcome ε LoadOutcome × Store δ) =
      (.value (.lost .noPersistence), (store.atop placed).noteLost segment .noPersistence) := by
  have reads : SegmentDriver.readLedger segment store.driver = (.error cause, placed) :=
    Action.bind_of_error asked _
  have asks : onDriver (SegmentDriver.isInTransaction segment) store =
      ((.value true, store.atop placed) : Outcome LossReason Bool × Store δ) := by
    rw [onDriver_apply, SegmentDriver.isInTransaction_eq, reads]
  apply restore_of_error
  rw [loadSegment, Action.get_bind, registered]
  exact Action.bind_of_value asks _

theorem restore_of_trap (registered : store.registrations.get segment = some registration)
    (asked : SegmentDriver.ensureMapped segment store.driver = (.trap, placed)) :
    (restore segment store : Outcome ε LoadOutcome × Store δ) = (.trap, store.atop placed) := by
  have reads : SegmentDriver.readLedger segment store.driver = (.trap, placed) :=
    Action.bind_of_trap asked _
  have loads : loadSegment segment store = (.trap, store.atop placed) := by
    rw [loadSegment, Action.get_bind, registered]
    refine Action.bind_of_trap ?_ _
    rw [onDriver_apply, SegmentDriver.isInTransaction_eq, reads]
  refine Action.bind_of_trap ?_ _
  rw [Action.attempt, loads]

/-- Restoring a segment may as well start after its range was asked for. -/
theorem restore_atop (registered : store.registrations.get segment = some registration)
    (asked : SegmentDriver.ensureMapped segment store.driver = (.value entry, placed)) :
    (restore segment store : Outcome ε LoadOutcome × Store δ) =
      restore segment (store.atop placed) := by
  have same : (SegmentDriver.isInTransaction segment : Action (SegmentDriver δ) LossReason Bool)
      store.driver = SegmentDriver.isInTransaction segment placed := by
    have reads : SegmentDriver.readLedger segment store.driver =
        SegmentDriver.readLedger segment placed := SegmentDriver.ensureMapped_bind asked _
    rw [SegmentDriver.isInTransaction_eq, SegmentDriver.isInTransaction_eq, reads]
  have loads : loadSegment segment store = loadSegment segment (store.atop placed) := by
    rw [loadSegment, Action.get_bind, Action.get_bind, registrations_atop, registered]
    exact onDriver_bind_atop same
  rw [restore, Action.bind_apply, Action.bind_apply, Action.bind, Action.bind, Action.attempt,
    Action.attempt, loads]

end Restoring

section Storing

variable [BlockDevice δ] {entry : MapEntry} {placed : SegmentDriver δ} {payload : Bytes}
  {cause : StoreError} {bytes : Nat} {after : Store δ}

/-- Writing a segment may as well start after its range was asked for. -/
theorem writeSegment_atop (registered : store.registrations.get segment = some registration)
    (asked : SegmentDriver.ensureMapped segment store.driver = (.value entry, placed)) :
    writeSegment segment store = writeSegment segment (store.atop placed) := by
  have enters : SegmentDriver.enterTransaction segment store.driver =
      SegmentDriver.enterTransaction segment placed := SegmentDriver.ensureMapped_bind asked _
  rw [writeSegment, Action.get_bind, Action.get_bind, registrations_atop, registered]
  exact onDriver_bind_atop enters

/-- Writing a segment whose payload is prepared is one access of the driver. -/
theorem writeSegment_of_prepared (registered : store.registrations.get segment = some registration)
    (prepared : registration.prepared segment = .ok payload) :
    writeSegment segment store =
      (onDriver (SegmentDriver.commitContent segment
          (.forPayload payload store.config.appSignature registration.codec.span) payload) >>= fun _ =>
        return Header.size + payload.length) store := by
  rw [writeSegment, Action.get_bind, registered, SegmentDriver.commitContent, onDriver_bind,
    bind_assoc]
  apply onDriver_bind_congr
  intro _ entered
  rw [Registration.prepared] at prepared
  cases serialized : registration.codec.serialize registration.live with
  | error cause =>
      rw [serialized] at prepared
      contradiction
  | ok found =>
      rw [serialized] at prepared
      dsimp only at prepared ⊢
      split at prepared
      · contradiction
      · rename_i fits
        cases prepared
        rw [if_neg fits, onDriver_bind, bind_assoc, Action.get_bind]
        rfl

/-- Without a payload the transaction is opened and nothing is written. -/
theorem writeSegment_of_unprepared
    (registered : store.registrations.get segment = some registration)
    (unprepared : registration.prepared segment = .error cause) :
    writeSegment segment store =
      (onDriver (SegmentDriver.enterTransaction segment) >>= fun _ => throw cause) store := by
  rw [writeSegment, Action.get_bind, registered]
  apply onDriver_bind_congr
  intro _ entered
  rw [Registration.prepared] at unprepared
  cases serialized : registration.codec.serialize registration.live with
  | error refused =>
      rw [serialized] at unprepared
      cases unprepared
      rfl
  | ok found =>
      rw [serialized] at unprepared
      dsimp only at unprepared ⊢
      split at unprepared
      · rename_i long
        cases unprepared
        rw [if_pos long]
      · contradiction

theorem storeSegment_of_written (writes : writeSegment segment store = (.value bytes, after)) :
    storeSegment segment store = (.value (), after.noteStored segment bytes) := by
  have tried : ((writeSegment segment).attempt : Action (Store δ) StoreError _) store =
      (.value (.ok bytes), after) := by
    rw [Action.attempt, writes]
  rw [storeSegment, Action.bind_of_value tried]
  rfl

theorem storeSegment_of_failed (fails : writeSegment segment store = (.error cause, after)) :
    storeSegment segment store = (.error cause, after.noteStoreFailed segment cause) := by
  have tried : ((writeSegment segment).attempt : Action (Store δ) StoreError _) store =
      (.value (.error cause), after) := by
    rw [Action.attempt, fails]
  rw [storeSegment, Action.bind_of_value tried]
  rfl

theorem storeSegment_of_trap (traps : writeSegment segment store = (.trap, after)) :
    storeSegment segment store = (.trap, after) := by
  refine Action.bind_of_trap ?_ _
  rw [Action.attempt, traps]

/-- Storing a segment may as well start after its range was asked for. -/
theorem storeSegment_atop (registered : store.registrations.get segment = some registration)
    (asked : SegmentDriver.ensureMapped segment store.driver = (.value entry, placed)) :
    storeSegment segment store = storeSegment segment (store.atop placed) := by
  rw [storeSegment, Action.bind_apply, Action.bind_apply, Action.bind, Action.bind, Action.attempt,
    Action.attempt, writeSegment_atop registered asked]

/-- A segment whose transaction is not opened is not stored. -/
theorem storeSegment_of_not_entered
    (registered : store.registrations.get segment = some registration)
    (fails : SegmentDriver.enterTransaction segment store.driver = (.error cause, driver)) :
    storeSegment segment store = (.error cause, (store.atop driver).noteStoreFailed segment cause) := by
  apply storeSegment_of_failed
  rw [writeSegment, Action.get_bind, registered]
  refine Action.bind_of_error ?_ _
  rw [onDriver_apply, fails]

/-- A segment that cannot be given a range is not stored, and a trap on the way is one of the
whole. -/
theorem storeSegment_of_unmapped
    (registered : store.registrations.get segment = some registration)
    (asked : SegmentDriver.ensureMapped segment store.driver = (.error cause, placed)) :
    storeSegment segment store = (.error cause, (store.atop placed).noteStoreFailed segment cause) :=
  storeSegment_of_not_entered registered (Action.bind_of_error asked _)

theorem storeSegment_of_no_range
    (registered : store.registrations.get segment = some registration)
    (asked : SegmentDriver.ensureMapped segment store.driver = (.trap, placed)) :
    storeSegment segment store = (.trap, store.atop placed) := by
  apply storeSegment_of_trap
  have traps : SegmentDriver.enterTransaction segment store.driver = (.trap, placed) :=
    Action.bind_of_trap asked _
  rw [writeSegment, Action.get_bind, registered]
  refine Action.bind_of_trap ?_ _
  rw [onDriver_apply, traps]

section Prepared

variable (registered : store.registrations.get segment = some registration)
  (asked : SegmentDriver.ensureMapped segment store.driver = (.value entry, placed))
  (prepared : registration.prepared segment = .ok payload)

include registered asked prepared

/-- A segment with a payload is stored if the payload is committed in its range. -/
theorem storeSegment_of_committed
    (commits : SegmentDriver.commitContent segment (.forPayload payload store.config.appSignature
      registration.codec.span) payload placed = (.value (), driver)) :
    storeSegment segment store =
      (.value (), (store.atop driver).noteStored segment (Header.size + payload.length)) := by
  apply storeSegment_of_written
  have known : (store.atop placed).registrations.get segment = some registration := registered
  rw [writeSegment_atop registered asked, writeSegment_of_prepared known prepared,
    Action.bind_of_value]
  · rfl
  · rw [onDriver_apply, driver_atop, config_atop, commits]
    rfl

theorem storeSegment_of_not_committed
    (fails : SegmentDriver.commitContent segment (.forPayload payload store.config.appSignature
      registration.codec.span) payload placed = (.error cause, driver)) :
    storeSegment segment store =
      (.error cause, (store.atop driver).noteStoreFailed segment cause) := by
  apply storeSegment_of_failed
  have known : (store.atop placed).registrations.get segment = some registration := registered
  rw [writeSegment_atop registered asked, writeSegment_of_prepared known prepared,
    Action.bind_of_error]
  rw [onDriver_apply, driver_atop, config_atop, fails]
  rfl

end Prepared

/-- A segment that is not registered cannot be stored, and nothing is tried. -/
theorem storeSegment_of_unregistered
    (unknown : store.registrations.get segment = none) :
    storeSegment segment store =
      (.error (.unregistered segment), store.noteStoreFailed segment (.unregistered segment)) := by
  apply storeSegment_of_failed
  rw [writeSegment, Action.get_bind, unknown]
  rfl

end Storing

/-- Forcing a commit only sets the flag. -/
theorem forceCommit_eq (store : Store δ) :
    (forceCommit store : Outcome ε Bool × Store δ) =
      (.value (!store.dirtySegments.isEmpty), { store with
        forced := store.forced || !store.dirtySegments.isEmpty }) := by
  show (Outcome.value (Prod.fst (if _ then _ else _)), Prod.snd (if _ then _ else _)) = _
  cases store.dirtySegments.isEmpty with
  | true =>
      rw [Bool.not_true, Bool.or_false]
      rfl
  | false =>
      rw [Bool.not_false, Bool.or_true]
      rfl

/-! ## One segment of a pass -/

section Pass

variable [BlockDevice δ] {rest : List Segment} {report : CommitReport} {next : Store δ}

theorem storeDirty_of_clean (isClean : store.isDirty segment = false) :
    (storeDirty (segment :: rest) report store : Outcome ε CommitReport × Store δ) =
      storeDirty rest report store := by
  rw [storeDirty, Action.get_bind, isClean]
  rfl

theorem storeDirty_of_stored (isDirty : store.isDirty segment = true)
    (stores : storeSegment segment store = (.value (), next)) :
    (storeDirty (segment :: rest) report store : Outcome ε CommitReport × Store δ) =
      storeDirty rest { report with stored := report.stored ++ [segment] }
        (next.advanceClock next.config.yieldMillis) := by
  have tried : ((storeSegment segment).attempt : Action (Store δ) ε _) store =
      (.value (.ok ()), next) := by
    rw [Action.attempt, stores]
  rw [storeDirty, Action.get_bind, if_pos isDirty, Action.bind_of_value tried]
  rfl

theorem storeDirty_of_failed {cause : StoreError} (isDirty : store.isDirty segment = true)
    (fails : storeSegment segment store = (.error cause, next)) :
    (storeDirty (segment :: rest) report store : Outcome ε CommitReport × Store δ) =
      storeDirty rest { report with failed := report.failed ++ [segment] } next := by
  have tried : ((storeSegment segment).attempt : Action (Store δ) ε _) store =
      (.value (.error cause), next) := by
    rw [Action.attempt, fails]
  rw [storeDirty, Action.get_bind, if_pos isDirty, Action.bind_of_value tried]

/-- A check that does not commit does nothing. -/
theorem commitCheck_of_not_due (early : store.isCommitDue = false) :
    (commitCheck store : Outcome ε CommitReport × Store δ) = (.value {}, store) := by
  rw [commitCheck, Action.get_bind, if_neg (by simp [early])]
  rfl

end Pass

/-! ## Live bytes -/

theorem live?_of_registered (registered : store.registrations.get segment = some registration) :
    store.live? segment = some registration.live := by
  rw [live?, registered]
  rfl

theorem live?_of_unregistered (unknown : store.registrations.get segment = none) :
    store.live? segment = none := by
  rw [live?, unknown]
  rfl

theorem live?_setLive_self (registered : store.registrations.get segment = some registration)
    (live : Bytes) : (store.setLive segment live).live? segment = some live := by
  rw [setLive, registered, live?, Segment.Table.get_set_self]
  rfl

theorem live?_setLive_of_ne (store : Store δ) (live : Bytes) (different : other ≠ segment) :
    (store.setLive segment live).live? other = store.live? other := by
  rw [setLive]
  split
  · rfl
  · rw [live?, Segment.Table.get_set_of_ne _ _ different, live?]

theorem driver_setLive (store : Store δ) (segment : Segment) (live : Bytes) :
    (store.setLive segment live).driver = store.driver := by
  rw [setLive]
  split <;> rfl

theorem config_setLive (store : Store δ) (segment : Segment) (live : Bytes) :
    (store.setLive segment live).config = store.config := by
  rw [setLive]
  split <;> rfl

theorem get_setLive_self (store : Store δ) (segment : Segment) (live : Bytes) :
    (store.setLive segment live).registrations.get segment =
      (store.registrations.get segment).map fun old => { old with live } := by
  rw [setLive]
  split
  · rename_i unregistered
    rw [unregistered]
    rfl
  · rename_i registered
    rw [Segment.Table.get_set_self, registered]
    rfl

theorem get_setLive_of_ne (store : Store δ) (live : Bytes) (different : other ≠ segment) :
    (store.setLive segment live).registrations.get other = store.registrations.get other := by
  rw [setLive]
  split
  · rfl
  · exact Segment.Table.get_set_of_ne _ _ different

/-- Replacing the live bytes leaves every codec. -/
theorem codecs_setLive (store : Store δ) (segment : Segment) (live : Bytes) (other : Segment) :
    ((store.setLive segment live).registrations.get other).map (·.codec) =
      (store.registrations.get other).map (·.codec) := by
  by_cases same : other = segment
  · subst same
    rw [get_setLive_self, Option.map_map]
    rfl
  · rw [get_setLive_of_ne store live same]

end Store

end NorStore
