/-
# Clean segments

A segment that is clean is meant to be on flash as it is live. Whatever an application does
while it is up, this is so for every clean segment that has been stored, with one exception:
storing a clean segment once more can fail, and then the segment is still clean although its
range has been opened. The invariant `UpToDate` says what a clean segment can find in its
range. It looks at one segment, and neither at the others nor at what made their flags.
-/

import NorStore.Proofs.Store.Lifetime

namespace NorStore

open NorStore.Flash (BlockDevice Faulty MemoryFlash NorDevice Restartable Shareable)

/-- How an attempt to store the segment went, if the event tells of one. -/
def Event.attempt? (segment : Segment) : Event → Option Bool
  | stored tried => if tried = segment then some true else none
  | storeFailed tried _ => if tried = segment then some false else none
  | restored _ => none
  | lost _ _ => none

namespace Store

variable {δ ε : Type} {store after : Store δ} {segment tried : Segment}
  {registration : Registration} {entry : MapEntry} {driver : SegmentDriver δ}
  {appSignature : UInt32}

/-- How the attempts to store a segment went, in order. -/
def attempts (store : Store δ) (segment : Segment) : List Bool :=
  store.events.filterMap (Event.attempt? segment)

theorem isDirty_of_clean (isClean : store.segmentState segment = .clean) :
    store.isDirty segment = false := by
  rw [segmentState] at isClean
  split at isClean
  · split at isClean <;> contradiction
  · rename_i unmarked
    exact Bool.eq_false_iff.2 unmarked

theorem attempts_noteStored (store : Store δ) (bytes : Nat) :
    (store.noteStored tried bytes).attempts segment =
      store.attempts segment ++ if tried = segment then [true] else [] := by
  rw [attempts, noteStored, List.filterMap_append]
  by_cases same : tried = segment <;> simp [attempts, Event.attempt?, same]

theorem attempts_noteStoreFailed (store : Store δ) (cause : StoreError) :
    (store.noteStoreFailed tried cause).attempts segment =
      store.attempts segment ++ if tried = segment then [false] else [] := by
  rw [attempts, noteStoreFailed, List.filterMap_append]
  by_cases same : tried = segment <;> simp [attempts, Event.attempt?, same]

theorem attempts_setLive (store : Store δ) (live : Bytes) :
    (store.setLive tried live).attempts segment = store.attempts segment := by
  rw [setLive]
  split <;> rfl

theorem isDirty_setLive (store : Store δ) (live : Bytes) :
    (store.setLive tried live).isDirty segment = store.isDirty segment := by
  rw [setLive]
  split <;> rfl

variable [BlockDevice δ] [NorDevice δ]

/-- What the range of a clean segment may be, if the segment was stored before: its live bytes,
or nothing that is committed, if the last attempt has failed. -/
structure Reflects (segment : Segment) (registration : Registration) (entry : MapEntry)
    (store : Store δ) : Prop where
  registered : store.registrations.get segment = some registration
  placed : store.driver.Placed segment entry
  bears : Committed (store.driver.contents entry) →
    Bears store.config.appSignature registration.codec registration.live
      (store.driver.contents entry)
  isCommitted : (store.attempts segment).getLast? = some true →
    Committed (store.driver.contents entry)

/-- A segment of blobs in a settled store is on flash as it is live, if it is clean and was
stored before. -/
structure UpToDate (appSignature : UInt32) (segment : Segment) (store : Store δ) : Prop where
  settled : store.Settled
  signed : store.config.appSignature = appSignature
  known : Header.currentVersion ≤ store.config.maxVersion
  plain : ∀ registration, store.registrations.get segment = some registration →
    ∃ maxSize span, registration.codec = .blob maxSize none span ∧ maxSize < UInt32.size
  reflects : store.isDirty segment = false → true ∈ store.attempts segment →
    ∃ registration entry, Reflects segment registration entry store

/-- A range that a boot finds committed is read as the live bytes. -/
theorem Reflects.read_eq {maxVersion : UInt16}
    (reflects : Reflects segment registration entry store)
    (upToDate : UpToDate appSignature segment store)
    (isCommitted : Committed (store.driver.contents entry))
    (version : Header.currentVersion ≤ maxVersion) :
    Image.read store.config.appSignature maxVersion registration.codec
      (store.driver.contents entry) = .ok registration.live := by
  obtain ⟨maxSize, span, blob, small⟩ := upToDate.plain registration reflects.registered
  have bears := reflects.bears isCommitted
  have fits := bears.fits
  rw [blob] at fits
  apply bears.carries.read_eq (Nat.lt_of_le_of_lt fits small) version
  rw [blob]
  exact deserialize_blob_of_fits fits

namespace UpToDate

/-- What leaves the segment and its range alone leaves it up to date. -/
theorem of_others (upToDate : UpToDate appSignature segment store) (settled : after.Settled)
    (registered : after.registrations.get segment = store.registrations.get segment)
    (config : after.config = store.config)
    (isClean : after.isDirty segment = false → store.isDirty segment = false)
    (attempts : after.attempts segment = store.attempts segment)
    (same : ∀ entry, store.driver.Placed segment entry → after.driver.Placed segment entry ∧
      after.driver.contents entry = store.driver.contents entry) :
    UpToDate appSignature segment after where
  settled := settled
  signed := config ▸ upToDate.signed
  known := config ▸ upToDate.known
  plain := registered ▸ upToDate.plain
  reflects := by
    rw [attempts]
    intro stillClean wasStored
    obtain ⟨registration, entry, reflects⟩ := upToDate.reflects (isClean stillClean) wasStored
    obtain ⟨placed, contents⟩ := same entry reflects.placed
    refine ⟨registration, entry, registered.trans reflects.registered, placed, ?_, ?_⟩
    · rw [contents, config]
      exact reflects.bears
    · rw [contents, attempts]
      exact reflects.isCommitted

/-- Moving on without a change in the range of the segment. -/
theorem of_moves (upToDate : UpToDate appSignature segment store) (moves : Moves store after)
    (isClean : after.isDirty segment = false → store.isDirty segment = false)
    (attempts : after.attempts segment = store.attempts segment)
    (same : ∀ entry, store.driver.Placed segment entry →
      after.driver.contents entry = store.driver.contents entry) :
    UpToDate appSignature segment after :=
  upToDate.of_others (moves.settled upToDate.settled) (congrArg (·.get segment) moves.registrations)
    moves.config isClean attempts fun entry placed => ⟨moves.placed placed, same entry placed⟩

/-- What is noted of the segments is not on flash. -/
theorem of_notes (upToDate : UpToDate appSignature segment store)
    (driver : after.driver = store.driver)
    (registrations : after.registrations = store.registrations)
    (config : after.config = store.config)
    (isClean : after.isDirty segment = false → store.isDirty segment = false)
    (attempts : after.attempts segment = store.attempts segment) :
    UpToDate appSignature segment after :=
  upToDate.of_moves (.of_driver driver registrations config) isClean attempts fun _ _ => by
    rw [driver]

/-! ## Storing -/

/-- An attempt that failed has kept the range, or was one to store the segment and has left
the range uncommitted. -/
theorem of_missed (upToDate : UpToDate appSignature segment store)
    (moves : Moves store (store.atop driver))
    (kept : ∀ entry, store.driver.Placed segment entry →
      driver.contents entry = store.driver.contents entry ∨
        tried = segment ∧ ¬ Committed (driver.contents entry))
    (cause : StoreError) :
    UpToDate appSignature segment ((store.atop driver).noteStoreFailed tried cause) where
  settled := (moves.settled upToDate.settled).of_codecs rfl fun _ => rfl
  signed := upToDate.signed
  known := upToDate.known
  plain := upToDate.plain
  reflects isClean wasStored := by
    rw [attempts_noteStoreFailed, List.mem_append] at wasStored
    have before : true ∈ store.attempts segment := by
      rcases wasStored with before | impossible
      · exact before
      · split at impossible <;> simp at impossible
    obtain ⟨registration, entry, reflects⟩ := upToDate.reflects isClean before
    refine ⟨registration, entry, reflects.registered, moves.placed reflects.placed, ?_, ?_⟩
    · rcases kept entry reflects.placed with same | ⟨-, uncommitted⟩
      · show Committed (driver.contents entry) → Bears _ _ _ (driver.contents entry)
        rw [same]
        exact reflects.bears
      · exact fun isCommitted => absurd isCommitted uncommitted
    · rw [attempts_noteStoreFailed]
      by_cases mine : tried = segment
      · simp [mine]
      · rw [if_neg mine, List.append_nil]
        rcases kept entry reflects.placed with same | ⟨is, -⟩
        · show _ → Committed (driver.contents entry)
          rw [same]
          exact reflects.isCommitted
        · exact absurd is mine

/-- A segment that was stored carries its live bytes. -/
theorem of_written {payload : Bytes} (upToDate : UpToDate appSignature segment store)
    (placed : store.driver.Placed segment entry)
    (registered : store.registrations.get segment = some registration)
    (written : Written store entry registration payload driver) (bytes : Nat) :
    UpToDate appSignature segment ((store.atop driver).noteStored segment bytes) where
  settled := (upToDate.settled.atop written.advances).of_codecs rfl fun _ => rfl
  signed := upToDate.signed
  known := upToDate.known
  plain := upToDate.plain
  reflects _ _ := by
    obtain ⟨maxSize, span, blob, -⟩ := upToDate.plain registration registered
    have whole : payload = registration.live := by
      have serialized := written.serialized
      rw [blob] at serialized
      exact (Except.ok.inj serialized).symm
    subst whole
    exact ⟨registration, entry, registered, written.advances.placed placed,
      fun _ => ⟨written.fits, written.carries⟩, fun _ => written.carries.isCommitted⟩

/-- Trying to store a segment, whichever, keeps every segment up to date. -/
theorem storeSegment (upToDate : UpToDate appSignature segment store) (tried : Segment) :
    (Store.storeSegment tried).Reaches store (UpToDate appSignature segment) := by
  rw [Action.Reaches]
  cases registered : store.registrations.get tried with
  | none =>
      rw [storeSegment_of_unregistered registered]
      exact upToDate.of_missed (.refl store) (fun _ _ => .inl rfl) _
  | some registration =>
      have first := SegmentDriver.advances_ensureMapped upToDate.settled.planned.sound tried
        ⟨tried, 0, 0, 0⟩
      have device := SegmentDriver.device_ensureMapped tried store.driver
      rcases asked : SegmentDriver.ensureMapped tried store.driver with ⟨entry | cause | _, found⟩
      · have placed := upToDate.settled.planned.placed_of_asked asked
        rcases (upToDate.settled.storeSegment_ends placed registered).cases with
          ⟨_, after, stores, driver, payload, written, rfl⟩ |
          ⟨cause, after, fails, driver, missed, rfl⟩
        · rw [stores]
          by_cases mine : tried = segment
          · subst mine
            exact upToDate.of_written placed registered written _
          · refine upToDate.of_moves (.of_advances written.advances rfl rfl) ?_ ?_ ?_
            · intro isClean
              exact (Segment.Table.get_set_of_ne _ _ (Ne.symm mine)).symm.trans isClean
            · rw [attempts_noteStored, if_neg mine, List.append_nil]
              rfl
            · exact fun range also => written.advances.contents_of_ne placed also (Ne.symm mine)
        · rw [fails]
          refine upToDate.of_missed (.of_advances missed.advances rfl rfl) (fun range also => ?_) _
          by_cases mine : tried = segment
          · subst mine
            rw [placed.unique also]
            exact missed.kept.imp (fun same => missed.advances.contents_of_cells same entry)
              fun uncommitted => ⟨rfl, uncommitted⟩
          · exact .inl (missed.advances.contents_of_ne placed also (Ne.symm mine))
      · rw [asked] at first device
        rw [storeSegment_of_unmapped registered asked]
        exact upToDate.of_missed (.of_advances first rfl rfl)
          (fun range _ => .inl (SegmentDriver.contents_congr device range)) _
      · rw [asked] at first device
        rw [storeSegment_of_no_range registered asked]
        exact upToDate.of_moves (.of_advances first rfl rfl) id rfl
          fun range _ => SegmentDriver.contents_congr device range

theorem advanceClock (upToDate : UpToDate appSignature segment store) (millis : Nat) :
    UpToDate appSignature segment (store.advanceClock millis) :=
  upToDate.of_notes rfl rfl rfl id rfl

theorem storeDirty (upToDate : UpToDate appSignature segment store) (listed : List Segment)
    (report : CommitReport) :
    (Store.storeDirty listed report : Action (Store δ) ε CommitReport).Reaches store
      (UpToDate appSignature segment) := by
  induction listed generalizing store report with
  | nil => exact .pure upToDate
  | cons tried rest ih =>
      refine .get_bind ?_
      split
      · refine .bind (.attempt (upToDate.storeSegment tried)) fun result reached _ told => ?_
        cases result with
        | ok _ => exact ih (told.advanceClock _) _
        | error cause => exact ih told _
      · exact ih upToDate report

theorem commitCheck (upToDate : UpToDate appSignature segment store) :
    (Store.commitCheck : Action (Store δ) ε CommitReport).Reaches store
      (UpToDate appSignature segment) := by
  refine .get_bind ?_
  split
  · have begun : UpToDate appSignature segment store.begun :=
      upToDate.of_notes rfl rfl rfl id rfl
    have passes := begun.storeDirty (ε := ε) Segment.all { performed := true }
    refine Action.Reaches.value_bind rfl (.bind passes fun report last _ told => ?_)
    exact told.of_notes rfl rfl rfl id rfl
  · exact .pure upToDate

/-! ## Other live bytes -/

/-- Other live bytes make no difference to a segment that is not clean or was never stored, and
the same live bytes make none at all. -/
theorem setLive {live : Bytes} (upToDate : UpToDate appSignature segment store)
    (same : tried = segment → store.isDirty segment = false → true ∈ store.attempts segment →
      store.live? segment = some live) :
    UpToDate appSignature segment (store.setLive tried live) := by
  have settled := upToDate.settled.of_codecs (driver_setLive store tried live)
    (codecs_setLive store tried live)
  by_cases mine : segment = tried
  · subst mine
    refine ⟨settled, ?_, ?_, fun registration registered => ?_, ?_⟩
    · rw [config_setLive]
      exact upToDate.signed
    · rw [config_setLive]
      exact upToDate.known
    · rw [get_setLive_self, Option.map_eq_some_iff] at registered
      obtain ⟨before, found, rfl⟩ := registered
      exact upToDate.plain before found
    · rw [isDirty_setLive, attempts_setLive]
      intro isClean wasStored
      obtain ⟨registration, entry, reflects⟩ := upToDate.reflects isClean wasStored
      have again := same rfl isClean wasStored
      rw [live?_of_registered reflects.registered] at again
      cases again
      refine ⟨registration, entry, ?_, ?_, ?_, ?_⟩
      · rw [get_setLive_self, reflects.registered]
        rfl
      · rw [driver_setLive]
        exact reflects.placed
      · rw [driver_setLive, config_setLive]
        exact reflects.bears
      · rw [driver_setLive, attempts_setLive]
        exact reflects.isCommitted
  · refine upToDate.of_others settled (get_setLive_of_ne store live mine) (config_setLive ..) ?_
      (attempts_setLive ..) fun entry placed => ?_
    · rw [isDirty_setLive]
      exact id
    · rw [driver_setLive]
      exact ⟨placed, rfl⟩

theorem markDirty (upToDate : UpToDate appSignature segment store) (tried : Segment) :
    UpToDate appSignature segment (store.markDirty tried) := by
  refine upToDate.of_notes rfl rfl rfl ?_ rfl
  show (store.dirty.set tried true).get segment = false → store.dirty.get segment = false
  by_cases mine : segment = tried
  · subst mine
    simp
  · rw [Segment.Table.get_set_of_ne _ _ mine]
    exact id

/-- A change of the live bytes that is marked. -/
theorem update (upToDate : UpToDate appSignature segment store) (tried : Segment) (live : Bytes) :
    UpToDate appSignature segment ((store.setLive tried live).markDirty tried) := by
  have swap : (store.setLive tried live).markDirty tried =
      (store.markDirty tried).setLive tried live := by
    rw [Store.setLive, Store.setLive, show (store.markDirty tried).registrations =
      store.registrations from rfl]
    split <;> rfl
  rw [swap]
  refine (upToDate.markDirty tried).setLive fun mine isClean => ?_
  subst mine
  rw [isDirty, Store.markDirty, Segment.Table.get_set_self] at isClean
  contradiction

/-! ## Restoring and erasing -/

/-- What is restored of a segment that is up to date is what it has. -/
theorem live_of_reading {live : Bytes} (upToDate : UpToDate appSignature segment store)
    (placed : store.driver.Placed segment entry)
    (registered : store.registrations.get segment = some registration)
    (reads : store.reading registration.codec entry = .ok live)
    (isClean : store.isDirty segment = false) (wasStored : true ∈ store.attempts segment) :
    store.live? segment = some live := by
  obtain ⟨found, range, reflects⟩ := upToDate.reflects isClean wasStored
  have same := reflects.registered
  rw [registered] at same
  cases same
  rw [reflects.placed.unique placed] at reads
  have isCommitted := Image.committed_of_read reads
  rw [reading, reflects.read_eq upToDate isCommitted upToDate.known] at reads
  cases reads
  exact live?_of_registered registered

theorem noteLost (upToDate : UpToDate appSignature segment store) (tried : Segment)
    (reason : LossReason) :
    UpToDate appSignature segment (store.noteLost tried reason) := by
  refine upToDate.of_notes rfl rfl rfl id ?_
  rw [attempts, Store.noteLost, List.filterMap_append]
  exact List.append_nil _

theorem noteRestored (upToDate : UpToDate appSignature segment store) (tried : Segment)
    (bytes : Nat) :
    UpToDate appSignature segment (store.noteRestored tried bytes) := by
  refine upToDate.of_notes rfl rfl rfl id ?_
  rw [attempts, Store.noteRestored, List.filterMap_append]
  exact List.append_nil _

theorem restore (upToDate : UpToDate appSignature segment store) (tried : Segment) :
    (Store.restore tried : Action (Store δ) ε LoadOutcome).Reaches store
      (UpToDate appSignature segment) := by
  rw [Action.Reaches]
  cases registered : store.registrations.get tried with
  | none =>
      rw [restore_of_unregistered registered]
      exact upToDate.noteLost tried _
  | some registration =>
      have first := SegmentDriver.advances_ensureMapped upToDate.settled.planned.sound tried
        ⟨tried, 0, 0, 0⟩
      have device := SegmentDriver.device_ensureMapped tried store.driver
      have asks : UpToDate appSignature segment
          (store.atop (SegmentDriver.ensureMapped tried store.driver).2) :=
        upToDate.of_moves (.of_advances first rfl rfl) id rfl
          fun range _ => SegmentDriver.contents_congr device range
      rcases asked : SegmentDriver.ensureMapped tried store.driver with ⟨entry | cause | _, found⟩
      · have placed := upToDate.settled.planned.placed_of_asked asked
        obtain ⟨outcome, after, restores, driver, moves, same, came⟩ :=
          restore_of_placed (ε := ε) upToDate.settled placed registered
        have reached : UpToDate appSignature segment (store.atop driver) :=
          upToDate.of_moves moves id rfl fun range _ => moves.contents_of_cells same range
        rw [restores]
        rcases came with ⟨bytes, live, reads, -, rfl⟩ | ⟨reason, -, -, rfl⟩
        · refine UpToDate.noteRestored (reached.setLive ?_) tried bytes
          intro mine isClean wasStored
          subst mine
          exact upToDate.live_of_reading placed registered reads isClean wasStored
        · exact reached.noteLost tried reason
      · rw [asked] at asks
        rw [restore_of_unmapped registered asked]
        exact asks.noteLost tried _
      · rw [asked] at asks
        rw [restore_of_trap registered asked]
        exact asks

/-- Erasing another segment. -/
theorem eraseSegment (upToDate : UpToDate appSignature segment store)
    (different : segment ≠ tried) :
    (Store.eraseSegment tried).Reaches store (UpToDate appSignature segment) := by
  rw [Action.Reaches]
  rcases eraseSegment_cases upToDate.settled tried with
    ⟨entry, driver, placed, advances, -, erases⟩ | ⟨outcome, driver, -, moves, same, ends⟩
  · rw [erases]
    refine upToDate.of_moves (.of_advances advances rfl rfl) (fun isClean => ?_) rfl ?_
    · exact (Segment.Table.get_set_of_ne _ _ different).symm.trans isClean
    · exact fun range also => advances.contents_of_ne placed also different
  · rw [ends]
    exact upToDate.of_moves moves id rfl fun range _ => moves.contents_of_cells same range

/-- A segment that is clean and was stored is recovered by a reboot with its live bytes, or it
is lost and the last attempt to store it has failed. -/
theorem recovered [Shareable δ] [Restartable δ] (upToDate : UpToDate appSignature segment store)
    (isClean : store.isDirty segment = false) (wasStored : true ∈ store.attempts segment)
    {config : Config} (signed : config.appSignature = appSignature)
    (version : Header.currentVersion ≤ config.maxVersion) (defaults : Segment → Bytes) :
    ∃ live after, store.live? segment = some live ∧
      (((Store.restore segment (store.revive config defaults) : Outcome ε LoadOutcome × Store δ) =
          (.value .restored, after) ∧ after.live? segment = some live) ∨
        (store.attempts segment).getLast? = some false ∧
        (Store.restore segment (store.revive config defaults) : Outcome ε LoadOutcome × Store δ) =
          (.value (.lost .noPersistence), after) ∧
        after.live? segment = some (defaults segment)) := by
  obtain ⟨registration, entry, reflects⟩ := upToDate.reflects isClean wasStored
  obtain ⟨after, restores, lives⟩ := restore_revive (ε := ε)
    (upToDate.settled.home_iff.2 reflects.placed) reflects.registered config defaults
  refine ⟨registration.live, after, live?_of_registered reflects.registered, ?_⟩
  rw [signed, ← upToDate.signed] at restores lives
  by_cases isCommitted : Committed (store.driver.contents entry)
  · rw [reflects.read_eq upToDate isCommitted version] at restores lives
    exact .inl ⟨restores, lives⟩
  · rw [Image.read_of_not_committed isCommitted] at restores lives
    refine .inr ⟨?_, restores, lives⟩
    have isSome : (store.attempts segment).getLast?.isSome := by
      cases tries : store.attempts segment with
      | nil => simp [tries] at wasStored
      | cons first rest => simp
    obtain ⟨last, isLast⟩ := Option.isSome_iff_exists.1 isSome
    cases last with
    | false => exact isLast
    | true => exact absurd (reflects.isCommitted isLast) isCommitted

end UpToDate

end Store

/-! ## While an application is up -/

/-- What an application does while it is up. It marks what it changes. -/
inductive Routine where
  | update (segment : Segment) (live : Bytes)
  | advanceClock (millis : Nat)
  | forceCommit
  | commitCheck
  | store (segment : Segment)
  | restore (segment : Segment)
  | erase (segment : Segment)
  | fault (fault : Fault)
deriving DecidableEq, Repr

/-- What that means for the chip. -/
def Routine.moves (application : Application) : Routine → List (Move application)
  | update segment live => [.setLive segment live, .markDirty segment]
  | advanceClock millis => [.advanceClock millis]
  | forceCommit => [.forceCommit]
  | commitCheck => [.commitCheck]
  | store segment => [.store segment]
  | restore segment => [.restore segment]
  | erase segment => [.erase segment]
  | fault change => [.fault change]

namespace Life

variable {application : Application} {life : Life} {segment : Segment}

theorem store_step_commitCheck (life : Life) :
    (life.step (.commitCheck : Move application)).store =
      (Store.commitCheck life.store : Outcome StoreError CommitReport × _).2 := by
  rw [step]
  rcases (Store.commitCheck life.store : Outcome StoreError CommitReport × _) with
    ⟨_ | _ | _, after⟩ <;> rfl

theorem store_step_store (life : Life) (segment : Segment) :
    (life.step (.store segment : Move application)).store =
      (Store.storeSegment segment life.store).2 := by
  rw [step]
  rcases Store.storeSegment segment life.store with ⟨_ | _ | _, after⟩ <;> rfl

theorem store_step_erase (life : Life) (segment : Segment) :
    (life.step (.erase segment : Move application)).store =
      (Store.eraseSegment segment life.store).2 := by
  rw [step]
  rcases Store.eraseSegment segment life.store with ⟨_ | _ | _, after⟩ <;> rfl

/-- The store of an application that was started on a chip and has done some things since. -/
def afterRoutines (chip : MemoryFlash) (settings : Settings application) (clock : Clock)
    (defaults : Segment → Bytes) (routines : List Routine) : Store (Faulty MemoryFlash) :=
  ((start application chip settings clock defaults).run
    (routines.flatMap (Routine.moves application))).store

/-- A segment that is registered at the first boot is up to date, as it was not stored yet. -/
theorem upToDate_start (application : Application) (chip : MemoryFlash)
    (settings : Settings application) (clock : Clock) (defaults : Segment → Bytes)
    (segment : Segment) :
    Store.UpToDate application.appSignature segment
      (start application chip settings clock defaults).store where
  settled := Store.settled_boot _ _ _ _ _ trivial
  signed := by
    rw [start, Store.config_boot]
    exact settings.signed
  known := by
    rw [start, Store.config_boot]
    exact settings.known
  plain registration registered := by
    rw [start, Store.registrations_boot, Option.map_eq_some_iff] at registered
    obtain ⟨original, found, rfl⟩ := registered
    exact application.blobs segment original found
  reflects _ wasStored := by
    rw [start, Store.attempts, Store.events_boot] at wasStored
    exact absurd wasStored List.not_mem_nil

/-- Whatever an application does, short of erasing a segment, keeps the segment up to date. -/
theorem upToDate_routine
    (upToDate : Store.UpToDate application.appSignature segment life.store) {routine : Routine}
    (keeps : routine ≠ .erase segment) :
    Store.UpToDate application.appSignature segment
      (life.run (routine.moves application)).store := by
  cases routine with
  | update other live => exact upToDate.update other live
  | advanceClock millis => exact upToDate.advanceClock millis
  | forceCommit =>
      show Store.UpToDate application.appSignature segment
        (Store.forceCommit life.store : Outcome StoreError Bool × _).2
      rw [Store.forceCommit_eq]
      exact upToDate.of_notes rfl rfl rfl id rfl
  | commitCheck =>
      show Store.UpToDate application.appSignature segment
        (life.step (.commitCheck : Move application)).store
      rw [store_step_commitCheck]
      exact upToDate.commitCheck
  | store other =>
      show Store.UpToDate application.appSignature segment
        (life.step (.store other : Move application)).store
      rw [store_step_store]
      exact upToDate.storeSegment other
  | restore other => exact upToDate.restore (ε := StoreError) other
  | erase other =>
      show Store.UpToDate application.appSignature segment
        (life.step (.erase other : Move application)).store
      rw [store_step_erase]
      refine upToDate.eraseSegment fun same => keeps ?_
      rw [same]
  | fault change =>
      have settled : (life.step (.fault change : Move application)).store.Settled :=
        ⟨⟨upToDate.settled.planned.honest, upToDate.settled.planned.planned⟩,
          upToDate.settled.capacities⟩
      exact upToDate.of_others settled rfl rfl id rfl fun entry placed => ⟨placed, rfl⟩

/-- And so does all that it does until power is cut. -/
theorem upToDate_routines
    (upToDate : Store.UpToDate application.appSignature segment life.store)
    {routines : List Routine}
    (unerased : .erase segment ∉ routines) :
    Store.UpToDate application.appSignature segment
      (life.run (routines.flatMap (Routine.moves application))).store := by
  induction routines generalizing life with
  | nil => exact upToDate
  | cons routine rest ih =>
      rw [List.mem_cons, not_or] at unerased
      rw [List.flatMap_cons, run, List.foldl_append]
      exact ih (upToDate_routine upToDate (Ne.symm unerased.1)) unerased.2

/-- Whatever an application has done since it was started, a clean segment that was stored and
not erased is recovered by a reboot with its live bytes, unless the last attempt to store it has
failed. It is then recovered with them, or it is lost. -/
theorem restore_of_clean {ε : Type} (chip : MemoryFlash) (settings : Settings application)
    (clock : Clock) (defaults : Segment → Bytes) (routines : List Routine) (segment : Segment)
    (unerased : .erase segment ∉ routines) :
    let store := afterRoutines chip settings clock defaults routines
    store.segmentState segment = .clean → true ∈ store.attempts segment →
      ∀ (later : Settings application) (fresh : Segment → Bytes), ∃ live after,
        store.live? segment = some live ∧
        (((Store.restore segment (store.revive later.config fresh) :
              Outcome ε LoadOutcome × Store (Faulty MemoryFlash)) = (.value .restored, after) ∧
            after.live? segment = some live) ∨
          (store.attempts segment).getLast? = some false ∧
          (Store.restore segment (store.revive later.config fresh) :
              Outcome ε LoadOutcome × Store (Faulty MemoryFlash)) =
            (.value (.lost .noPersistence), after) ∧
          after.live? segment = some (fresh segment)) := by
  intro store isClean wasStored later fresh
  have upToDate : Store.UpToDate application.appSignature segment store :=
    upToDate_routines (upToDate_start application chip settings clock defaults segment) unerased
  exact upToDate.recovered (Store.isDirty_of_clean isClean) wasStored later.signed later.known fresh

/-! ### A clean segment that is stored again -/

/-- A payload is stored, and then the segment is stored again, which fails. -/
def failingAgain : List Routine :=
  [.update .uniqueId [7, 9], .store .uniqueId, .fault (.failErase true), .store .uniqueId]

/-- The second attempt leaves the segment clean, and nothing of it on flash. -/
theorem lost_of_clean :
    let store := afterRoutines blankSampleChip sampleSettings {} (fun _ => []) failingAgain
    .erase .uniqueId ∉ failingAgain ∧ store.segmentState .uniqueId = .clean ∧
      true ∈ store.attempts .uniqueId ∧ store.live? .uniqueId = some [7, 9] ∧
      (Store.restore .uniqueId (store.revive sampleSettings.config fun _ => []) :
        Outcome StoreError LoadOutcome × Store (Faulty MemoryFlash)).1 =
          .value (.lost .noPersistence) := by
  decide +kernel

/-- A third attempt, with a device that works. -/
def storingAgain : List Routine := failingAgain ++ [.fault .reset, .store .uniqueId]

theorem restore_of_clean_sample :
    ∃ after, (Store.restore .uniqueId ((afterRoutines blankSampleChip sampleSettings {} (fun _ => [])
        storingAgain).revive sampleSettings.config fun _ => []) :
          Outcome StoreError LoadOutcome × Store (Faulty MemoryFlash)) = (.value .restored, after) ∧
      after.live? .uniqueId = some [7, 9] := by
  have isClean : (afterRoutines blankSampleChip sampleSettings {} (fun _ => [])
      storingAgain).segmentState .uniqueId = .clean := by decide +kernel
  have tries : (afterRoutines blankSampleChip sampleSettings {} (fun _ => [])
      storingAgain).attempts .uniqueId = [true, false, true] := by decide +kernel
  have wasStored : true ∈ (afterRoutines blankSampleChip sampleSettings {} (fun _ => [])
      storingAgain).attempts .uniqueId := by
    rw [tries]
    decide
  have lives : (afterRoutines blankSampleChip sampleSettings {} (fun _ => [])
      storingAgain).live? .uniqueId = some [7, 9] := by decide +kernel
  obtain ⟨live, after, same, recovers⟩ := restore_of_clean (ε := StoreError) blankSampleChip
    sampleSettings {} (fun _ => []) storingAgain .uniqueId (by decide) isClean wasStored sampleSettings
    fun _ => []
  cases lives.symm.trans same
  rcases recovers with restores | ⟨failed, -⟩
  · exact ⟨after, restores⟩
  · have last := (congrArg List.getLast? tries).symm.trans failed
    exact absurd last (by decide)

end Life

end NorStore
