/-
# Restoring reads the format

Restoring a segment is reading its range in the format on flash, and nothing else: the
outcome and the live bytes are those of the reference reading of the bytes of the range,
whatever these bytes are. Faults of the device can make a segment look empty or corrupt,
but they neither turn it into another payload nor change a cell.
-/

import NorStore.Proofs.Driver.Looking
import NorStore.Proofs.Driver.Reading
import NorStore.Proofs.Store.Settled

namespace NorStore

open NorStore.Flash (BlockDevice ChipView Geometry MemoryFlash NorDevice)

variable {δ ε : Type} [BlockDevice δ] [NorDevice δ]

namespace Store

variable {store : Store δ} {segment : Segment} {entry : MapEntry} {registration : Registration}

/-- The reading of a range with the settings of a store. -/
def reading (store : Store δ) (codec : Codec) (entry : MapEntry) : Except LossReason Bytes :=
  Image.read store.config.appSignature store.config.maxVersion codec (store.driver.contents entry)

/-- A segment whose range is not committed is recovered as nothing. -/
theorem reading_of_not_committed (codec : Codec)
    (uncommitted : ¬ Committed (store.driver.contents entry)) :
    store.reading codec entry = .error .noPersistence :=
  Image.read_of_not_committed uncommitted ..

/-- A range that carries a payload is read as that payload. -/
theorem reading_of_carries {codec : Codec} {payload live : Bytes}
    (carries : Carries store.config.appSignature codec.span payload (store.driver.contents entry))
    (short : payload.length < UInt32.size)
    (known : Header.currentVersion ≤ store.config.maxVersion)
    (accepted : codec.deserialize payload = .ok live) : store.reading codec entry = .ok live :=
  carries.read_eq short known accepted

/-- What a device that fails may report instead of what it holds. -/
def Unread (reason : LossReason) : Prop :=
  reason = .noPersistence ∨ ∃ detail, reason = .corruption detail

/-- What loading a segment comes to: the reading of its range has become its live bytes. -/
def Loaded (segment : Segment) (codec : Codec) (entry : MapEntry) (before after : Store δ) : Prop :=
  ∃ driver live, SegmentDriver.Remains before.driver driver ∧
    before.reading codec entry = .ok live ∧ after = (before.atop driver).setLive segment live

/-- What a segment that could not be loaded comes to: the reading of its range says why, or
the device fails. -/
def NotLoaded (codec : Codec) (entry : MapEntry) (reason : LossReason) (before after : Store δ) :
    Prop :=
  ∃ driver, SegmentDriver.Remains before.driver driver ∧
    (before.reading codec entry = .error reason ∨
      ¬ ChipView.Steady before.device ∧ Unread reason) ∧
    after = before.atop driver

variable {codec : Codec} {reason : LossReason} {driver : SegmentDriver δ} {after : Store δ}

theorem reading_atop (remains : SegmentDriver.Remains store.driver driver) (codec : Codec)
    (entry : MapEntry) : (store.atop driver).reading codec entry = store.reading codec entry := by
  rw [reading, driver_atop, remains.contents, config_atop, reading]

theorem Loaded.of_atop (loaded : Loaded segment codec entry (store.atop driver) after)
    (remains : SegmentDriver.Remains store.driver driver) :
    Loaded segment codec entry store after := by
  obtain ⟨reached, live, further, reads, rfl⟩ := loaded
  rw [reading_atop remains] at reads
  exact ⟨reached, live, remains.trans further, reads, rfl⟩

theorem NotLoaded.of_atop (missed : NotLoaded codec entry reason (store.atop driver) after)
    (remains : SegmentDriver.Remains store.driver driver) :
    NotLoaded codec entry reason store after := by
  obtain ⟨reached, further, told, rfl⟩ := missed
  rw [reading_atop remains] at told
  exact ⟨reached, remains.trans further,
    told.imp_right (And.imp_left fun unsteady steady => unsteady (remains.keeps.steady steady)), rfl⟩

/-- The part of loading that follows once a committed segment is open. -/
private theorem loadContent_ends (sound : store.driver.Sound)
    (mapped : store.driver.Mapped segment entry)
    (isCommitted : Committed (store.driver.contents entry)) (codec : Codec) :
    (do
      let { appSignature, maxVersion, .. } := (← get).config
      let payload ← onDriver (SegmentDriver.readContent { entry, mode := .read, position := 0 }
        appSignature maxVersion codec.span)
      match codec.deserialize payload with
      | .error cause => throw (.layoutChange cause)
      | .ok live =>
        modify fun store => store.setLive segment live
        return payload : Action (Store δ) LossReason Bytes).Ends store
      (fun _ => Loaded segment codec entry store)
      fun reason => NotLoaded codec entry reason store := by
  refine .get_bind (onDriver_bind_ends (SegmentDriver.readContent_ends sound mapped isCommitted)
    ?_ ?_)
  · rintro reason driver ⟨remains, told | ⟨unsteady, detail⟩⟩
    · refine ⟨driver, remains, .inl ?_, rfl⟩
      rw [reading, Image.read, told]
      rfl
    · exact ⟨driver, remains, .inr ⟨unsteady, .inr detail⟩, rfl⟩
  · intro payload driver ended
    obtain ⟨remains, holds⟩ := ended
    have reads : store.reading codec entry = Image.accept codec payload := by
      rw [reading, Image.read, holds]
      rfl
    cases accepted : codec.deserialize payload with
    | error cause =>
        refine .throw ⟨driver, remains, .inl ?_, rfl⟩
        rw [reads, Image.accept, accepted]
        rfl
    | ok live =>
        refine .of_value rfl ⟨driver, live, remains, ?_, rfl⟩
        rw [reads, Image.accept, accepted]
        rfl

/-- Loading a segment gives the reading of its range, unless the device fails. -/
theorem loadSegment_ends (sound : store.driver.Sound)
    (mapped : store.driver.Mapped segment entry)
    (registered : store.registrations.get segment = some registration) :
    (loadSegment segment).Ends store
      (fun _ => Loaded segment registration.codec entry store)
      fun reason => NotLoaded registration.codec entry reason store := by
  apply Action.Ends.get_bind
  rw [registered]
  refine onDriver_bind_ends (SegmentDriver.isInTransaction_ends sound mapped)
    (fun _ _ impossible => impossible.elim) ?_
  intro inTransaction first ended
  obtain ⟨remains, told⟩ := ended
  split
  · rename_i isOpen
    refine .throw ⟨first, remains, ?_, rfl⟩
    rcases told with told | ⟨-, unsteady⟩
    · rw [isOpen, Bool.true_eq, Bool.not_eq_true', decide_eq_false_iff_not] at told
      exact .inl (Image.read_of_not_committed told ..)
    · exact .inr ⟨unsteady, .inl rfl⟩
  · rename_i isClosed
    have isCommitted : Committed (store.driver.contents entry) := by
      rcases told with told | ⟨told, -⟩
      · rw [told, Bool.not_eq_true', decide_eq_false_iff_not] at isClosed
        exact Decidable.not_not.1 isClosed
      · exact absurd told isClosed
    have opened : ((onDriver (SegmentDriver.openForRead segment)).mapError
        fun _ => LossReason.noPersistence).Ends (store.atop first)
        (fun handle reached => ∃ driver, SegmentDriver.Remains store.driver driver ∧
          handle = { entry, mode := .read, position := 0 } ∧ reached = store.atop driver)
        fun reason => NotLoaded registration.codec entry reason store := by
      refine .mapError (onDriver_ends ((SegmentDriver.openForRead_ends
        (remains.toFollows.mapped mapped)).mono ?_ ?_))
      · intro _ second ended
        obtain ⟨further, rfl⟩ := ended
        exact ⟨second, remains.trans further, rfl, rfl⟩
      · intro cause second ended
        obtain ⟨further, unsteady⟩ := ended
        exact ⟨second, remains.trans further,
          .inr ⟨fun steady => unsteady (remains.keeps.steady steady), .inl rfl⟩, rfl⟩
    apply Action.Ends.bind opened
    intro _ _ ended
    obtain ⟨second, further, rfl, rfl⟩ := ended
    refine (loadContent_ends (further.toFollows.sound sound) (further.toFollows.mapped mapped) ?_
      registration.codec).mono ?_ ?_
    · rw [driver_atop, further.contents]
      exact isCommitted
    · intro _ reached loaded
      exact loaded.of_atop further
    · intro reason reached missed
      exact missed.of_atop further

/-! ## Restoring -/

/-- Restoring is loading, with a note of how it went. It always has an outcome. -/
theorem restore_ends (sound : store.driver.Sound) (mapped : store.driver.Mapped segment entry)
    (registered : store.registrations.get segment = some registration) :
    (restore segment : Action (Store δ) ε LoadOutcome).Ends store
      (fun outcome after =>
        (∃ bytes loaded, Loaded segment registration.codec entry store loaded ∧
          outcome = .restored ∧ after = loaded.noteRestored segment bytes) ∨
        ∃ reason missed, NotLoaded registration.codec entry reason store missed ∧
          outcome = .lost reason ∧ after = missed.noteLost segment reason)
      fun _ _ => False := by
  apply Action.Ends.attempt_bind (loadSegment_ends sound mapped registered)
  · intro payload loaded holds
    exact .of_value rfl (.inl ⟨payload.length, loaded, holds, rfl, rfl⟩)
  · intro reason missed holds
    exact .of_value rfl (.inr ⟨reason, missed, holds, rfl, rfl⟩)

/-- How restoring a segment ends that is given a range: with the reading of the range, or with
what a failing device reports instead. -/
theorem restore_of_asked {placed : SegmentDriver δ} (sound : store.driver.Sound)
    (registered : store.registrations.get segment = some registration)
    (asked : SegmentDriver.ensureMapped segment store.driver = (.value entry, placed)) :
    ∃ driver outcome after, (restore segment store : Outcome ε LoadOutcome × Store δ) =
        (.value outcome, after) ∧ SegmentDriver.Remains placed driver ∧
      ((∃ live bytes, store.reading registration.codec entry = .ok live ∧ outcome = .restored ∧
          after = ((store.atop driver).setLive segment live).noteRestored segment bytes) ∨
        ∃ reason, (store.reading registration.codec entry = .error reason ∨
            ¬ ChipView.Steady store.device ∧ Unread reason) ∧ outcome = .lost reason ∧
          after = (store.atop driver).noteLost segment reason) := by
  have device := SegmentDriver.device_of_ensureMapped asked
  have mapped : (store.atop placed).driver.Mapped segment entry :=
    SegmentDriver.mapped_of_ensureMapped asked
  have known : (store.atop placed).registrations.get segment = some registration := registered
  have reads : (store.atop placed).reading registration.codec entry =
      store.reading registration.codec entry := by
    rw [reading, driver_atop, SegmentDriver.contents_congr device, config_atop, reading]
  rw [restore_atop registered asked]
  obtain ⟨outcome, after, ends, came⟩ :=
    (restore_ends (ε := ε) (sound.of_ensureMapped asked) mapped known).exists_value
  rcases came with ⟨bytes, loaded, ⟨driver, live, remains, holds, rfl⟩, rfl, rfl⟩ |
    ⟨reason, missed, ⟨driver, remains, told, rfl⟩, rfl, rfl⟩
  · rw [reads] at holds
    exact ⟨driver, _, _, ends, remains, .inl ⟨live, bytes, holds, rfl, rfl⟩⟩
  · rw [reads, Store.device, driver_atop, device] at told
    exact ⟨driver, _, _, ends, remains, .inr ⟨reason, told, rfl, rfl⟩⟩

/-- How restoring a segment ends, whether or not it is registered and has a range. In any case
it has only looked at the flash. -/
theorem restore_cases (sound : store.driver.Sound) (segment : Segment) :
    ∃ driver, store.driver.Looks driver ∧
      ((∃ registration entry live bytes, store.registrations.get segment = some registration ∧
          driver.Mapped segment entry ∧ store.reading registration.codec entry = .ok live ∧
          (restore segment store : Outcome ε LoadOutcome × Store δ) =
            (.value .restored, ((store.atop driver).setLive segment live).noteRestored segment bytes)) ∨
        (∃ reason, (restore segment store : Outcome ε LoadOutcome × Store δ) =
          (.value (.lost reason), (store.atop driver).noteLost segment reason)) ∨
        (restore segment store : Outcome ε LoadOutcome × Store δ) = (.trap, store.atop driver)) := by
  cases registered : store.registrations.get segment with
  | none =>
      exact ⟨store.driver, .refl store.driver, .inr (.inl ⟨_, restore_of_unregistered registered⟩)⟩
  | some registration =>
      have looks := SegmentDriver.looks_ensureMapped segment store.driver
      rcases asked : SegmentDriver.ensureMapped segment store.driver with ⟨entry | cause | _, found⟩
      · rw [asked] at looks
        have mapped := SegmentDriver.mapped_of_ensureMapped asked
        obtain ⟨driver, _, _, ends, remains, ⟨live, bytes, reads, rfl, rfl⟩ |
          ⟨reason, -, rfl, rfl⟩⟩ := restore_of_asked (ε := ε) sound registered asked
        · exact ⟨driver, looks.trans remains.looks, .inl ⟨registration, entry, live, bytes, rfl,
            remains.toFollows.mapped mapped, reads, ends⟩⟩
        · exact ⟨driver, looks.trans remains.looks, .inr (.inl ⟨reason, ends⟩)⟩
      · rw [asked] at looks
        exact ⟨found, looks, .inr (.inl ⟨_, restore_of_unmapped registered asked⟩)⟩
      · rw [asked] at looks
        exact ⟨found, looks, .inr (.inr (restore_of_trap registered asked))⟩

/-- Restoring a segment only looks at the flash. -/
theorem restore_looks (sound : store.driver.Sound) (segment : Segment) :
    (restore segment : Action (Store δ) ε LoadOutcome).Reaches store fun after =>
      store.driver.Looks after.driver := by
  rw [Action.Reaches]
  obtain ⟨driver, looks, ⟨_, _, live, bytes, -, -, -, ends⟩ | ⟨reason, ends⟩ | ends⟩ :=
    restore_cases (ε := ε) sound segment
  · rw [ends]
    show store.driver.Looks ((store.atop driver).setLive segment live).driver
    rwa [driver_setLive]
  · rwa [ends]
  · rwa [ends]

/-- What is restored is the reading of the range that the segment then has. -/
theorem reading_of_restored (sound : store.driver.Sound)
    (restores : (restore segment store : Outcome ε LoadOutcome × Store δ) =
      (.value .restored, after)) :
    ∃ registration entry live, store.registrations.get segment = some registration ∧
      after.driver.Mapped segment entry ∧ store.reading registration.codec entry = .ok live ∧
      after.live? segment = some live := by
  obtain ⟨driver, -, ⟨registration, entry, live, bytes, registered, mapped, reads, ends⟩ |
    ⟨reason, ends⟩ | ends⟩ := restore_cases (ε := ε) sound segment
  · rw [restores] at ends
    cases ends
    have still : (store.atop driver).registrations.get segment = some registration := registered
    refine ⟨registration, entry, live, registered, ?_, reads, live?_setLive_self still live⟩
    show ((store.atop driver).setLive segment live).driver.Mapped segment entry
    rwa [driver_setLive]
  · rw [restores] at ends
    cases ends
  · rw [restores] at ends
    cases ends

/-- What restoring comes to for a segment that has its place: its live bytes have become the
reading of its range, or it is lost, because of what was read or because the device cannot be
used. Neither changes a cell. -/
def Tried (segment : Segment) (found : Except LossReason Bytes) (outcome : LoadOutcome)
    (before after : Store δ) : Prop :=
  ∃ driver, Moves before (before.atop driver) ∧
    ChipView.cells driver.device = ChipView.cells before.device ∧
    ((∃ bytes live, found = .ok live ∧ outcome = .restored ∧
        after = ((before.atop driver).setLive segment live).noteRestored segment bytes) ∨
      ∃ reason, (found = .error reason ∨ ¬ before.driver.Usable) ∧ outcome = .lost reason ∧
        after = (before.atop driver).noteLost segment reason)

/-- Restoring a segment always comes to that, whatever fails. -/
theorem restore_of_placed (settled : store.Settled) (placed : store.driver.Placed segment entry)
    (registered : store.registrations.get segment = some registration) :
    ∃ outcome after, (restore segment store : Outcome ε LoadOutcome × Store δ) =
        (.value outcome, after) ∧
      Tried segment (store.reading registration.codec entry) outcome store after := by
  have first := SegmentDriver.advances_ensureMapped settled.planned.sound segment entry
  have gives := (settled.planned.allotted placed).gives settled.planned.honest
  rcases asked : SegmentDriver.ensureMapped segment store.driver with ⟨answer, found⟩
  rw [SegmentDriver.Gives, asked] at gives
  rw [asked] at first
  rcases gives with rfl | ⟨⟨cause, rfl⟩, unusable⟩
  · have device := SegmentDriver.device_of_ensureMapped asked
    obtain ⟨driver, outcome, after, ends, remains, came⟩ :=
      restore_of_asked (ε := ε) settled.planned.sound registered asked
    have moves : Moves store (store.atop driver) :=
      .of_advances (first.trans remains.confined.advances) rfl rfl
    have kept : ChipView.cells driver.device = ChipView.cells store.device :=
      remains.cells.trans (congrArg ChipView.cells device)
    refine ⟨outcome, after, ends, driver, moves, kept, ?_⟩
    rcases came with ⟨live, bytes, reads, rfl, rfl⟩ | ⟨reason, told, rfl, rfl⟩
    · exact .inl ⟨bytes, live, reads, rfl, rfl⟩
    · exact .inr ⟨reason, told.imp_right fun unsteady usable => unsteady.1 usable.steady, rfl, rfl⟩
  · have device := SegmentDriver.device_ensureMapped segment store.driver
    rw [asked] at device
    exact ⟨_, _, restore_of_unmapped registered asked, found, .of_advances first rfl rfl,
      congrArg ChipView.cells device, .inr ⟨_, .inr unusable, rfl, rfl⟩⟩

/-- What restoring leaves of a store, and what it gives, for the reading of a range. -/
structure RestoredAs (segment : Segment) (found : Except LossReason Bytes) (before after : Store δ) :
    Prop where
  live : after.live? segment = (before.live? segment).map fun live => found.toOption.getD live
  others : ∀ other, other ≠ segment → after.live? other = before.live? other
  cells : ChipView.cells after.device = ChipView.cells before.device

/-- On a device on which nothing fails, restoring is reading the range. -/
theorem restore_of_healthy (sound : store.driver.Sound) (healthy : ChipView.Healthy store.device)
    (registered : store.registrations.get segment = some registration)
    (placed : (SegmentDriver.ensureMapped segment store.driver).1 = .value entry) :
    ∃ after, (restore segment store : Outcome ε LoadOutcome × Store δ) =
        (.value (Image.outcome (store.reading registration.codec entry)), after) ∧
      RestoredAs segment (store.reading registration.codec entry) store after := by
  obtain ⟨found, asked⟩ : ∃ found, SegmentDriver.ensureMapped segment store.driver =
      (.value entry, found) := ⟨_, Prod.ext placed rfl⟩
  have device := SegmentDriver.device_of_ensureMapped asked
  obtain ⟨driver, _, _, ends, remains, ⟨live, bytes, reads, rfl, rfl⟩ |
    ⟨reason, reads | ⟨unsteady, -⟩, rfl, rfl⟩⟩ :=
    restore_of_asked (ε := ε) sound registered asked
  · have still : (store.atop driver).registrations.get segment = some registration := registered
    rw [reads]
    refine ⟨_, ends, ?_, fun other different => ?_, ?_⟩
    · rw [live?_of_registered registered]
      exact live?_setLive_self still live
    · exact live?_setLive_of_ne (store.atop driver) live different
    · show ChipView.cells ((store.atop driver).setLive segment live).driver.device = _
      rw [driver_setLive, driver_atop, remains.cells, device]
      rfl
  · rw [reads]
    refine ⟨_, ends, ?_, fun other different => rfl, ?_⟩
    · show store.live? segment = _
      cases store.live? segment <;> rfl
    · show ChipView.cells driver.device = ChipView.cells store.driver.device
      rw [remains.cells, device]
  · exact absurd (NorDevice.steady_of_healthy healthy) unsteady

/-- Restoring a segment of blobs accepts exactly the format on flash, for every string of
bytes in its range: the outcome and the live bytes are those of the reading of the range
alone, and nothing else changes. -/
theorem restore_eq_readBlob {maxSize : Nat} {layout : Option Nat} {span : ChecksumSpan}
    {live : Bytes} (sound : store.driver.Sound) (healthy : ChipView.Healthy store.device)
    (registered : store.registrations.get segment =
      some { codec := .blob maxSize layout span, live })
    (placed : (SegmentDriver.ensureMapped segment store.driver).1 = .value entry) :
    ∃ after, (restore segment store : Outcome ε LoadOutcome × Store δ) =
        (.value (Image.outcome (Image.readBlob store.config.appSignature store.config.maxVersion
          span maxSize layout (store.driver.contents entry))), after) ∧
      after.live? segment = some ((Image.readBlob store.config.appSignature
        store.config.maxVersion span maxSize layout
        (store.driver.contents entry)).toOption.getD live) ∧
      (∀ other, other ≠ segment → after.live? other = store.live? other) ∧
      ChipView.cells after.device = ChipView.cells store.device := by
  obtain ⟨after, restores, came⟩ := restore_of_healthy (ε := ε) sound healthy registered placed
  have known := live?_of_registered registered
  have lives := came.live
  rw [known] at lives
  rw [Image.readBlob_eq]
  exact ⟨after, restores, lives, came.others, came.cells⟩

/-! ### A chip that holds a payload -/

/-- One block of 32 bytes. -/
def sampleGeometry : Geometry where
  regionOffset := 0
  regionSize := 32
  blockCount := 1
  blockSize := 32
  regionCount := 1

/-- A committed range with the payload `7, 9` of the application 5. -/
def sampleImage : Bytes :=
  [0x47, 0x44, 0x45, 0x4c, 0xa5, 0xa5, 0x5a, 0x5a,
    2, 0, 0, 0, 0x4c, 0x50, 0x53, 0x54, 5, 0, 0, 0, 1, 0, 18, 0,
    7, 9, 0xff, 0xff, 0xff, 0xff, 0xff, 0xff]

/-- The chip that holds it. -/
def sampleChip : MemoryFlash where
  geometry := sampleGeometry
  valid := (sampleGeometry.validate_eq_ok_iff).1 rfl
  cells := sampleImage.toArray
  size_cells := rfl
  eraseCounts := #[0]
  size_eraseCounts := rfl

/-- A store of the application that is started on the chip. -/
def sampleStore : Store MemoryFlash :=
  (Store.start sampleChip { appSignature := 5 } {}).register .uniqueId (.blob 2 none .full) [1]

theorem restore_eq_readBlob_sample :
    ∃ after, (restore .uniqueId sampleStore : Outcome StoreError LoadOutcome × Store MemoryFlash) =
        (.value .restored, after) ∧ after.live? .uniqueId = some [7, 9] ∧
      (∀ other, other ≠ .uniqueId → after.live? other = sampleStore.live? other) ∧
      ChipView.cells after.device = ChipView.cells sampleStore.device := by
  have sound : sampleStore.driver.Sound := ⟨trivial, fun _ known => nomatch known⟩
  have healthy : ChipView.Healthy sampleStore.device := trivial
  have registered : sampleStore.registrations.get .uniqueId =
      some { codec := .blob 2 none .full, live := [1] } := rfl
  have placed : (SegmentDriver.ensureMapped .uniqueId sampleStore.driver).1 =
      .value ⟨.uniqueId, 0, 32, 24⟩ := by rfl
  have reads : Image.readBlob sampleStore.config.appSignature sampleStore.config.maxVersion .full 2
      none (sampleStore.driver.contents ⟨.uniqueId, 0, 32, 24⟩) = .ok [7, 9] := by rfl
  have restores := restore_eq_readBlob (ε := StoreError) sound healthy registered placed
  rw [reads] at restores
  exact restores

end Store

end NorStore
