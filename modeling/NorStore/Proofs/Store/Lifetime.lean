/-
# The life of a chip

An application runs on a chip for many boots, and anything can happen in any order: its
live bytes change, segments are stored, committed, restored and erased, faults come and
go, and power returns. Beside the store we keep the past of each segment, which only hears
what the calls report. The invariant `Faithful` says that the past explains what is on the
chip; every move keeps it, and so does every run. It follows that what is restored is what
was stored last, and that what was stored last can be restored.
-/

import NorStore.Proofs.Store.Erasing
import NorStore.Proofs.Store.Interruption
import NorStore.Proofs.Store.Past

namespace NorStore

open NorStore.Flash (Faulty Geometry MemoryFlash)
open NorStore.Flash.ChipView (cells)

/-- An application whose segments hold blobs without an exact layout, and which always has
the same signature. -/
structure Application where
  appSignature : UInt32
  registrations : Segment.Table (Option Registration)
  blobs : ∀ segment registration, registrations.get segment = some registration →
    ∃ maxSize span, registration.codec = .blob maxSize none span ∧ maxSize < UInt32.size

/-- The settings of one boot of an application. -/
structure Settings (application : Application) where
  config : Config
  signed : config.appSignature = application.appSignature
  known : 1 ≤ config.maxVersion

/-- What can happen next. -/
inductive Move (application : Application) where
  | setLive (segment : Segment) (live : Bytes)
  | markDirty (segment : Segment)
  | advanceClock (millis : Nat)
  | forceCommit
  | commitCheck
  | store (segment : Segment)
  | restore (segment : Segment)
  | erase (segment : Segment)
  | fault (fault : Fault)
  | reboot (settings : Settings application) (defaults : Segment → Bytes)

/-- A store, and the past of each of its segments. -/
structure Life where
  store : Store (Faulty MemoryFlash)
  past : Segment → Past

namespace Life

/-- A first boot on a chip, without faults. -/
def start (application : Application) (chip : MemoryFlash) (settings : Settings application)
    (clock : Clock) (defaults : Segment → Bytes) : Life where
  store := Store.boot { device := chip } settings.config clock application.registrations defaults
  past _ := .nothing

/-- The life after attempts to store some segments, of which some have failed. The payload
of a segment that was stored is the live bytes that it had. -/
def learn (life : Life) (stored failed : List Segment) (after : Store (Faulty MemoryFlash)) :
    Life where
  store := after
  past segment :=
    if segment ∈ stored then (life.store.live? segment).elim (life.past segment) .stored
    else if segment ∈ failed then (life.past segment).failed
    else life.past segment

/-- The life after a segment has been erased. -/
def forget (life : Life) (segment : Segment) (after : Store (Faulty MemoryFlash)) : Life where
  store := after
  past other := if other = segment then .nothing else life.past other

variable {application : Application}

/-- The life after one move. -/
def step (life : Life) : Move application → Life
  | .setLive segment live => { life with store := life.store.setLive segment live }
  | .markDirty segment => { life with store := life.store.markDirty segment }
  | .advanceClock millis => { life with store := life.store.advanceClock millis }
  | .forceCommit =>
    { life with store := (Store.forceCommit life.store : Outcome StoreError Bool × _).2 }
  | .commitCheck =>
    match (Store.commitCheck life.store : Outcome StoreError CommitReport × _) with
    | (.value report, after) => life.learn report.stored report.failed after
    | (_, after) => { life with store := after }
  | .store segment =>
    match Store.storeSegment segment life.store with
    | (.value (), after) => life.learn [segment] [] after
    | (_, after) => life.learn [] [segment] after
  | .restore segment =>
    { life with store := (Store.restore segment life.store : Outcome StoreError LoadOutcome × _).2 }
  | .erase segment =>
    match Store.eraseSegment segment life.store with
    | (.value (), after) => life.forget segment after
    | (_, after) => { life with store := after }
  | .fault fault =>
    { life with store := { life.store with driver := { life.store.driver with device :=
      { life.store.device with faults := fault.arm life.store.device.faults } } } }
  | .reboot settings defaults =>
    { life with store := life.store.revive settings.config defaults }

/-- The life after a run. -/
def run (life : Life) (moves : List (Move application)) : Life := moves.foldl step life

/-- The past of every segment explains what is in its range. -/
structure Faithful (application : Application) (life : Life) : Prop where
  settled : life.store.Settled
  codecs : ∀ segment, (life.store.registrations.get segment).map (·.codec) =
    (application.registrations.get segment).map (·.codec)
  signed : life.store.config.appSignature = application.appSignature
  known : 1 ≤ life.store.config.maxVersion
  placed : ∀ segment registration, application.registrations.get segment = some registration →
    ∃ entry, life.store.driver.Placed segment entry
  explains : ∀ segment registration entry,
    application.registrations.get segment = some registration →
    life.store.driver.Placed segment entry →
    (life.past segment).Explains application.appSignature registration.codec
      (life.store.driver.contents entry)
  unknown : ∀ segment, application.registrations.get segment = none →
    life.past segment = .nothing

namespace Faithful

variable {life : Life} {after : Store (Faulty MemoryFlash)} {segment : Segment}
  {entry : MapEntry} {registration : Registration} {past : Segment → Past}

/-- A segment of the application is registered with its codec. -/
theorem registered (faithful : Faithful application life)
    (known : application.registrations.get segment = some registration) :
    ∃ live, life.store.registrations.get segment = some { codec := registration.codec, live } := by
  have codecs := faithful.codecs segment
  rw [known, Option.map_some, Option.map_eq_some_iff] at codecs
  obtain ⟨⟨codec, live⟩, found, same⟩ := codecs
  exact ⟨live, same ▸ found⟩

/-- No other segment is registered. -/
theorem unregistered (faithful : Faithful application life)
    (unknown : application.registrations.get segment = none) :
    life.store.registrations.get segment = none := by
  have codecs := faithful.codecs segment
  rwa [unknown, Option.map_none, Option.map_eq_none_iff] at codecs

/-- Every registered segment has its place. -/
theorem placed_of_registered (faithful : Faithful application life)
    (known : life.store.registrations.get segment = some registration) :
    ∃ entry, life.store.driver.Placed segment entry := by
  have codecs := faithful.codecs segment
  rw [known, Option.map_some, eq_comm, Option.map_eq_some_iff] at codecs
  obtain ⟨original, found, -⟩ := codecs
  exact faithful.placed segment original found

/-! ## Moves that keep the registrations -/

theorem of_moves (faithful : Faithful application life) (moves : Store.Moves life.store after)
    (explains : ∀ segment registration entry,
      application.registrations.get segment = some registration →
      life.store.driver.Placed segment entry →
      (past segment).Explains application.appSignature registration.codec
        (after.driver.contents entry))
    (unknown : ∀ segment, application.registrations.get segment = none →
      past segment = .nothing) : Faithful application ⟨after, past⟩ where
  settled := moves.settled faithful.settled
  codecs segment := by
    rw [moves.registrations]
    exact faithful.codecs segment
  signed := moves.config ▸ faithful.signed
  known := moves.config ▸ faithful.known
  placed segment registration known := by
    obtain ⟨entry, placed⟩ := faithful.placed segment registration known
    exact ⟨entry, moves.placed placed⟩
  explains segment registration entry known placed := by
    obtain ⟨range, before⟩ := faithful.placed segment registration known
    rw [(moves.placed before).unique placed]
    exact explains segment registration range known before
  unknown := unknown

/-- What changes no cell teaches nothing. -/
theorem of_cells (faithful : Faithful application life) (moves : Store.Moves life.store after)
    (same : cells after.device = cells life.store.device) :
    Faithful application { life with store := after } :=
  faithful.of_moves moves (fun segment registration entry known placed => by
    rw [moves.contents_of_cells same]
    exact faithful.explains segment registration entry known placed) faithful.unknown

/-- What is reported of some segments is what happened to them, and the others were left
alone. -/
theorem learn {stored failed : List Segment} (faithful : Faithful application life)
    (moves : Store.Moves life.store after)
    (carries : ∀ segment ∈ stored, ∀ entry registration,
      life.store.driver.Placed segment entry →
      life.store.registrations.get segment = some registration →
      ∃ payload, registration.codec.serialize registration.live = .ok payload ∧
        payload.length ≤ registration.codec.maxSize ∧
        Carries life.store.config.appSignature registration.codec.span payload
          (after.driver.contents entry))
    (kept : ∀ segment ∈ failed, ∀ entry, life.store.driver.Placed segment entry →
      after.driver.contents entry = life.store.driver.contents entry ∨
        ¬ Committed (after.driver.contents entry))
    (same : ∀ segment, segment ∉ stored → segment ∉ failed → ∀ entry,
      life.store.driver.Placed segment entry →
      after.driver.contents entry = life.store.driver.contents entry) :
    Faithful application (life.learn stored failed after) := by
  refine faithful.of_moves moves ?_ fun segment unknown => ?_
  · intro segment registration entry known placed
    have before := faithful.explains segment registration entry known placed
    by_cases isStored : segment ∈ stored
    · obtain ⟨live, found⟩ := faithful.registered known
      obtain ⟨maxSize, span, blob, -⟩ := application.blobs segment registration known
      obtain ⟨payload, serialized, fits, content⟩ := carries segment isStored entry _ placed found
      have lives := Store.live?_of_registered found
      rw [faithful.signed] at content
      rw [if_pos isStored, lives]
      have whole : payload = live := by
        rw [blob] at serialized
        exact (Except.ok.inj serialized).symm
      exact whole ▸ ⟨fits, content⟩
    · rw [if_neg isStored]
      by_cases hasFailed : segment ∈ failed
      · rw [if_pos hasFailed]
        exact before.failed (kept segment hasFailed entry placed)
      · rw [if_neg hasFailed, same segment isStored hasFailed entry placed]
        exact before
  · rw [Store.live?_of_unregistered (faithful.unregistered unknown),
      faithful.unknown segment unknown]
    split
    · rfl
    · split <;> rfl

theorem storeSegment (faithful : Faithful application life) (segment : Segment) :
    Faithful application (life.step (.store segment : Move application)) := by
  cases known : life.store.registrations.get segment with
  | none =>
      have moves := Store.moves_noteStoreFailed life.store segment (.unregistered segment)
      have fails := Store.storeSegment_of_unregistered known
      rw [step, fails]
      exact faithful.learn moves nofun (fun _ _ _ _ => .inl rfl) fun _ _ _ _ _ => rfl
  | some registration =>
      obtain ⟨entry, placed⟩ := faithful.placed_of_registered known
      rcases (faithful.settled.storeSegment_ends placed known).cases with
        ⟨_, after, stores, driver, payload, written, rfl⟩ | ⟨cause, after, fails, driver, missed, rfl⟩
      · have moves : Store.Moves life.store ((life.store.atop driver).noteStored segment
            (Header.size + payload.length)) := .of_advances written.advances rfl rfl
        rw [step, stores]
        refine faithful.learn moves ?_ nofun fun other unlisted _ range also => ?_
        · intro other member range also there found
          rw [List.mem_singleton] at member
          subst member
          rw [known] at found
          cases found
          rw [placed.unique there]
          exact ⟨payload, written.serialized, written.fits, written.carries⟩
        · rw [List.mem_singleton] at unlisted
          exact written.advances.contents_of_ne placed also unlisted
      · rw [step, fails]
        refine faithful.learn (missed.moves cause) nofun ?_ fun other _ unlisted range also => ?_
        · intro other member range there
          rw [List.mem_singleton] at member
          subst member
          rw [placed.unique there]
          exact missed.kept.imp_left fun same => missed.advances.contents_of_cells same entry
        · rw [List.mem_singleton] at unlisted
          exact missed.advances.contents_of_ne placed also unlisted

theorem commitCheck (faithful : Faithful application life) :
    Faithful application (life.step (.commitCheck : Move application)) := by
  cases due : life.store.isCommitDue with
  | false =>
      rw [step, Store.commitCheck_of_not_due due]
      exact faithful.learn (.refl _) nofun nofun fun _ _ _ _ _ => rfl
  | true =>
      have once : Segment.all.Nodup := by decide
      have places : life.store.PlacedEach Segment.all := by
        intro segment _ _ registration known
        obtain ⟨entry, placed⟩ := faithful.placed_of_registered known
        exact ⟨entry, faithful.settled.home_iff.2 placed, faithful.settled.planned.allotted placed⟩
      obtain ⟨stored, failed, after, trace, commits⟩ :=
        Store.commitCheck_pass (ε := StoreError) faithful.settled.planned.sound places due
      have begins : Store.Moves life.store life.store.begun := .of_driver rfl rfl rfl
      have ends : Store.Moves after after.ended := .of_driver rfl rfl rfl
      have moves := begins.trans (trace.moves.trans ends)
      rw [step, commits]
      exact faithful.learn moves
        (fun segment member entry registration placed known =>
          trace.carries once member (faithful.settled.home_iff.2 placed) known)
        (fun segment member entry placed =>
          trace.kept once member (faithful.settled.home_iff.2 placed))
        fun segment notStored notFailed entry placed =>
          trace.contents_of_not_tried (faithful.settled.home_iff.2 placed) notStored notFailed

theorem eraseSegment (faithful : Faithful application life) (segment : Segment) :
    Faithful application (life.step (.erase segment : Move application)) := by
  rcases Store.eraseSegment_cases faithful.settled segment with
    ⟨entry, driver, placed, advances, uncommitted, erases⟩ |
    ⟨outcome, driver, fails, moves, same, ends⟩
  · rw [step, erases]
    have moves : Store.Moves life.store ((life.store.atop driver).noteErased segment) :=
      .of_advances advances rfl rfl
    refine faithful.of_moves moves (fun other registration range known also => ?_)
      fun other unknown => ?_
    · by_cases isErased : other = segment
      · subst isErased
        rw [if_pos rfl, placed.unique also]
        exact uncommitted
      · rw [if_neg isErased]
        have before := faithful.explains other registration range known also
        rw [← advances.contents_of_ne placed also isErased] at before
        exact before
    · rw [faithful.unknown other unknown]
      split <;> rfl
  · have unknown : life.step (.erase segment : Move application) =
        { life with store := life.store.atop driver } := by
      rw [step, ends]
      cases outcome with
      | value result => exact absurd rfl fails
      | error cause => rfl
      | trap => rfl
    rw [unknown]
    exact faithful.of_cells moves same

/-! ## Moves that change live bytes -/

/-- Other live bytes under the same codecs make no difference. -/
theorem of_codecs (faithful : Faithful application life)
    (driver : after.driver = life.store.driver) (config : after.config = life.store.config)
    (codecs : ∀ segment, (after.registrations.get segment).map (·.codec) =
      (life.store.registrations.get segment).map (·.codec)) :
    Faithful application { life with store := after } where
  settled := faithful.settled.of_codecs driver codecs
  codecs segment := (codecs segment).trans (faithful.codecs segment)
  signed := config ▸ faithful.signed
  known := config ▸ faithful.known
  placed := driver ▸ faithful.placed
  explains := driver ▸ faithful.explains
  unknown := faithful.unknown

theorem setLive (faithful : Faithful application life) (segment : Segment) (live : Bytes) :
    Faithful application { life with store := life.store.setLive segment live } :=
  faithful.of_codecs (Store.driver_setLive ..) (Store.config_setLive ..)
    (Store.codecs_setLive life.store segment live)

theorem restore (faithful : Faithful application life) (segment : Segment) :
    Faithful application (life.step (.restore segment : Move application)) := by
  cases known : life.store.registrations.get segment with
  | none =>
      rw [step, Store.restore_of_unregistered known]
      exact faithful.of_codecs rfl rfl fun _ => rfl
  | some registration =>
      obtain ⟨entry, placed⟩ := faithful.placed_of_registered known
      obtain ⟨outcome, after, restores, driver, moves, same, came⟩ :=
        Store.restore_of_placed (ε := StoreError) faithful.settled placed known
      have reached := faithful.of_cells moves same
      rw [step, restores]
      rcases came with ⟨bytes, live, -, -, rfl⟩ | ⟨reason, -, -, rfl⟩
      · exact (reached.setLive segment live).of_codecs rfl rfl fun _ => rfl
      · exact reached.of_codecs rfl rfl fun _ => rfl

/-! ## Boots -/

theorem fault (faithful : Faithful application life) (fault : Fault) :
    Faithful application (life.step (.fault fault : Move application)) where
  settled := ⟨⟨faithful.settled.planned.honest, faithful.settled.planned.planned⟩,
    faithful.settled.capacities⟩
  codecs := faithful.codecs
  signed := faithful.signed
  known := faithful.known
  placed := faithful.placed
  explains := faithful.explains
  unknown := faithful.unknown

theorem reboot (faithful : Faithful application life) (settings : Settings application)
    (defaults : Segment → Bytes) :
    Faithful application (life.step (.reboot settings defaults)) where
  settled := Store.settled_revive ..
  codecs segment := by
    rw [← faithful.codecs segment]
    show ((life.store.revive settings.config defaults).registrations.get segment).map _ = _
    rw [Store.registrations_revive, Option.map_map]
    rfl
  signed := by
    show (life.store.revive settings.config defaults).config.appSignature = _
    rw [Store.config_revive, settings.signed]
  known := by
    show 1 ≤ (life.store.revive settings.config defaults).config.maxVersion
    rw [Store.config_revive]
    exact settings.known
  placed segment registration known := by
    obtain ⟨entry, placed⟩ := faithful.placed segment registration known
    exact ⟨entry, Store.placed_revive_iff.2 (faithful.settled.home_iff.2 placed)⟩
  explains segment registration entry known placed := by
    obtain ⟨range, before⟩ := faithful.placed segment registration known
    rw [(Store.placed_revive_iff.2 (faithful.settled.home_iff.2 before)).unique placed]
    show (life.past segment).Explains _ _
      ((life.store.revive settings.config defaults).driver.contents range)
    rw [Store.contents_revive]
    exact faithful.explains segment registration range known before
  unknown := faithful.unknown

/-! ## Runs -/

/-- Every move keeps the past faithful. -/
theorem step (faithful : Faithful application life) (move : Move application) :
    Faithful application (life.step move) := by
  cases move with
  | setLive segment live => exact faithful.setLive segment live
  | markDirty segment => exact faithful.of_codecs rfl rfl fun _ => rfl
  | advanceClock millis => exact faithful.of_codecs rfl rfl fun _ => rfl
  | forceCommit =>
      rw [Life.step, Store.forceCommit_eq]
      exact faithful.of_codecs rfl rfl fun _ => rfl
  | commitCheck => exact faithful.commitCheck
  | store segment => exact faithful.storeSegment segment
  | restore segment => exact faithful.restore segment
  | erase segment => exact faithful.eraseSegment segment
  | fault fault => exact faithful.fault fault
  | reboot settings defaults => exact faithful.reboot settings defaults

/-- And so does every run. -/
theorem run (faithful : Faithful application life) (moves : List (Move application)) :
    Faithful application (life.run moves) := by
  induction moves generalizing life with
  | nil => exact faithful
  | cons move rest ih => exact ih (faithful.step move)

/-! ## What the past promises -/

/-- A range that bears a payload of a segment is read as that payload, by every boot. -/
theorem read_of_bears {payload range : Bytes} {maxVersion : UInt16}
    (known : application.registrations.get segment = some registration)
    (bears : Bears application.appSignature registration.codec payload range)
    (version : 1 ≤ maxVersion) :
    Image.read application.appSignature maxVersion registration.codec range = .ok payload := by
  obtain ⟨maxSize, span, blob, small⟩ := application.blobs segment registration known
  have fits : payload.length ≤ maxSize := by
    have fits := bears.fits
    rwa [blob] at fits
  apply bears.carries.read_eq (Nat.lt_of_le_of_lt fits small) version
  rw [blob]
  exact Store.deserialize_blob_of_fits fits

/-- What is restored is what was stored last. -/
theorem payload_of_restored {ε : Type} (faithful : Faithful application life)
    (restores : (Store.restore segment life.store :
      Outcome ε LoadOutcome × Store (Faulty MemoryFlash)) = (.value .restored, after)) :
    ∃ payload, (life.past segment).payload? = some payload ∧ after.live? segment = some payload := by
  cases known : application.registrations.get segment with
  | none =>
      rw [Store.restore_of_unregistered (faithful.unregistered known)] at restores
      cases restores
  | some registration =>
      obtain ⟨entry, placed⟩ := faithful.placed segment registration known
      obtain ⟨live, found⟩ := faithful.registered known
      obtain ⟨outcome, reached, ends, driver, moves, -, came⟩ :=
        Store.restore_of_placed (ε := ε) faithful.settled placed found
      rw [restores] at ends
      cases ends
      rcases came with ⟨bytes, loaded, reads, -, rfl⟩ | ⟨reason, -, impossible, -⟩
      · rw [Store.reading, faithful.signed] at reads
        obtain ⟨payload, last, bears⟩ :=
          (faithful.explains segment registration entry known placed).payload
            (Image.committed_of_read reads)
        rw [read_of_bears known bears faithful.known] at reads
        cases reads
        have still : (life.store.atop driver).registrations.get segment = some _ := found
        exact ⟨loaded, last, Store.live?_setLive_self still loaded⟩
      · contradiction

/-- What was stored last can be restored, unless a later attempt has failed. -/
theorem restored_of_stored {ε : Type} {payload : Bytes} (faithful : Faithful application life)
    (isStored : life.past segment = .stored payload) (usable : life.store.driver.Usable) :
    ∃ after, (Store.restore segment life.store : Outcome ε LoadOutcome × Store (Faulty MemoryFlash)) =
      (.value .restored, after) ∧ after.live? segment = some payload := by
  cases known : application.registrations.get segment with
  | none =>
      rw [faithful.unknown segment known] at isStored
      contradiction
  | some registration =>
      obtain ⟨entry, placed⟩ := faithful.placed segment registration known
      obtain ⟨live, found⟩ := faithful.registered known
      have bears := faithful.explains segment registration entry known placed
      rw [isStored] at bears
      have reads := read_of_bears known bears faithful.known
      rw [← faithful.signed] at reads
      obtain ⟨outcome, after, restores, driver, -, -, came⟩ :=
        Store.restore_of_placed (ε := ε) faithful.settled placed found
      rw [Store.reading, reads] at came
      rcases came with ⟨bytes, loaded, same, rfl, rfl⟩ | ⟨reason, failed | unusable, -⟩
      · cases same
        have still : (life.store.atop driver).registrations.get segment = some _ := found
        exact ⟨_, restores, Store.live?_setLive_self still payload⟩
      · contradiction
      · exact absurd usable unusable

end Faithful

/-- A blank chip explains a past in which nothing happened. -/
theorem faithful_start {chip : MemoryFlash} {geometry : Geometry}
    (blank : MemoryFlash.blank? geometry = .ok chip) (settings : Settings application)
    (clock : Clock) (defaults : Segment → Bytes)
    (placed : ∀ segment registration, application.registrations.get segment = some registration →
      ∃ entry, (start application chip settings clock defaults).store.driver.Placed segment entry) :
    Faithful application (start application chip settings clock defaults) where
  settled := Store.settled_boot _ _ _ _ _ trivial
  codecs segment := by
    rw [start, Store.registrations_boot, Option.map_map]
    rfl
  signed := by
    rw [start, Store.config_boot, settings.signed]
  known := by
    rw [start, Store.config_boot]
    exact settings.known
  placed := placed
  explains segment registration entry known _ := by
    show ¬ Committed _
    rw [SegmentDriver.contents, start, Store.device_boot]
    show ¬ Committed (chip.cells.slice _ _)
    rw [MemoryFlash.cells_of_blank blank]
    exact not_committed_of_blank
  unknown _ _ := rfl

/-- Whatever has happened to a chip, a segment that is restored has the payload that was
stored last. If no attempt to store the segment has failed since, that payload is restored as
long as the device can be used, and in any case after a reboot with working power. -/
theorem restore_after_run {ε : Type} {chip : MemoryFlash} {geometry : Geometry}
    (blank : MemoryFlash.blank? geometry = .ok chip) (settings : Settings application)
    (clock : Clock) (defaults : Segment → Bytes)
    (placed : ∀ segment registration, application.registrations.get segment = some registration →
      ∃ entry, (start application chip settings clock defaults).store.driver.Placed segment entry)
    (moves : List (Move application)) (segment : Segment) :
    let life := (start application chip settings clock defaults).run moves
    let restores := fun store after =>
      (Store.restore segment store : Outcome ε LoadOutcome × Store (Faulty MemoryFlash)) =
        (.value .restored, after)
    (∀ after, restores life.store after → ∃ payload,
        (life.past segment).payload? = some payload ∧ after.live? segment = some payload) ∧
      ∀ payload, life.past segment = .stored payload →
        (life.store.driver.Usable → ∃ after, restores life.store after ∧
          after.live? segment = some payload) ∧
        ∀ (later : Settings application) (fresh : Segment → Bytes), ∃ after,
          restores (life.store.revive later.config fresh) after ∧
            after.live? segment = some payload := by
  intro life restores
  have faithful : Faithful application life :=
    (faithful_start blank settings clock defaults placed).run moves
  refine ⟨fun after => faithful.payload_of_restored, fun payload isStored => ⟨?_, ?_⟩⟩
  · exact faithful.restored_of_stored isStored
  · intro later fresh
    exact (faithful.reboot later fresh).restored_of_stored isStored (Store.usable_revive ..)

/-! ### A payload that outlives a failed erase -/

/-- An application with one segment of at most two bytes. -/
def sampleApplication : Application where
  appSignature := 5
  registrations := (Segment.Table.replicate none).set .uniqueId
    (some { codec := .blob 2 none .full, live := [] })
  blobs segment registration known := by
    cases segment with
    | uniqueId =>
        cases known
        exact ⟨2, .full, rfl, by decide⟩
    | _ => exact nomatch known

/-- The settings of all its boots. -/
def sampleSettings : Settings sampleApplication where
  config := { appSignature := 5 }
  signed := rfl
  known := by decide

/-- A blank chip of one block. -/
def blankSampleChip : MemoryFlash :=
  { Store.sampleChip with
    cells := Store.sampleGeometry.blankCells
    size_cells := Store.sampleGeometry.size_blankCells }

/-- A payload is stored, and then the live bytes change and erasing fails. -/
def sampleMoves : List (Move sampleApplication) :=
  [.setLive .uniqueId [7, 9], .store .uniqueId, .setLive .uniqueId [4], .fault (.failErase true),
    .erase .uniqueId]

theorem restore_after_run_sample :
    ∃ after, (Store.restore .uniqueId (((start sampleApplication blankSampleChip sampleSettings {}
        fun _ => []).run sampleMoves).store.revive sampleSettings.config fun _ => []) :
          Outcome StoreError LoadOutcome × Store (Faulty MemoryFlash)) = (.value .restored, after) ∧
      after.live? .uniqueId = some [7, 9] := by
  have blank : MemoryFlash.blank? Store.sampleGeometry = .ok blankSampleChip := rfl
  have placed : ∀ segment registration,
      sampleApplication.registrations.get segment = some registration → ∃ entry,
        (start sampleApplication blankSampleChip sampleSettings {}
          fun _ => []).store.driver.Placed segment entry := by
    intro segment registration known
    cases segment with
    | uniqueId => exact ⟨⟨.uniqueId, 0, 32, 24⟩, _, rfl, rfl⟩
    | _ => exact nomatch known
  have isStored : ((start sampleApplication blankSampleChip sampleSettings {}
      fun _ => []).run sampleMoves).past .uniqueId = .stored [7, 9] := by decide +kernel
  exact ((restore_after_run blank sampleSettings {} (fun _ => []) placed sampleMoves .uniqueId).2
    [7, 9] isStored).2 sampleSettings fun _ => []

end Life

end NorStore
