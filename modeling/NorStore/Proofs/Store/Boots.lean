/-
# Many boots over one chip

Every boot may register other segments, with other codecs, before or after it first asks for a
range, and may be cut short by a fault. Beside the store we keep every payload that was stored,
with the segment it was stored for, and every range in which a segment was to be stored or
erased. A range that meets no other of these ranges holds what was stored for its own segment,
if it holds anything; and that is what is restored from it. A range that another segment has
had in another boot gives what that segment has left there.
-/

import NorStore.Proofs.Flash.Restart
import NorStore.Proofs.Store.Interruption
import NorStore.Proofs.Store.Provenance

namespace NorStore

open NorStore.Flash (ChipView Faulty Geometry MemoryFlash)
open NorStore.Flash.ChipView (shape)

/-- The range that a segment has, once there is a map. -/
def Store.range? {δ : Type} (store : Store δ) (segment : Segment) : Option MapEntry :=
  store.memoryMap?.bind fun map => map.entry? segment

theorem Store.range?_of_mapped {δ : Type} [ChipView δ] {store : Store δ} {segment : Segment}
    {entry : MapEntry} (mapped : store.driver.Mapped segment entry) :
    store.range? segment = some entry := by
  obtain ⟨map, known, found⟩ := mapped
  rw [range?, memoryMap?, SegmentDriver.memoryMap?, known]
  exact found

/-- What can happen to a store. -/
inductive Deed where
  | register (segment : Segment) (codec : Codec) (live : Bytes)
  | setLive (segment : Segment) (live : Bytes)
  | markDirty (segment : Segment)
  | advanceClock (millis : Nat)
  | setClock (millis : Nat)
  | setGuardBand (millis : Nat)
  | setAppSignature (appSignature : UInt32)
  | clearEvents
  | forceCommit
  | ensureMapped
  | inspect (segment : Segment)
  | restore (segment : Segment)
  | restoreAll
  | store (segment : Segment)
  | commitCheck
  | erase (segment : Segment)
  | fault (fault : Fault)
  /-- Start again over the same device, with the faults that it has. -/
  | restart (config : Config)
  /-- Start again over a new handle on the same cells. -/
  | reboot (config : Config)

namespace Deed

/-- The store after it has happened. -/
def perform (before : Store (Faulty MemoryFlash)) : Deed → Store (Faulty MemoryFlash)
  | register segment codec live => before.register segment codec live
  | setLive segment live => before.setLive segment live
  | markDirty segment => before.markDirty segment
  | advanceClock millis => before.advanceClock millis
  | setClock millis => before.setClock millis
  | setGuardBand millis => before.setGuardBandMillis millis
  | setAppSignature appSignature => before.setAppSignature appSignature
  | clearEvents => before.clearEvents
  | forceCommit => (Store.forceCommit before : Outcome StoreError Bool × _).2
  | ensureMapped => (Store.ensureMapped before).2
  | inspect segment => (Store.inspect segment before).2
  | restore segment => (Store.restore segment before : Outcome StoreError LoadOutcome × _).2
  | restoreAll =>
    (Store.restoreAll before : Outcome StoreError (List (Segment × LoadOutcome)) × _).2
  | store segment => (Store.storeSegment segment before).2
  | commitCheck => (Store.commitCheck before : Outcome StoreError CommitReport × _).2
  | erase segment => (Store.eraseSegment segment before).2
  | fault change =>
    { before with driver := { before.driver with device :=
      { before.device with faults := change.arm before.device.faults } } }
  | restart config => .start before.device config before.clock
  | reboot config => before.reboot config

/-- The segments that were to be stored or erased. -/
def tried (before : Store (Faulty MemoryFlash)) : Deed → List Segment
  | store segment => [segment]
  | erase segment => [segment]
  | commitCheck => before.dirtySegments
  | _ => []

/-- Every boot has the same signature, and every segment the same room and the same span. -/
def Uniform (appSignature : UInt32) (maxSize : Segment → Nat) (span : Segment → ChecksumSpan) :
    Deed → Prop
  | register segment codec _ => codec.maxSize = maxSize segment ∧ codec.span = span segment
  | setAppSignature other => other = appSignature
  | restart config => config.appSignature = appSignature
  | reboot config => config.appSignature = appSignature
  | _ => True

end Deed

/-- A store over all its boots: every payload that was stored, with its segment, and the
ranges in which segments were to be stored or erased. -/
structure Boots where
  store : Store (Faulty MemoryFlash)
  stored : List (Segment × Bytes)
  used : List MapEntry

namespace Boots

/-- A first boot on a chip, without faults. -/
def start (chip : MemoryFlash) (config : Config) (clock : Clock) : Boots where
  store := .start { device := chip } config clock
  stored := []
  used := []

/-- The boots after one more deed. What was stored is what the store tells of it. -/
def step (boots : Boots) (deed : Deed) : Boots where
  store := deed.perform boots.store
  stored := boots.stored ++
    (boots.store.storedSince (deed.perform boots.store)).filterMap fun segment =>
      (boots.store.payload? segment).map (segment, ·)
  used := boots.used ++ (deed.tried boots.store).filterMap (deed.perform boots.store).range?

/-- The boots after a run. -/
def run (boots : Boots) (deeds : List Deed) : Boots := deeds.foldl step boots

end Boots

/-! ## One deed -/

namespace Deed

/-- No deed changes a range that is clear of the segments it tries, but by storing its own
segment there. -/
theorem treads_perform {before : Store (Faulty MemoryFlash)} (sound : before.driver.Sound)
    (deed : Deed) (home : MapEntry) :
    before.driver.Treads home (deed.tried before)
      (before.Newly home (before.storedSince (deed.perform before)))
      (deed.perform before).driver := by
  have stays : ∀ {after : Store (Faulty MemoryFlash)}, after.driver.device = before.driver.device →
      after.driver.planner = before.driver.planner →
      before.driver.Treads home [] (before.Newly home (before.storedSince after)) after.driver := by
    intro after device planner
    refine (SegmentDriver.Looks.of_planner ?_ ?_ ?_ fun map known => planner ▸ known).treads sound
    · exact fun honest => device ▸ honest
    · rw [device]
    · rw [device]
  cases deed with
  | register segment codec live => exact stays rfl rfl
  | setLive segment live =>
      have same := Store.driver_setLive before segment live
      exact stays (congrArg (·.device) same) (congrArg (·.planner) same)
  | markDirty segment => exact stays rfl rfl
  | advanceClock millis => exact stays rfl rfl
  | setClock millis => exact stays rfl rfl
  | setGuardBand millis => exact stays rfl rfl
  | setAppSignature appSignature => exact stays rfl rfl
  | clearEvents => exact stays rfl rfl
  | forceCommit =>
      rw [perform, Store.forceCommit_eq]
      exact stays rfl rfl
  | ensureMapped => exact (Store.ensureMapped_looks sound).treads sound
  | inspect segment => exact (SegmentDriver.inspect_looks sound segment _ _ _).treads sound
  | restore segment => exact (Store.restore_looks sound segment).treads sound
  | restoreAll => exact (Store.restoreAll_looks sound).treads sound
  | store segment =>
      obtain ⟨stored, stores⟩ :=
        Store.storeSegment_stores sound (List.mem_singleton_self segment) home
      rw [perform, stores.storedSince]
      exact stores.treads
  | commitCheck =>
      obtain ⟨stored, stores⟩ := Store.commitCheck_stores (ε := StoreError) sound home
      rw [perform, stores.storedSince]
      exact stores.treads
  | erase segment =>
      exact Store.eraseSegment_treads sound (List.mem_singleton_self segment)
  | fault change =>
      have looks : before.driver.Looks (perform before (.fault change)).driver :=
        .of_planner id rfl rfl fun _ => id
      exact looks.treads sound
  | restart config =>
      have looks : before.driver.Looks (perform before (.restart config)).driver :=
        .of_planner id rfl rfl fun map known => nomatch known
      exact looks.treads sound
  | reboot config =>
      have looks : before.driver.Looks (perform before (.reboot config)).driver :=
        .of_planner (fun _ => trivial) rfl rfl fun map known => nomatch known
      exact looks.treads sound

end Deed

namespace Boots

variable {boots : Boots} {home : MapEntry}

/-- No other range that was used meets this one. -/
def Alone (boots : Boots) (home : MapEntry) : Prop :=
  ∀ other ∈ boots.used, other = home ∨ other.Apart home

/-- What is committed in a range that was used alone was stored there for its own segment. -/
structure Houses (boots : Boots) (home : MapEntry) : Prop where
  sound : boots.store.driver.Sound
  held : (shape boots.store.device).regionOffset ≤ home.start → boots.Alone home →
    Committed (boots.store.driver.contents home) → ∃ payload appSignature span,
      (home.segment, payload) ∈ boots.stored ∧
        Carries appSignature span payload (boots.store.driver.contents home)

/-- On a blank chip nothing is committed. -/
theorem houses_start {chip : MemoryFlash} {geometry : Geometry}
    (blank : MemoryFlash.blank? geometry = .ok chip) (config : Config) (clock : Clock)
    (home : MapEntry) : (start chip config clock).Houses home where
  sound := ⟨trivial, fun map known => nomatch known⟩
  held _ _ isCommitted := by
    change Committed (chip.cells.slice _ _) at isCommitted
    rw [MemoryFlash.cells_of_blank blank] at isCommitted
    exact absurd isCommitted not_committed_of_blank

namespace Houses

/-- A range that is alone after a deed was alone before, and clear of what the deed tried. -/
theorem step (houses : boots.Houses home) (deed : Deed) : (boots.step deed).Houses home := by
  have treads := deed.treads_perform houses.sound home
  refine ⟨treads.sound, fun inside alone isCommitted => ?_⟩
  have before : boots.Alone home := fun other member => alone other (List.mem_append_left _ member)
  have clear : (deed.perform boots.store).driver.Clear home (deed.tried boots.store) := by
    intro segment member entry mapped
    refine alone entry (List.mem_append_right _ (List.mem_filterMap.2 ⟨segment, member, ?_⟩))
    exact Store.range?_of_mapped mapped
  have within : (shape boots.store.driver.device).regionOffset ≤ home.start :=
    treads.shape ▸ inside
  rcases treads.kept within clear isCommitted with same | newly
  · change Committed ((deed.perform boots.store).driver.contents home) at isCommitted
    rw [same] at isCommitted
    obtain ⟨payload, appSignature, span, listed, carries⟩ := houses.held within before isCommitted
    exact ⟨payload, appSignature, span, List.mem_append_left _ listed, same ▸ carries⟩
  · obtain ⟨member, payload, appSignature, span, has, carries⟩ := newly
    refine ⟨payload, appSignature, span, List.mem_append_right _ ?_, carries⟩
    exact List.mem_filterMap.2 ⟨home.segment, member, by rw [has]; rfl⟩

theorem run (houses : boots.Houses home) (deeds : List Deed) : (boots.run deeds).Houses home := by
  induction deeds generalizing boots with
  | nil => exact houses
  | cons deed rest ih => exact ih (houses.step deed)

end Houses

/-- What is restored from a range that was used alone was stored for the same segment. -/
private theorem stored_of_houses {ε : Type} {segment : Segment} {after : Store (Faulty MemoryFlash)}
    (houses : ∀ home, boots.Houses home)
    (restores : (Store.restore segment boots.store :
      Outcome ε LoadOutcome × Store (Faulty MemoryFlash)) = (.value .restored, after))
    (alone : ∀ range, after.range? segment = some range → boots.Alone range) :
    ∃ registration payload bytes live,
      boots.store.registrations.get segment = some registration ∧
      (segment, payload) ∈ boots.stored ∧ bytes = payload.take (payload.length % UInt32.size) ∧
      registration.codec.deserialize bytes = .ok live ∧ after.live? segment = some live := by
  have sound := (houses ⟨segment, 0, 0, 0⟩).sound
  have looks := Store.restore_looks (ε := ε) sound segment
  rw [Action.Reaches, restores] at looks
  have soundly := looks.sound sound
  obtain ⟨registration, range, live, known, mapped, reads, lives⟩ :=
    Store.reading_of_restored sound restores
  have inside : (shape boots.store.driver.device).regionOffset ≤ range.start :=
    looks.shape ▸ (soundly.fits mapped).first
  obtain ⟨payload, appSignature, span, listed, carries⟩ := (houses range).held inside
    (alone range (Store.range?_of_mapped mapped)) (Image.committed_of_read reads)
  obtain ⟨bytes, found, accepted⟩ := Image.exists_payload_of_read reads
  exact ⟨registration, payload, bytes, live, known, soundly.segment_eq mapped ▸ listed,
    carries.eq_of_payload found, accepted, lives⟩

/-- Whatever has happened over many boots, if a segment is restored from a range that meets no
other range in which a segment was to be stored or erased, then what is restored was stored for
the same segment. It is the whole payload, if the length of the payload fits its field. -/
theorem stored_of_restored {ε : Type} {chip : MemoryFlash} {geometry : Geometry}
    (blank : MemoryFlash.blank? geometry = .ok chip) (config : Config) (clock : Clock)
    (deeds : List Deed) (segment : Segment) {after : Store (Faulty MemoryFlash)}
    (restores : (Store.restore segment ((start chip config clock).run deeds).store :
      Outcome ε LoadOutcome × Store (Faulty MemoryFlash)) = (.value .restored, after))
    (alone : ∀ range, after.range? segment = some range →
      ((start chip config clock).run deeds).Alone range) :
    ∃ registration payload bytes live,
      ((start chip config clock).run deeds).store.registrations.get segment = some registration ∧
      (segment, payload) ∈ ((start chip config clock).run deeds).stored ∧
      bytes <+: payload ∧ (payload.length < UInt32.size → bytes = payload) ∧
      registration.codec.deserialize bytes = .ok live ∧ after.live? segment = some live := by
  obtain ⟨registration, payload, bytes, live, known, listed, cut, accepted, lives⟩ :=
    stored_of_houses (fun home => (houses_start blank config clock home).run deeds) restores alone
  refine ⟨registration, payload, bytes, live, known, listed, ?_, fun short => ?_, accepted, lives⟩
  · rw [cut]
    exact List.take_prefix _ _
  · rw [cut, Nat.mod_eq_of_lt short, List.take_length]

/-! ### Two segments in one place -/

/-- A blank chip of two blocks. -/
def blankPairChip : MemoryFlash :=
  { Store.pairChip with
    cells := Store.pairGeometry.blankCells
    size_cells := Store.pairGeometry.size_blankCells }

/-- A codec for payloads of at most two bytes. -/
def pairCodec : Codec := .blob 2 none .full

/-- One boot knows only one segment, and the next one only another. Each gives its segment the
first range that there is. -/
def exchange : List Deed :=
  [.register .applicationData pairCodec [7, 9], .store .applicationData,
    .reboot { appSignature := 5 }, .register .networkImage pairCodec []]

/-- Then a payload is restored for the second segment, for which none was ever stored. -/
theorem restored_of_exchange :
    (∀ deed ∈ exchange, deed.Uniform 5 (fun _ => 2) fun _ => .full) ∧
      let boots := (start blankPairChip { appSignature := 5 } {}).run exchange
      let restored : Outcome StoreError LoadOutcome × Store (Faulty MemoryFlash) :=
        Store.restore .networkImage boots.store
      restored.1 = .value .restored ∧ restored.2.live? .networkImage = some [7, 9] ∧
        boots.stored = [(.applicationData, [7, 9])] := by
  refine ⟨?_, by decide +kernel⟩
  simp [exchange, Deed.Uniform, pairCodec, Codec.blob]

/-- In both boots one segment is registered, and another one only after the first has its
range. -/
def lateComing : List Deed :=
  [.register .uniqueId pairCodec [4], .store .uniqueId,
    .register .applicationData pairCodec [7, 9], .store .applicationData,
    .reboot { appSignature := 5 }, .register .uniqueId pairCodec [], .inspect .uniqueId,
    .register .applicationData pairCodec []]

theorem stored_of_restored_sample :
    ∃ after payload,
      (Store.restore .applicationData ((start blankPairChip { appSignature := 5 } {}).run
          lateComing).store : Outcome StoreError LoadOutcome × Store (Faulty MemoryFlash)) =
        (.value .restored, after) ∧
      (Segment.applicationData, payload) ∈
        ((start blankPairChip { appSignature := 5 } {}).run lateComing).stored ∧
      after.live? .applicationData = some payload := by
  have blank : MemoryFlash.blank? Store.pairGeometry = .ok blankPairChip := rfl
  have used : ((start blankPairChip { appSignature := 5 } {}).run lateComing).used =
      [⟨.uniqueId, 32, 32, 24⟩, ⟨.applicationData, 0, 32, 24⟩] := by decide +kernel
  have stored : ((start blankPairChip { appSignature := 5 } {}).run lateComing).stored =
      [(.uniqueId, [4]), (.applicationData, [7, 9])] := by decide +kernel
  have answer : (Store.restore .applicationData ((start blankPairChip { appSignature := 5 } {}).run
      lateComing).store : Outcome StoreError LoadOutcome × _).1 = .value .restored := by
    decide +kernel
  have has : (Store.restore .applicationData ((start blankPairChip { appSignature := 5 } {}).run
      lateComing).store : Outcome StoreError LoadOutcome × _).2.range? .applicationData =
        some ⟨.applicationData, 0, 32, 24⟩ := by decide +kernel
  have lives : (Store.restore .applicationData ((start blankPairChip { appSignature := 5 } {}).run
      lateComing).store : Outcome StoreError LoadOutcome × _).2.live? .applicationData =
        some [7, 9] := by decide +kernel
  rcases restores : (Store.restore .applicationData
    ((start blankPairChip { appSignature := 5 } {}).run lateComing).store :
      Outcome StoreError LoadOutcome × Store (Faulty MemoryFlash)) with ⟨outcome, after⟩
  rw [restores] at answer has lives
  cases answer
  have alone : ∀ range, after.range? .applicationData = some range →
      ((start blankPairChip { appSignature := 5 } {}).run lateComing).Alone range := by
    intro range found
    cases has.symm.trans found
    rw [Alone, used, List.forall_mem_cons, List.forall_mem_singleton]
    exact ⟨.inr (.inr (by decide)), .inl rfl⟩
  obtain ⟨_, payload, _, _, -, listed, -⟩ :=
    stored_of_restored blank _ _ lateComing .applicationData restores alone
  rw [stored] at listed
  have same : payload = [7, 9] := by simpa using listed
  exact ⟨after, payload, rfl, stored ▸ listed, same ▸ lives⟩

end Boots

end NorStore
