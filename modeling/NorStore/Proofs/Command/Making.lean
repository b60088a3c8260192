/-
# How images come about

An image is formatted, and then stores of the application that the settings describe store
their segments in it, one after another. Such a store may be a new one each time, and may do
whatever keeps its segments in their places. What was stored last for a segment is what the
range of the segment carries, and where nothing was stored nothing is committed.
-/

import NorStore.Command.Run
import NorStore.Proofs.Assignment
import NorStore.Proofs.Driver.Settlement
import NorStore.Proofs.Flash.FileDevice
import NorStore.Proofs.Store.Storing

namespace NorStore

open NorStore.Flash (BlockDevice Cells ChipView Geometry ImageFile NorDevice)
open NorStore.Segment (Table)

/-- In the map of the chip the places of the segments are looked up. -/
theorem SegmentDriver.placed_iff {δ : Type} [BlockDevice δ] [NorDevice δ]
    {driver : SegmentDriver δ} {map : MemoryMap} {segment : Segment} {entry : MapEntry}
    (plans : MemoryMap.planned (ChipView.shape driver.device) driver.capacities = .value map) :
    driver.Placed segment entry ↔ map.entry? segment = some entry := by
  constructor
  · intro placed
    obtain ⟨other, known, found⟩ := placed
    rw [plans] at known
    cases known
    exact found
  · exact fun found => ⟨map, plans, found⟩

/-- The bytes of a range in an image. -/
def MapEntry.bytesIn (geometry : Geometry) (content : Cells) (entry : MapEntry) : Bytes :=
  content.slice (entry.start - geometry.regionOffset) entry.reserved

namespace Command

variable {settings : Settings} {geometry : Geometry} {map : MemoryMap} {content : Cells}
  {segment : Segment} {image : ImageFile}

/-! ## Settings -/

namespace Settings

/-- The room that the listed segments are to have. Of the sizes listed for one segment the last
counts. -/
def capacities (settings : Settings) : Table (Option Nat) :=
  enterEach (.replicate none) settings.segments

/-- Some segments are listed, and the region has a place for each of them. -/
structure Fits (settings : Settings) (geometry : Geometry) (map : MemoryMap) : Prop where
  nonempty : settings.segments ≠ []
  region : settings.geometry (settings.regionSize.getD defaultRegionSize) = .ok geometry
  planned : MemoryMap.planned geometry settings.capacities = .value map
  placed : ∀ segment ∈ settings.listed, ∃ entry, map.entry? segment = some entry

theorem mem_listed : segment ∈ settings.listed ↔ segment ∈ settings.segments.map Prod.fst := by
  rw [listed, Segment.distinct, List.mem_filter, decide_eq_true_eq]
  exact and_iff_right (Segment.mem_all segment)

/-- Only listed segments have room. -/
theorem mem_listed_of_capacity {maxPayload : Nat}
    (capacity : settings.capacities.get segment = some maxPayload) : segment ∈ settings.listed := by
  rw [mem_listed]
  apply Decidable.byContradiction
  intro absent
  rw [capacities, get_enterEach_of_absent absent, Table.get_replicate] at capacity
  contradiction

theorem geometry_eq_ok {size : Nat} (made : settings.geometry size = .ok geometry) :
    geometry.Valid ∧ geometry.regionSize = size := by
  rw [Settings.geometry] at made
  split at made
  · contradiction
  · dsimp only at made
    split at made
    · contradiction
    · rename_i accepted
      cases made
      exact ⟨(Geometry.validate_eq_ok_iff _).1 accepted, rfl⟩

/-- What ends in a value has passed each of its guards. -/
private theorem of_guard {σ ε α : Type} {condition : Prop} [Decidable condition]
    {stop : Action σ ε Unit} {next : Unit → Action σ ε α} {result : α} {state last : σ}
    (ends : (if condition then stop >>= next else next ()) state = (.value result, last))
    (stops : ∀ start reached, stop start ≠ (.value (), reached)) :
    next () state = (.value result, last) := by
  split at ends
  · obtain ⟨_, middle, passes, -⟩ := Action.bind_eq_value_iff.1 ends
    exact absurd passes (stops state middle)
  · exact ends

/-- Formatting that succeeds leaves an erased image of the size of the region. -/
theorem format_eq_value {force : Bool} {before after : Workspace}
    (opened : settings.geometry (settings.regionSize.getD defaultRegionSize) = .ok geometry)
    (formats : settings.format force before = (.value (), after)) :
    after.image = .file geometry.blankCells := by
  have valid := (geometry_eq_ok opened).1
  have reads : (Outcome.ofExcept (settings.geometry
      (settings.regionSize.getD defaultRegionSize)) : Outcome Failure Geometry) =
      .value geometry := by rw [opened]; rfl
  have creates : (Outcome.ofExcept ((ImageFile.create? geometry).mapError Failure.flash) :
      Outcome Failure ImageFile) =
      .value ⟨geometry, valid, geometry.blankCells, geometry.size_blankCells, false⟩ := by
    rw [ImageFile.create?, Geometry.check_of_valid valid]
    rfl
  rw [format, Action.get_bind] at formats
  have isNew := of_guard formats fun _ _ => nofun
  dsimp only at isNew
  rw [Action.lift_bind_of_value reads] at isNew
  have isFile := of_guard isNew fun _ _ => nofun
  rw [Action.modify_bind] at isFile
  have isLimited := of_guard isFile fun _ _ => nofun
  have isHeld := of_guard isLimited fun _ _ => nofun
  rw [Action.lift_bind_of_value creates, Action.modify_bind] at isHeld
  cases isHeld
  rfl

/-- An image of the size of the region can be opened. If no size was told, the region is as
large as the file. -/
theorem openImage_of_geometry
    (opened : settings.geometry (settings.regionSize.getD content.size) = .ok geometry)
    (size : content.size = geometry.regionSize) :
    ∃ image, settings.openImage (.file content) = .ok image ∧ image.geometry = geometry ∧
      image.content = content := by
  have valid := (geometry_eq_ok opened).1
  have attached : (ImageFile.ofContent? settings.path geometry content).mapError Failure.flash =
      .ok ⟨geometry, valid, content, size, false⟩ := by
    rw [ImageFile.ofContent?, Geometry.checkImage_of_valid valid size]
    rfl
  refine ⟨⟨geometry, valid, content, size, false⟩, ?_, rfl, rfl⟩
  rw [openImage, ← attached]
  cases known : settings.regionSize with
  | none =>
      rw [known] at opened
      show (settings.geometry content.size >>= fun geometry =>
        (ImageFile.ofContent? settings.path geometry content).mapError Failure.flash) = _
      rw [show settings.geometry content.size = .ok geometry from opened]
      rfl
  | some regionSize =>
      rw [known] at opened
      show (settings.geometry regionSize >>= fun geometry =>
        (ImageFile.ofContent? settings.path geometry content).mapError Failure.flash) = _
      rw [show settings.geometry regionSize = .ok geometry from opened]
      rfl

/-- So can an image of the size that formatting supposes. -/
theorem openImage_of_size
    (opened : settings.geometry (settings.regionSize.getD defaultRegionSize) = .ok geometry)
    (size : content.size = geometry.regionSize) :
    ∃ image, settings.openImage (.file content) = .ok image ∧ image.geometry = geometry ∧
      image.content = content := by
  refine openImage_of_geometry ?_ size
  have whole := (geometry_eq_ok opened).2
  rw [size, whole]
  cases known : settings.regionSize with
  | none =>
      rw [known] at opened
      exact opened
  | some regionSize =>
      rw [known] at opened
      exact opened

end Settings

/-! ## Stores of the application -/

/-- A store of the application that the settings describe, over the image: its segments have the
room that is listed for them, and all of them were registered before the first access. -/
structure Settings.Serves (settings : Settings) (geometry : Geometry) (content : Cells)
    (store : Store ImageFile) : Prop where
  settled : store.Settled
  shape : store.device.geometry = geometry
  content : store.device.content = content
  appSignature : store.config.appSignature = settings.appSignature
  capacities : store.driver.capacities = settings.capacities

/-- What was stored for a segment. -/
structure Stored where
  payload : Bytes
  span : ChecksumSpan
deriving DecidableEq, Repr

/-- The images that formatting and storing lead to, each with what was stored last for the
segments. -/
inductive Settings.Made (settings : Settings) (geometry : Geometry) :
    Cells → Table (Option Stored) → Prop
  | formatted {force : Bool} {before after : Workspace} {content : Cells}
      (formats : settings.format force before = (.value (), after))
      (image : after.image = .file content) : Made settings geometry content (.replicate none)
  | stored {content : Cells} {record : Table (Option Stored)} {store after : Store ImageFile}
      {segment : Segment} {registration : Registration} {payload : Bytes}
      (made : Made settings geometry content record)
      (serves : settings.Serves geometry content store)
      (registered : store.registrations.get segment = some registration)
      (serialized : registration.codec.serialize registration.live = .ok payload)
      (short : payload.length < UInt32.size)
      (stores : Store.storeSegment segment store = (.value (), after)) :
      Made settings geometry after.device.content
        (record.set segment (some ⟨payload, registration.codec.span⟩))

namespace Settings.Serves

variable {store after : Store ImageFile}

theorem contents (serves : settings.Serves geometry content store) (entry : MapEntry) :
    store.driver.contents entry = entry.bytesIn geometry content := by
  rw [← serves.shape, ← serves.content]
  rfl

/-- The segments of such a store have their places in the map of the region. -/
theorem placed_iff (serves : settings.Serves geometry content store)
    (planned : MemoryMap.planned geometry settings.capacities = .value map) {entry : MapEntry} :
    store.driver.Placed segment entry ↔ map.entry? segment = some entry := by
  apply SegmentDriver.placed_iff
  rw [serves.capacities, ← planned, ← serves.shape]
  rfl

/-- The live bytes may change, and whatever else is not a codec or the signature. -/
theorem of_codecs (serves : settings.Serves geometry content store)
    (driver : after.driver = store.driver) (config : after.config = store.config)
    (codecs : ∀ segment, (after.registrations.get segment).map (·.codec) =
      (store.registrations.get segment).map (·.codec)) :
    settings.Serves geometry content after where
  settled := serves.settled.of_codecs driver codecs
  shape := by
    rw [Store.device, driver]
    exact serves.shape
  content := by
    rw [Store.device, driver]
    exact serves.content
  appSignature := config ▸ serves.appSignature
  capacities := driver ▸ serves.capacities

/-- Each place of a registered segment has room listed for it. -/
theorem mem_listed (serves : settings.Serves geometry content store) {registration : Registration}
    (registered : store.registrations.get segment = some registration) :
    segment ∈ settings.listed := by
  apply mem_listed_of_capacity
  rw [← serves.capacities, serves.settled.capacities, registered]
  rfl

end Settings.Serves

/-! ## What an image holds -/

/-- What a range holds for which that was stored last. -/
def Told (appSignature : UInt32) : Option Stored → Bytes → Prop
  | none, range => ¬ Committed range
  | some stored, range =>
    stored.payload.length < UInt32.size ∧ Carries appSignature stored.span stored.payload range

/-- Every range of an image holds what was stored last. -/
structure Reflects (appSignature : UInt32) (geometry : Geometry) (map : MemoryMap) (content : Cells)
    (record : Table (Option Stored)) : Prop where
  size : content.size = geometry.regionSize
  ranges : ∀ segment entry, map.entry? segment = some entry →
    Told appSignature (record.get segment) (entry.bytesIn geometry content)

variable {record : Table (Option Stored)} {appSignature : UInt32}

theorem Reflects.blank (appSignature : UInt32) (geometry : Geometry) (map : MemoryMap) :
    Reflects appSignature geometry map geometry.blankCells (.replicate none) where
  size := geometry.size_blankCells
  ranges segment entry _ := by
    rw [Table.get_replicate]
    exact not_committed_of_blank

section Step

variable {store after : Store ImageFile} {registration : Registration} {payload : Bytes}
  (fits : settings.Fits geometry map) (serves : settings.Serves geometry content store)
  (registered : store.registrations.get segment = some registration)
  (serialized : registration.codec.serialize registration.live = .ok payload)
  (stores : Store.storeSegment segment store = (.value (), after))

include fits serves registered stores

/-- A store of the application has written the place of the segment, and nothing else. -/
private theorem written_of_stored :
    ∃ entry driver found, map.entry? segment = some entry ∧
      store.Written entry registration found driver ∧
      after = (store.atop driver).noteStored segment (Header.size + found.length) := by
  obtain ⟨entry, found⟩ := fits.placed segment (serves.mem_listed registered)
  have placed := (serves.placed_iff fits.planned).2 found
  rcases (serves.settled.storeSegment_ends placed registered).cases with
    ⟨_, _, ends, driver, payload, written, noted⟩ | ⟨_, _, fails, -⟩
  · rw [stores] at ends
    cases ends
    exact ⟨entry, driver, payload, found, written, noted⟩
  · rw [stores] at fails
    cases fails

/-- A store that has stored a segment serves the image that it leaves. -/
theorem Settings.Serves.storeSegment : settings.Serves geometry after.device.content after := by
  obtain ⟨entry, driver, found, -, written, rfl⟩ :=
    written_of_stored fits serves registered stores
  have atop : settings.Serves geometry driver.device.content (store.atop driver) := {
    settled := serves.settled.atop written.advances
    shape := written.advances.keeps.shape.trans serves.shape
    content := rfl
    appSignature := serves.appSignature
    capacities := written.advances.capacities.trans serves.capacities }
  exact atop.of_codecs rfl rfl fun _ => rfl

include serialized

/-- Storing a segment replaces what its range holds, and leaves all other ranges. -/
theorem Reflects.storeSegment
    (reflects : Reflects settings.appSignature geometry map content record)
    (short : payload.length < UInt32.size) :
    Reflects settings.appSignature geometry map after.device.content
      (record.set segment (some ⟨payload, registration.codec.span⟩)) := by
  have later := serves.storeSegment fits registered stores
  obtain ⟨entry, driver, found, place, written, rfl⟩ :=
    written_of_stored fits serves registered stores
  have same := written.serialized
  rw [serialized] at same
  cases same
  refine ⟨?_, fun other range given => ?_⟩
  · rw [← later.shape]
    exact ImageFile.size_content _
  · have holds := later.contents range
    change driver.contents range = _ at holds
    rw [← holds]
    by_cases different : other = segment
    · subst different
      rw [place] at given
      cases given
      rw [Table.get_set_self]
      have carries := written.carries
      rw [serves.appSignature] at carries
      exact ⟨short, carries⟩
    · rw [Table.get_set_of_ne _ _ different, written.advances.contents_of_ne
        ((serves.placed_iff fits.planned).2 place) ((serves.placed_iff fits.planned).2 given)
        different, serves.contents]
      exact reflects.ranges other range given

end Step

/-- Whatever was stored by stores of the application, the image reflects it. -/
theorem Settings.Made.reflects (made : settings.Made geometry content record)
    (fits : settings.Fits geometry map) :
    Reflects settings.appSignature geometry map content record := by
  induction made with
  | formatted formats image =>
      rw [format_eq_value fits.region formats] at image
      cases image
      exact .blank ..
  | stored made serves registered serialized short stores ih =>
      exact ih.storeSegment fits serves registered serialized stores short

/-! ## Opening a store -/

/-- The store with some segments registered, one after another. -/
def registerEach (store : Store ImageFile) (parts : List (Segment × Registration)) :
    Store ImageFile :=
  parts.foldl (fun reached part => reached.register part.1 part.2.codec part.2.live) store

/-- The room that registering some segments reserves. -/
def roomOf (parts : List (Segment × Registration)) : List (Segment × Nat) :=
  parts.map fun part => (part.1, part.2.codec.maxSize)

theorem registerEach_serves {store : Store ImageFile} (settled : store.Settled)
    (unmapped : store.driver.planner = .unmapped) (parts : List (Segment × Registration)) :
    (registerEach store parts).Settled ∧ (registerEach store parts).config = store.config ∧
      (registerEach store parts).driver =
        { store.driver with capacities := enterEach store.driver.capacities (roomOf parts) } := by
  induction parts generalizing store with
  | nil => exact ⟨settled, rfl, rfl⟩
  | cons part rest ih =>
      exact ih (settled.register unmapped part.1 part.2.codec part.2.live) unmapped

/-- What is registered in the end was registered before or is one of the parts. -/
theorem mem_of_registerEach {store : Store ImageFile} {parts : List (Segment × Registration)}
    {registration : Registration}
    (registered : (registerEach store parts).registrations.get segment = some registration) :
    store.registrations.get segment = some registration ∨ (segment, registration) ∈ parts := by
  induction parts generalizing store with
  | nil => exact .inl registered
  | cons part rest ih =>
      rcases ih registered with here | later
      · change (store.registrations.set part.1 (some part.2)).get segment = _ at here
        by_cases same : segment = part.1
        · subst same
          rw [Table.get_set_self] at here
          cases here
          exact .inr List.mem_cons_self
        · rw [Table.get_set_of_ne _ _ same] at here
          exact .inl here
      · exact .inr (.tail _ later)

/-- A store that was opened on an image serves it, if its segments were registered as they are
listed. -/
theorem Settings.serves_opened {config : Config} (clock : Clock)
    {parts : List (Segment × Registration)} (signed : config.appSignature = settings.appSignature)
    (room : enterEach (.replicate none) (roomOf parts) = settings.capacities) :
    settings.Serves image.geometry image.content
      (registerEach (Store.start image config clock) parts) := by
  obtain ⟨settled, same, driver⟩ :=
    registerEach_serves (Store.settled_start trivial config clock) rfl parts
  exact {
    settled := settled
    shape := by
      rw [Store.device, driver]
      rfl
    content := by
      rw [Store.device, driver]
      rfl
    appSignature := by
      rw [same]
      exact signed
    capacities := by
      rw [driver]
      exact room }

/-- The listed segments with codecs that store their live bytes as they are: those of one segment
are a payload, and the others have none. -/
def Settings.blobs (settings : Settings) (segment : Segment) (payload : Bytes)
    (span : ChecksumSpan) : List (Segment × Registration) :=
  settings.segments.map fun pair =>
    (pair.1, { codec := .blob pair.2 none span, live := if pair.1 = segment then payload else [] })

/-- Storing a payload as the settings say is storing the segment in such a store. -/
theorem Settings.storePayload_eq_ok {before after : Workspace} {payload : Bytes}
    {span : ChecksumSpan} (opens : settings.openImage before.image = .ok image)
    (stores : settings.storePayload segment payload span before = (.value (.ok ()), after)) :
    ∃ reached, Store.storeSegment segment (registerEach
        (Store.start image { appSignature := settings.appSignature } {})
        (settings.blobs segment payload span)) = (.value (), reached) ∧
      after.image = .file reached.device.content := by
  rw [registerEach, blobs, List.foldl_map]
  rw [storePayload, opens] at stores
  dsimp only at stores
  generalize List.foldl _ _ settings.segments = store at stores ⊢
  rw [Action.attempt] at stores
  rcases ends : Store.storeSegment segment store with ⟨_ | _ | _, reached⟩
  · simp only [ends] at stores
    cases stores
    exact ⟨reached, rfl, rfl⟩
  · simp only [ends] at stores
    cases stores
  · simp only [ends] at stores
    cases stores

/-- A payload that is stored as the settings say is what was stored last. -/
theorem Settings.Made.storePayload {before after : Workspace} {payload : Bytes}
    {span : ChecksumSpan} (made : settings.Made geometry content record)
    (fits : settings.Fits geometry map) (short : payload.length < UInt32.size)
    (holds : before.image = .file content)
    (stores : settings.storePayload segment payload span before = (.value (.ok ()), after)) :
    ∃ next, after.image = .file next ∧
      settings.Made geometry next (record.set segment (some ⟨payload, span⟩)) := by
  obtain ⟨image, opens, rfl, rfl⟩ := openImage_of_size fits.region (made.reflects fits).size
  rw [← holds] at opens
  obtain ⟨reached, stores, left⟩ := storePayload_eq_ok opens stores
  have room : roomOf (settings.blobs segment payload span) = settings.segments := by
    rw [roomOf, blobs, List.map_map]
    exact List.map_id _
  have serves : settings.Serves image.geometry image.content (registerEach
      (Store.start image { appSignature := settings.appSignature } {})
      (settings.blobs segment payload span)) := serves_opened {} rfl (congrArg _ room)
  cases registered : (registerEach (Store.start image { appSignature := settings.appSignature } {})
      (settings.blobs segment payload span)).registrations.get segment with
  | none =>
      rw [Store.storeSegment_of_unregistered registered] at stores
      cases stores
  | some registration =>
      rcases mem_of_registerEach registered with unknown | part
      · rw [show (Store.start image _ _).registrations = .replicate none from rfl,
          Table.get_replicate] at unknown
        contradiction
      · obtain ⟨pair, -, same⟩ := List.mem_map.1 part
        obtain ⟨rfl, rfl⟩ := Prod.mk.inj same
        have live : (if pair.1 = pair.1 then payload else []) = payload := if_pos rfl
        exact ⟨_, left, made.stored serves registered (congrArg Except.ok live) short stores⟩

end Command

end NorStore
