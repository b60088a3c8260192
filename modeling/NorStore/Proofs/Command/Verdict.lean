/-
# The verdict is that of restoring

Verifying an image restores nothing and knows no codec. Still its verdict on a segment is what
restoring the segment comes to, whatever the bytes of the image are, if the store that restores
has the same room for its segments, nothing fails on it, and its codecs take every payload with
a checksum over all of it. A segment is valid if such a store restores it, invalid if it does not
although the range is committed, and empty otherwise. In which order different segments are
listed makes no difference.
-/

import NorStore.Proofs.Command.Verification

namespace NorStore

open NorStore.Flash (BlockDevice Cells ChipView Geometry ImageFile)
open NorStore.Segment (Table)

/-! ## A range and its payload -/

namespace Inspection

variable {entry : MapEntry} {appSignature : UInt32} {maxVersion : UInt16} {span : ChecksumSpan}
  {range : Bytes}

/-- A range is found restorable exactly if there is a payload to be read in it. -/
theorem isRestored_ofRange_iff (whole : Ledger.size + Header.size ≤ range.length)
    (room : entry.maxDataSize = range.length - Ledger.size) :
    (ofRange entry appSignature maxVersion span range).outcome.isRestored = true ↔
      ∃ payload, Image.payload appSignature maxVersion span range = .ok payload := by
  have behind : entry.maxDataSize - Header.size = range.length - 24 := by
    rw [room, Nat.sub_sub]
    rfl
  rw [Image.payload_eq whole]
  by_cases committed : Committed range
  · rw [ofRange, if_pos committed, if_pos committed, Header.judge, behind]
    cases valid : (Image.header range).validate appSignature maxVersion with
    | error reason => simp [bind, Except.bind, outcome, LoadOutcome.isRestored]
    | ok _ =>
        by_cases long : range.length - 24 < (Image.header range).length.toNat
        · simp [bind, Except.bind, long, outcome, LoadOutcome.isRestored]
        · simp only [bind, Except.bind, long, if_false, withPayload]
          cases (Image.header range).verify
              ((range.drop 24).take (Image.header range).length.toNat) span with
          | error reason => simp [outcome, LoadOutcome.isRestored]
          | ok _ => simp [outcome, LoadOutcome.isRestored, pure, Except.pure]
  · rw [ofRange, if_neg committed, if_neg committed]
    simp [outcome, LoadOutcome.isRestored]

end Inspection

/-- A codec that takes every payload, with a checksum over all of it. -/
structure Codec.Lenient (codec : Codec) : Prop where
  span : codec.span = .full
  takes : ∀ payload, ∃ live, codec.deserialize payload = .ok live

/-- To a lenient codec a range is restored exactly if there is a payload to be read in it. -/
theorem Codec.Lenient.outcome_read_iff {codec : Codec} (lenient : codec.Lenient)
    {appSignature : UInt32} {maxVersion : UInt16} {range : Bytes} :
    Image.outcome (Image.read appSignature maxVersion codec range) = .restored ↔
      ∃ payload, Image.payload appSignature maxVersion .full range = .ok payload := by
  rw [Image.read, lenient.span]
  cases Image.payload appSignature maxVersion .full range with
  | error reason => simp [bind, Except.bind, Image.outcome]
  | ok payload =>
      obtain ⟨live, accepted⟩ := lenient.takes payload
      have taken : Image.accept codec payload = .ok live := by
        rw [Image.accept, accepted]
        rfl
      simp [bind, Except.bind, taken, Image.outcome]

/-- Whether restoring a segment from the store gives it back. -/
def Store.restores {δ : Type} [BlockDevice δ] (store : Store δ) (segment : Segment) : Bool :=
  (restore segment store : Outcome StoreError LoadOutcome × Store δ).1 = .value .restored

/-- Whether the range of a segment begins with the bytes that commit it. -/
def MemoryMap.commits (map : MemoryMap) (content : Cells) (segment : Segment) : Bool :=
  (map.entry? segment).any fun entry => Committed (entry.bytesIn map.geometry content)

namespace Command

variable {settings : Settings} {geometry : Geometry} {map : MemoryMap} {content : Cells}
  {segment : Segment} {store : Store ImageFile}

/-! ## Settings that an image suits -/

/-- Some segments are listed, the image is as large as the region, and the region has room for
all of them. -/
structure Settings.Suits (settings : Settings) (geometry : Geometry) (content : Cells) : Prop where
  nonempty : settings.segments ≠ []
  region : settings.geometry (settings.regionSize.getD content.size) = .ok geometry
  size : content.size = geometry.regionSize
  roomy : Roomy geometry settings.capacities

/-- A store of the application on which nothing fails, that reads the version in which images are
written, and that takes every payload for the listed segments. -/
structure Settings.Rehearses (settings : Settings) (geometry : Geometry) (content : Cells)
    (store : Store ImageFile) : Prop where
  serves : settings.Serves geometry content store
  usable : store.driver.Usable
  maxVersion : store.config.maxVersion = Header.currentVersion
  lenient : ∀ segment ∈ settings.listed, ∃ registration,
    store.registrations.get segment = some registration ∧ registration.codec.Lenient

namespace Settings

theorem isSome_capacities_iff :
    (settings.capacities.get segment).isSome ↔ segment ∈ settings.listed := by
  constructor
  · intro known
    obtain ⟨_, capacity⟩ := Option.isSome_iff_exists.1 known
    exact mem_listed_of_capacity capacity
  · exact fun listed => isSome_enterEach (mem_listed.1 listed)

/-- Every listed segment has its place in an image that suits. -/
theorem Suits.planned (suits : settings.Suits geometry content) :
    ∃ map, MemoryMap.planned geometry settings.capacities = .value map ∧
      ∀ segment ∈ settings.listed, ∃ entry, map.entry? segment = some entry := by
  obtain ⟨map, plans, places⟩ := suits.roomy.planned (geometry_eq_ok suits.region).1
  exact ⟨map, plans, fun segment listed => places segment (isSome_capacities_iff.2 listed)⟩

/-- The listed segments with codecs that store any live bytes as they are, and take them back. -/
def lenients (settings : Settings) : List (Segment × Registration) :=
  settings.segments.map fun pair => (pair.1, { codec := .scripted pair.2 none none, live := [] })

/-- A store that is opened on an image with such codecs restores whatever can be restored. -/
theorem rehearses_opened (image : ImageFile) (clock : Clock) :
    settings.Rehearses image.geometry image.content (registerEach
      (Store.start image { appSignature := settings.appSignature } clock) settings.lenients) := by
  have room : enterEach (.replicate none) (roomOf settings.lenients) = settings.capacities := by
    rw [roomOf, lenients, List.map_map]
    exact congrArg _ (List.map_id _)
  have serves : settings.Serves image.geometry image.content (registerEach
      (Store.start image { appSignature := settings.appSignature } clock) settings.lenients) :=
    serves_opened clock rfl room
  obtain ⟨-, same, driver⟩ := registerEach_serves
    (Store.settled_start trivial { appSignature := settings.appSignature } clock) rfl
    settings.lenients
  refine ⟨serves, ⟨trivial, ?_⟩, ?_, fun segment listed => ?_⟩
  · rw [driver]
    intro reason failed
    cases failed
  · rw [same]
    rfl
  · have known := isSome_capacities_iff.2 listed
    rw [← serves.capacities, serves.settled.capacities, Option.isSome_map] at known
    obtain ⟨registration, registered⟩ := Option.isSome_iff_exists.1 known
    refine ⟨registration, registered, ?_⟩
    rcases mem_of_registerEach registered with unknown | part
    · rw [show (Store.start image _ clock).registrations = .replicate none from rfl,
        Table.get_replicate] at unknown
      contradiction
    · obtain ⟨pair, -, made⟩ := List.mem_map.1 part
      cases made
      exact ⟨rfl, fun payload => ⟨payload, rfl⟩⟩

/-- In which order different segments are listed makes no difference to their room. -/
theorem capacities_perm {segments : List (Segment × Nat)} (same : segments.Perm settings.segments)
    (once : (settings.segments.map Prod.fst).Nodup) :
    capacities { settings with segments } = settings.capacities :=
  ((Lists.of_once once).perm same).enterEach_eq

/-- Nor does it to the order in which they are checked. -/
theorem listed_perm {segments : List (Segment × Nat)} (same : segments.Perm settings.segments) :
    listed { settings with segments } = settings.listed :=
  List.filter_congr fun _ _ => decide_eq_decide.2 (same.map Prod.fst).mem_iff

/-- So the image is opened and reported on as before. -/
theorem collect_perm {segments : List (Segment × Nat)} (same : segments.Perm settings.segments)
    (once : (settings.segments.map Prod.fst).Nodup) :
    collect { settings with segments } = settings.collect := by
  have opens : openDriver { settings with segments } = settings.openDriver := by
    funext image
    have isEmpty : segments.isEmpty = settings.segments.isEmpty := by
      rw [Bool.eq_iff_iff, List.isEmpty_iff, List.isEmpty_iff]
      exact ⟨fun empty => (empty ▸ same).symm.eq_nil, fun empty => (empty ▸ same).eq_nil⟩
    have room : enterEach (.replicate none) segments =
        enterEach (.replicate none) settings.segments := capacities_perm same once
    simp only [openDriver, SegmentDriver.foldl_reserve, isEmpty, room]
    rfl
  have uses {α : Type} (use : Action (SegmentDriver ImageFile) StoreError α) :
      withDriver { settings with segments } use = settings.withDriver use := by
    funext workspace
    rw [withDriver, withDriver, opens]
  rw [collect, collect, uses, listed_perm same]

end Settings

/-! ## The report -/

/-- Restoring a listed segment comes to what its range holds. -/
theorem Settings.Rehearses.restores_iff (rehearses : settings.Rehearses geometry content store)
    (planned : MemoryMap.planned geometry settings.capacities = .value map) {entry : MapEntry}
    (found : map.entry? segment = some entry) (listed : segment ∈ settings.listed) :
    store.restores segment = true ↔ ∃ payload, Image.payload settings.appSignature
      Header.currentVersion .full (entry.bytesIn geometry content) = .ok payload := by
  obtain ⟨registration, registered, lenient⟩ := rehearses.lenient segment listed
  have serves := rehearses.serves
  have placed := (serves.placed_iff planned).2 found
  obtain ⟨_, asked⟩ := rehearses.usable.asked serves.settled.planned placed
  obtain ⟨_, restores, -⟩ := Store.restore_of_healthy (ε := StoreError)
    serves.settled.planned.sound trivial registered (congrArg Prod.fst asked)
  have reads : store.reading registration.codec entry = Image.read settings.appSignature
      Header.currentVersion registration.codec (entry.bytesIn geometry content) := by
    rw [Store.reading, serves.appSignature, rehearses.maxVersion, serves.contents]
  rw [Store.restores, restores, decide_eq_true_eq, Outcome.value.injEq, reads]
  exact lenient.outcome_read_iff

/-- The verdict on a listed segment is what restoring it comes to. -/
theorem Settings.Rehearses.verdict_iff (rehearses : settings.Rehearses geometry content store)
    (size : content.size = geometry.regionSize)
    (planned : MemoryMap.planned geometry settings.capacities = .value map) {entry : MapEntry}
    (found : map.entry? segment = some entry) (listed : segment ∈ settings.listed)
    (range : entry.Fits geometry) {inspection : Inspection}
    (inspected : inspection = .ofRange entry settings.appSignature Header.currentVersion .full
      (entry.bytesIn geometry content)) :
    (inspection.verdict = .valid ↔ store.restores segment) ∧
      (inspection.verdict = .invalid ↔
        map.commits content segment ∧ ¬ store.restores segment) := by
  have long := length_bytesIn size range
  have data := range.maxDataSize
  have room := range.room
  have restored : inspection.outcome.isRestored = store.restores segment := by
    rw [inspected, Bool.eq_iff_iff, rehearses.restores_iff planned found listed]
    exact Inspection.isRestored_ofRange_iff (by omega) (by omega)
  have committed : inspection.isCommitted = map.commits content segment := by
    rw [inspected, Inspection.isCommitted_ofRange (by omega), MemoryMap.commits, found,
      (MemoryMap.planned_eq_value planned).1.laidOut.geometry_eq]
    rfl
  rw [Inspection.verdict, restored, committed]
  cases store.restores segment <;> cases map.commits content segment <;> simp

namespace ImageReport

/-- Every segment has one of the three verdicts. -/
theorem count_add (report : ImageReport) :
    report.count .valid + report.count .empty + report.count .invalid = report.segments.length := by
  rw [count, count, count]
  induction report.segments with
  | nil => rfl
  | cons inspection rest ih =>
      simp only [List.countP_cons, List.length_cons]
      cases inspection.verdict <;> simp <;> omega

/-- The report checks the listed segments, each once and in their order. -/
structure Covers (report : ImageReport) (settings : Settings) : Prop where
  listed : report.segments.map (·.entry.segment) = settings.listed
  mem_iff : ∀ segment, segment ∈ report.segments.map (·.entry.segment) ↔
    ∃ maxPayload, (segment, maxPayload) ∈ settings.segments
  ordered : (report.segments.map (·.entry.segment)).Pairwise (·.ordinal < ·.ordinal)
  counted : report.count .valid + report.count .empty + report.count .invalid =
    report.segments.length

/-- The verdicts of the report are those of restoring the listed segments from the store. -/
structure Foretells (report : ImageReport) (settings : Settings) (content : Cells)
    (store : Store ImageFile) : Prop where
  valid_iff : ∀ inspection ∈ report.segments,
    inspection.verdict = .valid ↔ store.restores inspection.entry.segment
  invalid_iff : ∀ inspection ∈ report.segments, inspection.verdict = .invalid ↔
    report.map.commits content inspection.entry.segment ∧
      ¬ store.restores inspection.entry.segment
  valid : report.count .valid = settings.listed.countP store.restores
  invalid : report.count .invalid = settings.listed.countP fun segment =>
    report.map.commits content segment && !store.restores segment

/-- A verdict that is settled for each segment is counted over the listed segments. -/
theorem count_eq {report : ImageReport} {verdict : Verdict} {holds : Segment → Bool}
    (listed : report.segments.map (·.entry.segment) = settings.listed)
    (told : ∀ inspection ∈ report.segments,
      inspection.verdict = verdict ↔ holds inspection.entry.segment = true) :
    report.count verdict = settings.listed.countP holds := by
  rw [count, ← listed, List.countP_map]
  refine List.countP_congr fun inspection member => ?_
  rw [decide_eq_true_eq]
  exact told inspection member

/-- Verdicts that are settled for each segment foretell what restoring comes to. -/
theorem Foretells.of_each {report : ImageReport}
    (listed : report.segments.map (·.entry.segment) = settings.listed)
    (valid_iff : ∀ inspection ∈ report.segments,
      inspection.verdict = .valid ↔ store.restores inspection.entry.segment)
    (invalid_iff : ∀ inspection ∈ report.segments, inspection.verdict = .invalid ↔
      report.map.commits content inspection.entry.segment ∧
        ¬ store.restores inspection.entry.segment) :
    report.Foretells settings content store where
  valid_iff := valid_iff
  invalid_iff := invalid_iff
  valid := count_eq listed valid_iff
  invalid := count_eq listed fun inspection member => by
    rw [invalid_iff inspection member, Bool.and_eq_true, Bool.not_eq_true', Bool.not_eq_true]

end ImageReport

/-- What verifying an image that suits the settings reports, and that it changes nothing but the
lines. -/
theorem verify_of_suits (suits : settings.Suits geometry content) :
    ∃ report : ImageReport,
      MemoryMap.planned geometry settings.capacities = .value report.map ∧
      report.Covers settings ∧
      (∀ workspace : Workspace, workspace.image = .file content → settings.verify workspace =
        (if report.count .invalid = 0 then .value ()
          else .error (.verificationFailed (report.count .invalid)),
        { workspace with lines := workspace.lines ++
            [s!"Verifying flash image at {settings.path}"] ++ [""] ++ report.verification })) ∧
      (∃ store, settings.Rehearses geometry content store) ∧
      (∀ store, settings.Rehearses geometry content store →
        report.Foretells settings content store) ∧
      ∀ segments, segments.Perm settings.segments → (settings.segments.map Prod.fst).Nodup →
        Settings.collect { settings with segments } = settings.collect ∧
        Settings.verify { settings with segments } = settings.verify := by
  obtain ⟨map, planned, fitted⟩ := suits.planned
  obtain ⟨image, opens, rfl, rfl⟩ := Settings.openImage_of_geometry suits.region suits.size
  obtain ⟨entries, named, places, collects⟩ :=
    collect_of_opens suits.nonempty opens planned fitted
  generalize seen : (entries.map fun entry => Inspection.ofRange entry settings.appSignature
    Header.currentVersion .full (entry.bytesIn image.geometry image.content)) = segments at collects
  have listed : segments.map (·.entry.segment) = settings.listed := by
    rw [← named, ← seen, List.map_map]
    exact List.map_congr_left fun entry _ => congrArg _ Inspection.entry_ofRange
  refine ⟨⟨settings.path, map, segments⟩, planned, ⟨listed, fun segment => ?_, ?_, ?_⟩,
    fun workspace holds => verify_of_collects collects holds,
    ⟨_, Settings.rehearses_opened image {}⟩, fun store rehearses => ?_, fun segments same once => ?_⟩
  · rw [listed, Settings.mem_listed, List.mem_map]
    simp
  · rw [listed]
    exact List.Pairwise.filter _ (by decide)
  · exact ImageReport.count_add _
  · have each : ∀ inspection ∈ segments,
        (inspection.verdict = .valid ↔ store.restores inspection.entry.segment) ∧
          (inspection.verdict = .invalid ↔ map.commits image.content inspection.entry.segment ∧
            ¬ store.restores inspection.entry.segment) := by
      intro inspection member
      have asked : inspection.entry.segment ∈ settings.listed := listed ▸ List.mem_map_of_mem member
      obtain ⟨entry, placed, rfl⟩ := List.mem_map.1 (seen ▸ member)
      obtain ⟨found, range⟩ := places entry placed
      rw [Inspection.entry_ofRange] at asked ⊢
      exact rehearses.verdict_iff suits.size planned found asked range rfl
    exact .of_each listed (fun _ member => (each _ member).1) fun _ member => (each _ member).2
  · have same := Settings.collect_perm same once
    refine ⟨same, ?_⟩
    rw [Settings.verify, Settings.verify, same]

/-- An image in which the lower of the two ranges was committed without a header. -/
def headlessImage : Cells :=
  (Image.commitMark ++ List.replicate 24 0 ++ List.replicate 32 0xff).toArray

theorem verify_of_suits_sample :
    (sampleSettings.verify { image := .file headlessImage }).1 = .error (.verificationFailed 1) ∧
      ∃ (report : ImageReport) (store : Store ImageFile),
        sampleSettings.Rehearses ⟨32, 64, 4, 16, 1⟩ headlessImage store ∧
        report.Foretells sampleSettings headlessImage store ∧ report.count .invalid = 1 := by
  have suits : sampleSettings.Suits ⟨32, 64, 4, 16, 1⟩ headlessImage :=
    ⟨by decide, by decide, rfl, by decide, by decide⟩
  have fails : (sampleSettings.verify { image := .file headlessImage }).1 =
      .error (.verificationFailed 1) := by decide +kernel
  obtain ⟨report, -, -, verifies, ⟨store, rehearses⟩, foretells, -⟩ := verify_of_suits suits
  refine ⟨fails, report, store, rehearses, foretells store rehearses, ?_⟩
  rw [verifies _ rfl] at fails
  split at fails
  · contradiction
  · exact Failure.verificationFailed.inj (Outcome.error.inj fails)

end Command

end NorStore
