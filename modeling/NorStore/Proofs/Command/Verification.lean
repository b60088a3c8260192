/-
# What a verification reports

Verifying an image looks at every listed segment without its codec, and takes each checksum for
one over the whole payload. A segment for which nothing was stored is found empty. One whose
checksum covers the whole payload is found valid, and so is one whose checksum leaves out a last
byte that is zero. Any other segment is found invalid, although its own codec restores it.
-/

import Mathlib.Control.Monad.Basic
import NorStore.Proofs.Command.Making
import NorStore.Proofs.Driver.Glancing
import NorStore.Proofs.Store.Restoring

namespace NorStore

open NorStore.Flash (Cells ChipView Geometry ImageFile)
open NorStore.Segment (Table)

namespace Inspection

variable {entry : MapEntry} {appSignature : UInt32} {maxVersion : UInt16} {span : ChecksumSpan}
  {range : Bytes}

private theorem ofRange_eq :
    (ofRange entry appSignature maxVersion span range).entry = entry ∧
      (ofRange entry appSignature maxVersion span range).ledger =
        Ledger.decode (range.take Ledger.size) := by
  rw [ofRange]
  dsimp only
  split
  · split
    · exact ⟨rfl, rfl⟩
    · rw [withPayload]
      split <;> exact ⟨rfl, rfl⟩
  · exact ⟨rfl, rfl⟩

@[simp]
theorem entry_ofRange : (ofRange entry appSignature maxVersion span range).entry = entry :=
  ofRange_eq.1

@[simp]
theorem ledger_ofRange : (ofRange entry appSignature maxVersion span range).ledger =
    Ledger.decode (range.take Ledger.size) := ofRange_eq.2

/-- A range counts as committed if its first bytes are the ones that commit. -/
theorem isCommitted_ofRange (long : Ledger.size ≤ range.length) :
    (ofRange entry appSignature maxVersion span range).isCommitted = decide (Committed range) := by
  have whole : (range.take Ledger.size).length = Ledger.size := by
    rw [List.length_take, Nat.min_eq_left long]
  rw [isCommitted, ledgerState, ledger_ofRange]
  exact decide_eq_decide.2 (Ledger.classify_eq_committed_iff.trans (Ledger.decode_eq_iff whole))

end Inspection

namespace Command

/-! ## What is found of what was stored -/

/-- The checksum leaves nothing out, or a last byte that is zero. -/
def Stored.Whole (stored : Stored) : Prop :=
  stored.span = .full ∨ stored.payload.getLast?.getD 0 = 0

instance (stored : Stored) : Decidable stored.Whole :=
  inferInstanceAs (Decidable (stored.span = .full ∨ stored.payload.getLast?.getD 0 = 0))

/-- Only then it is the checksum of the whole payload. -/
theorem Stored.whole_iff (stored : Stored) :
    stored.Whole ↔ checksum stored.payload .full = checksum stored.payload stored.span := by
  obtain ⟨payload, span⟩ := stored
  cases span with
  | full => simp [Whole]
  | excludeLast =>
      rcases List.eq_nil_or_concat payload with rfl | ⟨front, last, rfl⟩
      · simp [Whole, checksum, ChecksumSpan.covered]
      · have sums (sum : UInt8) : sum + last = sum ↔ last = 0 := by
          rw [← UInt8.toNat_inj, ← UInt8.toNat_inj, UInt8.toNat_add]
          have small := sum.toNat_lt
          have bound := last.toNat_lt
          show _ ↔ last.toNat = 0
          omega
        simp [Whole, checksum, ChecksumSpan.covered, sums]

/-- What looking at a segment comes to, for which that was stored last. -/
def foretold : Option Stored → LoadOutcome
  | none => .lost .noPersistence
  | some stored => if stored.Whole then .restored else .lost (.corruption .unverified)

/-- The verdict on such a segment. -/
def verdictOn : Option Stored → Verdict
  | none => .empty
  | some stored => if stored.Whole then .valid else .invalid

variable {appSignature : UInt32} {entry : MapEntry} {range : Bytes}

/-- What is found of a range is what was stored in it last. -/
theorem Told.outcome_ofRange {cell : Option Stored} (told : Told appSignature cell range)
    (room : range.length ≤ Ledger.size + entry.maxDataSize) :
    (Inspection.ofRange entry appSignature Header.currentVersion .full range).outcome =
      foretold cell := by
  cases cell with
  | none =>
      have uncommitted : ¬ Committed range := told
      simp only [Inspection.ofRange, if_neg uncommitted]
      rfl
  | some stored =>
      obtain ⟨short, carries⟩ := told
      have inside := carries.le_length
      have length := carries.toNat_length short
      have judged : (Image.header range).judge entry appSignature Header.currentVersion = .ok () :=
        Header.judge_eq_ok_iff.2 ⟨carries.validate (UInt16.le_refl _), by omega⟩
      by_cases whole : stored.Whole
      · have verified := (carries.verify short .full).trans (if_pos (stored.whole_iff.1 whole))
        simp only [Inspection.ofRange, if_pos carries.isCommitted, judged, length,
          carries.behind_header, Inspection.withPayload, verified, foretold, if_pos whole]
        rfl
      · have refused := (carries.verify short .full).trans
          (if_neg (mt stored.whole_iff.2 whole))
        simp only [Inspection.ofRange, if_pos carries.isCommitted, judged, length,
          carries.behind_header, Inspection.withPayload, refused, foretold, if_neg whole]
        rfl

/-- A range counts as committed if something was stored in it. -/
theorem Told.isCommitted_ofRange {cell : Option Stored} {maxVersion : UInt16} {span : ChecksumSpan}
    (told : Told appSignature cell range) (long : Ledger.size ≤ range.length) :
    (Inspection.ofRange entry appSignature maxVersion span range).isCommitted = cell.isSome := by
  rw [Inspection.isCommitted_ofRange long]
  cases cell with
  | none => exact decide_eq_false told
  | some stored => exact decide_eq_true told.2.isCommitted

theorem Told.verdict_ofRange {cell : Option Stored} (told : Told appSignature cell range)
    (long : Ledger.size ≤ range.length) (room : range.length ≤ Ledger.size + entry.maxDataSize) :
    (Inspection.ofRange entry appSignature Header.currentVersion .full range).verdict =
      verdictOn cell := by
  rw [Inspection.verdict, told.outcome_ofRange room, told.isCommitted_ofRange long]
  cases cell with
  | none => rfl
  | some stored =>
      by_cases whole : stored.Whole
      · simp [foretold, verdictOn, whole, LoadOutcome.isRestored]
      · simp [foretold, verdictOn, whole, LoadOutcome.isRestored]

/-! ## The report -/

variable {settings : Settings} {geometry : Geometry} {map : MemoryMap} {content : Cells}
  {record : Table (Option Stored)} {segment : Segment} {image : ImageFile}

/-- A range of an image is as long as the map says. -/
theorem length_bytesIn (size : content.size = geometry.regionSize) (range : entry.Fits geometry) :
    (entry.bytesIn geometry content).length = entry.reserved := by
  have first := range.first
  have last := range.last
  rw [MapEntry.past] at last
  exact Cells.length_slice (by omega)

/-- The driver that a command uses knows the room that is listed, and has no map yet. -/
theorem openDriver_of_opens (nonempty : settings.segments ≠ []) {found : Host.Entry}
    (opens : settings.openImage found = .ok image) :
    settings.openDriver found = .ok { device := image, capacities := settings.capacities } := by
  have listed : ¬ settings.segments.isEmpty = true := by
    rwa [List.isEmpty_iff]
  rw [Settings.openDriver, if_neg listed, opens]
  exact congrArg Except.ok (SegmentDriver.foldl_reserve { device := image } settings.segments)

/-- What a command that inspects the listed segments collects, if it changes nothing. -/
private theorem collect_of_inspects {driver reached : SegmentDriver ImageFile}
    {found : List Inspection} {workspace : Workspace} (holds : workspace.image = .file content)
    (opened : settings.openDriver (.file content) = .ok driver)
    (inspects : (settings.listed.mapM fun segment => SegmentDriver.inspect segment
      settings.appSignature Header.currentVersion .full) driver = (.value found, reached))
    (mapped : reached.planner = .mapped map) (kept : reached.device.content = content) :
    settings.collect workspace = (.value ⟨settings.path, map, found⟩, workspace) := by
  have collects : (do
      let segments ← settings.listed.mapM fun segment =>
        SegmentDriver.inspect segment settings.appSignature Header.currentVersion .full
      return (segments, (← get).memoryMap?)) driver = (.value (found, some map), reached) := by
    rw [Action.bind_of_value inspects, Action.get_bind, SegmentDriver.memoryMap?, mapped]
    rfl
  have uses : settings.withDriver (do
      let segments ← settings.listed.mapM fun segment =>
        SegmentDriver.inspect segment settings.appSignature Header.currentVersion .full
      return (segments, (← get).memoryMap?)) workspace =
      (.value (found, some map), workspace) := by
    simp only [Settings.withDriver, holds, opened, collects, kept]
    rw [← holds]
    rfl
  rw [Settings.collect, Action.bind_of_value uses]
  rfl

/-- What is collected on an image that the settings fit: the bytes of every listed segment in its
place, each segment once, and nothing has changed. -/
theorem collect_of_opens (nonempty : settings.segments ≠ [])
    (opens : settings.openImage (.file image.content) = .ok image)
    (plans : MemoryMap.planned image.geometry settings.capacities = .value map)
    (fitted : ∀ segment ∈ settings.listed, ∃ entry, map.entry? segment = some entry) :
    ∃ entries : List MapEntry, entries.map MapEntry.segment = settings.listed ∧
      (∀ entry ∈ entries, map.entry? entry.segment = some entry ∧ entry.Fits image.geometry) ∧
      ∀ workspace : Workspace, workspace.image = .file image.content →
        settings.collect workspace = (.value ⟨settings.path, map, entries.map fun entry =>
          .ofRange entry settings.appSignature Header.currentVersion .full
            (entry.bytesIn image.geometry image.content)⟩, workspace) := by
  have opened := openDriver_of_opens nonempty opens
  generalize made : ({ device := image, capacities := settings.capacities } :
    SegmentDriver ImageFile) = driver at opened
  have unmapped : driver.planner = .unmapped := by rw [← made]
  have device : driver.device = image := by rw [← made]
  have planned : driver.Planned := ⟨trivial, by simp [unmapped]⟩
  have usable : driver.Usable := ⟨trivial, by simp [unmapped]⟩
  have plans : MemoryMap.planned (ChipView.shape driver.device) driver.capacities =
      .value map := by
    rw [← made]
    exact plans
  obtain ⟨entries, reached, inspects, named, places, glances, known⟩ :=
    SegmentDriver.inspectEach_of_usable settings.appSignature Header.currentVersion .full planned
      usable fun segment listed =>
        (fitted segment listed).imp fun _ => (SegmentDriver.placed_iff plans).2
  have kept : reached.device.content = image.content := by
    rw [← device]
    exact glances.cells
  have listed : settings.listed ≠ [] := by
    obtain ⟨pair, listed⟩ := List.exists_mem_of_ne_nil _ nonempty
    exact List.ne_nil_of_mem (Settings.mem_listed.2 (List.mem_map_of_mem listed))
  have mapped : reached.planner = .mapped map := by
    obtain ⟨other, known⟩ := known listed
    have again := (glances.planned planned).planned other known
    rw [glances.keeps.shape, glances.capacities, plans] at again
    cases again
    exact known
  have holds (entry : MapEntry) :
      driver.contents entry = entry.bytesIn image.geometry image.content := by
    rw [← device]
    rfl
  simp only [holds] at inspects
  refine ⟨entries, named, fun entry listed => ?_, fun workspace holds =>
    collect_of_inspects holds opened inspects mapped kept⟩
  have placed := places entry listed
  have range := placed.fits
  rw [device] at range
  exact ⟨(SegmentDriver.placed_iff plans).1 placed, range⟩

/-- The report on an image says of each listed segment what was stored last for it. -/
theorem collect_of_reflects (fits : settings.Fits geometry map)
    (reflects : Reflects settings.appSignature geometry map content record) :
    ∃ report : ImageReport, report.map = map ∧
      report.segments.map (fun inspection =>
          (inspection.entry.segment, inspection.verdict, inspection.outcome)) =
        settings.listed.map (fun segment =>
          (segment, verdictOn (record.get segment), foretold (record.get segment))) ∧
      ∀ workspace : Workspace, workspace.image = .file content →
        settings.collect workspace = (.value report, workspace) := by
  obtain ⟨image, opens, rfl, rfl⟩ := Settings.openImage_of_size fits.region reflects.size
  obtain ⟨entries, named, places, collects⟩ :=
    collect_of_opens fits.nonempty opens fits.planned fits.placed
  refine ⟨_, rfl, ?_, collects⟩
  rw [← named, List.map_map, List.map_map]
  refine List.map_congr_left fun entry listed => ?_
  obtain ⟨found, range⟩ := places entry listed
  have told := reflects.ranges entry.segment entry found
  have long := length_bytesIn reflects.size range
  have data := range.maxDataSize
  have room := range.room
  simp only [Function.comp_apply, Inspection.entry_ofRange]
  rw [told.verdict_ofRange (by omega) (by omega), told.outcome_ofRange (by omega)]

/-! ## The verdict -/

/-- How many of the listed segments do not have the checksum of their whole payload. -/
def Settings.misread (settings : Settings) (record : Table (Option Stored)) : Nat :=
  settings.listed.countP fun segment => verdictOn (record.get segment) = .invalid

theorem forM_printLine (lines : List String) (workspace : Workspace) :
    (lines.forM printLine : Action Workspace Failure Unit) workspace =
      (.value (), { workspace with lines := workspace.lines ++ lines }) := by
  induction lines generalizing workspace with
  | nil =>
      rw [List.append_nil]
      rfl
  | cons line rest ih =>
      have prints : printLine line workspace =
          (.value (), { workspace with lines := workspace.lines ++ [line] }) := rfl
      have begins : ((line :: rest).forM printLine : Action Workspace Failure Unit) =
          printLine line >>= fun _ => rest.forM printLine := rfl
      rw [begins, Action.bind_of_value prints, ih, List.append_assoc, List.singleton_append]

/-- What verifying comes to once the report is there. -/
theorem verify_of_collects {report : ImageReport}
    (collects : ∀ workspace : Workspace, workspace.image = .file content →
      settings.collect workspace = (.value report, workspace)) {workspace : Workspace}
    (holds : workspace.image = .file content) :
    settings.verify workspace =
      (if report.count .invalid = 0 then .value ()
        else .error (.verificationFailed (report.count .invalid)),
      { workspace with lines := workspace.lines ++
          [s!"Verifying flash image at {settings.path}"] ++ [""] ++ report.verification }) := by
  obtain ⟨image, lines⟩ := workspace
  change image = .file content at holds
  have begins (line : String) (lines : List String) : printLine line ⟨image, lines⟩ =
      (.value (), ⟨image, lines ++ [line]⟩) := rfl
  rw [Settings.verify, Action.bind_of_value (begins _ _), Action.bind_of_value (begins _ _),
    Action.bind_of_value (collects ⟨image, _⟩ holds), Action.bind_of_value (forM_printLine _ _)]
  split <;> rfl

/-- An image that was made by formatting it and storing segments is verified to what was stored
last: segments without anything stored are empty, and the others valid or invalid according to
whether their checksum is that of the whole payload. Verifying succeeds exactly if none is
invalid. Every stored segment is restored by a store whose codec has its span, all the same. -/
theorem verify_of_made (fits : settings.Fits geometry map)
    (made : settings.Made geometry content record) :
    (∃ report : ImageReport, report.map = map ∧
      report.segments.map (fun inspection =>
          (inspection.entry.segment, inspection.verdict, inspection.outcome)) =
        settings.listed.map (fun segment =>
          (segment, verdictOn (record.get segment), foretold (record.get segment))) ∧
      ∀ workspace : Workspace, workspace.image = .file content → settings.verify workspace =
        (if settings.misread record = 0 then .value ()
          else .error (.verificationFailed (settings.misread record)),
        { workspace with lines := workspace.lines ++
            [s!"Verifying flash image at {settings.path}"] ++ [""] ++ report.verification })) ∧
    ∀ (store : Store ImageFile) segment registration stored live,
      settings.Serves geometry content store → store.driver.Usable →
      store.registrations.get segment = some registration →
      record.get segment = some stored → registration.codec.span = stored.span →
      registration.codec.deserialize stored.payload = .ok live →
      Header.currentVersion ≤ store.config.maxVersion →
      ∃ after, (Store.restore segment store : Outcome StoreError _ × _) =
        (.value .restored, after) ∧ after.live? segment = some live := by
  have reflects := made.reflects fits
  constructor
  · obtain ⟨report, same, told, collects⟩ := collect_of_reflects fits reflects
    have counted : report.count .invalid = settings.misread record := by
      have verdicts := congrArg (List.countP fun seen => decide (seen.2.1 = Verdict.invalid)) told
      rw [List.countP_map, List.countP_map] at verdicts
      exact verdicts
    refine ⟨report, same, told, fun workspace holds => ?_⟩
    rw [verify_of_collects collects holds, counted]
  · intro store segment registration stored live serves usable registered recorded span accepted
      known
    obtain ⟨entry, found⟩ := fits.placed segment (serves.mem_listed registered)
    have placed := (serves.placed_iff fits.planned).2 found
    obtain ⟨_, asked⟩ := usable.asked serves.settled.planned placed
    have told := reflects.ranges segment entry found
    rw [recorded] at told
    obtain ⟨short, carries⟩ := told
    rw [← span, ← serves.contents, ← serves.appSignature] at carries
    have reads := Store.reading_of_carries carries short known accepted
    obtain ⟨after, restores, came⟩ := Store.restore_of_healthy serves.settled.planned.sound trivial
      registered (congrArg Prod.fst asked)
    have lives := came.live
    rw [Store.live?_of_registered registered] at lives
    rw [reads] at restores lives
    exact ⟨after, restores, lives⟩

/-! ### A region for two segments -/

/-- Room for two segments in four blocks. -/
def sampleSettings : Settings where
  path := "nvm.img"
  blockSize := 16
  regionOffset := 32
  regionSize := some 64
  segments := [(.applicationData, 4), (.networkImage, 8)]
  appSignature := 7

theorem sampleSettings_fits : ∃ map, sampleSettings.Fits ⟨32, 64, 4, 16, 1⟩ map := by
  have plans : ∃ map, MemoryMap.planned ⟨32, 64, 4, 16, 1⟩ sampleSettings.capacities =
      .value map ∧ ∀ segment ∈ sampleSettings.listed, (map.entry? segment).isSome :=
    ⟨_, rfl, by decide⟩
  obtain ⟨map, planned, placed⟩ := plans
  exact ⟨map, by decide, rfl, planned,
    fun segment listed => Option.isSome_iff_exists.1 (placed segment listed)⟩

private theorem ends_of_fst {α : Type} {ended : Outcome Failure α × Workspace}
    {outcome : Outcome Failure α} (told : ended.1 = outcome) : ended = (outcome, ended.2) :=
  Prod.ext told rfl

/-- A payload is stored with a full checksum, and another without its last byte, which is zero. -/
theorem verify_of_made_sample :
    ∃ formatted first second, sampleSettings.format false {} = (.value (), formatted) ∧
      sampleSettings.storePayload .applicationData [1, 2, 3] .full formatted =
        (.value (.ok ()), first) ∧
      sampleSettings.storePayload .networkImage [5, 0] .excludeLast first =
        (.value (.ok ()), second) ∧
      (sampleSettings.verify second).1 = .value () := by
  have formats : (sampleSettings.format false {}).1 = .value () := by decide +kernel
  have stores : (sampleSettings.storePayload .applicationData [1, 2, 3] .full
      (sampleSettings.format false {}).2).1 = .value (.ok ()) := by decide +kernel
  have again : (sampleSettings.storePayload .networkImage [5, 0] .excludeLast
      (sampleSettings.storePayload .applicationData [1, 2, 3] .full
        (sampleSettings.format false {}).2).2).1 = .value (.ok ()) := by decide +kernel
  obtain ⟨map, fits⟩ := sampleSettings_fits
  have blank := Settings.format_eq_value fits.region (ends_of_fst formats)
  have begun : sampleSettings.Made ⟨32, 64, 4, 16, 1⟩ _ (.replicate none) :=
    .formatted (ends_of_fst formats) blank
  obtain ⟨_, left, made⟩ := begun.storePayload fits (by decide) blank (ends_of_fst stores)
  obtain ⟨_, holds, made⟩ := made.storePayload fits (by decide) left (ends_of_fst again)
  obtain ⟨_, -, -, verifies⟩ := (verify_of_made fits made).1
  refine ⟨_, _, _, ends_of_fst formats, ends_of_fst stores, ends_of_fst again, ?_⟩
  have valid : sampleSettings.misread (((Table.replicate none).set .applicationData
      (some ⟨[1, 2, 3], .full⟩)).set .networkImage (some ⟨[5, 0], .excludeLast⟩)) = 0 := by decide
  rw [verifies _ holds, if_pos valid]

/-- Formatting and storing one segment succeed, and so does restoring it with its own codec, but
verifying fails. -/
theorem verificationFailed_of_stored :
    let formatted := (sampleSettings.format false {}).2
    let stored := (sampleSettings.storePayload .applicationData [7, 9] .excludeLast formatted).2
    let restored := (sampleSettings.openImage stored.image).map fun image =>
      (Store.restore .applicationData (registerEach (Store.start image { appSignature := 7 } {})
        (sampleSettings.blobs .applicationData [] .excludeLast)) : Outcome StoreError _ × _).1
    (sampleSettings.format false {}).1 = .value () ∧
      (sampleSettings.storePayload .applicationData [7, 9] .excludeLast formatted).1 =
        .value (.ok ()) ∧
      restored = .ok (.value .restored) ∧
      (sampleSettings.verify stored).1 = .error (.verificationFailed 1) := by
  decide +kernel

end Command

end NorStore
