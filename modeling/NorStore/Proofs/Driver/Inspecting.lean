/-
# Inspecting a segment

Inspection reads a segment as restoring does, ledger, header and payload, but keeps what it
has read so far when a step fails. On a device on which nothing fails it reports what the
range holds. On any device it says what reading the segment would come to: both make the same
accesses in the same order for as long as reading goes on, so a device that starts from the
same state fails both at the same point.
-/

import NorStore.Proofs.Driver.Looking
import NorStore.Proofs.Driver.Reading

namespace NorStore

open NorStore.Flash (BlockDevice ChipView NorDevice)

/-- Two reasons for a loss that may only differ in the detail of a corruption. -/
inductive LossReason.Alike : LossReason → LossReason → Prop
  | refl (reason : LossReason) : Alike reason reason
  | corruption (detail other : Corruption) : Alike (.corruption detail) (.corruption other)

/-- An inspection that has also seen the payload. -/
def Inspection.withPayload (inspection : Inspection) (header : Header) (payload : Bytes)
    (span : ChecksumSpan) : Inspection :=
  match header.verify payload span with
  | .ok () => { inspection with headerCheck := .ok (), checksum := .valid }
  | .error _ => { inspection with headerCheck := .ok (), checksum := .invalid }

/-- What there is to say about a range from its bytes. -/
def Inspection.ofRange (entry : MapEntry) (appSignature : UInt32) (maxVersion : UInt16)
    (span : ChecksumSpan) (range : Bytes) : Inspection :=
  let header := Image.header range
  let inspection : Inspection :=
    { entry, ledger := Ledger.decode (range.take Ledger.size), header := some header }
  if Committed range then
    match header.judge entry appSignature maxVersion with
    | .error reason => { inspection with headerCheck := .error reason }
    | .ok () =>
      inspection.withPayload header ((range.drop 24).take header.length.toNat) span
  else inspection

namespace Header

variable {header : Header} {entry : MapEntry} {appSignature : UInt32} {maxVersion : UInt16}

/-- A header that may be followed is valid, and its payload fits behind it. -/
theorem judge_eq_ok_iff : header.judge entry appSignature maxVersion = .ok () ↔
    header.validate appSignature maxVersion = .ok () ∧
      header.length.toNat ≤ entry.maxDataSize - size := by
  rw [judge]
  cases header.validate appSignature maxVersion with
  | error reason => simp [bind, Except.bind]
  | ok _ => simp [bind, Except.bind]

/-- A header that is refused is not refused for its layout. -/
theorem judge_ne_layoutChange {cause : CodecError} :
    header.judge entry appSignature maxVersion ≠ .error (.layoutChange cause) := by
  rw [judge]
  cases valid : header.validate appSignature maxVersion with
  | error reason =>
      rw [validate] at valid
      simp [bind, Except.bind]
      grind
  | ok _ =>
      simp only [bind, Except.bind]
      grind

/-- A payload that is too short or does not sum up is a corruption. -/
theorem corruption_of_verify {payload : Bytes} {span : ChecksumSpan} {reason : LossReason}
    (refused : header.verify payload span = .error reason) :
    ∃ detail, reason = .corruption detail := by
  rw [verify] at refused
  grind

end Header

namespace SegmentDriver

variable {δ : Type} [BlockDevice δ] [NorDevice δ] {driver reached : SegmentDriver δ}
  {segment : Segment} {entry : MapEntry} {appSignature : UInt32} {maxVersion : UInt16}
  {span : ChecksumSpan}

/-- A ledger is outside any transaction exactly if it is the committed one. -/
private theorem isInTransaction_iff (sound : driver.Sound) (mapped : driver.Mapped segment entry) :
    (Ledger.decode ((driver.contents entry).take Ledger.size)).classify.isInTransaction = true ↔
      ¬ Committed (driver.contents entry) := by
  rw [Ledger.isInTransaction_classify, Bool.not_eq_true', decide_eq_false_iff_not,
    Ledger.decode_eq_iff (sound.length_ledger mapped), Committed]

/-- Looking at the payload behind a header that may be followed. -/
theorem inspectPayload_ends {header : Header} (inspection : Inspection) (span : ChecksumSpan)
    (sound : driver.Sound) (mapped : driver.Mapped segment entry)
    (fits : Header.size + header.length.toNat ≤ entry.maxDataSize) :
    (inspectPayload inspection header { entry, mode := .read, position := Header.size } span).Ends
      driver
      (fun found reached => Remains driver reached ∧ (ChipView.Steady driver.device →
        found = inspection.withPayload header
          (((driver.contents entry).drop 24).take header.length.toNat) span))
      fun _ _ => False := by
  apply Action.Ends.attempt_bind (read_ends sound mapped fits)
  · intro _ reached ended
    obtain ⟨remains, rfl⟩ := ended
    have behind : Ledger.size + Header.size = 24 := rfl
    dsimp only
    rw [behind, Inspection.withPayload]
    cases header.verify (((driver.contents entry).drop 24).take header.length.toNat) span with
    | error reason => exact .pure ⟨remains, fun _ => rfl⟩
    | ok _ => exact .pure ⟨remains, fun _ => rfl⟩
  · intro cause reached ended
    obtain ⟨remains, unsteady⟩ := ended
    exact .pure ⟨remains, fun steady => absurd steady unsteady⟩

/-- Inspecting a segment reports its range, unless the device fails, and changes no cell. -/
theorem inspect_ends (sound : driver.Sound) (mapped : driver.Mapped segment entry)
    (appSignature : UInt32) (maxVersion : UInt16) (span : ChecksumSpan) :
    (inspect segment appSignature maxVersion span).Ends driver
      (fun inspection reached => Remains driver reached ∧ (ChipView.Steady driver.device →
        inspection = .ofRange entry appSignature maxVersion span (driver.contents entry)))
      fun _ reached => Remains driver reached ∧ ¬ ChipView.Steady driver.device := by
  have size := (sound.fits mapped).maxDataSize
  have room := (sound.fits mapped).room
  refine .value_bind (ensureMapped_of_mapped mapped) (.bind (readLedger_ends sound mapped) ?_)
  intro ledger first ended
  obtain ⟨one, rfl⟩ := ended
  refine .attempt_bind (openForRead_ends (one.toFollows.mapped mapped)) ?_ ?_
  case refine_2 =>
    intro _ second ended
    exact .pure ⟨one.trans ended.1, fun steady => absurd (one.keeps.steady steady) ended.2⟩
  rintro _ second ⟨further, rfl⟩
  have two := one.trans further
  refine .attempt_bind (read_ends (two.toFollows.sound sound) (two.toFollows.mapped mapped)
    (by omega)) ?_ ?_
  case refine_2 =>
    intro cause third ended
    have told : Remains driver third ∧ ¬ ChipView.Steady driver.device :=
      ⟨two.trans ended.1, fun steady => ended.2 (two.keeps.steady steady)⟩
    by_cases isOpen : (Ledger.decode ((driver.contents entry).take
        Ledger.size)).classify.isInTransaction = true
    · dsimp only
      rw [if_pos isOpen]
      exact .pure ⟨told.1, fun steady => absurd steady told.2⟩
    · dsimp only
      rw [if_neg isOpen]
      exact .pure ⟨told.1, fun steady => absurd steady told.2⟩
  rintro _ third ⟨later, rfl⟩
  have three := two.trans later
  have header : Header.decode (((driver.contents entry).drop (Ledger.size + 0)).take Header.size) =
      Image.header (driver.contents entry) := rfl
  dsimp only
  rw [two.contents, header, Inspection.ofRange]
  by_cases committed : Committed (driver.contents entry)
  · rw [if_neg fun isOpen => (isInTransaction_iff sound mapped).1 isOpen committed,
      if_pos committed]
    apply Action.Ends.lift_bind (examine_of_le _ (by omega))
    cases judged : (Image.header (driver.contents entry)).judge entry appSignature maxVersion with
    | error reason => exact .pure ⟨three, fun _ => rfl⟩
    | ok _ =>
        have fits := (Header.judge_eq_ok_iff.1 judged).2
        refine (inspectPayload_ends _ span (three.toFollows.sound sound)
          (three.toFollows.mapped mapped) (by omega)).mono ?_ fun _ _ => False.elim
        intro found last ended
        obtain ⟨final, told⟩ := ended
        rw [three.contents] at told
        exact ⟨three.trans final, fun steady => told (three.keeps.steady steady)⟩
  · rw [if_pos ((isInTransaction_iff sound mapped).2 committed), if_neg committed]
    exact .pure ⟨three, fun _ => rfl⟩

/-- Inspecting a segment only looks, wherever it stops. -/
theorem inspect_looks (sound : driver.Sound) (segment : Segment) (appSignature : UInt32)
    (maxVersion : UInt16) (span : ChecksumSpan) :
    (inspect segment appSignature maxVersion span).Reaches driver (Looks driver) := by
  refine ensureMapped_reaches sound (fun _ => id) fun entry found looks soundly mapped => ?_
  refine .of_ends ((inspect_ends soundly mapped appSignature maxVersion span).mono ?_ ?_)
  · exact fun _ _ ended => looks.trans ended.1.looks
  · exact fun _ _ ended => looks.trans ended.1.looks

/-- On a steady device an inspection reports the range. -/
theorem inspect_of_steady (sound : driver.Sound) (steady : ChipView.Steady driver.device)
    (asked : (ensureMapped segment driver).1 = .value entry) (appSignature : UInt32)
    (maxVersion : UInt16) (span : ChecksumSpan) :
    (inspect segment appSignature maxVersion span driver).1 =
      .value (.ofRange entry appSignature maxVersion span (driver.contents entry)) := by
  obtain ⟨placed, asked⟩ : ∃ placed, ensureMapped segment driver = (.value entry, placed) :=
    ⟨_, Prod.ext asked rfl⟩
  have device := device_of_ensureMapped asked
  have steadily : ChipView.Steady placed.device := by rwa [device]
  have same : inspect segment appSignature maxVersion span driver =
      inspect segment appSignature maxVersion span placed := ensureMapped_bind asked _
  rcases (inspect_ends (sound.of_ensureMapped asked) (mapped_of_ensureMapped asked) appSignature
    maxVersion span).cases with ⟨_, _, ends, -, told⟩ | ⟨_, _, -, -, unsteady⟩
  · rw [same, ends, told steadily, contents_congr device]
  · exact absurd steadily unsteady

/-- Kindred drivers whose segment holds the same bytes report the same inspection. -/
theorem inspect_congr {after : SegmentDriver δ} (kin : driver.Kin after) (sound : driver.Sound)
    (soundly : after.Sound) (steady : ChipView.Steady driver.device)
    (steadily : ChipView.Steady after.device)
    (same : ∀ range, (ensureMapped segment driver).1 = .value range →
      after.contents range = driver.contents range)
    (appSignature : UInt32) (maxVersion : UInt16) (span : ChecksumSpan) :
    (inspect segment appSignature maxVersion span after).1 =
      (inspect segment appSignature maxVersion span driver).1 := by
  have told := kin.ensureMapped segment
  rcases asked : ensureMapped segment driver with ⟨range | cause | _, placed⟩
  · rw [asked] at told same
    rw [inspect_of_steady sound steady (congrArg Prod.fst asked),
      inspect_of_steady soundly steadily (congrArg Prod.fst told), same range rfl]
  · rw [asked] at told
    rw [inspect, Action.bind_of_error told, Action.bind_of_error asked]
  · rw [asked] at told
    rw [inspect, Action.bind_of_trap told, Action.bind_of_trap asked]

/-! ## Inspecting beside reading -/

/-- The payload of a segment, read as restoring reads it. -/
def fetch (segment : Segment) (appSignature : UInt32) (maxVersion : UInt16) (span : ChecksumSpan) :
    Action (SegmentDriver δ) LossReason Bytes := do
  if ← isInTransaction segment then
    throw .noPersistence
  else
    let handle ← (openForRead segment).mapError fun _ => .noPersistence
    readContent handle appSignature maxVersion span

/-- What an inspection says of the reading that starts from the same state. -/
inductive Foretells : Outcome StoreError Inspection → Outcome LossReason Bytes → Prop
  | restored {inspection : Inspection} (payload : Bytes) (told : inspection.outcome = .restored) :
      Foretells (.value inspection) (.value payload)
  | lost {inspection : Inspection} {reason found : LossReason}
      (told : inspection.outcome = .lost reason) (alike : reason.Alike found)
      (settled : ∀ cause, found ≠ .layoutChange cause) :
      Foretells (.value inspection) (.error found)
  | unread (cause : StoreError) : Foretells (.error cause) (.error .noPersistence)
  | trap : Foretells .trap .trap

/-- An inspection that found the header refused speaks of the same refusal. -/
theorem Foretells.of_refused {inspection : Inspection} {reason : LossReason}
    (told : inspection.headerCheck = .error reason)
    (settled : ∀ cause, reason ≠ .layoutChange cause) :
    Foretells (.value inspection) (.error reason) := by
  refine .lost ?_ (.refl reason) settled
  rw [Inspection.outcome, told]

/-- An inspection that did not get to the header speaks of a segment without content. -/
theorem Foretells.of_nothing {inspection : Inspection}
    (told : inspection.headerCheck = .error .noPersistence) :
    Foretells (.value inspection) (.error .noPersistence) := .of_refused told nofun

theorem Foretells.of_corrupt {inspection : Inspection} {detail : Corruption} (found : Corruption)
    (told : inspection.outcome = .lost (.corruption detail)) :
    Foretells (.value inspection) (.error (.corruption found)) :=
  .lost told (.corruption detail found) nofun

omit [BlockDevice δ] [NorDevice δ] in
/-- An inspection of a segment that is being changed, however far it gets. -/
theorem Foretells.of_open {rest : Action (SegmentDriver δ) StoreError Inspection}
    (judged : rest.Ends driver
      (fun inspection _ => inspection.headerCheck = .error .noPersistence) fun _ _ => False) :
    Foretells (rest driver).1 (.error .noPersistence) := by
  obtain ⟨inspection, reached, ends, told⟩ := judged.exists_value
  rw [ends]
  exact .of_nothing told

theorem inspectPayload_foretells {header : Header} (inspection : Inspection) (span : ChecksumSpan)
    (sound : driver.Sound) (mapped : driver.Mapped segment entry)
    (fits : Header.size + header.length.toNat ≤ entry.maxDataSize) :
    Action.Beside
      (inspectPayload inspection header { entry, mode := .read, position := Header.size } span)
      (do
        let (payload, _) ← (read { entry, mode := .read, position := Header.size } Header.size
          header.length.toNat).mapError fun cause => .corruption (.payloadUnread cause)
        match header.verify payload span with
        | .error reason => throw reason
        | .ok () => return payload)
      driver Foretells := by
  refine .attempt_bind (read_ends sound mapped fits) ?_ fun cause _ _ => ?_
  · intro result reached _
    obtain ⟨payload, handle⟩ := result
    cases verified : header.verify payload span with
    | error reason =>
        obtain ⟨detail, rfl⟩ := Header.corruption_of_verify verified
        simp only [verified]
        exact .of_corrupt _ rfl
    | ok _ =>
        simp only [verified]
        exact .restored payload rfl
  · exact .of_corrupt _ rfl

/-- Inspecting a segment foretells what reading it comes to. -/
theorem inspect_foretells (sound : driver.Sound) (mapped : driver.Mapped segment entry)
    (appSignature : UInt32) (maxVersion : UInt16) (span : ChecksumSpan) :
    Action.Beside (inspect segment appSignature maxVersion span)
      (fetch segment appSignature maxVersion span) driver Foretells := by
  have size := (sound.fits mapped).maxDataSize
  have room := (sound.fits mapped).room
  have asks : (isInTransaction segment driver : Outcome LossReason Bool × SegmentDriver δ) = _ :=
    isInTransaction_eq segment driver
  rcases (readLedger_ends sound mapped).cases with
    ⟨ledger, first, reads, one, -⟩ | ⟨cause, first, fails, -⟩
  · rw [reads] at asks
    dsimp only at asks
    rw [Action.Beside, inspect, Action.bind_of_value (ensureMapped_of_mapped mapped),
      Action.bind_of_value reads, fetch, Action.bind_of_value asks]
    by_cases isOpen : ledger.classify.isInTransaction = true
    · rw [if_pos isOpen]
      apply Foretells.of_open
      refine .attempt_bind (openForRead_ends (one.toFollows.mapped mapped)) ?_
        fun _ _ _ => .pure rfl
      rintro _ second ⟨further, rfl⟩
      have two := one.trans further
      refine .attempt_bind (read_ends (two.toFollows.sound sound) (two.toFollows.mapped mapped)
        (by omega)) ?_ ?_
      · rintro _ third -
        dsimp only
        rw [if_pos isOpen]
        exact .pure rfl
      · intro cause third _
        dsimp only
        rw [if_pos isOpen]
        exact .pure rfl
    · rw [if_neg isOpen]
      refine Action.Beside.attempt_bind (openForRead_ends (one.toFollows.mapped mapped)) ?_
        fun _ _ _ => .of_nothing rfl
      rintro _ second ⟨further, rfl⟩
      have two := one.trans further
      refine Action.Beside.attempt_bind (read_ends (two.toFollows.sound sound)
        (two.toFollows.mapped mapped) (by omega)) ?_ ?_
      · rintro _ third ⟨later, rfl⟩
        have three := two.trans later
        dsimp only
        rw [if_neg isOpen, Action.Beside, Action.lift_bind_of_value (examine_of_le _ (by omega)),
          Action.lift_bind_of_value (examine_of_le _ (by omega))]
        cases judged : (Header.decode (((second.contents entry).drop (Ledger.size + 0)).take
            Header.size)).judge entry appSignature maxVersion with
        | error reason =>
            refine .of_refused rfl fun cause same => ?_
            rw [same] at judged
            exact Header.judge_ne_layoutChange judged
        | ok _ =>
            have fits := (Header.judge_eq_ok_iff.1 judged).2
            exact inspectPayload_foretells _ span (three.toFollows.sound sound)
              (three.toFollows.mapped mapped) (by omega)
      · intro cause third _
        dsimp only
        rw [if_neg isOpen]
        exact .of_corrupt _ rfl
  · rw [fails] at asks
    dsimp only at asks
    rw [Action.Beside, inspect, Action.bind_of_value (ensureMapped_of_mapped mapped),
      Action.bind_of_error fails, fetch, Action.bind_of_value asks]
    exact .unread cause

end SegmentDriver

end NorStore
