/-
# Lawful use

A driver in use over a device that keeps its contract: in whichever order segments are visited,
handles are read and written and more is reserved, and whatever happens to the device between
the requests, no request traps, each one leaves the device closed, all that was demanded of the
device was lawful and within the range of the segment that the request was about, and no
complaint comes back to the caller.
-/

import NorStore.Proofs.Driver.Conduct
import NorStore.Proofs.Driver.Mirror

namespace NorStore.SegmentDriver

open NorStore.Flash (BlockDevice Contract Demand Faulty Geometry MemoryFlash Watched)
open NorStore.Flash.Watched (Extends)
open NorStore.Segment (Table)

variable {δ α β : Type} [BlockDevice δ] {contract : Contract δ}
  {driver reached : SegmentDriver (Watched δ)} {segment : Segment} {entry : MapEntry}

/-! ## What a request does -/

/-- What a request about a segment comes to: the driver is ready for the next one, ranges that
were given stay, and the demands were lawful and within the range of the segment. -/
structure Fares (contract : Contract δ) (concerned : Option Segment)
    (before after : SegmentDriver (Watched δ)) : Prop where
  ready : Ready contract after
  kept : ∀ other range, before.Mapped other range → after.Mapped other range
  extends' : Extends (fun demand => ∃ segment entry, concerned = some segment ∧
      after.Mapped segment entry ∧ demand.Lawful contract.geometry entry.start entry.past)
    before.device after.device

namespace Fares

variable {concerned : Option Segment}

theorem refl (ready : Ready contract driver) (concerned : Option Segment) :
    Fares contract concerned driver driver := ⟨ready, fun _ _ => id, .of_eq rfl⟩

theorem trans {middle : SegmentDriver (Watched δ)} (one : Fares contract concerned driver middle)
    (two : Fares contract concerned middle reached) : Fares contract concerned driver reached where
  ready := two.ready
  kept other range mapped := two.kept other range (one.kept other range mapped)
  extends' := by
    refine (one.extends'.mono ?_).trans two.extends'
    rintro demand ⟨segment, entry, about, mapped, lawful⟩
    exact ⟨segment, entry, about, two.kept segment entry mapped, lawful⟩

/-- An access to the range of a segment. -/
theorem of_conducts (held : Held contract segment entry driver)
    (conducts : Conducts contract entry driver reached) :
    Fares contract (some segment) driver reached where
  ready := conducts.ready held.toReady
  kept _ _ := conducts.mapped
  extends' := conducts.obeys.extends'.mono fun _ lawful =>
    ⟨segment, entry, rfl, conducts.mapped held.mapped, lawful⟩

end Fares

/-- An action that ends, in either way, as a request does, without a complaint. What it returns
and where that leaves the driver is as told. -/
def Comes (contract : Contract δ) (concerned : Option Segment)
    (told : α → SegmentDriver (Watched δ) → Prop)
    (access : Action (SegmentDriver (Watched δ)) StoreError α) (driver : SegmentDriver (Watched δ)) :
    Prop :=
  access.Ends driver
    (fun result reached => told result reached ∧ Fares contract concerned driver reached)
    fun cause reached => ¬ cause.IsBreach ∧ Fares contract concerned driver reached

namespace Comes

variable {concerned : Option Segment} {told : α → SegmentDriver (Watched δ) → Prop}
  {access : Action (SegmentDriver (Watched δ)) StoreError α}

/-- What goes on from where an earlier part has left the driver. -/
theorem after (fares : Fares contract concerned driver reached)
    (rest : Comes contract concerned told access reached) :
    access.Ends reached (fun result last => told result last ∧ Fares contract concerned driver last)
      fun cause last => ¬ cause.IsBreach ∧ Fares contract concerned driver last :=
  Action.Ends.mono rest (fun _ _ ended => ⟨ended.1, fares.trans ended.2⟩)
    fun _ _ failed => ⟨failed.1, fares.trans failed.2⟩

/-- What is made of the result does not concern the device. -/
theorem map {also : β → SegmentDriver (Watched δ) → Prop} {make : α → β}
    (judged : Comes contract concerned told access driver)
    (makes : ∀ result reached, told result reached → Fares contract concerned driver reached →
      also (make result) reached) :
    Comes contract concerned also (do let result ← access; return make result) driver := by
  refine Action.Ends.bind judged fun result reached ended => ?_
  obtain ⟨holds, fares⟩ := ended
  exact .pure ⟨makes result reached holds fares, fares⟩

/-- An access to the range of a segment. -/
theorem of_heeds {about : α → Prop} (held : Held contract segment entry driver)
    (judged : Heeds contract entry about access driver) :
    Comes contract (some segment)
      (fun result reached => about result ∧ reached.Mapped segment entry) access driver := by
  refine Action.Ends.mono judged ?_ ?_
  · rintro result reached ⟨holds, conducts⟩
    exact ⟨⟨holds, conducts.mapped held.mapped⟩, .of_conducts held conducts⟩
  · rintro cause reached ⟨heeded, conducts⟩
    exact ⟨heeded, .of_conducts held conducts⟩

end Comes

/-! ## Asking for a range -/

namespace Ready

variable (ready : Ready contract driver)

include ready

theorem mapped {map : MemoryMap} (grown : MemoryMap.Grown contract.geometry map) :
    Ready contract { driver with planner := .mapped map } := by
  refine ⟨ready.inOrder, ?_, ?_, ready.countable⟩
  · rintro _ ⟨⟩
    exact grown
  · rintro _ ⟨⟩

/-- A ready driver can plan, whether or not it comes to a map, and is ready then. -/
theorem exists_plan : ∃ planner, driver.plan = .value planner ∧ planner ≠ .unmapped ∧
    Ready contract { driver with planner } := by
  cases reported : BlockDevice.geometry driver.device with
  | error cause =>
      have plans : driver.plan = .value (.failed (.device cause)) := by
        rw [plan, reported]
        rfl
      refine ⟨_, plans, ?_, ready.inOrder, ?_, ?_, ready.countable⟩
      · rintro ⟨⟩
      · rintro _ ⟨⟩
      · rintro _ ⟨⟩
        exact contract.declines ready.inOrder.good reported
  | ok geometry =>
      have same := contract.reports ready.inOrder.good reported
      obtain ⟨map, planned⟩ :=
        MemoryMap.planned_of_countable contract.valid contract.ends ready.countable
      have made := planned.plans
      rw [← same, MemoryMap.planned, Outcome.bind_eq_value_iff] at made
      obtain ⟨start, starts, fitted⟩ := made
      have plans : driver.plan = .value (.mapped map) := by
        rw [plan, reported]
        simp only [starts, fitted]
        rfl
      refine ⟨_, plans, ?_, ready.mapped (MemoryMap.planned_eq_value planned.plans).1⟩
      rintro ⟨⟩

/-- Once planning has been tried, a range is found or given, or the question is refused. -/
private theorem ensureMapped_of_tried (tried : driver.planner ≠ .unmapped) :
    (SegmentDriver.ensureMapped segment).Ends driver (fun _ => Ready contract)
      fun cause reached => ¬ cause.IsBreach ∧ Ready contract reached := by
  cases known : driver.planner with
  | unmapped => exact absurd known tried
  | failed reason =>
      exact .of_error (ensureMapped_of_failed known) ⟨ready.failed reason known, ready⟩
  | mapped map =>
      have laid := (ready.grown map known).laidOut
      cases found : map.entry? segment with
      | some entry => exact .of_value (ensureMapped_of_mapped ⟨map, known, found⟩) ready
      | none =>
          cases capacity : driver.capacity? segment with
          | none =>
              exact .of_error (ensureMapped_of_unreserved known found capacity) ⟨id, ready⟩
          | some maxPayload =>
              have asked := ensureMapped_of_vacant known found capacity
              have places := laid.place_of_fit found (ready.countable segment maxPayload capacity)
              split at places
              · rw [places] at asked
                exact .of_value asked (ready.mapped (.place (ready.grown map known) places))
              · rw [places] at asked
                exact .of_error asked ⟨id, ready⟩

theorem ensureMapped (segment : Segment) :
    Comes contract (some segment) (Held contract segment)
      (SegmentDriver.ensureMapped segment) driver := by
  have ends : (SegmentDriver.ensureMapped segment).Ends driver (fun _ => Ready contract)
      fun cause reached => ¬ cause.IsBreach ∧ Ready contract reached := by
    by_cases unmapped : driver.planner = .unmapped
    · obtain ⟨planner, plans, tried, later⟩ := ready.exists_plan
      exact .of_eq (ensureMapped_of_plan unmapped plans) (later.ensureMapped_of_tried tried)
    · exact ready.ensureMapped_of_tried unmapped
  have fares : ∀ {outcome reached}, SegmentDriver.ensureMapped segment driver = (outcome, reached) →
      Ready contract reached → Fares contract (some segment) driver reached := by
    rintro outcome _ asked later
    obtain rfl := congrArg Prod.snd asked
    exact ⟨later, fun _ _ mapped => mapped.ensureMapped segment,
      .of_eq (by rw [device_ensureMapped])⟩
  refine ends.known.mono ?_ ?_
  · rintro entry reached ⟨asked, later⟩
    exact ⟨⟨later, mapped_of_ensureMapped asked⟩, fares asked later⟩
  · rintro cause reached ⟨asked, heeded, later⟩
    exact ⟨heeded, fares asked later⟩

/-- An access that begins by asking for the range of the segment. -/
theorem visits {about : MapEntry → α → Prop}
    {access : Action (SegmentDriver (Watched δ)) StoreError α}
    {next : MapEntry → Action (SegmentDriver (Watched δ)) StoreError α}
    (begins : access = SegmentDriver.ensureMapped segment >>= next)
    (within : ∀ entry start, Held contract segment entry start →
      Heeds contract entry (about entry) access start) :
    Comes contract (some segment)
      (fun result reached => ∃ entry, about entry result ∧ reached.Mapped segment entry)
      access driver := by
  subst begins
  rcases (Action.Ends.known (ready.ensureMapped segment)).cases with
    ⟨entry, middle, -, asked, held, fares⟩ | ⟨cause, middle, -, asked, heeded, fares⟩
  · have rest := (Comes.of_heeds held (within entry middle held)).after fares
    exact .of_eq (ensureMapped_bind asked next)
      (rest.mono (fun _ _ ended => ⟨⟨entry, ended.1⟩, ended.2⟩) fun _ _ => id)
  · exact .of_error (Action.bind_of_error asked next) ⟨heeded, fares⟩

end Ready

/-- The handle is of a range that a segment has, and has not come past its data. -/
def Current (driver : SegmentDriver (Watched δ)) (handle : Handle) : Prop :=
  driver.Mapped handle.entry.segment handle.entry ∧ handle.position ≤ handle.entry.maxDataSize

theorem Current.of_issued {handle : Handle} (ready : Ready contract driver)
    (mapped : driver.Mapped segment entry) (issued : Issued entry handle) :
    Current driver handle := by
  obtain ⟨map, known, found⟩ := id mapped
  obtain ⟨rfl, position⟩ := issued
  have named := (ready.grown map known).segment_eq found
  exact ⟨named.symm ▸ mapped, position⟩

/-- Each handle is one of those that there were, or a current one. -/
def Left (handles left : List Handle) (driver : SegmentDriver (Watched δ)) : Prop :=
  ∀ handle ∈ left, handle ∈ handles ∨ Current driver handle

variable {handles : List Handle}

/-- A visit that gives no handle. -/
private theorem Comes.only {told : α → SegmentDriver (Watched δ) → Prop}
    {access : Action (SegmentDriver (Watched δ)) StoreError α}
    (judged : Comes contract (some segment) told access driver) :
    Comes contract (some segment) (Left handles) (do let _ ← access; return handles) driver :=
  judged.map fun _ _ _ _ _ => .inl

/-- A visit that gives a handle. -/
private theorem Comes.opening {access : Action (SegmentDriver (Watched δ)) StoreError Handle}
    {mode : AccessMode} (judged : Comes contract (some segment)
      (fun handle reached => ∃ entry, handle = ⟨entry, mode, 0⟩ ∧ reached.Mapped segment entry)
      access driver) :
    Comes contract (some segment) (Left handles)
      (do let handle ← access; return handles ++ [handle]) driver := by
  refine judged.map fun handle reached opened fares => ?_
  obtain ⟨entry, rfl, mapped⟩ := opened
  intro handle listed
  rcases List.mem_append.1 listed with old | new
  · exact .inl old
  · rw [List.mem_singleton.1 new]
    exact .inr (.of_issued fares.ready mapped ⟨rfl, Nat.zero_le _⟩)

theorem Visit.comes (ready : Ready contract driver)
    (small : contract.geometry.regionSize ≤ Word.limit / 2) (segment : Segment)
    (handles : List Handle) (kind : Visit) :
    Comes contract (some segment) (Left handles) (kind.perform segment handles) driver := by
  have reads : Comes contract (some segment) _ (SegmentDriver.readLedger segment) driver :=
    ready.visits rfl fun _ _ held => held.readLedger_heeds
  cases kind with
  | ensureMapped => exact (ready.ensureMapped segment).only
  | readLedger => exact reads.only
  | isInTransaction =>
      have asks : Comes contract (some segment) (fun _ _ => True)
          (SegmentDriver.isInTransaction segment) driver := by
        refine Action.Ends.attempt_bind reads (fun _ _ ended => ?_) fun _ _ failed => ?_
        · exact .pure ⟨trivial, ended.2⟩
        · exact .pure ⟨trivial, failed.2⟩
      exact asks.only
  | enter => exact (ready.visits rfl fun _ _ held => held.applyEvent_heeds .enter).only
  | exit => exact (ready.visits rfl fun _ _ held => held.applyEvent_heeds .exit).only
  | openForRead => exact (ready.visits rfl fun _ _ held => held.openForRead_heeds).opening
  | openForWrite size =>
      exact (ready.visits rfl fun _ _ held => held.openForWrite_heeds size).opening
  | erase => exact (ready.visits rfl fun _ _ held => held.eraseSegment_heeds).only
  | inspect appSignature maxVersion span =>
      exact (ready.visits rfl fun _ _ held =>
        held.inspect_heeds small appSignature maxVersion span).only

/-! ## Runs -/

/-- The segment that a request is about, if it is about one. -/
def Request.concerned (handles : List Handle) : Request δ → Option Segment
  | .visit segment _ => some segment
  | .read number _ _ => handles[number]?.map (·.entry.segment)
  | .write number _ _ => handles[number]?.map (·.entry.segment)
  | .reserve _ _ => none
  | .disturb _ => none

/-- What can be requested: reservations that can be counted in whole blocks, lengths that a buffer
can have, and changes from outside after which the device still keeps its contract. -/
def Request.Admissible (contract : Contract δ) : Request δ → Prop
  | .reserve _ maxPayload => contract.geometry.footprint maxPayload < Word.limit
  | .visit _ _ => True
  | .read _ _ length => length < Word.limit / 2
  | .write _ _ data => data.length < Word.limit / 2
  | .disturb change => ∀ device, contract.Good false device → contract.Good false (change device)

/-- The driver is ready for a request, and its handles are current. -/
structure Usage.Sane (contract : Contract δ) (usage : Usage (Watched δ)) : Prop where
  ready : Ready contract usage.driver
  current : ∀ handle ∈ usage.handles, Current usage.driver handle

/-- A driver that was just made, over a closed device in good condition. -/
theorem Usage.Sane.start {device : δ} (good : contract.Good false device) :
    Usage.Sane contract (.start ({ device } : Watched δ) []) := by
  have ready : Ready contract { device := ({ device } : Watched δ) } := by
    refine ⟨⟨rfl, good⟩, ?_, ?_, fun segment capacity reserved => ?_⟩
    · rintro _ ⟨⟩
    · rintro _ ⟨⟩
    · rw [Table.get_replicate] at reserved
      contradiction
  exact ⟨ready, fun _ listed => nomatch listed⟩

/-- After a request the usage is sane again. -/
theorem Usage.Sane.left {usage : Usage (Watched δ)} {concerned : Option Segment}
    {left : List Handle} (sane : usage.Sane contract)
    (fares : Fares contract concerned usage.driver reached)
    (each : Left usage.handles left reached) : Usage.Sane contract ⟨reached, left⟩ where
  ready := fares.ready
  current handle listed := by
    rcases each handle listed with old | new
    · obtain ⟨mapped, position⟩ := sane.current handle old
      exact ⟨fares.kept _ _ mapped, position⟩
    · exact new

/-- A current handle is of the range that its segment has. -/
theorem Usage.Sane.held {usage : Usage (Watched δ)} {handle : Handle} {number : Nat}
    (sane : usage.Sane contract) (found : usage.handles[number]? = some handle) :
    Held contract handle.entry.segment handle.entry usage.driver ∧ Issued handle.entry handle := by
  obtain ⟨mapped, position⟩ := sane.current handle (List.mem_of_getElem? found)
  exact ⟨⟨sane.ready, mapped⟩, rfl, position⟩

/-- A handle that was used moves on within its range. -/
theorem Left.set {next : Handle} (ready : Ready contract reached)
    (mapped : reached.Mapped segment entry) (moved : Issued entry next) (number : Nat) :
    Left handles (handles.set number next) reached := by
  intro handle listed
  rcases List.mem_or_eq_of_mem_set listed with old | rfl
  · exact .inl old
  · exact .inr (.of_issued ready mapped moved)

/-- What a request to a sane usage comes to. -/
theorem Request.comes {usage : Usage (Watched δ)} (sane : usage.Sane contract)
    (small : contract.geometry.regionSize ≤ Word.limit / 2) {request : Request δ}
    (admissible : request.Admissible contract) :
    Comes contract (request.concerned usage.handles) (Left usage.handles)
      (request.watched.perform usage.handles) usage.driver := by
  have ready := sane.ready
  cases request with
  | reserve segment maxPayload =>
      have later : Ready contract (usage.driver.reserve segment maxPayload) := by
        refine ⟨ready.inOrder, ready.grown, ready.failed, fun other capacity reserved => ?_⟩
        by_cases same : other = segment
        · subst same
          rw [SegmentDriver.reserve, Table.get_set_self] at reserved
          cases reserved
          exact admissible
        · rw [SegmentDriver.reserve, Table.get_set_of_ne _ _ same] at reserved
          exact ready.countable other capacity reserved
      have fares : Fares contract none usage.driver (usage.driver.reserve segment maxPayload) :=
        ⟨later, fun _ _ mapped => mapped, .of_eq rfl⟩
      exact .of_value rfl ⟨fun _ => .inl, fares⟩
  | visit segment kind => exact kind.comes ready small segment usage.handles
  | read number offset length =>
      rw [Request.watched, Request.perform, Request.concerned]
      cases found : usage.handles[number]? with
      | none => exact .pure ⟨fun _ => .inl, .refl ready none⟩
      | some handle =>
          obtain ⟨held, issued⟩ := sane.held found
          have uses := held.read_issued_heeds small issued offset admissible
          refine (Comes.of_heeds held uses).map ?_
          exact fun _ _ ended fares => .set fares.ready ended.2 ended.1 number
  | write number offset data =>
      rw [Request.watched, Request.perform, Request.concerned]
      cases found : usage.handles[number]? with
      | none => exact .pure ⟨fun _ => .inl, .refl ready none⟩
      | some handle =>
          obtain ⟨held, issued⟩ := sane.held found
          have uses := held.write_issued_heeds small issued offset admissible
          refine (Comes.of_heeds held uses).map ?_
          exact fun _ _ ended fares => .set fares.ready ended.2 ended.1 number
  | disturb change =>
      have later : Ready contract { usage.driver with
          device := { usage.driver.device with device := change usage.driver.device.device } } :=
        ⟨⟨ready.inOrder.isOpen, admissible _ ready.inOrder.good⟩, ready.grown, ready.failed,
          ready.countable⟩
      have fares : Fares contract none usage.driver { usage.driver with
          device := { usage.driver.device with device := change usage.driver.device.device } } :=
        ⟨later, fun _ _ mapped => mapped, .of_eq rfl⟩
      exact .of_value rfl ⟨fun _ => .inl, fares⟩

/-- Sane usage stays sane. -/
theorem Usage.Sane.step {usage : Usage (Watched δ)} (sane : usage.Sane contract)
    (small : contract.geometry.regionSize ≤ Word.limit / 2) {request : Request δ}
    (admissible : request.Admissible contract) : (usage.step request.watched).Sane contract := by
  rcases Action.Ends.cases (Request.comes sane small admissible) with
    ⟨left, reached, performed, each, fares⟩ | ⟨cause, reached, performed, -, fares⟩
  · rw [Usage.step_eq, performed]
    exact sane.left fares each
  · rw [Usage.step_eq, performed]
    exact sane.left fares fun _ => .inl

theorem Usage.Sane.run {usage : Usage (Watched δ)} (sane : usage.Sane contract)
    (small : contract.geometry.regionSize ≤ Word.limit / 2) {requests : List (Request δ)}
    (admissible : ∀ request ∈ requests, request.Admissible contract) :
    (usage.run (requests.map Request.watched)).Sane contract := by
  induction requests generalizing usage with
  | nil => exact sane
  | cons request rest ih =>
      have first := sane.step small (admissible request List.mem_cons_self)
      exact ih first fun other listed => admissible other (.tail _ listed)

/-- After any run over a device that keeps its contract, whatever is on it and whatever happens to
it in between, the next request ends without a trap, and leaves the device closed and the driver
ready. What it demands of the device while it runs is lawful and within the range of the segment
that it is about, and no complaint of the device comes back. The demands are those of a driver
over a watched device, which does what the driver over the device itself does. -/
theorem Usage.lawful_of_run (contract : Contract δ)
    (small : contract.geometry.regionSize ≤ Word.limit / 2) {device : δ}
    (good : contract.Good false device) {requests : List (Request δ)} {next : Request δ}
    (admissible : ∀ request ∈ requests, request.Admissible contract)
    (nextAdmissible : next.Admissible contract) :
    let plain := (Usage.start device []).run requests
    let watched := (Usage.start ({ device } : Watched δ) []).run (requests.map Request.watched)
    watched.unwatched = plain ∧
      Mirrors (next.watched.perform plain.handles) (next.perform plain.handles) watched.driver ∧
      Comes contract (next.concerned plain.handles) (Left plain.handles)
        (next.watched.perform plain.handles) watched.driver := by
  intro plain watched
  have same : watched.unwatched = plain := Usage.unwatched_run _ requests
  have sane : watched.Sane contract := (Usage.Sane.start good).run small admissible
  refine ⟨same, next.mirrors plain.handles, ?_⟩
  rw [← same]
  exact Request.comes sane small nextAdmissible

/-- Power is cut in the middle of a write. Both demands were lawful, and the write fails for the
lack of power. -/
theorem Usage.lawful_of_run_sample :
    ∃ (chip : MemoryFlash) (contract : Contract (Faulty MemoryFlash)),
      MemoryFlash.blank? ⟨64, 128, 4, 32, 1⟩ = .ok chip ∧
      contract.geometry = ⟨64, 128, 4, 32, 1⟩ ∧
      let requests : List (Request (Faulty MemoryFlash)) := [.reserve .security 9,
        .visit .security (.openForWrite 4),
        .disturb fun whole => { whole with faults := whole.faults.cutPowerAfter 1 }]
      let plain := (start ({ device := chip } : Faulty MemoryFlash) []).run requests
      let watched := (start ({ device := { device := chip } } : Watched (Faulty MemoryFlash)) []).run
        (requests.map Request.watched)
      let write : Request (Faulty MemoryFlash) := .write 0 0 [1, 2, 3, 4]
      Comes contract (write.concerned plain.handles) (Left plain.handles)
        (write.watched.perform plain.handles) watched.driver ∧
      (write.perform plain.handles plain.driver).1 =
        .error (.writeFailure .security (.writeFailed 136 (.powerCut 1 4))) ∧
      (write.watched.perform plain.handles watched.driver).2.device.demands =
        [⟨.erase, 128, 32, true, .value ()⟩,
          ⟨.write, 136, 4, true, .error (.writeFailed 136 (.powerCut 1 4))⟩] := by
  have blank : MemoryFlash.blank? ⟨64, 128, 4, 32, 1⟩ = .ok _ := rfl
  have valid : (⟨64, 128, 4, 32, 1⟩ : Geometry).Valid :=
    ⟨by decide, by decide, by decide, by decide, by decide, by decide⟩
  refine ⟨_, Faulty.contract (MemoryFlash.contract ⟨64, 128, 4, 32, 1⟩ valid (by decide)), blank,
    rfl, ?_⟩
  intro requests plain watched write
  refine ⟨(lawful_of_run _ ?_ ?_ ?_ ?_).2.2, by decide +kernel, by decide +kernel⟩
  · show 128 ≤ Word.limit / 2
    decide
  · exact ⟨rfl, rfl⟩
  · simp only [requests, List.forall_mem_cons]
    refine ⟨?_, trivial, fun _ => id, nofun⟩
    show Geometry.footprint ⟨64, 128, 4, 32, 1⟩ 9 < Word.limit
    decide
  · show 4 < Word.limit / 2
    decide

end NorStore.SegmentDriver
