/-
# How the driver treats its device

Over any device that keeps its contract, whatever is on it and whatever fails, each access of
the driver to a segment ends without a trap and leaves the device closed. All that it asks of
the device lies in the range of the segment, keeps the rules of access, and is answered without
a complaint, so none comes to the caller either.
-/

import NorStore.Driver.Inspection
import NorStore.Proofs.Assignment
import NorStore.Proofs.Driver.Reading
import NorStore.Proofs.Flash.Watched

namespace NorStore

open NorStore.Flash (FlashError)

/-- A reason that goes back to a complaint of the device. -/
def Unavailability.IsBreach : Unavailability → Prop
  | device cause => cause.IsBreach
  | noMap cause => cause.IsBreach
  | unplanned => False

/-- An error that goes back to a complaint of the device. -/
def StoreError.IsBreach : StoreError → Prop
  | deviceUnavailable reason => reason.IsBreach
  | writeFailure _ cause => cause.IsBreach
  | flash cause => cause.IsBreach
  | _ => False

namespace SegmentDriver

open NorStore.Flash (BlockDevice Contract Demand Geometry Watched)
open NorStore.Flash.Watched (Behaves Extends InOrder Obeys)

variable {δ α β : Type} [BlockDevice δ] {contract : Contract δ}
  {driver reached : SegmentDriver (Watched δ)} {segment : Segment} {entry : MapEntry}
  {offset length : Nat} {data : Bytes}

/-! ## Between accesses -/

/-- The device is closed, the map was grown from its geometry or failed without a complaint,
and whatever is reserved can be placed or refused. -/
structure Ready (contract : Contract δ) (driver : SegmentDriver (Watched δ)) : Prop where
  inOrder : driver.device.InOrder contract false
  grown : ∀ map, driver.planner = .mapped map → MemoryMap.Grown contract.geometry map
  failed : ∀ reason, driver.planner = .failed reason → ¬ reason.IsBreach
  countable : Countable contract.geometry driver.capacities

/-- A ready driver, in whose map the segment has this range. -/
structure Held (contract : Contract δ) (segment : Segment) (entry : MapEntry)
    (driver : SegmentDriver (Watched δ)) : Prop extends Ready contract driver where
  mapped : driver.Mapped segment entry

/-- The driver has moved on, having made lawful demands within the range. -/
structure Conducts (contract : Contract δ) (entry : MapEntry)
    (before after : SegmentDriver (Watched δ)) : Prop where
  planner : after.planner = before.planner
  capacities : after.capacities = before.capacities
  obeys : Obeys contract entry.start entry.past false before.device after.device

namespace Conducts

theorem refl (ready : Ready contract driver) (entry : MapEntry) :
    Conducts contract entry driver driver := ⟨rfl, rfl, ready.inOrder, .of_eq rfl⟩

theorem trans {middle : SegmentDriver (Watched δ)} (one : Conducts contract entry driver middle)
    (two : Conducts contract entry middle reached) : Conducts contract entry driver reached :=
  ⟨two.planner.trans one.planner, two.capacities.trans one.capacities, one.obeys.trans two.obeys⟩

theorem mapped {other : Segment} {range : MapEntry} (conducts : Conducts contract entry driver reached)
    (mapped : driver.Mapped other range) : reached.Mapped other range := by
  obtain ⟨map, known, found⟩ := mapped
  exact ⟨map, conducts.planner.trans known, found⟩

theorem ready (conducts : Conducts contract entry driver reached) (ready : Ready contract driver) :
    Ready contract reached where
  inOrder := conducts.obeys.inOrder
  grown map known := ready.grown map (conducts.planner.symm.trans known)
  failed reason known := ready.failed reason (conducts.planner.symm.trans known)
  countable := conducts.capacities ▸ ready.countable

theorem held (conducts : Conducts contract entry driver reached)
    (held : Held contract segment entry driver) : Held contract segment entry reached where
  toReady := conducts.ready held.toReady
  mapped := conducts.mapped held.mapped

end Conducts

namespace Held

variable (held : Held contract segment entry driver)

include held

theorem fits : entry.Fits contract.geometry := by
  obtain ⟨map, known, found⟩ := held.mapped
  exact (held.grown map known).laidOut.fits segment entry found

/-- A part of the range may be accessed. -/
theorem encloses (inside : offset + length ≤ entry.reserved) :
    contract.geometry.Encloses (entry.start + offset) length := by
  have first := held.fits.first
  have last := held.fits.last
  rw [MapEntry.past] at last
  exact ⟨contract.ends, by omega, by omega⟩

theorem reserved_le : entry.reserved ≤ contract.geometry.regionSize := by
  have first := held.fits.first
  have last := held.fits.last
  rw [MapEntry.past] at last
  omega

theorem memoryMap? : ∃ map, driver.memoryMap? = some map ∧ map.geometry = contract.geometry := by
  obtain ⟨map, known, -⟩ := held.mapped
  exact ⟨map, by rw [SegmentDriver.memoryMap?, known], (held.grown map known).laidOut.geometry_eq⟩

end Held

/-! ## Putting accesses together -/

/-- The access ends, in either way, having made only lawful demands within the range. What it
returns is as told, and no error of it goes back to a complaint. -/
def Heeds (contract : Contract δ) (entry : MapEntry) (told : α → Prop)
    (access : Action (SegmentDriver (Watched δ)) StoreError α) (driver : SegmentDriver (Watched δ)) :
    Prop :=
  access.Ends driver (fun result reached => told result ∧ Conducts contract entry driver reached)
    fun cause reached => ¬ cause.IsBreach ∧ Conducts contract entry driver reached

namespace Heeds

variable {told : α → Prop} {access : Action (SegmentDriver (Watched δ)) StoreError α}

theorem pure {result : α} (ready : Ready contract driver) (holds : told result) :
    Heeds contract entry told (Pure.pure result) driver :=
  Action.Ends.pure ⟨holds, .refl ready entry⟩

theorem throw {cause : StoreError} (ready : Ready contract driver) (heeded : ¬ cause.IsBreach) :
    Heeds contract entry told (MonadExcept.throw cause) driver :=
  Action.Ends.throw ⟨heeded, .refl ready entry⟩

/-- What goes on from where the driver has moved on. -/
theorem after (conducts : Conducts contract entry driver reached)
    (rest : Heeds contract entry told access reached) :
    access.Ends reached
      (fun result last => told result ∧ Conducts contract entry driver last)
      fun cause last => ¬ cause.IsBreach ∧ Conducts contract entry driver last :=
  rest.mono (fun _ _ done => ⟨done.1, conducts.trans done.2⟩)
    fun _ _ failed => ⟨failed.1, conducts.trans failed.2⟩

theorem bind {next : α → Action (SegmentDriver (Watched δ)) StoreError β} {last : β → Prop}
    (begins : Heeds contract entry told access driver)
    (goesOn : ∀ result reached, told result → Conducts contract entry driver reached →
      Heeds contract entry last (next result) reached) :
    Heeds contract entry last (access >>= next) driver := by
  refine Action.Ends.bind begins fun result reached ended => ?_
  obtain ⟨holds, conducts⟩ := ended
  exact (goesOn result reached holds conducts).after conducts

/-- The second step starts where the first one is known to end. -/
theorem value_bind {next : α → Action (SegmentDriver (Watched δ)) StoreError β} {last : β → Prop}
    {result : α} (ends : access driver = (.value result, driver))
    (rest : Heeds contract entry last (next result) driver) :
    Heeds contract entry last (access >>= next) driver := Action.Ends.value_bind ends rest

theorem lift_bind {outcome : Outcome StoreError α} {result : α}
    {next : α → Action (SegmentDriver (Watched δ)) StoreError β} {last : β → Prop}
    (passes : outcome = .value result) (rest : Heeds contract entry last (next result) driver) :
    Heeds contract entry last ((liftM outcome : Action _ StoreError α) >>= next) driver :=
  Action.Ends.lift_bind passes rest

theorem attempt_bind {next : Except StoreError α → Action (SegmentDriver (Watched δ)) StoreError β}
    {last : β → Prop} (judged : Heeds contract entry told access driver)
    (goesOn : ∀ result reached, told result → Conducts contract entry driver reached →
      Heeds contract entry last (next (.ok result)) reached)
    (recovers : ∀ cause reached, Conducts contract entry driver reached →
      Heeds contract entry last (next (.error cause)) reached) :
    Heeds contract entry last ((access.attempt : Action _ StoreError _) >>= next) driver := by
  refine Action.Ends.attempt_bind judged ?_ ?_
  · rintro result reached ⟨holds, conducts⟩
    exact (goesOn result reached holds conducts).after conducts
  · rintro cause reached ⟨-, conducts⟩
    exact (recovers cause reached conducts).after conducts

end Heeds

/-! ## The device in a range -/

/-- An access to the device within the range. An error is restated as one that names it. -/
theorem onDevice_heeds {access : Action (Watched δ) FlashError α} {restate : FlashError → StoreError}
    (judged : Behaves contract entry.start entry.past false access driver.device)
    (restates : ∀ cause, (restate cause).IsBreach → cause.IsBreach) :
    Heeds contract entry (fun _ => True) ((onDevice access).mapError restate) driver := by
  refine Action.Ends.mapError ?_
  rcases Action.Ends.cases judged with
    ⟨result, device, ends, obeys⟩ | ⟨cause, device, ends, heeded, obeys⟩
  · have reached : onDevice access driver = (.value result, { driver with device }) := by
      rw [onDevice, ends]
    exact .of_value reached ⟨trivial, rfl, rfl, obeys⟩
  · have reached : onDevice access driver = (.error cause, { driver with device }) := by
      rw [onDevice, ends]
    exact .of_error reached ⟨fun breach => heeded (restates cause breach), rfl, rfl, obeys⟩

/-- Chained runs that each stay in a block are lawful demands, up to the one that fails. -/
theorem writeRuns_behaves {runs : List (Nat × Bytes)} {watched : Watched δ} {first past : Nat}
    (inOrder : watched.InOrder contract true) (chained : Chained offset runs)
    (within : ∀ run ∈ runs, contract.geometry.Within run.1 run.2.length)
    (encloses : contract.geometry.Encloses offset (runs.flatMap Prod.snd).length)
    (inside : first ≤ offset) (ends : offset + (runs.flatMap Prod.snd).length ≤ past) :
    Behaves contract first past true (writeRuns runs) watched := by
  induction runs generalizing offset watched with
  | nil => exact .pure ⟨inOrder, .of_eq rfl⟩
  | cons head runs ih =>
      obtain ⟨start, run⟩ := head
      obtain ⟨rfl, nonempty, chained⟩ := chained
      rw [List.flatMap_cons] at encloses ends
      rw [List.length_append] at encloses ends
      dsimp only at encloses ends
      have region := encloses.last
      have low := encloses.first
      refine Action.Ends.bind (Watched.write_behaves inOrder nonempty
        (encloses.mono (Nat.le_add_right ..)) (within _ List.mem_cons_self) inside (by omega)) ?_
      intro _ middle obeys
      have sum : start + run.length < Word.limit := by
        have limit := contract.ends
        omega
      apply Action.Ends.lift_bind (Word.add_of_lt sum)
      exact (ih obeys.inOrder chained (fun run listed => within run (.tail _ listed))
        ⟨encloses.ends, by omega, by omega⟩ (by omega) (by omega)).mono
        (fun _ _ => obeys.trans) fun _ _ failed => ⟨failed.1, obeys.trans failed.2⟩

namespace Held

variable (held : Held contract segment entry driver)

include held

theorem open_heeds {restate : FlashError → StoreError}
    (restates : ∀ cause, (restate cause).IsBreach → cause.IsBreach) :
    Heeds contract entry (fun _ => True) ((onDevice (BlockDevice.session
      (pure () : Action (Watched δ) FlashError Unit))).mapError restate) driver :=
  onDevice_heeds (Watched.session_behaves held.inOrder fun _ ready => .pure ⟨ready, .of_eq rfl⟩)
    restates

theorem read_heeds (inside : offset + length ≤ entry.reserved) :
    Heeds contract entry (fun _ => True) ((onDevice (BlockDevice.session
      (BlockDevice.read (entry.start + offset) length))).mapError .flash) driver :=
  onDevice_heeds (Watched.session_behaves held.inOrder fun _ ready =>
    Watched.read_behaves ready (held.encloses inside) (Nat.le_add_right ..)
      (by rw [MapEntry.past]; omega)) fun _ => id

theorem erase_heeds (named : Segment) (inside : length ≤ entry.reserved)
    (whole : length % contract.geometry.blockSize = 0) :
    Heeds contract entry (fun _ => True) ((onDevice (BlockDevice.session
      (BlockDevice.erase entry.start length))).mapError (.writeFailure named)) driver :=
  onDevice_heeds (Watched.session_behaves held.inOrder fun _ ready =>
    Watched.erase_behaves ready (held.encloses (by omega) : contract.geometry.Encloses (_ + 0) _)
      ⟨held.fits.aligned, whole⟩ (Nat.le_refl _) (Nat.add_le_add_left inside _)) fun _ => id

/-- Programming is cut into runs that each stay in a block. -/
theorem program_heeds (named : Segment) (inside : offset + data.length ≤ entry.reserved) :
    Heeds contract entry (fun _ => True) (program named (entry.start + offset) data) driver := by
  obtain ⟨map, known, same⟩ := held.memoryMap?
  have bytes := blockRuns_bytes map.geometry.blockSize (entry.start + offset) data
  have nonempty : 0 < map.geometry.blockSize := map.valid.blockSize_pos
  refine Action.Ends.get_bind ?_
  rw [known]
  refine onDevice_heeds (Watched.session_behaves held.inOrder fun _ ready => ?_) fun _ => id
  refine writeRuns_behaves ready (chained_blockRuns ..) (fun run listed => ?_) ?_
    (Nat.le_add_right ..) ?_
  · rw [Geometry.Within, ← same]
    exact blockRuns_within nonempty _ data listed
  · rw [bytes]
    exact held.encloses inside
  · rw [bytes, MapEntry.past]
    omega

/-! ## Each access -/

theorem readLedger_heeds : Heeds contract entry (fun _ => True) (readLedger segment) driver := by
  apply Heeds.value_bind (ensureMapped_of_mapped held.mapped)
  have room := held.fits.room
  have inside : 0 + Ledger.size ≤ entry.reserved := by omega
  refine Heeds.bind (held.read_heeds inside) fun _ _ _ conducts => ?_
  exact .pure (conducts.ready held.toReady) trivial

theorem openForRead_heeds :
    Heeds contract entry (· = ⟨entry, .read, 0⟩) (openForRead segment) driver := by
  apply Heeds.value_bind (ensureMapped_of_mapped held.mapped)
  refine Heeds.bind (held.open_heeds fun _ => id) fun _ _ _ conducts => ?_
  exact .pure (conducts.ready held.toReady) rfl

/-- What does not fit is refused before anything is erased. -/
theorem openForWrite_heeds (size : Nat) :
    Heeds contract entry (· = ⟨entry, .write, 0⟩) (openForWrite segment size) driver := by
  apply Heeds.value_bind (ensureMapped_of_mapped held.mapped)
  by_cases fits : size ≤ entry.maxDataSize
  · obtain ⟨map, known, same⟩ := held.memoryMap?
    have nonempty := contract.valid.blockSize_pos
    have room := held.fits.room
    have data := held.fits.maxDataSize
    have region := held.reserved_le
    have limit := contract.ends
    have inside : contract.geometry.covering (Ledger.size + size) ≤ entry.reserved :=
      Geometry.covering_le (by omega) held.fits.whole
    have sum : Ledger.size + size < Word.limit := by omega
    have rounds : (map.geometry.roundUp (Ledger.size + size) : Outcome StoreError Nat) =
        .value (contract.geometry.covering (Ledger.size + size)) := by
      rw [same]
      exact Geometry.roundUp_of_lt nonempty (by omega)
    rw [if_neg (Nat.not_lt.2 fits)]
    refine Action.Ends.get_bind ?_
    rw [known]
    apply Heeds.lift_bind (Word.add_of_lt sum)
    apply Heeds.lift_bind rounds
    refine Heeds.bind (held.erase_heeds segment inside (Geometry.covering_mod ..)) ?_
    exact fun _ _ _ conducts => .pure (conducts.ready held.toReady) rfl
  · rw [if_pos (Nat.lt_of_not_le fits)]
    exact .throw held.toReady id

theorem eraseSegment_heeds : Heeds contract entry (fun _ => True) (eraseSegment segment) driver := by
  apply Heeds.value_bind (ensureMapped_of_mapped held.mapped)
  exact held.erase_heeds segment (Nat.le_refl _) held.fits.whole

theorem applyEvent_heeds (event : LedgerEvent) :
    Heeds contract entry (fun _ => True) (applyEvent segment event) driver := by
  apply Heeds.value_bind (ensureMapped_of_mapped held.mapped)
  refine Heeds.bind held.readLedger_heeds fun ledger reached _ conducts => ?_
  have later := conducts.held held
  have room := held.fits.room
  cases ledger.classify.apply event with
  | illegal => exact .throw later.toReady id
  | noChange => exact .pure later.toReady trivial
  | program next =>
      have inside : 0 + next.encode.length ≤ entry.reserved := by
        rw [Ledger.length_encode]
        omega
      have programs := later.program_heeds segment inside
      rwa [Nat.add_zero] at programs

end Held

/-! ## Through a handle -/

/-- The handle is of the range, and has not come past its data. -/
structure Issued (entry : MapEntry) (handle : Handle) : Prop where
  entry_eq : handle.entry = entry
  position_le : handle.position ≤ entry.maxDataSize

/-- Only at its position, and for what it was opened for, is a handle used. -/
theorem Heeds.checkSequential_bind {handle : Handle} {mode : AccessMode} {told : β → Prop}
    {next : Unit → Action (SegmentDriver (Watched δ)) StoreError β} (ready : Ready contract driver)
    (goesOn : offset = handle.position → Heeds contract entry told (next ()) driver) :
    Heeds contract entry told
      ((liftM (handle.checkSequential mode offset) : Action _ StoreError Unit) >>= next) driver := by
  rw [Handle.checkSequential]
  split
  · exact .throw ready id
  · split
    · exact .throw ready id
    · exact goesOn (Decidable.not_not.1 ‹_›)

namespace Held

variable {handle : Handle}

/-- The data of a range ends at a word, and so does whatever a buffer can hold beyond it. -/
theorem issued_add_lt (held : Held contract segment entry driver)
    (small : contract.geometry.regionSize ≤ Word.limit / 2) (issued : Issued entry handle)
    (short : length < Word.limit / 2) : handle.position + length < Word.limit := by
  have data := held.fits.maxDataSize
  have region := held.reserved_le
  have position := issued.position_le
  omega

/-- What fits into the data is found behind the ledger. -/
theorem issued_place (held : Held contract segment entry driver)
    (fits : handle.position + length ≤ entry.maxDataSize) :
    (Word.add entry.dataOffset handle.position : Outcome ε Nat) =
        .value (entry.start + (Ledger.size + handle.position)) ∧
      Ledger.size + handle.position + length ≤ entry.reserved := by
  have room := held.fits.room
  have data := held.fits.maxDataSize
  have limit := contract.ends
  have last := held.fits.last
  rw [MapEntry.past] at last
  refine ⟨?_, by omega⟩
  rw [MapEntry.dataOffset, Word.add_of_lt (by omega), Nat.add_assoc]

/-- An access through a handle that comes past the data is refused. -/
theorem read_issued_heeds (held : Held contract segment entry driver)
    (small : contract.geometry.regionSize ≤ Word.limit / 2) (issued : Issued entry handle)
    (offset : Nat) (short : length < Word.limit / 2) :
    Heeds contract entry (fun result => Issued entry result.2) (read handle offset length)
      driver := by
  have sum := held.issued_add_lt small issued short
  rw [read_steps]
  refine Heeds.checkSequential_bind held.toReady ?_
  rintro rfl
  apply Heeds.lift_bind (Word.add_of_lt sum)
  rw [issued.entry_eq]
  by_cases fits : handle.position + length ≤ entry.maxDataSize
  · rw [if_neg (Nat.not_lt.2 fits)]
    obtain ⟨place, inside⟩ := held.issued_place fits
    apply Heeds.lift_bind place
    refine Heeds.bind (held.read_heeds inside) fun _ reached _ conducts => ?_
    apply Heeds.lift_bind (Handle.advance_of_lt sum)
    exact .pure (conducts.ready held.toReady) ⟨issued.entry_eq, fits⟩
  · rw [if_pos (Nat.lt_of_not_le fits)]
    exact .throw held.toReady id

theorem write_issued_heeds (held : Held contract segment entry driver)
    (small : contract.geometry.regionSize ≤ Word.limit / 2) (issued : Issued entry handle)
    (offset : Nat) (short : data.length < Word.limit / 2) :
    Heeds contract entry (Issued entry) (write handle offset data) driver := by
  have sum := held.issued_add_lt small issued short
  rw [write_steps]
  refine Heeds.checkSequential_bind held.toReady ?_
  rintro rfl
  apply Heeds.lift_bind (Word.add_of_lt sum)
  rw [issued.entry_eq]
  by_cases fits : handle.position + data.length ≤ entry.maxDataSize
  · rw [if_neg (Nat.not_lt.2 fits)]
    obtain ⟨place, inside⟩ := held.issued_place fits
    apply Heeds.lift_bind place
    refine Heeds.bind (held.program_heeds entry.segment inside) fun _ reached _ conducts => ?_
    exact Action.Ends.of_value (congrArg (·, reached) (Handle.advance_of_lt sum))
      ⟨⟨issued.entry_eq, fits⟩, .refl (conducts.ready held.toReady) entry⟩
  · rw [if_pos (Nat.lt_of_not_le fits)]
    exact .throw held.toReady id

/-! ## Looking at a segment -/

theorem inspectPayload_heeds (held : Held contract segment entry driver)
    (small : contract.geometry.regionSize ≤ Word.limit / 2) (issued : Issued entry handle)
    (inspection : Inspection) (header : Header) (span : ChecksumSpan) :
    Heeds contract entry (fun _ => True) (inspectPayload inspection header handle span) driver := by
  have short : header.length.toNat < Word.limit / 2 :=
    Nat.lt_of_lt_of_le header.length.toNat_lt (by decide)
  refine Heeds.attempt_bind (held.read_issued_heeds small issued _ short) ?_ ?_
  · intro result reached _ conducts
    have later := conducts.ready held.toReady
    dsimp only
    split <;> exact .pure later trivial
  · exact fun _ _ conducts => .pure (conducts.ready held.toReady) trivial

theorem inspect_heeds (held : Held contract segment entry driver)
    (small : contract.geometry.regionSize ≤ Word.limit / 2) (appSignature : UInt32)
    (maxVersion : UInt16) (span : ChecksumSpan) :
    Heeds contract entry (fun _ => True) (inspect segment appSignature maxVersion span) driver := by
  apply Heeds.value_bind (ensureMapped_of_mapped held.mapped)
  refine Heeds.bind held.readLedger_heeds fun ledger reached _ conducts => ?_
  have held := conducts.held held
  refine Heeds.attempt_bind held.openForRead_heeds ?_ ?_
  · rintro handle reached rfl conducts
    have held := conducts.held held
    have issued : Issued entry ⟨entry, .read, 0⟩ := ⟨rfl, Nat.zero_le _⟩
    refine Heeds.attempt_bind (held.read_issued_heeds small issued 0 (by decide)) ?_ ?_
    · rintro ⟨bytes, handle⟩ reached issued conducts
      have held := conducts.held held
      dsimp only
      split
      · exact .pure held.toReady trivial
      · have room := held.fits.room
        have data := held.fits.maxDataSize
        have behind : Header.size ≤ entry.maxDataSize := by omega
        apply Heeds.lift_bind (examine_of_le _ behind)
        cases (Header.decode bytes).judge entry appSignature maxVersion with
        | error reason => exact .pure held.toReady trivial
        | ok _ => exact held.inspectPayload_heeds small issued _ _ span
    · intro cause reached conducts
      have later := conducts.ready held.toReady
      dsimp only
      split <;> exact .pure later trivial
  · exact fun _ _ conducts => .pure (conducts.ready held.toReady) trivial

end Held

end SegmentDriver

end NorStore
