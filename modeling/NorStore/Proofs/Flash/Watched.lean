/-
# Devices under watch

What a device owes to a caller that keeps the rules of access: it answers without a trap and
does not complain about the call, whatever else goes wrong. A contract says this relative to a
condition of the device that its calls keep, so nothing has to be known about what the device
does. The memory chip, the image file and both wrappers meet it.

A watched device passes every call on to the device in it, and writes down what was asked for,
whether the device was open then, and how it answered.
-/

import NorStore.Flash.Faulty
import NorStore.Flash.Glitchy
import NorStore.Flash.Image
import NorStore.Flash.Memory
import NorStore.Proofs.Flash.NorDevice

namespace NorStore.Flash

/-- An error by which a device says that the call broke a rule of access. -/
def FlashError.IsBreach : FlashError → Prop
  | outOfBounds _ _ _ => True
  | misaligned _ _ _ => True
  | notOpen => True
  | writeFailed _ .crossesBlock => True
  | _ => False

/-- The bytes stay in the block in which they start. -/
def Geometry.Within (geometry : Geometry) (offset length : Nat) : Prop :=
  offset % geometry.blockSize + length ≤ geometry.blockSize

/-- The range is made of whole blocks. -/
def Geometry.Whole (geometry : Geometry) (offset length : Nat) : Prop :=
  offset % geometry.blockSize = 0 ∧ length % geometry.blockSize = 0

/-- The access ends without a trap and without a complaint, and the device is as told then. -/
def Accepts {δ α : Type} (good : δ → Prop) (access : Action δ FlashError α) (device : δ) : Prop :=
  access.Ends device (fun _ => good) fun cause reached => ¬ cause.IsBreach ∧ good reached

/-- What a device over a geometry owes to a caller that keeps the rules, as long as it is in a
good condition, open or closed. -/
structure Contract (δ : Type) [BlockDevice δ] where
  geometry : Geometry
  valid : geometry.Valid
  ends : geometry.regionOffset + geometry.regionSize < Word.limit
  Good : Bool → δ → Prop
  reports {device : δ} {reported : Geometry} : Good false device →
    BlockDevice.geometry device = .ok reported → reported = geometry
  declines {device : δ} {cause : FlashError} : Good false device →
    BlockDevice.geometry device = .error cause → ¬ cause.IsBreach
  opens {device : δ} : Good false device →
    (BlockDevice.openDevice : Action δ FlashError Unit).Ends device (fun _ => Good true)
      fun cause reached => ¬ cause.IsBreach ∧ Good false reached
  closes {device : δ} : Good true device → Good false (BlockDevice.closeDevice device)
  reads {device : δ} {offset length : Nat} : Good true device →
    geometry.Encloses offset length → Accepts (Good true) (BlockDevice.read offset length) device
  writes {device : δ} {offset : Nat} {data : Bytes} : Good true device → data ≠ [] →
    geometry.Encloses offset data.length → geometry.Within offset data.length →
    Accepts (Good true) (BlockDevice.write offset data) device
  erases {device : δ} {offset length : Nat} : Good true device →
    geometry.Encloses offset length → geometry.Whole offset length →
    Accepts (Good true) (BlockDevice.erase offset length) device

namespace Accepts

variable {δ α : Type} {good : δ → Prop} {access : Action δ FlashError α} {device reached : δ}

theorem of_value {result : α} (ends : access device = (.value result, reached))
    (told : good reached) : Accepts good access device := Action.Ends.of_value ends told

theorem of_error {cause : FlashError} (ends : access device = (.error cause, reached))
    (heeded : ¬ cause.IsBreach) (told : good reached) : Accepts good access device :=
  Action.Ends.of_error ends ⟨heeded, told⟩

/-- A wrapper that hands the call on is as told if the device in it is. -/
theorem passed {ω : Type} {better : ω → Prop} {outer : Action ω FlashError α} {whole : ω}
    (wrap : δ → ω) (accepted : Accepts good access device)
    (passes : outer whole = ((access device).1, wrap (access device).2))
    (kept : ∀ reached, good reached → better (wrap reached)) : Accepts better outer whole := by
  rcases Action.Ends.cases accepted with
    ⟨result, reached, ends, told⟩ | ⟨cause, reached, ends, heeded, told⟩
  · rw [ends] at passes
    exact of_value passes (kept reached told)
  · rw [ends] at passes
    exact of_error passes heeded (kept reached told)

/-- A call that is checked first is accepted if it passes. -/
theorem guarded {check : δ → Outcome FlashError α} {effect : δ → δ} {result : α}
    (passes : check device = .value result) (told : good (effect device)) :
    Accepts good (Action.guarded check effect) device :=
  of_value (Action.guarded_of_value passes effect) told

end Accepts

namespace Geometry

variable {geometry : Geometry} {offset length : Nat}

theorem checkRange_of_encloses (encloses : geometry.Encloses offset length) :
    geometry.checkRange true offset length = .value () :=
  (checkRange_eq_value_iff encloses.ends).2 ⟨rfl, encloses.first, encloses.last⟩

theorem checkWrite_of_within (valid : geometry.Valid) (encloses : geometry.Encloses offset length)
    (within : geometry.Within offset length) : geometry.checkWrite true offset length = .value () :=
  (checkWrite_eq_value_iff valid).2 ⟨checkRange_of_encloses encloses, .inr within⟩

theorem checkErase_of_whole (encloses : geometry.Encloses offset length)
    (whole : geometry.Whole offset length) : geometry.checkErase true offset length = .value () :=
  checkErase_eq_value_iff.2 ⟨checkRange_of_encloses encloses, whole⟩

/-- What begins a range that keeps the rules of writing keeps them too. -/
theorem Encloses.mono {shorter : Nat} (encloses : geometry.Encloses offset length)
    (fewer : shorter ≤ length) : geometry.Encloses offset shorter :=
  ⟨encloses.ends, encloses.first, Nat.le_trans (Nat.add_le_add_left fewer _) encloses.last⟩

end Geometry

/-! ## The devices that keep it -/

section Devices

variable (geometry : Geometry) (valid : geometry.Valid)
  (ends : geometry.regionOffset + geometry.regionSize < Word.limit)

/-- A chip of this geometry keeps the contract, whatever is in its cells. -/
def MemoryFlash.contract : Contract MemoryFlash where
  geometry := geometry
  valid := valid
  ends := ends
  Good isOpen flash := flash.isOpen = isOpen ∧ flash.geometry = geometry
  reports good reported := (Except.ok.inj reported).symm.trans good.2
  declines _ fails := nomatch fails
  opens good := .of_value rfl ⟨rfl, good.2⟩
  closes good := ⟨rfl, good.2⟩
  reads good encloses := .guarded
    (by rw [good.1, good.2, Geometry.checkRange_of_encloses encloses]; rfl) good
  writes good _ encloses within := .guarded
    (by rw [good.1, good.2, Geometry.checkWrite_of_within valid encloses within]) good
  erases good encloses whole := .guarded
    (by rw [good.1, good.2, Geometry.checkErase_of_whole encloses whole]) good

/-- So does a file. -/
def ImageFile.contract : Contract ImageFile where
  geometry := geometry
  valid := valid
  ends := ends
  Good isOpen image := image.isOpen = isOpen ∧ image.geometry = geometry
  reports good reported := (Except.ok.inj reported).symm.trans good.2
  declines _ fails := nomatch fails
  opens good := .of_value rfl ⟨rfl, good.2⟩
  closes good := ⟨rfl, good.2⟩
  reads good encloses := .guarded
    (by rw [good.1, good.2, Geometry.checkRange_of_encloses encloses]; rfl) good
  writes good _ encloses within := .guarded
    (by rw [good.1, good.2, Geometry.checkWrite_of_within valid encloses within]) good
  erases good encloses whole := .guarded
    (by rw [good.1, good.2, Geometry.checkErase_of_whole encloses whole]) good

end Devices

namespace Faulty

variable {δ : Type} [BlockDevice δ] {inner : Contract δ} {device : δ} {faults : Faults}
  {offset : Nat} {data : Bytes}

/-- A power cut hands on a part of the write from the front, which keeps the rules as well. -/
private theorem writeLast_accepts (good : inner.Good true device) (nonempty : data ≠ [])
    (encloses : inner.geometry.Encloses offset data.length)
    (within : inner.geometry.Within offset data.length) (left : Nat) :
    Accepts (fun whole : Faulty δ => inner.Good true whole.device)
      (Faulty.writeLast offset data left) ⟨device, faults⟩ := by
  by_cases none : left = 0
  · exact .of_error (by rw [Faulty.writeLast, if_pos none]) id good
  · have shorter : (data.take left).length ≤ data.length := List.length_take_le' ..
    have filled : data.take left ≠ [] := by simp [none, nonempty]
    have accepted := inner.writes good filled (encloses.mono shorter)
      (Nat.le_trans (Nat.add_le_add_left shorter _) within)
    rcases Action.Ends.cases accepted with
      ⟨_, reached, writes, kept⟩ | ⟨cause, reached, fails, -, kept⟩
    · exact .of_error (by rw [Faulty.writeLast, if_neg none, writes]) id kept
    · exact .of_error (by rw [Faulty.writeLast, if_neg none, fails]) id kept

private theorem write_accepts (good : inner.Good true device) (nonempty : data ≠ [])
    (encloses : inner.geometry.Encloses offset data.length)
    (within : inner.geometry.Within offset data.length) :
    Accepts (fun whole : Faulty δ => inner.Good true whole.device)
      (Faulty.write offset data) ⟨device, faults⟩ := by
  by_cases lost : faults.powerLost = true
  · exact .of_error (by rw [Faulty.write, if_pos lost]) id good
  · by_cases lasts : { faults with writes := faults.writes + 1 }.lastsFor data.length = true
    · rcases Action.Ends.cases (inner.writes good nonempty encloses within) with
        ⟨_, reached, writes, kept⟩ | ⟨cause, reached, fails, heeded, kept⟩
      · have ends : Faulty.write offset data (⟨device, faults⟩ : Faulty δ) = (.value (),
            ⟨reached, { faults with writes := faults.writes + 1 }.spend data.length⟩) := by
          rw [Faulty.write, if_neg lost]
          simp only [lasts, writes, if_true]
        exact .of_value ends kept
      · have ends : Faulty.write offset data (⟨device, faults⟩ : Faulty δ) = (.error cause,
            ⟨reached, { faults with writes := faults.writes + 1 }⟩) := by
          rw [Faulty.write, if_neg lost]
          simp only [lasts, fails, if_true]
        exact .of_error ends heeded kept
    · have last : Faulty.write offset data (⟨device, faults⟩ : Faulty δ) =
          Faulty.writeLast offset data (faults.powerLeft.getD 0)
            ⟨device, { faults with writes := faults.writes + 1 }⟩ := by
        rw [Faulty.write, if_neg lost]
        simp only [lasts, Bool.false_eq_true, if_false]
      rw [Accepts, Action.Ends, last]
      exact writeLast_accepts good nonempty encloses within _

/-- Faults that are injected are no complaints. -/
def contract (inner : Contract δ) : Contract (Faulty δ) where
  geometry := inner.geometry
  valid := inner.valid
  ends := inner.ends
  Good isOpen whole := inner.Good isOpen whole.device
  reports {whole reported} good reports := by
    refine inner.reports good ?_
    simp only [BlockDevice.geometry] at reports
    split at reports
    · contradiction
    · exact reports
  declines {whole cause} good fails := by
    simp only [BlockDevice.geometry] at fails
    split at fails
    · cases fails
      exact id
    · exact inner.declines good fails
  opens {whole} good := by
    obtain ⟨device, faults⟩ := whole
    by_cases refused : faults.failOpen = true
    · exact .of_error (if_pos refused) ⟨id, good⟩
    · rcases (inner.opens good).cases with
        ⟨_, ready, opens, kept⟩ | ⟨cause, reached, fails, heeded, kept⟩
      · have ends : Faulty.openDevice (⟨device, faults⟩ : Faulty δ) =
            (.value (), ⟨ready, { faults with opens := faults.opens + 1 }⟩) := by
          rw [Faulty.openDevice, if_neg refused, opens]
        exact .of_value ends kept
      · have ends : Faulty.openDevice (⟨device, faults⟩ : Faulty δ) =
            (.error cause, ⟨reached, faults⟩) := by
          rw [Faulty.openDevice, if_neg refused, fails]
        exact .of_error ends ⟨heeded, kept⟩
  closes good := inner.closes good
  reads {whole _ _} good encloses :=
    (inner.reads good encloses).passed (⟨·, whole.faults⟩) rfl fun _ => id
  writes := write_accepts
  erases {whole _ _} good encloses blocks := by
    obtain ⟨device, faults⟩ := whole
    by_cases lost : faults.powerLost = true
    · exact .of_error (if_pos lost) id good
    · by_cases refused : faults.failErase = true
      · exact .of_error ((if_neg lost).trans (if_pos refused)) id good
      · exact (inner.erases good encloses blocks).passed
          (⟨·, { faults with erases := faults.erases + 1 }⟩)
          ((if_neg lost).trans (if_neg refused)) fun _ => id

end Faulty

namespace Glitchy

variable {δ : Type} [BlockDevice δ]

/-- So are glitches, as long as no other geometry is reported. -/
def contract (inner : Contract δ) : Contract (Glitchy δ) where
  geometry := inner.geometry
  valid := inner.valid
  ends := inner.ends
  Good isOpen whole := inner.Good isOpen whole.device ∧ whole.reported = none
  reports {whole reported} good reports := by
    refine inner.reports good.1 ?_
    simp only [BlockDevice.geometry] at reports
    split at reports
    · contradiction
    · rename_i answer
      rw [good.2, Option.getD_none] at reports
      exact answer.trans reports
  declines {whole cause} good fails := by
    simp only [BlockDevice.geometry] at fails
    split at fails
    · rename_i own answer
      cases fails
      exact inner.declines good.1 answer
    · contradiction
  opens {whole} good := by
    by_cases refused : whole.openFails whole.opens = true
    · exact .of_error (if_pos refused) ⟨id, good⟩
    · have passes : (BlockDevice.openDevice : Action (Glitchy δ) FlashError Unit) whole =
          ((BlockDevice.openDevice whole.device).1, { whole with
            opens := whole.opens + 1, device := (BlockDevice.openDevice whole.device).2 }) :=
        if_neg refused
      rcases (inner.opens good.1).cases with
        ⟨_, ready, opens, kept⟩ | ⟨cause, reached, fails, heeded, kept⟩
      · rw [opens] at passes
        exact .of_value passes ⟨kept, good.2⟩
      · rw [fails] at passes
        exact .of_error passes ⟨heeded, kept, good.2⟩
  closes good := ⟨inner.closes good.1, good.2⟩
  reads {whole _ _} good encloses := by
    by_cases fails : whole.readFails whole.reads = true
    · exact .of_error (if_pos fails) id good
    · exact (inner.reads good.1 encloses).passed
        (fun device => { whole with reads := whole.reads + 1, device := device })
        (if_neg fails) fun _ kept => ⟨kept, good.2⟩
  writes {whole _ _} good nonempty encloses within :=
    (inner.writes good.1 nonempty encloses within).passed
      (fun device => { whole with device }) rfl fun _ kept => ⟨kept, good.2⟩
  erases {whole _ _} good encloses blocks :=
    (inner.erases good.1 encloses blocks).passed
      (fun device => { whole with device }) rfl fun _ kept => ⟨kept, good.2⟩

end Glitchy

/-! ## Watching -/

/-- What a device can be asked for while it is open. -/
inductive DemandKind where
  | read
  | write
  | erase
deriving DecidableEq, Repr

/-- A call to a device, whether it was open then, and how the call ended. -/
structure Demand where
  kind : DemandKind
  offset : Nat
  length : Nat
  isOpen : Bool
  answer : Outcome FlashError Unit
deriving DecidableEq, Repr

/-- A demand that keeps the rules of access and stays in a range, and an answer that does not
complain of it. -/
structure Demand.Lawful (geometry : Geometry) (first past : Nat) (demand : Demand) : Prop where
  isOpen : demand.isOpen = true
  first_le : first ≤ demand.offset
  le_past : demand.offset + demand.length ≤ past
  write : demand.kind = .write →
    0 < demand.length ∧ geometry.Within demand.offset demand.length
  erase : demand.kind = .erase → geometry.Whole demand.offset demand.length
  ends : demand.answer ≠ .trap
  heeded : ∀ cause, demand.answer = .error cause → ¬ cause.IsBreach

/-- A device, whether it has been opened, and the demands that were made of it, in order. -/
structure Watched (δ : Type) where
  device : δ
  isOpen : Bool := false
  demands : List Demand := []

namespace Watched

variable {δ α : Type}

/-- The device has moved on, and has answered one more demand. -/
def answered (watched : Watched δ) (device : δ) (demand : Demand) : Watched δ :=
  { watched with device, demands := watched.demands ++ [demand] }

/-- Pass a demand on to the device, and write it down. -/
def note (kind : DemandKind) (offset length : Nat) (access : Action δ FlashError α) :
    Action (Watched δ) FlashError α := fun watched =>
  match access watched.device with
  | (outcome, device) => (outcome, watched.answered device
      ⟨kind, offset, length, watched.isOpen, outcome >>= fun _ => pure ()⟩)

/-- Open the device. -/
def openDevice [BlockDevice δ] : Action (Watched δ) FlashError Unit := fun watched =>
  match BlockDevice.openDevice watched.device with
  | (.value (), device) => (.value (), { watched with device, isOpen := true })
  | (outcome, device) => (outcome, { watched with device })

instance [BlockDevice δ] : BlockDevice (Watched δ) where
  openDevice := openDevice
  closeDevice watched :=
    { watched with device := BlockDevice.closeDevice watched.device, isOpen := false }
  geometry watched := BlockDevice.geometry watched.device
  read offset length := note .read offset length (BlockDevice.read offset length)
  write offset data := note .write offset data.length (BlockDevice.write offset data)
  erase offset length := note .erase offset length (BlockDevice.erase offset length)

/-- The demands that came between the two are as told. -/
def Extends (told : Demand → Prop) (before after : Watched δ) : Prop :=
  ∃ further, after.demands = before.demands ++ further ∧ ∀ demand ∈ further, told demand

namespace Extends

variable {told weaker : Demand → Prop} {first second third : Watched δ}

theorem of_eq (same : second.demands = first.demands) : Extends told first second :=
  ⟨[], by simp [same], nofun⟩

theorem trans (one : Extends told first second) (two : Extends told second third) :
    Extends told first third := by
  obtain ⟨early, same, begins⟩ := one
  obtain ⟨late, again, goesOn⟩ := two
  refine ⟨early ++ late, by rw [again, same, List.append_assoc], fun demand made => ?_⟩
  exact (List.mem_append.1 made).elim (begins demand) (goesOn demand)

theorem mono (extended : Extends told first second)
    (implies : ∀ demand, told demand → weaker demand) : Extends weaker first second := by
  obtain ⟨further, same, each⟩ := extended
  exact ⟨further, same, fun demand made => implies demand (each demand made)⟩

end Extends

variable [BlockDevice δ]

/-- The device is open or closed, as far as its caller knows, and is good in this condition. -/
structure InOrder (contract : Contract δ) (opened : Bool) (watched : Watched δ) : Prop where
  isOpen : watched.isOpen = opened
  good : contract.Good opened watched.device

/-- After an access to an open device, only lawful demands have been made within the range. -/
structure Obeys (contract : Contract δ) (first past : Nat) (opened : Bool)
    (before after : Watched δ) : Prop where
  inOrder : after.InOrder contract opened
  extends' : Extends (Demand.Lawful contract.geometry first past) before after

variable {contract : Contract δ} {watched : Watched δ} {first past offset length : Nat}
  {data : Bytes} {access : Action δ FlashError α}

theorem Obeys.trans {middle after : Watched δ} {opened before : Bool}
    (one : Obeys contract first past before watched middle)
    (two : Obeys contract first past opened middle after) :
    Obeys contract first past opened watched after :=
  ⟨two.inOrder, one.extends'.trans two.extends'⟩

/-- An access that ends, in either way, having made only lawful demands and without a complaint. -/
def Behaves (contract : Contract δ) (first past : Nat) (opened : Bool)
    (access : Action (Watched δ) FlashError α) (watched : Watched δ) : Prop :=
  access.Ends watched (fun _ => Obeys contract first past opened watched)
    fun cause reached => ¬ cause.IsBreach ∧ Obeys contract first past opened watched reached

/-- A demand that the device accepts is noted as a lawful one. -/
private theorem note_behaves {kind : DemandKind} (inOrder : watched.InOrder contract true)
    (accepted : Accepts (contract.Good true) access watched.device) (inside : first ≤ offset)
    (ends : offset + length ≤ past)
    (write : kind = .write → 0 < length ∧ contract.geometry.Within offset length)
    (erase : kind = .erase → contract.geometry.Whole offset length) :
    Behaves contract first past true (note kind offset length access) watched := by
  have obeys : ∀ {demand : Demand} {device : δ}, contract.Good true device →
      demand.Lawful contract.geometry first past →
      Obeys contract first past true watched (watched.answered device demand) :=
    fun good lawful => ⟨⟨inOrder.isOpen, good⟩, _, rfl, List.forall_mem_singleton.2 lawful⟩
  rcases Action.Ends.cases accepted with
    ⟨result, device, answers, good⟩ | ⟨cause, device, answers, heeded, good⟩
  · have noted : note kind offset length access watched = (.value result,
        watched.answered device ⟨kind, offset, length, watched.isOpen, .value ()⟩) := by
      rw [note, answers]
      rfl
    exact .of_value noted
      (obeys good ⟨inOrder.isOpen, inside, ends, write, erase, nofun, nofun⟩)
  · have noted : note kind offset length access watched = (.error cause,
        watched.answered device ⟨kind, offset, length, watched.isOpen, .error cause⟩) := by
      rw [note, answers]
      rfl
    refine .of_error noted
      ⟨heeded, obeys good ⟨inOrder.isOpen, inside, ends, write, erase, nofun, ?_⟩⟩
    rintro other ⟨⟩
    exact heeded

theorem read_behaves (inOrder : watched.InOrder contract true)
    (encloses : contract.geometry.Encloses offset length) (inside : first ≤ offset)
    (ends : offset + length ≤ past) :
    Behaves contract first past true (BlockDevice.read offset length) watched :=
  note_behaves inOrder (contract.reads inOrder.good encloses) inside ends nofun nofun

theorem write_behaves (inOrder : watched.InOrder contract true) (nonempty : data ≠ [])
    (encloses : contract.geometry.Encloses offset data.length)
    (within : contract.geometry.Within offset data.length) (inside : first ≤ offset)
    (ends : offset + data.length ≤ past) :
    Behaves contract first past true (BlockDevice.write offset data) watched :=
  note_behaves inOrder (contract.writes inOrder.good nonempty encloses within) inside ends
    (fun _ => ⟨List.length_pos_iff.2 nonempty, within⟩) nofun

theorem erase_behaves (inOrder : watched.InOrder contract true)
    (encloses : contract.geometry.Encloses offset length)
    (whole : contract.geometry.Whole offset length) (inside : first ≤ offset)
    (ends : offset + length ≤ past) :
    Behaves contract first past true (BlockDevice.erase offset length) watched :=
  note_behaves inOrder (contract.erases inOrder.good encloses whole) inside ends nofun
    fun _ => whole

/-- A session leaves the device closed, however its access ends. -/
theorem session_behaves {access : Action (Watched δ) FlashError α}
    (inOrder : watched.InOrder contract false)
    (judged : ∀ ready : Watched δ, ready.InOrder contract true →
      Behaves contract first past true access ready) :
    Behaves contract first past false (BlockDevice.session access) watched := by
  rcases (contract.opens inOrder.good).cases with
    ⟨_, device, opens, good⟩ | ⟨cause, device, fails, heeded, good⟩
  · have ready : (BlockDevice.openDevice : Action (Watched δ) FlashError Unit) watched =
        (.value (), { watched with device, isOpen := true }) := by
      show openDevice watched = _
      rw [openDevice, opens]
    have begins := judged { watched with device, isOpen := true } ⟨rfl, good⟩
    have closes : ∀ {reached : Watched δ},
        Obeys contract first past true { watched with device, isOpen := true } reached →
        Obeys contract first past false watched (BlockDevice.closeDevice reached) :=
      fun obeys => ⟨⟨rfl, contract.closes obeys.inOrder.good⟩, obeys.extends'⟩
    rcases Action.Ends.cases begins with
      ⟨result, reached, ends, obeys⟩ | ⟨cause, reached, ends, heeded, obeys⟩
    · have closed : BlockDevice.session access watched =
          (.value result, BlockDevice.closeDevice reached) := by
        rw [BlockDevice.session, ready]
        simp only [ends]
      exact .of_value closed (closes obeys)
    · have closed : BlockDevice.session access watched =
          (.error cause, BlockDevice.closeDevice reached) := by
        rw [BlockDevice.session, ready]
        simp only [ends]
      exact .of_error closed ⟨heeded, closes obeys⟩
  · have refused : (BlockDevice.openDevice : Action (Watched δ) FlashError Unit) watched =
        (.error cause, { watched with device }) := by
      show openDevice watched = _
      rw [openDevice, fails]
    have session : BlockDevice.session access watched = (.error cause, { watched with device }) := by
      rw [BlockDevice.session, refused]
    exact .of_error session ⟨heeded, ⟨inOrder.isOpen, good⟩, .of_eq rfl⟩

end Watched

end NorStore.Flash
