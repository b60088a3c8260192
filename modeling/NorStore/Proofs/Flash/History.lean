/-
# What a chip remembers

A chip that started blank has nothing in it but what was done to it. Each cell holds an erased
byte together with all the bytes that were programmed into it since it was last erased, whichever
handles they came through, and each count is the number of the calls that it counts. What the
handles remember for themselves is whether they are open.

Only calls that succeed belong to this past, and whether one does is told by the rules of access
alone. A call that fails leaves no trace. The counts are numbers without a bound, so the law is
that of a chip whose counters have not overflowed.
-/

import NorStore.Flash.Probe
import NorStore.Proofs.Flash.Interchange
import NorStore.Proofs.Flash.Watched
import NorStore.Proofs.Flash.Wear

namespace NorStore.Flash

/-! ## The past -/

namespace Call

/-- Whether the cell at an offset is among those that are erased. -/
def erases (offset : Nat) : Call → Bool
  | erase start length => start ≤ offset && offset < start + length
  | _ => false

/-- The byte that is programmed into the cell at an offset. -/
def byte? (offset : Nat) : Call → Option UInt8
  | write start data => if start ≤ offset then data[offset - start]? else none
  | _ => none

/-- Whether any bytes are programmed. -/
def programs : Call → Bool
  | write _ data => !data.isEmpty
  | _ => false

/-- What the rules of access say of a call through a handle that is open or not. -/
def Allowed (shape : Geometry) (isOpen : Bool) : Call → Prop
  | openDevice => True
  | closeDevice => True
  | geometry => True
  | read offset length => isOpen = true ∧ shape.Encloses offset length
  | write offset data => isOpen = true ∧ shape.Encloses offset data.length ∧
      (data = [] ∨ shape.Within offset data.length)
  | erase offset length => isOpen = true ∧ shape.Encloses offset length ∧
      shape.Whole offset length

end Call

/-- A call that has succeeded, and the number of the handle that it went through. -/
structure Deed where
  number : Nat
  call : Call
deriving DecidableEq, Repr

/-- Whether a handle was opened or closed. -/
def Deed.turns (number : Nat) (deed : Deed) : Bool :=
  deed.number = number && (deed.call = .openDevice || deed.call = .closeDevice)

section Past

variable (past : List Deed) (offset number : Nat)

/-- The bytes that were programmed into a cell since it was erased. Here and below, the latest of
the deeds comes first. -/
def programmedSince : Bytes :=
  (past.takeWhile fun deed => !deed.call.erases offset).filterMap (·.call.byte? offset)

/-- What a cell holds. -/
def contentAfter : UInt8 := (programmedSince past offset).foldr (· &&& ·) Cells.erasedByte

/-- How often a cell was erased. -/
def erasuresIn : Nat := past.countP (·.call.erases offset)

/-- How often cells were programmed. -/
def programsIn : Nat := past.countP (·.call.programs)

/-- Whether a handle was opened, and not closed since then. -/
def openAfter : Bool := (past.find? (·.turns number)).any (·.call = .openDevice)

/-- What a call that is allowed is answered with. -/
def answerAfter (shape : Geometry) : Call → Answer
  | .geometry => .geometry shape
  | .read offset length => .content ((List.range' offset length).map (contentAfter past))
  | _ => .done

end Past

/-- A past with one more request in it, if this was a call that succeeded. -/
def noted (past : List Deed) : Request → Option (Outcome FlashError Answer) → List Deed
  | .call number call, some (.value _) => ⟨number, call⟩ :: past
  | _, _ => past

/-- The past after some requests. -/
def Handles.deeds {δ : Type} [Shareable δ] [BlockDevice δ] (handles : Handles δ)
    (past : List Deed) : List Request → List Deed
  | [] => past
  | request :: rest =>
    (handles.serve request).2.deeds (noted past request (handles.serve request).1) rest

/-! ## One more deed -/

section Deeds

variable {past : List Deed} {deed : Deed} {offset number start length : Nat} {data : Bytes}

theorem contentAfter_cons : contentAfter (deed :: past) offset =
    if deed.call.erases offset then Cells.erasedByte
    else contentAfter past offset &&& (deed.call.byte? offset).getD Cells.erasedByte := by
  rw [contentAfter, programmedSince, List.takeWhile_cons]
  cases deed.call.erases offset with
  | true => rfl
  | false =>
      rw [contentAfter, programmedSince]
      simp only [Bool.not_false, if_true, Bool.false_eq_true, if_false, List.filterMap_cons]
      cases deed.call.byte? offset with
      | none => simp only [Option.getD_none, Cells.and_erasedByte]
      | some byte => simp only [List.foldr_cons, Option.getD_some, UInt8.and_comm byte]

theorem erasuresIn_cons : erasuresIn (deed :: past) offset =
    erasuresIn past offset + if deed.call.erases offset then 1 else 0 :=
  List.countP_cons ..

theorem programsIn_cons : programsIn (deed :: past) =
    programsIn past + if deed.call.programs then 1 else 0 :=
  List.countP_cons ..

theorem openAfter_cons : openAfter (deed :: past) number =
    if deed.turns number then decide (deed.call = .openDevice) else openAfter past number := by
  rw [openAfter, List.find?_cons]
  cases deed.turns number <;> rfl

/-- A handle that was never used is closed. -/
theorem openAfter_of_new (numbered : ∀ deed ∈ past, deed.number ≠ number) :
    openAfter past number = false := by
  have unused : past.find? (·.turns number) = none := by
    rw [List.find?_eq_none]
    intro deed member
    simp [Deed.turns, numbered deed member]
  rw [openAfter, unused]
  rfl

/-- The byte over a cell is the one that a write programs into it, if there is any. -/
theorem overlay_eq_byte? {first : Nat} (begins : first ≤ start) (inside : first ≤ offset) :
    Cells.overlay (start - first) data (offset - first) =
      ((Call.write start data).byte? offset).getD Cells.erasedByte := by
  rw [Cells.overlay, Call.byte?]
  by_cases behind : start ≤ offset
  · rw [if_pos (by omega), if_pos behind, List.getD_eq_getElem?_getD,
      show offset - first - (start - first) = offset - start by omega]
  · rw [if_neg (by omega), if_neg behind, Option.getD_none]

/-- An erased range of whole blocks covers a block or shares no cell with it. -/
theorem block_iff {geometry : Geometry} (valid : geometry.Valid)
    (begins : geometry.regionOffset ≤ start) (inside : geometry.regionOffset ≤ offset)
    (whole : geometry.Whole start length) :
    ((start - geometry.regionOffset) / geometry.blockSize ≤
        (offset - geometry.regionOffset) / geometry.blockSize ∧
      (offset - geometry.regionOffset) / geometry.blockSize <
        (start - geometry.regionOffset) / geometry.blockSize + length / geometry.blockSize) ↔
      (Call.erase start length).erases offset = true := by
  have positive := valid.blockSize_pos
  obtain ⟨first, starts⟩ : geometry.blockSize ∣ start - geometry.regionOffset :=
    Nat.dvd_sub (Nat.dvd_of_mod_eq_zero whole.1) (Nat.dvd_of_mod_eq_zero valid.aligned)
  obtain ⟨count, measures⟩ := Nat.dvd_of_mod_eq_zero whole.2
  rw [starts, measures, Nat.mul_div_cancel_left _ positive, Nat.mul_div_cancel_left _ positive,
    Nat.le_div_iff_mul_le positive, Nat.div_lt_iff_lt_mul positive, Nat.add_mul,
    Nat.mul_comm first, Nat.mul_comm count]
  simp only [Call.erases, Bool.and_eq_true, decide_eq_true_eq]
  omega

end Deeds

/-! ## What a call does -/

namespace Call

variable {shape : Geometry} {isOpen : Bool}

/-- The check before a call. -/
def check (shape : Geometry) (isOpen : Bool) : Call → Outcome FlashError Unit
  | read offset length => shape.checkRange isOpen offset length
  | write offset data => shape.checkWrite isOpen offset data.length
  | erase offset length => shape.checkErase isOpen offset length
  | _ => return ()

variable (ends : shape.regionOffset + shape.regionSize < Word.limit)

include ends

/-- The checks come to what the rules say. -/
theorem check_eq_value_iff (valid : shape.Valid) (call : Call) :
    call.check shape isOpen = .value () ↔ call.Allowed shape isOpen := by
  have range (offset length : Nat) : shape.checkRange isOpen offset length = .value () ↔
      isOpen = true ∧ shape.Encloses offset length := by
    rw [Geometry.checkRange_eq_value_iff ends]
    exact ⟨fun ⟨opened, first, last⟩ => ⟨opened, ends, first, last⟩,
      fun ⟨opened, encloses⟩ => ⟨opened, encloses.first, encloses.last⟩⟩
  cases call with
  | openDevice => exact iff_of_true rfl trivial
  | closeDevice => exact iff_of_true rfl trivial
  | geometry => exact iff_of_true rfl trivial
  | read offset length => exact range offset length
  | write offset data =>
      rw [check, Geometry.checkWrite_eq_value_iff valid, range, List.length_eq_zero_iff, and_assoc]
      rfl
  | erase offset length =>
      rw [check, Geometry.checkErase_eq_value_iff, range, and_assoc]
      rfl

theorem check_ne_trap (valid : shape.Valid) (call : Call) : call.check shape isOpen ≠ .trap := by
  cases call with
  | openDevice => exact nofun
  | closeDevice => exact nofun
  | geometry => exact nofun
  | read offset length => exact Geometry.checkRange_ne_trap ends
  | write offset data => exact Geometry.checkWrite_ne_trap valid ends
  | erase offset length => exact Geometry.checkErase_ne_trap ends

end Call

namespace MemoryFlash

variable {flash : MemoryFlash} {past : List Deed} {call : Call}

/-- The chip after a call that is allowed. -/
def doing (flash : MemoryFlash) : Call → MemoryFlash
  | .openDevice => { flash with isOpen := true }
  | .closeDevice => { flash with isOpen := false }
  | .geometry => flash
  | .read _ _ => flash
  | .write offset data => flash.programmed offset data
  | .erase offset length => flash.erased offset length

/-- The answer to a call that is allowed. -/
def answering (flash : MemoryFlash) : Call → Answer
  | .openDevice => .done
  | .closeDevice => .done
  | .geometry => .geometry flash.geometry
  | .read offset length =>
    .content (flash.cells.slice (offset - flash.geometry.regionOffset) length)
  | .write _ _ => .done
  | .erase _ _ => .done

/-- A call comes to what its check comes to, and does nothing unless this is a value. -/
theorem access_eq (flash : MemoryFlash) (call : Call) : call.access flash =
    match call.check flash.geometry flash.isOpen with
    | .value _ => (.value (flash.answering call), flash.doing call)
    | .error cause => (.error cause, flash)
    | .trap => (.trap, flash) := by
  cases call with
  | openDevice => rfl
  | closeDevice => rfl
  | geometry => rfl
  | read offset length =>
      rw [Call.access, Call.check, Action.bind_apply, Action.bind]
      simp only [BlockDevice.read, Action.observe, Action.guarded]
      cases flash.geometry.checkRange flash.isOpen offset length <;> rfl
  | write offset data =>
      rw [Call.access, Call.check, Action.bind_apply, Action.bind]
      simp only [BlockDevice.write, Action.guarded]
      cases flash.geometry.checkWrite flash.isOpen offset data.length <;> rfl
  | erase offset length =>
      rw [Call.access, Call.check, Action.bind_apply, Action.bind]
      simp only [BlockDevice.erase, Action.guarded]
      cases flash.geometry.checkErase flash.isOpen offset length <;> rfl

/-- A call is answered as the rules of access say, and otherwise it is refused and has done
nothing. -/
theorem access_cases (flash : MemoryFlash)
    (ends : flash.geometry.regionOffset + flash.geometry.regionSize < Word.limit) (call : Call) :
    (call.Allowed flash.geometry flash.isOpen ∧
        call.access flash = (.value (flash.answering call), flash.doing call)) ∨
      ¬ call.Allowed flash.geometry flash.isOpen ∧
        ∃ cause, call.access flash = (.error cause, flash) := by
  rw [access_eq, ← Call.check_eq_value_iff ends flash.valid]
  cases checked : call.check flash.geometry flash.isOpen with
  | value _ => exact .inl ⟨rfl, rfl⟩
  | error cause => exact .inr ⟨nofun, cause, rfl⟩
  | trap => exact absurd checked (Call.check_ne_trap ends flash.valid call)

/-- Only opening and closing a handle changes whether it is open. -/
theorem isOpen_doing (flash : MemoryFlash) (number : Nat) (call : Call) :
    (flash.doing call).isOpen =
      if Deed.turns number ⟨number, call⟩ then decide (call = .openDevice) else flash.isOpen := by
  cases call <;> simp [doing, Deed.turns] <;> rfl

/-! ## What a chip recalls -/

/-- The cells of a chip hold what the past has put into them, and its counts are right. -/
structure Recalls (geometry : Geometry) (past : List Deed) (flash : MemoryFlash) : Prop where
  geometry_eq : flash.geometry = geometry
  cell {offset : Nat} : geometry.regionOffset ≤ offset →
    offset < geometry.regionOffset + geometry.regionSize →
    flash.cells[offset - geometry.regionOffset]? = some (contentAfter past offset)
  erasures {offset : Nat} : geometry.regionOffset ≤ offset →
    offset < geometry.regionOffset + geometry.regionSize →
    flash.eraseCounts[(offset - geometry.regionOffset) / geometry.blockSize]? =
      some (erasuresIn past offset)
  programs : flash.programs = programsIn past

variable {shape : Geometry} {offset length number : Nat} {data : Bytes}

/-- What is read from the cells is what the past has put into them. -/
theorem Recalls.answering (recalls : Recalls shape past flash)
    (allowed : call.Allowed shape flash.isOpen) :
    flash.answering call = answerAfter past shape call := by
  cases call with
  | openDevice => rfl
  | closeDevice => rfl
  | geometry => exact congrArg Answer.geometry recalls.geometry_eq
  | read offset length =>
      have ⟨_, first, last⟩ := allowed.2
      refine congrArg Answer.content (List.ext_getElem? fun index => ?_)
      rw [Cells.getElem?_slice, recalls.geometry_eq, List.getElem?_map]
      split
      · rename_i below
        have recalled : flash.cells[offset + index - shape.regionOffset]? =
            some (contentAfter past (offset + index)) := recalls.cell (by omega) (by omega)
        rw [Nat.sub_add_comm first] at recalled
        rw [List.getElem?_range' below, Nat.one_mul, recalled]
        rfl
      · rename_i above
        rw [List.getElem?_eq_none (by rw [List.length_range']; omega)]
        rfl
  | write offset data => rfl
  | erase offset length => rfl

/-- Whether a handle is open is nothing that the chip recalls. -/
theorem Recalls.turned (recalls : Recalls shape past flash) (isOpen : Bool) :
    Recalls shape past { flash with isOpen } :=
  ⟨recalls.geometry_eq, recalls.cell, recalls.erasures, recalls.programs⟩

/-- A call that neither programs nor erases is of no account. -/
theorem Recalls.idle (recalls : Recalls shape past flash) (deed : Deed)
    (erases : ∀ offset, deed.call.erases offset = false)
    (keeps : ∀ offset, deed.call.byte? offset = none) (programs : deed.call.programs = false) :
    Recalls shape (deed :: past) flash where
  geometry_eq := recalls.geometry_eq
  cell {offset} inside below := by
    rw [recalls.cell inside below, contentAfter_cons, erases, keeps]
    simp
  erasures {offset} inside below := by
    rw [recalls.erasures inside below, erasuresIn_cons, erases]
    rfl
  programs := by
    rw [recalls.programs, programsIn_cons, programs]
    rfl

/-- A write is shared by the cells under its data, and raises the count unless it is empty. -/
theorem Recalls.write (recalls : Recalls shape past flash) (number : Nat)
    (first : shape.regionOffset ≤ offset) :
    Recalls shape (⟨number, .write offset data⟩ :: past) (flash.programmed offset data) where
  geometry_eq := recalls.geometry_eq
  cell {place} inside below := by
    show (flash.cells.program (offset - flash.geometry.regionOffset) data)[_]? = _
    rw [recalls.geometry_eq, Cells.getElem?_program, recalls.cell inside below,
      overlay_eq_byte? first inside, contentAfter_cons]
    rfl
  erasures {place} inside below := by
    show flash.eraseCounts[_]? = _
    rw [recalls.erasures inside below, erasuresIn_cons]
    rfl
  programs := by
    show (if data.isEmpty then flash.programs else flash.programs + 1) = _
    rw [programsIn_cons, recalls.programs, Call.programs]
    cases data.isEmpty <;> rfl

/-- An erase starts its cells over, and raises the counts of its blocks. -/
theorem Recalls.erase (recalls : Recalls shape past flash) (number : Nat)
    (first : shape.regionOffset ≤ offset) (whole : shape.Whole offset length) :
    Recalls shape (⟨number, .erase offset length⟩ :: past) (flash.erased offset length) where
  geometry_eq := recalls.geometry_eq
  cell {place} inside below := by
    have covers : offset - shape.regionOffset ≤ place - shape.regionOffset ∧
        place - shape.regionOffset < offset - shape.regionOffset + length ↔
        (Call.erase offset length).erases place = true := by
      simp only [Call.erases, Bool.and_eq_true, decide_eq_true_eq]
      omega
    show (flash.cells.erase (offset - flash.geometry.regionOffset) length)[_]? = _
    rw [recalls.geometry_eq, Cells.getElem?_erase, recalls.cell inside below, contentAfter_cons]
    simp only [covers]
    split
    · rfl
    · exact congrArg some (Cells.and_erasedByte _).symm
  erasures {place} inside below := by
    have valid : shape.Valid := recalls.geometry_eq ▸ flash.valid
    show (raiseCounts flash.eraseCounts ((offset - flash.geometry.regionOffset) /
      flash.geometry.blockSize) (length / flash.geometry.blockSize))[_]? = _
    rw [recalls.geometry_eq, getElem?_raiseCounts, recalls.erasures inside below, erasuresIn_cons]
    simp only [block_iff valid first inside whole]
    split <;> rfl
  programs := by
    show flash.programs = _
    rw [programsIn_cons, recalls.programs]
    rfl

/-- A chip accounts for every call that is allowed. -/
theorem Recalls.doing (recalls : Recalls shape past flash) (number : Nat)
    (allowed : call.Allowed shape flash.isOpen) :
    Recalls shape (⟨number, call⟩ :: past) (flash.doing call) := by
  cases call with
  | openDevice => exact (recalls.idle _ (fun _ => rfl) (fun _ => rfl) rfl).turned true
  | closeDevice => exact (recalls.idle _ (fun _ => rfl) (fun _ => rfl) rfl).turned false
  | geometry => exact recalls.idle _ (fun _ => rfl) (fun _ => rfl) rfl
  | read offset length => exact recalls.idle _ (fun _ => rfl) (fun _ => rfl) rfl
  | write offset data => exact recalls.write number allowed.2.1.first
  | erase offset length => exact recalls.erase number allowed.2.1.first allowed.2.2

/-- A blank chip has no past. -/
theorem recalls_blank (valid : shape.Valid) :
    ∃ chip, MemoryFlash.blank? shape = .ok chip ∧ chip.isOpen = false ∧ Recalls shape [] chip := by
  rw [MemoryFlash.blank?, Geometry.check_of_valid valid]
  refine ⟨_, rfl, rfl, rfl, ?_, ?_, rfl⟩
  · intro offset inside below
    show (Array.replicate _ _)[_]? = _
    rw [Array.getElem?_replicate, if_pos (by omega)]
    rfl
  · intro offset inside below
    have counted : (offset - shape.regionOffset) / shape.blockSize < shape.blockCount := by
      rw [Nat.div_lt_iff_lt_mul valid.blockSize_pos, valid.covered]
      omega
    show (Array.replicate _ _)[_]? = _
    rw [Array.getElem?_replicate, if_pos counted]
    rfl

/-- The count that a bench reads at an offset is the one of its block. -/
theorem Recalls.eraseCount? (recalls : Recalls shape past flash)
    (inside : shape.regionOffset ≤ offset)
    (below : offset < shape.regionOffset + shape.regionSize) :
    Probe.eraseCount? flash offset = some (.value (erasuresIn past offset)) := by
  have positive := flash.valid.blockSize_pos
  have begins : flash.geometry.regionOffset ≤ offset := recalls.geometry_eq ▸ inside
  simp only [Probe.eraseCount?, Geometry.blockIndex, Word.sub_of_le begins,
    Word.div_of_ne (Nat.ne_of_gt positive), Outcome.value_bind]
  rw [recalls.geometry_eq, recalls.erasures inside below]
  rfl

end MemoryFlash

/-! ## The handles on a chip -/

namespace Handles

variable {shape : Geometry} {past : List Deed} {handles : Handles MemoryFlash} {number : Nat}
  {call : Call} {flash : MemoryFlash}

theorem serve_call_of_none (vacant : handles.list[number]? = none) (call : Call) :
    handles.serve (.call number call) = (none, handles) := by
  rw [serve, through?, vacant]

theorem serve_call_of_some (found : handles.list[number]? = some flash) (call : Call) :
    handles.serve (.call number call) = (some (call.access flash).1,
      ⟨(handles.list.map (Shareable.follow · (call.access flash).2)).set number
        (call.access flash).2⟩) := by
  rw [serve, through?, found]

/-- All handles see the chip that the past accounts for, and each knows whether it is open. -/
structure Remembers (shape : Geometry) (past : List Deed) (handles : Handles MemoryFlash) :
    Prop where
  attached : handles.list ≠ []
  numbered {deed : Deed} : deed ∈ past → deed.number < handles.list.length
  recalls {flash : MemoryFlash} : flash ∈ handles.list → flash.Recalls shape past
  follows {flash other : MemoryFlash} : flash ∈ handles.list → other ∈ handles.list →
    Shareable.follow flash other = flash
  isOpen {number : Nat} {flash : MemoryFlash} : handles.list[number]? = some flash →
    flash.isOpen = openAfter past number

/-- It is enough that every handle follows one chip that recalls the past. -/
theorem remembers_of_follow {latest : MemoryFlash} (recalls : latest.Recalls shape past)
    (attached : handles.list ≠ []) (numbered : ∀ deed ∈ past, deed.number < handles.list.length)
    (sees : ∀ flash ∈ handles.list, ∃ handle, flash = Shareable.follow handle latest)
    (isOpen : ∀ number flash, handles.list[number]? = some flash →
      flash.isOpen = openAfter past number) : Remembers shape past handles where
  attached
  numbered := numbered _
  recalls held := by
    obtain ⟨handle, rfl⟩ := sees _ held
    exact recalls.turned handle.isOpen
  follows held also := by
    obtain ⟨handle, rfl⟩ := sees _ held
    obtain ⟨other, rfl⟩ := sees _ also
    rfl
  isOpen := isOpen _ _

theorem remembers_single (closed : flash.isOpen = false) (recalls : flash.Recalls shape []) :
    Remembers shape [] (single flash) := by
  refine remembers_of_follow recalls (List.cons_ne_nil _ _) nofun ?_ ?_
  · intro handle held
    rw [List.mem_singleton.1 held]
    exact ⟨flash, rfl⟩
  · intro number handle found
    rw [List.mem_singleton.1 (List.mem_of_getElem? found)]
    exact closed

/-- A call that fails leaves the handles as they are. -/
theorem Remembers.serve_of_error (remembers : Remembers shape past handles)
    (found : handles.list[number]? = some flash) {cause : FlashError}
    (fails : call.access flash = (.error cause, flash)) :
    handles.serve (.call number call) = (some (.error cause), handles) := by
  obtain ⟨bound, here⟩ := List.getElem?_eq_some_iff.1 found
  have same : handles.list.map (Shareable.follow · flash) = handles.list := by
    refine Eq.trans (List.map_congr_left fun other also => ?_) (List.map_id handles.list)
    exact remembers.follows also (List.mem_of_getElem? found)
  rw [serve_call_of_some found, fails, same]
  subst here
  rw [List.set_getElem_self]

/-- A call that succeeds is remembered. -/
theorem Remembers.serve_of_value (remembers : Remembers shape past handles)
    (found : handles.list[number]? = some flash) {answer : Answer}
    (allowed : call.Allowed shape flash.isOpen)
    (succeeds : call.access flash = (.value answer, flash.doing call)) :
    Remembers shape (⟨number, call⟩ :: past) (handles.serve (.call number call)).2 := by
  have bound := (List.getElem?_eq_some_iff.1 found).1
  rw [serve_call_of_some found, succeeds]
  refine remembers_of_follow ((remembers.recalls (List.mem_of_getElem? found)).doing number allowed)
    ?_ ?_ ?_ ?_
  · rw [Ne, List.set_eq_nil_iff, List.map_eq_nil_iff]
    exact remembers.attached
  · rw [List.length_set, List.length_map]
    exact List.forall_mem_cons.2 ⟨bound, fun _ => remembers.numbered⟩
  · intro reached held
    obtain followed | rfl := List.mem_or_eq_of_mem_set held
    · obtain ⟨handle, _, rfl⟩ := List.mem_map.1 followed
      exact ⟨handle, rfl⟩
    · exact ⟨flash.doing call, rfl⟩
  · -- The handle that was used keeps the flag it has now, and any other one its own.
    intro place reached there
    rw [List.getElem?_set, List.getElem?_map] at there
    rw [openAfter_cons]
    by_cases same : number = place
    · subst same
      rw [if_pos rfl, List.length_map, if_pos bound] at there
      cases there
      rw [flash.isOpen_doing number, remembers.isOpen found]
    · rw [if_neg same] at there
      obtain ⟨handle, seen, rfl⟩ := Option.map_eq_some_iff.1 there
      rw [if_neg (by simp [Deed.turns, same])]
      show handle.isOpen = _
      exact remembers.isOpen seen

/-- What is attached follows a handle that there is. -/
theorem list_attach (attached : handles.list ≠ []) :
    ∃ first ∈ handles.list, handles.attach.list = handles.list ++ [Shareable.attach first] := by
  obtain ⟨_ | ⟨first, rest⟩⟩ := handles
  · exact absurd rfl attached
  · exact ⟨first, List.mem_cons_self, rfl⟩

/-- A handle that is attached sees what the others see, and is closed. -/
theorem Remembers.attach (remembers : Remembers shape past handles) :
    Remembers shape past handles.attach := by
  obtain ⟨first, held, attached⟩ := list_attach remembers.attached
  refine remembers_of_follow (remembers.recalls held) ?_ ?_ ?_ ?_ <;> rw [attached]
  · exact List.append_ne_nil_of_right_ne_nil _ (List.cons_ne_nil _ _)
  · intro deed noted
    rw [List.length_append]
    exact Nat.lt_add_right _ (remembers.numbered noted)
  · intro flash reached
    rw [List.mem_append, List.mem_singleton] at reached
    obtain also | rfl := reached
    · exact ⟨flash, (remembers.follows also held).symm⟩
    · exact ⟨Shareable.attach first, rfl⟩
  · intro number flash found
    rw [List.getElem?_append] at found
    split at found
    · exact remembers.isOpen found
    · rename_i behind
      obtain rfl := List.mem_singleton.1 (List.mem_of_getElem? found)
      refine (openAfter_of_new fun deed noted => ?_).symm
      have := remembers.numbered noted
      omega

/-- A call is answered from the past if the rules allow it, and otherwise it fails and changes
nothing. -/
theorem Remembers.serve_call (remembers : Remembers shape past handles)
    (ends : shape.regionOffset + shape.regionSize < Word.limit)
    (found : handles.list[number]? = some flash) (call : Call) :
    (call.Allowed shape (openAfter past number) ∧
        (handles.serve (.call number call)).1 = some (.value (answerAfter past shape call)) ∧
        Remembers shape (⟨number, call⟩ :: past) (handles.serve (.call number call)).2) ∨
      ¬ call.Allowed shape (openAfter past number) ∧
        ∃ cause, handles.serve (.call number call) = (some (.error cause), handles) := by
  have recalls := remembers.recalls (List.mem_of_getElem? found)
  have told := flash.access_cases (recalls.geometry_eq ▸ ends) call
  rw [recalls.geometry_eq] at told
  rw [← remembers.isOpen found]
  obtain ⟨allowed, succeeds⟩ | ⟨refused, cause, fails⟩ := told
  · refine .inl ⟨allowed, ?_, remembers.serve_of_value found allowed succeeds⟩
    rw [serve_call_of_some found, succeeds, recalls.answering allowed]
  · exact .inr ⟨refused, cause, remembers.serve_of_error found fails⟩

/-- A request is remembered if it was a call that succeeded. -/
theorem Remembers.serve (remembers : Remembers shape past handles)
    (ends : shape.regionOffset + shape.regionSize < Word.limit) (request : Request) :
    Remembers shape (noted past request (handles.serve request).1) (handles.serve request).2 := by
  cases request with
  | attach => exact remembers.attach
  | call number call =>
      cases found : handles.list[number]? with
      | none =>
          rw [serve_call_of_none found]
          exact remembers
      | some flash =>
          obtain ⟨-, answers, kept⟩ | ⟨-, cause, fails⟩ := remembers.serve_call ends found call
          · rw [answers]
            exact kept
          · rw [fails]
            exact remembers

/-- So are any requests, one after another. -/
theorem Remembers.after (remembers : Remembers shape past handles)
    (ends : shape.regionOffset + shape.regionSize < Word.limit) (requests : List Request) :
    Remembers shape (handles.deeds past requests) (handles.after requests) := by
  induction requests generalizing handles past with
  | nil => exact remembers
  | cons request rest ih => exact ih (remembers.serve ends request)

/-- Whatever was asked of the handles on a chip that was blank, its cells, its counts and the
answers to come are told by the calls that have succeeded. -/
theorem history_of_blank (valid : shape.Valid)
    (ends : shape.regionOffset + shape.regionSize < Word.limit) :
    ∃ chip, MemoryFlash.blank? shape = .ok chip ∧
      ∀ (requests : List Request) (number : Nat) (flash : MemoryFlash),
        let handles := (single chip).after requests
        let past := (single chip).deeds [] requests
        handles.list[number]? = some flash →
          (∀ offset, shape.regionOffset ≤ offset →
            offset < shape.regionOffset + shape.regionSize →
              flash.cells[offset - shape.regionOffset]? = some (contentAfter past offset) ∧
              Probe.eraseCount? flash offset = some (.value (erasuresIn past offset))) ∧
          flash.programs = programsIn past ∧
          ∀ call : Call,
            (call.Allowed shape (openAfter past number) →
              (handles.serve (.call number call)).1 =
                some (.value (answerAfter past shape call))) ∧
            (¬ call.Allowed shape (openAfter past number) → ∃ cause,
              handles.serve (.call number call) = (some (.error cause), handles)) := by
  obtain ⟨chip, made, closed, blank⟩ := MemoryFlash.recalls_blank valid
  refine ⟨chip, made, fun requests number flash found => ?_⟩
  have remembers := (remembers_single closed blank).after ends requests
  have recalls := remembers.recalls (List.mem_of_getElem? found)
  refine ⟨fun offset inside below => ⟨recalls.cell inside below,
    recalls.eraseCount? inside below⟩, recalls.programs, fun call => ?_⟩
  obtain ⟨allowed, answers, -⟩ | ⟨refused, fails⟩ := remembers.serve_call ends found call
  · exact ⟨fun _ => answers, fun refused => absurd allowed refused⟩
  · exact ⟨fun allowed => absurd allowed refused, fun _ => fails⟩

/-- Two blocks of four cells. -/
def pairShape : Geometry := ⟨4, 8, 2, 4, 1⟩

theorem valid_pairShape : pairShape.Valid := (Geometry.validate_eq_ok_iff _).1 rfl

/-- A blank chip of two blocks. -/
def blankPair : MemoryFlash where
  geometry := pairShape
  valid := valid_pairShape
  cells := pairShape.blankCells
  size_cells := pairShape.size_blankCells
  eraseCounts := Array.replicate 2 0
  size_eraseCounts := Array.size_replicate

/-- The second handle is used once before it is opened, and the last write would leave its block. -/
def pairRequests : List Request :=
  [.call 0 .openDevice, .call 0 (.erase 8 4), .call 0 (.write 4 [0x0F]), .attach,
    .call 1 (.write 5 [1]), .call 1 .openDevice, .call 1 (.write 4 [0x3C, 0x55]),
    .call 0 .closeDevice, .call 1 (.write 6 [1, 2, 3])]

theorem history_of_blank_sample :
    pairShape.Valid ∧ pairShape.regionOffset + pairShape.regionSize < Word.limit ∧
      let handles := (single blankPair).after pairRequests
      MemoryFlash.blank? pairShape = .ok blankPair ∧ ∃ flash, handles.list[1]? = some flash ∧
        flash.cells[0]? = some 0x0C ∧ Probe.eraseCount? flash 8 = some (.value 1) ∧
        flash.programs = 2 ∧
        (handles.serve (.call 1 (.read 4 2))).1 = some (.value (.content [0x0C, 0x55])) := by
  have ends : pairShape.regionOffset + pairShape.regionSize < Word.limit := by decide
  have blank : MemoryFlash.blank? pairShape = .ok blankPair := rfl
  have past : (single blankPair).deeds [] pairRequests =
      [⟨0, .closeDevice⟩, ⟨1, .write 4 [0x3C, 0x55]⟩, ⟨1, .openDevice⟩, ⟨0, .write 4 [0x0F]⟩,
        ⟨0, .erase 8 4⟩, ⟨0, .openDevice⟩] := by rfl
  obtain ⟨flash, found⟩ : ∃ flash, ((single blankPair).after pairRequests).list[1]? = some flash :=
    ⟨_, rfl⟩
  obtain ⟨chip, made, law⟩ := history_of_blank valid_pairShape ends
  obtain rfl : blankPair = chip := Except.ok.inj (blank.symm.trans made)
  obtain ⟨content, programs, answers⟩ := law pairRequests 1 flash found
  rw [past] at content programs answers
  exact ⟨valid_pairShape, ends, blank, flash, found, (content 4 (by decide) (by decide)).1,
    (content 8 (by decide) (by decide)).2, programs,
    (answers (.read 4 2)).1 ⟨rfl, ends, by decide, by decide⟩⟩

end Handles

end NorStore.Flash
