/-
# What a limit of the power lets through

Calls that are made on limited power get through until the bytes that may be programmed are used
up. The write that would pass the limit is cut to what is left, and after it only calls that alter
nothing get through, until there is a reset. A meter tells this from the calls alone. What it lets
through is again a sequence of calls, and the bytes that these program are the first ones of those
that all the calls would have programmed, as many as the limit is.

A chip tells calls that it accepts from others by its geometry and by whether it is open. Cutting
a write and leaving calls out that alter cells make no difference to either, so a chip that
accepts all writes accepts those that get through.
-/

import NorStore.Proofs.Flash.History

namespace NorStore.Flash

/-! ## Calls one after another -/

namespace Call

section Serving

variable {δ : Type} [BlockDevice δ]

/-- The device after some calls. -/
def after (device : δ) : List Call → δ
  | [] => device
  | call :: rest => after (call.access device).2 rest

/-- What some calls are answered with. -/
def answers (device : δ) : List Call → List (Outcome FlashError Answer)
  | [] => []
  | call :: rest => (call.access device).1 :: answers (call.access device).2 rest

theorem after_append (device : δ) (first second : List Call) :
    after device (first ++ second) = after (after device first) second := by
  induction first generalizing device with
  | nil => rfl
  | cons call rest ih => exact ih _

end Serving

/-- Whether the call is there to alter cells. -/
def alters : Call → Bool
  | write _ _ => true
  | erase _ _ => true
  | _ => false

/-- The bytes that a call programs, each with its offset. -/
def bytes : Call → List (Nat × UInt8)
  | write offset data => data.mapIdx fun index byte => (offset + index, byte)
  | _ => []

/-- The bytes that some calls program, in this order. -/
def programmed (calls : List Call) : List (Nat × UInt8) := calls.flatMap bytes

/-- If the call is a write, the chip accepts it. -/
def Fits (flash : MemoryFlash) : Call → Prop
  | write offset data => ((write offset data).access flash).1 = .value .done
  | _ => True

/-- The chip accepts every write among some calls, one after another. -/
def Accepted (flash : MemoryFlash) : List Call → Prop
  | [] => True
  | call :: rest => call.Fits flash ∧ Accepted (call.access flash).2 rest

section Programmed

variable {flash : MemoryFlash} {calls first second : List Call} {call : Call}

theorem programmed_append : programmed (first ++ second) = programmed first ++ programmed second :=
  List.flatMap_append

theorem programmed_cons : programmed (call :: calls) = call.bytes ++ programmed calls :=
  List.flatMap_cons

theorem programmed_singleton : programmed [call] = call.bytes := List.append_nil _

theorem accepted_append : Accepted flash (first ++ second) ↔
    Accepted flash first ∧ Accepted (after flash first) second := by
  induction first generalizing flash with
  | nil => exact (and_iff_right trivial).symm
  | cons call rest ih => exact (and_congr_right fun _ => ih).trans and_assoc.symm

end Programmed

end Call

/-! ## What a chip accepts -/

namespace MemoryFlash

variable {flash one two : MemoryFlash} {offset : Nat} {data : Bytes} {calls : List Call}

/-- Chips that are told apart only by their cells and counts. -/
structure Twins (one two : MemoryFlash) : Prop where
  geometry : one.geometry = two.geometry
  isOpen : one.isOpen = two.isOpen

theorem fits_write_iff : (Call.write offset data).Fits flash ↔
    flash.geometry.checkWrite flash.isOpen offset data.length = .value () := by
  rw [Call.Fits, access_eq, Call.check]
  cases flash.geometry.checkWrite flash.isOpen offset data.length <;> simp [answering]

theorem Twins.refl (flash : MemoryFlash) : Twins flash flash := ⟨rfl, rfl⟩

/-- Chips of one geometry, open or closed alike, accept the same writes. -/
theorem Twins.fits (twins : Twins one two) {call : Call} (fits : call.Fits one) :
    call.Fits two := by
  cases call with
  | write offset data =>
      rw [fits_write_iff] at fits ⊢
      rwa [← twins.geometry, ← twins.isOpen]
  | _ => trivial

/-- No call makes a difference between them. -/
theorem Twins.access (twins : Twins one two) (call : Call) :
    Twins (call.access one).2 (call.access two).2 := by
  rw [access_eq, access_eq, twins.geometry, twins.isOpen]
  cases call.check two.geometry two.isOpen with
  | value _ => cases call <;> exact ⟨twins.geometry, by first | rfl | exact twins.isOpen⟩
  | error cause => exact twins
  | trap => exact twins

/-- What programs or erases leaves its twin behind. -/
theorem Twins.of_alters {call : Call} (alters : call.alters = true) (twins : Twins one two) :
    Twins (call.access one).2 two := by
  rw [access_eq]
  cases call.check one.geometry one.isOpen with
  | value _ => cases call <;> first | exact ⟨twins.geometry, twins.isOpen⟩ | contradiction
  | error cause => exact twins
  | trap => exact twins

theorem Twins.symm (twins : Twins one two) : Twins two one :=
  ⟨twins.geometry.symm, twins.isOpen.symm⟩

theorem Twins.accepted (twins : Twins one two) (accepted : Call.Accepted one calls) :
    Call.Accepted two calls := by
  induction calls generalizing one two with
  | nil => trivial
  | cons call rest ih => exact ⟨twins.fits accepted.1, ih (twins.access call) accepted.2⟩

/-- Nothing is allowed on a region that does not end at a word. -/
theorem ends_of_checkRange {geometry : Geometry} {isOpen : Bool} {length : Nat}
    (allowed : geometry.checkRange isOpen offset length = .value ()) :
    geometry.regionOffset + geometry.regionSize < Word.limit := by
  refine Nat.lt_of_not_le fun beyond => ?_
  have past : (geometry.regionEnd : Outcome FlashError Nat) = .trap := by
    rw [Geometry.regionEnd, Word.add, if_neg (Nat.not_lt.2 beyond)]
  rw [Geometry.checkRange] at allowed
  split at allowed
  · rw [Geometry.contains, past] at allowed
    split at allowed <;> contradiction
  · contradiction

/-- What begins a write that is accepted is accepted itself. -/
theorem fits_take (fits : (Call.write offset data).Fits flash) (count : Nat) :
    (Call.write offset (data.take count)).Fits flash := by
  rw [fits_write_iff, Geometry.checkWrite_eq_value_iff flash.valid] at fits ⊢
  have ends := ends_of_checkRange fits.1
  rw [Geometry.checkRange_eq_value_iff ends] at fits ⊢
  obtain ⟨⟨isOpen, first, last⟩, within⟩ := fits
  have shorter := (List.take_sublist count data).length_le
  exact ⟨⟨isOpen, first, by omega⟩, by omega⟩

/-- A write that is accepted programs its bytes. -/
theorem write_of_fits (fits : (Call.write offset data).Fits flash) :
    BlockDevice.write offset data flash = (.value (), flash.programmed offset data) := by
  simp only [BlockDevice.write, Action.guarded, fits_write_iff.1 fits]

/-- A call that is not there to alter cells does not alter them. -/
theorem cells_access {call : Call} (idle : call.alters = false) (flash : MemoryFlash) :
    (call.access flash).2.cells = flash.cells := by
  rw [access_eq]
  cases call.check flash.geometry flash.isOpen with
  | value _ => cases call <;> first | rfl | contradiction
  | error cause => rfl
  | trap => rfl

end MemoryFlash

/-! ## The meter -/

/-- How much may still be programmed. -/
inductive Supply where
  | unlimited
  | limited (left : Nat)
  | lost
deriving DecidableEq, Repr

/-- What can happen to a device in the wrapper. -/
inductive Incident where
  | call (call : Call)
  | cutPowerAfter (bytes : Nat)
  | reset
deriving DecidableEq, Repr

/-- The calls among some incidents. -/
def issued (incidents : List Incident) : List Call :=
  incidents.filterMap fun
    | .call call => some call
    | _ => none

theorem issued_calls (calls : List Call) : issued (calls.map .call) = calls := by
  rw [issued, List.filterMap_map]
  exact List.filterMap_some

namespace Supply

/-- Whether a call is one for which there is too little power. -/
def refuses : Supply → Call → Bool
  | lost, call => call.alters
  | limited left, .write _ data => left < data.length
  | _, _ => false

/-- What gets through of a call. -/
def pass : Supply → Call → List Call
  | lost, call => if call.alters then [] else [call]
  | limited left, .write offset data => [.write offset (data.take left)]
  | _, call => [call]

/-- What is left after a call. -/
def used : Supply → Call → Supply
  | limited left, .write _ data =>
    if data.length ≤ left then limited (left - data.length) else lost
  | supply, _ => supply

/-- What is left when power is limited anew. Power that is lost stays lost. -/
def armed : Supply → Nat → Supply
  | lost, _ => lost
  | _, bytes => limited bytes

/-- What is left after some incidents. -/
def remaining : Supply → List Incident → Supply
  | supply, [] => supply
  | supply, .call call :: rest => (supply.used call).remaining rest
  | supply, .cutPowerAfter bytes :: rest => (supply.armed bytes).remaining rest
  | _, .reset :: rest => unlimited.remaining rest

/-- What gets through of the calls among some incidents. -/
def passed : Supply → List Incident → List Call
  | _, [] => []
  | supply, .call call :: rest => supply.pass call ++ (supply.used call).passed rest
  | supply, .cutPowerAfter bytes :: rest => (supply.armed bytes).passed rest
  | _, .reset :: rest => unlimited.passed rest

section Passing

variable {supply : Supply} {call : Call} {one two : MemoryFlash}

/-- A call for which there is power gets through as it is. -/
theorem pass_of_passes (passes : supply.refuses call = false) : supply.pass call = [call] := by
  cases supply with
  | unlimited => rfl
  | limited left =>
      cases call with
      | write offset data =>
          have enough := Nat.not_lt.1 (of_decide_eq_false passes)
          rw [pass, List.take_of_length_le enough]
      | _ => rfl
  | lost => exact if_neg (ne_true_of_eq_false passes)

/-- Only writes use anything up. -/
theorem used_of_idle (idle : ∀ offset data, call ≠ .write offset data) :
    supply.used call = supply := by
  cases supply with
  | limited left => cases call <;> first | rfl | exact absurd rfl (idle _ _)
  | _ => rfl

/-- A call that does not get through as it is would have altered cells. -/
theorem alters_of_refused (refused : supply.refuses call = true) : call.alters = true := by
  cases supply with
  | unlimited => contradiction
  | limited left => cases call <;> first | rfl | contradiction
  | lost => exact refused

/-- What a call leaves behind and what is left by the part of it that gets through are twins. -/
theorem twins_pass (twins : one.Twins two) (supply : Supply) (call : Call) :
    (call.access one).2.Twins (Call.after two (supply.pass call)) := by
  cases refused : supply.refuses call with
  | false =>
      rw [pass_of_passes refused]
      exact twins.access call
  | true =>
      have behind := twins.of_alters (alters_of_refused refused)
      cases supply with
      | unlimited => contradiction
      | limited left =>
          cases call with
          | write offset data => exact (behind.symm.of_alters rfl).symm
          | _ => contradiction
      | lost =>
          rw [pass, if_pos (show call.alters = true from refused)]
          exact behind

/-- So are what all the calls leave behind and what is left by those that get through. -/
theorem twins_passed (twins : one.Twins two) (supply : Supply) (incidents : List Incident) :
    (Call.after one (issued incidents)).Twins (Call.after two (supply.passed incidents)) := by
  induction incidents generalizing one two supply with
  | nil => exact twins
  | cons incident rest ih =>
      cases incident with
      | call call =>
          rw [passed, Call.after_append]
          exact ih (twins_pass twins supply call) _
      | cutPowerAfter bytes => exact ih twins _
      | reset => exact ih twins _

end Passing

section Limited

/-- Without power nothing is programmed. -/
theorem programmed_passed_lost (calls : List Call) :
    Call.programmed (lost.passed (calls.map .call)) = [] := by
  induction calls with
  | nil => rfl
  | cons call rest ih => cases call <;> exact ih

theorem remaining_lost (calls : List Call) : lost.remaining (calls.map .call) = lost := by
  induction calls with
  | nil => rfl
  | cons call rest ih => exact ih

/-- What is programmed of a write that is cut is the front of what it would have programmed. -/
theorem bytes_take (offset : Nat) (data : Bytes) (count : Nat) :
    (Call.write offset (data.take count)).bytes = (Call.write offset data).bytes.take count := by
  refine List.ext_getElem? fun index => ?_
  simp only [Call.bytes, List.getElem?_mapIdx, List.getElem?_take]
  split <;> rfl

/-- The bytes that are programmed are the first ones, as many as the limit is. -/
theorem programmed_passed_limited (left : Nat) (calls : List Call) :
    Call.programmed ((limited left).passed (calls.map .call)) =
      (Call.programmed calls).take left := by
  induction calls generalizing left with
  | nil => exact List.take_nil.symm
  | cons call rest ih =>
      cases call with
      | write offset data =>
          rw [List.map_cons, passed, Call.programmed_append, pass, Call.programmed_singleton,
            bytes_take, Call.programmed_cons, List.take_append, Call.bytes, List.length_mapIdx]
          refine congrArg _ ?_
          rw [used]
          split
          · exact ih _
          · rename_i short
            rw [programmed_passed_lost, Nat.sub_eq_zero_of_le (Nat.le_of_not_le short),
              List.take_zero]
      | _ => exact ih left

example : (limited 3).passed
    ([.write 4 [1, 2], .erase 8 4, .write 6 [3, 4], .erase 8 4, .read 4 4].map .call) =
      [.write 4 [1, 2], .erase 8 4, .write 6 [3], .read 4 4] := rfl

/-- Power lasts as long as the bytes are no more than the limit. -/
theorem remaining_limited (left : Nat) (calls : List Call) :
    (limited left).remaining (calls.map .call) =
      if (Call.programmed calls).length ≤ left then
        limited (left - (Call.programmed calls).length)
      else lost := by
  induction calls generalizing left with
  | nil => rfl
  | cons call rest ih =>
      cases call with
      | write offset data =>
          rw [List.map_cons, remaining, Call.programmed_cons, List.length_append, Call.bytes,
            List.length_mapIdx, used]
          split
          · rw [ih]
            simp only [Nat.le_sub_iff_add_le' ‹_›, Nat.sub_sub]
          · rw [remaining_lost, if_neg (by omega)]
      | _ => exact ih left

/-- After some calls a limit refuses a call that alters cells if the bytes of all of them are
more than it. -/
theorem refuses_remaining (left : Nat) (calls : List Call) (call : Call) :
    ((limited left).remaining (calls.map .call)).refuses call =
      (call.alters && decide (left < (Call.programmed (calls ++ [call])).length)) := by
  rw [remaining_limited, Call.programmed_append, Call.programmed_singleton, List.length_append]
  split
  · cases call with
    | write offset data =>
        rw [Call.bytes, List.length_mapIdx]
        refine decide_eq_decide.2 ?_
        omega
    | erase offset length => exact (decide_eq_false (Nat.not_lt.2 ‹_›)).symm
    | _ => rfl
  · have beyond : left < (Call.programmed calls).length + call.bytes.length := by omega
    rw [decide_eq_true beyond, Bool.and_true]
    rfl

end Limited

end Supply

end NorStore.Flash
