/-
# A device on limited power

A device in the wrapper that cuts the power is a front of the device alone. As long as nothing is
armed the two cannot be told apart. Once power is limited, what gets through is what the meter
lets through, and the device behind the wrapper is the device that was given just these calls.
One lemma compares the meter with the wrapper for one call, and by induction they agree over
everything that can happen to the wrapper, with power limited anew and faults reset in between. A
write that the device would refuse is none of the meter's business, so it is assumed that there
is none; where nothing is armed this is not needed.

The counts are numbers without a bound, so the law is that of a device to which fewer bytes are
programmed than a counter can tell.
-/

import NorStore.Proofs.Flash.Meter

namespace NorStore.Flash

/-! ## What happens to the wrapper -/

namespace Faulty

variable {δ : Type} [BlockDevice δ]

/-- What has become of the wrapper after an incident. -/
def undergo (whole : Faulty δ) : Incident → Faulty δ
  | .call call => (call.access whole).2
  | .cutPowerAfter bytes => { whole with faults := whole.faults.cutPowerAfter bytes }
  | .reset => { whole with faults := whole.faults.reset }

/-- What has become of it after some incidents. -/
def history (whole : Faulty δ) (incidents : List Incident) : Faulty δ :=
  incidents.foldl undergo whole

/-- The call fails. -/
def Fails (whole : Faulty δ) (call : Call) : Prop := ∃ cause, (call.access whole).1 = .error cause

/-- The call is answered by the device behind, and does there what it does. -/
def HandsOn (whole : Faulty δ) (call : Call) : Prop :=
  (call.access whole).1 = (call.access whole.device).1 ∧
    (call.access whole).2.device = (call.access whole.device).2

end Faulty

/-! ## The faults by the meter -/

namespace Faults

variable {faults : Faults} {call : Call} {offset : Nat} {data : Bytes}

/-- How much may still be programmed with these faults. -/
def supply (faults : Faults) : Supply :=
  if faults.powerLost then .lost else faults.powerLeft.elim .unlimited .limited

/-- Nothing has been armed but a limit of the power. -/
structure OnlyPower (faults : Faults) : Prop where
  geometry : faults.failGeometry = false
  opens : faults.failOpen = false
  erases : faults.failErase = false

/-- Nothing has been armed. -/
structure Clear (faults : Faults) : Prop extends OnlyPower faults where
  unlimited : faults.supply = .unlimited

theorem clear_reset (faults : Faults) : faults.reset.Clear := ⟨⟨rfl, rfl, rfl⟩, rfl⟩

/-- The faults after a call that was passed on and answered. -/
def noting (faults : Faults) (call : Call) (answer : Outcome FlashError Answer) : Faults :=
  match call, answer with
  | .openDevice, .value _ => { faults with opens := faults.opens + 1 }
  | .write _ data, .value _ => { faults with writes := faults.writes + 1 }.spend data.length
  | .write _ _, _ => { faults with writes := faults.writes + 1 }
  | .erase _ _, _ => { faults with erases := faults.erases + 1 }
  | _, _ => faults

theorem lost_of_supply (gone : faults.supply = .lost) : faults.powerLost = true := by
  obtain ⟨left, lost, _, _, _, _, _, _, _⟩ := faults
  cases lost with
  | true => rfl
  | false => cases left <;> contradiction

theorem powered_of_passes (passes : faults.supply.refuses call = false)
    (alters : call.alters = true) : ¬ faults.powerLost = true := by
  intro lost
  rw [supply, if_pos lost, Supply.refuses, alters] at passes
  contradiction

theorem lasts_of_passes (passes : faults.supply.refuses (.write offset data) = false) :
    faults.lastsFor data.length = true := by
  rw [supply, if_neg (powered_of_passes passes rfl)] at passes
  rw [lastsFor]
  cases limit : faults.powerLeft with
  | none => rfl
  | some left =>
      rw [limit] at passes
      exact decide_eq_true (Nat.not_lt.1 (of_decide_eq_false passes))

/-- Power that is not lost refuses only a write, and that for want of power. -/
theorem short_of_refused (powered : faults.powerLost = false)
    (refused : faults.supply.refuses call = true) :
    ∃ left offset data, faults.powerLeft = some left ∧ call = .write offset data ∧
      left < data.length := by
  rw [supply, if_neg (ne_true_of_eq_false powered)] at refused
  cases limit : faults.powerLeft with
  | none =>
      rw [limit] at refused
      contradiction
  | some left =>
      rw [limit] at refused
      cases call with
      | write offset data => exact ⟨left, offset, data, rfl, rfl, of_decide_eq_true refused⟩
      | _ => contradiction

theorem supply_cutPowerAfter (faults : Faults) (bytes : Nat) :
    (faults.cutPowerAfter bytes).supply = faults.supply.armed bytes := by
  obtain ⟨left, lost, _, _, _, _, _, _, _⟩ := faults
  cases lost <;> cases left <;> rfl

theorem OnlyPower.noting (only : faults.OnlyPower) (call : Call)
    (answer : Outcome FlashError Answer) : (faults.noting call answer).OnlyPower := by
  cases call <;> cases answer <;> exact ⟨only.geometry, only.opens, only.erases⟩

/-- Nothing that is noted arms a fault. -/
theorem Clear.noting (clear : faults.Clear) (call : Call) (answer : Outcome FlashError Answer) :
    (faults.noting call answer).Clear := by
  refine ⟨clear.toOnlyPower.noting call answer, ?_⟩
  have unlimited := clear.unlimited
  obtain ⟨left, lost, _, _, _, _, _, _, _⟩ := faults
  cases lost with
  | true => contradiction
  | false =>
      cases left with
      | some left => contradiction
      | none => cases call <;> cases answer <;> rfl

/-- What is noted of a call that is not refused, if the chip accepts it. -/
theorem noting_of_fits {flash : MemoryFlash} (passes : faults.supply.refuses call = false)
    (fits : call.Fits flash) :
    (faults.noting call (call.access flash).1).supply = faults.supply.used call ∧
      (faults.noting call (call.access flash).1).bytesWritten =
        faults.bytesWritten + call.bytes.length := by
  cases call with
  | write offset data =>
      rw [show ((Call.write offset data).access flash).1 = .value .done from fits, Call.bytes,
        List.length_mapIdx]
      refine ⟨?_, rfl⟩
      have powered := powered_of_passes passes rfl
      have lasts := lasts_of_passes passes
      obtain ⟨left, lost, _, _, _, _, _, _, _⟩ := faults
      cases lost with
      | true => contradiction
      | false =>
          cases left with
          | none => rfl
          | some left => exact (if_pos (of_decide_eq_true lasts)).symm
  | _ =>
      rw [Supply.used_of_idle]
      · cases (Call.access _ flash).1 <;> exact ⟨rfl, rfl⟩
      · intro offset data same
        contradiction

/-- A call that is not there to alter cells takes no power and programs nothing. -/
theorem noting_of_idle {answer : Outcome FlashError Answer} (idle : call.alters = false) :
    (faults.noting call answer).powerLost = faults.powerLost ∧
      (faults.noting call answer).bytesWritten = faults.bytesWritten := by
  cases call with
  | openDevice => cases answer <;> exact ⟨rfl, rfl⟩
  | closeDevice => exact ⟨rfl, rfl⟩
  | geometry => exact ⟨rfl, rfl⟩
  | read offset length => exact ⟨rfl, rfl⟩
  | _ => contradiction

end Faults

/-! ## One call through the wrapper -/

namespace Faulty

variable {δ : Type} [BlockDevice δ]

omit [BlockDevice δ] in
/-- An access that is handed on as it is, up to what is noted of its outcome. -/
private theorem hands_on {α : Type} {whole : Faulty δ} {outer : Action (Faulty δ) FlashError α}
    {inner : Action δ FlashError α} {answer : α → Answer}
    (note : Outcome FlashError Answer → Faults)
    (handed : ∀ outcome reached, inner whole.device = (outcome, reached) →
      outer whole = (outcome, ⟨reached, note (answer <$> outcome)⟩)) :
    (outer >>= fun result => pure (answer result)) whole =
      (((inner >>= fun result => pure (answer result)) whole.device).1,
        ⟨((inner >>= fun result => pure (answer result)) whole.device).2,
          note ((inner >>= fun result => pure (answer result)) whole.device).1⟩) := by
  rw [Action.bind_apply, Action.bind_apply, Action.bind, Action.bind]
  rcases ended : inner whole.device with ⟨_ | _ | _, reached⟩ <;> rw [handed _ _ ended] <;> rfl

/-- A call that is not refused is answered by the device behind. -/
theorem access_of_passes {whole : Faulty δ} {call : Call} (only : whole.faults.OnlyPower)
    (passes : whole.faults.supply.refuses call = false) :
    call.access whole = ((call.access whole.device).1, ⟨(call.access whole.device).2,
      whole.faults.noting call (call.access whole.device).1⟩) := by
  obtain ⟨device, faults⟩ := whole
  dsimp only at only passes ⊢
  cases call with
  | openDevice =>
      refine hands_on (faults.noting .openDevice) fun outcome reached ended => ?_
      show openDevice _ = _
      rw [openDevice]
      dsimp only at ended ⊢
      rw [if_neg (ne_true_of_eq_false only.opens), ended]
      cases outcome <;> rfl
  | closeDevice => rfl
  | geometry =>
      rw [Call.access, Call.access, Action.get_bind, Action.get_bind]
      simp only [BlockDevice.geometry, only.geometry]
      cases BlockDevice.geometry device <;> rfl
  | read offset length =>
      refine hands_on (faults.noting (.read offset length)) fun outcome reached ended => ?_
      simp only [BlockDevice.read, ended]
      rfl
  | write offset data =>
      refine hands_on (faults.noting (.write offset data)) fun outcome reached ended => ?_
      show write _ _ _ = _
      have lasts : { faults with writes := faults.writes + 1 }.lastsFor data.length = true :=
        Faults.lasts_of_passes passes
      rw [write]
      dsimp only at ended ⊢
      rw [if_neg (Faults.powered_of_passes passes rfl), if_pos lasts, ended]
      cases outcome <;> rfl
  | erase offset length =>
      refine hands_on (faults.noting (.erase offset length)) fun outcome reached ended => ?_
      show erase _ _ _ = _
      rw [erase]
      dsimp only at ended ⊢
      rw [if_neg (Faults.powered_of_passes passes rfl), if_neg (ne_true_of_eq_false only.erases),
        ended]
      cases outcome <;> rfl

theorem handsOn_of_passes {whole : Faulty δ} {call : Call} (only : whole.faults.OnlyPower)
    (passes : whole.faults.supply.refuses call = false) : whole.HandsOn call := by
  rw [HandsOn, access_of_passes only passes]
  exact ⟨rfl, rfl⟩

/-- Without power a call that would alter cells fails, and nothing happens. -/
theorem access_of_lost {whole : Faulty δ} {call : Call} (lost : whole.faults.powerLost = true)
    (alters : call.alters = true) : ∃ cause, call.access whole = (.error cause, whole) := by
  obtain ⟨device, faults⟩ := whole
  dsimp only at lost
  cases call with
  | write offset data =>
      refine ⟨.writeFailed offset .noPower, Action.bind_of_error ?_ _⟩
      show write offset data _ = _
      rw [write]
      dsimp only
      rw [if_pos lost]
  | erase offset length =>
      refine ⟨.eraseFailed offset .noPower, Action.bind_of_error ?_ _⟩
      show erase offset length _ = _
      rw [erase]
      dsimp only
      rw [if_pos lost]
  | _ => contradiction

/-! ## The wrapper by the meter -/

/-- What has got through between two states of the wrapper, and what is left after it. -/
structure Metered (through : List Call) (supply : Supply) (before after : Faulty MemoryFlash) :
    Prop where
  only : after.faults.OnlyPower
  supply_eq : after.faults.supply = supply
  accepted : Call.Accepted before.device through
  device : after.device = Call.after before.device through
  written : after.faults.bytesWritten =
    before.faults.bytesWritten + (Call.programmed through).length

variable {whole first second third : Faulty MemoryFlash} {call : Call} {supply last : Supply}
  {through more : List Call}

theorem Metered.refl (only : whole.faults.OnlyPower) :
    Metered [] whole.faults.supply whole whole :=
  ⟨only, rfl, trivial, rfl, rfl⟩

theorem Metered.trans (one : Metered through supply first second)
    (two : Metered more last second third) : Metered (through ++ more) last first third where
  only := two.only
  supply_eq := two.supply_eq
  accepted := Call.accepted_append.2 ⟨one.accepted, one.device ▸ two.accepted⟩
  device := by rw [two.device, one.device, Call.after_append]
  written := by
    rw [two.written, one.written, Call.programmed_append, List.length_append, Nat.add_assoc]

/-- The write for which power does not last is cut to what is left, and takes the power. -/
private theorem write_cut {device : MemoryFlash} {faults : Faults} {left offset : Nat}
    {data : Bytes} (powered : faults.powerLost = false) (limit : faults.powerLeft = some left)
    (few : left < data.length) (fits : (Call.write offset data).Fits device) :
    ∃ cause latest, BlockDevice.write offset data (⟨device, faults⟩ : Faulty MemoryFlash) =
        (.error cause, ⟨device.programmed offset (data.take left), latest⟩) ∧
      (faults.OnlyPower → latest.OnlyPower) ∧ latest.powerLost = true ∧
      latest.bytesWritten = faults.bytesWritten + left := by
  have short : { faults with writes := faults.writes + 1 }.lastsFor data.length = false := by
    rw [Faults.lastsFor, limit]
    exact decide_eq_false (Nat.not_le.2 few)
  have stops : BlockDevice.write offset data (⟨device, faults⟩ : Faulty MemoryFlash) =
      writeLast offset data left ⟨device, { faults with writes := faults.writes + 1 }⟩ := by
    show write offset data _ = _
    rw [write]
    dsimp only
    rw [if_neg (ne_true_of_eq_false powered), if_neg (ne_true_of_eq_false short), limit,
      Option.getD_some]
  rw [stops, writeLast]
  dsimp only
  -- If nothing is left, the device is not asked at all, which comes to programming nothing.
  by_cases none : left = 0
  · subst none
    rw [if_pos rfl, List.take_zero]
    exact ⟨_, _, rfl, fun only => ⟨only.geometry, only.opens, only.erases⟩, rfl, rfl⟩
  · rw [if_neg none, MemoryFlash.write_of_fits (MemoryFlash.fits_take fits left)]
    exact ⟨_, _, rfl, fun only => ⟨only.geometry, only.opens, only.erases⟩, rfl, rfl⟩

/-- The meter is right about the write for which power does not last. -/
private theorem metered_cut {left offset : Nat} {data : Bytes} (only : whole.faults.OnlyPower)
    (powered : whole.faults.powerLost = false) (limit : whole.faults.powerLeft = some left)
    (few : left < data.length) (fits : (Call.write offset data).Fits whole.device) :
    whole.Fails (.write offset data) ∧ Metered [.write offset (data.take left)] .lost whole
      ((Call.write offset data).access whole).2 := by
  obtain ⟨device, faults⟩ := whole
  obtain ⟨cause, latest, stops, kept, lost, written⟩ := write_cut powered limit few fits
  have fails : (Call.write offset data).access (⟨device, faults⟩ : Faulty MemoryFlash) =
      (.error cause, ⟨device.programmed offset (data.take left), latest⟩) :=
    Action.bind_of_error stops _
  have cut := MemoryFlash.fits_take fits left
  rw [Fails, fails]
  refine ⟨⟨cause, rfl⟩, kept only, if_pos lost, ⟨cut, trivial⟩, ?_, ?_⟩
  · rw [Call.after, Call.after, Call.access, Action.bind_of_value (MemoryFlash.write_of_fits cut)]
    rfl
  · rw [written, Call.programmed_singleton, Call.bytes, List.length_mapIdx, List.length_take,
      Nat.min_eq_left (Nat.le_of_lt few)]

/-- The meter is right about a call for which there is too little power, and the call fails. -/
theorem metered_of_refused (only : whole.faults.OnlyPower) (fits : call.Fits whole.device)
    (refused : whole.faults.supply.refuses call = true) :
    whole.Fails call ∧ Metered (whole.faults.supply.pass call) (whole.faults.supply.used call)
      whole (call.access whole).2 := by
  cases powered : whole.faults.powerLost with
  | true =>
      obtain ⟨cause, fails⟩ := access_of_lost powered (Supply.alters_of_refused refused)
      have gone : whole.faults.supply = .lost := if_pos powered
      have same := Metered.refl only
      rw [gone] at same
      rw [Fails, fails, gone, Supply.pass, if_pos (Supply.alters_of_refused refused)]
      exact ⟨⟨cause, rfl⟩, same⟩
  | false =>
      obtain ⟨left, offset, data, limit, rfl, few⟩ := Faults.short_of_refused powered refused
      have supply : whole.faults.supply = .limited left := by
        rw [Faults.supply, if_neg (ne_true_of_eq_false powered), limit]
        rfl
      rw [supply, Supply.pass, Supply.used, if_neg (Nat.not_le.2 few)]
      exact metered_cut only powered limit few fits

/-- The meter is right about one call. -/
theorem metered_access (only : whole.faults.OnlyPower) (fits : call.Fits whole.device) :
    Metered (whole.faults.supply.pass call) (whole.faults.supply.used call) whole
      (call.access whole).2 := by
  cases refused : whole.faults.supply.refuses call with
  | true => exact (metered_of_refused only fits refused).2
  | false =>
      obtain ⟨supply, written⟩ := Faults.noting_of_fits refused fits
      rw [access_of_passes only refused, Supply.pass_of_passes refused]
      refine ⟨only.noting _ _, supply, ⟨fits, trivial⟩, rfl, ?_⟩
      rw [Call.programmed_singleton]
      exact written

/-- The meter is right about everything that can happen. -/
theorem metered_history {incidents : List Incident} (only : whole.faults.OnlyPower)
    (accepted : Call.Accepted whole.device (issued incidents)) :
    Metered (whole.faults.supply.passed incidents) (whole.faults.supply.remaining incidents) whole
      (whole.history incidents) := by
  induction incidents generalizing whole with
  | nil => exact .refl only
  | cons incident rest ih =>
      cases incident with
      | call call =>
          -- The calls that follow are accepted by a chip that was given the whole of this one. The
          -- chip that was given what got through of it is its twin.
          have step := metered_access only accepted.1
          have twins := Supply.twins_pass (.refl whole.device) whole.faults.supply call
          rw [← step.device] at twins
          have run := ih step.only (twins.accepted accepted.2)
          rw [step.supply_eq] at run
          exact step.trans run
      | cutPowerAfter bytes =>
          have run := @ih ⟨whole.device, whole.faults.cutPowerAfter bytes⟩
            ⟨only.geometry, only.opens, only.erases⟩ accepted
          rw [Faults.supply_cutPowerAfter] at run
          exact ⟨run.only, run.supply_eq, run.accepted, run.device, run.written⟩
      | reset =>
          have run := @ih ⟨whole.device, whole.faults.reset⟩
            (Faults.clear_reset _).toOnlyPower accepted
          exact ⟨run.only, run.supply_eq, run.accepted, run.device, run.written⟩

/-- A call that the chip would accept next fails if there is too little power, and is handed on
otherwise. -/
theorem next_of_accepted (only : whole.faults.OnlyPower) (fits : call.Fits whole.device) :
    if whole.faults.supply.refuses call then whole.Fails call else whole.HandsOn call := by
  split
  · rename_i refused
    exact (metered_of_refused only fits refused).1
  · rename_i passes
    exact handsOn_of_passes only (eq_false_of_ne_true passes)

/-- Nothing is armed, and then the two cannot be told apart. -/
theorem clear_run {calls : List Call} (clear : whole.faults.Clear) :
    Call.answers whole calls = Call.answers whole.device calls ∧
      (Call.after whole calls).device = Call.after whole.device calls := by
  induction calls generalizing whole with
  | nil => exact ⟨rfl, rfl⟩
  | cons call rest ih =>
      have passes : whole.faults.supply.refuses call = false := by
        rw [clear.unlimited]
        rfl
      have later : (call.access whole).2.faults.Clear := by
        rw [access_of_passes clear.toOnlyPower passes]
        exact clear.noting _ _
      have run := ih later
      rw [access_of_passes clear.toOnlyPower passes] at run
      rw [Call.answers, Call.after, access_of_passes clear.toOnlyPower passes]
      exact ⟨congrArg (_ :: ·) run.1, run.2⟩

/-! ## Power that is lost -/

/-- Power is lost before and after, and in between nothing happens to the cells. -/
structure Frozen (before after : Faulty MemoryFlash) : Prop where
  only : after.faults.OnlyPower
  lost : after.faults.powerLost = true
  cells : after.device.cells = before.device.cells
  written : after.faults.bytesWritten = before.faults.bytesWritten

/-- Without power calls that would alter cells fail, and the others are handed on. -/
theorem next_of_lost (only : whole.faults.OnlyPower) (lost : whole.faults.powerLost = true)
    (call : Call) : if call.alters then whole.Fails call else whole.HandsOn call := by
  split
  · rename_i alters
    obtain ⟨cause, fails⟩ := access_of_lost lost alters
    exact ⟨cause, congrArg Prod.fst fails⟩
  · rename_i idle
    refine handsOn_of_passes only ?_
    rw [Faults.supply, if_pos lost]
    exact eq_false_of_ne_true idle

/-- Only a reset brings power back. -/
theorem frozen_undergo {incident : Incident} (only : whole.faults.OnlyPower)
    (lost : whole.faults.powerLost = true) (kept : incident ≠ .reset) :
    Frozen whole (whole.undergo incident) := by
  cases incident with
  | call call =>
      cases alters : call.alters with
      | true =>
          obtain ⟨cause, fails⟩ := access_of_lost lost alters
          rw [undergo, fails]
          exact ⟨only, lost, rfl, rfl⟩
      | false =>
          have passes : whole.faults.supply.refuses call = false := by
            rw [Faults.supply, if_pos lost]
            exact alters
          rw [undergo, access_of_passes only passes]
          have cells := MemoryFlash.cells_access alters whole.device
          obtain ⟨same, written⟩ := Faults.noting_of_idle alters
          exact ⟨only.noting _ _, same.trans lost, cells, written⟩
  | cutPowerAfter bytes => exact ⟨⟨only.geometry, only.opens, only.erases⟩, lost, rfl, rfl⟩
  | reset => exact absurd rfl kept

theorem frozen_history {incidents : List Incident} (only : whole.faults.OnlyPower)
    (lost : whole.faults.powerLost = true) (kept : .reset ∉ incidents) :
    Frozen whole (whole.history incidents) := by
  induction incidents generalizing whole with
  | nil => exact ⟨only, lost, rfl, rfl⟩
  | cons incident rest ih =>
      rw [List.mem_cons, not_or] at kept
      have step := frozen_undergo only lost (Ne.symm kept.1)
      have run := ih step.only step.lost kept.2
      exact ⟨run.only, run.lost, run.cells.trans step.cells, run.written.trans step.written⟩

/-! ## The law -/

/-- A device in the wrapper is a front of the device alone. If nothing is armed the two answer
alike and hold the same, and a reset leaves nothing armed. Since the wrapper was made, what has
got through are the calls of the meter, and their bytes have been counted. If power is limited to
some bytes at any time, the calls that follow program the first ones, as many as the limit is;
those that would pass it, or alter cells after it was passed, fail, and any others are handed on.
Once it was passed, the cells stay as they are until there is a reset. -/
theorem front_of_device (flash : MemoryFlash) :
    (∀ (faults : Faults) (calls : List Call), faults.Clear →
      Call.answers (⟨flash, faults⟩ : Faulty MemoryFlash) calls = Call.answers flash calls ∧
      (Call.after (⟨flash, faults⟩ : Faulty MemoryFlash) calls).device =
        Call.after flash calls) ∧
    (({} : Faults).Clear ∧ ∀ faults : Faults, faults.reset.Clear) ∧
    (∀ incidents : List Incident, Call.Accepted flash (issued incidents) →
      let whole := history { device := flash } incidents
      let through := Supply.unlimited.passed incidents
      Call.Accepted flash through ∧ whole.device = Call.after flash through ∧
      whole.faults.bytesWritten = (Call.programmed through).length) ∧
    ∀ (faults : Faults) (bytes : Nat) (calls : List Call), faults.OnlyPower →
      faults.powerLost = false → Call.Accepted flash calls →
      let reached := history ⟨flash, faults⟩ (.cutPowerAfter bytes :: calls.map .call)
      let through := (Supply.limited bytes).passed (calls.map .call)
      (Call.Accepted flash through ∧ reached.device = Call.after flash through ∧
        Call.programmed through = (Call.programmed calls).take bytes ∧
        reached.faults.bytesWritten =
          faults.bytesWritten + (Call.programmed through).length) ∧
      (∀ call : Call, call.Fits (Call.after flash calls) →
        if call.alters ∧ bytes < (Call.programmed (calls ++ [call])).length then
          reached.Fails call
        else reached.HandsOn call) ∧
      (bytes < (Call.programmed calls).length →
        ∀ incidents : List Incident, .reset ∉ incidents →
          let later := reached.history incidents
          later.device.cells = reached.device.cells ∧
          later.faults.bytesWritten = reached.faults.bytesWritten ∧
          ∀ call : Call, if call.alters then later.Fails call else later.HandsOn call) := by
  refine ⟨fun faults calls clear => clear_run clear,
    ⟨⟨⟨rfl, rfl, rfl⟩, rfl⟩, Faults.clear_reset⟩, fun incidents accepted => ?_,
    fun faults bytes calls only powered accepted => ?_⟩
  · have run := @metered_history ⟨flash, {}⟩ incidents ⟨rfl, rfl, rfl⟩ accepted
    exact ⟨run.accepted, run.device, run.written.trans (Nat.zero_add _)⟩
  · have armed : (faults.cutPowerAfter bytes).supply = .limited bytes :=
      if_neg (ne_true_of_eq_false powered)
    have run := @metered_history ⟨flash, faults.cutPowerAfter bytes⟩ (calls.map .call)
      ⟨only.geometry, only.opens, only.erases⟩ ((issued_calls calls).symm ▸ accepted)
    have twins := Supply.twins_passed (.refl flash) (.limited bytes) (calls.map .call)
    rw [issued_calls] at twins
    rw [armed] at run
    refine ⟨⟨run.accepted, run.device, Supply.programmed_passed_limited bytes calls, run.written⟩,
      fun call fits => ?_, fun more incidents kept => ?_⟩
    · have next := next_of_accepted run.only ((run.device ▸ twins).fits fits)
      rw [run.supply_eq, Supply.refuses_remaining] at next
      simp only [Bool.and_eq_true, decide_eq_true_eq] at next
      exact next
    · have supply := run.supply_eq
      rw [Supply.remaining_limited, if_neg (Nat.not_le.2 more)] at supply
      have lost := Faults.lost_of_supply supply
      have frozen := frozen_history run.only lost kept
      exact ⟨frozen.cells, frozen.written, next_of_lost frozen.only frozen.lost⟩

/-- With power for three bytes the second write is cut, and the erase behind it does not happen. -/
def cutCalls : List Call :=
  [.openDevice, .write 4 [0x0F, 0x3C], .erase 8 4, .write 8 [1, 2], .erase 4 4]

theorem front_of_device_sample :
    let reached := history ⟨Handles.blankPair, {}⟩ (.cutPowerAfter 3 :: cutCalls.map .call)
    reached.device.cells = #[0x0F, 0x3C, 0xFF, 0xFF, 0x01, 0xFF, 0xFF, 0xFF] ∧
      reached.faults.bytesWritten = 3 ∧ reached.Fails (.write 6 []) ∧
      reached.HandsOn (.read 4 8) := by
  obtain ⟨-, -, -, law⟩ := front_of_device Handles.blankPair
  have accepted : Call.Accepted Handles.blankPair cutCalls :=
    ⟨trivial, rfl, trivial, rfl, trivial, trivial⟩
  obtain ⟨⟨-, device, -, written⟩, next, -⟩ := law {} 3 cutCalls ⟨rfl, rfl, rfl⟩ rfl accepted
  refine ⟨?_, written, ?_, ?_⟩
  · rw [device]
    decide
  · exact next (.write 6 []) rfl
  · exact next (.read 4 8) trivial

end Faulty

end NorStore.Flash
