/-
# Reasoning about actions

An action is judged by how it ends from one state: `Ends` names what holds after a
value and what holds after an error, and rules out a trap. The rules below follow the
ways in which actions are put together, so that a claim about a long action is made of
the claims about its steps. Nothing is assumed about how the state changes; what a
failing step left behind is part of what has to be said about it.
-/

import NorStore.Outcome

namespace NorStore.Action

variable {σ ε φ α β : Type}

theorem get_bind (next : σ → Action σ ε α) (state : σ) :
    (get >>= next) state = next state state := rfl

theorem modify_bind (step : σ → σ) (next : PUnit → Action σ ε α) (state : σ) :
    (modify step >>= next) state = next ⟨⟩ (step state) := rfl

/-- After a check that passes, the action goes on from the same state. -/
theorem lift_bind_of_value {outcome : Outcome ε α} {result : α} (passes : outcome = .value result)
    (next : α → Action σ ε β) (state : σ) :
    ((liftM outcome : Action σ ε α) >>= next) state = next result state := by
  subst passes
  rfl

/-- Where the first step makes no difference between two states, the action makes none. -/
theorem bind_congr {first : Action σ ε α} {state other : σ} (same : first state = first other)
    (next : α → Action σ ε β) : (first >>= next) state = (first >>= next) other := by
  rw [bind_apply, bind_apply, bind, bind, same]

/-- Only errors are restated. -/
theorem mapError_eq_value_iff {restate : ε → φ} {action : Action σ ε α} {state reached : σ}
    {result : α} : action.mapError restate state = (.value result, reached) ↔
      action state = (.value result, reached) := by
  rw [mapError]
  rcases action state with ⟨_ | _ | _, _⟩ <;> simp [Outcome.mapError]

theorem final_eq_value_iff {action : Action σ ε Unit} {state reached : σ} :
    action.final state = .value reached ↔ action state = (.value (), reached) := by
  rw [final]
  rcases action state with ⟨_ | _ | _, _⟩ <;> simp

theorem final_eq_trap_iff {action : Action σ ε Unit} {state : σ} :
    action.final state = .trap ↔ (action state).1 = .trap := by
  rw [final]
  rcases action state with ⟨_ | _ | _, _⟩ <;> simp

/-- From a state, the action ends in a value or in an error, with the state it reaches
as told, and not in a trap. -/
def Ends (action : Action σ ε α) (state : σ) (done : α → σ → Prop) (failed : ε → σ → Prop) :
    Prop :=
  match action state with
  | (.value result, reached) => done result reached
  | (.error cause, reached) => failed cause reached
  | (.trap, _) => False

namespace Ends

variable {action : Action σ ε α} {state reached : σ} {done weaker : α → σ → Prop}
  {failed : ε → σ → Prop}

theorem of_value {result : α} (ends : action state = (.value result, reached))
    (holds : done result reached) : action.Ends state done failed := by
  rw [Ends, ends]
  exact holds

theorem of_error {cause : ε} (ends : action state = (.error cause, reached))
    (holds : failed cause reached) : action.Ends state done failed := by
  rw [Ends, ends]
  exact holds

/-- An action that comes to the same ends in the same way. -/
theorem of_eq {other : Action σ ε α} {start : σ} (same : action state = other start)
    (judged : other.Ends start done failed) : action.Ends state done failed := by
  rwa [Ends, same]

/-- There are only the two ways to end. -/
theorem cases (judged : action.Ends state done failed) :
    (∃ result reached, action state = (.value result, reached) ∧ done result reached) ∨
      ∃ cause reached, action state = (.error cause, reached) ∧ failed cause reached := by
  rw [Ends] at judged
  split at judged
  · rename_i result reached ends
    exact .inl ⟨result, reached, ends, judged⟩
  · rename_i cause reached ends
    exact .inr ⟨cause, reached, ends, judged⟩
  · exact judged.elim

/-- Where no error is possible there is a value. -/
theorem exists_value (judged : action.Ends state done fun _ _ => False) :
    ∃ result reached, action state = (.value result, reached) ∧ done result reached := by
  rcases judged.cases with found | ⟨_, _, _, impossible⟩
  · exact found
  · exact impossible.elim

theorem mono {allowed : ε → σ → Prop} (judged : action.Ends state done failed)
    (after : ∀ result reached, done result reached → weaker result reached)
    (afterError : ∀ cause reached, failed cause reached → allowed cause reached) :
    action.Ends state weaker allowed := by
  rcases judged.cases with ⟨result, reached, ends, holds⟩ | ⟨cause, reached, ends, holds⟩
  · exact of_value ends (after result reached holds)
  · exact of_error ends (afterError cause reached holds)

/-- Two claims about how the action ends are one claim of both. -/
theorem both {also : α → σ → Prop} {broken : ε → σ → Prop} (one : action.Ends state done failed)
    (two : action.Ends state also broken) :
    action.Ends state (fun result reached => done result reached ∧ also result reached)
      fun cause reached => failed cause reached ∧ broken cause reached := by
  rw [Ends] at one two ⊢
  split at one
  · rename_i ends
    rw [ends] at two
    exact ⟨one, two⟩
  · rename_i ends
    rw [ends] at two
    exact ⟨one, two⟩
  · exact one.elim

/-- What is claimed of an end is claimed of the end that the action has. -/
theorem known (judged : action.Ends state done failed) :
    action.Ends state (fun result reached => action state = (.value result, reached) ∧
      done result reached)
      fun cause reached => action state = (.error cause, reached) ∧ failed cause reached := by
  rcases judged.cases with ⟨result, reached, ends, holds⟩ | ⟨cause, reached, ends, holds⟩
  · exact of_value ends ⟨ends, holds⟩
  · exact of_error ends ⟨ends, holds⟩

theorem pure {result : α} (holds : done result state) :
    (Pure.pure result : Action σ ε α).Ends state done failed := of_value rfl holds

theorem throw {cause : ε} (holds : failed cause state) :
    (MonadExcept.throw cause : Action σ ε α).Ends state done failed := of_error rfl holds

/-- The second step starts where the first one ended, and an error of the first is the
error of both. -/
theorem bind {first : Action σ ε α} {next : α → Action σ ε β} {middle : α → σ → Prop}
    {last : β → σ → Prop} (begins : first.Ends state middle failed)
    (goesOn : ∀ result reached, middle result reached →
      (next result).Ends reached last failed) :
    (first >>= next).Ends state last failed := by
  rcases begins.cases with ⟨result, reached, ends, holds⟩ | ⟨cause, reached, ends, holds⟩
  · have rest := goesOn result reached holds
    rwa [Ends, bind_of_value ends]
  · exact of_error (bind_of_error ends next) holds

/-- The same, with an error of the first that says more than is claimed of both. -/
theorem chain {first : Action σ ε α} {next : α → Action σ ε β} {middle : α → σ → Prop}
    {broken : ε → σ → Prop} {last : β → σ → Prop} (begins : first.Ends state middle broken)
    (stops : ∀ cause reached, broken cause reached → failed cause reached)
    (goesOn : ∀ result reached, middle result reached →
      (next result).Ends reached last failed) :
    (first >>= next).Ends state last failed :=
  (begins.mono (fun _ _ => id) stops).bind goesOn

/-- The second step starts where the first one is known to end. -/
theorem value_bind {first : Action σ ε α} {next : α → Action σ ε β} {result : α}
    {last : β → σ → Prop} (ends : first state = (.value result, reached))
    (rest : (next result).Ends reached last failed) :
    (first >>= next).Ends state last failed := by
  rwa [Ends, bind_of_value ends]

/-- After a check that passes, the action goes on from the same state. -/
theorem lift_bind {outcome : Outcome ε α} {result : α} {next : α → Action σ ε β}
    {last : β → σ → Prop} (passes : outcome = .value result)
    (rest : (next result).Ends state last failed) :
    ((liftM outcome : Action σ ε α) >>= next).Ends state last failed :=
  value_bind (congrArg (·, state) passes) rest

theorem get_bind {next : σ → Action σ ε β} {last : β → σ → Prop}
    (rest : (next state).Ends state last failed) :
    (MonadState.get >>= next).Ends state last failed := rest

/-- Restating an error changes what it is and not what it left behind. -/
theorem mapError {restate : ε → φ} {failed : φ → σ → Prop}
    (judged : action.Ends state done fun cause reached => failed (restate cause) reached) :
    (action.mapError restate).Ends state done failed := by
  rcases judged.cases with ⟨result, reached, ends, holds⟩ | ⟨cause, reached, ends, holds⟩
  · exact of_value (by rw [Action.mapError, ends]; rfl) holds
  · exact of_error (by rw [Action.mapError, ends]; rfl) holds

/-- After an attempt, the action goes on from a value and from an error alike. -/
theorem attempt_bind {next : Except ε α → Action σ φ β} {last : β → σ → Prop}
    {lastFailed : φ → σ → Prop} (judged : action.Ends state done failed)
    (goesOn : ∀ result reached, done result reached →
      (next (.ok result)).Ends reached last lastFailed)
    (recovers : ∀ cause reached, failed cause reached →
      (next (.error cause)).Ends reached last lastFailed) :
    ((action.attempt : Action σ φ (Except ε α)) >>= next).Ends state last lastFailed := by
  rcases judged.cases with ⟨result, reached, ends, holds⟩ | ⟨cause, reached, ends, holds⟩
  · exact value_bind (by rw [Action.attempt, ends]) (goesOn result reached holds)
  · exact value_bind (by rw [Action.attempt, ends]) (recovers cause reached holds)

end Ends

/-! ## Two actions beside each other -/

/-- Started from the same state, the two actions come to outcomes that are related. -/
def Beside (first : Action σ ε α) (second : Action σ φ β) (state : σ)
    (related : Outcome ε α → Outcome φ β → Prop) : Prop :=
  related (first state).1 (second state).1

/-- Of two actions that begin with the same step, one goes on from its error and the other
one stops there. -/
theorem Beside.attempt_bind {ι γ : Type} {step : Action σ ι γ} {next : Except ι γ → Action σ ε α}
    {restate : ι → φ} {also : γ → Action σ φ β} {state : σ} {done : γ → σ → Prop}
    {failed : ι → σ → Prop} {related : Outcome ε α → Outcome φ β → Prop}
    (judged : step.Ends state done failed)
    (goesOn : ∀ result reached, done result reached →
      Beside (next (.ok result)) (also result) reached related)
    (recovers : ∀ cause reached, failed cause reached →
      related (next (.error cause) reached).1 (.error (restate cause))) :
    Beside (step.attempt >>= next) (step.mapError restate >>= also) state related := by
  rcases judged.cases with ⟨result, reached, ends, holds⟩ | ⟨cause, reached, ends, holds⟩
  · have tried : (step.attempt : Action σ ε _) state = (.value (.ok result), reached) := by
      rw [attempt, ends]
    rw [Beside, bind_of_value tried, bind_of_value (mapError_eq_value_iff.2 ends)]
    exact goesOn result reached holds
  · have tried : (step.attempt : Action σ ε _) state = (.value (.error cause), reached) := by
      rw [attempt, ends]
    have stops : step.mapError restate state = (.error (restate cause), reached) := by
      rw [mapError, ends]
      rfl
    rw [Beside, bind_of_value tried, bind_of_error stops]
    exact recovers cause reached holds

/-! ## Seeing less of the state -/

/-- The second action does the same with what is viewed of the state as the first one does with
the whole state. -/
def Mirrors {τ : Type} (view : σ → τ) (first : Action σ ε α) (second : Action τ ε α) (state : σ) : Prop :=
  second (view state) = ((first state).1, view (first state).2)

namespace Mirrors

variable {τ : Type} {view : σ → τ} {first : Action σ ε α} {second : Action τ ε α} {state : σ}

theorem pure (result : α) :
    Mirrors view (Pure.pure result : Action σ ε α) (Pure.pure result) state := rfl

theorem throw (cause : ε) :
    Mirrors view (MonadExcept.throw cause : Action σ ε α) (MonadExcept.throw cause) state := rfl

theorem lift (outcome : Outcome ε α) :
    Mirrors view (liftM outcome : Action σ ε α) (liftM outcome) state := rfl

theorem bind {next : α → Action σ ε β} {also : α → Action τ ε β}
    (begins : Mirrors view first second state)
    (goesOn : ∀ result reached, Mirrors view (next result) (also result) reached) :
    Mirrors view (first >>= next) (second >>= also) state := by
  rw [Mirrors] at begins ⊢
  rw [bind_apply, bind_apply, Action.bind, Action.bind, begins]
  rcases first state with ⟨_ | _ | _, reached⟩
  · exact goesOn _ reached
  · rfl
  · rfl

theorem mapError {restate : ε → φ} (judged : Mirrors view first second state) :
    Mirrors view (first.mapError restate) (second.mapError restate) state := by
  rw [Mirrors] at judged ⊢
  rw [Action.mapError, Action.mapError, judged]

theorem attempt (judged : Mirrors view first second state) :
    Mirrors view (first.attempt : Action σ φ (Except ε α)) second.attempt state := by
  rw [Mirrors] at judged ⊢
  rw [Action.attempt, Action.attempt, judged]
  rcases first state with ⟨_ | _ | _, reached⟩ <;> rfl

end Mirrors

/-! ## Whatever the end -/

@[simp]
theorem attempt_snd (action : Action σ ε α) (state : σ) :
    ((action.attempt : Action σ φ (Except ε α)) state).2 = (action state).2 := by
  rw [attempt]
  split <;> rename_i ends <;> rw [ends]

/-- The state that the action reaches is as told, also if it ends in a trap. -/
def Reaches (action : Action σ ε α) (state : σ) (holds : σ → Prop) : Prop := holds (action state).2

namespace Reaches

variable {action : Action σ ε α} {state : σ} {holds : σ → Prop}

theorem of_ends (judged : action.Ends state (fun _ => holds) fun _ => holds) :
    action.Reaches state holds := by
  rcases judged.cases with ⟨_, _, ends, told⟩ | ⟨_, _, ends, told⟩
  · rwa [Reaches, ends]
  · rwa [Reaches, ends]

/-- Two claims about the state that is reached are one claim of both. -/
theorem both {also : σ → Prop} (one : action.Reaches state holds)
    (two : action.Reaches state also) :
    action.Reaches state fun reached => holds reached ∧ also reached := ⟨one, two⟩

theorem mono {weaker : σ → Prop} (judged : action.Reaches state holds)
    (after : ∀ reached, holds reached → weaker reached) : action.Reaches state weaker :=
  after _ judged

theorem pure {result : α} (told : holds state) :
    (Pure.pure result : Action σ ε α).Reaches state holds := told

theorem throw {cause : ε} (told : holds state) :
    (MonadExcept.throw cause : Action σ ε α).Reaches state holds := told

/-- Only after a value does the action go on. -/
theorem bind {first : Action σ ε α} {next : α → Action σ ε β} (begins : first.Reaches state holds)
    (goesOn : ∀ result reached, first state = (.value result, reached) → holds reached →
      (next result).Reaches reached holds) :
    (first >>= next).Reaches state holds := by
  rw [Reaches] at begins
  rcases ends : first state with ⟨_ | _ | _, reached⟩
  · rw [ends] at begins
    rw [Reaches, bind_of_value ends]
    exact goesOn _ _ ends begins
  · rw [Reaches, bind_of_error ends]
    rwa [ends] at begins
  · rw [Reaches, bind_of_trap ends]
    rwa [ends] at begins

theorem value_bind {first : Action σ ε α} {next : α → Action σ ε β} {result : α} {reached : σ}
    (ends : first state = (.value result, reached)) (rest : (next result).Reaches reached holds) :
    (first >>= next).Reaches state holds := by
  rwa [Reaches, bind_of_value ends]

theorem lift {outcome : Outcome ε α} (told : holds state) :
    (liftM outcome : Action σ ε α).Reaches state holds := told

/-- A check takes no part in the state. -/
theorem lift_bind {outcome : Outcome ε α} {next : α → Action σ ε β} (told : holds state)
    (goesOn : ∀ result, outcome = .value result → (next result).Reaches state holds) :
    ((liftM outcome : Action σ ε α) >>= next).Reaches state holds := by
  apply bind
  · exact told
  intro result reached ends _
  obtain ⟨passes, rfl⟩ := Prod.mk.inj ends
  exact goesOn result passes

theorem get_bind {next : σ → Action σ ε β} (judged : (next state).Reaches state holds) :
    (MonadState.get >>= next).Reaches state holds := judged

theorem mapError {restate : ε → φ} (judged : action.Reaches state holds) :
    (action.mapError restate).Reaches state holds := judged

theorem attempt (judged : action.Reaches state holds) :
    (action.attempt : Action σ φ (Except ε α)).Reaches state holds := by
  rwa [Reaches, attempt_snd]

end Reaches

/-! ## A value, or a stop -/

/-- The action ends in a value, with the state it reaches as told, or it stops in an error or in
a trap at a state as told. -/
def Concludes (action : Action σ ε α) (state : σ) (done : α → σ → Prop) (stopped : σ → Prop) :
    Prop :=
  match action state with
  | (.value result, reached) => done result reached
  | (.error _, reached) => stopped reached
  | (.trap, reached) => stopped reached

namespace Concludes

variable {action : Action σ ε α} {state reached : σ} {done weaker : α → σ → Prop}
  {stopped : σ → Prop}

theorem of_ends (judged : action.Ends state done fun _ => stopped) :
    action.Concludes state done stopped := by
  rcases judged.cases with ⟨result, reached, ends, told⟩ | ⟨cause, reached, ends, told⟩
  · rwa [Concludes, ends]
  · rwa [Concludes, ends]

/-- An action that comes to the same concludes in the same way. -/
theorem of_eq {other : Action σ ε α} {start : σ} (same : action state = other start)
    (judged : other.Concludes start done stopped) : action.Concludes state done stopped := by
  rwa [Concludes, same]

/-- What is told of every state that is reached, and what is told of every value. -/
theorem of_reaches {told : α → Prop} (judged : action.Reaches state stopped)
    (returns : ∀ result reached, action state = (.value result, reached) → told result) :
    action.Concludes state (fun result reached => stopped reached ∧ told result) stopped := by
  rw [Reaches] at judged
  rw [Concludes]
  split
  · rename_i ends
    rw [ends] at judged
    exact ⟨judged, returns _ _ ends⟩
  · rename_i ends
    rwa [ends] at judged
  · rename_i ends
    rwa [ends] at judged

/-- What is told in any case is told of the state that is reached. -/
theorem reaches (judged : action.Concludes state (fun _ => stopped) stopped) :
    action.Reaches state stopped := by
  rw [Concludes] at judged
  rw [Reaches]
  split at judged
  · rename_i ends
    rwa [ends]
  · rename_i ends
    rwa [ends]
  · rename_i ends
    rwa [ends]

/-- What is told of a value is told of the one that there is. -/
theorem of_fst {result : α} (judged : action.Concludes state done stopped)
    (ends : (action state).1 = .value result) : done result (action state).2 := by
  rw [Concludes] at judged
  split at judged
  · rename_i same
    rw [same] at ends ⊢
    cases ends
    exact judged
  · rename_i same
    rw [same] at ends
    cases ends
  · rename_i same
    rw [same] at ends
    cases ends

theorem mono {held : σ → Prop} (judged : action.Concludes state done stopped)
    (after : ∀ result reached, done result reached → weaker result reached)
    (afterStop : ∀ reached, stopped reached → held reached) :
    action.Concludes state weaker held := by
  rw [Concludes] at judged ⊢
  split at judged
  · exact after _ _ judged
  · exact afterStop _ judged
  · exact afterStop _ judged

theorem pure {result : α} (told : done result state) :
    (Pure.pure result : Action σ ε α).Concludes state done stopped := told

theorem throw {cause : ε} (told : stopped state) :
    (MonadExcept.throw cause : Action σ ε α).Concludes state done stopped := told

/-- The second step starts where the first one has a value. -/
theorem bind {first : Action σ ε α} {next : α → Action σ ε β} {middle : α → σ → Prop}
    {last : β → σ → Prop} (begins : first.Concludes state middle stopped)
    (goesOn : ∀ result reached, middle result reached →
      (next result).Concludes reached last stopped) :
    (first >>= next).Concludes state last stopped := by
  rw [Concludes] at begins
  split at begins
  · rename_i ends
    have rest := goesOn _ _ begins
    rwa [Concludes, bind_of_value ends]
  · rename_i ends
    rwa [Concludes, bind_of_error ends]
  · rename_i ends
    rwa [Concludes, bind_of_trap ends]

theorem lift {outcome : Outcome ε α} (told : stopped state)
    (returns : ∀ result, outcome = .value result → done result state) :
    (liftM outcome : Action σ ε α).Concludes state done stopped := by
  cases passes : outcome with
  | value result => exact returns result passes
  | error cause => exact told
  | trap => exact told

/-- A check takes no part in the state. -/
theorem lift_bind {outcome : Outcome ε α} {next : α → Action σ ε β} {last : β → σ → Prop}
    (told : stopped state)
    (goesOn : ∀ result, outcome = .value result → (next result).Concludes state last stopped) :
    ((liftM outcome : Action σ ε α) >>= next).Concludes state last stopped := by
  have checks : (liftM outcome : Action σ ε α).Concludes state
      (fun result reached => outcome = .value result ∧ reached = state) stopped :=
    lift told fun _ passes => ⟨passes, rfl⟩
  refine bind checks fun result reached checked => ?_
  obtain ⟨passes, rfl⟩ := checked
  exact goesOn result passes

end Concludes

/-- The action never changes what is viewed of the state. -/
def Leaves (view : σ → τ) (action : Action σ ε α) : Prop :=
  ∀ state, view (action state).2 = view state

namespace Leaves

variable {view : σ → τ} {action : Action σ ε α}

theorem pure (result : α) : Leaves view (Pure.pure result : Action σ ε α) := fun _ => rfl

theorem throw (cause : ε) : Leaves view (MonadExcept.throw cause : Action σ ε α) := fun _ => rfl

theorem get : Leaves view (MonadState.get : Action σ ε σ) := fun _ => rfl

theorem lift (outcome : Outcome ε α) : Leaves view (liftM outcome : Action σ ε α) := fun _ => rfl

theorem bind {first : Action σ ε α} {next : α → Action σ ε β} (begins : Leaves view first)
    (goesOn : ∀ result, Leaves view (next result)) : Leaves view (first >>= next) := by
  intro state
  have same : first.Reaches state fun reached => view reached = view state := begins state
  apply same.bind
  intro result reached _ same
  exact (goesOn result reached).trans same

theorem mapError {restate : ε → φ} (leaves : Leaves view action) :
    Leaves view (action.mapError restate) := leaves

end Leaves

end NorStore.Action
