/-
# Outcomes and actions

A computation ends in one of three ways: with a value, with an error that its
caller may handle, or in a trap. Traps stand for arithmetic that leaves the
64-bit words and for accesses outside a block of memory: a defect, not a
condition, so nothing in this library recovers from one.

An `Action` threads a state through such a computation. The state is returned
next to the outcome in all three cases. That is the point of the definition:
what a failing access did to the flash before it failed is part of its meaning.
-/

namespace NorStore

/-- How a computation ends: with a value, with an error, or in a trap. -/
inductive Outcome (ε α : Type) where
  | value (result : α)
  | error (cause : ε)
  | trap
deriving DecidableEq, Repr

/-- A computation over a state `σ` that always hands the state back. -/
def Action (σ ε α : Type) : Type := σ → Outcome ε α × σ

namespace Outcome

variable {ε φ α β : Type}

/-- Continue with the value, if there is one. -/
def bind : Outcome ε α → (α → Outcome ε β) → Outcome ε β
  | value result, next => next result
  | error cause, _ => error cause
  | trap, _ => trap

instance : Monad (Outcome ε) where
  pure := value
  bind := bind

/-- Errors can be thrown and caught. A trap passes through every handler. -/
instance : MonadExceptOf ε (Outcome ε) where
  throw := error
  tryCatch
    | error cause, handler => handler cause
    | other, _ => other

@[simp] theorem pure_eq (result : α) : (pure result : Outcome ε α) = value result := rfl

@[simp] theorem throw_eq (cause : ε) : (throw cause : Outcome ε α) = error cause := rfl

@[simp] theorem value_bind (result : α) (next : α → Outcome ε β) :
    (value result >>= next) = next result := rfl

@[simp] theorem error_bind (cause : ε) (next : α → Outcome ε β) :
    (error cause >>= next) = error cause := rfl

@[simp] theorem trap_bind (next : α → Outcome ε β) : (trap >>= next) = trap := rfl

/-- A value at the end means a value at every step. -/
theorem bind_eq_value_iff {first : Outcome ε α} {next : α → Outcome ε β} {result : β} :
    (first >>= next) = value result ↔
      ∃ reached, first = value reached ∧ next reached = value result := by
  cases first <;> simp

instance : LawfulMonad (Outcome ε) := LawfulMonad.mk' _
  (by intro _ first; cases first <;> rfl)
  (by intros; rfl)
  (by intro _ _ _ first _ _; cases first <;> rfl)

/-- Restate the error, if there is one. -/
def mapError (restate : ε → φ) : Outcome ε α → Outcome φ α
  | value result => value result
  | error cause => error (restate cause)
  | trap => trap

/-- An `Except` as an outcome that does not trap. -/
def ofExcept : Except ε α → Outcome ε α
  | .ok result => value result
  | .error cause => error cause

/-- Trap when there is nothing. -/
def ofOption : Option α → Outcome ε α
  | some result => value result
  | none => trap

/-- Trap unless the condition holds. -/
def require (condition : Prop) [Decidable condition] : Outcome ε Unit :=
  if condition then value () else trap

end Outcome

namespace Action

variable {σ τ ε φ α β : Type}

/-- Continue with the value, if there is one, from the state reached so far. -/
def bind (first : Action σ ε α) (next : α → Action σ ε β) : Action σ ε β := fun state =>
  match first state with
  | (.value result, reached) => next result reached
  | (.error cause, reached) => (.error cause, reached)
  | (.trap, reached) => (.trap, reached)

instance : Monad (Action σ ε) where
  pure result := fun state => (.value result, state)
  bind := bind

/-- Errors can be thrown and caught, and a handler starts from the state that the
failure left behind. A trap passes through every handler. -/
instance : MonadExceptOf ε (Action σ ε) where
  throw cause := fun state => (.error cause, state)
  tryCatch first handler := fun state =>
    match first state with
    | (.error cause, reached) => handler cause reached
    | other => other

instance : MonadStateOf σ (Action σ ε) where
  get := fun state => (.value state, state)
  set state := fun _ => (.value (), state)
  modifyGet step := fun state =>
    match step state with
    | (result, reached) => (.value result, reached)

/-- A computation that needs no state is an action that leaves it alone. -/
instance : MonadLift (Outcome ε) (Action σ ε) where
  monadLift outcome := fun state => (outcome, state)

theorem pure_apply (result : α) (state : σ) :
    (pure result : Action σ ε α) state = (.value result, state) := rfl

theorem bind_apply (first : Action σ ε α) (next : α → Action σ ε β) (state : σ) :
    (first >>= next) state = bind first next state := rfl

theorem throw_apply (cause : ε) (state : σ) :
    (throw cause : Action σ ε α) state = (.error cause, state) := rfl

theorem bind_of_value {first : Action σ ε α} {state reached : σ} {result : α}
    (ends : first state = (.value result, reached)) (next : α → Action σ ε β) :
    (first >>= next) state = next result reached := by
  rw [bind_apply, bind, ends]

theorem bind_of_error {first : Action σ ε α} {state reached : σ} {cause : ε}
    (ends : first state = (.error cause, reached)) (next : α → Action σ ε β) :
    (first >>= next) state = (.error cause, reached) := by
  rw [bind_apply, bind, ends]

theorem bind_of_trap {first : Action σ ε α} {state reached : σ}
    (ends : first state = (.trap, reached)) (next : α → Action σ ε β) :
    (first >>= next) state = (.trap, reached) := by
  rw [bind_apply, bind, ends]

/-- A value at the end means a value at every step. -/
theorem bind_eq_value_iff {first : Action σ ε α} {next : α → Action σ ε β} {state last : σ}
    {result : β} :
    (first >>= next) state = (.value result, last) ↔
      ∃ reached middle, first state = (.value reached, middle) ∧
        next reached middle = (.value result, last) := by
  rw [bind_apply, bind]
  split
  · rename_i reached middle ends
    constructor
    · intro rest
      exact ⟨reached, middle, ends, rest⟩
    · rintro ⟨_, _, same, rest⟩
      rw [ends] at same
      cases same
      exact rest
  · rename_i ends
    simp [ends]
  · rename_i ends
    simp [ends]

instance : LawfulMonad (Action σ ε) := LawfulMonad.mk' _
  (by
    intro _ first
    funext state
    show bind first _ state = first state
    unfold bind
    cases first state with
    | mk outcome reached => cases outcome <;> rfl)
  (by intros; rfl)
  (by
    intro _ _ _ first _ _
    funext state
    show bind (bind first _) _ state = bind first _ state
    unfold bind
    cases first state with
    | mk outcome reached => cases outcome <;> rfl)

/-- Run the action and report its error as a value, so that the caller can go on. -/
def attempt (action : Action σ ε α) : Action σ φ (Except ε α) := fun state =>
  match action state with
  | (.value result, reached) => (.value (.ok result), reached)
  | (.error cause, reached) => (.value (.error cause), reached)
  | (.trap, reached) => (.trap, reached)

/-- The state at the end of an action that is run for it alone. -/
def final (action : Action σ ε Unit) (state : σ) : Outcome ε σ :=
  match action state with
  | (.value (), reached) => .value reached
  | (.error cause, _) => .error cause
  | (.trap, _) => .trap

/-- Restate the error, if there is one. -/
def mapError (restate : ε → φ) (action : Action σ ε α) : Action σ φ α := fun state =>
  match action state with
  | (outcome, reached) => (outcome.mapError restate, reached)

/-- Change the state if the check gives a value, and leave it alone otherwise. -/
def guarded (check : σ → Outcome ε α) (effect : σ → σ) : Action σ ε α := fun state =>
  match check state with
  | .value result => (.value result, effect state)
  | .error cause => (.error cause, state)
  | .trap => (.trap, state)

/-- Ask something about the state, which stays as it is. -/
def observe (question : σ → Outcome ε α) : Action σ ε α := guarded question id

theorem guarded_of_value {check : σ → Outcome ε α} {state : σ} {result : α}
    (passes : check state = .value result) (effect : σ → σ) :
    guarded check effect state = (.value result, effect state) := by
  rw [guarded, passes]

end Action

end NorStore
