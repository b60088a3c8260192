/-
# Checked arithmetic on 64-bit words

Offsets and sizes are natural numbers below `2 ^ 64`. Each operation here gives
its exact result when that result is a word and traps otherwise, so no offset
ever wraps around.
-/

import NorStore.Outcome

namespace NorStore.Word

variable {ε : Type}

/-- The first number that is not a 64-bit word. -/
def limit : Nat := UInt64.size

/-- The largest 64-bit word. -/
def largest : Nat := limit - 1

/-- The sum, if it is a word. -/
def add (left right : Nat) : Outcome ε Nat :=
  if left + right < limit then .value (left + right) else .trap

/-- The product, if it is a word. -/
def mul (left right : Nat) : Outcome ε Nat :=
  if left * right < limit then .value (left * right) else .trap

/-- The difference, if it is not negative. -/
def sub (left right : Nat) : Outcome ε Nat :=
  if right ≤ left then .value (left - right) else .trap

/-- The whole quotient, if the divisor is not zero. -/
def div (left right : Nat) : Outcome ε Nat :=
  if right = 0 then .trap else .value (left / right)

/-- The remainder, if the divisor is not zero. -/
def mod (left right : Nat) : Outcome ε Nat :=
  if right = 0 then .trap else .value (left % right)

@[simp] theorem add_of_lt {left right : Nat} (fits : left + right < limit) :
    (add left right : Outcome ε Nat) = .value (left + right) := if_pos fits

@[simp] theorem mul_of_lt {left right : Nat} (fits : left * right < limit) :
    (mul left right : Outcome ε Nat) = .value (left * right) := if_pos fits

@[simp] theorem sub_of_le {left right : Nat} (ordered : right ≤ left) :
    (sub left right : Outcome ε Nat) = .value (left - right) := if_pos ordered

@[simp] theorem div_of_ne {left right : Nat} (nonzero : right ≠ 0) :
    (div left right : Outcome ε Nat) = .value (left / right) := if_neg nonzero

@[simp] theorem mod_of_ne {left right : Nat} (nonzero : right ≠ 0) :
    (mod left right : Outcome ε Nat) = .value (left % right) := if_neg nonzero

end NorStore.Word
