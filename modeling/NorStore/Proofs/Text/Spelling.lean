/-
# What a text spells

A text may have blanks at its ends, and taking them away leaves one text and no other. A number is
spelled with its digits, the highest first, and a plus sign may stand in front of them. Reading
accepts these spellings and no others, as long as the number is below the bound. It may give up on
a number that has grown too large, for no digit makes it smaller again. How many zeros the digits
begin with makes no difference, so what was printed in a wide column is read back too.
-/

import Mathlib.Data.List.Forall2
import Mathlib.Data.List.TakeWhile
import Mathlib.Data.Nat.Digits.Defs
import NorStore.Text.Blank
import NorStore.Text.Number
import NorStore.Text.Whole

namespace NorStore.Text

/-! ## Blanks at the ends -/

/-- What is left of a text without the blanks at its ends. -/
def Trimmed (text core : List Char) : Prop :=
  ∃ before after, text = before ++ core ++ after ∧
    (∀ character ∈ before ++ after, isBlank character = true) ∧
    (∀ character ∈ core.head?, isBlank character = false) ∧
    ∀ character ∈ core.getLast?, isBlank character = false

/-- A text that does not begin with a blank has none to lose there. -/
private theorem dropWhile_isBlank {text : List Char}
    (starts : ∀ character ∈ text.head?, isBlank character = false) :
    text.dropWhile isBlank = text := by
  cases text with
  | nil => rfl
  | cons first rest => rw [List.dropWhile_cons_of_neg (by simp [starts first rfl])]

private theorem head?_dropWhile_isBlank (text : List Char) :
    ∀ character ∈ (text.dropWhile isBlank).head?, isBlank character = false := by
  intro character first
  have found := List.head?_dropWhile_not isBlank text
  rw [Option.mem_def.1 first] at found
  exact found

/-- Trimming finds the text between the blanks. -/
theorem trim_eq_iff {text core : List Char} : trim text = core ↔ Trimmed text core := by
  constructor
  · rintro rfl
    have front := List.takeWhile_append_dropWhile (p := isBlank) (l := text)
    have back := congrArg List.reverse (List.takeWhile_append_dropWhile (p := isBlank)
      (l := (text.dropWhile isBlank).reverse))
    rw [List.reverse_append, List.reverse_reverse] at back
    refine ⟨text.takeWhile isBlank,
      ((text.dropWhile isBlank).reverse.takeWhile isBlank).reverse, ?_, ?_, ?_, ?_⟩
    · rw [trim, List.append_assoc, back, front]
    · rw [List.forall_mem_append]
      exact ⟨fun _ => List.mem_takeWhile_imp,
        fun _ held => List.mem_takeWhile_imp (List.mem_reverse.1 held)⟩
    · intro character first
      have starts := head?_dropWhile_isBlank text
      rw [← back, List.head?_append] at starts
      refine starts character ?_
      rw [trim] at first
      rw [Option.mem_def.1 first]
      rfl
    · rw [trim, List.getLast?_reverse]
      exact head?_dropWhile_isBlank _
  · rintro ⟨before, after, rfl, blank, starts, ends⟩
    rw [List.forall_mem_append] at blank
    rw [trim, List.append_assoc, List.dropWhile_append_of_pos blank.1]
    cases core with
    | nil =>
        have gone : after.dropWhile isBlank = [] := List.dropWhile_eq_nil_iff.2 blank.2
        rw [List.nil_append, gone]
        rfl
    | cons first rest =>
        have kept : ∀ character ∈ (first :: rest).reverse.head?, isBlank character = false := by
          rwa [List.head?_reverse]
        have behind : ∀ character ∈ after.reverse, isBlank character = true := fun character held =>
          blank.2 character (List.mem_reverse.1 held)
        have begun : (first :: rest ++ after).dropWhile isBlank = first :: rest ++ after :=
          dropWhile_isBlank starts
        rw [begun, List.reverse_append, List.dropWhile_append_of_pos behind,
          dropWhile_isBlank kept, List.reverse_reverse]

/-- A text without a blank has nothing to lose. -/
theorem trimmed_self {text : List Char} (solid : ∀ character ∈ text, isBlank character = false) :
    Trimmed text text :=
  ⟨[], [], by simp, nofun, fun character first => solid character (List.mem_of_mem_head? first),
    fun character last => solid character (List.mem_of_mem_getLast? last)⟩

/-! ## Digits and numerals -/

/-- Which character stands for a digit. A letter may be written in either case. -/
def IsDigit (radix : Nat) (character : Char) (value : Nat) : Prop :=
  value < radix ∧ (character = value.digitChar ∨ character = value.digitChar.toUpper)

/-- The number that some digits denote, the highest of them first. -/
def Denotes (radix : Nat) (digits : List Char) (value : Nat) : Prop :=
  ∃ values, List.Forall₂ (IsDigit radix) digits values ∧
    Nat.ofDigits radix values.reverse = value

/-- The number that a text denotes: there is at least one digit, and perhaps a plus sign. -/
def Numeral (radix : Nat) (text : List Char) (value : Nat) : Prop :=
  ∃ digits, digits ≠ [] ∧ (text = digits ∨ text = '+' :: digits) ∧ Denotes radix digits value

section Reading

variable {radix bound value result : Nat} {character : Char} {text : List Char}

/-- Where the character of a digit has its place among all characters, and the other one. -/
private theorem place_of_digit : ∀ value < 16,
    value.digitChar.toNat = (if value < 10 then 48 + value else 87 + value) ∧
      value.digitChar.toUpper.toNat = if value < 10 then 48 + value else 55 + value := by
  decide

private theorem isDigit_iff (small : radix ≤ 16) : IsDigit radix character value ↔
    value < radix ∧ (value < 10 ∧ character.toNat = 48 + value ∨
      10 ≤ value ∧ (character.toNat = 87 + value ∨ character.toNat = 55 + value)) := by
  refine and_congr_right fun below => ?_
  obtain ⟨lower, upper⟩ := place_of_digit value (by omega)
  rw [← Char.toNat_inj, ← Char.toNat_inj, lower, upper]
  split <;> omega

/-- A character is read as a digit exactly if it stands for one. -/
theorem digitValue?_eq_some_iff (small : radix ≤ 16) :
    digitValue? radix character = some value ↔ IsDigit radix character value := by
  rw [isDigit_iff small, digitValue?]
  generalize character.toNat = code
  simp only [Option.ite_none_right_eq_some, Option.some.injEq]
  split <;> [skip; split <;> [skip; split]] <;> omega

/-- A digit is no blank. -/
private theorem IsDigit.solid (isDigit : IsDigit radix character value) (small : radix ≤ 16) :
    isBlank character = false := by
  rw [isDigit_iff small] at isDigit
  rw [isBlank]
  generalize character.toNat = code at isDigit
  simp only [Bool.or_eq_false_iff, Bool.and_eq_false_iff, decide_eq_false_iff_not,
    beq_eq_false_iff_ne]
  omega

/-- There is no blank among digits. -/
theorem Denotes.solid (denotes : Denotes radix text value) (small : radix ≤ 16) :
    ∀ character ∈ text, isBlank character = false := by
  obtain ⟨values, stands, -⟩ := denotes
  induction stands with
  | nil => exact nofun
  | cons isDigit _ ih => exact List.forall_mem_cons.2 ⟨isDigit.solid small, ih⟩

/-- A digit in front of others counts as if it had been read before them. -/
private theorem ofDigits_reverse_cons (radix value digit : Nat) (values : List Nat) :
    Nat.ofDigits radix (digit :: values).reverse + radix ^ (digit :: values).length * value =
      Nat.ofDigits radix values.reverse + radix ^ values.length * (value * radix + digit) := by
  rw [List.reverse_cons, Nat.ofDigits_append, Nat.ofDigits_singleton, List.length_reverse,
    List.length_cons]
  ring

/-- Digits behind a digit, and what they stand for. -/
private theorem forall₂_digit_iff {digit : Nat} {values : List Nat} (small : radix ≤ 16)
    (found : digitValue? radix character = some digit) :
    List.Forall₂ (IsDigit radix) (character :: text) values ↔
      ∃ tail, List.Forall₂ (IsDigit radix) text tail ∧ values = digit :: tail := by
  rw [List.forall₂_cons_left_iff]
  constructor
  · rintro ⟨other, tail, isDigit, follow, rfl⟩
    rw [(digitValue?_eq_some_iff small).2 isDigit] at found
    cases found
    exact ⟨tail, follow, rfl⟩
  · rintro ⟨tail, follow, rfl⟩
    exact ⟨digit, tail, (digitValue?_eq_some_iff small).1 found, follow, rfl⟩

/-- Reading on from a value accepts digits as long as they leave the number below the bound. -/
private theorem readDigits_eq_ok_iff (small : radix ≤ 16) (positive : 0 < radix) :
    readDigits radix bound value text = .ok result ↔
      ∃ values, List.Forall₂ (IsDigit radix) text values ∧
        Nat.ofDigits radix values.reverse + radix ^ values.length * value = result ∧
        (text = [] ∨ result < bound) := by
  induction text generalizing value with
  | nil => simp [readDigits, eq_comm]
  | cons character rest ih =>
      rw [readDigits]
      cases found : digitValue? radix character with
      | none =>
          refine iff_of_false nofun ?_
          rintro ⟨_, stands, -⟩
          obtain ⟨digit, _, isDigit, -⟩ := List.forall₂_cons_left_iff.1 stands
          rw [(digitValue?_eq_some_iff small).2 isDigit] at found
          contradiction
      | some digit =>
          simp only [forall₂_digit_iff small found, reduceCtorEq, false_or]
          split
          · rename_i fits
            rw [ih]
            constructor
            · rintro ⟨values, follow, rfl, below⟩
              refine ⟨digit :: values, ⟨values, follow, rfl⟩,
                ofDigits_reverse_cons radix value digit values, ?_⟩
              obtain rfl | below := below
              · cases follow
                simpa using fits
              · exact below
            · rintro ⟨_, ⟨values, follow, rfl⟩, rfl, below⟩
              exact ⟨values, follow, (ofDigits_reverse_cons radix value digit values).symm,
                .inr below⟩
          · -- The number is at least what has been read of it, and that is too large already.
            rename_i tooLarge
            refine iff_of_false nofun ?_
            rintro ⟨_, ⟨values, -, rfl⟩, rfl, below⟩
            rw [ofDigits_reverse_cons] at below
            have grows : value * radix + digit ≤ radix ^ values.length * (value * radix + digit) :=
              Nat.le_mul_of_pos_left _ (Nat.pow_pos positive)
            omega

/-- What is read as digits are the digits of a number below the bound. -/
private theorem readDigits_zero_eq_ok_iff (small : radix ≤ 16) (positive : 0 < radix)
    (filled : text ≠ []) :
    readDigits radix bound 0 text = .ok value ↔ Denotes radix text value ∧ value < bound := by
  simp only [readDigits_eq_ok_iff small positive, filled, Nat.mul_zero, Nat.add_zero, false_or,
    Denotes, ← and_assoc, exists_and_right]

/-- A sign is no digit. -/
private theorem not_denotes_plus (small : radix ≤ 16) : ¬ Denotes radix ('+' :: text) value := by
  rintro ⟨_, stands, -⟩
  obtain ⟨digit, _, isDigit, -⟩ := List.forall₂_cons_left_iff.1 stands
  rw [← digitValue?_eq_some_iff small] at isDigit
  simp [digitValue?] at isDigit

private theorem numeral_plus_iff (small : radix ≤ 16) :
    Numeral radix ('+' :: text) value ↔ text ≠ [] ∧ Denotes radix text value := by
  constructor
  · rintro ⟨digits, filled, rfl | same, denotes⟩
    · exact absurd denotes (not_denotes_plus small)
    · cases same
      exact ⟨filled, denotes⟩
  · rintro ⟨filled, denotes⟩
    exact ⟨text, filled, .inr rfl, denotes⟩

private theorem numeral_cons_iff (unsigned : character ≠ '+') :
    Numeral radix (character :: text) value ↔ Denotes radix (character :: text) value := by
  constructor
  · rintro ⟨digits, -, rfl | same, denotes⟩
    · exact denotes
    · exact absurd (List.cons.inj same).1 unsigned
  · exact fun denotes => ⟨_, List.cons_ne_nil _ _, .inl rfl, denotes⟩

/-- What is read as a whole number are the numerals of the numbers below the bound. -/
theorem readWhole_eq_ok_iff (small : radix ≤ 16) (positive : 0 < radix) :
    readWhole radix bound text = .ok value ↔ Numeral radix text value ∧ value < bound := by
  cases text with
  | nil =>
      refine iff_of_false nofun ?_
      rintro ⟨⟨digits, filled, rfl | same, -⟩, -⟩
      · exact filled rfl
      · contradiction
  | cons character rest =>
      by_cases sign : character = '+'
      · subst sign
        rw [numeral_plus_iff small]
        cases rest with
        | nil => simp [readWhole]
        | cons first more =>
            rw [readWhole, readDigits_zero_eq_ok_iff small positive (List.cons_ne_nil _ _)]
            simp only [ne_eq, reduceCtorEq, not_false_eq_true, true_and]
            exact nofun
      · have reads : readWhole radix bound (character :: rest) =
            readDigits radix bound 0 (character :: rest) := by
          rw [readWhole]
          · exact nofun
          · exact fun same => sign (List.cons.inj same).1
          · exact fun digits same => sign (List.cons.inj same).1
        rw [numeral_cons_iff sign, reads,
          readDigits_zero_eq_ok_iff small positive (List.cons_ne_nil _ _)]

end Reading

/-! ## Printed numbers -/

section Printing

variable {radix value : Nat}

/-- The digits that are printed denote the number that they were printed for. -/
theorem denotes_toDigits (least : 1 < radix) (small : radix ≤ 16) (value : Nat) :
    Denotes radix (Nat.toDigits radix value) value := by
  induction value using Nat.strongRecOn with
  | ind value ih =>
    rw [Nat.toDigits_eq_if least]
    split
    · rename_i below
      exact ⟨[value], .cons ⟨below, .inl rfl⟩ .nil, by simp⟩
    · rename_i more
      obtain ⟨values, stands, sum⟩ := ih (value / radix) (Nat.div_lt_self (by omega) least)
      have last : IsDigit radix (value % radix).digitChar (value % radix) :=
        ⟨Nat.mod_lt value (by omega), .inl rfl⟩
      refine ⟨values ++ [value % radix], List.rel_append stands (.cons last .nil), ?_⟩
      rw [List.reverse_append, List.reverse_singleton, List.singleton_append, Nat.ofDigits_cons,
        sum]
      exact Nat.mod_add_div value radix

/-- Digits may be written in capitals. -/
theorem Denotes.toUpper {digits : List Char} (denotes : Denotes radix digits value)
    (small : radix ≤ 16) : Denotes radix (digits.map Char.toUpper) value := by
  obtain ⟨values, stands, sum⟩ := denotes
  have settled : ∀ digit < 16, digit.digitChar.toUpper.toUpper = digit.digitChar.toUpper := by
    decide
  refine ⟨values, List.forall₂_map_left_iff.2 (stands.imp ?_), sum⟩
  rintro character digit ⟨below, rfl | rfl⟩
  · exact ⟨below, .inr rfl⟩
  · exact ⟨below, .inr (settled digit (by omega))⟩

/-- Zeros in front of the digits make no difference. -/
theorem Denotes.leftpad {digits : List Char} (denotes : Denotes radix digits value)
    (positive : 0 < radix) (width : Nat) : Denotes radix (digits.leftpad width '0') value := by
  obtain ⟨values, stands, rfl⟩ := denotes
  have zeros (count : Nat) :
      List.Forall₂ (IsDigit radix) (List.replicate count '0') (List.replicate count 0) := by
    induction count with
    | zero => exact .nil
    | succ count ih => exact .cons ⟨positive, .inl rfl⟩ ih
  refine ⟨List.replicate (width - digits.length) 0 ++ values,
    List.rel_append (zeros _) stands, ?_⟩
  rw [List.reverse_append, List.reverse_replicate, Nat.ofDigits_append,
    Nat.ofDigits_replicate_zero, Nat.mul_zero, Nat.add_zero]

end Printing

end NorStore.Text
