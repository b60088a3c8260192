/-
# Which values are understood

A value on the command line is understood if it is spelled in one of a few ways, and what it is
understood as is what it spells. A segment is named before the first equals sign and nowhere else.
Digits behind `0x` are hexadecimal, and no text spells both a decimal and a hexadecimal number, so
it does not matter which of the two is looked for first. Numbers that are printed are understood.
-/

import NorStore.Command.Value
import NorStore.Proofs.Text.Spelling

namespace NorStore

/-- A text is the name of a segment if it is spelled like it. -/
theorem Segment.ofName?_eq_some_iff {text : String} {segment : Segment} :
    ofName? text = some segment ↔ segment.name = text := by
  constructor
  · intro found
    simpa using List.find?_some found
  · rintro rfl
    exact ofName?_name segment

namespace Command

open NorStore.Text (IsDigit Numeral Trimmed)

variable {text name limit digits : List Char} {word : UInt32} {segment : Segment} {size : Nat}

/-! ## Words -/

/-- What is hexadecimal is told by its first two characters. -/
theorem splitRadix_cases (text : List Char) :
    (∃ mark digits, (mark = 'x' ∨ mark = 'X') ∧ text = '0' :: mark :: digits ∧
        splitRadix text = (16, digits)) ∨
      (∀ mark digits, mark = 'x' ∨ mark = 'X' → text ≠ '0' :: mark :: digits) ∧
        splitRadix text = (10, text) := by
  fun_cases splitRadix text with
  | case1 digits => exact .inl ⟨'x', digits, .inl rfl, rfl, rfl⟩
  | case2 digits => exact .inl ⟨'X', digits, .inr rfl, rfl, rfl⟩
  | case3 text lower upper =>
      refine .inr ⟨?_, rfl⟩
      rintro mark digits (rfl | rfl) same
      · exact lower digits same
      · exact upper digits same

/-- No decimal number begins like a hexadecimal one. -/
private theorem not_numeral_hex {mark : Char} (marked : mark = 'x' ∨ mark = 'X') :
    ¬ Numeral 10 ('0' :: mark :: digits) size := by
  intro spells
  have reads := (Text.readWhole_eq_ok_iff (by decide) (by decide)).2
    ⟨spells, Nat.lt_succ_self size⟩
  obtain rfl | rfl := marked <;>
    simp [Text.readWhole, Text.readDigits, Text.digitValue?] at reads

/-- A word is read from the digits that are left of the text, if they are those of a word. -/
private theorem readWord_eq_ok_iff :
    readWord text = .ok word ↔
      Text.readWhole (splitRadix (Text.trim text)).1 UInt32.size (splitRadix (Text.trim text)).2 =
        .ok word.toNat := by
  have small : (splitRadix (Text.trim text)).1 ≤ 16 ∧ 0 < (splitRadix (Text.trim text)).1 := by
    obtain ⟨_, _, -, -, split⟩ | ⟨-, split⟩ := splitRadix_cases (Text.trim text) <;> simp [split]
  rw [readWord]
  dsimp only
  cases reads : Text.readWhole (splitRadix (Text.trim text)).1 UInt32.size
      (splitRadix (Text.trim text)).2 with
  | error fault => exact iff_of_false nofun nofun
  | ok value =>
      have below := ((Text.readWhole_eq_ok_iff small.1 small.2).1 reads).2
      simp only [Except.ok.injEq]
      constructor
      · rintro rfl
        exact (UInt32.toNat_ofNat_of_lt' below).symm
      · rintro rfl
        exact UInt32.ofNat_toNat

/-- A text is read as a word if that is what it spells, in one of two ways. -/
theorem readWord_eq_ok_iff_spelled :
    readWord text = .ok word ↔ ∃ core, Trimmed text core ∧
      ((∃ mark digits, (mark = 'x' ∨ mark = 'X') ∧ core = '0' :: mark :: digits ∧
          Numeral 16 digits word.toNat) ∨
        Numeral 10 core word.toNat) := by
  simp only [← Text.trim_eq_iff, exists_eq_left', readWord_eq_ok_iff]
  obtain ⟨mark, digits, marked, same, split⟩ | ⟨other, split⟩ := splitRadix_cases (Text.trim text)
  · rw [split, same]
    dsimp only
    rw [Text.readWhole_eq_ok_iff (by decide) (by decide), and_iff_left word.toNat_lt]
    constructor
    · exact fun spells => .inl ⟨mark, digits, marked, rfl, spells⟩
    · rintro (⟨_, _, -, again, spells⟩ | spells)
      · cases again
        exact spells
      · exact absurd spells (not_numeral_hex marked)
  · rw [split]
    dsimp only
    rw [Text.readWhole_eq_ok_iff (by decide) (by decide), and_iff_left word.toNat_lt]
    constructor
    · exact .inr
    · rintro (⟨mark, digits, marked, same, -⟩ | spells)
      · exact absurd same (other mark digits marked)
      · exact spells

/-! ## Segments and their sizes -/

/-- The first equals sign is where a text is cut in two. -/
private theorem cut_at_equals {mark : Char} :
    text.dropWhile (· ≠ '=') = mark :: limit ∧ text.takeWhile (· ≠ '=') = name ↔
      mark = '=' ∧ text = name ++ '=' :: limit ∧ '=' ∉ name := by
  constructor
  · rintro ⟨rest, rfl⟩
    have found := List.head?_dropWhile_not (· ≠ '=') text
    have whole := List.takeWhile_append_dropWhile (p := (· ≠ '=')) (l := text)
    rw [rest] at found whole
    obtain rfl : mark = '=' := by simpa using found
    refine ⟨rfl, whole.symm, fun held => ?_⟩
    simpa using List.mem_takeWhile_imp held
  · rintro ⟨rfl, rfl, free⟩
    have passed : ∀ character ∈ name, decide (character ≠ '=') = true := by
      intro character held
      rw [decide_eq_true_iff]
      rintro rfl
      exact free held
    rw [List.dropWhile_append_of_pos passed, List.takeWhile_append_of_pos passed]
    simp

/-- A size is read if its text spells it. -/
private theorem readSize_eq_ok_iff {other : Segment} :
    readSize other limit = .ok (segment, size) ↔
      other = segment ∧ Numeral 10 (Text.trim limit) size ∧ size < Word.limit := by
  rw [readSize, ← Text.readWhole_eq_ok_iff (by decide) (by decide)]
  cases Text.readWhole 10 Word.limit (Text.trim limit) <;> simp

/-- A text is read as a segment and a size if it spells them on either side of an equals sign. -/
theorem readSegment_eq_ok_iff_spelled :
    readSegment text = .ok (segment, size) ↔ ∃ name limit core,
      text = name ++ '=' :: limit ∧ '=' ∉ name ∧ Trimmed name segment.name.toList ∧
      Trimmed limit core ∧ Numeral 10 core size ∧ size < Word.limit := by
  have named (name : List Char) : Trimmed name segment.name.toList ↔
      Segment.ofName? (String.ofList (Text.trim name)) = some segment := by
    rw [Segment.ofName?_eq_some_iff, ← Text.trim_eq_iff, ← String.toList_inj, String.toList_ofList,
      eq_comm]
  constructor
  · intro reads
    rw [readSegment] at reads
    split at reads
    · contradiction
    · rename_i mark limit rest
      obtain ⟨rfl, whole, free⟩ := cut_at_equals.1 ⟨rest, rfl⟩
      dsimp only at reads
      split at reads
      · rename_i other found
        obtain ⟨rfl, spells, below⟩ := readSize_eq_ok_iff.1 reads
        exact ⟨_, limit, _, whole, free, (named _).2 found, Text.trim_eq_iff.1 rfl, spells, below⟩
      · contradiction
  · rintro ⟨name, limit, core, rfl, free, named', trimmed, spells, below⟩
    obtain ⟨rest, front⟩ := cut_at_equals.2 ⟨rfl, rfl, free⟩
    rw [← Text.trim_eq_iff] at trimmed
    subst trimmed
    rw [readSegment, rest]
    dsimp only
    rw [front, (named name).1 named']
    exact readSize_eq_ok_iff.2 ⟨rfl, spells, below⟩

/-! ## Printed numbers -/

/-- Digits behind `0x` are read as the number that they denote. -/
private theorem readWord_hexDigits (filled : digits ≠ [])
    (denotes : Text.Denotes 16 digits word.toNat) :
    readWord ("0x" ++ String.ofList digits).toList = .ok word := by
  have marked : "0x".toList = ['0', 'x'] := by decide
  rw [String.toList_append, marked, String.toList_ofList]
  refine readWord_eq_ok_iff_spelled.2 ⟨_, Text.trimmed_self ?_,
    .inl ⟨_, _, .inl rfl, rfl, _, filled, .inl rfl, denotes⟩⟩
  rw [List.forall_mem_append, List.forall_mem_cons, List.forall_mem_singleton]
  exact ⟨⟨rfl, rfl⟩, denotes.solid (Nat.le_refl 16)⟩

/-- Decimal digits spell their number. -/
private theorem spells_toDigits (value : Nat) :
    Trimmed (Nat.toDigits 10 value) (Nat.toDigits 10 value) ∧
      Numeral 10 (Nat.toDigits 10 value) value := by
  have denotes : Text.Denotes 10 (Nat.toDigits 10 value) value :=
    Text.denotes_toDigits (by decide) (by decide) value
  exact ⟨Text.trimmed_self (denotes.solid (by decide)), _, Nat.toDigits_ne_nil, .inl rfl, denotes⟩

/-- The name of a segment is free of blanks and of equals signs. -/
private theorem name_solid (segment : Segment) :
    (∀ character ∈ segment.name.toList, Text.isBlank character = false) ∧
      '=' ∉ segment.name.toList := by
  have solid : segment.name.toList.all (!Text.isBlank ·) = true := by cases segment <;> decide
  exact ⟨by simpa using solid, by cases segment <;> decide⟩

/-- A word is read from the texts that spell one, in decimal or behind `0x` in hexadecimal, and a
segment with its size from the texts that spell the two on either side of the first equals sign.
What is printed for a word, or for a segment and a size, is read as that. -/
theorem reads_of_spelled :
    (∀ text word, readWord text = .ok word ↔ ∃ core, Trimmed text core ∧
      ((∃ mark digits, (mark = 'x' ∨ mark = 'X') ∧ core = '0' :: mark :: digits ∧
          Numeral 16 digits word.toNat) ∨
        Numeral 10 core word.toNat)) ∧
    (∀ text segment size, readSegment text = .ok (segment, size) ↔ ∃ name limit core,
      text = name ++ '=' :: limit ∧ '=' ∉ name ∧ Trimmed name segment.name.toList ∧
      Trimmed limit core ∧ Numeral 10 core size ∧ size < Word.limit) ∧
    (∀ word : UInt32, readWord (toString word.toNat).toList = .ok word ∧
      readWord (Text.hex word.toNat).toList = .ok word ∧
      readWord ("0x" ++ String.ofList ((Text.hexDigits word.toNat).map Char.toUpper)).toList =
        .ok word ∧
      ∀ width, readWord (Text.hexWide width word.toNat).toList = .ok word) ∧
    ∀ (segment : Segment) (size : UInt64),
      readSegment (segment.name ++ "=" ++ toString size.toNat).toList =
        .ok (segment, size.toNat) := by
  have hex {word : UInt32} : Text.Denotes 16 (Text.hexDigits word.toNat) word.toNat :=
    Text.denotes_toDigits (by decide) (Nat.le_refl 16) _
  refine ⟨fun _ _ => readWord_eq_ok_iff_spelled, fun _ _ _ => readSegment_eq_ok_iff_spelled,
    fun word => ⟨?_, ?_, ?_, fun width => ?_⟩, fun segment size => ?_⟩
  · obtain ⟨trimmed, spells⟩ := spells_toDigits word.toNat
    rw [Nat.toString_eq_ofList_toDigits, String.toList_ofList]
    exact readWord_eq_ok_iff_spelled.2 ⟨_, trimmed, .inr spells⟩
  · exact readWord_hexDigits Nat.toDigits_ne_nil hex
  · exact readWord_hexDigits (mt List.map_eq_nil_iff.1 Nat.toDigits_ne_nil)
      (hex.toUpper (Nat.le_refl 16))
  · refine readWord_hexDigits ?_ (hex.leftpad (by decide) width)
    rw [List.ne_nil_iff_length_pos, List.length_leftpad]
    exact lt_max_of_lt_right Nat.length_toDigits_pos
  · obtain ⟨trimmed, spells⟩ := spells_toDigits size.toNat
    obtain ⟨solid, free⟩ := name_solid segment
    have sign : "=".toList = ['='] := by decide
    rw [Nat.toString_eq_ofList_toDigits, String.toList_append, String.toList_append, sign,
      String.toList_ofList, List.append_assoc]
    exact readSegment_eq_ok_iff_spelled.2
      ⟨_, _, _, rfl, free, Text.trimmed_self solid, trimmed, spells, size.toNat_lt⟩

end Command

end NorStore
