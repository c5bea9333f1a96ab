/-
**Integers are read exactly, and read back from what is written.**

A text denotes an integer (`DenotesInteger`) if it is an optional sign and one or more ASCII digits;
zeros in front of a number do not matter. Reading keeps a number that has to stay within a limit, and
gives up as soon as it does not. Digits never make a number smaller, so it gives up only if the whole
number exceeds the limit (`readDigits_eq_ok_iff`). So a reader accepts what denotes an integer of its
range, and nothing else (`readInteger_eq_ok_iff`).

`integers_exact` says this of fields of every width, and that an integer is read back from the
expression that is written for it.
-/

import Mathlib.Algebra.Ring.Int.Defs
import SchemaBinding.FixedValue.Literal
import SchemaBinding.Proofs.Fallible

namespace SchemaBinding

/-- One or more ASCII digits. -/
def IsNumeral (digits : List Char) : Prop := digits ≠ [] ∧ ∀ c ∈ digits, c.isDigit = true

/-- **The text denotes the integer**: it is a numeral, with an optional sign before it. -/
inductive DenotesInteger : List Char → Int → Prop
  | unsigned {digits : List Char} (numeral : IsNumeral digits) :
      DenotesInteger digits (Nat.ofDigitChars 10 digits 0)
  | plus {digits : List Char} (numeral : IsNumeral digits) :
      DenotesInteger ('+' :: digits) (Nat.ofDigitChars 10 digits 0)
  | minus {digits : List Char} (numeral : IsNumeral digits) :
      DenotesInteger ('-' :: digits) (-Nat.ofDigitChars 10 digits 0)

/-- The integers of `bits + 1` bits in two's complement. -/
def InRange (bits : Nat) (n : Int) : Prop := -2 ^ bits ≤ n ∧ n < 2 ^ bits

/-! ### Digits -/

section

variable {limit value number : Nat} {fault : IntegerFault} {digits : List Char}

theorem digitValue?_ten (c : Char) :
    digitValue? 10 c = if c.isDigit then some (c.toNat - '0'.toNat) else none := by
  have bounds (low high : Char) : low ≤ c ∧ c ≤ high ↔ low.toNat ≤ c.toNat ∧ c.toNat ≤ high.toNat :=
    Iff.rfl
  unfold digitValue?
  simp only [Char.isDigit_iff_toNat, bounds]
  split
  · rename_i digit
    have small : c.toNat - 48 < 10 := by
      have : '9'.toNat = 57 := rfl
      omega
    simp only [if_pos small]
    rfl
  · -- A letter stands for ten or more.
    rename_i other
    have : 'a'.toNat = 97 := rfl
    have : 'A'.toNat = 65 := rfl
    have large : ¬ (if 'a'.toNat ≤ c.toNat ∧ c.toNat ≤ 'z'.toNat then c.toNat - 87
        else if 'A'.toNat ≤ c.toNat ∧ c.toNat ≤ 'Z'.toNat then c.toNat - 55 else 10) < 10 := by
      split
      · omega
      · split <;> omega
    rw [if_neg large]

/-- Digits never make a number smaller. -/
theorem le_ofDigitChars (value : Nat) (digits : List Char) :
    value ≤ Nat.ofDigitChars 10 digits value := by
  rw [Nat.ofDigitChars_eq_ofDigitChars_zero]
  have power : 1 ≤ 10 ^ digits.length := Nat.one_le_pow _ _ (by decide)
  calc value = 1 * value := (Nat.one_mul value).symm
    _ ≤ 10 ^ digits.length * value := Nat.mul_le_mul_right value power
    _ ≤ _ := Nat.le_add_right _ _

/-- **Digits are read to the number that they denote, if it is within the limit.** -/
theorem readDigits_eq_ok_iff (start : value ≤ limit) :
    readDigits 10 limit fault value digits = .ok number ↔
      (∀ c ∈ digits, c.isDigit = true) ∧ number = Nat.ofDigitChars 10 digits value ∧
        number ≤ limit := by
  induction digits generalizing value with
  | nil =>
    rw [readDigits, Except.ok.injEq]
    constructor
    · rintro rfl
      exact ⟨nofun, rfl, start⟩
    · rintro ⟨-, rfl, -⟩
      rfl
  | cons c rest ih =>
    rw [readDigits, digitValue?_ten, List.forall_mem_cons, Nat.ofDigitChars_cons]
    by_cases digit : c.isDigit = true
    · simp only [if_pos digit, Nat.mul_comm value 10]
      by_cases within : 10 * value + (c.toNat - '0'.toNat) ≤ limit
      · rw [if_pos within, ih within]
        simp only [digit, true_and]
      · rw [if_neg within]
        refine iff_of_false nofun ?_
        rintro ⟨-, rfl, small⟩
        exact within (Nat.le_trans (le_ofDigitChars _ rest) small)
    · simp only [if_neg digit]
      exact iff_of_false nofun fun all => digit all.1.1

theorem readMagnitude_eq_ok_iff :
    readMagnitude 10 limit fault digits = .ok number ↔
      IsNumeral digits ∧ number = Nat.ofDigitChars 10 digits 0 ∧ number ≤ limit := by
  unfold readMagnitude IsNumeral
  by_cases empty : digits = []
  · simp [empty]
  · rw [if_neg (by simpa using empty), readDigits_eq_ok_iff (Nat.zero_le limit)]
    simp only [ne_eq, empty, not_false_eq_true, true_and]

end

/-! ### Integers -/

section

variable {digits text : List Char} {n : Int}

theorem denotesInteger_plus_iff :
    DenotesInteger ('+' :: digits) n ↔ IsNumeral digits ∧ n = Nat.ofDigitChars 10 digits 0 := by
  constructor
  · rintro (⟨_, all⟩ | numeral)
    · exact absurd (all '+' List.mem_cons_self) (by decide)
    · exact ⟨numeral, rfl⟩
  · rintro ⟨numeral, rfl⟩
    exact .plus numeral

theorem denotesInteger_minus_iff :
    DenotesInteger ('-' :: digits) n ↔ IsNumeral digits ∧ n = -Nat.ofDigitChars 10 digits 0 := by
  constructor
  · rintro (⟨_, all⟩ | _ | numeral)
    · exact absurd (all '-' List.mem_cons_self) (by decide)
    · exact ⟨numeral, rfl⟩
  · rintro ⟨numeral, rfl⟩
    exact .minus numeral

theorem denotesInteger_unsigned_iff (noMinus : ∀ rest, text ≠ '-' :: rest)
    (noPlus : ∀ rest, text ≠ '+' :: rest) :
    DenotesInteger text n ↔ IsNumeral text ∧ n = Nat.ofDigitChars 10 text 0 := by
  constructor
  · intro denotes
    cases denotes with
    | unsigned numeral => exact ⟨numeral, rfl⟩
    | plus => exact absurd rfl (noPlus _)
    | minus => exact absurd rfl (noMinus _)
  · rintro ⟨numeral, rfl⟩
    exact .unsigned numeral

theorem inRange_iff {bits : Nat} :
    InRange bits n ↔ -(twoPow bits : Int) ≤ n ∧ n < (twoPow bits : Int) := by
  have power : (twoPow bits : Int) = 2 ^ bits := Int.natCast_pow 2 bits
  rw [power]
  rfl

/-- Without a minus, the largest number of the range is the limit. -/
theorem map_readMagnitude_eq_ok_iff {bits : Nat} {fault : IntegerFault} :
    (readMagnitude 10 (twoPow bits - 1) fault digits).map Int.ofNat = .ok n ↔
      (IsNumeral digits ∧ n = Nat.ofDigitChars 10 digits 0) ∧ InRange bits n := by
  have positive : 0 < twoPow bits := twoPow_pos bits
  rw [map_eq_ok_iff, inRange_iff]
  simp only [readMagnitude_eq_ok_iff]
  constructor
  · rintro ⟨m, ⟨numeral, rfl, small⟩, rfl⟩
    rw [Int.ofNat_eq_natCast]
    exact ⟨⟨numeral, rfl⟩, by omega, by omega⟩
  · rintro ⟨⟨numeral, rfl⟩, -, high⟩
    exact ⟨_, ⟨numeral, rfl, by omega⟩, rfl⟩

/-- **A text is read as an integer exactly if it denotes it and it lies in the range.** -/
theorem readInteger_eq_ok_iff {bits : Nat} :
    readInteger bits text = .ok n ↔ DenotesInteger text n ∧ InRange bits n := by
  unfold readInteger
  split
  · refine iff_of_false nofun ?_
    rintro ⟨⟨some, -⟩, -⟩
    exact some rfl
  · have positive : 0 < twoPow bits := twoPow_pos bits
    rw [denotesInteger_minus_iff, map_eq_ok_iff, inRange_iff]
    simp only [readMagnitude_eq_ok_iff]
    constructor
    · rintro ⟨m, ⟨numeral, rfl, small⟩, rfl⟩
      exact ⟨⟨numeral, rfl⟩, by omega, by omega⟩
    · rintro ⟨⟨numeral, rfl⟩, low, -⟩
      exact ⟨_, ⟨numeral, rfl, by omega⟩, rfl⟩
  · rw [denotesInteger_plus_iff, map_readMagnitude_eq_ok_iff]
  · rename_i noMinus noPlus
    rw [denotesInteger_unsigned_iff noMinus noPlus, map_readMagnitude_eq_ok_iff]

/-- The text of an integer denotes it. -/
theorem denotesInteger_toString (n : Int) : DenotesInteger (toString n).toList n := by
  have numeral (m : Nat) : IsNumeral (Nat.toDigits 10 m) :=
    ⟨Nat.toDigits_ne_nil, fun c member => Nat.isDigit_of_mem_toDigits (by decide) (by decide) member⟩
  rw [Int.toString_eq_repr]
  cases n with
  | ofNat m =>
    have denotes := DenotesInteger.unsigned (numeral m)
    rw [Nat.ofDigitChars_ten_toDigits] at denotes
    rw [Int.repr, Nat.toList_repr]
    exact denotes
  | negSucc m =>
    have denotes := DenotesInteger.minus (numeral (m + 1))
    rw [Nat.ofDigitChars_ten_toDigits] at denotes
    rw [Int.repr, String.toList_append, Nat.toList_repr]
    exact denotes

end

/-! ### Fields with integers -/

/-- **The reader accepts exactly the texts of the integers of `bits + 1` bits**, each as the integer that
it denotes, and calls every other text a malformed integer. -/
structure ReadsExactly (bits : Nat) (read : String → Except LiteralFault Int) : Prop where
  accepts : ∀ value n,
    read value = .ok n ↔ DenotesInteger value.toList n ∧ InRange bits n
  rejects : ∀ value, (∃ fault, read value = .error (.integer fault)) ↔
    ¬ ∃ n, DenotesInteger value.toList n ∧ InRange bits n

theorem readsExactly_readInteger (bits : Nat) :
    ReadsExactly bits fun value =>
      (readInteger bits value.toList).mapError LiteralFault.integer where
  accepts value n := mapError_eq_ok_iff.trans readInteger_eq_ok_iff
  rejects value := by
    simp only [← readInteger_eq_ok_iff]
    cases readInteger bits value.toList with
    | error fault => exact iff_of_true ⟨fault, rfl⟩ nofun
    | ok n => exact iff_of_false nofun fun none => none ⟨n, rfl⟩

section

variable {width : IntegerWidth} {value : String}

/-- An integer that was read is not changed by the width of the literal that holds it. -/
theorem map_map_readInteger {α : Type} {bits : Nat} {hold : Int → α} {held : α → Int}
    (kept : ∀ n, InRange bits n → held (hold n) = n) :
    (((readInteger bits value.toList).mapError LiteralFault.integer).map hold).map held =
      (readInteger bits value.toList).mapError LiteralFault.integer := by
  cases number : readInteger bits value.toList with
  | error fault => rfl
  | ok n => exact congrArg Except.ok (kept n (readInteger_eq_ok_iff.mp number).2)

theorem toInt_readNarrow :
    (readNarrow width value).map Int32.toInt =
      (readInteger width.magnitudeBits value.toList).mapError LiteralFault.integer := by
  refine map_map_readInteger fun n within => ?_
  have bound : (2 : Int) ^ width.magnitudeBits ≤ 2 ^ 31 := by cases width <;> decide
  obtain ⟨low, high⟩ := within
  exact Int32.toInt_ofInt_of_le (by omega) (by omega)

theorem toInt_readLong :
    (readLong value).map Int64.toInt =
      (readInteger 63 value.toList).mapError LiteralFault.integer :=
  map_map_readInteger fun _ within => Int64.toInt_ofInt_of_le within.1 within.2

theorem readNarrow_eq_ok_iff {n : Int32} :
    readNarrow width value = .ok n ↔ DenotesInteger value.toList n.toInt ∧
      InRange width.magnitudeBits n.toInt := by
  rw [← (readsExactly_readInteger _).accepts, ← toInt_readNarrow, map_eq_ok_iff]
  simp [Int32.toInt_inj]

theorem readLong_eq_ok_iff {n : Int64} :
    readLong value = .ok n ↔ DenotesInteger value.toList n.toInt ∧ InRange 63 n.toInt := by
  rw [← (readsExactly_readInteger _).accepts, ← toInt_readLong, map_eq_ok_iff]
  simp [Int64.toInt_inj]

end

/-- **Integers are read exactly, and read back.** A field of 8, 16, 32 or 64 bits takes the texts of
the integers of its range, as the integers that they denote, and calls every other text a malformed
integer. What is written for an integer is read as this integer by every width that it fits. -/
theorem integers_exact :
    (∀ width : IntegerWidth,
      ReadsExactly width.magnitudeBits fun value => (readNarrow width value).map Int32.toInt) ∧
    (ReadsExactly 63 fun value => (readLong value).map Int64.toInt) ∧
    (∀ (width : IntegerWidth) (n : Int32),
      readNarrow width (Expr.int n).source = .ok n ↔ InRange width.magnitudeBits n.toInt) ∧
    ∀ n : Int64, readLong (Expr.long n).source = .ok n := by
  refine ⟨fun width => ?_, ?_, fun width n => ?_, fun n => ?_⟩
  · simp only [toInt_readNarrow]
    exact readsExactly_readInteger width.magnitudeBits
  · simp only [toInt_readLong]
    exact readsExactly_readInteger 63
  · rw [readNarrow_eq_ok_iff, Expr.source, Expr.write]
    exact and_iff_right (denotesInteger_toString n.toInt)
  · rw [readLong_eq_ok_iff, Expr.source, Expr.write]
    exact ⟨denotesInteger_toString n.toInt, n.le_toInt, n.toInt_lt⟩

end SchemaBinding
