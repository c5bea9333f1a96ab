/-
**The floating-point numbers that are accepted.**

The lexical space of floating-point numbers is a regular language (`Pattern.floatNumber`) and three
words (`IsFloatText`). A reader cuts a text into sign, digits, point, more digits and exponent and never
goes back. This is right because no part begins with a character that could still belong to the part
before it (`mem_signed_iff`, `mem_mantissa_mul_iff`). So what is cut to its end is what the language
generates (`isSome_readDecimal?_iff`).

`floats_accepted`: both formats accept exactly the lexical space. What they refuse they call a word if
it has a character that occurs in no number, and a malformed number otherwise.
-/

import Mathlib.Computability.RegularExpressions
import Mathlib.Data.List.TakeWhile
import SchemaBinding.FixedValue.Literal
import SchemaBinding.Proofs.Fallible
import SchemaBinding.Proofs.Naming.SnakeCase

namespace SchemaBinding

open RegularExpression (matches'_add matches'_mul matches'_star)

/-! ### Patterns -/

/-- A regular expression over characters. -/
abbrev Pattern := RegularExpression Char

namespace Pattern

/-- One of some characters. -/
def anyOf (chars : List Char) : Pattern := (chars.map .char).sum

def optionally (pattern : Pattern) : Pattern := 1 + pattern

def oneOrMore (pattern : Pattern) : Pattern := pattern * pattern.star

/-- The characters of which a pattern speaks. -/
def letters : Pattern → List Char
  | .zero => []
  | .epsilon => []
  | .char c => [c]
  | .plus one other => letters one ++ letters other
  | .comp first second => letters first ++ letters second
  | .star pattern => letters pattern

section

variable {chars text : List Char} {pattern : Pattern}

theorem mem_anyOf_iff : text ∈ (anyOf chars).matches' ↔ ∃ c ∈ chars, text = [c] := by
  unfold anyOf
  induction chars with
  | nil => simp [RegularExpression.matches'_zero, Language.notMem_zero]
  | cons c rest ih =>
    rw [List.map_cons, List.sum_cons, matches'_add, Language.mem_add, ih, List.exists_mem_cons_iff]
    rfl

theorem mem_optionally_iff :
    text ∈ (optionally pattern).matches' ↔ text = [] ∨ text ∈ pattern.matches' :=
  Iff.rfl

theorem mem_star_anyOf_iff : text ∈ (anyOf chars).star.matches' ↔ ∀ c ∈ text, c ∈ chars := by
  rw [matches'_star, Language.mem_kstar]
  constructor
  · rintro ⟨words, rfl, all⟩ c member
    obtain ⟨word, word_mem, member⟩ := List.mem_flatten.mp member
    obtain ⟨d, listed, rfl⟩ := mem_anyOf_iff.mp (all word word_mem)
    rw [List.mem_singleton.mp member]
    exact listed
  · intro all
    refine ⟨text.map fun c => [c], (List.flatMap_singleton' text).symm, fun word word_mem => ?_⟩
    obtain ⟨c, member, rfl⟩ := List.mem_map.mp word_mem
    exact mem_anyOf_iff.mpr ⟨c, all c member, rfl⟩

theorem mem_oneOrMore_anyOf_iff :
    text ∈ (oneOrMore (anyOf chars)).matches' ↔ text ≠ [] ∧ ∀ c ∈ text, c ∈ chars := by
  rw [oneOrMore, matches'_mul, Language.mem_mul]
  constructor
  · rintro ⟨first, first_mem, rest, rest_mem, rfl⟩
    obtain ⟨c, listed, rfl⟩ := mem_anyOf_iff.mp first_mem
    exact ⟨nofun, List.forall_mem_cons.mpr ⟨listed, mem_star_anyOf_iff.mp rest_mem⟩⟩
  · rintro ⟨some, all⟩
    cases text with
    | nil => exact absurd rfl some
    | cons c rest =>
      obtain ⟨listed, later⟩ := List.forall_mem_cons.mp all
      exact ⟨[c], mem_anyOf_iff.mpr ⟨c, listed, rfl⟩, rest, mem_star_anyOf_iff.mpr later, rfl⟩

/-- What a pattern generates has no other characters. -/
theorem mem_letters_of_mem_matches' {c : Char} (word : text ∈ pattern.matches')
    (member : c ∈ text) : c ∈ letters pattern := by
  induction pattern generalizing text with
  | zero => exact absurd word (Language.notMem_zero text)
  | epsilon =>
    rw [(Language.mem_one text).mp word] at member
    exact absurd member List.not_mem_nil
  | char d =>
    obtain rfl : text = [d] := word
    exact member
  | plus one other ihOne ihOther =>
    rcases (Language.mem_add _ _ _).mp word with word | word
    · exact List.mem_append_left _ (ihOne word member)
    · exact List.mem_append_right _ (ihOther word member)
  | comp first second ihFirst ihSecond =>
    obtain ⟨start, start_mem, rest, rest_mem, rfl⟩ := Language.mem_mul.mp word
    rcases List.mem_append.mp member with member | member
    · exact List.mem_append_left _ (ihFirst start_mem member)
    · exact List.mem_append_right _ (ihSecond rest_mem member)
  | star pattern ih =>
    obtain ⟨words, rfl, all⟩ := Language.mem_kstar.mp word
    obtain ⟨part, part_mem, member⟩ := List.mem_flatten.mp member
    exact ih (all part part_mem) member

end

/-! ### The language of numbers -/

def digit : Pattern := anyOf "0123456789".toList

def sign : Pattern := anyOf "+-".toList

/-- Digits, with at most one point before, behind or among them. -/
def mantissa : Pattern :=
  oneOrMore digit * optionally (.char '.' * digit.star) + .char '.' * oneOrMore digit

def exponent : Pattern := anyOf "eE".toList * (optionally sign * oneOrMore digit)

/-- **The decimal floating-point numbers**:
`[+-]?([0-9]+(\.[0-9]*)?|\.[0-9]+)([eE][+-]?[0-9]+)?`. -/
def floatNumber : Pattern := optionally sign * (mantissa * optionally exponent)

section

variable {text : List Char}

theorem mem_digits_iff {c : Char} : c ∈ "0123456789".toList ↔ c.isDigit = true := by
  constructor
  · exact List.all_eq_true.mp (by decide : "0123456789".toList.all Char.isDigit = true) c
  · intro digit
    have bound := (Char.isDigit_iff_toNat.mp digit).2
    have ascii : c.toNat < 128 := Nat.lt_of_le_of_lt bound (by decide)
    exact forall_ascii (fun c => c.isDigit = true → c ∈ "0123456789".toList) (by decide) ascii digit

theorem mem_star_digit_iff : text ∈ digit.star.matches' ↔ ∀ c ∈ text, c.isDigit = true := by
  simp only [digit, mem_star_anyOf_iff, mem_digits_iff]

theorem mem_oneOrMore_digit_iff :
    text ∈ (oneOrMore digit).matches' ↔ text ≠ [] ∧ ∀ c ∈ text, c.isDigit = true := by
  simp only [digit, mem_oneOrMore_anyOf_iff, mem_digits_iff]

end

end Pattern

/-- **The lexical space of floating-point numbers.** -/
def IsFloatText (value : String) : Prop :=
  value ∈ ["INF", "-INF", "NaN"] ∨ value.toList ∈ Pattern.floatNumber.matches'

/-! ### Cutting a text into its parts -/

open Pattern

section

variable {language : Language Char} {text : List Char}

/-- **A sign is cut off where one may stand**, since what follows it does not begin with one. -/
theorem mem_signed_iff (apart : ∀ c rest, c :: rest ∈ language → c ≠ '+' ∧ c ≠ '-') :
    text ∈ (optionally sign).matches' * language ↔ (splitSign text).2 ∈ language := by
  rw [Language.mem_mul]
  constructor
  · rintro ⟨front, front_mem, rest, rest_mem, rfl⟩
    rcases mem_optionally_iff.mp front_mem with rfl | signed
    · rw [List.nil_append]
      unfold splitSign
      split
      · exact absurd rfl (apart _ _ rest_mem).2
      · exact absurd rfl (apart _ _ rest_mem).1
      · exact rest_mem
    · obtain ⟨c, member, rfl⟩ := mem_anyOf_iff.mp signed
      rcases List.mem_cons.mp member with rfl | member
      · exact rest_mem
      · obtain rfl := List.mem_singleton.mp member
        exact rest_mem
  · have signed {c : Char} (member : c ∈ "+-".toList) : [c] ∈ (optionally sign).matches' :=
      mem_optionally_iff.mpr (.inr (mem_anyOf_iff.mpr ⟨c, member, rfl⟩))
    intro unsigned
    unfold splitSign at unsigned
    split at unsigned
    · exact ⟨['-'], signed (by decide), _, unsigned, rfl⟩
    · exact ⟨['+'], signed (by decide), _, unsigned, rfl⟩
    · exact ⟨[], mem_optionally_iff.mpr (.inl rfl), _, unsigned, rfl⟩

/-- Digits are cut off where something follows that does not begin with one. -/
theorem cut_digits {digits rest : List Char} (all : ∀ c ∈ digits, c.isDigit = true)
    (stops : ∀ c tail, rest = c :: tail → c.isDigit = false) :
    (digits ++ rest).takeWhile Char.isDigit = digits ∧
      (digits ++ rest).dropWhile Char.isDigit = rest := by
  rw [List.takeWhile_append_of_pos all, List.dropWhile_append_of_pos all]
  cases rest with
  | nil => exact ⟨List.append_nil digits, rfl⟩
  | cons c tail =>
    have stop : ¬ c.isDigit = true := by simp [stops c tail rfl]
    rw [List.takeWhile_cons_of_neg stop, List.dropWhile_cons_of_neg stop, List.append_nil]
    exact ⟨rfl, rfl⟩

theorem splitFraction_of_no_point (other : ∀ rest, text ≠ '.' :: rest) :
    splitFraction text = ([], text) := by
  unfold splitFraction
  split
  · exact absurd rfl (other _)
  · rfl

theorem splitFraction_point {fraction rest : List Char} (all : ∀ c ∈ fraction, c.isDigit = true)
    (stops : ∀ c tail, rest = c :: tail → c.isDigit = false) :
    splitFraction ('.' :: (fraction ++ rest)) = (fraction, rest) :=
  Prod.ext (cut_digits all stops).1 (cut_digits all stops).2

theorem splitFraction_cases (text : List Char) :
    (∃ rest, text = '.' :: rest ∧
        splitFraction text = (rest.takeWhile Char.isDigit, rest.dropWhile Char.isDigit)) ∨
      splitFraction text = ([], text) := by
  unfold splitFraction
  split
  · exact .inl ⟨_, rfl, rfl⟩
  · exact .inr rfl

theorem mem_mantissa_of_whole {whole : List Char} (some : whole ≠ [])
    (all : ∀ c ∈ whole, c.isDigit = true) : whole ∈ mantissa.matches' :=
  .inl (Language.mem_mul.mpr ⟨whole, mem_oneOrMore_digit_iff.mpr ⟨some, all⟩, [],
    mem_optionally_iff.mpr (.inl rfl), List.append_nil whole⟩)

theorem mem_mantissa_of_point {whole fraction : List Char}
    (some : ¬ (whole = [] ∧ fraction = [])) (whole_all : ∀ c ∈ whole, c.isDigit = true)
    (fraction_all : ∀ c ∈ fraction, c.isDigit = true) :
    whole ++ '.' :: fraction ∈ mantissa.matches' := by
  have point {pattern : Pattern} (word : fraction ∈ pattern.matches') :
      '.' :: fraction ∈ (.char '.' * pattern : Pattern).matches' :=
    Language.mem_mul.mpr ⟨['.'], rfl, fraction, word, rfl⟩
  by_cases empty : whole = []
  · subst empty
    have digits : fraction ≠ [] := fun none => some ⟨rfl, none⟩
    exact .inr (point (mem_oneOrMore_digit_iff.mpr ⟨digits, fraction_all⟩))
  · exact .inl (Language.mem_mul.mpr ⟨whole, mem_oneOrMore_digit_iff.mpr ⟨empty, whole_all⟩, _,
      mem_optionally_iff.mpr (.inr (point (mem_star_digit_iff.mpr fraction_all))), rfl⟩)

/-- **The digits of a number and its point are cut off where something follows that begins with
neither.** There have to be digits before or behind the point. -/
theorem mem_mantissa_mul_iff
    (apart : ∀ c rest, c :: rest ∈ language → c.isDigit = false ∧ c ≠ '.') :
    text ∈ mantissa.matches' * language ↔
      let parts := splitFraction (text.dropWhile Char.isDigit)
      ¬ (text.takeWhile Char.isDigit = [] ∧ parts.1 = []) ∧ parts.2 ∈ language := by
  have pointStops (rest : List Char) (c : Char) (tail : List Char) (same : '.' :: rest = c :: tail) :
      c.isDigit = false := (List.cons.inj same).1 ▸ rfl
  rw [Language.mem_mul]
  constructor
  · rintro ⟨number, number_mem, rest, rest_mem, rfl⟩
    have stops (c : Char) (tail : List Char) (same : rest = c :: tail) : c.isDigit = false :=
      (apart c tail (same ▸ rest_mem)).1
    rcases (Language.mem_add _ _ _).mp number_mem with number_mem | number_mem
    · obtain ⟨whole, whole_mem, point, point_mem, rfl⟩ := Language.mem_mul.mp number_mem
      obtain ⟨some, all⟩ := mem_oneOrMore_digit_iff.mp whole_mem
      rcases mem_optionally_iff.mp point_mem with rfl | point_mem
      · have noPoint (tail : List Char) : rest ≠ '.' :: tail := fun same =>
          (apart '.' tail (same ▸ rest_mem)).2 rfl
        obtain ⟨taken, dropped⟩ := cut_digits all stops
        rw [List.append_nil, taken, dropped, splitFraction_of_no_point noPoint]
        exact ⟨fun both => some both.1, rest_mem⟩
      · obtain ⟨_, rfl, fraction, fraction_mem, rfl⟩ := Language.mem_mul.mp point_mem
        obtain ⟨taken, dropped⟩ := cut_digits all (pointStops (fraction ++ rest))
        rw [List.append_assoc, List.append_assoc, List.singleton_append, taken, dropped,
          splitFraction_point (mem_star_digit_iff.mp fraction_mem) stops]
        exact ⟨fun both => some both.1, rest_mem⟩
    · obtain ⟨_, rfl, fraction, fraction_mem, rfl⟩ := Language.mem_mul.mp number_mem
      obtain ⟨some, all⟩ := mem_oneOrMore_digit_iff.mp fraction_mem
      have none : ∀ c ∈ ([] : List Char), c.isDigit = true := nofun
      have dropped := (cut_digits none (pointStops (fraction ++ rest))).2
      rw [List.nil_append] at dropped
      rw [List.append_assoc, List.singleton_append, dropped, splitFraction_point all stops]
      exact ⟨fun both => some both.2, rest_mem⟩
  · rintro ⟨some, rest_mem⟩
    have parts := List.takeWhile_append_dropWhile (p := Char.isDigit) (l := text)
    have whole_all : ∀ c ∈ text.takeWhile Char.isDigit, c.isDigit = true :=
      fun c => List.mem_takeWhile_imp
    rcases splitFraction_cases (text.dropWhile Char.isDigit) with ⟨rest, dropped, cut⟩ | cut
    · have fraction_all : ∀ c ∈ rest.takeWhile Char.isDigit, c.isDigit = true :=
        fun c => List.mem_takeWhile_imp
      rw [cut] at some rest_mem
      refine ⟨_, mem_mantissa_of_point some whole_all fraction_all, _, rest_mem, ?_⟩
      rw [List.append_assoc, List.cons_append, List.takeWhile_append_dropWhile, ← dropped, parts]
    · rw [cut] at some rest_mem
      have digits : text.takeWhile Char.isDigit ≠ [] := fun none => some ⟨none, rfl⟩
      exact ⟨_, mem_mantissa_of_whole digits whole_all, _, rest_mem, parts⟩

theorem ne_sign_of_digits {c : Char} {rest : List Char}
    (word : c :: rest ∈ (oneOrMore digit).matches') : c ≠ '+' ∧ c ≠ '-' := by
  have digit := (mem_oneOrMore_digit_iff.mp word).2 c List.mem_cons_self
  constructor <;> rintro rfl <;> exact absurd digit (by decide)

theorem cons_mem_exponent_iff {marker : Char} {rest : List Char} :
    marker :: rest ∈ exponent.matches' ↔
      (marker = 'e' ∨ marker = 'E') ∧ (splitSign rest).2 ∈ (oneOrMore digit).matches' := by
  have signed : rest ∈ (optionally sign * oneOrMore digit).matches' ↔ _ :=
    mem_signed_iff fun c tail => ne_sign_of_digits
  have markers : marker ∈ "eE".toList ↔ marker = 'e' ∨ marker = 'E' := by simp
  rw [← signed, ← markers, exponent, matches'_mul, Language.mem_mul]
  constructor
  · rintro ⟨_, front_mem, tail, tail_mem, same⟩
    obtain ⟨c, listed, rfl⟩ := mem_anyOf_iff.mp front_mem
    obtain ⟨rfl, rfl⟩ := List.cons.inj same
    exact ⟨listed, tail_mem⟩
  · rintro ⟨listed, tail_mem⟩
    exact ⟨[marker], mem_anyOf_iff.mpr ⟨marker, listed, rfl⟩, rest, tail_mem, rfl⟩

/-- **An exponent is read exactly if there is one or none.** -/
theorem isSome_readExponent?_iff :
    (readExponent? text).isSome = true ↔ text ∈ (optionally exponent).matches' := by
  rw [mem_optionally_iff]
  cases text with
  | nil => exact iff_of_true rfl (.inl rfl)
  | cons marker rest =>
    have some : ¬ marker :: rest = [] := nofun
    rw [or_iff_right some, cons_mem_exponent_iff, mem_oneOrMore_digit_iff, readExponent?]
    by_cases marks : marker = 'e' ∨ marker = 'E'
    · by_cases digits : (splitSign rest).2 ≠ [] ∧ ∀ c ∈ (splitSign rest).2, c.isDigit = true
      · simp [marks, digits]
      · simp [marks, digits]
    · simp [marks]

/-- **A text is cut to its end exactly if it is a number.** -/
theorem isSome_readDecimal?_iff :
    (readDecimal? text).isSome = true ↔ text ∈ floatNumber.matches' := by
  have exponentApart (c : Char) (rest : List Char)
      (word : c :: rest ∈ (optionally exponent).matches') : c.isDigit = false ∧ c ≠ '.' := by
    rcases mem_optionally_iff.mp word with empty | word
    · exact nomatch empty
    · rcases (cons_mem_exponent_iff.mp word).1 with rfl | rfl <;> decide
  have mantissaApart (c : Char) (rest : List Char)
      (word : c :: rest ∈ mantissa.matches' * (optionally exponent).matches') :
      c ≠ '+' ∧ c ≠ '-' := by
    have some := ((mem_mantissa_mul_iff exponentApart).mp word).1
    constructor <;> rintro rfl <;> exact some ⟨rfl, rfl⟩
  have signed : text ∈ floatNumber.matches' ↔ _ := mem_signed_iff mantissaApart
  rw [signed, matches'_mul, mem_mantissa_mul_iff exponentApart]
  simp only [readDecimal?, List.isEmpty_iff, ← isSome_readExponent?_iff]
  split
  · rename_i missing
    exact iff_of_false nofun fun both => both.1 missing
  · rename_i some
    rw [Option.isSome_map]
    exact (and_iff_right some).symm

end

/-! ### Accepted texts -/

/-- **The reader accepts exactly the lexical space.** What it refuses it calls a word if there is a
character in it that no number has, and a malformed number otherwise. -/
structure AcceptsFloats {α : Type} (read : String → Except LiteralFault α) : Prop where
  accepts : ∀ value, (∃ result, read value = .ok result) ↔ IsFloatText value
  word : ∀ value, read value = .error (.floatWord value) ↔
    ¬ IsFloatText value ∧ ∃ c ∈ value.toList, c ∉ "0123456789+-.eE".toList
  malformed : ∀ value, (∃ fault, read value = .error (.float fault)) ↔
    ¬ IsFloatText value ∧ ∀ c ∈ value.toList, c ∈ "0123456789+-.eE".toList

theorem isFloatCharacter_iff {c : Char} :
    isFloatCharacter c = true ↔ c ∈ "0123456789+-.eE".toList := by
  have split : "0123456789+-.eE".toList = "0123456789".toList ++ ['+', '-', '.', 'e', 'E'] := rfl
  rw [split, List.mem_append, mem_digits_iff]
  simp [isFloatCharacter, or_assoc]

theorem isFloatCharacter_of_mem_floatNumber {text : List Char}
    (word : text ∈ floatNumber.matches') : text.all isFloatCharacter = true := by
  have known : (letters floatNumber).all isFloatCharacter = true := by decide
  exact List.all_eq_true.mpr fun c member =>
    List.all_eq_true.mp known c (mem_letters_of_mem_matches' word member)

theorem exists_readFloat_iff {format : FloatFormat} {text : List Char} :
    (∃ bits, readFloat format text = .ok bits) ↔ text ∈ floatNumber.matches' := by
  rw [← isSome_readDecimal?_iff]
  unfold readFloat
  cases text with
  | nil => exact iff_of_false nofun nofun
  | cons c rest =>
    cases readDecimal? (c :: rest) with
    | none => exact iff_of_false nofun nofun
    | some number => exact iff_of_true ⟨_, rfl⟩ rfl

/-- A text that is no special value is checked for its characters and then read as a number. -/
theorem readFloatBits_of_not_special {format : FloatFormat} {value : String}
    (plain : value ∉ ["INF", "-INF", "NaN"]) :
    readFloatBits format value =
      if value.toList.all isFloatCharacter then
        (readFloat format value.toList).mapError LiteralFault.float
      else .error (.floatWord value) := by
  unfold readFloatBits
  split
  · exact absurd (by decide) plain
  · exact absurd (by decide) plain
  · exact absurd (by decide) plain
  · rfl

theorem exists_readFloatBits_of_special {format : FloatFormat} {value : String}
    (special : value ∈ ["INF", "-INF", "NaN"]) : ∃ bits, readFloatBits format value = .ok bits := by
  simp only [List.mem_cons, List.not_mem_nil, or_false] at special
  rcases special with rfl | rfl | rfl <;> exact ⟨_, rfl⟩

/-- What becomes of a text: it is read, or refused for its form, or for one of its characters. -/
theorem readFloatBits_cases (format : FloatFormat) (value : String) :
    (IsFloatText value ∧ ∃ bits, readFloatBits format value = .ok bits) ∨
      (¬ IsFloatText value ∧ value.toList.all isFloatCharacter = true ∧
        ∃ fault, readFloatBits format value = .error (.float fault)) ∨
      (¬ IsFloatText value ∧ value.toList.all isFloatCharacter = false ∧
        readFloatBits format value = .error (.floatWord value)) := by
  by_cases special : value ∈ ["INF", "-INF", "NaN"]
  · exact .inl ⟨.inl special, exists_readFloatBits_of_special special⟩
  · have text : IsFloatText value ↔ value.toList ∈ floatNumber.matches' := or_iff_right special
    have number : (∃ bits, readFloat format value.toList = .ok bits) ↔ _ := exists_readFloat_iff
    rw [readFloatBits_of_not_special special, text, ← number]
    cases known : value.toList.all isFloatCharacter with
    | false =>
      have other : ¬ ∃ bits, readFloat format value.toList = .ok bits := fun read => by
        rw [isFloatCharacter_of_mem_floatNumber (exists_readFloat_iff.mp read)] at known
        exact nomatch known
      exact .inr (.inr ⟨other, rfl, rfl⟩)
    | true =>
      cases read : readFloat format value.toList with
      | ok bits => exact .inl ⟨⟨bits, rfl⟩, bits, rfl⟩
      | error fault => exact .inr (.inl ⟨nofun, rfl, fault, rfl⟩)

theorem acceptsFloats_readFloatBits (format : FloatFormat) :
    AcceptsFloats (readFloatBits format) where
  accepts value := by
    obtain ⟨text, read⟩ | ⟨refused, -, fault, read⟩ | ⟨refused, -, read⟩ :=
      readFloatBits_cases format value
    · exact iff_of_true read text
    · exact iff_of_false (by simp [read]) refused
    · exact iff_of_false (by simp [read]) refused
  word value := by
    have other : (∃ c ∈ value.toList, c ∉ "0123456789+-.eE".toList) ↔
        value.toList.all isFloatCharacter = false := by
      simp only [List.all_eq_false, isFloatCharacter_iff]
    rw [other]
    obtain ⟨text, bits, read⟩ | ⟨-, known, fault, read⟩ | ⟨refused, unknown, read⟩ :=
      readFloatBits_cases format value
    · exact iff_of_false (by simp [read]) fun both => both.1 text
    · exact iff_of_false (by simp [read]) fun both => by simp [known] at both
    · exact iff_of_true read ⟨refused, unknown⟩
  malformed value := by
    have characters : (∀ c ∈ value.toList, c ∈ "0123456789+-.eE".toList) ↔
        value.toList.all isFloatCharacter = true := by
      simp only [List.all_eq_true, isFloatCharacter_iff]
    rw [characters]
    obtain ⟨text, bits, read⟩ | ⟨refused, known, read⟩ | ⟨-, unknown, read⟩ :=
      readFloatBits_cases format value
    · exact iff_of_false (by simp [read]) fun both => both.1 text
    · exact iff_of_true read ⟨refused, known⟩
    · exact iff_of_false (by simp [read]) fun both => by simp [unknown] at both

theorem AcceptsFloats.map {α β : Type} {read : String → Except LiteralFault α}
    (accepts : AcceptsFloats read) (f : α → β) : AcceptsFloats fun value => (read value).map f where
  accepts value := by
    rw [← accepts.accepts value]
    simp only [map_eq_ok_iff]
    exact ⟨fun ⟨_, result, ok, _⟩ => ⟨result, ok⟩, fun ⟨result, ok⟩ => ⟨_, result, ok, rfl⟩⟩
  word value := by
    rw [map_eq_error_iff]
    exact accepts.word value
  malformed value := by
    simp only [map_eq_error_iff]
    exact accepts.malformed value

/-- **Floating-point numbers are accepted exactly as they may be written.** A field of either format
takes the texts of the lexical space and no others; a text with a character that occurs in no number
is refused as a word, and any other one as a malformed number. -/
theorem floats_accepted : AcceptsFloats readSingle ∧ AcceptsFloats readDouble :=
  ⟨(acceptsFloats_readFloatBits .single).map UInt32.ofNat,
    (acceptsFloats_readFloatBits .double).map UInt64.ofNat⟩

end SchemaBinding
