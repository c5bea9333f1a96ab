/-
**Numbers are read back from their digits.**

Reading takes one digit after another and compares each prefix with the limit. The digits of a number
are those of the number without its last digit and one more, so the induction is on the number, and
no prefix exceeds a limit that the number itself respects (`readDigits_toDigits`). This holds in
every radix that has digits for it; counts are written in decimal.
-/

import SchemaBinding.Schema.Lexical

namespace SchemaBinding

section

variable {radix limit : Nat} {fault : IntegerFault}

theorem digitValue?_digitChar (few : radix ≤ 16) {digit : Nat} (small : digit < radix) :
    digitValue? radix digit.digitChar = some digit := by
  have all : ∀ (radix : Fin 17) (digit : Fin radix.val),
      digitValue? radix.val digit.val.digitChar = some digit.val := by decide +kernel
  exact all ⟨radix, Nat.lt_succ_of_le few⟩ ⟨digit, small⟩

/-- The digits of a number are digits of the radix. -/
theorem exists_of_mem_toDigits (two : 1 < radix) {number : Nat} {c : Char}
    (member : c ∈ Nat.toDigits radix number) : ∃ digit < radix, c = digit.digitChar := by
  induction number using Nat.strongRecOn with
  | ind number ih =>
    by_cases single : number < radix
    · rw [Nat.toDigits_of_lt_base single, List.mem_singleton] at member
      exact ⟨number, single, member⟩
    · have positive : 0 < number := by omega
      rw [Nat.toDigits_of_base_le two (Nat.not_lt.mp single), List.mem_append,
        List.mem_singleton] at member
      rcases member with before | last
      · exact ih (number / radix) (Nat.div_lt_self positive two) before
      · exact ⟨number % radix, Nat.mod_lt _ (by omega), last⟩

theorem readDigits_append (value : Nat) (first second : List Char) :
    readDigits radix limit fault value (first ++ second) =
      (readDigits radix limit fault value first).bind fun next =>
        readDigits radix limit fault next second := by
  induction first generalizing value with
  | nil => rfl
  | cons c rest ih =>
    rw [List.cons_append, readDigits, readDigits]
    cases digitValue? radix c with
    | none => rfl
    | some digit =>
      by_cases within : value * radix + digit ≤ limit
      · simp only [if_pos within]
        exact ih (value * radix + digit)
      · simp only [if_neg within]
        rfl

/-- **The digits of a number within the limit are read as the number.** -/
theorem readDigits_toDigits (two : 1 < radix) (few : radix ≤ 16) (number : Nat)
    (within : number ≤ limit) :
    readDigits radix limit fault 0 (Nat.toDigits radix number) = .ok number := by
  induction number using Nat.strongRecOn with
  | ind number ih =>
    by_cases single : number < radix
    · rw [Nat.toDigits_of_lt_base single, readDigits, digitValue?_digitChar few single]
      simp only [Nat.zero_mul, Nat.zero_add, if_pos within]
      rfl
    · have front : number / radix < number := Nat.div_lt_self (by omega) two
      have last : number % radix < radix := Nat.mod_lt _ (by omega)
      have joined : number / radix * radix + number % radix = number :=
        Nat.div_add_mod' number radix
      rw [Nat.toDigits_of_base_le two (Nat.not_lt.mp single), readDigits_append,
        ih (number / radix) front (Nat.le_trans (Nat.le_of_lt front) within)]
      simp only [Except.bind, readDigits, digitValue?_digitChar few last, joined, if_pos within]

end

/-- The text of a number begins with a digit, so it has no sign. -/
theorem toDigits_eq_cons (number : Nat) :
    ∃ c rest, Nat.toDigits 10 number = c :: rest ∧ c ≠ '+' := by
  have someDigit : Nat.toDigits 10 number ≠ [] := Nat.toDigits_ne_nil
  obtain ⟨c, rest, digits⟩ := List.exists_cons_of_ne_nil someDigit
  refine ⟨c, rest, digits, ?_⟩
  rintro rfl
  have member : '+' ∈ Nat.toDigits 10 number := by
    rw [digits]
    exact List.mem_cons_self
  exact absurd (Nat.isDigit_of_mem_toDigits (by decide) (by decide) member) (by decide)

/-- **A number within the limit is read back from its text.** -/
theorem readNatural_toString {number limit : Nat} (within : number ≤ limit) :
    readNatural 10 limit (toString number).toList = .ok number := by
  obtain ⟨c, rest, digits, unsigned⟩ := toDigits_eq_cons number
  have read : readDigits 10 limit .tooLarge 0 (Nat.toDigits 10 number) = .ok number :=
    readDigits_toDigits (by decide) (by decide) number within
  rw [Nat.toString_eq_repr, Nat.toList_repr]
  rw [digits] at read ⊢
  unfold readNatural
  split
  · rename_i empty
    exact nomatch empty
  · rename_i plus
    exact absurd (List.cons.inj plus).1 unsigned
  · exact read

def countText (count : UInt32) : String := toString count.toNat

def MaxOccurs.text : MaxOccurs → String
  | .bounded count => countText count
  | .unbounded => "unbounded"

theorem readCount?_countText (count : UInt32) : readCount? (countText count) = some count := by
  have within : count.toNat ≤ UInt32.size - 1 := Nat.le_sub_one_of_lt count.toNat_lt_size
  unfold readCount? countText
  rw [readNatural_toString within]
  simp only [UInt32.ofNat_toNat]

theorem MaxOccurs.read?_text (bound : MaxOccurs) : read? bound.text = some bound := by
  unfold read? text
  cases bound with
  | unbounded => rfl
  | bounded count =>
    have other : countText count ≠ "unbounded" := by
      intro same
      have read := readCount?_countText count
      have word : readCount? "unbounded" = none := by decide
      rw [same, word] at read
      exact nomatch read
    simp only [if_neg other, readCount?_countText, Option.map_some]

end SchemaBinding
