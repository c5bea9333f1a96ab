/-
**What Pascal case keeps of a name, and what it loses.**

The parts of a name are the runs of characters between separators (`nameParts`). Pascal case raises
the first character of every part and writes the parts one after another (`pascalCase_eq`). Which
separators stood between them, where, and whether a first character was a capital before, is lost,
and nothing else is: two names with the same letters in this sense are spelled alike.
-/

import SchemaBinding.Naming.PascalCase

namespace SchemaBinding

/-! ### Parts -/

/-- **The parts of a name**, between separators. -/
def nameParts (name : String) : List (List Char) := name.toList.splitOnP isNameSeparator

/-- A part, with a capital at its beginning if there is one for its first character. -/
def capitalized : List Char → List Char
  | [] => []
  | c :: rest => c.toUpper :: rest

/-- The characters in Pascal case, part by part; only the first part may have begun before. -/
theorem pascalChars_eq (begins : Bool) (name : List Char) :
    ∃ first rest, name.splitOnP isNameSeparator = first :: rest ∧
      pascalChars begins name =
        (if begins then capitalized first else first) ++ rest.flatMap capitalized := by
  -- A separator ends the first part, so what follows it begins a part whatever the flag was.
  induction name generalizing begins with
  | nil => exact ⟨[], [], rfl, by cases begins <;> rfl⟩
  | cons c name ih =>
    rw [List.splitOnP_cons_eq_if_modifyHead, pascalChars]
    by_cases separates : isNameSeparator c = true
    · obtain ⟨first, rest, split, chars⟩ := ih true
      rw [if_pos separates, if_pos separates, chars]
      refine ⟨[], name.splitOnP isNameSeparator, rfl, ?_⟩
      rw [split]
      cases begins <;> rfl
    · obtain ⟨first, rest, split, chars⟩ := ih false
      rw [if_neg separates, if_neg separates, split, chars]
      refine ⟨c :: first, rest, rfl, ?_⟩
      cases begins <;> rfl

/-- **A name in Pascal case is its parts**, each with a capital at its beginning. -/
theorem pascalCase_eq (name : String) :
    pascalCase name = String.ofList ((nameParts name).flatMap capitalized) := by
  obtain ⟨first, rest, split, chars⟩ := pascalChars_eq true name.toList
  unfold pascalCase nameParts
  rw [chars, split]
  rfl

/-- **Two names are spelled alike** if they have the same characters in the same order, but for
separators and for the case of the characters that parts begin with. -/
def SpelledAlike (first second : String) : Prop :=
  (nameParts first).flatMap capitalized = (nameParts second).flatMap capitalized

/-- Names have the same Pascal case if and only if they are spelled alike. -/
theorem pascalCase_eq_iff {first second : String} :
    pascalCase first = pascalCase second ↔ SpelledAlike first second := by
  rw [pascalCase_eq, pascalCase_eq, String.ofList_inj]
  rfl

/-! ### Characters that are no letters -/

/-- Only a small letter is changed by raising it, and into a capital. -/
theorem toUpper_eq_iff {c d : Char} (plain : d.isUpper = false) (low : d.toUpper = d) :
    c.toUpper = d ↔ c = d := by
  constructor
  · intro raised
    rcases toUpper_eq_self_or_isUpper c with same | capital
    · exact same.symm.trans raised
    · rw [raised, plain] at capital
      exact absurd capital Bool.false_ne_true
  · rintro rfl
    exact low

/-- **Pascal case keeps every character** that is neither a letter nor a separator. -/
theorem mem_pascalCase_iff {name : String} {c : Char} (inside : isNameSeparator c = false)
    (plain : c.isUpper = false) (low : c.toUpper = c) :
    c ∈ (pascalCase name).toList ↔ c ∈ name.toList := by
  have chars : ∀ begins (text : List Char), c ∈ pascalChars begins text ↔ c ∈ text := by
    intro begins text
    induction text generalizing begins with
    | nil => rfl
    | cons d text ih =>
      rw [pascalChars]
      by_cases separates : isNameSeparator d = true
      · have other : c ≠ d := by
          rintro rfl
          exact Bool.false_ne_true (inside.symm.trans separates)
        rw [if_pos separates, ih, List.mem_cons]
        exact (or_iff_right other).symm
      · rw [if_neg separates, List.mem_cons, List.mem_cons, ih]
        cases begins with
        | false => rfl
        | true => rw [if_pos rfl, eq_comm, toUpper_eq_iff plain low, eq_comm]
  unfold pascalCase
  rw [String.toList_ofList]
  exact chars true name.toList

end SchemaBinding
