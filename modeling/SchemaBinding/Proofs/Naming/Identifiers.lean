/-
**Derived names are identifiers.**

The name of a module is one whatever the namespace is (`isIdentifier_packageName`), and the name of
a field if there is an ASCII letter or digit in the name of its component
(`isIdentifier_fieldName_iff`), also with a number behind it (`isIdentifier_freshName`). Without such
a character the name of a field is empty.

Keywords are what may go wrong. None of them has an underscore, so a name with one is no keyword,
nor is a keyword with an underscore behind it.
-/

import SchemaBinding.Proofs.Naming.FreshNames
import SchemaBinding.Proofs.Naming.SnakeCase

namespace SchemaBinding

/-! ### ASCII identifiers -/

theorem startsIdentifier_of_isAlpha {c : Char} (letter : c.isAlpha = true) :
    startsIdentifier c = true := by
  have plain : c.isAlphanum = true := isAlphanum_iff.mpr (.inl (isAlpha_iff.mp letter))
  rw [startsIdentifier, isAlphabetic_of_ascii (ascii_of_isAlphanum plain), letter, Bool.or_true]

theorem continuesIdentifier_of_isAlphanum {c : Char} (plain : c.isAlphanum = true) :
    continuesIdentifier c = true := by
  have ascii := ascii_of_isAlphanum plain
  rw [continuesIdentifier, isAlphabetic_of_ascii ascii, isNumeric_of_ascii ascii, Bool.or_assoc]
  exact Bool.or_eq_true_iff.mpr (.inr plain)

theorem continuesIdentifier_of_small {c : Char} (small : c = '_' ∨ isSmallAlphanum c = true) :
    continuesIdentifier c = true := by
  rcases small with rfl | small
  · rfl
  · exact continuesIdentifier_of_isAlphanum (isAlphanum_of_isSmallAlphanum small)

/-- Every character of an identifier can stand behind its beginning. -/
theorem continues_of_isIdentifier {name : String} (valid : isIdentifier name = true) :
    ∀ c ∈ name.toList, continuesIdentifier c = true := by
  have form := (isIdentifier_iff.mp valid).1
  cases chars : name.toList with
  | nil => exact fun c member => absurd member List.not_mem_nil
  | cons first rest =>
    rw [chars, hasIdentifierForm, Bool.and_eq_true, List.all_eq_true] at form
    refine List.forall_mem_cons.mpr ⟨?_, form.2⟩
    exact Bool.or_eq_true_iff.mpr (.inl form.1)

theorem notMem_of_isIdentifier {name : String} {c : Char} (valid : isIdentifier name = true)
    (outside : continuesIdentifier c = false) : c ∉ name.toList :=
  fun member => Bool.eq_false_iff.mp outside (continues_of_isIdentifier valid c member)

theorem isAlphanum_of_mem_toString {number : Nat} {c : Char}
    (member : c ∈ (toString number).toList) : c.isAlphanum = true := by
  rw [Nat.toString_eq_ofList_toDigits, String.toList_ofList] at member
  have digit : c.isDigit = true := Nat.isDigit_of_mem_toDigits (by omega) (Nat.le_refl _) member
  exact isAlphanum_iff.mpr (.inr digit)

/-- Only the underscore alone begins with an underscore and goes on with nothing. -/
theorem ne_underscore {name : String} {c : Char} {rest : List Char}
    (chars : name.toList = c :: rest) (more : c.isAlpha = true ∨ rest ≠ []) : name ≠ "_" := by
  rintro rfl
  obtain ⟨rfl, rfl⟩ := List.cons.inj chars
  rcases more with letter | nonempty
  · exact absurd letter (by decide)
  · exact nonempty rfl

/-! ### Underscores behind a name -/

theorem underscore_notMem_keyword : ∀ word ∈ keywords, '_' ∉ word.toList := by decide

/-- **What has the form of an identifier is one with an underscore behind it**, whatever stands
behind that. -/
theorem isIdentifier_append {name suffix : String} (form : hasIdentifierForm name.toList = true)
    (continues : ∀ c ∈ suffix.toList, continuesIdentifier c = true)
    (underscore : '_' ∈ suffix.toList) : isIdentifier (name ++ suffix) = true := by
  have inside : '_' ∈ (name ++ suffix).toList := by
    rw [String.toList_append]
    exact List.mem_append_right _ underscore
  cases chars : name.toList with
  | nil =>
    rw [chars] at form
    exact absurd form Bool.false_ne_true
  | cons c rest =>
    rw [chars, hasIdentifierForm, Bool.and_eq_true, List.all_eq_true] at form
    have whole : (name ++ suffix).toList = c :: (rest ++ suffix.toList) := by
      rw [String.toList_append, chars]
      rfl
    refine isIdentifier_iff.mpr ⟨?_, ?_, ?_, ?_⟩
    · rw [whole, hasIdentifierForm, Bool.and_eq_true, List.all_append, Bool.and_eq_true,
        List.all_eq_true, List.all_eq_true]
      exact ⟨form.1, form.2, continues⟩
    · refine ne_underscore whole (.inr fun nothing => ?_)
      rw [(List.append_eq_nil_iff.mp nothing).2] at underscore
      exact absurd underscore List.not_mem_nil
    · intro self
      rw [self] at inside
      exact absurd inside (by decide)
    · exact fun reserved => underscore_notMem_keyword _ reserved inside

/-- **A name that is an identifier stays one when it gets a number.** -/
theorem isIdentifier_freshName {base : String} (valid : isIdentifier base = true)
    (taken : List String) : isIdentifier (freshName taken base) = true := by
  by_cases occupied : base ∈ taken
  · obtain ⟨number, -, named⟩ := freshName_of_mem occupied
    rw [named, String.append_assoc]
    refine isIdentifier_append (isIdentifier_iff.mp valid).1 ?_ ?_
    · intro c member
      rw [String.toList_append, List.mem_append] at member
      rcases member with first | later
      · exact continuesIdentifier_of_small (.inl (List.mem_singleton.mp first))
      · exact continuesIdentifier_of_isAlphanum (isAlphanum_of_mem_toString later)
    · rw [String.toList_append]
      exact List.mem_append_left _ List.mem_cons_self
  · rwa [freshName_of_notMem occupied]

/-- A name of small letters, digits and underscores is an identifier once it is no keyword. -/
theorem isIdentifier_escapeKeyword {name : String} {c : Char} {rest : List Char}
    (chars : name.toList = c :: rest) (starts : startsIdentifier c = true)
    (small : ∀ d ∈ name.toList, d = '_' ∨ isSmallAlphanum d = true) (long : name ≠ "_") :
    isIdentifier (escapeKeyword name) = true := by
  have form : hasIdentifierForm name.toList = true := by
    rw [chars, hasIdentifierForm, Bool.and_eq_true, List.all_eq_true]
    refine ⟨starts, fun d member => continuesIdentifier_of_small (small d ?_)⟩
    rw [chars]
    exact List.mem_cons_of_mem _ member
  unfold escapeKeyword
  by_cases reserved : keywords.contains name = true
  · rw [if_pos reserved]
    exact isIdentifier_append form (List.all_eq_true.mp rfl) List.mem_cons_self
  · rw [if_neg reserved]
    refine isIdentifier_iff.mpr ⟨form, long, ?_, fun member => reserved ?_⟩
    · rintro rfl
      exact absurd (small 'S' (by decide)) (by decide)
    · exact List.contains_iff_mem.mpr member

/-! ### Fields and modules -/

theorem snakeCase_small {name : String} :
    ∀ d ∈ (snakeCase name).toList, d = '_' ∨ isSmallAlphanum d = true := by
  intro d member
  rw [toList_snakeCase] at member
  exact snakeChars_small member

/-- A component without a single ASCII letter or digit in its name. -/
def Nameless (schemaName : String) : Prop := ∀ c ∈ schemaName.toList, c.isAlphanum = false

instance : DecidablePred Nameless := fun schemaName =>
  decidable_of_iff (schemaName.toList.all (fun c => !c.isAlphanum) = true) (by simp [Nameless])

theorem not_nameless_iff {schemaName : String} :
    ¬ Nameless schemaName ↔ ∃ c ∈ schemaName.toList, c.isAlphanum = true := by
  simp only [Nameless, Classical.not_forall, Bool.not_eq_false, exists_prop]

/-- A nameless component gives its field an empty name. -/
theorem fieldName_eq_empty {schemaName : String} (nameless : Nameless schemaName) :
    fieldName schemaName = "" := by
  have nothing : snakeCase schemaName = "" := by
    rw [snakeCase, snakeChars_eq_nil nameless]
  rw [fieldName, nothing]
  rfl

theorem isIdentifier_fieldName {schemaName : String} (named : ¬ Nameless schemaName) :
    isIdentifier (fieldName schemaName) = true := by
  obtain ⟨c, rest, snake, small⟩ := exists_snakeChars_cons (not_nameless_iff.mp named)
  have chars : (snakeCase schemaName).toList = c :: rest := by
    rw [toList_snakeCase, snake]
  dsimp only [fieldName]
  rw [chars]
  by_cases digit : c.isDigit = true
  · have prefixed : ("_" ++ snakeCase schemaName).toList = '_' :: c :: rest := by
      rw [String.toList_append, chars]
      rfl
    simp only [List.head?_cons, Option.any_some, digit, if_true]
    have long : "_" ++ snakeCase schemaName ≠ "_" :=
      ne_underscore prefixed (.inr (List.cons_ne_nil c rest))
    refine isIdentifier_escapeKeyword prefixed rfl ?_ long
    rw [prefixed, ← chars]
    exact List.forall_mem_cons.mpr ⟨.inl rfl, snakeCase_small⟩
  · have letter : c.isAlpha = true :=
      isAlpha_iff.mpr (.inr ((Bool.or_eq_true_iff.mp small).resolve_right digit))
    simp only [List.head?_cons, Option.any_some, digit, if_false, Bool.false_eq_true]
    exact isIdentifier_escapeKeyword chars (startsIdentifier_of_isAlpha letter) snakeCase_small
      (ne_underscore chars (.inl letter))

/-- **The name of a field is an identifier if and only if there is an ASCII letter or digit in the
name of its component.** -/
theorem isIdentifier_fieldName_iff {schemaName : String} :
    isIdentifier (fieldName schemaName) = true ↔ ¬ Nameless schemaName := by
  constructor
  · intro valid nameless
    rw [fieldName_eq_empty nameless] at valid
    exact absurd valid (by decide)
  · exact isIdentifier_fieldName

/-- **The name of a module is an identifier.** -/
theorem isIdentifier_packageName (targetNamespace : Option String) :
    isIdentifier (packageName targetNamespace) = true := by
  have default : isIdentifier defaultPackage = true := by decide
  cases targetNamespace with
  | none => exact default
  | some name =>
    dsimp only [packageName]
    cases chars : (snakeCase (lastSegment name)).toList with
    | nil => exact default
    | cons c rest =>
      rw [List.head?_cons, Option.any_some]
      by_cases letter : c.isAlpha = true
      · rw [if_pos letter]
        exact isIdentifier_escapeKeyword chars (startsIdentifier_of_isAlpha letter)
          snakeCase_small (ne_underscore chars (.inl letter))
      · rw [if_neg letter]
        exact default

end SchemaBinding
