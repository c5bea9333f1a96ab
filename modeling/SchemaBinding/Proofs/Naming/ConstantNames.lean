/-
**The names of constants.**

A value asks for its own name in Pascal case (`constantCase`). A constant gets this name if it is an
identifier and no constant before it has it. Otherwise it gets `Value` and the first number, from its
position on, that gives a free name (`constantNameAfter_eq`).

Both kinds of names come from one stock, so a numbered name may be what a later value asks for, or
what an earlier one was given. That does no harm, because every name is chosen among those that no
constant before it has. What is kept from one constant to the next is that all names so far differ
and are chosen in this way (`WellNamed`).

`constants_ofLexicals`: the constants of an enumeration stand for its values in order, under names
that differ, consist of ASCII letters and digits behind a capital, and are identifiers.
-/

import SchemaBinding.Proofs.Naming.Identifiers

namespace SchemaBinding

/-! ### Letters and digits behind a capital -/

/-- **The form of the names of constants**: ASCII letters and digits, of which the first is a
capital. -/
def HasConstantForm (name : String) : Prop :=
  ∃ first rest, name.toList = first :: rest ∧ first.isUpper = true ∧
    ∀ c ∈ rest, c.isAlphanum = true

theorem capital_notMem_keyword :
    ∀ word ∈ keywords, word.toList.head?.any Char.isUpper = false := by decide

/-- A name of this form is an identifier, unless it is `Self`. -/
theorem HasConstantForm.isIdentifier {name : String} (form : HasConstantForm name)
    (other : name ≠ "Self") : isIdentifier name = true := by
  obtain ⟨first, rest, chars, capital, plain⟩ := form
  have letter : first.isAlpha = true := isAlpha_iff.mpr (.inl capital)
  refine isIdentifier_iff.mpr ⟨?_, ne_underscore chars (.inl letter), other, ?_⟩
  · rw [chars, hasIdentifierForm, Bool.and_eq_true, List.all_eq_true]
    refine ⟨startsIdentifier_of_isAlpha letter, fun c member => ?_⟩
    exact continuesIdentifier_of_isAlphanum (plain c member)
  · intro reserved
    have small := capital_notMem_keyword name reserved
    rw [chars, List.head?_cons, Option.any_some, capital] at small
    exact absurd small.symm Bool.false_ne_true

theorem isAlphanum_toUpper {c : Char} (plain : c.isAlphanum = true) :
    c.toUpper.isAlphanum = true :=
  forall_ascii (fun c => c.isAlphanum = true → c.toUpper.isAlphanum = true)
    (by decide +kernel) (ascii_of_isAlphanum plain) plain

theorem isUpper_toUpper {c : Char} (plain : c.isAlphanum = true)
    (letter : c.toUpper.isDigit = false) : c.toUpper.isUpper = true :=
  forall_ascii
    (fun c => c.isAlphanum = true → c.toUpper.isDigit = false → c.toUpper.isUpper = true)
    (by decide +kernel) (ascii_of_isAlphanum plain) plain letter

/-- If nothing but separators stands between letters and digits, Pascal case has only these. -/
theorem isAlphanum_of_mem_pascalChars {begins : Bool} {name : List Char}
    (plain : ∀ c ∈ name, isNameSeparator c = true ∨ c.isAlphanum = true) :
    ∀ c ∈ pascalChars begins name, c.isAlphanum = true := by
  induction name generalizing begins with
  | nil => exact fun c member => absurd member List.not_mem_nil
  | cons d rest ih =>
    obtain ⟨first, later⟩ := List.forall_mem_cons.mp plain
    rw [pascalChars]
    split
    · exact ih later
    · rename_i letter
      have kept : d.isAlphanum = true := first.resolve_left letter
      refine List.forall_mem_cons.mpr ⟨?_, ih later⟩
      cases begins with
      | false => exact kept
      | true => exact isAlphanum_toUpper kept

/-- What stands first in Pascal case has been raised. -/
theorem exists_of_pascalChars_cons {name : List Char} {c : Char} {rest : List Char}
    (chars : pascalChars true name = c :: rest) :
    ∃ d ∈ name, isNameSeparator d = false ∧ d.toUpper = c := by
  induction name with
  | nil => exact nomatch chars
  | cons d name ih =>
    rw [pascalChars] at chars
    split at chars
    · obtain ⟨e, member, letter, raised⟩ := ih chars
      exact ⟨e, List.mem_cons_of_mem _ member, letter, raised⟩
    · rename_i letter
      exact ⟨d, List.mem_cons_self, Bool.eq_false_iff.mpr letter, (List.cons.inj chars).1⟩

/-- A name in Pascal case whose parts are letters and digits has the form of a constant, unless it
is empty or begins with a digit. -/
theorem hasConstantForm_pascalCase {name : String}
    (plain : ∀ c ∈ name.toList, isNameSeparator c = true ∨ c.isAlphanum = true)
    (nonempty : pascalCase name ≠ "")
    (letter : (pascalCase name).toList.head?.any Char.isDigit = false) :
    HasConstantForm (pascalCase name) := by
  have inside : ∀ c ∈ pascalChars true name.toList, c.isAlphanum = true :=
    isAlphanum_of_mem_pascalChars plain
  unfold pascalCase at nonempty letter ⊢
  cases chars : pascalChars true name.toList with
  | nil => exact absurd (congrArg String.ofList chars) nonempty
  | cons c rest =>
    obtain ⟨d, member, kept, rfl⟩ := exists_of_pascalChars_cons chars
    have original : d.isAlphanum = true :=
      (plain d member).resolve_left (Bool.eq_false_iff.mp kept)
    rw [chars, String.toList_ofList] at letter
    rw [chars] at inside
    exact ⟨_, rest, String.toList_ofList, isUpper_toUpper original letter,
      (List.forall_mem_cons.mp inside).2⟩

theorem hasConstantForm_numberedConstant (number : Nat) :
    HasConstantForm (numberedConstant number) := by
  have chars : (numberedConstant number).toList =
      'V' :: ("alue".toList ++ (toString number).toList) := by
    rw [numberedConstant, String.toList_append]
    rfl
  have letters : ∀ c ∈ "alue".toList, c.isAlphanum = true := List.all_eq_true.mp rfl
  refine ⟨'V', _, chars, by decide, fun c member => ?_⟩
  rcases List.mem_append.mp member with letter | digit
  · exact letters c letter
  · exact isAlphanum_of_mem_toString digit

theorem numberedConstant_injective : Function.Injective numberedConstant :=
  numbered_injective "Value"

theorem numberedConstant_ne_self (number : Nat) : numberedConstant number ≠ "Self" := by
  intro self
  have chars := congrArg String.toList self
  rw [numberedConstant, String.toList_append] at chars
  obtain ⟨different, -⟩ := List.cons.inj chars
  exact absurd different (by decide)

/-! ### The name that a value asks for -/

/-- A character in the name of a constant: all but ASCII letters and digits separate. -/
def constantChar (c : Char) : Char := if c.isAlphanum then c else '_'

/-- The characters that the name of a constant is made of, before they are put into Pascal case. -/
def constantBase (lexical : String) : List Char :=
  let cleaned := lexical.toList.map constantChar
  if cleaned.any Char.isLower then cleaned else cleaned.map Char.toLower

/-- **A value in Pascal case**, which is the name that its constant has if it can. -/
def constantCase (lexical : String) : String := pascalCase (String.ofList (constantBase lexical))

theorem constantChar_plain (c : Char) :
    constantChar c = '_' ∨ (constantChar c).isAlphanum = true := by
  unfold constantChar
  by_cases plain : c.isAlphanum = true
  · rw [if_pos plain]
    exact .inr plain
  · exact .inl (if_neg plain)

theorem constantBase_plain (lexical : String) :
    ∀ c ∈ constantBase lexical, isNameSeparator c = true ∨ c.isAlphanum = true := by
  dsimp only [constantBase]
  split
  · refine List.forall_mem_map.mpr fun c _ => ?_
    rcases constantChar_plain c with joint | plain
    · rw [joint]
      exact .inl (by decide)
    · exact .inr plain
  · refine List.forall_mem_map.mpr (List.forall_mem_map.mpr fun c _ => ?_)
    rcases constantChar_plain c with joint | plain
    · rw [joint]
      exact .inl (by decide)
    · exact .inr (isAlphanum_of_isSmallAlphanum (isSmallAlphanum_toLower plain))

theorem hasConstantForm_constantCase {lexical : String} (nonempty : constantCase lexical ≠ "")
    (letter : (constantCase lexical).toList.head?.any Char.isDigit = false) :
    HasConstantForm (constantCase lexical) := by
  refine hasConstantForm_pascalCase ?_ nonempty letter
  rw [String.toList_ofList]
  exact constantBase_plain lexical

/-- An identifier is not empty and does not begin with a digit. -/
theorem usable_of_isIdentifier {name : String} (valid : isIdentifier name = true) :
    name ≠ "" ∧ name.toList.head?.any Char.isDigit = false := by
  have form := (isIdentifier_iff.mp valid).1
  cases chars : name.toList with
  | nil =>
    rw [chars] at form
    exact absurd form Bool.false_ne_true
  | cons c rest =>
    rw [chars, hasIdentifierForm, Bool.and_eq_true] at form
    refine ⟨?_, ?_⟩
    · rintro rfl
      exact List.cons_ne_nil c rest chars.symm
    · rw [List.head?_cons, Option.any_some, Bool.eq_false_iff]
      intro digit
      have plain : c.isAlphanum = true := isAlphanum_iff.mpr (.inr digit)
      have continues : startsIdentifier c = false :=
        forall_ascii (fun c => c.isDigit = true → startsIdentifier c = false)
          (by decide +kernel) (ascii_of_isAlphanum plain) digit
      exact absurd form.1 (Bool.eq_false_iff.mp continues)

theorem hasConstantForm_of_isIdentifier {lexical : String}
    (valid : isIdentifier (constantCase lexical) = true) :
    HasConstantForm (constantCase lexical) :=
  hasConstantForm_constantCase (usable_of_isIdentifier valid).1 (usable_of_isIdentifier valid).2

/-- **A value yields the name that it asks for if that is an identifier**, and none otherwise. -/
theorem constantName?_eq (lexical : String) :
    constantName? lexical =
      if isIdentifier (constantCase lexical) = true then some (constantCase lexical) else none := by
  have yields : constantName? lexical =
      if (constantCase lexical).isEmpty || (constantCase lexical).toList.head?.any Char.isDigit ||
        constantCase lexical == "Self" then none else some (constantCase lexical) := rfl
  rw [yields]
  by_cases valid : isIdentifier (constantCase lexical) = true
  · obtain ⟨nonempty, letter⟩ := usable_of_isIdentifier valid
    have other : constantCase lexical ≠ "Self" := (isIdentifier_iff.mp valid).2.2.1
    rw [if_pos valid, if_neg]
    simp [nonempty, letter, other]
  · rw [if_neg valid, if_pos]
    by_contra usable
    simp only [Bool.or_eq_true, not_or, Bool.not_eq_true, beq_iff_eq] at usable
    obtain ⟨⟨nonempty, letter⟩, other⟩ := usable
    refine valid ((hasConstantForm_constantCase ?_ letter).isIdentifier other)
    intro nothing
    rw [nothing] at nonempty
    exact absurd nonempty (by decide)

/-! ### The name that a constant is given -/

/-- **A constant is named after its value if it can be**, and otherwise gets the first free number
from its position on. -/
theorem constantNameAfter_eq (taken : List String) (lexical : String) :
    constantNameAfter taken lexical =
      if isIdentifier (constantCase lexical) = true ∧ constantCase lexical ∉ taken then
        constantCase lexical
      else numberedConstant (firstFree numberedConstant taken (taken.length + 1)) := by
  unfold constantNameAfter
  rw [constantName?_eq]
  by_cases valid : isIdentifier (constantCase lexical) = true
  · by_cases occupied : constantCase lexical ∈ taken
    · simp [valid, occupied]
    · simp [valid, occupied]
  · simp [valid]

/-- A constant gets a name that no constant before it has. -/
theorem constantNameAfter_notMem (taken : List String) (lexical : String) :
    constantNameAfter taken lexical ∉ taken := by
  rw [constantNameAfter_eq]
  split
  · rename_i own
    exact own.2
  · exact firstFree_notMem numberedConstant_injective taken (taken.length + 1)

theorem hasConstantForm_constantNameAfter (taken : List String) (lexical : String) :
    HasConstantForm (constantNameAfter taken lexical) := by
  rw [constantNameAfter_eq]
  split
  · rename_i own
    exact hasConstantForm_of_isIdentifier own.1
  · exact hasConstantForm_numberedConstant _

/-- The name that a constant is given after others is an identifier. -/
theorem isIdentifier_constantNameAfter (taken : List String) (lexical : String) :
    isIdentifier (constantNameAfter taken lexical) = true := by
  rw [constantNameAfter_eq]
  split
  · rename_i own
    exact own.1
  · exact (hasConstantForm_numberedConstant _).isIdentifier (numberedConstant_ne_self _)

/-! ### The constants of an enumeration -/

/-- **Constants under different names, each named after those before it.** -/
structure WellNamed (constants : List EnumConstant) : Prop where
  distinct : (constants.map (·.name)).Nodup
  named : ∀ index constant, constants[index]? = some constant →
    constant.name = constantNameAfter ((constants.take index).map (·.name)) constant.lexical

theorem wellNamed_nil : WellNamed [] where
  distinct := List.nodup_nil
  named := fun _ _ absent => nomatch absent

theorem names_addConstant (constants : List EnumConstant) (lexical : String) :
    (addConstant constants lexical).map (·.name) =
      (constants.map (·.name)).concat (constantNameAfter (constants.map (·.name)) lexical) := by
  rw [addConstant, List.map_append, List.map_singleton, List.concat_eq_append]

theorem wellNamed_addConstant {constants : List EnumConstant} (well : WellNamed constants)
    (lexical : String) : WellNamed (addConstant constants lexical) where
  distinct := by
    rw [names_addConstant, List.nodup_concat]
    exact ⟨constantNameAfter_notMem _ lexical, well.distinct⟩
  named := by
    intro index constant at_index
    unfold addConstant at at_index ⊢
    rcases Nat.lt_or_ge index constants.length with earlier | last
    · rw [List.getElem?_append_left earlier] at at_index
      rw [List.take_append_of_le_length (Nat.le_of_lt earlier)]
      exact well.named index constant at_index
    · obtain rfl : index = constants.length := by
        have bound := (List.getElem?_eq_some_iff.mp at_index).1
        rw [List.length_append, List.length_singleton] at bound
        omega
      rw [List.getElem?_concat_length] at at_index
      rw [List.take_left', ← Option.some.inj at_index]
      rfl

theorem wellNamed_foldl {constants : List EnumConstant} (well : WellNamed constants)
    (lexicals : List String) : WellNamed (lexicals.foldl addConstant constants) := by
  induction lexicals generalizing constants with
  | nil => exact well
  | cons lexical rest ih => exact ih (wellNamed_addConstant well lexical)

theorem wellNamed_ofLexicals (schemaName : String) (lexicals : List String) :
    WellNamed (Enumeration.ofLexicals schemaName lexicals).constants :=
  wellNamed_foldl wellNamed_nil lexicals

section

variable {schemaName : String} {lexicals : List String} {constant : EnumConstant}

/-- The name of a constant has been given to it after other names. -/
theorem exists_constantNameAfter
    (here : constant ∈ (Enumeration.ofLexicals schemaName lexicals).constants) :
    ∃ taken, constant.name = constantNameAfter taken constant.lexical := by
  obtain ⟨index, at_index⟩ := List.getElem?_of_mem here
  exact ⟨_, (wellNamed_ofLexicals schemaName lexicals).named index constant at_index⟩

/-- **The names of the constants of an enumeration are identifiers**, whatever its values are. -/
theorem isIdentifier_of_mem_constants
    (here : constant ∈ (Enumeration.ofLexicals schemaName lexicals).constants) :
    isIdentifier constant.name = true := by
  obtain ⟨taken, named⟩ := exists_constantNameAfter here
  rw [named]
  exact isIdentifier_constantNameAfter taken constant.lexical

theorem hasConstantForm_of_mem_constants
    (here : constant ∈ (Enumeration.ofLexicals schemaName lexicals).constants) :
    HasConstantForm constant.name := by
  obtain ⟨taken, named⟩ := exists_constantNameAfter here
  rw [named]
  exact hasConstantForm_constantNameAfter taken constant.lexical

end

/-- **The constants of an enumeration**, whatever its values are. They stand for the values in
order. Their names differ, consist of ASCII letters and digits behind a capital, and are identifiers.
A constant has the name that its value asks for, if that is an identifier and no constant before it
has it. Otherwise it has `Value` and the least number, from its position counted from one on, that
gives a name which no constant before it has; there always is one. -/
theorem constants_ofLexicals (schemaName : String) (lexicals : List String) :
    (Enumeration.ofLexicals schemaName lexicals).constants.map (·.lexical) = lexicals ∧
      let constants := (Enumeration.ofLexicals schemaName lexicals).constants
      (constants.map (·.name)).Nodup ∧
      (∀ constant ∈ constants,
        HasConstantForm constant.name ∧ isIdentifier constant.name = true) ∧
      ∀ index constant, constants[index]? = some constant →
        let own := constantCase constant.lexical
        let taken := (constants.take index).map (·.name)
        (isIdentifier own = true ∧ own ∉ taken → constant.name = own) ∧
          (¬ (isIdentifier own = true ∧ own ∉ taken) →
            ∃ number,
              IsLeast {number | index + 1 ≤ number ∧ numberedConstant number ∉ taken} number ∧
                constant.name = numberedConstant number) := by
  refine ⟨lexicals_ofLexicals schemaName lexicals, ?_⟩
  intro constants
  have well : WellNamed constants := wellNamed_ofLexicals schemaName lexicals
  refine ⟨well.distinct, fun constant here =>
    ⟨hasConstantForm_of_mem_constants here, isIdentifier_of_mem_constants here⟩, ?_⟩
  intro index constant at_index own taken
  have named : constant.name = constantNameAfter taken constant.lexical :=
    well.named index constant at_index
  have position : taken.length = index := by
    have bound := (List.getElem?_eq_some_iff.mp at_index).1
    rw [List.length_map, List.length_take, Nat.min_eq_left (Nat.le_of_lt bound)]
  rw [constantNameAfter_eq] at named
  constructor
  · intro free
    rw [named, if_pos free]
  · intro refused
    rw [if_neg refused, position] at named
    exact ⟨_, isLeast_firstFree numberedConstant_injective taken (index + 1), named⟩

/-- The values of a mode ask for two names twice, for the name of the type itself, and for none. -/
def modeLexicals : List String := ["value2", "-", "Value3", "self", "light blue"]

/-- The second value of a mode asks for no name and finds the one of its position taken, so that it
takes what the third value asks for. -/
theorem constants_ofLexicals_mode :
    let constants := (Enumeration.ofLexicals "mode" modeLexicals).constants
    constants.map (·.name) = ["Value2", "Value3", "Value4", "Value5", "LightBlue"] ∧
      ∃ dash, constants[1]? = some dash ∧ dash.lexical = "-" ∧
        ¬ (isIdentifier (constantCase "-") = true ∧
          constantCase "-" ∉ (constants.take 1).map (·.name)) ∧
        ∃ number,
          IsLeast {number | 1 + 1 ≤ number ∧
            numberedConstant number ∉ (constants.take 1).map (·.name)} number ∧
              dash.name = numberedConstant number := by
  intro constants
  have names : constants.map (·.name) = ["Value2", "Value3", "Value4", "Value5", "LightBlue"] := by
    decide +kernel
  have second : constants[1]? = some ⟨"Value3", "-"⟩ := by decide +kernel
  have unusable : isIdentifier (constantCase "-") = false := by decide +kernel
  have refused : ¬ (isIdentifier (constantCase "-") = true ∧
      constantCase "-" ∉ (constants.take 1).map (·.name)) := by
    rw [unusable]
    exact fun usable => Bool.false_ne_true usable.1
  refine ⟨names, _, second, rfl, refused, ?_⟩
  exact ((constants_ofLexicals "mode" modeLexicals).2.2.2 1 _ second).2 refused

end SchemaBinding
