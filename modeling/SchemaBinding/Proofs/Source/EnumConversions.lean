/-
**The conversions of an enumeration, as their code is read.**

The code of an enumeration has two functions, and each is a match: `lexical` goes from a constant to
its value in the schema, `from_lexical` from a value to a constant. What they give is what their code
says. So the code is read line by line, the body of a function is looked up in it, and of its match
every arm is read, with its string literals decoded (`readLexical?`, `readFromLexical?`). A match
gives the result of its first arm that takes a value (`firstMatch`).

What is read are the two look-ups that one expects: for a constant the first one of its name, for a
value the first one that stands for it (`readLexical?_lines`, `readFromLexical?_lines`). The rest
follows from the names of constants, which always differ, and from the values, if these differ.

`conversions_inverse`: the conversions undo each other, and `from_lexical` finds the constant that a
fixed value is initialized with.
-/

import SchemaBinding.Proofs.Keyed
import SchemaBinding.Proofs.Naming.ConstantNames
import SchemaBinding.Proofs.Source.LineBreaks
import SchemaBinding.Proofs.Text.StringLiteral

namespace SchemaBinding

/-! ### Reading matches -/

/-- A reader of code: what it reads at the beginning of a text, and what follows that. -/
abbrev Reader (α : Type) : Type := List Char → Option (α × List Char)

/-- One arm of a match. Without a pattern it takes every value. -/
structure MatchArm (α β : Type) where
  pattern : Option α
  result : β

section

variable {α β : Type}

/-- **What a match gives for a value**: the result of its first arm that takes the value. -/
def firstMatch [BEq α] (arms : List (MatchArm α β)) (value : α) : Option β :=
  (arms.find? fun arm => arm.pattern.all (· == value)).map (·.result)

/-- Reads a constant of the enumeration that the code is about. -/
def readConstant? : Reader String := fun text => do
  let rest ← text.dropPrefix? "Self::".toList
  return (String.ofList (rest.takeWhile continuesIdentifier), rest.dropWhile continuesIdentifier)

/-- Reads an optional value. -/
def readOptional? (read : Reader α) : Reader (Option α) := fun text =>
  match text.dropPrefix? "None".toList with
  | some rest => some (none, rest)
  | none => do
    let rest ← text.dropPrefix? "Some(".toList
    let (value, rest) ← read rest
    let rest ← rest.dropPrefix? ")".toList
    return (some value, rest)

/-- Reads a pattern, which may be the one without a value. -/
def readPattern? (read : Reader α) : Reader (Option α) := fun text =>
  match text.dropPrefix? "_".toList with
  | some rest => some (none, rest)
  | none => do
    let (value, rest) ← read text
    return (some value, rest)

/-- **Reads an arm of a match**, from a line of its own. -/
def readArm? (pattern : Reader α) (result : Reader β) (line : String) :
    Option (MatchArm α β) := do
  let (pattern, rest) ← readPattern? pattern line.toList
  let rest ← rest.dropPrefix? " => ".toList
  let (result, rest) ← result rest
  if rest = [','] then some { pattern, result } else none

end

/-- The arms of the match that a function of a type consists of, as lines of the code. -/
def armLines (typeName function head code : String) : Lines :=
  (((sourceLines code).body ("impl " ++ typeName)).body function).body head

/-- **What the function `lexical` gives for a constant**, as the code is read. -/
def readLexical? (typeName code constant : String) : Option String := do
  let arms ← (armLines typeName "pub const fn lexical(&self) -> &'static str" "match self"
    code).mapM (readArm? readConstant? readLiteral?)
  firstMatch arms constant

/-- **What the function `from_lexical` gives for a value**, as the code is read. -/
def readFromLexical? (typeName code value : String) : Option (Option String) := do
  let arms ← (armLines typeName "pub fn from_lexical(value: &str) -> Option<Self>" "match value"
    code).mapM (readArm? readLiteral? (readOptional? readConstant?))
  firstMatch arms value

/-! ### Arms -/

/-- A constant is read up to the first character that no identifier goes on with. -/
theorem readConstant?_append {name : String}
    (continues : ∀ c ∈ name.toList, continuesIdentifier c = true) {c : Char}
    (ends : continuesIdentifier c = false) (rest : List Char) :
    readConstant? ("Self::".toList ++ (name.toList ++ c :: rest)) = some (name, c :: rest) := by
  obtain ⟨front, behind⟩ := cut_name continues ends rest
  unfold readConstant?
  rw [dropPrefix?_append]
  simp only [Option.bind_eq_bind, Option.bind_some, front, behind, String.ofList_toList]
  rfl

/-- An arm of `lexical`: a constant, and the value that it stands for. -/
theorem readArm?_lexical {name : String}
    (continues : ∀ c ∈ name.toList, continuesIdentifier c = true) (value : String) :
    readArm? readConstant? readLiteral? ("Self::" ++ name ++ " => " ++ sourceLiteral value ++ ",") =
      some ⟨some name, value⟩ := by
  let literal := (sourceLiteral value).toList ++ [',']
  have chars : ("Self::" ++ name ++ " => " ++ sourceLiteral value ++ ",").toList =
      "Self::".toList ++ (name.toList ++ ' ' :: ("=> ".toList ++ literal)) := by
    simp [String.toList_append, literal]
  have pattern : readPattern? readConstant?
      ("Self::".toList ++ (name.toList ++ ' ' :: ("=> ".toList ++ literal))) =
        some (some name, " => ".toList ++ literal) := by
    unfold readPattern?
    rw [readConstant?_append continues (by decide)]
    rfl
  unfold readArm?
  rw [chars, pattern]
  simp only [Option.bind_eq_bind, Option.bind_some, dropPrefix?_append]
  rw [show literal = (quoted .careful value).toList ++ [','] from rfl, readLiteral?_quoted]
  rfl

/-- An arm of `from_lexical`: a value, and the constant that stands for it. -/
theorem readArm?_fromLexical {name : String}
    (continues : ∀ c ∈ name.toList, continuesIdentifier c = true) (value : String) :
    readArm? readLiteral? (readOptional? readConstant?)
        (sourceLiteral value ++ " => Some(Self::" ++ name ++ "),") =
      some ⟨some value, some name⟩ := by
  let result := "Self::".toList ++ (name.toList ++ ')' :: [','])
  have chars : (sourceLiteral value ++ " => Some(Self::" ++ name ++ "),").toList =
      (quoted .careful value).toList ++ (" => ".toList ++ ("Some(".toList ++ result)) := by
    simp [String.toList_append, sourceLiteral, result]
  have pattern (rest : List Char) : readPattern? readLiteral?
      ((quoted .careful value).toList ++ rest) = some (some value, rest) := by
    have quote : ((quoted .careful value).toList ++ rest).dropPrefix? "_".toList = none := by
      rw [quoted, String.toList_ofList]
      rfl
    unfold readPattern?
    rw [quote, readLiteral?_quoted]
    rfl
  have optional : readOptional? readConstant? ("Some(".toList ++ result) =
      some (some name, [',']) := by
    have present : ("Some(".toList ++ result).dropPrefix? "None".toList = none := rfl
    unfold readOptional?
    rw [present, dropPrefix?_append]
    simp only [Option.bind_eq_bind, Option.bind_some, result]
    rw [readConstant?_append continues (by decide)]
    rfl
  unfold readArm?
  rw [chars, pattern]
  simp only [Option.bind_eq_bind, Option.bind_some, dropPrefix?_append, optional]
  rfl

/-! ### The code of an enumeration -/

section

variable {schemaName : String} {lexicals : List String}

/-- All names that the code of an enumeration declares are identifiers, once its own name is. -/
theorem declaredNames_ofLexicals (valid : isIdentifier (pascalCase schemaName) = true) :
    ∀ name ∈ (Enumeration.ofLexicals schemaName lexicals).declaredNames,
      isIdentifier name = true :=
  List.forall_mem_cons.mpr ⟨valid, List.forall_mem_map.mpr fun _ here =>
    isIdentifier_of_mem_constants here⟩

theorem lineBreak_notMem_constantLines {names : List String}
    (valid : ∀ name ∈ names, isIdentifier name = true) :
    ∀ line ∈ Enumeration.constantLines names, '\n' ∉ line.toList := by
  have whole : ∀ name ∈ names, '\n' ∉ (name ++ ",").toList := by
    intro name member
    rw [lineBreak_mem_append, not_or]
    exact ⟨lineBreak_notMem_of_isIdentifier (valid name member), by decide⟩
  cases names with
  | nil => exact fun _ absent => absurd absent List.not_mem_nil
  | cons first rest =>
    obtain ⟨head, tail⟩ := List.forall_mem_cons.mp whole
    exact List.forall_mem_cons.mpr
      ⟨by decide, List.forall_mem_cons.mpr ⟨head, List.forall_mem_map.mpr tail⟩⟩

theorem lineBreak_notMem_conversionLines {constants : List EnumConstant}
    (valid : ∀ constant ∈ constants, isIdentifier constant.name = true) :
    ∀ line ∈ Enumeration.conversionLines constants, '\n' ∉ line.toList := by
  have literal (value : String) : '\n' ∉ (sourceLiteral value).toList :=
    lineBreak_notMem_quoted .careful value
  have lexicalArms : ∀ line ∈ Enumeration.lexicalArms constants, '\n' ∉ line.toList := by
    refine List.forall_mem_map.mpr fun constant here => ?_
    simp only [lineBreak_mem_append, not_or]
    exact ⟨⟨⟨⟨by decide, lineBreak_notMem_of_isIdentifier (valid constant here)⟩, by decide⟩,
      literal constant.lexical⟩, by decide⟩
  have fromLexicalArms : ∀ line ∈ Enumeration.fromLexicalArms constants ++ ["_ => None,"],
      '\n' ∉ line.toList := by
    refine List.forall_mem_append.mpr ⟨List.forall_mem_map.mpr fun constant here => ?_, by decide⟩
    simp only [lineBreak_mem_append, not_or]
    exact ⟨⟨⟨literal constant.lexical, by decide⟩,
      lineBreak_notMem_of_isIdentifier (valid constant here)⟩, by decide⟩
  unfold Enumeration.conversionLines
  simp only [List.forall_mem_append]
  exact ⟨⟨⟨by decide, Lines.lineBreak_notMem_block (by decide)
    (Lines.lineBreak_notMem_block (by decide) lexicalArms)⟩, by decide⟩,
    Lines.lineBreak_notMem_block (by decide)
      (Lines.lineBreak_notMem_block (by decide) fromLexicalArms)⟩

/-- **The code of an enumeration is read line by line as it is written.** -/
theorem sourceLines_enumeration (valid : isIdentifier (pascalCase schemaName) = true) :
    let enumeration := Enumeration.ofLexicals schemaName lexicals
    sourceLines (Lines.text enumeration.lines) = enumeration.lines := by
  intro enumeration
  have name : '\n' ∉ enumeration.name.toList := lineBreak_notMem_of_isIdentifier valid
  -- The name of the component is written as it is; all its line breaks stand in the name checked.
  have component : '\n' ∉ schemaName.toList := fun broken =>
    name (lineBreak_mem_pascalCase_iff.mpr broken)
  have constants : ∀ constant ∈ enumeration.constants, isIdentifier constant.name = true :=
    fun _ here => isIdentifier_of_mem_constants here
  have opening (word : String) (plain : '\n' ∉ word.toList) :
      '\n' ∉ (word ++ enumeration.name).toList := by
    rw [lineBreak_mem_append, not_or]
    exact ⟨plain, name⟩
  have comment : '\n' ∉ ("/// Generated from simple type `" ++ schemaName ++ "`.").toList := by
    rwa [lineBreak_mem_between (by decide) (by decide)]
  rw [sourceLines_text]
  refine flatMap_linesOf_of_whole ?_
  unfold Enumeration.lines
  simp only [List.forall_mem_append, List.forall_mem_singleton]
  refine ⟨⟨⟨⟨List.forall_mem_cons.mpr ⟨comment, by decide⟩, ?_⟩, by decide⟩, ?_⟩, by decide⟩
  · exact Lines.lineBreak_notMem_block (opening _ (by decide))
      (lineBreak_notMem_constantLines (List.forall_mem_map.mpr constants))
  · exact Lines.lineBreak_notMem_block (opening _ (by decide))
      (lineBreak_notMem_conversionLines constants)

end

/-- The implementation of an enumeration is the first block that opens as one. -/
theorem body_impl (enumeration : Enumeration) :
    enumeration.lines.body ("impl " ++ enumeration.name) =
      Enumeration.conversionLines enumeration.constants := by
  have opening : ("impl " ++ enumeration.name ++ " \x7b").toList.head? = some 'i' :=
    Lines.head?_append (Lines.head?_append rfl)
  unfold Enumeration.lines
  refine Lines.body_block ?_ _ [""]
  simp only [List.mem_append, List.mem_cons, List.not_mem_nil, or_false, not_or]
  refine ⟨⟨⟨?_, ?_⟩, ?_⟩, ?_⟩
  · refine Lines.ne_of_head? opening (d := '/') ?_ (by decide)
    exact Lines.head?_append (Lines.head?_append rfl)
  · exact Lines.ne_of_head? opening (d := '#') rfl (by decide)
  · refine Lines.notMem_block opening (by decide) (by decide) ?_
    refine Lines.ne_of_head? opening (d := 'p') ?_ (by decide)
    exact Lines.head?_append (Lines.head?_append rfl)
  · exact Lines.ne_empty_of_head? opening

theorem body_lexical (constants : List EnumConstant) :
    ((Enumeration.conversionLines constants).body
      "pub const fn lexical(&self) -> &'static str").body "match self" =
        Enumeration.lexicalArms constants := by
  unfold Enumeration.conversionLines
  rw [List.append_assoc, Lines.body_block (by decide), Lines.body_block_alone]

theorem body_fromLexical (constants : List EnumConstant) :
    ((Enumeration.conversionLines constants).body
      "pub fn from_lexical(value: &str) -> Option<Self>").body "match value" =
        Enumeration.fromLexicalArms constants ++ ["_ => None,"] := by
  unfold Enumeration.conversionLines
  rw [← List.append_nil (Lines.block "pub fn from_lexical(value: &str) -> Option<Self>" _),
    ← List.append_assoc, Lines.body_block ?_, Lines.body_block_alone]
  simp only [List.mem_append, Lines.mem_block, not_or]
  refine ⟨⟨by decide, by decide, ?_, by decide⟩, by decide⟩
  intro indented
  obtain ⟨line, -, same⟩ := List.mem_map.mp indented
  exact Lines.indentLine_ne (c := 'p') rfl (by decide) same

/-! ### What the conversions give -/

section

variable {schemaName : String} {lexicals : List String}

/-- **`lexical` gives the value of the first constant of a name.** -/
theorem readLexical?_lines (valid : isIdentifier (pascalCase schemaName) = true) (name : String) :
    let enumeration := Enumeration.ofLexicals schemaName lexicals
    readLexical? enumeration.name (Lines.text enumeration.lines) name =
      (enumeration.constants.find? (·.name == name)).map (·.lexical) := by
  intro enumeration
  have arms : (Enumeration.lexicalArms enumeration.constants).mapM
      (readArm? readConstant? readLiteral?) =
        some (enumeration.constants.map fun c => ⟨some c.name, c.lexical⟩) :=
    mapM_eq_some fun c here => readArm?_lexical
      (continues_of_isIdentifier (isIdentifier_of_mem_constants here)) c.lexical
  unfold readLexical? armLines
  rw [sourceLines_enumeration valid, body_impl, body_lexical, arms]
  simp only [Option.bind_eq_bind, Option.bind_some, firstMatch, List.find?_map, Option.map_map]
  rfl

/-- **`from_lexical` gives the first constant for a value**, and none if there is no such
constant. -/
theorem readFromLexical?_lines (valid : isIdentifier (pascalCase schemaName) = true)
    (value : String) :
    let enumeration := Enumeration.ofLexicals schemaName lexicals
    readFromLexical? enumeration.name (Lines.text enumeration.lines) value =
      some ((enumeration.constants.find? (·.lexical == value)).map (·.name)) := by
  intro enumeration
  have known : (Enumeration.fromLexicalArms enumeration.constants).mapM
      (readArm? readLiteral? (readOptional? readConstant?)) =
        some (enumeration.constants.map fun c => ⟨some c.lexical, some c.name⟩) :=
    mapM_eq_some fun c here => readArm?_fromLexical
      (continues_of_isIdentifier (isIdentifier_of_mem_constants here)) c.lexical
  have last : readArm? readLiteral? (readOptional? readConstant?) "_ => None," =
      some ⟨none, none⟩ := rfl
  unfold readFromLexical? armLines
  rw [sourceLines_enumeration valid, body_impl, body_fromLexical, List.mapM_append, known,
    List.mapM_cons, last]
  have found : (enumeration.constants.map fun c =>
        ({ pattern := some c.lexical, result := some c.name } : MatchArm _ _)).find?
          (fun arm => arm.pattern.all (· == value)) =
      (enumeration.constants.find? (·.lexical == value)).map fun c =>
        { pattern := some c.lexical, result := some c.name } := List.find?_map
  show firstMatch (_ ++ [_]) value = _
  unfold firstMatch
  rw [List.find?_append, found]
  cases enumeration.constants.find? (·.lexical == value) <;> rfl

/-- In an enumeration, a fixed value is initialized with the first constant that stands for it. -/
theorem findEnumConstant_toOption {enums : List Enumeration} {enumeration : Enumeration}
    (first : enums.find? (·.name == enumeration.name) = some enumeration) (value : String) :
    (findEnumConstant enums enumeration.name value).toOption =
      enumeration.constants.find? (·.lexical == value) := by
  unfold findEnumConstant
  rw [first]
  dsimp only
  cases enumeration.constants.find? (·.lexical == value) <;> rfl

end

/-- **The conversions of an enumeration undo each other**, as their code is read. The code is
generated if the name of the enumeration is an identifier. Then `lexical` gives for every constant
the value that it stands for, and `from_lexical` leads from this value back to the constant if the
values differ. Whether or not they differ, `from_lexical` gives a constant only for the value that
`lexical` gives for the constant, it gives none for all other texts than the values, and it always
gives the constant that a fixed value of the enumeration is initialized with. -/
theorem conversions_inverse {schemaName : String}
    (valid : isIdentifier (pascalCase schemaName) = true) (lexicals : List String) :
    let enumeration := Enumeration.ofLexicals schemaName lexicals
    ∃ lines, enumeration.source = .ok lines ∧
      let lexical := readLexical? enumeration.name (Lines.text lines)
      let fromLexical := readFromLexical? enumeration.name (Lines.text lines)
      (∀ constant ∈ enumeration.constants,
        lexical constant.name = some constant.lexical ∧
          (lexicals.Nodup → fromLexical constant.lexical = some (some constant.name))) ∧
      (∀ value name, fromLexical value = some (some name) →
        (∃ constant ∈ enumeration.constants, constant.name = name) ∧ lexical name = some value) ∧
      (∀ value, value ∉ lexicals → fromLexical value = some none) ∧
      ∀ enums value, enums.find? (·.name == enumeration.name) = some enumeration →
        fromLexical value =
          some ((findEnumConstant enums enumeration.name value).toOption.map (·.name)) := by
  intro enumeration
  have names : (enumeration.constants.map (·.name)).Nodup :=
    (wellNamed_ofLexicals schemaName lexicals).distinct
  have values : enumeration.constants.map (·.lexical) = lexicals :=
    lexicals_ofLexicals schemaName lexicals
  refine ⟨enumeration.lines, ?_, ?_⟩
  · rw [Enumeration.source_eq, checkAll_eq_ok_iff]
    exact ⟨declaredNames_ofLexicals valid, rfl⟩
  intro lexical fromLexical
  have givesValue (name : String) : lexical name =
      (enumeration.constants.find? (·.name == name)).map (·.lexical) :=
    readLexical?_lines valid name
  have givesConstant (value : String) : fromLexical value =
      some ((enumeration.constants.find? (·.lexical == value)).map (·.name)) :=
    readFromLexical?_lines valid value
  have value_of (constant : EnumConstant) (here : constant ∈ enumeration.constants) :
      lexical constant.name = some constant.lexical := by
    rw [givesValue, (find?_key_eq_some_iff names).mpr ⟨here, rfl⟩, Option.map_some]
  refine ⟨fun constant here => ⟨value_of constant here, fun distinct => ?_⟩, ?_, ?_, ?_⟩
  · rw [← values] at distinct
    rw [givesConstant, (find?_key_eq_some_iff distinct).mpr ⟨here, rfl⟩, Option.map_some]
  · intro value name given
    rw [givesConstant] at given
    obtain ⟨constant, found, rfl⟩ := Option.map_eq_some_iff.mp (Option.some.inj given)
    have here := List.mem_of_find?_eq_some found
    have stands : constant.lexical = value := by simpa using List.find?_some found
    exact ⟨⟨constant, here, rfl⟩, stands ▸ value_of constant here⟩
  · intro value outside
    have none : enumeration.constants.find? (·.lexical == value) = none := by
      refine List.find?_eq_none.mpr fun constant here same => outside ?_
      rw [← values, ← beq_iff_eq.mp same]
      exact List.mem_map_of_mem here
    rw [givesConstant, none, Option.map_none]
  · intro enums value first
    rw [givesConstant, findEnumConstant_toOption first]

/-- The answers to a question: one is named like an absent value, and two consist of characters that
are escaped in a literal. -/
def answerLexicals : List String := ["none", "\x22", "\\\x22"]

/-- The code of the answers leads from each constant to its value and back. -/
theorem conversions_inverse_answer :
    isIdentifier (pascalCase "answer") = true ∧
      let enumeration := Enumeration.ofLexicals "answer" answerLexicals
      enumeration.constants = [⟨"None", "none"⟩, ⟨"Value2", "\x22"⟩, ⟨"Value3", "\\\x22"⟩] ∧
        answerLexicals.Nodup ∧ "\\" ∉ answerLexicals ∧
        [enumeration].find? (·.name == enumeration.name) = some enumeration ∧
        ∃ lines, enumeration.source = .ok lines ∧
          let lexical := readLexical? enumeration.name (Lines.text lines)
          let fromLexical := readFromLexical? enumeration.name (Lines.text lines)
          lexical "None" = some "none" ∧ fromLexical "none" = some (some "None") ∧
            lexical "Value3" = some "\\\x22" ∧ fromLexical "\\\x22" = some (some "Value3") ∧
            fromLexical "\\" = some none ∧
            some ((findEnumConstant [enumeration] enumeration.name "\x22").toOption.map (·.name)) =
              fromLexical "\x22" := by
  have valid : isIdentifier (pascalCase "answer") = true := by decide +kernel
  have constants : (Enumeration.ofLexicals "answer" answerLexicals).constants =
      [⟨"None", "none"⟩, ⟨"Value2", "\x22"⟩, ⟨"Value3", "\\\x22"⟩] := by decide +kernel
  have distinct : answerLexicals.Nodup := by decide
  have outside : "\\" ∉ answerLexicals := by decide
  obtain ⟨lines, written, inverse, -, absent, found⟩ := conversions_inverse valid answerLexicals
  rw [constants] at inverse
  obtain ⟨none, noneBack⟩ := inverse ⟨"None", "none"⟩ (by decide)
  obtain ⟨escaped, escapedBack⟩ := inverse ⟨"Value3", "\\\x22"⟩ (by decide)
  have first : [Enumeration.ofLexicals "answer" answerLexicals].find?
      (·.name == (Enumeration.ofLexicals "answer" answerLexicals).name) =
        some (Enumeration.ofLexicals "answer" answerLexicals) :=
    List.find?_cons_of_pos (beq_self_eq_true _)
  exact ⟨valid, constants, distinct, outside, first, lines, written, none, noneBack distinct, escaped,
    escapedBack distinct, absent _ outside, (found _ _ first).symm⟩

end SchemaBinding
