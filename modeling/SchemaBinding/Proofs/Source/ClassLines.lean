/-
**The lines of a class, written and read.**

A structure derives its default value, or the default value is written out behind it. So a class has
lines of two kinds (`DataClass.derivedLines`, `DataClass.writtenLines`), with the same structure in
both of them but for the line of derivations. Which of them are written depends on whether a member
of the class has an initializer (`DataClass.lines_eq`).

Lines of both blocks of a class say something of a field in the same form: its name, a colon, its
type or its value, and a comma (`readEntry?`). So the fields that the structure declares can be read
(`readFields`), and so can the assignments of the default value (`readDefault?`): these are one for
each field, in the order of the declarations (`readDefault?_writtenLines`).
-/

import SchemaBinding.Proofs.FixedValue.Typing
import SchemaBinding.Proofs.Source.LineBreaks

namespace SchemaBinding

/-! ### Values -/

/-- An expression as a value that is owned: a text is copied from its literal. -/
def Expr.ownedSource : Expr → String
  | .text value => "String::from(" ++ quoted .careful value ++ ")"
  | expr => expr.source

/-- **The value that a default value gives a field**: that of its initializer, as an option if the
field is optional, and the default of its type if it has none. -/
def Field.givenValue (field : Field) : String :=
  match field.initializer, field.optional with
  | none, _ => "Default::default()"
  | some expr, false => expr.ownedSource
  | some expr, true => "Some(" ++ expr.ownedSource ++ ")"

theorem Field.sourceValue_eq_givenValue (field : Field) :
    field.sourceValue = field.givenValue := by
  unfold sourceValue givenValue
  cases field.initializer with
  | none => rfl
  | some expr => cases field.optional <;> cases expr <;> rfl

theorem toString_int_ne_empty (n : Int) : toString n ≠ "" := by
  intro empty
  have denotes := denotesInteger_toString n
  rw [empty] at denotes
  cases denotes with
  | unsigned numeral => exact numeral.1 rfl

theorem Decimal.positional_ne_empty (d : Decimal) : d.positional ≠ "" := by
  unfold positional
  dsimp only
  split
  · exact Lines.append_ne_empty (by decide) _
  · intro empty
    have chars := congrArg String.toList empty
    rw [String.toList_ofList] at chars
    exact List.append_ne_nil_of_right_ne_nil _ (List.cons_ne_nil _ _) chars

theorem FloatFormat.literal_ne_empty (format : FloatFormat) (typeName : String) (bits : Nat) :
    format.literal typeName bits ≠ "" := by
  unfold literal
  split
  · exact Lines.append_ne_empty (by decide) _
  · refine Lines.append_ne_empty ?_ _
    split <;> decide
  · refine Lines.append_ne_empty ?_ _
    split
    · decide
    · split
      · exact Lines.append_ne_empty (toString_int_ne_empty _) _
      · exact Decimal.positional_ne_empty _

/-- The value of an initializer that suits a field is written as something. -/
theorem Suits.ownedSource_ne_empty {enums : List Enumeration} {statics : List StaticMember}
    {value : String} {type : FieldType} {expr : Expr}
    (suits : Suits enums statics value type expr) : expr.ownedSource ≠ "" := by
  cases suits with
  | text => exact Lines.append_ne_empty (by decide) _
  | boolean b => cases b <;> decide
  | byte | short | int | long => exact toString_int_ne_empty _
  | float bits | double bits => exact FloatFormat.literal_ne_empty _ _ _
  | enumeration first member =>
    have path (enumName constant : String) : enumName ++ "::" ++ constant ≠ "" := by
      rw [String.append_assoc]
      exact Lines.append_ne_empty (Lines.ne_empty_of_head? (Lines.head?_append rfl)) _
    exact path _ _
  | calendar member =>
    have arguments (args : List String) : Expr.argumentList args ≠ "" :=
      Lines.append_ne_empty (by decide) _
    exact Lines.append_ne_empty (arguments _) _

/-- **Every field is given some value**, if its initializer suits it. -/
theorem Field.givenValue_ne_empty {field : Field} {enums : List Enumeration}
    {statics : List StaticMember} (suits : field.WellInitialized enums statics) :
    field.givenValue ≠ "" := by
  unfold givenValue
  split
  · decide
  · rename_i expr initialized _
    obtain ⟨-, _, _, _, -, -, suits⟩ := suits expr initialized
    exact suits.ownedSource_ne_empty
  · exact Lines.append_ne_empty (by decide) _

/-! ### The two kinds of lines of a class -/

namespace DataClass

def commentLine (c : DataClass) : String :=
  "/// Generated from complex type `" ++ c.schemaName ++ "`."

/-- The lines of the structure of a class behind the line of derivations. -/
def bodyLines (c : DataClass) : Lines :=
  ["pub struct " ++ c.name ++ " \x7b"] ++
    c.fields.flatMap (fun field =>
      ["    " ++ field.commentLine, "    " ++ field.declarationLine]) ++
    ["\x7d", ""]

/-- **The lines of a class whose default value is derived.** -/
def derivedLines (c : DataClass) : Lines :=
  [c.commentLine, "#[derive(Debug, Clone, Default)]"] ++ c.bodyLines

/-- **The default value of a class, written out**: its static members, and then all of its fields in
the order in which they are declared, each of them with its value on a line of its own. -/
def implLines (c : DataClass) : Lines :=
  ["impl Default for " ++ c.name ++ " \x7b", "    fn default() -> Self \x7b"] ++
    c.statics.map (fun member => "        " ++ member.sourceLine) ++
    ["        Self \x7b"] ++
    c.fields.map (fun field => "            " ++ field.name ++ ": " ++ field.givenValue ++ ",") ++
    ["        \x7d", "    \x7d", "\x7d", ""]

/-- **The lines of a class whose default value is written out.** -/
def writtenLines (c : DataClass) : Lines :=
  [c.commentLine, "#[derive(Debug, Clone)]"] ++ c.bodyLines ++ c.implLines

theorem bodyLines_eq (c : DataClass) :
    c.bodyLines = Lines.block ("pub struct " ++ c.name)
      (c.fields.flatMap fun field => [field.commentLine, field.declarationLine]) ++ [""] := by
  have fields :
      Lines.indent (c.fields.flatMap fun field => [field.commentLine, field.declarationLine]) =
        c.fields.flatMap fun field =>
          ["    " ++ field.commentLine, "    " ++ field.declarationLine] := by
    rw [Lines.indent_eq, List.map_flatMap]
    · rfl
    · intro line member
      obtain ⟨field, -, inside⟩ := List.mem_flatMap.mp member
      rcases List.mem_pair.mp inside with rfl | rfl
      · exact Lines.append_ne_empty (by decide) _
      · exact Lines.append_ne_empty (by decide) _
  unfold bodyLines Lines.block
  rw [fields]
  simp only [List.cons_append, List.nil_append, List.append_assoc]

/-- The structure is written as it is declared, whichever kind of lines the class has. -/
theorem structLines_eq (c : DataClass) :
    c.structLines = [c.commentLine, c.deriveLine] ++ c.bodyLines := by
  rw [bodyLines_eq, ← List.append_assoc]
  rfl

theorem defaultLines_eq (c : DataClass) : c.defaultLines = c.implLines := by
  have statics : Lines.indent (Lines.indent (c.statics.map StaticMember.sourceLine)) =
      c.statics.map fun member => "        " ++ member.sourceLine := by
    have nonempty : ∀ line ∈ c.statics.map StaticMember.sourceLine, line ≠ "" :=
      List.forall_mem_map.mpr fun member _ => Lines.append_ne_empty (by decide) _
    rw [Lines.indent_eq nonempty, Lines.indent_map nonempty, List.map_map]
    rfl
  have values : Lines.indent (Lines.indent (Lines.indent (c.fields.map Field.valueLine))) =
      c.fields.map fun field =>
        "            " ++ field.name ++ ": " ++ field.givenValue ++ "," := by
    have nonempty : ∀ line ∈ c.fields.map Field.valueLine, line ≠ "" :=
      List.forall_mem_map.mpr fun field _ => Lines.append_ne_empty (by decide) _
    rw [Lines.indent_eq nonempty, Lines.indent_map nonempty, Lines.indent_map nonempty,
      List.map_map]
    refine List.map_congr_left fun field _ => ?_
    rw [Function.comp_apply, Field.valueLine, Field.sourceValue_eq_givenValue]
    simp only [String.append_assoc]
    rfl
  have opening : Lines.indentLine ("fn default() -> Self" ++ " \x7b") =
      "    fn default() -> Self \x7b" := by rfl
  have self : Lines.indentLine (Lines.indentLine ("Self" ++ " \x7b")) = "        Self \x7b" := by
    rfl
  have outer : Lines.indentLine "\x7d" = "    \x7d" := by rfl
  have inner : Lines.indentLine "    \x7d" = "        \x7d" := by rfl
  unfold defaultLines implLines Lines.block
  simp only [Lines.indent_append, Lines.indent_cons, Lines.indent_nil, statics, values, opening,
    self, outer, inner, List.cons_append, List.nil_append, List.append_assoc]

/-- **The lines of a class are of the one kind or of the other.** -/
theorem lines_eq (c : DataClass) :
    c.lines = if c.hasInitializers then c.writtenLines else c.derivedLines := by
  rw [lines, structLines_eq, defaultLines_eq, deriveLine]
  by_cases custom : c.hasInitializers = true
  · rw [if_pos custom, if_pos custom, if_pos custom]
    rfl
  · rw [if_neg custom, if_neg custom, if_neg custom]
    exact List.append_nil _

theorem hasInitializers_iff {c : DataClass} :
    c.hasInitializers = true ↔
      c.statics ≠ [] ∨ ∃ field ∈ c.fields, field.initializer.isSome = true := by
  simp [hasInitializers]

end DataClass

/-! ### Reading lines of fields -/

/-- **Reads what a line says of a name**: the name, a colon, what is said and a comma. -/
def readEntry? (line : List Char) : Option (String × List Char) := do
  let said ← (line.dropWhile continuesIdentifier).dropPrefix? ": ".toList
  if said.getLast? = some ',' then
    some (String.ofList (line.takeWhile continuesIdentifier), said.dropLast)
  else none

/-- Reads the name of the field that a line of a structure declares. -/
def readDeclaration? (line : String) : Option String := do
  let entry ← line.toList.dropPrefix? "pub ".toList
  return (← readEntry? entry).1

/-- Reads a field and the value that a line of a default value assigns to it, which is written as
something. -/
def readAssignment? (line : String) : Option (String × String) := do
  let (name, value) ← readEntry? line.toList
  if value.isEmpty then none else some (name, String.ofList value)

/-- **The fields that a structure declares**, in order. Lines that declare nothing are passed
over. -/
def readFields (className : String) (lines : Lines) : List String :=
  (lines.body ("pub struct " ++ className)).filterMap readDeclaration?

/-- **The fields that a default value assigns, with their values**, in order. Nothing is read if the
lines of the value hold anything else. -/
def readDefault? (className : String) (lines : Lines) : Option (List (String × String)) :=
  (((lines.body ("impl Default for " ++ className)).body "fn default() -> Self").body
    "Self").mapM readAssignment?

/-- What is said of a name is read, whatever it is. -/
theorem readEntry?_entry {name : String} (valid : isIdentifier name = true) (said : String) :
    readEntry? (name ++ ": " ++ said ++ ",").toList = some (name, said.toList) := by
  let behind := said.toList ++ [',']
  have chars : (name ++ ": " ++ said ++ ",").toList = name.toList ++ ':' :: ' ' :: behind := by
    simp [String.toList_append, behind]
  have ends : continuesIdentifier ':' = false := by decide
  obtain ⟨front, rest⟩ := cut_name (continues_of_isIdentifier valid) ends (' ' :: behind)
  have found : (':' :: ' ' :: behind).dropPrefix? ": ".toList = some behind :=
    dropPrefix?_append ": " behind
  unfold readEntry?
  rw [chars, front, rest, found]
  simp only [Option.bind_eq_bind, Option.bind_some, behind, List.getLast?_concat, if_true,
    List.dropLast_concat, String.ofList_toList]

theorem readAssignment?_line {field : Field} (valid : isIdentifier field.name = true)
    (given : field.givenValue ≠ "") :
    readAssignment? field.valueLine = some (field.name, field.givenValue) := by
  have nonempty : field.givenValue.toList.isEmpty = false := by
    rw [List.isEmpty_eq_false_iff]
    exact fun nothing => given (String.toList_eq_nil_iff.mp nothing)
  unfold readAssignment? Field.valueLine
  rw [Field.sourceValue_eq_givenValue, readEntry?_entry valid]
  simp only [Option.bind_eq_bind, Option.bind_some, nonempty, String.ofList_toList]
  rfl

/-- Of the two lines of a field the second declares it. -/
theorem filterMap_readDeclaration? {field : Field} (valid : isIdentifier field.name = true) :
    [field.commentLine, field.declarationLine].filterMap readDeclaration? = [field.name] := by
  have comment : readDeclaration? field.commentLine = none := by
    have begins : field.commentLine.toList.dropPrefix? "pub ".toList = none := by
      unfold Field.commentLine
      rw [String.append_assoc, String.toList_append]
      rfl
    unfold readDeclaration?
    rw [begins]
    rfl
  have declaration : readDeclaration? field.declarationLine = some field.name := by
    have chars : field.declarationLine.toList =
        "pub ".toList ++ (field.name ++ ": " ++ field.sourceType ++ ",").toList := by
      unfold Field.declarationLine
      rw [← String.toList_append]
      simp only [String.append_assoc]
    unfold readDeclaration?
    rw [chars, dropPrefix?_append]
    simp only [Option.bind_eq_bind, Option.bind_some, readEntry?_entry valid]
    rfl
  rw [List.filterMap_cons_none comment, List.filterMap_cons_some declaration, List.filterMap_nil]

section

variable {c : DataClass}

/-- No block begins like the lines in front of a structure. -/
theorem notMem_headLines {line : String} {first : Char} (begins : line.toList.head? = some first)
    (comment : first ≠ '/') (derive : first ≠ '#') :
    line ∉ [c.commentLine, "#[derive(Debug, Clone)]"] := by
  rw [List.mem_pair, not_or]
  refine ⟨Lines.ne_of_head? begins (d := '/') ?_ comment,
    Lines.ne_of_head? begins (d := '#') rfl derive⟩
  exact Lines.head?_append (Lines.head?_append rfl)

/-- **The fields that the structure of a class declares are read back.** -/
theorem readFields_writtenLines (valid : ∀ field ∈ c.fields, isIdentifier field.name = true) :
    readFields c.name c.writtenLines = c.fields.map (·.name) := by
  have opening : ("pub struct " ++ c.name ++ " \x7b").toList.head? = some 'p' :=
    Lines.head?_append (Lines.head?_append rfl)
  unfold readFields DataClass.writtenLines
  rw [DataClass.bodyLines_eq, List.append_assoc, List.append_assoc, ← List.append_assoc,
    Lines.body_block (notMem_headLines opening (by decide) (by decide)), List.filterMap_flatMap,
    List.map_eq_flatMap]
  exact List.flatMap_congr fun field here => filterMap_readDeclaration? (valid field here)

/-- **The written default value assigns every field once**, in the order in which the structure
declares them. -/
theorem readDefault?_writtenLines (valid : ∀ field ∈ c.fields, isIdentifier field.name = true)
    (given : ∀ field ∈ c.fields, field.givenValue ≠ "") :
    readDefault? c.name c.writtenLines =
      some (c.fields.map fun field => (field.name, field.givenValue)) := by
  have opening : ("impl Default for " ++ c.name ++ " \x7b").toList.head? = some 'i' :=
    Lines.head?_append (Lines.head?_append rfl)
  have absent : "impl Default for " ++ c.name ++ " \x7b" ∉
      [c.commentLine, "#[derive(Debug, Clone)]"] ++ c.bodyLines := by
    rw [DataClass.bodyLines_eq, List.mem_append, List.mem_append, List.mem_singleton, not_or,
      not_or]
    refine ⟨notMem_headLines opening (by decide) (by decide), ?_, ?_⟩
    · refine Lines.notMem_block opening (by decide) (by decide) ?_
      refine Lines.ne_of_head? opening (d := 'p') ?_ (by decide)
      exact Lines.head?_append (Lines.head?_append rfl)
    · exact Lines.ne_empty_of_head? opening
  -- A static member begins with a small letter, so none of them opens the value.
  have plain : "Self" ++ " \x7b" ∉ c.statics.map StaticMember.sourceLine := by
    intro member
    obtain ⟨static, -, same⟩ := List.mem_map.mp member
    refine Lines.ne_of_head? (c := 's') (d := 'S') ?_ rfl (by decide) same
    unfold StaticMember.sourceLine
    simp only [String.append_assoc]
    exact Lines.head?_append rfl
  have value : Lines.body "Self" (c.statics.map StaticMember.sourceLine ++
      Lines.block "Self" (c.fields.map Field.valueLine)) = c.fields.map Field.valueLine := by
    rw [← List.append_nil (_ ++ Lines.block _ _), Lines.body_block plain]
  unfold readDefault? DataClass.writtenLines
  rw [← DataClass.defaultLines_eq]
  unfold DataClass.defaultLines
  rw [← List.append_assoc _ _ [""], Lines.body_block absent, Lines.body_block_alone, value]
  exact mapM_eq_some fun field here => readAssignment?_line (valid field here) (given field here)

end

end SchemaBinding
