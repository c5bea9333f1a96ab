/-
**Line breaks in the source of structures.**

Source is written line by line, but what is written as one line is read as several if it holds line
breaks (`linesOf`, `sourceLines_text`). The source of a structure is written as a comment, a line of
derivations, an opening line, two lines for every field and a closing line. Names that are declared
are identifiers and hold no line break, and neither does the name of the component that a class is
derived from, since all its characters but separators stand in the name of the class.

The comment of a field is another matter: it shows the name of the component as it is, whereas the
name of the field is derived from its letters and digits only. So a line break in the name begins a
line of source within the structure (`name_breaks_out_of_comment`), and so does one in the name of a
missing type. These are the only two ways (`struct_lines`).
-/

import SchemaBinding.Proofs.Naming.Identifiers
import SchemaBinding.Proofs.Naming.PascalCase
import SchemaBinding.Proofs.Source.FieldTypes

namespace SchemaBinding

/-! ### Reading lines -/

/-- What a text is read as that ends with its last line. -/
def linesOf (text : String) : Lines := (text.toList.splitOn '\n').map String.ofList

/-- **The lines of a source text**, all of which are ended by a line break. -/
def sourceLines (text : String) : Lines := (linesOf text).dropLast

theorem linesOf_ne_nil (text : String) : linesOf text ≠ [] := by
  intro none
  exact List.splitOnP_ne_nil _ _ (List.map_eq_nil_iff.mp none)

/-- A line break ends a line. -/
theorem linesOf_append_break (line rest : String) :
    linesOf (line ++ "\n" ++ rest) = linesOf line ++ linesOf rest := by
  have chars : (line ++ "\n" ++ rest).toList = line.toList ++ '\n' :: rest.toList := by
    simp [String.toList_append]
  unfold linesOf List.splitOn
  rw [chars, List.splitOnP_append_cons _ _ (p := fun c => c == '\n') rfl, List.map_append]

/-- **What is written line by line is read line by line**, each line on its own. -/
theorem sourceLines_text (lines : Lines) : sourceLines (Lines.text lines) = lines.flatMap linesOf := by
  induction lines with
  | nil => rfl
  | cons line rest ih =>
    have text : Lines.text (line :: rest) = line ++ "\n" ++ Lines.text rest := by
      rw [← List.singleton_append, Lines.text_append]
      simp [Lines.text, String.join_cons]
    rw [sourceLines, text, linesOf_append_break, List.dropLast_append_of_ne_nil (linesOf_ne_nil _),
      List.flatMap_cons, ← ih]
    rfl

/-- **A line is read as one line if and only if there is no line break in it.** -/
theorem linesOf_eq_singleton_iff {line : String} : linesOf line = [line] ↔ '\n' ∉ line.toList := by
  constructor
  · intro one inside
    obtain ⟨front, rest, split⟩ := List.append_of_mem inside
    have text : line = String.ofList front ++ "\n" ++ String.ofList rest := by
      rw [← String.toList_inj, split]
      simp [String.toList_append]
    have count := congrArg List.length one
    rw [text, linesOf_append_break, List.length_append, List.length_singleton] at count
    have first := List.length_pos_iff.mpr (linesOf_ne_nil (String.ofList front))
    have second := List.length_pos_iff.mpr (linesOf_ne_nil (String.ofList rest))
    omega
  · intro whole
    have plain : ∀ c ∈ line.toList, (c == '\n') = false := by
      rintro c member
      refine beq_false_of_ne ?_
      rintro rfl
      exact whole member
    unfold linesOf List.splitOn
    rw [List.splitOnP_eq_singleton plain, List.map_singleton, String.ofList_toList]

theorem flatMap_linesOf_of_whole {lines : Lines} (whole : ∀ line ∈ lines, '\n' ∉ line.toList) :
    lines.flatMap linesOf = lines := by
  induction lines with
  | nil => rfl
  | cons line rest ih =>
    obtain ⟨first, later⟩ := List.forall_mem_cons.mp whole
    rw [List.flatMap_cons, linesOf_eq_singleton_iff.mpr first, ih later]
    rfl

/-! ### Names without line breaks -/

theorem lineBreak_notMem_of_isIdentifier {name : String} (valid : isIdentifier name = true) :
    '\n' ∉ name.toList :=
  notMem_of_isIdentifier valid (by decide)

/-- Pascal case keeps line breaks. -/
theorem lineBreak_mem_pascalCase_iff {name : String} :
    '\n' ∈ (pascalCase name).toList ↔ '\n' ∈ name.toList :=
  mem_pascalCase_iff (by decide) (by decide) (by decide)

/-! ### Lines of fields -/

theorem lineBreak_mem_append {first second : String} :
    '\n' ∈ (first ++ second).toList ↔ '\n' ∈ first.toList ∨ '\n' ∈ second.toList := by
  rw [String.toList_append, List.mem_append]

/-- What stands around a name does not matter if it holds no line break. -/
theorem lineBreak_mem_between {before after name : String} (first : '\n' ∉ before.toList)
    (last : '\n' ∉ after.toList) :
    '\n' ∈ (before ++ name ++ after).toList ↔ '\n' ∈ name.toList := by
  rw [lineBreak_mem_append, lineBreak_mem_append, or_iff_left last, or_iff_right first]

namespace Field

theorem lineBreak_mem_commentLine {field : Field} :
    '\n' ∈ field.commentLine.toList ↔ '\n' ∈ field.schemaName.toList :=
  lineBreak_mem_between (by decide) (by decide)

theorem lineBreak_mem_sourceType {field : Field} :
    '\n' ∈ field.sourceType.toList ↔ '\n' ∈ field.type.typeName.toList := by
  unfold sourceType
  by_cases repeated : field.repeated = true
  · rw [if_pos repeated]
    exact lineBreak_mem_between (by decide) (by decide)
  · rw [if_neg repeated]
    by_cases optional : field.optional = true
    · rw [if_pos optional]
      exact lineBreak_mem_between (by decide) (by decide)
    · rw [if_neg optional]

theorem lineBreak_mem_declarationLine {field : Field} (valid : isIdentifier field.name = true) :
    '\n' ∈ field.declarationLine.toList ↔ '\n' ∈ field.type.typeName.toList := by
  rw [← lineBreak_mem_sourceType]
  refine lineBreak_mem_between ?_ (by decide)
  rw [lineBreak_mem_between (by decide) (by decide)]
  exact lineBreak_notMem_of_isIdentifier valid

end Field

theorem lineBreak_mem_indentLine {line : String} :
    '\n' ∈ (Lines.indentLine line).toList ↔ '\n' ∈ line.toList := by
  unfold Lines.indentLine
  by_cases empty : line.isEmpty = true
  · rw [if_pos empty]
  · rw [if_neg empty, lineBreak_mem_append]
    exact or_iff_right (by decide)

/-- A block holds no line break if its head and its lines hold none. -/
theorem Lines.lineBreak_notMem_block {head : String} {inside : Lines}
    (first : '\n' ∉ head.toList) (whole : ∀ line ∈ inside, '\n' ∉ line.toList) :
    ∀ line ∈ block head inside, '\n' ∉ line.toList := by
  intro line member
  rcases mem_block.mp member with rfl | indented | rfl
  · rw [lineBreak_mem_append, not_or]
    exact ⟨first, by decide⟩
  · obtain ⟨original, here, rfl⟩ := List.mem_map.mp indented
    rw [lineBreak_mem_indentLine]
    exact whole original here
  · decide

/-! ### Structures -/

section

variable {schema : Schema} {c : DataClass}

/-- Nothing is written out for the classes of a schema but their structures. -/
theorem hasInitializers_of_mem_ofSchema (here : c ∈ (Model.ofSchema schema).classes) :
    c.hasInitializers = false := by
  have plain : c.statics = [] := statics_of_mem_ofSchema here
  have none : c.fields.any (fun field => field.initializer.isSome) = false := by
    refine List.any_eq_false.mpr fun field member => ?_
    rw [initializer_of_mem_ofSchema here member]
    exact Bool.false_ne_true
  rw [DataClass.hasInitializers, plain, none]
  rfl

/-- The name of a class shows the line breaks of the name that it is derived from. -/
theorem lineBreak_mem_class_name (here : c ∈ (Model.ofSchema schema).classes) :
    '\n' ∈ c.name.toList ↔ '\n' ∈ c.schemaName.toList := by
  rw [classes_ofSchema] at here
  obtain ⟨entry, -, rfl⟩ := List.mem_map.mp here
  rw [classOf_name, classOf_schemaName]
  exact lineBreak_mem_pascalCase_iff

/-- **How a structure is read**: all but the lines of its fields are read as they are written. -/
theorem sourceLines_structLines (here : c ∈ (Model.ofSchema schema).classes)
    (valid : isIdentifier c.name = true) :
    sourceLines (Lines.text c.structLines) =
      ["/// Generated from complex type `" ++ c.schemaName ++ "`.",
          "#[derive(Debug, Clone, Default)]", "pub struct " ++ c.name ++ " \x7b"] ++
        c.fields.flatMap (fun field =>
          linesOf (Lines.indentLine field.commentLine) ++
            linesOf (Lines.indentLine field.declarationLine)) ++ ["\x7d", ""] := by
  have name := lineBreak_notMem_of_isIdentifier valid
  -- The name of the component is not checked, but its line breaks stand in the name of the class.
  have schemaName : '\n' ∉ c.schemaName.toList := fun broken =>
    name ((lineBreak_mem_class_name here).mpr broken)
  have comment : '\n' ∉ ("/// Generated from complex type `" ++ c.schemaName ++ "`.").toList := by
    rwa [lineBreak_mem_between (by decide) (by decide)]
  have opening : '\n' ∉ ("pub struct " ++ c.name ++ " \x7b").toList := by
    rwa [lineBreak_mem_between (by decide) (by decide)]
  have derive : c.deriveLine = "#[derive(Debug, Clone, Default)]" := by
    rw [DataClass.deriveLine, hasInitializers_of_mem_ofSchema here]
    rfl
  have head : ["/// Generated from complex type `" ++ c.schemaName ++ "`.", c.deriveLine,
      "pub struct " ++ c.name ++ " \x7b"].flatMap linesOf =
        ["/// Generated from complex type `" ++ c.schemaName ++ "`.",
          "#[derive(Debug, Clone, Default)]", "pub struct " ++ c.name ++ " \x7b"] := by
    rw [derive]
    refine flatMap_linesOf_of_whole ?_
    simp only [List.forall_mem_cons]
    exact ⟨comment, by decide, opening, nofun⟩
  have foot : ["\x7d", ""].flatMap linesOf = ["\x7d", ""] :=
    flatMap_linesOf_of_whole (by decide)
  have lines : c.structLines =
      ["/// Generated from complex type `" ++ c.schemaName ++ "`.", c.deriveLine,
          "pub struct " ++ c.name ++ " \x7b"] ++
        c.fields.flatMap (fun field =>
          [Lines.indentLine field.commentLine, Lines.indentLine field.declarationLine]) ++
        ["\x7d", ""] := by
    simp [DataClass.structLines, Lines.block, Lines.indent, List.map_flatMap]
  rw [sourceLines_text, lines, List.flatMap_append, List.flatMap_append, head, foot,
    List.flatMap_assoc]
  simp only [List.flatMap_cons, List.flatMap_nil, List.append_nil]

/-- A line break in the name of a type comes from the name of a missing one. -/
theorem unknown_of_lineBreak
    (valid : ∀ name ∈ (Model.ofSchema schema).declaredNames, isIdentifier name = true)
    (here : c ∈ (Model.ofSchema schema).classes) {field : Field} (member : field ∈ c.fields)
    (broken : '\n' ∈ field.type.typeName.toList) :
    ∃ last, field.type = .unknown last ∧ '\n' ∈ last.toList := by
  rw [classes_ofSchema] at here
  obtain ⟨⟨name, type⟩, -, rfl⟩ := List.mem_map.mp here
  obtain ⟨base, inside, same⟩ := exists_of_mem_classOf member
  have defined := fieldsOf_definedIn schema type base inside
  rw [base.type_of_unnamed same] at defined
  obtain ⟨source, -, stems⟩ := exists_source_of_mem member
  rcases known_or_misses stems with known | ⟨last, -, unknown⟩
  · exfalso
    rcases isIdentifier_of_isKnown valid known defined with proper | bytes
    · exact lineBreak_notMem_of_isIdentifier proper broken
    · rw [bytes] at broken
      exact absurd broken (by decide)
  · refine ⟨last, unknown, lineBreak_mem_pascalCase_iff.mp ?_⟩
    rw [unknown] at broken
    exact broken

/-- The lines of the code of a schema end with its structures. -/
theorem sourceLines_code (schema : Schema) :
    ∃ front, sourceLines (Lines.text (Model.ofSchema schema).lines) =
      front ++ (Model.ofSchema schema).classes.flatMap (fun c =>
        sourceLines (Lines.text c.structLines)) ++ ["\x7d"] := by
  have structs : (Model.ofSchema schema).classes.flatMap DataClass.lines =
      (Model.ofSchema schema).classes.flatMap DataClass.structLines := by
    refine List.flatMap_congr fun c here => ?_
    rw [DataClass.lines, hasInitializers_of_mem_ofSchema here]
    exact List.append_nil _
  rw [sourceLines_text, Model.lines, structs, List.flatMap_append, List.flatMap_append,
    List.flatMap_assoc]
  simp only [sourceLines_text]
  exact ⟨_, rfl⟩

end

/-- **How the structures of generated code are read.** The code is read as lines that end with those
of its structures and a closing line. A structure is read as a comment, a line of derivations, an
opening line, the lines of its fields one after another, a closing line and an empty line. The two
lines that are written for a field are read as they are written but for two cases: the comment is
read as several lines if and only if there is a line break in the name of the component that it
shows, and the declaration if and only if there is one in the name of the type, which then is
missing. -/
theorem struct_lines {text code : String} (generated : (Settings.generate {} text).code = .ok code) :
    ∃ schema front, Schema.ofText text = .ok schema ∧
      sourceLines code =
        front ++ (Model.ofSchema schema).classes.flatMap (fun c =>
          sourceLines (Lines.text c.structLines)) ++ ["\x7d"] ∧
      ∀ c ∈ (Model.ofSchema schema).classes,
        sourceLines (Lines.text c.structLines) =
            ["/// Generated from complex type `" ++ c.schemaName ++ "`.",
                "#[derive(Debug, Clone, Default)]", "pub struct " ++ c.name ++ " \x7b"] ++
              c.fields.flatMap (fun field =>
                linesOf (Lines.indentLine field.commentLine) ++
                  linesOf (Lines.indentLine field.declarationLine)) ++ ["\x7d", ""] ∧
          ∀ field ∈ c.fields,
            (linesOf (Lines.indentLine field.commentLine) = [Lines.indentLine field.commentLine] ↔
              '\n' ∉ field.schemaName.toList) ∧
            (linesOf (Lines.indentLine field.declarationLine) =
                [Lines.indentLine field.declarationLine] ↔
              '\n' ∉ field.type.typeName.toList) ∧
            ('\n' ∈ field.type.typeName.toList →
              ∃ last, field.type = .unknown last ∧ '\n' ∈ last.toList) := by
  obtain ⟨schema, accepted, valid, rfl⟩ := exists_schema_of_generate generated
  obtain ⟨front, lines⟩ := sourceLines_code schema
  refine ⟨schema, front, accepted, lines, fun c here => ⟨?_, fun field member => ⟨?_, ?_, ?_⟩⟩⟩
  · exact sourceLines_structLines here (valid _ (mem_declaredNames_of_class here))
  · rw [linesOf_eq_singleton_iff, lineBreak_mem_indentLine, Field.lineBreak_mem_commentLine]
  · have name := valid _ (mem_declaredNames_of_field here member)
    rw [linesOf_eq_singleton_iff, lineBreak_mem_indentLine,
      Field.lineBreak_mem_declarationLine name]
  · exact unknown_of_lineBreak valid here member

/-- A lamp that is on or off. -/
def lampText : String :=
  "<schema><complexType name='lamp'><attribute name='on' type='xs:boolean'/></complexType></schema>"

/-- The code of a lamp is generated, and read as its lines. -/
theorem struct_lines_lampText :
    ∃ code, (Settings.generate {} lampText).code = .ok code ∧
      ∃ schema front, Schema.ofText lampText = .ok schema ∧
        sourceLines code =
          front ++ (Model.ofSchema schema).classes.flatMap (fun c =>
            sourceLines (Lines.text c.structLines)) ++ ["\x7d"] ∧
        ∀ c ∈ (Model.ofSchema schema).classes,
          sourceLines (Lines.text c.structLines) =
            ["/// Generated from complex type `" ++ c.schemaName ++ "`.",
                "#[derive(Debug, Clone, Default)]", "pub struct " ++ c.name ++ " \x7b"] ++
              c.fields.flatMap (fun field =>
                linesOf (Lines.indentLine field.commentLine) ++
                  linesOf (Lines.indentLine field.declarationLine)) ++ ["\x7d", ""] := by
  have some : (Settings.generate {} lampText).code.toOption.isSome = true := by decide +kernel
  obtain ⟨code, kept⟩ := Option.isSome_iff_exists.mp some
  have generated := ok_of_toOption kept
  obtain ⟨schema, front, accepted, lines, structs⟩ := struct_lines generated
  exact ⟨code, generated, schema, front, accepted, lines, fun c here => (structs c here).1⟩

/-- **A name of the schema breaks out of its comment**: the structure of a class with one field has
a line more than two for the field, and it is the rest of a name. -/
theorem name_breaks_out_of_comment :
    let text := "<schema><complexType name=\"A\"><sequence><element name=\"a&#10;b\" " ++
      "type=\"xs:int\"/></sequence></complexType></schema>"
    ((Schema.ofText text).toOption.map fun schema => (Model.ofSchema schema).classes.map fun c =>
        c.fields.map fun field => (field.name, field.schemaName)) = some [[("a_b", "a\nb")]] ∧
      (Settings.generate {} text).code.toOption.map sourceLines = some [
        "// Generated by ironxsd. Do not edit.", "", "pub mod generated \x7b",
        "#[allow(unused_imports)]", "use super::*;", "",
        "/// Generated from complex type `A`.", "#[derive(Debug, Clone, Default)]",
        "pub struct A \x7b", "    /// Schema component `a", "b`.", "    pub a_b: i32,", "\x7d", "",
        "\x7d"] := by
  intro text
  have code : (Settings.generate {} text).code.toOption = some (Lines.text [
      "// Generated by ironxsd. Do not edit.", "", "pub mod generated \x7b",
      "#[allow(unused_imports)]", "use super::*;", "",
      "/// Generated from complex type `A`.", "#[derive(Debug, Clone, Default)]",
      "pub struct A \x7b", "    /// Schema component `a\nb`.", "    pub a_b: i32,", "\x7d", "",
      "\x7d"]) := by decide +kernel
  refine ⟨by decide +kernel, ?_⟩
  rw [code, Option.map_some, sourceLines_text]
  decide +kernel

end SchemaBinding
