/-
**The string literals of generated code.**

Texts of a schema stand in the code as string literals: fixed values, the values of enumerations,
and the message of a static member. Code is read for its literals from left to right
(`codeLiterals?`). A quote outside begins a literal, which is decoded and ends at the first quote
that is not part of an escape; all else outside is passed over. Since a literal ends where it is
meant to end, whatever follows it, pieces of code can be read one after another (`HasLiterals`), and
so can lines (`Lines.HaveLiterals`).

The literals of an expression are its texts, if no name in it holds a quote (`hasLiterals_source`).
In code that a schema is written as, names are identifiers, and those in an initializer are declared
in the same code (`Suits.unquoted_names`).

`literals_denote_texts`: every text is written as one literal that denotes it, different texts are
written as different literals, and where texts of a schema are written the code has these literals
and no others.
-/

import SchemaBinding.Proofs.FixedValue.Typing
import SchemaBinding.Proofs.Source.WrittenDefaults
import SchemaBinding.Proofs.Text.StringLiteral

namespace SchemaBinding

/-! ### Reading code for its literals -/

/-- What a reader leaves, if it reads anything, is shorter than the bound. -/
def LeavesLess (bound : Nat) (found : Option (List Char × List Char)) : Prop :=
  ∀ read rest, found = some (read, rest) → rest.length < bound

theorem leavesLess_none (bound : Nat) : LeavesLess bound none :=
  fun _ _ nothing => absurd nothing (by simp)

theorem leavesLess_bind {bound : Nat} {α : Type} (first : Option α)
    {next : α → Option (List Char × List Char)} (each : ∀ a, LeavesLess bound (next a)) :
    LeavesLess bound (first.bind next) := by
  cases first with
  | none => exact leavesLess_none bound
  | some a => exact each a

theorem leavesLess_readText (place : LiteralPlace) (text : List Char) :
    LeavesLess text.length (readText place text) := by
  induction text generalizing place with
  | nil => exact leavesLess_none 0
  | cons c rest ih =>
    have goesOn (place : LiteralPlace) : LeavesLess (rest.length + 1) (readText place rest) :=
      fun read behind found => Nat.lt_succ_of_lt (ih place read behind found)
    have takes (d : Char) :
        LeavesLess (rest.length + 1) (consChar d (readText .between rest)) := by
      intro read behind found
      obtain ⟨⟨text, left⟩, here, same⟩ := Option.map_eq_some_iff.mp found
      rw [← (Prod.mk.inj same).2]
      exact goesOn .between text left here
    rw [List.length_cons]
    cases place with
    | between =>
      rw [readText]
      split_ifs
      · intro read behind found
        rw [← (Prod.mk.inj (Option.some.inj found)).2]
        exact Nat.lt_succ_self _
      · exact goesOn .escape
      · exact leavesLess_none _
      · exact takes c
    | escape =>
      rw [readText]
      split_ifs
      · exact goesOn (.byte [])
      · exact goesOn .brace
      · exact leavesLess_bind _ takes
    | byte digits =>
      cases digits with
      | nil => exact goesOn (.byte [c])
      | cons first others => exact leavesLess_bind _ takes
    | brace =>
      rw [readText]
      split_ifs
      · exact goesOn (.codePoint [])
      · exact leavesLess_none _
    | codePoint digits =>
      rw [readText]
      split_ifs
      · exact leavesLess_bind _ takes
      · exact leavesLess_none _
      · exact goesOn (.codePoint (digits ++ [c]))

/-- **The string literals in a piece of code**, decoded, in the order of writing. There are none to
be read if one of them is malformed or has no end. A quote in a comment would be taken for a
literal, but the comments of conversions have none, and default values have no comments. -/
def codeLiterals? : List Char → Option (List String)
  | [] => some []
  | c :: rest =>
    if c = '\x22' then
      match _found : readText .between rest with
      | none => none
      | some (text, behind) => (codeLiterals? behind).map (String.ofList text :: ·)
    else codeLiterals? rest
termination_by code => code.length
decreasing_by
  · exact Nat.lt_succ_of_lt (leavesLess_readText _ _ _ _ _found)
  · exact Nat.lt_succ_self _

theorem codeLiterals?_code {c : Char} (code : c ≠ '\x22') (rest : List Char) :
    codeLiterals? (c :: rest) = codeLiterals? rest := by
  rw [codeLiterals?, if_neg code]

theorem codeLiterals?_literal {code behind : List Char} {text : String}
    (literal : readLiteral? code = some (text, behind)) :
    codeLiterals? code = (codeLiterals? behind).map (text :: ·) := by
  unfold readLiteral? at literal
  split at literal
  · rename_i rest
    obtain ⟨⟨chars, left⟩, inside, same⟩ := Option.map_eq_some_iff.mp literal
    obtain ⟨rfl, rfl⟩ := Prod.mk.inj same
    rw [codeLiterals?, if_pos rfl]
    split
    · rename_i nothing
      exact absurd (nothing.symm.trans inside) (by simp)
    · rename_i found
      obtain ⟨rfl, rfl⟩ := Prod.mk.inj (Option.some.inj (found.symm.trans inside))
      rfl
  · exact absurd literal (by simp)

/-- **The literals of a piece of code are the given texts**, whatever code follows it. -/
def HasLiterals (code : String) (texts : List String) : Prop :=
  ∀ rest, codeLiterals? (code.toList ++ rest) = (codeLiterals? rest).map (texts ++ ·)

/-- A text without a quote. -/
def Unquoted (text : String) : Prop := '\x22' ∉ text.toList

instance : DecidablePred Unquoted := fun text => inferInstanceAs (Decidable ('\x22' ∉ text.toList))

namespace HasLiterals

variable {first second : String} {texts others : List String}

/-- **Pieces of code are read one after another.** -/
theorem append (one : HasLiterals first texts) (two : HasLiterals second others) :
    HasLiterals (first ++ second) (texts ++ others) := by
  intro rest
  rw [String.toList_append, List.append_assoc, one, two, Option.map_map]
  exact Option.map_congr fun more _ => (List.append_assoc texts others more).symm

/-- Code without a quote has no literals. -/
theorem of_unquoted {code : String} (plain : Unquoted code) : HasLiterals code [] := by
  intro rest
  have passed : ∀ chars, '\x22' ∉ chars → codeLiterals? (chars ++ rest) = codeLiterals? rest := by
    intro chars plain
    induction chars with
    | nil => rfl
    | cons c chars ih =>
      obtain ⟨first, later⟩ := not_or.mp (mt List.mem_cons.mpr plain)
      rw [List.cons_append, codeLiterals?_code (Ne.symm first), ih later]
  rw [passed code.toList plain]
  exact (congrFun Option.map_id _).symm

/-- Code without a quote in front of other code adds no literals. -/
theorem preceded (here : HasLiterals second texts) (plain : Unquoted first) :
    HasLiterals (first ++ second) texts :=
  (of_unquoted plain).append here

/-- Code without a quote behind other code adds no literals. -/
theorem followed (here : HasLiterals first texts) (plain : Unquoted second) :
    HasLiterals (first ++ second) texts := by
  have both := here.append (of_unquoted plain)
  rwa [List.append_nil] at both

/-- **A quoted text is one literal.** -/
theorem of_quoted (spelling : NulSpelling) (text : String) :
    HasLiterals (quoted spelling text) [text] :=
  fun rest => codeLiterals?_literal (readLiteral?_quoted spelling text rest)

end HasLiterals

/-! ### Code without quotes -/

theorem unquoted_append {first second : String} :
    Unquoted (first ++ second) ↔ Unquoted first ∧ Unquoted second := by
  unfold Unquoted
  rw [String.toList_append, List.mem_append, not_or]

theorem unquoted_ofList {chars : List Char} :
    Unquoted (String.ofList chars) ↔ '\x22' ∉ chars := by
  rw [Unquoted, String.toList_ofList]

theorem quote_notMem_of_digits {chars : List Char} (digits : ∀ c ∈ chars, c.isDigit = true) :
    '\x22' ∉ chars :=
  fun member => absurd (digits '\x22' member) (by decide)

theorem quote_notMem_digitChars (n : Nat) : '\x22' ∉ digitChars n :=
  quote_notMem_of_digits fun _ member =>
    Nat.isDigit_of_mem_toDigits (by decide) (by decide) member

theorem quote_notMem_of_denotesInteger {text : List Char} {n : Int}
    (denotes : DenotesInteger text n) : '\x22' ∉ text := by
  cases denotes with
  | unsigned numeral => exact quote_notMem_of_digits numeral.2
  | plus numeral | minus numeral =>
    exact List.not_mem_cons_of_ne_of_not_mem (by decide) (quote_notMem_of_digits numeral.2)

theorem unquoted_toString (n : Int) : Unquoted (toString n) :=
  quote_notMem_of_denotesInteger (denotesInteger_toString n)

theorem unquoted_positional (d : Decimal) : Unquoted d.positional := by
  have digits := quote_notMem_digitChars d.digits
  have zeros (count : Nat) : '\x22' ∉ List.replicate count '0' :=
    fun member => absurd (List.eq_of_mem_replicate member) (by decide)
  unfold Decimal.positional
  dsimp only
  split
  · refine unquoted_append.mpr ⟨unquoted_ofList.mpr ?_, by decide⟩
    rw [List.mem_append, not_or]
    exact ⟨digits, zeros _⟩
  · have padded (count : Nat) : '\x22' ∉ List.replicate count '0' ++ digitChars d.digits := by
      rw [List.mem_append, not_or]
      exact ⟨zeros count, digits⟩
    refine unquoted_ofList.mpr ?_
    rw [List.mem_append, List.mem_cons, not_or, not_or]
    exact ⟨fun front => padded _ (List.mem_of_mem_take front), by decide,
      fun back => padded _ (List.mem_of_mem_drop back)⟩

theorem unquoted_scientific (d : Decimal) : Unquoted d.scientific := by
  have digits := quote_notMem_digitChars d.digits
  unfold Decimal.scientific
  dsimp only
  refine unquoted_append.mpr ⟨unquoted_append.mpr ⟨unquoted_ofList.mpr ?_, by decide⟩,
    unquoted_toString d.leading⟩
  split
  · rename_i first single
    rwa [single] at digits
  · rename_i first rest _ several
    rw [several, List.mem_cons, not_or] at digits
    rw [List.mem_cons, List.mem_cons, not_or, not_or]
    exact ⟨digits.1, by decide, digits.2⟩
  · exact List.not_mem_nil

theorem unquoted_literal (format : FloatFormat) {typeName : String} (plain : Unquoted typeName)
    (bits : Nat) : Unquoted (format.literal typeName bits) := by
  unfold FloatFormat.literal
  split
  · exact unquoted_append.mpr ⟨plain, by decide⟩
  · refine unquoted_append.mpr ⟨plain, ?_⟩
    split <;> decide
  · refine unquoted_append.mpr ⟨?_, ?_⟩
    · unfold signText
      split <;> decide
    · split
      · decide
      · split
        · exact unquoted_scientific _
        · exact unquoted_positional _

/-! ### Lines of code -/

/-- **Lines of code have the given texts as literals**, and no literal goes on in the next line. -/
inductive Lines.HaveLiterals : Lines → List String → Prop
  | nil : HaveLiterals [] []
  | cons {line : String} {rest : Lines} {texts others : List String}
      (first : HasLiterals line texts) (later : HaveLiterals rest others) :
      HaveLiterals (line :: rest) (texts ++ others)

namespace Lines.HaveLiterals

variable {first second lines : Lines} {texts others : List String}

theorem append (one : HaveLiterals first texts) (two : HaveLiterals second others) :
    HaveLiterals (first ++ second) (texts ++ others) := by
  induction one with
  | nil => exact two
  | cons line _ ih =>
    rw [List.cons_append, List.append_assoc]
    exact .cons line ih

theorem of_unquoted (plain : ∀ line ∈ lines, Unquoted line) : HaveLiterals lines [] := by
  induction lines with
  | nil => exact .nil
  | cons line rest ih =>
    obtain ⟨first, later⟩ := List.forall_mem_cons.mp plain
    exact .cons (.of_unquoted first) (ih later)

/-- Lines that are written for items have the literals of the items. -/
theorem map {α : Type} {items : List α} {line : α → String} {literals : α → List String}
    (each : ∀ item ∈ items, HasLiterals (line item) (literals item)) :
    HaveLiterals (items.map line) (items.flatMap literals) := by
  induction items with
  | nil => exact .nil
  | cons item rest ih =>
    obtain ⟨first, later⟩ := List.forall_mem_cons.mp each
    exact .cons first (ih later)

theorem indent (here : HaveLiterals lines texts) : HaveLiterals (lines.indent) texts := by
  induction here with
  | nil => exact .nil
  | @cons line rest texts others first later ih =>
    have moved : HasLiterals (indentLine line) texts := by
      unfold indentLine
      split
      · exact first
      · exact first.preceded (by decide)
    exact .cons moved ih

/-- A block has the literals of its body. -/
theorem block {head : String} (plain : Unquoted head) (here : HaveLiterals lines texts) :
    HaveLiterals (Lines.block head lines) texts := by
  have opening : HasLiterals (head ++ " \x7b") [] :=
    .of_unquoted (unquoted_append.mpr ⟨plain, by decide⟩)
  have closed : HaveLiterals (Lines.indent lines ++ ["\x7d"]) (texts ++ []) :=
    here.indent.append (of_unquoted (by decide))
  rw [List.append_nil] at closed
  exact .cons opening closed

/-- **The text of lines has their literals.** -/
theorem text (here : HaveLiterals lines texts) : HasLiterals (Lines.text lines) texts := by
  induction here with
  | nil => exact .of_unquoted (by decide)
  | @cons line rest texts others first _ ih =>
    rw [← List.singleton_append, Lines.text_append]
    have ended : HasLiterals (Lines.text [line]) texts := by
      have single : Lines.text [line] = line ++ "\n" := by simp [Lines.text, String.join]
      rw [single]
      exact first.followed (by decide)
    exact ended.append ih

end Lines.HaveLiterals

/-! ### Expressions -/

namespace Expr

mutual

/-- **The texts in an expression**, in the order of writing. -/
def texts : Expr → List String
  | text value => [value]
  | call _ args => textsOfAll args
  | invoke target _ args => target.texts ++ textsOfAll args
  | _ => []

def textsOfAll : List Expr → List String
  | [] => []
  | arg :: args => arg.texts ++ textsOfAll args

end

mutual

/-- **The names in an expression**: those of constants, static members, paths and methods. -/
def names : Expr → List String
  | enumConstant enumName constant => [enumName, constant]
  | staticMember name => [name]
  | call path args => path :: namesOfAll args
  | invoke target method args => target.names ++ method :: namesOfAll args
  | _ => []

def namesOfAll : List Expr → List String
  | [] => []
  | arg :: args => arg.names ++ namesOfAll args

end

mutual

/-- **The literals of an expression are its texts**, if its names are without quotes. -/
theorem hasLiterals_source : ∀ {e : Expr}, (∀ name ∈ e.names, Unquoted name) →
    HasLiterals e.source e.texts
  | .text value, _ => .of_quoted .careful value
  | .boolean value, _ => .of_unquoted (by cases value <;> decide)
  | .int value, _ => .of_unquoted (unquoted_toString value.toInt)
  | .long value, _ => .of_unquoted (unquoted_toString value.toInt)
  | .float bits, _ => .of_unquoted (unquoted_literal _ (by decide) _)
  | .double bits, _ => .of_unquoted (unquoted_literal _ (by decide) _)
  | .enumConstant enumName constant, plain => by
    rw [names, List.forall_mem_cons, List.forall_mem_singleton] at plain
    exact .of_unquoted (unquoted_append.mpr ⟨unquoted_append.mpr ⟨plain.1, by decide⟩, plain.2⟩)
  | .staticMember name, plain => .of_unquoted (plain name List.mem_cons_self)
  | .call path args, plain => by
    rw [names, List.forall_mem_cons] at plain
    exact (hasLiterals_argumentList plain.2).preceded plain.1
  | .invoke target method args, plain => by
    rw [names, List.forall_mem_append, List.forall_mem_cons] at plain
    obtain ⟨inTarget, inMethod, inArgs⟩ := plain
    have called : HasLiterals (target.source ++ "." ++ method) target.texts :=
      ((hasLiterals_source inTarget).followed (by decide)).followed inMethod
    exact called.append (hasLiterals_argumentList inArgs)

theorem hasLiterals_argumentList : ∀ {args : List Expr},
    (∀ name ∈ namesOfAll args, Unquoted name) →
    HasLiterals (argumentList (writeAll .source args)) (textsOfAll args)
  | _, plain => ((hasLiterals_separated plain).preceded (by decide)).followed (by decide)

theorem hasLiterals_separated : ∀ {args : List Expr},
    (∀ name ∈ namesOfAll args, Unquoted name) →
    HasLiterals (", ".intercalate (writeAll .source args)) (textsOfAll args)
  | [], _ => .of_unquoted (by decide)
  | [arg], plain => by
    rw [namesOfAll, List.forall_mem_append] at plain
    have one := hasLiterals_source plain.1
    rwa [writeAll, writeAll, String.intercalate_singleton, textsOfAll, textsOfAll, List.append_nil]
  | arg :: next :: args, plain => by
    rw [namesOfAll, List.forall_mem_append] at plain
    have later := hasLiterals_separated plain.2
    rw [writeAll] at later
    rw [writeAll, writeAll, String.intercalate_cons_cons, textsOfAll]
    exact ((hasLiterals_source plain.1).followed (by decide)).append later

end

end Expr

/-! ### Fields and static members -/

/-- **The literals of the value of a field are the texts in its initializer.** -/
theorem Field.hasLiterals_sourceValue {field : Field} {expr : Expr}
    (initialized : field.initializer = some expr) (plain : ∀ name ∈ expr.names, Unquoted name) :
    HasLiterals field.sourceValue expr.texts := by
  have written := Expr.hasLiterals_source plain
  have bare : HasLiterals field.bareValue expr.texts := by
    unfold Field.bareValue Field.sourceValue
    rw [initialized]
    dsimp only
    rw [if_neg Bool.false_ne_true]
    split
    · exact (written.preceded (by decide)).followed (by decide)
    · exact written
  rw [sourceValue_eq]
  split
  · exact (bare.preceded (by decide)).followed (by decide)
  · exact bare

/-- The texts in the creation of a static member. If the creation may fail, the form of the message
that ends the program stands before the message. -/
def StaticInit.texts : StaticInit → List String
  | .value expr => expr.texts
  | .failFast create message => create.texts ++ ["\x7b\x7d: \x7b\x7d", message]

def StaticInit.names : StaticInit → List String
  | .value expr | .failFast expr _ => expr.names

/-- **The literals of the creation of a static member are its texts.** -/
theorem StaticInit.hasLiterals_source {init : StaticInit}
    (plain : ∀ name ∈ init.names, Unquoted name) : HasLiterals init.source init.texts := by
  cases init with
  | value expr => exact Expr.hasLiterals_source plain
  | failFast create message =>
    have created : HasLiterals ("match " ++ create.source) create.texts :=
      (Expr.hasLiterals_source plain).preceded (by decide)
    have form : HasLiterals " \x7b Ok(value) => value, Err(err) => panic!(\"\x7b\x7d: \x7b\x7d\", "
        ["\x7b\x7d: \x7b\x7d"] := by
      have written : " \x7b Ok(value) => value, Err(err) => panic!(\"\x7b\x7d: \x7b\x7d\", " =
          " \x7b Ok(value) => value, Err(err) => panic!(" ++
            quoted .careful "\x7b\x7d: \x7b\x7d" ++ ", " := by decide
      rw [written]
      exact ((HasLiterals.of_quoted _ _).preceded (by decide)).followed (by decide)
    have all := ((created.append form).append (.of_quoted .careful message)).followed
      (show Unquoted ", err) \x7d" by decide)
    rwa [List.append_assoc] at all

/-! ### Code that is written for a schema -/

theorem unquoted_of_isIdentifier {name : String} (valid : isIdentifier name = true) :
    Unquoted name :=
  notMem_of_isIdentifier valid (by decide)

/-- **The literals of the conversions of an enumeration are its values**, once in each conversion,
in the order of the constants. -/
theorem haveLiterals_conversionLines {constants : List EnumConstant}
    (plain : ∀ constant ∈ constants, Unquoted constant.name) :
    (Enumeration.conversionLines constants).HaveLiterals
      (constants.map (·.lexical) ++ constants.map (·.lexical)) := by
  have literal (constant : EnumConstant) :
      HasLiterals (sourceLiteral constant.lexical) [constant.lexical] :=
    .of_quoted .careful constant.lexical
  have arms : (Enumeration.lexicalArms constants).HaveLiterals (constants.map (·.lexical)) := by
    rw [List.map_eq_flatMap]
    refine .map fun constant here => ?_
    have pattern : Unquoted ("Self::" ++ constant.name ++ " => ") :=
      unquoted_append.mpr ⟨unquoted_append.mpr ⟨by decide, plain constant here⟩, by decide⟩
    exact ((literal constant).preceded pattern).followed (by decide)
  have back : (Enumeration.fromLexicalArms constants ++ ["_ => None,"]).HaveLiterals
      (constants.map (·.lexical) ++ []) := by
    refine .append ?_ (.of_unquoted (by decide))
    rw [List.map_eq_flatMap]
    refine .map fun constant here => ?_
    have opened := (literal constant).followed (show Unquoted " => Some(Self::" by decide)
    exact (opened.followed (plain constant here)).followed (by decide)
  rw [List.append_nil] at back
  have all : (Enumeration.conversionLines constants).HaveLiterals
      ([] ++ constants.map (·.lexical) ++ [] ++ constants.map (·.lexical)) :=
    .append (.append (.append (.of_unquoted (by decide))
      ((arms.block (by decide)).block (by decide))) (.of_unquoted (by decide)))
      ((back.block (by decide)).block (by decide))
  rwa [List.nil_append, List.append_nil] at all

/-- The texts in an initializer that is written for a fixed value of a type. -/
def FieldType.textsFor (type : FieldType) (value : String) : List String :=
  match type with
  | .text | .calendar => [value]
  | _ => []

/-- The texts in the default value of a field. -/
def Field.defaultTexts (field : Field) : List String :=
  if field.initializer.isSome then field.fixedText?.toList.flatMap field.type.textsFor else []

section

variable {enums : List Enumeration} {statics : List StaticMember} {value : String}
  {type : FieldType} {expr : Expr}

/-- Only texts and dates have the fixed value in their initializer. -/
theorem Suits.texts_eq (suits : Suits enums statics value type expr) :
    expr.texts = type.textsFor value := by
  cases suits <;> rfl

/-- The names in an initializer are those of an enumeration and of one of its constants, or of a
static member and of the method that dates are built with. -/
theorem Suits.unquoted_names (suits : Suits enums statics value type expr)
    (enumerations : ∀ e ∈ enums, Unquoted e.name ∧ ∀ constant ∈ e.constants, Unquoted constant.name)
    (members : ∀ member ∈ statics, Unquoted member.name) : ∀ name ∈ expr.names, Unquoted name := by
  cases suits with
  | text | boolean | byte | short | int | long | float | double =>
    exact List.forall_mem_nil _
  | enumeration first member =>
    obtain ⟨unquoted, constants⟩ := enumerations _ (List.mem_of_find?_eq_some first)
    have named := List.find?_some first
    rw [beq_iff_eq] at named
    rw [named] at unquoted
    exact List.forall_mem_cons.mpr ⟨unquoted, List.forall_mem_singleton.mpr (constants _ member)⟩
  | calendar member =>
    exact List.forall_mem_cons.mpr ⟨members _ member, List.forall_mem_singleton.mpr (by decide)⟩

end

section

variable {model : Model} {lines : Lines}

theorem unquoted_of_source (written : model.source = .ok lines) :
    ∀ name ∈ model.declaredNames, Unquoted name := by
  rw [Model.source_eq, checkAll_eq_ok_iff] at written
  exact fun name declared => unquoted_of_isIdentifier (written.1 name declared)

theorem unquoted_of_enumeration (plain : ∀ name ∈ model.declaredNames, Unquoted name)
    {enumeration : Enumeration} (here : enumeration ∈ model.enums) :
    Unquoted enumeration.name ∧
      ∀ constant ∈ enumeration.constants, Unquoted constant.name := by
  refine ⟨plain _ (mem_declaredNames_of_enumeration here), fun constant member => plain _ ?_⟩
  refine List.mem_append_left _ (List.mem_cons_of_mem _ (List.mem_flatMap.mpr ⟨_, here, ?_⟩))
  exact List.mem_cons_of_mem _ (List.mem_map_of_mem member)

/-- Static members are written, and so their names are checked. -/
theorem unquoted_of_static (plain : ∀ name ∈ model.declaredNames, Unquoted name) {c : DataClass}
    (here : c ∈ model.classes) {member : StaticMember} (inside : member ∈ c.statics) :
    Unquoted member.name := by
  refine plain _ (List.mem_append_right _ (List.mem_flatMap.mpr ⟨c, here, ?_⟩))
  have custom : c.hasInitializers = true :=
    DataClass.hasInitializers_iff.mpr (.inl (List.ne_nil_of_mem inside))
  rw [DataClass.declaredNames, if_pos custom]
  exact List.mem_append_right _ (List.mem_map_of_mem inside)

/-- The literals in the line of a field that is well initialized are the texts of its default
value. -/
theorem Field.hasLiterals_valueLine {c : DataClass} {field : Field}
    (plain : ∀ name ∈ model.declaredNames, Unquoted name) (here : c ∈ model.classes)
    (inside : field ∈ c.fields) (suits : field.WellInitialized model.enums c.statics) :
    HasLiterals field.valueLine field.defaultTexts := by
  have value : HasLiterals field.sourceValue field.defaultTexts := by
    unfold Field.defaultTexts
    cases initialized : field.initializer with
    | none =>
      unfold Field.sourceValue
      rw [initialized]
      exact .of_unquoted (show Unquoted "Default::default()" by decide)
    | some expr =>
      obtain ⟨-, occurs, decl, value, origin, fixed, suits⟩ := suits expr initialized
      have text : field.fixedText? = some value := by
        rw [Field.fixedText?, origin]
        exact fixed
      have names := suits.unquoted_names (fun _ => unquoted_of_enumeration plain)
        fun _ => unquoted_of_static plain here
      have literals := Field.hasLiterals_sourceValue initialized names
      rw [suits.texts_eq] at literals
      rw [text, Option.isSome_some, if_pos rfl, Option.toList_some, List.flatMap_singleton]
      exact literals
  have name : Unquoted (field.name ++ ": ") :=
    unquoted_append.mpr ⟨plain _ (mem_declaredNames_of_field here inside), by decide⟩
  exact (value.preceded name).followed (by decide)

end

section

variable {settings : Settings} {schema : Schema} {c : DataClass}

/-- The literals in the line of a slot: the form of a message, and the message. -/
theorem hasLiterals_slotLine (name : Unquoted settings.slotName)
    (type : Unquoted settings.slotType) :
    HasLiterals settings.slot.sourceLine
      ["\x7b\x7d: \x7b\x7d", factoryFailure settings.slotType] := by
  have plain : ∀ name ∈ settings.slot.init.names, Unquoted name := by
    intro name member
    obtain rfl := List.mem_singleton.mp member
    exact unquoted_append.mpr ⟨type, by decide⟩
  have created : HasLiterals settings.slot.init.source
      ["\x7b\x7d: \x7b\x7d", factoryFailure settings.slotType] :=
    StaticInit.hasLiterals_source plain
  have opening : Unquoted ("static " ++ settings.slot.name ++ ": std::sync::LazyLock<" ++
      settings.slot.typeName ++ "> = std::sync::LazyLock::new(|| ") := by
    simp only [unquoted_append]
    exact ⟨⟨⟨⟨by decide, name⟩, by decide⟩, type⟩, by decide⟩
  exact (created.preceded opening).followed (by decide)

/-- **The literals of a default value are those of the static members and the texts of the
fields**, in order. -/
theorem haveLiterals_defaultLines
    (here : c ∈ ((settings.modelOf schema).applyFixedValues settings).model.classes)
    (plain : ∀ name ∈ ((settings.modelOf schema).applyFixedValues settings).model.declaredNames,
      Unquoted name)
    (type : c.statics ≠ [] → Unquoted settings.slotType) :
    c.defaultLines.HaveLiterals
      (c.statics.flatMap (fun _ => ["\x7b\x7d: \x7b\x7d", factoryFailure settings.slotType]) ++
        c.fields.flatMap Field.defaultTexts) := by
  obtain ⟨suits, slot⟩ := initialized_of_pass here
  have statics : Lines.HaveLiterals (c.statics.map StaticMember.sourceLine)
      (c.statics.flatMap fun _ =>
        ["\x7b\x7d: \x7b\x7d", factoryFailure settings.slotType]) := by
    refine .map fun member inside => ?_
    have name := unquoted_of_static plain here inside
    rw [slot member inside] at name ⊢
    exact hasLiterals_slotLine name (type (List.ne_nil_of_mem inside))
  have fields : Lines.HaveLiterals (c.fields.map Field.valueLine)
      (c.fields.flatMap Field.defaultTexts) :=
    .map fun field inside => field.hasLiterals_valueLine plain here inside (suits field inside)
  have named : Unquoted ("impl Default for " ++ c.name) :=
    unquoted_append.mpr ⟨by decide, plain _ (mem_declaredNames_of_class here)⟩
  have value : (Lines.block "fn default() -> Self"
      (c.statics.map StaticMember.sourceLine ++
        Lines.block "Self" (c.fields.map Field.valueLine))).HaveLiterals _ :=
    (statics.append (fields.block (by decide))).block (by decide)
  have all : c.defaultLines.HaveLiterals (_ ++ []) :=
    (value.block named).append (.of_unquoted (by decide))
  rwa [List.append_nil] at all

end

/-- What is written for one of several items stands in what is written for all of them. -/
theorem infix_flatMap_of_mem {α β : Type} {items : List α} {item : α} (f : α → List β)
    (here : item ∈ items) : f item <:+: items.flatMap f := by
  obtain ⟨before, behind, rfl⟩ := List.append_of_mem here
  rw [List.flatMap_append, List.flatMap_cons]
  exact ⟨before.flatMap f, behind.flatMap f, List.append_assoc _ _ _⟩

/-- **Literals in generated code denote the texts of the schema.** A text is written as one complete
literal, which is read as this text whatever follows it; so different texts are written as different
literals. In code that is written after a fixed-value pass, the literals of the conversions of an
enumeration are its values, once in each conversion. The literals of a default value are, for each
static member, the form of its message and the message, and then the fixed values that are written
as texts or dates, in the order of the fields. There are no others, provided that the settings name
a type without quotes for static members. -/
theorem literals_denote_texts :
    (∀ text rest, readLiteral? ((Expr.text text).source.toList ++ rest) = some (text, rest)) ∧
      (Function.Injective fun text => (Expr.text text).source) ∧
      ∀ (schema : Schema) (settings : Settings) (lines : Lines),
        let pass := (settings.modelOf schema).applyFixedValues settings
        pass.model.source = .ok lines →
          (∀ enumeration ∈ pass.model.enums,
            let conversions := Lines.block ("impl " ++ enumeration.name)
              (Enumeration.conversionLines enumeration.constants)
            let values := enumeration.constants.map (·.lexical)
            conversions <:+: lines ∧ HasLiterals (Lines.text conversions) (values ++ values)) ∧
          ∀ c ∈ pass.model.classes,
            (c.hasInitializers = true → c.defaultLines <:+: lines) ∧
              ((c.statics ≠ [] → Unquoted settings.slotType) →
                HasLiterals (Lines.text c.defaultLines)
                  (c.statics.flatMap
                      (fun _ => ["\x7b\x7d: \x7b\x7d", factoryFailure settings.slotType]) ++
                    c.fields.flatMap Field.defaultTexts)) := by
  have read (text : String) (rest : List Char) :
      readLiteral? ((Expr.text text).source.toList ++ rest) = some (text, rest) :=
    readLiteral?_quoted .careful text rest
  refine ⟨read, fun first second same => ?_, ?_⟩
  · have literal : (Expr.text first).source = (Expr.text second).source := same
    have found := read first []
    rw [literal, read second []] at found
    exact (Prod.mk.inj (Option.some.inj found)).1.symm
  · intro schema settings lines pass written
    have plain := unquoted_of_source written
    rw [Model.source_eq, checkAll_eq_ok_iff] at written
    obtain ⟨-, rfl⟩ := written
    refine ⟨fun enumeration here => ?_, fun c here => ⟨fun custom => ?_, fun type => ?_⟩⟩
    · intro conversions values
      obtain ⟨name, constants⟩ := unquoted_of_enumeration plain here
      refine ⟨?_, ?_⟩
      · have inside : conversions <:+: enumeration.lines := ⟨_, [""], rfl⟩
        refine inside.trans ((infix_flatMap_of_mem Enumeration.lines here).trans ?_)
        exact ⟨_, _, (List.append_assoc _ _ _).symm⟩
      · exact ((haveLiterals_conversionLines constants).block
          (unquoted_append.mpr ⟨by decide, name⟩)).text
    · have inside : c.defaultLines <:+: c.lines := by
        rw [DataClass.lines, if_pos custom]
        exact (List.suffix_append _ _).isInfix
      exact inside.trans ((infix_flatMap_of_mem DataClass.lines here).trans ⟨_, _, rfl⟩)
    · exact (haveLiterals_defaultLines here plain type).text

/-- A type with a text, a constant and a date that are fixed, the first two of them with quotes. -/
def quotation : Schema where
  simpleTypes := [{ name := "mark", enumerations := ["\x22", "\\"] }]
  complexTypes := [{
    name := "quotation"
    particles := [.compositor {} .sequence [
      .element { min := 0 } { name := "text", typeName := "xs:string", fixedValue := "\x22\\" },
      .element {} { name := "mark", typeName := "mark", fixedValue := "\x22" },
      .element {} { name := "day", typeName := "xs:date", fixedValue := "2020-02-29" }]] }]

/-- The code of a quotation has its texts as literals, quotes and backslashes included. -/
theorem literals_denote_texts_quotation :
    let pass := (Settings.modelOf {} quotation).applyFixedValues {}
    ∃ lines, pass.model.source = .ok lines ∧
      (∃ enumeration ∈ pass.model.enums,
        let conversions := Lines.block ("impl " ++ enumeration.name)
          (Enumeration.conversionLines enumeration.constants)
        conversions <:+: lines ∧
          HasLiterals (Lines.text conversions) ["\x22", "\\", "\x22", "\\"]) ∧
      ∃ c ∈ pass.model.classes, c.defaultLines <:+: lines ∧
        HasLiterals (Lines.text c.defaultLines) ["\x7b\x7d: \x7b\x7d",
          "Unable to initialize DatatypeFactory", "\x22\\", "2020-02-29"] := by
  intro pass
  have written : pass.model.source.toOption.isSome = true := by decide +kernel
  have marks : pass.model.enums.map (·.constants.map (·.lexical)) = [["\x22", "\\"]] := by
    decide +kernel
  have texts : pass.model.classes.map (fun c =>
      (c.hasInitializers, c.statics.flatMap (fun _ => ["\x7b\x7d: \x7b\x7d",
        factoryFailure "DatatypeFactory"]) ++ c.fields.flatMap Field.defaultTexts)) =
        [(true, ["\x7b\x7d: \x7b\x7d", "Unable to initialize DatatypeFactory", "\x22\\",
          "2020-02-29"])] := by
    decide +kernel
  obtain ⟨lines, kept⟩ := Option.isSome_iff_exists.mp written
  have generated := ok_of_toOption kept
  obtain ⟨conversions, defaults⟩ := literals_denote_texts.2.2 quotation {} lines generated
  obtain ⟨enumeration, enums, values⟩ := List.map_eq_singleton_iff.mp marks
  obtain ⟨c, classes, shown⟩ := List.map_eq_singleton_iff.mp texts
  obtain ⟨custom, shown⟩ := Prod.mk.inj shown
  have enumeration_mem : enumeration ∈ pass.model.enums := enums ▸ List.mem_singleton_self _
  have class_mem : c ∈ pass.model.classes := classes ▸ List.mem_singleton_self _
  refine ⟨lines, generated, ⟨enumeration, enumeration_mem, ?_⟩, c, class_mem, ?_⟩
  · have written := conversions enumeration enumeration_mem
    dsimp only at written
    rwa [values] at written
  · obtain ⟨inside, literals⟩ := defaults c class_mem
    refine ⟨inside custom, ?_⟩
    rw [← shown]
    exact literals fun _ => by decide

end SchemaBinding
