/-
**Where references to types lead.**

A simple type without enumerated values leads on to the local name of its base (`Schema.LeadsTo`). A
name that does not lead on means a type by itself (`Schema.Means`): an enumeration, a class, a
built-in type or, if nothing is known under the name, a type of that name from outside. A reference
is followed to such a name, and given up after sixteen moves.

A reference that is given up, or ends at a name under which nothing is known, ends nowhere
(`Schema.EndsNowhere`), and its type is named after the last name that was reached.

`resolveType_followed`: the type of a reference is what the name means that it is followed to within
fifteen moves, or is named after the sixteenth name on its way if there is no such name.
-/

import SchemaBinding.Model.TypeReference

namespace SchemaBinding

namespace Schema

/-- **From one name to another over bases of simple types**, in so many moves. -/
inductive LeadsTo (schema : Schema) : (moves : Nat) → (name last : String) → Prop
  | here (name : String) : LeadsTo schema 0 name name
  | base {moves : Nat} {name last : String} {simple : SimpleType}
      (found : schema.simpleType? name = some simple) (plain : simple.isEnumeration = false)
      (further : LeadsTo schema moves (localName simple.base) last) :
      LeadsTo schema (moves + 1) name last

/-- **Nothing is known under a name**: no type of the schema, and no built-in one. -/
structure IsUnknown (schema : Schema) (name : String) : Prop where
  simple : schema.simpleType? name = none
  complex : schema.complexType? name = none
  builtin : BuiltinType.ofName? name = none

/-- **What a name means that does not lead on.** Types of the schema come before built-in ones. -/
inductive Means (schema : Schema) (name : String) : FieldType → Prop
  | enumeration {simple : SimpleType} (found : schema.simpleType? name = some simple)
      (values : simple.isEnumeration = true) :
      Means schema name (.enumeration (pascalCase name))
  | dataClass {complex : ComplexType} (simple : schema.simpleType? name = none)
      (found : schema.complexType? name = some complex) :
      Means schema name (.dataClass (pascalCase name))
  | builtin {builtin : BuiltinType} (simple : schema.simpleType? name = none)
      (complex : schema.complexType? name = none) (found : BuiltinType.ofName? name = some builtin) :
      Means schema name (.ofBuiltin builtin name)
  | unknown (unknown : schema.IsUnknown name) : Means schema name (.unknown name)

/-- **A reference ends nowhere**, and a name is the last on its way. -/
inductive EndsNowhere (schema : Schema) (name last : String) : Prop
  | unknown {moves : Nat} (few : moves < maxResolveDepth) (leads : schema.LeadsTo moves name last)
      (unknown : schema.IsUnknown last)
  | givenUp (leads : schema.LeadsTo maxResolveDepth name last)

end Schema

section

variable {schema : Schema}

theorem name_of_simpleType? {name : String} {simple : SimpleType}
    (found : schema.simpleType? name = some simple) : simple.name = name := by
  simpa using List.find?_some found

/-! ### Following a reference -/

/-- A reference leads to the type that any name on its way leads to. -/
theorem resolveName_of_leadsTo {moves : Nat} {name last : String}
    (leads : schema.LeadsTo moves name last) (steps : Nat) :
    schema.resolveName (steps + moves) name = schema.resolveName steps last := by
  induction leads with
  | here name => rfl
  | base found plain _ ih =>
    rw [← Nat.add_assoc, Schema.resolveName, found]
    simp only [plain, Bool.false_eq_true, if_false]
    exact ih

theorem resolveName_of_means {name : String} {type : FieldType} (means : schema.Means name type)
    (steps : Nat) : schema.resolveName (steps + 1) name = type := by
  rw [Schema.resolveName]
  cases means with
  | enumeration found values =>
    simp only [found, values, if_true, name_of_simpleType? found]
  | dataClass simple found =>
    simp only [simple, found, Option.isSome_some, if_true]
  | builtin simple complex found =>
    simp only [simple, complex, found, Option.isSome_none, Bool.false_eq_true, if_false]
  | unknown unknown =>
    simp only [unknown.simple, unknown.complex, unknown.builtin, Option.isSome_none,
      Bool.false_eq_true, if_false]

/-- A name means a type or leads on. -/
theorem means_or_leads (schema : Schema) (name : String) :
    (∃ type, schema.Means name type) ∨ ∃ next, schema.LeadsTo 1 name next := by
  cases simple : schema.simpleType? name with
  | some type =>
    by_cases values : type.isEnumeration = true
    · exact .inl ⟨_, .enumeration simple values⟩
    · exact .inr ⟨_, .base simple (Bool.eq_false_iff.mpr values) (.here _)⟩
  | none =>
    left
    cases complex : schema.complexType? name with
    | some type => exact ⟨_, .dataClass simple complex⟩
    | none =>
      cases builtin : BuiltinType.ofName? name with
      | some type => exact ⟨_, .builtin simple complex builtin⟩
      | none => exact ⟨_, .unknown ⟨simple, complex, builtin⟩⟩

theorem Schema.LeadsTo.trans {first second : Nat} {name middle last : String}
    (start : schema.LeadsTo first name middle) (rest : schema.LeadsTo second middle last) :
    schema.LeadsTo (second + first) name last := by
  induction start with
  | here name => exact rest
  | base found plain _ ih => exact .base found plain (ih rest)

/-- **Every reference comes to an end or has to be given up.** The way is gone move by move, and at
each name that it reaches, the name means a type or leads on. -/
theorem ends_or_leads (schema : Schema) (steps : Nat) (name : String) :
    (∃ moves last type, moves < steps ∧ schema.LeadsTo moves name last ∧ schema.Means last type) ∨
      ∃ last, schema.LeadsTo steps name last := by
  induction steps with
  | zero => exact .inr ⟨name, .here name⟩
  | succ steps ih =>
    rcases ih with ⟨moves, last, type, few, leads, means⟩ | ⟨last, leads⟩
    · exact .inl ⟨moves, last, type, Nat.lt_succ_of_lt few, leads, means⟩
    · rcases means_or_leads schema last with ⟨type, means⟩ | ⟨next, move⟩
      · exact .inl ⟨steps, last, type, Nat.lt_succ_self steps, leads, means⟩
      · refine .inr ⟨next, ?_⟩
        rw [Nat.add_comm]
        exact leads.trans move

theorem resolveName_of_ends {moves : Nat} {name last : String} {type : FieldType}
    (few : moves < maxResolveDepth) (leads : schema.LeadsTo moves name last)
    (means : schema.Means last type) : schema.resolveName maxResolveDepth name = type := by
  -- One step is left for the last name itself.
  obtain ⟨steps, enough⟩ := Nat.exists_eq_add_of_lt few
  have split : maxResolveDepth = (steps + 1) + moves := by omega
  rw [split, resolveName_of_leadsTo leads, resolveName_of_means means]

/-- **A reference that ends nowhere has a type of the last name.** -/
theorem resolveName_of_endsNowhere {name last : String} (nowhere : schema.EndsNowhere name last) :
    schema.resolveName maxResolveDepth name = .unknown last := by
  cases nowhere with
  | unknown few leads unknown => exact resolveName_of_ends few leads (.unknown unknown)
  | givenUp leads =>
    have followed := resolveName_of_leadsTo leads 0
    rw [Nat.zero_add] at followed
    exact followed

/-- **Types of the schema come before built-in ones**: a name of one means a generated type. -/
theorem generated_of_hasType {name : String} {type : FieldType} (means : schema.Means name type)
    (known : schema.hasType name = true) :
    type = .enumeration (pascalCase name) ∨ type = .dataClass (pascalCase name) := by
  have absent (simple : schema.simpleType? name = none)
      (complex : schema.complexType? name = none) : schema.hasType name = false := by
    rw [Schema.hasType_eq, simple, complex]
    rfl
  cases means with
  | enumeration => exact .inl rfl
  | dataClass => exact .inr rfl
  | builtin simple complex _ => exact absurd known (Bool.eq_false_iff.mp (absent simple complex))
  | unknown unknown =>
    exact absurd known (Bool.eq_false_iff.mp (absent unknown.simple unknown.complex))

end

/-- **The type that a reference to a type leads to.** The reference is followed by its local name,
over the local names of the bases of simple types without enumerated values. If a name that does not
lead on is reached in at most fifteen moves, the type is what that name means: an enumeration, a
class, a built-in type or, if nothing is known under the name, a type of that name from outside. If
all of the first sixteen names lead on, it is a type from outside of the name that is reached after
sixteen moves. A name that is one of a type of the schema means an enumeration or a class, even if a
built-in type has it as well. -/
theorem resolveType_followed (schema : Schema) (reference : String) :
    (∀ type, schema.resolveType (some reference) = type ↔
      (∃ moves last, moves ≤ 15 ∧ schema.LeadsTo moves (localName reference) last ∧
        schema.Means last type) ∨
      ∃ last, schema.LeadsTo 16 (localName reference) last ∧
        type = .foreign last (pascalCase last)) ∧
    ∀ name type, schema.hasType name = true → schema.Means name type →
      type = .enumeration (pascalCase name) ∨ type = .dataClass (pascalCase name) := by
  refine ⟨fun type => ⟨?_, ?_⟩, fun _ _ known means => generated_of_hasType means known⟩
  · rintro rfl
    rcases ends_or_leads schema maxResolveDepth (localName reference) with
      ⟨moves, last, type, few, leads, means⟩ | ⟨last, leads⟩
    · have same : schema.resolveType (some reference) = type := resolveName_of_ends few leads means
      rw [same]
      exact .inl ⟨moves, last, Nat.le_of_lt_succ few, leads, means⟩
    · exact .inr ⟨last, leads, resolveName_of_endsNowhere (.givenUp leads)⟩
  · rintro (⟨moves, last, few, leads, means⟩ | ⟨last, leads, rfl⟩)
    · exact resolveName_of_ends (Nat.lt_succ_of_le few) leads means
    · exact resolveName_of_endsNowhere (.givenUp leads)

/-- A schema has a class under the name of a built-in type, and under that of another one a simple
type that is based on itself. -/
def diarySchema : Schema where
  simpleTypes := [{ name := "string", base := "xs:string" }, { name := "day", base := "xs:date" }]
  complexTypes := [{ name := "date" }]

/-- A day of the diary is what the schema calls a date, and its strings are followed in a circle
until they are given up. -/
theorem resolveType_followed_diarySchema :
    diarySchema.resolveType (some "d:day") = .dataClass "Date" ∧
      diarySchema.resolveType (some "xs:string") = .foreign "string" "String" ∧
      diarySchema.hasType "date" = true ∧
      diarySchema.Means "date" (.dataClass (pascalCase "date")) ∧
      (FieldType.dataClass (pascalCase "date") = .enumeration (pascalCase "date") ∨
        FieldType.dataClass (pascalCase "date") = .dataClass (pascalCase "date")) := by
  have shadowed : diarySchema.Means "date" (.dataClass (pascalCase "date")) :=
    .dataClass (by decide +kernel) rfl
  have day : diarySchema.simpleType? "day" = some { name := "day", base := "xs:date" } := by
    decide +kernel
  have string : diarySchema.simpleType? "string" =
      some { name := "string", base := "xs:string" } := by decide +kernel
  have move : diarySchema.LeadsTo 1 "day" "date" := .base day rfl (.here "date")
  have circle (moves : Nat) : diarySchema.LeadsTo moves "string" "string" := by
    induction moves with
    | zero => exact .here "string"
    | succ moves ih => exact .base string rfl ih
  have known : diarySchema.hasType "date" = true := by decide +kernel
  obtain ⟨followed, generated⟩ := resolveType_followed diarySchema "d:day"
  refine ⟨(followed _).mpr (.inl ⟨1, "date", by decide, move, shadowed⟩), ?_, known, shadowed,
    generated "date" _ known shadowed⟩
  have givenUp := (resolveType_followed diarySchema "xs:string").1
  exact (givenUp _).mpr (.inr ⟨"string", circle 16, rfl⟩)

end SchemaBinding
