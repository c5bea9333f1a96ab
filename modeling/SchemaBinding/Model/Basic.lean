/-
**The model of the types to be generated.**

A model holds the classes and the enumerations of one generated module. A class has fields, each
with the schema component that it stems from, and static members, which are added to it later. Its
members have different names as long as they are added by `addStatic`; a field takes an initializer
once (`setInitializer`).
-/

import SchemaBinding.Expr
import SchemaBinding.Naming.Derived
import SchemaBinding.Schema.Lexical

namespace SchemaBinding

inductive FieldType
  | text
  | boolean
  | byte
  | short
  | int
  | long
  | float
  | double
  /-- A date or time, built through a factory. -/
  | calendar
  | enumeration (name : String)
  | dataClass (name : String)
  /-- A type from outside, with the name that it has in the schema and the one that is emitted. -/
  | foreign (name typeName : String)
deriving DecidableEq, Repr, Inhabited

namespace FieldType

def typeName : FieldType → String
  | text => "String"
  | boolean => "bool"
  | byte => "i8"
  | short => "i16"
  | int => "i32"
  | long => "i64"
  | float => "f32"
  | double => "f64"
  | calendar => "XmlGregorianCalendar"
  | enumeration name => name
  | dataClass name => name
  | foreign _ typeName => typeName

/-- The type of the values of a built-in type that has the given local name. -/
def ofBuiltin (builtin : BuiltinType) (name : String) : FieldType :=
  match builtin with
  | .string => text
  | .boolean => boolean
  | .byte => byte
  | .short => short
  | .int => int
  | .long => long
  | .float => float
  | .double => double
  | .calendar => calendar
  | .decimal => foreign name "BigDecimal"
  | .integer => foreign name "BigInteger"
  | .duration => foreign name "Duration"
  | .binary => foreign name "Vec<u8>"
  | .qualifiedName => foreign name "QName"

/-- The type of content that is not restricted at all. -/
def anyType : FieldType := foreign "anyType" "AnyElement"

end FieldType

/-- The schema component that a field stems from. -/
inductive Origin
  | particle (particle : Particle)
  | attribute (decl : AttributeDecl)
  /-- No component of its own, as for simple content. -/
  | synthetic
deriving Repr, Inhabited

structure Field where
  name : String
  schemaName : String
  type : FieldType
  origin : Origin
  optional : Bool := false
  repeated : Bool := false
  initializer : Option Expr := none
deriving Repr, Inhabited

def Field.ofSchemaName (schemaName : String) (type : FieldType) (origin : Origin) : Field where
  name := fieldName schemaName
  schemaName
  type
  origin

/-- How a static member gets its value. -/
inductive StaticInit
  | value (expr : Expr)
  /-- By an expression that may fail; failure ends the program with a message. -/
  | failFast (create : Expr) (message : String)
deriving Repr, Inhabited

structure StaticMember where
  name : String
  typeName : String
  init : StaticInit
deriving Repr, Inhabited

inductive MemberFault
  | duplicateMember (className member : String)
  | initializerAlreadySet (field : String)
deriving DecidableEq, Repr

def MemberFault.message : MemberFault → String
  | .duplicateMember className member =>
    s!"class '{className}' already declares a member named '{member}'"
  | .initializerAlreadySet field => s!"field '{field}' already has an initializer"

/-- Gives a field its initializer, which it must not have yet. -/
def Field.setInitializer (field : Field) (expr : Expr) : Except MemberFault Field :=
  match field.initializer with
  | some _ => .error (.initializerAlreadySet field.name)
  | none => .ok { field with initializer := some expr }

structure DataClass where
  name : String
  schemaName : String
  fields : List Field := []
  statics : List StaticMember := []
deriving Repr, Inhabited

namespace DataClass

/-- A class named after a schema component, without members. -/
def ofSchemaName (schemaName : String) : DataClass := { name := pascalCase schemaName, schemaName }

def field? (c : DataClass) (name : String) : Option Field := c.fields.find? (·.name == name)

def static? (c : DataClass) (name : String) : Option StaticMember :=
  c.statics.find? (·.name == name)

def memberNames (c : DataClass) : List String := c.fields.map (·.name) ++ c.statics.map (·.name)

def hasMember (c : DataClass) (name : String) : Bool := c.memberNames.contains name

/-- Adds a static member, whose name must not be taken yet. -/
def addStatic (c : DataClass) (member : StaticMember) : Except MemberFault DataClass :=
  if c.hasMember member.name then .error (.duplicateMember c.name member.name)
  else .ok { c with statics := c.statics ++ [member] }

/-- Whether the class needs more than the defaults of the types of its fields. -/
def hasInitializers (c : DataClass) : Bool :=
  !c.statics.isEmpty || c.fields.any (·.initializer.isSome)

theorem hasMember_iff {c : DataClass} {name : String} :
    c.hasMember name = true ↔ name ∈ c.memberNames := by
  simp [hasMember]

/-- Adding a member keeps the names of the members different. -/
theorem nodup_memberNames_of_addStatic {c d : DataClass} {member : StaticMember}
    (distinct : c.memberNames.Nodup) (added : c.addStatic member = .ok d) :
    d.memberNames.Nodup := by
  unfold addStatic at added
  split at added
  · simp at added
  · rename_i fresh
    rw [hasMember_iff] at fresh
    rw [Except.ok.injEq] at added
    rw [← added]
    simp only [memberNames, List.map_append, List.map_cons, List.map_nil] at *
    rw [← List.append_assoc, List.nodup_append]
    refine ⟨distinct, by simp, ?_⟩
    intro name old other new same
    rw [List.mem_singleton] at new
    exact fresh (new ▸ same ▸ old)

end DataClass

/-- A constant of a generated enumeration, and the value in the schema that it stands for. -/
structure EnumConstant where
  name : String
  lexical : String
deriving DecidableEq, Repr, Inhabited

structure Enumeration where
  name : String
  schemaName : String
  constants : List EnumConstant
deriving DecidableEq, Repr, Inhabited

/-- All that is generated into one module. -/
structure Model where
  package : String := ""
  classes : List DataClass := []
  enums : List Enumeration := []
deriving Repr, Inhabited

namespace Model

def class? (model : Model) (name : String) : Option DataClass :=
  model.classes.find? (·.name == name)

def enumeration? (model : Model) (name : String) : Option Enumeration :=
  model.enums.find? (·.name == name)

end Model

end SchemaBinding
