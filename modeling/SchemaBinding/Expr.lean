/-
**Initializer expressions.**

An expression is a literal, a constant of a generated enumeration, a static member of the enclosing
class, or a call. Floating-point literals are kept as bit patterns, so that equal expressions are
equal as data. An expression is written in one of two styles, which differ in the spelling of
strings and of floating-point numbers only: `display` is the style of messages, `source` that of
generated code.
-/

import SchemaBinding.Number.FloatText
import SchemaBinding.Text.Quoted

namespace SchemaBinding

/-- An expression that initializes a field or a static member. -/
inductive Expr
  | text (value : String)
  | boolean (value : Bool)
  | int (value : Int32)
  | long (value : Int64)
  | float (bits : UInt32)
  | double (bits : UInt64)
  | enumConstant (enumName constant : String)
  | staticMember (name : String)
  /-- A call of an associated function. -/
  | call (path : String) (args : List Expr)
  | invoke (target : Expr) (method : String) (args : List Expr)
deriving Repr, Inhabited

/-- The spelling of the literals for which styles differ. -/
structure ExprStyle where
  text : String → String
  float : UInt32 → String
  double : UInt64 → String

namespace ExprStyle

def display : ExprStyle where
  text := quoted .short
  float bits := FloatFormat.single.display bits.toNat
  double bits := FloatFormat.double.display bits.toNat

def source : ExprStyle where
  text := quoted .careful
  float bits := FloatFormat.single.literal "f32" bits.toNat
  double bits := FloatFormat.double.literal "f64" bits.toNat

end ExprStyle

namespace Expr

def argumentList (args : List String) : String := "(" ++ ", ".intercalate args ++ ")"

mutual

def write (style : ExprStyle) : Expr → String
  | text value => style.text value
  | boolean value => if value then "true" else "false"
  | int value => toString value.toInt
  | long value => toString value.toInt
  | float bits => style.float bits
  | double bits => style.double bits
  | enumConstant enumName constant => enumName ++ "::" ++ constant
  | staticMember name => name
  | call path args => path ++ argumentList (writeAll style args)
  | invoke target method args =>
    write style target ++ "." ++ method ++ argumentList (writeAll style args)

def writeAll (style : ExprStyle) : List Expr → List String
  | [] => []
  | arg :: args => write style arg :: writeAll style args

end

def display (e : Expr) : String := e.write .display

def source (e : Expr) : String := e.write .source

/-- The static member that an expression reads through, if it is one or calls a method of one. -/
def staticTarget? : Expr → Option String
  | staticMember name => some name
  | invoke target _ _ => target.staticTarget?
  | _ => none

theorem writeAll_eq_map (style : ExprStyle) (args : List Expr) :
    writeAll style args = args.map (write style) := by
  induction args with
  | nil => rfl
  | cons arg args ih => rw [writeAll, ih, List.map_cons]

end Expr

end SchemaBinding
