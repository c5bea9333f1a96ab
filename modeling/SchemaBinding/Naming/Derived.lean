/-
**Names derived from names of a schema.**

A module is named after the last part of a namespace, a field after its schema component, a
constant after the value it stands for. A module or field whose derived name is a keyword gets an
underscore at the end. A value that yields no usable constant name yields none at all, and leaves
the choice to the enumeration it belongs to.
-/

import SchemaBinding.Naming.Identifier
import SchemaBinding.Naming.PascalCase
import SchemaBinding.Naming.SnakeCase

namespace SchemaBinding

/-- The part of a qualified name after its last colon. -/
def localName (qualified : String) : String :=
  String.ofList (qualified.toList.reverse.takeWhile (· != ':')).reverse

def defaultPackage : String := "generated"

/-- The last part of a namespace that is not empty, where colons, slashes and points separate. -/
def lastSegment (namespaceName : String) : String :=
  let separates (c : Char) : Bool := c == ':' || c == '/' || c == '.'
  let trimmed := namespaceName.toList.reverse.dropWhile separates
  String.ofList (trimmed.takeWhile fun c => !separates c).reverse

def packageName (targetNamespace : Option String) : String :=
  match targetNamespace with
  | none => defaultPackage
  | some name =>
    let candidate := snakeCase (lastSegment name)
    if candidate.toList.head?.any Char.isAlpha then escapeKeyword candidate else defaultPackage

def fieldName (schemaName : String) : String :=
  let name := snakeCase schemaName
  escapeKeyword (if name.toList.head?.any Char.isDigit then "_" ++ name else name)

/-- The constant name for a value, if the value yields a usable one. Every character that is no
ASCII letter or digit separates, and a value without small letters is read in small letters. -/
def constantName? (lexical : String) : Option String :=
  let cleaned := lexical.toList.map fun c => if c.isAlphanum then c else '_'
  let base := if cleaned.any Char.isLower then cleaned else cleaned.map Char.toLower
  let name := pascalCase (String.ofList base)
  if name.isEmpty || name.toList.head?.any Char.isDigit || name == "Self" then none else some name

end SchemaBinding
