/-
**Identifiers of the generated language.**

An identifier begins with an underscore or an alphabetic character and goes on with underscores,
alphabetic characters and numbers of any script. The underscore alone, `Self` and the keywords,
reserved ones included, are no identifiers.
-/

import SchemaBinding.Text.Alphabetic
import SchemaBinding.Text.Numeric

namespace SchemaBinding

/-- The strict and reserved keywords, none of which may name an item. -/
def keywords : List String := [
  "as", "async", "await", "break", "const", "continue", "crate", "dyn", "else", "enum",
  "extern", "false", "fn", "for", "gen", "if", "impl", "in", "let", "loop", "match", "mod",
  "move", "mut", "pub", "ref", "return", "self", "static", "struct", "super", "trait", "true",
  "type", "unsafe", "use", "where", "while", "abstract", "become", "box", "do", "final",
  "macro", "override", "priv", "try", "typeof", "unsized", "virtual", "yield"]

def startsIdentifier (c : Char) : Bool := c == '_' || isAlphabetic c

def continuesIdentifier (c : Char) : Bool := c == '_' || isAlphabetic c || isNumeric c

/-- Whether the characters have the form of an identifier. -/
def hasIdentifierForm : List Char → Bool
  | [] => false
  | c :: rest => startsIdentifier c && rest.all continuesIdentifier

def isIdentifier (name : String) : Bool :=
  hasIdentifierForm name.toList && name != "_" && name != "Self" && !keywords.contains name

def escapeKeyword (name : String) : String :=
  if keywords.contains name then name ++ "_" else name

theorem isIdentifier_iff {name : String} :
    isIdentifier name = true ↔
      hasIdentifierForm name.toList = true ∧ name ≠ "_" ∧ name ≠ "Self" ∧ name ∉ keywords := by
  simp [isIdentifier, and_assoc]

end SchemaBinding
