/-
**Source text as lines.**

Generated code is a list of lines. A block is a head with an opening brace, a body that stands four
blanks further to the right, and a closing brace; an empty line stays empty wherever it stands. A
line is what is written as one: a name from a schema that holds a line break makes it longer than it
looks, but does not move what comes after it.
-/

import SchemaBinding.GenerationFault
import SchemaBinding.Naming.Identifier

namespace SchemaBinding

/-- Lines of source text, without their line breaks. -/
abbrev Lines := List String

namespace Lines

/-- A line, four blanks further to the right. -/
def indentLine (line : String) : String := if line.isEmpty then line else "    " ++ line

def indent (lines : Lines) : Lines := lines.map indentLine

def block (head : String) (body : Lines) : Lines :=
  (head ++ " \x7b") :: (indent body ++ ["\x7d"])

/-- The text of lines, each of them ended. -/
def text (lines : Lines) : String := String.join (lines.map (· ++ "\n"))

theorem text_append (first second : Lines) :
    text (first ++ second) = text first ++ text second := by
  simp [text, String.join_append]

end Lines

/-- The name itself, if it can be written as an identifier. -/
def checkIdentifier (name : String) : Except GenerationFault String :=
  if isIdentifier name then .ok name else .error (.identifier name)

end SchemaBinding
