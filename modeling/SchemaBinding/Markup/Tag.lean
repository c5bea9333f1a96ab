/-
**Tags, with their attributes or the first fault among them.**

A tag is a name and what its attributes are: a list of names and values in the order of writing, or
the first thing that is wrong with them, since a document may be read without ever asking for the
attributes of some of its tags. The attributes are read from left to right, each value unescaped
before the next attribute is looked at. Positions are bytes from the first byte of the name.
-/

import SchemaBinding.Markup.Escape

namespace SchemaBinding.Markup

/-- What is wrong with the writing of an attribute, at which position. -/
inductive AttributeFault
  /-- No equals sign follows the name. -/
  | missingEquals (position : Nat)
  /-- An attribute of this name stands at the second position already. -/
  | duplicate (position previous : Nat)
  /-- Nothing follows the equals sign. -/
  | missingValue (position : Nat)
  /-- The value does not begin with a quote. -/
  | unquotedValue (position : Nat)
  /-- The value does not end with the quote that it begins with. -/
  | unclosedValue (position : Nat) (quote : Char)
deriving DecidableEq, Repr

def AttributeFault.message : AttributeFault → String
  | .missingEquals position =>
    s!"position {position}: attribute key must be directly followed by `=` or space"
  | .duplicate position previous =>
    s!"position {position}: duplicated attribute, previous declaration at position {previous}"
  | .missingValue position => s!"position {position}: `=` must be followed by an attribute value"
  | .unquotedValue position =>
    s!"position {position}: attribute value must be enclosed in `\"` or `'`"
  | .unclosedValue position quote =>
    s!"position {position}: missing closing quote `{quote}` in attribute value"

inductive TagFault
  | attribute (fault : AttributeFault)
  | escape (fault : EscapeFault)
deriving DecidableEq, Repr

/-- The name of a start or empty-element tag, and its attributes as far as they can be read. -/
structure Tag where
  name : String
  attributes : Except TagFault (List (String × String))

namespace Tag

/-- The name without what precedes its first colon. -/
def localName (tag : Tag) : String :=
  let afterColon := (tag.name.toList.dropWhile (· != ':')).drop 1
  if tag.name.toList.contains ':' then String.ofList afterColon else tag.name

def attribute? (tag : Tag) (name : String) : Except TagFault (Option String) :=
  tag.attributes.map fun attributes => attributes.lookup name

end Tag

/-- An attribute as it is written: its name and value, the position of the name, and the text that
follows the value. -/
structure WrittenAttribute where
  name : List Char
  position : Nat
  value : List Char
  rest : List Char

def endsAttributeName (c : Char) : Bool := c == '=' || isBlank c

/-- Reads a value from its opening quote on, in a tag of `total` bytes. -/
def readValue (total : Nat) : List Char → Except AttributeFault (List Char × List Char)
  | [] => .error (.missingValue total)
  | quote :: text =>
    if !isQuote quote then .error (.unquotedValue (total - byteLength text - quote.utf8Size))
    else
      match text.dropWhile (· != quote) with
      | [] => .error (.unclosedValue total quote)
      | _ :: rest => .ok (text.takeWhile (· != quote), rest)

/-- Reads the attribute that begins with the given character, in a tag of `total` bytes where the
names in `seen` stand at the positions given with them. The first character belongs to the name
whatever it is. -/
def readAttribute (total : Nat) (seen : List (List Char × Nat)) (first : Char) (text : List Char) :
    Except AttributeFault WrittenAttribute :=
  let name := first :: text.takeWhile fun c => !endsAttributeName c
  let position := total - byteLength text - first.utf8Size
  match (text.dropWhile fun c => !endsAttributeName c).dropWhile isBlank with
  | [] => .error (.missingEquals total)
  | '=' :: afterEquals =>
    match seen.lookup name with
    | some previous => .error (.duplicate position previous)
    | none =>
      (readValue total (afterEquals.dropWhile isBlank)).map fun (value, rest) =>
        { name, position, value, rest }
  | other :: rest => .error (.missingEquals (total - byteLength rest - other.utf8Size))

/-- Reading a value uses up its quotes. -/
theorem length_lt_of_readValue {total : Nat} {text value rest : List Char}
    (read : readValue total text = .ok (value, rest)) : rest.length < text.length := by
  cases text with
  | nil => simp [readValue] at read
  | cons quote tail =>
    rw [readValue] at read
    split at read
    · simp at read
    · split at read
      · simp at read
      · rename_i ended
        simp only [Except.ok.injEq, Prod.mk.injEq] at read
        have shorter := (List.dropWhile_sublist (l := tail) (· != quote)).length_le
        rw [ended] at shorter
        simp only [List.length_cons] at shorter ⊢
        rw [← read.2]
        omega

/-- Reading an attribute leaves less than what follows its first character. -/
theorem length_lt_of_readAttribute {total : Nat} {seen : List (List Char × Nat)} {first : Char}
    {text : List Char} {found : WrittenAttribute}
    (read : readAttribute total seen first text = .ok found) :
    found.rest.length < text.length := by
  have sublist := (List.dropWhile_sublist (l := text.dropWhile fun c => !endsAttributeName c)
    isBlank).trans (List.dropWhile_sublist (l := text) fun c => !endsAttributeName c)
  unfold readAttribute at read
  split at read
  · simp at read
  · rename_i afterEquals ended
    rw [ended] at sublist
    have shorter := sublist.length_le
    simp only [List.length_cons] at shorter
    dsimp only at read
    split at read
    · simp at read
    · cases parts : readValue total (afterEquals.dropWhile isBlank) with
      | error => simp [parts, Except.map] at read
      | ok pair =>
        have less : pair.2.length < (afterEquals.dropWhile isBlank).length :=
          length_lt_of_readValue parts
        have fewer := (List.dropWhile_sublist (l := afterEquals) isBlank).length_le
        simp only [parts, Except.map, Except.ok.injEq] at read
        rw [← read]
        exact Nat.lt_of_lt_of_le (Nat.lt_of_lt_of_le less fewer) (by omega)
  · simp at read

/-- Reads the attributes in what is left of a tag of `total` bytes, after those in `done`, which
are given backwards. -/
def readAttributes (total : Nat) (seen : List (List Char × Nat)) (done : List (String × String))
    (text : List Char) : Except TagFault (List (String × String)) :=
  match _here : text.dropWhile isBlank with
  | [] => .ok done.reverse
  | first :: rest =>
    match _next : readAttribute total seen first rest with
    | .error fault => .error (.attribute fault)
    | .ok found =>
      match unescape found.value with
      | .error fault => .error (.escape fault)
      | .ok value =>
        readAttributes total ((found.name, found.position) :: seen)
          ((String.ofList found.name, String.ofList value) :: done) found.rest
termination_by text.length
decreasing_by
  have shorter := (List.dropWhile_sublist (l := text) isBlank).length_le
  rw [_here, List.length_cons] at shorter
  have less := length_lt_of_readAttribute _next
  omega

/-- The tag with the given content: what stands between its angle brackets, without the slash of an
empty element. The name ends at the first blank. -/
def Tag.ofContent (content : List Char) : Tag where
  name := String.ofList (content.takeWhile fun c => !isBlank c)
  attributes := readAttributes (byteLength content) [] [] (content.dropWhile fun c => !isBlank c)

end SchemaBinding.Markup
