/-
**References in attribute values.**

A reference begins with an ampersand and ends with a semicolon, with no further ampersand between
them. It names one of five characters, or gives a character by its number, in decimal or after `x`
in hexadecimal digits. `unescape` replaces every reference of a value, and reports the first one
that it cannot replace; positions are bytes of the value.
-/

import SchemaBinding.Markup.Blank
import SchemaBinding.Number.Integer

namespace SchemaBinding.Markup

/-- Why a number does not give a character. -/
inductive CharacterFault
  | sign
  /-- The digits do not form a number of 32 bits. -/
  | number (fault : IntegerFault)
  | zero
  /-- No character has the number. -/
  | noCodePoint (code : Nat)
deriving DecidableEq, Repr

inductive EscapeFault
  /-- No semicolon ends the reference at the first position; the value ends at the second. -/
  | unterminated (position stop : Nat)
  /-- The name between two positions is none of the five. -/
  | unknownName (start stop : Nat) (name : String)
  | character (fault : CharacterFault)
deriving DecidableEq, Repr

def CharacterFault.message : CharacterFault → String
  | .sign => "unexpected number sign"
  | .number fault => fault.message
  | .zero => "0x0 character is not permitted in XML"
  | .noCodePoint code => s!"`{code}` is not a valid codepoint"

def EscapeFault.message : EscapeFault → String
  | .unterminated position stop =>
    s!"Error while escaping character at range {position}..{stop}: Cannot find ';' after '&'"
  | .unknownName start stop name => s!"at {start}..{stop}: unrecognized entity `{name}`"
  | .character fault => s!"invalid character reference: {fault.message}"

/-- The wording of an escape fault and of the faults that it stems from, outermost first. -/
def EscapeFault.causes : EscapeFault → List String
  | .character (.number fault) =>
    [(EscapeFault.character (.number fault)).message, fault.message, fault.message]
  | .character fault => [(EscapeFault.character fault).message, fault.message]
  | fault => [fault.message]

/-- The character with the number that the digits after the number sign give. -/
def readCharacter (digits : List Char) : Except CharacterFault Char :=
  let (radix, number) :=
    match digits with
    | 'x' :: hexadecimal => (16, hexadecimal)
    | _ => (10, digits)
  if number.head? = some '+' ∨ number.head? = some '-' then .error .sign
  else
    match readNatural radix (UInt32.size - 1) number with
    | .error fault => .error (.number fault)
    | .ok 0 => .error .zero
    | .ok code => if code.isValidChar then .ok (Char.ofNat code) else .error (.noCodePoint code)

/-- The character that one of the five names stands for. -/
def namedCharacter? (name : List Char) : Option Char :=
  match String.ofList name with
  | "lt" => some '<'
  | "gt" => some '>'
  | "amp" => some '&'
  | "apos" => some '\x27'
  | "quot" => some '\x22'
  | _ => none

/-- The character that a reference stands for; `start` is the position of the text between its
ampersand and its semicolon. -/
def resolveReference (start : Nat) : List Char → Except EscapeFault Char
  | '#' :: digits => (readCharacter digits).mapError EscapeFault.character
  | name =>
    match namedCharacter? name with
    | some c => .ok c
    | none => .error (.unknownName start (start + byteLength name) (String.ofList name))

def endsReference (c : Char) : Bool := c == ';' || c == '&'

/-- Replaces the references in what is left of a value of `total` bytes; `done` is what comes before
it, replaced and backwards. -/
def unescapeRest (total : Nat) (done : List Char) (text : List Char) :
    Except EscapeFault (List Char) :=
  match text with
  | [] => .ok done.reverse
  | '&' :: rest =>
    let position := total - byteLength rest - 1
    match _ended : rest.dropWhile (fun c => !endsReference c) with
    | ';' :: after =>
      match resolveReference (position + 1) (rest.takeWhile fun c => !endsReference c) with
      | .ok c => unescapeRest total (c :: done) after
      | .error fault => .error fault
    | _ => .error (.unterminated position total)
  | c :: rest => unescapeRest total (c :: done) rest
termination_by text.length
decreasing_by
  · have shorter : (rest.dropWhile fun c => !endsReference c).length ≤ rest.length :=
      (List.dropWhile_sublist _).length_le
    rw [_ended] at shorter
    simp only [List.length_cons] at shorter ⊢
    omega
  · simp

def unescape (value : List Char) : Except EscapeFault (List Char) :=
  unescapeRest (byteLength value) [] value

/-- What holds no ampersand stands for itself. -/
theorem unescapeRest_of_plain {total : Nat} {done text : List Char} (plain : '&' ∉ text) :
    unescapeRest total done text = .ok (done.reverse ++ text) := by
  induction text generalizing done with
  | nil => simp [unescapeRest]
  | cons c rest ih =>
    rw [List.mem_cons, not_or] at plain
    rw [unescapeRest]
    · rw [ih plain.2]
      simp
    · rintro rfl
      exact plain.1 rfl

theorem unescape_of_plain {value : List Char} (plain : '&' ∉ value) :
    unescape value = .ok value := by
  rw [unescape, unescapeRest_of_plain plain]
  rfl

end SchemaBinding.Markup
