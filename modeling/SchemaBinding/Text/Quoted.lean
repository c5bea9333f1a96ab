/-
**String literals in double quotes.**

A text is written between two quotes. The quote, the backslash, line feed, carriage return and tab
have an escape of two characters; every other character that is invisible or attaches to its
neighbour is written by its code point, `\u` and hexadecimal digits in braces; all else, the single
quote included, stands for itself. Two spellings are in use, which differ in one character only:
NUL is `\0` everywhere in a display, but `\x00` in source code when an octal digit follows, where
`\0` and the digit would read as one longer escape.
-/

import SchemaBinding.Text.Extender
import SchemaBinding.Text.Unprintable

namespace SchemaBinding

/-- How NUL is spelled before an octal digit. -/
inductive NulSpelling
  /-- `\0` before every character: the spelling of displays. -/
  | short
  /-- `\x00` before an octal digit: the spelling of source code. -/
  | careful
deriving DecidableEq, Repr

/-- The lower-case hexadecimal digits of a number, without leading zeros. -/
def hexDigits (n : Nat) : List Char := Nat.toDigits 16 n

/-- A character written by its code point. -/
def codePointEscape (c : Char) : List Char :=
  ['\\', 'u', '\x7b'] ++ hexDigits c.toNat ++ ['\x7d']

def isOctalDigit (c : Char) : Bool := '0' ≤ c && c ≤ '7'

/-- The written form of NUL before the given text. -/
def escapeNul (spelling : NulSpelling) (rest : List Char) : List Char :=
  match spelling, rest.head? with
  | .careful, some next => if isOctalDigit next then ['\\', 'x', '0', '0'] else ['\\', '0']
  | _, _ => ['\\', '0']

/-- The written form of one character that the given text follows. -/
def escapeChar (spelling : NulSpelling) (c : Char) (rest : List Char) : List Char :=
  if c = '\x00' then escapeNul spelling rest
  else if c = '\n' then ['\\', 'n']
  else if c = '\r' then ['\\', 'r']
  else if c = '\t' then ['\\', 't']
  else if c = '\\' then ['\\', '\\']
  else if c = '\x22' then ['\\', '\x22']
  else if isExtender c || isUnprintable c then codePointEscape c
  else [c]

/-- The written forms of all characters of a text, in order. -/
def escapeText (spelling : NulSpelling) : List Char → List Char
  | [] => []
  | c :: rest => escapeChar spelling c rest ++ escapeText spelling rest

def quoted (spelling : NulSpelling) (text : String) : String :=
  String.ofList ('\x22' :: escapeText spelling text.toList ++ ['\x22'])

/-- A letter or digit of ASCII stands for itself. -/
theorem escapeChar_of_alphanum {spelling : NulSpelling} {c : Char} {rest : List Char}
    (ascii : c.toNat < 128) (alphanumeric : c.isAlphanum = true) :
    escapeChar spelling c rest = [c] := by
  have small : ∀ n : Fin 128, (Char.ofNat n).isAlphanum = true → 32 ≤ n.val ∧ n.val ≠ 127 := by
    decide
  have visible := small ⟨c.toNat, ascii⟩ (by rwa [Char.ofNat_toNat])
  have plain : ∀ d : Char, d.isAlphanum = false → c ≠ d := by
    rintro d special rfl
    simp [special] at alphanumeric
  unfold escapeChar
  simp [plain _ (show '\x00'.isAlphanum = false by decide),
    plain _ (show '\n'.isAlphanum = false by decide),
    plain _ (show '\r'.isAlphanum = false by decide),
    plain _ (show '\t'.isAlphanum = false by decide),
    plain _ (show '\\'.isAlphanum = false by decide),
    plain _ (show '\x22'.isAlphanum = false by decide),
    isExtender_of_ascii ascii, isUnprintable_of_ascii ascii, Nat.not_lt.mpr visible.1, visible.2]

end SchemaBinding
