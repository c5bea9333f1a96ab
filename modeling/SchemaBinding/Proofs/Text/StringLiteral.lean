/-
**String literals are read back as the texts that they are written for.**

A literal is read character by character, from behind its opening quote to the first quote that does
not belong to an escape. An escape is a backslash and a letter, a byte in two hexadecimal digits or a
code point in braces; all else but a lone carriage return stands for itself. What is read next never
depends on more than the place inside an escape (`LiteralPlace`), so the written form of a character
is read as this character whatever follows it (`readText_escapeChar`), be it the NUL before a digit
or a code point before a brace.

`readLiteral?_quoted`: a quoted text is read as the text, up to its own closing quote. Also, nothing
in it is a line break (`lineBreak_notMem_quoted`).
-/

import Mathlib.Tactic.SplitIfs
import SchemaBinding.Proofs.Number.Decimal
import SchemaBinding.Text.Quoted

namespace SchemaBinding

/-! ### Reading literals -/

/-- Where a reader stands inside a literal. -/
inductive LiteralPlace
  /-- Between two characters of the text. -/
  | between
  /-- Behind a backslash. -/
  | escape
  /-- Behind `\x` and these digits. -/
  | byte (digits : List Char)
  /-- Behind `\u`, before the opening brace. -/
  | brace
  /-- Behind the opening brace of a code point and these digits. -/
  | codePoint (digits : List Char)

/-- The character that a backslash and one letter stand for. -/
def escapedChar? : Char → Option Char
  | 'n' => some '\n'
  | 'r' => some '\r'
  | 't' => some '\t'
  | '0' => some '\x00'
  | '\\' => some '\\'
  | '\x22' => some '\x22'
  | '\x27' => some '\x27'
  | _ => none

/-- The character whose code point is given by hexadecimal digits and is at most the limit. -/
def hexChar? (limit : Nat) (digits : List Char) : Option Char :=
  match readMagnitude 16 limit .tooLarge digits with
  | .ok code => if code.isValidChar then some (Char.ofNat code) else none
  | .error _ => none

/-- A character, and behind it the text that is read from there on. -/
def consChar (c : Char) (read : Option (List Char × List Char)) : Option (List Char × List Char) :=
  read.map fun (text, rest) => (c :: text, rest)

/-- Reads the text of a literal from a place inside it; the second part of the result is what follows
the closing quote. A byte has two digits and stands for an ASCII character, a code point has one to
six digits. -/
def readText : LiteralPlace → List Char → Option (List Char × List Char)
  | _, [] => none
  | .between, c :: rest =>
    if c = '\x22' then some ([], rest)
    else if c = '\\' then readText .escape rest
    else if c = '\r' then none
    else consChar c (readText .between rest)
  | .escape, c :: rest =>
    if c = 'x' then readText (.byte []) rest
    else if c = 'u' then readText .brace rest
    else (escapedChar? c).bind fun escaped => consChar escaped (readText .between rest)
  | .byte [], c :: rest => readText (.byte [c]) rest
  | .byte (first :: _), c :: rest =>
    (hexChar? 0x7F [first, c]).bind fun byte => consChar byte (readText .between rest)
  | .brace, c :: rest => if c = '\x7b' then readText (.codePoint []) rest else none
  | .codePoint digits, c :: rest =>
    if c = '\x7d' then
      if digits.length ≤ 6 then
        (hexChar? 0x10FFFF digits).bind fun point => consChar point (readText .between rest)
      else none
    else readText (.codePoint (digits ++ [c])) rest

/-- **Reads a string literal at the beginning of a text**: the text that it stands for, and what
follows it. -/
def readLiteral? : List Char → Option (String × List Char)
  | '\x22' :: rest => (readText .between rest).map fun (text, rest) => (String.ofList text, rest)
  | _ => none

/-! ### Code points -/

theorem readMagnitude_hexDigits {code limit : Nat} (within : code ≤ limit) :
    readMagnitude 16 limit .tooLarge (hexDigits code) = .ok code := by
  have someDigit : (hexDigits code).isEmpty = false := by
    rw [List.isEmpty_eq_false_iff]
    exact Nat.toDigits_ne_nil
  unfold readMagnitude
  rw [someDigit]
  exact readDigits_toDigits (by decide) (by decide) code within

theorem codePoint_le (c : Char) : c.toNat ≤ 0x10FFFF := by
  rcases c.valid with low | ⟨-, high⟩
  · exact Nat.le_of_lt (Nat.lt_trans low (by decide))
  · exact Nat.le_of_lt_succ high

theorem hexChar?_hexDigits (c : Char) : hexChar? 0x10FFFF (hexDigits c.toNat) = some c := by
  have valid : c.toNat.isValidChar := c.valid
  unfold hexChar?
  rw [readMagnitude_hexDigits (codePoint_le c)]
  simp only [if_pos valid, Char.ofNat_toNat]

theorem length_hexDigits_le (c : Char) : (hexDigits c.toNat).length ≤ 6 := by
  have small : c.toNat < 16 ^ 6 := Nat.lt_of_le_of_lt (codePoint_le c) (by decide)
  exact (Nat.length_toDigits_le_iff (by decide) (by decide)).mpr small

/-- No hexadecimal digit is a brace or a line break. -/
theorem ne_of_mem_hexDigits {code : Nat} {c : Char} (member : c ∈ hexDigits code) :
    c ≠ '\x7d' ∧ c ≠ '\n' := by
  obtain ⟨digit, small, rfl⟩ := exists_of_mem_toDigits (by decide) member
  have all : ∀ digit : Fin 16, digit.val.digitChar ≠ '\x7d' ∧ digit.val.digitChar ≠ '\n' := by
    decide
  exact all ⟨digit, small⟩

/-- The digits of a code point are read up to the brace behind them. -/
theorem readText_codePoint {seen digits : List Char} (inside : ∀ c ∈ digits, c ≠ '\x7d')
    (rest : List Char) :
    readText (.codePoint seen) (digits ++ '\x7d' :: rest) =
      readText (.codePoint (seen ++ digits)) ('\x7d' :: rest) := by
  induction digits generalizing seen with
  | nil => rw [List.append_nil, List.nil_append]
  | cons c digits ih =>
    obtain ⟨first, later⟩ := List.forall_mem_cons.mp inside
    rw [List.cons_append, readText, if_neg first, ih later, List.append_assoc]
    rfl

theorem readText_codePointEscape (c : Char) (rest : List Char) :
    readText .between (codePointEscape c ++ rest) = consChar c (readText .between rest) := by
  have inside : ∀ d ∈ hexDigits c.toNat, d ≠ '\x7d' := fun d member => (ne_of_mem_hexDigits member).1
  have opened : readText .between (codePointEscape c ++ rest) =
      readText (.codePoint []) (hexDigits c.toNat ++ '\x7d' :: rest) := by
    unfold codePointEscape
    simp [readText]
  rw [opened, readText_codePoint inside, List.nil_append, readText, if_pos rfl, if_pos (length_hexDigits_le c),
    hexChar?_hexDigits]
  rfl

/-! ### Texts -/

/-- **The written form of a character is read as the character**, whatever follows it. -/
theorem readText_escapeChar (spelling : NulSpelling) (c : Char) (next rest : List Char) :
    readText .between (escapeChar spelling c next ++ rest) =
      consChar c (readText .between rest) := by
  have short : readText .between ('\\' :: '0' :: rest) = consChar '\x00' (readText .between rest) := by
    simp [readText, escapedChar?]
  have long : readText .between ('\\' :: 'x' :: '0' :: '0' :: rest) =
      consChar '\x00' (readText .between rest) := by
    have nul : hexChar? 0x7F ['0', '0'] = some '\x00' := by decide
    simp [readText, nul]
  unfold escapeChar
  split_ifs with nul feed carriage tab backslash quote hidden
  · subst nul
    unfold escapeNul
    split
    · split
      · exact long
      · exact short
    · exact short
  · simp [feed, readText, escapedChar?]
  · simp [carriage, readText, escapedChar?]
  · simp [tab, readText, escapedChar?]
  · simp [backslash, readText, escapedChar?]
  · simp [quote, readText, escapedChar?]
  · exact readText_codePointEscape c rest
  · rw [List.singleton_append, readText, if_neg quote, if_neg backslash, if_neg carriage]

/-- A written text is read as the text, up to the quote behind it. -/
theorem readText_escapeText (spelling : NulSpelling) (text rest : List Char) :
    readText .between (escapeText spelling text ++ '\x22' :: rest) = some (text, rest) := by
  induction text with
  | nil => rfl
  | cons c text ih =>
    rw [escapeText, List.append_assoc, readText_escapeChar, ih]
    rfl

/-- **A quoted text is read as the text**, and what follows it is left. -/
theorem readLiteral?_quoted (spelling : NulSpelling) (text : String) (rest : List Char) :
    readLiteral? ((quoted spelling text).toList ++ rest) = some (text, rest) := by
  have chars : (quoted spelling text).toList ++ rest =
      '\x22' :: (escapeText spelling text.toList ++ '\x22' :: rest) := by
    rw [quoted, String.toList_ofList, List.cons_append, List.cons_append, List.append_assoc]
    rfl
  rw [chars, readLiteral?, readText_escapeText, Option.map_some]
  exact congrArg (fun same => some (same, rest)) String.ofList_toList

/-! ### Line breaks -/

theorem lineBreak_notMem_escapeChar (spelling : NulSpelling) (c : Char) (next : List Char) :
    '\n' ∉ escapeChar spelling c next := by
  unfold escapeChar
  split_ifs with nul feed carriage tab backslash quote hidden
  · unfold escapeNul
    split
    · split <;> decide
    · decide
  · decide
  · decide
  · decide
  · decide
  · decide
  · intro member
    unfold codePointEscape at member
    rcases List.mem_append.mp member with front | brace
    · rcases List.mem_append.mp front with opening | digit
      · exact absurd opening (by decide)
      · exact (ne_of_mem_hexDigits digit).2 rfl
    · exact absurd brace (by decide)
  · rw [List.mem_singleton]
    exact fun same => feed same.symm

/-- **A quoted text holds no line break.** -/
theorem lineBreak_notMem_quoted (spelling : NulSpelling) (text : String) :
    '\n' ∉ (quoted spelling text).toList := by
  have inside : ∀ chars, '\n' ∉ escapeText spelling chars := by
    intro chars
    induction chars with
    | nil => exact List.not_mem_nil
    | cons c chars ih =>
      rw [escapeText, List.mem_append, not_or]
      exact ⟨lineBreak_notMem_escapeChar spelling c chars, ih⟩
  rw [quoted, String.toList_ofList, List.cons_append, List.mem_cons, List.mem_append, not_or, not_or]
  exact ⟨by decide, inside text.toList, by decide⟩

end SchemaBinding
