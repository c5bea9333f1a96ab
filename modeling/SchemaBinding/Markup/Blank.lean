/-
**Blanks, byte lengths and searches in markup.**

Markup is read as a list of characters. Positions in error texts count the bytes of UTF-8, so a
position is the byte length of what lies before it.
-/

namespace SchemaBinding.Markup

/-- Space, tab, carriage return and line feed. -/
def isBlank (c : Char) : Bool := c == ' ' || c == '\t' || c == '\r' || c == '\n'

/-- Whether the character opens or closes a quoted value. -/
def isQuote (c : Char) : Bool := c == '\x22' || c == '\x27'

/-- The length of a text in bytes of UTF-8. -/
def byteLength (text : List Char) : Nat := text.foldl (fun total c => total + c.utf8Size) 0

/-- What follows the first occurrence of a pattern. -/
def dropThrough? (pattern : List Char) : List Char → Option (List Char)
  | [] => if pattern.isEmpty then some [] else none
  | c :: rest =>
    if pattern.isPrefixOf (c :: rest) then some ((c :: rest).drop pattern.length)
    else dropThrough? pattern rest

/-- A search never makes the text longer. -/
theorem length_le_of_dropThrough? {pattern text rest : List Char}
    (found : dropThrough? pattern text = some rest) : rest.length ≤ text.length := by
  induction text with
  | nil =>
    rw [dropThrough?] at found
    split at found <;> simp_all
  | cons c tail ih =>
    rw [dropThrough?] at found
    split at found
    · rw [Option.some.injEq] at found
      rw [← found, List.length_drop]
      exact Nat.sub_le _ _
    · exact Nat.le_trans (ih found) (Nat.le_succ _)

end SchemaBinding.Markup
