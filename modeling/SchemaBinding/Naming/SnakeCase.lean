/-
**Words of a name, and snake case.**

The words of a name are its runs of ASCII letters and digits, cut once more before every capital
that follows a small letter or a digit. Snake case is the words in small letters, joined by
underscores. All other characters only separate words.
-/

namespace SchemaBinding

/-- Whether a capital after this character begins a new word. -/
def endsWord (c : Char) : Bool := c.isLower || c.isDigit

/-- Puts a word before other words, unless it is empty. The word is given backwards. -/
def consWord (backwards : List Char) (words : List (List Char)) : List (List Char) :=
  if backwards.isEmpty then words else backwards.reverse :: words

/-- The words of a text that continues a word begun before it, which is given backwards. -/
def wordsAfter (begun : List Char) : List Char → List (List Char)
  | [] => consWord begun []
  | c :: rest =>
    if !c.isAlphanum then consWord begun (wordsAfter [] rest)
    else if c.isUpper && begun.head?.any endsWord then consWord begun (wordsAfter [c] rest)
    else wordsAfter (c :: begun) rest

def nameWords (name : List Char) : List (List Char) := wordsAfter [] name

/-- A name in snake case, as characters. -/
def snakeChars (name : List Char) : List Char :=
  ['_'].intercalate ((nameWords name).map fun word => word.map Char.toLower)

def snakeCase (name : String) : String := String.ofList (snakeChars name.toList)

theorem ne_nil_of_mem_consWord {begun word : List Char} {words : List (List Char)}
    (nonempty : ∀ w ∈ words, w ≠ []) (member : word ∈ consWord begun words) : word ≠ [] := by
  cases begun with
  | nil => exact nonempty word (by simpa [consWord] using member)
  | cons c rest =>
    simp only [consWord, List.isEmpty_cons, Bool.false_eq_true, if_false, List.mem_cons] at member
    rcases member with rfl | member
    · simp
    · exact nonempty word member

theorem ne_nil_of_mem_wordsAfter {begun text word : List Char}
    (member : word ∈ wordsAfter begun text) : word ≠ [] := by
  induction text generalizing begun word with
  | nil => exact ne_nil_of_mem_consWord (by simp) member
  | cons c rest ih =>
    rw [wordsAfter] at member
    split at member
    · exact ne_nil_of_mem_consWord (fun _ hit => ih hit) member
    · split at member
      · exact ne_nil_of_mem_consWord (fun _ hit => ih hit) member
      · exact ih member

end SchemaBinding
