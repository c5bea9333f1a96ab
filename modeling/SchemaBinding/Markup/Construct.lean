/-
**The constructs that a text of markup consists of.**

`nextConstruct` takes the first construct off a text. Character data up to it is passed over, and
so are, as far as their ends can be found, references, comments, CDATA sections, instructions and
the document type. Tags are kept with what stands between their angle brackets; a tag ends at the
first angle bracket that is not inside quotes. Every construct is shorter than the text it is taken
from (`length_lt_of_nextConstruct`), so a text can be taken apart to its end.
-/

import SchemaBinding.Markup.Blank
import SchemaBinding.Markup.Fault

namespace SchemaBinding.Markup

inductive Construct
  /-- A start tag, without its angle brackets. -/
  | start (content : List Char)
  /-- An empty-element tag, without its angle brackets and its slash. -/
  | empty (content : List Char)
  /-- An end tag, without its angle brackets and its slash. -/
  | finish (content : List Char)
  /-- A reference, comment, CDATA section, instruction or document type. -/
  | passive
deriving DecidableEq, Repr

/-- Reads a tag up to its closing bracket. The flag is the quote that is open, and `done` is what
has been read of the tag, backwards. -/
def readTag (quote : Option Char) (done : List Char) :
    List Char → Except SyntaxFault (List Char × List Char)
  | [] =>
    match quote with
    | none => .error .unclosedTag
    | some mark => .error (.unclosedQuote mark)
  | c :: rest =>
    match quote with
    | some mark => readTag (if c = mark then none else quote) (c :: done) rest
    | none =>
      if c = '>' then .ok (done.reverse, rest)
      else readTag (if isQuote c then some c else none) (c :: done) rest

/-- A tag that is no end tag: a slash at its end makes it an empty element. -/
def Construct.ofContent (content : List Char) : Construct :=
  if content.getLast? = some '/' then .empty content.dropLast else .start content

/-- Where a document type has been read to. -/
inductive DoctypePlace
  /-- Outside the internal subset, inside a quoted value if there is a quote. -/
  | outside (quote : Option Char)
  /-- Inside the internal subset, between its declarations. -/
  | subset
  /-- Inside a comment of the subset. -/
  | comment
  /-- Inside an instruction of the subset. -/
  | instruction
  /-- Inside a declaration whose values are quoted, and inside a value if there is a quote. -/
  | declaration (quote : Option Char)
  /-- Inside any other markup of the subset, where quotes have no meaning. -/
  | markup
  /-- Behind the internal subset. -/
  | behind
deriving DecidableEq, Repr

/-- The quote that a character opens, if it is one. -/
def openedQuote? (c : Char) : Option Char := if isQuote c then some c else none

/-- The place behind `<` in the internal subset, by what follows, and how many characters of it are
passed over. -/
def DoctypePlace.ofDeclaration (text : List Char) : DoctypePlace × Nat :=
  if "!--".toList.isPrefixOf text then (.comment, 3)
  else if "?".toList.isPrefixOf text then (.instruction, 1)
  else if ["!ENTITY", "!ATTLIST", "!NOTATION"].any fun word => word.toList.isPrefixOf text then
    (.declaration none, 0)
  else (.markup, 0)

/-- The place behind a character that the given text follows, and how many characters of the text
are passed over; no place if the character closes the document type. -/
def DoctypePlace.next? (c : Char) (rest : List Char) : DoctypePlace → Option (DoctypePlace × Nat)
  | .outside (some quote) => some (.outside (if c = quote then none else some quote), 0)
  | .outside none =>
    if c = '>' then none
    else if c = '[' then some (.subset, 0)
    else some (.outside (openedQuote? c), 0)
  | .subset =>
    if c = ']' then some (.behind, 0)
    else if c = '<' then some (ofDeclaration rest)
    else some (.subset, 0)
  | .comment => if "-->".toList.isPrefixOf (c :: rest) then some (.subset, 2) else some (.comment, 0)
  | .instruction =>
    if "?>".toList.isPrefixOf (c :: rest) then some (.subset, 1) else some (.instruction, 0)
  | .declaration (some quote) => some (.declaration (if c = quote then none else some quote), 0)
  | .declaration none =>
    if c = '>' then some (.subset, 0) else some (.declaration (openedQuote? c), 0)
  | .markup => if c = '>' then some (.subset, 0) else some (.markup, 0)
  | .behind => if c = '>' then none else some (.behind, 0)

/-- Skips to behind the bracket that closes a document type, from a place on, after so many
characters that are passed over. -/
def skipDoctype? (place : DoctypePlace) (passed : Nat) : List Char → Option (List Char)
  | [] => none
  | c :: rest =>
    match passed with
    | passed + 1 => skipDoctype? place passed rest
    | 0 =>
      match place.next? c rest with
      | none => some rest
      | some (place, passed) => skipDoctype? place passed rest

/-- What is left behind an end that has to be found, or the fault that it is missing. -/
def behind (fault : SyntaxFault) (rest : Option (List Char)) :
    Except DocumentFault (Construct × List Char) :=
  match rest with
  | some rest => .ok (.passive, rest)
  | none => .error (.malformed fault)

/-- The word that begins a document type, behind `<!`. -/
def doctypeWord : List Char := "DOCTYPE".toList

/-- Reads a document type from behind `<!`. -/
def readDoctype (text : List Char) : Except DocumentFault (Construct × List Char) :=
  let body := text.drop doctypeWord.length
  if (text.take doctypeWord.length).map Char.toUpper ≠ doctypeWord then
    .error (.malformed .unclosedDoctype)
  else if (body.dropWhile isBlank).head? = some '>' then .error (.illFormed .missingDoctypeName)
  else behind .unclosedDoctype (skipDoctype? (.outside none) 0 body)

/-- Reads what `<!` begins, from behind these two characters. -/
def readBang : List Char → Except DocumentFault (Construct × List Char)
  | '-' :: '-' :: rest => behind .unclosedComment (dropThrough? "-->".toList rest)
  | '-' :: _ => .error (.malformed .unclosedComment)
  | '[' :: rest =>
    if "CDATA[".toList.isPrefixOf rest then
      behind .unclosedCharacterData (dropThrough? "]]>".toList (rest.drop 6))
    else .error (.malformed .unclosedCharacterData)
  | c :: rest =>
    if c = 'D' ∨ c = 'd' then readDoctype (c :: rest) else .error (.malformed .unknownMarkup)
  | [] => .error (.malformed .unknownMarkup)

/-- The fault of an instruction without an end, from behind `<?`. An instruction of the name `xml`
is the declaration of the document. -/
def unclosedInstructionFault (text : List Char) : SyntaxFault :=
  let following := (text.drop 3).head?
  if text.take 3 = "xml".toList ∧ following.all (fun c => isBlank c || c == '?') then
    .unclosedDeclaration
  else .unclosedInstruction

/-- Reads an instruction from behind `<?`. It ends at the first `?>`; its own question mark counts,
but then it has no content and is not accepted. -/
def readInstruction (text : List Char) : Except DocumentFault (Construct × List Char) :=
  if text.head? = some '>' then .error (.malformed .unclosedInstruction)
  else behind (unclosedInstructionFault text) (dropThrough? "?>".toList ('?' :: text))

/-- Reads a tag of the given kind from behind its opening. -/
def readTagAs (kind : List Char → Construct) (text : List Char) :
    Except DocumentFault (Construct × List Char) :=
  match readTag none [] text with
  | .ok (content, rest) => .ok (kind content, rest)
  | .error fault => .error (.malformed fault)

/-- Reads a construct from behind its opening angle bracket. -/
def readMarkup : List Char → Except DocumentFault (Construct × List Char)
  | '!' :: rest => readBang rest
  | '?' :: rest => readInstruction rest
  | '/' :: rest => readTagAs .finish rest
  | text => readTagAs .ofContent text

/-- Reads a reference in character data from behind its ampersand: a semicolon has to follow before
another ampersand, a construct or the end. -/
def readReference (text : List Char) : Except DocumentFault (Construct × List Char) :=
  match text.dropWhile fun c => !(c == ';' || c == '&' || c == '<') with
  | ';' :: rest => .ok (.passive, rest)
  | _ => .error (.illFormed .unclosedReference)

/-- Whether the character ends a run of character data. -/
def endsCharacterData (c : Char) : Bool := c == '<' || c == '&'

/-- Takes the first construct off a text; there is none if only character data is left. -/
def nextConstruct (text : List Char) : Except DocumentFault (Option (Construct × List Char)) :=
  match text.dropWhile fun c => !endsCharacterData c with
  | [] => .ok none
  | '<' :: rest => (readMarkup rest).map some
  | _ :: rest => (readReference rest).map some

theorem length_le_of_readTag {quote : Option Char} {done text content rest : List Char}
    (read : readTag quote done text = .ok (content, rest)) : rest.length ≤ text.length := by
  fun_induction readTag quote done text <;> grind

theorem length_le_of_skipDoctype? {place : DoctypePlace} {passed : Nat} {text rest : List Char}
    (skipped : skipDoctype? place passed text = some rest) : rest.length ≤ text.length := by
  induction text generalizing place passed with
  | nil => simp [skipDoctype?] at skipped
  | cons c tail ih =>
    unfold skipDoctype? at skipped
    split at skipped
    · exact Nat.le_succ_of_le (ih skipped)
    · split at skipped
      · rw [Option.some.injEq] at skipped
        rw [← skipped]
        exact Nat.le_succ _
      · exact Nat.le_succ_of_le (ih skipped)

theorem length_le_of_behind {fault : SyntaxFault} {bound : Nat} {found : Option (List Char)}
    {construct : Construct} {rest : List Char} (within : ∀ r, found = some r → r.length ≤ bound)
    (read : behind fault found = .ok (construct, rest)) : rest.length ≤ bound := by
  cases found with
  | none => simp [behind] at read
  | some r =>
    simp only [behind, Except.ok.injEq, Prod.mk.injEq] at read
    rw [← read.2]
    exact within r rfl

theorem length_le_of_readDoctype {text rest : List Char} {construct : Construct}
    (read : readDoctype text = .ok (construct, rest)) : rest.length ≤ text.length := by
  unfold readDoctype at read
  dsimp only at read
  split at read
  · simp at read
  · split at read
    · simp at read
    · refine length_le_of_behind (fun r skipped => ?_) read
      have shorter := length_le_of_skipDoctype? skipped
      rw [List.length_drop] at shorter
      omega

theorem length_le_of_readBang {text rest : List Char} {construct : Construct}
    (read : readBang text = .ok (construct, rest)) : rest.length ≤ text.length := by
  unfold readBang at read
  split at read
  · refine length_le_of_behind (fun r found => ?_) read
    have shorter := length_le_of_dropThrough? found
    simp only [List.length_cons]
    omega
  · simp at read
  · split at read
    · refine length_le_of_behind (fun r found => ?_) read
      have shorter := length_le_of_dropThrough? found
      rw [List.length_drop] at shorter
      simp only [List.length_cons]
      omega
    · simp at read
  · split at read
    · exact length_le_of_readDoctype read
    · simp at read
  · simp at read

theorem length_le_of_readInstruction {text rest : List Char} {construct : Construct}
    (read : readInstruction text = .ok (construct, rest)) : rest.length ≤ text.length + 1 := by
  unfold readInstruction at read
  split at read
  · simp at read
  · refine length_le_of_behind (fun r found => ?_) read
    have shorter := length_le_of_dropThrough? found
    rwa [List.length_cons] at shorter

theorem length_le_of_readTagAs {kind : List Char → Construct} {text rest : List Char}
    {construct : Construct} (read : readTagAs kind text = .ok (construct, rest)) :
    rest.length ≤ text.length := by
  unfold readTagAs at read
  split at read
  · rename_i found
    simp only [Except.ok.injEq, Prod.mk.injEq] at read
    rw [← read.2]
    exact length_le_of_readTag found
  · simp at read

theorem length_le_of_readMarkup {text rest : List Char} {construct : Construct}
    (read : readMarkup text = .ok (construct, rest)) : rest.length ≤ text.length := by
  unfold readMarkup at read
  split at read
  · exact Nat.le_succ_of_le (length_le_of_readBang read)
  · exact length_le_of_readInstruction read
  · exact Nat.le_succ_of_le (length_le_of_readTagAs read)
  · exact length_le_of_readTagAs read

theorem length_le_of_readReference {text rest : List Char} {construct : Construct}
    (read : readReference text = .ok (construct, rest)) : rest.length ≤ text.length := by
  unfold readReference at read
  split at read
  · rename_i tail ended
    have shorter := (List.dropWhile_sublist (l := text)
      fun c => !(c == ';' || c == '&' || c == '<')).length_le
    rw [ended, List.length_cons] at shorter
    simp only [Except.ok.injEq, Prod.mk.injEq] at read
    rw [← read.2]
    omega
  · simp at read

/-- **A construct is shorter than the text it is taken from.** -/
theorem length_lt_of_nextConstruct {text rest : List Char} {construct : Construct}
    (next : nextConstruct text = .ok (some (construct, rest))) : rest.length < text.length := by
  have shorter := (List.dropWhile_sublist (l := text) fun c => !endsCharacterData c).length_le
  unfold nextConstruct at next
  split at next
  · simp at next
  · rename_i tail opened
    rw [opened, List.length_cons] at shorter
    cases parts : readMarkup tail with
    | error => simp [parts, Except.map] at next
    | ok pair =>
      have less : pair.2.length ≤ tail.length := length_le_of_readMarkup parts
      simp only [parts, Except.map, Except.ok.injEq, Option.some.injEq] at next
      rw [next] at less
      exact Nat.lt_of_le_of_lt less shorter
  · rename_i tail _ opened
    rw [opened, List.length_cons] at shorter
    cases parts : readReference tail with
    | error => simp [parts, Except.map] at next
    | ok pair =>
      have less : pair.2.length ≤ tail.length := length_le_of_readReference parts
      simp only [parts, Except.map, Except.ok.injEq, Option.some.injEq] at next
      rw [next] at less
      exact Nat.lt_of_le_of_lt less shorter

end SchemaBinding.Markup
