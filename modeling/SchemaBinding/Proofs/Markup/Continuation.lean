/-
**Markup that goes on.**

A construct ends where its last character says so, whatever follows. So a text that can be taken
apart by itself is taken apart in the same way if more is written behind it: `nextConstruct` gives
the same construct, and what is left goes on with what was added (`nextConstruct_append`), and
behind the last construct the reading is that of what was added (`nextConstruct_append_of_none`).

Most readers look at one character at a time, where this is plain. A document type looks ahead, for
the words that begin the markup of its internal subset and for the ends of comments and
instructions. No such word reaches over the closing bracket of the document type
(`isPrefixOf_append`), so looking ahead sees the same.
-/

import Mathlib.Data.List.TakeWhile
import SchemaBinding.Markup.Construct
import SchemaBinding.Proofs.Fallible

namespace SchemaBinding.Markup

/-! ### Searches -/

/-- What ends a run of characters ends it in a longer text. -/
theorem dropWhile_append {p : Char → Bool} {text rest : List Char} {c : Char}
    (ended : text.dropWhile p = c :: rest) (more : List Char) :
    (text ++ more).dropWhile p = c :: (rest ++ more) := by
  rw [List.dropWhile_append, ended]
  rfl

/-- What begins a text begins a longer text. -/
theorem isPrefixOf_longer {word text : List Char} (begun : word.isPrefixOf text = true)
    (more : List Char) : word.isPrefixOf (text ++ more) = true :=
  List.isPrefixOf_iff_prefix.mpr
    ((List.isPrefixOf_iff_prefix.mp begun).trans (List.prefix_append text more))

/-- **A word that has no bracket but at its end does not reach over a bracket.** -/
theorem isPrefixOf_append {word text : List Char} (inside : '>' ∈ text)
    (plain : '>' ∉ word.dropLast) (more : List Char) :
    word.isPrefixOf (text ++ more) = word.isPrefixOf text := by
  rw [Bool.eq_iff_iff, List.isPrefixOf_iff_prefix, List.isPrefixOf_iff_prefix]
  constructor
  · intro begun
    by_cases long : word.length ≤ text.length
    · exact List.prefix_of_prefix_length_le begun (List.prefix_append text more) long
    · -- A longer word begins with the text, and so has the bracket before its end.
      have short : text.length ≤ word.dropLast.length := by
        rw [List.length_dropLast]
        omega
      have within : text <+: word.dropLast :=
        List.prefix_of_prefix_length_le (List.prefix_append text more)
          ((List.dropLast_prefix word).trans begun) short
      exact absurd (within.subset inside) plain
  · intro begun
    exact begun.trans (List.prefix_append text more)

theorem length_le_of_found {pattern text rest : List Char}
    (found : dropThrough? pattern text = some rest) : pattern.length ≤ text.length := by
  induction text with
  | nil =>
    rw [dropThrough?] at found
    split at found
    · rename_i none
      rw [List.isEmpty_iff.mp none]
    · cases found
  | cons c tail ih =>
    rw [dropThrough?] at found
    split at found
    · rename_i begun
      exact (List.isPrefixOf_iff_prefix.mp begun).length_le
    · exact Nat.le_succ_of_le (ih found)

/-- **A search finds the same occurrence in a longer text.** -/
theorem dropThrough?_append {pattern text rest : List Char}
    (found : dropThrough? pattern text = some rest) (more : List Char) :
    dropThrough? pattern (text ++ more) = some (rest ++ more) := by
  induction text with
  | nil =>
    rw [dropThrough?] at found
    split at found
    · rename_i none
      rw [← Option.some.inj found, List.isEmpty_iff.mp none]
      cases more <;> rfl
    · cases found
  | cons c tail ih =>
    rw [dropThrough?] at found
    rw [List.cons_append, dropThrough?]
    split at found
    · rename_i begun
      have long := (List.isPrefixOf_iff_prefix.mp begun).length_le
      have still : pattern.isPrefixOf (c :: (tail ++ more)) = true := isPrefixOf_longer begun more
      rw [if_pos still, ← Option.some.inj found, ← List.cons_append,
        List.drop_append_of_le_length long]
    · rename_i other
      have long := length_le_of_found found
      have other : ¬ pattern.isPrefixOf (c :: (tail ++ more)) = true := by
        intro begun
        refine other (List.isPrefixOf_iff_prefix.mpr ?_)
        exact List.prefix_of_prefix_length_le (List.isPrefixOf_iff_prefix.mp begun)
          (List.prefix_append (c :: tail) more) (Nat.le_succ_of_le long)
      rw [if_neg other]
      exact ih found

/-! ### Tags and references -/

theorem readTag_append {quote : Option Char} {done text content rest : List Char}
    (read : readTag quote done text = .ok (content, rest)) (more : List Char) :
    readTag quote done (text ++ more) = .ok (content, rest ++ more) := by
  induction text generalizing quote done with
  | nil => cases quote <;> exact nomatch read
  | cons c tail ih =>
    rw [List.cons_append]
    cases quote with
    | some mark =>
      rw [readTag] at read ⊢
      exact ih read
    | none =>
      rw [readTag] at read ⊢
      split at read
      · rename_i bracket
        rw [if_pos bracket]
        obtain ⟨rfl, rfl⟩ := Prod.mk.inj (Except.ok.inj read)
        rfl
      · rename_i other
        rw [if_neg other]
        exact ih read

section

variable {text rest : List Char} {construct : Construct}

theorem readTagAs_append {kind : List Char → Construct}
    (read : readTagAs kind text = .ok (construct, rest)) (more : List Char) :
    readTagAs kind (text ++ more) = .ok (construct, rest ++ more) := by
  unfold readTagAs at read ⊢
  split at read
  · rename_i content tail found
    obtain ⟨rfl, rfl⟩ := Prod.mk.inj (Except.ok.inj read)
    rw [readTag_append found more]
  · exact nomatch read

theorem readReference_append (read : readReference text = .ok (construct, rest))
    (more : List Char) : readReference (text ++ more) = .ok (construct, rest ++ more) := by
  unfold readReference at read ⊢
  split at read
  · rename_i tail ended
    obtain ⟨rfl, rfl⟩ := Prod.mk.inj (Except.ok.inj read)
    rw [dropWhile_append ended more]
    rfl
  · exact nomatch read

/-- What lies behind an end that is found, for whatever fault of its missing. -/
theorem behind_append {fault other : SyntaxFault} {found later : Option (List Char)}
    {more : List Char} (same : ∀ rest, found = some rest → later = some (rest ++ more))
    (read : behind fault found = .ok (construct, rest)) :
    behind other later = .ok (construct, rest ++ more) := by
  cases found with
  | none => exact nomatch read
  | some tail =>
    obtain ⟨rfl, rfl⟩ := Prod.mk.inj (Except.ok.inj read)
    rw [same tail rfl]
    rfl

theorem readInstruction_append (read : readInstruction text = .ok (construct, rest))
    (more : List Char) : readInstruction (text ++ more) = .ok (construct, rest ++ more) := by
  cases text with
  | nil => exact nomatch read
  | cons c tail =>
    unfold readInstruction at read ⊢
    split at read
    · exact nomatch read
    · rename_i other
      rw [List.head?_cons] at other
      rw [List.cons_append, List.head?_cons, if_neg other]
      exact behind_append (fun _ found => dropThrough?_append found more) read

end

/-! ### Document types -/

/-- What closes a document type is a bracket. -/
theorem bracket_mem_of_skipDoctype? {place : DoctypePlace} {passed : Nat} {text rest : List Char}
    (skipped : skipDoctype? place passed text = some rest) : '>' ∈ text := by
  induction text generalizing place passed with
  | nil => exact nomatch skipped
  | cons c tail ih =>
    rw [skipDoctype?.eq_def] at skipped
    dsimp only at skipped
    split at skipped
    · exact List.mem_cons_of_mem c (ih skipped)
    · split at skipped
      · rename_i closed
        -- Only outside the subset and behind it does a character close the document type.
        have bracket : c = '>' := by
          unfold DoctypePlace.next? at closed
          split at closed <;> grind
        rw [bracket]
        exact List.mem_cons_self
      · exact List.mem_cons_of_mem c (ih skipped)

theorem ofDeclaration_append {text : List Char} (inside : '>' ∈ text) (more : List Char) :
    DoctypePlace.ofDeclaration (text ++ more) = DoctypePlace.ofDeclaration text := by
  unfold DoctypePlace.ofDeclaration
  have same : ∀ word : String, '>' ∉ word.toList.dropLast →
      word.toList.isPrefixOf (text ++ more) = word.toList.isPrefixOf text :=
    fun word plain => isPrefixOf_append inside plain more
  rw [same "!--" (by decide), same "?" (by decide)]
  simp only [List.any_cons, List.any_nil, same "!ENTITY" (by decide), same "!ATTLIST" (by decide),
    same "!NOTATION" (by decide)]
  rfl

/-- **Looking ahead does not reach over the end of the document type.** -/
theorem next?_append {c : Char} {rest : List Char} {place : DoctypePlace}
    (inside : place.next? c rest = none ∨ '>' ∈ rest) (more : List Char) :
    place.next? c (rest ++ more) = place.next? c rest := by
  cases place with
  | outside quote => cases quote <;> rfl
  | declaration quote => cases quote <;> rfl
  | markup => rfl
  | behind => rfl
  | subset =>
    rcases inside with closed | inside
    · unfold DoctypePlace.next? at closed
      grind
    · unfold DoctypePlace.next?
      rw [ofDeclaration_append inside more]
  | comment =>
    rcases inside with closed | inside
    · unfold DoctypePlace.next? at closed
      grind
    · have same : "-->".toList.isPrefixOf (c :: (rest ++ more)) =
          "-->".toList.isPrefixOf (c :: rest) :=
        isPrefixOf_append (List.mem_cons_of_mem c inside) (by decide) more
      show (if "-->".toList.isPrefixOf (c :: (rest ++ more)) then _ else _) = _
      rw [same]
      rfl
  | instruction =>
    rcases inside with closed | inside
    · unfold DoctypePlace.next? at closed
      grind
    · have same : "?>".toList.isPrefixOf (c :: (rest ++ more)) =
          "?>".toList.isPrefixOf (c :: rest) :=
        isPrefixOf_append (List.mem_cons_of_mem c inside) (by decide) more
      show (if "?>".toList.isPrefixOf (c :: (rest ++ more)) then _ else _) = _
      rw [same]
      rfl

theorem skipDoctype?_append {place : DoctypePlace} {passed : Nat} {text rest : List Char}
    (skipped : skipDoctype? place passed text = some rest) (more : List Char) :
    skipDoctype? place passed (text ++ more) = some (rest ++ more) := by
  induction text generalizing place passed with
  | nil => exact nomatch skipped
  | cons c tail ih =>
    cases passed with
    | succ passed => exact ih skipped
    | zero =>
      rw [List.cons_append]
      unfold skipDoctype? at skipped ⊢
      dsimp only at skipped ⊢
      cases next : place.next? c tail with
      | none =>
        rw [next] at skipped
        rw [next?_append (.inl next) more, next, ← Option.some.inj skipped]
      | some reached =>
        rw [next] at skipped
        have inside := bracket_mem_of_skipDoctype? skipped
        rw [next?_append (.inr inside) more, next]
        exact ih skipped

section

variable {text rest : List Char} {construct : Construct}

/-- The closing bracket is no blank, so what follows the word of a document type begins alike. -/
theorem head?_body_append {body : List Char} (inside : '>' ∈ body) (more : List Char) :
    ((body ++ more).dropWhile isBlank).head? = (body.dropWhile isBlank).head? := by
  cases begins : body.dropWhile isBlank with
  | nil =>
    exact absurd (List.dropWhile_eq_nil_iff.mp begins '>' inside) (by decide)
  | cons c tail => rw [dropWhile_append begins more, List.head?_cons, List.head?_cons]

theorem readDoctype_append (read : readDoctype text = .ok (construct, rest)) (more : List Char) :
    readDoctype (text ++ more) = .ok (construct, rest ++ more) := by
  unfold readDoctype at read ⊢
  dsimp only at read ⊢
  split at read
  · exact nomatch read
  · rename_i word
    split at read
    · exact nomatch read
    · rename_i named
      rw [Classical.not_not] at word
      have long : doctypeWord.length ≤ text.length := by
        have lengths := congrArg List.length word
        rw [List.length_map, List.length_take] at lengths
        omega
      have inside : '>' ∈ text.drop doctypeWord.length := by
        cases skipped : skipDoctype? (.outside none) 0 (text.drop doctypeWord.length) with
        | none =>
          rw [skipped] at read
          exact nomatch read
        | some tail => exact bracket_mem_of_skipDoctype? skipped
      rw [List.take_append_of_le_length long, List.drop_append_of_le_length long,
        head?_body_append inside more, if_neg (Classical.not_not.mpr word), if_neg named]
      exact behind_append (fun _ skipped => skipDoctype?_append skipped more) read

/-! ### Constructs -/

theorem readBang_append (read : readBang text = .ok (construct, rest)) (more : List Char) :
    readBang (text ++ more) = .ok (construct, rest ++ more) := by
  unfold readBang at read
  split at read
  · exact behind_append (fun _ found => dropThrough?_append found more) read
  · exact nomatch read
  · rename_i tail
    split at read
    · rename_i word
      have long : 6 ≤ tail.length := (List.isPrefixOf_iff_prefix.mp word).length_le
      have still : "CDATA[".toList.isPrefixOf (tail ++ more) = true := isPrefixOf_longer word more
      show (if "CDATA[".toList.isPrefixOf (tail ++ more) then _ else _) = _
      rw [if_pos still]
      refine behind_append (fun _ found => ?_) read
      show dropThrough? _ ((tail ++ more).drop 6) = _
      rw [List.drop_append_of_le_length long]
      exact dropThrough?_append found more
    · exact nomatch read
  · rename_i c tail notComment notDash notData
    split at read
    · rename_i letter
      have continued := readDoctype_append read more
      rcases letter with rfl | rfl
      · exact continued
      · exact continued
    · exact nomatch read
  · exact nomatch read

theorem readMarkup_append (read : readMarkup text = .ok (construct, rest)) (more : List Char) :
    readMarkup (text ++ more) = .ok (construct, rest ++ more) := by
  unfold readMarkup at read
  split at read
  · exact readBang_append read more
  · exact readInstruction_append read more
  · exact readTagAs_append read more
  · rename_i notBang notInstruction notEnd
    have continued := readTagAs_append read more
    cases text with
    | nil => exact nomatch read
    | cons c tail =>
      rw [List.cons_append] at continued ⊢
      unfold readMarkup
      split
      · rename_i same
        exact absurd (by rw [(List.cons.inj same).1]) (notBang tail)
      · rename_i same
        exact absurd (by rw [(List.cons.inj same).1]) (notInstruction tail)
      · rename_i same
        exact absurd (by rw [(List.cons.inj same).1]) (notEnd tail)
      · exact continued

/-- **A construct is the same in a longer text.** -/
theorem nextConstruct_append (next : nextConstruct text = .ok (some (construct, rest)))
    (more : List Char) : nextConstruct (text ++ more) = .ok (some (construct, rest ++ more)) := by
  unfold nextConstruct at next ⊢
  cases opened : text.dropWhile fun c => !endsCharacterData c with
  | nil =>
    rw [opened] at next
    exact nomatch next
  | cons c tail =>
    rw [dropWhile_append opened more]
    rw [opened] at next
    split at next
    · exact nomatch next
    · rename_i inner begun
      obtain ⟨rfl, rfl⟩ := List.cons.inj begun
      obtain ⟨⟨found, left⟩, read, same⟩ := exists_of_map_ok next
      obtain ⟨rfl, rfl⟩ := Prod.mk.inj (Option.some.inj same)
      show (readMarkup (tail ++ more)).map some = _
      rw [readMarkup_append read more]
      rfl
    · rename_i mark inner other begun
      obtain ⟨rfl, rfl⟩ := List.cons.inj begun
      obtain ⟨⟨found, left⟩, read, same⟩ := exists_of_map_ok next
      obtain ⟨rfl, rfl⟩ := Prod.mk.inj (Option.some.inj same)
      split
      · rename_i nothing
        exact nomatch nothing
      · rename_i again
        exact (other (List.cons.inj again).1).elim
      · rename_i again
        rw [← (List.cons.inj again).2, readReference_append read more]
        rfl

/-- **Behind the last construct, what is added is read by itself.** -/
theorem nextConstruct_append_of_none (next : nextConstruct text = .ok none) (more : List Char) :
    nextConstruct (text ++ more) = nextConstruct more := by
  unfold nextConstruct at next ⊢
  split at next
  · rename_i ended
    rw [List.dropWhile_append, ended]
    rfl
  · -- What is behind a bracket or an ampersand gives a construct or a fault.
    obtain ⟨pair, -, same⟩ := exists_of_map_ok next
    exact nomatch same
  · obtain ⟨pair, -, same⟩ := exists_of_map_ok next
    exact nomatch same

end

end SchemaBinding.Markup
