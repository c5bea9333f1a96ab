/-
**What a name in snake case looks like.**

The words of a name are its ASCII letters and digits, cut into pieces of which none is empty
(`flatten_nameWords`). So a name has words if and only if it has such a character, and in snake case
it then begins with a small letter or a digit (`exists_snakeChars_cons`), and goes on with small
letters, digits and underscores (`snakeChars_small`).
-/

import SchemaBinding.Naming.SnakeCase

namespace SchemaBinding

/-! ### ASCII characters -/

/-- What is decided for every ASCII character holds of all of them. -/
theorem forall_ascii (property : Char → Prop) (decided : ∀ n : Fin 128, property (Char.ofNat n))
    {c : Char} (ascii : c.toNat < 128) : property c := by
  have here : property (Char.ofNat c.toNat) := decided ⟨c.toNat, ascii⟩
  rwa [Char.ofNat_toNat] at here

theorem isAlpha_iff {c : Char} : c.isAlpha = true ↔ c.isUpper = true ∨ c.isLower = true := by
  show (c.isUpper || c.isLower) = true ↔ _
  rw [Bool.or_eq_true]

theorem isAlphanum_iff {c : Char} :
    c.isAlphanum = true ↔ (c.isUpper = true ∨ c.isLower = true) ∨ c.isDigit = true := by
  show (c.isAlpha || c.isDigit) = true ↔ _
  rw [Bool.or_eq_true, isAlpha_iff]

/-- ASCII letters and digits are ASCII characters. -/
theorem ascii_of_isAlphanum {c : Char} (plain : c.isAlphanum = true) : c.toNat < 128 := by
  rcases isAlphanum_iff.mp plain with (upper | lower) | digit
  · have high : c.val ≤ 'Z'.val := (of_decide_eq_true upper).2
    exact Nat.lt_of_le_of_lt (UInt32.le_iff_toNat_le.mp high) (by decide)
  · have high : c.val ≤ 'z'.val := of_decide_eq_true (Bool.and_eq_true_iff.mp lower).2
    exact Nat.lt_of_le_of_lt (UInt32.le_iff_toNat_le.mp high) (by decide)
  · have high : c.val ≤ '9'.val := of_decide_eq_true (Bool.and_eq_true_iff.mp digit).2
    exact Nat.lt_of_le_of_lt (UInt32.le_iff_toNat_le.mp high) (by decide)

/-- Whether a character is a small ASCII letter or a digit. -/
def isSmallAlphanum (c : Char) : Bool := c.isLower || c.isDigit

theorem isAlphanum_of_isSmallAlphanum {c : Char} (small : isSmallAlphanum c = true) :
    c.isAlphanum = true := by
  rcases Bool.or_eq_true_iff.mp small with letter | digit
  · exact isAlphanum_iff.mpr (.inl (.inr letter))
  · exact isAlphanum_iff.mpr (.inr digit)

theorem isSmallAlphanum_toLower {c : Char} (plain : c.isAlphanum = true) :
    isSmallAlphanum c.toLower = true :=
  forall_ascii (fun c => c.isAlphanum = true → isSmallAlphanum c.toLower = true)
    (by decide +kernel) (ascii_of_isAlphanum plain) plain

/-! ### Words -/

theorem flatten_consWord (backwards : List Char) (words : List (List Char)) :
    (consWord backwards words).flatten = backwards.reverse ++ words.flatten := by
  cases backwards with
  | nil => rfl
  | cons c rest => exact List.flatten_cons

/-- The words of a text are its letters and digits, behind those of the word that it continues. -/
theorem flatten_wordsAfter (begun text : List Char) :
    (wordsAfter begun text).flatten = begun.reverse ++ text.filter Char.isAlphanum := by
  induction text generalizing begun with
  | nil => exact flatten_consWord begun []
  | cons c rest ih =>
    rw [wordsAfter]
    by_cases plain : c.isAlphanum = true
    · rw [if_neg (by rw [plain]; exact Bool.false_ne_true), List.filter_cons_of_pos plain]
      split
      · rw [flatten_consWord, ih]
        rfl
      · rw [ih, List.reverse_cons, List.append_assoc]
        rfl
    · rw [if_pos (by simpa using plain), flatten_consWord, ih, List.filter_cons_of_neg plain]
      rfl

/-- **The words of a name are its ASCII letters and digits**, in order. -/
theorem flatten_nameWords (name : List Char) :
    (nameWords name).flatten = name.filter Char.isAlphanum :=
  flatten_wordsAfter [] name

theorem isAlphanum_of_mem_nameWords {name word : List Char} (member : word ∈ nameWords name)
    {c : Char} (inside : c ∈ word) : c.isAlphanum = true := by
  have kept : c ∈ (nameWords name).flatten := List.mem_flatten.mpr ⟨word, member, inside⟩
  rw [flatten_nameWords] at kept
  exact (List.mem_filter.mp kept).2

/-- A name has no words if and only if it has no ASCII letter or digit. -/
theorem nameWords_eq_nil_iff {name : List Char} :
    nameWords name = [] ↔ ∀ c ∈ name, c.isAlphanum = false := by
  have none : nameWords name = [] ↔ (nameWords name).flatten = [] := by
    rw [List.flatten_eq_nil_iff, List.eq_nil_iff_forall_not_mem]
    exact ⟨fun absent word member => absurd member (absent word),
      fun empty word member => ne_nil_of_mem_wordsAfter member (empty word member)⟩
  rw [none, flatten_nameWords, List.filter_eq_nil_iff]
  simp only [Bool.not_eq_true]

/-! ### Snake case -/

theorem toList_snakeCase (name : String) : (snakeCase name).toList = snakeChars name.toList :=
  String.toList_ofList

/-- What words are joined by stands between their characters. -/
theorem mem_intercalate_singleton {α : Type} {separator x : α} {words : List (List α)}
    (member : x ∈ [separator].intercalate words) : x = separator ∨ ∃ word ∈ words, x ∈ word := by
  induction words with
  | nil => exact absurd member List.not_mem_nil
  | cons word rest ih =>
    cases rest with
    | nil =>
      rw [List.intercalate_singleton] at member
      exact .inr ⟨word, List.mem_cons_self, member⟩
    | cons next rest =>
      rw [List.intercalate_cons_cons, List.mem_append, List.mem_append,
        List.mem_singleton] at member
      rcases member with (first | joint) | later
      · exact .inr ⟨word, List.mem_cons_self, first⟩
      · exact .inl joint
      · rcases ih later with joint | ⟨other, here, inside⟩
        · exact .inl joint
        · exact .inr ⟨other, List.mem_cons_of_mem _ here, inside⟩

/-- Snake case writes its words with small letters and digits. -/
theorem small_of_mem_snakeWords {name word : List Char}
    (member : word ∈ (nameWords name).map fun word => word.map Char.toLower) :
    ∀ c ∈ word, isSmallAlphanum c = true := by
  obtain ⟨original, isWord, rfl⟩ := List.mem_map.mp member
  exact List.forall_mem_map.mpr fun c inside =>
    isSmallAlphanum_toLower (isAlphanum_of_mem_nameWords isWord inside)

/-- **Snake case consists of small ASCII letters, digits and underscores.** -/
theorem snakeChars_small {name : List Char} {c : Char} (member : c ∈ snakeChars name) :
    c = '_' ∨ isSmallAlphanum c = true := by
  rcases mem_intercalate_singleton member with joint | ⟨word, isWord, inside⟩
  · exact .inl joint
  · exact .inr (small_of_mem_snakeWords isWord c inside)

/-- Nothing is left of a name without ASCII letters and digits. -/
theorem snakeChars_eq_nil {name : List Char} (nameless : ∀ c ∈ name, c.isAlphanum = false) :
    snakeChars name = [] := by
  rw [snakeChars, nameWords_eq_nil_iff.mpr nameless]
  rfl

/-- **A name with an ASCII letter or digit begins with one in snake case.** -/
theorem exists_snakeChars_cons {name : List Char} (named : ∃ c ∈ name, c.isAlphanum = true) :
    ∃ c rest, snakeChars name = c :: rest ∧ isSmallAlphanum c = true := by
  cases words : nameWords name with
  | nil =>
    obtain ⟨c, member, plain⟩ := named
    exact absurd plain (Bool.eq_false_iff.mp (nameWords_eq_nil_iff.mp words c member))
  | cons word others =>
    have isWord : word ∈ nameWords name := by rw [words]; exact List.mem_cons_self
    cases chars : word with
    | nil => exact absurd chars (ne_nil_of_mem_wordsAfter isWord)
    | cons c rest =>
      have inside : c ∈ word := by rw [chars]; exact List.mem_cons_self
      have small := isSmallAlphanum_toLower (isAlphanum_of_mem_nameWords isWord inside)
      rw [snakeChars, words, chars]
      cases others with
      | nil => exact ⟨c.toLower, rest.map Char.toLower, List.intercalate_singleton, small⟩
      | cons next others => exact ⟨c.toLower, _, List.intercalate_cons_cons, small⟩

end SchemaBinding
