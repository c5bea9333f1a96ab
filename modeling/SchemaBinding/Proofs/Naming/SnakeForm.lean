/-
**Snake case is a normal form.**

A name in snake case has small ASCII letters, digits and underscores, and each underscore stands
between two other characters (`InSnakeCase`). Its letters and digits are those of the original name,
in small letters.

The names of this form are exactly those that snake case leaves as they are
(`snakeCase_eq_self_iff`), for their words are what stands between the underscores, and no capital
cuts them further. So a name in snake case stays as it is when it is put in snake case once more.
-/

import Mathlib.Data.List.Chain
import SchemaBinding.Proofs.Naming.SnakeCase

namespace SchemaBinding

/-- **The form of snake case**: no underscore stands at an end or beside another one. -/
structure InSnakeCase (chars : List Char) : Prop where
  small : ∀ c ∈ chars, c = '_' ∨ isSmallAlphanum c = true
  beginning : chars.head? ≠ some '_'
  ending : chars.getLast? ≠ some '_'
  apart : ¬ ['_', '_'] <:+: chars

/-- Two neighbours are not both underscores. -/
def KeepsApart (c next : Char) : Prop := c = '_' → next ≠ '_'

theorem apart_iff {chars : List Char} : ¬ ['_', '_'] <:+: chars ↔ chars.IsChain KeepsApart := by
  rw [List.isChain_iff_forall_rel_of_append_cons_cons]
  constructor
  · rintro apart c next before behind rfl rfl rfl
    exact apart ⟨before, behind, by simp⟩
  · rintro chain ⟨before, behind, rfl⟩
    have doubled : before ++ ['_', '_'] ++ behind = before ++ '_' :: '_' :: behind := by simp
    exact chain doubled rfl rfl

theorem ne_underscore_of_small {c : Char} (small : isSmallAlphanum c = true) : c ≠ '_' := by
  rintro rfl
  exact absurd small (by decide)

theorem toLower_of_small {c : Char} (small : isSmallAlphanum c = true) : c.toLower = c :=
  forall_ascii (fun c => isSmallAlphanum c = true → c.toLower = c)
    (by decide +kernel) (ascii_of_isAlphanum (isAlphanum_of_isSmallAlphanum small)) small

theorem isUpper_of_small {c : Char} (small : isSmallAlphanum c = true) : c.isUpper = false :=
  forall_ascii (fun c => isSmallAlphanum c = true → c.isUpper = false)
    (by decide +kernel) (ascii_of_isAlphanum (isAlphanum_of_isSmallAlphanum small)) small

/-! ### Words joined by underscores -/

section

variable {words : List (List Char)}
  (small : ∀ word ∈ words, ∀ c ∈ word, isSmallAlphanum c = true)

include small

/-- Without the underscores, joined words are the words one after another. -/
theorem filter_intercalate_underscore :
    (['_'].intercalate words).filter (· != '_') = words.flatten := by
  induction words with
  | nil => rfl
  | cons word rest ih =>
    obtain ⟨plain, others⟩ := List.forall_mem_cons.mp small
    have kept : word.filter (· != '_') = word := List.filter_eq_self.mpr fun c inside =>
      bne_iff_ne.mpr (ne_underscore_of_small (plain c inside))
    cases rest with
    | nil => rw [List.intercalate_singleton, kept, List.flatten_singleton]
    | cons next rest =>
      have joint : ['_'].filter (· != '_') = [] := rfl
      rw [List.intercalate_cons_cons, List.filter_append, List.filter_append, kept, joint,
        ih others, List.append_nil, ← List.flatten_cons]

/-- **Words of small letters and digits have the form once underscores join them.** -/
theorem inSnakeCase_intercalate (nonempty : ∀ word ∈ words, word ≠ []) :
    InSnakeCase (['_'].intercalate words) := by
  induction words with
  | nil => exact ⟨by simp, by simp, by simp, by simp⟩
  | cons word rest ih =>
    obtain ⟨some, others⟩ := List.forall_mem_cons.mp nonempty
    obtain ⟨plain, smaller⟩ := List.forall_mem_cons.mp small
    have noUnderscore : ∀ c ∈ word, c ≠ '_' := fun c inside =>
      ne_underscore_of_small (plain c inside)
    have wordApart : word.IsChain KeepsApart := by
      refine apart_iff.mp fun doubled => noUnderscore '_' ?_ rfl
      exact doubled.subset List.mem_cons_self
    have beginning : word.head? ≠ .some '_' := fun first =>
      noUnderscore '_' (List.mem_of_mem_head? first) rfl
    cases rest with
    | nil =>
      rw [List.intercalate_singleton]
      exact ⟨fun c inside => .inr (plain c inside), beginning,
        fun last => noUnderscore '_' (List.mem_of_mem_getLast? last) rfl, apart_iff.mpr wordApart⟩
    | cons next rest =>
      have tail := ih smaller others
      have more : ['_'].intercalate (next :: rest) ≠ [] := by
        have := others next List.mem_cons_self
        cases rest <;> simp [List.intercalate_singleton, List.intercalate_cons_cons, this]
      rw [List.intercalate_cons_cons, List.append_assoc, List.singleton_append]
      refine ⟨?_, ?_, ?_, apart_iff.mpr (List.isChain_append.mpr ⟨wordApart, ?_, ?_⟩)⟩
      · intro c inside
        rcases List.mem_append.mp inside with here | behind
        · exact .inr (plain c here)
        · rcases List.mem_cons.mp behind with joint | later
          · exact .inl joint
          · exact tail.small c later
      · rw [List.head?_append_of_ne_nil _ some]
        exact beginning
      · rw [List.getLast?_append_of_ne_nil _ (List.cons_ne_nil _ _),
          List.getLast?_cons_of_ne_nil more]
        exact tail.ending
      · refine List.isChain_cons.mpr ⟨fun c first _ => ?_, apart_iff.mp tail.apart⟩
        rintro rfl
        exact tail.beginning first
      · exact fun c last _ _ same => absurd same (noUnderscore c (List.mem_of_mem_getLast? last))

end

/-! ### Words of a name in snake case -/

theorem ending_of_cons {c : Char} {rest : List Char} (ending : (c :: rest).getLast? ≠ some '_') :
    rest.getLast? ≠ some '_' := by
  cases rest with
  | nil => simp
  | cons next rest => rwa [List.getLast?_cons_cons] at ending

/-- **Underscores between small letters and digits are what joins the words.** -/
theorem intercalate_wordsAfter {begun text : List Char}
    (small : ∀ c ∈ text, c = '_' ∨ isSmallAlphanum c = true) (ending : text.getLast? ≠ some '_')
    (apart : text.IsChain KeepsApart) (beginning : begun = [] → text.head? ≠ some '_') :
    ['_'].intercalate (wordsAfter begun text) = begun.reverse ++ text := by
  induction text generalizing begun with
  | nil =>
    rw [List.append_nil, wordsAfter, consWord]
    split
    · rename_i empty
      rw [List.isEmpty_iff.mp empty]
      rfl
    · exact List.intercalate_singleton
  | cons c rest ih =>
    obtain ⟨first, later⟩ := List.forall_mem_cons.mp small
    obtain ⟨neighbour, restApart⟩ := List.isChain_cons.mp apart
    rcases first with rfl | plain
    · -- The word before the underscore ends, and another one begins behind it.
      have some : begun ≠ [] := fun empty => beginning empty rfl
      have more : rest ≠ [] := by
        rintro rfl
        exact ending rfl
      have words : ['_'].intercalate (wordsAfter [] rest) = rest :=
        ih later (ending_of_cons ending) restApart fun _ first => neighbour '_' first rfl rfl
      have split : wordsAfter begun ('_' :: rest) = begun.reverse :: wordsAfter [] rest := by
        rw [wordsAfter, if_pos (by decide), consWord, if_neg (by simpa using some)]
      rw [split]
      cases behind : wordsAfter [] rest with
      | nil =>
        rw [behind] at words
        exact absurd words.symm more
      | cons word others =>
        rw [List.intercalate_cons_cons, ← behind, words, List.append_assoc]
        rfl
    · have goesOn : wordsAfter begun (c :: rest) = wordsAfter (c :: begun) rest := by
        rw [wordsAfter, isAlphanum_of_isSmallAlphanum plain, isUpper_of_small plain]
        rfl
      rw [goesOn, ih later (ending_of_cons ending) restApart fun none => absurd none (by simp),
        List.reverse_cons, List.append_assoc]
      rfl

/-- Words without capitals are written as they are. -/
theorem map_toLower_of_small {words : List (List Char)}
    (small : ∀ word ∈ words, ∀ c ∈ word, isSmallAlphanum c = true) :
    words.map (fun word => word.map Char.toLower) = words := by
  have lowered : ∀ word ∈ words, word.map Char.toLower = id word := by
    intro word member
    rw [List.map_congr_left fun c inside => toLower_of_small (small word member c inside),
      List.map_id']
    rfl
  rw [List.map_congr_left lowered, List.map_id]

/-- **A name of the form is left as it is.** -/
theorem snakeChars_of_inSnakeCase {name : List Char} (form : InSnakeCase name) :
    snakeChars name = name := by
  have small : ∀ word ∈ nameWords name, ∀ c ∈ word, isSmallAlphanum c = true := by
    intro word isWord c inside
    have kept : c ∈ name.filter Char.isAlphanum := by
      rw [← flatten_nameWords]
      exact List.mem_flatten.mpr ⟨word, isWord, inside⟩
    obtain ⟨member, plain⟩ := List.mem_filter.mp kept
    rcases form.small c member with rfl | small
    · exact absurd plain (by decide)
    · exact small
  rw [snakeChars, map_toLower_of_small small]
  exact intercalate_wordsAfter form.small form.ending (apart_iff.mp form.apart) fun _ =>
    form.beginning

/-! ### Snake case -/

/-- **A name in snake case has the form.** -/
theorem inSnakeCase_snakeChars (name : List Char) : InSnakeCase (snakeChars name) := by
  refine inSnakeCase_intercalate (fun word => small_of_mem_snakeWords) ?_
  intro word member
  obtain ⟨original, isWord, rfl⟩ := List.mem_map.mp member
  exact fun empty => ne_nil_of_mem_wordsAfter isWord (List.map_eq_nil_iff.mp empty)

/-- **The names that snake case leaves as they are have its form**, and no others. -/
theorem snakeCase_eq_self_iff {name : String} :
    snakeCase name = name ↔ InSnakeCase name.toList := by
  constructor
  · intro same
    rw [← same, toList_snakeCase]
    exact inSnakeCase_snakeChars name.toList
  · intro form
    rw [snakeCase, snakeChars_of_inSnakeCase form, String.ofList_toList]

/-- **Snake case is a normal form.** Every name in snake case has small ASCII letters, digits and
underscores only, and no underscore at an end or beside another one. Without its underscores it is
the ASCII letters and digits of the original name, in small letters. In snake case it stays as it
is. -/
theorem snakeCase_normal (name : String) :
    InSnakeCase (snakeCase name).toList ∧
      (snakeCase name).toList.filter (· != '_') =
        (name.toList.filter Char.isAlphanum).map Char.toLower ∧
      snakeCase (snakeCase name) = snakeCase name := by
  have form : InSnakeCase (snakeCase name).toList := by
    rw [toList_snakeCase]
    exact inSnakeCase_snakeChars name.toList
  refine ⟨form, ?_, snakeCase_eq_self_iff.mpr form⟩
  rw [toList_snakeCase, snakeChars, filter_intercalate_underscore fun _ => small_of_mem_snakeWords,
    ← List.map_flatten, flatten_nameWords]

example : snakeCase "__XMLHttp2Request--v.1é" = "xmlhttp2_request_v_1" := by decide

end SchemaBinding
