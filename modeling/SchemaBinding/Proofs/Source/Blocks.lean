/-
**Blocks of lines, written and read.**

A block is a head, a body that stands four blanks further to the right, and a closing brace. Since no
line of the body begins with the brace, the body ends at the first line that is one, and it is read
back whatever stands in it (`Lines.body_block`). Inside a line, a name is read up to the first
character that no identifier goes on with (`cut_name`).
-/

import Mathlib.Data.List.Basic
import Mathlib.Data.List.TakeWhile
import SchemaBinding.Source.Layout

namespace SchemaBinding

namespace Lines

/-! ### Indentation -/

theorem indent_nil : indent [] = [] := rfl

theorem indent_cons (line : String) (rest : Lines) :
    indent (line :: rest) = indentLine line :: indent rest := rfl

theorem indent_append (first second : Lines) :
    indent (first ++ second) = indent first ++ indent second := List.map_append

theorem append_ne_empty {last : String} (nonempty : last ≠ "") (first : String) :
    first ++ last ≠ "" := by
  rw [Ne, String.append_eq_empty_iff]
  exact fun empty => nonempty empty.2

theorem indentLine_eq {line : String} (nonempty : line ≠ "") : indentLine line = "    " ++ line :=
  if_neg (by rwa [String.isEmpty_iff])

/-- Lines that are not empty move to the right with the blanks that stand in front of them. -/
theorem indent_map {lines : Lines} (nonempty : ∀ line ∈ lines, line ≠ "") (blanks : String) :
    indent (lines.map (blanks ++ ·)) = lines.map ("    " ++ blanks ++ ·) := by
  rw [indent, List.map_map]
  refine List.map_congr_left fun line member => ?_
  have kept : blanks ++ line ≠ "" := append_ne_empty (nonempty line member) blanks
  rw [Function.comp_apply, indentLine_eq kept, String.append_assoc]

theorem indent_eq {lines : Lines} (nonempty : ∀ line ∈ lines, line ≠ "") :
    indent lines = lines.map ("    " ++ ·) := by
  have plain : lines.map ("" ++ ·) = lines := by
    simp only [String.empty_append, List.map_id']
  rw [← plain, indent_map nonempty "", List.map_map]
  simp only [Function.comp_def, String.empty_append, String.append_empty]

/-! ### Reading blocks -/

/-- A line without the four blanks at its beginning. -/
def dedentLine (line : String) : String := String.ofList (line.toList.drop 4)

/-- **The body of the first block with a head**, up to the brace that closes it. -/
def body (head : String) (lines : Lines) : Lines :=
  (((lines.dropWhile (· != head ++ " \x7b")).drop 1).takeWhile (· != "\x7d")).map dedentLine

theorem toList_indentLine (line : String) :
    (indentLine line).toList = if line.isEmpty then [] else "    ".toList ++ line.toList := by
  unfold indentLine
  by_cases empty : line.isEmpty = true
  · rw [if_pos empty, if_pos empty, String.isEmpty_iff.mp empty]
    rfl
  · rw [if_neg empty, if_neg empty, String.toList_append]

theorem dedentLine_indentLine (line : String) : dedentLine (indentLine line) = line := by
  unfold dedentLine
  rw [toList_indentLine]
  by_cases empty : line.isEmpty = true
  · rw [if_pos empty, String.isEmpty_iff.mp empty]
    rfl
  · rw [if_neg empty]
    exact String.ofList_toList

/-- A line inside a block begins with a blank, unless it is empty. -/
theorem head?_indentLine (line : String) :
    (indentLine line).toList.head? = none ∨ (indentLine line).toList.head? = some ' ' := by
  rw [toList_indentLine]
  by_cases empty : line.isEmpty = true
  · rw [if_pos empty]
    exact .inl rfl
  · rw [if_neg empty]
    exact .inr rfl

theorem indentLine_ne {line other : String} {c : Char} (begins : other.toList.head? = some c)
    (visible : c ≠ ' ') : indentLine line ≠ other := by
  rintro rfl
  rcases head?_indentLine line with nothing | blank
  · exact nomatch begins.symm.trans nothing
  · exact visible (Option.some.inj (begins.symm.trans blank))

/-- **The body of a block is read back**, if its head does not stand before it. -/
theorem body_block {head : String} {before : Lines} (absent : head ++ " \x7b" ∉ before)
    (inside after : Lines) : body head (before ++ block head inside ++ after) = inside := by
  have passed : ∀ line ∈ before, (line != head ++ " \x7b") = true := by
    intro line member
    refine bne_iff_ne.mpr ?_
    rintro rfl
    exact absent member
  have indented : ∀ line ∈ indent inside, (line != "\x7d") = true := by
    refine List.forall_mem_map.mpr fun line _ => bne_iff_ne.mpr ?_
    exact indentLine_ne (c := '\x7d') rfl (by decide)
  have lines : before ++ block head inside ++ after =
      before ++ (head ++ " \x7b") :: (indent inside ++ "\x7d" :: after) := by
    simp [block]
  unfold body
  rw [lines, List.dropWhile_append_of_pos passed, List.dropWhile_cons_of_neg (by simp),
    List.drop_one, List.tail_cons, List.takeWhile_append_of_pos indented,
    List.takeWhile_cons_of_neg (by simp), List.append_nil, indent, List.map_map]
  simp [Function.comp_def, dedentLine_indentLine]

theorem body_block_alone (head : String) (inside : Lines) :
    body head (block head inside) = inside := by
  have read : body head ([] ++ block head inside ++ []) = inside :=
    body_block List.not_mem_nil inside []
  rwa [List.nil_append, List.append_nil] at read

theorem mem_block {line head : String} {inside : Lines} :
    line ∈ block head inside ↔ line = head ++ " \x7b" ∨ line ∈ indent inside ∨ line = "\x7d" := by
  simp [block]

/-! ### Lines by their first characters -/

theorem head?_append {word rest : String} {c : Char} (first : word.toList.head? = some c) :
    (word ++ rest).toList.head? = some c := by
  rw [String.toList_append, List.head?_append, first]
  rfl

theorem ne_empty_of_head? {line : String} {c : Char} (begins : line.toList.head? = some c) :
    line ≠ "" := by
  rintro rfl
  exact absurd begins (by simp)

theorem ne_of_head? {first second : String} {c d : Char} (begins : first.toList.head? = some c)
    (other : second.toList.head? = some d) (different : c ≠ d) : first ≠ second := by
  rintro rfl
  exact different (Option.some.inj (begins.symm.trans other))

/-- A line that begins with no blank and no brace is none of a block, unless it opens the block. -/
theorem notMem_block {line head : String} {inside : Lines} {c : Char}
    (begins : line.toList.head? = some c) (visible : c ≠ ' ') (closing : c ≠ '\x7d')
    (other : line ≠ head ++ " \x7b") : line ∉ block head inside := by
  rw [mem_block, not_or, not_or]
  refine ⟨other, fun indented => ?_, ne_of_head? begins (d := '\x7d') rfl closing⟩
  obtain ⟨original, -, same⟩ := List.mem_map.mp indented
  exact indentLine_ne begins visible same

end Lines

/-! ### Reading words -/

theorem dropPrefix?_append (word : String) (rest : List Char) :
    (word.toList ++ rest).dropPrefix? word.toList = some rest :=
  List.dropPrefix?_append_of_beq rest (beq_self_eq_true _)

/-- A name is cut off where something follows that no identifier goes on with. -/
theorem cut_name {name : String} (continues : ∀ c ∈ name.toList, continuesIdentifier c = true)
    {c : Char} (ends : continuesIdentifier c = false) (rest : List Char) :
    (name.toList ++ c :: rest).takeWhile continuesIdentifier = name.toList ∧
      (name.toList ++ c :: rest).dropWhile continuesIdentifier = c :: rest := by
  have stop : ¬ continuesIdentifier c = true := Bool.eq_false_iff.mp ends
  rw [List.takeWhile_append_of_pos continues, List.dropWhile_append_of_pos continues,
    List.takeWhile_cons_of_neg stop, List.dropWhile_cons_of_neg stop, List.append_nil]
  exact ⟨rfl, rfl⟩

/-- Lines that can all be read are read one after another. -/
theorem mapM_eq_some {α β γ : Type} {items : List γ} {line : γ → α} {value : γ → β}
    {read : α → Option β} (reads : ∀ item ∈ items, read (line item) = some (value item)) :
    (items.map line).mapM read = some (items.map value) := by
  induction items with
  | nil => rfl
  | cons item rest ih =>
    obtain ⟨first, later⟩ := List.forall_mem_cons.mp reads
    rw [List.map_cons, List.mapM_cons, first, ih later]
    rfl

end SchemaBinding
