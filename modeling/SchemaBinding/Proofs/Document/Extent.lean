/-
**How far a task reads.**

The reader of schemas is in the middle of several tasks at once, one inside the other: it reads a
model group in a complex type in an element, say, and passes over an annotation there. A task is
begun by a start tag. Whether it is done when an end tag comes, the reader has to know from its
counts, for an end tag says nothing of itself, and not every tag that is entered begins a task
(`ReadingState.entered`, `ReadingState.tasks`).

The counts tell it right. Inside an element they change as its tags are opened and closed, and its
end tag takes away what its start tag has added (`inside_or_behind`). So a task is done at the end
tag of the element that began it, neither earlier nor later, and what follows the element is not
looked at (`readTask_element`).
-/

import Mathlib.Data.List.ReduceOption
import SchemaBinding.Proofs.Markup.Parts

namespace SchemaBinding

open Markup (Event Tag endsElement)

/-! ### The tasks under way -/

/-- The tags whose content is passed over. They are one task, which the outermost of them began. -/
def passedTags : Nat → List (Option ReadingTask)
  | 0 => []
  | depth + 1 => List.replicate depth none ++ [some .passingOver]

def Place.entered : Place → List (Option ReadingTask)
  | .inSchema _ (some component) => component.entered
  | _ => []

namespace ReadingState

/-- **The tags that the reader has entered**, innermost first, each with the task that it began, if
it began one. The tag of the schema is not among them. -/
def entered (state : ReadingState) : List (Option ReadingTask) :=
  passedTags state.passedOver ++ state.place.entered

/-- **The tasks that are under way**, innermost first. -/
def tasks (state : ReadingState) : List ReadingTask := state.entered.reduceOption

/-- Reads on until fewer tasks are under way than the given number: the state then, and the events
that are left. There is none if the events end before. -/
def readUntil (count : Nat) (state : ReadingState) :
    List Event → Except SchemaFault (Option (ReadingState × List Event))
  | [] => .ok none
  | event :: rest => do
    let next ← state.step event
    if next.tasks.length < count then return some (next, rest) else next.readUntil count rest

/-- **Reads on until the innermost task is done.** -/
def readTask (state : ReadingState) (events : List Event) :
    Except SchemaFault (Option (ReadingState × List Event)) :=
  state.readUntil state.tasks.length events

/-! ### The end of the document -/

/-- No construct is being read by the tags whose content is passed over. -/
theorem find?_passedTags (depth : Nat) :
    (passedTags depth).reduceOption.find? (· != .passingOver) = none := by
  cases depth with
  | zero => rfl
  | succ depth =>
    rw [passedTags, List.reduceOption_append, List.reduceOption_replicate_none]
    rfl

/-- The innermost task of a component is to read the construct that lacks its end if the document
ends there. -/
theorem find?_component (component : Component) :
    component.entered.reduceOption.find? (· != .passingOver) =
      some (.reading component.innermost) := by
  have group (content : OpenContent) : content.entered.reduceOption.find? (· != .passingOver) =
      if content.opened.isEmpty then none else some (.reading .modelGroup) := by
    unfold OpenContent.entered
    cases content.opened <;> rfl
  cases component with
  | simpleType depth type =>
    rw [Component.entered, List.reduceOption_append, List.reduceOption_replicate_none]
    rfl
  | complexType depth simple type content owner =>
    rw [Component.entered, List.reduceOption_append, List.find?_append, group,
      List.reduceOption_append, List.reduceOption_replicate_none, Component.innermost]
    by_cases between : content.opened.isEmpty = true
    · rw [if_pos between, if_pos between]
      rfl
    · rw [if_neg between, if_neg between]
      rfl
  | group name content =>
    rw [Component.entered, List.reduceOption_append, List.find?_append, group]
    by_cases between : content.opened.isEmpty = true
    · rw [if_pos between]
      rfl
    · rw [if_neg between]
      rfl
  | element owner => rfl

/-- **A document that ends too early is refused for the innermost construct that is being read.** -/
theorem conclude_eq_unterminated_iff {state : ReadingState} {construct : SchemaConstruct} :
    state.conclude = .error (.malformed (.unterminated construct)) ↔
      state.tasks.find? (· != .passingOver) = some (.reading construct) := by
  rw [tasks, entered, List.reduceOption_append, List.find?_append, find?_passedTags, Option.none_or,
    conclude]
  match state.place with
  | .beforeSchema => simp [Place.entered]
  | .inSchema schema none => simp [Place.entered]
  | .inSchema schema (some component) =>
    rw [Place.entered, find?_component]
    simp

/-! ### What an event does to the tags that are entered -/

variable {state next : ReadingState}

/-- A start tag is entered, unless it is that of the schema. -/
theorem entered_start {tag : Tag} (taken : state.step (.start tag) = .ok next) :
    (∃ task, next.entered = task :: state.entered) ∨ state.entered = [] ∧ next.entered = [] := by
  obtain ⟨place, passed⟩ := state
  cases passed with
  | succ passed =>
    rw [← Except.ok.inj taken]
    exact .inl ⟨none, rfl⟩
  | zero =>
    have taken : start place tag = .ok next := taken
    unfold start at taken
    match place with
    | .inSchema schema (some component) =>
      obtain ⟨⟨inner, passed⟩, started, taken⟩ := exists_of_bind_ok taken
      rw [← Except.ok.inj taken]
      rcases Component.entered_start started with ⟨rfl, same⟩ | ⟨rfl, task, longer⟩
      · refine .inl ⟨some .passingOver, ?_⟩
        show some .passingOver :: inner.entered = _
        rw [same]
        rfl
      · exact .inl ⟨task, longer⟩
    | .inSchema schema none =>
      dsimp only at taken
      split at taken
      · exact nomatch taken
      · obtain ⟨found, begins, taken⟩ := exists_of_bind_ok taken
        cases found with
        | none =>
          rw [← Except.ok.inj taken]
          exact .inl ⟨some .passingOver, rfl⟩
        | some component =>
          rw [← Except.ok.inj taken]
          have single := (Component.begins_of_ofTag? begins).2
          rw [← Component.length_entered] at single
          obtain ⟨task, alone⟩ := List.length_eq_one_iff.mp single
          exact .inl ⟨task, alone⟩
    | .beforeSchema =>
      dsimp only at taken
      split at taken
      · obtain ⟨place, entered, taken⟩ := exists_of_bind_ok taken
        obtain ⟨targetNamespace, -, entered⟩ := exists_of_bind_ok entered
        rw [← Except.ok.inj taken, ← Except.ok.inj entered]
        exact .inr ⟨rfl, rfl⟩
      · rw [← Except.ok.inj taken]
        exact .inl ⟨some .passingOver, rfl⟩

/-- An empty element enters nothing. -/
theorem entered_empty {tag : Tag} (taken : state.step (.empty tag) = .ok next) :
    next.entered = state.entered := by
  obtain ⟨place, passed⟩ := state
  cases passed with
  | succ passed => rw [← Except.ok.inj taken]
  | zero =>
    have taken : empty place tag = .ok next := taken
    unfold empty at taken
    match place with
    | .inSchema schema (some component) =>
      obtain ⟨inner, emptied, taken⟩ := exists_of_bind_ok taken
      rw [← Except.ok.inj taken]
      exact Component.entered_empty emptied
    | .inSchema schema none =>
      dsimp only at taken
      split at taken
      · exact nomatch taken
      · obtain ⟨found, -, taken⟩ := exists_of_bind_ok taken
        cases found <;> rw [← Except.ok.inj taken] <;> rfl
    | .beforeSchema =>
      dsimp only at taken
      split at taken
      · obtain ⟨place, entered, taken⟩ := exists_of_bind_ok taken
        obtain ⟨targetNamespace, -, entered⟩ := exists_of_bind_ok entered
        rw [← Except.ok.inj taken, ← Except.ok.inj entered]
        rfl
      · rw [← Except.ok.inj taken]
        rfl

/-- An end tag leaves the tag that was entered last. -/
theorem entered_finish (taken : state.step .finish = .ok next) :
    next.entered = state.entered.tail := by
  obtain ⟨place, passed⟩ := state
  cases passed with
  | succ passed =>
    rw [← Except.ok.inj taken]
    cases passed <;> rfl
  | zero =>
    rw [← Except.ok.inj taken]
    match place with
    | .inSchema schema (some component) =>
      show (finish (.inSchema schema (some component))).entered = component.entered.tail
      unfold finish
      dsimp only
      cases left : component.finish? with
      | some inner =>
        obtain ⟨task, longer⟩ := Component.entered_finish left
        rw [longer]
        rfl
      | none =>
        have single := Component.nesting_complete left
        rw [← Component.length_entered] at single
        obtain ⟨task, alone⟩ := List.length_eq_one_iff.mp single
        rw [alone]
        rfl
    | .inSchema schema none => rfl
    | .beforeSchema => rfl

/-! ### Elements -/

variable {inner outer : List (Option ReadingTask)} {begun : Option ReadingTask}

/-- **An event of an element** leaves the reader inside the element, or it is the end tag of the
element, and then all tags are left that were entered with it. -/
theorem inside_or_behind {event : Event} {rest : List Event}
    (inside : state.entered = inner ++ begun :: outer)
    (ends : endsElement inner.length (event :: rest) = true) (taken : state.step event = .ok next) :
    (∃ deeper, next.entered = deeper ++ begun :: outer ∧ endsElement deeper.length rest = true) ∨
      rest = [] ∧ next.entered = outer := by
  cases event with
  | start tag =>
    rcases entered_start taken with ⟨task, longer⟩ | ⟨nothing, -⟩
    · exact .inl ⟨task :: inner, by rw [longer, inside]; rfl, ends⟩
    · simp [nothing] at inside
  | empty tag => exact .inl ⟨inner, by rw [entered_empty taken, inside], ends⟩
  | passive =>
    rw [← Except.ok.inj taken]
    exact .inl ⟨inner, inside, ends⟩
  | finish =>
    have shorter := entered_finish taken
    rw [inside] at shorter
    cases inner with
    | nil => exact .inr ⟨List.isEmpty_iff.mp ends, shorter⟩
    | cons innermost inner => exact .inl ⟨inner, shorter, ends⟩

/-- **An element leaves the tags that it has entered.** -/
theorem entered_of_endsElement {element : List Event}
    (inside : state.entered = inner ++ begun :: outer)
    (ends : endsElement inner.length element = true) (read : state.run element = .ok next) :
    next.entered = outer := by
  induction element generalizing state inner with
  | nil => exact nomatch ends
  | cons event rest ih =>
    rw [run_cons] at read
    obtain ⟨middle, first, later⟩ := exists_of_bind_ok read
    rcases inside_or_behind inside ends first with ⟨deeper, inside, ends⟩ | ⟨rfl, behind⟩
    · exact ih inside ends later
    · rw [← Except.ok.inj later]
      exact behind

/-- The task that an element began goes on until the end tag of the element. -/
theorem readUntil_of_endsElement {element : List Event} {task : ReadingTask}
    (inside : state.entered = inner ++ some task :: outer)
    (ends : endsElement inner.length element = true) (rest : List Event) :
    state.readUntil (outer.reduceOption.length + 1) (element ++ rest) =
      (state.run element).map fun after => some (after, rest) := by
  induction element generalizing state inner with
  | nil => exact nomatch ends
  | cons event behind ih =>
    rw [List.cons_append, readUntil, run_cons]
    cases taken : state.step event with
    | error fault => rfl
    | ok next =>
      show (if next.tasks.length < _ then _ else _) = (next.run behind).map _
      rcases inside_or_behind inside ends taken with ⟨deeper, inside, ends⟩ | ⟨rfl, left⟩
      · have running : outer.reduceOption.length + 1 ≤ next.tasks.length := by
          rw [tasks, inside, List.reduceOption_append, List.length_append,
            List.reduceOption_cons_of_some, List.length_cons]
          exact Nat.le_add_left _ _
        rw [if_neg (Nat.not_lt.mpr running)]
        exact ih inside ends
      · have done : next.tasks.length < outer.reduceOption.length + 1 := by
          rw [tasks, left]
          exact Nat.lt_succ_self _
        rw [if_pos done]
        rfl

/-- A task that a start tag begins is the task of this tag. -/
theorem entered_of_begun {tag : Tag} {task : ReadingTask}
    (started : state.step (.start tag) = .ok next) (begun : next.tasks = task :: state.tasks) :
    next.entered = some task :: state.entered := by
  unfold tasks at begun
  rcases entered_start started with ⟨own, longer⟩ | ⟨nothing, still⟩
  · rw [longer] at begun ⊢
    cases own with
    | none =>
      rw [List.reduceOption_cons_of_none] at begun
      exact absurd begun.symm (List.cons_ne_self _ _)
    | some own =>
      rw [List.reduceOption_cons_of_some] at begun
      rw [(List.cons.inj begun).1]
  · rw [nothing, still] at begun
    exact absurd begun.symm (List.cons_ne_nil _ _)

/-- **A task reads exactly its element.** A start tag begins a task, and behind it stand any nodes
and its end tag. Then the task stops at a fault, or it is done with this end tag: it has read all
events up to there and none of those that follow, and the tasks go on that were under way before. -/
theorem readTask_element {before inside : ReadingState} {tag : Tag} {task : ReadingTask}
    {element : List Event} (started : before.step (.start tag) = .ok inside)
    (begun : inside.tasks = task :: before.tasks) (ends : endsElement 0 element = true)
    (rest : List Event) :
    inside.readTask (element ++ rest) =
        (inside.run element).map (fun after => some (after, rest)) ∧
      ∀ after left, inside.readTask (element ++ rest) = .ok (some (after, left)) →
        left = rest ∧ after.tasks = before.tasks := by
  have entered : inside.entered = [] ++ some task :: before.entered :=
    entered_of_begun started begun
  have whole : inside.readTask (element ++ rest) =
      (inside.run element).map fun after => some (after, rest) := by
    rw [readTask, begun]
    exact readUntil_of_endsElement entered ends rest
  refine ⟨whole, fun after left done => ?_⟩
  rw [whole] at done
  obtain ⟨last, read, same⟩ := exists_of_map_ok done
  obtain ⟨rfl, rfl⟩ := Prod.mk.inj (Option.some.inj same)
  refine ⟨rfl, ?_⟩
  rw [tasks, entered_of_endsElement entered ends read, tasks]

/-- What follows the start tag of the type of a price: simple content by extension, with an
attribute that is explained. -/
def priceType : List Event :=
  [.start ⟨"simpleContent", .ok []⟩, .start ⟨"extension", .ok [("base", "decimal")]⟩,
    .start ⟨"attribute", .ok [("name", "currency")]⟩, .start ⟨"annotation", .ok []⟩, .finish,
    .finish, .finish, .empty ⟨"annotation", .ok []⟩, .finish, .finish]

/-- The type of a price is read up to its own end tag. -/
theorem readTask_element_price :
    let before : ReadingState :=
      { place := .inSchema {} (some (.element { decl := { name := "price" } })) }
    ∃ inside after, before.step (.start ⟨"complexType", .ok []⟩) = .ok inside ∧
      inside.tasks = .reading .complexType :: before.tasks ∧ endsElement 0 priceType = true ∧
        inside.readTask (priceType ++ [.finish]) = .ok (some (after, [.finish])) ∧
          after.tasks = [.reading .element] := by
  intro before
  let type : Component :=
    .complexType 0 false { name := "price" } {} (some { decl := { name := "price" } })
  let inside : ReadingState := { place := .inSchema {} (some type) }
  have started : before.step (.start ⟨"complexType", .ok []⟩) = .ok inside := rfl
  have begun : inside.tasks = .reading .complexType :: before.tasks := rfl
  have ends : endsElement 0 priceType = true := rfl
  obtain ⟨after, read⟩ : ∃ after, inside.run priceType = .ok after := ⟨_, rfl⟩
  obtain ⟨whole, behind⟩ := readTask_element started begun ends [.finish]
  rw [read] at whole
  exact ⟨inside, after, started, begun, ends, whole, (behind after _ whole).2⟩

end ReadingState

end SchemaBinding
