/-
**The open tags of a document, and what the reader knows of them.**

The reader of schemas keeps no list of the tags that are open: it counts those whose content it
passes over, and a component counts the tags inside it that it has entered (`Component.nesting`).
What it has entered and in which tasks is derived from its state (`Component.entered`), and what an
event does to that is said once for each kind of event. The counts are exact. After any events, every open tag is passed over, or
entered by the component that is being read, or the tag of the schema (`Accounts`), and every event
keeps it so (`Accounts.step`).

So the end tag that completes a component is the end tag of the tag that began it.
-/

import SchemaBinding.Proofs.Fallible
import SchemaBinding.Schema.Reading

namespace SchemaBinding

open Markup (Event Tag)

namespace Markup

/-- The tags that are open after an event, innermost first. -/
def Event.track (opened : List Tag) : Event → List Tag
  | .start tag => tag :: opened
  | .finish => opened.tail
  | .empty _ => opened
  | .passive => opened

/-- **The tags that are open after a list of events**, innermost first. -/
def openTags (events : List Event) : List Tag := events.foldl Event.track []

/-- Whether the tag begins a component if it stands in the schema. -/
def Tag.beginsComponent (tag : Tag) : Bool :=
  ["simpleType", "complexType", "group", "element"].contains tag.localName

end Markup

/-! ### Tags that are entered -/

/-- What the reader can be in the middle of. -/
inductive ReadingTask
  | reading (construct : SchemaConstruct)
  /-- Passing over content without meaning. -/
  | passingOver
deriving DecidableEq, Repr

namespace OpenContent

/-- The tags of the compositors that are open, each with the task of reading it. -/
def entered (content : OpenContent) : List (Option ReadingTask) :=
  List.replicate content.opened.length (some (.reading .modelGroup))

theorem length_opened_add (content : OpenContent) (particle : Particle) :
    (content.add particle).opened.length = content.opened.length := by
  unfold add
  split
  · rfl
  · rename_i inner outer opened
    simp [opened]

/-- A start tag among particles opens a compositor or is passed over. -/
theorem length_opened_start {content next : OpenContent} {tag : Tag} {passed : Bool}
    (taken : content.start tag = .ok (next, passed)) :
    next.opened.length = content.opened.length + if passed then 0 else 1 := by
  unfold start at taken
  split at taken
  · obtain ⟨occurs, -, taken⟩ := exists_of_bind_ok taken
    obtain ⟨rfl, rfl⟩ := Prod.mk.inj (Except.ok.inj taken)
    rfl
  · obtain ⟨leaf, -, taken⟩ := exists_of_bind_ok taken
    cases leaf with
    | none =>
      obtain ⟨rfl, rfl⟩ := Prod.mk.inj (Except.ok.inj taken)
      rfl
    | some particle =>
      obtain ⟨rfl, rfl⟩ := Prod.mk.inj (Except.ok.inj taken)
      exact length_opened_add content particle

theorem length_opened_empty {content next : OpenContent} {tag : Tag}
    (taken : content.empty tag = .ok next) : next.opened.length = content.opened.length := by
  unfold empty at taken
  split at taken
  · obtain ⟨occurs, -, taken⟩ := exists_of_bind_ok taken
    rw [← Except.ok.inj taken]
    exact length_opened_add content _
  · obtain ⟨leaf, -, taken⟩ := exists_of_bind_ok taken
    cases leaf with
    | none => rw [← Except.ok.inj taken]
    | some particle =>
      rw [← Except.ok.inj taken]
      exact length_opened_add content particle

theorem length_opened_close? {content next : OpenContent} (closed : content.close? = some next) :
    content.opened.length = next.opened.length + 1 := by
  unfold close? at closed
  split at closed
  · simp at closed
  · rename_i inner outer opened
    rw [← Option.some.inj closed, length_opened_add, opened]
    rfl

theorem opened_of_close? {content : OpenContent} (closed : content.close? = none) :
    content.opened = [] := by
  unfold close? at closed
  split at closed
  · assumption
  · simp at closed

/-- A start tag among particles is passed over or entered. -/
theorem entered_start {content next : OpenContent} {tag : Tag} {passed : Bool}
    (taken : content.start tag = .ok (next, passed)) :
    (passed = true ∧ next.entered = content.entered) ∨
      (passed = false ∧ next.entered = some (.reading .modelGroup) :: content.entered) := by
  have longer := length_opened_start taken
  unfold entered
  cases passed with
  | true => exact .inl ⟨rfl, by rw [longer]; rfl⟩
  | false => exact .inr ⟨rfl, by rw [longer]; rfl⟩

theorem entered_add (content : OpenContent) (particle : Particle) :
    (content.add particle).entered = content.entered := by
  rw [entered, length_opened_add, entered]

theorem entered_empty {content next : OpenContent} {tag : Tag}
    (taken : content.empty tag = .ok next) : next.entered = content.entered := by
  rw [entered, length_opened_empty taken, entered]

theorem entered_close? {content next : OpenContent} (closed : content.close? = some next) :
    content.entered = some (.reading .modelGroup) :: next.entered := by
  rw [entered, length_opened_close? closed, List.replicate_succ, entered]

theorem entered_of_between {content : OpenContent} (between : content.opened = []) :
    content.entered = [] := by
  rw [entered, between]
  rfl

end OpenContent

namespace Component

/-- **The tags that a component has entered**, innermost first, each with the task that it began.
The tags of derivations and of kinds of content began none: they only lead deeper into a type. -/
def entered : Component → List (Option ReadingTask)
  | .simpleType depth _ => List.replicate depth none ++ [some (.reading .simpleType)]
  | .complexType depth _ _ content owner =>
    content.entered ++ (List.replicate depth none ++ some (.reading .complexType) ::
      if owner.isSome then [some (.reading .element)] else [])
  | .group _ content => content.entered ++ [some (.reading .modelGroup)]
  | .element _ => [some (.reading .element)]

/-- **The number of tags that a component has entered**, with the one that began it. -/
def nesting : Component → Nat
  | .simpleType depth _ => depth + 1
  | .complexType depth _ _ content owner =>
    content.opened.length + depth + if owner.isSome then 2 else 1
  | .group _ content => content.opened.length + 1
  | .element _ => 1

theorem length_entered (component : Component) : component.entered.length = component.nesting := by
  cases component with
  | complexType depth simple type content owner =>
    cases owner <;> simp [entered, nesting, OpenContent.entered, Nat.add_assoc]
  | simpleType | group | element => simp [entered, nesting, OpenContent.entered]

theorem nesting_pos (component : Component) : 0 < component.nesting := by
  cases component with
  | complexType depth simple type content owner =>
    cases owner <;> simp [nesting]
  | simpleType | group | element => simp [nesting]

variable {component next : Component} {tag : Tag}

/-- **A start tag inside a component is passed over or entered.** -/
theorem entered_start {passed : Bool} (taken : component.start tag = .ok (next, passed)) :
    (passed = true ∧ next.entered = component.entered) ∨
      (passed = false ∧ ∃ task, next.entered = task :: component.entered) := by
  cases component with
  | simpleType depth type =>
    unfold start at taken
    dsimp only at taken
    split at taken
    · obtain ⟨restricted, -, taken⟩ := exists_of_bind_ok taken
      obtain ⟨rfl, rfl⟩ := Prod.mk.inj (Except.ok.inj taken)
      exact .inr ⟨rfl, none, rfl⟩
    · obtain ⟨enumerated, -, taken⟩ := exists_of_bind_ok taken
      obtain ⟨rfl, rfl⟩ := Prod.mk.inj (Except.ok.inj taken)
      exact .inl ⟨rfl, rfl⟩
    · obtain ⟨rfl, rfl⟩ := Prod.mk.inj (Except.ok.inj taken)
      exact .inl ⟨rfl, rfl⟩
  | complexType depth simple type content owner =>
    unfold start at taken
    dsimp only at taken
    split at taken
    · obtain ⟨⟨inner, flag⟩, started, taken⟩ := exists_of_map_ok taken
      obtain ⟨rfl, rfl⟩ := Prod.mk.inj taken
      rcases OpenContent.entered_start started with ⟨rfl, same⟩ | ⟨rfl, longer⟩
      · exact .inl ⟨rfl, by simp only [entered, same]⟩
      · refine .inr ⟨rfl, some (.reading .modelGroup), ?_⟩
        simp only [entered, longer, List.cons_append]
    · -- No compositor is open, so the tags of derivations are the innermost ones.
      rename_i outside
      have none : content.entered = [] :=
        OpenContent.entered_of_between (by simp at outside; exact outside.1)
      split at taken
      · obtain ⟨rfl, rfl⟩ := Prod.mk.inj (Except.ok.inj taken)
        exact .inr ⟨rfl, .none, by simp only [entered, none]; rfl⟩
      · obtain ⟨rfl, rfl⟩ := Prod.mk.inj (Except.ok.inj taken)
        exact .inr ⟨rfl, .none, by simp only [entered, none]; rfl⟩
      · obtain ⟨derived, -, taken⟩ := exists_of_bind_ok taken
        obtain ⟨rfl, rfl⟩ := Prod.mk.inj (Except.ok.inj taken)
        exact .inr ⟨rfl, .none, by simp only [entered, none]; rfl⟩
      · obtain ⟨derived, -, taken⟩ := exists_of_bind_ok taken
        obtain ⟨rfl, rfl⟩ := Prod.mk.inj (Except.ok.inj taken)
        exact .inr ⟨rfl, .none, by simp only [entered, none]; rfl⟩
      · obtain ⟨declared, -, taken⟩ := exists_of_bind_ok taken
        obtain ⟨rfl, rfl⟩ := Prod.mk.inj (Except.ok.inj taken)
        exact .inl ⟨rfl, rfl⟩
      · obtain ⟨particle, -, taken⟩ := exists_of_bind_ok taken
        obtain ⟨rfl, rfl⟩ := Prod.mk.inj (Except.ok.inj taken)
        exact .inl ⟨rfl, by simp only [entered, OpenContent.entered_add]⟩
      · obtain ⟨rfl, rfl⟩ := Prod.mk.inj (Except.ok.inj taken)
        exact .inl ⟨rfl, rfl⟩
  | group name content =>
    obtain ⟨⟨inner, flag⟩, started, taken⟩ := exists_of_map_ok taken
    obtain ⟨rfl, rfl⟩ := Prod.mk.inj taken
    rcases OpenContent.entered_start started with ⟨rfl, same⟩ | ⟨rfl, longer⟩
    · exact .inl ⟨rfl, by simp only [entered, same]⟩
    · refine .inr ⟨rfl, some (.reading .modelGroup), ?_⟩
      simp only [entered, longer, List.cons_append]
  | element owner =>
    unfold start at taken
    dsimp only at taken
    split at taken
    · obtain ⟨rfl, rfl⟩ := Prod.mk.inj (Except.ok.inj taken)
      exact .inr ⟨rfl, _, rfl⟩
    · obtain ⟨rfl, rfl⟩ := Prod.mk.inj (Except.ok.inj taken)
      exact .inl ⟨rfl, rfl⟩

theorem entered_empty (taken : component.empty tag = .ok next) :
    next.entered = component.entered := by
  cases component with
  | simpleType depth type =>
    unfold empty at taken
    dsimp only at taken
    split at taken
    · obtain ⟨restricted, -, taken⟩ := exists_of_bind_ok taken
      rw [← Except.ok.inj taken]
      rfl
    · obtain ⟨enumerated, -, taken⟩ := exists_of_bind_ok taken
      rw [← Except.ok.inj taken]
      rfl
    · rw [← Except.ok.inj taken]
  | complexType depth simple type content owner =>
    unfold empty at taken
    dsimp only at taken
    split at taken
    · obtain ⟨inner, added, rfl⟩ := exists_of_map_ok taken
      simp only [entered, OpenContent.entered_empty added]
    · split at taken
      · obtain ⟨declared, -, taken⟩ := exists_of_bind_ok taken
        rw [← Except.ok.inj taken]
        rfl
      · obtain ⟨particle, -, taken⟩ := exists_of_bind_ok taken
        rw [← Except.ok.inj taken]
        simp only [entered, OpenContent.entered_add]
      · obtain ⟨derived, -, taken⟩ := exists_of_bind_ok taken
        rw [← Except.ok.inj taken]
        rfl
      · obtain ⟨derived, -, taken⟩ := exists_of_bind_ok taken
        rw [← Except.ok.inj taken]
        rfl
      · rw [← Except.ok.inj taken]
  | group name content =>
    obtain ⟨inner, added, rfl⟩ := exists_of_map_ok taken
    simp only [entered, OpenContent.entered_empty added]
  | element owner =>
    unfold empty at taken
    dsimp only at taken
    split at taken
    · rw [← Except.ok.inj taken]
      rfl
    · rw [← Except.ok.inj taken]

/-- **An end tag inside a component leaves the tag that was entered last.** -/
theorem entered_finish (left : component.finish? = some next) :
    ∃ task, component.entered = task :: next.entered := by
  cases component with
  | simpleType depth type =>
    cases depth with
    | zero => exact nomatch left
    | succ depth =>
      rw [← Option.some.inj left]
      exact ⟨none, rfl⟩
  | complexType depth simple type content owner =>
    unfold finish? at left
    dsimp only at left
    split at left
    · rename_i closed
      rw [← Option.some.inj left]
      exact ⟨_, by simp only [entered, OpenContent.entered_close? closed, List.cons_append]; rfl⟩
    · rename_i closed
      have none := OpenContent.entered_of_between (OpenContent.opened_of_close? closed)
      rw [← Option.some.inj left]
      exact ⟨.none, by simp only [entered, none]; rfl⟩
    · rename_i closed
      have none := OpenContent.entered_of_between (OpenContent.opened_of_close? closed)
      rw [← Option.some.inj left]
      exact ⟨some (.reading .complexType), by simp only [entered, none]; rfl⟩
    · simp at left
  | group name content =>
    obtain ⟨inner, closed, rfl⟩ := Option.map_eq_some_iff.mp left
    exact ⟨_, by simp only [entered, OpenContent.entered_close? closed, List.cons_append]; rfl⟩
  | element owner => exact nomatch left

/-! ### Counts -/

/-- A start tag inside a component is entered or passed over. -/
theorem nesting_start {passed : Bool} (taken : component.start tag = .ok (next, passed)) :
    next.nesting = component.nesting + if passed then 0 else 1 := by
  rw [← length_entered, ← length_entered]
  rcases entered_start taken with ⟨rfl, same⟩ | ⟨rfl, task, longer⟩
  · rw [same]
    rfl
  · rw [longer]
    rfl

theorem nesting_empty (taken : component.empty tag = .ok next) :
    next.nesting = component.nesting := by
  rw [← length_entered, ← length_entered, entered_empty taken]

/-- An end tag inside a component leaves the tag that was entered last. -/
theorem nesting_finish (left : component.finish? = some next) :
    component.nesting = next.nesting + 1 := by
  obtain ⟨task, longer⟩ := entered_finish left
  rw [← length_entered, ← length_entered, longer, List.length_cons]

/-- **A component is complete at the end tag of the tag that began it.** -/
theorem nesting_complete (left : component.finish? = none) : component.nesting = 1 := by
  cases component with
  | simpleType depth type =>
    cases depth with
    | zero => rfl
    | succ depth => exact nomatch left
  | complexType depth simple type content owner =>
    unfold finish? at left
    dsimp only at left
    split at left
    · simp at left
    · simp at left
    · simp at left
    · rename_i closed
      simp [nesting, OpenContent.opened_of_close? closed]
  | group name content =>
    have closed : content.close? = none := Option.map_eq_none_iff.mp left
    simp only [nesting, OpenContent.opened_of_close? closed, List.length_nil]
  | element owner => rfl

theorem begins_of_ofTag? {schema : Schema} {tag : Tag}
    (found : ofTag? schema tag = .ok (some component)) :
    tag.beginsComponent = true ∧ component.nesting = 1 := by
  unfold ofTag? at found
  unfold Markup.Tag.beginsComponent
  split at found
  · rename_i word
    obtain ⟨name, -, found⟩ := exists_of_bind_ok found
    split at found
    · exact nomatch found
    · rw [word, ← Option.some.inj (Except.ok.inj found)]
      exact ⟨rfl, rfl⟩
  · rename_i word
    obtain ⟨name, -, found⟩ := exists_of_bind_ok found
    split at found
    · exact nomatch found
    · rw [word, ← Option.some.inj (Except.ok.inj found)]
      exact ⟨rfl, rfl⟩
  · rename_i word
    obtain ⟨name, -, found⟩ := exists_of_bind_ok found
    split at found
    · exact nomatch found
    · rw [word, ← Option.some.inj (Except.ok.inj found)]
      exact ⟨rfl, rfl⟩
  · rename_i word
    obtain ⟨decl, -, found⟩ := exists_of_bind_ok found
    rw [word, ← Option.some.inj (Except.ok.inj found)]
    exact ⟨rfl, rfl⟩
  · simp at found

theorem not_begins_of_ofTag? {schema : Schema} {tag : Tag}
    (found : ofTag? schema tag = .ok none) : tag.beginsComponent = false := by
  unfold ofTag? at found
  split at found
  · obtain ⟨name, -, found⟩ := exists_of_bind_ok found
    split at found <;> exact nomatch found
  · obtain ⟨name, -, found⟩ := exists_of_bind_ok found
    split at found <;> exact nomatch found
  · obtain ⟨name, -, found⟩ := exists_of_bind_ok found
    split at found <;> exact nomatch found
  · obtain ⟨decl, -, found⟩ := exists_of_bind_ok found
    exact nomatch found
  · rename_i simpleType complexType group element
    simpa [Markup.Tag.beginsComponent] using ⟨simpleType, complexType, group, element⟩

end Component

/-! ### All open tags are accounted for -/

/-- **What the state of the reader says of the open tags.** The innermost ones are passed over, as
many as are counted; the outermost of these stands for nothing where it stands. The others are those
that the component has entered, and the tag of the schema. -/
inductive Accounts : ReadingState → List Tag → Prop
  | beforeSchema (passed : List Tag) :
      Accounts { place := .beforeSchema, passedOver := passed.length } passed
  | betweenComponents {schema : Schema} (passed : List Tag) {outer : List Tag}
      (unknown : ∀ tag ∈ passed.getLast?,
        tag.localName ≠ "schema" ∧ tag.beginsComponent = false)
      (outermost : ∀ tag ∈ outer, tag.localName = "schema") :
      Accounts { place := .inSchema schema none, passedOver := passed.length } (passed ++ outer)
  | inComponent {schema : Schema} {component : Component} (passed inner : List Tag)
      {first : Tag} {outer : List Tag} (begun : first.beginsComponent = true)
      (entered : component.nesting = inner.length + 1)
      (outermost : ∀ tag ∈ outer, tag.localName = "schema") :
      Accounts { place := .inSchema schema (some component), passedOver := passed.length }
        (passed ++ (inner ++ first :: outer))

namespace Accounts

variable {state next : ReadingState} {opened : List Tag} {tag : Tag}

theorem start (accounts : Accounts state opened) (taken : state.step (.start tag) = .ok next) :
    Accounts next (tag :: opened) := by
  cases accounts with
  | beforeSchema =>
    cases opened with
    | cons inner rest =>
      rw [← Except.ok.inj taken]
      exact .beforeSchema (tag :: inner :: rest)
    | nil =>
      have taken : ReadingState.start .beforeSchema tag = .ok next := taken
      unfold ReadingState.start at taken
      dsimp only at taken
      split at taken
      · rename_i word
        obtain ⟨place, entered, taken⟩ := exists_of_bind_ok taken
        obtain ⟨targetNamespace, -, entered⟩ := exists_of_bind_ok entered
        rw [← Except.ok.inj taken, ← Except.ok.inj entered]
        exact .betweenComponents [] (by simp) (by simp [word])
      · rw [← Except.ok.inj taken]
        exact .beforeSchema [tag]
  | @betweenComponents schema passed outer unknown outermost =>
    cases passed with
    | cons inner rest =>
      rw [← Except.ok.inj taken]
      exact .betweenComponents (tag :: inner :: rest) (by simpa using unknown) outermost
    | nil =>
      have taken : ReadingState.start (.inSchema schema none) tag = .ok next := taken
      unfold ReadingState.start at taken
      dsimp only at taken
      split at taken
      · exact nomatch taken
      · rename_i word
        obtain ⟨found, begins, taken⟩ := exists_of_bind_ok taken
        cases found with
        | none =>
          rw [← Except.ok.inj taken]
          refine .betweenComponents [tag] ?_ outermost
          simpa using ⟨word, Component.not_begins_of_ofTag? begins⟩
        | some component =>
          rw [← Except.ok.inj taken]
          obtain ⟨begun, entered⟩ := Component.begins_of_ofTag? begins
          exact .inComponent [] [] begun entered outermost
  | @inComponent schema component passed inner outer first begun entered outermost =>
    cases passed with
    | cons innermost rest =>
      rw [← Except.ok.inj taken]
      exact .inComponent (tag :: innermost :: rest) inner begun entered outermost
    | nil =>
      have taken : ReadingState.start (.inSchema schema (some component)) tag = .ok next := taken
      unfold ReadingState.start at taken
      dsimp only at taken
      obtain ⟨⟨component', passed⟩, started, taken⟩ := exists_of_bind_ok taken
      have longer := Component.nesting_start started
      rw [← Except.ok.inj taken]
      cases passed with
      | true => exact .inComponent [tag] inner begun (longer.trans entered) outermost
      | false =>
        refine .inComponent [] (tag :: inner) begun ?_ outermost
        rw [longer, entered]
        rfl

theorem empty (accounts : Accounts state opened) (taken : state.step (.empty tag) = .ok next) :
    Accounts next opened := by
  cases accounts with
  | beforeSchema =>
    cases opened with
    | cons inner rest =>
      rw [← Except.ok.inj taken]
      exact .beforeSchema (inner :: rest)
    | nil =>
      have taken : ReadingState.empty .beforeSchema tag = .ok next := taken
      unfold ReadingState.empty at taken
      dsimp only at taken
      split at taken
      · obtain ⟨place, entered, taken⟩ := exists_of_bind_ok taken
        obtain ⟨targetNamespace, -, entered⟩ := exists_of_bind_ok entered
        rw [← Except.ok.inj taken, ← Except.ok.inj entered]
        exact .betweenComponents [] (by simp) (by simp)
      · rw [← Except.ok.inj taken]
        exact .beforeSchema []
  | @betweenComponents schema passed outer unknown outermost =>
    cases passed with
    | cons inner rest =>
      rw [← Except.ok.inj taken]
      exact .betweenComponents (inner :: rest) unknown outermost
    | nil =>
      have taken : ReadingState.empty (.inSchema schema none) tag = .ok next := taken
      unfold ReadingState.empty at taken
      dsimp only at taken
      split at taken
      · exact nomatch taken
      · obtain ⟨found, -, taken⟩ := exists_of_bind_ok taken
        cases found <;> rw [← Except.ok.inj taken] <;>
          exact .betweenComponents [] unknown outermost
  | @inComponent schema component passed inner outer first begun entered outermost =>
    cases passed with
    | cons innermost rest =>
      rw [← Except.ok.inj taken]
      exact .inComponent (innermost :: rest) inner begun entered outermost
    | nil =>
      have taken : ReadingState.empty (.inSchema schema (some component)) tag = .ok next := taken
      unfold ReadingState.empty at taken
      dsimp only at taken
      obtain ⟨component', emptied, taken⟩ := exists_of_bind_ok taken
      have same := Component.nesting_empty emptied
      rw [← Except.ok.inj taken]
      exact .inComponent [] inner begun (same.trans entered) outermost

theorem finish (accounts : Accounts state opened) (taken : state.step .finish = .ok next) :
    Accounts next opened.tail := by
  cases accounts with
  | beforeSchema =>
    cases opened with
    | cons inner rest =>
      rw [← Except.ok.inj taken]
      exact .beforeSchema rest
    | nil =>
      rw [← Except.ok.inj taken]
      exact .beforeSchema []
  | @betweenComponents schema passed outer unknown outermost =>
    cases passed with
    | cons inner rest =>
      rw [← Except.ok.inj taken]
      refine .betweenComponents rest (fun tag last => unknown tag ?_) outermost
      rw [Option.mem_def] at last ⊢
      rw [List.getLast?_cons, last]
      rfl
    | nil =>
      rw [← Except.ok.inj taken]
      exact .betweenComponents [] unknown fun tag member =>
        outermost tag (List.mem_of_mem_tail member)
  | @inComponent schema component passed inner outer first begun entered outermost =>
    cases passed with
    | cons innermost rest =>
      rw [← Except.ok.inj taken]
      exact .inComponent rest inner begun entered outermost
    | nil =>
      rw [← Except.ok.inj taken]
      unfold ReadingState.finish
      dsimp only
      cases left : component.finish? with
      | some component' =>
        -- The component goes on, so the tag that ends here was entered after the first one.
        have shorter := Component.nesting_finish left
        have positive := Component.nesting_pos component'
        cases inner with
        | nil => simp only [List.length_nil] at entered; omega
        | cons innermost rest =>
          refine .inComponent [] rest begun ?_ outermost
          simp only [List.length_cons] at entered
          omega
      | none =>
        have last := Component.nesting_complete left
        cases inner with
        | nil => exact .betweenComponents [] (by simp) outermost
        | cons innermost rest => simp only [List.length_cons] at entered; omega

/-- **Every event keeps the account.** -/
theorem step {event : Event} (accounts : Accounts state opened)
    (taken : state.step event = .ok next) : Accounts next (event.track opened) := by
  cases event with
  | start tag => exact accounts.start taken
  | empty tag => exact accounts.empty taken
  | finish => exact accounts.finish taken
  | passive =>
    rw [← Except.ok.inj taken]
    exact accounts

/-- The account is kept through any events. -/
theorem run {events : List Event} (accounts : Accounts state opened)
    (taken : state.run events = .ok next) : Accounts next (events.foldl Event.track opened) := by
  induction events generalizing state opened with
  | nil =>
    rw [← Except.ok.inj taken]
    exact accounts
  | cons event rest ih =>
    rw [ReadingState.run_cons] at taken
    obtain ⟨middle, first, later⟩ := exists_of_bind_ok taken
    exact ih (accounts.step first) later

end Accounts

/-- **All open tags are accounted for wherever a document has been read to.** -/
theorem accounts_openTags {events : List Event} {state : ReadingState}
    (taken : ReadingState.run {} events = .ok state) : Accounts state (Markup.openTags events) :=
  (Accounts.beforeSchema []).run taken

end SchemaBinding
