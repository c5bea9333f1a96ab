/-
**Content that means nothing.**

The reader of schemas knows few tags, and which ones depends on where it stands (`Place.startWords`,
`Place.emptyWords`). Any other element is passed over with all that stands in it, whatever that is,
and so is everything inside content that is passed over already. Comments, instructions and the
like are passed over everywhere.

`ofText_insert`: a node of this kind may be written into a document between any two of its
constructs, and out of it again. What is read of the document, schema or fault, stays the same.
-/

import SchemaBinding.Proofs.Markup.Parts

namespace SchemaBinding

open Markup (Event EventStream Tag isNode endsElement openTags tagNames readEvents)

/-! ### The tags that are known -/

/-- The local names of the tags that mean something among particles. -/
def particleWords : List String := ["sequence", "choice", "all", "element", "group", "any"]

/-- The local names of the start tags that mean something inside a component. -/
def Component.startWords : Component → List String
  | .simpleType _ _ => ["restriction", "enumeration"]
  | .complexType _ _ _ content _ =>
    if content.opened.isEmpty then
      ["sequence", "choice", "all", "simpleContent", "complexContent", "extension", "restriction",
        "attribute", "group"]
    else particleWords
  | .group _ _ => particleWords
  | .element _ => ["complexType"]

/-- The local names of the empty elements that mean something inside a component. Between the
particles of a complex type these are fewer than the start tags. -/
def Component.emptyWords : Component → List String
  | .complexType _ simple _ content _ =>
    if content.opened.isEmpty then
      ["attribute", "group"] ++ if simple then ["extension", "restriction"] else []
    else particleWords
  | other => other.startWords

namespace Place

/-- The local names of the tags that mean something outside all components. -/
def outerWords : Place → List String
  | .beforeSchema => ["schema"]
  | .inSchema _ _ => ["schema", "simpleType", "complexType", "group", "element"]

def startWords : Place → List String
  | .inSchema _ (some component) => component.startWords
  | outside => outside.outerWords

def emptyWords : Place → List String
  | .inSchema _ (some component) => component.emptyWords
  | outside => outside.outerWords

end Place

/-- **Whether the reader does anything at an event** but to pass over a node that begins with it.
Where content is passed over, no tag means anything. -/
def ReadingState.handles (state : ReadingState) : Event → Bool
  | .passive => false
  | .start tag => state.passedOver == 0 && state.place.startWords.contains tag.localName
  | .empty tag => state.passedOver == 0 && state.place.emptyWords.contains tag.localName
  | .finish => true

/-- Whether something is true of the reader where it stands behind the given events. A reader that
has stopped at a fault stands nowhere. -/
def trueBehind (events : List Event) (property : ReadingState → Bool) : Bool :=
  match ReadingState.run {} events with
  | .ok state => property state
  | .error _ => false

/-- Whether the reader does anything at an event where it stands behind the given ones. -/
def handledBehind (events : List Event) (event : Event) : Bool :=
  trueBehind events fun state => state.handles event

/-! ### Unknown tags -/

theorem Compositor.read?_eq_none {word : String} (unknown : word ∉ ["sequence", "choice", "all"]) :
    Compositor.read? word = none := by
  unfold Compositor.read?
  split <;> simp_all

namespace OpenContent

variable (content : OpenContent) {tag : Tag}

theorem leafOfTag?_of_unknown (unknown : tag.localName ∉ particleWords) :
    Particle.leafOfTag? tag = .ok none := by
  unfold Particle.leafOfTag?
  split <;> simp_all [particleWords]

theorem read?_of_unknown (unknown : tag.localName ∉ particleWords) :
    Compositor.read? tag.localName = none :=
  Compositor.read?_eq_none fun member =>
    unknown (List.mem_append_left ["element", "group", "any"] member)

theorem start_of_unknown (unknown : tag.localName ∉ particleWords) :
    content.start tag = .ok (content, true) := by
  unfold start
  rw [read?_of_unknown unknown, leafOfTag?_of_unknown unknown]
  rfl

theorem empty_of_unknown (unknown : tag.localName ∉ particleWords) :
    content.empty tag = .ok content := by
  unfold empty
  rw [read?_of_unknown unknown, leafOfTag?_of_unknown unknown]
  rfl

end OpenContent

namespace Component

variable {component : Component} {tag : Tag}

/-- **An unknown start tag inside a component is passed over with its content.** -/
theorem start_of_unknown (unknown : tag.localName ∉ component.startWords) :
    component.start tag = .ok (component, true) := by
  cases component with
  | simpleType depth type =>
    unfold start
    dsimp only
    split
    · rename_i word
      exact absurd (by simp [startWords, word]) unknown
    · rename_i word
      exact absurd (by simp [startWords, word]) unknown
    · rfl
  | complexType depth simple type content owner =>
    unfold start
    dsimp only
    by_cases between : content.opened.isEmpty = true
    · rw [startWords, if_pos between] at unknown
      have plain : Compositor.read? tag.localName = none :=
        Compositor.read?_eq_none fun member => unknown (List.mem_append_left _ member)
      simp only [between, plain, Bool.not_true, Option.isSome_none, Bool.or_false,
        Bool.false_eq_true, if_false]
      split <;> simp_all
    · rw [startWords, if_neg between] at unknown
      simp only [between, Bool.not_false, Bool.true_or, if_true, content.start_of_unknown unknown]
      rfl
  | group name content =>
    show (content.start tag).map _ = _
    rw [content.start_of_unknown unknown]
    rfl
  | element owner =>
    unfold start
    dsimp only
    rw [if_neg fun word => unknown (by simp [startWords, word])]

theorem empty_of_unknown (unknown : tag.localName ∉ component.emptyWords) :
    component.empty tag = .ok component := by
  cases component with
  | simpleType depth type =>
    unfold empty
    dsimp only
    split
    · rename_i word
      exact absurd (by simp [emptyWords, startWords, word]) unknown
    · rename_i word
      exact absurd (by simp [emptyWords, startWords, word]) unknown
    · rfl
  | complexType depth simple type content owner =>
    unfold empty
    dsimp only
    by_cases between : content.opened.isEmpty = true
    · rw [emptyWords, if_pos between] at unknown
      simp only [between, Bool.not_true, Bool.false_eq_true, if_false]
      split
      · rename_i word
        exact absurd (by simp [word]) unknown
      · rename_i word
        exact absurd (by simp [word]) unknown
      · -- A derivation gives the base of simple content, and nothing without it.
        rename_i word
        cases simple with
        | false => rfl
        | true => exact absurd (by simp [word]) unknown
      · rename_i word
        cases simple with
        | false => rfl
        | true => exact absurd (by simp [word]) unknown
      · rfl
    · rw [emptyWords, if_neg between] at unknown
      simp only [between, Bool.not_false, if_true, content.empty_of_unknown unknown]
      rfl
  | group name content =>
    show (content.empty tag).map _ = _
    rw [content.empty_of_unknown unknown]
    rfl
  | element owner =>
    unfold empty
    dsimp only
    rw [if_neg fun word => unknown (by simp [emptyWords, startWords, word])]

theorem ofTag?_of_unknown {schema : Schema}
    (unknown : tag.localName ∉ ["simpleType", "complexType", "group", "element"]) :
    ofTag? schema tag = .ok none := by
  unfold ofTag?
  split <;> simp_all

end Component

namespace ReadingState

/-- A start tag that is not handled begins content that is passed over. -/
theorem step_start_of_unknown {state : ReadingState} {tag : Tag}
    (unknown : state.handles (.start tag) = false) :
    state.step (.start tag) = .ok { state with passedOver := state.passedOver + 1 } := by
  obtain ⟨place, passed⟩ := state
  cases passed with
  | succ passed => rfl
  | zero =>
    have unknown : tag.localName ∉ place.startWords := by simpa [handles] using unknown
    show ReadingState.start place tag = _
    match place with
    | .inSchema schema (some component) =>
      unfold ReadingState.start
      simp only [component.start_of_unknown unknown]
      rfl
    | .inSchema schema none =>
      have other : tag.localName ≠ "schema" := fun word => unknown (word ▸ List.mem_cons_self)
      unfold ReadingState.start
      simp only [if_neg other, Component.ofTag?_of_unknown fun member =>
        unknown (List.mem_cons_of_mem "schema" member)]
      rfl
    | .beforeSchema =>
      have other : tag.localName ≠ "schema" := fun word => unknown (word ▸ List.mem_cons_self)
      unfold ReadingState.start
      simp only [if_neg other]
      rfl

theorem step_empty_of_unknown {state : ReadingState} {tag : Tag}
    (unknown : state.handles (.empty tag) = false) : state.step (.empty tag) = .ok state := by
  obtain ⟨place, passed⟩ := state
  cases passed with
  | succ passed => rfl
  | zero =>
    have unknown : tag.localName ∉ place.emptyWords := by simpa [handles] using unknown
    show ReadingState.empty place tag = _
    match place with
    | .inSchema schema (some component) =>
      unfold ReadingState.empty
      simp only [component.empty_of_unknown unknown]
      rfl
    | .inSchema schema none =>
      have other : tag.localName ≠ "schema" := fun word => unknown (word ▸ List.mem_cons_self)
      unfold ReadingState.empty
      simp only [if_neg other, Component.ofTag?_of_unknown fun member =>
        unknown (List.mem_cons_of_mem "schema" member)]
      rfl
    | .beforeSchema =>
      have other : tag.localName ≠ "schema" := fun word => unknown (word ▸ List.mem_cons_self)
      unfold ReadingState.empty
      simp only [if_neg other]
      rfl

/-! ### Nodes that are passed over -/

/-- What is passed over ends where the element ends that it stands in. -/
theorem run_of_endsElement {events : List Event} {inner : Nat}
    (ends : endsElement inner events = true) (place : Place) (around : Nat) :
    run { place, passedOver := around + inner + 1 } events =
      .ok { place, passedOver := around } := by
  induction events generalizing inner with
  | nil => exact nomatch ends
  | cons event rest ih =>
    rw [run_cons]
    cases event with
    | start tag => exact ih ends
    | empty tag => exact ih ends
    | passive => exact ih ends
    | finish =>
      cases inner with
      | zero =>
        rw [List.isEmpty_iff.mp ends]
        rfl
      | succ inner => exact ih ends

/-- **A node that begins with nothing the reader handles leaves the reader where it stands.** -/
theorem run_of_unknown {state : ReadingState} {node : List Event} (one : isNode node = true)
    (unknown : ∀ first ∈ node.head?, state.handles first = false) : state.run node = .ok state := by
  unfold isNode at one
  split at one
  · rfl
  · rename_i tag
    rw [run_cons, step_empty_of_unknown (unknown _ rfl)]
    rfl
  · rename_i tag rest
    rw [run_cons, step_start_of_unknown (unknown _ rfl)]
    exact run_of_endsElement one state.place state.passedOver
  · exact nomatch one

end ReadingState

/-- Events that lead on alike may stand for each other, wherever they do so. -/
theorem ofStream_replace {before first second : List Event}
    (alike : ∀ state, ReadingState.run {} before = .ok state → state.run first = state.run second)
    (rest : EventStream) :
    Schema.ofStream (rest.after (before ++ first)) =
      Schema.ofStream (rest.after (before ++ second)) := by
  have same : ReadingState.run {} (rest.after (before ++ first)).events =
      ReadingState.run {} (rest.after (before ++ second)).events := by
    show ReadingState.run {} (before ++ first ++ rest.events) =
      ReadingState.run {} (before ++ second ++ rest.events)
    simp only [List.append_assoc, ReadingState.run_append]
    cases front : ReadingState.run {} before with
    | error fault => rfl
    | ok state =>
      show (state.run first).bind _ = (state.run second).bind _
      rw [alike state front]
  unfold Schema.ofStream
  rw [same]
  rfl

/-- **A node that means nothing may be written between any two events.** -/
theorem ofStream_insert {before node : List Event} (one : isNode node = true)
    (unknown : ∀ first ∈ node.head?, handledBehind before first = false) (rest : EventStream) :
    Schema.ofStream (rest.after (before ++ node)) = Schema.ofStream (rest.after before) := by
  refine (ofStream_replace (fun state front => ?_) rest).trans
    (congrArg (fun events => Schema.ofStream (rest.after events)) (List.append_nil before))
  unfold handledBehind trueBehind at unknown
  rw [front] at unknown
  exact ReadingState.run_of_unknown one unknown

/-- **Content that means nothing may stand anywhere.** A node is written into a document behind a
front that ends between two constructs, or in character data. If the reader does nothing at what the
node begins with, the schema or the fault that is read stays the same, whatever stands in the node
and whatever follows. -/
theorem ofText_insert (before node after : String)
    (boundary : (EventStream.ofText before).fault = none)
    (whole : (EventStream.ofText node).fault = none)
    (one : isNode (EventStream.ofText node).events = true)
    (unknown : ∀ first ∈ (EventStream.ofText node).events.head?,
      handledBehind (EventStream.ofText before).events first = false) :
    Schema.ofText (before ++ node ++ after) = Schema.ofText (before ++ after) := by
  unfold Schema.ofText
  rw [String.append_assoc, EventStream.ofText_append boundary, EventStream.ofText_append boundary,
    String.toList_append, Markup.readEvents_node whole one, EventStream.after_after]
  exact ofStream_insert one unknown _

/-- An annotation with a schema of its own in it, in the content of a complex type. -/
theorem ofText_insert_annotation :
    let before := "<schema><complexType name='A'><sequence>"
    let node := "<annotation><schema/><element name=''>text</element></annotation>"
    let after := "<element name='b'/></sequence></complexType></schema>"
    (EventStream.ofText before).fault = none ∧
      (EventStream.ofText node).fault = none ∧
      isNode (EventStream.ofText node).events = true ∧
      (∀ first ∈ (EventStream.ofText node).events.head?,
        handledBehind (EventStream.ofText before).events first = false) ∧
      Schema.ofText (before ++ node ++ after) = Schema.ofText (before ++ after) := by
  intro before node after
  have boundary : (EventStream.ofText before).fault = none := by decide +kernel
  have whole : (EventStream.ofText node).fault = none := by decide +kernel
  have one : isNode (EventStream.ofText node).events = true := by decide +kernel
  have unknown : ∀ first ∈ (EventStream.ofText node).events.head?,
      handledBehind (EventStream.ofText before).events first = false := by decide +kernel
  exact ⟨boundary, whole, one, unknown, ofText_insert before node after boundary whole one unknown⟩

end SchemaBinding
