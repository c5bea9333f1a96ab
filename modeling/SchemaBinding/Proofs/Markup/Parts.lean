/-
**Documents read part by part.**

A front of a document that has no fault by itself ends between two constructs, or in character data.
Such a front can be read first: the events of the whole are its events, and then those of the rest,
read where the tags are open that the front has left open (`readEvents_append`, `ofText_append`).

A node is one construct without an end tag of its own, or an element with all that stands in it up
to its end tag (`isNode`). A node opens nothing and closes nothing around it, so its events are the
same wherever it stands (`readEvents_node`).
-/

import SchemaBinding.Proofs.Document.Nesting
import SchemaBinding.Proofs.Markup.Continuation

namespace SchemaBinding.Markup

/-- The names of tags, as the reader of a document keeps them. -/
def tagNames (tags : List Tag) : List (List Char) := tags.map fun tag => tag.name.toList

/-- The reader takes the name of a tag from the tag itself. -/
theorem tagNames_cons_ofContent (content : List Char) (tags : List Tag) :
    tagNames (.ofContent content :: tags) = startTagName content :: tagNames tags := by
  have name : (Tag.ofContent content).name.toList = startTagName content := String.toList_ofList
  rw [tagNames, List.map_cons, name]
  rfl

/-- The stream with some events in front of it. -/
def EventStream.after (stream : EventStream) (events : List Event) : EventStream :=
  { stream with events := events ++ stream.events }

theorem EventStream.after_after (stream : EventStream) (first second : List Event) :
    (stream.after second).after first = stream.after (first ++ second) := by
  simp only [after, List.append_assoc]

/-! ### The tags that a part leaves open -/

/-- Every event opens or closes the same tags, whatever else is open around them. -/
theorem event_eq_ok {tags : List Tag} {construct : Construct} {event : Event}
    {opened : List (List Char)} (known : construct.event (tagNames tags) = .ok (event, opened))
    (outer : List Tag) :
    opened = tagNames (event.track tags) ∧
      construct.event (tagNames (tags ++ outer)) =
        .ok (event, tagNames (event.track tags ++ outer)) := by
  cases construct with
  | passive =>
    obtain ⟨rfl, rfl⟩ := Prod.mk.inj (Except.ok.inj known)
    exact ⟨rfl, rfl⟩
  | empty content =>
    obtain ⟨rfl, rfl⟩ := Prod.mk.inj (Except.ok.inj known)
    exact ⟨rfl, rfl⟩
  | start content =>
    obtain ⟨rfl, rfl⟩ := Prod.mk.inj (Except.ok.inj known)
    refine ⟨(tagNames_cons_ofContent content tags).symm, ?_⟩
    show _ = Except.ok (Event.start (.ofContent content),
      tagNames (.ofContent content :: (tags ++ outer)))
    rw [tagNames_cons_ofContent]
    rfl
  | finish content =>
    cases tags with
    | nil => exact nomatch known
    | cons tag rest =>
      unfold Construct.event at known ⊢
      simp only [tagNames, List.map_cons, List.cons_append] at known ⊢
      split at known
      · rename_i same
        obtain ⟨rfl, rfl⟩ := Prod.mk.inj (Except.ok.inj known)
        rw [if_pos same]
        exact ⟨rfl, rfl⟩
      · exact nomatch known

/-! ### Reading one construct -/

/-- The events of a text, one construct after the other. -/
theorem readEvents_eq (opened : List (List Char)) (text : List Char) :
    readEvents opened text =
      match nextConstruct text with
      | .error fault => .ofFault fault
      | .ok none => .ofEvents []
      | .ok (some (construct, rest)) =>
        match construct.event opened with
        | .error fault => .ofFault (.illFormed fault)
        | .ok (event, inner) => (readEvents inner rest).cons event := by
  rw [readEvents]
  split
  · rename_i next
    rw [next]
  · rename_i next
    rw [next]
  · rename_i next
    rewrite [next]
    rfl

theorem readEvents_of_construct {opened inner : List (List Char)} {text rest : List Char}
    {construct : Construct} {event : Event}
    (next : nextConstruct text = .ok (some (construct, rest)))
    (known : construct.event opened = .ok (event, inner)) :
    readEvents opened text = (readEvents inner rest).cons event := by
  rw [readEvents_eq, next]
  dsimp only
  rw [known]

/-! ### Reading a part -/

/-- **A part without a fault is read first, and then the rest**, where other tags may be open around
the part. -/
theorem readEvents_append (tags : List Tag) {text : List Char}
    (whole : (readEvents (tagNames tags) text).fault = none) (outer : List Tag)
    (more : List Char) :
    readEvents (tagNames (tags ++ outer)) (text ++ more) =
      (readEvents (tagNames
        ((readEvents (tagNames tags) text).events.foldl Event.track tags ++ outer)) more).after
          (readEvents (tagNames tags) text).events := by
  generalize names : tagNames tags = opened at whole ⊢
  fun_induction readEvents opened text generalizing tags with
  | case1 => exact nomatch whole
  | case2 opened text next =>
    rw [readEvents_eq, nextConstruct_append_of_none next more, ← readEvents_eq]
    subst names
    rfl
  | case3 opened text construct rest next fault failed => exact nomatch whole
  | case4 opened text construct rest next event inner known ih =>
    subst names
    obtain ⟨rfl, again⟩ := event_eq_ok known outer
    rw [readEvents_of_construct (nextConstruct_append next more) again, ih _ rfl whole]
    rfl

/-- A byte-order mark is character data like any other, and so it need not be looked for. -/
theorem EventStream.ofText_eq (text : String) : ofText text = readEvents [] text.toList := by
  unfold ofText
  split
  · rename_i rest mark
    have passed : nextConstruct ('\uFEFF' :: rest) = nextConstruct rest :=
      nextConstruct_append_of_none (show nextConstruct ['\uFEFF'] = .ok none from rfl) rest
    rw [mark, readEvents_eq, readEvents_eq, passed]
  · rfl

/-- **A document whose front has no fault is read from behind that front on.** -/
theorem EventStream.ofText_append {front : String} (boundary : (ofText front).fault = none)
    (rest : String) :
    ofText (front ++ rest) =
      (readEvents (tagNames (openTags (ofText front).events)) rest.toList).after
        (ofText front).events := by
  rw [ofText_eq] at boundary
  rw [ofText_eq, ofText_eq, String.toList_append]
  have parts := readEvents_append [] boundary [] rest.toList
  simp only [List.append_nil] at parts
  exact parts

/-! ### Nodes -/

/-- Whether the events are what is left of an element, up to its end tag, in which so many tags are
open. -/
def endsElement (inner : Nat) : List Event → Bool
  | [] => false
  | .start _ :: rest => endsElement (inner + 1) rest
  | .finish :: rest =>
    match inner with
    | 0 => rest.isEmpty
    | inner + 1 => endsElement inner rest
  | .empty _ :: rest => endsElement inner rest
  | .passive :: rest => endsElement inner rest

/-- **Whether the events are one node**: a construct that carries nothing, an empty element, or an
element with all that stands in it. -/
def isNode : List Event → Bool
  | [.passive] => true
  | [.empty _] => true
  | .start _ :: rest => endsElement 0 rest
  | _ => false

theorem track_of_endsElement {events : List Event} (inner : List Tag) {tag : Tag}
    (ends : endsElement inner.length events = true) (outer : List Tag) :
    events.foldl Event.track (inner ++ tag :: outer) = outer := by
  induction events generalizing inner with
  | nil => exact nomatch ends
  | cons event rest ih =>
    rw [List.foldl_cons]
    cases event with
    | start other => exact ih (other :: inner) ends
    | empty other => exact ih inner ends
    | passive => exact ih inner ends
    | finish =>
      cases inner with
      | nil =>
        rw [List.isEmpty_iff.mp ends]
        rfl
      | cons innermost inner => exact ih inner ends

/-- **A node leaves the same tags open.** -/
theorem track_of_isNode {events : List Event} (node : isNode events = true) (tags : List Tag) :
    events.foldl Event.track tags = tags := by
  unfold isNode at node
  split at node
  · rfl
  · rfl
  · rename_i tag rest
    exact track_of_endsElement [] node tags
  · exact nomatch node

/-- **A node is read alike wherever it stands.** -/
theorem readEvents_node {node : String} (whole : (EventStream.ofText node).fault = none)
    (one : isNode (EventStream.ofText node).events = true) (tags : List Tag) (rest : List Char) :
    readEvents (tagNames tags) (node.toList ++ rest) =
      (readEvents (tagNames tags) rest).after (EventStream.ofText node).events := by
  rw [EventStream.ofText_eq] at whole one ⊢
  have parts := readEvents_append [] whole tags rest
  rw [show readEvents (tagNames []) node.toList = readEvents [] node.toList from rfl,
    track_of_isNode one] at parts
  exact parts

end SchemaBinding.Markup
