/-
**Empty elements in their two forms.**

An empty element may be written with a slash in its tag, or with an end tag. For a reader of
documents these are different events, and the reader of schemas has rules of its own for either. The
rules agree, tag by tag (`Component.FormsAgree`), but for two cases directly inside a complex type:
there a compositor is a particle, and `simpleContent` means simple content, only if it has an end
tag (`ReadingState.tellsFormsApart`). With a slash they are passed over.

`ofText_forms` says so of documents. The form of an empty element can be changed at any place but
these, and what is read, schema or fault, is the same; in the two cases the element with the slash
is read as if it were not there.
-/

import SchemaBinding.Proofs.Document.Transparency

namespace SchemaBinding

open Markup (EventStream Tag)

/-! ### The two forms as text -/

namespace Markup

/-- **The content of a tag that may be written in either form**: it begins like no other construct,
what it quotes is closed, no bracket stands outside quotes, and it does not end with a slash. -/
structure TagText (content : List Char) : Prop where
  written : content ≠ []
  begins : ∀ sign ∈ ['!', '?', '/'], content.head? ≠ some sign
  closed : readTag none [] (content ++ ['>']) = .ok (content, [])
  unslashed : content.getLast? ≠ some '/'
  /-- The name alone can be the content of a tag, since it is that of the end tag. -/
  named : readTag none [] (startTagName content ++ ['>']) = .ok (startTagName content, [])

instance (content : List Char) : Decidable (TagText content) :=
  decidable_of_iff
    (content ≠ [] ∧ (['!', '?', '/'].all fun sign => content.head? != some sign) = true ∧
      readTag none [] (content ++ ['>']) = .ok (content, []) ∧ content.getLast? ≠ some '/' ∧
        readTag none [] (startTagName content ++ ['>']) = .ok (startTagName content, [])) <| by
    simp only [List.all_eq_true, bne_iff_ne]
    constructor
    · rintro ⟨written, begins, closed, unslashed, named⟩
      exact ⟨written, begins, closed, unslashed, named⟩
    · rintro ⟨written, begins, closed, unslashed, named⟩
      exact ⟨written, begins, closed, unslashed, named⟩

def selfClosing (content : String) : String := "<" ++ content ++ "/>"

def withEndTag (content : String) : String :=
  "<" ++ content ++ "></" ++ (Tag.ofContent content.toList).name ++ ">"

/-- Reading goes through a content without unclosed quotes or brackets. -/
theorem readTag_content {quote : Option Char} {done content : List Char}
    (closed : readTag quote done (content ++ ['>']) = .ok (done.reverse ++ content, []))
    (rest : List Char) :
    readTag quote done (content ++ rest) = readTag none (content.reverse ++ done) rest := by
  induction content generalizing quote done with
  | nil =>
    cases quote with
    | none => rfl
    | some mark =>
      rw [List.nil_append, readTag] at closed
      split at closed <;> cases closed
  | cons c tail ih =>
    have shifted : (c :: done).reverse ++ tail = done.reverse ++ c :: tail := by simp
    have passed : tail.reverse ++ c :: done = (c :: tail).reverse ++ done := by simp
    rw [List.cons_append] at closed ⊢
    cases quote with
    | some mark =>
      rw [readTag] at closed ⊢
      rw [← shifted] at closed
      rw [ih closed, passed]
    | none =>
      rw [readTag] at closed ⊢
      split at closed
      · have ended := (Prod.mk.inj (Except.ok.inj closed)).2
        exact absurd ended (by simp)
      · rename_i other
        rw [← shifted] at closed
        rw [if_neg other, ih closed, passed]

/-- A tag ends at its bracket, whatever follows. -/
theorem readTag_closed {content : List Char}
    (closed : readTag none [] (content ++ ['>']) = .ok (content, [])) (rest : List Char) :
    readTag none [] (content ++ '>' :: rest) = .ok (content, rest) := by
  have longer := readTag_append closed rest
  rw [List.append_assoc] at longer
  exact longer

/-- A name is the name of its own end tag, since it has no blanks. -/
theorem endTagName_startTagName (content : List Char) :
    endTagName (startTagName content) = startTagName content := by
  have solid : ∀ c ∈ startTagName content, isBlank c = false := by
    intro c member
    simpa using List.mem_takeWhile_imp member
  unfold endTagName
  split
  · rfl
  · cases backwards : (startTagName content).reverse with
    | nil => rw [List.reverse_eq_nil_iff.mp backwards]; rfl
    | cons c rest =>
      have member : c ∈ startTagName content := by
        rw [← List.mem_reverse, backwards]
        exact List.mem_cons_self
      rw [List.dropWhile_cons_of_neg (by simp [solid c member]), ← backwards, List.reverse_reverse]

section

variable {content : List Char} (proper : TagText content)

include proper

theorem nextConstruct_tag (rest : List Char) :
    nextConstruct ('<' :: (content ++ rest)) =
      (readTagAs .ofContent (content ++ rest)).map some := by
  obtain ⟨c, tail, rfl⟩ := List.exists_cons_of_ne_nil proper.written
  have other : ∀ sign ∈ ['!', '?', '/'], c ≠ sign := fun sign member same =>
    proper.begins sign member (congrArg some same)
  show (readMarkup (c :: (tail ++ rest))).map some = _
  unfold readMarkup
  split
  · rename_i same
    exact absurd (List.cons.inj same).1 (other '!' (by simp))
  · rename_i same
    exact absurd (List.cons.inj same).1 (other '?' (by simp))
  · rename_i same
    exact absurd (List.cons.inj same).1 (other '/' (by simp))
  · rfl

/-- **With a slash, the element is one event.** -/
theorem readEvents_selfClosing (tags : List Tag) (rest : List Char) :
    readEvents (tagNames tags) ('<' :: (content ++ '/' :: '>' :: rest)) =
      (readEvents (tagNames tags) rest).after [.empty (.ofContent content)] := by
  have next : nextConstruct ('<' :: (content ++ '/' :: '>' :: rest)) =
      .ok (some (.empty content, rest)) := by
    have slashed : (content ++ ['/']).getLast? = some '/' := by simp
    rw [nextConstruct_tag proper, readTagAs, readTag_content proper.closed]
    show Except.map some (.ok (Construct.ofContent ('/' :: (content.reverse ++ [])).reverse, _)) = _
    rw [List.append_nil, List.reverse_cons, List.reverse_reverse, Construct.ofContent,
      if_pos slashed, List.dropLast_concat]
    rfl
  exact readEvents_of_construct next rfl

/-- **With an end tag, the element is two events.** -/
theorem readEvents_withEndTag (tags : List Tag) (rest : List Char) :
    readEvents (tagNames tags)
        ('<' :: (content ++ '>' :: '<' :: '/' :: (startTagName content ++ '>' :: rest))) =
      (readEvents (tagNames tags) rest).after [.start (.ofContent content), .finish] := by
  have opening : nextConstruct
      ('<' :: (content ++ '>' :: '<' :: '/' :: (startTagName content ++ '>' :: rest))) =
        .ok (some (.start content, '<' :: '/' :: (startTagName content ++ '>' :: rest))) := by
    rw [nextConstruct_tag proper, readTagAs, readTag_closed proper.closed]
    show Except.map some (.ok (Construct.ofContent content, _)) = _
    rw [Construct.ofContent, if_neg proper.unslashed]
    rfl
  have closing : nextConstruct ('<' :: '/' :: (startTagName content ++ '>' :: rest)) =
      .ok (some (.finish (startTagName content), rest)) := by
    show (readTagAs .finish (startTagName content ++ '>' :: rest)).map some = _
    rw [readTagAs, readTag_closed proper.named]
    rfl
  have ended : (Construct.finish (startTagName content)).event
      (startTagName content :: tagNames tags) = .ok (.finish, tagNames tags) := by
    unfold Construct.event
    simp only [endTagName_startTagName, if_true]
  rw [readEvents_of_construct opening rfl, readEvents_of_construct closing ended]
  rfl

end

section

variable {before content : String} (boundary : (EventStream.ofText before).fault = none)
  (proper : TagText content.toList) (after : String)

include boundary proper

/-- The events of a document with an empty element somewhere in it, written with a slash. -/
theorem ofText_selfClosing :
    EventStream.ofText (before ++ selfClosing content ++ after) =
      (readEvents (tagNames (openTags (EventStream.ofText before).events)) after.toList).after
        ((EventStream.ofText before).events ++ [.empty (.ofContent content.toList)]) := by
  have text : (selfClosing content ++ after).toList =
      '<' :: (content.toList ++ '/' :: '>' :: after.toList) := by
    simp [selfClosing]
  rw [String.append_assoc, EventStream.ofText_append boundary, text,
    readEvents_selfClosing proper, EventStream.after_after]

/-- The events of a document with an empty element somewhere in it, written with an end tag. -/
theorem ofText_withEndTag :
    EventStream.ofText (before ++ withEndTag content ++ after) =
      (readEvents (tagNames (openTags (EventStream.ofText before).events)) after.toList).after
        ((EventStream.ofText before).events ++ [.start (.ofContent content.toList), .finish]) := by
  have name : (Tag.ofContent content.toList).name.toList = startTagName content.toList :=
    String.toList_ofList
  have text : (withEndTag content ++ after).toList = '<' :: (content.toList ++
      '>' :: '<' :: '/' :: (startTagName content.toList ++ '>' :: after.toList)) := by
    simp [withEndTag, name]
  rw [String.append_assoc, EventStream.ofText_append boundary, text,
    readEvents_withEndTag proper, EventStream.after_after]

end

end Markup

/-! ### The two forms inside a component -/

namespace OpenContent

/-- **Among particles, an element is the same in both forms**: both are at fault, or the start tag
is passed over to the effect of the empty element, or it opens what the end tag closes to that
effect. -/
inductive FormsAgree (content : OpenContent) (tag : Tag) : Prop
  | fault {fault : SchemaFault} (started : content.start tag = .error fault)
      (alone : content.empty tag = .error fault)
  | passed {next : OpenContent} (started : content.start tag = .ok (next, true))
      (alone : content.empty tag = .ok next)
  | entered {inner next : OpenContent} (started : content.start tag = .ok (inner, false))
      (closed : inner.close? = some next) (alone : content.empty tag = .ok next)

theorem formsAgree (content : OpenContent) (tag : Tag) : content.FormsAgree tag := by
  cases kind : Compositor.read? tag.localName with
  | some compositor =>
    have started : content.start tag = (SchemaTag.occurs tag tag.localName).bind fun occurs =>
        .ok (content.openCompositor occurs compositor, false) := by
      unfold start
      rw [kind]
      rfl
    have alone : content.empty tag = (SchemaTag.occurs tag tag.localName).bind fun occurs =>
        .ok (content.add (.compositor occurs compositor [])) := by
      unfold empty
      rw [kind]
      rfl
    cases bounds : SchemaTag.occurs tag tag.localName with
    | error fault =>
      rw [bounds] at started alone
      exact .fault started alone
    | ok occurs =>
      rw [bounds] at started alone
      exact .entered started rfl alone
  | none =>
    have started : content.start tag = (Particle.leafOfTag? tag).bind fun leaf =>
        .ok ((leaf.map content.add).getD content, true) := by
      unfold start
      rw [kind]
      cases Particle.leafOfTag? tag with
      | error fault => rfl
      | ok leaf => cases leaf <;> rfl
    have alone : content.empty tag = (Particle.leafOfTag? tag).bind fun leaf =>
        .ok ((leaf.map content.add).getD content) := by
      unfold empty
      rw [kind]
      cases Particle.leafOfTag? tag with
      | error fault => rfl
      | ok leaf => cases leaf <;> rfl
    cases leaf : Particle.leafOfTag? tag with
    | error fault =>
      rw [leaf] at started alone
      exact .fault started alone
    | ok found =>
      rw [leaf] at started alone
      exact .passed started alone

end OpenContent

namespace Component

/-- **Inside a component, an element is the same in both forms.** -/
inductive FormsAgree (component : Component) (tag : Tag) : Prop
  | fault {fault : SchemaFault} (started : component.start tag = .error fault)
      (alone : component.empty tag = .error fault)
  | passed {next : Component} (started : component.start tag = .ok (next, true))
      (alone : component.empty tag = .ok next)
  | entered {inner next : Component} (started : component.start tag = .ok (inner, false))
      (closed : inner.finish? = some next) (alone : component.empty tag = .ok next)

/-- Whether the two forms of an element may differ: a compositor or `simpleContent` directly inside
a complex type. -/
def tellsFormsApart (tag : Tag) : Component → Bool
  | .complexType _ _ _ content _ =>
    content.opened.isEmpty && ["sequence", "choice", "all", "simpleContent"].contains tag.localName
  | _ => false

theorem mem_startWords_of_mem_emptyWords {component : Component} {word : String}
    (member : word ∈ component.emptyWords) : word ∈ component.startWords := by
  cases component with
  | complexType depth simple type content owner =>
    by_cases between : content.opened.isEmpty = true
    · rw [emptyWords, if_pos between] at member
      rw [startWords, if_pos between]
      refine List.Subset.trans ?_ (List.Subset.refl _) member
      cases simple <;> decide
    · rw [emptyWords, if_neg between] at member
      rw [startWords, if_neg between]
      exact member
  | simpleType | group | element => exact member

namespace FormsAgree

variable {component : Component} {tag : Tag} {α : Type}

/-- Both forms read the same, and the start tag is passed over. -/
theorem of_passed (read : Except SchemaFault α) (result : α → Component)
    (started : component.start tag = read.bind fun found => .ok (result found, true))
    (alone : component.empty tag = read.bind fun found => .ok (result found)) :
    component.FormsAgree tag := by
  cases read with
  | error fault => exact .fault started alone
  | ok found => exact .passed started alone

/-- Both forms read the same, and the start tag enters what its end tag leaves. -/
theorem of_entered (read : Except SchemaFault α) (inner result : α → Component)
    (started : component.start tag = read.bind fun found => .ok (inner found, false))
    (closed : ∀ found, (inner found).finish? = some (result found))
    (alone : component.empty tag = read.bind fun found => .ok (result found)) :
    component.FormsAgree tag := by
  cases read with
  | error fault => exact .fault started alone
  | ok found => exact .entered started (closed found) alone

/-- What holds among the particles of a component holds in the component. -/
theorem of_content (content : OpenContent) (around : OpenContent → Component)
    (started : component.start tag =
      (content.start tag).map fun (content, flag) => (around content, flag))
    (alone : component.empty tag = (content.empty tag).map around)
    (closed : ∀ inner next, OpenContent.close? inner = some next →
      (around inner).finish? = some (around next)) : component.FormsAgree tag := by
  cases content.formsAgree tag with
  | fault first second =>
    rw [first] at started
    rw [second] at alone
    exact .fault started alone
  | passed first second =>
    rw [first] at started
    rw [second] at alone
    exact .passed started alone
  | entered first inside second =>
    rw [first] at started
    rw [second] at alone
    exact .entered started (closed _ _ inside) alone

/-- An unknown element is passed over in both forms. -/
theorem of_unknown (unknown : tag.localName ∉ component.startWords) :
    component.FormsAgree tag := by
  refine .passed (start_of_unknown unknown) (empty_of_unknown fun member => unknown ?_)
  exact mem_startWords_of_mem_emptyWords member

end FormsAgree

section

variable {tag : Tag}

theorem formsAgree_simpleType (depth : Nat) (type : SimpleType)
    (known : tag.localName ∈ (simpleType depth type).startWords) :
    (simpleType depth type).FormsAgree tag := by
  simp only [startWords, List.mem_cons, List.not_mem_nil, or_false] at known
  rcases known with word | word
  · refine .of_entered (restrict type tag) (.simpleType (depth + 1)) (.simpleType depth) ?_
      (fun _ => rfl) ?_
    · simp only [start, word]
      rfl
    · simp only [empty, word]
      rfl
  · refine .of_passed (enumerate type tag) (.simpleType depth) ?_ ?_
    · simp only [start, word]
      rfl
    · simp only [empty, word]
      rfl

section

variable (depth : Nat) (simple : Bool) (type : ComplexType) (content : OpenContent)
  (owner : Option TopLevelElement)

/-- Inside a compositor of a complex type, the forms are those of particles. -/
theorem formsAgree_complexType_inside (inside : content.opened.isEmpty = false) :
    (complexType depth simple type content owner).FormsAgree tag := by
  refine .of_content content (.complexType depth simple type · owner) ?_ ?_ ?_
  · simp only [start, inside]
    rfl
  · simp only [empty, inside]
    rfl
  · intro inner next closed
    simp only [finish?, closed]

theorem finish?_of_between (between : content.opened.isEmpty = true) (type : ComplexType) :
    finish? (.complexType (depth + 1) simple type content owner) =
      some (.complexType depth simple type content owner) := by
  have none : content.close? = none := by
    rw [OpenContent.close?, List.isEmpty_iff.mp between]
  simp only [finish?, none]

theorem formsAgree_derivation (between : content.opened.isEmpty = true)
    (word : tag.localName = "extension" ∨ tag.localName = "restriction") :
    (complexType depth simple type content owner).FormsAgree tag := by
  refine .of_entered (derive simple type tag) (.complexType (depth + 1) simple · content owner)
    (.complexType depth simple · content owner) ?_
    (finish?_of_between depth simple content owner between) ?_
  · rcases word with word | word
    · simp only [start, between, word]
      rfl
    · simp only [start, between, word]
      rfl
  · rcases word with word | word
    · simp only [empty, between, word]
      rfl
    · simp only [empty, between, word]
      rfl

/-- Between the compositors of a complex type, the forms agree for all tags but those that tell them
apart. -/
theorem formsAgree_complexType_between (between : content.opened.isEmpty = true)
    (alike : ["sequence", "choice", "all", "simpleContent"].contains tag.localName = false)
    (known : tag.localName ∈ (complexType depth simple type content owner).startWords) :
    (complexType depth simple type content owner).FormsAgree tag := by
  simp only [startWords, between, if_true, List.mem_cons, List.not_mem_nil, or_false] at known
  rcases known with word | word | word | word | word | word | word | word | word
  · exact absurd alike (by rw [word]; decide)
  · exact absurd alike (by rw [word]; decide)
  · exact absurd alike (by rw [word]; decide)
  · exact absurd alike (by rw [word]; decide)
  · refine .of_entered (.ok type) (.complexType (depth + 1) simple · content owner)
      (.complexType depth simple · content owner) ?_
      (finish?_of_between depth simple content owner between) ?_
    · simp only [start, between, word]
      rfl
    · simp only [empty, between, word]
      rfl
  · exact formsAgree_derivation depth simple type content owner between (.inl word)
  · exact formsAgree_derivation depth simple type content owner between (.inr word)
  · refine .of_passed (declare type tag) (.complexType depth simple · content owner) ?_ ?_
    · simp only [start, between, word]
      rfl
    · simp only [empty, between, word]
      rfl
  · refine .of_passed (Particle.groupRefOfTag tag)
      (fun particle => .complexType depth simple type (content.add particle) owner) ?_ ?_
    · simp only [start, between, word]
      rfl
    · simp only [empty, between, word]
      rfl

end

theorem formsAgree_element (owner : TopLevelElement)
    (known : tag.localName ∈ (element owner).startWords) : (element owner).FormsAgree tag := by
  have word : tag.localName = "complexType" := by simpa [startWords] using known
  refine .of_entered (.ok owner)
    (fun owner => .complexType 0 false { name := owner.decl.name } {} (some owner))
    (fun owner => .element { owner with anonymousType := some { name := owner.decl.name } })
    ?_ (fun _ => rfl) ?_
  · simp only [start, word]
    rfl
  · simp only [empty, word]
    rfl

/-- **The rules for the two forms agree wherever the forms are not told apart.** -/
theorem formsAgree {component : Component} (alike : component.tellsFormsApart tag = false) :
    component.FormsAgree tag := by
  by_cases known : tag.localName ∈ component.startWords
  case neg => exact .of_unknown known
  cases component with
  | simpleType depth type => exact formsAgree_simpleType depth type known
  | complexType depth simple type content owner =>
    by_cases between : content.opened.isEmpty = true
    · simp only [tellsFormsApart, between, Bool.true_and] at alike
      exact formsAgree_complexType_between depth simple type content owner between alike known
    · rw [Bool.not_eq_true] at between
      exact formsAgree_complexType_inside depth simple type content owner between
  | group name content =>
    refine .of_content content (.group name) rfl rfl fun inner next closed => ?_
    show (inner.close?).map _ = _
    rw [closed]
    rfl
  | element owner => exact formsAgree_element owner known

end

/-- A component that has just begun ends with the next end tag. -/
theorem finish?_of_ofTag? {schema : Schema} {tag : Tag} {component : Component}
    (begun : ofTag? schema tag = .ok (some component)) : component.finish? = none := by
  cases left : component.finish? with
  | none => rfl
  | some next =>
    have outermost := (begins_of_ofTag? begun).2
    have deeper := nesting_finish left
    have positive := next.nesting_pos
    omega

/-- Where the forms are told apart, the one with the slash means nothing. -/
theorem not_mem_emptyWords_of_apart {component : Component} {tag : Tag}
    (apart : component.tellsFormsApart tag = true) : tag.localName ∉ component.emptyWords := by
  cases component with
  | complexType depth simple type content owner =>
    obtain ⟨between, word⟩ := Bool.and_eq_true_iff.mp apart
    have foreign : ∀ word ∈ ["sequence", "choice", "all", "simpleContent"],
        word ∉ ["attribute", "group"] ++ if simple then ["extension", "restriction"] else [] := by
      cases simple <;> decide
    rw [emptyWords, if_pos between]
    exact foreign _ (List.contains_iff_mem.mp word)
  | simpleType | group | element => exact absurd apart Bool.false_ne_true

end Component

/-! ### The two forms at any place -/

/-- Whether the two forms of an element may differ at a place. -/
def Place.tellsFormsApart (tag : Tag) : Place → Bool
  | .inSchema _ (some component) => component.tellsFormsApart tag
  | _ => false

namespace ReadingState

/-- Whether the two forms of an element may differ where the reader stands. -/
def tellsFormsApart (tag : Tag) (state : ReadingState) : Bool :=
  state.passedOver == 0 && state.place.tellsFormsApart tag

variable {state : ReadingState} {tag : Tag}

/-- **Wherever the forms are not told apart, they lead to the same state or the same fault.** -/
theorem run_forms (alike : state.tellsFormsApart tag = false) :
    state.run [.start tag, .finish] = state.run [.empty tag] := by
  obtain ⟨place, passed⟩ := state
  cases passed with
  | succ passed => rfl
  | zero =>
    have alike : place.tellsFormsApart tag = false := by simpa [tellsFormsApart] using alike
    match place with
    | .beforeSchema =>
      simp only [run_cons, run_nil, step, start, empty]
      split
      · unfold enterSchema
        cases SchemaTag.attribute? tag "targetNamespace" <;> rfl
      · rfl
    | .inSchema schema none =>
      simp only [run_cons, run_nil, step, start, empty]
      split
      · rfl
      · cases begun : Component.ofTag? schema tag with
        | error fault => rfl
        | ok found =>
          cases found with
          | none => rfl
          | some component =>
            have ended := Component.finish?_of_ofTag? begun
            show Except.ok (standing (finish (.inSchema schema (some component))) false) = _
            simp only [finish, ended]
            rfl
    | .inSchema schema (some component) =>
      simp only [run_cons, run_nil, step, start, empty]
      cases component.formsAgree alike with
      | fault started alone =>
        rw [started, alone]
        rfl
      | passed started alone =>
        rw [started, alone]
        rfl
      | entered started closed alone =>
        rename_i inner next
        rw [started, alone]
        show Except.ok (standing (finish (.inSchema schema (some inner))) false) = _
        simp only [finish, closed]
        rfl

/-- **Where the forms are told apart, the one with the slash is passed over.** -/
theorem run_empty_of_apart (apart : state.tellsFormsApart tag = true) :
    state.run [.empty tag] = state.run [] := by
  have unknown : state.handles (.empty tag) = false := by
    obtain ⟨place, passed⟩ := state
    obtain ⟨-, apart⟩ := Bool.and_eq_true_iff.mp apart
    match place with
    | .inSchema schema (some component) =>
      have foreign := Component.not_mem_emptyWords_of_apart apart
      simp [handles, Place.emptyWords, foreign]
    | .inSchema schema none => exact absurd apart Bool.false_ne_true
    | .beforeSchema => exact absurd apart Bool.false_ne_true
  rw [run_cons, step_empty_of_unknown unknown]
  rfl

end ReadingState

/-! ### The two forms in a document -/

/-- **The form of an empty element makes no difference, but for two cases.** An element without
content stands in a document behind a front that ends between two constructs, or in character data.
With an end tag and with a slash, it leads to the same schema or the same fault, whatever follows.
Only directly inside a complex type, compositors and `simpleContent` are different: there the
element with the slash is read as if it were not there. -/
theorem ofText_forms (before content after : String)
    (boundary : (EventStream.ofText before).fault = none)
    (proper : Markup.TagText content.toList) :
    let apart := trueBehind (EventStream.ofText before).events
      (ReadingState.tellsFormsApart (.ofContent content.toList))
    (apart = false →
      Schema.ofText (before ++ Markup.withEndTag content ++ after) =
        Schema.ofText (before ++ Markup.selfClosing content ++ after)) ∧
    (apart = true →
      Schema.ofText (before ++ Markup.selfClosing content ++ after) =
        Schema.ofText (before ++ after)) := by
  intro apart
  have stated : apart = trueBehind (EventStream.ofText before).events
    (ReadingState.tellsFormsApart (.ofContent content.toList)) := rfl
  unfold trueBehind at stated
  unfold Schema.ofText
  rw [Markup.ofText_withEndTag boundary proper, Markup.ofText_selfClosing boundary proper,
    EventStream.ofText_append boundary]
  constructor
  · intro alike
    refine ofStream_replace (fun state front => ?_) _
    rw [front] at stated
    exact ReadingState.run_forms (stated.symm.trans alike)
  · intro told
    refine (ofStream_replace (fun state front => ?_) _).trans
      (congrArg (fun events => Schema.ofStream (EventStream.after _ events)) (List.append_nil _))
    rw [front] at stated
    exact ReadingState.run_empty_of_apart (stated.symm.trans told)

/-- An element in a sequence has two forms, and so does an empty sequence; the latter, in a complex
type, is read as if it were not there. -/
theorem ofText_forms_of_element :
    let between := "<schema><complexType name='A'>"
    let inside := "<schema><complexType name='A'><sequence>"
    let element := "element name='b' minOccurs='0'"
    (EventStream.ofText inside).fault = none ∧ (EventStream.ofText between).fault = none ∧
      Markup.TagText element.toList ∧ Markup.TagText "sequence".toList ∧
      Schema.ofText (inside ++ Markup.withEndTag element ++ "</sequence></complexType></schema>") =
        Schema.ofText
          (inside ++ Markup.selfClosing element ++ "</sequence></complexType></schema>") ∧
      Schema.ofText (between ++ Markup.selfClosing "sequence" ++ "</complexType></schema>") =
        Schema.ofText (between ++ "</complexType></schema>") := by
  intro between inside element
  have front : (EventStream.ofText inside).fault = none := by decide +kernel
  have before : (EventStream.ofText between).fault = none := by decide +kernel
  have proper : Markup.TagText element.toList := by decide +kernel
  have bare : Markup.TagText "sequence".toList := by decide +kernel
  have alike : trueBehind (EventStream.ofText inside).events
      (ReadingState.tellsFormsApart (.ofContent element.toList)) = false := by decide +kernel
  have apart : trueBehind (EventStream.ofText between).events
      (ReadingState.tellsFormsApart (.ofContent "sequence".toList)) = true := by decide +kernel
  refine ⟨front, before, proper, bare, ?_, ?_⟩
  · exact (ofText_forms inside element _ front proper).1 alike
  · exact (ofText_forms between "sequence" _ before bare).2 apart

/-- **An empty sequence is a particle with an end tag, and nothing with a slash.** -/
theorem forms_of_sequence :
    let withEndTag := "<schema><complexType name=\"A\"><sequence></sequence></complexType></schema>"
    let selfClosing := "<schema><complexType name=\"A\"><sequence/></complexType></schema>"
    let particleCounts (read : Except SchemaFault Schema) : Option (List Nat) :=
      read.toOption.map fun schema => schema.complexTypes.map fun type => type.particles.length
    particleCounts (Schema.ofText withEndTag) = some [1] ∧
      particleCounts (Schema.ofText selfClosing) = some [0] ∧
      Schema.ofText withEndTag ≠ Schema.ofText selfClosing := by
  intro withEndTag selfClosing particleCounts
  have one : particleCounts (Schema.ofText withEndTag) = some [1] := by decide +kernel
  have zero : particleCounts (Schema.ofText selfClosing) = some [0] := by decide +kernel
  refine ⟨one, zero, fun same => ?_⟩
  rw [same, zero] at one
  exact absurd one (by decide)

end SchemaBinding
