/-
**What written tags say.**

Every tag that is written for a part of a schema is understood as that part: its local name is the
word that it was given, and the declaration, the occurrences and the reference in it are those that
its attributes were made from.
-/

import Mathlib.Data.List.TakeWhile
import SchemaBinding.Proofs.Document.Writing

namespace SchemaBinding

open Markup (Tag)

/-! ### Names -/

/-- A name without colons is its own last part. -/
theorem localName_of_bare {name : String} (bare : ':' ∉ name.toList) : localName name = name := by
  have kept : name.toList.reverse.takeWhile (· != ':') = name.toList.reverse := by
    refine List.takeWhile_eq_self_iff.mpr fun c member => ?_
    have inName : c ∈ name.toList := List.mem_reverse.mp member
    exact bne_iff_ne.mpr fun colon => bare (colon ▸ inName)
  rw [localName, kept, List.reverse_reverse, String.ofList_toList]

/-- What follows a prefix is what follows the first colon. -/
theorem behind_firstColon {text : List Char} (plain : ':' ∉ text) (word : List Char) :
    ((text ++ ':' :: word).dropWhile (· != ':')).drop 1 = word := by
  have others : ∀ c ∈ text, (c != ':') = true := fun c member =>
    bne_iff_ne.mpr fun colon => plain (colon ▸ member)
  rw [List.dropWhile_append_of_pos others]
  rfl

namespace TagStyle

variable (style : TagStyle)

/-- **The local name of a tag is the word that it was given.** -/
theorem localName_tag (word : String) (bare : ':' ∉ word.toList)
    (attributes : List (String × String)) : (style.tag word attributes).localName = word := by
  unfold Tag.localName tag fullName
  cases found : style.before with
  | none => simp [bare]
  | some text =>
    have plain := style.plain text found
    have letters : (text ++ ":" ++ word).toList = text.toList ++ ':' :: word.toList := by simp
    have colon : (text.toList ++ ':' :: word.toList).contains ':' = true := by simp
    simp only [letters, colon, if_true]
    rw [behind_firstColon plain, String.ofList_toList]

theorem localName_compositor (kind : Compositor) (attributes : List (String × String)) :
    (style.tag kind.word attributes).localName = kind.word := by
  refine style.localName_tag kind.word ?_ attributes
  cases kind <;> decide

end TagStyle

/-! ### Attributes -/

section

variable (style : TagStyle) (word : String)

theorem attribute?_tag (attributes : List (String × String)) (name : String) :
    SchemaTag.attribute? (style.tag word attributes) name = .ok (attributes.lookup name) := rfl

theorem required_tag {attributes : List (String × String)} {name value : String}
    (given : attributes.lookup name = some value) (element : String) :
    SchemaTag.required (style.tag word attributes) element name = .ok value := by
  unfold SchemaTag.required
  rw [attribute?_tag, given]
  rfl

theorem required_name (element name : String) :
    SchemaTag.required (style.tag word [("name", name)]) element "name" = .ok name :=
  required_tag style word rfl element

theorem readOr_tag {α : Type} {attributes : List (String × String)} {name value : String}
    {read : String → Option α} {result : α} (given : attributes.lookup name = some value)
    (understood : read value = some result) (element : String) (absent : α) :
    SchemaTag.readOr (style.tag word attributes) element name absent read = .ok result := by
  unfold SchemaTag.readOr
  rw [attribute?_tag, given]
  simp only [bind, Except.bind, understood]

/-- The occurrences of a particle, whatever else its tag says. -/
theorem occurs_tag (occurs : Occurs) (others : List (String × String)) (element : String) :
    SchemaTag.occurs (style.tag word (occurs.written ++ others)) element = .ok occurs := by
  have least : (occurs.written ++ others).lookup "minOccurs" = some (countText occurs.min) := rfl
  have most : (occurs.written ++ others).lookup "maxOccurs" = some occurs.max.text := rfl
  unfold SchemaTag.occurs
  rw [readOr_tag style word least (readCount?_countText occurs.min),
    readOr_tag style word most (MaxOccurs.read?_text occurs.max)]
  rfl

end

/-! ### Declarations -/

section

variable (style : TagStyle)

/-- Goes through an attribute that may be absent. -/
theorem foldlM_attributeIfAny {α : Type} {take : α → String × String → Except SchemaFault α}
    {name : String} {value : Option String} {before after : α}
    (absent : value = none → before = after)
    (present : ∀ text, value = some text → take before (name, text) = .ok after) :
    (attributeIfAny name value).foldlM take before = .ok after := by
  cases value with
  | none => exact congrArg Except.ok (absent rfl)
  | some text => simp [attributeIfAny, present text rfl]

theorem foldlM_append_ok {α : Type} {take : α → String × String → Except SchemaFault α}
    {first second : List (String × String)} {before middle after : α}
    (one : first.foldlM take before = .ok middle) (two : second.foldlM take middle = .ok after) :
    (first ++ second).foldlM take before = .ok after := by
  rw [List.foldlM_append, one]
  exact two

/-- The attributes of an element are taken one by one, its name first. -/
theorem foldlM_written_element {decl : ElementDecl} (writable : decl.Writable) :
    decl.written.foldlM ElementDecl.withAttribute { name := "" } = .ok decl := by
  obtain ⟨name, typeName, fixedValue, defaultValue, nillable, isReference⟩ := decl
  have named : ElementDecl.withAttribute { name := "" }
      (if isReference then "ref" else "name", name) = .ok { name, isReference } := by
    cases isReference with
    | false => rfl
    | true => simp [ElementDecl.withAttribute, localName_of_bare (writable.bare rfl)]
  have typed : (attributeIfAny "type" typeName).foldlM ElementDecl.withAttribute
      { name, isReference } = .ok { name, isReference, typeName } :=
    foldlM_attributeIfAny (by rintro rfl; rfl) (by rintro text rfl; rfl)
  have fixed : (attributeIfAny "fixed" fixedValue).foldlM ElementDecl.withAttribute
      { name, isReference, typeName } = .ok { name, isReference, typeName, fixedValue } :=
    foldlM_attributeIfAny (by rintro rfl; rfl) (by rintro text rfl; rfl)
  have default : (attributeIfAny "default" defaultValue).foldlM ElementDecl.withAttribute
      { name, isReference, typeName, fixedValue } =
        .ok { name, isReference, typeName, fixedValue, defaultValue } :=
    foldlM_attributeIfAny (by rintro rfl; rfl) (by rintro text rfl; rfl)
  have nilled : (attributeIfAny "nillable" (if nillable then some "true" else none)).foldlM
      ElementDecl.withAttribute { name, isReference, typeName, fixedValue, defaultValue } =
        .ok { name, isReference, typeName, fixedValue, defaultValue, nillable } := by
    cases nillable <;> rfl
  unfold ElementDecl.written
  rw [List.foldlM_cons, named]
  exact foldlM_append_ok (foldlM_append_ok (foldlM_append_ok typed fixed) default) nilled

theorem ofTag_element {decl : ElementDecl} {attributes : List (String × String)}
    (writable : decl.Writable)
    (taken : attributes.foldlM ElementDecl.withAttribute { name := "" } = .ok decl)
    (word : String) : ElementDecl.ofTag (style.tag word attributes) = .ok decl := by
  have full : decl.name.isEmpty = false := by simpa using writable.named
  show (attributes.foldlM ElementDecl.withAttribute { name := "" }).bind
    (fun decl => if decl.name.isEmpty then .error (.missingAttribute "element" "name")
      else .ok decl) = .ok decl
  rw [taken]
  simp [Except.bind, full]

/-- **A top-level element is read from its tag.** -/
theorem ofTag_written_element {decl : ElementDecl} (writable : decl.Writable) (word : String) :
    ElementDecl.ofTag (style.tag word decl.written) = .ok decl :=
  ofTag_element style writable (foldlM_written_element writable) word

/-- **An element particle is read from its tag**: its occurrences mean nothing to the element. -/
theorem leafOfTag?_element {decl : ElementDecl} (writable : decl.Writable) (occurs : Occurs) :
    Particle.leafOfTag? (style.tag "element" (occurs.written ++ decl.written)) =
      .ok (some (.element occurs decl)) := by
  have declared : ElementDecl.ofTag (style.tag "element" (occurs.written ++ decl.written)) =
      .ok decl := by
    have passed : occurs.written.foldlM ElementDecl.withAttribute { name := "" } =
        .ok { name := "" } := rfl
    exact ofTag_element style writable
      (foldlM_append_ok passed (foldlM_written_element writable)) "element"
  unfold Particle.leafOfTag?
  rw [style.localName_tag _ (by decide)]
  simp only [occurs_tag, declared]
  rfl

/-- **A wildcard is read from its tag.** -/
theorem leafOfTag?_wildcard (occurs : Occurs) :
    Particle.leafOfTag? (style.tag "any" occurs.written) = .ok (some (.wildcard occurs)) := by
  have bounds := occurs_tag style "any" occurs [] "any"
  rw [List.append_nil] at bounds
  unfold Particle.leafOfTag?
  rw [style.localName_tag _ (by decide)]
  simp only [bounds]
  rfl

/-- **A reference to a group is read from its tag.** -/
theorem groupRefOfTag_written {name : String} (bare : ':' ∉ name.toList) (occurs : Occurs) :
    Particle.groupRefOfTag (style.tag "group" (occurs.written ++ [("ref", name)])) =
      .ok (.groupRef occurs name) := by
  have reference : (occurs.written ++ [("ref", name)]).lookup "ref" = some name := rfl
  unfold Particle.groupRefOfTag
  rw [occurs_tag, required_tag style "group" reference]
  show Except.ok (Particle.groupRef occurs (localName name)) = _
  rw [localName_of_bare bare]

theorem leafOfTag?_groupRef {name : String} (bare : ':' ∉ name.toList) (occurs : Occurs) :
    Particle.leafOfTag? (style.tag "group" (occurs.written ++ [("ref", name)])) =
      .ok (some (.groupRef occurs name)) := by
  unfold Particle.leafOfTag?
  rw [style.localName_tag _ (by decide)]
  simp only [groupRefOfTag_written style bare]
  rfl

theorem foldlM_written_attribute (decl : AttributeDecl) :
    decl.written.foldlM AttributeDecl.withAttribute { name := "" } = .ok decl := by
  obtain ⟨name, typeName, fixedValue, defaultValue, use⟩ := decl
  have named : AttributeDecl.withAttribute { name := "" } ("name", name) = .ok { name } := rfl
  have typed : (attributeIfAny "type" typeName).foldlM AttributeDecl.withAttribute { name } =
      .ok { name, typeName } :=
    foldlM_attributeIfAny (by rintro rfl; rfl) (by rintro text rfl; rfl)
  have fixed : (attributeIfAny "fixed" fixedValue).foldlM AttributeDecl.withAttribute
      { name, typeName } = .ok { name, typeName, fixedValue } :=
    foldlM_attributeIfAny (by rintro rfl; rfl) (by rintro text rfl; rfl)
  have default : (attributeIfAny "default" defaultValue).foldlM AttributeDecl.withAttribute
      { name, typeName, fixedValue } = .ok { name, typeName, fixedValue, defaultValue } :=
    foldlM_attributeIfAny (by rintro rfl; rfl) (by rintro text rfl; rfl)
  have used : [("use", use.word)].foldlM AttributeDecl.withAttribute
      { name, typeName, fixedValue, defaultValue } =
        .ok { name, typeName, fixedValue, defaultValue, use } := by
    cases use <;> rfl
  unfold AttributeDecl.written
  rw [List.foldlM_cons, named]
  exact foldlM_append_ok (foldlM_append_ok (foldlM_append_ok typed fixed) default) used

/-- **An attribute is read from its tag.** -/
theorem ofTag_written_attribute {decl : AttributeDecl} (named : decl.name ≠ "") (word : String) :
    AttributeDecl.ofTag (style.tag word decl.written) = .ok decl := by
  have full : decl.name.isEmpty = false := by simpa using named
  show (decl.written.foldlM AttributeDecl.withAttribute { name := "" }).bind
    (fun decl => if decl.name.isEmpty then .error (.missingAttribute "attribute" "name")
      else .ok decl) = .ok decl
  rw [foldlM_written_attribute]
  simp [Except.bind, full]

end

end SchemaBinding
