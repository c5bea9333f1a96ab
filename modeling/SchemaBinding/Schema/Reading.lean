/-
**Schemas read from a stream of events.**

Reading is a machine that takes one event at a time. It stands before the schema, or inside it,
possibly inside a component that is not complete yet; a complex type and a group hold the
compositors that are open in them. Content without meaning is passed over by counting its tags.
What each event does depends on the place only, so a document may be cut at any event and read on
from the state that has been reached there.

A component is added to the schema when its end tag is read. The schema itself has no end: its end
tag is read like one that closes nothing, and so a document may end before it.
-/

import SchemaBinding.Markup.Event
import SchemaBinding.Schema.Declaration

namespace SchemaBinding

open Markup (Event EventStream Tag)

/-- A compositor that is not closed yet, with the particles read so far. -/
structure OpenCompositor where
  occurs : Occurs
  kind : Compositor
  particles : List Particle := []

def OpenCompositor.toParticle (inner : OpenCompositor) : Particle :=
  .compositor inner.occurs inner.kind inner.particles

/-- Particles read so far, and the compositors among them that are open, innermost first. -/
structure OpenContent where
  particles : List Particle := []
  opened : List OpenCompositor := []

namespace OpenContent

/-- Adds a particle to the innermost compositor, or to the content itself if none is open. -/
def add (content : OpenContent) (particle : Particle) : OpenContent :=
  match content.opened with
  | [] => { content with particles := content.particles ++ [particle] }
  | inner :: outer =>
    { content with
      opened := { inner with particles := inner.particles ++ [particle] } :: outer }

def openCompositor (content : OpenContent) (occurs : Occurs) (kind : Compositor) : OpenContent :=
  { content with opened := { occurs, kind } :: content.opened }

/-- Closes the innermost compositor, if one is open. -/
def close? (content : OpenContent) : Option OpenContent :=
  match content.opened with
  | [] => none
  | inner :: outer => some ({ content with opened := outer }.add inner.toParticle)

/-- Takes a start tag among particles. The flag tells whether what follows up to its end tag is to
be passed over. -/
def start (content : OpenContent) (tag : Tag) : Except SchemaFault (OpenContent × Bool) :=
  match Compositor.read? tag.localName with
  | some kind => do
    let occurs ← SchemaTag.occurs tag tag.localName
    return (content.openCompositor occurs kind, false)
  | none => do
    match ← Particle.leafOfTag? tag with
    | some particle => return (content.add particle, true)
    | none => return (content, true)

def empty (content : OpenContent) (tag : Tag) : Except SchemaFault OpenContent :=
  match Compositor.read? tag.localName with
  | some kind => do
    let occurs ← SchemaTag.occurs tag tag.localName
    return content.add (.compositor occurs kind [])
  | none => do
    match ← Particle.leafOfTag? tag with
    | some particle => return content.add particle
    | none => return content

end OpenContent

/-- A component of a schema whose end has not been read. The depth of a type is the number of tags
open inside it that stand for a derivation or a kind of content. -/
inductive Component
  | simpleType (depth : Nat) (type : SimpleType)
  /-- A complex type; it is anonymous if it has an owner, which is the top-level element that it
  stands in. -/
  | complexType (depth : Nat) (inSimpleContent : Bool) (type : ComplexType)
      (content : OpenContent) (owner : Option TopLevelElement)
  | group (name : String) (content : OpenContent)
  | element (owner : TopLevelElement)

namespace Component

/-- The component that a tag in the schema begins, if it begins one. -/
def ofTag? (schema : Schema) (tag : Tag) : Except SchemaFault (Option Component) :=
  match tag.localName with
  | "simpleType" => do
    let name ← SchemaTag.required tag "simpleType" "name"
    if schema.hasType name then .error (.duplicate .type name)
    else return some (.simpleType 0 { name })
  | "complexType" => do
    let name ← SchemaTag.required tag "complexType" "name"
    if schema.hasType name then .error (.duplicate .type name)
    else return some (.complexType 0 false { name } {} none)
  | "group" => do
    let name ← SchemaTag.required tag "group" "name"
    if (schema.group? name).isSome then .error (.duplicate .group name)
    else return some (.group name {})
  | "element" => do return some (.element { decl := ← ElementDecl.ofTag tag })
  | _ => .ok none

/-- A simple type after the tag of its restriction. -/
def restrict (type : SimpleType) (tag : Tag) : Except SchemaFault SimpleType := do
  match ← SchemaTag.attribute? tag "base" with
  | some base => return { type with base }
  | none => return type

/-- A simple type after the tag of an enumerated value. -/
def enumerate (type : SimpleType) (tag : Tag) : Except SchemaFault SimpleType := do
  let value ← SchemaTag.required tag "enumeration" "value"
  return { type with enumerations := type.enumerations ++ [value] }

/-- A complex type after the tag of a derivation, which gives the base of simple content. -/
def derive (inSimpleContent : Bool) (type : ComplexType) (tag : Tag) :
    Except SchemaFault ComplexType := do
  if inSimpleContent then return { type with simpleContent := ← SchemaTag.attribute? tag "base" }
  else return type

/-- A complex type after the tag of an attribute. -/
def declare (type : ComplexType) (tag : Tag) : Except SchemaFault ComplexType := do
  return { type with attributes := type.attributes ++ [← AttributeDecl.ofTag tag] }

/-- Takes a start tag inside a component. The flag tells whether what follows up to its end tag is
to be passed over. -/
def start : Component → Tag → Except SchemaFault (Component × Bool)
  | .simpleType depth type, tag =>
    match tag.localName with
    | "restriction" => do return (.simpleType (depth + 1) (← restrict type tag), false)
    | "enumeration" => do return (.simpleType depth (← enumerate type tag), true)
    | _ => .ok (.simpleType depth type, true)
  | .complexType depth simple type content owner, tag =>
    if !content.opened.isEmpty || (Compositor.read? tag.localName).isSome then
      (content.start tag).map fun (content, passed) =>
        (.complexType depth simple type content owner, passed)
    else
      match tag.localName with
      | "simpleContent" => .ok (.complexType (depth + 1) true type content owner, false)
      | "complexContent" => .ok (.complexType (depth + 1) simple type content owner, false)
      | "extension" | "restriction" => do
        return (.complexType (depth + 1) simple (← derive simple type tag) content owner, false)
      | "attribute" => do
        return (.complexType depth simple (← declare type tag) content owner, true)
      | "group" => do
        let particle ← Particle.groupRefOfTag tag
        return (.complexType depth simple type (content.add particle) owner, true)
      | _ => .ok (.complexType depth simple type content owner, true)
  | .group name content, tag =>
    (content.start tag).map fun (content, passed) => (.group name content, passed)
  | .element owner, tag =>
    if tag.localName = "complexType" then
      .ok (.complexType 0 false { name := owner.decl.name } {} (some owner), false)
    else .ok (.element owner, true)

/-- Takes an empty element inside a component. Between the particles of a complex type, a compositor
without content is not taken for a particle. -/
def empty : Component → Tag → Except SchemaFault Component
  | .simpleType depth type, tag =>
    match tag.localName with
    | "restriction" => do return .simpleType depth (← restrict type tag)
    | "enumeration" => do return .simpleType depth (← enumerate type tag)
    | _ => .ok (.simpleType depth type)
  | .complexType depth simple type content owner, tag =>
    if !content.opened.isEmpty then
      (content.empty tag).map fun content => .complexType depth simple type content owner
    else
      match tag.localName with
      | "attribute" => do return .complexType depth simple (← declare type tag) content owner
      | "group" => do
        let particle ← Particle.groupRefOfTag tag
        return .complexType depth simple type (content.add particle) owner
      | "extension" | "restriction" => do
        return .complexType depth simple (← derive simple type tag) content owner
      | _ => .ok (.complexType depth simple type content owner)
  | .group name content, tag => (content.empty tag).map fun content => .group name content
  | .element owner, tag =>
    if tag.localName = "complexType" then
      .ok (.element { owner with anonymousType := some { name := owner.decl.name } })
    else .ok (.element owner)

/-- The complex type with the particles of its content. -/
def withContent (type : ComplexType) (content : OpenContent) : ComplexType :=
  { type with particles := content.particles }

/-- Takes an end tag inside a component; there is no component left if it was the end tag of the
component itself. An anonymous type is handed to its owner, in place of an earlier one. -/
def finish? : Component → Option Component
  | .simpleType 0 _ => none
  | .simpleType (depth + 1) type => some (.simpleType depth type)
  | .complexType depth simple type content owner =>
    match content.close?, depth, owner with
    | some content, depth, owner => some (.complexType depth simple type content owner)
    | none, depth + 1, owner => some (.complexType depth simple type content owner)
    | none, 0, some owner =>
      some (.element { owner with anonymousType := some (withContent type content) })
    | none, 0, none => none
  | .group name content => content.close?.map fun content => .group name content
  | .element _ => none

def addTo (schema : Schema) : Component → Schema
  | .simpleType _ type => schema.addSimpleType type
  | .complexType _ _ type content _ => schema.addComplexType (withContent type content)
  | .group name content => schema.addGroup { name, particles := content.particles }
  | .element owner => schema.addElement owner

/-- The construct that lacks its end if the document ends inside the component. -/
def innermost : Component → SchemaConstruct
  | .simpleType _ _ => .simpleType
  | .complexType _ _ _ content _ => if content.opened.isEmpty then .complexType else .modelGroup
  | .group _ _ => .modelGroup
  | .element _ => .element

end Component

/-- Where in a document the reading stands, apart from content that is passed over. -/
inductive Place
  | beforeSchema
  | inSchema (schema : Schema) (component : Option Component)

/-- The state of the reading: a place, and the number of open tags whose content is passed over. -/
structure ReadingState where
  place : Place := .beforeSchema
  passedOver : Nat := 0

namespace ReadingState

/-- The state at a place, where nothing is passed over, or the content of one tag. -/
def standing (place : Place) (passed : Bool) : ReadingState :=
  { place, passedOver := if passed then 1 else 0 }

/-- The place behind the tag of a schema. -/
def enterSchema (place : Place) (tag : Tag) : Except SchemaFault Place :=
  match place with
  | .inSchema _ _ => .error (.malformed .nestedSchema)
  | .beforeSchema => do
    return .inSchema { targetNamespace := ← SchemaTag.attribute? tag "targetNamespace" } none

/-- Takes a start tag whose content is not passed over already. -/
def start (place : Place) (tag : Tag) : Except SchemaFault ReadingState :=
  match place with
  | .inSchema schema (some component) => do
    let (component, passed) ← component.start tag
    return .standing (.inSchema schema (some component)) passed
  | outside =>
    if tag.localName = "schema" then do return .standing (← enterSchema outside tag) false
    else
      match outside with
      | .inSchema schema _ => do
        match ← Component.ofTag? schema tag with
        | some component => return .standing (.inSchema schema (some component)) false
        | none => return .standing outside true
      | .beforeSchema => .ok (.standing outside true)

/-- Takes an empty element whose surroundings are not passed over. -/
def empty (place : Place) (tag : Tag) : Except SchemaFault ReadingState :=
  match place with
  | .inSchema schema (some component) => do
    return .standing (.inSchema schema (some (← component.empty tag))) false
  | outside =>
    if tag.localName = "schema" then do return .standing (← enterSchema outside tag) false
    else
      match outside with
      | .inSchema schema _ => do
        match ← Component.ofTag? schema tag with
        | some component => return .standing (.inSchema (component.addTo schema) none) false
        | none => return .standing outside false
      | .beforeSchema => .ok (.standing outside false)

def finish : Place → Place
  | .inSchema schema (some component) =>
    match component.finish? with
    | some component => .inSchema schema (some component)
    | none => .inSchema (component.addTo schema) none
  | outside => outside

def step (state : ReadingState) : Event → Except SchemaFault ReadingState
  | .passive => .ok state
  | .start tag =>
    match state.passedOver with
    | 0 => start state.place tag
    | depth + 1 => .ok { state with passedOver := depth + 2 }
  | .empty tag =>
    match state.passedOver with
    | 0 => empty state.place tag
    | _ => .ok state
  | .finish =>
    match state.passedOver with
    | 0 => .ok { state with place := finish state.place }
    | depth + 1 => .ok { state with passedOver := depth }

/-- What has been read when the document ends. -/
def conclude (state : ReadingState) : Except SchemaFault Schema :=
  match state.place with
  | .beforeSchema => .error (.malformed .noSchema)
  | .inSchema schema none => .ok schema
  | .inSchema _ (some component) => .error (.malformed (.unterminated component.innermost))

def run (state : ReadingState) (events : List Event) : Except SchemaFault ReadingState :=
  events.foldlM step state

theorem run_nil (state : ReadingState) : state.run [] = .ok state := rfl

theorem run_cons (state : ReadingState) (event : Event) (events : List Event) :
    state.run (event :: events) = (state.step event).bind fun next => next.run events := by
  rfl

theorem run_append (state : ReadingState) (first second : List Event) :
    state.run (first ++ second) = (state.run first).bind fun next => next.run second := by
  simp only [run, List.foldlM_append]
  rfl

end ReadingState

/-- The schema that a stream of events describes. -/
def Schema.ofStream (stream : EventStream) : Except SchemaFault Schema := do
  let state ← ReadingState.run {} stream.events
  match stream.fault with
  | some fault => .error (.document fault)
  | none => state.conclude

def Schema.ofText (text : String) : Except SchemaFault Schema :=
  Schema.ofStream (.ofText text)

end SchemaBinding
