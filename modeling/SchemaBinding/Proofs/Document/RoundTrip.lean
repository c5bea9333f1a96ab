/-
**A schema is read back from its document.**

A component that is read adds itself to the schema, and between two components only the schema so
far is known to the reader. Names that differ keep it from seeing duplicates. Inside a complex type
particles come first, then attributes, which stand in an extension if the type has simple content.

`ofStream_written`: the schema read from its document is the schema.
-/

import SchemaBinding.Proofs.Document.Particles

namespace SchemaBinding

open Markup (Event EventStream Tag)

/-! ### Complex types -/

section

variable (style : TagStyle) (schema : Schema) (owner : Option TopLevelElement)

/-- A particle that stands in a complex type without a compositor around it. -/
theorem reads_free (type : ComplexType) {particle : Particle} (free : particle.standsFree = true)
    (writable : particle.Writable) (done : List Particle) :
    Reads (particle.written style)
      (.inSchema schema (some (.complexType 0 false type { particles := done } owner)))
      (.inSchema schema
        (some (.complexType 0 false type { particles := done ++ [particle] } owner))) := by
  cases particle with
  | element occurs decl => exact nomatch free
  | wildcard occurs => exact nomatch free
  | groupRef occurs name =>
    have word := style.localName_tag "group" (by decide)
    rw [Particle.Writable] at writable
    rw [Particle.written]
    refine Reads.empty ?_
    simp only [Component.empty, word, groupRefOfTag_written style writable]
    rfl
  | compositor occurs kind particles =>
    have hosts := hosts_complexType 0 false type owner
    rw [Particle.Writable] at writable
    refine reads_compositor hosts ?_ ?_
    · simp only [Component.start, style.localName_compositor, Compositor.read?_word,
        OpenContent.start_compositor]
      rfl
    · exact reads_particles hosts particles _ writable (List.cons_ne_nil _ _)

theorem reads_allFree (type : ComplexType) (particles : List Particle)
    (free : ∀ particle ∈ particles, particle.standsFree = true)
    (writable : Particle.AllWritable particles) :
    Reads (Particle.writtenAll style particles)
      (.inSchema schema (some (.complexType 0 false type {} owner)))
      (.inSchema schema (some (.complexType 0 false type { particles } owner))) := by
  rw [Particle.writtenAll_eq]
  refine Reads.each _ (fun done => .inSchema schema
    (some (.complexType 0 false type { particles := done } owner))) particles ?_
  intro done particle _ _ member
  exact reads_free style schema owner type (free particle member) (.of_mem writable member) done

/-- The attributes of a complex type are read in their order, at whatever depth. -/
theorem reads_attributes (depth : Nat) (simple : Bool) (type : ComplexType)
    (particles : List Particle) (attributes : List AttributeDecl)
    (named : ∀ decl ∈ attributes, decl.name ≠ "") :
    Reads (attributes.map fun decl => .empty (style.tag "attribute" decl.written))
      (.inSchema schema (some (.complexType depth simple { type with attributes := [] }
        { particles } owner)))
      (.inSchema schema (some (.complexType depth simple { type with attributes }
        { particles } owner))) := by
  refine Reads.eachEmpty _ (fun done => .inSchema schema
    (some (.complexType depth simple { type with attributes := done } { particles } owner)))
    attributes ?_
  intro done decl member
  have word := style.localName_tag "attribute" (by decide)
  have declared := ofTag_written_attribute style (named decl member) "attribute"
  refine Reads.empty ?_
  simp only [Component.empty, Component.declare, word, declared]
  rfl

/-- **What stands inside the tag of a complex type is read as the type**, but for its particles,
which are still those of the content. -/
theorem reads_body {type : ComplexType} (writable : type.Writable) :
    ∃ simple, Reads (type.writtenBody style)
      (.inSchema schema (some (.complexType 0 false { name := type.name } {} owner)))
      (.inSchema schema (some (.complexType 0 simple { type with particles := [] }
        { particles := type.particles } owner))) := by
  obtain ⟨name, particles, attributes, simpleContent⟩ := type
  have content := reads_allFree style schema owner { name } particles writable.free
    writable.particles
  unfold ComplexType.writtenBody
  cases simpleContent with
  | none =>
    have declared := reads_attributes style schema owner 0 false { name } particles attributes
      writable.attributes
    exact ⟨false, content.append declared⟩
  | some base =>
    have declared := reads_attributes style schema owner 2 true
      { name, simpleContent := some base } particles attributes writable.attributes
    have simple : Component.start (.complexType 0 false { name } { particles } owner)
        (style.tag "simpleContent" []) =
          .ok (.complexType 1 true { name } { particles } owner, false) := by
      have word := style.localName_tag "simpleContent" (by decide)
      simp only [Component.start, word]
      rfl
    have derived : Component.start (.complexType 1 true { name } { particles } owner)
        (style.tag "extension" [("base", base)]) =
          .ok (.complexType 2 true { name, simpleContent := some base } { particles } owner,
            false) := by
      have word := style.localName_tag "extension" (by decide)
      simp only [Component.start, word]
      rfl
    have extension := Reads.around (.start derived) declared (.finish rfl)
    exact ⟨true, content.append (Reads.around (.start simple) extension (.finish rfl))⟩

/-! ### Components -/

theorem reads_enumerations (name base : String) (enumerations : List String) :
    Reads (enumerations.map fun value => .empty (style.tag "enumeration" [("value", value)]))
      (.inSchema schema (some (.simpleType 1 { name, base })))
      (.inSchema schema (some (.simpleType 1 { name, base, enumerations }))) := by
  refine Reads.eachEmpty _ (fun done => .inSchema schema
    (some (.simpleType 1 { name, base, enumerations := done }))) enumerations ?_
  intro done value _
  have word := style.localName_tag "enumeration" (by decide)
  refine Reads.empty ?_
  simp only [Component.empty, word]
  rfl

/-- **A simple type is read and added to the schema**, if there is no type of its name. -/
theorem reads_simpleType {type : SimpleType} (fresh : schema.hasType type.name = false) :
    Reads (type.written style) (.inSchema schema none)
      (.inSchema (schema.addSimpleType type) none) := by
  obtain ⟨name, base, enumerations⟩ := type
  have found : Component.ofTag? schema (style.tag "simpleType" [("name", name)]) =
      .ok (some (.simpleType 0 { name })) := by
    have word := style.localName_tag "simpleType" (by decide)
    simp only [Component.ofTag?, word, required_name, bind, Except.bind, fresh]
    rfl
  have restricted : Component.start (.simpleType 0 { name })
      (style.tag "restriction" [("base", base)]) = .ok (.simpleType 1 { name, base }, false) := by
    have word := style.localName_tag "restriction" (by decide)
    simp only [Component.start, word]
    rfl
  have values := reads_enumerations style schema name base enumerations
  have restriction := Reads.around (.start restricted) values (.finish rfl)
  exact Reads.around (.begun (by decide) (by decide) found) restriction (.complete rfl)

/-- **A complex type is read and added to the schema**, if there is no type of its name. -/
theorem reads_complexType {type : ComplexType} (fresh : schema.hasType type.name = false)
    (writable : type.Writable) :
    Reads (type.written style) (.inSchema schema none)
      (.inSchema (schema.addComplexType type) none) := by
  have found : Component.ofTag? schema (style.tag "complexType" [("name", type.name)]) =
      .ok (some (.complexType 0 false { name := type.name } {} none)) := by
    have word := style.localName_tag "complexType" (by decide)
    simp only [Component.ofTag?, word, required_name, bind, Except.bind, fresh]
    rfl
  obtain ⟨simple, body⟩ := reads_body style schema none writable
  exact Reads.around (.begun (by decide) (by decide) found) body (.complete rfl)

/-- **A group is read and added to the schema**, if there is no group of its name. -/
theorem reads_group {group : ModelGroup} (fresh : schema.group? group.name = none)
    (writable : Particle.AllWritable group.particles) :
    Reads (group.written style) (.inSchema schema none)
      (.inSchema (schema.addGroup group) none) := by
  have found : Component.ofTag? schema (style.tag "group" [("name", group.name)]) =
      .ok (some (.group group.name {})) := by
    have word := style.localName_tag "group" (by decide)
    simp only [Component.ofTag?, word, required_name, bind, Except.bind, fresh]
    rfl
  have particles : Reads (Particle.writtenAll style group.particles)
      (.inSchema schema (some (.group group.name {})))
      (.inSchema schema (some (.group group.name { particles := group.particles }))) := by
    have added := OpenContent.foldl_add_particles group.particles []
    rw [List.nil_append] at added
    rw [← added]
    exact reads_particles (hosts_group group.name) group.particles {} writable trivial
  exact Reads.around (.begun (by decide) (by decide) found) particles (.complete rfl)

/-- **A top-level element is read and added to the schema.** -/
theorem reads_element {element : TopLevelElement} (writable : element.Writable) :
    Reads (element.written style) (.inSchema schema none)
      (.inSchema (schema.addElement element) none) := by
  obtain ⟨decl, anonymousType⟩ := element
  have found : Component.ofTag? schema (style.tag "element" decl.written) =
      .ok (some (.element { decl })) := by
    have word := style.localName_tag "element" (by decide)
    simp only [Component.ofTag?, word, ofTag_written_element style writable.decl]
    rfl
  have begun : Reads [.start (style.tag "element" decl.written)] (.inSchema schema none)
      (.inSchema schema (some (.element { decl }))) := .begun (by decide) (by decide) found
  cases anonymousType with
  | none => exact Reads.around begun (Reads.nil _) (.complete rfl)
  | some type =>
    obtain ⟨named, typeWritable⟩ := writable.anonymous type rfl
    have opened : Component.start (.element { decl }) (style.tag "complexType" []) =
        .ok (.complexType 0 false { name := type.name } {} (some { decl }), false) := by
      have word := style.localName_tag "complexType" (by decide)
      simp only [Component.start, word, named]
      rfl
    obtain ⟨simple, body⟩ := reads_body style schema (some { decl }) typeWritable
    have inside := Reads.around (.start opened) body (.finish rfl)
    exact Reads.around begun inside (.complete rfl)

end

/-! ### Documents -/

/-- In a list without duplicates no entry stands in front of itself. -/
theorem not_mem_of_nodup {before after : List String} {name : String}
    (distinct : (before ++ name :: after).Nodup) : name ∉ before := fun member =>
  (List.nodup_append.mp distinct).2.2 name member name List.mem_cons_self rfl

theorem hasType_eq_false {schema : Schema} {name : String}
    (simple : name ∉ schema.simpleTypes.map (·.name))
    (complex : name ∉ schema.complexTypes.map (·.name)) : schema.hasType name = false := by
  simp only [List.mem_map, not_exists, not_and] at simple complex
  simpa [Schema.hasType] using ⟨simple, complex⟩

theorem group?_eq_none {schema : Schema} {name : String}
    (fresh : name ∉ schema.groups.map (·.name)) : schema.group? name = none := by
  simp only [List.mem_map, not_exists, not_and] at fresh
  simpa [Schema.group?] using fresh

/-- The tag of a schema is entered once, and its end tag leads nowhere else. -/
theorem reads_schema (style : TagStyle) {targetNamespace : Option String} {inner : List Event}
    {schema : Schema}
    (inside : Reads inner (.inSchema { targetNamespace } none) (.inSchema schema none)) :
    Reads (style.around "schema" (attributeIfAny "targetNamespace" targetNamespace) inner)
      .beforeSchema (.inSchema schema none) := by
  refine Reads.around (Reads.single ?_) inside (Reads.single rfl)
  have word := style.localName_tag "schema" (by decide)
  rw [step_start]
  unfold ReadingState.start
  simp only [word, if_true, ReadingState.enterSchema, attribute?_tag]
  cases targetNamespace <;> rfl

/-- **A schema is read back from its document**: every schema that can be written is the one that
its document describes, whatever prefix the tags have. -/
theorem ofStream_written (style : TagStyle) {schema : Schema} (writable : schema.Writable) :
    Schema.ofStream (.ofEvents (schema.written style)) = .ok schema := by
  obtain ⟨targetNamespace, simpleTypes, complexTypes, groups, elements⟩ := schema
  obtain ⟨types, groupNames, complexWritable, groupsWritable, elementsWritable⟩ := writable
  -- Each kind is read into the schema that the kinds before it have left.
  have simple := Reads.each (SimpleType.written style)
    (fun done => .inSchema { targetNamespace, simpleTypes := done } none) simpleTypes
    fun done type rest whole _ => by
      simp only [whole, List.map_append, List.map_cons, List.append_assoc,
        List.cons_append] at types
      exact reads_simpleType style _ (hasType_eq_false (not_mem_of_nodup types) List.not_mem_nil)
  have complex := Reads.each (ComplexType.written style)
    (fun done => .inSchema { targetNamespace, simpleTypes, complexTypes := done } none) complexTypes
    fun done type rest whole member => by
      simp only [whole, List.map_append, List.map_cons, ← List.append_assoc] at types
      have fresh := not_mem_of_nodup types
      rw [List.mem_append, not_or] at fresh
      exact reads_complexType style _ (hasType_eq_false fresh.1 fresh.2)
        (complexWritable type member)
  have grouped := Reads.each (ModelGroup.written style)
    (fun done => .inSchema { targetNamespace, simpleTypes, complexTypes, groups := done } none)
    groups fun done group rest whole member => by
      simp only [whole, List.map_append, List.map_cons] at groupNames
      have fresh := not_mem_of_nodup groupNames
      exact reads_group style _ (group?_eq_none fresh) (groupsWritable group member)
  have declared := Reads.each (TopLevelElement.written style)
    (fun done => .inSchema
      { targetNamespace, simpleTypes, complexTypes, groups, elements := done } none)
    elements fun _ element _ _ member => reads_element style _ (elementsWritable element member)
  have whole := reads_schema style (((simple.append complex).append grouped).append declared)
  unfold Reads at whole
  unfold Schema.ofStream Schema.written EventStream.ofEvents
  simp only [bind, Except.bind, whole]
  rfl

def invoiceSchema : Schema where
  targetNamespace := some "urn:invoice"
  simpleTypes := [{ name := "currency", enumerations := ["EUR", "USD"] }]
  complexTypes := [
    { name := "amount"
      attributes := [{ name := "currency", typeName := some "currency", use := .required }]
      simpleContent := some "xs:decimal" },
    { name := "invoice"
      particles := [
        .groupRef {} "parties",
        .compositor { max := .unbounded } .choice [
          .element {} { name := "total", typeName := some "amount" },
          .compositor { min := 0, max := .bounded 4294967295 } .sequence [
            .element {} { name := "note", isReference := true },
            .wildcard { min := 0 }]]] }]
  groups := [{
    name := "parties"
    particles := [.element {} { name := "seller" }, .element { min := 0 } { name := "buyer" }] }]
  elements := [{
    decl := { name := "note", nillable := true }
    anonymousType := some {
      name := "note"
      particles := [.compositor {} .all []]
      attributes := [{ name := "lang", fixedValue := some "en", use := .prohibited }] } }]

theorem invoiceSchema_writable : invoiceSchema.Writable where
  types := by decide
  groupNames := by decide
  complexTypes := by
    refine List.forall_mem_cons.mpr ⟨⟨trivial, nofun, by decide⟩, ?_⟩
    refine List.forall_mem_singleton.mpr ⟨?_, ?_, nofun⟩
    · have total : ElementDecl.Writable { name := "total", typeName := some "amount" } :=
        ⟨by decide, nofun⟩
      have note : ElementDecl.Writable { name := "note", isReference := true } :=
        ⟨by decide, fun _ => by decide⟩
      simp only [Particle.AllWritable, Particle.Writable]
      exact ⟨by decide, ⟨total, ⟨note, trivial, trivial⟩, trivial⟩, trivial⟩
    · exact List.forall_mem_cons.mpr ⟨rfl, List.forall_mem_singleton.mpr rfl⟩
  groups := by
    refine List.forall_mem_singleton.mpr ?_
    simp only [Particle.AllWritable, Particle.Writable]
    exact ⟨⟨by decide, nofun⟩, ⟨by decide, nofun⟩, trivial⟩
  elements := by
    refine List.forall_mem_singleton.mpr ⟨⟨by decide, nofun⟩, ?_⟩
    rintro type ⟨⟩
    refine ⟨rfl, ?_, List.forall_mem_singleton.mpr rfl, by decide⟩
    simp only [Particle.AllWritable, Particle.Writable]
    exact ⟨trivial, trivial⟩

def usualStyle : TagStyle where
  before := some "xs"
  plain := by simp

theorem ofStream_invoiceSchema :
    invoiceSchema.Writable ∧
      Schema.ofStream (.ofEvents (invoiceSchema.written usualStyle)) = .ok invoiceSchema :=
  ⟨invoiceSchema_writable, ofStream_written usualStyle invoiceSchema_writable⟩

end SchemaBinding
