/-
**Particles are read back.**

A particle that is read adds itself to the content around it, whatever is open there. Groups and
complex types take tags for their content alike, and what both have in common is said once
(`Hosts`); the induction is then on the particle and on the list of particles below it
(`reads_particle`, `reads_particles`).
-/

import SchemaBinding.Proofs.Document.Passage

namespace SchemaBinding

open Markup (Event Tag)

namespace OpenContent

theorem add_opened_ne_nil {content : OpenContent} (opened : content.opened ≠ [])
    (particle : Particle) : (content.add particle).opened ≠ [] := by
  unfold add
  cases inner : content.opened with
  | nil => exact absurd inner opened
  | cons innermost outer => exact List.cons_ne_nil _ _

/-- Adding particles fills the innermost compositor. -/
theorem foldl_add_opened (particles : List Particle) (inner : OpenCompositor)
    (outer : List OpenCompositor) (done : List Particle) :
    particles.foldl add { particles := done, opened := inner :: outer } =
      { particles := done
        opened := { inner with particles := inner.particles ++ particles } :: outer } := by
  induction particles generalizing inner with
  | nil => rw [List.append_nil]; rfl
  | cons particle rest ih =>
    rw [List.foldl_cons]
    show rest.foldl add { particles := done, opened :=
      { inner with particles := inner.particles ++ [particle] } :: outer } = _
    rw [ih]
    simp [List.append_assoc]

/-- Without open compositors the particles are those of the content itself. -/
theorem foldl_add_particles (particles done : List Particle) :
    particles.foldl add { particles := done } = { particles := done ++ particles } := by
  induction particles generalizing done with
  | nil => rw [List.append_nil]; rfl
  | cons particle rest ih =>
    rw [List.foldl_cons]
    show rest.foldl add { particles := done ++ [particle] } = _
    rw [ih]
    simp [List.append_assoc]

/-- **Closing a compositor adds it with the particles that were read inside it.** -/
theorem close?_foldl_add (content : OpenContent) (occurs : Occurs) (kind : Compositor)
    (particles : List Particle) :
    (particles.foldl add (content.openCompositor occurs kind)).close? =
      some (content.add (.compositor occurs kind particles)) := by
  unfold openCompositor
  rw [foldl_add_opened]
  rfl

theorem start_compositor (style : TagStyle) (content : OpenContent) (occurs : Occurs)
    (kind : Compositor) :
    content.start (style.tag kind.word occurs.written) =
      .ok (content.openCompositor occurs kind, false) := by
  have bounds := occurs_tag style kind.word occurs [] kind.word
  rw [List.append_nil] at bounds
  unfold start
  rw [style.localName_compositor, Compositor.read?_word]
  simp only [bounds]
  rfl

theorem empty_leaf {style : TagStyle} {word : String} {attributes : List (String × String)}
    {particle : Particle} (bare : ':' ∉ word.toList) (other : Compositor.read? word = none)
    (leaf : Particle.leafOfTag? (style.tag word attributes) = .ok (some particle))
    (content : OpenContent) :
    content.empty (style.tag word attributes) = .ok (content.add particle) := by
  unfold empty
  rw [style.localName_tag word bare, other]
  simp only [leaf]
  rfl

end OpenContent

/-! ### Particles -/

/-- **A component takes tags for its content**, as long as the content is in a certain state. -/
structure Hosts (host : OpenContent → Component) (ready : OpenContent → Prop) : Prop where
  nested : ∀ content, content.opened ≠ [] → ready content
  kept : ∀ content particle, ready content → ready (content.add particle)
  start : ∀ content tag, ready content → (host content).start tag =
    (content.start tag).map fun (content, passed) => (host content, passed)
  empty : ∀ content tag, ready content → (host content).empty tag = (content.empty tag).map host
  finish : ∀ content closed, content.close? = some closed →
    (host content).finish? = some (host closed)

/-- A group takes every tag for its content. -/
theorem hosts_group (name : String) : Hosts (.group name) fun _ => True where
  nested _ _ := trivial
  kept _ _ _ := trivial
  start _ _ _ := rfl
  empty _ _ _ := rfl
  finish content closed close := by simp [Component.finish?, close]

/-- A complex type takes the tags inside a compositor for its content. -/
theorem hosts_complexType (depth : Nat) (simple : Bool) (type : ComplexType)
    (owner : Option TopLevelElement) :
    Hosts (fun content => .complexType depth simple type content owner)
      fun content => content.opened ≠ [] where
  nested _ opened := opened
  kept _ particle opened := OpenContent.add_opened_ne_nil opened particle
  start content tag opened := by simp [Component.start, opened]
  empty content tag opened := by simp [Component.empty, opened]
  finish content closed close := by simp [Component.finish?, close]

section

variable {style : TagStyle} {schema : Schema} {host : OpenContent → Component}
  {ready : OpenContent → Prop}

theorem reads_leaf (hosts : Hosts host ready) {word : String}
    {attributes : List (String × String)} {particle : Particle} (bare : ':' ∉ word.toList)
    (other : Compositor.read? word = none)
    (leaf : Particle.leafOfTag? (style.tag word attributes) = .ok (some particle))
    {content : OpenContent} (isReady : ready content) :
    Reads [.empty (style.tag word attributes)] (.inSchema schema (some (host content)))
      (.inSchema schema (some (host (content.add particle)))) := by
  refine Reads.empty ?_
  rw [hosts.empty content _ isReady, OpenContent.empty_leaf bare other leaf content]
  rfl

/-- **A compositor**, from what is read inside it. -/
theorem reads_compositor (hosts : Hosts host ready) {content : OpenContent} {occurs : Occurs}
    {kind : Compositor} {particles : List Particle}
    (opens : (host content).start (style.tag kind.word occurs.written) =
      .ok (host (content.openCompositor occurs kind), false))
    (inside : Reads (Particle.writtenAll style particles)
      (.inSchema schema (some (host (content.openCompositor occurs kind))))
      (.inSchema schema
        (some (host (particles.foldl .add (content.openCompositor occurs kind)))))) :
    Reads ((Particle.compositor occurs kind particles).written style)
      (.inSchema schema (some (host content)))
      (.inSchema schema (some (host (content.add (.compositor occurs kind particles))))) := by
  have closes := hosts.finish _ _ (content.close?_foldl_add occurs kind particles)
  rw [Particle.written]
  exact Reads.around (.start opens) inside (.finish closes)

mutual

/-- **A particle is read and added to the content.** -/
theorem reads_particle (hosts : Hosts host ready) :
    ∀ (particle : Particle) (content : OpenContent), particle.Writable → ready content →
      Reads (particle.written style) (.inSchema schema (some (host content)))
        (.inSchema schema (some (host (content.add particle))))
  | .element occurs decl, content, writable, isReady => by
    rw [Particle.Writable] at writable
    rw [Particle.written]
    exact reads_leaf hosts (by decide) rfl (leafOfTag?_element style writable occurs) isReady
  | .groupRef occurs name, content, writable, isReady => by
    rw [Particle.Writable] at writable
    rw [Particle.written]
    exact reads_leaf hosts (by decide) rfl (leafOfTag?_groupRef style writable occurs) isReady
  | .wildcard occurs, content, _, isReady => by
    rw [Particle.written]
    exact reads_leaf hosts (by decide) rfl (leafOfTag?_wildcard style occurs) isReady
  | .compositor occurs kind particles, content, writable, isReady => by
    rw [Particle.Writable] at writable
    refine reads_compositor hosts ?_ ?_
    · rw [hosts.start content _ isReady, OpenContent.start_compositor]
      rfl
    · have opened := hosts.nested (content.openCompositor occurs kind) (List.cons_ne_nil _ _)
      exact reads_particles hosts particles _ writable opened

theorem reads_particles (hosts : Hosts host ready) :
    ∀ (particles : List Particle) (content : OpenContent), Particle.AllWritable particles →
      ready content →
      Reads (Particle.writtenAll style particles) (.inSchema schema (some (host content)))
        (.inSchema schema (some (host (particles.foldl .add content))))
  | [], _, _, _ => by
    rw [Particle.writtenAll]
    exact Reads.nil _
  | particle :: rest, content, writable, isReady => by
    rw [Particle.AllWritable] at writable
    rw [Particle.writtenAll, List.foldl_cons]
    have first := reads_particle hosts particle content writable.1 isReady
    have later := hosts.kept content particle isReady
    exact first.append (reads_particles hosts rest _ writable.2 later)

end

end

end SchemaBinding
