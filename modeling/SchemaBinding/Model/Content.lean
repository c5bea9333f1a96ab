/-
**The leaves of a content model.**

The content of a complex type is flattened: what counts are its leaves in document order, each with
the knowledge whether it may be absent and whether it may occur more than once. Both follow from the
path to the leaf. A leaf may be absent if some particle on the path may, or if it is one branch of a
choice; it may be repeated if some particle on the path may. A reference to a group is replaced by
the particles of the group, up to sixteen times on one path. Any other reference is a leaf itself,
so flattening ends even if groups refer to each other in a circle.
-/

import SchemaBinding.Model.TypeReference

namespace SchemaBinding

/-- What a path through a content model says about the leaf at its end. -/
structure Presence where
  optional : Bool := false
  repeated : Bool := false
deriving DecidableEq, Repr, Inhabited

namespace Presence

def through (path : Presence) (occurs : Occurs) : Presence where
  optional := path.optional || occurs.isOptional
  repeated := path.repeated || occurs.isRepeated

def into (path : Presence) (kind : Compositor) : Presence :=
  { path with optional := path.optional || kind == .choice }

end Presence

/-- A leaf: an element, a wildcard or a reference that is not replaced, and its path. -/
structure Leaf where
  particle : Particle
  path : Presence
deriving Repr, Inhabited

/-- What replaces the references to groups: for some names, the leaves behind a path. -/
abbrev GroupExpansion := String → Option (Presence → List Leaf)

mutual

/-- The leaves of a particle behind a path. -/
def Particle.leaves (expand : GroupExpansion) (path : Presence) : Particle → List Leaf
  | .element occurs decl => [⟨.element occurs decl, path.through occurs⟩]
  | .wildcard occurs => [⟨.wildcard occurs, path.through occurs⟩]
  | .compositor occurs kind particles =>
    Particle.leavesOfAll expand ((path.through occurs).into kind) particles
  | .groupRef occurs name =>
    match expand name with
    | some leaves => leaves (path.through occurs)
    | none => [⟨.groupRef occurs name, path.through occurs⟩]

def Particle.leavesOfAll (expand : GroupExpansion) (path : Presence) : List Particle → List Leaf
  | [] => []
  | particle :: rest =>
    Particle.leaves expand path particle ++ Particle.leavesOfAll expand path rest

end

namespace Schema

/-- The replacement of references on a path that may take so many more of them. -/
def expandGroup (schema : Schema) : (budget : Nat) → GroupExpansion
  | 0 => fun _ => none
  | budget + 1 => fun name =>
    (schema.group? name).map fun group path =>
      Particle.leavesOfAll (schema.expandGroup budget) path group.particles

def leaves (schema : Schema) (particles : List Particle) : List Leaf :=
  Particle.leavesOfAll (schema.expandGroup maxResolveDepth) {} particles

end Schema

theorem Particle.leavesOfAll_append (expand : GroupExpansion) (path : Presence)
    (first second : List Particle) :
    leavesOfAll expand path (first ++ second) =
      leavesOfAll expand path first ++ leavesOfAll expand path second := by
  induction first with
  | nil => rfl
  | cons particle rest ih => rw [List.cons_append, leavesOfAll, leavesOfAll, ih, List.append_assoc]

end SchemaBinding
