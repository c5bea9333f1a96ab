/-
**Instances of a content model.**

An instance says how often each leaf of a content model is counted. A particle is gone through in
rounds, as many as its occurrences allow, and every round is an instance of its term: a leaf is
counted once, a sequence takes an instance of every particle in it and a choice of exactly one, and
a reference that is replaced takes an instance of every particle of its group
(`Particle.Instance`). A count adds up over the rounds.

Leaves are told apart by their places (`Position`), since a content model may hold the same element
twice. `Schema.placedLeaves` lists the leaves with their places in document order, references
replaced as often as one path allows.
-/

import SchemaBinding.Model.Content

namespace SchemaBinding

/-- The place of a leaf: the number of a particle in its list, and then the place below that
particle, which is empty for the leaf itself. -/
abbrev Position := List Nat

/-- How often the leaf at each place is counted. -/
abbrev LeafCount := Position → Nat

namespace LeafCount

def single : LeafCount
  | [] => 1
  | _ :: _ => 0

def nothing : LeafCount := fun _ => 0

/-- The counts of a list of particles, from those of its first particle and of the rest. -/
def beside (first rest : LeafCount) : LeafCount
  | [] => 0
  | 0 :: position => first position
  | (index + 1) :: position => rest (index :: position)

/-- The counts of all rounds together. -/
def total : List LeafCount → LeafCount
  | [] => nothing
  | round :: rest => fun position => round position + total rest position

end LeafCount

/-- The occurrences allow so many rounds. -/
def Occurs.Allows (occurs : Occurs) (rounds : Nat) : Prop :=
  occurs.min.toNat ≤ rounds ∧
    match occurs.max with
    | .bounded count => rounds ≤ count.toNat
    | .unbounded => True

mutual

/-- **The instances of a particle**, on a path that may replace so many references. -/
inductive Particle.Instance (schema : Schema) : (budget : Nat) → Particle → LeafCount → Prop
  | rounds {budget : Nat} {particle : Particle} {rounds : List LeafCount}
      (allowed : particle.occurs.Allows rounds.length)
      (each : ∀ round ∈ rounds, Particle.Round schema budget particle round) :
      Particle.Instance schema budget particle (.total rounds)

/-- The instances of the term of a particle. -/
inductive Particle.Round (schema : Schema) : (budget : Nat) → Particle → LeafCount → Prop
  | element {budget : Nat} {occurs : Occurs} {decl : ElementDecl} :
      Particle.Round schema budget (.element occurs decl) .single
  | wildcard {budget : Nat} {occurs : Occurs} :
      Particle.Round schema budget (.wildcard occurs) .single
  /-- A reference that is not replaced: the path is too long, or there is no such group. -/
  | kept {budget : Nat} {occurs : Occurs} {name : String}
      (stays : budget = 0 ∨ schema.group? name = none) :
      Particle.Round schema budget (.groupRef occurs name) .single
  | replaced {budget : Nat} {occurs : Occurs} {name : String} {group : ModelGroup}
      {count : LeafCount} (found : schema.group? name = some group)
      (all : Particle.AllInstances schema budget group.particles count) :
      Particle.Round schema (budget + 1) (.groupRef occurs name) count
  | every {budget : Nat} {occurs : Occurs} {kind : Compositor} {particles : List Particle}
      {count : LeafCount} (other : kind ≠ .choice)
      (all : Particle.AllInstances schema budget particles count) :
      Particle.Round schema budget (.compositor occurs kind particles) count
  | choice {budget : Nat} {occurs : Occurs} {particles : List Particle} {count : LeafCount}
      (one : Particle.OneInstance schema budget particles count) :
      Particle.Round schema budget (.compositor occurs .choice particles) count

/-- An instance of every particle of a list. -/
inductive Particle.AllInstances (schema : Schema) :
    (budget : Nat) → List Particle → LeafCount → Prop
  | nil {budget : Nat} : Particle.AllInstances schema budget [] .nothing
  | cons {budget : Nat} {particle : Particle} {rest : List Particle} {first later : LeafCount}
      (head : Particle.Instance schema budget particle first)
      (tail : Particle.AllInstances schema budget rest later) :
      Particle.AllInstances schema budget (particle :: rest) (.beside first later)

/-- An instance of exactly one particle of a list. -/
inductive Particle.OneInstance (schema : Schema) :
    (budget : Nat) → List Particle → LeafCount → Prop
  | here {budget : Nat} {particle : Particle} {rest : List Particle} {count : LeafCount}
      (head : Particle.Instance schema budget particle count) :
      Particle.OneInstance schema budget (particle :: rest) (.beside count .nothing)
  | later {budget : Nat} {particle : Particle} {rest : List Particle} {count : LeafCount}
      (tail : Particle.OneInstance schema budget rest count) :
      Particle.OneInstance schema budget (particle :: rest) (.beside .nothing count)

end

/-- An instance of the content of a complex type. -/
def Schema.ContentInstance (schema : Schema) (particles : List Particle) (count : LeafCount) :
    Prop :=
  Particle.AllInstances schema maxResolveDepth particles count

section

variable {schema : Schema} {budget : Nat} {particles : List Particle} {count : LeafCount}

theorem Particle.Instance.once {particle : Particle} {round : LeafCount}
    (single : particle.occurs = {}) (taken : Particle.Round schema budget particle round) :
    Particle.Instance schema budget particle (.total [round]) := by
  refine .rounds ?_ fun other member => ?_
  · rw [single]
    exact ⟨Nat.le_refl 1, Nat.le_refl 1⟩
  · rw [List.mem_singleton.mp member]
    exact taken

theorem Particle.AllInstances.count_nil
    (all : Particle.AllInstances schema budget particles count) : count [] = 0 := by
  cases all <;> rfl

theorem Particle.OneInstance.count_nil
    (one : Particle.OneInstance schema budget particles count) : count [] = 0 := by
  cases one <;> rfl

end

/-! ### The leaves and their places -/

/-- A leaf of a content model, and where it stands. -/
structure PlacedLeaf where
  position : Position
  particle : Particle

namespace PlacedLeaf

def inFirst (leaf : PlacedLeaf) : PlacedLeaf := { leaf with position := 0 :: leaf.position }

def inRest (leaf : PlacedLeaf) : PlacedLeaf :=
  { leaf with
    position := match leaf.position with
      | [] => []
      | index :: position => (index + 1) :: position }

theorem beside_inRest (leaf : PlacedLeaf) (first rest : LeafCount) (none : rest [] = 0) :
    LeafCount.beside first rest leaf.inRest.position = rest leaf.position := by
  unfold inRest
  cases leaf.position with
  | nil => exact none.symm
  | cons index position => rfl

end PlacedLeaf

mutual

/-- The leaves of a particle with their places; `replace` gives those of the groups. -/
def Particle.placedLeaves (replace : String → Option (List PlacedLeaf)) :
    Particle → List PlacedLeaf
  | .element occurs decl => [⟨[], .element occurs decl⟩]
  | .wildcard occurs => [⟨[], .wildcard occurs⟩]
  | .compositor _ _ particles => Particle.placedLeavesOfAll replace particles
  | .groupRef occurs name => (replace name).getD [⟨[], .groupRef occurs name⟩]

def Particle.placedLeavesOfAll (replace : String → Option (List PlacedLeaf)) :
    List Particle → List PlacedLeaf
  | [] => []
  | particle :: rest =>
    (Particle.placedLeaves replace particle).map .inFirst ++
      (Particle.placedLeavesOfAll replace rest).map .inRest

end

namespace Schema

/-- The leaves of the groups with their places, on a path that may replace so many references. -/
def placedGroup (schema : Schema) : (budget : Nat) → String → Option (List PlacedLeaf)
  | 0 => fun _ => none
  | budget + 1 => fun name =>
    (schema.group? name).map fun group =>
      Particle.placedLeavesOfAll (schema.placedGroup budget) group.particles

/-- **The leaves of the content of a complex type with their places**, in document order. -/
def placedLeaves (schema : Schema) (particles : List Particle) : List PlacedLeaf :=
  Particle.placedLeavesOfAll (schema.placedGroup maxResolveDepth) particles

end Schema

/-! ### Different leaves have different places -/

/-- No two leaves stand at the same place. -/
def PlacedLeaf.Apart (leaves : List PlacedLeaf) : Prop :=
  leaves.Pairwise fun leaf other => leaf.position ≠ other.position

section

variable {schema : Schema} {replace : String → Option (List PlacedLeaf)}

theorem PlacedLeaf.inFirst_ne_inRest (leaf other : PlacedLeaf) :
    leaf.inFirst.position ≠ other.inRest.position := by
  unfold inFirst inRest
  cases other.position <;> simp

theorem PlacedLeaf.inRest_position {leaf other : PlacedLeaf} (below : leaf.position ≠ [])
    (beside : other.position ≠ []) (apart : leaf.position ≠ other.position) :
    leaf.inRest.position ≠ other.inRest.position := by
  unfold inRest
  cases here : leaf.position with
  | nil => exact absurd here below
  | cons index position =>
    cases there : other.position with
    | nil => exact absurd there beside
    | cons otherIndex otherPosition =>
      rw [here, there] at apart
      simpa using apart

theorem Particle.placedLeavesOfAll_below (particles : List Particle) :
    ∀ leaf ∈ placedLeavesOfAll replace particles, leaf.position ≠ [] := by
  induction particles with
  | nil => exact nofun
  | cons particle rest ih =>
    intro leaf member
    rw [placedLeavesOfAll, List.mem_append, List.mem_map, List.mem_map] at member
    obtain ⟨first, -, rfl⟩ | ⟨later, inRest, rfl⟩ := member
    · exact List.cons_ne_nil _ _
    · have below := ih later inRest
      unfold PlacedLeaf.inRest
      cases here : later.position with
      | nil => exact absurd here below
      | cons index position => exact List.cons_ne_nil _ _

mutual

theorem Particle.placedLeaves_apart
    (groups : ∀ name leaves, replace name = some leaves → PlacedLeaf.Apart leaves) :
    ∀ particle : Particle, PlacedLeaf.Apart (particle.placedLeaves replace)
  | .element _ _ => List.pairwise_singleton _ _
  | .wildcard _ => List.pairwise_singleton _ _
  | .compositor _ _ particles => by
    rw [Particle.placedLeaves]
    exact Particle.placedLeavesOfAll_apart groups particles
  | .groupRef occurs name => by
    rw [Particle.placedLeaves]
    cases found : replace name with
    | none => exact List.pairwise_singleton _ _
    | some leaves => exact groups name leaves found

theorem Particle.placedLeavesOfAll_apart
    (groups : ∀ name leaves, replace name = some leaves → PlacedLeaf.Apart leaves) :
    ∀ particles : List Particle, PlacedLeaf.Apart (Particle.placedLeavesOfAll replace particles)
  | [] => .nil
  | particle :: rest => by
    have first := Particle.placedLeaves_apart groups particle
    have later := Particle.placedLeavesOfAll_apart groups rest
    have below : ∀ leaf ∈ Particle.placedLeavesOfAll replace rest, leaf.position ≠ [] :=
      Particle.placedLeavesOfAll_below rest
    unfold PlacedLeaf.Apart at first later
    rw [Particle.placedLeavesOfAll, PlacedLeaf.Apart, List.pairwise_append]
    refine ⟨?_, ?_, ?_⟩
    · refine List.pairwise_map.mpr (first.imp fun apart => ?_)
      simpa [PlacedLeaf.inFirst] using apart
    · refine List.pairwise_map.mpr (List.Pairwise.imp_of_mem ?_ later)
      exact fun here there apart =>
        PlacedLeaf.inRest_position (below _ here) (below _ there) apart
    · intro leaf inFirst other inRest
      obtain ⟨_, -, rfl⟩ := List.mem_map.mp inFirst
      obtain ⟨_, -, rfl⟩ := List.mem_map.mp inRest
      exact PlacedLeaf.inFirst_ne_inRest _ _

end

theorem placedGroup_apart (schema : Schema) (budget : Nat) :
    ∀ name leaves, schema.placedGroup budget name = some leaves → PlacedLeaf.Apart leaves := by
  induction budget with
  | zero => exact nofun
  | succ budget ih =>
    intro name leaves found
    obtain ⟨group, -, rfl⟩ := Option.map_eq_some_iff.mp found
    exact Particle.placedLeavesOfAll_apart ih group.particles

/-- **No two leaves of a content model have the same place.** -/
theorem placedLeaves_apart (schema : Schema) (particles : List Particle) :
    PlacedLeaf.Apart (schema.placedLeaves particles) :=
  Particle.placedLeavesOfAll_apart (placedGroup_apart schema maxResolveDepth) particles

end

end SchemaBinding
