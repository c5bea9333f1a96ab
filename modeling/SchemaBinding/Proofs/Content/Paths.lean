/-
**Paths through a content model.**

A path leads from the content of a complex type down to a leaf, one particle at a time: into the
particles of a compositor, and into those of a group where a reference is replaced. It keeps the
particles that it passes, each with its number in its list, so there may be many paths to the same
element, and none are equal. `Particle.Leads` says which paths there are, and how many references
one path may replace.

`Schema.leafPaths` lists the paths. It lists exactly those that there are (`mem_leafPaths_iff`),
each once and in document order (`leafPaths_sorted`), and the leaves of the content are those at
their ends, with what the particles on the path say of them (`leaves_at_ends`).
-/

import SchemaBinding.Model.Content
import Mathlib.Data.List.Forall2

namespace SchemaBinding

/-- One step down into a list of particles: a particle, and its number in the list. -/
structure Step where
  index : Nat
  particle : Particle

abbrev Path := List Step

/-- Where a path stands in the document. -/
def Path.place (path : Path) : List Nat := path.map Step.index

/-- **A path leads from a particle down to a leaf**, and replaces no more references than it may.
The empty path leads to the particle itself. -/
inductive Particle.Leads (schema : Schema) : (budget : Nat) → Particle → Path → Prop
  | element {budget : Nat} {occurs : Occurs} {decl : ElementDecl} :
      Particle.Leads schema budget (.element occurs decl) []
  | wildcard {budget : Nat} {occurs : Occurs} :
      Particle.Leads schema budget (.wildcard occurs) []
  /-- A reference is a leaf if the path may not replace it, or if there is no such group. -/
  | kept {budget : Nat} {occurs : Occurs} {name : String}
      (stays : budget = 0 ∨ schema.group? name = none) :
      Particle.Leads schema budget (.groupRef occurs name) []
  | replaced {budget index : Nat} {occurs : Occurs} {name : String} {group : ModelGroup}
      {inner : Particle} {path : Path} (found : schema.group? name = some group)
      (here : group.particles[index]? = some inner)
      (below : Particle.Leads schema budget inner path) :
      Particle.Leads schema (budget + 1) (.groupRef occurs name) (⟨index, inner⟩ :: path)
  | within {budget index : Nat} {occurs : Occurs} {kind : Compositor} {particles : List Particle}
      {inner : Particle} {path : Path} (here : particles[index]? = some inner)
      (below : Particle.Leads schema budget inner path) :
      Particle.Leads schema budget (.compositor occurs kind particles) (⟨index, inner⟩ :: path)

/-- **A path through the content of a complex type**, from one of its particles down to a leaf. -/
inductive Schema.LeafPath (schema : Schema) (particles : List Particle) : Path → Prop
  | into {index : Nat} {particle : Particle} {path : Path}
      (here : particles[index]? = some particle)
      (below : particle.Leads schema maxResolveDepth path) :
      Schema.LeafPath schema particles (⟨index, particle⟩ :: path)

/-! ### All paths -/

mutual

/-- The paths from a particle down to its leaves; `replace` gives those into the groups. -/
def Particle.pathsBelow (replace : String → Option (List Path)) : Particle → List Path
  | .element _ _ => [[]]
  | .wildcard _ => [[]]
  | .compositor _ _ particles => Particle.pathsInto replace 0 particles
  | .groupRef _ name => (replace name).getD [[]]

/-- The paths into a list of particles, whose first one has the given number. -/
def Particle.pathsInto (replace : String → Option (List Path)) (index : Nat) :
    List Particle → List Path
  | [] => []
  | particle :: rest =>
    (Particle.pathsBelow replace particle).map (⟨index, particle⟩ :: ·) ++
      Particle.pathsInto replace (index + 1) rest

end

namespace Schema

/-- The paths into the groups that may replace so many references. -/
def groupPaths (schema : Schema) : (budget : Nat) → String → Option (List Path)
  | 0 => fun _ => none
  | budget + 1 => fun name =>
    (schema.group? name).map fun group =>
      Particle.pathsInto (schema.groupPaths budget) 0 group.particles

/-- **The paths through the content of a complex type.** -/
def leafPaths (schema : Schema) (particles : List Particle) : List Path :=
  Particle.pathsInto (schema.groupPaths maxResolveDepth) 0 particles

end Schema

theorem Particle.mem_pathsInto_iff {replace : String → Option (List Path)} {start : Nat}
    {particles : List Particle} {path : Path} :
    path ∈ pathsInto replace start particles ↔
      ∃ index particle below, particles[index]? = some particle ∧
        below ∈ particle.pathsBelow replace ∧ path = ⟨start + index, particle⟩ :: below := by
  induction particles generalizing start with
  | nil => simp [pathsInto]
  | cons first rest ih =>
    rw [pathsInto, List.mem_append, List.mem_map, ih]
    constructor
    · rintro (⟨below, member, rfl⟩ | ⟨index, particle, below, here, member, rfl⟩)
      · exact ⟨0, first, below, rfl, member, rfl⟩
      · refine ⟨index + 1, particle, below, here, member, ?_⟩
        rw [Nat.add_assoc, Nat.add_comm 1]
    · rintro ⟨index, particle, below, here, member, rfl⟩
      cases index with
      | zero =>
        obtain rfl := Option.some.inj here
        exact .inl ⟨below, member, rfl⟩
      | succ index =>
        refine .inr ⟨index, particle, below, here, member, ?_⟩
        rw [Nat.add_assoc, Nat.add_comm 1]

/-! ### The list is complete -/

section

variable {schema : Schema} {budget : Nat} {replace : String → Option (List Path)}

mutual

/-- The paths below a particle are all listed, if those into the groups are. -/
theorem Particle.mem_pathsBelow_iff
    (groups : ∀ occurs name path, path ∈ (replace name).getD [[]] ↔
      Particle.Leads schema budget (.groupRef occurs name) path) :
    ∀ (particle : Particle) (path : Path),
      path ∈ particle.pathsBelow replace ↔ particle.Leads schema budget path
  | .element occurs decl => by
    intro path
    rw [Particle.pathsBelow, List.mem_singleton]
    constructor
    · rintro rfl
      exact .element
    · rintro ⟨⟩
      rfl
  | .wildcard occurs => by
    intro path
    rw [Particle.pathsBelow, List.mem_singleton]
    constructor
    · rintro rfl
      exact .wildcard
    · rintro ⟨⟩
      rfl
  | .groupRef occurs name => by
    intro path
    rw [Particle.pathsBelow]
    exact groups occurs name path
  | .compositor occurs kind particles => by
    intro path
    have leads := Particle.mem_pathsBelow_iff_of_mem groups particles
    rw [Particle.pathsBelow, Particle.mem_pathsInto_iff]
    constructor
    · rintro ⟨index, inner, below, here, member, rfl⟩
      rw [Nat.zero_add]
      exact .within here ((leads inner (List.mem_of_getElem? here) below).mp member)
    · rintro (_ | _ | _ | _ | ⟨here, below⟩)
      refine ⟨_, _, _, here, (leads _ (List.mem_of_getElem? here) _).mpr below, ?_⟩
      rw [Nat.zero_add]

theorem Particle.mem_pathsBelow_iff_of_mem
    (groups : ∀ occurs name path, path ∈ (replace name).getD [[]] ↔
      Particle.Leads schema budget (.groupRef occurs name) path) :
    ∀ particles : List Particle, ∀ inner ∈ particles, ∀ path : Path,
      path ∈ inner.pathsBelow replace ↔ inner.Leads schema budget path
  | [] => nofun
  | particle :: rest => by
    intro inner member path
    rcases List.mem_cons.mp member with first | later
    · rw [first]
      exact Particle.mem_pathsBelow_iff groups particle path
    · exact Particle.mem_pathsBelow_iff_of_mem groups rest inner later path

end

/-- The paths into a group are all listed; so many references as may be replaced are gone through by
induction. -/
theorem mem_groupPaths_iff (schema : Schema) (budget : Nat) (occurs : Occurs) (name : String)
    (path : Path) :
    path ∈ (schema.groupPaths budget name).getD [[]] ↔
      Particle.Leads schema budget (.groupRef occurs name) path := by
  induction budget generalizing occurs name path with
  | zero =>
    rw [Schema.groupPaths, Option.getD_none, List.mem_singleton]
    constructor
    · rintro rfl
      exact .kept (.inl rfl)
    · rintro ⟨⟩
      rfl
  | succ budget ih =>
    cases known : schema.group? name with
    | none =>
      simp only [Schema.groupPaths, known, Option.map_none, Option.getD_none, List.mem_singleton]
      constructor
      · rintro rfl
        exact .kept (.inr known)
      · rintro (_ | _ | _ | ⟨found, _, _⟩)
        · rfl
        · rw [known] at found
          exact nomatch found
    | some group =>
      simp only [Schema.groupPaths, known, Option.map_some, Option.getD_some,
        Particle.mem_pathsInto_iff]
      constructor
      · rintro ⟨index, inner, below, here, member, rfl⟩
        rw [Nat.zero_add]
        exact .replaced known here ((Particle.mem_pathsBelow_iff ih inner below).mp member)
      · rintro (_ | _ | ⟨zero | absent⟩ | ⟨found, here, below⟩)
        · exact nomatch zero
        · rw [known] at absent
          exact nomatch absent
        · obtain rfl := Option.some.inj (known.symm.trans found)
          refine ⟨_, _, _, here, (Particle.mem_pathsBelow_iff ih _ _).mpr below, ?_⟩
          rw [Nat.zero_add]

/-- **All paths are listed, and nothing else.** -/
theorem mem_leafPaths_iff (schema : Schema) (particles : List Particle) (path : Path) :
    path ∈ schema.leafPaths particles ↔ schema.LeafPath particles path := by
  have below := Particle.mem_pathsBelow_iff (mem_groupPaths_iff schema maxResolveDepth)
  rw [Schema.leafPaths, Particle.mem_pathsInto_iff]
  constructor
  · rintro ⟨index, particle, rest, here, member, rfl⟩
    rw [Nat.zero_add]
    exact .into here ((below particle rest).mp member)
  · rintro ⟨here, leads⟩
    exact ⟨_, _, _, here, (below _ _).mpr leads, by rw [Nat.zero_add]⟩

end

/-! ### The list is in document order -/

/-- A path stands in front of another one in the document. -/
def Path.Before (path other : Path) : Prop := path.place < other.place

theorem Path.before_of_index_lt {step other : Step} (path beside : Path)
    (smaller : step.index < other.index) : Path.Before (step :: path) (other :: beside) :=
  List.cons_lt_cons_iff.mpr (.inl smaller)

theorem Path.before_cons {path other : Path} (step : Step) (before : path.Before other) :
    Path.Before (step :: path) (step :: other) :=
  List.cons_lt_cons_iff.mpr (.inr ⟨rfl, before⟩)

section

variable {replace : String → Option (List Path)}

mutual

theorem Particle.pathsBelow_sorted
    (groups : ∀ name, ((replace name).getD [[]]).Pairwise Path.Before) :
    ∀ particle : Particle, (particle.pathsBelow replace).Pairwise Path.Before
  | .element _ _ => List.pairwise_singleton _ _
  | .wildcard _ => List.pairwise_singleton _ _
  | .groupRef _ name => by
    rw [Particle.pathsBelow]
    exact groups name
  | .compositor _ _ particles => by
    rw [Particle.pathsBelow]
    exact Particle.pathsInto_sorted groups particles 0

theorem Particle.pathsInto_sorted
    (groups : ∀ name, ((replace name).getD [[]]).Pairwise Path.Before) :
    ∀ (particles : List Particle) (start : Nat),
      (Particle.pathsInto replace start particles).Pairwise Path.Before
  | [] => fun _ => .nil
  | particle :: rest => by
    intro start
    rw [Particle.pathsInto, List.pairwise_append]
    refine ⟨?_, Particle.pathsInto_sorted groups rest (start + 1), ?_⟩
    · have below := Particle.pathsBelow_sorted groups particle
      exact List.pairwise_map.mpr (below.imp fun before => Path.before_cons _ before)
    · intro path first other later
      obtain ⟨below, -, rfl⟩ := List.mem_map.mp first
      obtain ⟨index, inner, beside, -, -, rfl⟩ := Particle.mem_pathsInto_iff.mp later
      refine Path.before_of_index_lt below beside ?_
      show start < start + 1 + index
      omega

end

theorem groupPaths_sorted (schema : Schema) (budget : Nat) (name : String) :
    ((schema.groupPaths budget name).getD [[]]).Pairwise Path.Before := by
  induction budget generalizing name with
  | zero => exact List.pairwise_singleton _ _
  | succ budget ih =>
    cases known : schema.group? name with
    | none =>
      simp only [Schema.groupPaths, known, Option.map_none, Option.getD_none]
      exact List.pairwise_singleton _ _
    | some group =>
      simp only [Schema.groupPaths, known, Option.map_some, Option.getD_some]
      exact Particle.pathsInto_sorted ih group.particles 0

/-- **The paths are listed in document order**, each of them once. -/
theorem leafPaths_sorted (schema : Schema) (particles : List Particle) :
    (schema.leafPaths particles).Pairwise Path.Before :=
  Particle.pathsInto_sorted (groupPaths_sorted schema maxResolveDepth) particles 0

end

/-! ### The leaves are at the ends of the paths -/

/-- What a path says of its leaf when it has passed one more particle. -/
def Presence.past (presence : Presence) : Particle → Presence
  | .compositor occurs kind _ => (presence.through occurs).into kind
  | .element occurs _ => presence.through occurs
  | .groupRef occurs _ => presence.through occurs
  | .wildcard occurs => presence.through occurs

/-- What the particles on a path say of its leaf. -/
def Presence.along (presence : Presence) (path : Path) : Presence :=
  path.foldl (fun presence step => presence.past step.particle) presence

/-- A leaf is at the end of a path, and says of itself what the path says. -/
structure Leaf.AtEnd (presence : Presence) (path : Path) (leaf : Leaf) : Prop where
  particle : path.getLast?.map Step.particle = some leaf.particle
  simple : ∀ occurs kind particles, leaf.particle ≠ .compositor occurs kind particles
  presence : leaf.path = presence.along path

theorem Leaf.AtEnd.cons {presence : Presence} {path : Path} {leaf : Leaf} (step : Step)
    (ends : Leaf.AtEnd (presence.past step.particle) path leaf) :
    Leaf.AtEnd presence (step :: path) leaf where
  particle := by
    obtain ⟨last, found, same⟩ := Option.map_eq_some_iff.mp ends.particle
    rw [List.getLast?_cons, found, ← same]
    rfl
  simple := ends.simple
  presence := ends.presence

section

variable {expand : GroupExpansion} {replace : String → Option (List Path)}

/-- What replaces a reference leads to the leaves at the ends of its paths. -/
def AgreeOnGroups (expand : GroupExpansion) (replace : String → Option (List Path)) : Prop :=
  ∀ (presence : Presence) (index : Nat) (occurs : Occurs) (name : String),
    List.Forall₂
      (fun below leaf => Leaf.AtEnd presence (⟨index, .groupRef occurs name⟩ :: below) leaf)
      ((replace name).getD [[]])
      (match expand name with
        | some leaves => leaves (presence.through occurs)
        | none => [⟨.groupRef occurs name, presence.through occurs⟩])

mutual

theorem Particle.leaves_at_ends (groups : AgreeOnGroups expand replace) (presence : Presence)
    (index : Nat) :
    ∀ particle : Particle,
      List.Forall₂ (fun below leaf => Leaf.AtEnd presence (⟨index, particle⟩ :: below) leaf)
        (particle.pathsBelow replace) (particle.leaves expand presence)
  | .element _ _ => .cons ⟨rfl, nofun, rfl⟩ .nil
  | .wildcard _ => .cons ⟨rfl, nofun, rfl⟩ .nil
  | .groupRef occurs name => by
    rw [Particle.pathsBelow, Particle.leaves]
    exact groups presence index occurs name
  | .compositor occurs kind particles => by
    rw [Particle.pathsBelow, Particle.leaves]
    have inside := Particle.leavesOfAll_at_ends groups ((presence.through occurs).into kind)
      particles 0
    exact inside.imp fun _ _ ends => .cons ⟨index, .compositor occurs kind particles⟩ ends

theorem Particle.leavesOfAll_at_ends (groups : AgreeOnGroups expand replace)
    (presence : Presence) :
    ∀ (particles : List Particle) (start : Nat),
      List.Forall₂ (Leaf.AtEnd presence) (Particle.pathsInto replace start particles)
        (Particle.leavesOfAll expand presence particles)
  | [] => fun _ => .nil
  | particle :: rest => by
    intro start
    rw [Particle.pathsInto, Particle.leavesOfAll]
    refine List.rel_append ?_ (Particle.leavesOfAll_at_ends groups presence rest (start + 1))
    exact List.forall₂_map_left_iff.mpr (Particle.leaves_at_ends groups presence start particle)

end

theorem agreeOnGroups (schema : Schema) (budget : Nat) :
    AgreeOnGroups (schema.expandGroup budget) (schema.groupPaths budget) := by
  induction budget with
  | zero =>
    intro presence index occurs name
    exact .cons ⟨rfl, nofun, rfl⟩ .nil
  | succ budget ih =>
    intro presence index occurs name
    cases known : schema.group? name with
    | none =>
      simp only [Schema.groupPaths, Schema.expandGroup, known, Option.map_none, Option.getD_none]
      exact .cons ⟨rfl, nofun, rfl⟩ .nil
    | some group =>
      simp only [Schema.groupPaths, Schema.expandGroup, known, Option.map_some, Option.getD_some]
      have inside := Particle.leavesOfAll_at_ends ih (presence.through occurs) group.particles 0
      exact inside.imp fun _ _ ends => .cons ⟨index, .groupRef occurs name⟩ ends

/-- **The leaves of a content model are those at the ends of its paths**, in order. -/
theorem leaves_at_ends (schema : Schema) (particles : List Particle) :
    List.Forall₂ (Leaf.AtEnd {}) (schema.leafPaths particles) (schema.leaves particles) :=
  Particle.leavesOfAll_at_ends (agreeOnGroups schema maxResolveDepth) {} particles 0

end

/-! ### What a path says -/

namespace Particle

/-- What stands below a particle may be absent: the particle may be left out, or is a choice. -/
def MayBeAbsent (particle : Particle) : Prop :=
  particle.occurs.min = 0 ∨ ∃ occurs particles, particle = .compositor occurs .choice particles

/-- A particle may occur more than once. -/
def MayRepeat (particle : Particle) : Prop :=
  particle.occurs.max = .unbounded ∨ ∃ count, particle.occurs.max = .bounded count ∧ 1 < count

end Particle

/-- What stands at the end of a path may be absent for some particle on the path. -/
def Path.MayBeAbsent (path : Path) : Prop := ∃ step ∈ path, step.particle.MayBeAbsent

/-- What stands at the end of a path may repeat for some particle on the path. -/
def Path.MayRepeat (path : Path) : Prop := ∃ step ∈ path, step.particle.MayRepeat

theorem Occurs.isRepeated_iff {occurs : Occurs} :
    occurs.isRepeated = true ↔
      occurs.max = .unbounded ∨ ∃ count, occurs.max = .bounded count ∧ 1 < count := by
  unfold isRepeated
  cases occurs.max <;> simp

namespace Presence

theorem optional_past {presence : Presence} {particle : Particle} :
    (presence.past particle).optional = true ↔
      presence.optional = true ∨ particle.MayBeAbsent := by
  cases particle <;>
    simp [past, through, into, Particle.MayBeAbsent, Particle.occurs,
      Occurs.isOptional, or_assoc]

theorem repeated_past {presence : Presence} {particle : Particle} :
    (presence.past particle).repeated = true ↔
      presence.repeated = true ∨ particle.MayRepeat := by
  cases particle <;>
    simp [past, through, into, Particle.MayRepeat, Particle.occurs, Occurs.isRepeated_iff]

/-- **A path makes its leaf optional exactly if some particle on it does.** -/
theorem optional_along {presence : Presence} {path : Path} :
    (presence.along path).optional = true ↔ presence.optional = true ∨ path.MayBeAbsent := by
  induction path generalizing presence with
  | nil => simp [along, Path.MayBeAbsent]
  | cons step rest ih =>
    show ((presence.past step.particle).along rest).optional = true ↔ _
    rw [ih, optional_past, Path.MayBeAbsent, Path.MayBeAbsent, List.exists_mem_cons_iff, or_assoc]

/-- **A path makes its leaf repeated exactly if some particle on it does.** -/
theorem repeated_along {presence : Presence} {path : Path} :
    (presence.along path).repeated = true ↔ presence.repeated = true ∨ path.MayRepeat := by
  induction path generalizing presence with
  | nil => simp [along, Path.MayRepeat]
  | cons step rest ih =>
    show ((presence.past step.particle).along rest).repeated = true ↔ _
    rw [ih, repeated_past, Path.MayRepeat, Path.MayRepeat, List.exists_mem_cons_iff, or_assoc]

end Presence

end SchemaBinding
