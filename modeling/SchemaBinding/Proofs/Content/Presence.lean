/-
**The occurrence flags of fields are sound.**

Flattening pushes two flags down the paths of a content model. Here they are held against the
instances of the content (`Particle.Instance`): a leaf whose path is not optional is counted at
least once in every instance, and one whose path is not repeated at most once. The relation between
a leaf and its place (`Faithful`) is carried through rounds, compositors and groups step by step; it
also says that a leaf is never more certain than the path to it, without which rounds that do not
happen would tell nothing.

`occurrenceFlags_sound`: the same of the fields of the classes of a model.
-/

import Mathlib.Data.List.Forall2
import SchemaBinding.Proofs.Content.Instance
import SchemaBinding.Proofs.Model.ClassFields

namespace SchemaBinding

/-- **What a leaf behind a path says is true of the place of the leaf**, in all the given counts. -/
structure Faithful (path : Presence) (counts : LeafCount → Prop) (leaf : Leaf)
    (placed : PlacedLeaf) : Prop where
  particle : leaf.particle = placed.particle
  mandatory : leaf.path.optional = false → path.optional = false
  single : leaf.path.repeated = false → path.repeated = false
  present : leaf.path.optional = false → ∀ count, counts count → 1 ≤ count placed.position
  once : leaf.path.repeated = false → ∀ count, counts count → count placed.position ≤ 1

namespace Faithful

variable {path : Presence} {counts : LeafCount → Prop} {leaf : Leaf} {placed : PlacedLeaf}

/-! ### Rounds -/

theorem not_isOptional {occurs : Occurs} (mandatory : (path.through occurs).optional = false) :
    path.optional = false ∧ 1 ≤ occurs.min.toNat := by
  simp only [Presence.through, Occurs.isOptional, Bool.or_eq_false_iff,
    beq_eq_false_iff_ne] at mandatory
  refine ⟨mandatory.1, Nat.one_le_iff_ne_zero.mpr fun zero => mandatory.2 ?_⟩
  exact UInt32.toNat_inj.mp zero

theorem not_isRepeated {occurs : Occurs} (single : (path.through occurs).repeated = false)
    {rounds : Nat} (allowed : occurs.Allows rounds) : path.repeated = false ∧ rounds ≤ 1 := by
  simp only [Presence.through, Occurs.isRepeated, Bool.or_eq_false_iff] at single
  refine ⟨single.1, ?_⟩
  have bound := allowed.2
  cases upper : occurs.max with
  | unbounded => simp [upper] at single
  | bounded count =>
    simp only [upper, decide_eq_false_iff_not] at single bound
    have small := UInt32.not_lt.mp single.2
    exact Nat.le_trans bound (UInt32.le_iff_toNat_le.mp small)

/-- **The rounds of a particle**: what is said behind the particle of one round is said in front of
it of all rounds together. -/
theorem instance_of_round {schema : Schema} {budget : Nat} {particle : Particle}
    (inside : Faithful (path.through particle.occurs)
      (Particle.Round schema budget particle) leaf placed) :
    Faithful path (Particle.Instance schema budget particle) leaf placed where
  particle := inside.particle
  mandatory flag := (not_isOptional (inside.mandatory flag)).1
  single flag := by
    have flags := inside.single flag
    simp only [Presence.through, Bool.or_eq_false_iff] at flags
    exact flags.1
  present flag := by
    rintro count ⟨allowed, each⟩
    rename_i rounds
    have some : 1 ≤ rounds.length :=
      Nat.le_trans (not_isOptional (inside.mandatory flag)).2 allowed.1
    -- The first round counts the leaf; the others can only add to it.
    obtain ⟨round, rest, rfl⟩ := List.exists_cons_of_length_pos some
    have here := inside.present flag round (each round List.mem_cons_self)
    rw [LeafCount.total]
    exact Nat.le_trans here (Nat.le_add_right _ _)
  once flag := by
    rintro count ⟨allowed, each⟩
    rename_i rounds
    have few := (not_isRepeated (inside.single flag) allowed).2
    match rounds, few with
    | [], _ => exact Nat.zero_le 1
    | [round], _ =>
      rw [LeafCount.total]
      exact inside.once flag round (each round List.mem_cons_self)

theorem leaf_single (particle : Particle)
    (singles : ∀ count, counts count → count = .single) :
    Faithful path counts ⟨particle, path⟩ ⟨[], particle⟩ where
  particle := rfl
  mandatory flag := flag
  single flag := flag
  present _ count counted := by
    rw [singles count counted]
    exact Nat.le_refl 1
  once _ count counted := by
    rw [singles count counted]
    exact Nat.le_refl 1

/-- What is said of a leaf at one place is said of it at another, if the counts there are counts
here. -/
theorem transport {inner : LeafCount → Prop} {place : PlacedLeaf}
    (inside : Faithful path inner leaf placed) (same : placed.particle = place.particle)
    (within : ∀ count, counts count →
      ∃ part, inner part ∧ count place.position = part placed.position) :
    Faithful path counts leaf place where
  particle := inside.particle.trans same
  mandatory := inside.mandatory
  single := inside.single
  present flag count counted := by
    obtain ⟨part, counted, equal⟩ := within count counted
    rw [equal]
    exact inside.present flag part counted
  once flag count counted := by
    obtain ⟨part, counted, equal⟩ := within count counted
    rw [equal]
    exact inside.once flag part counted

/-- Behind a choice nothing is mandatory, so a leaf may as well not be counted at all. -/
theorem transport_chosen {inner : LeafCount → Prop} {place : PlacedLeaf}
    (chosen : path.optional = true) (inside : Faithful path inner leaf placed)
    (same : placed.particle = place.particle)
    (within : ∀ count, counts count → count place.position = 0 ∨
      ∃ part, inner part ∧ count place.position = part placed.position) :
    Faithful path counts leaf place where
  particle := inside.particle.trans same
  mandatory := inside.mandatory
  single := inside.single
  present flag := by
    have mandatory := inside.mandatory flag
    rw [chosen] at mandatory
    exact nomatch mandatory
  once flag count counted := by
    rcases within count counted with absent | ⟨part, counted, equal⟩
    · rw [absent]
      exact Nat.zero_le 1
    · rw [equal]
      exact inside.once flag part counted

/-! ### Lists of particles -/

variable {schema : Schema} {budget : Nat} {particle : Particle} {rest : List Particle}

theorem all_inFirst
    (inside : Faithful path (Particle.Instance schema budget particle) leaf placed) :
    Faithful path (Particle.AllInstances schema budget (particle :: rest)) leaf placed.inFirst := by
  refine inside.transport rfl ?_
  rintro _ (_ | ⟨head, tail⟩)
  exact ⟨_, head, rfl⟩

theorem all_inRest (inside : Faithful path (Particle.AllInstances schema budget rest) leaf placed) :
    Faithful path (Particle.AllInstances schema budget (particle :: rest)) leaf placed.inRest := by
  refine inside.transport rfl ?_
  rintro _ (_ | ⟨head, tail⟩)
  exact ⟨_, tail, PlacedLeaf.beside_inRest placed _ _ tail.count_nil⟩

theorem one_inFirst (chosen : path.optional = true)
    (inside : Faithful path (Particle.Instance schema budget particle) leaf placed) :
    Faithful path (Particle.OneInstance schema budget (particle :: rest)) leaf placed.inFirst := by
  refine inside.transport_chosen chosen rfl ?_
  rintro _ (⟨head⟩ | ⟨tail⟩)
  · exact .inr ⟨_, head, rfl⟩
  · exact .inl rfl

theorem one_inRest (chosen : path.optional = true)
    (inside : Faithful path (Particle.OneInstance schema budget rest) leaf placed) :
    Faithful path (Particle.OneInstance schema budget (particle :: rest)) leaf placed.inRest := by
  refine inside.transport_chosen chosen rfl ?_
  rintro _ (⟨head⟩ | ⟨tail⟩)
  · exact .inl (PlacedLeaf.beside_inRest placed _ _ rfl)
  · exact .inr ⟨_, tail, PlacedLeaf.beside_inRest placed _ _ tail.count_nil⟩

/-- A compositor that is no choice hands its flags on as they are. -/
theorem round_of_all {occurs : Occurs} {kind : Compositor} {particles : List Particle}
    (other : kind ≠ .choice)
    (inside : Faithful (path.into kind) (Particle.AllInstances schema budget particles) leaf
      placed) :
    Faithful path (Particle.Round schema budget (.compositor occurs kind particles)) leaf
      placed := by
  have same : path.into kind = path := by
    have noChoice : (kind == Compositor.choice) = false := beq_eq_false_iff_ne.mpr other
    simp [Presence.into, noChoice]
  rw [same] at inside
  refine inside.transport rfl ?_
  rintro count (_ | _ | _ | _ | ⟨_, all⟩ | ⟨_⟩)
  · exact ⟨count, all, rfl⟩
  · exact absurd rfl other

/-- Behind a choice every leaf is optional. -/
theorem round_of_one {occurs : Occurs} {particles : List Particle}
    (inside : Faithful (path.into .choice) (Particle.OneInstance schema budget particles) leaf
      placed) :
    Faithful path (Particle.Round schema budget (.compositor occurs .choice particles)) leaf
      placed := by
  have optional : leaf.path.optional ≠ false := fun flag => by
    have mandatory := inside.mandatory flag
    simp [Presence.into] at mandatory
  refine ⟨inside.particle, fun flag => absurd flag optional, inside.single,
    fun flag => absurd flag optional, fun flag => ?_⟩
  rintro count (_ | _ | _ | _ | ⟨different⟩ | ⟨one⟩)
  · exact absurd rfl different
  · exact inside.once flag count one

/-- A reference that is replaced says what the particles of its group say. -/
theorem round_of_group {occurs : Occurs} {name : String} {group : ModelGroup}
    (found : schema.group? name = some group)
    (inside : Faithful path (Particle.AllInstances schema budget group.particles) leaf placed) :
    Faithful path (Particle.Round schema (budget + 1) (.groupRef occurs name)) leaf placed := by
  refine inside.transport rfl ?_
  rintro count (_ | _ | ⟨zero | absent⟩ | ⟨present, all⟩)
  · exact nomatch zero
  · rw [found] at absent
    exact nomatch absent
  · rw [found] at present
    cases present
    exact ⟨count, all, rfl⟩

end Faithful

/-! ### Whole content models -/

/-- The leaves of some content model, each faithful at its place. -/
abbrev FaithfulLeaves (path : Presence) (counts : LeafCount → Prop) (leaves : List Leaf)
    (placed : List PlacedLeaf) : Prop :=
  List.Forall₂ (Faithful path counts) leaves placed

section

variable {schema : Schema} {budget : Nat} {path : Presence}

theorem faithful_leaf {counts : LeafCount → Prop} (particle : Particle)
    (singles : ∀ count, counts count → count = .single) :
    FaithfulLeaves path counts [⟨particle, path⟩] [⟨[], particle⟩] :=
  List.Forall₂.cons (Faithful.leaf_single particle singles) List.Forall₂.nil

theorem faithful_rounds {particle : Particle} {leaves : List Leaf} {placed : List PlacedLeaf}
    (inside : FaithfulLeaves (path.through particle.occurs)
      (Particle.Round schema budget particle) leaves placed) :
    FaithfulLeaves path (Particle.Instance schema budget particle) leaves placed :=
  inside.imp fun _ _ round => Faithful.instance_of_round round

theorem faithful_append {counts head tail : LeafCount → Prop} {leaves later : List Leaf}
    {placed after : List PlacedLeaf}
    (lift : ∀ leaf place, Faithful path head leaf place → Faithful path counts leaf place.inFirst)
    (shift : ∀ leaf place, Faithful path tail leaf place → Faithful path counts leaf place.inRest)
    (here : FaithfulLeaves path head leaves placed)
    (there : FaithfulLeaves path tail later after) :
    FaithfulLeaves path counts (leaves ++ later)
      (placed.map .inFirst ++ after.map .inRest) := by
  refine List.rel_append ?_ ?_
  · exact List.forall₂_map_right_iff.mpr (here.imp lift)
  · exact List.forall₂_map_right_iff.mpr (there.imp shift)

/-- What replaces references is faithful to the rounds of references. -/
def FaithfulExpansion (schema : Schema) (budget : Nat) : Prop :=
  ∀ (path : Presence) (occurs : Occurs) (name : String),
    FaithfulLeaves path (Particle.Round schema budget (.groupRef occurs name))
      (match schema.expandGroup budget name with
        | some leaves => leaves path
        | none => [⟨.groupRef occurs name, path⟩])
      ((schema.placedGroup budget name).getD [⟨[], .groupRef occurs name⟩])

mutual

/-- The leaves of a particle, if references are replaced faithfully. -/
theorem faithful_leaves (expansion : FaithfulExpansion schema budget) (path : Presence) :
    ∀ particle : Particle, FaithfulLeaves path (Particle.Instance schema budget particle)
      (particle.leaves (schema.expandGroup budget) path)
      (particle.placedLeaves (schema.placedGroup budget))
  | .element occurs decl => by
    rw [Particle.leaves, Particle.placedLeaves]
    refine faithful_rounds (faithful_leaf _ ?_)
    rintro count ⟨⟩
    rfl
  | .wildcard occurs => by
    rw [Particle.leaves, Particle.placedLeaves]
    refine faithful_rounds (faithful_leaf _ ?_)
    rintro count ⟨⟩
    rfl
  | .groupRef occurs name => by
    rw [Particle.leaves, Particle.placedLeaves]
    exact faithful_rounds (expansion (path.through occurs) occurs name)
  | .compositor occurs kind particles => by
    rw [Particle.leaves, Particle.placedLeaves]
    by_cases choice : kind = .choice
    · -- Lists below a choice need to know that the path is optional already.
      subst choice
      have chosen : ((path.through occurs).into .choice).optional = true := by
        simp [Presence.into]
      have one := faithful_leavesOfOne expansion chosen particles
      exact faithful_rounds (one.imp fun _ _ inside => .round_of_one inside)
    · have all := faithful_leavesOfAll expansion ((path.through occurs).into kind) particles
      exact faithful_rounds (all.imp fun _ _ inside => .round_of_all choice inside)

theorem faithful_leavesOfAll (expansion : FaithfulExpansion schema budget) (path : Presence) :
    ∀ particles : List Particle,
      FaithfulLeaves path (Particle.AllInstances schema budget particles)
        (Particle.leavesOfAll (schema.expandGroup budget) path particles)
        (Particle.placedLeavesOfAll (schema.placedGroup budget) particles)
  | [] => .nil
  | particle :: rest => by
    rw [Particle.leavesOfAll, Particle.placedLeavesOfAll]
    exact faithful_append (fun _ _ => .all_inFirst) (fun _ _ => .all_inRest)
      (faithful_leaves expansion path particle) (faithful_leavesOfAll expansion path rest)

theorem faithful_leavesOfOne (expansion : FaithfulExpansion schema budget) {path : Presence}
    (chosen : path.optional = true) :
    ∀ particles : List Particle,
      FaithfulLeaves path (Particle.OneInstance schema budget particles)
        (Particle.leavesOfAll (schema.expandGroup budget) path particles)
        (Particle.placedLeavesOfAll (schema.placedGroup budget) particles)
  | [] => .nil
  | particle :: rest => by
    rw [Particle.leavesOfAll, Particle.placedLeavesOfAll]
    exact faithful_append (fun _ _ => .one_inFirst chosen) (fun _ _ => .one_inRest chosen)
      (faithful_leaves expansion path particle) (faithful_leavesOfOne expansion chosen rest)

end

/-- A reference stands for one leaf, or for the particles of a group that it may be replaced by;
so many references as may be replaced are gone through by induction. -/
theorem faithful_expandGroup (schema : Schema) : ∀ budget, FaithfulExpansion schema budget
  | 0 => by
    intro path occurs name
    refine faithful_leaf _ ?_
    rintro count ⟨⟩
    rfl
  | budget + 1 => by
    have below := faithful_expandGroup schema budget
    intro path occurs name
    cases found : schema.group? name with
    | none =>
      simp only [Schema.expandGroup, Schema.placedGroup, found, Option.map_none, Option.getD_none]
      refine faithful_leaf _ ?_
      rintro count (_ | _ | _ | ⟨present, _⟩)
      · rfl
      · rw [found] at present
        exact nomatch present
    | some group =>
      simp only [Schema.expandGroup, Schema.placedGroup, found, Option.map_some, Option.getD_some]
      exact (faithful_leavesOfAll below path group.particles).imp fun _ _ inside =>
        .round_of_group found inside

/-- **The leaves of a content model are faithful at their places**, in all its instances. -/
theorem faithful_schemaLeaves (schema : Schema) (particles : List Particle) :
    FaithfulLeaves {} (schema.ContentInstance particles) (schema.leaves particles)
      (schema.placedLeaves particles) :=
  faithful_leavesOfAll (faithful_expandGroup schema maxResolveDepth) {} particles

end

/-! ### The fields of classes -/

/-- The particle that the field of a leaf stems from: references to elements are replaced by what
they refer to. -/
def Schema.leafOrigin (schema : Schema) : Particle → Particle
  | .element occurs decl => .element occurs (schema.resolveElement decl)
  | other => other

/-- **The flags of a field tell the truth about the leaf that it stems from**, in all instances of
the content. -/
structure Field.SoundFor (schema : Schema) (particles : List Particle) (placed : PlacedLeaf)
    (field : Field) : Prop where
  origin : field.origin = .particle (schema.leafOrigin placed.particle)
  present : field.optional = false →
    ∀ count, schema.ContentInstance particles count → 1 ≤ count placed.position
  once : field.repeated = false →
    ∀ count, schema.ContentInstance particles count → count placed.position ≤ 1

section

variable {schema : Schema} {type : ComplexType}

/-- The name of a field says nothing about its leaf. -/
theorem Field.SoundFor.ofUnnamed {particles : List Particle} {placed : PlacedLeaf}
    {field other : Field} (sound : field.SoundFor schema particles placed)
    (same : other.unnamed = field.unnamed) : other.SoundFor schema particles placed where
  origin := by
    rw [other.origin_of_unnamed same]
    exact sound.origin
  present := by
    rw [other.optional_of_unnamed same]
    exact sound.present
  once := by
    rw [other.repeated_of_unnamed same]
    exact sound.once

theorem fieldOfLeaf_origin (schema : Schema) (leaf : Leaf) :
    (schema.fieldOfLeaf leaf).origin = .particle (schema.leafOrigin leaf.particle) := by
  unfold Schema.fieldOfLeaf
  cases leaf.particle <;> rfl

theorem fieldOfLeaf_repeated (schema : Schema) (leaf : Leaf) :
    (schema.fieldOfLeaf leaf).repeated = leaf.path.repeated := by
  unfold Schema.fieldOfLeaf
  cases leaf.particle <;> rfl

/-- A field may be optional for another reason, which is that its element is nillable. -/
theorem mandatory_of_fieldOfLeaf {leaf : Leaf}
    (mandatory : (schema.fieldOfLeaf leaf).optional = false) : leaf.path.optional = false := by
  unfold Schema.fieldOfLeaf at mandatory
  cases kind : leaf.particle with
  | element occurs decl =>
    simp only [kind, Bool.or_eq_false_iff] at mandatory
    exact mandatory.1
  | _ =>
    simp only [kind] at mandatory
    exact mandatory

theorem soundFor_fieldOfLeaf {particles : List Particle} {leaf : Leaf} {placed : PlacedLeaf}
    (faithful : Faithful {} (schema.ContentInstance particles) leaf placed) :
    (schema.fieldOfLeaf leaf).SoundFor schema particles placed where
  origin := by rw [fieldOfLeaf_origin, faithful.particle]
  present mandatory := faithful.present (mandatory_of_fieldOfLeaf mandatory)
  once single := by
    rw [fieldOfLeaf_repeated] at single
    exact faithful.once single

/-- The fields that do not stem from the content stem from no particle. -/
theorem others_origin {field : Field}
    (member : field ∈ (type.attributes.filter (·.use != .prohibited)).map schema.fieldOfAttribute ++
      type.simpleContent.toList.map fun base =>
        Field.ofSchemaName "value" (schema.resolveType (some base)) .synthetic)
    (particle : Particle) : field.origin ≠ .particle particle := by
  rcases List.mem_append.mp member with declared | simple
  · obtain ⟨decl, -, rfl⟩ := List.mem_map.mp declared
    exact nofun
  · obtain ⟨base, -, rfl⟩ := List.mem_map.mp simple
    exact nofun

end

/-- **The occurrence flags of the fields of a class are sound.** The fields of a class that stem
from particles are in front and stem from the leaves of its content one by one. Such a field that is
not optional has a leaf that is counted in every instance of the content, and one that is not
repeated has a leaf that no instance counts twice. Leaves are told apart, so it is always the leaf
of the field that is counted. -/
theorem occurrenceFlags_sound (schema : Schema) (index : Nat) (name : String) (type : ComplexType)
    (entry : schema.classTypes[index]? = some (name, type)) :
    ∃ c fromContent others, (Model.ofSchema schema).classes[index]? = some c ∧
      c.fields = fromContent ++ others ∧
      (∀ field ∈ others, ∀ particle, field.origin ≠ .particle particle) ∧
      (schema.placedLeaves type.particles).Pairwise (fun leaf other =>
        leaf.position ≠ other.position) ∧
      List.Forall₂ (Field.SoundFor schema type.particles) (schema.placedLeaves type.particles)
        fromContent := by
  have names := classOf_fields schema name type
  rw [Schema.fieldsOf, List.append_assoc, List.map_append] at names
  obtain ⟨fromContent, others, split, content, rest⟩ := List.map_eq_append_iff.mp names
  refine ⟨schema.classOf name type, fromContent, others, ?_, split, ?_, ?_, ?_⟩
  · rw [classes_ofSchema, List.getElem?_map, entry]
    rfl
  · intro field member particle
    have image : field.unnamed ∈ others.map Field.unnamed := List.mem_map_of_mem member
    rw [rest] at image
    obtain ⟨base, unnamed, same⟩ := List.mem_map.mp image
    rw [field.origin_of_unnamed same.symm]
    exact others_origin unnamed particle
  · exact placedLeaves_apart schema type.particles
  · have sound : List.Forall₂ (Field.SoundFor schema type.particles)
        (schema.placedLeaves type.particles) (fromContent.map Field.unnamed) := by
      rw [content]
      refine List.forall₂_map_right_iff.mpr (List.forall₂_map_right_iff.mpr ?_)
      refine ((faithful_schemaLeaves schema type.particles).imp fun _ _ faithful => ?_).flip
      exact (soundFor_fieldOfLeaf faithful).ofUnnamed rfl
    refine (List.forall₂_map_right_iff.mp sound).imp fun _ _ sound => ?_
    exact sound.ofUnnamed rfl

/-- A contact has a name and may be reached in several ways, each by mail or by telephone. -/
def contactSchema : Schema where
  complexTypes := [{
    name := "contact"
    particles := [.compositor {} .sequence [
      .element {} { name := "name" },
      .groupRef { min := 1, max := .unbounded } "reachable"]] }]
  groups := [{
    name := "reachable"
    particles := [.compositor {} .choice [
      .element {} { name := "email" },
      .element {} { name := "phone" }]] }]

/-- Once by mail and once by telephone: nothing but the name is counted in every instance. -/
theorem occurrenceFlags_contactSchema :
    ∃ type, contactSchema.classTypes[0]? = some ("contact", type) ∧
      (∃ count, contactSchema.ContentInstance type.particles count ∧
        count [0, 0] = 1 ∧ count [0, 1, 0, 0] = 1 ∧ count [0, 1, 0, 1] = 1) ∧
      ∃ c fromContent others, (Model.ofSchema contactSchema).classes[0]? = some c ∧
        c.fields = fromContent ++ others ∧
        (∀ field ∈ others, ∀ particle, field.origin ≠ .particle particle) ∧
        (contactSchema.placedLeaves type.particles).Pairwise (fun leaf other =>
          leaf.position ≠ other.position) ∧
        List.Forall₂ (Field.SoundFor contactSchema type.particles)
          (contactSchema.placedLeaves type.particles) fromContent := by
  refine ⟨_, rfl, ?_, occurrenceFlags_sound contactSchema 0 "contact" _ rfl⟩
  have reached : ∀ way, Particle.OneInstance contactSchema 15
      [.element {} { name := "email" }, .element {} { name := "phone" }] way →
        Particle.Round contactSchema 16 (.groupRef { min := 1, max := .unbounded } "reachable")
          (.beside (.total [way]) .nothing) := by
    intro way taken
    exact .replaced rfl (.cons (.once rfl (.choice taken)) .nil)
  have both : ∃ ways, Particle.Instance contactSchema 16
      (.groupRef { min := 1, max := .unbounded } "reachable") ways ∧
        ways [0, 0] = 1 ∧ ways [0, 1] = 1 := by
    have byMail := reached _ (.here (.once rfl .element))
    have byPhone := reached _ (.later (.here (.once rfl .element)))
    have each := List.forall_mem_cons.mpr ⟨byMail, List.forall_mem_singleton.mpr byPhone⟩
    refine ⟨_, .rounds ⟨?_, trivial⟩ each, rfl, rfl⟩
    exact Nat.le_succ 1
  obtain ⟨ways, taken, mail, phone⟩ := both
  have named := Particle.Instance.once rfl
    (@Particle.Round.element contactSchema 16 {} { name := "name" })
  have content := Particle.AllInstances.cons named (.cons taken .nil)
  exact ⟨_, .cons (.once rfl (.every nofun content)) .nil, rfl, mail, phone⟩

end SchemaBinding
