/-
**A model only grows.**

Whatever is done to a model after it has been made, its classes and fields stay, each in its place.
A field may get an initializer if it has none (`Field.GrowsTo`), and a class may get static members
behind those that it has, under names that no member has yet (`DataClass.GrowsTo`). This is all that
happens when a static member is added, when the slot is asked for, when a field is given an
initializer, and in a fixed-value pass, also in one that a malformed value ends (`growsTo_pass`).
-/

import Mathlib.Data.List.Forall2
import SchemaBinding.Proofs.FixedValue.Idempotence

namespace SchemaBinding

/-- A field without its initializer. -/
def Field.uninitialized (field : Field) : Field := { field with initializer := none }

/-- **A field grows**: it may get an initializer, and keeps one that it has. -/
structure Field.GrowsTo (before after : Field) : Prop where
  frame : after.uninitialized = before.uninitialized
  kept : ∀ expr, before.initializer = some expr → after.initializer = some expr

/-- **A class grows**: its fields grow, and it may get static members behind those that it has. If
its members had different names, they still do. -/
structure DataClass.GrowsTo (before after : DataClass) : Prop where
  name : after.name = before.name
  schemaName : after.schemaName = before.schemaName
  fields : List.Forall₂ Field.GrowsTo before.fields after.fields
  statics : before.statics <+: after.statics
  distinct : before.memberNames.Nodup → after.memberNames.Nodup

/-- **A model grows**: its classes do, and all else stays. -/
structure Model.GrowsTo (before after : Model) : Prop where
  package : after.package = before.package
  enums : after.enums = before.enums
  classes : List.Forall₂ DataClass.GrowsTo before.classes after.classes

/-! ### Growth is an order -/

section

variable {α : Type} {grows : α → α → Prop}

theorem forall₂_trans {first second third : List α} (early : List.Forall₂ grows first second)
    (late : List.Forall₂ grows second third)
    (trans : ∀ {x y z}, grows x y → grows y z → grows x z) : List.Forall₂ grows first third := by
  induction early generalizing third with
  | nil => exact late
  | cons step _ ih =>
    cases late with
    | cons step' rest' => exact .cons (trans step step') (ih rest')

/-- If one element grows and all others stay, then all of them grow. -/
theorem forall₂_set (refl : ∀ x, grows x x) {list : List α} {place : Nat} {x y : α}
    (here : list[place]? = some x) (step : grows x y) :
    List.Forall₂ grows list (list.set place y) := by
  induction list generalizing place with
  | nil => exact nomatch here
  | cons first rest ih =>
    cases place with
    | zero =>
      obtain rfl : first = x := Option.some.inj here
      exact .cons step (List.forall₂_same.mpr fun other _ => refl other)
    | succ place => exact .cons (refl first) (ih here)

theorem exists_of_forall₂_of_mem {first second : List α} (all : List.Forall₂ grows first second)
    {y : α} (here : y ∈ second) : ∃ x ∈ first, grows x y := by
  induction all with
  | nil => exact absurd here List.not_mem_nil
  | cons step _ ih =>
    rcases List.mem_cons.mp here with rfl | later
    · exact ⟨_, List.mem_cons_self, step⟩
    · obtain ⟨x, member, grow⟩ := ih later
      exact ⟨x, List.mem_cons_of_mem _ member, grow⟩

end

theorem Field.GrowsTo.refl (field : Field) : field.GrowsTo field := ⟨rfl, fun _ => id⟩

theorem Field.GrowsTo.trans {first second third : Field} (early : first.GrowsTo second)
    (late : second.GrowsTo third) : first.GrowsTo third :=
  ⟨late.frame.trans early.frame, fun expr some => late.kept expr (early.kept expr some)⟩

theorem Field.GrowsTo.name {before after : Field} (grow : before.GrowsTo after) :
    after.name = before.name := by
  have names := congrArg Field.name grow.frame
  exact names

theorem DataClass.GrowsTo.refl (c : DataClass) : c.GrowsTo c where
  name := rfl
  schemaName := rfl
  fields := List.forall₂_same.mpr fun field _ => .refl field
  statics := List.prefix_refl _
  distinct := id

theorem DataClass.GrowsTo.trans {first second third : DataClass} (early : first.GrowsTo second)
    (late : second.GrowsTo third) : first.GrowsTo third where
  name := late.name.trans early.name
  schemaName := late.schemaName.trans early.schemaName
  fields := forall₂_trans early.fields late.fields Field.GrowsTo.trans
  statics := early.statics.trans late.statics
  distinct different := late.distinct (early.distinct different)

theorem Model.GrowsTo.refl (model : Model) : model.GrowsTo model :=
  ⟨rfl, rfl, List.forall₂_same.mpr fun c _ => .refl c⟩

theorem Model.GrowsTo.trans {first second third : Model} (early : first.GrowsTo second)
    (late : second.GrowsTo third) : first.GrowsTo third where
  package := late.package.trans early.package
  enums := late.enums.trans early.enums
  classes := forall₂_trans early.classes late.classes DataClass.GrowsTo.trans

/-! ### Members of a class -/

section

variable {c d : DataClass}

theorem eq_of_addStatic {member : StaticMember} (added : c.addStatic member = .ok d) :
    d = { c with statics := c.statics ++ [member] } := by
  unfold DataClass.addStatic at added
  split at added
  · exact nomatch added
  · exact (Except.ok.inj added).symm

theorem growsTo_addStatic {member : StaticMember} (added : c.addStatic member = .ok d) :
    c.GrowsTo d := by
  have distinct (different : c.memberNames.Nodup) : d.memberNames.Nodup :=
    DataClass.nodup_memberNames_of_addStatic different added
  obtain rfl := eq_of_addStatic added
  exact { DataClass.GrowsTo.refl c with statics := List.prefix_append _ _, distinct }

theorem growsTo_ensureSlot {settings : Settings} (ensured : c.ensureSlot settings = .ok d) :
    c.GrowsTo d := by
  unfold DataClass.ensureSlot at ensured
  split at ensured
  · obtain rfl : c = d := Except.ok.inj ensured
    exact .refl c
  · exact growsTo_addStatic ensured

theorem growsTo_setInitializer {field initialized : Field} {expr : Expr}
    (set : field.setInitializer expr = .ok initialized) : field.GrowsTo initialized := by
  unfold Field.setInitializer at set
  split at set
  · exact nomatch set
  · rename_i free
    obtain rfl := Except.ok.inj set
    exact ⟨rfl, fun old some => nomatch free.symm.trans some⟩

theorem names_of_growsTo {before after : List Field}
    (grow : List.Forall₂ Field.GrowsTo before after) :
    after.map (·.name) = before.map (·.name) := by
  induction grow with
  | nil => rfl
  | cons step _ ih => rw [List.map_cons, List.map_cons, ih, step.name]

/-- A class whose fields grow keeps the names of its members. -/
theorem growsTo_fields {fields : List Field} (grow : List.Forall₂ Field.GrowsTo c.fields fields) :
    c.GrowsTo { c with fields } where
  name := rfl
  schemaName := rfl
  fields := grow
  statics := List.prefix_refl _
  distinct different := by
    unfold DataClass.memberNames at *
    rwa [names_of_growsTo grow]

end

/-! ### A fixed-value pass -/

theorem growsTo_settle (around : Surroundings) (field : Field) :
    field.GrowsTo (around.settle field) := by
  rcases around.settle_cases field with ⟨expr, -, free, settled⟩ | ⟨-, settled⟩
  · rw [settled]
    exact ⟨rfl, fun old some => nomatch free.symm.trans some⟩
  · rw [settled]
    exact .refl field

section

variable (enums : List Enumeration) (settings : Settings)

/-- A class gets its slot as any other static member. -/
theorem growsTo_staticsAfter (c : DataClass) (fields : List Field) :
    c.GrowsTo { c with statics := (c.surroundings enums settings).staticsAfter fields } := by
  unfold Surroundings.staticsAfter
  split
  · rename_i new
    have added : c.addStatic settings.slot =
        .ok { c with statics := c.statics ++ [settings.slot] } :=
      if_neg fun taken => new.1 (DataClass.hasMember_iff.mp taken)
    exact growsTo_addStatic added
  · exact .refl c

/-- **A scan makes a class grow**, whether or not it comes to the end of the class. -/
theorem growsTo_scan (c : DataClass) : c.GrowsTo (c.scan enums settings).result := by
  let settle := (c.surroundings enums settings).settle
  let visited := c.fields.takeWhile (c.surroundings enums settings).settles
  let left := c.fields.dropWhile (c.surroundings enums settings).settles
  have settled : List.Forall₂ Field.GrowsTo visited (visited.map settle) :=
    List.forall₂_map_right_iff.mpr
      (List.forall₂_same.mpr fun field _ => growsTo_settle _ field)
  have fields : List.Forall₂ Field.GrowsTo (visited ++ left) (visited.map settle ++ left) :=
    List.rel_append settled (List.forall₂_same.mpr fun field _ => .refl field)
  rw [List.takeWhile_append_dropWhile] at fields
  rw [(scan_eq c enums settings).1]
  exact (growsTo_staticsAfter enums settings c visited).trans (growsTo_fields fields)

theorem growsTo_scanClasses (classes : List DataClass) :
    List.Forall₂ DataClass.GrowsTo classes (scanClasses enums settings classes).classes := by
  induction classes with
  | nil => exact .nil
  | cons c rest ih =>
    rw [scanClasses]
    cases (c.scan enums settings).fault with
    | some malformed =>
      exact .cons (growsTo_scan enums settings c) (List.forall₂_same.mpr fun d _ => .refl d)
    | none => exact .cons (growsTo_scan enums settings c) ih

end

/-- **A fixed-value pass makes a model grow**, also if a malformed value ends it. -/
theorem growsTo_pass (model : Model) (settings : Settings) :
    model.GrowsTo (model.applyFixedValues settings).model :=
  ⟨rfl, rfl, growsTo_scanClasses model.enums settings model.classes⟩

end SchemaBinding
