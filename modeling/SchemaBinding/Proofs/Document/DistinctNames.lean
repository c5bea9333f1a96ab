/-
**The names of components are different in a schema that has been read.**

A component holds its name from its first tag on (`Component.claim?`), and joins the schema at its
last. Its name is new when it begins, and nothing can take it meanwhile, because components of the
schema do not stand inside each other. There are few ways in which an event can move the place of
a reading (`Place.Moves`), and each keeps the names of types, simple and complex ones together, and
those of groups different from each other and from the name that is held (`Place.Distinct`). No name
is held by an element or by the type inside it, and their names may be used any number of times.
-/

import SchemaBinding.Proofs.Fallible
import SchemaBinding.Schema.Reading

namespace SchemaBinding

open Markup (Event EventStream Tag)

/-- The names of the components of a kind. -/
def Schema.definedNames (schema : Schema) : DefinitionKind → List String
  | .type => schema.simpleTypes.map (·.name) ++ schema.complexTypes.map (·.name)
  | .group => schema.groups.map (·.name)

/-- **The names of types are different, and so are those of groups.** -/
def Schema.NamesDistinct (schema : Schema) : Prop := ∀ kind, (schema.definedNames kind).Nodup

theorem Schema.mem_definedNames_type {schema : Schema} {name : String} :
    name ∈ schema.definedNames .type ↔ schema.hasType name = true := by
  simp [definedNames, hasType]

theorem Schema.mem_definedNames_group {schema : Schema} {name : String} :
    name ∈ schema.definedNames .group ↔ (schema.group? name).isSome = true := by
  simp [definedNames, group?, List.find?_isSome]

namespace Component

/-- **The name that a component holds** until it is complete. -/
def claim? : Component → Option (DefinitionKind × String)
  | .simpleType _ type => some (.type, type.name)
  | .complexType _ _ type _ none => some (.type, type.name)
  | .complexType _ _ _ _ (some _) => none
  | .group name _ => some (.group, name)
  | .element _ => none

/-- The name that a component holds is not taken in the schema. -/
def FreshIn (component : Component) (schema : Schema) : Prop :=
  ∀ kind name, component.claim? = some (kind, name) → name ∉ schema.definedNames kind

variable {schema : Schema} {component next : Component} {tag : Tag}

/-! ### A component holds its name -/

theorem name_of_restrict {type restricted : SimpleType} (taken : restrict type tag = .ok restricted) :
    restricted.name = type.name := by
  obtain ⟨base, -, taken⟩ := exists_of_bind_ok taken
  cases base <;> rw [← Except.ok.inj taken]

theorem name_of_enumerate {type enumerated : SimpleType}
    (taken : enumerate type tag = .ok enumerated) : enumerated.name = type.name := by
  obtain ⟨value, -, taken⟩ := exists_of_bind_ok taken
  rw [← Except.ok.inj taken]

theorem name_of_derive {simple : Bool} {type derived : ComplexType}
    (taken : derive simple type tag = .ok derived) : derived.name = type.name := by
  unfold derive at taken
  cases simple with
  | true =>
    obtain ⟨base, -, taken⟩ := exists_of_bind_ok taken
    rw [← Except.ok.inj taken]
  | false => rw [← Except.ok.inj taken]

theorem name_of_declare {type declared : ComplexType} (taken : declare type tag = .ok declared) :
    declared.name = type.name := by
  obtain ⟨decl, -, taken⟩ := exists_of_bind_ok taken
  rw [← Except.ok.inj taken]

/-- The name of a complex type is held unless the type has an owner. -/
theorem claim?_complexType {depth depth' : Nat} {simple simple' : Bool} {type type' : ComplexType}
    {content content' : OpenContent} {owner : Option TopLevelElement}
    (same : type'.name = type.name) :
    (complexType depth' simple' type' content' owner).claim? =
      (complexType depth simple type content owner).claim? := by
  cases owner with
  | none => rw [claim?, claim?, same]
  | some owner => rfl

theorem claim?_start {passed : Bool} (taken : component.start tag = .ok (next, passed)) :
    next.claim? = component.claim? := by
  cases component with
  | simpleType depth type =>
    unfold start at taken
    dsimp only at taken
    split at taken
    · obtain ⟨restricted, step, taken⟩ := exists_of_bind_ok taken
      obtain ⟨rfl, rfl⟩ := Prod.mk.inj (Except.ok.inj taken)
      rw [claim?, claim?, name_of_restrict step]
    · obtain ⟨enumerated, step, taken⟩ := exists_of_bind_ok taken
      obtain ⟨rfl, rfl⟩ := Prod.mk.inj (Except.ok.inj taken)
      rw [claim?, claim?, name_of_enumerate step]
    · obtain ⟨rfl, rfl⟩ := Prod.mk.inj (Except.ok.inj taken)
      rfl
  | complexType depth simple type content owner =>
    unfold start at taken
    dsimp only at taken
    split at taken
    · obtain ⟨⟨inner, flag⟩, -, taken⟩ := exists_of_map_ok taken
      obtain ⟨rfl, rfl⟩ := Prod.mk.inj taken
      exact claim?_complexType rfl
    · split at taken
      · obtain ⟨rfl, rfl⟩ := Prod.mk.inj (Except.ok.inj taken)
        exact claim?_complexType rfl
      · obtain ⟨rfl, rfl⟩ := Prod.mk.inj (Except.ok.inj taken)
        exact claim?_complexType rfl
      · obtain ⟨derived, step, taken⟩ := exists_of_bind_ok taken
        obtain ⟨rfl, rfl⟩ := Prod.mk.inj (Except.ok.inj taken)
        exact claim?_complexType (name_of_derive step)
      · obtain ⟨derived, step, taken⟩ := exists_of_bind_ok taken
        obtain ⟨rfl, rfl⟩ := Prod.mk.inj (Except.ok.inj taken)
        exact claim?_complexType (name_of_derive step)
      · obtain ⟨declared, step, taken⟩ := exists_of_bind_ok taken
        obtain ⟨rfl, rfl⟩ := Prod.mk.inj (Except.ok.inj taken)
        exact claim?_complexType (name_of_declare step)
      · obtain ⟨particle, -, taken⟩ := exists_of_bind_ok taken
        obtain ⟨rfl, rfl⟩ := Prod.mk.inj (Except.ok.inj taken)
        exact claim?_complexType rfl
      · obtain ⟨rfl, rfl⟩ := Prod.mk.inj (Except.ok.inj taken)
        rfl
  | group name content =>
    obtain ⟨⟨inner, flag⟩, -, taken⟩ := exists_of_map_ok taken
    obtain ⟨rfl, rfl⟩ := Prod.mk.inj taken
    rfl
  | element owner =>
    unfold start at taken
    dsimp only at taken
    split at taken
    · obtain ⟨rfl, rfl⟩ := Prod.mk.inj (Except.ok.inj taken)
      rfl
    · obtain ⟨rfl, rfl⟩ := Prod.mk.inj (Except.ok.inj taken)
      rfl

theorem claim?_empty (taken : component.empty tag = .ok next) : next.claim? = component.claim? := by
  cases component with
  | simpleType depth type =>
    unfold empty at taken
    dsimp only at taken
    split at taken
    · obtain ⟨restricted, step, taken⟩ := exists_of_bind_ok taken
      rw [← Except.ok.inj taken, claim?, claim?, name_of_restrict step]
    · obtain ⟨enumerated, step, taken⟩ := exists_of_bind_ok taken
      rw [← Except.ok.inj taken, claim?, claim?, name_of_enumerate step]
    · rw [← Except.ok.inj taken]
  | complexType depth simple type content owner =>
    unfold empty at taken
    dsimp only at taken
    split at taken
    · obtain ⟨inner, -, rfl⟩ := exists_of_map_ok taken
      exact claim?_complexType rfl
    · split at taken
      · obtain ⟨declared, step, taken⟩ := exists_of_bind_ok taken
        rw [← Except.ok.inj taken]
        exact claim?_complexType (name_of_declare step)
      · obtain ⟨particle, -, taken⟩ := exists_of_bind_ok taken
        rw [← Except.ok.inj taken]
        exact claim?_complexType rfl
      · obtain ⟨derived, step, taken⟩ := exists_of_bind_ok taken
        rw [← Except.ok.inj taken]
        exact claim?_complexType (name_of_derive step)
      · obtain ⟨derived, step, taken⟩ := exists_of_bind_ok taken
        rw [← Except.ok.inj taken]
        exact claim?_complexType (name_of_derive step)
      · rw [← Except.ok.inj taken]
  | group name content =>
    obtain ⟨inner, -, rfl⟩ := exists_of_map_ok taken
    rfl
  | element owner =>
    unfold empty at taken
    dsimp only at taken
    split at taken
    · rw [← Except.ok.inj taken]
      rfl
    · rw [← Except.ok.inj taken]

theorem claim?_finish (left : component.finish? = some next) : next.claim? = component.claim? := by
  cases component with
  | simpleType depth type =>
    cases depth with
    | zero => exact nomatch left
    | succ depth =>
      rw [← Option.some.inj left]
      rfl
  | complexType depth simple type content owner =>
    unfold finish? at left
    dsimp only at left
    split at left
    · rw [← Option.some.inj left]
      exact claim?_complexType rfl
    · rw [← Option.some.inj left]
      exact claim?_complexType rfl
    · rw [← Option.some.inj left]
      rfl
    · exact nomatch left
  | group name content =>
    obtain ⟨inner, -, rfl⟩ := Option.map_eq_some_iff.mp left
    rfl
  | element owner => exact nomatch left

/-! ### Beginning and end -/

theorem fresh_of_claim? {kind : DefinitionKind} {name : String}
    (held : component.claim? = some (kind, name)) (free : name ∉ schema.definedNames kind) :
    component.FreshIn schema := by
  intro kind' name' held'
  obtain ⟨rfl, rfl⟩ := Prod.mk.inj (Option.some.inj (held.symm.trans held'))
  exact free

/-- **A component begins with a new name**, and could end at once. -/
theorem fresh_of_ofTag? (found : ofTag? schema tag = .ok (some component)) :
    component.FreshIn schema ∧ component.finish? = none := by
  unfold ofTag? at found
  split at found
  · obtain ⟨name, -, found⟩ := exists_of_bind_ok found
    split at found
    · exact nomatch found
    · rename_i free
      rw [← Option.some.inj (Except.ok.inj found)]
      exact ⟨fresh_of_claim? rfl fun taken => free (Schema.mem_definedNames_type.mp taken), rfl⟩
  · obtain ⟨name, -, found⟩ := exists_of_bind_ok found
    split at found
    · exact nomatch found
    · rename_i free
      rw [← Option.some.inj (Except.ok.inj found)]
      exact ⟨fresh_of_claim? rfl fun taken => free (Schema.mem_definedNames_type.mp taken), rfl⟩
  · obtain ⟨name, -, found⟩ := exists_of_bind_ok found
    split at found
    · exact nomatch found
    · rename_i free
      rw [← Option.some.inj (Except.ok.inj found)]
      exact ⟨fresh_of_claim? rfl fun taken => free (Schema.mem_definedNames_group.mp taken), rfl⟩
  · obtain ⟨decl, -, found⟩ := exists_of_bind_ok found
    rw [← Option.some.inj (Except.ok.inj found)]
    exact ⟨nofun, rfl⟩
  · exact nomatch found

/-- The names of a schema after a complete component has joined it: its name is new, and no other
one is. -/
theorem definedNames_addTo (complete : component.finish? = none) (kind : DefinitionKind) :
    ((component.addTo schema).definedNames kind).Perm
      ((component.claim?.filter (·.1 == kind)).toList.map Prod.snd ++ schema.definedNames kind) := by
  cases component with
  | simpleType depth type =>
    cases kind with
    | type =>
      show (((schema.simpleTypes ++ [type]).map _ ++ _).Perm (type.name :: _))
      rw [List.map_append, List.append_assoc]
      exact List.perm_middle
    | group => exact .rfl
  | complexType depth simple type content owner =>
    cases owner with
    | some owner =>
      -- A type inside an element is handed to its owner at its end, and joins no schema.
      unfold finish? at complete
      dsimp only at complete
      split at complete
      · exact nomatch complete
      · exact nomatch complete
      · exact nomatch complete
      · rename_i none
        exact nomatch none
    | none =>
      cases kind with
      | type =>
        show ((_ ++ (schema.complexTypes ++ [withContent type content]).map _).Perm (type.name :: _))
        rw [List.map_append, ← List.append_assoc]
        exact List.perm_append_singleton _ _
      | group => exact .rfl
  | group name content =>
    cases kind with
    | type => exact .rfl
    | group =>
      show (((schema.groups ++ [_]).map _).Perm (name :: _))
      rw [List.map_append]
      exact List.perm_append_singleton _ _
  | element owner => cases kind <;> exact .rfl

/-- A complete component joins a schema and keeps the names different. -/
theorem namesDistinct_addTo (distinct : schema.NamesDistinct) (fresh : component.FreshIn schema)
    (complete : component.finish? = none) : (component.addTo schema).NamesDistinct := by
  intro kind
  rw [(definedNames_addTo complete kind).nodup_iff]
  cases claimed : component.claim?.filter (·.1 == kind) with
  | none => exact distinct kind
  | some claim =>
    obtain ⟨held, same⟩ := Option.filter_eq_some_iff.mp claimed
    obtain ⟨kind', name⟩ := claim
    obtain rfl := beq_iff_eq.mp same
    exact List.nodup_cons.mpr ⟨fresh _ name held, distinct _⟩

end Component

/-! ### What an event does -/

/-- **The component that an event completes** at a place, if it completes one: the one that is open
there and that an end tag leaves nothing of, or one that is an empty element. -/
def Place.completed? (place : Place) : Event → Option Component
  | .finish =>
    match place with
    | .inSchema _ (some component) => if component.finish?.isNone then some component else none
    | _ => none
  | .empty tag =>
    match place with
    | .inSchema schema none => (Component.ofTag? schema tag).toOption.join
    | _ => none
  | .start _ | .passive => none

/-- **What an event does to the place of a reading**, and which component it completes, if any. It
may leave the place as it is, enter the schema, begin a component with a new name, go on with one
that holds its name, or add one that is complete. -/
inductive Place.Moves : Place → Option Component → Place → Prop
  | stays (place : Place) : Moves place none place
  | enters (targetNamespace : Option String) :
    Moves .beforeSchema none (.inSchema { targetNamespace } none)
  | begins {schema : Schema} {component : Component} (fresh : component.FreshIn schema) :
    Moves (.inSchema schema none) none (.inSchema schema (some component))
  | goesOn {schema : Schema} {component next : Component} (same : next.claim? = component.claim?) :
    Moves (.inSchema schema (some component)) none (.inSchema schema (some next))
  | completes {schema : Schema} {component : Component} (complete : component.finish? = none) :
    Moves (.inSchema schema (some component)) (some component)
      (.inSchema (component.addTo schema) none)
  /-- An empty element begins and completes its component. -/
  | defines {schema : Schema} {component : Component} (fresh : component.FreshIn schema)
      (complete : component.finish? = none) :
    Moves (.inSchema schema none) (some component) (.inSchema (component.addTo schema) none)

/-- No component is open at a place that is not inside one. -/
theorem Place.eq_none_of_outside {schema : Schema} {component : Option Component}
    (outside : ∀ schema' held,
      Place.inSchema schema component = .inSchema schema' (some held) → False) :
    component = none :=
  Option.eq_none_iff_forall_ne_some.mpr fun held same => outside schema held (by rw [same])

namespace ReadingState

variable {state next : ReadingState} {place : Place} {tag : Tag}

/-- The component that an event completes. Nothing is completed in content that is passed over. -/
def completed? (state : ReadingState) (event : Event) : Option Component :=
  if state.passedOver = 0 then state.place.completed? event else none

/-- **The components that events complete**, in order, as long as the events can be read. -/
def completed (state : ReadingState) : List Event → List Component
  | [] => []
  | event :: rest =>
    (state.completed? event).toList ++
      match state.step event with
      | .ok next => next.completed rest
      | .error _ => []

/-- A schema is entered from outside, where no component can end. -/
theorem moves_enterSchema {entered : Place} (taken : enterSchema place tag = .ok entered)
    (event : Event) : place.Moves (place.completed? event) entered := by
  cases place with
  | inSchema schema component => exact nomatch taken
  | beforeSchema =>
    have nothing : Place.completed? .beforeSchema event = none := by cases event <;> rfl
    obtain ⟨targetNamespace, -, taken⟩ := exists_of_bind_ok taken
    rw [← Except.ok.inj taken, nothing]
    exact .enters targetNamespace

theorem moves_start (taken : start place tag = .ok next) : place.Moves none next.place := by
  unfold start at taken
  split at taken
  · obtain ⟨⟨component', passed⟩, started, taken⟩ := exists_of_bind_ok taken
    rw [← Except.ok.inj taken]
    exact .goesOn (Component.claim?_start started)
  · rename_i outside
    split at taken
    · obtain ⟨entered, step, taken⟩ := exists_of_bind_ok taken
      rw [← Except.ok.inj taken]
      exact moves_enterSchema step (.start tag)
    · split at taken
      · rename_i component
        obtain ⟨found, begins, taken⟩ := exists_of_bind_ok taken
        cases found with
        | none =>
          rw [← Except.ok.inj taken]
          exact .stays _
        | some begun =>
          obtain rfl := Place.eq_none_of_outside outside
          rw [← Except.ok.inj taken]
          exact .begins (Component.fresh_of_ofTag? begins).1
      · rw [← Except.ok.inj taken]
        exact .stays _

theorem moves_empty (taken : empty place tag = .ok next) :
    place.Moves (place.completed? (.empty tag)) next.place := by
  unfold empty at taken
  split at taken
  · obtain ⟨component', emptied, taken⟩ := exists_of_bind_ok taken
    rw [← Except.ok.inj taken]
    exact .goesOn (Component.claim?_empty emptied)
  · rename_i outside
    split at taken
    · obtain ⟨entered, step, taken⟩ := exists_of_bind_ok taken
      rw [← Except.ok.inj taken]
      exact moves_enterSchema step _
    · split at taken
      · rename_i schema component
        obtain rfl := Place.eq_none_of_outside outside
        obtain ⟨found, begins, taken⟩ := exists_of_bind_ok taken
        have completed : Place.completed? (.inSchema schema none) (.empty tag) = found := by
          show (Component.ofTag? schema tag).toOption.join = found
          rw [begins]
          rfl
        rw [completed]
        cases found with
        | none =>
          rw [← Except.ok.inj taken]
          exact .stays _
        | some begun =>
          rw [← Except.ok.inj taken]
          obtain ⟨fresh, complete⟩ := Component.fresh_of_ofTag? begins
          exact .defines fresh complete
      · rw [← Except.ok.inj taken]
        exact .stays _

theorem moves_finish (place : Place) : place.Moves (place.completed? .finish) (finish place) := by
  unfold finish
  split
  · rename_i schema component
    have ended : Place.completed? (.inSchema schema (some component)) .finish =
        if component.finish?.isNone then some component else none := rfl
    rw [ended]
    cases left : component.finish? with
    | some component' => exact .goesOn (Component.claim?_finish left)
    | none => exact .completes left
  · rename_i outside
    have nothing : place.completed? .finish = none := by
      cases place with
      | beforeSchema => rfl
      | inSchema schema component =>
        obtain rfl := Place.eq_none_of_outside outside
        rfl
    rw [nothing]
    exact .stays _

/-- **Every event moves the place** in one of these ways. -/
theorem moves_step {event : Event} (taken : state.step event = .ok next) :
    state.place.Moves (state.completed? event) next.place := by
  unfold step at taken
  unfold completed?
  cases event with
  | passive =>
    rw [← Except.ok.inj taken, Place.completed?, ite_self]
    exact .stays _
  | start tag =>
    rw [Place.completed?, ite_self]
    dsimp only at taken
    split at taken
    · exact moves_start taken
    · rw [← Except.ok.inj taken]
      exact .stays _
  | empty tag =>
    dsimp only at taken
    split at taken
    · rename_i reading
      rw [if_pos reading]
      exact moves_empty taken
    · rename_i passed
      rw [if_neg passed, ← Except.ok.inj taken]
      exact .stays _
  | finish =>
    dsimp only at taken
    split at taken
    · rename_i reading
      rw [if_pos reading, ← Except.ok.inj taken]
      exact moves_finish _
    · rename_i depth passed
      rw [if_neg (by omega), ← Except.ok.inj taken]
      exact .stays _

/-- **What every move of the place keeps, holds wherever a run of events leads**, together with the
components that have been completed on the way. -/
theorem keeps_run {Kept : List Component → Place → Prop}
    (keeps : ∀ {before : List Component} {place next : Place} {found : Option Component},
      place.Moves found next → Kept before place → Kept (before ++ found.toList) next)
    {events : List Event} {before : List Component} (kept : Kept before state.place)
    (taken : state.run events = .ok next) : Kept (before ++ state.completed events) next.place := by
  induction events generalizing state before with
  | nil =>
    rw [← Except.ok.inj taken, completed, List.append_nil]
    exact kept
  | cons event rest ih =>
    rw [run_cons] at taken
    obtain ⟨middle, first, later⟩ := exists_of_bind_ok taken
    rw [completed, first, ← List.append_assoc]
    exact ih (keeps (moves_step first) kept) later

end ReadingState

/-- **The components that are read from a text**, in the order of the document. -/
def componentsRead (text : String) : List Component :=
  ReadingState.completed {} (EventStream.ofText text).events

/-- What every move keeps, and holds before a schema, holds of the schema that is read. -/
theorem kept_of_ofText {Kept : List Component → Place → Prop}
    (keeps : ∀ {before : List Component} {place next : Place} {found : Option Component},
      place.Moves found next → Kept before place → Kept (before ++ found.toList) next)
    (start : Kept [] .beforeSchema) {text : String} {schema : Schema}
    (accepted : Schema.ofText text = .ok schema) :
    Kept (componentsRead text) (.inSchema schema none) := by
  obtain ⟨state, taken, accepted⟩ := exists_of_bind_ok accepted
  have kept : Kept (componentsRead text) state.place := ReadingState.keeps_run keeps start taken
  split at accepted
  · exact nomatch accepted
  · unfold ReadingState.conclude at accepted
    split at accepted
    · exact nomatch accepted
    · rename_i place
      rw [← Except.ok.inj accepted, ← place]
      exact kept
    · exact nomatch accepted

/-! ### Reading keeps names different -/

/-- **The names of a schema are different where its reading stands**, and so is the name that is
held by a component. -/
def Place.Distinct : Place → Prop
  | .beforeSchema => True
  | .inSchema schema component =>
    schema.NamesDistinct ∧ ∀ held ∈ component, held.FreshIn schema

/-- No name is held between components. -/
theorem Place.distinct_of_namesDistinct {schema : Schema} (names : schema.NamesDistinct) :
    (Place.inSchema schema none).Distinct :=
  ⟨names, fun held member => absurd member (Option.not_mem_none held)⟩

theorem Component.FreshIn.of_claim? {schema : Schema} {component next : Component}
    (fresh : component.FreshIn schema) (same : next.claim? = component.claim?) :
    next.FreshIn schema := by
  intro kind name held
  exact fresh kind name (same.symm.trans held)

/-- **Every event keeps the names different.** -/
theorem Place.Moves.distinct {place next : Place} {found : Option Component}
    (moves : place.Moves found next) (distinct : place.Distinct) : next.Distinct := by
  cases moves with
  | stays => exact distinct
  | enters targetNamespace =>
    refine Place.distinct_of_namesDistinct fun kind => ?_
    cases kind <;> exact List.nodup_nil
  | begins fresh =>
    refine ⟨distinct.1, ?_⟩
    rintro _ ⟨⟩
    exact fresh
  | goesOn same =>
    obtain ⟨names, fresh⟩ := distinct
    refine ⟨names, ?_⟩
    rintro _ ⟨⟩
    exact (fresh _ rfl).of_claim? same
  | completes complete =>
    obtain ⟨names, fresh⟩ := distinct
    exact Place.distinct_of_namesDistinct
      (Component.namesDistinct_addTo names (fresh _ rfl) complete)
  | defines fresh complete =>
    exact Place.distinct_of_namesDistinct
      (Component.namesDistinct_addTo distinct.1 fresh complete)

/-- **The names of components are different in every schema that is read from a text.** -/
theorem namesDistinct_of_ofText {text : String} {schema : Schema}
    (accepted : Schema.ofText text = .ok schema) : schema.NamesDistinct :=
  (@kept_of_ofText (fun _ place => place.Distinct) Place.Moves.distinct trivial _ _ accepted).1

end SchemaBinding
