/-
**Documents that end too early.**

A document may end while tags are open. If one of them began a component, the schema is refused,
since the component lacks its end. If not, what is open is the tag of the schema and content that is
passed over, and the end of the document is taken for the end tags that are missing: the document is
read as if they stood there (`EventStream.closed`).

Which of the two it is depends on one tag only, the outermost open one apart from that of the schema
(`insideComponent`), for only there can a component begin.
-/

import SchemaBinding.Proofs.Document.Nesting

namespace SchemaBinding

open Markup (Event EventStream Tag openTags)

/-- **A component is open among the given tags**, which are listed from the innermost on: the
outermost one apart from that of the schema begins one. -/
def insideComponent (opened : List Tag) : Bool :=
  (opened.reverse.find? fun tag => tag.localName != "schema").any (·.beginsComponent)

/-- The stream with an end tag for each tag that is open at its end. -/
def Markup.EventStream.closed (stream : EventStream) : EventStream :=
  { stream with
    events := stream.events ++ List.replicate (openTags stream.events).length .finish }

/-! ### The tag that decides -/

theorem localName_ne_schema {tag : Tag} (begins : tag.beginsComponent = true) :
    tag.localName ≠ "schema" := by
  intro same
  rw [Tag.beginsComponent, same] at begins
  exact absurd begins (by decide)

/-- The tag of the schema does not count. -/
theorem insideComponent_append {outer : List Tag}
    (outermost : ∀ tag ∈ outer, tag.localName = "schema") (opened : List Tag) :
    insideComponent (opened ++ outer) = insideComponent opened := by
  have none : outer.reverse.find? (fun tag => tag.localName != "schema") = none := by
    refine List.find?_eq_none.mpr fun tag member => ?_
    simpa using outermost tag (List.mem_reverse.mp member)
  rw [insideComponent, List.reverse_append, List.find?_append, none, Option.none_or]
  rfl

/-- Between components, what is passed over begins none. -/
theorem insideComponent_passed {passed : List Tag}
    (unknown : ∀ tag ∈ passed.getLast?, tag.localName ≠ "schema" ∧ tag.beginsComponent = false) :
    insideComponent passed = false := by
  unfold insideComponent
  rw [← List.head?_reverse] at unknown
  cases outer : passed.reverse with
  | nil => rfl
  | cons tag rest =>
    obtain ⟨other, plain⟩ := unknown tag (by rw [outer]; rfl)
    rw [List.find?_cons_of_pos (by simpa using other)]
    exact plain

theorem insideComponent_begun {first : Tag} (begun : first.beginsComponent = true)
    (inner : List Tag) : insideComponent (inner ++ [first]) = true := by
  simp [insideComponent, localName_ne_schema begun, begun]

section

variable {state : ReadingState} {opened : List Tag} (accounts : Accounts state opened)

include accounts

/-- Inside a component the outermost open tag, that of the schema apart, is the one that began it. -/
theorem insideComponent_of_accounts {schema : Schema} {component : Component}
    (place : state.place = .inSchema schema (some component)) : insideComponent opened = true := by
  cases accounts with
  | beforeSchema | betweenComponents => exact nomatch place
  | @inComponent _ _ passed inner first outer begun _ outermost =>
    rw [List.append_cons inner first outer, ← List.append_assoc, insideComponent_append outermost,
      ← List.append_assoc]
    exact insideComponent_begun begun (passed ++ inner)

theorem not_insideComponent_of_accounts {schema : Schema}
    (place : state.place = .inSchema schema none) : insideComponent opened = false := by
  cases accounts with
  | beforeSchema | inComponent => exact nomatch place
  | betweenComponents passed unknown outermost =>
    rw [insideComponent_append outermost]
    exact insideComponent_passed unknown

end

/-! ### The end of the document -/

namespace ReadingState

/-- End tags change nothing where no component is open, but the count of what is passed over. -/
theorem exists_run_finishes {state : ReadingState} (outside : finish state.place = state.place)
    (count : Nat) :
    ∃ left, run state (List.replicate count .finish) = .ok { state with passedOver := left } := by
  obtain ⟨place, passed⟩ := state
  dsimp only at outside
  induction count generalizing passed with
  | zero => exact ⟨passed, rfl⟩
  | succ count ih =>
    rw [List.replicate_succ, run_cons]
    cases passed with
    | zero =>
      obtain ⟨left, rest⟩ := ih 0
      refine ⟨left, ?_⟩
      show run { place := finish place } _ = _
      rw [outside]
      exact rest
    | succ passed => exact ih passed

end ReadingState

section

variable {stream : EventStream}

theorem ofStream_of_stopped {fault : SchemaFault}
    (stopped : ReadingState.run {} stream.events = .error fault) :
    Schema.ofStream stream = .error fault := by
  unfold Schema.ofStream
  rw [stopped]
  rfl

theorem ofStream_of_read {state : ReadingState}
    (read : ReadingState.run {} stream.events = .ok state) :
    Schema.ofStream stream =
      match stream.fault with
      | some fault => .error (.document fault)
      | none => state.conclude := by
  unfold Schema.ofStream
  rw [read]
  rfl

theorem run_closed :
    ReadingState.run {} stream.closed.events =
      (ReadingState.run {} stream.events).bind
        (·.run (List.replicate (openTags stream.events).length .finish)) :=
  ReadingState.run_append _ _ _

/-- **A document that ends inside a component is refused.** -/
theorem exists_fault_of_insideComponent (inside : insideComponent (openTags stream.events) = true) :
    ∃ fault, Schema.ofStream stream = .error fault := by
  cases read : ReadingState.run {} stream.events with
  | error fault => exact ⟨fault, ofStream_of_stopped read⟩
  | ok state =>
    rw [ofStream_of_read read]
    cases stream.fault with
    | some fault => exact ⟨_, rfl⟩
    | none =>
      dsimp only
      unfold ReadingState.conclude
      match place : state.place with
      | .beforeSchema => exact ⟨_, rfl⟩
      | .inSchema schema (some component) => exact ⟨_, rfl⟩
      | .inSchema schema none =>
        rw [not_insideComponent_of_accounts (accounts_openTags read) place] at inside
        exact nomatch inside

/-- **A document that ends outside all components is read as if its tags were closed.** -/
theorem ofStream_closed (outside : insideComponent (openTags stream.events) = false) :
    Schema.ofStream stream.closed = Schema.ofStream stream := by
  cases read : ReadingState.run {} stream.events with
  | error fault =>
    rw [ofStream_of_stopped read]
    refine ofStream_of_stopped ?_
    rw [run_closed, read]
    rfl
  | ok state =>
    have same : ReadingState.finish state.place = state.place := by
      match place : state.place with
      | .beforeSchema => rfl
      | .inSchema schema none => rfl
      | .inSchema schema (some component) =>
        rw [insideComponent_of_accounts (accounts_openTags read) place] at outside
        exact nomatch outside
    obtain ⟨left, finished⟩ :=
      ReadingState.exists_run_finishes same (openTags stream.events).length
    have closed : ReadingState.run {} stream.closed.events =
        .ok { state with passedOver := left } := by
      rw [run_closed, read]
      exact finished
    rw [ofStream_of_read read, ofStream_of_read closed]
    rfl

end

/-- **What becomes of a document that ends while tags are open.** If a component is open, the schema
is refused. Otherwise the missing end tags do not matter: what is read, schema or fault, is what is
read from the document with all its tags closed. -/
theorem ofText_of_open_tags (text : String) :
    let stream := EventStream.ofText text
    let opened := openTags stream.events
    (insideComponent opened = true ∧ ∃ fault, Schema.ofText text = .error fault) ∨
      (insideComponent opened = false ∧ Schema.ofText text = Schema.ofStream stream.closed) := by
  intro stream opened
  cases inside : insideComponent opened with
  | true => exact .inl ⟨rfl, exists_fault_of_insideComponent inside⟩
  | false => exact .inr ⟨rfl, (ofStream_closed inside).symm⟩

/-- **A document may be cut off and be accepted**: here inside an annotation, with the schema open
around it. -/
theorem accepts_open_annotation :
    (EventStream.ofText "<schema><annotation>").fault = none ∧
      (openTags (EventStream.ofText "<schema><annotation>").events).length = 2 ∧
      ∃ schema, Schema.ofText "<schema><annotation>" = .ok schema := by
  have accepted : (Schema.ofText "<schema><annotation>").isOk = true := by decide +kernel
  refine ⟨by decide +kernel, by decide +kernel, ?_⟩
  cases read : Schema.ofText "<schema><annotation>" with
  | ok schema => exact ⟨schema, rfl⟩
  | error fault => simp [read, Except.isOk, Except.toBool] at accepted

end SchemaBinding
