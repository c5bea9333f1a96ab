/-
**Passages through a document.**

Reading goes from place to place. A list of events is a passage (`Reads`) if it leads from one place
to another without passing anything over at either, and passages follow each other
(`Reads.append`). So the parts of a document are read by themselves, each from the place where the
part before it ends: one tag (`Reads.start`, `Reads.empty`, `Reads.finish`), an element with what
stands inside it (`Reads.around`), or any number of like parts (`Reads.each`).
-/

import SchemaBinding.Proofs.Document.Tags

namespace SchemaBinding

open Markup (Event Tag)

/-- The events lead from one place to another, with nothing passed over at either. -/
def Reads (events : List Event) (before after : Place) : Prop :=
  ReadingState.run { place := before } events = .ok { place := after }

section

variable (place : Place) (tag : Tag)

theorem step_start : ReadingState.step { place } (.start tag) = ReadingState.start place tag := rfl

theorem step_empty : ReadingState.step { place } (.empty tag) = ReadingState.empty place tag := rfl

theorem step_finish :
    ReadingState.step { place } .finish = .ok { place := ReadingState.finish place } := rfl

end

namespace Reads

theorem nil (place : Place) : Reads [] place place := rfl

/-- **Passages follow each other.** -/
theorem append {first second : List Event} {before middle after : Place}
    (one : Reads first before middle) (two : Reads second middle after) :
    Reads (first ++ second) before after := by
  unfold Reads at one two ⊢
  rw [ReadingState.run_append, one]
  exact two

theorem single {event : Event} {before after : Place}
    (step : ReadingState.step { place := before } event = .ok { place := after }) :
    Reads [event] before after := by
  unfold Reads
  rw [ReadingState.run_cons, step]
  rfl

/-- **Reading items one after another**, where the place depends on the items read so far. -/
theorem each {α : Type} (write : α → List Event) (place : List α → Place) (items : List α)
    (step : ∀ done item rest, items = done ++ item :: rest → item ∈ items →
      Reads (write item) (place done) (place (done ++ [item]))) :
    Reads (items.flatMap write) (place []) (place items) := by
  have remaining : ∀ rest done, items = done ++ rest →
      Reads (rest.flatMap write) (place done) (place items) := by
    intro rest
    induction rest with
    | nil =>
      intro done whole
      rw [List.append_nil] at whole
      rw [whole]
      exact nil (place done)
    | cons item rest ih =>
      intro done whole
      have member : item ∈ items := by
        rw [whole]
        exact List.mem_append_right done List.mem_cons_self
      have first := step done item rest whole member
      rw [List.append_cons] at whole
      rw [List.flatMap_cons]
      exact first.append (ih (done ++ [item]) whole)
  exact remaining items [] rfl

theorem eachEmpty {α : Type} (tag : α → Tag) (place : List α → Place) (items : List α)
    (step : ∀ done, ∀ item ∈ items,
      Reads [.empty (tag item)] (place done) (place (done ++ [item]))) :
    Reads (items.map fun item => .empty (tag item)) (place []) (place items) := by
  rw [List.map_eq_flatMap]
  exact each (fun item => [.empty (tag item)]) place items fun done item _ _ member =>
    step done item member

section

variable {schema : Schema} {component next : Component} {tag : Tag}

theorem start (taken : component.start tag = .ok (next, false)) :
    Reads [.start tag] (.inSchema schema (some component)) (.inSchema schema (some next)) := by
  refine single ?_
  rw [step_start]
  unfold ReadingState.start
  simp only [taken]
  rfl

theorem empty (taken : component.empty tag = .ok next) :
    Reads [.empty tag] (.inSchema schema (some component)) (.inSchema schema (some next)) := by
  refine single ?_
  rw [step_empty]
  unfold ReadingState.empty
  simp only [taken]
  rfl

theorem finish (taken : component.finish? = some next) :
    Reads [.finish] (.inSchema schema (some component)) (.inSchema schema (some next)) := by
  refine single ?_
  rw [step_finish]
  unfold ReadingState.finish
  simp only [taken]

/-- The end tag of a component completes it. -/
theorem complete (taken : component.finish? = none) :
    Reads [.finish] (.inSchema schema (some component))
      (.inSchema (component.addTo schema) none) := by
  refine single ?_
  rw [step_finish]
  unfold ReadingState.finish
  simp only [taken]

/-- The start tag of a component begins it. -/
theorem begun {style : TagStyle} {word : String} {attributes : List (String × String)}
    (bare : ':' ∉ word.toList) (other : word ≠ "schema")
    (found : Component.ofTag? schema (style.tag word attributes) = .ok (some component)) :
    Reads [.start (style.tag word attributes)] (.inSchema schema none)
      (.inSchema schema (some component)) := by
  refine single ?_
  rw [step_start]
  unfold ReadingState.start
  rw [style.localName_tag word bare]
  simp only [if_neg other, found]
  rfl

end

/-- Reading what stands between a start tag and its end tag. -/
theorem around {style : TagStyle} {word : String} {attributes : List (String × String)}
    {inner : List Event} {before opened closing after : Place}
    (start : Reads [.start (style.tag word attributes)] before opened)
    (inside : Reads inner opened closing) (finish : Reads [.finish] closing after) :
    Reads (style.around word attributes inner) before after :=
  start.append (inside.append finish)

end Reads

end SchemaBinding
