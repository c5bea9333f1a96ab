/-
**Steps that may fail, taken apart.**

A computation that may fail is a chain of steps, and its result tells how each of them ended: if the
whole succeeds, every step did, and if it fails, the fault is that of a step.
-/

namespace SchemaBinding

section

variable {ε δ α β : Type}

theorem exists_of_bind_ok {first : Except ε α} {next : α → Except ε β} {result : β}
    (succeeded : (first >>= next) = .ok result) :
    ∃ middle, first = .ok middle ∧ next middle = .ok result := by
  cases first with
  | error fault => exact nomatch succeeded
  | ok middle => exact ⟨middle, rfl, succeeded⟩

theorem map_eq_ok_iff {first : Except ε α} {f : α → β} {result : β} :
    first.map f = .ok result ↔ ∃ middle, first = .ok middle ∧ f middle = result := by
  cases first <;> simp [Except.map]

theorem exists_of_map_ok {first : Except ε α} {f : α → β} {result : β}
    (succeeded : first.map f = .ok result) : ∃ middle, first = .ok middle ∧ f middle = result :=
  map_eq_ok_iff.mp succeeded

theorem map_eq_error_iff {first : Except ε α} {f : α → β} {fault : ε} :
    first.map f = .error fault ↔ first = .error fault := by
  cases first <;> simp [Except.map]

theorem mapError_eq_error_iff {first : Except ε α} {f : ε → δ} {fault : δ} :
    first.mapError f = .error fault ↔ ∃ inner, first = .error inner ∧ f inner = fault := by
  constructor
  · intro failed
    cases first with
    | error inner => exact ⟨inner, rfl, Except.error.inj failed⟩
    | ok middle => exact nomatch failed
  · rintro ⟨inner, rfl, rfl⟩
    rfl

theorem mapError_eq_ok_iff {first : Except ε α} {f : ε → δ} {value : α} :
    first.mapError f = .ok value ↔ first = .ok value := by
  cases first with
  | error inner => exact iff_of_false nofun nofun
  | ok middle => constructor <;> exact fun same => congrArg Except.ok (Except.ok.inj same)

theorem ok_of_toOption {result : Except ε α} {value : α} (kept : result.toOption = some value) :
    result = .ok value := by
  cases result with
  | error fault => exact nomatch kept
  | ok middle => exact congrArg Except.ok (Option.some.inj kept)

end

end SchemaBinding
