/-
**Look-ups among different keys.**

Where the keys of items differ, a look-up finds the one item that has the key, from either end of the
list. So it makes no difference in which order the items stand.
-/

import Mathlib.Data.List.Nodup

namespace SchemaBinding

section

variable {α : Type} {key : α → String} {items others : List α} {wanted : String} {item : α}

/-- **A look-up finds exactly the item that has the key.** -/
theorem find?_key_eq_some_iff (distinct : (items.map key).Nodup) :
    items.find? (key · == wanted) = some item ↔ item ∈ items ∧ key item = wanted := by
  have keyed_of_found {other : α} (found : items.find? (key · == wanted) = some other) :
      key other = wanted := by
    have keyed := List.find?_some found
    exact beq_iff_eq.mp keyed
  constructor
  · intro found
    exact ⟨List.mem_of_find?_eq_some found, keyed_of_found found⟩
  · rintro ⟨member, keyed⟩
    cases found : items.find? (key · == wanted) with
    | none => exact absurd (beq_iff_eq.mpr keyed) (List.find?_eq_none.mp found item member)
    | some other =>
      have same : key other = key item := (keyed_of_found found).trans keyed.symm
      rw [List.inj_on_of_nodup_map distinct (List.mem_of_find?_eq_some found) member same]

/-- So does a look-up from the end. -/
theorem reverse_find?_key_eq_some_iff (distinct : (items.map key).Nodup) :
    items.reverse.find? (key · == wanted) = some item ↔ item ∈ items ∧ key item = wanted := by
  rw [find?_key_eq_some_iff, List.mem_reverse]
  rw [List.map_reverse, List.nodup_reverse]
  exact distinct

theorem find?_reordered (same : items.Perm others) (distinct : (items.map key).Nodup)
    (wanted : String) : items.find? (key · == wanted) = others.find? (key · == wanted) := by
  have distinct' : (others.map key).Nodup := (same.map key).nodup_iff.mp distinct
  ext item
  rw [find?_key_eq_some_iff distinct, find?_key_eq_some_iff distinct', same.mem_iff]

theorem reverse_find?_reordered (same : items.Perm others) (distinct : (items.map key).Nodup)
    (wanted : String) :
    items.reverse.find? (key · == wanted) = others.reverse.find? (key · == wanted) := by
  have distinct' : (others.map key).Nodup := (same.map key).nodup_iff.mp distinct
  ext item
  rw [reverse_find?_key_eq_some_iff distinct, reverse_find?_key_eq_some_iff distinct', same.mem_iff]

end

end SchemaBinding
