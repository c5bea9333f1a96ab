/-
**A search for a free name finds one.**

Numbered names are searched for the first that is free. If different numbers have different names,
then among one name more than there are taken at least one is free, so the search stops at it
(`firstFree_notMem`), and it has passed over no other (`isLeast_firstFree`). Numbers that are written
behind a common beginning give different names (`numbered_injective`), so a name that is taken is
made free by the least number that does so (`freshName_of_mem`).
-/

import Mathlib.Data.List.Nodup
import Mathlib.Data.List.Perm.Subperm
import Mathlib.Order.Bounds.Defs
import SchemaBinding.Model.OfSchema
import SchemaBinding.Proofs.Number.Decimal

namespace SchemaBinding

section

variable {name : Nat → String} {taken : List String}

/-- A search that ends at a taken name has made all its steps. -/
theorem firstFreeWithin_of_mem {steps start : Nat}
    (occupied : name (firstFreeWithin name taken steps start) ∈ taken) :
    firstFreeWithin name taken steps start = start + steps := by
  induction steps generalizing start with
  | zero => rfl
  | succ steps ih =>
    rw [firstFreeWithin] at occupied ⊢
    by_cases first : taken.contains (name start) = true
    · rw [if_pos first] at occupied ⊢
      rw [ih occupied]
      omega
    · rw [if_neg first] at occupied
      exact absurd (List.contains_iff_mem.mpr occupied) first

/-- **The name that a search ends at is free**, if different numbers have different names. -/
theorem firstFree_notMem (different : Function.Injective name) (taken : List String)
    (start : Nat) : name (firstFree name taken start) ∉ taken := by
  intro occupied
  have last : firstFreeWithin name taken taken.length start = start + taken.length :=
    firstFreeWithin_of_mem occupied
  -- Then all names that were tried are taken, the last one included: one more than there are.
  have tried : (List.range' start (taken.length + 1)).map name ⊆ taken := by
    intro other member
    obtain ⟨number, inside, rfl⟩ := List.mem_map.mp member
    obtain ⟨low, high⟩ := List.mem_range'_1.mp inside
    by_cases final : number = start + taken.length
    · rw [final, ← last]
      exact occupied
    · have passed : number < firstFreeWithin name taken taken.length start := by omega
      exact mem_taken_of_lt_firstFreeWithin low passed
  have distinct : ((List.range' start (taken.length + 1)).map name).Nodup :=
    (List.nodup_range' 1).map different
  have count := (distinct.subperm tried).length_le
  rw [List.length_map, List.length_range'] at count
  omega

/-- **The search ends at the least number whose name is free**; in particular there is one. -/
theorem isLeast_firstFree (different : Function.Injective name) (taken : List String)
    (start : Nat) :
    IsLeast {number | start ≤ number ∧ name number ∉ taken} (firstFree name taken start) := by
  have low : start ≤ firstFree name taken start := le_firstFreeWithin name taken taken.length start
  refine ⟨⟨low, firstFree_notMem different taken start⟩, ?_⟩
  rintro number ⟨after, free⟩
  by_contra passed
  exact free (mem_taken_of_lt_firstFreeWithin after (Nat.lt_of_not_le passed))

end

/-- Different numbers behind the same beginning give different names. -/
theorem numbered_injective (beginning : String) :
    Function.Injective fun number : Nat => beginning ++ toString number := by
  intro first second same
  have text : toString first = toString second := (String.append_right_inj beginning).mp same
  have read := readNatural_toString (Nat.le_add_right first second)
  rw [text, readNatural_toString (Nat.le_add_left second first)] at read
  exact (Except.ok.inj read).symm

/-! ### Names of fields -/

/-- A name that is free stays as it is. -/
theorem freshName_of_notMem {taken : List String} {base : String} (free : base ∉ taken) :
    freshName taken base = base := by
  unfold freshName
  exact if_neg fun occupied => free (List.contains_iff_mem.mp occupied)

/-- **A name that is taken gets the least number from two on that makes it free.** -/
theorem freshName_of_mem {taken : List String} {base : String} (occupied : base ∈ taken) :
    ∃ number, IsLeast {number : Nat | 2 ≤ number ∧ base ++ "_" ++ toString number ∉ taken} number ∧
      freshName taken base = base ++ "_" ++ toString number := by
  refine ⟨_, isLeast_firstFree (numbered_injective (base ++ "_")) taken 2, ?_⟩
  unfold freshName
  exact if_pos (List.contains_iff_mem.mpr occupied)

/-- **A fresh name is not taken.** -/
theorem freshName_notMem (taken : List String) (base : String) : freshName taken base ∉ taken := by
  by_cases occupied : base ∈ taken
  · obtain ⟨number, least, named⟩ := freshName_of_mem occupied
    rw [named]
    exact least.1.2
  · rwa [freshName_of_notMem occupied]

end SchemaBinding
