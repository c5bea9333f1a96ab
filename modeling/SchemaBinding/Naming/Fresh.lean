/-
**Names that are not taken yet.**

A family of numbered names is searched from a number on for the first that is not taken. If `n`
names are taken, `n` steps lead to a free one, because different numbers give different names.
-/

namespace SchemaBinding

/-- The first number from `start` on whose name is not taken, looked for in so many steps. -/
def firstFreeWithin (name : Nat → String) (taken : List String) : (steps start : Nat) → Nat
  | 0, start => start
  | steps + 1, start =>
    if taken.contains (name start) then firstFreeWithin name taken steps (start + 1) else start

/-- The first number from `start` on whose name is not taken. -/
def firstFree (name : Nat → String) (taken : List String) (start : Nat) : Nat :=
  firstFreeWithin name taken taken.length start

theorem le_firstFreeWithin (name : Nat → String) (taken : List String) (steps start : Nat) :
    start ≤ firstFreeWithin name taken steps start := by
  induction steps generalizing start with
  | zero => exact Nat.le_refl _
  | succ steps ih =>
    rw [firstFreeWithin]
    split
    · exact Nat.le_of_succ_le (ih (start + 1))
    · exact Nat.le_refl _

/-- Every number that the search passes over has a name that is taken. -/
theorem mem_taken_of_lt_firstFreeWithin {name : Nat → String} {taken : List String}
    {steps start number : Nat} (low : start ≤ number)
    (high : number < firstFreeWithin name taken steps start) : name number ∈ taken := by
  induction steps generalizing start with
  | zero => exact absurd high (Nat.not_lt.mpr low)
  | succ steps ih =>
    rw [firstFreeWithin] at high
    split at high
    · rename_i occupied
      rcases Nat.eq_or_lt_of_le low with rfl | later
      · simpa using occupied
      · exact ih later high
    · exact absurd high (Nat.not_lt.mpr low)

end SchemaBinding
