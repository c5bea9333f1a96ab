/-
**Sets of code points as tables of inclusive ranges.**

A character property of Unicode is held as the list of its ranges beyond ASCII, in ascending order.
All tables are those of version 17.0 of the standard. ASCII is decided by the property's own module,
so that a table never has to be consulted for it.
-/

namespace SchemaBinding

/-- A set of code points: inclusive ranges `(low, high)` in ascending order. -/
abbrev CodePointTable := List (Nat × Nat)

namespace CodePointTable

def contains (table : CodePointTable) (c : Char) : Bool :=
  table.any fun range => range.1 ≤ c.toNat && c.toNat ≤ range.2

theorem contains_iff {table : CodePointTable} {c : Char} :
    table.contains c = true ↔ ∃ range ∈ table, range.1 ≤ c.toNat ∧ c.toNat ≤ range.2 := by
  simp [contains]

end CodePointTable

end SchemaBinding
