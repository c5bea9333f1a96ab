/-
**Pascal case.**

A name is cut at underscores, hyphens, points and blanks, the first character of every part becomes
a capital if it is a small ASCII letter, and the parts are written one after another. All other
characters are kept as they are.
-/

namespace SchemaBinding

/-- Whether the character separates the parts of a name. -/
def isNameSeparator (c : Char) : Bool := c == '_' || c == '-' || c == '.' || c == ' '

/-- The rest of a name in Pascal case; the flag tells whether a part begins here. -/
def pascalChars : Bool → List Char → List Char
  | _, [] => []
  | begins, c :: rest =>
    if isNameSeparator c then pascalChars true rest
    else (if begins then c.toUpper else c) :: pascalChars false rest

def pascalCase (name : String) : String := String.ofList (pascalChars true name.toList)

/-- Raising a character changes it into a capital or not at all. -/
theorem toUpper_eq_self_or_isUpper (c : Char) : c.toUpper = c ∨ c.toUpper.isUpper = true := by
  unfold Char.toUpper
  split
  · rename_i small
    right
    obtain ⟨low, high⟩ := small
    rw [UInt32.le_iff_toNat_le] at low high
    have bounds : 'a'.val.toNat = 97 ∧ 'z'.val.toNat = 122 ∧ 'A'.val.toNat = 65 ∧
      'Z'.val.toNat = 90 ∧ ('A'.val - 'a'.val).toNat = 4294967264 := by decide
    refine decide_eq_true ?_
    simp only [UInt32.le_iff_toNat_le, ge_iff_le, UInt32.toNat_add]
    omega
  · left; rfl

theorem isNameSeparator_of_mem_pascalChars {begins : Bool} {name : List Char} {c : Char}
    (member : c ∈ pascalChars begins name) : isNameSeparator c = false := by
  have raised : ∀ d : Char, isNameSeparator d = false → isNameSeparator d.toUpper = false := by
    intro d plain
    rcases toUpper_eq_self_or_isUpper d with same | capital
    · rwa [same]
    · have other : ∀ s : Char, s.isUpper = false → d.toUpper ≠ s := by
        rintro s small rfl
        simp [small] at capital
      simp [isNameSeparator, other '_' (by decide), other '-' (by decide), other '.' (by decide),
        other ' ' (by decide)]
  induction name generalizing begins with
  | nil => simp [pascalChars] at member
  | cons d rest ih =>
    rw [pascalChars] at member
    split at member
    · exact ih member
    · rename_i plain
      rcases List.mem_cons.mp member with rfl | later
      · split
        · exact raised d (by simpa using plain)
        · simpa using plain
      · exact ih later

end SchemaBinding
