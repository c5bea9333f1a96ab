/-
**Powers of two and ten.**

Binary formats are measured in powers of two, decimal digits in powers of ten. Exponents that may be
negative are split by their sign: `twoPow e.toNat` and `twoPow (-e).toNat` are the numerator and the
denominator of two to the power `e`.
-/

namespace SchemaBinding

def twoPow (exponent : Nat) : Nat := Nat.pow 2 exponent

def tenPow (exponent : Nat) : Nat := Nat.pow 10 exponent

theorem twoPow_succ (exponent : Nat) : twoPow (exponent + 1) = 2 * twoPow exponent :=
  Nat.mul_comm _ 2

theorem tenPow_succ (exponent : Nat) : tenPow (exponent + 1) = 10 * tenPow exponent :=
  Nat.mul_comm _ 10

theorem twoPow_pos (exponent : Nat) : 0 < twoPow exponent := by
  induction exponent with
  | zero => exact Nat.one_pos
  | succ exponent ih =>
    rw [twoPow_succ]
    exact Nat.mul_pos Nat.two_pos ih

theorem tenPow_pos (exponent : Nat) : 0 < tenPow exponent := by
  induction exponent with
  | zero => exact Nat.one_pos
  | succ exponent ih =>
    rw [tenPow_succ]
    exact Nat.mul_pos (Nat.succ_pos 9) ih

end SchemaBinding
