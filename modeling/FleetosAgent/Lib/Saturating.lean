import Mathlib.Algebra.BigOperators.Group.List.Basic
import Mathlib.Tactic.Common
import Mathlib.Algebra.GroupWithZero.Nat

/-! # Saturating sums and wrapping differences

What `saturating_add` and `wrapping_sub` of 64-bit numbers are as natural numbers. -/

namespace Lib

def saturatingAdd (x y : UInt64) : UInt64 := if x.toNat + y.toNat < 2 ^ 64 then x + y else .ofNat (2 ^ 64 - 1)

theorem toNat_saturatingAdd (x y : UInt64) : (saturatingAdd x y).toNat = min (x.toNat + y.toNat) (2 ^ 64 - 1) := by
  unfold saturatingAdd
  split_ifs with h
  · rw [UInt64.toNat_add, Nat.mod_eq_of_lt h]
    omega
  · have : (UInt64.ofNat (2 ^ 64 - 1)).toNat = 2 ^ 64 - 1 := rfl
    omega

/-- Adding up saturates at the end if it does on the way. -/
theorem toNat_foldl_saturatingAdd (l : List UInt64) (x : UInt64) :
    (l.foldl saturatingAdd x).toNat = min (x.toNat + (l.map UInt64.toNat).sum) (2 ^ 64 - 1) := by
  induction l generalizing x with
  | nil =>
    have := x.toNat_lt
    simp
    omega
  | cons y l ih =>
    rw [List.foldl_cons, ih, toNat_saturatingAdd, List.map_cons, List.sum_cons]
    omega

/-- The wrapping difference is the one residue that leads from `x` to `y`. -/
theorem toNat_sub_eq_iff {x y : UInt64} {d : Nat} (hd : d < 2 ^ 64) :
    (y - x).toNat = d ↔ (x.toNat + d) % 2 ^ 64 = y.toNat := by
  have hx := x.toNat_lt
  have hy := y.toNat_lt
  rw [UInt64.toNat_sub]
  omega

end Lib
