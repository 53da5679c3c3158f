import Mathlib.Tactic.Common
import Mathlib.Algebra.Group.Nat.Defs

/-! # Operations that can stop a program

32-bit arithmetic that panics when the result does not fit, and slices that panic out of range. A panic is `none`. -/

namespace Lib

def checkedAdd (x y : UInt32) : Option UInt32 := if x.toNat + y.toNat < 2 ^ 32 then some (x + y) else none

def checkedSub (x y : UInt32) : Option UInt32 := if y ≤ x then some (x - y) else none

/-- A shift by less than the width. -/
def checkedShl (x k : UInt32) : Option UInt32 := if k < 32 then some (x <<< k) else none

theorem checkedAdd_of_lt {x y : UInt32} (h : x.toNat + y.toNat < 2 ^ 32) :
    ∃ z, checkedAdd x y = some z ∧ z.toNat = x.toNat + y.toNat :=
  ⟨x + y, if_pos h, by rw [UInt32.toNat_add, Nat.mod_eq_of_lt h]⟩

/-- The same with a number for what is added. -/
theorem checkedAdd_of_toNat (x y : UInt32) (k : Nat) (hy : y.toNat = k) (h : x.toNat + k < 2 ^ 32) :
    ∃ z, checkedAdd x y = some z ∧ z.toNat = x.toNat + k := by
  subst hy
  exact checkedAdd_of_lt h

theorem checkedSub_of_le {x y : UInt32} (h : y.toNat ≤ x.toNat) :
    ∃ z, checkedSub x y = some z ∧ z.toNat = x.toNat - y.toNat :=
  ⟨x - y, if_pos (UInt32.le_iff_toNat_le.mpr h), UInt32.toNat_sub_of_le _ _ (UInt32.le_iff_toNat_le.mpr h)⟩

/-! ### Slices -/

section Slice
variable {α : Type}

/-- `l[i..j]`. -/
def slice (l : List α) (i j : Nat) : Option (List α) := if i ≤ j ∧ j ≤ l.length then some ((l.take j).drop i) else none

/-- A slice as an array of a fixed length; `none` if it has another length. -/
def asArray (n : Nat) (l : List α) : Option (Vector α n) :=
  if h : l.length = n then some ⟨l.toArray, by simpa using h⟩ else none

theorem slice_of_le {l : List α} {i j : Nat} (hij : i ≤ j) (hj : j ≤ l.length) :
    ∃ part, slice l i j = some part ∧ part.length = j - i :=
  ⟨_, if_pos ⟨hij, hj⟩, by rw [List.length_drop, List.length_take_of_le hj]⟩

theorem slice_append {a b c : List α} {i j : Nat} (hi : i = a.length) (hj : j = i + b.length) :
    slice (a ++ b ++ c) i j = some b := by
  subst hi hj
  rw [slice, if_pos ⟨by omega, by simp⟩, List.take_left' (by simp), List.drop_left]

theorem asArray_of_length {l : List α} {n : Nat} (h : l.length = n) : ∃ v, asArray n l = some v := ⟨_, dif_pos h⟩

@[simp] theorem asArray_toList {n : Nat} (v : Vector α n) : asArray n v.toList = some v := by
  obtain ⟨array, rfl⟩ := v
  exact dif_pos (by simp)

end Slice

end Lib
