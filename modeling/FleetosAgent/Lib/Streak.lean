import Mathlib.Data.List.DropRight

/-! # Streaks

How many entries at the end of a history have a property, as a counter keeps it that one kind of entry increments and
every other entry resets, and what the counter says of the last entries. -/

namespace Lib

variable {α : Type} {p : α → Bool} {l : List α} {a : α}

/-- The number of entries at the end of the history that all have the property. -/
def streak (p : α → Bool) (l : List α) : Nat := (l.rtakeWhile p).length

@[simp] theorem streak_nil : streak p [] = 0 := rfl

theorem streak_concat_pos (h : p a = true) : streak p (l ++ [a]) = streak p l + 1 := by
  simp [streak, List.rtakeWhile_concat_pos p l a h]

theorem streak_concat_neg (h : p a = false) : streak p (l ++ [a]) = 0 := by
  simp [streak, List.rtakeWhile_concat_neg p l a (by simp [h])]

theorem streak_le_length : streak p l ≤ l.length := (List.rtakeWhile_suffix p l).length_le

/-- The history has `n` entries and its last `n` all have the property. -/
def LastAll (p : α → Bool) (n : Nat) (l : List α) : Prop := n ≤ l.length ∧ ∀ a ∈ l.rtake n, p a = true

theorem le_streak_iff (n : Nat) : n ≤ streak p l ↔ LastAll p n l := by
  unfold LastAll
  induction l using List.reverseRecOn generalizing n with
  | nil => simp
  | append_singleton l a ih =>
    cases n with
    | zero => simp
    | succ n =>
      rw [List.rtake_concat_succ, List.length_append]
      cases h : p a with
      | true =>
        rw [streak_concat_pos h, Nat.add_le_add_iff_right, ih]
        simp [h, or_imp, forall_and]
      | false =>
        rw [streak_concat_neg h]
        constructor
        · intro hn
          omega
        · rintro ⟨-, hall⟩
          have := hall a (by simp)
          simp [h] at this

end Lib
