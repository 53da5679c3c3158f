import Mathlib.Data.List.Basic

/-! # Cursors

A cursor keeps the largest version it has seen and lets through what is larger, so what it lets through are the strict
running maxima of what it is given. -/

namespace Lib

variable {ν : Type} {bottom cursor v : ν} {l : List ν}

section Maxima
variable [LT ν] [DecidableLT ν]

/-- The members of `l` that are larger than `bottom` and than all members before them. -/
def runningMaxima (bottom : ν) (l : List ν) : List ν :=
  (List.range l.length).filterMap fun i => l[i]?.filter fun v => decide (bottom < v ∧ ∀ u ∈ l.take i, u < v)

theorem runningMaxima_concat :
    runningMaxima bottom (l ++ [v]) = runningMaxima bottom l ++ if bottom < v ∧ ∀ u ∈ l, u < v then [v] else [] := by
  have earlier : ∀ i ∈ List.range l.length,
      ((l ++ [v])[i]?.filter fun v' => decide (bottom < v' ∧ ∀ u ∈ (l ++ [v]).take i, u < v')) =
        l[i]?.filter fun v' => decide (bottom < v' ∧ ∀ u ∈ l.take i, u < v') := by
    intro i hi
    have hi' := List.mem_range.mp hi
    rw [List.getElem?_append_left hi', List.take_append_of_le_length (Nat.le_of_lt hi')]
  have last : ((l ++ [v])[l.length]?.filter fun v' => decide (bottom < v' ∧ ∀ u ∈ (l ++ [v]).take l.length, u < v')) =
      if bottom < v ∧ ∀ u ∈ l, u < v then some v else none := by
    rw [List.getElem?_concat_length, List.take_left]
    simp only [Option.filter_some, decide_eq_true_eq]
  rw [runningMaxima, List.length_append, List.length_singleton, List.range_succ, List.filterMap_append,
    List.filterMap_congr earlier, runningMaxima, List.filterMap_cons, last]
  by_cases h : bottom < v ∧ ∀ u ∈ l, u < v
  · simp only [if_pos h, List.filterMap_nil]
  · simp only [if_neg h, List.filterMap_nil]

end Maxima

section Cursor
variable [LE ν]

/-- `cursor` is the largest of `bottom` and the members of `l`. -/
structure IsCursor (bottom : ν) (l : List ν) (cursor : ν) : Prop where
  bottom_le : bottom ≤ cursor
  upper : ∀ u ∈ l, u ≤ cursor
  attained : cursor = bottom ∨ cursor ∈ l

variable [Std.IsLinearOrder ν]

theorem isCursor_nil : IsCursor bottom [] bottom := ⟨Std.le_refl _, nofun, Or.inl rfl⟩

variable [LT ν] [Std.LawfulOrderLT ν]

theorem IsCursor.lt_iff (h : IsCursor bottom l cursor) : cursor < v ↔ bottom < v ∧ ∀ u ∈ l, u < v := by
  constructor
  · intro hv
    exact ⟨Std.lt_of_le_of_lt h.bottom_le hv, fun u hu => Std.lt_of_le_of_lt (h.upper u hu) hv⟩
  · rintro ⟨hbottom, hall⟩
    rcases h.attained with rfl | hmem
    · exact hbottom
    · exact hall cursor hmem

/-- Versions below the cursor that ascend go on ascending with one above it. -/
theorem pairwise_lt_concat (ascending : l.Pairwise (· < ·)) (below : ∀ u ∈ l, u ≤ cursor) (above : cursor < v) :
    (l ++ [v]).Pairwise (· < ·) ∧ ∀ u ∈ l ++ [v], u ≤ v := by
  have less : ∀ u ∈ l, u < v := fun u hu => Std.lt_of_le_of_lt (below u hu) above
  refine ⟨List.pairwise_append.mpr ⟨ascending, List.pairwise_singleton _ _, fun u hu v' hv' => ?_⟩, fun u hu => ?_⟩
  · rw [List.mem_singleton.mp hv']
    exact less u hu
  · rcases List.mem_append.mp hu with hu | hu
    · exact Std.le_of_lt (less u hu)
    · rw [List.mem_singleton.mp hu]
      exact Std.le_refl v

variable [DecidableLT ν]

/-- The cursor moves on to a version that is larger. -/
theorem IsCursor.concat (h : IsCursor bottom l cursor) : IsCursor bottom (l ++ [v]) (if cursor < v then v else cursor) := by
  split
  · next hv =>
    refine ⟨Std.le_trans h.bottom_le (Std.le_of_lt hv), fun u hu => ?_, Or.inr (by simp)⟩
    rcases List.mem_append.mp hu with hu | hu
    · exact Std.le_trans (h.upper u hu) (Std.le_of_lt hv)
    · rw [List.mem_singleton.mp hu]
      exact Std.le_refl v
  · next hv =>
    refine ⟨h.bottom_le, fun u hu => ?_, h.attained.imp_right fun hmem => List.mem_append_left _ hmem⟩
    rcases List.mem_append.mp hu with hu | hu
    · exact h.upper u hu
    · rw [List.mem_singleton.mp hu]
      exact Std.not_lt.mp hv

theorem IsCursor.runningMaxima_concat (h : IsCursor bottom l cursor) :
    runningMaxima bottom (l ++ [v]) = runningMaxima bottom l ++ if cursor < v then [v] else [] := by
  rw [Lib.runningMaxima_concat]
  exact congrArg (runningMaxima bottom l ++ ·) (if_congr h.lt_iff.symm rfl rfl)

end Cursor

end Lib
