import FleetosAgent.Lib.MirrorSync
import Mathlib.Data.Finset.Card

/-! # Diffs whose operations fail

`Lib.MirrorSync` looks at diffs whose operations succeed. Here any of them may fail: whatever does, the insertions only
add keys of their list and the removals only take away keys of theirs, so a key that the mirror has and the table lacks is
never put back. In a table of bounded size an insertion fails exactly if it finds the table full and needs a new slot. -/

namespace Lib

variable {ε K V : Type} [DecidableEq K]

/-! ### Whatever fails -/

section Faults
variable {absent : ε} {fault insertFault removeFault : Nat → Option ε} {m : FinMap K V} {kvs : List (K × V)} {ks : List K}

omit ε in
theorem keySet_cons (kv : K × V) (kvs : List (K × V)) : keySet (kv :: kvs) = insert kv.1 (keySet kvs) := by
  rw [keySet, List.map_cons, List.toFinset_cons]
  rfl

theorem subset_insertAll (fault : Nat → Option ε) (kvs : List (K × V)) (m : FinMap K V) :
    m.keys ⊆ (insertAll fault kvs m).2.keys := by
  induction kvs generalizing fault m with
  | nil => exact Finset.Subset.refl _
  | cons kv kvs ih =>
    rw [insertAll]
    split
    · exact Finset.Subset.refl _
    · exact (Finset.subset_insert kv.1 m.keys).trans (ih _ (m.insert kv.1 kv.2))

theorem insertAll_subset (fault : Nat → Option ε) (kvs : List (K × V)) (m : FinMap K V) :
    (insertAll fault kvs m).2.keys ⊆ m.keys ∪ keySet kvs := by
  induction kvs generalizing fault m with
  | nil => exact Finset.subset_union_left
  | cons kv kvs ih =>
    rw [insertAll]
    split
    · exact Finset.subset_union_left
    · refine (ih _ _).trans ?_
      rw [FinMap.keys_insert, keySet_cons, Finset.insert_union, Finset.union_insert]

theorem insertAll_keys_of_ok (h : (insertAll fault kvs m).1 = .ok ()) :
    (insertAll fault kvs m).2.keys = m.keys ∪ keySet kvs := by
  induction kvs generalizing fault m with
  | nil => exact (Finset.union_empty _).symm
  | cons kv kvs ih =>
    rw [insertAll] at h ⊢
    split at h
    · cases h
    · refine (ih h).trans ?_
      rw [FinMap.keys_insert, keySet_cons, Finset.insert_union, Finset.union_insert]

theorem removeAll_subset (absent : ε) (fault : Nat → Option ε) (ks : List K) (m : FinMap K V) :
    (removeAll absent fault ks m).2.keys ⊆ m.keys := by
  induction ks generalizing fault m with
  | nil => exact Finset.Subset.refl _
  | cons k ks ih =>
    rw [removeAll]
    split
    · exact Finset.Subset.refl _
    · split
      · exact (ih _ _).trans (Finset.erase_subset k m.keys)
      · exact Finset.Subset.refl _

/-- Only the keys of the list go. -/
theorem subset_removeAll (absent : ε) (fault : Nat → Option ε) (ks : List K) (m : FinMap K V) :
    m.keys \ ks.toFinset ⊆ (removeAll absent fault ks m).2.keys := by
  induction ks generalizing fault m with
  | nil => exact Finset.sdiff_subset
  | cons k ks ih =>
    rw [removeAll]
    split
    · exact Finset.sdiff_subset
    · split
      · refine Finset.Subset.trans ?_ (ih _ _)
        rw [FinMap.keys_remove, List.toFinset_cons, Finset.sdiff_insert]
        exact (Finset.erase_sdiff_comm m.keys ks.toFinset k).symm.subset
      · exact Finset.sdiff_subset

theorem removeAll_keys_of_ok (h : (removeAll absent fault ks m).1 = .ok ()) :
    (removeAll absent fault ks m).2.keys = m.keys \ ks.toFinset := by
  induction ks generalizing fault m with
  | nil => exact (Finset.sdiff_empty).symm
  | cons k ks ih =>
    rw [removeAll] at h ⊢
    split at h
    · cases h
    · split at h
      · next hk =>
        rw [if_pos hk]
        refine (ih h).trans ?_
        rw [FinMap.keys_remove, List.toFinset_cons, Finset.sdiff_insert, Finset.erase_sdiff_comm]
      · cases h

theorem mem_of_removeAll_ok (h : (removeAll absent fault ks m).1 = .ok ()) : ∀ k ∈ ks, k ∈ m.keys := by
  induction ks generalizing fault m with
  | nil => simp
  | cons k ks ih =>
    rw [removeAll] at h
    split at h
    · cases h
    · split at h
      · next hk =>
        exact List.forall_mem_cons.mpr ⟨hk, fun k' hk' => Finset.mem_of_mem_erase (ih h k' hk')⟩
      · cases h

end Faults

/-! ### Lost keys -/

section Lost
variable {absent : ε} {insertFault removeFault : Nat → Option ε} {order : Enumeration K} {mirror lost : Finset K}
  {desired : List (K × V)} {m m' : FinMap K V} {r : Except ε Unit}

/-- Keys that the mirror has and the table lacks. -/
def Lost (mirror : Finset K) (m : FinMap K V) (lost : Finset K) : Prop := lost ⊆ mirror ∧ Disjoint lost m.keys

omit ε in
theorem Lost.of_subset (h : m.keys ⊆ m'.keys) : Lost mirror m' (m.keys \ m'.keys) := by
  rw [Finset.sdiff_eq_empty_iff_subset.mpr h]
  exact ⟨Finset.empty_subset _, Finset.disjoint_empty_left _⟩

/-- What the removals of a diff take from a table is lost, unless the mirror forgets it. -/
theorem Lost.of_removed {m₁ : FinMap K V} (h : m.keys ⊆ m₁.keys)
    (hm : removeAll absent removeFault (stale order mirror (keySet desired)) m₁ = (r, m')) :
    Lost mirror m' (m.keys \ m'.keys) := by
  refine ⟨fun k hk => ?_, Finset.sdiff_disjoint⟩
  obtain ⟨before, after⟩ := Finset.mem_sdiff.mp hk
  by_contra hmirror
  have stays : k ∈ m₁.keys \ (stale order mirror (keySet desired)).toFinset :=
    Finset.mem_sdiff.mpr ⟨h before, fun hs => hmirror (mem_stale.mp (List.mem_toFinset.mp hs)).1⟩
  have kept := subset_removeAll absent removeFault _ _ stays
  rw [hm] at kept
  exact after kept

/-- A diff does not insert them, since the mirror has them. -/
theorem Lost.inserted (h : Lost mirror m lost) (hm : insertAll insertFault (missing mirror desired) m = (r, m')) :
    Lost mirror m' lost := by
  have keys := insertAll_subset insertFault (missing mirror desired) m
  rw [hm] at keys
  refine ⟨h.1, Finset.disjoint_of_subset_right keys (Finset.disjoint_union_right.mpr ⟨h.2, ?_⟩)⟩
  rw [Finset.disjoint_left]
  intro k hk hmissing
  rw [mem_keySet, lastValue_missing, if_pos (h.1 hk)] at hmissing
  cases hmissing

theorem Lost.removed (h : Lost mirror m lost) {ks : List K} (hm : removeAll absent removeFault ks m = (r, m')) :
    Lost mirror m' lost := by
  have keys := removeAll_subset absent removeFault ks m
  rw [hm] at keys
  exact ⟨h.1, Finset.disjoint_of_subset_right keys h.2⟩

/-- And the removals of a diff that does not want them all do not get to their end. -/
theorem Lost.wanted (h : Lost mirror m lost)
    (hm : removeAll absent removeFault (stale order mirror (keySet desired)) m = (.ok (), m')) : lost ⊆ keySet desired := by
  intro k hk
  by_contra hd
  have found := mem_of_removeAll_ok (congrArg Prod.fst hm) k (mem_stale.mpr ⟨h.1 hk, hd⟩)
  exact Finset.disjoint_left.mp h.2 hk found

end Lost

/-! ### A table of bounded size -/

/-- What fails in a table of `max` entries: an insertion that finds it full and whose key is new. -/
def fullFault (max : Nat) (full : ε) : List (K × V) → FinMap K V → Nat → Option ε
  | [], _, _ => none
  | (k, _) :: _, m, 0 => if k ∉ m.keys ∧ max ≤ m.keys.card then some full else none
  | (k, v) :: rest, m, n + 1 => fullFault max full rest (m.insert k v) n

section Bounded
variable {max : Nat} {full : ε} {m : FinMap K V} {kvs : List (K × V)}

/-- The insertions succeed if all the keys fit; otherwise they fill the table. -/
theorem insertAll_fullFault (full : ε) (kvs : List (K × V)) (fits : m.keys.card ≤ max) :
    ((insertAll (fullFault max full kvs m) kvs m).1 = .ok () ∧ (m.keys ∪ keySet kvs).card ≤ max) ∨
      ((insertAll (fullFault max full kvs m) kvs m).1 = .error full ∧ max < (m.keys ∪ keySet kvs).card ∧
        (insertAll (fullFault max full kvs m) kvs m).2.keys.card = max) := by
  induction kvs generalizing m with
  | nil =>
    refine Or.inl ⟨rfl, ?_⟩
    rw [show keySet ([] : List (K × V)) = ∅ from rfl, Finset.union_empty]
    exact fits
  | cons kv kvs ih =>
    have keys : m.keys ∪ keySet (kv :: kvs) = (m.insert kv.1 kv.2).keys ∪ keySet kvs := by
      rw [FinMap.keys_insert, keySet_cons, Finset.insert_union, Finset.union_insert]
    rw [insertAll, fullFault, keys]
    split
    · next e hfault =>
      split at hfault
      · next hfull =>
        cases hfault
        have atMax : m.keys.card = max := le_antisymm fits hfull.2
        refine Or.inr ⟨rfl, ?_, atMax⟩
        calc max < (insert kv.1 m.keys).card := by
              rw [Finset.card_insert_of_notMem hfull.1, atMax]
              exact Nat.lt_succ_self _
          _ ≤ _ := Finset.card_le_card Finset.subset_union_left
      · cases hfault
    · next hfault =>
      have fits' : (m.insert kv.1 kv.2).keys.card ≤ max := by
        rw [FinMap.keys_insert]
        by_cases hk : kv.1 ∈ m.keys
        · rw [Finset.insert_eq_of_mem hk]
          exact fits
        · have room : ¬max ≤ m.keys.card := by
            intro hfull
            rw [if_pos ⟨hk, hfull⟩] at hfault
            cases hfault
          rw [Finset.card_insert_of_notMem hk]
          omega
      exact ih fits'

omit ε in
theorem union_missing {mirror : Finset K} {desired : List (K × V)} (h : mirror ⊆ m.keys) :
    m.keys ∪ keySet (missing mirror desired) = m.keys ∪ keySet desired := by
  ext k
  simp only [Finset.mem_union, mem_keySet, lastValue_missing]
  by_cases hk : k ∈ mirror
  · simp [h hk]
  · simp [hk]

/-- A diff against an exact mirror is applied if the desired keys fit in beside those that are there, and fills the table
    otherwise. -/
theorem sync_fullFault {absent : ε} {removeFault : Nat → Option ε} (order : Enumeration K) (full : ε)
    (desired : List (K × V)) (hr : Healthy removeFault) (fits : m.keys.card ≤ max) :
    (∃ m₁ m₂, insertAll (fullFault max full (missing m.keys desired) m) (missing m.keys desired) m = (.ok (), m₁) ∧
        removeAll absent removeFault (stale order m.keys (keySet desired)) m₁ = (.ok (), m₂) ∧ m₂.keys = keySet desired ∧
        (m.keys ∪ keySet desired).card ≤ max) ∨
      ∃ m₁, insertAll (fullFault max full (missing m.keys desired) m) (missing m.keys desired) m = (.error full, m₁) ∧
        max < (m.keys ∪ keySet desired).card ∧ m₁.keys.card = max := by
  have cases := insertAll_fullFault full (missing m.keys desired) fits
  rw [union_missing (Finset.Subset.refl _)] at cases
  rcases inserted : insertAll (fullFault max full (missing m.keys desired) m) (missing m.keys desired) m with ⟨r, m₁⟩
  rw [inserted] at cases
  rcases cases with ⟨rfl, hcard⟩ | ⟨rfl, hcard, hfull⟩
  · have keys₁ : m₁.keys = m.keys ∪ keySet (missing m.keys desired) := by
      have keys := insertAll_keys_of_ok (congrArg Prod.fst inserted)
      rw [inserted] at keys
      exact keys
    have found : ∀ k ∈ stale order m.keys (keySet desired), k ∈ m₁.keys := by
      intro k hk
      rw [keys₁]
      exact Finset.mem_union_left _ (mem_stale.mp hk).1
    have removed : (removeAll absent removeFault (stale order m.keys (keySet desired)) m₁).1 = .ok () :=
      (removeAll_ok_iff hr (stale_nodup order m.keys (keySet desired)) m₁).mpr found
    refine Or.inl ⟨m₁, _, rfl, Prod.ext removed rfl, ?_, hcard⟩
    rw [removeAll_keys_of_ok removed, keys₁]
    exact mirror_after order m.keys desired
  · exact Or.inr ⟨m₁, rfl, hcard, hfull⟩

end Bounded

end Lib
