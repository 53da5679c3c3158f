import Mathlib.Data.Finset.Basic
import Mathlib.Data.Finset.Filter
import Mathlib.Data.List.Sort
import Mathlib.Logic.Function.Basic
import Mathlib.Tactic.Common

/-! # Finite maps

A hash table as a program sees it: a lookup function together with the finite set of its keys. Two tables
are equal when they look up alike; the order in which a program walks a table is not part of the table
(`Enumeration`), so a result about every enumeration covers every order a hash seed can produce. -/

namespace Lib

/-- A finite map: a partial function and the finite set of the keys where it is defined. -/
structure FinMap (K V : Type) where
  keys : Finset K
  get : K → Option V
  mem_keys : ∀ k, k ∈ keys ↔ (get k).isSome

namespace FinMap
variable {K V W : Type}

theorem ext {m n : FinMap K V} (h : ∀ k, m.get k = n.get k) : m = n := by
  obtain ⟨mk, mg, hm⟩ := m
  obtain ⟨nk, ng, hn⟩ := n
  obtain rfl : mg = ng := funext h
  obtain rfl : mk = nk := by
    ext k
    rw [hm, hn]
  rfl

theorem notMem_keys {m : FinMap K V} {k : K} : k ∉ m.keys ↔ m.get k = none := by
  rw [m.mem_keys, Bool.not_eq_true, Option.isSome_eq_false_iff, Option.isNone_iff_eq_none]

theorem mem_keys_iff {m : FinMap K V} {k : K} : k ∈ m.keys ↔ ∃ v, m.get k = some v := by
  rw [m.mem_keys, Option.isSome_iff_exists]

theorem mem_keys_of_get {m : FinMap K V} {k : K} {v : V} (h : m.get k = some v) : k ∈ m.keys :=
  mem_keys_iff.mpr ⟨v, h⟩

def empty : FinMap K V := ⟨∅, fun _ => none, by simp⟩

instance : EmptyCollection (FinMap K V) := ⟨empty⟩

@[simp] theorem get_empty (k : K) : (∅ : FinMap K V).get k = none := rfl
@[simp] theorem keys_empty : (∅ : FinMap K V).keys = ∅ := rfl

variable [DecidableEq K]

def insert (m : FinMap K V) (k : K) (v : V) : FinMap K V where
  keys := Insert.insert k m.keys
  get := Function.update m.get k (some v)
  mem_keys k' := by
    by_cases h : k' = k
    · subst h
      simp
    · simp [h, m.mem_keys]

/-- `remove` of an absent key leaves the table as it is. -/
def remove (m : FinMap K V) (k : K) : FinMap K V where
  keys := m.keys.erase k
  get := Function.update m.get k none
  mem_keys k' := by
    by_cases h : k' = k
    · subst h
      simp
    · simp [h, m.mem_keys]

theorem get_insert (m : FinMap K V) (k k' : K) (v : V) :
    (m.insert k v).get k' = if k' = k then some v else m.get k' :=
  Function.update_apply m.get k (some v) k'

@[simp] theorem get_insert_self (m : FinMap K V) (k : K) (v : V) : (m.insert k v).get k = some v := by
  simp [get_insert]

theorem get_insert_ne (m : FinMap K V) {k k' : K} (v : V) (h : k' ≠ k) : (m.insert k v).get k' = m.get k' := by
  simp [get_insert, h]

@[simp] theorem keys_insert (m : FinMap K V) (k : K) (v : V) : (m.insert k v).keys = Insert.insert k m.keys := rfl

theorem get_remove (m : FinMap K V) (k k' : K) : (m.remove k).get k' = if k' = k then none else m.get k' :=
  Function.update_apply m.get k none k'

theorem get_remove_ne (m : FinMap K V) {k k' : K} (h : k' ≠ k) : (m.remove k).get k' = m.get k' := by
  simp [get_remove, h]

@[simp] theorem keys_remove (m : FinMap K V) (k : K) : (m.remove k).keys = m.keys.erase k := rfl

theorem get_remove_eq_some {m : FinMap K V} {k k' : K} {v : V} :
    (m.remove k).get k' = some v ↔ k' ≠ k ∧ m.get k' = some v := by
  rw [get_remove]
  split <;> simp_all

theorem get_insert_eq_some {m : FinMap K V} {k k' : K} {v v' : V} (absent : m.get k = none) :
    (m.insert k v).get k' = some v' ↔ (k' = k ∧ v = v') ∨ m.get k' = some v' := by
  rw [get_insert]
  split
  · next heq => simp [heq, absent]
  · next hne => simp [hne]

theorem remove_of_notMem {m : FinMap K V} {k : K} (h : k ∉ m.keys) : m.remove k = m := by
  refine ext fun k' => ?_
  rw [get_remove]
  split
  · next heq => rw [heq, notMem_keys.mp h]
  · rfl

theorem remove_insert_of_absent {m : FinMap K V} {k : K} (v : V) (h : m.get k = none) :
    (m.insert k v).remove k = m := by
  refine ext fun k' => ?_
  rw [get_remove, get_insert]
  split
  · rename_i hk
    rw [hk, h]
  · rfl

omit [DecidableEq K] in
/-- `keep k v` decides on every entry. -/
def retain (m : FinMap K V) (keep : K → V → Bool) : FinMap K V where
  keys := m.keys.filter fun k => ((m.get k).filter (keep k)).isSome
  get k := (m.get k).filter (keep k)
  mem_keys k := by
    rw [Finset.mem_filter, m.mem_keys, and_iff_right_iff_imp]
    intro h
    obtain ⟨v, hv⟩ := Option.isSome_iff_exists.mp h
    rw [Option.filter_eq_some_iff] at hv
    simp [hv.1]

omit [DecidableEq K] in
@[simp] theorem get_retain (m : FinMap K V) (keep : K → V → Bool) (k : K) :
    (m.retain keep).get k = (m.get k).filter (keep k) := rfl

omit [DecidableEq K] in
theorem get_retain_eq_some {m : FinMap K V} {keep : K → V → Bool} {k : K} {v : V} :
    (m.retain keep).get k = some v ↔ m.get k = some v ∧ keep k v = true := by
  rw [get_retain, Option.filter_eq_some_iff]

omit [DecidableEq K] in
theorem keys_retain_subset (m : FinMap K V) (keep : K → V → Bool) : (m.retain keep).keys ⊆ m.keys :=
  Finset.filter_subset _ _

omit [DecidableEq K] in
def mapValues (m : FinMap K V) (f : V → W) : FinMap K W where
  keys := m.keys
  get k := (m.get k).map f
  mem_keys k := by rw [Option.isSome_map, m.mem_keys]

omit [DecidableEq K] in
@[simp] theorem get_mapValues (m : FinMap K V) (f : V → W) (k : K) : (m.mapValues f).get k = (m.get k).map f := rfl

theorem mapValues_insert (m : FinMap K V) (f : V → W) (k : K) (v : V) :
    (m.insert k v).mapValues f = (m.mapValues f).insert k (f v) := by
  refine ext fun k' => ?_
  rw [get_mapValues, get_insert, get_insert, get_mapValues]
  split_ifs <;> rfl

omit [DecidableEq K] in
/-- Keep the entries for which `f` has a value, with that value. -/
def filterMapValues (m : FinMap K V) (f : K → V → Option W) : FinMap K W where
  keys := m.keys.filter fun k => ((m.get k).bind (f k)).isSome
  get k := (m.get k).bind (f k)
  mem_keys k := by
    rw [Finset.mem_filter, and_iff_right_iff_imp]
    intro h
    obtain ⟨w, hw⟩ := Option.isSome_iff_exists.mp h
    obtain ⟨v, hv, -⟩ := Option.bind_eq_some_iff.mp hw
    exact mem_keys_of_get hv

omit [DecidableEq K] in
@[simp] theorem get_filterMapValues (m : FinMap K V) (f : K → V → Option W) (k : K) :
    (m.filterMapValues f).get k = (m.get k).bind (f k) := rfl

omit [DecidableEq K] in
/-- The value under `k`, if there is one, changed in place. -/
def modify (m : FinMap K V) (k : K) (f : V → V) : FinMap K V :=
  match m.get k with
  | some v => m.insert k (f v)
  | none => m

theorem get_modify (m : FinMap K V) (k k' : K) (f : V → V) :
    (m.modify k f).get k' = if k' = k then (m.get k).map f else m.get k' := by
  unfold modify
  split
  · rename_i v hv
    simp [get_insert, hv]
  · rename_i hv
    split
    · rename_i hk
      simp [hk, hv]
    · rfl

end FinMap

/-- A way to walk finite sets: each member once, in some order. -/
structure Enumeration (K : Type) where
  list : Finset K → List K
  nodup : ∀ s, (list s).Nodup
  mem_list : ∀ s k, k ∈ list s ↔ k ∈ s

namespace Enumeration
variable {K V : Type}

attribute [simp] mem_list

/-- Some order, for statements that need one and do not care which. -/
noncomputable def arbitrary : Enumeration K where
  list := Finset.toList
  nodup := Finset.nodup_toList
  mem_list _ _ := Finset.mem_toList

def sorted [LinearOrder K] : Enumeration K where
  list s := Quotient.liftOn s.val (List.insertionSort (· ≤ ·)) fun l l' h =>
    List.Perm.eq_of_pairwise (fun _ _ _ _ => le_antisymm) (List.pairwise_insertionSort _ l)
      (List.pairwise_insertionSort _ l') ((List.perm_insertionSort _ l).trans (h.trans (List.perm_insertionSort _ l').symm))
  nodup := by
    rintro ⟨⟨l⟩, hl⟩
    exact (List.perm_insertionSort _ l).nodup_iff.mpr hl
  mem_list := by
    rintro ⟨⟨l⟩, hl⟩ k
    exact (List.perm_insertionSort _ l).mem_iff

theorem pairwise_sorted [LinearOrder K] (s : Finset K) : (sorted.list s).Pairwise (· ≤ ·) := by
  obtain ⟨⟨l⟩, hl⟩ := s
  exact List.pairwise_insertionSort _ l

/-- Where `f` takes one set to another, a walk over the one is a walk over the other. -/
theorem exists_list_eq_map {L : Type} (e : Enumeration K) {f : K → L} (hf : f.Injective) {s : Finset K} {t : Finset L}
    (h : ∀ l, l ∈ t ↔ ∃ k ∈ s, f k = l) : ∃ e' : Enumeration L, e'.list t = (e.list s).map f := by
  classical
  refine ⟨⟨fun u => if u = t then (e.list s).map f else u.toList, fun u => ?_, fun u l => ?_⟩, if_pos rfl⟩
  · split
    · exact (e.nodup s).map hf
    · exact u.nodup_toList
  · split
    · next hu => simp [hu, h]
    · exact Finset.mem_toList

/-- The values of a table in the order in which its keys are walked. -/
def values (e : Enumeration K) (m : FinMap K V) : List V := (e.list m.keys).filterMap m.get

theorem mem_values {e : Enumeration K} {m : FinMap K V} {v : V} : v ∈ e.values m ↔ ∃ k, m.get k = some v := by
  rw [values, List.mem_filterMap]
  constructor
  · rintro ⟨k, -, hk⟩
    exact ⟨k, hk⟩
  · rintro ⟨k, hk⟩
    exact ⟨k, (e.mem_list _ _).mpr (FinMap.mem_keys_of_get hk), hk⟩

end Enumeration

end Lib
