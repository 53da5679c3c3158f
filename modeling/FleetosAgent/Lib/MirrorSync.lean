import FleetosAgent.Lib.FinMap
import Mathlib.Data.Finset.Dedup
import Mathlib.Data.Finset.Lattice.Lemmas
import Mathlib.Data.Finset.SDiff

/-! # A remote table kept by key diffs

A program keeps a table it can only change entry by entry (`insertAll`, `removeAll`: each operation may
fail, and removing an absent key is an error), and a mirror of the keys it believes to be there. To install
a list of desired entries it inserts those whose key the mirror lacks (`missing`) and removes the mirrored
keys that are not desired (`stale`). The results say what the table holds afterwards, key by key, for an
arbitrary mirror, and when the removals find their keys. -/

namespace Lib

variable {ε K V : Type} [DecidableEq K]

/-! ### Operations that may fail -/

/-- Insert the entries in order; the operation number `n` fails with `fault n` if that is an error, and the
    entries before it stay inserted. -/
def insertAll (fault : Nat → Option ε) : List (K × V) → FinMap K V → Except ε Unit × FinMap K V
  | [], m => (.ok (), m)
  | (k, v) :: rest, m =>
    match fault 0 with
    | some e => (.error e, m)
    | none => insertAll (fun n => fault (n + 1)) rest (m.insert k v)

/-- Remove the keys in order; an absent key is the error `absent`. -/
def removeAll (absent : ε) (fault : Nat → Option ε) : List K → FinMap K V → Except ε Unit × FinMap K V
  | [], m => (.ok (), m)
  | k :: rest, m =>
    match fault 0 with
    | some e => (.error e, m)
    | none =>
      if k ∈ m.keys then removeAll absent (fun n => fault (n + 1)) rest (m.remove k) else (.error absent, m)

/-- No operation fails on its own account. -/
def Healthy (fault : Nat → Option ε) : Prop := ∀ n, fault n = none

theorem Healthy.tail {fault : Nat → Option ε} (h : Healthy fault) : Healthy fun n => fault (n + 1) :=
  fun n => h (n + 1)

/-- The value of the last entry with key `k`. -/
def lastValue (k : K) (kvs : List (K × V)) : Option V := ((kvs.filter fun kv => kv.1 = k).getLast?).map (·.2)

omit ε in
@[simp] theorem lastValue_nil (k : K) : lastValue k ([] : List (K × V)) = none := rfl

theorem lastValue_cons (k : K) (kv : K × V) (kvs : List (K × V)) :
    lastValue k (kv :: kvs) = (lastValue k kvs).or (if kv.1 = k then some kv.2 else none) := by
  unfold lastValue
  by_cases h : kv.1 = k
  · simp only [h, decide_true, List.filter_cons_of_pos, List.getLast?_cons, if_true]
    cases (kvs.filter fun kv => decide (kv.1 = k)).getLast? <;> rfl
  · simp [h]

theorem lastValue_map_inj {L W : Type} [DecidableEq L] {f : K → L} (hf : f.Injective) (g : V → W) (k : K)
    (kvs : List (K × V)) : lastValue (f k) (kvs.map fun kv => (f kv.1, g kv.2)) = (lastValue k kvs).map g := by
  induction kvs with
  | nil => rfl
  | cons kv kvs ih =>
    rw [List.map_cons, lastValue_cons, lastValue_cons, ih]
    by_cases h : kv.1 = k
    · cases lastValue k kvs <;> simp [h]
    · simp [h, hf.ne h]

theorem lastValue_map {W : Type} (f : V → W) (k : K) (kvs : List (K × V)) :
    lastValue k (kvs.map fun kv => (kv.1, f kv.2)) = (lastValue k kvs).map f :=
  lastValue_map_inj Function.injective_id f k kvs

theorem lastValue_isSome {k : K} {kvs : List (K × V)} : (lastValue k kvs).isSome ↔ k ∈ kvs.map (·.1) := by
  induction kvs with
  | nil => simp
  | cons kv kvs ih =>
    rw [lastValue_cons, List.map_cons, List.mem_cons, ← ih]
    by_cases h : kv.1 = k
    · simp [h]
    · simp [h, Ne.symm h]

theorem lastValue_filter {k : K} {kvs : List (K × V)} (p : K → Prop) [DecidablePred p] :
    lastValue k (kvs.filter fun kv => p kv.1) = if p k then lastValue k kvs else none := by
  induction kvs with
  | nil => simp
  | cons kv kvs ih =>
    by_cases hp : p kv.1
    · rw [List.filter_cons_of_pos (by simpa using hp), lastValue_cons, lastValue_cons, ih]
      by_cases hk : kv.1 = k
      · subst hk
        simp [hp]
      · simp [hk]
    · rw [List.filter_cons_of_neg (by simpa using hp), ih, lastValue_cons]
      by_cases hk : kv.1 = k
      · subst hk
        simp [hp]
      · simp [hk]

theorem insertAll_ok {fault : Nat → Option ε} (h : Healthy fault) (kvs : List (K × V)) (m : FinMap K V) :
    (insertAll fault kvs m).1 = .ok () := by
  induction kvs generalizing fault m with
  | nil => rfl
  | cons kv kvs ih =>
    rw [insertAll, h 0]
    exact ih h.tail _

theorem insertAll_get {fault : Nat → Option ε} (h : Healthy fault) (kvs : List (K × V)) (m : FinMap K V) (k : K) :
    (insertAll fault kvs m).2.get k = (lastValue k kvs).or (m.get k) := by
  induction kvs generalizing fault m with
  | nil => rfl
  | cons kv kvs ih =>
    rw [insertAll, h 0, lastValue_cons]
    refine (ih h.tail _).trans ?_
    rw [FinMap.get_insert, Option.or_assoc]
    congr 1
    by_cases hk : k = kv.1
    · simp [hk]
    · simp [hk, Ne.symm hk]

/-- Removals succeed exactly when they find all their keys, each named once. -/
theorem removeAll_ok_iff {absent : ε} {fault : Nat → Option ε} (h : Healthy fault) {ks : List K} (hks : ks.Nodup)
    (m : FinMap K V) : (removeAll absent fault ks m).1 = .ok () ↔ ∀ k ∈ ks, k ∈ m.keys := by
  induction ks generalizing fault m with
  | nil => simp [removeAll]
  | cons k ks ih =>
    rw [List.nodup_cons] at hks
    rw [removeAll, h 0, List.forall_mem_cons]
    by_cases hk : k ∈ m.keys
    · simp only [hk, if_true, true_and]
      rw [ih h.tail hks.2]
      refine forall₂_congr fun k' hk' => ?_
      have hne : k' ≠ k := fun e => hks.1 (e ▸ hk')
      simp [hne]
    · simp [hk]

theorem removeAll_get {absent : ε} {fault : Nat → Option ε} (h : Healthy fault) {ks : List K} (hks : ks.Nodup)
    {m : FinMap K V} (hm : ∀ k ∈ ks, k ∈ m.keys) (k : K) :
    (removeAll absent fault ks m).2.get k = if k ∈ ks then none else m.get k := by
  induction ks generalizing fault m with
  | nil => simp [removeAll]
  | cons k₀ ks ih =>
    rw [List.nodup_cons] at hks
    rw [List.forall_mem_cons] at hm
    rw [removeAll, h 0]
    simp only [hm.1, if_true]
    have found : ∀ k' ∈ ks, k' ∈ (m.remove k₀).keys := fun k' hk' =>
      Finset.mem_erase.mpr ⟨fun e => hks.1 (e ▸ hk'), hm.2 k' hk'⟩
    rw [ih h.tail hks.2 found, FinMap.get_remove]
    by_cases hk : k = k₀
    · simp [hk]
    · simp [hk]

/-! ### The diff -/

/-- The desired entries whose key the mirror lacks. -/
def missing (mirror : Finset K) (desired : List (K × V)) : List (K × V) := desired.filter fun kv => kv.1 ∉ mirror

def keySet (kvs : List (K × V)) : Finset K := (kvs.map (·.1)).toFinset

/-- The mirrored keys that are not desired, as the mirror is walked. -/
def stale (order : Enumeration K) (mirror desired : Finset K) : List K :=
  (order.list mirror).filter fun k => k ∉ desired

omit ε in
theorem mem_keySet {k : K} {kvs : List (K × V)} : k ∈ keySet kvs ↔ (lastValue k kvs).isSome := by
  rw [lastValue_isSome, keySet, List.mem_toFinset]

omit ε in
theorem mem_stale {order : Enumeration K} {mirror desired : Finset K} {k : K} :
    k ∈ stale order mirror desired ↔ k ∈ mirror ∧ k ∉ desired := by
  simp [stale]

omit ε in
theorem stale_nodup (order : Enumeration K) (mirror desired : Finset K) : (stale order mirror desired).Nodup :=
  (order.nodup mirror).filter _

omit ε in
theorem stale_empty (order : Enumeration K) (desired : Finset K) : stale order ∅ desired = [] := by
  rw [List.eq_nil_iff_forall_not_mem]
  intro k hk
  exact Finset.notMem_empty k (mem_stale.mp hk).1

omit ε in
theorem lastValue_missing (mirror : Finset K) (desired : List (K × V)) (k : K) :
    lastValue k (missing mirror desired) = if k ∈ mirror then none else lastValue k desired := by
  rw [missing, lastValue_filter (fun k => k ∉ mirror)]
  by_cases h : k ∈ mirror <;> simp [h]

theorem insertAll_missing_get {fault : Nat → Option ε} (h : Healthy fault) (mirror : Finset K) (desired : List (K × V))
    (m : FinMap K V) (k : K) : (insertAll fault (missing mirror desired) m).2.get k =
      if k ∈ mirror then m.get k else (lastValue k desired).or (m.get k) := by
  rw [insertAll_get h, lastValue_missing]
  by_cases hk : k ∈ mirror <;> simp [hk]

/-- The removals of a diff after its insertions, which do not fail. -/
def syncTable (absent : ε) (insertFault removeFault : Nat → Option ε) (order : Enumeration K) (mirror : Finset K)
    (desired : List (K × V)) (m : FinMap K V) : Except ε Unit × FinMap K V :=
  removeAll absent removeFault (stale order mirror (keySet desired)) (insertAll insertFault (missing mirror desired) m).2

section Diff
variable {absent : ε} {insertFault removeFault : Nat → Option ε} {order : Enumeration K} {mirror : Finset K}
  {desired : List (K × V)} {m : FinMap K V}

/-- The removals of a diff succeed exactly when every stale key is still in the remote table. -/
theorem syncTable_ok_iff (hi : Healthy insertFault) (hr : Healthy removeFault) :
    (syncTable absent insertFault removeFault order mirror desired m).1 = .ok () ↔
      ∀ k ∈ mirror, k ∉ keySet desired → k ∈ m.keys := by
  rw [syncTable, removeAll_ok_iff hr (stale_nodup _ _ _)]
  have same : ∀ k ∈ mirror, (k ∈ (insertAll insertFault (missing mirror desired) m).2.keys ↔ k ∈ m.keys) := by
    intro k hk
    rw [FinMap.mem_keys, FinMap.mem_keys, insertAll_missing_get hi, if_pos hk]
  constructor
  · intro h k hk hd
    exact (same k hk).mp (h k (mem_stale.mpr ⟨hk, hd⟩))
  · intro h k hk
    rw [mem_stale] at hk
    exact (same k hk.1).mpr (h k hk.1 hk.2)

/-- The remote table after a diff whose removals succeeded, key by key. A key in the mirror and desired is
    left alone: whatever value the table has under it stays. -/
theorem syncTable_get (hi : Healthy insertFault) (hr : Healthy removeFault)
    (found : ∀ k ∈ mirror, k ∉ keySet desired → k ∈ m.keys) (k : K) :
    (syncTable absent insertFault removeFault order mirror desired m).2.get k =
      if k ∈ mirror then (if k ∈ keySet desired then m.get k else none)
      else (lastValue k desired).or (m.get k) := by
  have present : ∀ k ∈ stale order mirror (keySet desired),
      k ∈ (insertAll insertFault (missing mirror desired) m).2.keys := by
    intro k hk
    rw [mem_stale] at hk
    rw [FinMap.mem_keys, insertAll_missing_get hi, if_pos hk.1, ← FinMap.mem_keys]
    exact found k hk.1 hk.2
  rw [syncTable, removeAll_get hr (stale_nodup _ _ _) present, insertAll_missing_get hi]
  by_cases hk : k ∈ mirror <;> by_cases hd : k ∈ keySet desired <;> simp [mem_stale, hk, hd]

/-- A diff against an exact mirror finds every key it removes, and afterwards the table has exactly the
    desired keys. -/
theorem syncTable_keys (hi : Healthy insertFault) (hr : Healthy removeFault) (hm : m.keys = mirror) :
    (syncTable absent insertFault removeFault order mirror desired m).2.keys = keySet desired := by
  ext k
  rw [FinMap.mem_keys, syncTable_get hi hr (fun k hk _ => hm ▸ hk)]
  have get_none : k ∉ mirror → m.get k = none := fun h => FinMap.notMem_keys.mp (hm ▸ h)
  by_cases hk : k ∈ mirror
  · have hk' : (m.get k).isSome := (m.mem_keys k).mp (hm ▸ hk)
    by_cases hd : k ∈ keySet desired <;> simp [hk, hd, hk']
  · simp [hk, get_none hk, mem_keySet]

/-- Exactly when a healthy diff installs the desired keys: every mirrored key is in the remote table, and every
    remote key the mirror does not know is desired. -/
theorem syncTable_exact_iff (hi : Healthy insertFault) (hr : Healthy removeFault) :
    ((syncTable absent insertFault removeFault order mirror desired m).1 = .ok () ∧
        (syncTable absent insertFault removeFault order mirror desired m).2.keys = keySet desired) ↔
      mirror ⊆ m.keys ∧ ∀ k ∈ m.keys, k ∉ mirror → k ∈ keySet desired := by
  rw [syncTable_ok_iff hi hr]
  constructor
  · rintro ⟨found, keys⟩
    refine ⟨fun k hk => ?_, fun k hk hm => ?_⟩
    · by_cases hd : k ∈ keySet desired
      · have hd' := hd
        rw [← keys, FinMap.mem_keys, syncTable_get hi hr found, if_pos hk, if_pos hd, ← FinMap.mem_keys] at hd'
        exact hd'
      · exact found k hk hd
    · have hk' : (m.get k).isSome := (m.mem_keys k).mp hk
      rw [← keys, FinMap.mem_keys, syncTable_get hi hr found, if_neg hm, Option.isSome_or, hk', Bool.or_true]
  · rintro ⟨sub, extra⟩
    have found : ∀ k ∈ mirror, k ∉ keySet desired → k ∈ m.keys := fun k hk _ => sub hk
    refine ⟨found, ?_⟩
    ext k
    rw [FinMap.mem_keys, syncTable_get hi hr found]
    by_cases hk : k ∈ mirror
    · have hk' : (m.get k).isSome := (m.mem_keys k).mp (sub hk)
      by_cases hd : k ∈ keySet desired <;> simp [hk, hd, hk']
    · rw [if_neg hk, Option.isSome_or, Bool.or_eq_true, ← mem_keySet, ← FinMap.mem_keys]
      exact ⟨fun h => h.elim id fun h => extra k h hk, Or.inl⟩

end Diff

/-- Each removal of the list finds its key in the table that the removals before it left. -/
def RemovesPresent (ks : List K) (m : FinMap K V) : Prop :=
  ∀ pre k post, ks = pre ++ k :: post → k ∈ (pre.foldl FinMap.remove m).keys

omit ε in
theorem keys_foldl_remove (ks : List K) (m : FinMap K V) : (ks.foldl FinMap.remove m).keys = m.keys \ ks.toFinset := by
  induction ks generalizing m with
  | nil => simp
  | cons k ks ih =>
    rw [List.foldl_cons, ih, FinMap.keys_remove, List.toFinset_cons]
    ext k'
    simp only [Finset.mem_sdiff, Finset.mem_erase, Finset.mem_insert]
    tauto

theorem removesPresent_stale {insertFault : Nat → Option ε} (hi : Healthy insertFault) (order : Enumeration K)
    (desired : List (K × V)) (m : FinMap K V) :
    RemovesPresent (stale order m.keys (keySet desired)) (insertAll insertFault (missing m.keys desired) m).2 := by
  intro pre k post hsplit
  have hk : k ∈ stale order m.keys (keySet desired) := by simp [hsplit]
  have hfresh : k ∉ pre := by
    have hnodup := stale_nodup order m.keys (keySet desired)
    rw [hsplit, List.nodup_append] at hnodup
    exact fun h => hnodup.2.2 k h k (List.mem_cons_self ..) rfl
  rw [keys_foldl_remove, Finset.mem_sdiff, List.mem_toFinset]
  refine ⟨?_, hfresh⟩
  rw [FinMap.mem_keys, insertAll_missing_get hi, if_pos (mem_stale.mp hk).1, ← FinMap.mem_keys]
  exact (mem_stale.mp hk).1

/-! ### The mirror -/

omit ε in
theorem foldl_insert_keys {α : Type} (f : α → K) (l : List α) (s : Finset K) :
    l.foldl (fun s a => Insert.insert (f a) s) s = s ∪ (l.map f).toFinset := by
  induction l generalizing s with
  | nil => simp
  | cons a l ih =>
    rw [List.foldl_cons, ih]
    ext k
    simp only [Finset.mem_union, Finset.mem_insert, List.map_cons, List.toFinset_cons]
    tauto

omit ε V in
theorem foldl_erase_keys (l : List K) (s : Finset K) : l.foldl Finset.erase s = s \ l.toFinset := by
  induction l generalizing s with
  | nil => simp
  | cons a l ih =>
    rw [List.foldl_cons, ih]
    ext k
    simp only [Finset.mem_sdiff, Finset.mem_erase, List.toFinset_cons, Finset.mem_insert]
    tauto

omit ε in
theorem mirror_after (order : Enumeration K) (mirror : Finset K) (desired : List (K × V)) :
    (mirror ∪ keySet (missing mirror desired)) \ (stale order mirror (keySet desired)).toFinset = keySet desired := by
  ext k
  rw [Finset.mem_sdiff, Finset.mem_union, List.mem_toFinset, mem_stale, mem_keySet, lastValue_missing]
  by_cases hk : k ∈ mirror <;> by_cases hd : k ∈ keySet desired <;> simp [hk, hd]
  · exact mem_keySet.mp hd
  · rw [mem_keySet, Bool.not_eq_true, Option.isSome_eq_false_iff, Option.isNone_iff_eq_none] at hd
    exact hd

/-! ### The values -/

section Values
variable {D : Type} {view : V → D} {previous desired : List (K × V)} {m m' : FinMap K V}

/-- The table shows the desired entries: under each desired key, the value of the last entry with that key, as
    far as `view` looks at it. -/
def Shows (view : V → D) (desired : List (K × V)) (m : FinMap K V) : Prop :=
  ∀ k v, lastValue k desired = some v → (m.get k).map view = some (view v)

/-- Two lists of entries agree on the keys they share. -/
def Agree (view : V → D) (previous desired : List (K × V)) : Prop :=
  ∀ k v v', lastValue k previous = some v → lastValue k desired = some v' → view v = view v'

omit ε in
theorem shows_nil (m : FinMap K V) : Shows view [] m := by
  intro k v h
  simp at h

omit ε in
/-- A diff against the keys of the entries shown before shows the new ones exactly when the two agree: the keys
    they share are never written again. -/
theorem shows_iff_agree (hprev : Shows view previous m)
    (hget : ∀ k, m'.get k = if k ∈ keySet previous then (if k ∈ keySet desired then m.get k else none)
      else (lastValue k desired).or (m.get k)) : Shows view desired m' ↔ Agree view previous desired := by
  constructor
  · intro h k v v' hv hv'
    have hk : k ∈ keySet previous := mem_keySet.mpr (by rw [hv]; rfl)
    have hk' : k ∈ keySet desired := mem_keySet.mpr (by rw [hv']; rfl)
    have now := h k v' hv'
    rw [hget, if_pos hk, if_pos hk', hprev k v hv] at now
    exact Option.some.inj now
  · intro h k v' hv'
    have hk' : k ∈ keySet desired := mem_keySet.mpr (by rw [hv']; rfl)
    rw [hget]
    by_cases hk : k ∈ keySet previous
    · obtain ⟨v, hv⟩ := Option.isSome_iff_exists.mp (mem_keySet.mp hk)
      rw [if_pos hk, if_pos hk', hprev k v hv, h k v v' hv hv']
    · rw [if_neg hk, hv', Option.some_or]
      rfl

end Values

end Lib
