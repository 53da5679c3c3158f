import FleetosAgent.Policy.Sync
import FleetosAgent.Lib.Run

/-! # Policy sync over runs

The mutations of a frame are the key diff of its compiled entries against the mirror (`Lib.missing`,
`Lib.stale`), tier by tier. From that: with a healthy kernel the mirror is exact after every frame; the decisions
in the kernel are those of the newest accepted frame exactly when consecutive accepted frames agree on the keys
they share; and after operations have failed, a healthy frame repairs the maps exactly from the states that
`Recoverable` describes. -/

namespace FleetosAgent.Policy
open Lib

/-! ### The two tiers -/

section Tiers
variable (c : PolicyCompiler)

/-- The key of an exact entry, if it has one. -/
def exactKey (entry : CompiledPolicyEntry) : Option EbpfPolicyKey :=
  match entry with
  | .exact .. => c.toEbpfExactKey entry
  | .wildcard .. => none

def wildcardKey (entry : CompiledPolicyEntry) : Option EbpfPolicyWildcardKey :=
  match entry with
  | .exact .. => none
  | .wildcard .. => c.toEbpfWildcardKey entry

/-- What one turn of the loop over the entries adds to a tier: to what is to be inserted, and to the desired keys. -/
structure Collects {Key : Type} {n : Nat} (keyBytes : Key → Bytes n) (tracked : Finset (Bytes n)) (key : Option Key)
    (value : EbpfPolicyValue) (inserts inserts' : List (Key × EbpfPolicyValue)) (desired desired' : Finset (Bytes n)) :
    Prop where
  inserts_eq : inserts' = inserts ++ (key.toList.filter fun k => keyBytes k ∉ tracked).map fun k => (k, value)
  desired_eq : desired' = desired ∪ (key.toList.map keyBytes).toFinset

theorem collectEntry_collects (state : PolicySyncState) (acc : Collected) (entry : CompiledPolicyEntry) :
    Collects exactKeyBytes state.exactKeys (exactKey c entry) (c.toEbpfValue entry) acc.mutations.insertExact
        (collectEntry c state acc entry).mutations.insertExact acc.desiredExactKeys
        (collectEntry c state acc entry).desiredExactKeys ∧
      Collects wildcardKeyBytes state.wildcardKeys (wildcardKey c entry) (c.toEbpfValue entry) acc.mutations.insertWildcard
        (collectEntry c state acc entry).mutations.insertWildcard acc.desiredWildcardKeys
        (collectEntry c state acc entry).desiredWildcardKeys := by
  cases entry with
  | exact src dst protocol port decision version =>
    unfold collectEntry exactKey wildcardKey
    cases c.toEbpfExactKey (.exact src dst protocol port decision version) with
    | none => exact ⟨⟨by simp, by simp⟩, by simp, by simp⟩
    | some key =>
      by_cases hm : exactKeyBytes key ∈ state.exactKeys <;> exact ⟨⟨by simp [hm], by simp⟩, by simp [hm], by simp⟩
  | wildcard src dst decision version =>
    unfold collectEntry exactKey wildcardKey
    cases c.toEbpfWildcardKey (.wildcard src dst decision version) with
    | none => exact ⟨⟨by simp, by simp⟩, by simp, by simp⟩
    | some key =>
      by_cases hm : wildcardKeyBytes key ∈ state.wildcardKeys <;> exact ⟨⟨by simp [hm], by simp⟩, by simp [hm], by simp⟩

/-- One of the two policy maps: what of a frame is its part, and that the loops of the source fill that part in. -/
structure Tier (Key : Type) (n : Nat) where
  keyBytes : Key → Bytes n
  key : CompiledPolicyEntry → Option Key
  tracked : PolicySyncState → Finset (Bytes n)
  inserts : PolicyMutations → List (Key × EbpfPolicyValue)
  deletes : PolicyMutations → List (Bytes n)
  desired : Collected → Finset (Bytes n)
  walk : KeyOrder → Enumeration (Bytes n)
  table : PolicyMaps → FinMap (Bytes n) (Bytes 16)
  insertFaults : SyncEnv → Nat → Option String
  removeFaults : SyncEnv → Nat → Option String
  collects_nothing : inserts ({} : Collected).mutations = [] ∧ desired {} = ∅
  collects : ∀ state acc entry, Collects keyBytes (tracked state) (key entry) (c.toEbpfValue entry) (inserts acc.mutations)
    (inserts (collectEntry c state acc entry).mutations) (desired acc) (desired (collectEntry c state acc entry))
  inserts_diff : ∀ order state compiled, inserts (computeSyncMutations c order state compiled) =
    inserts (compiled.entries.foldl (collectEntry c state) {}).mutations
  deletes_diff : ∀ order state compiled, deletes (computeSyncMutations c order state compiled) =
    ((walk order).list (tracked state)).filter (· ∉ desired (compiled.entries.foldl (collectEntry c state) {}))
  tracked_applied : ∀ state mutations version, tracked (applyMutationsToState state mutations version) =
    (deletes mutations).foldl Finset.erase
      ((inserts mutations).foldl (fun keys kv => insert (keyBytes kv.1) keys) (tracked state))

/-- POLICY_EXACT. -/
def exactTier : Tier c EbpfPolicyKey 40 where
  keyBytes := exactKeyBytes
  key := exactKey c
  tracked := PolicySyncState.exactKeys
  inserts := PolicyMutations.insertExact
  deletes := PolicyMutations.deleteExact
  desired := Collected.desiredExactKeys
  walk := KeyOrder.exact
  table := PolicyMaps.policyExact
  insertFaults := SyncEnv.insertExact
  removeFaults := SyncEnv.removeExact
  collects_nothing := ⟨rfl, rfl⟩
  collects state acc entry := (collectEntry_collects c state acc entry).1
  inserts_diff _ _ _ := rfl
  deletes_diff _ _ _ := rfl
  tracked_applied _ _ _ := rfl

/-- POLICY_WILDCARD. -/
def wildcardTier : Tier c EbpfPolicyWildcardKey 32 where
  keyBytes := wildcardKeyBytes
  key := wildcardKey c
  tracked := PolicySyncState.wildcardKeys
  inserts := PolicyMutations.insertWildcard
  deletes := PolicyMutations.deleteWildcard
  desired := Collected.desiredWildcardKeys
  walk := KeyOrder.wildcard
  table := PolicyMaps.policyWildcard
  insertFaults := SyncEnv.insertWildcard
  removeFaults := SyncEnv.removeWildcard
  collects_nothing := ⟨rfl, rfl⟩
  collects state acc entry := (collectEntry_collects c state acc entry).2
  inserts_diff _ _ _ := rfl
  deletes_diff _ _ _ := rfl
  tracked_applied _ _ _ := rfl

end Tiers

/-! ### The entries of a frame -/

namespace Tier
variable {c : PolicyCompiler} {Key : Type} {n : Nat} (t : Tier c Key n)

/-- The entries of the tier that have an eBPF key, in the order of the compiled set. -/
def entries (entries : List CompiledPolicyEntry) : List (Key × EbpfPolicyValue) :=
  entries.filterMap fun entry => (t.key entry).map fun key => (key, c.toEbpfValue entry)

/-- What a compiled set wants in the map. -/
def pairs (compiled : CompiledPolicySet) : List (Bytes n × Bytes 16) :=
  (t.entries compiled.entries).map fun kv => (t.keyBytes kv.1, policyValueBytes kv.2)

/-- The decisions of the entries of a compiled set, by key. -/
def decisions (compiled : CompiledPolicySet) : List (Bytes n × UInt8) :=
  (t.entries compiled.entries).map fun kv => (t.keyBytes kv.1, kv.2.decision)

theorem decisions_eq (compiled : CompiledPolicySet) :
    t.decisions compiled = (t.pairs compiled).map fun kv => (kv.1, storedDecision kv.2) := by
  simp [decisions, pairs, Function.comp_def]

/-! ### The mutations are a key diff -/

theorem collect (state : PolicySyncState) (entries : List CompiledPolicyEntry) (acc : Collected) :
    t.inserts (entries.foldl (collectEntry c state) acc).mutations =
        t.inserts acc.mutations ++ (t.entries entries).filter (fun kv => t.keyBytes kv.1 ∉ t.tracked state) ∧
      t.desired (entries.foldl (collectEntry c state) acc) =
        t.desired acc ∪ ((t.entries entries).map fun kv => t.keyBytes kv.1).toFinset := by
  induction entries generalizing acc with
  | nil => simp [Tier.entries]
  | cons entry entries ih =>
    obtain ⟨hins, hkeys⟩ := ih (collectEntry c state acc entry)
    obtain ⟨hins', hkeys'⟩ := t.collects state acc entry
    rw [List.foldl_cons, hins, hkeys, hins', hkeys']
    unfold Tier.entries
    cases hkey : t.key entry with
    | none => simp [hkey]
    | some key => by_cases hm : t.keyBytes key ∈ t.tracked state <;> simp [hkey, hm]

variable (order : KeyOrder) (state : PolicySyncState) (compiled : CompiledPolicySet)

theorem inserts_bytes : ((t.inserts (computeSyncMutations c order state compiled)).map
    fun kv => (t.keyBytes kv.1, policyValueBytes kv.2)) = missing (t.tracked state) (t.pairs compiled) := by
  rw [t.inserts_diff, (t.collect state compiled.entries {}).1, t.collects_nothing.1, missing, pairs, List.filter_map,
    List.nil_append]
  rfl

theorem deletes_eq : t.deletes (computeSyncMutations c order state compiled) =
    stale (t.walk order) (t.tracked state) (keySet (t.pairs compiled)) := by
  have desired : t.desired (compiled.entries.foldl (collectEntry c state) {}) = keySet (t.pairs compiled) := by
    rw [(t.collect state compiled.entries {}).2, t.collects_nothing.2, keySet, pairs, List.map_map]
    exact Finset.empty_union _
  rw [t.deletes_diff, desired]
  rfl

theorem tracked_after (version : UInt64) :
    t.tracked (applyMutationsToState state (computeSyncMutations c order state compiled) version) =
      keySet (t.pairs compiled) := by
  have keys : ((t.inserts (computeSyncMutations c order state compiled)).map fun kv => t.keyBytes kv.1) =
      (missing (t.tracked state) (t.pairs compiled)).map (·.1) := by
    rw [← t.inserts_bytes order, List.map_map]
    rfl
  rw [t.tracked_applied, foldl_insert_keys, foldl_erase_keys, keys, t.deletes_eq]
  exact mirror_after (t.walk order) (t.tracked state) (t.pairs compiled)

variable (env : SyncEnv) (w : PolicyWorld)

/-- The loop of the insertions, and the map it leaves. -/
def insertPairs : Except String Unit × FinMap (Bytes n) (Bytes 16) :=
  insertAll (t.insertFaults env) (missing (t.tracked w.state) (t.pairs compiled)) (t.table w.maps)

/-- The loop of the removals. -/
def removeStale (m : FinMap (Bytes n) (Bytes 16)) : Except String Unit × FinMap (Bytes n) (Bytes 16) :=
  removeAll absentKey (t.removeFaults env) (stale (t.walk env.order) (t.tracked w.state) (keySet (t.pairs compiled))) m

/-- The map after the diff of a frame whose insertions succeed, and whether its removals found their keys. -/
def synced : Except String Unit × FinMap (Bytes n) (Bytes 16) :=
  syncTable absentKey (t.insertFaults env) (t.removeFaults env) (t.walk env.order) (t.tracked w.state) (t.pairs compiled)
    (t.table w.maps)

variable {t compiled env w}

theorem synced_of_inserted {r : Except String Unit} {m : FinMap (Bytes n) (Bytes 16)}
    (h : t.insertPairs compiled env w = (r, m)) : t.synced compiled env w = t.removeStale compiled env w m := by
  have rest : t.synced compiled env w = t.removeStale compiled env w (t.insertPairs compiled env w).2 := rfl
  rw [rest, h]

/-- Insertions that do not fail on their own account all succeed. -/
theorem insertPairs_ne_error (healthy : Healthy (t.insertFaults env)) {e : String} {m : FinMap (Bytes n) (Bytes 16)} :
    t.insertPairs compiled env w ≠ (.error e, m) := by
  intro h
  have ok := insertAll_ok healthy (missing (t.tracked w.state) (t.pairs compiled)) (t.table w.maps)
  rw [← insertPairs, h] at ok
  cases ok

theorem shows_iff {m : FinMap (Bytes n) (Bytes 16)} :
    (∀ k d, lastValue k (t.decisions compiled) = some d → (m.get k).map storedDecision = some d) ↔
      Shows storedDecision (t.pairs compiled) m := by
  constructor
  · intro h k v hv
    refine h k _ ?_
    rw [decisions_eq, lastValue_map, hv]
    rfl
  · intro h k d hd
    rw [decisions_eq, lastValue_map, Option.map_eq_some_iff] at hd
    obtain ⟨v, hv, rfl⟩ := hd
    exact h k v hv

theorem agree_iff {previous : CompiledPolicySet} :
    (∀ k d d', lastValue k (t.decisions previous) = some d → lastValue k (t.decisions compiled) = some d' → d = d') ↔
      Agree storedDecision (t.pairs previous) (t.pairs compiled) := by
  constructor
  · intro h k v v' hv hv'
    refine h k _ _ ?_ ?_
    · rw [decisions_eq, lastValue_map, hv]
      rfl
    · rw [decisions_eq, lastValue_map, hv']
      rfl
  · intro h k d d' hd hd'
    rw [decisions_eq, lastValue_map, Option.map_eq_some_iff] at hd hd'
    obtain ⟨v, hv, rfl⟩ := hd
    obtain ⟨v', hv', rfl⟩ := hd'
    exact h k v v' hv hv'

end Tier

section
variable (c : PolicyCompiler)

/-- What a compiled set wants in POLICY_EXACT. -/
def exactPairs (compiled : CompiledPolicySet) : List (Bytes 40 × Bytes 16) := (exactTier c).pairs compiled

def wildcardPairs (compiled : CompiledPolicySet) : List (Bytes 32 × Bytes 16) := (wildcardTier c).pairs compiled

variable (order : KeyOrder) (state : PolicySyncState) (compiled : CompiledPolicySet)

/-- The mutations of a frame, as the four loops over them read them. -/
theorem mutations_eq : ((computeSyncMutations c order state compiled).insertExact.map
      fun kv => (exactKeyBytes kv.1, policyValueBytes kv.2)) = missing state.exactKeys (exactPairs c compiled) ∧
    (computeSyncMutations c order state compiled).deleteExact =
      stale order.exact state.exactKeys (keySet (exactPairs c compiled)) ∧
    ((computeSyncMutations c order state compiled).insertWildcard.map
      fun kv => (wildcardKeyBytes kv.1, policyValueBytes kv.2)) = missing state.wildcardKeys (wildcardPairs c compiled) ∧
    (computeSyncMutations c order state compiled).deleteWildcard =
      stale order.wildcard state.wildcardKeys (keySet (wildcardPairs c compiled)) :=
  ⟨(exactTier c).inserts_bytes order state compiled, (exactTier c).deletes_eq order state compiled,
    (wildcardTier c).inserts_bytes order state compiled, (wildcardTier c).deletes_eq order state compiled⟩

theorem applyMutationsToState_keys (version : UInt64) :
    applyMutationsToState state (computeSyncMutations c order state compiled) version =
      ⟨version, keySet (exactPairs c compiled), keySet (wildcardPairs c compiled)⟩ := by
  rw [exactPairs, wildcardPairs, ← (exactTier c).tracked_after order state compiled version,
    ← (wildcardTier c).tracked_after order state compiled version]
  rfl

end

/-! ### One frame -/

section Frame
variable {c : PolicyCompiler} {dtd : String} {w : PolicyWorld} {update : SagUpdate c} {env : SyncEnv}
  {compiled : CompiledPolicySet}

/-- A frame is accepted: its version is newer than the current one and its rules convert and compile. -/
def Accepts (c : PolicyCompiler) (dtd : String) (version : UInt64) (update : SagUpdate c)
    (compiled : CompiledPolicySet) : Prop :=
  version < update.version ∧ compileRules c update.rules update.version dtd = .ok compiled

theorem syncPolicy_of_stale (h : update.version ≤ w.state.currentVersion) :
    syncPolicy c dtd w update env = (.ok (), w) := by
  simp [syncPolicy, compileAndSync, h]

theorem syncPolicy_of_error {e : AgentError} (h : w.state.currentVersion < update.version)
    (he : compileRules c update.rules update.version dtd = .error e) : syncPolicy c dtd w update env = (.error e, w) := by
  simp [syncPolicy, compileAndSync, UInt64.not_le.mpr h, he]

theorem syncPolicy_of_accepts (h : Accepts c dtd w.state.currentVersion update compiled) :
    syncPolicy c dtd w update env =
      match applyMutationsToMaps env (computeSyncMutations c env.order w.state compiled) w.maps with
      | (.error e, maps) => (.error e, { w with maps := maps })
      | (.ok _, maps) =>
        (.ok (), ⟨⟨update.version, keySet (exactPairs c compiled), keySet (wildcardPairs c compiled)⟩, maps⟩) := by
  rw [syncPolicy, compileAndSync, if_neg (UInt64.not_le.mpr h.1), h.2]
  dsimp only
  rcases applyMutationsToMaps env (computeSyncMutations c env.order w.state compiled) w.maps with ⟨_ | _, maps⟩
  · rfl
  · exact congrArg (fun state => (Except.ok (), PolicyWorld.mk state maps)) (applyMutationsToState_keys ..)

/-! ### How far a frame gets -/

/-- Where the four loops over the mutations of a compiled set end, and with which maps. -/
inductive Outcome (c : PolicyCompiler) (env : SyncEnv) (w : PolicyWorld) (compiled : CompiledPolicySet) :
    Except AgentError Unit × PolicyMaps → Prop
  | locked (e : AgentError) (poisoned : env.lockPoisoned ≠ none) : Outcome c env w compiled (.error e, w.maps)
  | exactInsert (e : AgentError) {e' : String} {exact : FinMap (Bytes 40) (Bytes 16)}
      (failed : (exactTier c).insertPairs compiled env w = (.error e', exact)) :
      Outcome c env w compiled (.error e, ⟨exact, w.maps.policyWildcard⟩)
  | exactRemove (e : AgentError) {e' : String} {exact₁ exact : FinMap (Bytes 40) (Bytes 16)}
      (inserted : (exactTier c).insertPairs compiled env w = (.ok (), exact₁))
      (failed : (exactTier c).removeStale compiled env w exact₁ = (.error e', exact)) :
      Outcome c env w compiled (.error e, ⟨exact, w.maps.policyWildcard⟩)
  | wildcardInsert (e : AgentError) {e' : String} {exact₁ exact : FinMap (Bytes 40) (Bytes 16)}
      {wildcard : FinMap (Bytes 32) (Bytes 16)} (inserted : (exactTier c).insertPairs compiled env w = (.ok (), exact₁))
      (removed : (exactTier c).removeStale compiled env w exact₁ = (.ok (), exact))
      (failed : (wildcardTier c).insertPairs compiled env w = (.error e', wildcard)) :
      Outcome c env w compiled (.error e, ⟨exact, wildcard⟩)
  | wildcardRemove (e : AgentError) {e' : String} {exact₁ exact : FinMap (Bytes 40) (Bytes 16)}
      {wildcard₁ wildcard : FinMap (Bytes 32) (Bytes 16)}
      (inserted : (exactTier c).insertPairs compiled env w = (.ok (), exact₁))
      (removed : (exactTier c).removeStale compiled env w exact₁ = (.ok (), exact))
      (inserted' : (wildcardTier c).insertPairs compiled env w = (.ok (), wildcard₁))
      (failed : (wildcardTier c).removeStale compiled env w wildcard₁ = (.error e', wildcard)) :
      Outcome c env w compiled (.error e, ⟨exact, wildcard⟩)
  | applied {exact₁ exact : FinMap (Bytes 40) (Bytes 16)} {wildcard₁ wildcard : FinMap (Bytes 32) (Bytes 16)}
      (inserted : (exactTier c).insertPairs compiled env w = (.ok (), exact₁))
      (removed : (exactTier c).removeStale compiled env w exact₁ = (.ok (), exact))
      (inserted' : (wildcardTier c).insertPairs compiled env w = (.ok (), wildcard₁))
      (removed' : (wildcardTier c).removeStale compiled env w wildcard₁ = (.ok (), wildcard)) :
      Outcome c env w compiled (.ok (), ⟨exact, wildcard⟩)

theorem applyMutationsToMaps_outcome (c : PolicyCompiler) (env : SyncEnv) (w : PolicyWorld) (compiled : CompiledPolicySet) :
    Outcome c env w compiled (applyMutationsToMaps env (computeSyncMutations c env.order w.state compiled) w.maps) := by
  obtain ⟨insertExact, deleteExact, insertWildcard, deleteWildcard⟩ := mutations_eq c env.order w.state compiled
  unfold applyMutationsToMaps
  rw [insertExact, deleteExact, insertWildcard, deleteWildcard]
  cases hlock : env.lockPoisoned with
  | some e => exact .locked _ (by rw [hlock]; rintro ⟨⟩)
  | none =>
    dsimp only
    rcases inserted : insertAll env.insertExact (missing w.state.exactKeys (exactPairs c compiled)) w.maps.policyExact with
      ⟨e | _, exact₁⟩
    · exact .exactInsert _ inserted
    dsimp only
    rcases removed : removeAll absentKey env.removeExact
        (stale env.order.exact w.state.exactKeys (keySet (exactPairs c compiled))) exact₁ with ⟨e | _, exact₂⟩
    · exact .exactRemove _ inserted removed
    dsimp only
    rcases inserted' : insertAll env.insertWildcard (missing w.state.wildcardKeys (wildcardPairs c compiled))
        w.maps.policyWildcard with ⟨e | _, wildcard₁⟩
    · exact .wildcardInsert _ inserted removed inserted'
    dsimp only
    rcases removed' : removeAll absentKey env.removeWildcard
        (stale env.order.wildcard w.state.wildcardKeys (keySet (wildcardPairs c compiled)))
        wildcard₁ with ⟨e | _, wildcard₂⟩
    · exact .wildcardRemove _ inserted removed inserted' removed'
    · exact .applied inserted removed inserted' removed'

/-- On a healthy kernel only a removal can fail, of a key that is not there. -/
theorem applyMutationsToMaps_healthy (c : PolicyCompiler) (w : PolicyWorld) (compiled : CompiledPolicySet)
    (h : env.Healthy) :
    (((exactTier c).synced compiled env w).1 = .ok () ∧ ((wildcardTier c).synced compiled env w).1 = .ok () ∧
      applyMutationsToMaps env (computeSyncMutations c env.order w.state compiled) w.maps =
        (.ok (), ⟨((exactTier c).synced compiled env w).2, ((wildcardTier c).synced compiled env w).2⟩)) ∨
    (¬(((exactTier c).synced compiled env w).1 = .ok () ∧ ((wildcardTier c).synced compiled env w).1 = .ok ()) ∧
      ∃ e maps, applyMutationsToMaps env (computeSyncMutations c env.order w.state compiled) w.maps =
        (.error e, maps)) := by
  have outcome := applyMutationsToMaps_outcome c env w compiled
  generalize applyMutationsToMaps env (computeSyncMutations c env.order w.state compiled) w.maps = result at outcome ⊢
  cases outcome with
  | locked e poisoned => exact absurd h.lock poisoned
  | exactInsert e failed => exact absurd failed (Tier.insertPairs_ne_error h.insertExact)
  | wildcardInsert e _ _ failed => exact absurd failed (Tier.insertPairs_ne_error h.insertWildcard)
  | exactRemove e inserted failed =>
    rw [Tier.synced_of_inserted inserted, failed]
    exact Or.inr ⟨fun ok => (by cases ok.1), _, _, rfl⟩
  | wildcardRemove e _ _ inserted failed =>
    rw [Tier.synced_of_inserted inserted, failed]
    exact Or.inr ⟨fun ok => (by cases ok.2), _, _, rfl⟩
  | applied inserted removed inserted' removed' =>
    rw [Tier.synced_of_inserted inserted, Tier.synced_of_inserted inserted', removed, removed']
    exact Or.inl ⟨rfl, rfl, rfl⟩

/-- The mirror knows the kernel's keys exactly. -/
structure Mirrored (w : PolicyWorld) : Prop where
  exact_keys : w.maps.policyExact.keys = w.state.exactKeys
  wildcard_keys : w.maps.policyWildcard.keys = w.state.wildcardKeys

theorem syncPolicy_mirrored (h : env.Healthy) (hm : Mirrored w)
    (ha : Accepts c dtd w.state.currentVersion update compiled) :
    syncPolicy c dtd w update env =
      (.ok (), ⟨⟨update.version, keySet (exactPairs c compiled), keySet (wildcardPairs c compiled)⟩,
        ⟨((exactTier c).synced compiled env w).2, ((wildcardTier c).synced compiled env w).2⟩⟩) := by
  have exact_ok : ((exactTier c).synced compiled env w).1 = .ok () :=
    (syncTable_ok_iff h.insertExact h.removeExact).mpr fun k hk _ => hm.exact_keys ▸ hk
  have wildcard_ok : ((wildcardTier c).synced compiled env w).1 = .ok () :=
    (syncTable_ok_iff h.insertWildcard h.removeWildcard).mpr fun k hk _ => hm.wildcard_keys ▸ hk
  rcases applyMutationsToMaps_healthy c w compiled h with ⟨-, -, happly⟩ | ⟨hno, -⟩
  · rw [syncPolicy_of_accepts ha, happly]
  · exact absurd ⟨exact_ok, wildcard_ok⟩ hno

theorem synced_keys (h : env.Healthy) (hm : Mirrored w) :
    ((exactTier c).synced compiled env w).2.keys = keySet (exactPairs c compiled) ∧
      ((wildcardTier c).synced compiled env w).2.keys = keySet (wildcardPairs c compiled) :=
  ⟨syncTable_keys h.insertExact h.removeExact hm.exact_keys,
    syncTable_keys h.insertWildcard h.removeWildcard hm.wildcard_keys⟩

theorem frame_cases (c : PolicyCompiler) (dtd : String) (version : UInt64) (update : SagUpdate c) :
    update.version ≤ version ∨
      (version < update.version ∧ ∃ e, compileRules c update.rules update.version dtd = .error e) ∨
      ∃ compiled, Accepts c dtd version update compiled := by
  by_cases h : update.version ≤ version
  · exact Or.inl h
  · cases he : compileRules c update.rules update.version dtd with
    | error e => exact Or.inr (Or.inl ⟨UInt64.not_le.mp h, e, rfl⟩)
    | ok compiled => exact Or.inr (Or.inr ⟨compiled, UInt64.not_le.mp h, he⟩)

theorem syncPolicy_keeps_mirrored (h : env.Healthy) (hm : Mirrored w) : Mirrored (syncPolicy c dtd w update env).2 := by
  rcases frame_cases c dtd w.state.currentVersion update with hs | ⟨hn, e, he⟩ | ⟨compiled, ha⟩
  · rw [syncPolicy_of_stale hs]
    exact hm
  · rw [syncPolicy_of_error hn he]
    exact hm
  · rw [syncPolicy_mirrored h hm ha]
    exact ⟨(synced_keys h hm).1, (synced_keys h hm).2⟩

end Frame

/-! ### Runs with a healthy kernel: keys -/

section Runs
variable (c : PolicyCompiler) (dtd : String)

/-- What handling `frame` in `w` does to the keys when nothing fails on its own account. -/
structure KeysFollow (w : PolicyWorld) (frame : SagFrame c) : Prop where
  mirrored : Mirrored (sagStep c dtd w frame)
  stale_frame : frame.update.version ≤ w.state.currentVersion →
    syncPolicy c dtd w frame.update frame.env = (.ok (), w)
  rejected_frame : ∀ e, w.state.currentVersion < frame.update.version →
    compileRules c frame.update.rules frame.update.version dtd = .error e →
    syncPolicy c dtd w frame.update frame.env = (.error e, w)
  accepted_frame : ∀ compiled, Accepts c dtd w.state.currentVersion frame.update compiled →
    (syncPolicy c dtd w frame.update frame.env).1 = .ok () ∧
    (sagStep c dtd w frame).maps.policyExact.keys = keySet (exactPairs c compiled) ∧
    (sagStep c dtd w frame).maps.policyWildcard.keys = keySet (wildcardPairs c compiled) ∧
    (sagStep c dtd w frame).state.currentVersion = frame.update.version
  removes_present : ∀ compiled mutations,
    compileAndSync c frame.env.order w.state frame.update.rules frame.update.version dtd =
      .ok (some (mutations, compiled)) →
    RemovesPresent mutations.deleteExact (insertAll frame.env.insertExact
      (mutations.insertExact.map fun kv => (exactKeyBytes kv.1, policyValueBytes kv.2)) w.maps.policyExact).2 ∧
    RemovesPresent mutations.deleteWildcard (insertAll frame.env.insertWildcard
      (mutations.insertWildcard.map fun kv => (wildcardKeyBytes kv.1, policyValueBytes kv.2)) w.maps.policyWildcard).2

theorem compileAndSync_eq_some {c : PolicyCompiler} {dtd : String} {order : KeyOrder} {state : PolicySyncState}
    {rules : List c.ProtoSagRule} {version : UInt64} {mutations : PolicyMutations} {compiled : CompiledPolicySet}
    (h : compileAndSync c order state rules version dtd = .ok (some (mutations, compiled))) :
    mutations = computeSyncMutations c order state compiled := by
  unfold compileAndSync at h
  split at h
  · cases h
  · split at h
    · cases h
    · simp only [Except.ok.injEq, Option.some.injEq, Prod.mk.injEq] at h
      rw [← h.1, ← h.2]

theorem keysFollow_of_mirrored {w : PolicyWorld} {frame : SagFrame c} (h : frame.env.Healthy) (hm : Mirrored w) :
    KeysFollow c dtd w frame where
  mirrored := syncPolicy_keeps_mirrored h hm
  stale_frame := syncPolicy_of_stale
  rejected_frame _ := syncPolicy_of_error
  accepted_frame compiled ha := by
    rw [sagStep, syncPolicy_mirrored h hm ha]
    exact ⟨rfl, (synced_keys h hm).1, (synced_keys h hm).2, rfl⟩
  removes_present compiled mutations hc := by
    obtain rfl := compileAndSync_eq_some hc
    obtain ⟨insertExact, deleteExact, insertWildcard, deleteWildcard⟩ := mutations_eq c frame.env.order w.state compiled
    rw [insertExact, deleteExact, insertWildcard, deleteWildcard, ← hm.exact_keys, ← hm.wildcard_keys]
    exact ⟨removesPresent_stale h.insertExact _ _ _, removesPresent_stale h.insertWildcard _ _ _⟩

theorem mirrored_empty : Mirrored {} := ⟨rfl, rfl⟩

/-- The mirror, the kernel maps and the newest accepted frame have the same keys after every frame of every run
    on a healthy kernel, and no removal ever misses. -/
theorem sag_run_keys (frames : List (SagFrame c)) (healthy : ∀ frame ∈ frames, frame.env.Healthy) :
    Along (sagStep c dtd) (KeysFollow c dtd) {} frames := by
  have run : Along (sagStep c dtd) (fun _ frame => frame.env.Healthy) {} frames :=
    fun pre frame post hl => healthy frame (by rw [hl]; simp)
  refine run.of_inv (I := Mirrored) (fun w frame hm h => ?_) (fun w frame hm h => ?_) mirrored_empty
  · exact syncPolicy_keeps_mirrored h hm
  · exact keysFollow_of_mirrored c dtd h hm

/-! ### Runs with a healthy kernel: decisions -/

/-- The decisions of the exact entries of a compiled set, by key. -/
def exactDecisions (compiled : CompiledPolicySet) : List (Bytes 40 × UInt8) := (exactTier c).decisions compiled

def wildcardDecisions (compiled : CompiledPolicySet) : List (Bytes 32 × UInt8) := (wildcardTier c).decisions compiled

/-- The kernel decides as the compiled set says: under every key of the set, the decision of the last entry with
    that key. -/
structure Decides (compiled : CompiledPolicySet) (maps : PolicyMaps) : Prop where
  exact_keys : ∀ k d, lastValue k (exactDecisions c compiled) = some d →
    (maps.policyExact.get k).map storedDecision = some d
  wildcard_keys : ∀ k d, lastValue k (wildcardDecisions c compiled) = some d →
    (maps.policyWildcard.get k).map storedDecision = some d

/-- No key that both sets have changes its decision from one to the other. -/
structure SameDecisions (previous compiled : CompiledPolicySet) : Prop where
  exact_keys : ∀ k d d', lastValue k (exactDecisions c previous) = some d →
    lastValue k (exactDecisions c compiled) = some d' → d = d'
  wildcard_keys : ∀ k d d', lastValue k (wildcardDecisions c previous) = some d →
    lastValue k (wildcardDecisions c compiled) = some d' → d = d'

/-- What the feed makes of a frame at `version`: it is dropped, or accepted with its compiled set. -/
def acceptSag (version : UInt64) (frame : SagFrame c) : Option (UInt64 × CompiledPolicySet) :=
  if frame.update.version ≤ version then none
  else (compileRules c frame.update.rules frame.update.version dtd).toOption.map fun compiled =>
    (frame.update.version, compiled)

def acceptedSets (frames : List (SagFrame c)) : List CompiledPolicySet := accepted (acceptSag c dtd) 0 frames

theorem decides_iff {compiled : CompiledPolicySet} {maps : PolicyMaps} : Decides c compiled maps ↔
    Shows storedDecision (exactPairs c compiled) maps.policyExact ∧
      Shows storedDecision (wildcardPairs c compiled) maps.policyWildcard := by
  constructor
  · rintro ⟨he, hw⟩
    exact ⟨Tier.shows_iff.mp he, Tier.shows_iff.mp hw⟩
  · rintro ⟨he, hw⟩
    exact ⟨Tier.shows_iff.mpr he, Tier.shows_iff.mpr hw⟩

theorem sameDecisions_iff {previous compiled : CompiledPolicySet} : SameDecisions c previous compiled ↔
    Agree storedDecision (exactPairs c previous) (exactPairs c compiled) ∧
      Agree storedDecision (wildcardPairs c previous) (wildcardPairs c compiled) := by
  constructor
  · rintro ⟨he, hw⟩
    exact ⟨Tier.agree_iff.mp he, Tier.agree_iff.mp hw⟩
  · rintro ⟨he, hw⟩
    exact ⟨Tier.agree_iff.mpr he, Tier.agree_iff.mpr hw⟩

/-- The mirror holds the keys of `previous`, and the kernel decides as `previous` says. -/
structure Holding (previous : CompiledPolicySet) (w : PolicyWorld) : Prop where
  mirrored : Mirrored w
  exact_mirror : w.state.exactKeys = keySet (exactPairs c previous)
  wildcard_mirror : w.state.wildcardKeys = keySet (wildcardPairs c previous)
  decides : Decides c previous w.maps

theorem holding_empty : Holding c ⟨[]⟩ {} where
  mirrored := mirrored_empty
  exact_mirror := rfl
  wildcard_mirror := rfl
  decides := (decides_iff c).mpr ⟨shows_nil _, shows_nil _⟩

variable {c dtd}

/-- An accepted frame leaves the decisions of the keys that were there before as they were, so the kernel decides as
    the new frame says exactly when these decisions are the same. -/
theorem decides_step_iff {w : PolicyWorld} {frame : SagFrame c} {previous compiled : CompiledPolicySet}
    (h : frame.env.Healthy) (hw : Holding c previous w)
    (ha : Accepts c dtd w.state.currentVersion frame.update compiled) :
    Decides c compiled (sagStep c dtd w frame).maps ↔ SameDecisions c previous compiled := by
  obtain ⟨hm, hme, hmw, hd⟩ := hw
  obtain ⟨hde, hdw⟩ := (decides_iff c).mp hd
  rw [sagStep, syncPolicy_mirrored h hm ha, decides_iff, sameDecisions_iff]
  refine and_congr (shows_iff_agree hde fun k => ?_) (shows_iff_agree hdw fun k => ?_)
  · rw [← hme]
    exact syncTable_get h.insertExact h.removeExact (fun k hk _ => hm.exact_keys ▸ hk) k
  · rw [← hmw]
    exact syncTable_get h.insertWildcard h.removeWildcard (fun k hk _ => hm.wildcard_keys ▸ hk) k

theorem holding_step {w : PolicyWorld} {frame : SagFrame c} {previous compiled : CompiledPolicySet}
    (h : frame.env.Healthy) (hw : Holding c previous w)
    (ha : Accepts c dtd w.state.currentVersion frame.update compiled)
    (hd : Decides c compiled (sagStep c dtd w frame).maps) : Holding c compiled (sagStep c dtd w frame) where
  mirrored := syncPolicy_keeps_mirrored h hw.mirrored
  exact_mirror := by rw [sagStep, syncPolicy_mirrored h hw.mirrored ha]
  wildcard_mirror := by rw [sagStep, syncPolicy_mirrored h hw.mirrored ha]
  decides := hd

/-- The kernel decides as each accepted frame says once that frame is handled. -/
def DecidesOnAccept (c : PolicyCompiler) (dtd : String) (w : PolicyWorld) (frame : SagFrame c) : Prop :=
  ∀ compiled, Accepts c dtd w.state.currentVersion frame.update compiled →
    Decides c compiled (sagStep c dtd w frame).maps

theorem acceptSag_eq_some {version v : UInt64} {frame : SagFrame c} {compiled : CompiledPolicySet} :
    acceptSag c dtd version frame = some (v, compiled) ↔
      v = frame.update.version ∧ Accepts c dtd version frame.update compiled := by
  unfold acceptSag Accepts
  by_cases h : frame.update.version ≤ version
  · simp [h, UInt64.not_lt.mpr h]
  · cases compileRules c frame.update.rules frame.update.version dtd <;>
      simp [h, UInt64.not_le.mp h, Except.toOption, eq_comm]

theorem sagStep_of_dropped {w : PolicyWorld} {frame : SagFrame c}
    (h : acceptSag c dtd w.state.currentVersion frame = none) : sagStep c dtd w frame = w := by
  rcases frame_cases c dtd w.state.currentVersion frame.update with hs | ⟨hn, e, he⟩ | ⟨compiled, ha⟩
  · rw [sagStep, syncPolicy_of_stale hs]
  · rw [sagStep, syncPolicy_of_error hn he]
  · rw [acceptSag_eq_some.mpr ⟨rfl, ha⟩] at h
    cases h

theorem decides_run_iff {frames : List (SagFrame c)} (healthy : ∀ frame ∈ frames, frame.env.Healthy) :
    Along (sagStep c dtd) (DecidesOnAccept c dtd) {} frames ↔
      (⟨[]⟩ :: acceptedSets c dtd frames).IsChain (SameDecisions c) := by
  refine Iff.trans (along_congr fun w frame => ?_)
    (along_good_iff_isChain (V := fun w => w.state.currentVersion) (H := Holding c)
      (G := fun compiled w => Decides c compiled w.maps) (fun w frame => sagStep_of_dropped)
      (fun previous w frame v compiled hw h ha => ?_) (fun previous w frame v compiled hw h ha => ?_)
      (fun previous w frame v compiled hw h ha hd => ?_) healthy (holding_empty c))
  · exact ⟨fun h v compiled ha => h compiled (acceptSag_eq_some.mp ha).2,
      fun h compiled ha => h _ compiled (acceptSag_eq_some.mpr ⟨rfl, ha⟩)⟩
  · obtain ⟨rfl, hacc⟩ := acceptSag_eq_some.mp ha
    rw [sagStep, syncPolicy_mirrored h hw.mirrored hacc]
  · exact decides_step_iff h hw (acceptSag_eq_some.mp ha).2
  · exact holding_step h hw (acceptSag_eq_some.mp ha).2 hd

theorem sameDecisions_nil (compiled : CompiledPolicySet) : SameDecisions c ⟨[]⟩ compiled :=
  ⟨fun _ _ _ h => (by cases h), fun _ _ _ h => (by cases h)⟩

theorem isChain_cons_nil {l : List CompiledPolicySet} :
    (⟨[]⟩ :: l).IsChain (SameDecisions c) ↔ l.IsChain (SameDecisions c) := by
  rw [List.isChain_cons]
  exact and_iff_right fun compiled _ => sameDecisions_nil compiled

/-- In every run from the empty maps on a healthy kernel, the kernel decides as each accepted frame says exactly when
    no key that two consecutive accepted frames share changes its decision between them. -/
theorem sag_run_decisions_iff (frames : List (SagFrame c)) (healthy : ∀ frame ∈ frames, frame.env.Healthy) :
    Along (sagStep c dtd) (DecidesOnAccept c dtd) {} frames ↔
      (acceptedSets c dtd frames).IsChain (SameDecisions c) :=
  (decides_run_iff healthy).trans isChain_cons_nil

end Runs

/-! ### Runs in which operations failed -/

section Recovery
variable {c : PolicyCompiler} {dtd : String}

/-- A state from which one healthy frame with the set `compiled` repairs both maps: every key of the mirror is in the
    kernel, and every kernel key that the mirror does not know is a key of the set. -/
structure Recoverable (c : PolicyCompiler) (compiled : CompiledPolicySet) (w : PolicyWorld) : Prop where
  exact_sub : w.state.exactKeys ⊆ w.maps.policyExact.keys
  exact_extra : ∀ k ∈ w.maps.policyExact.keys, k ∉ w.state.exactKeys → k ∈ keySet (exactPairs c compiled)
  wildcard_sub : w.state.wildcardKeys ⊆ w.maps.policyWildcard.keys
  wildcard_extra : ∀ k ∈ w.maps.policyWildcard.keys, k ∉ w.state.wildcardKeys → k ∈ keySet (wildcardPairs c compiled)

theorem recoverable_iff {compiled : CompiledPolicySet} {w : PolicyWorld} {env : SyncEnv} (h : env.Healthy) :
    Recoverable c compiled w ↔
      (((exactTier c).synced compiled env w).1 = .ok () ∧
        ((exactTier c).synced compiled env w).2.keys = keySet (exactPairs c compiled)) ∧
      (((wildcardTier c).synced compiled env w).1 = .ok () ∧
        ((wildcardTier c).synced compiled env w).2.keys = keySet (wildcardPairs c compiled)) := by
  refine Iff.trans ?_ (and_congr (syncTable_exact_iff h.insertExact h.removeExact)
    (syncTable_exact_iff h.insertWildcard h.removeWildcard)).symm
  exact ⟨fun ⟨a, b, c, d⟩ => ⟨⟨a, b⟩, c, d⟩, fun ⟨⟨a, b⟩, c, d⟩ => ⟨a, b, c, d⟩⟩

/-- The frame is applied without error and afterwards both maps have exactly the keys of its compiled set. -/
def Recovers (c : PolicyCompiler) (dtd : String) (w : PolicyWorld) (frame : SagFrame c) (compiled : CompiledPolicySet) :
    Prop :=
  (syncPolicy c dtd w frame.update frame.env).1 = .ok () ∧
    (sagStep c dtd w frame).maps.policyExact.keys = keySet (exactPairs c compiled) ∧
    (sagStep c dtd w frame).maps.policyWildcard.keys = keySet (wildcardPairs c compiled)

theorem recovers_iff {w : PolicyWorld} {frame : SagFrame c} {compiled : CompiledPolicySet} (h : frame.env.Healthy)
    (ha : Accepts c dtd w.state.currentVersion frame.update compiled) :
    Recovers c dtd w frame compiled ↔ Recoverable c compiled w := by
  rw [recoverable_iff h, Recovers, sagStep, syncPolicy_of_accepts ha]
  rcases applyMutationsToMaps_healthy c w compiled h with ⟨he, hw, happly⟩ | ⟨hno, e, maps, happly⟩
  · rw [happly]
    exact ⟨fun ⟨_, k, k'⟩ => ⟨⟨he, k⟩, hw, k'⟩, fun ⟨⟨_, k⟩, _, k'⟩ => ⟨rfl, k, k'⟩⟩
  · rw [happly]
    exact ⟨fun ⟨hok, _⟩ => (by cases hok), fun ⟨⟨he, _⟩, hw, _⟩ => absurd ⟨he, hw⟩ hno⟩

/-- In every run, whatever operations failed in it: a fresh frame that compiles and finds the kernel healthy repairs
    the maps exactly when the state it finds is recoverable. -/
theorem sag_run_recovers_iff (frames : List (SagFrame c)) :
    Along (sagStep c dtd) (fun w frame => ∀ compiled, frame.env.Healthy →
      Accepts c dtd w.state.currentVersion frame.update compiled →
      (Recovers c dtd w frame compiled ↔ Recoverable c compiled w)) {} frames :=
  fun _ _ _ _ _ h ha => recovers_iff h ha

end Recovery

/-! ### Sample frames -/

/-- A compiler whose proto rules are the compiled entries themselves. -/
def passthrough : PolicyCompiler where
  ProtoSagRule := CompiledPolicyEntry
  SagRule := CompiledPolicyEntry
  protoRuleToCore rule := .ok rule
  compilePolicySet rules _ _ := .ok ⟨rules⟩
  toEbpfExactKey
    | .exact src dst protocol port _ _ => some ⟨⟨src⟩, ⟨dst⟩, protocol, .replicate 3 0, ⟨port⟩, .replicate 2 0⟩
    | .wildcard .. => none
  toEbpfWildcardKey
    | .exact .. => none
    | .wildcard src dst _ _ => some ⟨⟨src⟩, ⟨dst⟩⟩
  toEbpfValue
    | .exact _ _ _ _ decision version => ⟨version, decision, .replicate 7 0⟩
    | .wildcard _ _ decision version => ⟨version, decision, .replicate 7 0⟩

/-- TCP from workload 1 to workload 2, allowed (1) or denied (0). -/
def tcpRule (decision : UInt8) (version : UInt64) : CompiledPolicyEntry :=
  .exact (.replicate 16 1) (.replicate 16 2) 6 0 decision version

def tcpKey : Bytes 40 :=
  exactKeyBytes ⟨⟨.replicate 16 1⟩, ⟨.replicate 16 2⟩, 6, .replicate 3 0, ⟨0⟩, .replicate 2 0⟩

noncomputable def quiet : SyncEnv where
  order := ⟨.arbitrary, .arbitrary⟩

theorem quiet_healthy : quiet.Healthy := ⟨rfl, fun _ => rfl, fun _ => rfl, fun _ => rfl, fun _ => rfl⟩

noncomputable def tcpFrame (decision : UInt8) (version : UInt64) : SagFrame passthrough :=
  ⟨⟨[tcpRule decision version], version⟩, quiet⟩

theorem tcpFrames_healthy (d d' : UInt8) : ∀ frame ∈ [tcpFrame d 1, tcpFrame d' 2], frame.env.Healthy := by
  simp [tcpFrame, quiet_healthy]

theorem acceptedSets_tcpFrames (d d' : UInt8) :
    acceptedSets passthrough "td" [tcpFrame d 1, tcpFrame d' 2] = [⟨[tcpRule d 1]⟩, ⟨[tcpRule d' 2]⟩] := rfl

theorem sag_run_decisions_of_same :
    Along (sagStep passthrough "td") (DecidesOnAccept passthrough "td") {} [tcpFrame 1 1, tcpFrame 1 2] := by
  rw [sag_run_decisions_iff _ (tcpFrames_healthy 1 1), acceptedSets_tcpFrames, List.isChain_pair]
  refine ⟨fun k d d' hd hd' => ?_, fun k d d' hd hd' => ?_⟩
  · exact Option.some.inj (hd.symm.trans hd')
  · exact Option.some.inj (hd.symm.trans hd')

/-- Allow, then deny: the kernel goes on allowing. -/
theorem sag_run_keeps_flipped_decision :
    ¬Along (sagStep passthrough "td") (DecidesOnAccept passthrough "td") {} [tcpFrame 1 1, tcpFrame 0 2] := by
  rw [decides_run_iff (tcpFrames_healthy 1 0), isChain_cons_nil, acceptedSets_tcpFrames, List.isChain_pair]
  rintro ⟨same, -⟩
  have decided : ∀ d v, lastValue tcpKey (exactDecisions passthrough ⟨[tcpRule d v]⟩) = some d := fun d v => by
    simp [exactDecisions, Tier.decisions, Tier.entries, exactTier, exactKey, tcpRule, tcpKey, passthrough, lastValue]
  exact absurd (same tcpKey 1 0 (decided 1 1) (decided 0 2)) (by decide)

def anyPortRule (version : UInt64) : CompiledPolicyEntry := .wildcard (.replicate 16 1) (.replicate 16 2) 1 version

/-- A frame that dies at its wildcard entry, after the exact one is in the kernel. -/
noncomputable def abandonedFrame : SagFrame passthrough where
  update := ⟨[tcpRule 1 1, anyPortRule 1], 1⟩
  env := { quiet with insertWildcard := fun _ => some "no memory" }

noncomputable def emptyFrame : SagFrame passthrough := ⟨⟨[], 2⟩, quiet⟩

/-- Its exact entry is in the kernel afterwards, and the mirror does not know. -/
theorem abandonedFrame_step : sagStep passthrough "td" {} abandonedFrame =
    { maps := { policyExact := (∅ : FinMap _ _).insert tcpKey (policyValueBytes ⟨1, 1, .replicate 7 0⟩) } } := by
  have fresh : Accepts passthrough "td" ({} : PolicyWorld).state.currentVersion abandonedFrame.update
      ⟨[tcpRule 1 1, anyPortRule 1]⟩ := ⟨by decide, rfl⟩
  obtain ⟨insertExact, deleteExact, insertWildcard, -⟩ := mutations_eq passthrough abandonedFrame.env.order
    ({} : PolicyWorld).state ⟨[tcpRule 1 1, anyPortRule 1]⟩
  have none_stale : stale abandonedFrame.env.order.exact ({} : PolicyWorld).state.exactKeys
      (keySet (exactPairs passthrough ⟨[tcpRule 1 1, anyPortRule 1]⟩)) = [] := stale_empty _ _
  rw [sagStep, syncPolicy_of_accepts fresh, applyMutationsToMaps, insertExact, insertWildcard, deleteExact, none_stale]
  rfl

theorem sag_run_keys_of_emptied :
    Along (sagStep passthrough "td") (KeysFollow passthrough "td") {} [tcpFrame 1 1, emptyFrame] :=
  sag_run_keys passthrough "td" _ (by simp [tcpFrame, emptyFrame, quiet_healthy])

/-- The healthy frame that wants nothing leaves the entry of the abandoned one in the kernel. -/
theorem sag_run_keeps_abandoned_entry :
    ¬Along (sagStep passthrough "td") (fun w frame => ∀ compiled, frame.env.Healthy →
      Accepts passthrough "td" w.state.currentVersion frame.update compiled →
      Recovers passthrough "td" w frame compiled) {} [abandonedFrame, emptyFrame] := by
  intro h
  have last := (along_cons.mp (along_cons.mp h).2).1 ⟨[]⟩ quiet_healthy
  rw [abandonedFrame_step] at last
  have fresh : Accepts passthrough "td" 0 emptyFrame.update ⟨[]⟩ := ⟨by decide, rfl⟩
  have extra := ((recovers_iff quiet_healthy fresh).mp (last fresh)).exact_extra
  have none_wanted := extra tcpKey (Finset.mem_insert_self tcpKey ∅) (Finset.notMem_empty tcpKey)
  exact Finset.notMem_empty tcpKey none_wanted

end FleetosAgent.Policy
