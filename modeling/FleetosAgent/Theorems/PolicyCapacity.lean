import FleetosAgent.Policy.Capacity
import FleetosAgent.Theorems.PolicyLoss

/-! # Policy sync on maps of bounded size

Since a frame is inserted before what it replaces is removed, both have to fit. As long as each accepted frame fits
together with the one before it, every one is applied; one that does not fills POLICY_EXACT or POLICY_WILDCARD and is
refused, and what it has filled is not emptied again. -/

namespace FleetosAgent.Policy
open Lib

section
variable {sizes : MapSizes} {c : PolicyCompiler} {dtd : String} {w : PolicyWorld} {arrival : SagArrival c}
  {compiled : CompiledPolicySet}

theorem sizedFrame_of_accepts (h : Accepts c dtd w.state.currentVersion arrival.update compiled) :
    (sizedFrame sizes c dtd w arrival).env =
      sizes.env arrival.order (computeSyncMutations c arrival.order w.state compiled) w.maps := by
  unfold sizedFrame
  rw [compileAndSync, if_neg (UInt64.not_le.mpr h.1), h.2]

/-- What the kernel and a compiled set need together. -/
structure FitsWith (sizes : MapSizes) (c : PolicyCompiler) (maps : PolicyMaps) (compiled : CompiledPolicySet) : Prop where
  exact_fits : (maps.policyExact.keys ∪ keySet (exactPairs c compiled)).card ≤ sizes.policyExactMax
  wildcard_fits : (maps.policyWildcard.keys ∪ keySet (wildcardPairs c compiled)).card ≤ sizes.policyWildcardMax

/-- The mirror is exact, and the kernel keeps to its sizes. -/
structure Sized (sizes : MapSizes) (w : PolicyWorld) : Prop extends Mirrored w where
  exact_size : w.maps.policyExact.keys.card ≤ sizes.policyExactMax
  wildcard_size : w.maps.policyWildcard.keys.card ≤ sizes.policyWildcardMax

/-- A map of bounded size meets a frame: it takes the frame's keys beside its own, or is filled. -/
theorem Tier.sized {Key : Type} {n : Nat} (t : Tier c Key n) (env : SyncEnv) {max : Nat} (compiled : CompiledPolicySet)
    (hinsert : t.insertFaults env = fullFault max mapFull
      ((t.inserts (computeSyncMutations c env.order w.state compiled)).map fun kv =>
        (t.keyBytes kv.1, policyValueBytes kv.2))
      (t.table w.maps))
    (hremove : Healthy (t.removeFaults env)) (mirrored : (t.table w.maps).keys = t.tracked w.state)
    (size : (t.table w.maps).keys.card ≤ max) :
    (∃ m₁ m, t.insertPairs compiled env w = (.ok (), m₁) ∧ t.removeStale compiled env w m₁ = (.ok (), m) ∧
        m.keys = keySet (t.pairs compiled) ∧ ((t.table w.maps).keys ∪ keySet (t.pairs compiled)).card ≤ max) ∨
      ∃ m, t.insertPairs compiled env w = (.error mapFull, m) ∧
        max < ((t.table w.maps).keys ∪ keySet (t.pairs compiled)).card ∧ m.keys.card = max := by
  unfold Tier.insertPairs Tier.removeStale
  rw [hinsert, t.inserts_bytes, ← mirrored]
  exact sync_fullFault (t.walk env.order) mapFull _ hremove size

theorem Outcome.eq_applied {env : SyncEnv} {result : Except AgentError Unit × PolicyMaps}
    (outcome : Outcome c env w compiled result) (lock : env.lockPoisoned = none)
    {exact₁ exact : FinMap (Bytes 40) (Bytes 16)} {wildcard₁ wildcard : FinMap (Bytes 32) (Bytes 16)}
    (inserted : (exactTier c).insertPairs compiled env w = (.ok (), exact₁))
    (removed : (exactTier c).removeStale compiled env w exact₁ = (.ok (), exact))
    (inserted' : (wildcardTier c).insertPairs compiled env w = (.ok (), wildcard₁))
    (removed' : (wildcardTier c).removeStale compiled env w wildcard₁ = (.ok (), wildcard)) :
    result = (.ok (), ⟨exact, wildcard⟩) := by
  cases outcome with
  | locked e poisoned => exact absurd lock poisoned
  | exactInsert e failed => cases inserted.symm.trans failed
  | exactRemove e also failed =>
    cases inserted.symm.trans also
    cases removed.symm.trans failed
  | wildcardInsert e _ _ failed => cases inserted'.symm.trans failed
  | wildcardRemove e _ _ also failed =>
    cases inserted'.symm.trans also
    cases removed'.symm.trans failed
  | applied a b a' b' =>
    cases inserted.symm.trans a
    cases removed.symm.trans b
    cases inserted'.symm.trans a'
    cases removed'.symm.trans b'
    rfl

/-- What an accepted frame finds in the kernel and leaves there. -/
theorem syncSized_of_accepts (sizes : MapSizes) (accepts : Accepts c dtd w.state.currentVersion arrival.update compiled) :
    ∃ result, Outcome c (sizes.env arrival.order (computeSyncMutations c arrival.order w.state compiled) w.maps) w
      compiled result ∧
      syncSized sizes c dtd w arrival =
        match result with
        | (.error e, maps) => (.error e, { w with maps := maps })
        | (.ok _, maps) =>
          (.ok (), ⟨⟨arrival.update.version, keySet (exactPairs c compiled), keySet (wildcardPairs c compiled)⟩,
            maps⟩) := by
  refine ⟨_, applyMutationsToMaps_outcome c _ w compiled, ?_⟩
  unfold syncSized
  dsimp only
  rw [sizedFrame_of_accepts accepts]
  exact syncPolicy_of_accepts accepts

/-- An accepted frame is applied exactly if it fits in beside what is there. -/
theorem syncSized_of_sized (h : Sized sizes w) (accepts : Accepts c dtd w.state.currentVersion arrival.update compiled) :
    (FitsWith sizes c w.maps compiled ∧ (syncSized sizes c dtd w arrival).1 = .ok () ∧
      Sized sizes (sizedStep sizes c dtd w arrival) ∧
        (sizedStep sizes c dtd w arrival).state =
          ⟨arrival.update.version, keySet (exactPairs c compiled), keySet (wildcardPairs c compiled)⟩) ∨
      (¬FitsWith sizes c w.maps compiled ∧ ∃ e, (syncSized sizes c dtd w arrival).1 = .error e) := by
  obtain ⟨result, outcome, hsync⟩ := syncSized_of_accepts sizes accepts
  unfold sizedStep
  rw [hsync]
  rcases (exactTier c).sized (sizes.env arrival.order _ w.maps) compiled rfl (fun _ => rfl) h.exact_keys h.exact_size with
    ⟨exact₁, exact, inserted, removed, keys, fits⟩ | ⟨exact₁, inserted, full, -⟩
  · rcases (wildcardTier c).sized (sizes.env arrival.order _ w.maps) compiled rfl (fun _ => rfl) h.wildcard_keys
        h.wildcard_size with
      ⟨wildcard₁, wildcard, inserted', removed', keys', fits'⟩ | ⟨wildcard₁, inserted', full, -⟩
    · obtain rfl := outcome.eq_applied rfl inserted removed inserted' removed'
      refine Or.inl ⟨⟨fits, fits'⟩, rfl, ⟨⟨keys, keys'⟩, ?_, ?_⟩, rfl⟩
      · rw [keys]
        exact (Finset.card_le_card Finset.subset_union_right).trans fits
      · rw [keys']
        exact (Finset.card_le_card Finset.subset_union_right).trans fits'
    · refine Or.inr ⟨fun fits => absurd fits.wildcard_fits (Nat.not_le.mpr full), ?_⟩
      rcases result with ⟨e | _, maps⟩
      · exact ⟨e, rfl⟩
      · cases outcome with
        | applied _ _ also _ => cases inserted'.symm.trans also
  · refine Or.inr ⟨fun fits => absurd fits.exact_fits (Nat.not_le.mpr full), ?_⟩
    rcases result with ⟨e | _, maps⟩
    · exact ⟨e, rfl⟩
    · cases outcome with
      | applied also _ _ _ => cases inserted.symm.trans also

end

/-! ### Runs that fit -/

section Runs
variable (sizes : MapSizes) (c : PolicyCompiler) (dtd : String)

/-- Two compiled sets fit into the maps together. -/
structure FitTogether (previous compiled : CompiledPolicySet) : Prop where
  exact_fits : (keySet (exactPairs c previous) ∪ keySet (exactPairs c compiled)).card ≤ sizes.policyExactMax
  wildcard_fits : (keySet (wildcardPairs c previous) ∪ keySet (wildcardPairs c compiled)).card ≤ sizes.policyWildcardMax

/-- The frame is applied, if it is accepted. -/
def AppliedOnAccept (w : PolicyWorld) (arrival : SagArrival c) : Prop :=
  ∀ compiled, Accepts c dtd w.state.currentVersion arrival.update compiled → (syncSized sizes c dtd w arrival).1 = .ok ()

def acceptArrival (version : UInt64) (arrival : SagArrival c) : Option (UInt64 × CompiledPolicySet) :=
  acceptSag c dtd version ⟨arrival.update, { order := arrival.order }⟩

/-- The kernel holds the keys of `previous`, and the mirror knows. -/
structure HoldsSized (previous : CompiledPolicySet) (w : PolicyWorld) : Prop extends Sized sizes w where
  exact_held : w.maps.policyExact.keys = keySet (exactPairs c previous)
  wildcard_held : w.maps.policyWildcard.keys = keySet (wildcardPairs c previous)

theorem holdsSized_empty : HoldsSized sizes c ⟨[]⟩ {} :=
  ⟨⟨mirrored_empty, Nat.zero_le _, Nat.zero_le _⟩, rfl, rfl⟩

variable {sizes c dtd} {w : PolicyWorld} {arrival : SagArrival c} {previous compiled : CompiledPolicySet}

theorem HoldsSized.fitsWith_iff (h : HoldsSized sizes c previous w) : FitsWith sizes c w.maps compiled ↔
    FitTogether sizes c previous compiled := by
  constructor
  · rintro ⟨exact_fits, wildcard_fits⟩
    rw [h.exact_held] at exact_fits
    rw [h.wildcard_held] at wildcard_fits
    exact ⟨exact_fits, wildcard_fits⟩
  · rintro ⟨exact_fits, wildcard_fits⟩
    rw [← h.exact_held] at exact_fits
    rw [← h.wildcard_held] at wildcard_fits
    exact ⟨exact_fits, wildcard_fits⟩

theorem HoldsSized.applied_iff (h : HoldsSized sizes c previous w)
    (accepts : Accepts c dtd w.state.currentVersion arrival.update compiled) :
    (syncSized sizes c dtd w arrival).1 = .ok () ↔ FitTogether sizes c previous compiled := by
  rw [← h.fitsWith_iff]
  rcases syncSized_of_sized h.toSized accepts with ⟨fits, ok, -⟩ | ⟨overflows, e, failed⟩
  · exact iff_of_true ok fits
  · rw [failed]
    exact iff_of_false (by rintro ⟨⟩) overflows

theorem HoldsSized.step (h : HoldsSized sizes c previous w)
    (accepts : Accepts c dtd w.state.currentVersion arrival.update compiled)
    (ok : (syncSized sizes c dtd w arrival).1 = .ok ()) :
    HoldsSized sizes c compiled (sizedStep sizes c dtd w arrival) ∧
      (sizedStep sizes c dtd w arrival).state.currentVersion = arrival.update.version := by
  rcases syncSized_of_sized h.toSized accepts with ⟨-, -, sized, state⟩ | ⟨-, e, failed⟩
  · refine ⟨⟨sized, sized.exact_keys.trans ?_, sized.wildcard_keys.trans ?_⟩, ?_⟩ <;> rw [state]
  · cases ok.symm.trans failed

theorem sizedStep_of_dropped (h : acceptArrival c dtd w.state.currentVersion arrival = none) :
    sizedStep sizes c dtd w arrival = w := by
  have dropped : acceptSag c dtd w.state.currentVersion (sizedFrame sizes c dtd w arrival) = none := h
  exact sagStep_of_dropped dropped

/-- In every run from the empty maps, every accepted frame is applied exactly if each fits into the maps together with the
    one before it: a frame that would fit alone is refused where the two do not. -/
theorem sized_run_applies_iff (sizes : MapSizes) (dtd : String) (arrivals : List (SagArrival c)) :
    Along (sizedStep sizes c dtd) (AppliedOnAccept sizes c dtd) {} arrivals ↔
      (⟨[]⟩ :: accepted (acceptArrival c dtd) 0 arrivals).IsChain (FitTogether sizes c) := by
  refine Iff.trans (along_congr fun w arrival => ?_) (along_each_iff_isChain (V := fun w => w.state.currentVersion)
    (H := HoldsSized sizes c) (G := fun w arrival _ => (syncSized sizes c dtd w arrival).1 = .ok ()) (A := fun _ => True)
    (fun w arrival => sizedStep_of_dropped) (fun previous w arrival v compiled h _ ha => ?_)
    (fun previous w arrival v compiled h _ ha ok => ?_) (fun _ _ => trivial) (holdsSized_empty sizes c))
  · exact ⟨fun h v compiled ha => h compiled (acceptSag_eq_some.mp ha).2,
      fun h compiled accepts => h _ compiled (acceptSag_eq_some.mpr ⟨rfl, accepts⟩)⟩
  · exact h.applied_iff (acceptSag_eq_some.mp ha).2
  · obtain ⟨rfl, accepts⟩ := acceptSag_eq_some.mp ha
    exact h.step accepts ok

/-! ### Runs that do not fit -/

/-- A frame that does not fit into POLICY_EXACT ends there, and the map is full. -/
theorem syncSized_of_overflow (known : w.state.exactKeys ⊆ w.maps.policyExact.keys)
    (size : w.maps.policyExact.keys.card ≤ sizes.policyExactMax)
    (accepts : Accepts c dtd w.state.currentVersion arrival.update compiled)
    (overflows : sizes.policyExactMax < (w.maps.policyExact.keys ∪ keySet (exactPairs c compiled)).card) :
    ∃ e exact, syncSized sizes c dtd w arrival = (.error e, { w with maps := { w.maps with policyExact := exact } }) ∧
      w.maps.policyExact.keys ⊆ exact.keys ∧ exact.keys.card = sizes.policyExactMax := by
  obtain ⟨result, outcome, hsync⟩ := syncSized_of_accepts sizes accepts
  have inserted : ∃ exact, (exactTier c).insertPairs compiled
      (sizes.env arrival.order (computeSyncMutations c arrival.order w.state compiled) w.maps) w = (.error mapFull, exact) ∧
      w.maps.policyExact.keys ⊆ exact.keys ∧ exact.keys.card = sizes.policyExactMax := by
    obtain ⟨insertExact, -⟩ := mutations_eq c arrival.order w.state compiled
    show ∃ exact, insertAll (fullFault sizes.policyExactMax mapFull _ _) (missing w.state.exactKeys (exactPairs c compiled))
      w.maps.policyExact = _ ∧ _
    rw [insertExact]
    rcases insertAll_fullFault mapFull (missing w.state.exactKeys (exactPairs c compiled))
      size with ⟨-, fits⟩ | ⟨failed, -, full⟩
    · rw [union_missing known] at fits
      exact absurd fits (Nat.not_le.mpr overflows)
    · exact ⟨_, Prod.ext failed rfl, subset_insertAll _ _ _, full⟩
  obtain ⟨exact, inserted, grown, full⟩ := inserted
  rw [hsync]
  cases outcome with
  | locked e poisoned => exact absurd rfl poisoned
  | exactInsert e failed =>
    cases inserted.symm.trans failed
    exact ⟨e, exact, rfl, grown, full⟩
  | exactRemove e also failed => cases inserted.symm.trans also
  | wildcardInsert e also _ _ => cases inserted.symm.trans also
  | wildcardRemove e also _ _ _ => cases inserted.symm.trans also
  | applied also _ _ _ => cases inserted.symm.trans also

/-- As long as no frame comes whose exact keys are all in the full map, nothing changes. -/
structure Stuck (w w' t : PolicyWorld) : Prop where
  state : t.state = w.state
  exact_keys : t.maps.policyExact.keys = w'.maps.policyExact.keys
  wildcard : t.maps.policyWildcard = w.maps.policyWildcard

/-- A full POLICY_EXACT refuses every frame with a key of its own, and is left as full as it was. -/
theorem Stuck.step {w' t : PolicyWorld} (h : Stuck w w' t) (known : w.state.exactKeys ⊆ w'.maps.policyExact.keys)
    (full : w'.maps.policyExact.keys.card = sizes.policyExactMax)
    (new : ∀ compiled, Accepts c dtd w.state.currentVersion arrival.update compiled →
      ¬keySet (exactPairs c compiled) ⊆ w'.maps.policyExact.keys) :
    Stuck w w' (sizedStep sizes c dtd t arrival) ∧
      ∀ compiled, Accepts c dtd t.state.currentVersion arrival.update compiled →
      ∃ e, (syncSized sizes c dtd t arrival).1 = .error e := by
  have size : t.maps.policyExact.keys.card = sizes.policyExactMax := by rw [h.exact_keys, full]
  have refused : ∀ compiled, Accepts c dtd t.state.currentVersion arrival.update compiled → ∃ e exact,
      syncSized sizes c dtd t arrival = (.error e, { t with maps := { t.maps with policyExact := exact } }) ∧
      t.maps.policyExact.keys ⊆ exact.keys ∧ exact.keys.card = sizes.policyExactMax := by
    intro compiled accepts
    refine syncSized_of_overflow (by rw [h.state, h.exact_keys]; exact known) size.le accepts ?_
    rw [← size, h.exact_keys]
    rw [h.state] at accepts
    refine Finset.card_lt_card
      (Finset.ssubset_iff_subset_ne.mpr ⟨Finset.subset_union_left, fun heq => new compiled accepts ?_⟩)
    rw [heq]
    exact Finset.subset_union_right
  constructor
  · cases hacc : acceptArrival c dtd t.state.currentVersion arrival with
    | none =>
      rw [sizedStep_of_dropped hacc]
      exact h
    | some vd =>
      obtain ⟨-, accepts⟩ := acceptSag_eq_some.mp hacc
      obtain ⟨e, exact, hsync, grown, card⟩ := refused _ accepts
      rw [sizedStep, hsync]
      refine ⟨h.state, ?_, h.wildcard⟩
      rw [← h.exact_keys]
      exact (Finset.eq_of_subset_of_card_le grown (card.trans size.symm).le).symm
  · intro compiled accepts
    obtain ⟨e, exact, hsync, -⟩ := refused compiled accepts
    exact ⟨e, by rw [hsync]⟩

/-- Once a frame has not fitted into POLICY_EXACT the map is full and stays so: every later frame is refused, however
    small it is, unless all its exact keys are among those the map was filled with. -/
theorem overflow_refuses_later_frames (sizes : MapSizes) (dtd : String) (before : List (SagArrival c))
    (overflowing : SagArrival c) (later : List (SagArrival c))
    (applied : Along (sizedStep sizes c dtd) (AppliedOnAccept sizes c dtd) {} before) :
    let w := before.foldl (sizedStep sizes c dtd) {}
    let w' := sizedStep sizes c dtd w overflowing
    ∀ compiled, Accepts c dtd w.state.currentVersion overflowing.update compiled →
      sizes.policyExactMax < (w.maps.policyExact.keys ∪ keySet (exactPairs c compiled)).card →
      (∀ next ∈ later, ∀ compiled, Accepts c dtd w.state.currentVersion next.update compiled →
        ¬keySet (exactPairs c compiled) ⊆ w'.maps.policyExact.keys) →
      w'.maps.policyExact.keys.card = sizes.policyExactMax ∧
      Along (sizedStep sizes c dtd) (fun t next => Stuck w w' (sizedStep sizes c dtd t next) ∧
        ∀ compiled, Accepts c dtd t.state.currentVersion next.update compiled →
          ∃ e, (syncSized sizes c dtd t next).1 = .error e) w' later := by
  intro w w' compiled accepts overflows new
  have held : ∃ previous, HoldsSized sizes c previous w := by
    refine applied.inv (I := fun t => ∃ previous, HoldsSized sizes c previous t) (fun t next h ok => ?_)
      ⟨_, holdsSized_empty sizes c⟩
    obtain ⟨previous, h⟩ := h
    cases hacc : acceptArrival c dtd t.state.currentVersion next with
    | none =>
      rw [sizedStep_of_dropped hacc]
      exact ⟨previous, h⟩
    | some vd =>
      obtain ⟨-, accepts⟩ := acceptSag_eq_some.mp hacc
      exact ⟨_, (h.step accepts (ok _ accepts)).1⟩
  obtain ⟨previous, held⟩ := held
  obtain ⟨e, exact, hsync, grown, full⟩ :=
    syncSized_of_overflow held.exact_keys.symm.subset held.exact_size accepts overflows
  have after : w' = { w with maps := { w.maps with policyExact := exact } } := congrArg Prod.snd hsync
  have known : w.state.exactKeys ⊆ w'.maps.policyExact.keys := by
    rw [after]
    exact held.exact_keys.symm.subset.trans grown
  have card : w'.maps.policyExact.keys.card = sizes.policyExactMax := by
    rw [after]
    exact full
  refine ⟨card, ?_⟩
  have run : Along (sizedStep sizes c dtd)
      (fun _ next => ∀ compiled, Accepts c dtd w.state.currentVersion next.update compiled →
        ¬keySet (exactPairs c compiled) ⊆ w'.maps.policyExact.keys) w' later :=
    fun pre next post hl => new next (by rw [hl]; simp)
  refine run.of_inv (I := Stuck w w') (fun t next h new => (h.step known card new).1)
    (fun t next h new => h.step known card new) ?_
  exact ⟨by rw [after], rfl, by rw [after]⟩

end Runs

/-! ### A map with one entry -/

/-- A frame with one rule of the protocol from workload 1 to workload 2. -/
noncomputable def oneRule (protocol : UInt8) (version : UInt64) : SagArrival passthrough where
  update := ⟨[.exact (.replicate 16 1) (.replicate 16 2) protocol 0 1 version], version⟩
  order := quiet.order

def protocolKey (protocol : UInt8) : Bytes 40 :=
  exactKeyBytes ⟨⟨.replicate 16 1⟩, ⟨.replicate 16 2⟩, protocol, .replicate 3 0, ⟨0⟩, .replicate 2 0⟩

theorem oneRule_accepts {version v : UInt64} {protocol : UInt8} {compiled : CompiledPolicySet}
    (h : Accepts passthrough "td" version (oneRule protocol v).update compiled) :
    keySet (exactPairs passthrough compiled) = {protocolKey protocol} ∧
    keySet (wildcardPairs passthrough compiled) = ∅ := by
  cases h.2
  exact ⟨rfl, rfl⟩

/-- The rule that is in the map can be replaced by no other. -/
theorem one_entry_is_kept :
    Along (sizedStep ⟨1, 1⟩ passthrough "td")
      (fun t next => ∀ compiled, Accepts passthrough "td" t.state.currentVersion next.update compiled →
      ∃ e, (syncSized ⟨1, 1⟩ passthrough "td" t next).1 = .error e)
      (sizedStep ⟨1, 1⟩ passthrough "td" (sizedStep ⟨1, 1⟩ passthrough "td" {} (oneRule 6 1)) (oneRule 17 2))
      [oneRule 17 3, oneRule 17 4] := by
  have first : Accepts passthrough "td" 0 (oneRule 6 1).update ⟨(oneRule 6 1).update.rules⟩ := ⟨by decide, rfl⟩
  have fits : (syncSized ⟨1, 1⟩ passthrough "td" {} (oneRule 6 1)).1 = .ok () :=
    ((holdsSized_empty ⟨1, 1⟩ passthrough).applied_iff first).mpr ⟨by decide, by decide⟩
  obtain ⟨held, version⟩ := (holdsSized_empty ⟨1, 1⟩ passthrough).step first fits
  have second : Accepts passthrough "td" (sizedStep ⟨1, 1⟩ passthrough "td" {} (oneRule 6 1)).state.currentVersion
      (oneRule 17 2).update
        ⟨(oneRule 17 2).update.rules⟩ := ⟨by rw [version]; decide, rfl⟩
  have keys : (sizedStep ⟨1, 1⟩ passthrough "td" {} (oneRule 6 1)).maps.policyExact.keys = {protocolKey 6} :=
    held.exact_held.trans (oneRule_accepts first).1
  have differ : protocolKey 17 ∉ ({protocolKey 6} : Finset (Bytes 40)) := by decide
  have overflows : 1 < ((sizedStep ⟨1, 1⟩ passthrough "td" {} (oneRule 6 1)).maps.policyExact.keys ∪
      keySet (exactPairs passthrough ⟨(oneRule 17 2).update.rules⟩)).card := by
    rw [keys, (oneRule_accepts second).1]
    decide
  obtain ⟨e, exact, hsync, grown, full⟩ :=
    syncSized_of_overflow held.exact_keys.symm.subset held.exact_size second overflows
  have filled : exact.keys = {protocolKey 6} := by
    rw [← keys]
    refine (Finset.eq_of_subset_of_card_le grown ?_).symm
    rw [full, keys]
    rfl
  have stuck := overflow_refuses_later_frames ⟨1, 1⟩ "td" [oneRule 6 1] (oneRule 17 2) [oneRule 17 3, oneRule 17 4]
    (along_cons.mpr ⟨fun _ _ => fits, along_nil⟩) _ second overflows (fun next hnext compiled accepts => ?_)
  · exact stuck.2.mono fun t next h => h.2
  · have wants : keySet (exactPairs passthrough compiled) = {protocolKey 17} := by
      rcases List.mem_pair.mp hnext with rfl | rfl
      · exact (oneRule_accepts accepts).1
      · exact (oneRule_accepts accepts).1
    rw [wants, Finset.singleton_subset_iff]
    show protocolKey 17 ∉ (sizedStep ⟨1, 1⟩ passthrough "td" (sizedStep ⟨1, 1⟩ passthrough "td" {} (oneRule 6 1))
      (oneRule 17 2)).maps.policyExact.keys
    rw [sizedStep, hsync]
    show protocolKey 17 ∉ exact.keys
    rw [filled]
    exact differ

end FleetosAgent.Policy
