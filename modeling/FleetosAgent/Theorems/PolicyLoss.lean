import FleetosAgent.Lib.FaultyTable
import FleetosAgent.Theorems.PolicySync

/-! # Policy keys that are lost

A frame that fails after some of its removals leaves the mirror as it was, so the mirror has keys that the kernel has not.
No later frame puts them back, and none that does without them is applied, whether the kernel is healthy by then or not. -/

namespace FleetosAgent.Policy
open Lib

/-! ### A run after a loss -/

section Loss
variable {c : PolicyCompiler} {dtd : String} {env : SyncEnv} {w : PolicyWorld} {compiled : CompiledPolicySet}
  {exactLost : Finset (Bytes 40)} {wildcardLost : Finset (Bytes 32)}

/-- Keys that the mirror has and the kernel has not. -/
structure LostKeys (exactLost : Finset (Bytes 40)) (wildcardLost : Finset (Bytes 32)) (w : PolicyWorld) : Prop where
  exact_keys : Lost w.state.exactKeys w.maps.policyExact exactLost
  wildcard_keys : Lost w.state.wildcardKeys w.maps.policyWildcard wildcardLost

/-- Whatever becomes of the mutations, the keys stay away from the kernel, and mutations that are all applied want them. -/
theorem Outcome.lost {r : Except AgentError Unit} {maps : PolicyMaps} (outcome : Outcome c env w compiled (r, maps))
    (h : LostKeys exactLost wildcardLost w) :
    LostKeys exactLost wildcardLost { w with maps := maps } ∧
      (r = .ok () → exactLost ⊆ keySet (exactPairs c compiled) ∧ wildcardLost ⊆ keySet (wildcardPairs c compiled)) := by
  obtain ⟨he, hw⟩ := h
  cases outcome with
  | locked e _ => exact ⟨⟨he, hw⟩, by rintro ⟨⟩⟩
  | exactInsert e failed => exact ⟨⟨he.inserted failed, hw⟩, by rintro ⟨⟩⟩
  | exactRemove e inserted failed => exact ⟨⟨(he.inserted inserted).removed failed, hw⟩, by rintro ⟨⟩⟩
  | wildcardInsert e inserted removed failed =>
    exact ⟨⟨(he.inserted inserted).removed removed, hw.inserted failed⟩, by rintro ⟨⟩⟩
  | wildcardRemove e inserted removed inserted' failed =>
    exact ⟨⟨(he.inserted inserted).removed removed, (hw.inserted inserted').removed failed⟩, by rintro ⟨⟩⟩
  | applied inserted removed inserted' removed' =>
    have exact₁ := he.inserted inserted
    have wildcard₁ := hw.inserted inserted'
    exact ⟨⟨exact₁.removed removed, wildcard₁.removed removed'⟩, fun _ =>
      ⟨exact₁.wanted removed, wildcard₁.wanted removed'⟩⟩

/-- One frame: the keys stay lost, and the frame is applied only if it wants them. -/
theorem syncPolicy_lost (h : LostKeys exactLost wildcardLost w) (update : SagUpdate c) (env : SyncEnv) :
    LostKeys exactLost wildcardLost (syncPolicy c dtd w update env).2 ∧
      ∀ compiled, Accepts c dtd w.state.currentVersion update compiled → (syncPolicy c dtd w update env).1 = .ok () →
        exactLost ⊆ keySet (exactPairs c compiled) ∧ wildcardLost ⊆ keySet (wildcardPairs c compiled) := by
  rcases frame_cases c dtd w.state.currentVersion update with stale | ⟨newer, e, he⟩ | ⟨compiled, accepts⟩
  · rw [syncPolicy_of_stale stale]
    exact ⟨h, fun compiled accepts => absurd accepts.1 (UInt64.not_lt.mpr stale)⟩
  · rw [syncPolicy_of_error newer he]
    exact ⟨h, fun compiled accepts => by cases he.symm.trans accepts.2⟩
  · have outcome := applyMutationsToMaps_outcome c env w compiled
    rw [syncPolicy_of_accepts accepts]
    generalize applyMutationsToMaps env (computeSyncMutations c env.order w.state compiled) w.maps = result at outcome ⊢
    rcases result with ⟨e | _, maps⟩
    · exact ⟨(outcome.lost h).1, fun _ _ => by rintro ⟨⟩⟩
    · obtain ⟨lost, wanted⟩ := outcome.lost h
      obtain ⟨exactWanted, wildcardWanted⟩ := wanted rfl
      refine ⟨⟨⟨exactWanted, lost.exact_keys.2⟩, wildcardWanted, lost.wildcard_keys.2⟩, fun compiled' accepts' _ => ?_⟩
      cases accepts.2.symm.trans accepts'.2
      exact ⟨exactWanted, wildcardWanted⟩

/-- The insertions of a frame take no key away. -/
theorem Tier.grown {Key : Type} {n : Nat} {t : Tier c Key n} {r : Except String Unit} {m : FinMap (Bytes n) (Bytes 16)}
    (inserted : t.insertPairs compiled env w = (r, m)) : (t.table w.maps).keys ⊆ m.keys := by
  have keys := subset_insertAll (t.insertFaults env) (missing (t.tracked w.state) (t.pairs compiled)) (t.table w.maps)
  rw [← Tier.insertPairs, inserted] at keys
  exact keys

/-- A frame that fails loses exactly the keys that it has removed by then. -/
theorem Outcome.loses {e : AgentError} {maps : PolicyMaps} (outcome : Outcome c env w compiled (.error e, maps)) :
    LostKeys (w.maps.policyExact.keys \ maps.policyExact.keys) (w.maps.policyWildcard.keys \ maps.policyWildcard.keys)
      { w with maps := maps } := by
  cases outcome with
  | locked e _ => exact ⟨.of_subset (Finset.Subset.refl _), .of_subset (Finset.Subset.refl _)⟩
  | exactInsert e failed => exact ⟨.of_subset (Tier.grown failed), .of_subset (Finset.Subset.refl _)⟩
  | exactRemove e inserted failed => exact ⟨.of_removed (Tier.grown inserted) failed, .of_subset (Finset.Subset.refl _)⟩
  | wildcardInsert e inserted removed failed =>
    exact ⟨.of_removed (Tier.grown inserted) removed, .of_subset (Tier.grown failed)⟩
  | wildcardRemove e inserted removed inserted' failed =>
    exact ⟨.of_removed (Tier.grown inserted) removed, .of_removed (Tier.grown inserted') failed⟩

theorem syncPolicy_loses {update : SagUpdate c} {e : AgentError} (failed : (syncPolicy c dtd w update env).1 = .error e) :
    LostKeys (w.maps.policyExact.keys \ (syncPolicy c dtd w update env).2.maps.policyExact.keys)
      (w.maps.policyWildcard.keys \ (syncPolicy c dtd w update env).2.maps.policyWildcard.keys)
      (syncPolicy c dtd w update env).2 := by
  rcases frame_cases c dtd w.state.currentVersion update with stale | ⟨newer, e, he⟩ | ⟨compiled, accepts⟩
  · rw [syncPolicy_of_stale stale] at failed
    cases failed
  · rw [syncPolicy_of_error newer he]
    exact ⟨.of_subset (Finset.Subset.refl _), .of_subset (Finset.Subset.refl _)⟩
  · have outcome := applyMutationsToMaps_outcome c env w compiled
    rw [syncPolicy_of_accepts accepts] at failed ⊢
    generalize applyMutationsToMaps env (computeSyncMutations c env.order w.state compiled) w.maps =
      result at outcome failed ⊢
    rcases result with ⟨e | _, maps⟩
    · exact outcome.loses
    · cases failed

/-- The policy entries that a failing frame has removed by then are gone: in every run of later frames, whatever fails in
    it or not, none of them is in the kernel again, and every frame that is applied wants all of them, in vain. -/
theorem removed_policy_keys_never_return (w : PolicyWorld) (frame : SagFrame c) (later : List (SagFrame c)) {e : AgentError}
    (failed : (syncPolicy c dtd w frame.update frame.env).1 = .error e) :
    let exactLost := w.maps.policyExact.keys \ (sagStep c dtd w frame).maps.policyExact.keys
    let wildcardLost := w.maps.policyWildcard.keys \ (sagStep c dtd w frame).maps.policyWildcard.keys
    Along (sagStep c dtd) (fun t next =>
      Disjoint exactLost (sagStep c dtd t next).maps.policyExact.keys ∧
      Disjoint wildcardLost (sagStep c dtd t next).maps.policyWildcard.keys ∧
      ∀ compiled, Accepts c dtd t.state.currentVersion next.update compiled →
        (syncPolicy c dtd t next.update next.env).1 = .ok () →
        exactLost ⊆ keySet (exactPairs c compiled) ∧ wildcardLost ⊆ keySet (wildcardPairs c compiled))
      (sagStep c dtd w frame) later := by
  intro exactLost wildcardLost
  have run : Along (sagStep c dtd) (fun _ _ => True) (sagStep c dtd w frame) later := fun _ _ _ _ => trivial
  refine run.of_inv (I := LostKeys exactLost wildcardLost) (fun t next lost _ => ?_) (fun t next lost _ => ?_)
    (syncPolicy_loses failed)
  · exact (syncPolicy_lost lost next.update next.env).1
  · obtain ⟨still, wanted⟩ := syncPolicy_lost lost next.update next.env
    exact ⟨still.exact_keys.2, still.wildcard_keys.2, wanted⟩

end Loss

/-! ### A sample loss -/

/-- The kernel and the mirror have the entry of the TCP rule. -/
def tcpInstalled : PolicyWorld where
  state := ⟨1, {tcpKey}, ∅⟩
  maps := { policyExact := (∅ : FinMap _ _).insert tcpKey (policyValueBytes ⟨1, 1, .replicate 7 0⟩) }

/-- A frame that has dropped the TCP rule when it dies at its wildcard entry. -/
noncomputable def droppingFrame : SagFrame passthrough where
  update := ⟨[anyPortRule 2], 2⟩
  env := { quiet with insertWildcard := fun _ => some "no memory" }

theorem droppingFrame_sync : syncPolicy passthrough "td" tcpInstalled droppingFrame.update droppingFrame.env =
    (.error (.ebpf "POLICY_WILDCARD insert failed: no memory"),
      { tcpInstalled with maps := { policyExact := tcpInstalled.maps.policyExact.remove tcpKey } }) := by
  have fresh : Accepts passthrough "td" tcpInstalled.state.currentVersion droppingFrame.update ⟨[anyPortRule 2]⟩ :=
    ⟨by decide, rfl⟩
  have dropped : stale droppingFrame.env.order.exact tcpInstalled.state.exactKeys
      (keySet (exactPairs passthrough ⟨[anyPortRule 2]⟩)) = [tcpKey] := by
    show (Finset.toList {tcpKey}).filter (fun k => k ∉ (∅ : Finset (Bytes 40))) = [tcpKey]
    simp
  obtain ⟨insertExact, deleteExact, insertWildcard, -⟩ :=
    mutations_eq passthrough droppingFrame.env.order tcpInstalled.state
    ⟨[anyPortRule 2]⟩
  rw [syncPolicy_of_accepts fresh, applyMutationsToMaps, insertExact, insertWildcard, deleteExact, dropped]
  rfl

/-- The TCP rule is sent again to a healthy kernel, and does not come back. -/
theorem tcp_rule_never_returns :
    Along (sagStep passthrough "td") (fun t next => tcpKey ∉ (sagStep passthrough "td" t next).maps.policyExact.keys)
      (sagStep passthrough "td" tcpInstalled droppingFrame) [tcpFrame 1 3, tcpFrame 1 4] := by
  have never := removed_policy_keys_never_return tcpInstalled droppingFrame [tcpFrame 1 3, tcpFrame 1 4]
    (congrArg Prod.fst droppingFrame_sync)
  have lost : tcpKey ∈ tcpInstalled.maps.policyExact.keys \
      (sagStep passthrough "td" tcpInstalled droppingFrame).maps.policyExact.keys := by
    rw [sagStep, droppingFrame_sync]
    simp [tcpInstalled]
  exact never.mono fun t next h => Finset.disjoint_left.mp h.1 lost

end FleetosAgent.Policy
