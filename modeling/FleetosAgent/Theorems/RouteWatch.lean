import FleetosAgent.Theorems.RouteKeys
import FleetosAgent.Wiring

/-! # One route frame, four consumers

WorkloadConfigBuilder, ContainerdAdapter, the mirror and the kernel each get their part of a route frame. The first two get
it before the frame is known to be good, so they agree with the other two only as long as every frame that is not applied
says what the newest applied one said. -/

namespace FleetosAgent.Routes
open Lib

/-! ### Applying a list of mutations, up to where it stops -/

section Stops
variable {fault : Nat → Option String} {mutation : RouteMutation} {mutations pre : List RouteMutation}
  {maps maps' : RouteMaps}

theorem applyMutation_eq_ok_quiet {f : Option String} (h : applyMutation f mutation maps = .ok maps') :
    applyMutation none mutation maps = .ok maps' := by
  cases f with
  | none => exact h
  | some e => cases mutation <;> cases h

/-- What is applied without error is applied as on a healthy kernel. -/
theorem apply_eq_quiet (h : (applyMutationsToMaps fault mutations maps).1 = .ok ()) :
    applyMutationsToMaps fault mutations maps = applyMutationsToMaps quietMaps mutations maps := by
  induction mutations generalizing fault maps with
  | nil => rfl
  | cons mutation mutations ih =>
    simp only [applyMutationsToMaps] at h ⊢
    cases hm : applyMutation (fault 0) mutation maps with
    | error e => simp [hm] at h
    | ok maps₁ =>
      rw [hm] at h
      rw [quietMaps, applyMutation_eq_ok_quiet hm]
      exact ih h

/-- Otherwise it stops at one mutation, with the maps as those before it left them. -/
theorem apply_stops (h : (applyMutationsToMaps fault mutations maps).1 ≠ .ok ()) :
    ∃ pre mutation post e maps', mutations = pre ++ mutation :: post ∧
      applyMutationsToMaps quietMaps pre maps = (.ok (), maps') ∧
      applyMutation (fault pre.length) mutation maps' = .error e ∧
      applyMutationsToMaps fault mutations maps = (.error e, maps') := by
  induction mutations generalizing fault maps with
  | nil => exact absurd rfl h
  | cons mutation mutations ih =>
    simp only [applyMutationsToMaps] at h ⊢
    cases hm : applyMutation (fault 0) mutation maps with
    | error e => exact ⟨[], mutation, mutations, e, maps, rfl, rfl, hm, rfl⟩
    | ok maps₁ =>
      rw [hm] at h
      obtain ⟨pre, stopped, post, e, maps', rfl, hpre, hstop, hall⟩ := ih h
      refine ⟨mutation :: pre, stopped, post, e, maps', rfl, ?_, hstop, hall⟩
      rw [applyMutationsToMaps, quietMaps, applyMutation_eq_ok_quiet hm]
      exact hpre

/-- A mutation that fails where it stands ends the list there or before. -/
theorem apply_of_stop (post : List RouteMutation) (h : ∀ maps', applyMutationsToMaps quietMaps pre maps = (.ok (), maps') →
      ∃ e, applyMutation (fault pre.length) mutation maps' = .error e) :
    (applyMutationsToMaps fault (pre ++ mutation :: post) maps).1 ≠ .ok () ∧
      ∃ done, done <+: pre ∧ applyMutationsToMaps quietMaps done maps =
        (.ok (), (applyMutationsToMaps fault (pre ++ mutation :: post) maps).2) := by
  induction pre generalizing fault maps with
  | nil =>
    obtain ⟨e, he⟩ := h maps rfl
    refine ⟨?_, [], List.prefix_rfl, ?_⟩ <;>
      simp [applyMutationsToMaps, show applyMutation (fault 0) mutation maps = _ from he]
  | cons first pre ih =>
    simp only [List.cons_append, applyMutationsToMaps]
    cases hm : applyMutation (fault 0) first maps with
    | error e => exact ⟨fun h => (by cases h), [], List.nil_prefix, rfl⟩
    | ok maps₁ =>
      have quiet := applyMutation_eq_ok_quiet hm
      have stop : ∀ maps', applyMutationsToMaps quietMaps pre maps₁ = (.ok (), maps') →
          ∃ e, applyMutation (fault (pre.length + 1)) mutation maps' = .error e := fun maps' hpre => h maps' (by
        rw [applyMutationsToMaps, quietMaps, quiet]
        exact hpre)
      obtain ⟨failed, done, hdone, hmaps⟩ := @ih (fun n => fault (n + 1)) maps₁ stop
      refine ⟨failed, first :: done, List.prefix_cons_inj _ |>.mpr hdone, ?_⟩
      rw [applyMutationsToMaps, quietMaps, quiet]
      exact hmaps

end Stops

/-! ### Which keys a part of the diff changes -/

section Keys
variable {api : SpiffeApi} {own : api.SpiffeId} {order : KeyOrder} {routes : List (ResolvedRoute api)}
  {state : RouteSyncState} {mutations : List RouteMutation} {maps maps' : RouteMaps} {k : UInt32}
  {fp : IdentityFingerprint}

/-- What one mutation does to the keys of the kernel maps is what the mirror records for it. -/
theorem applyMutation_keys {mutation : RouteMutation} (version : UInt64)
    (h : applyMutation none mutation maps = .ok maps') :
    recordMutation ⟨version, maps.dummyIpRoute.keys, maps.localWorkloads.keys⟩ mutation =
      ⟨version, maps'.dummyIpRoute.keys, maps'.localWorkloads.keys⟩ := by
  cases mutation with
  | insertRoute key value =>
    cases h
    rfl
  | addLocalWorkload fp =>
    cases h
    rfl
  | deleteRoute key =>
    rw [applyMutation] at h
    split at h
    · cases h
      rfl
    · cases h
  | removeLocalWorkload fp =>
    rw [applyMutation] at h
    split at h
    · cases h
      rfl
    · cases h

/-- The keys of the kernel maps follow the mutations as the mirror does. -/
theorem apply_keys (version : UInt64) (h : applyMutationsToMaps quietMaps mutations maps = (.ok (), maps')) :
    mutations.foldl recordMutation ⟨version, maps.dummyIpRoute.keys, maps.localWorkloads.keys⟩ =
      ⟨version, maps'.dummyIpRoute.keys, maps'.localWorkloads.keys⟩ := by
  induction mutations generalizing maps with
  | nil =>
    obtain rfl := (Prod.mk.inj h).2
    rfl
  | cons mutation mutations ih =>
    rw [applyMutationsToMaps] at h
    cases hm : applyMutation (quietMaps 0) mutation maps with
    | error e =>
      rw [hm] at h
      cases (Prod.mk.inj h).1
    | ok maps₁ =>
      rw [hm] at h
      rw [List.foldl_cons, applyMutation_keys version hm, ih h]

theorem mem_record_of_no_delete (h : .deleteRoute ⟨k⟩ ∉ mutations) :
    k ∈ (mutations.foldl recordMutation state).dummyIpKeys ↔
      k ∈ state.dummyIpKeys ∨ ∃ value, .insertRoute ⟨k⟩ value ∈ mutations := by
  induction mutations generalizing state with
  | nil => simp
  | cons mutation mutations ih =>
    obtain ⟨hne, hrest⟩ := not_or.mp (mt List.mem_cons.mpr h)
    rw [List.foldl_cons, ih hrest]
    cases mutation with
    | insertRoute key value =>
      obtain ⟨key⟩ := key
      simp only [recordMutation, Finset.mem_insert, List.mem_cons, RouteMutation.insertRoute.injEq, HostOrderIpv4.mk.injEq,
        exists_or, exists_and_left, exists_eq, and_true]
      tauto
    | deleteRoute key =>
      have other : k ≠ key.val := fun e => hne (by rw [e])
      simp [recordMutation, other]
    | addLocalWorkload fp => simp [recordMutation]
    | removeLocalWorkload fp => simp [recordMutation]

theorem mem_record_of_no_insert (h : ∀ value, .insertRoute ⟨k⟩ value ∉ mutations) :
    k ∈ (mutations.foldl recordMutation state).dummyIpKeys ↔ k ∈ state.dummyIpKeys ∧ .deleteRoute ⟨k⟩ ∉ mutations := by
  induction mutations generalizing state with
  | nil => simp
  | cons mutation mutations ih =>
    rw [List.foldl_cons, ih fun value => (not_or.mp (mt List.mem_cons.mpr (h value))).2]
    cases mutation with
    | insertRoute key value =>
      have other : k ≠ key.val := fun e => (not_or.mp (mt List.mem_cons.mpr (h value))).1 (by rw [e])
      simp [recordMutation, other]
    | deleteRoute key =>
      obtain ⟨key⟩ := key
      simp only [recordMutation, Finset.mem_erase, List.mem_cons, RouteMutation.deleteRoute.injEq, HostOrderIpv4.mk.injEq]
      tauto
    | addLocalWorkload fp => simp [recordMutation]
    | removeLocalWorkload fp => simp [recordMutation]

theorem mem_record_of_no_add (h : .addLocalWorkload fp ∉ mutations) :
    fp ∈ (mutations.foldl recordMutation state).localWorkloadFps ↔
      fp ∈ state.localWorkloadFps ∧ .removeLocalWorkload fp ∉ mutations := by
  induction mutations generalizing state with
  | nil => simp
  | cons mutation mutations ih =>
    obtain ⟨hne, hrest⟩ := not_or.mp (mt List.mem_cons.mpr h)
    rw [List.foldl_cons, ih hrest]
    cases mutation with
    | insertRoute key value => simp [recordMutation]
    | deleteRoute key => simp [recordMutation]
    | addLocalWorkload fp' =>
      have other : fp ≠ fp' := fun e => hne (by rw [e])
      simp [recordMutation, other]
    | removeLocalWorkload fp' =>
      simp only [recordMutation, Finset.mem_erase, List.mem_cons, RouteMutation.removeLocalWorkload.injEq]
      tauto

/-- A diff adds what the mirror does not know and removes what it knows. -/
def Diffs (state : RouteSyncState) : RouteMutation → Prop
  | .insertRoute key _ => key.val ∉ state.dummyIpKeys
  | .deleteRoute key => key.val ∈ state.dummyIpKeys
  | .addLocalWorkload fp => fp ∉ state.localWorkloadFps
  | .removeLocalWorkload fp => fp ∈ state.localWorkloadFps

theorem diffs_routeInserts {route : ResolvedRoute api} {mutation : RouteMutation}
    (h : mutation ∈ routeInserts own state route) : Diffs state mutation := by
  rcases List.mem_append.mp h with h | h
  · split at h
    · next absent =>
      obtain rfl := List.mem_singleton.mp h
      exact absent
    · cases h
  · split at h
    · next absent =>
      obtain rfl := List.mem_singleton.mp h
      exact absent.2
    · cases h

theorem diffs_diffMutations : ∀ mutation ∈ diffMutations own order state routes, Diffs state mutation := by
  intro mutation hmem
  simp only [diffMutations, List.mem_append, List.mem_flatMap, List.mem_map] at hmem
  rcases hmem with (⟨route, -, hr⟩ | ⟨k, hk, rfl⟩) | ⟨fp, hfp, rfl⟩
  · exact diffs_routeInserts hr
  · exact (mem_stale.mp hk).1
  · exact (mem_stale.mp hfp).1

/-- A diff removes a fingerprint once. -/
theorem removal_notMem {pre post : List RouteMutation}
    (hsplit : diffMutations own order state routes = pre ++ .removeLocalWorkload fp :: post) :
    .removeLocalWorkload fp ∉ pre := by
  have once : (diffMutations own order state routes).count (.removeLocalWorkload fp) ≤ 1 := by
    have inserts : (routes.flatMap (routeInserts own state)).count (.removeLocalWorkload fp) = 0 := by
      refine List.count_eq_zero.mpr fun hmem => ?_
      obtain ⟨route, -, hr⟩ := List.mem_flatMap.mp hmem
      unfold routeInserts at hr
      split_ifs at hr <;> simp at hr
    have deletes : ((stale order.dummyIp state.dummyIpKeys (keySet (routePairs routes))).map
        (fun key => RouteMutation.deleteRoute ⟨key⟩)).count (.removeLocalWorkload fp) = 0 :=
      List.count_eq_zero.mpr (by simp)
    have removals : ((stale order.localWorkload state.localWorkloadFps (keySet (localPairs own routes))).map
        RouteMutation.removeLocalWorkload).Nodup :=
      (stale_nodup _ _ _).map fun _ _ => RouteMutation.removeLocalWorkload.inj
    rw [diffMutations, List.count_append, List.count_append, inserts, deletes]
    simpa using List.nodup_iff_count_le_one.mp removals _
  rw [hsplit, List.count_append, List.count_cons_self] at once
  exact List.count_eq_zero.mp (by omega)

def IsLocal : RouteMutation → Prop
  | .insertRoute .. | .deleteRoute _ => False
  | .addLocalWorkload _ | .removeLocalWorkload _ => True

/-- Where the mirror knows the keys of DUMMY_IP_ROUTE_MAP, a part of a diff leaves them as they are exactly if it has
    operations of LOCAL_WORKLOADS only. -/
theorem route_keys_kept_iff (hdiffs : ∀ mutation ∈ mutations, Diffs state mutation)
    (hkeys : maps.dummyIpRoute.keys = state.dummyIpKeys)
    (h : applyMutationsToMaps quietMaps mutations maps = (.ok (), maps')) :
    maps'.dummyIpRoute.keys = maps.dummyIpRoute.keys ↔ ∀ mutation ∈ mutations, IsLocal mutation := by
  have after : maps'.dummyIpRoute.keys = (mutations.foldl recordMutation
      ⟨0, maps.dummyIpRoute.keys, maps.localWorkloads.keys⟩).dummyIpKeys := by rw [apply_keys 0 h]
  constructor
  · intro kept mutation hmem
    cases mutation with
    | addLocalWorkload fp => trivial
    | removeLocalWorkload fp => trivial
    | insertRoute key value =>
      have fresh : key.val ∉ state.dummyIpKeys := hdiffs _ hmem
      have no_delete : .deleteRoute ⟨key.val⟩ ∉ mutations := fun hdel => fresh (hdiffs _ hdel)
      have inserted : key.val ∈ maps'.dummyIpRoute.keys := by
        rw [after, mem_record_of_no_delete no_delete]
        exact Or.inr ⟨value, hmem⟩
      rw [kept, hkeys] at inserted
      exact absurd inserted fresh
    | deleteRoute key =>
      have known : key.val ∈ state.dummyIpKeys := hdiffs _ hmem
      have no_insert : ∀ value, .insertRoute ⟨key.val⟩ value ∉ mutations := fun value hins => hdiffs _ hins known
      rw [← hkeys, ← kept, after, mem_record_of_no_insert no_insert] at known
      exact absurd hmem known.2
  · intro hlocal
    ext k
    have no_delete : .deleteRoute ⟨k⟩ ∉ mutations := fun hdel => hlocal _ hdel
    have no_insert : ¬∃ value, .insertRoute ⟨k⟩ value ∈ mutations := fun ⟨_, hins⟩ => hlocal _ hins
    rw [after, mem_record_of_no_delete no_delete]
    simp [no_insert]

/-- The list stops before its first operation of DUMMY_IP_ROUTE_MAP: at a fault, or at a fingerprint that is not there. -/
def StopsEarly (fault : Nat → Option String) (mutations : List RouteMutation) (maps : RouteMaps) : Prop :=
  ∃ pre mutation post, mutations = pre ++ mutation :: post ∧ (∀ mutation ∈ pre, IsLocal mutation) ∧
    ((fault pre.length).isSome ∨ ∃ fp, mutation = .removeLocalWorkload fp ∧ fp ∉ maps.localWorkloads.keys)

theorem applyMutation_fault {e : String} (mutation : RouteMutation) (maps : RouteMaps) :
    ∃ e', applyMutation (some e) mutation maps = .error e' := by
  cases mutation <;> exact ⟨_, rfl⟩

/-- A fingerprint that the diff removes is there when its turn comes exactly if it was there before. -/
theorem mem_local_before_removal {pre post : List RouteMutation}
    (hsplit : diffMutations own order state routes = pre ++ .removeLocalWorkload fp :: post)
    (h : applyMutationsToMaps quietMaps pre maps = (.ok (), maps')) :
    fp ∈ maps'.localWorkloads.keys ↔ fp ∈ maps.localWorkloads.keys := by
  have hdiffs : ∀ mutation ∈ pre ++ .removeLocalWorkload fp :: post, Diffs state mutation :=
    hsplit ▸ diffs_diffMutations
  have known : fp ∈ state.localWorkloadFps := hdiffs (.removeLocalWorkload fp) (by simp)
  have no_add : .addLocalWorkload fp ∉ pre := fun hadd =>
    hdiffs (.addLocalWorkload fp) (List.mem_append_left _ hadd) known
  have after : maps'.localWorkloads.keys = (pre.foldl recordMutation
      ⟨0, maps.dummyIpRoute.keys, maps.localWorkloads.keys⟩).localWorkloadFps := by rw [apply_keys 0 h]
  rw [after, mem_record_of_no_add no_add]
  exact and_iff_left (removal_notMem hsplit)

/-- A mutation fails at a fault, or because it removes what is not there. -/
theorem applyMutation_error {f : Option String} {mutation : RouteMutation} {e : AgentError}
    (h : applyMutation f mutation maps = .error e) :
    f.isSome ∨ (∃ key, mutation = .deleteRoute key ∧ key.val ∉ maps.dummyIpRoute.keys) ∨
      ∃ fp, mutation = .removeLocalWorkload fp ∧ fp ∉ maps.localWorkloads.keys := by
  cases f with
  | some e => exact Or.inl rfl
  | none =>
    cases mutation with
    | insertRoute key value => cases h
    | addLocalWorkload fp => cases h
    | deleteRoute key =>
      refine Or.inr (Or.inl ⟨key, rfl, fun present => ?_⟩)
      rw [applyMutation, if_pos present] at h
      cases h
    | removeLocalWorkload fp =>
      refine Or.inr (Or.inr ⟨fp, rfl, fun present => ?_⟩)
      rw [applyMutation, if_pos present] at h
      cases h

theorem StopsEarly.kept {fault : Nat → Option String} (hkeys : maps.dummyIpRoute.keys = state.dummyIpKeys)
    (early : StopsEarly fault (diffMutations own order state routes) maps) :
    (applyMutationsToMaps fault (diffMutations own order state routes) maps).1 ≠ .ok () ∧
      (applyMutationsToMaps fault (diffMutations own order state routes) maps).2.dummyIpRoute.keys =
        maps.dummyIpRoute.keys := by
  obtain ⟨pre, mutation, post, hsplit, hlocal, hstop⟩ := early
  have stop : ∀ maps', applyMutationsToMaps quietMaps pre maps = (.ok (), maps') →
      ∃ e, applyMutation (fault pre.length) mutation maps' = .error e := by
    intro maps' hpre
    cases hf : fault pre.length with
    | some e => exact applyMutation_fault mutation maps'
    | none =>
      rcases hstop with hsome | ⟨fp, rfl, absent⟩
      · simp [hf] at hsome
      · rw [← mem_local_before_removal hsplit hpre] at absent
        exact ⟨_, if_neg absent⟩
  obtain ⟨failed, done, hdone, hmaps⟩ := apply_of_stop post stop
  have done_local : ∀ mutation ∈ done, IsLocal mutation := fun mutation hmem => hlocal mutation (hdone.subset hmem)
  have done_diffs : ∀ mutation ∈ done, Diffs state mutation := fun mutation hmem =>
    diffs_diffMutations mutation (hsplit ▸ List.mem_append_left _ (hdone.subset hmem))
  rw [hsplit]
  exact ⟨failed, (route_keys_kept_iff done_diffs hkeys hmaps).mpr done_local⟩

theorem stopsEarly_iff {fault : Nat → Option String} (hkeys : maps.dummyIpRoute.keys = state.dummyIpKeys) :
    StopsEarly fault (diffMutations own order state routes) maps ↔
      (applyMutationsToMaps fault (diffMutations own order state routes) maps).1 ≠ .ok () ∧
      (applyMutationsToMaps fault (diffMutations own order state routes) maps).2.dummyIpRoute.keys =
        maps.dummyIpRoute.keys := by
  refine ⟨StopsEarly.kept hkeys, fun ⟨failed, kept⟩ => ?_⟩
  obtain ⟨pre, mutation, post, e, maps', hsplit, hpre, hstop, hall⟩ := apply_stops failed
  rw [hall] at kept
  have hdiffs : ∀ m ∈ pre ++ mutation :: post, Diffs state m := hsplit ▸ diffs_diffMutations
  have pre_diffs : ∀ mutation ∈ pre, Diffs state mutation := fun mutation hmem =>
    hdiffs mutation (List.mem_append_left _ hmem)
  refine ⟨pre, mutation, post, hsplit, (route_keys_kept_iff pre_diffs hkeys hpre).mp kept, ?_⟩
  rcases applyMutation_error hstop with hfault | ⟨key, rfl, absent⟩ | ⟨fp, rfl, absent⟩
  · exact Or.inl hfault
  · -- the mirror, and with it the kernel, knows every key that the diff deletes
    have known : key.val ∈ state.dummyIpKeys := hdiffs (.deleteRoute key) (by simp)
    rw [kept, hkeys] at absent
    exact absurd known absent
  · rw [mem_local_before_removal hsplit hpre] at absent
    exact Or.inr ⟨fp, rfl, absent⟩

end Keys

end FleetosAgent.Routes

namespace FleetosAgent.Wiring
open Lib Routes

/-! ### One frame -/

section Frame
variable {api : SpiffeApi} {own : api.SpiffeId} {w : RoutesWatch} {frame : RouteFrame} {newest : Option RouteUpdate}

theorem routeApplied_iff {w : RouteWorld} : routeApplied api own w frame = true ↔ Applies api own w frame := by
  unfold routeApplied Applies
  cases processRouteUpdate api own frame.env.order w.state frame.update with
  | error e => simp
  | ok found =>
    cases found with
    | none => simp
    | some mutations =>
      cases frame.env.lockPoisoned with
      | some e => simp
      | none => cases h : (applyMutationsToMaps frame.env.fault mutations w.maps).1 <;> simp [h, Except.isOk, Except.toBool]

/-- `k` is a key that the update wants in DUMMY_IP_ROUTE_MAP; before the first update there is none. -/
def WantsKey (newest : Option RouteUpdate) (k : UInt32) : Prop :=
  ∃ update ∈ newest, ∃ entry ∈ update.routes, k = (HostOrderIpv4.fromNetwork entry.dummyIp).val

/-- The consumers of a route frame all show `newest`, or their initial state. -/
structure Coherent (api : SpiffeApi) (newest : Option RouteUpdate) (w : RoutesWatch) : Prop where
  dummy_ip_routes : w.dummyIpRoutes = newest.elim [] (dummyRoutes api)
  hosts_content : w.hostsContent = newest.elim "" (hostsContent api)
  version : w.routes.state.currentVersion = newest.elim 0 (·.version)
  route_keys : ∀ k, k ∈ w.routes.maps.dummyIpRoute.keys ↔ WantsKey newest k

/-- What the mirror shows in any case. -/
structure MirrorShows (newest : Option RouteUpdate) (state : RouteSyncState) : Prop where
  version : state.currentVersion = newest.elim 0 (·.version)
  route_keys : ∀ k, k ∈ state.dummyIpKeys ↔ WantsKey newest k

/-- The update of the frame, if it is applied. -/
def appliedUpdate (api : SpiffeApi) (own : api.SpiffeId) (w : RoutesWatch) (frame : RouteFrame) : Option RouteUpdate :=
  if routeApplied api own w.routes frame then some frame.update else none

theorem mirrorShows_step (h : MirrorShows newest w.routes.state) :
    MirrorShows ((appliedUpdate api own w frame).or newest) (routesWatchStep api own w frame).routes.state := by
  unfold appliedUpdate
  by_cases happ : Applies api own w.routes frame
  · obtain ⟨routes, ha⟩ := happ.accepts
    rw [if_pos (routeApplied_iff.mpr happ)]
    simp only [routesWatchStep, routeStep_of_applies happ ha]
    exact ⟨rfl, fun k => by simp [WantsKey, mem_routeKeys (forall₂_resolves ha.2)]⟩
  · rw [if_neg fun ok => happ (routeApplied_iff.mp ok)]
    simp only [routesWatchStep, routeStep_state_of_not_applies happ]
    exact h

/-- If the frame gets as far as the maps, it stops before the first operation of DUMMY_IP_ROUTE_MAP. -/
def Spares (api : SpiffeApi) (own : api.SpiffeId) (w : RouteWorld) (frame : RouteFrame) : Prop :=
  ∀ mutations, processRouteUpdate api own frame.env.order w.state frame.update = .ok (some mutations) →
    frame.env.lockPoisoned = none → StopsEarly frame.env.fault mutations w.maps

theorem spares_iff {w : RouteWorld} (hkeys : w.maps.dummyIpRoute.keys = w.state.dummyIpKeys)
    (h : ¬Applies api own w frame) :
    Spares api own w frame ↔ (routeStep api own w frame).maps.dummyIpRoute.keys = w.maps.dummyIpRoute.keys := by
  unfold Spares routeStep
  rcases frame_cases api w.state.currentVersion frame.update with hs | ⟨hn, e, he⟩ | ⟨routes, ha⟩
  · rw [processRouteUpdate_of_stale hs]
    simp
  · rw [processRouteUpdate_of_error hn he]
    simp
  · rw [processRouteUpdate_of_accepts ha]
    cases lock : frame.env.lockPoisoned with
    | some e => simp
    | none =>
      have failed : (applyMutationsToMaps frame.env.fault (diffMutations own frame.env.order w.state routes) w.maps).1 ≠
          .ok () := fun ok => h ((applies_iff_of_accepts ha).mpr ⟨lock, ok⟩)
      simp only [Except.ok.injEq, Option.some.injEq, forall_eq', forall_const, stopsEarly_iff hkeys, failed, ne_eq,
        not_false_eq_true, true_and]
      revert failed
      rcases applyMutationsToMaps frame.env.fault (diffMutations own frame.env.order w.state routes)
        w.maps with ⟨e | u, maps⟩
      · exact fun _ => Iff.rfl
      · exact fun failed => absurd rfl failed

/-- A frame that keeps the consumers together: it is applied, or it says what they show already and stops early. -/
def FrameFits (api : SpiffeApi) (own : api.SpiffeId) (w : RoutesWatch) (frame : RouteFrame) : Prop :=
  routeApplied api own w.routes frame = true ∨
    (dummyRoutes api frame.update = w.dummyIpRoutes ∧ hostsContent api frame.update = w.hostsContent ∧
      Spares api own w.routes frame)

theorem route_keys_of_applies {w : RouteWorld} (hkeys : w.maps.dummyIpRoute.keys = w.state.dummyIpKeys)
    (h : Applies api own w frame) :
    (routeStep api own w frame).maps.dummyIpRoute.keys = (routeStep api own w frame).state.dummyIpKeys := by
  obtain ⟨routes, ha⟩ := h.accepts
  have ok := ((applies_iff_of_accepts ha).mp h).2
  rw [routeStep_of_applies h ha, apply_eq_quiet ok]
  rw [apply_eq_quiet ok] at ok
  obtain ⟨route_ok, local_ok⟩ := apply_diff_ok_iff.mp ok
  rw [apply_diff_ok route_ok local_ok]
  exact syncTable_keys (fun _ => rfl) (fun _ => rfl) hkeys

theorem coherent_step_iff (hm : MirrorShows newest w.routes.state) (hc : Coherent api newest w) :
    Coherent api ((appliedUpdate api own w frame).or newest) (routesWatchStep api own w frame) ↔
      FrameFits api own w frame := by
  have hkeys : w.routes.maps.dummyIpRoute.keys = w.routes.state.dummyIpKeys :=
    Finset.ext fun k => (hc.route_keys k).trans (hm.route_keys k).symm
  have mirror : MirrorShows ((appliedUpdate api own w frame).or newest) (routesWatchStep api own w frame).routes.state :=
    mirrorShows_step hm
  unfold FrameFits
  by_cases happ : Applies api own w.routes frame
  · have applied := routeApplied_iff.mpr happ
    refine iff_of_true ?_ (Or.inl applied)
    refine ⟨?_, ?_, mirror.version, fun k => ?_⟩
    · simp [appliedUpdate, applied, routesWatchStep]
    · simp [appliedUpdate, applied, routesWatchStep]
    · rw [← mirror.route_keys, routesWatchStep, route_keys_of_applies hkeys happ]
  · have rejected : ¬routeApplied api own w.routes frame = true := fun ok => happ (routeApplied_iff.mp ok)
    have unchanged : (appliedUpdate api own w frame).or newest = newest := by simp [appliedUpdate, rejected]
    rw [unchanged] at mirror ⊢
    rw [or_iff_right rejected, spares_iff hkeys happ, hc.dummy_ip_routes, hc.hosts_content, Finset.ext_iff]
    simp only [hc.route_keys]
    exact ⟨fun h => ⟨h.dummy_ip_routes, h.hosts_content, h.route_keys⟩,
      fun ⟨routes, hosts, keys⟩ => ⟨routes, hosts, mirror.version, keys⟩⟩

end Frame

/-! ### Runs -/

section Runs
variable (api : SpiffeApi) (own : api.SpiffeId)

/-- The newest update that was applied in the run. -/
def newestApplied (frames : List RouteFrame) : Option RouteUpdate :=
  (emitted (routesWatchStep api own) (appliedUpdate api own) {} frames).getLast?

/-- After each handled frame the consumers show the newest applied one. -/
def CoherentRun (frames : List RouteFrame) : Prop :=
  ∀ pre, pre <+: frames → Coherent api (newestApplied api own pre) (pre.foldl (routesWatchStep api own) {})

variable {api own}

theorem newestApplied_concat (frames : List RouteFrame) (frame : RouteFrame) :
    newestApplied api own (frames ++ [frame]) =
      (appliedUpdate api own (frames.foldl (routesWatchStep api own) {}) frame).or (newestApplied api own frames) :=
  getLast?_emitted_concat

theorem mirrorShows_run (frames : List RouteFrame) :
    MirrorShows (newestApplied api own frames) (frames.foldl (routesWatchStep api own) {}).routes.state := by
  induction frames using List.reverseRecOn with
  | nil => exact ⟨rfl, fun k => by simp [WantsKey, newestApplied, RouteSyncState.new]⟩
  | append_singleton frames frame ih =>
    rw [newestApplied_concat, List.foldl_concat]
    exact mirrorShows_step ih

theorem coherentRun_concat {frames : List RouteFrame} {frame : RouteFrame} :
    CoherentRun api own (frames ++ [frame]) ↔ CoherentRun api own frames ∧
      Coherent api (newestApplied api own (frames ++ [frame]))
        ((frames ++ [frame]).foldl (routesWatchStep api own) {}) := by
  simp only [CoherentRun, List.prefix_concat_iff, or_imp, forall_and, forall_eq]
  exact and_comm

/-- The consumers show the newest applied frame after every frame of a run exactly if every frame that is not applied
    says what the consumers show already and leaves DUMMY_IP_ROUTE_MAP alone. -/
theorem route_watch_coherent_iff (frames : List RouteFrame) :
    CoherentRun api own frames ↔ Along (routesWatchStep api own) (FrameFits api own) {} frames := by
  induction frames using List.reverseRecOn with
  | nil =>
    refine iff_of_true (fun pre hpre => ?_) along_nil
    obtain rfl := List.prefix_nil.mp hpre
    exact ⟨rfl, rfl, rfl, fun k => by simp [WantsKey, newestApplied]⟩
  | append_singleton frames frame ih =>
    rw [coherentRun_concat, along_append, ← ih, newestApplied_concat, List.foldl_concat]
    refine and_congr_right fun hrun => ?_
    rw [coherent_step_iff (mirrorShows_run frames) (hrun frames List.prefix_rfl), along_cons]
    exact (and_iff_left along_nil).symm

/-- No frame has been applied, and the workloads are given the routes of the one that died. -/
theorem route_watch_shows_abandoned_route : ¬CoherentRun textApi nodeA [abandonedFrame] := by
  intro h
  have rejected : ¬Applies textApi nodeA {} abandonedFrame := by
    intro happ
    obtain ⟨routes, ha⟩ := happ.accepts
    have version : (routeStep textApi nodeA {} abandonedFrame).state.currentVersion = 1 := by
      rw [routeStep_of_applies happ ha]
      rfl
    rw [abandonedFrame_step] at version
    exact absurd version (by decide)
  have nothing : newestApplied textApi nodeA [abandonedFrame] = none := by
    have none_applied : appliedUpdate textApi nodeA {} abandonedFrame = none :=
      if_neg fun ok => rejected (routeApplied_iff.mp ok)
    simp [newestApplied, emitted, none_applied]
  have shown := (h _ List.prefix_rfl).dummy_ip_routes
  rw [nothing] at shown
  exact absurd (congrArg List.length shown) (by decide)

end Runs

end FleetosAgent.Wiring
