import FleetosAgent.Routes.Table
import FleetosAgent.Lib.Run

/-! # Route sync over runs

A frame's mutations are the key diffs of its routes and of its local destinations against the mirror, the inserts of
the two maps interleaved in the order of the entries. -/

namespace FleetosAgent.Routes
open Lib

section
variable {api : SpiffeApi} (own : api.SpiffeId)

/-! ### The entries of a frame -/

/-- What a frame wants in DUMMY_IP_ROUTE_MAP. -/
def routePairs (routes : List (ResolvedRoute api)) : List (UInt32 × Bytes 40) :=
  routes.map fun route => (route.hostOrderIp.val, routeValueBytes route.value)

/-- What a frame wants in LOCAL_WORKLOADS: the destinations whose target agent is this node. -/
def localPairs (routes : List (ResolvedRoute api)) : List (IdentityFingerprint × UInt8) :=
  (routes.filter fun route => route.targetAgent = own).map fun route => (route.value.dstFp, 1)

def routeInserts (state : RouteSyncState) (route : ResolvedRoute api) : List RouteMutation :=
  (if route.hostOrderIp.val ∉ state.dummyIpKeys then [.insertRoute route.hostOrderIp route.value] else []) ++
    if route.targetAgent = own ∧ route.value.dstFp ∉ state.localWorkloadFps then [.addLocalWorkload route.value.dstFp]
    else []

/-! ### The mutations are key diffs -/

theorem collect_closed (state : RouteSyncState) (routes : List (ResolvedRoute api)) (acc : Collected) :
    routes.foldl (collectRoute api own state) acc =
      ⟨acc.mutations ++ routes.flatMap (routeInserts own state), acc.desiredDummyIpKeys ∪ keySet (routePairs routes),
        acc.desiredLocalFps ∪ keySet (localPairs own routes)⟩ := by
  induction routes generalizing acc with
  | nil => simp [routePairs, localPairs, keySet]
  | cons route routes ih =>
    rw [List.foldl_cons, ih]
    by_cases hk : route.hostOrderIp.val ∈ state.dummyIpKeys <;> by_cases ht : route.targetAgent = own <;>
      by_cases hf : route.value.dstFp ∈ state.localWorkloadFps <;>
      simp [collectRoute, routeInserts, routePairs, localPairs, keySet, hk, ht, hf]

theorem foldlM_collectEntry (state : RouteSyncState) (version : UInt64) (entries : List RouteEntry) (acc : Collected) :
    entries.foldlM (collectEntry api own state version) acc =
      (entries.mapM (resolveRoute api version)).map fun routes => routes.foldl (collectRoute api own state) acc := by
  induction entries generalizing acc with
  | nil => rfl
  | cons entry entries ih =>
    rw [List.foldlM_cons, List.mapM_cons, collectEntry]
    cases resolveRoute api version entry with
    | error e => rfl
    | ok route =>
      refine (ih _).trans ?_
      cases entries.mapM (resolveRoute api version) <;> rfl

def diffMutations (order : KeyOrder) (state : RouteSyncState) (routes : List (ResolvedRoute api)) : List RouteMutation :=
  routes.flatMap (routeInserts own state) ++
    (stale order.dummyIp state.dummyIpKeys (keySet (routePairs routes))).map (fun key => .deleteRoute ⟨key⟩) ++
    (stale order.localWorkload state.localWorkloadFps (keySet (localPairs own routes))).map .removeLocalWorkload

/-- A frame is accepted: its version is newer than the current one and all its entries parse. -/
def Accepts (api : SpiffeApi) (version : UInt64) (update : RouteUpdate) (routes : List (ResolvedRoute api)) : Prop :=
  version < update.version ∧ update.routes.mapM (resolveRoute api update.version) = .ok routes

variable {own} {order : KeyOrder} {state : RouteSyncState} {update : RouteUpdate} {routes : List (ResolvedRoute api)}

theorem processRouteUpdate_of_stale (h : update.version ≤ state.currentVersion) :
    processRouteUpdate api own order state update = .ok none := by
  simp [processRouteUpdate, h]

theorem processRouteUpdate_of_error {e : AgentError} (h : state.currentVersion < update.version)
    (he : update.routes.mapM (resolveRoute api update.version) = .error e) :
    processRouteUpdate api own order state update = .error e := by
  rw [processRouteUpdate, if_neg (UInt64.not_le.mpr h), foldlM_collectEntry, he]
  rfl

theorem processRouteUpdate_of_accepts (h : Accepts api state.currentVersion update routes) :
    processRouteUpdate api own order state update = .ok (some (diffMutations own order state routes)) := by
  rw [processRouteUpdate, if_neg (UInt64.not_le.mpr h.1), foldlM_collectEntry, h.2]
  simp only [Except.map, collect_closed, diffMutations, stale, List.nil_append, Finset.empty_union]

theorem frame_cases (api : SpiffeApi) (version : UInt64) (update : RouteUpdate) :
    update.version ≤ version ∨
      (version < update.version ∧ ∃ e, update.routes.mapM (resolveRoute api update.version) = .error e) ∨
      ∃ routes, Accepts api version update routes := by
  by_cases h : update.version ≤ version
  · exact Or.inl h
  · cases he : update.routes.mapM (resolveRoute api update.version) with
    | error e => exact Or.inr (Or.inl ⟨UInt64.not_le.mp h, e, rfl⟩)
    | ok routes => exact Or.inr (Or.inr ⟨routes, UInt64.not_le.mp h, he⟩)

end

/-! ### The mutations applied -/

section Apply
variable {api : SpiffeApi} {own : api.SpiffeId} {maps maps' : RouteMaps}

def quietMaps : Nat → Option String := fun _ => none

theorem apply_append {a : List RouteMutation} (h : applyMutationsToMaps quietMaps a maps = (.ok (), maps'))
    (b : List RouteMutation) :
    applyMutationsToMaps quietMaps (a ++ b) maps = applyMutationsToMaps quietMaps b maps' := by
  induction a generalizing maps with
  | nil =>
    obtain rfl := (Prod.mk.inj h).2
    rfl
  | cons mutation a ih =>
    rw [List.cons_append, applyMutationsToMaps]
    rw [applyMutationsToMaps] at h
    cases hm : applyMutation (quietMaps 0) mutation maps with
    | error e =>
      rw [hm] at h
      cases (Prod.mk.inj h).1
    | ok maps₁ =>
      rw [hm] at h
      exact ih h

theorem apply_inserts (state : RouteSyncState) (routes : List (ResolvedRoute api)) (maps : RouteMaps) :
    applyMutationsToMaps quietMaps (routes.flatMap (routeInserts own state)) maps =
      (.ok (), ⟨(insertAll quietMaps (missing state.dummyIpKeys (routePairs routes)) maps.dummyIpRoute).2,
        (insertAll quietMaps (missing state.localWorkloadFps (localPairs own routes)) maps.localWorkloads).2⟩) := by
  induction routes generalizing maps with
  | nil => rfl
  | cons route routes ih =>
    rw [List.flatMap_cons]
    by_cases hk : route.hostOrderIp.val ∈ state.dummyIpKeys <;> by_cases ht : route.targetAgent = own <;>
      by_cases hf : route.value.dstFp ∈ state.localWorkloadFps <;>
      simp only [routeInserts, routePairs, localPairs, missing, hk, ht, hf, not_true, not_false_iff, if_true, if_false,
        and_true, and_false, List.map_cons, List.filter_cons, decide_true, decide_false] <;>
      exact ih _

theorem apply_deletes (keys : List UInt32) (maps : RouteMaps) :
    applyMutationsToMaps quietMaps (keys.map fun key => .deleteRoute ⟨key⟩) maps =
      ((removeAll absentKey quietMaps keys maps.dummyIpRoute).1.mapError
          (fun e => .ebpf s!"DUMMY_IP_ROUTE_MAP remove: {e}"),
        { maps with dummyIpRoute := (removeAll absentKey quietMaps keys maps.dummyIpRoute).2 }) := by
  induction keys generalizing maps with
  | nil => rfl
  | cons key keys ih =>
    rw [List.map_cons, applyMutationsToMaps, removeAll]
    by_cases hk : key ∈ maps.dummyIpRoute.keys
    · simp only [quietMaps, applyMutation, hk, if_true]
      exact ih _
    · simp only [quietMaps, applyMutation, hk, if_false]
      rfl

theorem apply_removals (fps : List IdentityFingerprint) (maps : RouteMaps) :
    applyMutationsToMaps quietMaps (fps.map .removeLocalWorkload) maps =
      ((removeAll absentKey quietMaps fps maps.localWorkloads).1.mapError
          (fun e => .ebpf s!"LOCAL_WORKLOADS remove: {e}"),
        { maps with localWorkloads := (removeAll absentKey quietMaps fps maps.localWorkloads).2 }) := by
  induction fps generalizing maps with
  | nil => rfl
  | cons fp fps ih =>
    rw [List.map_cons, applyMutationsToMaps, removeAll]
    by_cases hk : fp ∈ maps.localWorkloads.keys
    · simp only [quietMaps, applyMutation, hk, if_true]
      exact ih _
    · simp only [quietMaps, applyMutation, hk, if_false]
      rfl

/-- DUMMY_IP_ROUTE_MAP after the diff of a frame, and whether its removals found their keys. -/
def routeTable (order : KeyOrder) (w : RouteWorld) (routes : List (ResolvedRoute api)) :=
  syncTable absentKey quietMaps quietMaps order.dummyIp w.state.dummyIpKeys (routePairs routes) w.maps.dummyIpRoute

def localTable (own : api.SpiffeId) (order : KeyOrder) (w : RouteWorld) (routes : List (ResolvedRoute api)) :=
  syncTable absentKey quietMaps quietMaps order.localWorkload w.state.localWorkloadFps (localPairs own routes)
    w.maps.localWorkloads

theorem apply_diff_ok {order : KeyOrder} {w : RouteWorld} {routes : List (ResolvedRoute api)}
    (hr : (routeTable order w routes).1 = .ok ()) (hl : (localTable own order w routes).1 = .ok ()) :
    applyMutationsToMaps quietMaps (diffMutations own order w.state routes) w.maps =
      (.ok (), ⟨(routeTable order w routes).2, (localTable own order w routes).2⟩) := by
  unfold routeTable localTable syncTable at *
  have deletes := apply_deletes (stale order.dummyIp w.state.dummyIpKeys (keySet (routePairs routes)))
    ⟨(insertAll quietMaps (missing w.state.dummyIpKeys (routePairs routes)) w.maps.dummyIpRoute).2,
      (insertAll quietMaps (missing w.state.localWorkloadFps (localPairs own routes)) w.maps.localWorkloads).2⟩
  rw [hr] at deletes
  rw [diffMutations, List.append_assoc, apply_append (apply_inserts w.state routes w.maps), apply_append deletes,
    apply_removals, hl]
  rfl

end Apply

/-! ### The mutations recorded in the mirror -/

section Mirror
variable {api : SpiffeApi} {own : api.SpiffeId}

theorem record_inserts (state s : RouteSyncState) (routes : List (ResolvedRoute api)) :
    (routes.flatMap (routeInserts own state)).foldl recordMutation s =
      { s with
        dummyIpKeys := s.dummyIpKeys ∪ keySet (missing state.dummyIpKeys (routePairs routes))
        localWorkloadFps := s.localWorkloadFps ∪ keySet (missing state.localWorkloadFps (localPairs own routes)) } := by
  induction routes generalizing s with
  | nil => simp [routePairs, localPairs, keySet, missing]
  | cons route routes ih =>
    rw [List.flatMap_cons, List.foldl_append, ih]
    by_cases hk : route.hostOrderIp.val ∈ state.dummyIpKeys <;> by_cases ht : route.targetAgent = own <;>
      by_cases hf : route.value.dstFp ∈ state.localWorkloadFps <;>
      simp [recordMutation, routeInserts, routePairs, localPairs, missing, keySet, hk, ht, hf]

theorem record_deletes (keys : List UInt32) (s : RouteSyncState) :
    (keys.map fun key => RouteMutation.deleteRoute ⟨key⟩).foldl recordMutation s =
      { s with dummyIpKeys := s.dummyIpKeys \ keys.toFinset } := by
  rw [← foldl_erase_keys, List.foldl_map]
  induction keys generalizing s with
  | nil => rfl
  | cons key keys ih => exact ih _

theorem record_removals (fps : List IdentityFingerprint) (s : RouteSyncState) :
    (fps.map RouteMutation.removeLocalWorkload).foldl recordMutation s =
      { s with localWorkloadFps := s.localWorkloadFps \ fps.toFinset } := by
  rw [← foldl_erase_keys, List.foldl_map]
  induction fps generalizing s with
  | nil => rfl
  | cons fp fps ih => exact ih _

theorem applyMutationsToState_diff (order : KeyOrder) (state : RouteSyncState) (routes : List (ResolvedRoute api))
    (version : UInt64) :
    applyMutationsToState state (diffMutations own order state routes) version =
      ⟨version, keySet (routePairs routes), keySet (localPairs own routes)⟩ := by
  rw [applyMutationsToState, diffMutations, List.foldl_append, List.foldl_append, record_inserts, record_deletes,
    record_removals]
  refine congrArg₂ (RouteSyncState.mk version) ?_ ?_
  · exact mirror_after order.dummyIp state.dummyIpKeys (routePairs routes)
  · exact mirror_after order.localWorkload state.localWorkloadFps (localPairs own routes)

end Mirror

/-! ### One frame on a healthy kernel -/

section Frame
variable {api : SpiffeApi} {own : api.SpiffeId} {w : RouteWorld} {frame : RouteFrame} {routes : List (ResolvedRoute api)}

/-- The mirror knows the kernel's keys exactly. -/
structure Mirrored (w : RouteWorld) : Prop where
  dummy_ip_keys : w.maps.dummyIpRoute.keys = w.state.dummyIpKeys
  local_keys : w.maps.localWorkloads.keys = w.state.localWorkloadFps

theorem mirrored_empty : Mirrored {} := ⟨rfl, rfl⟩

/-- What the feed makes of a frame at `version`: it is dropped, or accepted with its routes. -/
def acceptRoute (api : SpiffeApi) (version : UInt64) (frame : RouteFrame) : Option (UInt64 × List (ResolvedRoute api)) :=
  if frame.update.version ≤ version then none
  else (frame.update.routes.mapM (resolveRoute api frame.update.version)).toOption.map fun routes =>
    (frame.update.version, routes)

theorem acceptRoute_eq_some {version v : UInt64} :
    acceptRoute api version frame = some (v, routes) ↔
      v = frame.update.version ∧ Accepts api version frame.update routes := by
  unfold acceptRoute Accepts
  by_cases h : frame.update.version ≤ version
  · simp [h, UInt64.not_lt.mpr h]
  · cases frame.update.routes.mapM (resolveRoute api frame.update.version) <;>
      simp [h, UInt64.not_le.mp h, Except.toOption, eq_comm]

theorem routeStep_of_dropped (h : acceptRoute api w.state.currentVersion frame = none) :
    routeStep api own w frame = w := by
  rcases frame_cases api w.state.currentVersion frame.update with hs | ⟨hn, e, he⟩ | ⟨routes, ha⟩
  · rw [routeStep, processRouteUpdate_of_stale hs]
  · rw [routeStep, processRouteUpdate_of_error hn he]
  · rw [acceptRoute_eq_some.mpr ⟨rfl, ha⟩] at h
    cases h

theorem routeStep_mirrored (h : frame.env.Healthy) (hm : Mirrored w)
    (ha : Accepts api w.state.currentVersion frame.update routes) :
    routeStep api own w frame =
      ⟨⟨frame.update.version, keySet (routePairs routes), keySet (localPairs own routes)⟩,
        ⟨(routeTable frame.env.order w routes).2, (localTable own frame.env.order w routes).2⟩⟩ := by
  have fault : frame.env.fault = quietMaps := funext h.fault
  have route_ok : (routeTable frame.env.order w routes).1 = .ok () :=
    (syncTable_ok_iff (fun _ => rfl) fun _ => rfl).mpr fun k hk _ => hm.dummy_ip_keys ▸ hk
  have local_ok : (localTable own frame.env.order w routes).1 = .ok () :=
    (syncTable_ok_iff (fun _ => rfl) fun _ => rfl).mpr fun k hk _ => hm.local_keys ▸ hk
  rw [routeStep, processRouteUpdate_of_accepts ha, h.lock, fault]
  simp only [apply_diff_ok route_ok local_ok, applyMutationsToState_diff]

theorem mirrored_step (h : frame.env.Healthy) (hm : Mirrored w)
    (ha : Accepts api w.state.currentVersion frame.update routes) : Mirrored (routeStep api own w frame) := by
  rw [routeStep_mirrored h hm ha]
  exact ⟨syncTable_keys (fun _ => rfl) (fun _ => rfl) hm.dummy_ip_keys,
    syncTable_keys (fun _ => rfl) (fun _ => rfl) hm.local_keys⟩

end Frame

/-! ### Runs on a healthy kernel: where the routes point -/

section Runs
variable {api : SpiffeApi} {own : api.SpiffeId}

def lastRoute (ip : UInt32) (routes : List (ResolvedRoute api)) : Option (ResolvedRoute api) :=
  lastValue ip (routes.map fun route => (route.dummyIp, route))

/-- The fingerprints that a DUMMY_IP_ROUTE_MAP value carries: destination and target agent. -/
def storedTarget (bytes : Bytes 40) : IdentityFingerprint × IdentityFingerprint :=
  (storedDstFp bytes, storedTargetAgentFp bytes)

/-- The kernel routes as the frame says: the value under each dummy IP of the frame carries the fingerprints of the
    last route with that dummy IP. -/
def Points (routes : List (ResolvedRoute api)) (maps : RouteMaps) : Prop :=
  ∀ ip route, lastRoute ip routes = some route →
    (maps.dummyIpRoute.get (HostOrderIpv4.fromNetwork ip).val).map storedTarget =
      some (route.value.dstFp, route.value.targetAgentFp)

/-- No dummy IP that both frames have moves from the one to the other. -/
def SameTargets (previous routes : List (ResolvedRoute api)) : Prop :=
  ∀ ip route route', lastRoute ip previous = some route → lastRoute ip routes = some route' →
    route.value.dstFp = route'.value.dstFp ∧ route.value.targetAgentFp = route'.value.targetAgentFp

theorem lastValue_routePairs (ip : UInt32) (routes : List (ResolvedRoute api)) :
    lastValue (HostOrderIpv4.fromNetwork ip).val (routePairs routes) =
      (lastRoute ip routes).map fun route => routeValueBytes route.value := by
  rw [lastRoute, ← lastValue_map_inj fromBe_injective, List.map_map]
  rfl

theorem points_iff {routes : List (ResolvedRoute api)} {maps : RouteMaps} :
    Points routes maps ↔ Shows storedTarget (routePairs routes) maps.dummyIpRoute := by
  constructor
  · intro h k v hv
    obtain ⟨ip, rfl⟩ : ∃ ip, k = (HostOrderIpv4.fromNetwork ip).val := ⟨fromBe k, (fromBe_fromBe k).symm⟩
    rw [lastValue_routePairs, Option.map_eq_some_iff] at hv
    obtain ⟨route, hroute, rfl⟩ := hv
    rw [h ip route hroute]
    simp [storedTarget]
  · intro h ip route hroute
    have shown := h _ (routeValueBytes route.value) (by rw [lastValue_routePairs, hroute]; rfl)
    rw [shown]
    simp [storedTarget]

theorem sameTargets_iff {previous routes : List (ResolvedRoute api)} :
    SameTargets previous routes ↔ Agree storedTarget (routePairs previous) (routePairs routes) := by
  constructor
  · intro h k v v' hv hv'
    obtain ⟨ip, rfl⟩ : ∃ ip, k = (HostOrderIpv4.fromNetwork ip).val := ⟨fromBe k, (fromBe_fromBe k).symm⟩
    rw [lastValue_routePairs, Option.map_eq_some_iff] at hv hv'
    obtain ⟨route, hroute, rfl⟩ := hv
    obtain ⟨route', hroute', rfl⟩ := hv'
    obtain ⟨hdst, hagent⟩ := h ip route route' hroute hroute'
    simp [storedTarget, hdst, hagent]
  · intro h ip route route' hroute hroute'
    have agree := h _ (routeValueBytes route.value) (routeValueBytes route'.value)
      (by rw [lastValue_routePairs, hroute]; rfl) (by rw [lastValue_routePairs, hroute']; rfl)
    simpa [storedTarget] using agree

/-- The mirror holds the keys of `previous`, and the kernel routes as `previous` says. -/
structure Holding (own : api.SpiffeId) (previous : List (ResolvedRoute api)) (w : RouteWorld) : Prop where
  mirrored : Mirrored w
  mirror : w.state.dummyIpKeys = keySet (routePairs previous)
  points : Points previous w.maps

theorem holding_empty : Holding own [] {} := ⟨mirrored_empty, rfl, points_iff.mpr (shows_nil _)⟩

/-- An accepted frame leaves the values of the dummy IPs that were there before as they were, so the kernel routes as
    the new frame says exactly when none of them has moved. -/
theorem points_step_iff {w : RouteWorld} {frame : RouteFrame} {previous routes : List (ResolvedRoute api)}
    (h : frame.env.Healthy) (hw : Holding own previous w)
    (ha : Accepts api w.state.currentVersion frame.update routes) :
    Points routes (routeStep api own w frame).maps ↔ SameTargets previous routes := by
  rw [routeStep_mirrored h hw.mirrored ha, points_iff, sameTargets_iff]
  refine shows_iff_agree (points_iff.mp hw.points) fun k => ?_
  rw [← hw.mirror]
  exact syncTable_get (fun _ => rfl) (fun _ => rfl) (fun k hk _ => hw.mirrored.dummy_ip_keys ▸ hk) k

/-- The kernel routes as each accepted frame says once that frame is handled. -/
def PointsOnAccept (api : SpiffeApi) (own : api.SpiffeId) (w : RouteWorld) (frame : RouteFrame) : Prop :=
  ∀ routes, Accepts api w.state.currentVersion frame.update routes → Points routes (routeStep api own w frame).maps

def acceptedRoutes (api : SpiffeApi) (frames : List RouteFrame) : List (List (ResolvedRoute api)) :=
  accepted (acceptRoute api) 0 frames

theorem points_run_iff {frames : List RouteFrame} (healthy : ∀ frame ∈ frames, frame.env.Healthy) :
    Along (routeStep api own) (PointsOnAccept api own) {} frames ↔
      ([] :: acceptedRoutes api frames).IsChain SameTargets := by
  refine Iff.trans (along_congr fun w frame => ?_)
    (along_good_iff_isChain (V := fun w => w.state.currentVersion) (H := Holding own)
      (G := fun routes w => Points routes w.maps) (fun w frame => routeStep_of_dropped)
      (fun previous w frame v routes hw h ha => ?_) (fun previous w frame v routes hw h ha => ?_)
      (fun previous w frame v routes hw h ha hp => ?_) healthy holding_empty)
  · exact ⟨fun h v routes ha => h routes (acceptRoute_eq_some.mp ha).2,
      fun h routes ha => h _ routes (acceptRoute_eq_some.mpr ⟨rfl, ha⟩)⟩
  · obtain ⟨rfl, hacc⟩ := acceptRoute_eq_some.mp ha
    rw [routeStep_mirrored h hw.mirrored hacc]
  · exact points_step_iff h hw (acceptRoute_eq_some.mp ha).2
  · have hacc := (acceptRoute_eq_some.mp ha).2
    refine ⟨mirrored_step h hw.mirrored hacc, ?_, hp⟩
    rw [routeStep_mirrored h hw.mirrored hacc]

theorem isChain_cons_nil {l : List (List (ResolvedRoute api))} :
    ([] :: l).IsChain SameTargets ↔ l.IsChain SameTargets := by
  rw [List.isChain_cons]
  exact and_iff_right fun routes _ ip route route' hroute => (by cases hroute)

/-- In every run from the empty maps on a healthy kernel, the kernel routes as each accepted frame says exactly when no
    dummy IP that two consecutive accepted frames share changes its destination or target agent between them. -/
theorem route_run_points_iff (frames : List RouteFrame) (healthy : ∀ frame ∈ frames, frame.env.Healthy) :
    Along (routeStep api own) (PointsOnAccept api own) {} frames ↔
      (acceptedRoutes api frames).IsChain SameTargets :=
  (points_run_iff healthy).trans isChain_cons_nil

end Runs

/-! ### Sample frames -/

def nodeA : textApi.SpiffeId := "node-a"

/-- The frame that routes 253.0.0.1 to a destination behind the agent `target`. -/
noncomputable def webFrame (target : String) (version : UInt64) : RouteFrame where
  update := {
    routes := [{ destinationSvid := "web", destinationRole := "", targetAgentSvid := target, dummyIp := 0xFD000001 }]
    version := version }
  env := { order := ⟨.arbitrary, .arbitrary⟩ }

theorem webFrames_healthy (a b : String) : ∀ frame ∈ [webFrame a 1, webFrame b 2], frame.env.Healthy := by
  have quiet : ∀ target version, (webFrame target version).env.Healthy := fun _ _ => ⟨rfl, fun _ => rfl⟩
  simp [quiet]

def webRoute (target : String) (version : UInt64) : ResolvedRoute textApi where
  dummyIp := 0xFD000001
  value := ⟨⟨.replicate 16 "web".length.toUInt8⟩, ⟨.replicate 16 target.length.toUInt8⟩, version⟩
  targetAgent := target

theorem webFrame_resolves (target : String) (version : UInt64) :
    (webFrame target version).update.routes.mapM (resolveRoute textApi version) = .ok [webRoute target version] := by
  have role : parseDestinationRole textApi "" = .ok none := if_pos (by decide)
  rw [webFrame, List.mapM_cons, List.mapM_nil, resolveRoute, role]
  rfl

theorem acceptedRoutes_webFrames (a b : String) :
    acceptedRoutes textApi [webFrame a 1, webFrame b 2] = [[webRoute a 1], [webRoute b 2]] := by
  have version : ∀ target version, (webFrame target version).update.version = version := fun _ _ => rfl
  simp [acceptedRoutes, accepted, acceptRoute, version, webFrame_resolves, Except.toOption]

theorem lastRoute_webRoute (target : String) (version : UInt64) :
    lastRoute 0xFD000001 [webRoute target version] = some (webRoute target version) := rfl

theorem route_run_points_of_same : Along (routeStep textApi nodeA) (PointsOnAccept textApi nodeA) {}
    [webFrame "node-a" 1, webFrame "node-a" 2] := by
  rw [route_run_points_iff _ (webFrames_healthy _ _), acceptedRoutes_webFrames, List.isChain_pair]
  intro ip route route' hroute hroute'
  by_cases hip : ip = 0xFD000001
  · subst hip
    rw [lastRoute_webRoute, Option.some.injEq] at hroute hroute'
    subst hroute hroute'
    exact ⟨rfl, rfl⟩
  · have none_there : lastRoute ip [webRoute "node-a" 1] = none := by simp [lastRoute, lastValue, webRoute, Ne.symm hip]
    rw [none_there] at hroute
    cases hroute

/-- The destination moves to another agent: the kernel goes on sending to the old one. -/
theorem route_run_keeps_moved_route : ¬Along (routeStep textApi nodeA) (PointsOnAccept textApi nodeA) {}
    [webFrame "node-a" 1, webFrame "node-bb" 2] := by
  rw [points_run_iff (webFrames_healthy _ _), isChain_cons_nil, acceptedRoutes_webFrames, List.isChain_pair]
  intro same
  have agents := (same _ _ _ (lastRoute_webRoute "node-a" 1) (lastRoute_webRoute "node-bb" 2)).2
  have lengths : "node-a".length.toUInt8 = "node-bb".length.toUInt8 :=
    congrArg (fun fp : IdentityFingerprint => fp.bytes[0]) agents
  exact absurd lengths (by decide)

end FleetosAgent.Routes
