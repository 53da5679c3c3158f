import FleetosAgent.Theorems.ManagerSteps
import FleetosAgent.Theorems.RouteSync

/-! # Keys of the maps that are keyed by an address

The kernel looks an address up under `lookupKey`. The agent writes DUMMY_IP_ROUTE_MAP from a frame's `dummy_ip`, and
SRC_IDENTITY_MAP and POD_NET_COUNTERS from the allocator's address; all of these are canonical values. -/

namespace FleetosAgent
open Lib Traced Routes Workloads

/-- After a frame DUMMY_IP_ROUTE_MAP has the keys of its routes: the canonical values of their dummy IPs, converted. -/
theorem routeStep_keys {api : SpiffeApi} {own : api.SpiffeId} {w : RouteWorld} {frame : RouteFrame}
    {routes : List (ResolvedRoute api)} (healthy : frame.env.Healthy) (mirrored : Mirrored w)
    (ha : Accepts api w.state.currentVersion frame.update routes) :
    (routeStep api own w frame).maps.dummyIpRoute.keys = (routes.map fun route => route.hostOrderIp.val).toFinset := by
  rw [(mirrored_step healthy mirrored ha).dummy_ip_keys, routeStep_mirrored healthy mirrored ha, keySet, routePairs,
    List.map_map]
  rfl

theorem hostOrderIp_eq_lookupKey_iff {api : SpiffeApi} {route : ResolvedRoute api} {o : Octets}
    (hip : route.dummyIp = fromBeBytes o) : route.hostOrderIp.val = (lookupKey o).val ↔ o.reverse = o := by
  rw [ResolvedRoute.hostOrderIp, hip, ← fromNetwork_fromBeBytes_eq_lookupKey_iff]
  exact ⟨congrArg HostOrderIpv4.mk, congrArg HostOrderIpv4.val⟩

/-- A boot that returns has registered the workload IP, and pre-populated its counters, under the IP as allocated. -/
theorem bootPod_registers {api : SpiffeApi} {cfg : ManagerConfig api} {env : BootEnv api} {spec : WorkloadSpec}
    {w : World api} {gw wl : UInt32} {ips : NodeIpAllocator} (hreg : cfg.srcIdentity = true)
    (hcount : (cfg.ebpfManager && !env.ebpfLockPoisoned && env.prepopulate.isNone) = true)
    (halloc : w.ips.allocateP2pPair spec.effectiveId = .ok ((gw, wl), ips)) :
    wp (fun _ => True) (bootPod cfg env spec)
      (fun _ t => (∃ fp, t.srcIdentity = w.srcIdentity.insert wl fp) ∧ t.podNetCounters = w.podNetCounters.insert wl {})
      (fun _ _ => True) w := by
  refine wp_bootPod (fun _ => trivial) (fun _ _ => trivial) fun podSpec fp mounts k hspec _ _ => ?_
  refine wp_reservePair hreg (fun _ _ => trivial) (fun _ _ _ _ => trivial)
    (fun _ _ _ _ _ _ => ⟨trivial, fun _ => trivial⟩) ?_
  intro gw' wl' ips' hok _
  obtain ⟨⟨rfl, rfl⟩, rfl⟩ : (gw = gw' ∧ wl = wl') ∧ ips = ips' := by
    simpa only [Except.ok.injEq, Prod.mk.injEq] using halloc.symm.trans hok
  refine ⟨trivial, trivial, ?_⟩
  refine (bootRuntime_steps hspec).mono (fun _ _ => trivial) (fun handle t ht => ?_) (fun e t _ => ?_)
  · refine wp_recordPod trivial (fun _ => trivial) ⟨⟨fp, congrArg Books.srcIdentity ht.1⟩, ?_⟩
    exact (congrArg Books.podNetCounters ht.1).trans (if_pos hcount)
  · exact wp_cancelReservation trivial trivial trivial

/-- The key for an address is the kernel's in SRC_IDENTITY_MAP and POD_NET_COUNTERS; in DUMMY_IP_ROUTE_MAP, for each route
    of an accepted frame, it is the kernel's exactly for addresses that read the same in both directions. -/
theorem map_key_eq_lookupKey (o : Octets) :
    (∀ (api : SpiffeApi) (own : api.SpiffeId) (w : RouteWorld) (frame : RouteFrame) (routes : List (ResolvedRoute api)),
      frame.env.Healthy → Mirrored w → Accepts api w.state.currentVersion frame.update routes →
      (routeStep api own w frame).maps.dummyIpRoute.keys = (routes.map fun route => route.hostOrderIp.val).toFinset ∧
      ∀ route ∈ routes, route.dummyIp = fromBeBytes o → (route.hostOrderIp.val = (lookupKey o).val ↔ o.reverse = o)) ∧
    ∀ (api : SpiffeApi) (cfg : ManagerConfig api) (env : BootEnv api) (spec : WorkloadSpec) (w : World api) (gw : UInt32)
      (ips : NodeIpAllocator) (handle : UInt32), cfg.srcIdentity = true →
      (cfg.ebpfManager && !env.ebpfLockPoisoned && env.prepopulate.isNone) = true →
      w.ips.allocateP2pPair spec.effectiveId = .ok ((gw, fromBeBytes o), ips) →
      (bootPod cfg env spec w).result = .ok handle →
      (∃ fp, (bootPod cfg env spec w).final.srcIdentity = w.srcIdentity.insert (lookupKey o).val fp) ∧
        (bootPod cfg env spec w).final.podNetCounters = w.podNetCounters.insert (lookupKey o).val {} := by
  constructor
  · intro api own w frame routes healthy mirrored ha
    exact ⟨routeStep_keys healthy mirrored ha, fun route _ hip => hostOrderIp_eq_lookupKey_iff hip⟩
  · intro api cfg env spec w gw ips handle hreg hcount halloc hok
    rw [lookupKey_val]
    exact (bootPod_registers hreg hcount halloc).of_ok hok

/-- The kernel finds the first workload of 10.0.0.0/28 under the key that its boot registers. -/
theorem map_key_eq_lookupKey_of_boot :
    (∃ fp, (bootPod sampleConfig sampleBoot (sampleSpec "web" .containerd) { ips := samplePool }).final.srcIdentity =
      FinMap.insert ∅ (lookupKey #v[10, 0, 0, 2]).val fp) ∧
    (bootPod sampleConfig sampleBoot (sampleSpec "web" .containerd) { ips := samplePool }).final.podNetCounters =
      FinMap.insert ∅ (lookupKey #v[10, 0, 0, 2]).val {} :=
  (map_key_eq_lookupKey #v[10, 0, 0, 2]).2 textApi sampleConfig sampleBoot (sampleSpec "web" .containerd)
    { ips := samplePool } 0x0A000001 (samplePool.takeNext "web" (by decide)) 0 rfl rfl rfl rfl

/-- The route of 253.0.0.1 is stored under 1.0.0.253. -/
theorem route_key_swapped :
    ¬∀ (o : Octets) (frame : RouteFrame) (route : ResolvedRoute textApi), frame.env.Healthy →
      Accepts textApi 0 frame.update [route] → route.dummyIp = fromBeBytes o →
      (routeStep textApi nodeA {} frame).maps.dummyIpRoute.keys = {(lookupKey o).val} := by
  intro h
  have healthy : (webFrame "node-a" 1).env.Healthy := webFrames_healthy "node-a" "node-a" _ (List.mem_cons_self ..)
  have accepts : Accepts textApi 0 (webFrame "node-a" 1).update [webRoute "node-a" 1] :=
    ⟨by decide, webFrame_resolves "node-a" 1⟩
  have address : (webRoute "node-a" 1).dummyIp = fromBeBytes #v[253, 0, 0, 1] := by decide
  have key := h #v[253, 0, 0, 1] (webFrame "node-a" 1) (webRoute "node-a" 1) healthy accepts address
  rw [routeStep_keys healthy mirrored_empty accepts, List.map_singleton, List.toFinset_cons, List.toFinset_nil,
    insert_empty_eq, Finset.singleton_inj, hostOrderIp_eq_lookupKey_iff address] at key
  exact absurd key (by simp)

end FleetosAgent
