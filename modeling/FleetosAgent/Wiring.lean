import FleetosAgent.Policy.Sync
import FleetosAgent.Routes.Table
import FleetosAgent.Workloads.ProbeLoop

/-! # Wiring

`wiring.rs`: the loops behind WatchSag and WatchRoutes. A turn of a loop handles one frame in two sections: it brings the
eBPF maps and the consumers of the frame up to date, and then, under the lock of the pod table, the readiness gates of the
pods (Ruling D). Other tasks may run between the two. -/

namespace FleetosAgent.Wiring
open Workloads Routes Policy

/-! ### The gates of the pods -/

/-- A pod is router-connected iff every route that names it as a source is routed (`dummy_ip` ≠ 0). -/
def routerConnected (api : SpiffeApi) (routes : List Routes.RouteEntry) (trustDomain : String) (pod : Pod) : Bool :=
  let podSpiffe := api.display (api.new trustDomain pod.tenantId .sa pod.workloadId)
  let myRoutes := routes.filter fun r => r.sourceSpiffeIds.any (· = podSpiffe)
  -- The source treats "no outbound dependencies" as a case of its own.
  if myRoutes.isEmpty then true else myRoutes.all fun r => r.dummyIp ≠ 0

def reevaluateRouterConnected (api : SpiffeApi) (pm : PodManager) (routes : List Routes.RouteEntry)
    (trustDomain : String) : PodManager :=
  pm.modifyAll (fun pod => { pod with routerConnected := routerConnected api routes trustDomain pod }) fun _ => rfl

def markAllPodsPolicyEnforced (pm : PodManager) : PodManager :=
  pm.modifyAll (fun pod => { pod with policyEnforced := true }) fun _ => rfl

/-! ### What a route frame gives to the runtimes -/

/-- `DummyIpRouteConfig` of `fleetos_core::vsock_proto`. -/
structure DummyIpRouteConfig where
  dummyIp : Octets
  service : String
  role : String
  tenant : String
  deriving DecidableEq

section Frame
variable (api : SpiffeApi)

/-- Convert a RouteEntry for the MicroVM config push; `none` if its destination does not parse. -/
def routeToDummyIpConfig (entry : RouteEntry) : Option DummyIpRouteConfig :=
  match api.parse entry.destinationSvid with
  | .error _ => none
  | .ok spiffe => some {
      dummyIp := toBeBytes entry.dummyIp
      service := api.name spiffe
      role := entry.destinationRole
      tenant := api.tenant spiffe }

/-- The argument of `set_dummy_ip_routes`: entries whose destination does not parse are skipped. -/
def dummyRoutes (update : RouteUpdate) : List DummyIpRouteConfig := update.routes.filterMap (routeToDummyIpConfig api)

def hostsLine (cfg : DummyIpRouteConfig) : String :=
  s!"{dottedQuad cfg.dummyIp} {cfg.service}.{cfg.tenant}"

/-- The argument of `set_hosts_content`. -/
def hostsContent (update : RouteUpdate) : String :=
  "\n".intercalate ("127.0.0.1 localhost" :: (dummyRoutes api update).map hostsLine) ++ "\n"

end Frame

/-! ### `run_routes_watch`, up to the gates -/

structure RoutesWatch where
  routes : RouteWorld := {}
  /-- `WorkloadConfigBuilder::dummy_ip_routes`. -/
  dummyIpRoutes : List DummyIpRouteConfig := []
  /-- `ContainerdAdapter::hosts_content`; `main` starts it empty. -/
  hostsContent : String := ""

/-- One frame: the consumers get their part of it first, then the maps and the mirror are brought up to date, as far as the
    frame gets. -/
def routesWatchStep (api : SpiffeApi) (ownNodeSpiffeId : api.SpiffeId) (w : RoutesWatch) (frame : RouteFrame) :
    RoutesWatch where
  dummyIpRoutes := dummyRoutes api frame.update
  hostsContent := hostsContent api frame.update
  routes := routeStep api ownNodeSpiffeId w.routes frame

/-- Whether the loop goes on to the gates: the mutations were computed, the lock taken and every operation succeeded. -/
def routeApplied (api : SpiffeApi) (ownNodeSpiffeId : api.SpiffeId) (w : RouteWorld) (frame : RouteFrame) : Bool :=
  match processRouteUpdate api ownNodeSpiffeId frame.env.order w.state frame.update, frame.env.lockPoisoned with
  | .ok (some mutations), none => (applyMutationsToMaps frame.env.fault mutations w.maps).1.isOk
  | _, _ => false

/-! ### The tasks that share the pod table -/

/-- What the watch loops and the pod table hold. `marking` and `reevaluating`: the loop of WatchSag, respectively of
    WatchRoutes, has finished the first section of a turn and waits for the lock of the pod table. -/
structure AgentWorld where
  policy : PolicyWorld := {}
  watch : RoutesWatch := {}
  pods : PodManager := .new
  marking : Bool := false
  reevaluating : Option (List RouteEntry) := none

/-- One section of one task. -/
inductive AgentEvent (c : PolicyCompiler) where
  | sagFrame (frame : SagFrame c)
  | markPods
  | routeFrame (frame : RouteFrame)
  | reevaluatePods
  /-- `boot_pod` adds the record of a pod it has booted. -/
  | boot (podId workloadId tenantId role : String) (runtime : RuntimeKind) (fingerprint : IdentityFingerprint)
      (handle : UInt32)
  /-- `evict_pod` begins the eviction of a pod, and later removes its record. -/
  | beginEviction (podId : String)
  | removePod (podId : String)
  /-- The probe loop processes a result. -/
  | probeResult (result : ProbeTickResult)

structure AgentConfig (api : SpiffeApi) where
  trustDomain : String
  dataTrustDomain : String
  ownNodeSpiffeId : api.SpiffeId
  probes : ProbeLoopConfig := {}

section Agent
variable {api : SpiffeApi} (c : PolicyCompiler) (config : AgentConfig api)

/-- A loop takes its next frame only once it is done with the one before. -/
def agentStep (w : AgentWorld) : AgentEvent c → AgentWorld
  | .sagFrame frame =>
    if w.marking then w
    else
      let (result, policy) := syncPolicy c config.dataTrustDomain w.policy frame.update frame.env
      { w with policy := policy, marking := result.isOk }
  | .markPods => if w.marking then { w with pods := markAllPodsPolicyEnforced w.pods, marking := false } else w
  | .routeFrame frame =>
    if w.reevaluating.isSome then w
    else { w with
      watch := routesWatchStep api config.ownNodeSpiffeId w.watch frame
      reevaluating := if routeApplied api config.ownNodeSpiffeId w.watch.routes frame then some frame.update.routes
        else none }
  | .reevaluatePods =>
    match w.reevaluating with
    | some routes =>
      { w with pods := reevaluateRouterConnected api w.pods routes config.trustDomain, reevaluating := none }
    | none => w
  | .boot podId workloadId tenantId role runtime fingerprint handle =>
    { w with pods := w.pods.addPod (.booted podId workloadId tenantId role runtime fingerprint handle) }
  | .beginEviction podId => { w with pods := w.pods.modifyPod podId Pod.beginEviction Pod.beginEviction_podId }
  | .removePod podId => { w with pods := w.pods.removePod podId }
  | .probeResult result => { w with pods := (processProbeResult config.probes w.pods result).1 }

end Agent

end FleetosAgent.Wiring
