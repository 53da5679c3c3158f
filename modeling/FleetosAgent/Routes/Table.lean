import FleetosAgent.Spiffe
import FleetosAgent.Lib.MirrorSync

/-! # Route table

`routes/table.rs`: every `RouteUpdate` frame is full state (Ruling B). The agent computes the desired route set,
diffs it against the tracked keys and produces one list of mutations for DUMMY_IP_ROUTE_MAP and
LOCAL_WORKLOADS. -/

namespace FleetosAgent.Routes
open Lib

structure RouteEntry where
  destinationSvid : String
  destinationRole : String
  targetAgentSvid : String
  dummyIp : UInt32
  sourceSpiffeIds : List String := []

structure RouteUpdate where
  routes : List RouteEntry
  version : UInt64

/-- Tracks the current state of routes in the eBPF maps: the userspace mirror. -/
structure RouteSyncState where
  currentVersion : UInt64
  dummyIpKeys : Finset UInt32
  localWorkloadFps : Finset IdentityFingerprint

def RouteSyncState.new : RouteSyncState where
  currentVersion := 0
  dummyIpKeys := ∅
  localWorkloadFps := ∅

inductive RouteMutation where
  | insertRoute (key : HostOrderIpv4) (value : DummyIpRouteValue)
  | deleteRoute (key : HostOrderIpv4)
  | addLocalWorkload (fingerprint : IdentityFingerprint)
  | removeLocalWorkload (fingerprint : IdentityFingerprint)
  deriving DecidableEq

structure KeyOrder where
  dummyIp : Enumeration UInt32
  localWorkload : Enumeration IdentityFingerprint

section Process
variable (api : SpiffeApi)

/-- A route entry with its three identities parsed: the dummy IP, the map value and the target agent. -/
structure ResolvedRoute where
  dummyIp : UInt32
  value : DummyIpRouteValue
  targetAgent : api.SpiffeId

/-- CR-3: the canonical IPv4 value, converted for the map key. -/
def ResolvedRoute.hostOrderIp {api : SpiffeApi} (route : ResolvedRoute api) : HostOrderIpv4 :=
  .fromNetwork route.dummyIp

def parseDestinationRole (destinationRole : String) : Except AgentError (Option api.WorkloadRole) :=
  if destinationRole.isEmpty then .ok none
  else ((api.roleTryFrom destinationRole).map some).mapError fun e =>
    .policy s!"invalid destination_role '{destinationRole}': {e}"

/-- Parse one entry; the first field that does not parse ends it. -/
def resolveRoute (version : UInt64) (entry : RouteEntry) : Except AgentError (ResolvedRoute api) := do
  let dstSpiffe ← (api.parse entry.destinationSvid).mapError fun e =>
    .policy s!"invalid destination_svid '{entry.destinationSvid}': {e}"
  let dstRole ← parseDestinationRole api entry.destinationRole
  let targetAgentSpiffe ← (api.parse entry.targetAgentSvid).mapError fun e =>
    .policy s!"invalid target_agent_svid '{entry.targetAgentSvid}': {e}"
  -- Rule #1: fingerprints via `IdentityFingerprint::of`, never `of_with_ordinal`.
  let dstFp := api.fingerprintOf dstSpiffe dstRole
  let targetAgentFp := api.fingerprintOf targetAgentSpiffe none
  return ⟨entry.dummyIp, ⟨dstFp, targetAgentFp, version⟩, targetAgentSpiffe⟩

structure Collected where
  mutations : List RouteMutation := []
  desiredDummyIpKeys : Finset UInt32 := ∅
  desiredLocalFps : Finset IdentityFingerprint := ∅

variable (ownNodeSpiffeId : api.SpiffeId)

/-- One turn of the loop, for an entry that parsed. -/
def collectRoute (state : RouteSyncState) (acc : Collected) (route : ResolvedRoute api) : Collected :=
  let acc := { acc with
    desiredDummyIpKeys := insert route.hostOrderIp.val acc.desiredDummyIpKeys
    mutations := if route.hostOrderIp.val ∉ state.dummyIpKeys then
        acc.mutations ++ [.insertRoute route.hostOrderIp route.value]
      else acc.mutations }
  if route.targetAgent = ownNodeSpiffeId then
    { acc with
      desiredLocalFps := insert route.value.dstFp acc.desiredLocalFps
      mutations := if route.value.dstFp ∉ state.localWorkloadFps then
          acc.mutations ++ [.addLocalWorkload route.value.dstFp]
        else acc.mutations }
  else acc

def collectEntry (state : RouteSyncState) (version : UInt64) (acc : Collected) (entry : RouteEntry) :
    Except AgentError Collected := do
  let route ← resolveRoute api version entry
  return collectRoute api ownNodeSpiffeId state acc route

/-- Process a `RouteUpdate` and compute the mutations needed. `none` if the update is stale (version ≤ current). -/
def processRouteUpdate (order : KeyOrder) (state : RouteSyncState) (update : RouteUpdate) :
    Except AgentError (Option (List RouteMutation)) :=
  if update.version ≤ state.currentVersion then .ok none
  else
    match update.routes.foldlM (collectEntry api ownNodeSpiffeId state update.version) {} with
    | .error e => .error e
    | .ok acc => .ok (some (acc.mutations ++
        ((order.dummyIp.list state.dummyIpKeys).filter (· ∉ acc.desiredDummyIpKeys)).map (fun key => .deleteRoute ⟨key⟩) ++
        ((order.localWorkload.list state.localWorkloadFps).filter (· ∉ acc.desiredLocalFps)).map .removeLocalWorkload))

end Process

def recordMutation (state : RouteSyncState) : RouteMutation → RouteSyncState
  | .insertRoute key _ => { state with dummyIpKeys := insert key.val state.dummyIpKeys }
  | .deleteRoute key => { state with dummyIpKeys := state.dummyIpKeys.erase key.val }
  | .addLocalWorkload fingerprint => { state with localWorkloadFps := insert fingerprint state.localWorkloadFps }
  | .removeLocalWorkload fingerprint => { state with localWorkloadFps := state.localWorkloadFps.erase fingerprint }

/-- Apply mutations to the sync state after they've been applied to the eBPF maps. -/
def applyMutationsToState (state : RouteSyncState) (mutations : List RouteMutation) (newVersion : UInt64) :
    RouteSyncState :=
  { mutations.foldl recordMutation state with currentVersion := newVersion }

structure RouteMaps where
  dummyIpRoute : FinMap UInt32 (Bytes 40) := ∅
  localWorkloads : FinMap IdentityFingerprint UInt8 := ∅

/-- One map operation; the environment may make it fail with the error text `fault`. -/
def applyMutation (fault : Option String) (mutation : RouteMutation) (maps : RouteMaps) : Except AgentError RouteMaps :=
  match mutation, fault with
  | .insertRoute .., some e => .error (.ebpf s!"DUMMY_IP_ROUTE_MAP insert: {e}")
  | .insertRoute key value, none =>
    .ok { maps with dummyIpRoute := maps.dummyIpRoute.insert key.val (routeValueBytes value) }
  | .deleteRoute .., some e => .error (.ebpf s!"DUMMY_IP_ROUTE_MAP remove: {e}")
  | .deleteRoute key, none =>
    if key.val ∈ maps.dummyIpRoute.keys then .ok { maps with dummyIpRoute := maps.dummyIpRoute.remove key.val }
    else .error (.ebpf s!"DUMMY_IP_ROUTE_MAP remove: {absentKey}")
  | .addLocalWorkload .., some e => .error (.ebpf s!"LOCAL_WORKLOADS insert: {e}")
  | .addLocalWorkload fingerprint, none =>
    .ok { maps with localWorkloads := maps.localWorkloads.insert fingerprint 1 }
  | .removeLocalWorkload .., some e => .error (.ebpf s!"LOCAL_WORKLOADS remove: {e}")
  | .removeLocalWorkload fingerprint, none =>
    if fingerprint ∈ maps.localWorkloads.keys then
      .ok { maps with localWorkloads := maps.localWorkloads.remove fingerprint }
    else .error (.ebpf s!"LOCAL_WORKLOADS remove: {absentKey}")

def applyMutationsToMaps (fault : Nat → Option String) : List RouteMutation → RouteMaps → Except AgentError Unit × RouteMaps
  | [], maps => (.ok (), maps)
  | mutation :: rest, maps =>
    match applyMutation (fault 0) mutation maps with
    | .error e => (.error e, maps)
    | .ok maps => applyMutationsToMaps (fun n => fault (n + 1)) rest maps

/-! ### The part of `run_routes_watch` that keeps the maps -/

structure RouteWorld where
  state : RouteSyncState := .new
  maps : RouteMaps := {}

structure RouteEnv where
  order : KeyOrder
  lockPoisoned : Option String := none
  fault : Nat → Option String := fun _ => none

/-- The kernel is healthy: an insert succeeds, and a remove succeeds iff the key is present. -/
structure RouteEnv.Healthy (env : RouteEnv) : Prop where
  lock : env.lockPoisoned = none
  fault : Lib.Healthy env.fault

structure RouteFrame where
  update : RouteUpdate
  env : RouteEnv

/-- Process the update, apply the mutations to the maps and then to the state; a frame that is stale, does not parse,
    finds the lock poisoned or fails to apply ends early, with the maps as they are by then. -/
def routeStep (api : SpiffeApi) (ownNodeSpiffeId : api.SpiffeId) (w : RouteWorld) (frame : RouteFrame) : RouteWorld :=
  match processRouteUpdate api ownNodeSpiffeId frame.env.order w.state frame.update with
  | .error _ => w
  | .ok none => w
  | .ok (some mutations) =>
    match frame.env.lockPoisoned with
    | some _ => w
    | none =>
      match applyMutationsToMaps frame.env.fault mutations w.maps with
      | (.error _, maps) => { w with maps := maps }
      | (.ok _, maps) => ⟨applyMutationsToState w.state mutations frame.update.version, maps⟩

end FleetosAgent.Routes
