import FleetosAgent.Workloads.Manager

/-! # Hosting and delegated keys

What decides which SVIDs a node can issue: the pods it records, the contexts that are registered for the CIDs of its guests,
and the delegated keys. `boot_pod` and `evict_pod` write to these tables in single lock sections, between which the refresh
loop and the handshakes of the guests run. -/

namespace FleetosAgent.Workloads
open Lib Identity

/-- What the requests for delegated keys are made with: by the manager when it boots a pod, and by the refresh loop. -/
structure HostConfig (api : SpiffeApi) where
  trustDomain : String
  delegation : Delegation api
  loop : RefreshLoop api

structure HostState (api : SpiffeApi) where
  pods : PodManager := .new
  contexts : FinMap UInt32 WorkloadContext := ∅
  keys : DelegatedKeyManager api := {}
  refresh : RefreshState api := {}

inductive HostEvent (api : SpiffeApi) where
  /-- `boot_pod`: control has answered the request for the workload's key. -/
  | keyAnswered (workloadId : String) (podSpec : PodSpec) (control : Control api)
  /-- `boot_pod`: the context of the guest is registered, before the VM boots. -/
  | registered (cid : UInt32) (context : WorkloadContext)
  /-- The boot failed, or the pod was stopped. -/
  | unregistered (cid : UInt32)
  /-- `boot_pod`: the pod is recorded. -/
  | recorded (pod : Pod)
  /-- `evict_pod`: the pod is Terminating. -/
  | evicting (podId : String)
  /-- `evict_pod`: the record is removed, the last step of a successful eviction. -/
  | removed (podId : String)
  | refresh (event : RefreshEvent api)

section
variable {api : SpiffeApi} (cfg : HostConfig api)

/-- The id for which the boot of a workload requests a key. -/
def HostConfig.bootId (workloadId : String) (podSpec : PodSpec) : api.SpiffeId :=
  api.new cfg.trustDomain podSpec.tenantId .sa workloadId

def hostStep (s : HostState api) : HostEvent api → HostState api
  | .keyAnswered workloadId podSpec control =>
    { s with keys := (requestAndInstall control s.keys cfg.delegation.nodeSpiffeId (cfg.bootId workloadId podSpec)
        podSpec.ordinal cfg.delegation.ttlSecs).2 }
  | .registered cid context => { s with contexts := s.contexts.insert cid context }
  | .unregistered cid => { s with contexts := s.contexts.remove cid }
  | .recorded pod => { s with pods := s.pods.addPod pod }
  | .evicting podId => { s with pods := s.pods.modifyPod podId Pod.beginEviction Pod.beginEviction_podId }
  | .removed podId => { s with pods := s.pods.removePod podId }
  | .refresh event =>
    let (keys, refresh) := cfg.loop.step s.keys s.refresh event
    { s with keys := keys, refresh := refresh }

/-- The node after a run of events from an empty one. -/
def hostAfter (events : List (HostEvent api)) : HostState api := events.foldl (hostStep cfg) {}

end

/-- The tables of a node, with the refresh loop at `refresh`. -/
def World.host {api : SpiffeApi} (w : World api) (refresh : RefreshState api) : HostState api :=
  ⟨w.pods, w.workloadContexts, w.delegatedKeys, refresh⟩

/-! ### A small node with delegation -/

/-- A control that answers every request as it is asked. -/
def textControl : Control textApi := fun request => .ok (⟨request.targetSpiffeId, request.targetOrdinal, 0, 14400⟩, [])

def delegatingConfig : ManagerConfig textApi := { sampleConfig with delegation := some { nodeSpiffeId := "node" } }

def delegatingBoot : BootEnv textApi := { sampleBoot with delegatedKey := textControl }

end FleetosAgent.Workloads
