import FleetosAgent.Workloads.Containerd
import FleetosAgent.Workloads.Manager

/-! # Containers on a node

The container path of `workloads/mod.rs` over `ip` and containerd: what `WorkloadManager` leaves to its environment is here
done by the two, and their answers are the environment that the manager runs in. What they hold outlives the agent, which a
restart shows. -/

namespace FleetosAgent.Workloads
open Lib Traced Netns

/-- What the container path reaches outside the manager. -/
structure ContainerHost (ip : IpTool) (containerd : Containerd) where
  net : ip.State
  adapter : ContainerdAdapter containerd

abbrev HostM (ip : IpTool) (containerd : Containerd) := Traced (ContainerHost ip containerd) AgentError

namespace ContainerHost
variable {ip : IpTool} {containerd : Containerd}

def onNet {α : Type} (m : NetM ip α) : HostM ip containerd α := zoom net (fun s h => { h with net := s }) m

def onAdapter {α : Type} (m : ContainerdAdapter.AdapterM containerd α) : HostM ip containerd α :=
  zoom adapter (fun a h => { h with adapter := a }) m

variable (env : ContainerdEnv)

/-- `boot_containerd`. -/
def bootContainerd (spec : WorkloadSpec) (mounts : List PreparedMount) (containerIp gatewayIp : UInt32) :
    HostM ip containerd UInt32 :=
  match spec.podSpec with
  | none => fail (.workload "containerd boot requires full PodSpec")
  | some podSpec => do
    let podId := podSpec.podId.getD spec.workloadId
    let ns ← onNet (createNetns podId)
    match ← attempt (onNet (configureNetns podId containerIp gatewayIp)) with
    | .error e => do
      onNet (Netns.destroyNetns podId)
      fail e
    | .ok _ =>
      match ← attempt (onAdapter (ContainerdAdapter.boot env spec mounts ns)) with
      | .ok pid => return pid
      | .error e => do
        onNet (Netns.destroyNetns podId)
        fail e

/-- The container branch of `evict_pod`: stop, and destroy the namespace of a pod with a source IP. -/
def evictContainer (podId : String) (sourced : Bool) : HostM ip containerd Unit := do
  onAdapter (ContainerdAdapter.stop env podId)
  when sourced (onNet (Netns.destroyNetns podId))

end ContainerHost

/-! ### The node -/

section Reservation
variable {api : SpiffeApi} (cfg : ManagerConfig api) (env : BootEnv api)

/-- `boot_pod` up to the runtime. -/
def bootReservation (spec : WorkloadSpec) :
    Manager api (PodSpec × List PreparedMount × IdentityFingerprint × Reservation) := do
  let podSpec ← orFail spec.podSpec (.workload "boot requires full PodSpec")
  let podId := podSpec.podId.getD spec.workloadId
  let mounts ← ofExcept (prepareMounts env.fs cfg.volumeConfig podId podSpec.volumes podSpec.volumeMounts)
  let fp ← ofExcept (workloadFingerprint api cfg.trustDomain podSpec.tenantId spec.workloadId spec.role)
  requestDelegatedKey cfg env podSpec spec.workloadId
  let reservation ← reservePair cfg env podId spec.workloadId fp
  return (podSpec, mounts, fp, reservation)

end Reservation

structure ContainerNode (api : SpiffeApi) (ip : IpTool) (containerd : Containerd) where
  world : World api
  host : ContainerHost ip containerd

/-- One operation on a node: of the manager, of the hosts watch, or a restart of the agent, which then has the pool of its
    configuration. -/
inductive NodeOp (api : SpiffeApi) where
  | boot (spec : WorkloadSpec) (env : BootEnv api) (adapter : ContainerdEnv)
  | evict (podId : String) (env : EvictEnv) (adapter : ContainerdEnv)
  | setHosts (content : String)
  | restart (ips : NodeIpAllocator)

namespace ContainerNode
variable {api : SpiffeApi} {ip : IpTool} {containerd : Containerd} (cfg : ManagerConfig api)
  (n : ContainerNode api ip containerd)

/-- What `ip` answers to a deletion of the namespace that left the host like this. -/
def netnsDelAnswer (after : ContainerHost ip containerd) (podId : String) : Option AgentError :=
  if ip.pathExists after.net (netnsPath podId) then some (.workload "ip netns del failed") else none

/-- The environment of a boot with the host's answers filled in, and the host after the boot. A boot that ends before the
    runtime, or in another runtime, does not reach the host. -/
def answerBoot (spec : WorkloadSpec) (env : BootEnv api) (adapter : ContainerdEnv) :
    BootEnv api × ContainerHost ip containerd :=
  match spec.runtime, (bootReservation cfg env spec n.world).result with
  | .containerd, .ok (_, mounts, _, reservation) =>
    let podId := spec.effectiveId
    let created := ContainerHost.onNet (createNetns podId) n.host
    let configured := ContainerHost.onNet (configureNetns podId reservation.wlIp reservation.gwIp) created.final
    let booted := ContainerHost.onAdapter (ContainerdAdapter.boot adapter spec mounts (netnsPath podId)) configured.final
    let after := (ContainerHost.bootContainerd adapter spec mounts reservation.wlIp reservation.gwIp n.host).final
    ({ env with
        netnsAdd := errorOf created.result
        configureNetns := errorOf configured.result
        containerdBoot := booted.result
        netnsDel := netnsDelAnswer after podId }, after)
  | _, _ => (env, n.host)

/-- The same for an eviction, which reaches the host if the pod is on record as a container. -/
def answerEvict (podId : String) (env : EvictEnv) (adapter : ContainerdEnv) : EvictEnv × ContainerHost ip containerd :=
  match n.world.pods.getPod podId with
  | some pod =>
    if pod.runtime = .containerd then
      let after := (ContainerHost.evictContainer adapter podId (n.world.podSourceIps.get podId).isSome n.host).final
      ({ env with
          stop := errorOf (ContainerHost.onAdapter (ContainerdAdapter.stop adapter podId) n.host).result
          netnsDel := netnsDelAnswer after podId }, after)
    else (env, n.host)
  | none => (env, n.host)

/-- What `boot_pod` returns. -/
def bootResult (spec : WorkloadSpec) (env : BootEnv api) (adapter : ContainerdEnv) : Except AgentError UInt32 :=
  (bootPod cfg (n.answerBoot cfg spec env adapter).1 spec n.world).result

def step : NodeOp api → ContainerNode api ip containerd
  | .boot spec env adapter =>
    { world := (bootPod cfg (n.answerBoot cfg spec env adapter).1 spec n.world).final
      host := (n.answerBoot cfg spec env adapter).2 }
  | .evict podId env adapter =>
    { world := (evictPod cfg (n.answerEvict podId env adapter).1 podId n.world).final
      host := (n.answerEvict podId env adapter).2 }
  | .setHosts content => { n with host := { n.host with adapter := n.host.adapter.setHostsContent content } }
  | .restart ips =>
    { world := { ips := ips, netns := n.world.netns, running := n.world.running }
      host := { n.host with adapter := { n.host.adapter with hostsContent := "", connected := false } } }

end ContainerNode

end FleetosAgent.Workloads
