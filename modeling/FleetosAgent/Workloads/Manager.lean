import FleetosAgent.Workloads.Reconciler
import FleetosAgent.Workloads.Runtime
import Mathlib.Data.String.Basic

/-! # Workload manager

`WorkloadManager` of `workloads/mod.rs`: booting and evicting single pods, and the reconcile loop over them. Each write to
a table is one step of the program, so that its intermediate states are states of the model. -/

namespace FleetosAgent.Workloads
open Lib Identity Traced

/-- Compute a workload's canonical identity fingerprint (Rule #1: `IdentityFingerprint::of` only). -/
def workloadFingerprint (api : SpiffeApi) (trustDomain tenantId workloadId role : String) :
    Except AgentError IdentityFingerprint := do
  let spiffe := api.new trustDomain tenantId .sa workloadId
  let workloadRole ← (api.roleTryFrom role).mapError fun e => .workload s!"invalid workload role {role.quote}: {e}"
  return api.fingerprintOf spiffe (some workloadRole)

/-- `oci_to_erofs`: the expected path of the pre-built image. -/
def ociToErofs (image : String) (cacheDir : OsPath) : OsPath :=
  let sanitized := image.map fun c => if c = '/' ∨ c = ':' ∨ c = '@' then '_' else c
  cacheDir.join (sanitized ++ ".erofs")

def tapInterface (vsockCid : UInt32) : String := s!"vmtap{vsockCid}"

section Boot
variable {api : SpiffeApi} (cfg : ManagerConfig api) (env : BootEnv api)

def orFail {α : Type} (x : Option α) (e : AgentError) : Manager api α :=
  match x with
  | some a => pure a
  | none => fail e

/-! ### Seams -/

def registerSource (fault : Option String) (sourceIp : HostOrderIpv4) (fingerprint : IdentityFingerprint) :
    Manager api Unit :=
  match fault with
  | some e => fail (.ebpf s!"SRC_IDENTITY_MAP insert: {e}")
  | none => modify fun w => { w with srcIdentity := w.srcIdentity.insert sourceIp.val fingerprint }

def unregisterSource (fault : Option String) (sourceIp : HostOrderIpv4) : Manager api Unit :=
  match fault with
  | some e => fail (.ebpf s!"SRC_IDENTITY_MAP remove: {e}")
  | none => do
    let w ← get
    if sourceIp.val ∈ w.srcIdentity.keys then modify fun w => { w with srcIdentity := w.srcIdentity.remove sourceIp.val }
    else fail (.ebpf s!"SRC_IDENTITY_MAP remove: {absentKey}")

def armGuard (fault : Option AgentError) (interface : String) : Manager api Unit :=
  match fault with
  | some e => fail e
  | none => modify fun w => { w with armed := insert interface w.armed }

def disarmGuard (fault : Option AgentError) (interface : String) : Manager api Unit :=
  match fault with
  | some e => fail e
  | none => modify fun w => { w with armed := w.armed.erase interface }

/-- Both tables of the attestation registrar lose the CID. -/
def unregisterAttestation (cid : UInt32) : Manager api Unit := do
  modify fun w => { w with bootMeasurements := w.bootMeasurements.remove cid }
  modify fun w => { w with workloadContexts := w.workloadContexts.remove cid }

/-- Destroy a pod's netns via `ip netns del`. Best-effort. -/
def destroyNetns (fault : Option AgentError) (podId : String) : Manager api Unit := do
  let w ← get
  if podId ∈ w.netns ∧ fault = none then modify fun w => { w with netns := w.netns.erase podId } else pure ()

def startInstance (started : RuntimeInstance) : Manager api Unit :=
  modify fun w => { w with running := w.running ++ [started] }

def releasePair (podId : String) : Manager api Unit :=
  modify fun w => { w with ips := w.ips.releaseP2pPair podId }

/-! ### Boot -/

/-- Request a delegated signing key for the workload and install it; a failure is non-fatal. -/
def requestDelegatedKey (podSpec : PodSpec) (workloadId : String) : Manager api Unit :=
  match cfg.delegation with
  | none => pure ()
  | some delegation =>
    let workloadSpiffeId := api.new cfg.trustDomain podSpec.tenantId .sa workloadId
    match env.delegatedKey ⟨api.display delegation.nodeSpiffeId, api.display workloadSpiffeId, podSpec.ordinal,
        delegation.ttlSecs⟩ with
    | .error _ => pure ()
    | .ok (key, delegationId) => modify fun w => { w with delegatedKeys := w.delegatedKeys.installKey key delegationId }

/-- The /30 pair of a pod, and the IP that was registered in SRC_IDENTITY_MAP. -/
structure Reservation where
  gwIp : UInt32
  wlIp : UInt32
  registeredIp : Option HostOrderIpv4

/-- Register the workload IP, if there is a registry; a failure releases the pair. -/
def registerWorkload (podId : String) (wl : UInt32) (fp : IdentityFingerprint) : Manager api (Option HostOrderIpv4) :=
  if cfg.srcIdentity then do
    match ← attempt (registerSource env.register ⟨wl⟩ fp) with
    | .error e => do
      releasePair podId
      fail e
    | .ok _ => return some ⟨wl⟩
  else pure none

/-- Allocate the pair, register the workload IP and pre-populate its counters, all BEFORE boot. -/
def reservePair (podId workloadId : String) (fp : IdentityFingerprint) : Manager api Reservation := do
  let w ← get
  let ((gw, wl), ips) ← ofExcept (w.ips.allocateP2pPair podId)
  modify fun w => { w with ips := ips, grants := w.grants.insert wl (podId, workloadId) }
  let registered ← registerWorkload cfg env podId wl fp
  when (cfg.ebpfManager && !env.ebpfLockPoisoned && env.prepopulate.isNone) (modify fun w =>
    { w with podNetCounters := w.podNetCounters.insert wl {} })
  return ⟨gw, wl, registered⟩

def bootContainerd (spec : WorkloadSpec) (containerIp : UInt32) : Manager api UInt32 := do
  let podSpec ← orFail spec.podSpec (.workload "containerd boot requires full PodSpec")
  let podId := podSpec.podId.getD spec.workloadId
  match env.netnsAdd with
  | some e => fail e
  | none => do
    modify fun w => { w with netns := insert podId w.netns }
    match env.configureNetns with
    | some e => do
      destroyNetns env.netnsDel podId
      fail e
    | none =>
      match env.containerdBoot with
      | .error e => do
        destroyNetns env.netnsDel podId
        fail e
      | .ok pid => do
        startInstance ⟨podId, spec.workloadId, podSpec.tenantId, spec.role, .containerd, pid, containerIp⟩
        return pid

/-- The VM configuration that `MicroVmAdapter::boot` submits. -/
def MicroVmAdapter.vmConfig (spec : WorkloadSpec) (podSpec : PodSpec) (vsockCid : UInt32) (rootfsPath tapName : String)
    (gatewayIp : UInt32) : VmConfig where
  vcpus := (podSpec.resources.map (·.vcpus.toUInt8)).getD 1
  memoryBytes := (podSpec.resources.map (·.memoryMb.toNat)).getD 512 * 1024 * 1024
  kernel := "/var/lib/fleetos/vmlinux"
  diskPath := rootfsPath
  vsockCid := vsockCid
  vsockSocket := s!"/run/fleetos/vms/{spec.workloadId}.vsock"
  tap := tapName
  ip := toBeBytes gatewayIp
  netId := s!"net-{spec.workloadId}"

def MicroVmAdapter.boot (spec : WorkloadSpec) (vsockCid : UInt32) (mounts : List PreparedMount)
    (rootfsPath tapName : String) (guestIp gatewayIp : UInt32) : Manager api UInt32 := do
  ofExcept (validateMicrovmMounts mounts)
  let podSpec ← orFail spec.podSpec (.workload "microvm boot requires full PodSpec")
  match env.createVm (vmConfig spec podSpec vsockCid rootfsPath tapName gatewayIp), env.bootVm with
  | some e, _ => fail (.workload s!"CH vm.create: {e}")
  | none, some e => fail (.workload s!"CH vm.boot: {e}")
  | none, none => do
    startInstance ⟨podSpec.podId.getD spec.workloadId, spec.workloadId, podSpec.tenantId, spec.role, .cloudHypervisor,
      vsockCid, guestIp⟩
    return vsockCid

/-- The guest's network is the /30 pair. -/
def workloadContext (spec : WorkloadSpec) (guestIp gatewayIp : UInt32) : WorkloadContext :=
  ⟨spec.podSpec.getD {}, toBeBytes guestIp, #v[255, 255, 255, 252], toBeBytes gatewayIp⟩

def registerAttestation (cid : UInt32) (measurement : BootMeasurement) (context : WorkloadContext) : Manager api Unit := do
  modify fun w => { w with bootMeasurements := w.bootMeasurements.insert cid measurement }
  modify fun w => { w with workloadContexts := w.workloadContexts.insert cid context }

def bootMicrovmInner (spec : WorkloadSpec) (mounts : List PreparedMount) (vsockCid : UInt32) (interface : String)
    (guestIp gatewayIp : UInt32) : Manager api UInt32 := do
  let rootfsPath := ociToErofs spec.image cfg.imageCachePath
  let measurement ← ofExcept (env.measure cfg.kernelPath rootfsPath cfg.guestInitPath)
  -- Register measurement + context BEFORE boot so the guest can attest immediately.
  when cfg.attestation (registerAttestation vsockCid measurement (workloadContext spec guestIp gatewayIp))
  let handle ← MicroVmAdapter.boot env spec vsockCid mounts rootfsPath.toStringLossy interface guestIp gatewayIp
  modify fun w => { w with microvms := w.microvms.insert vsockCid ⟨s!"/run/fleetos/vm/{vsockCid}/api.sock"⟩ }
  return handle

def bootMicrovm (spec : WorkloadSpec) (mounts : List PreparedMount) (guestIp gatewayIp : UInt32) :
    Manager api UInt32 := do
  ofExcept (validateMicrovmMounts mounts)
  let w ← get
  let vsockCid := w.nextCid
  modify fun w => { w with nextCid := w.nextCid + 1 }
  if !cfg.netGuard then
    fail (.workload "boot aborted: NetGuard (VmNetGuard) not armed before MicroVM boot (fail-closed)")
  else do
    -- BOOT-RACE GUARD: arm BEFORE the VM boots / TAP comes up.
    armGuard env.arm (tapInterface vsockCid)
    match ← attempt (bootMicrovmInner cfg env spec mounts vsockCid (tapInterface vsockCid) guestIp gatewayIp) with
    | .ok handle => return handle
    | .error e => do
      when cfg.attestation (unregisterAttestation vsockCid)
      let _ ← attempt (disarmGuard env.disarm (tapInterface vsockCid))
      fail e

def cancelReservation (podId : String) (reservation : Reservation) : Manager api Unit := do
  match reservation.registeredIp with
  | some ip => do
    let _ ← attempt (unregisterSource env.unregister ip)
    releasePair podId
  | none => releasePair podId

/-- Record a booted pod: its source IP, its pod record and its probe runner. -/
def recordPod (spec : WorkloadSpec) (podSpec : PodSpec) (podId : String) (fp : IdentityFingerprint)
    (reservation : Reservation) (handle : UInt32) : Manager api Unit := do
  match reservation.registeredIp with
  | some ip => modify fun w => { w with podSourceIps := w.podSourceIps.insert podId ip.val }
  | none => pure ()
  let pod := Pod.booted podId spec.workloadId podSpec.tenantId spec.role spec.runtime fp handle
  modify fun w => { w with pods := w.pods.addPod pod }
  when cfg.probes (modify fun w => { w with probes := w.probes.registerPod podId (.new podSpec.probes env.now) })

def bootRuntime (spec : WorkloadSpec) (mounts : List PreparedMount) (reservation : Reservation) : Manager api UInt32 :=
  match spec.runtime with
  | .containerd => bootContainerd env spec reservation.wlIp
  | .cloudHypervisor => bootMicrovm cfg env spec mounts reservation.wlIp reservation.gwIp

/-- Boot a single pod on the correct runtime adapter. -/
def bootPod (spec : WorkloadSpec) : Manager api UInt32 := do
  let podSpec ← orFail spec.podSpec (.workload "boot requires full PodSpec")
  let podId := podSpec.podId.getD spec.workloadId
  let mounts ← ofExcept (prepareMounts env.fs cfg.volumeConfig podId podSpec.volumes podSpec.volumeMounts)
  let fp ← ofExcept (workloadFingerprint api cfg.trustDomain podSpec.tenantId spec.workloadId spec.role)
  requestDelegatedKey cfg env podSpec spec.workloadId
  let reservation ← reservePair cfg env podId spec.workloadId fp
  match ← attempt (bootRuntime cfg env spec mounts reservation) with
  | .ok handle => do
    recordPod cfg env spec podSpec podId fp reservation handle
    return handle
  | .error e => do
    cancelReservation env podId reservation
    fail e

end Boot

/-! ### Evict -/

section Evict
variable {api : SpiffeApi} (cfg : ManagerConfig api) (env : EvictEnv)

/-- `ContainerdAdapter::stop`: on success the container of that id no longer runs. -/
def stopContainerd (podId : String) : Manager api Unit :=
  match env.stop with
  | some e => fail e
  | none => modify fun w => { w with running := w.running.filter fun i => !(i.runtime = .containerd ∧ i.podId = podId) }

/-- `MicroVmAdapter::stop`: on success the VM with that CID no longer runs. -/
def stopVm (handle : UInt32) : Manager api Unit :=
  match env.stop with
  | some e => fail e
  | none =>
    modify fun w => { w with running := w.running.filter fun i => !(i.runtime = .cloudHypervisor ∧ i.handle = handle) }

/-- The MicroVM branch: the adapter leaves the table before it is asked to stop. -/
def stopMicrovm (handle : UInt32) : Manager api Unit := do
  let w ← get
  modify fun w => { w with microvms := w.microvms.remove handle }
  when (w.microvms.get handle).isSome (do
    stopVm env handle
    when cfg.netGuard (do
      let _ ← attempt (disarmGuard env.disarm (tapInterface handle))
      pure ()))
  when cfg.attestation (unregisterAttestation handle)

/-- Unregister source identity + release the /30 IP pair, if the pod has a source IP. -/
def releaseSource (podId : String) (runtime : RuntimeKind) : Manager api Unit := do
  let w ← get
  match w.podSourceIps.get podId with
  | none => pure ()
  | some srcIp => do
    modify fun w => { w with podSourceIps := w.podSourceIps.remove podId }
    when cfg.srcIdentity (do
      let _ ← attempt (unregisterSource env.unregister ⟨srcIp⟩)
      pure ())
    releasePair podId
    when (runtime = .containerd) (destroyNetns env.netnsDel podId)

/-- Transition to Terminating, drop the probe runner and report the event, before the stop. -/
def beginEvict (podId : String) : Manager api Unit := do
  modify fun w => { w with pods := w.pods.modifyPod podId Pod.beginEviction Pod.beginEviction_podId }
  when cfg.probes (modify fun w => { w with probes := w.probes.unregisterPod podId })
  when cfg.eventReporter (modify fun w => { w with events := w.events ++ [(podId, .evicting)] })

def stopRuntime (podId : String) (runtime : RuntimeKind) (handle : UInt32) : Manager api Unit :=
  match runtime with
  | .containerd => stopContainerd env podId
  | .cloudHypervisor => stopMicrovm cfg env handle

/-- Evict a pod: stop via the right adapter, tear down scratch, remove record. -/
def evictPod (podId : String) : Manager api Unit := do
  let w ← get
  let pod ← orFail (w.pods.getPod podId) (.workload s!"pod {podId} not found")
  beginEvict cfg podId
  stopRuntime cfg env podId pod.runtime (pod.pid.getD 0)
  releaseSource cfg env podId pod.runtime
  ofExcept (teardownPodScratch env.fs cfg.volumeConfig podId)
  modify fun w => { w with pods := w.pods.removePod podId }

end Evict

/-! ### Reconcile -/

/-- One operation of a reconcile call, with what its environment does. -/
inductive ManagerOp (api : SpiffeApi) where
  | evict (podId : String) (env : EvictEnv)
  | boot (spec : WorkloadSpec) (env : BootEnv api)

/-- A reconcile call: the desired list, the walk order of the pod table, and the environment of each operation. -/
structure ReconcileCall (api : SpiffeApi) where
  desired : List WorkloadSpec
  order : Enumeration String
  evictEnv : Nat → EvictEnv
  bootEnv : Nat → BootEnv api

section Reconcile
variable {api : SpiffeApi} (cfg : ManagerConfig api)

def runOp : ManagerOp api → Manager api Unit
  | .evict podId env => evictPod cfg env podId
  | .boot spec env => do
    let _ ← bootPod cfg env spec
    pure ()

/-- The operations of a call, in order: evict pods no longer desired, then boot newly desired pods. -/
def reconcileOps (w : World api) (call : ReconcileCall api) : List (ManagerOp api) :=
  let result := Reconciler.reconcile call.order call.desired w.pods
  result.toEvict.mapIdx (fun n podId => .evict podId (call.evictEnv n)) ++
    result.toBoot.mapIdx (fun n spec => .boot spec (call.bootEnv n))

/-- Reconcile desired state against running pods and apply; a failing operation is logged and the next one runs. -/
def reconcile (call : ReconcileCall api) : Manager api Unit := do
  let w ← get
  runAll (runOp cfg) (reconcileOps w call)

end Reconcile

/-! ### A small node -/

/-- 10.0.0.0/28. -/
def samplePool : NodeIpAllocator where
  base := 0x0A000000
  hostCount := 16
  nextOffset := 1
  free := ∅
  allocated := ∅
  fits := by decide
  bounded := by simp
  disjoint := NodeIpAllocator.disjoint_empty

def sampleConfig : ManagerConfig textApi := { trustDomain := "fleet" }

def sampleBoot : BootEnv textApi where
  measure _ _ _ := .ok ⟨.replicate 32 0, .replicate 32 0, .replicate 32 0, .replicate 32 0⟩

def sampleSpec (workloadId : String) (runtime : RuntimeKind) : WorkloadSpec :=
  { workloadId := workloadId, runtime := runtime, podSpec := some {} }

def sampleCall (desired : List WorkloadSpec) (evictEnv : EvictEnv) (bootEnv : Nat → BootEnv textApi) :
    ReconcileCall textApi :=
  ⟨desired, .sorted, fun _ => evictEnv, bootEnv⟩

end FleetosAgent.Workloads
