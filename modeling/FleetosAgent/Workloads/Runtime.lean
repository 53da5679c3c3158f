import FleetosAgent.Identity.Degraded
import FleetosAgent.Lib.OsPath
import FleetosAgent.Lib.Traced
import FleetosAgent.Workloads.IpAllocator
import FleetosAgent.Workloads.ProbeLoop
import FleetosAgent.Workloads.Volumes

/-! # The node

The tables that `WorkloadManager` keeps or writes through its seams, the runtimes it drives, and what the environment may
do while one operation runs. -/

namespace FleetosAgent.Workloads
open Lib Identity

/-- A container or MicroVM that a runtime has booted and not stopped since. -/
structure RuntimeInstance where
  podId : String
  workloadId : String
  tenantId : String
  role : String
  runtime : RuntimeKind
  /-- Task PID, or VSOCK CID. -/
  handle : UInt32
  /-- The workload IP it was configured with. -/
  ip : UInt32
  deriving DecidableEq

/-- `BootMeasurement`: the BLAKE3 hashes of the boot artifacts. -/
structure BootMeasurement where
  kernelHash : Bytes 32
  rootfsHash : Bytes 32
  guestInitHash : Bytes 32
  combinedHash : Bytes 32

structure WorkloadContext where
  podSpec : PodSpec
  guestIp : Octets
  netmask : Octets
  gateway : Octets

structure PodNetCounters where
  txBytes : UInt64 := 0
  txPackets : UInt64 := 0
  rxBytes : UInt64 := 0
  rxPackets : UInt64 := 0

/-- The parts of Cloud Hypervisor's `VmConfig` that `MicroVmAdapter::boot` fills in. -/
structure VmConfig where
  vcpus : UInt8
  memoryBytes : Nat
  kernel : String
  diskPath : String
  vsockCid : UInt32
  vsockSocket : String
  tap : String
  ip : Octets
  netId : String
  deriving DecidableEq

structure MicroVmAdapter where
  apiSocket : String

/-- Everything that booting and evicting pods reads and writes. -/
structure World (api : SpiffeApi) where
  pods : PodManager := .new
  /-- `VsockCidAllocator::next_cid`. -/
  nextCid : UInt32 := 3
  microvms : FinMap UInt32 MicroVmAdapter := ∅
  ips : NodeIpAllocator
  podSourceIps : FinMap String UInt32 := ∅
  probes : ProbeManager := {}
  delegatedKeys : DelegatedKeyManager api := {}
  /-- SRC_IDENTITY_MAP. -/
  srcIdentity : FinMap UInt32 IdentityFingerprint := ∅
  /-- POD_NET_COUNTERS. -/
  podNetCounters : FinMap UInt32 PodNetCounters := ∅
  /-- The interfaces whose guard is armed. -/
  armed : Finset String := ∅
  bootMeasurements : FinMap UInt32 BootMeasurement := ∅
  workloadContexts : FinMap UInt32 WorkloadContext := ∅
  /-- The network namespaces under `/run/netns`. -/
  netns : Finset String := ∅
  events : List (String × PodEventType) := []
  /-- What the runtimes run. -/
  running : List RuntimeInstance := []
  /-- Workload IP → pod id and workload id of the last pod that was given the pair. Only statements about runs look here;
      no modelled function reads it. -/
  grants : FinMap UInt32 (String × String) := ∅

structure Delegation (api : SpiffeApi) where
  nodeSpiffeId : api.SpiffeId
  ttlSecs : UInt64 := DEFAULT_DELEGATED_KEY_TTL_SECS

/-- The configuration of a `WorkloadManager`: its paths, and which of the optional dependencies are attached. -/
structure ManagerConfig (api : SpiffeApi) where
  trustDomain : String
  volumeConfig : VolumeConfig := {}
  imageCachePath : OsPath := .ofString "/var/lib/fleetos/images"
  kernelPath : OsPath := .ofString "/var/lib/fleetos/vmlinux"
  guestInitPath : OsPath := .ofString "/var/lib/fleetos/fleetos-guest-init"
  srcIdentity : Bool := true
  netGuard : Bool := true
  attestation : Bool := true
  probes : Bool := true
  ebpfManager : Bool := true
  eventReporter : Bool := true
  delegation : Option (Delegation api) := none

/-- What the environment does while one pod boots: the error of each call that fails, and the answers of the others. -/
structure BootEnv (api : SpiffeApi) where
  fs : FileSystem := {}
  now : Nat := 0
  delegatedKey : DelegatedKeyRequest → Except AgentError (DelegatedSigningKey api × List UInt8) :=
    fun _ => .error (.internal "unreachable")
  register : Option String := none
  ebpfLockPoisoned : Bool := false
  prepopulate : Option String := none
  netnsAdd : Option AgentError := none
  configureNetns : Option AgentError := none
  containerdBoot : Except AgentError UInt32 := .ok 0
  arm : Option AgentError := none
  measure : OsPath → OsPath → OsPath → Except AgentError BootMeasurement
  createVm : VmConfig → Option String := fun _ => none
  bootVm : Option String := none
  /-- The best-effort calls of the failure paths. -/
  netnsDel : Option AgentError := none
  disarm : Option AgentError := none
  unregister : Option String := none

structure EvictEnv where
  fs : FileSystem := {}
  stop : Option AgentError := none
  disarm : Option AgentError := none
  unregister : Option String := none
  netnsDel : Option AgentError := none

abbrev Manager (api : SpiffeApi) := Traced (World api) AgentError

end FleetosAgent.Workloads
