import FleetosAgent.Lib.Remote
import FleetosAgent.Workloads.Netns
import FleetosAgent.Workloads.Volumes

/-! # containerd

`workloads/containerd.rs`: the adapter that boots and stops containers over containerd's API. What the daemon does is a
parameter, and what it holds outlives the agent. -/

namespace FleetosAgent.Workloads
open Lib Traced

/-! ### The OCI spec -/

structure OciMount where
  destination : String
  type : String
  source : String
  options : List String := []
  deriving DecidableEq

/-- A Linux namespace of the container, with the path of one to join. -/
structure OciNamespace where
  type : String
  path : Option String := none
  deriving DecidableEq

/-- The OCI runtime spec, as `build_oci_spec` fills it in. -/
structure OciSpec where
  ociVersion : String := "1.0.2"
  uid : Nat := 0
  gid : Nat := 0
  args : List String := ["/init"]
  env : List String
  cwd : String := "/"
  rootPath : String := "rootfs"
  rootReadonly : Bool := true
  hostname : String
  mounts : List OciMount
  namespaces : List OciNamespace
  cpuQuota : UInt64
  cpuPeriod : UInt64 := 100000
  memoryLimit : UInt64
  deriving DecidableEq

def hostsPath (workloadId : String) : String := s!"/run/fleetos/pods/{workloadId}/hosts"

def PreparedMount.ociMount (m : PreparedMount) : OciMount :=
  ⟨m.mountPath, "bind", m.hostPath, if m.readOnly then ["rbind", "ro"] else ["rbind", "rw"]⟩

/-- Build the OCI runtime spec. -/
def buildOciSpec (spec : WorkloadSpec) (podSpec : PodSpec) (mounts : List PreparedMount) (netnsPath : OsPath) : OciSpec :=
  let (cpuLimit, memLimit) : UInt64 × UInt64 := match podSpec.resources with
    | some r => (r.vcpus.toUInt64, r.memoryMb.toUInt64 * 1024 * 1024)
    | none => (1, 512 * 1024 * 1024)
  { env := podSpec.env.map fun e => e.name ++ "=" ++ e.value
    hostname := spec.hostname
    mounts := ⟨"/etc/hosts", "bind", hostsPath spec.workloadId, ["rbind", "ro"]⟩ :: ⟨"/proc", "proc", "proc", []⟩ ::
      mounts.map (·.ociMount)
    namespaces := [⟨"pid", none⟩, ⟨"ipc", none⟩, ⟨"uts", none⟩, ⟨"mount", none⟩, ⟨"network", some netnsPath.toStringLossy⟩]
    cpuQuota := cpuLimit * 100000
    memoryLimit := memLimit }

/-! ### The daemon -/

structure Container where
  image : String
  spec : OciSpec
  snapshotter : String

/-- The calls of the agent to containerd's API. -/
inductive ContainerdCall where
  | createContainer (id : String) (container : Container)
  | createTask (id : String)
  | startTask (id : String)
  | kill (id : String) (signal : UInt32)
  | deleteTask (id : String)
  | deleteContainer (id : String)

/-- What the agent reads of an answer: the PID of a new task. -/
def ContainerdCall.Answer : ContainerdCall → Type
  | createTask _ => UInt32
  | _ => Unit

/-- The daemon. Also a call that fails may have changed something. -/
structure Containerd where
  State : Type
  call : State → (c : ContainerdCall) → Except String c.Answer × State

/-! ### The adapter -/

/-- What the adapter keeps and what it reaches: the hosts content and the channel of the agent, the daemon, and the hosts
    files. -/
structure ContainerdAdapter (containerd : Containerd) where
  hostsContent : String := ""
  connected : Bool := false
  daemon : containerd.State
  hostsFiles : FinMap String String := ∅

/-- The errors of the steps that are not calls to the daemon. -/
structure ContainerdEnv where
  createDir : Option String := none
  writeHosts : Option String := none
  connect : Option String := none

namespace ContainerdAdapter
variable {containerd : Containerd}

abbrev AdapterM (containerd : Containerd) := Traced (ContainerdAdapter containerd) AgentError

/-- Update the agent-rendered /etc/hosts content (driven by WatchRoutes). -/
def setHostsContent (a : ContainerdAdapter containerd) (content : String) : ContainerdAdapter containerd :=
  { a with hostsContent := content }

/-- A call to the daemon, with the text that is put before its errors. -/
def rpc (context : String) (c : ContainerdCall) : AdapterM containerd c.Answer := invoke fun a =>
  ((containerd.call a.daemon c).1.mapError fun e => .workload (context ++ e),
    { a with daemon := (containerd.call a.daemon c).2 })

variable (env : ContainerdEnv)

/-- Lazily establish (or reuse) the gRPC channel to containerd. -/
def channel : AdapterM containerd Unit := do
  let a ← get
  if a.connected then pure ()
  else match env.connect with
    | some e => fail (.workload s!"containerd connect: {e}")
    | none => modify fun a => { a with connected := true }

/-- Render the hosts file of the workload. -/
def writeHosts (workloadId : String) : AdapterM containerd Unit :=
  match env.createDir, env.writeHosts with
  | some e, _ => fail (.io e)
  | none, some e => fail (.io e)
  | none, none => modify fun a => { a with hostsFiles := a.hostsFiles.insert (hostsPath workloadId) a.hostsContent }

/-- Boot a container. Returns the task PID. -/
def boot (spec : WorkloadSpec) (mounts : List PreparedMount) (netnsPath : OsPath) : AdapterM containerd UInt32 := do
  match spec.podSpec with
  | none => fail (.workload "containerd boot requires full PodSpec")
  | some podSpec => do
    let podId := podSpec.podId.getD spec.workloadId
    writeHosts env spec.workloadId
    channel env
    let container : Container := ⟨spec.image, buildOciSpec spec podSpec mounts netnsPath, "erofs"⟩
    rpc "containerd create container: " (.createContainer podId container)
    let pid ← rpc "containerd create task: " (.createTask podId)
    rpc "containerd start task: " (.startTask podId)
    return pid

/-- Stop a container: SIGTERM → grace wait → SIGKILL → delete. The outcome of no call is looked at. -/
def stop (podId : String) : AdapterM containerd Unit := do
  channel env
  let _ ← attempt (rpc "" (.kill podId 15))
  let _ ← attempt (rpc "" (.kill podId 9))
  let _ ← attempt (rpc "" (.deleteTask podId))
  let _ ← attempt (rpc "" (.deleteContainer podId))
  return ()

end ContainerdAdapter

end FleetosAgent.Workloads
