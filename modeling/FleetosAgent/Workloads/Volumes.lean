import FleetosAgent.Lib.Paths
import FleetosAgent.Workloads.Spec

/-! # Volumes

`workloads/volumes/mod.rs`, and the mount gate of `workloads/microvm.rs`. Paths are strings joined as `PathBuf::join` joins
them. -/

namespace FleetosAgent.Workloads

/-- `PathBuf::join`. -/
def joinPath (root path : String) : String :=
  Lib.joinOnto id (· ++ ·) (fun root => root.isEmpty || root.endsWith "/") root path

inductive VolumeSource where
  | emptyDir (sizeLimitBytes : Option UInt64)
  | hostPath (hostPathType : Int32)

structure PreparedMount where
  name : String
  mountPath : String
  readOnly : Bool
  hostPath : String
  source : VolumeSource

structure VolumeConfig where
  scratchRoot : String := "/var/lib/fleetos/scratch"
  /-- Default false (fail-closed). -/
  allowHostPath : Bool := false

/-- The file system as `prepare_mounts` and `teardown_pod_scratch` meet it: which paths exist, and which operations
    fail. -/
structure FileSystem where
  pathExists : String → Bool := fun _ => true
  createDirAll : String → Option String := fun _ => none
  removeDirAll : String → Option String := fun _ => none

def prepareMount (fs : FileSystem) (config : VolumeConfig) (podId : String) (volumes : List Volume)
    (mount : VolumeMount) : Except AgentError PreparedMount :=
  match volumes.find? fun v => v.name = mount.name with
  | none => .error (.workload s!"volume mount '{mount.name}' references undefined volume")
  | some volume =>
    match volume.source with
    | some (.emptyDir sizeLimitBytes) =>
      let hostPath := joinPath (joinPath config.scratchRoot podId) volume.name
      match fs.createDirAll hostPath with
      | some e => .error (.io e)
      | none => .ok ⟨volume.name, mount.mountPath, mount.readOnly, hostPath, .emptyDir sizeLimitBytes⟩
    | some (.hostPath path type) =>
      -- HostPath is default-DENY; even then the path must exist.
      if !config.allowHostPath then
        .error (.workload (s!"hostPath volume '{volume.name}' rejected: HostPath is disabled by default " ++
          "(zero-trust security surface, CR-CORE-2)"))
      else if !fs.pathExists path then
        .error (.workload s!"hostPath volume '{volume.name}' rejected: path does not exist: {path}")
      else .ok ⟨volume.name, mount.mountPath, mount.readOnly, path, .hostPath type⟩
    | none => .error (.workload s!"volume '{volume.name}' has no source (fail-closed)")

/-- Prepare volume mounts for a single pod; the first that cannot be resolved ends it. -/
def prepareMounts (fs : FileSystem) (config : VolumeConfig) (podId : String) (volumes : List Volume)
    (mounts : List VolumeMount) : Except AgentError (List PreparedMount) :=
  mounts.mapM (prepareMount fs config podId volumes)

def teardownPodScratch (fs : FileSystem) (config : VolumeConfig) (podId : String) : Except AgentError Unit :=
  let podDir := joinPath config.scratchRoot podId
  if fs.pathExists podDir then
    match fs.removeDirAll podDir with
    | some e => .error (.io e)
    | none => .ok ()
  else .ok ()

/-- Validate mounts for a MicroVM boot: the first HostPath mount is rejected. -/
def validateMicrovmMounts : List PreparedMount → Except AgentError Unit
  | [] => .ok ()
  | m :: rest =>
    match m.source with
    | .emptyDir _ => validateMicrovmMounts rest
    | .hostPath _ =>
      .error (.workload (s!"microvm boot rejected: hostPath volume '{m.name}' cannot be exposed to a MicroVM " ++
        "(CR-CORE-2, fail-closed)"))

end FleetosAgent.Workloads
