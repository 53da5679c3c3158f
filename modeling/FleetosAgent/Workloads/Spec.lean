import FleetosAgent.Abi

/-! # Workload specs

The messages of `workload.proto` as far as the agent reads them, and `WorkloadSpec` of `workloads/mod.rs`. -/

namespace FleetosAgent.Workloads

inductive RuntimeKind where
  | containerd
  | cloudHypervisor
  deriving DecidableEq, Repr

/-- `TryFrom<&str>`. -/
def RuntimeKind.tryFrom (value : String) : Except AgentError RuntimeKind :=
  if value = "containerd" then .ok .containerd
  else if value = "cloud-hypervisor" ∨ value = "cloud_hypervisor" then .ok .cloudHypervisor
  else .error (.workload s!"unknown runtime: {value}")

/-! ### Pod specs -/

inductive ProbeCheck where
  | exec (command : List String)
  | httpGet (path : String) (port : UInt32)
  | tcpSocket (port : UInt32)

structure Probe where
  check : Option ProbeCheck
  initialDelaySeconds : UInt32 := 0
  periodSeconds : UInt32 := 0
  timeoutSeconds : UInt32 := 0
  successThreshold : UInt32 := 0
  failureThreshold : UInt32 := 0

structure ProbeSet where
  startup : Option Probe := none
  liveness : Option Probe := none
  readiness : Option Probe := none

/-- `volume::Source`. -/
inductive Source where
  | emptyDir (sizeLimitBytes : Option UInt64)
  | hostPath (path : String) (type : Int32)

structure Volume where
  name : String
  source : Option Source

structure VolumeMount where
  name : String
  mountPath : String
  readOnly : Bool := false

structure Resources where
  vcpus : UInt32
  memoryMb : UInt32

structure EnvVar where
  name : String
  value : String

structure PodSpec where
  podId : Option String := none
  workloadId : String := ""
  tenantId : String := ""
  role : String := ""
  env : List EnvVar := []
  ordinal : Option UInt32 := none
  volumes : List Volume := []
  volumeMounts : List VolumeMount := []
  probes : Option ProbeSet := none
  resources : Option Resources := none

/-- `WorkloadAssignment`, as a `ScheduleUpdate` carries it. -/
structure WorkloadAssignment where
  workloadId : String
  runtime : String
  image : String
  role : String
  podSpec : Option PodSpec
  hostname : String

/-- A workload assignment enriched with the full PodSpec. -/
structure WorkloadSpec where
  workloadId : String
  runtime : RuntimeKind
  image : String := ""
  role : String := ""
  podSpec : Option PodSpec := none
  hostname : String := ""

def WorkloadSpec.fromAssignment (assignment : WorkloadAssignment) : Except AgentError WorkloadSpec := do
  let runtime ← RuntimeKind.tryFrom assignment.runtime
  return { assignment with runtime := runtime }

/-- The pod id that `boot_pod` uses: the spec's own, or else the workload id. -/
def WorkloadSpec.effectiveId (spec : WorkloadSpec) : String :=
  (spec.podSpec.bind (·.podId)).getD spec.workloadId

end FleetosAgent.Workloads
