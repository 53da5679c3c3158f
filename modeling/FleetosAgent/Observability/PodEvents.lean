import FleetosAgent.Abi

/-! # Pod event reporter

`observability/pod_events.rs`: events are collected in a batch behind a lock and sent to control in one request. The probe
loop, the workload manager and the flush loop call the reporter at the same time; a task holds the lock for one section at
a time and never during a request. -/

namespace FleetosAgent.Observability

structure PodEvent where
  podId : String
  nodeId : String
  eventType : String
  reason : String
  message : String
  timestampUnix : UInt64
  count : UInt32
  deriving DecidableEq

/-- The fixed fields of a `PodEventReporter`. -/
structure PodEventReporter where
  nodeId : String
  batchSize : Nat

/-- Where a call of `record_event` or `flush` stands. -/
inductive ReporterTask where
  /-- Before the section that pushes the event. -/
  | record (event : PodEvent)
  /-- Before the section that takes the batch. -/
  | flush
  /-- The request is under way. -/
  | sending (events : List PodEvent)
  | done (result : Except AgentError Unit)

structure ReporterState where
  batch : List PodEvent := []
  /-- The calls so far; a call is known by its index. -/
  tasks : List ReporterTask := []

inductive ReporterAction where
  | recordEvent (podId eventType reason message : String) (nowUnix : UInt64)
  | callFlush
  /-- The task executes its next section; for a request under way, `rpc` is how it ends. -/
  | run (task : Nat) (rpc : Except String Unit)

namespace ReporterTask

/-- Push under the lock, and go on to flush if the batch is full. -/
def pushSection (reporter : PodEventReporter) (batch : List PodEvent) (event : PodEvent) : List PodEvent × ReporterTask :=
  let batch := batch ++ [event]
  (batch, if reporter.batchSize ≤ batch.length then .flush else .done (.ok ()))

/-- Take the whole batch under the lock. -/
def takeSection (batch : List PodEvent) : List PodEvent × ReporterTask :=
  match batch with
  | [] => ([], .done (.ok ()))
  | events => ([], .sending events)

def answered (rpc : Except String Unit) : ReporterTask :=
  match rpc with
  | .ok _ => .done (.ok ())
  | .error e => .done (.error (.internal s!"failed to flush pod events: {e}"))

/-- The next section of a task: the batch it leaves and where the task stands then. -/
def next (reporter : PodEventReporter) (rpc : Except String Unit) (batch : List PodEvent) :
    ReporterTask → List PodEvent × ReporterTask
  | .record event => pushSection reporter batch event
  | .flush => takeSection batch
  | .sending _ => (batch, answered rpc)
  | .done result => (batch, .done result)

end ReporterTask

def reporterStep (reporter : PodEventReporter) (s : ReporterState) : ReporterAction → ReporterState
  | .recordEvent podId eventType reason message nowUnix =>
    { s with tasks := s.tasks ++ [.record ⟨podId, reporter.nodeId, eventType, reason, message, nowUnix, 1⟩] }
  | .callFlush => { s with tasks := s.tasks ++ [.flush] }
  | .run task rpc =>
    match s.tasks[task]? with
    | none => s
    | some at' =>
      let (batch, after) := at'.next reporter rpc s.batch
      ⟨batch, s.tasks.set task after⟩

end FleetosAgent.Observability
