import FleetosAgent.Workloads.Spec
import FleetosAgent.Lib.FinMap

/-! # Probes

`workloads/probes/mod.rs` and `workloads/probe_manager.rs`: the probe state machine and the table of probe runners. The
startup probe gates liveness and readiness. Instants are counted in nanoseconds; the outcome of a check comes from the
environment. -/

namespace FleetosAgent.Workloads
open Lib

/-- A probe without a check is a TCP probe of port 0. -/
def probeKind (probe : Probe) : ProbeCheck := probe.check.getD (.tcpSocket 0)

inductive ProbePhase where
  | initialDelay
  | probing
  | succeeded
  | failed
  deriving DecidableEq, Repr

structure ProbeRunner where
  kind : ProbeCheck
  phase : ProbePhase
  initialDelaySecs : UInt32
  periodSecs : UInt32
  timeoutSecs : UInt32
  successThreshold : UInt32
  failureThreshold : UInt32
  consecutiveSuccesses : UInt32
  consecutiveFailures : UInt32
  startedAt : Nat
  lastProbeAt : Option Nat

/-- `Duration::from_secs`. -/
def fromSecs (secs : UInt32) : Nat := secs.toNat * 1000000000

/-- What the environment does with one probe: the instant at which it is asked whether it is due, the instant at which
    it then runs, and the outcome of its check. -/
structure ProbeCall where
  dueAt : Nat
  ranAt : Nat
  result : Except String Unit

namespace ProbeRunner

def new (probe : Probe) (now : Nat) : ProbeRunner where
  kind := probeKind probe
  phase := .initialDelay
  initialDelaySecs := probe.initialDelaySeconds
  periodSecs := probe.periodSeconds
  timeoutSecs := probe.timeoutSeconds
  successThreshold := max probe.successThreshold 1
  failureThreshold := max probe.failureThreshold 1
  consecutiveSuccesses := 0
  consecutiveFailures := 0
  startedAt := now
  lastProbeAt := none

variable (runner : ProbeRunner)

def isDue (now : Nat) : Bool :=
  if now - runner.startedAt < fromSecs runner.initialDelaySecs then false
  else
    match runner.lastProbeAt with
    | none => true
    | some last => fromSecs runner.periodSecs ≤ now - last

/-- Run the probe: a success resets the failures, a failure the successes, and the thresholds decide the phase. -/
def probe (call : ProbeCall) : ProbeRunner :=
  match call.result with
  | .ok _ =>
    { runner with
      lastProbeAt := some call.ranAt
      consecutiveSuccesses := runner.consecutiveSuccesses + 1
      consecutiveFailures := 0
      phase := if runner.successThreshold ≤ runner.consecutiveSuccesses + 1 then .succeeded else .probing }
  | .error _ =>
    { runner with
      lastProbeAt := some call.ranAt
      consecutiveFailures := runner.consecutiveFailures + 1
      consecutiveSuccesses := 0
      phase := if runner.failureThreshold ≤ runner.consecutiveFailures + 1 then .failed else .probing }

/-- `if runner.is_due() { runner.probe(); }`. -/
def probeIfDue (call : ProbeCall) : ProbeRunner := if runner.isDue call.dueAt then runner.probe call else runner

def isPassing : Bool := runner.phase = .succeeded

def isLivePassing : Bool := runner.consecutiveFailures < runner.failureThreshold

def isReadyPassing : Bool := runner.successThreshold ≤ runner.consecutiveSuccesses

end ProbeRunner

/-- Probe set runner: manages startup, liveness, and readiness probes. -/
structure ProbeSetRunner where
  startup : Option ProbeRunner
  liveness : Option ProbeRunner
  readiness : Option ProbeRunner

/-- What the environment does with the three probes of a pod in one tick. -/
structure ProbeSetCall where
  startup : ProbeCall
  liveness : ProbeCall
  readiness : ProbeCall

namespace ProbeSetRunner

/-- A `None` probe set means "no probes configured": all probes report passing. -/
def new (probes : Option ProbeSet) (now : Nat) : ProbeSetRunner :=
  match probes with
  | some p =>
    { startup := p.startup.map (ProbeRunner.new · now)
      liveness := p.liveness.map (ProbeRunner.new · now)
      readiness := p.readiness.map (ProbeRunner.new · now) }
  | none => { startup := none, liveness := none, readiness := none }

variable (runner : ProbeSetRunner)

def startupDone : Bool := runner.startup.all (·.isPassing)

/-- Run all due probes. Returns (liveness_passing, readiness_passing); while startup is not done, both report passing and
    the other two probes do not run. -/
def runProbes (call : ProbeSetCall) : (Bool × Bool) × ProbeSetRunner :=
  let probed : ProbeSetRunner := { runner with startup := runner.startup.map fun r => r.probeIfDue call.startup }
  if probed.startupDone then
    let probed : ProbeSetRunner := { probed with
      liveness := probed.liveness.map fun r => r.probeIfDue call.liveness
      readiness := probed.readiness.map fun r => r.probeIfDue call.readiness }
    ((probed.liveness.all fun r => r.isLivePassing, probed.readiness.all fun r => r.isReadyPassing), probed)
  else ((true, true), probed)

def allPassing : Bool :=
  runner.startupDone && runner.liveness.all (·.isLivePassing) && runner.readiness.all (·.isReadyPassing)

end ProbeSetRunner

structure ProbeTickResult where
  podId : String
  live : Bool
  ready : Bool
  allProbesPassing : Bool
  probeFailed : Bool
  deriving DecidableEq

structure ProbeManager where
  runners : FinMap String ProbeSetRunner := ∅

namespace ProbeManager

variable (pm : ProbeManager)

def registerPod (podId : String) (runner : ProbeSetRunner) : ProbeManager := ⟨pm.runners.insert podId runner⟩

def unregisterPod (podId : String) : ProbeManager := ⟨pm.runners.remove podId⟩

/-- The result of one pod's turn in a tick, from its runner after the probes ran. -/
def tickResult (podId : String) (runner : ProbeSetRunner) (call : ProbeSetCall) : ProbeTickResult :=
  let ((live, ready), runner) := runner.runProbes call
  { podId := podId, live := live, ready := ready, allProbesPassing := runner.allPassing, probeFailed := !live || !ready }

/-- Run probes for all tracked pods and return results, in the order in which the table is walked. -/
def tick (order : Enumeration String) (call : String → ProbeSetCall) : List ProbeTickResult × ProbeManager :=
  ((order.list pm.runners.keys).filterMap fun podId =>
      (pm.runners.get podId).map fun runner => tickResult podId runner (call podId),
    ⟨{ keys := pm.runners.keys
       get := fun podId => (pm.runners.get podId).map fun runner => (runner.runProbes (call podId)).2
       mem_keys := fun podId => by rw [Option.isSome_map, pm.runners.mem_keys] }⟩)

end ProbeManager

end FleetosAgent.Workloads
