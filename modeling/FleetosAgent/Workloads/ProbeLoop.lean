import FleetosAgent.Workloads.PodManager
import FleetosAgent.Workloads.Probes

/-! # Probe loop

`workloads/probe_loop.rs`: what one probe result does to the pod it is about, and the events it emits. -/

namespace FleetosAgent.Workloads

inductive PodEventType where
  | started
  | probeFailed
  | backOff
  | evicting
  deriving DecidableEq, Repr

structure ProbeLoopConfig where
  probeIntervalSecs : UInt64 := 10
  maxRestartAttempts : UInt32 := 3

structure Emits where
  started : Bool := false
  backOff : Bool := false
  probeFailed : Bool := false

/-- A pod as the section under the lock changes it, with the flags it sets. -/
structure ProbeUpdate where
  pod : Pod
  emits : Emits := {}

namespace ProbeUpdate

/-- Take over the results; a pod seen all-passing has ever passed. -/
def observe (pod : Pod) (result : ProbeTickResult) : Pod :=
  { pod with
    probeLive := result.live
    probeReady := result.ready
    probeEverPassed := pod.probeEverPassed || result.allProbesPassing }

/-- Emit ProbeFailed once per failure episode, and only once the pod has passed; a recovery ends the episode. -/
def reportFailure (u : ProbeUpdate) (result : ProbeTickResult) : ProbeUpdate :=
  if result.probeFailed && u.pod.probeEverPassed && !u.pod.probeFailureReported then
    { pod := { u.pod with probeFailureReported := true }, emits := { u.emits with probeFailed := true } }
  else if !result.probeFailed then { u with pod := { u.pod with probeFailureReported := false } }
  else u

def start (u : ProbeUpdate) (result : ProbeTickResult) : ProbeUpdate :=
  if u.pod.state = .booting ∧ result.allProbesPassing then
    { pod := u.pod.transitionTo .running, emits := { u.emits with started := true } }
  else u

/-- Handle liveness failure: restart if policy allows, else mark dead. -/
def restart (u : ProbeUpdate) (config : ProbeLoopConfig) (wasRunning : Bool) (result : ProbeTickResult) : ProbeUpdate :=
  if wasRunning && !result.live then
    match u.pod.restartPolicy with
    | .always | .onFailure =>
      if config.maxRestartAttempts ≤ u.pod.restartCount then
        { pod := { u.pod with probeLive := false }, emits := { u.emits with backOff := true } }
      else
        { u with pod := { u.pod.incrementRestart.transitionTo .booting with probeFailureReported := false } }
    | .never => { u with pod := { u.pod with probeLive := false } }
  else u

end ProbeUpdate

/-- The section of `process_probe_result` under the lock. -/
def applyProbeResult (config : ProbeLoopConfig) (result : ProbeTickResult) (pod : Pod) : ProbeUpdate :=
  let wasRunning : Bool := pod.state = .running
  let u : ProbeUpdate := { pod := ProbeUpdate.observe pod result }
  let u := u.reportFailure result
  let u := u.start result
  u.restart config wasRunning result

@[simp] theorem applyProbeResult_podId (config : ProbeLoopConfig) (result : ProbeTickResult) (pod : Pod) :
    (applyProbeResult config result pod).pod.podId = pod.podId := by
  unfold applyProbeResult ProbeUpdate.restart ProbeUpdate.start ProbeUpdate.reportFailure ProbeUpdate.observe
    Pod.transitionTo Pod.incrementRestart Pod.restartPolicy
  dsimp only
  split_ifs <;> rfl

/-- The events, in the order in which they are emitted after the lock is released. -/
def Emits.events (emits : Emits) : List PodEventType :=
  (if emits.probeFailed then [.probeFailed] else []) ++ (if emits.started then [.started] else []) ++
    if emits.backOff then [.backOff] else []

def processProbeResult (config : ProbeLoopConfig) (pm : PodManager) (result : ProbeTickResult) :
    PodManager × List (String × PodEventType) :=
  match pm.getPod result.podId with
  | none => (pm, [])
  | some pod =>
    (pm.modifyPod result.podId (fun pod => (applyProbeResult config result pod).pod)
        (applyProbeResult_podId config result),
      (applyProbeResult config result pod).emits.events.map fun event => (result.podId, event))

end FleetosAgent.Workloads
