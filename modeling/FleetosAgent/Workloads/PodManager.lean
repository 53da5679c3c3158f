import FleetosAgent.Workloads.Spec
import FleetosAgent.Lib.FinMap

/-! # Pods

`workloads/pod_manager.rs`: the pod state machine Pending → Booting → Running → Terminating → Stopped and the table of
the node's pods. -/

namespace FleetosAgent.Workloads
open Lib

inductive PodState where
  | pending
  | booting
  | running
  | terminating
  | stopped
  deriving DecidableEq, Repr

/-- `RestartPolicy` of `workload.proto`. -/
inductive RestartPolicy where
  | always
  | onFailure
  | never
  deriving DecidableEq, Repr

structure Pod where
  podId : String
  workloadId : String
  tenantId : String
  role : String
  runtime : RuntimeKind
  state : PodState
  started : Bool
  policyEnforced : Bool
  routerConnected : Bool
  restartCount : UInt32
  /-- Container PID, or the VSOCK CID of a MicroVM. -/
  pid : Option UInt32
  fingerprint : IdentityFingerprint
  probeReady : Bool
  probeLive : Bool
  probeFailureReported : Bool
  probeEverPassed : Bool
  deriving DecidableEq

namespace Pod

def new (podId workloadId tenantId role : String) (runtime : RuntimeKind) (fingerprint : IdentityFingerprint) : Pod where
  podId := podId
  workloadId := workloadId
  tenantId := tenantId
  role := role
  runtime := runtime
  state := .pending
  started := false
  policyEnforced := false
  routerConnected := false
  restartCount := 0
  pid := none
  fingerprint := fingerprint
  probeReady := false
  probeLive := false
  probeFailureReported := false
  probeEverPassed := false

/-- The record that `boot_pod` adds once the runtime has booted the workload: Booting, with its handle, and started. -/
def booted (podId workloadId tenantId role : String) (runtime : RuntimeKind) (fingerprint : IdentityFingerprint)
    (handle : UInt32) : Pod :=
  { new podId workloadId tenantId role runtime fingerprint with state := .booting, pid := some handle, started := true }

variable (pod : Pod)

/-- Not Terminating and not Stopped: the pods the reconciler looks at. -/
def Live : Prop := pod.state ≠ .terminating ∧ pod.state ≠ .stopped

instance : Decidable pod.Live := inferInstanceAs (Decidable (_ ∧ _))

theorem booted_live {podId workloadId tenantId role : String} {runtime : RuntimeKind} {fingerprint : IdentityFingerprint}
    {handle : UInt32} : (booted podId workloadId tenantId role runtime fingerprint handle).Live :=
  ⟨nofun, nofun⟩

def transitionTo (newState : PodState) : Pod := { pod with state := newState }

def incrementRestart : Pod := { pod with restartCount := pod.restartCount + 1 }

/-- In a full implementation, this would read from the PodSpec; for now, Always. -/
def restartPolicy (_pod : Pod) : RestartPolicy := .always

/-- Ruling D: started AND policy_enforced AND router_connected. -/
def canTransitionToRunning : Bool := pod.started && pod.policyEnforced && pod.routerConnected

/-- Transition from Booting to Running if the gate is satisfied, and whether the transition occurred. -/
def tryTransitionToRunning : Bool × Pod :=
  if pod.state = .booting ∧ pod.canTransitionToRunning then (true, pod.transitionTo .running) else (false, pod)

def startTerminating : Pod := if pod.state = .running then pod.transitionTo .terminating else pod

def finishTerminating : Pod := if pod.state = .terminating then pod.transitionTo .stopped else pod

/-- Transition to Terminating for eviction, from any active state. -/
def beginEviction : Pod :=
  match pod.state with
  | .pending | .booting | .running => { pod with state := .terminating }
  | .terminating | .stopped => pod

@[simp] theorem beginEviction_podId : pod.beginEviction.podId = pod.podId := by
  unfold beginEviction
  split <;> rfl

@[simp] theorem beginEviction_workloadId : pod.beginEviction.workloadId = pod.workloadId := by
  unfold beginEviction
  split <;> rfl

@[simp] theorem beginEviction_state : pod.beginEviction.state = if pod.Live then .terminating else pod.state := by
  unfold beginEviction Live
  split <;> simp_all

end Pod

/-- Manages all pods on this node. The table is private to the manager, whose only insertion files a pod under its own
    id. -/
structure PodManager where
  pods : FinMap String Pod
  keyed : ∀ podId pod, pods.get podId = some pod → pod.podId = podId

namespace PodManager

theorem ext {pm pm' : PodManager} (h : pm.pods = pm'.pods) : pm = pm' := by
  cases pm
  cases h
  rfl

def new : PodManager where
  pods := ∅
  keyed _ _ h := by cases h

variable (pm : PodManager)

def addPod (pod : Pod) : PodManager where
  pods := pm.pods.insert pod.podId pod
  keyed podId pod' h := by
    rw [FinMap.get_insert] at h
    split at h
    · next heq => rw [← Option.some.inj h, heq]
    · exact pm.keyed podId pod' h

def getPod (podId : String) : Option Pod := pm.pods.get podId

def removePod (podId : String) : PodManager where
  pods := pm.pods.remove podId
  keyed _ _ h := pm.keyed _ _ (FinMap.get_remove_eq_some.mp h).2

/-- `get_pod_mut` and a change of the pod found, if any. -/
def modifyPod (podId : String) (f : Pod → Pod) (hf : ∀ pod, (f pod).podId = pod.podId) : PodManager where
  pods := pm.pods.modify podId f
  keyed podId' pod h := by
    rw [FinMap.get_modify] at h
    split at h
    · next heq =>
      obtain ⟨old, hold, rfl⟩ := Option.map_eq_some_iff.mp h
      rw [hf, pm.keyed podId old hold, heq]
    · exact pm.keyed podId' pod h

theorem getPod_addPod (pod : Pod) (podId : String) :
    (pm.addPod pod).getPod podId = if podId = pod.podId then some pod else pm.getPod podId :=
  FinMap.get_insert ..

theorem getPod_removePod_eq_some {pm : PodManager} {podId podId' : String} {pod : Pod} :
    (pm.removePod podId).getPod podId' = some pod ↔ podId' ≠ podId ∧ pm.getPod podId' = some pod :=
  FinMap.get_remove_eq_some

theorem getPod_modifyPod {podId : String} {f : Pod → Pod} (hf : ∀ pod, (f pod).podId = pod.podId) (podId' : String) :
    (pm.modifyPod podId f hf).getPod podId' = if podId' = podId then (pm.getPod podId).map f else pm.getPod podId' :=
  FinMap.get_modify ..

theorem removePod_modifyPod {podId : String} {f : Pod → Pod} (hf : ∀ pod, (f pod).podId = pod.podId) :
    (pm.modifyPod podId f hf).removePod podId = pm.removePod podId := by
  refine ext (FinMap.ext fun p => Option.ext fun pod => ?_)
  refine getPod_removePod_eq_some.trans ((and_congr_right fun hne => ?_).trans getPod_removePod_eq_some.symm)
  rw [getPod_modifyPod, if_neg hne]

/-- `all_pods_mut` and the same change of every pod. -/
def modifyAll (f : Pod → Pod) (hf : ∀ pod, (f pod).podId = pod.podId) : PodManager where
  pods := pm.pods.mapValues f
  keyed podId pod h := by
    rw [FinMap.get_mapValues] at h
    obtain ⟨old, hold, rfl⟩ := Option.map_eq_some_iff.mp h
    rw [hf, pm.keyed podId old hold]

/-- `all_pods`, in the order in which the hash map is walked. -/
def allPods (order : Enumeration String) : List Pod := order.values pm.pods

end PodManager

end FleetosAgent.Workloads
