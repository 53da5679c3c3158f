import FleetosAgent.Wiring
import FleetosAgent.Workloads.ProbeLoop
import FleetosAgent.Lib.Run

/-! # Ruling D

A pod is not Running until started, policy_enforced and router_connected. Each task that touches the pod table does so in
one section under its lock; a run is any interleaving of such sections. -/

namespace FleetosAgent.Workloads
open Lib

/-! ### One probe result -/

section Apply
variable {config : ProbeLoopConfig} {result : ProbeTickResult} {pod : Pod}

theorem applyProbeResult_gate :
    (applyProbeResult config result pod).pod.canTransitionToRunning = pod.canTransitionToRunning := by
  unfold applyProbeResult ProbeUpdate.restart ProbeUpdate.start ProbeUpdate.reportFailure ProbeUpdate.observe
    Pod.transitionTo Pod.incrementRestart Pod.restartPolicy
  dsimp only
  split_ifs <;> rfl

theorem reportFailure_state (u : ProbeUpdate) : (u.reportFailure result).pod.state = u.pod.state := by
  unfold ProbeUpdate.reportFailure
  split_ifs <;> rfl

theorem start_state (u : ProbeUpdate) : (u.start result).pod.state =
    if u.pod.state = .booting ∧ result.allProbesPassing = true then .running else u.pod.state := by
  unfold ProbeUpdate.start
  split_ifs <;> rfl

/-- A pod that is not Running becomes Running exactly when it is Booting and all its probes pass; the gate is not
    looked at. -/
theorem applyProbeResult_running_iff (h : pod.state ≠ .running) :
    (applyProbeResult config result pod).pod.state = .running ↔
      pod.state = .booting ∧ result.allProbesPassing = true := by
  have wasRunning : decide (pod.state = .running) = false := decide_eq_false h
  have state : (applyProbeResult config result pod).pod.state =
      if pod.state = .booting ∧ result.allProbesPassing = true then .running else pod.state := by
    rw [applyProbeResult, wasRunning, ProbeUpdate.restart, if_neg (by simp), start_state, reportFailure_state]
    rfl
  rw [state]
  split_ifs with hb
  · exact iff_of_true rfl hb
  · exact iff_of_false h hb

end Apply

/-! ### Probe results that a tick can produce -/

/-- Some tick of some probe manager returns this result. -/
def Producible (result : ProbeTickResult) : Prop :=
  ∃ (pm : ProbeManager) (order : Enumeration String) (call : String → ProbeSetCall), result ∈ (pm.tick order call).1

theorem mem_tick {pm : ProbeManager} {order : Enumeration String} {call : String → ProbeSetCall}
    {result : ProbeTickResult} : result ∈ (pm.tick order call).1 ↔
      ∃ podId runner, pm.runners.get podId = some runner ∧ ProbeManager.tickResult podId runner (call podId) = result := by
  simp only [ProbeManager.tick, List.mem_filterMap, order.mem_list, Option.map_eq_some_iff]
  constructor
  · rintro ⟨podId, -, runner, h, rfl⟩
    exact ⟨podId, runner, h, rfl⟩
  · rintro ⟨podId, runner, h, rfl⟩
    exact ⟨podId, FinMap.mem_keys_of_get h, runner, h, rfl⟩

/-! ### Runs -/

inductive GateEvent where
  /-- `boot_pod` adds the record of a pod it has booted. -/
  | boot (podId workloadId tenantId role : String) (runtime : RuntimeKind) (fingerprint : IdentityFingerprint)
      (handle : UInt32)
  /-- `evict_pod` begins the eviction of a pod, and later removes its record. -/
  | beginEviction (podId : String)
  | removePod (podId : String)
  /-- The probe loop processes a result. -/
  | probeResult (result : ProbeTickResult) (produced : Producible result)
  | policyFrame
  | routeFrame (routes : List Routes.RouteEntry)

section Run
variable (api : SpiffeApi) (trustDomain : String) (config : ProbeLoopConfig)

def gateStep (pm : PodManager) : GateEvent → PodManager
  | .boot podId workloadId tenantId role runtime fingerprint handle =>
    pm.addPod (.booted podId workloadId tenantId role runtime fingerprint handle)
  | .beginEviction podId => pm.modifyPod podId Pod.beginEviction Pod.beginEviction_podId
  | .removePod podId => pm.removePod podId
  | .probeResult result _ => (processProbeResult config pm result).1
  | .policyFrame => Wiring.markAllPodsPolicyEnforced pm
  | .routeFrame routes => Wiring.reevaluateRouterConnected api pm routes trustDomain

/-- The step changes the state of the pod `podId` to Running; `pod` is its record afterwards. -/
def BecomesRunning (pm : PodManager) (event : GateEvent) (podId : String) (pod : Pod) : Prop :=
  (gateStep api trustDomain config pm event).getPod podId = some pod ∧ pod.state = .running ∧
    ∀ old, pm.getPod podId = some old → old.state ≠ .running

def GateHolds (pm : PodManager) (event : GateEvent) : Prop :=
  ∀ podId pod, BecomesRunning api trustDomain config pm event podId pod → pod.canTransitionToRunning = true

/-- If the step processes an all-passing result for a Booting pod, the pod has the gate open. -/
def GateOpenOnPass (pm : PodManager) (event : GateEvent) : Prop :=
  ∀ result produced, event = .probeResult result produced → result.allProbesPassing = true →
    ∀ pod, pm.getPod result.podId = some pod → pod.state = .booting → pod.canTransitionToRunning = true

variable {api trustDomain config}

theorem getPod_processProbeResult {pm : PodManager} {result : ProbeTickResult} {podId : String} {pod : Pod}
    (h : (processProbeResult config pm result).1.getPod podId = some pod) :
    ∃ old, pm.getPod podId = some old ∧
      (pod = old ∨ result.podId = podId ∧ pod = (applyProbeResult config result old).pod) := by
  unfold processProbeResult at h
  split at h
  · exact ⟨pod, h, Or.inl rfl⟩
  · rw [PodManager.getPod, PodManager.modifyPod, FinMap.get_modify] at h
    split at h
    · next heq =>
      obtain ⟨old, hold, rfl⟩ := Option.map_eq_some_iff.mp h
      exact ⟨old, heq ▸ hold, Or.inr ⟨heq.symm, rfl⟩⟩
    · exact ⟨pod, h, Or.inl rfl⟩

/-- What one step can do: only an all-passing result for a Booting pod makes a pod Running. -/
theorem becomesRunning_iff {pm : PodManager} {event : GateEvent} {podId : String} {pod : Pod} :
    BecomesRunning api trustDomain config pm event podId pod ↔
      ∃ result produced old, event = .probeResult result produced ∧ result.podId = podId ∧
        result.allProbesPassing = true ∧ pm.getPod podId = some old ∧ old.state = .booting ∧
        pod = (applyProbeResult config result old).pod := by
  constructor
  · rintro ⟨hnew, hrun, hold⟩
    -- Every other section leaves the state of each pod it keeps as it was, or sets another one.
    have unchanged : ∀ old, pm.getPod podId = some old → pod.state ≠ old.state := by
      intro old h same
      exact hold old h (same ▸ hrun)
    cases event with
    | boot p w t r k f handle =>
      rw [gateStep, PodManager.getPod, PodManager.addPod, FinMap.get_insert] at hnew
      split at hnew
      · obtain rfl := Option.some.inj hnew
        cases hrun
      · exact absurd rfl (unchanged pod hnew)
    | beginEviction p =>
      rw [gateStep, PodManager.getPod, PodManager.modifyPod, FinMap.get_modify] at hnew
      split at hnew
      · next heq =>
        obtain ⟨old, h, rfl⟩ := Option.map_eq_some_iff.mp hnew
        rw [Pod.beginEviction_state] at hrun
        split at hrun
        · cases hrun
        · exact absurd hrun (hold old (heq ▸ h))
      · exact absurd rfl (unchanged pod hnew)
    | removePod p =>
      exact absurd rfl (unchanged pod (FinMap.get_remove_eq_some.mp hnew).2)
    | probeResult result produced =>
      obtain ⟨old, h, rfl | ⟨hid, rfl⟩⟩ := getPod_processProbeResult hnew
      · exact absurd rfl (unchanged pod h)
      · obtain ⟨hboot, hpass⟩ := (applyProbeResult_running_iff (hold old h)).mp hrun
        exact ⟨result, produced, old, rfl, hid, hpass, h, hboot, rfl⟩
    | policyFrame =>
      obtain ⟨old, h, rfl⟩ := Option.map_eq_some_iff.mp hnew
      exact absurd rfl (unchanged old h)
    | routeFrame routes =>
      obtain ⟨old, h, rfl⟩ := Option.map_eq_some_iff.mp hnew
      exact absurd rfl (unchanged old h)
  · rintro ⟨result, produced, old, rfl, rfl, hpass, h, hboot, rfl⟩
    have hne : old.state ≠ .running := by rw [hboot]; decide
    refine ⟨?_, (applyProbeResult_running_iff hne).mpr ⟨hboot, hpass⟩, fun old' h' => ?_⟩
    · rw [gateStep, processProbeResult, h]
      show (pm.pods.modify result.podId _).get result.podId = _
      rw [FinMap.get_modify, if_pos rfl]
      exact congrArg (Option.map _) h
    · obtain rfl := Option.some.inj (h.symm.trans h')
      exact hne

theorem gateHolds_iff (pm : PodManager) (event : GateEvent) :
    GateHolds api trustDomain config pm event ↔ GateOpenOnPass pm event := by
  constructor
  · intro h result produced hevent hpass pod hpod hboot
    have gate := h _ _ (becomesRunning_iff.mpr ⟨result, produced, pod, hevent, rfl, hpass, hpod, hboot, rfl⟩)
    rwa [applyProbeResult_gate] at gate
  · intro h podId pod hrun
    obtain ⟨result, produced, old, hevent, rfl, hpass, hold, hboot, rfl⟩ := becomesRunning_iff.mp hrun
    rw [applyProbeResult_gate]
    exact h result produced hevent hpass old hold hboot

/-- In every interleaving: every pod that becomes Running has the gate open at that moment, exactly when no all-passing
    result is ever processed for a Booting pod whose gate is closed. -/
theorem rulingD_run_iff (events : List GateEvent) :
    Along (gateStep api trustDomain config) (GateHolds api trustDomain config) .new events ↔
      Along (gateStep api trustDomain config) GateOpenOnPass .new events :=
  along_congr gateHolds_iff

end Run

/-! ### A pod without probes -/

def noProbesResult (podId : String) : ProbeTickResult where
  podId := podId
  live := true
  ready := true
  allProbesPassing := true
  probeFailed := false

theorem noProbesResult_producible (podId : String) : Producible (noProbesResult podId) := by
  have call : ProbeCall := ⟨0, 0, .ok ()⟩
  refine ⟨({} : ProbeManager).registerPod podId (.new none 0), .arbitrary, fun _ => ⟨call, call, call⟩, ?_⟩
  exact mem_tick.mpr ⟨podId, .new none 0, FinMap.get_insert_self _ _ _, rfl⟩

/-- A pod boots and its probes pass before any policy or route frame has arrived: it is Running, with the gate closed. -/
theorem rulingD_run_ungated :
    ¬Along (gateStep textApi "td" {}) (GateHolds textApi "td" {}) .new
      [.boot "web-0" "web" "tenant" "primary" .cloudHypervisor ⟨.replicate 16 0⟩ 3,
        .probeResult (noProbesResult "web-0") (noProbesResult_producible "web-0")] := by
  intro h
  obtain ⟨-, h⟩ := along_cons.mp h
  have gate := (gateHolds_iff _ _).mp (along_cons.mp h).1
  exact absurd (gate _ _ rfl rfl _ rfl rfl) (by decide)

end FleetosAgent.Workloads
