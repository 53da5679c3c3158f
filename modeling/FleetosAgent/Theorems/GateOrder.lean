import FleetosAgent.Theorems.RouteWatch
import FleetosAgent.Theorems.PolicySync
import FleetosAgent.Theorems.RulingD

/-! # The gates of a pod and the order of events

The gate bits of a pod are written only by the second section of a turn of a watch loop. So what they say once a frame has
been handled depends on whether a turn ended after the pod was booted: a pod that comes after the frames keeps the bits of
a new record. -/

namespace FleetosAgent.Wiring
open Lib Workloads Routes Policy

section Events
variable {api : SpiffeApi} {c : PolicyCompiler} (config : AgentConfig api)

/-- The event marks the pods: a turn of the loop of WatchSag that went well ends. -/
def marks (w : AgentWorld) : AgentEvent c → Option Unit
  | .markPods => if w.marking then some () else none
  | _ => none

/-- The event re-evaluates the pods, for these routes: a turn of the loop of WatchRoutes that went well ends. -/
def reevaluates (w : AgentWorld) : AgentEvent c → Option (List RouteEntry)
  | .reevaluatePods => w.reevaluating
  | _ => none

/-- The event applies a route frame with these routes. -/
def appliesRoutes (w : AgentWorld) : AgentEvent c → Option (List RouteEntry)
  | .routeFrame frame =>
    if w.reevaluating.isSome then none
    else if routeApplied api config.ownNodeSpiffeId w.watch.routes frame then some frame.update.routes
    else none
  | _ => none

/-- The event neither adds nor removes the record of the pod `podId`. -/
def KeepsRecord (podId : String) : AgentEvent c → Prop
  | .boot podId' .. => podId' ≠ podId
  | .removePod podId' => podId' ≠ podId
  | _ => True

variable {config} {w : AgentWorld} {event : AgentEvent c} {podId : String} {pod : Pod}

/-- Routes that are applied are re-evaluated by the turn's second section, before the next ones are applied. -/
theorem appliesRoutes_eq : w.reevaluating.toList ++ (appliesRoutes config w event).toList =
    (reevaluates w event).toList ++ (agentStep c config w event).reevaluating.toList := by
  cases event with
  | routeFrame frame =>
    cases hr : w.reevaluating with
    | some routes => simp [appliesRoutes, reevaluates, agentStep, hr]
    | none => simp [appliesRoutes, reevaluates, agentStep, hr]
  | reevaluatePods =>
    cases hr : w.reevaluating with
    | some routes => simp [appliesRoutes, reevaluates, agentStep, hr]
    | none => simp [appliesRoutes, reevaluates, agentStep, hr]
  | sagFrame frame =>
    rw [agentStep]
    split <;> simp [appliesRoutes, reevaluates]
  | markPods =>
    rw [agentStep]
    split <;> simp [appliesRoutes, reevaluates]
  | boot _ _ _ _ _ _ _ => simp [appliesRoutes, reevaluates, agentStep]
  | beginEviction _ => simp [appliesRoutes, reevaluates, agentStep]
  | removePod _ => simp [appliesRoutes, reevaluates, agentStep]
  | probeResult _ => simp [appliesRoutes, reevaluates, agentStep]

/-! ### What one event does to a pod -/

theorem routerConnected_congr {routes : List RouteEntry} {trustDomain : String} {pod' : Pod}
    (ht : pod'.tenantId = pod.tenantId) (hw : pod'.workloadId = pod.workloadId) :
    routerConnected api routes trustDomain pod' = routerConnected api routes trustDomain pod := by
  simp only [routerConnected, ht, hw]

/-- What the gates of a pod are computed from, and the gates. -/
structure Gates where
  tenantId : String
  workloadId : String
  policyEnforced : Bool
  routerConnected : Bool

def gates (pod : Pod) : Gates := ⟨pod.tenantId, pod.workloadId, pod.policyEnforced, pod.routerConnected⟩

theorem gates_applyProbeResult (probes : ProbeLoopConfig) (result : ProbeTickResult) :
    gates (applyProbeResult probes result pod).pod = gates pod := by
  unfold applyProbeResult ProbeUpdate.restart ProbeUpdate.start ProbeUpdate.reportFailure ProbeUpdate.observe
    Pod.transitionTo Pod.incrementRestart Pod.restartPolicy
  dsimp only
  split_ifs <;> rfl

theorem gates_beginEviction : gates pod.beginEviction = gates pod := by
  unfold Pod.beginEviction
  split <;> rfl

/-- A change of one record that does not touch the gates. -/
theorem gates_modifyPod {pm : PodManager} {change : Pod → Pod} (hid : ∀ pod, (change pod).podId = pod.podId)
    (hgates : ∀ pod, gates (change pod) = gates pod) (h : pm.getPod podId = some pod) (changed : String) :
    ∃ pod', (pm.modifyPod changed change hid).getPod podId = some pod' ∧ gates pod' = gates pod := by
  rw [PodManager.getPod_modifyPod]
  split
  · next same =>
    refine ⟨change pod, ?_, hgates pod⟩
    rw [← same, h]
    rfl
  · exact ⟨pod, h, rfl⟩

/-- The gates of a pod after an event, from its gates before. -/
def gatesAfter (config : AgentConfig api) (w : AgentWorld) (event : AgentEvent c) (pod : Pod) : Gates where
  tenantId := pod.tenantId
  workloadId := pod.workloadId
  policyEnforced := pod.policyEnforced || (marks w event).isSome
  routerConnected := (reevaluates w event).elim pod.routerConnected fun routes =>
    routerConnected api routes config.trustDomain pod

theorem gates_agentStep (hkeep : KeepsRecord podId event) (h : w.pods.getPod podId = some pod) :
    ∃ pod', (agentStep c config w event).pods.getPod podId = some pod' ∧ gates pod' = gatesAfter config w event pod := by
  have same : gates pod = ⟨pod.tenantId, pod.workloadId, pod.policyEnforced || false, pod.routerConnected⟩ := by
    simp [gates]
  cases event with
  | sagFrame frame =>
    refine ⟨pod, ?_, same⟩
    rw [agentStep]
    split <;> exact h
  | routeFrame frame =>
    refine ⟨pod, ?_, same⟩
    rw [agentStep]
    split <;> exact h
  | markPods =>
    rw [agentStep]
    cases hm : w.marking with
    | false => exact ⟨pod, h, by simp [gates, gatesAfter, marks, reevaluates, hm]⟩
    | true =>
      refine ⟨{ pod with policyEnforced := true }, congrArg (Option.map _) h, ?_⟩
      simp [gates, gatesAfter, marks, reevaluates, hm]
  | reevaluatePods =>
    rw [agentStep]
    cases hr : w.reevaluating with
    | none => exact ⟨pod, h, by simp [gates, gatesAfter, marks, reevaluates, hr]⟩
    | some routes =>
      refine ⟨{ pod with routerConnected := routerConnected api routes config.trustDomain pod },
        congrArg (Option.map _) h, ?_⟩
      simp [gates, gatesAfter, marks, reevaluates, hr]
  | boot podId' workloadId tenantId role runtime fingerprint handle =>
    refine ⟨pod, ?_, same⟩
    rw [agentStep, PodManager.getPod_addPod]
    exact (if_neg fun e => hkeep e.symm).trans h
  | removePod podId' =>
    exact ⟨pod, PodManager.getPod_removePod_eq_some.mpr ⟨fun e => hkeep e.symm, h⟩, same⟩
  | beginEviction podId' =>
    obtain ⟨pod', hget, hgates⟩ := gates_modifyPod Pod.beginEviction_podId (fun _ => gates_beginEviction) h podId'
    exact ⟨pod', hget, hgates.trans same⟩
  | probeResult result =>
    rw [agentStep, processProbeResult]
    cases hp : w.pods.getPod result.podId with
    | none => exact ⟨pod, h, same⟩
    | some found =>
      obtain ⟨pod', hget, hgates⟩ := gates_modifyPod (applyProbeResult_podId config.probes result)
        (fun _ => gates_applyProbeResult config.probes result) h result.podId
      exact ⟨pod', hget, hgates.trans same⟩

end Events

/-! ### Runs -/

section Runs
variable {api : SpiffeApi} {c : PolicyCompiler} (config : AgentConfig api)

theorem applied_eq_reevaluated (events : List (AgentEvent c)) :
    emitted (agentStep c config) (appliesRoutes config) {} events =
      emitted (agentStep c config) reevaluates {} events ++
        (events.foldl (agentStep c config) {}).reevaluating.toList := by
  induction events using List.reverseRecOn with
  | nil => rfl
  | append_singleton events event ih =>
    rw [emitted_concat, emitted_concat, ih, List.append_assoc, List.append_assoc, appliesRoutes_eq, List.foldl_concat]

/-- The gates of a pod after a run that keeps its record: one mark sets the first, the last re-evaluation the second. -/
theorem gates_run {w : AgentWorld} {podId : String} {pod : Pod} (events : List (AgentEvent c))
    (hkeep : ∀ event ∈ events, KeepsRecord podId event) (h : w.pods.getPod podId = some pod) :
    ∃ pod', (events.foldl (agentStep c config) w).pods.getPod podId = some pod' ∧
      pod'.tenantId = pod.tenantId ∧ pod'.workloadId = pod.workloadId ∧
      pod'.policyEnforced = (pod.policyEnforced || !(emitted (agentStep c config) marks w events).isEmpty) ∧
      pod'.routerConnected = (emitted (agentStep c config) reevaluates w events).getLast?.elim pod.routerConnected
        fun routes => routerConnected api routes config.trustDomain pod := by
  induction events using List.reverseRecOn with
  | nil => exact ⟨pod, h, rfl, rfl, by simp, rfl⟩
  | append_singleton events event ih =>
    obtain ⟨before, hget, tenant, workload, policy, router⟩ := ih fun event hmem => hkeep event (by simp [hmem])
    obtain ⟨after, hget', hgates⟩ : ∃ after, (agentStep c config _ event).pods.getPod podId = some after ∧
        gates after = gatesAfter config _ event before := gates_agentStep (hkeep event (by simp)) hget
    obtain ⟨tenant', workload', policy', router'⟩ := Gates.mk.inj hgates
    rw [List.foldl_concat, emitted_concat, emitted_concat]
    refine ⟨after, hget', tenant'.trans tenant, workload'.trans workload, ?_, ?_⟩
    · rw [policy', policy]
      cases marks (events.foldl (agentStep c config) w) event <;> simp
    · rw [router', router]
      simp only [routerConnected_congr tenant workload]
      cases reevaluates (events.foldl (agentStep c config) w) event <;> simp

/-- The gates of the pod say what they say of a pod that is booted before any frame: the policy is enforced, and the routes
    decide about the connection. -/
def GatesCurrent (routes : List RouteEntry) (podId : String) (w : AgentWorld) : Prop :=
  ∃ pod, w.pods.getPod podId = some pod ∧ pod.policyEnforced = true ∧
    pod.routerConnected = routerConnected api routes config.trustDomain pod

/-- The boot of a pod among the sections of the watch loops and of the other tasks. -/
structure BootOrder (c : PolicyCompiler) (podId : String) where
  before : List (AgentEvent c)
  workloadId : String
  tenantId : String
  role : String
  runtime : RuntimeKind
  fingerprint : IdentityFingerprint
  handle : UInt32
  after : List (AgentEvent c)
  keeps : ∀ event ∈ after, KeepsRecord podId event

namespace BootOrder
variable {podId : String} (order : BootOrder c podId)

def pod : Pod :=
  .booted podId order.workloadId order.tenantId order.role order.runtime order.fingerprint order.handle

def boot : AgentEvent c :=
  .boot podId order.workloadId order.tenantId order.role order.runtime order.fingerprint order.handle

def events : List (AgentEvent c) := order.before ++ order.boot :: order.after

/-- The state right after the boot. -/
def booted : AgentWorld := agentStep c config (order.before.foldl (agentStep c config) {}) order.boot

/-- The state once all has happened. -/
def final : AgentWorld := order.events.foldl (agentStep c config) {}

theorem final_eq : order.final config = order.after.foldl (agentStep c config) (order.booted config) := by
  rw [final, events, List.foldl_append, List.foldl_cons, booted]

theorem getPod_booted : (order.booted config).pods.getPod podId = some order.pod := by
  rw [booted, boot, agentStep, PodManager.getPod_addPod]
  exact if_pos rfl

/-- What the turns after the boot re-evaluate comes last of what all turns re-evaluate. -/
theorem getLast?_reevaluated (h : emitted (agentStep c config) reevaluates (order.booted config) order.after ≠ []) :
    (emitted (agentStep c config) reevaluates {} order.events).getLast? =
      (emitted (agentStep c config) reevaluates (order.booted config) order.after).getLast? := by
  have boot_none : reevaluates (order.before.foldl (agentStep c config) {}) order.boot = none := rfl
  rw [events, emitted_append, emitted, boot_none, Option.toList_none, List.nil_append]
  exact List.getLast?_append_of_ne_nil _ h

end BootOrder

variable {config} {podId : String} {routes : List RouteEntry}

/-- Once the turns are done, the gates of the pod are current exactly if a turn of each loop ended after the boot; a pod
    that the routes do not connect needs none of WatchRoutes, its record starts out that way. -/
theorem gates_order_iff (order : BootOrder c podId) (idle : (order.final config).reevaluating = none)
    (newest : (emitted (agentStep c config) (appliesRoutes config) {} order.events).getLast? = some routes) :
    GatesCurrent config routes podId (order.final config) ↔
      emitted (agentStep c config) marks (order.booted config) order.after ≠ [] ∧
      (emitted (agentStep c config) reevaluates (order.booted config) order.after ≠ [] ∨
        routerConnected api routes config.trustDomain order.pod = false) := by
  have all_reevaluated : (emitted (agentStep c config) reevaluates {} order.events).getLast? = some routes := by
    rw [applied_eq_reevaluated, ← BootOrder.final, idle, Option.toList_none, List.append_nil] at newest
    exact newest
  obtain ⟨pod, hget, tenant, workload, policy, router⟩ :=
    gates_run config order.after order.keeps (order.getPod_booted config)
  have current : GatesCurrent config routes podId (order.final config) ↔ pod.policyEnforced = true ∧
      pod.routerConnected = routerConnected api routes config.trustDomain order.pod := by
    rw [GatesCurrent, order.final_eq, hget]
    simp [routerConnected_congr tenant workload]
  rw [current, policy, router]
  refine and_congr (by simp [BootOrder.pod, Pod.booted, Pod.new]) ?_
  by_cases none_after : emitted (agentStep c config) reevaluates (order.booted config) order.after = []
  · have unconnected : order.pod.routerConnected = false := rfl
    rw [none_after, List.getLast?_nil, Option.elim_none, unconnected, eq_comm]
    simp
  · rw [← order.getLast?_reevaluated config none_after, all_reevaluated]
    simp [none_after]

end Runs

/-! ### A pod that comes late -/

section Samples

def sampleConfig : AgentConfig textApi where
  trustDomain := "td"
  dataTrustDomain := "td"
  ownNodeSpiffeId := nodeA

noncomputable def sampleTurns : List (AgentEvent passthrough) :=
  [.sagFrame (tcpFrame 1 1), .markPods, .routeFrame (webFrame "node-a" 1), .reevaluatePods]

theorem sag_sample_step (pods : PodManager) : ∃ policy, agentStep passthrough sampleConfig { pods := pods }
    (.sagFrame (tcpFrame 1 1)) = { policy := policy, pods := pods, marking := true } := by
  have fresh : Policy.Accepts passthrough "td" ({} : PolicyWorld).state.currentVersion (tcpFrame 1 1).update
      ⟨[tcpRule 1 1]⟩ := ⟨by decide, rfl⟩
  have ok : (syncPolicy passthrough "td" {} (tcpFrame 1 1).update quiet).1 = .ok () := by
    rw [syncPolicy_mirrored quiet_healthy Policy.mirrored_empty fresh]
  refine ⟨(syncPolicy passthrough "td" {} (tcpFrame 1 1).update quiet).2, ?_⟩
  simp only [agentStep, Bool.false_eq_true, if_false]
  exact congrArg (fun result : Except AgentError Unit => AgentWorld.mk _ {} pods result.isOk none) ok

theorem sample_routeApplied : routeApplied textApi nodeA {} (webFrame "node-a" 1) = true :=
  routeApplied_iff.mpr (applies_of_mirrored ⟨rfl, fun _ => rfl⟩ Routes.mirrored_empty
    (⟨by decide, webFrame_resolves "node-a" 1⟩ : Routes.Accepts textApi ({} : RouteWorld).state.currentVersion
      (webFrame "node-a" 1).update [webRoute "node-a" 1]))

theorem route_sample_step (policy : PolicyWorld) (pods : PodManager) :
    agentStep passthrough sampleConfig { policy := policy, pods := pods } (.routeFrame (webFrame "node-a" 1)) =
      { policy := policy, watch := routesWatchStep textApi nodeA {} (webFrame "node-a" 1), pods := pods,
        reevaluating := some (webFrame "node-a" 1).update.routes } := by
  have reevaluating : (if routeApplied textApi nodeA {} (webFrame "node-a" 1) then
      some (webFrame "node-a" 1).update.routes else none) = some (webFrame "node-a" 1).update.routes :=
    if_pos sample_routeApplied
  exact congrArg (AgentWorld.mk policy _ pods false) reevaluating

/-- The turns of the two loops: each frame is applied, and then the pods are brought up to date. -/
theorem sampleTurns_run (pods : PodManager) : ∃ policy watch,
    sampleTurns.foldl (agentStep passthrough sampleConfig) { pods := pods } =
      { policy := policy, watch := watch,
        pods := reevaluateRouterConnected textApi (markAllPodsPolicyEnforced pods)
          (webFrame "node-a" 1).update.routes "td" } ∧
    emitted (agentStep passthrough sampleConfig) marks { pods := pods } sampleTurns = [()] ∧
    emitted (agentStep passthrough sampleConfig) reevaluates { pods := pods } sampleTurns =
      [(webFrame "node-a" 1).update.routes] ∧
    emitted (agentStep passthrough sampleConfig) (appliesRoutes sampleConfig) { pods := pods } sampleTurns =
      [(webFrame "node-a" 1).update.routes] := by
  obtain ⟨policy, sag_step⟩ := sag_sample_step pods
  have mark_step : agentStep passthrough sampleConfig { policy := policy, pods := pods, marking := true } .markPods =
      { policy := policy, pods := markAllPodsPolicyEnforced pods } := rfl
  refine ⟨policy, routesWatchStep textApi nodeA {} (webFrame "node-a" 1), ?_, ?_, ?_, ?_⟩
  · simp only [sampleTurns, List.foldl_cons, List.foldl_nil, sag_step, mark_step, route_sample_step]
    rfl
  · simp [sampleTurns, emitted, sag_step, marks]
  · simp [sampleTurns, emitted, sag_step, mark_step, route_sample_step, reevaluates]
  · have applies : routeApplied textApi sampleConfig.ownNodeSpiffeId {} (webFrame "node-a" 1) = true := sample_routeApplied
    simp [sampleTurns, emitted, sag_step, mark_step, appliesRoutes, applies]

def webBoot (before after : List (AgentEvent passthrough)) (keeps : ∀ event ∈ after, KeepsRecord "web-0" event) :
    BootOrder passthrough "web-0" where
  before := before
  workloadId := "web"
  tenantId := "acme"
  role := "frontend"
  runtime := .containerd
  fingerprint := ⟨.replicate 16 0⟩
  handle := 7
  after := after
  keeps := keeps

noncomputable def earlyBoot : BootOrder passthrough "web-0" :=
  webBoot [] sampleTurns (by simp [sampleTurns, KeepsRecord])

noncomputable def lateBoot : BootOrder passthrough "web-0" := webBoot sampleTurns [] nofun

theorem gates_order_of_earlyBoot :
    GatesCurrent sampleConfig (webFrame "node-a" 1).update.routes "web-0" (earlyBoot.final sampleConfig) := by
  obtain ⟨policy, watch, hrun, hmarks, hreev, happ⟩ := sampleTurns_run (earlyBoot.booted sampleConfig).pods
  have start : earlyBoot.booted sampleConfig = { pods := (earlyBoot.booted sampleConfig).pods } := rfl
  have idle : (earlyBoot.final sampleConfig).reevaluating = none := by
    rw [BootOrder.final_eq, start]
    exact congrArg AgentWorld.reevaluating hrun
  have newest : (emitted (agentStep passthrough sampleConfig) (appliesRoutes sampleConfig) {} earlyBoot.events).getLast? =
      some (webFrame "node-a" 1).update.routes := congrArg List.getLast? happ
  refine (gates_order_iff earlyBoot idle newest).mpr ⟨?_, Or.inl ?_⟩
  · exact ne_of_eq_of_ne hmarks (List.cons_ne_nil _ _)
  · exact ne_of_eq_of_ne hreev (List.cons_ne_nil _ _)

/-- Both turns have ended when the pod is booted: it waits for the next frames, with the gates of a new record. -/
theorem gates_stale_of_lateBoot :
    (lateBoot.final sampleConfig).marking = false ∧ (lateBoot.final sampleConfig).reevaluating = none ∧
    emitted (agentStep passthrough sampleConfig) marks {} lateBoot.events = [()] ∧
    (emitted (agentStep passthrough sampleConfig) (appliesRoutes sampleConfig) {} lateBoot.events).getLast? =
      some (webFrame "node-a" 1).update.routes ∧
    ¬GatesCurrent sampleConfig (webFrame "node-a" 1).update.routes "web-0" (lateBoot.final sampleConfig) := by
  obtain ⟨policy, watch, hrun, hmarks, -, happ⟩ := sampleTurns_run .new
  have final : lateBoot.final sampleConfig =
      agentStep passthrough sampleConfig (sampleTurns.foldl (agentStep passthrough sampleConfig) {}) lateBoot.boot :=
    lateBoot.final_eq sampleConfig
  rw [hrun] at final
  refine ⟨congrArg AgentWorld.marking final, congrArg AgentWorld.reevaluating final, ?_, ?_, ?_⟩
  · rw [BootOrder.events, emitted_append]
    exact congrArg (· ++ []) hmarks
  · rw [BootOrder.events, emitted_append]
    exact congrArg (fun applied => (applied ++ []).getLast?) happ
  · rintro ⟨pod, hget, policy, -⟩
    rw [BootOrder.final_eq, show lateBoot.after = [] from rfl, List.foldl_nil, BootOrder.getPod_booted] at hget
    obtain rfl := Option.some.inj hget
    cases policy

end Samples

end FleetosAgent.Wiring
