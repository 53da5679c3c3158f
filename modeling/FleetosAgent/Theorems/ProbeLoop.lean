import FleetosAgent.Theorems.Probes
import FleetosAgent.Theorems.RulingD
import Mathlib.Tactic.Common

/-! # The probe loop over whole runs

What one probe result does to the record of its pod is said once, field by field. Over a run of results that makes
ProbeFailed the edge of a failure episode; together with the other sections that write the state of a record, it makes
the record follow the pod state machine within its restart budget. -/

namespace FleetosAgent.Workloads
open Lib

/-! ### One result -/

section Result
variable {config : ProbeLoopConfig} {result : ProbeTickResult} {pod : Pod}

/-- The result restarts the pod: it was Running, is not live and has restarts left. -/
def Restarts (config : ProbeLoopConfig) (result : ProbeTickResult) (pod : Pod) : Prop :=
  pod.state = .running ∧ result.live = false ∧ pod.restartCount < config.maxRestartAttempts

instance : Decidable (Restarts config result pod) := inferInstanceAs (Decidable (_ ∧ _))

/-- The record and the flags just before the restart is considered. -/
def beforeRestart (result : ProbeTickResult) (pod : Pod) : ProbeUpdate :=
  (ProbeUpdate.reportFailure { pod := ProbeUpdate.observe pod result } result).start result

/-- A failing result of a pod that has passed leaves the failure reported; any other result leaves it unreported. -/
theorem reportFailure_pod (u : ProbeUpdate) : (u.reportFailure result).pod =
    { u.pod with probeFailureReported := result.probeFailed && (u.pod.probeFailureReported || u.pod.probeEverPassed) } := by
  unfold ProbeUpdate.reportFailure
  split_ifs with hemit hclean
  · obtain ⟨⟨hfailed, hpassed⟩, -⟩ : (result.probeFailed = true ∧ u.pod.probeEverPassed = true) ∧ _ := by simpa using hemit
    rw [hfailed, hpassed, Bool.or_true, Bool.and_self]
  · have hclean : result.probeFailed = false := by simpa using hclean
    rw [hclean, Bool.false_and]
  · have same : (result.probeFailed && (u.pod.probeFailureReported || u.pod.probeEverPassed)) =
        u.pod.probeFailureReported := by
      cases hrep : u.pod.probeFailureReported <;> simp_all
    rw [same]

theorem start_pod (u : ProbeUpdate) : (u.start result).pod = { u.pod with
    state := if u.pod.state = .booting ∧ result.allProbesPassing = true then .running else u.pod.state } := by
  unfold ProbeUpdate.start
  split_ifs <;> rfl

/-- The record just before the restart is considered: the flags of the result, and the moves that it can make. -/
theorem beforeRestart_pod : (beforeRestart result pod).pod = { pod with
    probeLive := result.live
    probeReady := result.ready
    probeEverPassed := pod.probeEverPassed || result.allProbesPassing
    probeFailureReported := result.probeFailed &&
      (pod.probeFailureReported || (pod.probeEverPassed || result.allProbesPassing))
    state := if pod.state = .booting ∧ result.allProbesPassing = true then .running else pod.state } := by
  rw [beforeRestart, start_pod, reportFailure_pod]
  rfl

theorem beforeRestart_emits : (beforeRestart result pod).emits.probeFailed =
    (result.probeFailed && (pod.probeEverPassed || result.allProbesPassing) && !pod.probeFailureReported) := by
  have start : ∀ u : ProbeUpdate, (u.start result).emits.probeFailed = u.emits.probeFailed := by
    intro u
    unfold ProbeUpdate.start
    split_ifs <;> rfl
  rw [beforeRestart, start]
  unfold ProbeUpdate.reportFailure ProbeUpdate.observe
  cases result.probeFailed <;> cases pod.probeFailureReported <;>
    cases pod.probeEverPassed || result.allProbesPassing <;> rfl

theorem applyProbeResult_eq : applyProbeResult config result pod =
    (beforeRestart result pod).restart config (decide (pod.state = .running)) result := rfl

theorem applyProbeResult_of_restarts (h : Restarts config result pod) : applyProbeResult config result pod =
    { beforeRestart result pod with
      pod := { (beforeRestart result pod).pod.incrementRestart.transitionTo .booting with
        probeFailureReported := false } } := by
  obtain ⟨hrun, hlive, hcount⟩ := h
  have left : ¬config.maxRestartAttempts ≤ (beforeRestart result pod).pod.restartCount := by
    rw [beforeRestart_pod, UInt32.not_le]
    exact hcount
  rw [applyProbeResult_eq, ProbeUpdate.restart, if_pos (by simp [hrun, hlive])]
  exact if_neg left

/-- Where the pod is not restarted, the record stays as it is: a BackOff sets its liveness to what it is already. -/
theorem applyProbeResult_of_not_restarts (h : ¬Restarts config result pod) :
    (applyProbeResult config result pod).pod = (beforeRestart result pod).pod ∧
      (applyProbeResult config result pod).emits.probeFailed = (beforeRestart result pod).emits.probeFailed := by
  rw [applyProbeResult_eq]
  by_cases hdown : (decide (pod.state = .running) && !result.live) = true
  · have hdown' : pod.state = .running ∧ result.live = false := by simpa using hdown
    have spent : config.maxRestartAttempts ≤ (beforeRestart result pod).pod.restartCount := by
      rw [beforeRestart_pod, ← UInt32.not_lt]
      exact fun hlt => h ⟨hdown'.1, hdown'.2, hlt⟩
    have backOff : (beforeRestart result pod).restart config (decide (pod.state = .running)) result =
        { pod := { (beforeRestart result pod).pod with probeLive := false },
          emits := { (beforeRestart result pod).emits with backOff := true } } := (if_pos hdown).trans (if_pos spent)
    have live : (beforeRestart result pod).pod.probeLive = false := by rw [beforeRestart_pod]; exact hdown'.2
    rw [backOff]
    refine ⟨?_, rfl⟩
    dsimp only
    rw [← live]
  · have untouched : (beforeRestart result pod).restart config (decide (pod.state = .running)) result =
        beforeRestart result pod := if_neg hdown
    rw [untouched]
    exact ⟨rfl, rfl⟩

theorem applyProbeResult_state : (applyProbeResult config result pod).pod.state =
    if Restarts config result pod then .booting
    else if pod.state = .booting ∧ result.allProbesPassing = true then .running else pod.state := by
  by_cases h : Restarts config result pod
  · rw [applyProbeResult_of_restarts h, if_pos h]
    rfl
  · rw [(applyProbeResult_of_not_restarts h).1, if_neg h, beforeRestart_pod]

theorem applyProbeResult_restartCount : (applyProbeResult config result pod).pod.restartCount =
    if Restarts config result pod then pod.restartCount + 1 else pod.restartCount := by
  by_cases h : Restarts config result pod
  · rw [applyProbeResult_of_restarts h, if_pos h, beforeRestart_pod]
    rfl
  · rw [(applyProbeResult_of_not_restarts h).1, if_neg h, beforeRestart_pod]

theorem applyProbeResult_everPassed : (applyProbeResult config result pod).pod.probeEverPassed =
    (pod.probeEverPassed || result.allProbesPassing) := by
  by_cases h : Restarts config result pod
  · rw [applyProbeResult_of_restarts h, beforeRestart_pod]
    rfl
  · rw [(applyProbeResult_of_not_restarts h).1, beforeRestart_pod]

theorem applyProbeResult_reported : (applyProbeResult config result pod).pod.probeFailureReported =
    (!decide (Restarts config result pod) &&
      (result.probeFailed && (pod.probeFailureReported || (pod.probeEverPassed || result.allProbesPassing)))) := by
  by_cases h : Restarts config result pod
  · rw [applyProbeResult_of_restarts h, decide_eq_true h]
    rfl
  · rw [(applyProbeResult_of_not_restarts h).1, beforeRestart_pod, decide_eq_false h]
    rfl

/-- A failure is reported for pods that have passed only, so after a result it is reported if the result failed, the pod has
    passed by then and it was not restarted. -/
theorem reported_applyProbeResult_iff (hsticky : pod.probeFailureReported = true → pod.probeEverPassed = true) :
    (applyProbeResult config result pod).pod.probeFailureReported = true ↔ result.probeFailed = true ∧
      (applyProbeResult config result pod).pod.probeEverPassed = true ∧ ¬Restarts config result pod := by
  rw [applyProbeResult_reported, applyProbeResult_everPassed]
  simp only [Bool.and_eq_true, Bool.not_eq_true', decide_eq_false_iff_not]
  constructor
  · rintro ⟨hstay, hfailed, hreported⟩
    refine ⟨hfailed, ?_, hstay⟩
    rcases Bool.or_eq_true _ _ ▸ hreported with hreported | hpassed
    · rw [hsticky hreported, Bool.true_or]
    · exact hpassed
  · rintro ⟨hfailed, hpassed, hstay⟩
    exact ⟨hstay, hfailed, by rw [hpassed, Bool.or_true]⟩

theorem applyProbeResult_emits : (applyProbeResult config result pod).emits.probeFailed =
    (result.probeFailed && (pod.probeEverPassed || result.allProbesPassing) && !pod.probeFailureReported) := by
  rw [← beforeRestart_emits]
  by_cases h : Restarts config result pod
  · rw [applyProbeResult_of_restarts h]
  · exact (applyProbeResult_of_not_restarts h).2

/-- A restart is the only way from Running to Booting. -/
theorem restarts_iff : Restarts config result pod ↔
    pod.state = .running ∧ (applyProbeResult config result pod).pod.state = .booting := by
  rw [applyProbeResult_state]
  constructor
  · intro h
    exact ⟨h.1, if_pos h⟩
  · rintro ⟨hrun, hboot⟩
    by_contra h
    simp [h, hrun] at hboot

end Result

/-! ### Failure episodes -/

section Episodes
variable {config : ProbeLoopConfig} {pm : PodManager} {podId : String} {pod : Pod} {result : ProbeTickResult}

/-- The pod table after a result. -/
def afterResult (config : ProbeLoopConfig) (pm : PodManager) (result : ProbeTickResult) : PodManager :=
  (processProbeResult config pm result).1

theorem getPod_afterResult (hpod : pm.getPod podId = some pod) (hid : result.podId = podId) :
    (afterResult config pm result).getPod podId = some (applyProbeResult config result pod).pod := by
  unfold afterResult processProbeResult
  rw [hid, hpod]
  dsimp only
  rw [PodManager.getPod_modifyPod, if_pos rfl, hpod]
  rfl

/-- The record after the results. -/
def afterResults (config : ProbeLoopConfig) (start : Pod) (results : List ProbeTickResult) : Pod :=
  results.foldl (fun pod r => (applyProbeResult config r pod).pod) start

theorem getPod_results (hpod : pm.getPod podId = some pod) {results : List ProbeTickResult}
    (hid : ∀ r ∈ results, r.podId = podId) :
    (results.foldl (afterResult config) pm).getPod podId = some (afterResults config pod results) := by
  induction results generalizing pm pod with
  | nil => exact hpod
  | cons r results ih =>
    obtain ⟨hr, hrest⟩ := List.forall_mem_cons.mp hid
    exact ih (getPod_afterResult hpod hr) hrest

/-- The result restarts the pod: its record goes from Running to Booting. -/
def RestartsPod (config : ProbeLoopConfig) (pm : PodManager) (podId : String) (result : ProbeTickResult) : Prop :=
  (pm.getPod podId).map (·.state) = some .running ∧
    ((afterResult config pm result).getPod podId).map (·.state) = some .booting

theorem restartsPod_iff (hpod : pm.getPod podId = some pod) (hid : result.podId = podId) :
    RestartsPod config pm podId result ↔ Restarts config result pod := by
  rw [RestartsPod, getPod_afterResult hpod hid, hpod, restarts_iff, Option.map_some, Option.map_some, Option.some_inj,
    Option.some_inj]

theorem emits_probeFailed_iff (hpod : pm.getPod podId = some pod) (hid : result.podId = podId) :
    (podId, .probeFailed) ∈ (processProbeResult config pm result).2 ↔
      (applyProbeResult config result pod).emits.probeFailed = true := by
  unfold processProbeResult
  rw [hid, hpod]
  cases h : (applyProbeResult config result pod).emits with
  | mk started backOff probeFailed =>
    cases started <;> cases backOff <;> cases probeFailed <;> simp [h, Emits.events]

theorem afterResults_concat {start : Pod} (results : List ProbeTickResult) :
    afterResults config start (results ++ [result]) =
    (applyProbeResult config result (afterResults config start results)).pod := List.foldl_concat ..

/-- What the two sticky flags of the record say of the results it has seen: some result was all-passing; the last one
    failed after such a result and did not restart the pod. -/
structure Remembers (config : ProbeLoopConfig) (start : Pod) (seen : List ProbeTickResult) : Prop where
  everPassed : (afterResults config start seen).probeEverPassed = true ↔ ∃ r ∈ seen, r.allProbesPassing = true
  reported : (afterResults config start seen).probeFailureReported = true ↔ ∃ earlier last, seen = earlier ++ [last] ∧
    last.probeFailed = true ∧ (∃ r ∈ seen, r.allProbesPassing = true) ∧
    ¬Restarts config last (afterResults config start earlier)

theorem remembers {start : Pod} (hpassed : start.probeEverPassed = false) (hreported : start.probeFailureReported = false)
    (seen : List ProbeTickResult) : Remembers config start seen := by
  induction seen using List.reverseRecOn with
  | nil => exact ⟨by simp [afterResults, hpassed], by simp [afterResults, hreported]⟩
  | append_singleton seen result ih =>
    have everPassed : (afterResults config start (seen ++ [result])).probeEverPassed = true ↔
        ∃ r ∈ seen ++ [result], r.allProbesPassing = true := by
      rw [afterResults_concat, applyProbeResult_everPassed, Bool.or_eq_true, ih.everPassed]
      simp [or_and_right, exists_or]
    refine ⟨everPassed, ?_⟩
    have sticky : (afterResults config start seen).probeFailureReported = true →
        (afterResults config start seen).probeEverPassed = true := by
      intro h
      obtain ⟨-, -, -, -, passed, -⟩ := ih.reported.mp h
      exact ih.everPassed.mpr passed
    have flag : (afterResults config start (seen ++ [result])).probeFailureReported = true ↔
        result.probeFailed = true ∧ (afterResults config start (seen ++ [result])).probeEverPassed = true ∧
          ¬Restarts config result (afterResults config start seen) := by
      rw [afterResults_concat]
      exact reported_applyProbeResult_iff sticky
    rw [flag, everPassed]
    constructor
    · rintro ⟨hfailed, hpass, hstay⟩
      exact ⟨seen, result, rfl, hfailed, hpass, hstay⟩
    · rintro ⟨seen', last, heq, hfailed, hpass, hstay⟩
      obtain ⟨rfl, rfl⟩ := List.append_singleton_inj.mp heq
      exact ⟨hfailed, hpass, hstay⟩

/-- The failure that the next result would report is unreported, in a history with an all-passing result, exactly if the
    last result did not fail or restarted the pod. -/
theorem Remembers.reported_eq_false_iff {start : Pod} {seen : List ProbeTickResult} (h : Remembers config start seen)
    (hpassed : ∃ r ∈ seen, r.allProbesPassing = true) :
    (afterResults config start seen).probeFailureReported = false ↔ ∃ earlier last, seen = earlier ++ [last] ∧
      (last.probeFailed = false ∨ Restarts config last (afterResults config start earlier)) := by
  rw [← Bool.not_eq_true, h.reported]
  constructor
  · intro hnone
    have hne : seen ≠ [] := by
      rintro rfl
      simp at hpassed
    refine ⟨seen.dropLast, seen.getLast hne, (List.dropLast_concat_getLast hne).symm, ?_⟩
    by_contra hboth
    obtain ⟨hfailed, hstay⟩ := not_or.mp hboth
    exact hnone ⟨_, _, (List.dropLast_concat_getLast hne).symm, Bool.not_eq_false _ ▸ hfailed, hpassed, hstay⟩
  · rintro ⟨earlier, last, rfl, hor⟩ ⟨earlier', last', heq, hfailed, -, hstay⟩
    obtain ⟨rfl, rfl⟩ := List.append_singleton_inj.mp heq
    rcases hor with hclean | hrestart
    · simp [hclean] at hfailed
    · exact hstay hrestart

/-- A tick never reports a pod both all-passing and failed. -/
theorem Producible.not_failed (h : Producible result) (hpass : result.allProbesPassing = true) :
    result.probeFailed = false := by
  obtain ⟨pm, order, call, hmem⟩ := h
  obtain ⟨podId, runner, -, rfl⟩ := mem_tick.mp hmem
  have both : (runner.runProbes (call podId)).1 = (true, true) := ProbeSetRunner.reported_of_allPassing hpass
  simp [ProbeManager.tickResult, both]

end Episodes

/-- ProbeFailed marks the edge of a failure episode: over the results of one pod, from its boot on, it is emitted at a
    failing result exactly if some earlier result was all-passing and the result before did not fail or restarted the pod.
    The results of a tick are of the kind that this is about. -/
theorem probeFailed_edge_triggered (config : ProbeLoopConfig) (pm : PodManager)
    (podId workloadId tenantId role : String) (runtime : RuntimeKind) (fingerprint : IdentityFingerprint) (handle : UInt32)
    (hpod : pm.getPod podId = some (.booted podId workloadId tenantId role runtime fingerprint handle))
    (results : List ProbeTickResult)
    (hresults : ∀ r ∈ results, r.podId = podId ∧ (r.allProbesPassing = true → r.probeFailed = false)) :
    (∀ result, Producible result → result.allProbesPassing = true → result.probeFailed = false) ∧
      ∀ before result rest, results = before ++ result :: rest →
        ((podId, .probeFailed) ∈ (processProbeResult config (before.foldl (afterResult config) pm) result).2 ↔
          result.probeFailed = true ∧ (∃ r ∈ before, r.allProbesPassing = true) ∧
            ∃ earlier last, before = earlier ++ [last] ∧
              (last.probeFailed = false ∨ RestartsPod config (earlier.foldl (afterResult config) pm) podId last)) := by
  refine ⟨fun _ => Producible.not_failed, ?_⟩
  rintro before result rest rfl
  have hid : ∀ r ∈ before, r.podId = podId := fun r hr => (hresults r (by simp [hr])).1
  obtain ⟨hresult, hclean⟩ := hresults result (by simp)
  have memory : Remembers config (.booted podId workloadId tenantId role runtime fingerprint handle) before :=
    remembers rfl rfl before
  rw [emits_probeFailed_iff (getPod_results hpod hid) hresult, applyProbeResult_emits]
  simp only [Bool.and_eq_true, Bool.or_eq_true, Bool.not_eq_true', and_assoc]
  refine and_congr_right fun hfailed => ?_
  have hnot : ¬result.allProbesPassing = true := fun h => by simp [hclean h] at hfailed
  rw [or_iff_left hnot, memory.everPassed]
  refine and_congr_right fun hpassed => ?_
  rw [memory.reported_eq_false_iff hpassed]
  refine exists_congr fun earlier => exists_congr fun last => and_congr_right fun heq => ?_
  subst heq
  have hearlier : ∀ r ∈ earlier, r.podId = podId := fun r hr => hid r (by simp [hr])
  rw [restartsPod_iff (getPod_results hpod hearlier) (hid last (by simp))]

/-- The first failure after a passing result is emitted. -/
theorem probeFailed_after_pass :
    let pm := PodManager.new.addPod (.booted "web-0" "web" "tenant" "primary" .containerd ⟨.replicate 16 0⟩ 7)
    let passing : ProbeTickResult := ⟨"web-0", true, true, true, false⟩
    let failing : ProbeTickResult := ⟨"web-0", true, false, false, true⟩
    ("web-0", .probeFailed) ∈ (processProbeResult {} ([passing].foldl (afterResult {}) pm) failing).2 := by
  intro pm passing failing
  have hpod : pm.getPod "web-0" = some (.booted "web-0" "web" "tenant" "primary" .containerd ⟨.replicate 16 0⟩ 7) := by
    rw [PodManager.getPod_addPod]
    rfl
  have hresults : ∀ r ∈ [passing, failing], r.podId = "web-0" ∧ (r.allProbesPassing = true → r.probeFailed = false) := by
    simp [passing, failing]
  exact ((probeFailed_edge_triggered {} pm "web-0" "web" "tenant" "primary" .containerd ⟨.replicate 16 0⟩ 7 hpod
    [passing, failing] hresults).2 [passing] failing [] rfl).mpr
    ⟨rfl, ⟨passing, List.mem_singleton_self _, rfl⟩, [], passing, rfl, Or.inl rfl⟩

/-! ### The pod state machine -/

/-- The sections that write the record of a pod once it is in the table. -/
inductive PodOp where
  | probeResult (result : ProbeTickResult)
  | tryTransitionToRunning
  | startTerminating
  | beginEviction
  | finishTerminating
  | markStarted
  | markPolicyEnforced
  /-- `mark_router_connected`, and the re-evaluation by a route frame, which also takes it back. -/
  | setRouterConnected (connected : Bool)

def PodOp.apply (config : ProbeLoopConfig) (pod : Pod) : PodOp → Pod
  | .probeResult result => (applyProbeResult config result pod).pod
  | .tryTransitionToRunning => pod.tryTransitionToRunning.2
  | .startTerminating => pod.startTerminating
  | .beginEviction => pod.beginEviction
  | .finishTerminating => pod.finishTerminating
  | .markStarted => { pod with started := true }
  | .markPolicyEnforced => { pod with policyEnforced := true }
  | .setRouterConnected connected => { pod with routerConnected := connected }

/-- The moves of the pod state machine after boot. -/
inductive PodState.Move : PodState → PodState → Prop
  | start : Move .booting .running
  | restart : Move .running .booting
  | terminate {state : PodState} : state = .booting ∨ state = .running → Move state .terminating
  | stop : Move .terminating .stopped

/-- Terminating or Stopped. -/
def PodState.Ended (state : PodState) : Prop := state = .terminating ∨ state = .stopped

theorem PodState.Move.ne_pending {state next : PodState} (h : state.Move next) : next ≠ .pending := by
  cases h <;> decide

theorem PodState.Move.ended {state next : PodState} (h : state.Move next) (hended : state.Ended) : next.Ended := by
  rcases hended with rfl | rfl
  · cases h with
    | terminate hstate => simp at hstate
    | stop => exact Or.inr rfl
  · cases h with
    | terminate hstate => simp at hstate

section Lifecycle
variable {config : ProbeLoopConfig} {pod : Pod} {op : PodOp}

/-- What one operation can do to the state and the restart count of a record. -/
inductive Effect (config : ProbeLoopConfig) (pod next : Pod) : Prop
  | stays : next.state = pod.state → next.restartCount = pod.restartCount → Effect config pod next
  | moves : pod.state.Move next.state → next.state ≠ .booting → next.restartCount = pod.restartCount →
    Effect config pod next
  | restarts : pod.state = .running → next.state = .booting → pod.restartCount < config.maxRestartAttempts →
      next.restartCount = pod.restartCount + 1 → Effect config pod next

theorem effect_probeResult (result : ProbeTickResult) : Effect config pod (applyProbeResult config result pod).pod := by
  by_cases h : Restarts config result pod
  · have state : (applyProbeResult config result pod).pod.state = .booting := by rw [applyProbeResult_state, if_pos h]
    have count : (applyProbeResult config result pod).pod.restartCount = pod.restartCount + 1 := by
      rw [applyProbeResult_restartCount, if_pos h]
    exact .restarts h.1 state h.2.2 count
  · have count : (applyProbeResult config result pod).pod.restartCount = pod.restartCount := by
      rw [applyProbeResult_restartCount, if_neg h]
    by_cases hpass : pod.state = .booting ∧ result.allProbesPassing = true
    · have state : (applyProbeResult config result pod).pod.state = .running := by
        rw [applyProbeResult_state, if_neg h, if_pos hpass]
      refine .moves ?_ ?_ count
      · rw [state, hpass.1]
        exact .start
      · rw [state]
        decide
    · exact .stays (by rw [applyProbeResult_state, if_neg h, if_neg hpass]) count

theorem effect_tryTransitionToRunning : Effect config pod pod.tryTransitionToRunning.2 := by
  unfold Pod.tryTransitionToRunning
  split_ifs with h
  · exact .moves (h.1 ▸ .start) nofun rfl
  · exact .stays rfl rfl

theorem effect_startTerminating : Effect config pod pod.startTerminating := by
  unfold Pod.startTerminating
  split_ifs with h
  · exact .moves (.terminate (Or.inr h)) nofun rfl
  · exact .stays rfl rfl

theorem effect_finishTerminating : Effect config pod pod.finishTerminating := by
  unfold Pod.finishTerminating
  split_ifs with h
  · exact .moves (h ▸ .stop) nofun rfl
  · exact .stays rfl rfl

/-- An eviction of a Pending record would be a move of its own: no record in the table is Pending. -/
theorem effect_beginEviction (hpending : pod.state ≠ .pending) : Effect config pod pod.beginEviction := by
  unfold Pod.beginEviction
  cases h : pod.state with
  | pending => exact absurd h hpending
  | booting => exact .moves (.terminate (Or.inl h)) nofun rfl
  | running => exact .moves (.terminate (Or.inr h)) nofun rfl
  | terminating => exact .stays rfl rfl
  | stopped => exact .stays rfl rfl

theorem effect (hpending : pod.state ≠ .pending) (op : PodOp) : Effect config pod (op.apply config pod) := by
  cases op with
  | probeResult result => exact effect_probeResult result
  | tryTransitionToRunning => exact effect_tryTransitionToRunning
  | startTerminating => exact effect_startTerminating
  | beginEviction => exact effect_beginEviction hpending
  | finishTerminating => exact effect_finishTerminating
  | markStarted => exact .stays rfl rfl
  | markPolicyEnforced => exact .stays rfl rfl
  | setRouterConnected connected => exact .stays rfl rfl

namespace Effect
variable {next : Pod}

theorem move (h : Effect config pod next) : next.state = pod.state ∨ pod.state.Move next.state := by
  rcases h with ⟨same, -⟩ | ⟨move, -, -⟩ | ⟨hrun, hboot, -, -⟩
  · exact Or.inl same
  · exact Or.inr move
  · rw [hrun, hboot]
    exact Or.inr .restart

theorem not_pending (h : Effect config pod next) (hpending : pod.state ≠ .pending) : next.state ≠ .pending := by
  rcases h.move with same | move
  · rwa [same]
  · exact move.ne_pending

theorem ended (h : Effect config pod next) (hended : pod.state.Ended) : next.state.Ended := by
  rcases h.move with same | move
  · rwa [same]
  · exact move.ended hended

/-- The restart count goes up with a move from Running to Booting, within the budget, and with nothing else. -/
theorem restartCount (h : Effect config pod next) (hbudget : pod.restartCount.toNat ≤ config.maxRestartAttempts.toNat) :
    next.restartCount.toNat ≤ config.maxRestartAttempts.toNat ∧ next.restartCount.toNat =
      pod.restartCount.toNat + if pod.state = .running ∧ next.state = .booting then 1 else 0 := by
  rcases h with ⟨same, count⟩ | ⟨-, hne, count⟩ | ⟨hrun, hboot, hlt, count⟩
  · have hno : ¬(pod.state = .running ∧ next.state = .booting) := by
      rintro ⟨hrun, hboot⟩
      simp [same, hrun] at hboot
    rw [count, if_neg hno]
    exact ⟨hbudget, rfl⟩
  · rw [count, if_neg fun h => hne h.2]
    exact ⟨hbudget, rfl⟩
  · have hlt' := UInt32.lt_iff_toNat_lt.mp hlt
    have hmax := config.maxRestartAttempts.toNat_lt
    have hnext : next.restartCount.toNat = pod.restartCount.toNat + 1 := by
      rw [count, UInt32.toNat_add]
      exact Nat.mod_eq_of_lt (by simp; omega)
    rw [hnext, if_pos ⟨hrun, hboot⟩]
    exact ⟨hlt', rfl⟩

end Effect

/-- How often the record went from Running to Booting. -/
def reboots (config : ProbeLoopConfig) (pod : Pod) (ops : List PodOp) : Nat :=
  (emitted (PodOp.apply config)
    (fun pod op => if pod.state = .running ∧ (op.apply config pod).state = .booting then some () else none) pod ops).length

/-- What holds of a record in every run from its boot. -/
structure Alive (config : ProbeLoopConfig) (start : Pod) (ops : List PodOp) : Prop where
  not_pending : (ops.foldl (PodOp.apply config) start).state ≠ .pending
  count : (ops.foldl (PodOp.apply config) start).restartCount.toNat = reboots config start ops
  budget : (ops.foldl (PodOp.apply config) start).restartCount.toNat ≤ config.maxRestartAttempts.toNat

theorem alive (hstate : pod.state = .booting) (hcount : pod.restartCount = 0) (ops : List PodOp) :
    Alive config pod ops := by
  induction ops using List.reverseRecOn with
  | nil =>
    refine ⟨?_, ?_, ?_⟩
    · simp [hstate]
    · simp [hcount, reboots]
    · simp [hcount]
  | append_singleton ops op ih =>
    have next : Effect config _ _ := effect ih.not_pending op
    obtain ⟨budget, count⟩ := next.restartCount ih.budget
    rw [ih.count] at count
    refine ⟨?_, ?_, ?_⟩ <;> rw [List.foldl_concat]
    · exact next.not_pending ih.not_pending
    · rw [count, reboots, reboots, emitted_concat, List.length_append]
      split_ifs <;> rfl
    · exact budget

end Lifecycle

/-- The record of a pod moves along the state machine only, never comes back from Terminating or Stopped, and its restart
    count is the number of its restarts, within the budget, whatever the order of the sections that write it. -/
theorem pod_lifecycle (config : ProbeLoopConfig) (pod : Pod) (hstate : pod.state = .booting) (hcount : pod.restartCount = 0)
    (ops : List PodOp) :
    Along (PodOp.apply config)
        (fun pod op => (op.apply config pod).state = pod.state ∨ pod.state.Move (op.apply config pod).state) pod ops ∧
      (∀ before after, ops = before ++ after → (before.foldl (PodOp.apply config) pod).state.Ended →
        (ops.foldl (PodOp.apply config) pod).state ≠ .booting ∧ (ops.foldl (PodOp.apply config) pod).state ≠ .running) ∧
      (ops.foldl (PodOp.apply config) pod).restartCount.toNat = reboots config pod ops ∧
      (ops.foldl (PodOp.apply config) pod).restartCount ≤ config.maxRestartAttempts := by
  have run : ∀ ops, Alive config pod ops := alive hstate hcount
  refine ⟨fun before op _ _ => (effect (run before).not_pending op).move, ?_, (run ops).count,
    UInt32.le_iff_toNat_le.mpr (run ops).budget⟩
  rintro before after rfl hended
  have ended : ((before ++ after).foldl (PodOp.apply config) pod).state.Ended := by
    induction after using List.reverseRecOn with
    | nil => rwa [List.append_nil]
    | append_singleton after op ih =>
      rw [← List.append_assoc, List.foldl_concat]
      exact (effect (run _).not_pending op).ended ih
  rcases ended with h | h
  · rw [h]
    exact ⟨nofun, nofun⟩
  · rw [h]
    exact ⟨nofun, nofun⟩

/-- A pod that starts, dies and is restarted once, out of one attempt, and is then evicted. -/
theorem pod_lifecycle_one_restart :
    let config : ProbeLoopConfig := { maxRestartAttempts := 1 }
    let pod : Pod := .booted "web-0" "web" "tenant" "primary" .containerd ⟨.replicate 16 0⟩ 7
    let passing : ProbeTickResult := ⟨"web-0", true, true, true, false⟩
    let dead : ProbeTickResult := ⟨"web-0", false, true, false, true⟩
    let ops : List PodOp := [.probeResult passing, .probeResult dead, .beginEviction, .probeResult passing]
    reboots config pod ops = 1 ∧ (ops.foldl (PodOp.apply config) pod).restartCount.toNat = 1 := by
  intro config pod passing dead ops
  have once : reboots config pod ops = 1 := by decide
  exact ⟨once, (pod_lifecycle config pod rfl rfl ops).2.2.1.trans once⟩

end FleetosAgent.Workloads
