import FleetosAgent.Theorems.HostSections
import FleetosAgent.WatchLoops

/-! # Schedule frames with rejected assignments

A frame is filtered before it is diffed as full state. So the reconciler cannot tell a rejected assignment from one that is
not there, and what a frame evicts is what it says exactly if no live pod's workload is named by rejected assignments
only. -/

namespace FleetosAgent.Wiring
open Client Workloads Lib Traced

section
variable {api : SpiffeApi} {cfg : ManagerConfig api} {w : World api} {update : ScheduleUpdate} {env : ScheduleEnv api}

/-! ### What is accepted -/

/-- The runtimes that `RuntimeKind::try_from` knows. -/
def KnownRuntime (runtime : String) : Prop :=
  runtime = "containerd" ∨ runtime = "cloud-hypervisor" ∨ runtime = "cloud_hypervisor"

def Rejected (assignment : WorkloadAssignment) : Prop := ∃ e, WorkloadSpec.fromAssignment assignment = .error e

theorem fromAssignment_of_known {assignment : WorkloadAssignment} (h : KnownRuntime assignment.runtime) :
    ∃ spec, WorkloadSpec.fromAssignment assignment = .ok spec ∧ spec.workloadId = assignment.workloadId := by
  have known : ∃ runtime, RuntimeKind.tryFrom assignment.runtime = .ok runtime := by
    unfold RuntimeKind.tryFrom
    rcases h with h | h | h <;> rw [h] <;> exact ⟨_, rfl⟩
  obtain ⟨runtime, hruntime⟩ := known
  unfold WorkloadSpec.fromAssignment
  rw [hruntime]
  exact ⟨_, rfl, rfl⟩

theorem rejected_of_unknown {assignment : WorkloadAssignment} (h : ¬KnownRuntime assignment.runtime) :
    Rejected assignment := by
  obtain ⟨hcontainerd, hvm⟩ := not_or.mp h
  have unknown : ∃ e, RuntimeKind.tryFrom assignment.runtime = .error e := by
    unfold RuntimeKind.tryFrom
    rw [if_neg hcontainerd, if_neg hvm]
    exact ⟨_, rfl⟩
  obtain ⟨e, he⟩ := unknown
  unfold Rejected WorkloadSpec.fromAssignment
  rw [he]
  exact ⟨e, rfl⟩

theorem mem_scheduleSpecs {spec : WorkloadSpec} :
    spec ∈ scheduleSpecs update ↔ ∃ a ∈ update.assignments, WorkloadSpec.fromAssignment a = .ok spec := by
  unfold scheduleSpecs
  rw [List.mem_filterMap]
  refine exists_congr fun a => and_congr_right fun _ => ?_
  cases WorkloadSpec.fromAssignment a <;> simp [Except.toOption]

/-- A workload is desired exactly if the frame has an assignment of it that names a known runtime. -/
theorem desired_iff {workloadId : String} : (∃ spec ∈ scheduleSpecs update, spec.workloadId = workloadId) ↔
    ∃ a ∈ update.assignments, a.workloadId = workloadId ∧ KnownRuntime a.runtime := by
  constructor
  · rintro ⟨spec, hspec, rfl⟩
    obtain ⟨a, ha, hok⟩ := mem_scheduleSpecs.mp hspec
    have known : KnownRuntime a.runtime := by
      by_contra hunknown
      obtain ⟨e, he⟩ := rejected_of_unknown hunknown
      rw [he] at hok
      cases hok
    obtain ⟨spec', hok', hid⟩ := fromAssignment_of_known known
    obtain rfl := Except.ok.inj (hok.symm.trans hok')
    exact ⟨a, ha, hid.symm, known⟩
  · rintro ⟨a, ha, rfl, known⟩
    obtain ⟨spec, hok, hid⟩ := fromAssignment_of_known known
    exact ⟨spec, mem_scheduleSpecs.mpr ⟨a, ha, hok⟩, hid⟩

/-! ### What is evicted -/

/-- Handling the frame evicts the pod. -/
def Evicts (w : World api) (update : ScheduleUpdate) (env : ScheduleEnv api) (podId : String) : Prop :=
  ∃ evictEnv, .evict podId evictEnv ∈ reconcileOps w (scheduleCall update env)

/-- Handling the frame boots the spec. -/
def Boots (w : World api) (update : ScheduleUpdate) (env : ScheduleEnv api) (spec : WorkloadSpec) : Prop :=
  ∃ bootEnv, .boot spec bootEnv ∈ reconcileOps w (scheduleCall update env)

theorem evicts_iff {podId : String} : Evicts w update env podId ↔ ∃ pod, w.pods.getPod podId = some pod ∧ pod.Live ∧
    ∀ spec ∈ scheduleSpecs update, spec.workloadId ≠ pod.workloadId := by
  refine Iff.trans ?_ (mem_toEvict : podId ∈ (Reconciler.reconcile env.order (scheduleSpecs update) w.pods).toEvict ↔ _)
  unfold Evicts reconcileOps
  simp only [List.mem_append, List.mem_mapIdx, reduceCtorEq, exists_false, or_false, ManagerOp.evict.injEq]
  constructor
  · rintro ⟨_, n, hn, rfl, -⟩
    exact List.getElem_mem hn
  · intro h
    obtain ⟨n, hn, rfl⟩ := List.mem_iff_getElem.mp h
    exact ⟨_, n, hn, rfl, rfl⟩

/-! ### What is left alone -/

/-- The operation is not about this pod id. -/
def LeavesAlone (podId : String) : ManagerOp api → Prop
  | .evict p _ => p ≠ podId
  | .boot spec _ => spec.effectiveId ≠ podId

/-- An operation on another id keeps the record in every state it passes. -/
theorem runOp_of_leavesAlone {podId : String} {pod : Pod} {op : ManagerOp api} (h : LeavesAlone podId op) :
    Preserves (fun t : World api => t.pods.getPod podId = some pod) (runOp cfg op) := by
  -- the tables of the host are looked at for the pods alone, so the keys of the node do not matter
  let nodeId := api.new cfg.trustDomain "" .sa ""
  let host : HostConfig api := ⟨cfg.trustDomain, ⟨nodeId, 0⟩, ⟨nodeId, 0⟩⟩
  have kept : Kept host (OpSection op) fun s => s.pods.getPod podId = some pod := by
    intro s event hevent hs
    cases op with
    | evict p env =>
      cases hevent with
      | evicting => exact (s.pods.getPod_modifyPod Pod.beginEviction_podId podId).trans ((if_neg (Ne.symm h)).trans hs)
      | unregistered cid => exact hs
      | removed => exact PodManager.getPod_removePod_eq_some.mpr ⟨Ne.symm h, hs⟩
    | boot spec env =>
      cases hevent with
      | keyAnswered podSpec hspec => exact hs
      | registered podSpec hspec hruntime cid guestIp gatewayIp => exact hs
      | unregistered cid => exact hs
      | recorded booted podSpec hspec from' tenant =>
        have hne : podId ≠ booted.podId := fun heq => h (from'.podId.symm.trans heq.symm)
        exact (s.pods.getPod_addPod booted podId).trans ((if_neg hne).trans hs)
  show Preserves (OfHost (fun s => s.pods.getPod podId = some pod) {}) (runOp cfg op)
  cases op with
  | evict p env => exact evictPod_host kept
  | boot spec env =>
    refine .bind (bootPod_of_key kept fun podSpec hspec t ht => ?_) fun _ => .pure
    exact wp_requestDelegatedKey (fun _ => ht) fun _ => ht

theorem left_alone {podId : String} {pod : Pod} (hpod : w.pods.getPod podId = some pod)
    (hevict : ¬Evicts w update env podId) (hboot : ∀ spec, Boots w update env spec → spec.effectiveId ≠ podId)
    (t : World api) (ht : t ∈ (scheduleStep cfg update env w).passed ∨ t = (scheduleStep cfg update env w).final) :
    t.pods.getPod podId = some pod := by
  have each : ∀ op ∈ reconcileOps w (scheduleCall update env), LeavesAlone podId op := by
    intro op hop
    cases op with
    | evict p evictEnv =>
      rintro rfl
      exact hevict ⟨evictEnv, hop⟩
    | boot spec bootEnv => exact hboot spec ⟨bootEnv, hop⟩
  have run : wp _ (runAll (runOp cfg) (reconcileOps w (scheduleCall update env))) _ _ w :=
    Preserves.runAll (fun op hop => runOp_of_leavesAlone (each op hop)) w hpod
  rcases ht with ht | rfl
  · exact run.passed t ht
  · exact run.final

end

/-- The pods that the frame evicts are the live pods of workloads that it does not name, and a rejected assignment leaves
    the live pods of its workload alone: none is evicted, and only a boot of another pod under the same id changes its
    record. -/
structure FrameExact {api : SpiffeApi} (cfg : ManagerConfig api) (w : World api) (update : ScheduleUpdate)
    (env : ScheduleEnv api) : Prop where
  evicted : ∀ podId, Evicts w update env podId ↔ ∃ pod, w.pods.getPod podId = some pod ∧ pod.Live ∧
    ∀ a ∈ update.assignments, a.workloadId ≠ pod.workloadId
  untouched : ∀ a ∈ update.assignments, Rejected a → ∀ podId pod, w.pods.getPod podId = some pod → pod.Live →
    pod.workloadId = a.workloadId → ¬Evicts w update env podId ∧
      ((∃ spec, Boots w update env spec ∧ spec.effectiveId = podId) ∨
        ∀ t, t ∈ (scheduleStep cfg update env w).passed ∨ t = (scheduleStep cfg update env w).final →
          t.pods.getPod podId = some pod)

/-- A frame evicts exactly what it says if and only if each live pod whose workload it names has an assignment with a known
    runtime in it. -/
theorem frameExact_iff {api : SpiffeApi} (cfg : ManagerConfig api) (w : World api) (update : ScheduleUpdate)
    (env : ScheduleEnv api) :
    FrameExact cfg w update env ↔ ∀ podId pod, w.pods.getPod podId = some pod → pod.Live →
      (∃ a ∈ update.assignments, a.workloadId = pod.workloadId) →
        ∃ a ∈ update.assignments, a.workloadId = pod.workloadId ∧ KnownRuntime a.runtime := by
  constructor
  · rintro h podId pod hpod hlive ⟨a, ha, hid⟩
    rw [← desired_iff]
    by_contra hnone
    have evicted : Evicts w update env podId := evicts_iff.mpr ⟨pod, hpod, hlive, fun spec hs hw => hnone ⟨spec, hs, hw⟩⟩
    obtain ⟨pod', hpod', -, habsent⟩ := (h.evicted podId).mp evicted
    obtain rfl := Option.some.inj (hpod.symm.trans hpod')
    exact habsent a ha hid
  · intro h
    have evicted : ∀ podId, Evicts w update env podId ↔ ∃ pod, w.pods.getPod podId = some pod ∧ pod.Live ∧
        ∀ a ∈ update.assignments, a.workloadId ≠ pod.workloadId := by
      intro podId
      rw [evicts_iff]
      refine exists_congr fun pod => and_congr_right fun hpod => and_congr_right fun hlive => ?_
      constructor
      · intro hnone a ha hid
        obtain ⟨spec, hspec, hw⟩ := desired_iff.mpr (h podId pod hpod hlive ⟨a, ha, hid⟩)
        exact hnone spec hspec hw
      · intro hnone spec hspec hw
        obtain ⟨a, ha, hid, -⟩ := desired_iff.mp ⟨spec, hspec, hw⟩
        exact hnone a ha hid
    refine ⟨evicted, fun a ha _ podId pod hpod hlive hid => ?_⟩
    have kept : ¬Evicts w update env podId := by
      rw [evicted podId]
      rintro ⟨pod', hpod', -, habsent⟩
      obtain rfl := Option.some.inj (hpod.symm.trans hpod')
      exact habsent a ha hid.symm
    refine ⟨kept, or_iff_not_imp_left.mpr fun hboot t ht => left_alone hpod kept (fun spec hspec heq => ?_) t ht⟩
    exact hboot ⟨spec, hspec, heq⟩

/-- A frame whose only assignment of a running workload has an unknown runtime evicts its pod. -/
theorem rejected_assignment_evicts :
    let update : ScheduleUpdate := ⟨[⟨"web", "docker", "", "", none, ""⟩], 1⟩
    let env : ScheduleEnv textApi := ⟨.sorted, fun _ => {}, fun _ => sampleBoot⟩
    (scheduleStep Workloads.sampleConfig update env webNode).final.pods.getPod "web-0" = none ∧
      ¬FrameExact Workloads.sampleConfig webNode update env := by
  intro update env
  have rejected : scheduleSpecs update = [] := rfl
  have evicted : Evicts webNode update env "web-0" := by
    rw [evicts_iff, rejected]
    exact ⟨livePod "web-0", rfl, by decide, by simp⟩
  constructor
  · have running : webNode.pods.allPods .sorted = [livePod "web-0"] := by decide +kernel
    have ops : reconcileOps webNode (scheduleCall update env) = [.evict "web-0" {}] := by
      unfold reconcileOps Reconciler.reconcile scheduleCall
      dsimp only
      rw [rejected, running]
      rfl
    show (runAll (runOp Workloads.sampleConfig) (reconcileOps webNode (scheduleCall update env))
      webNode).final.pods.getPod "web-0" = none
    rw [ops]
    rfl
  · intro h
    obtain ⟨pod, hpod, -, habsent⟩ := (h.evicted "web-0").mp evicted
    obtain rfl : livePod "web-0" = pod := Option.some.inj hpod
    exact habsent _ (List.mem_singleton_self _) rfl

end FleetosAgent.Wiring
