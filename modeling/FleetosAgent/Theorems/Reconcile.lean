import FleetosAgent.Workloads.Reconciler

/-! # What the reconciler plans

The plan compares workload ids, while pods are filed and booted under pod ids. The two comparisons give the same plan
exactly when they agree on every desired spec and on every live pod (`IdsAgree`). -/

namespace FleetosAgent.Workloads
open Lib

variable {order : Enumeration String} {desired : List WorkloadSpec} {running : PodManager}

theorem mem_allPods {pod : Pod} : pod ∈ running.allPods order ↔ running.getPod pod.podId = some pod := by
  rw [PodManager.allPods, Enumeration.mem_values]
  constructor
  · rintro ⟨podId, h⟩
    rw [running.keyed podId pod h]
    exact h
  · exact fun h => ⟨pod.podId, h⟩

def PodManager.HasLiveWorkload (running : PodManager) (workloadId : String) : Prop :=
  ∃ pod, running.getPod pod.podId = some pod ∧ pod.Live ∧ pod.workloadId = workloadId

def PodManager.LiveAt (running : PodManager) (podId : String) : Prop :=
  ∃ pod, running.getPod podId = some pod ∧ pod.Live

theorem mem_toBoot {spec : WorkloadSpec} : spec ∈ (Reconciler.reconcile order desired running).toBoot ↔
    spec ∈ desired ∧ ¬running.HasLiveWorkload spec.workloadId := by
  have live : spec.workloadId ∈ (((running.allPods order).filter (·.Live)).map (·.workloadId)).toFinset ↔
      running.HasLiveWorkload spec.workloadId := by
    simp only [List.mem_toFinset, List.mem_map, List.mem_filter, mem_allPods, decide_eq_true_eq]
    exact ⟨fun ⟨pod, ⟨h, hl⟩, hw⟩ => ⟨pod, h, hl, hw⟩, fun ⟨pod, h, hl, hw⟩ => ⟨pod, ⟨h, hl⟩, hw⟩⟩
  rw [Reconciler.reconcile, List.mem_filter, decide_eq_true_eq, live]

theorem mem_toEvict {podId : String} : podId ∈ (Reconciler.reconcile order desired running).toEvict ↔
    ∃ pod, running.getPod podId = some pod ∧ pod.Live ∧ ∀ spec ∈ desired, spec.workloadId ≠ pod.workloadId := by
  simp only [Reconciler.reconcile, List.mem_map, List.mem_filter, mem_allPods, decide_eq_true_eq, List.mem_toFinset]
  constructor
  · rintro ⟨pod, ⟨h, hl, hd⟩, rfl⟩
    exact ⟨pod, h, hl, fun spec hs hw => hd ⟨spec, hs, hw⟩⟩
  · rintro ⟨pod, h, hl, hd⟩
    obtain rfl := running.keyed podId pod h
    exact ⟨pod, ⟨h, hl, fun ⟨spec, hs, hw⟩ => hd spec hs hw⟩, rfl⟩

/-- The plan tells pods apart by their pod ids: it boots the desired specs whose effective id has no live pod, and evicts
    the live pods whose id is no spec's effective id. -/
structure PodExact (order : Enumeration String) (desired : List WorkloadSpec) (running : PodManager) : Prop where
  to_boot : ∀ spec, spec ∈ (Reconciler.reconcile order desired running).toBoot ↔
    spec ∈ desired ∧ ¬running.LiveAt spec.effectiveId
  to_evict : ∀ podId, podId ∈ (Reconciler.reconcile order desired running).toEvict ↔
    running.LiveAt podId ∧ ∀ spec ∈ desired, spec.effectiveId ≠ podId

/-- Workload ids and pod ids say the same: a desired spec's workload has a live pod iff its effective id has one, and a
    live pod's workload is desired iff its id is some spec's effective id. -/
structure IdsAgree (desired : List WorkloadSpec) (running : PodManager) : Prop where
  desired_side : ∀ spec ∈ desired, (running.HasLiveWorkload spec.workloadId ↔ running.LiveAt spec.effectiveId)
  running_side : ∀ pod, running.getPod pod.podId = some pod → pod.Live →
    ((∃ spec ∈ desired, spec.workloadId = pod.workloadId) ↔ ∃ spec ∈ desired, spec.effectiveId = pod.podId)

/-- For every desired list, every pod table and every walk order, the plan is pod-exact exactly when workload ids and pod
    ids agree. -/
theorem reconcile_podExact_iff (order : Enumeration String) (desired : List WorkloadSpec) (running : PodManager) :
    PodExact order desired running ↔ IdsAgree desired running := by
  constructor
  · rintro ⟨boot, evict⟩
    refine ⟨fun spec hs => ?_, fun pod hp hl => ?_⟩
    · have same := boot spec
      rw [mem_toBoot, and_congr_right_iff] at same
      exact not_iff_not.mp (same hs)
    · have same := evict pod.podId
      rw [mem_toEvict] at same
      have planned : (∃ pod', running.getPod pod.podId = some pod' ∧ pod'.Live ∧
          ∀ spec ∈ desired, spec.workloadId ≠ pod'.workloadId) ↔ ∀ spec ∈ desired, spec.workloadId ≠ pod.workloadId := by
        constructor
        · rintro ⟨pod', h, -, hd⟩
          obtain rfl : pod = pod' := Option.some.inj (hp.symm.trans h)
          exact hd
        · exact fun hd => ⟨pod, hp, hl, hd⟩
      rw [planned, and_iff_right ⟨pod, hp, hl⟩] at same
      constructor
      · rintro ⟨spec, hs, hw⟩
        by_contra hno
        exact same.mpr (fun spec' hs' he => hno ⟨spec', hs', he⟩) spec hs hw
      · rintro ⟨spec, hs, he⟩
        by_contra hno
        exact same.mp (fun spec' hs' hw => hno ⟨spec', hs', hw⟩) spec hs he
  · rintro ⟨desired_side, running_side⟩
    refine ⟨fun spec => ?_, fun podId => ?_⟩
    · rw [mem_toBoot]
      exact and_congr_right fun hs => not_congr (desired_side spec hs)
    · rw [mem_toEvict]
      constructor
      · rintro ⟨pod, hp, hl, hd⟩
        obtain rfl := running.keyed podId pod hp
        refine ⟨⟨pod, hp, hl⟩, fun spec hs he => ?_⟩
        obtain ⟨spec', hs', hw⟩ := (running_side pod hp hl).mpr ⟨spec, hs, he⟩
        exact hd spec' hs' hw
      · rintro ⟨⟨pod, hp, hl⟩, hd⟩
        obtain rfl := running.keyed podId pod hp
        refine ⟨pod, hp, hl, fun spec hs hw => ?_⟩
        obtain ⟨spec', hs', he⟩ := (running_side pod hp hl).mp ⟨spec, hs, hw⟩
        exact hd spec' hs' he

def replica (podId : String) : WorkloadSpec where
  workloadId := "web"
  runtime := .containerd
  podSpec := some { podId := some podId }

def livePod (podId : String) : Pod :=
  { Pod.new podId "web" "tenant" "primary" .containerd ⟨.replicate 16 0⟩ with state := .running }

/-- With one of two desired replicas running, the other one is never booted. -/
theorem reconcile_misses_second_replica :
    ¬PodExact .arbitrary [replica "web-0", replica "web-1"] (PodManager.new.addPod (livePod "web-0")) := by
  intro exact
  have missing : ¬(PodManager.new.addPod (livePod "web-0")).LiveAt (replica "web-1").effectiveId := by
    rintro ⟨pod, h, -⟩
    cases h
  have planned := (exact.to_boot (replica "web-1")).mpr ⟨by simp, missing⟩
  refine (mem_toBoot.mp planned).2 ⟨livePod "web-0", rfl, ?_, rfl⟩
  exact ⟨by decide, by decide⟩

end FleetosAgent.Workloads
