import FleetosAgent.Theorems.ManagerSteps
import FleetosAgent.Theorems.Reconcile

/-! # Reconciling reaches a fixed point

The plan is computed from workload ids and carried out on a table of pod ids. An eviction takes one pod out and a boot puts
one in, possibly over an old record; where a boot never hits the record of a live pod, carrying out the plan leaves exactly
the desired workloads live, and there is nothing left to plan. -/

namespace FleetosAgent.Workloads
open Lib Traced

section Steps
variable {api : SpiffeApi} {cfg : ManagerConfig api} {w : World api}

/-- What a successful boot files: a live pod of the workload, under the effective id. -/
structure BootedFrom (spec : WorkloadSpec) (pod : Pod) : Prop where
  podId : pod.podId = spec.effectiveId
  workloadId : pod.workloadId = spec.workloadId
  live : pod.Live

theorem recordPod_pods {env : BootEnv api} {spec : WorkloadSpec} {podSpec : PodSpec} {fp : IdentityFingerprint}
    {reservation : Reservation} {handle : UInt32} : wp (fun _ => True)
      (recordPod cfg env spec podSpec spec.effectiveId fp reservation handle)
      (fun _ t => ∃ pod, BootedFrom spec pod ∧ t.pods = w.pods.addPod pod) (fun _ t => t.pods = w.pods) w := by
  generalize hpod : Pod.booted spec.effectiveId spec.workloadId podSpec.tenantId spec.role spec.runtime fp handle = pod
  have booted : BootedFrom spec pod := hpod ▸ ⟨rfl, rfl, Pod.booted_live⟩
  have filed : ∀ t : World api, t.pods = w.pods → wp (fun _ => True) (do
      modify fun w => { w with pods := w.pods.addPod pod }
      when cfg.probes (modify fun w =>
        { w with probes := w.probes.registerPod spec.effectiveId (.new podSpec.probes env.now) }))
      (fun _ t => ∃ pod, BootedFrom spec pod ∧ t.pods = w.pods.addPod pod)
      (fun (_ : AgentError) t => t.pods = w.pods) t := by
    intro t ht
    have done : ∃ pod', BootedFrom spec pod' ∧ t.pods.addPod pod = w.pods.addPod pod' := ⟨pod, booted, by rw [ht]⟩
    exact wp_bind.mpr (wp_modify.mpr ⟨trivial, wp_when (fun _ => wp_modify.mpr ⟨trivial, done⟩) fun _ => done⟩)
  unfold recordPod
  rw [hpod]
  split
  · exact wp_bind.mpr (wp_modify.mpr ⟨trivial, filed _ rfl⟩)
  · exact filed _ rfl

theorem bootPod_pods {env : BootEnv api} {spec : WorkloadSpec} : wp (fun _ => True) (bootPod cfg env spec)
    (fun _ t => ∃ pod, BootedFrom spec pod ∧ t.pods = w.pods.addPod pod) (fun _ t => t.pods = w.pods) w := by
  have frame : NetworkFrame fun t : World api => t.pods = w.pods := fun t _ _ _ _ _ _ ht => ht
  refine wp_bootPod (fun _ => trivial) (fun _ _ => rfl) fun podSpec fp mounts k hspec _ _ => ?_
  refine (reservePair_frame frame { w with delegatedKeys := k } rfl).mono (fun _ _ => trivial) (fun reservation t ht => ?_)
    (fun _ t ht => ht)
  refine (bootRuntime_steps hspec).mono (fun _ _ => trivial) (fun handle u hu => ?_) (fun e u hu => ?_)
  · have pods : u.pods = w.pods := (congrArg Books.pods hu.1).trans ht
    rw [← pods]
    exact recordPod_pods
  · have pods : u.pods = w.pods := (congrArg Books.pods hu.1).trans ht
    exact (cancelReservation_frame frame.address u pods).mono (fun _ _ => trivial) (fun _ v hv => hv) (fun _ v hv => hv)

theorem evictPod_pods {env : EvictEnv} {podId : String} : wp (fun _ => True) (evictPod cfg env podId)
    (fun _ t => t.pods = w.pods.removePod podId) (fun _ _ => True) w := by
  refine wp_evictPod (fun _ _ => trivial) (fun _ _ _ => trivial) fun pod _ => ?_
  refine stopRuntime_steps.mono (fun _ _ => trivial) (fun _ t ht => ?_) (fun _ _ _ => trivial)
  have pods : t.pods = (w.withEviction cfg podId).pods := congrArg Books.pods ht.1
  have frame : NetworkFrame fun u : World api => u.pods = (w.withEviction cfg podId).pods := fun u _ _ _ _ _ _ hu => hu
  refine (releaseSource_frame frame.address t pods).mono (fun _ _ => trivial) (fun _ u hu => ?_) (fun _ _ _ => trivial)
  refine ⟨fun _ _ => trivial, fun _ => ⟨trivial, ?_⟩⟩
  show u.pods.removePod podId = w.pods.removePod podId
  rw [hu]
  exact w.pods.removePod_modifyPod Pod.beginEviction_podId

end Steps

/-! ### Carrying out the plan -/

section Plan
variable {api : SpiffeApi} {cfg : ManagerConfig api}

/-- The operation returns without an error. -/
def Succeeds (cfg : ManagerConfig api) (w : World api) (op : ManagerOp api) : Prop := (runOp cfg op w).result = .ok ()

theorem evictions_pods {podIds : List String} {envs : Nat → EvictEnv} {w : World api}
    (ok : Along (turn (runOp cfg)) (Succeeds cfg) w (podIds.mapIdx fun n podId => .evict podId (envs n))) (p : String)
    (pod : Pod) :
    ((podIds.mapIdx fun n podId => .evict podId (envs n)).foldl (turn (runOp cfg)) w).pods.getPod p = some pod ↔
      w.pods.getPod p = some pod ∧ p ∉ podIds := by
  induction podIds generalizing envs w with
  | nil => simp
  | cons podId podIds ih =>
    rw [List.mapIdx_cons] at ok ⊢
    obtain ⟨first, rest⟩ := along_cons.mp ok
    have removed : (turn (runOp cfg) w (.evict podId (envs 0))).pods = w.pods.removePod podId := evictPod_pods.of_ok first
    rw [List.foldl_cons, ih rest, removed, PodManager.getPod_removePod_eq_some, List.mem_cons]
    tauto

theorem runOp_boot_pods {w : World api} {spec : WorkloadSpec} {env : BootEnv api} (ok : Succeeds cfg w (.boot spec env)) :
    ∃ pod, BootedFrom spec pod ∧ (turn (runOp cfg) w (.boot spec env)).pods = w.pods.addPod pod := by
  have booted : wp (fun _ => True) (runOp cfg (.boot spec env))
      (fun _ t => ∃ pod, BootedFrom spec pod ∧ t.pods = w.pods.addPod pod) (fun _ t => t.pods = w.pods) w :=
    wp_bind.mpr (bootPod_pods.mono (fun _ _ => trivial) (fun _ t ht => wp_pure.mpr ht) (fun _ t ht => ht))
  exact booted.of_ok ok

/-- After the boots, each id of a spec has a pod booted from a spec of that id, and the others have what they had. -/
theorem boots_pods {specs : List WorkloadSpec} {envs : Nat → BootEnv api} {w : World api}
    (ok : Along (turn (runOp cfg)) (Succeeds cfg) w (specs.mapIdx fun n spec => .boot spec (envs n)))
    (distinct : (specs.map (·.effectiveId)).Nodup) :
    (∀ spec ∈ specs, ∃ pod, BootedFrom spec pod ∧
      ((specs.mapIdx fun n spec => .boot spec (envs n)).foldl (turn (runOp cfg)) w).pods.getPod spec.effectiveId =
        some pod) ∧
    ∀ p ∉ specs.map (·.effectiveId),
      ((specs.mapIdx fun n spec => .boot spec (envs n)).foldl (turn (runOp cfg)) w).pods.getPod p = w.pods.getPod p := by
  induction specs generalizing envs w with
  | nil => simp
  | cons spec specs ih =>
    rw [List.mapIdx_cons] at ok ⊢
    rw [List.map_cons, List.nodup_cons] at distinct
    obtain ⟨first, rest⟩ := along_cons.mp ok
    obtain ⟨pod, booted, added⟩ := runOp_boot_pods first
    obtain ⟨each, others⟩ := ih rest distinct.2
    rw [List.foldl_cons]
    refine ⟨List.forall_mem_cons.mpr ⟨⟨pod, booted, ?_⟩, each⟩, fun p hp => ?_⟩
    · rw [others _ distinct.1, added, PodManager.getPod_addPod, if_pos booted.podId.symm]
    · rw [List.map_cons, List.mem_cons, not_or] at hp
      rw [others p hp.2, added, PodManager.getPod_addPod, if_neg (booted.podId ▸ hp.1)]

/-- The desired workloads are the live ones. -/
def Settled (desired : List WorkloadSpec) (pods : PodManager) : Prop :=
  ∀ workloadId, pods.HasLiveWorkload workloadId ↔ ∃ spec ∈ desired, spec.workloadId = workloadId

/-- There is nothing to do for a settled table. -/
theorem Settled.plan_empty {desired : List WorkloadSpec} {pods : PodManager} (h : Settled desired pods)
    (order : Enumeration String) :
    (Reconciler.reconcile order desired pods).toBoot = [] ∧ (Reconciler.reconcile order desired pods).toEvict = [] := by
  refine ⟨List.eq_nil_iff_forall_not_mem.mpr fun spec hspec => ?_, List.eq_nil_iff_forall_not_mem.mpr fun podId hpod => ?_⟩
  · obtain ⟨hdesired, hnone⟩ := mem_toBoot.mp hspec
    exact hnone ((h spec.workloadId).mpr ⟨spec, hdesired, rfl⟩)
  · obtain ⟨pod, hget, hlive, hundesired⟩ := mem_toEvict.mp hpod
    obtain rfl := pods.keyed podId pod hget
    obtain ⟨spec, hspec, hid⟩ := (h pod.workloadId).mp ⟨pod, hget, hlive, rfl⟩
    exact hundesired spec hspec hid

/-- A table is settled once the pods to evict are out and each spec to boot has its pod. -/
theorem settled_of_plan {order : Enumeration String} {desired : List WorkloadSpec} {pods mid fin : PodManager}
    (apart : ∀ spec ∈ (Reconciler.reconcile order desired pods).toBoot, ¬pods.LiveAt spec.effectiveId)
    (evicted : ∀ p pod, mid.getPod p = some pod ↔
      pods.getPod p = some pod ∧ p ∉ (Reconciler.reconcile order desired pods).toEvict)
    (booted : (∀ spec ∈ (Reconciler.reconcile order desired pods).toBoot, ∃ pod, BootedFrom spec pod ∧
        fin.getPod spec.effectiveId = some pod) ∧
      ∀ p ∉ (Reconciler.reconcile order desired pods).toBoot.map (·.effectiveId), fin.getPod p = mid.getPod p) :
    Settled desired fin := by
  obtain ⟨each, others⟩ := booted
  intro workloadId
  constructor
  · rintro ⟨pod, hget, hlive, rfl⟩
    by_cases hid : pod.podId ∈ (Reconciler.reconcile order desired pods).toBoot.map (·.effectiveId)
    · obtain ⟨spec, hspec, heq⟩ := List.mem_map.mp hid
      obtain ⟨pod', from', hget'⟩ := each spec hspec
      rw [heq, hget] at hget'
      obtain rfl := Option.some.inj hget'
      exact ⟨spec, (mem_toBoot.mp hspec).1, from'.workloadId.symm⟩
    · rw [others _ hid] at hget
      obtain ⟨hold, hkept⟩ := (evicted _ _).mp hget
      -- A live pod that was not to be evicted is of a desired workload.
      by_contra hundesired
      exact hkept (mem_toEvict.mpr ⟨pod, hold, hlive, fun spec hspec heq => hundesired ⟨spec, hspec, heq⟩⟩)
  · rintro ⟨spec, hspec, rfl⟩
    by_cases hlive : pods.HasLiveWorkload spec.workloadId
    · obtain ⟨pod, hold, live, hid⟩ := hlive
      have kept : mid.getPod pod.podId = some pod := (evicted _ _).mpr ⟨hold, fun hevict => by
        obtain ⟨pod', hold', -, hundesired⟩ := mem_toEvict.mp hevict
        obtain rfl := Option.some.inj (hold.symm.trans hold')
        exact hundesired spec hspec hid.symm⟩
      have untouched : pod.podId ∉ (Reconciler.reconcile order desired pods).toBoot.map (·.effectiveId) := fun hboot => by
        obtain ⟨spec', hspec', heq⟩ := List.mem_map.mp hboot
        exact apart spec' hspec' ⟨pod, heq ▸ hold, live⟩
      exact ⟨pod, (others _ untouched).trans kept, live, hid⟩
    · obtain ⟨pod, from', hget⟩ := each spec (mem_toBoot.mpr ⟨hspec, hlive⟩)
      exact ⟨pod, from'.podId ▸ hget, from'.live, from'.workloadId⟩

/-- Where the specs to boot have effective ids apart from each other and from the live pods, a reconcile call whose
    operations all succeed leaves exactly the desired workloads live, and a second call has nothing to do. -/
theorem reconcile_reaches_fixed_point (cfg : ManagerConfig api) (w : World api) (call : ReconcileCall api)
    (distinct : ((Reconciler.reconcile call.order call.desired w.pods).toBoot.map (·.effectiveId)).Nodup)
    (apart : ∀ spec ∈ (Reconciler.reconcile call.order call.desired w.pods).toBoot, ¬w.pods.LiveAt spec.effectiveId)
    (ok : Along (turn (runOp cfg)) (Succeeds cfg) w (reconcileOps w call)) :
    Settled call.desired (reconcile cfg call w).final.pods ∧
      ∀ order, (Reconciler.reconcile order call.desired (reconcile cfg call w).final.pods).toBoot = [] ∧
        (Reconciler.reconcile order call.desired (reconcile cfg call w).final.pods).toEvict = [] := by
  have final : (reconcile cfg call w).final = (reconcileOps w call).foldl (turn (runOp cfg)) w := runAll_final
  have settled : Settled call.desired (reconcile cfg call w).final.pods := by
    rw [final, reconcileOps, List.foldl_append]
    obtain ⟨okEvict, okBoot⟩ := along_append.mp ok
    exact settled_of_plan apart (evictions_pods okEvict) (boots_pods okBoot distinct)
  exact ⟨settled, settled.plan_empty⟩

end Plan

/-! ### One workload in place of another -/

/-- A node that runs "web". -/
def webNode : World textApi := { ips := samplePool, pods := PodManager.new.addPod (livePod "web-0") }

def wantDb : ReconcileCall textApi := sampleCall [sampleSpec "db" .containerd] {} fun _ => sampleBoot

theorem reconcile_reaches_fixed_point_of_swap :
    Settled [sampleSpec "db" .containerd] (reconcile sampleConfig wantDb webNode).final.pods := by
  have running : webNode.pods.allPods .sorted = [livePod "web-0"] := by decide +kernel
  have planned : Reconciler.reconcile .sorted [sampleSpec "db" .containerd] webNode.pods =
      ⟨[sampleSpec "db" .containerd], ["web-0"]⟩ := by
    rw [Reconciler.reconcile, running]
    rfl
  refine (reconcile_reaches_fixed_point sampleConfig webNode wantDb ?_ ?_ ?_).1
  · show (List.map _ (Reconciler.reconcile .sorted [sampleSpec "db" .containerd] webNode.pods).toBoot).Nodup
    rw [planned]
    exact List.nodup_singleton _
  · show ∀ spec ∈ (Reconciler.reconcile .sorted [sampleSpec "db" .containerd] webNode.pods).toBoot, _
    rw [planned]
    rintro spec hspec ⟨pod, hget, -⟩
    rw [List.mem_singleton.mp hspec] at hget
    cases hget
  · have ops : reconcileOps webNode wantDb = [.evict "web-0" {}, .boot (sampleSpec "db" .containerd) sampleBoot] := by
      show List.mapIdx _ (Reconciler.reconcile .sorted [sampleSpec "db" .containerd] webNode.pods).toEvict ++
        List.mapIdx _ (Reconciler.reconcile .sorted [sampleSpec "db" .containerd] webNode.pods).toBoot = _
      rw [planned]
      rfl
    rw [ops]
    exact along_cons.mpr ⟨rfl, along_cons.mpr ⟨rfl, along_nil⟩⟩

end FleetosAgent.Workloads
