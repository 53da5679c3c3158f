import FleetosAgent.Theorems.ManagerSteps

/-! # Source-identity exclusivity

Every instance that a runtime runs has a workload IP of its own, and SRC_IDENTITY_MAP maps that IP to the fingerprint of the
instance's workload. What carries this over a run is that the IP of every running instance stays allocated to its pod id
(`Secured`); the allocator releases by pod id, so this needs that a pair is only released once nothing runs under the
pod id any more. -/

namespace FleetosAgent.Workloads
open Lib Traced NodeIpAllocator

section
variable {api : SpiffeApi} (cfg : ManagerConfig api)

structure Exclusive (w : World api) : Prop where
  distinct : w.running.Pairwise fun i j => i.ip ≠ j.ip
  identified : ∀ i ∈ w.running, ∃ fp,
    workloadFingerprint api cfg.trustDomain i.tenantId i.workloadId i.role = .ok fp ∧ w.srcIdentity.get i.ip = some fp

/-- Exclusive, with every running instance's IP allocated to its pod id, and every recorded source IP that of a running
    instance. -/
structure Secured (w : World api) : Prop extends Exclusive cfg w where
  allocated : ∀ i ∈ w.running, ∃ o, w.ips.allocated.get o = some i.podId ∧ w.ips.addr o = i.ip
  source : ∀ podId ip, w.podSourceIps.get podId = some ip → ∃ i ∈ w.running, i.podId = podId ∧ i.ip = ip

/-- An instance runs whose IP would be released with the pair of `podId`. -/
def Clash (w : World api) (podId : String) : Prop :=
  ∃ i ∈ w.running, i.podId = podId ∨ i.podId = gatewayOwner podId

variable {cfg} {w t : World api}

theorem Exclusive.congr (h : Exclusive cfg w) (hr : t.running = w.running) (hs : t.srcIdentity = w.srcIdentity) :
    Exclusive cfg t := by
  refine ⟨?_, ?_⟩
  · rw [hr]
    exact h.distinct
  · rw [hr, hs]
    exact h.identified

theorem Secured.congr (h : Secured cfg w) (hr : t.running = w.running) (hb : t.books = w.books) : Secured cfg t := by
  have ips : t.ips = w.ips := congrArg Books.ips hb
  have sources : t.podSourceIps = w.podSourceIps := congrArg Books.podSourceIps hb
  refine ⟨h.toExclusive.congr hr (congrArg Books.srcIdentity hb), ?_, ?_⟩
  · rw [hr, ips]
    exact h.allocated
  · rw [hr, sources]
    exact h.source

/-! ### The tables, one change at a time -/

/-- A freshly allocated workload IP is that of no running instance. -/
theorem Secured.fresh (h : Secured cfg w) {podId : String} {gw wl : UInt32} {ips : NodeIpAllocator} {o : Nat}
    (took : Took w.ips podId gw wl ips o) : ∀ i ∈ w.running, i.ip ≠ wl := by
  intro i hi
  obtain ⟨o', howner, haddr⟩ := h.allocated i hi
  rw [← haddr]
  exact took.addr_ne howner

theorem Secured.withPair (h : Secured cfg w) (workloadId : String) {podId : String} {gw wl : UInt32} {ips : NodeIpAllocator}
    {o : Nat} (took : Took w.ips podId gw wl ips o) : Secured cfg (w.withPair podId workloadId wl ips) := by
  refine ⟨h.toExclusive.congr rfl rfl, fun i hi => ?_, h.source⟩
  obtain ⟨o', howner, haddr⟩ := h.allocated i hi
  exact ⟨o', took.get_eq_some.mpr (Or.inr (Or.inr howner)), (took.addr_eq o').trans haddr⟩

theorem Exclusive.register (h : Exclusive cfg w) {wl : UInt32} (fresh : ∀ i ∈ w.running, i.ip ≠ wl)
    (hr : t.running = w.running) {fp : IdentityFingerprint} (hs : t.srcIdentity = w.srcIdentity.insert wl fp) :
    Exclusive cfg t := by
  refine ⟨by rw [hr]; exact h.distinct, ?_⟩
  intro i hi
  rw [hr] at hi
  obtain ⟨fp', hfp, hget⟩ := h.identified i hi
  exact ⟨fp', hfp, by rw [hs, FinMap.get_insert_ne _ _ (fresh i hi), hget]⟩

theorem Exclusive.unregister (h : Exclusive cfg w) {wl : UInt32} (fresh : ∀ i ∈ w.running, i.ip ≠ wl)
    (hr : t.running = w.running) {fault : Option String} (hs : t.srcIdentity = unregistered fault wl w.srcIdentity) :
    Exclusive cfg t := by
  refine ⟨by rw [hr]; exact h.distinct, ?_⟩
  intro i hi
  rw [hr] at hi
  obtain ⟨fp, hfp, hget⟩ := h.identified i hi
  refine ⟨fp, hfp, ?_⟩
  rw [hs, unregistered]
  split
  · rw [FinMap.get_remove_ne _ (fresh i hi), hget]
  · exact hget

theorem allocated_release {podId : String} {running : List RuntimeInstance} {a : NodeIpAllocator}
    (h : ∀ i ∈ running, ∃ o, a.allocated.get o = some i.podId ∧ a.addr o = i.ip)
    (hno : ∀ i ∈ running, i.podId ≠ podId ∧ i.podId ≠ gatewayOwner podId) :
    ∀ i ∈ running, ∃ o,
      (a.releaseP2pPair podId).allocated.get o = some i.podId ∧ (a.releaseP2pPair podId).addr o = i.ip := by
  intro i hi
  obtain ⟨o, howner, haddr⟩ := h i hi
  exact ⟨o, (releaseP2pPair_get podId o i.podId).mpr ⟨howner, hno i hi⟩, haddr⟩

theorem not_clash_iff {podId : String} :
    ¬Clash w podId ↔ ∀ i ∈ w.running, i.podId ≠ podId ∧ i.podId ≠ gatewayOwner podId := by
  unfold Clash
  push Not
  exact Iff.rfl

/-! ### Booting -/

theorem Secured.started (h : Secured cfg w) {spec : WorkloadSpec} {podSpec : PodSpec} {wl handle : UInt32}
    (ht : Started w spec podSpec wl handle t) (hspec : spec.podSpec = some podSpec) {fp : IdentityFingerprint}
    (hfp : workloadFingerprint api cfg.trustDomain podSpec.tenantId spec.workloadId spec.role = .ok fp)
    (hsrc : w.srcIdentity.get wl = some fp) {o : Nat} (howner : w.ips.allocated.get o = some spec.effectiveId)
    (haddr : w.ips.addr o = wl) (fresh : ∀ i ∈ w.running, i.ip ≠ wl) : Secured cfg t := by
  obtain ⟨hb, hr⟩ := ht
  have ips : t.ips = w.ips := congrArg Books.ips hb
  have src : t.srcIdentity = w.srcIdentity := congrArg Books.srcIdentity hb
  have sources : t.podSourceIps = w.podSourceIps := congrArg Books.podSourceIps hb
  refine ⟨⟨?_, ?_⟩, ?_, ?_⟩
  · rw [hr, List.pairwise_append]
    refine ⟨h.distinct, List.pairwise_singleton _ _, fun i hi j hj => ?_⟩
    rw [List.mem_singleton.mp hj]
    exact fresh i hi
  · rw [hr, src]
    intro i hi
    rcases List.mem_append.mp hi with hold | hnew
    · exact h.identified i hold
    · rw [List.mem_singleton.mp hnew]
      exact ⟨fp, hfp, hsrc⟩
  · rw [hr, ips]
    intro i hi
    rcases List.mem_append.mp hi with hold | hnew
    · exact h.allocated i hold
    · rw [List.mem_singleton.mp hnew]
      refine ⟨o, ?_, haddr⟩
      rw [howner, ← effectiveId_eq hspec]
      rfl
  · rw [hr, sources]
    intro podId ip hget
    obtain ⟨i, hi, hid⟩ := h.source podId ip hget
    exact ⟨i, List.mem_append_left _ hi, hid⟩

/-- The record of a pod that was started: its source IP is that of the instance. -/
theorem Secured.recorded (h : Secured cfg t) {spec : WorkloadSpec} {podSpec : PodSpec} {wl handle : UInt32}
    (hspec : spec.podSpec = some podSpec) (hmem : bootInstance spec podSpec wl handle ∈ t.running) (pods : PodManager)
    (probes : ProbeManager) : Secured cfg { t with
      podSourceIps := t.podSourceIps.insert spec.effectiveId wl, pods := pods, probes := probes } := by
  refine ⟨h.toExclusive.congr rfl rfl, h.allocated, fun podId ip hget => ?_⟩
  rw [FinMap.get_insert] at hget
  split at hget
  · next heq =>
    obtain rfl := Option.some.inj hget
    refine ⟨bootInstance spec podSpec wl handle, hmem, ?_, rfl⟩
    rw [heq]
    exact effectiveId_eq hspec
  · exact h.source podId ip hget

/-- What a boot does before it takes a pair succeeds: the spec is whole, the mounts can be prepared, the workload has a
    fingerprint, and the pool has a pair. -/
structure Reserves (cfg : ManagerConfig api) (env : BootEnv api) (spec : WorkloadSpec) (w : World api) (podSpec : PodSpec)
    (mounts : List PreparedMount) (gw : UInt32) : Prop where
  whole : spec.podSpec = some podSpec
  prepared : prepareMounts env.fs cfg.volumeConfig spec.effectiveId podSpec.volumes podSpec.volumeMounts = .ok mounts
  fingerprint : ∃ fp, workloadFingerprint api cfg.trustDomain podSpec.tenantId spec.workloadId spec.role = .ok fp
  pair : ∃ wl ips, w.ips.allocateP2pPair spec.effectiveId = .ok ((gw, wl), ips)

/-- If an instance runs under the pod id and the boot comes to take a pair, the environment lets it register the IP and
    start the pod: it has no pair to release. -/
def BootSafe (cfg : ManagerConfig api) (env : BootEnv api) (w : World api) (spec : WorkloadSpec) : Prop :=
  Clash w spec.effectiveId → ∀ podSpec mounts gw, Reserves cfg env spec w podSpec mounts gw →
    env.register = none ∧ RuntimeStarts cfg env spec podSpec mounts gw w.nextCid spec.runtime

/-- From the reservation on: the runtime, and the record or the undoing. -/
theorem Secured.boots (h : Secured cfg w) {env : BootEnv api} {spec : WorkloadSpec} {podSpec : PodSpec}
    {mounts : List PreparedMount} {gw wl : UInt32} (hspec : spec.podSpec = some podSpec) {fp : IdentityFingerprint}
    (hfp : workloadFingerprint api cfg.trustDomain podSpec.tenantId spec.workloadId spec.role = .ok fp)
    (hsource : w.srcIdentity.get wl = some fp) {o : Nat} (howner : w.ips.allocated.get o = some spec.effectiveId)
    (haddr : w.ips.addr o = wl) (fresh : ∀ i ∈ w.running, i.ip ≠ wl)
    (free : ∀ e, (bootRuntime cfg env spec mounts ⟨gw, wl, some ⟨wl⟩⟩ w).result = .error e → ¬Clash w spec.effectiveId) :
    wp (Exclusive cfg) (bootRuntime cfg env spec mounts ⟨gw, wl, some ⟨wl⟩⟩)
      (fun handle => wp (Exclusive cfg) (recordPod cfg env spec podSpec spec.effectiveId fp ⟨gw, wl, some ⟨wl⟩⟩ handle)
        (fun _ => Secured cfg) (fun _ => Secured cfg))
      (fun _ => wp (Exclusive cfg) (cancelReservation env spec.effectiveId ⟨gw, wl, some ⟨wl⟩⟩)
        (fun _ => Secured cfg) (fun _ => Secured cfg)) w := by
  refine (bootRuntime_steps hspec).with_result.mono (fun t ht => ?_) (fun handle t ⟨ht, _⟩ => ?_)
    (fun e t ⟨ht, failed⟩ => ?_)
  · obtain ⟨hb, hr | ⟨handle, hr⟩⟩ := ht
    · exact (h.congr hr hb).toExclusive
    · exact (h.started ⟨hb, hr⟩ hspec hfp hsource howner haddr fresh).toExclusive
  · have running := h.started ht hspec hfp hsource howner haddr fresh
    have started : bootInstance spec podSpec wl handle ∈ t.running := by
      rw [show t.running = _ from ht.2]
      exact List.mem_append_right _ (List.mem_singleton_self _)
    have recorded := running.recorded hspec started
    exact wp_recordPod (recorded _ _).toExclusive (fun probes => (recorded _ probes).toExclusive) (recorded _ _)
  · -- The undoing: the fresh IP leaves the map again, and whatever is allocated to the pod id is released.
    have back := h.congr ht.2 ht.1
    have fresh' : ∀ i ∈ t.running, i.ip ≠ wl := by
      rw [ht.2]
      exact fresh
    have undone := fun ips' => back.toExclusive.unregister (t := { t with
      srcIdentity := unregistered env.unregister wl t.srcIdentity, ips := ips' }) fresh' rfl rfl
    refine wp_cancelReservation (undone _) (undone _) ⟨undone _, ?_, back.source⟩
    refine allocated_release back.allocated ?_
    rw [ht.2]
    exact not_clash_iff.mp (free e failed)

theorem bootPod_exclusive {env : BootEnv api} {spec : WorkloadSpec} (hreg : cfg.srcIdentity = true) (hw : Secured cfg w)
    (safe : BootSafe cfg env w spec) :
    wp (Exclusive cfg) (bootPod cfg env spec) (fun _ => Secured cfg) (fun _ => Secured cfg) w := by
  have keyed : ∀ k, Secured cfg { w with delegatedKeys := k } :=
    fun k => ⟨hw.toExclusive.congr rfl rfl, hw.allocated, hw.source⟩
  refine wp_bootPod (fun k => (keyed k).toExclusive) (fun _ k => keyed k) ?_
  intro podSpec fp mounts k hspec hmounts hfp
  have reserves : ∀ gw wl ips, w.ips.allocateP2pPair spec.effectiveId = .ok ((gw, wl), ips) →
      Reserves cfg env spec w podSpec mounts gw := fun gw wl ips hok => ⟨hspec, hmounts, ⟨fp, hfp⟩, wl, ips, hok⟩
  refine wp_reservePair hreg (fun e _ => keyed k) ?_ ?_ ?_
  · intro gw wl ips hok
    obtain ⟨o, took⟩ := allocateP2pPair_took hok
    exact ((keyed k).withPair _ took).toExclusive
  · intro gw wl ips e hok hrefused
    obtain ⟨o, took⟩ := allocateP2pPair_took hok
    have paired := (keyed k).withPair spec.workloadId took
    have free : ¬Clash w spec.effectiveId := by
      intro clash
      rw [(safe clash podSpec mounts gw (reserves gw wl ips hok)).1] at hrefused
      cases hrefused
    refine ⟨paired.toExclusive.congr rfl rfl, fun _ => ⟨paired.toExclusive.congr rfl rfl, ?_, paired.source⟩⟩
    exact allocated_release paired.allocated (not_clash_iff.mp free)
  · intro gw wl ips hok _
    obtain ⟨o, took⟩ := allocateP2pPair_took hok
    have fresh := (keyed k).fresh took
    have paired := (keyed k).withPair spec.workloadId took
    have registered : Exclusive cfg { World.withPair { w with delegatedKeys := k } spec.effectiveId spec.workloadId wl ips
        with srcIdentity := w.srcIdentity.insert wl fp } := paired.toExclusive.register fresh rfl rfl
    have reserved : Secured cfg
        ((World.withPair { w with delegatedKeys := k } spec.effectiveId spec.workloadId wl ips).withSource cfg env wl fp) :=
      ⟨paired.toExclusive.register fresh rfl rfl, paired.allocated, paired.source⟩
    have howner : ips.allocated.get (o + 1) = some spec.effectiveId := took.get_eq_some.mpr (Or.inl ⟨rfl, rfl⟩)
    have haddr : ips.addr (o + 1) = wl := (took.addr_eq _).trans took.workload.symm
    refine ⟨registered, reserved.toExclusive, ?_⟩
    refine reserved.boots hspec hfp (FinMap.get_insert_self _ _ _) howner haddr fresh fun e failed clash => ?_
    have starts := (safe clash podSpec mounts gw (reserves gw wl ips hok)).2
    exact bootRuntime_ne_error hspec starts e failed

/-! ### Evicting -/

/-- The stop of the pod's record, if it succeeds, ends only instances of the pod, and leaves none whose IP is released
    with the pod's pair. -/
def EvictSafe (env : EvictEnv) (w : World api) (podId : String) : Prop :=
  ∀ pod rest, w.pods.getPod podId = some pod → afterStop env w podId pod.runtime (pod.pid.getD 0) = some rest →
    (∀ i ∈ rest, i.podId ≠ podId ∧ i.podId ≠ gatewayOwner podId) ∧ ∀ i ∈ w.running, i ∉ rest → i.podId = podId

theorem afterStop_sublist {env : EvictEnv} {podId : String} {runtime : RuntimeKind} {handle : UInt32}
    {rest : List RuntimeInstance} (h : afterStop env w podId runtime handle = some rest) : rest.Sublist w.running := by
  unfold afterStop at h
  split at h
  · split at h
    · cases h
      exact List.filter_sublist
    · cases h
  · split at h
    · cases h
      exact List.Sublist.refl _
    · split at h
      · cases h
        exact List.filter_sublist
      · cases h

theorem Exclusive.sublist (h : Exclusive cfg w) (hr : t.running.Sublist w.running) (hs : t.srcIdentity = w.srcIdentity) :
    Exclusive cfg t := by
  refine ⟨h.distinct.sublist hr, fun i hi => ?_⟩
  rw [hs]
  exact h.identified i (hr.subset hi)

theorem Exclusive.ip_ne (h : Exclusive cfg w) {i j : RuntimeInstance} (hi : i ∈ w.running) (hj : j ∈ w.running)
    (hne : i ≠ j) : i.ip ≠ j.ip :=
  have : Std.Symm fun i j : RuntimeInstance => i.ip ≠ j.ip := ⟨fun _ _ => Ne.symm⟩
  h.distinct.forall hi hj hne

theorem evictPod_exclusive {env : EvictEnv} {podId : String} (hreg : cfg.srcIdentity = true) (hw : Secured cfg w)
    (safe : EvictSafe env w podId) :
    wp (Exclusive cfg) (evictPod cfg env podId) (fun _ => Secured cfg) (fun _ => Secured cfg) w := by
  refine wp_evictPod (fun _ _ => hw) (fun _ _ _ => hw.toExclusive.congr rfl rfl) ?_
  intro pod hpod
  have begun : Secured cfg (w.withEviction cfg podId) := ⟨hw.toExclusive.congr rfl rfl, hw.allocated, hw.source⟩
  refine stopRuntime_steps.mono (fun t ht => ?_) (fun _ t ht => ?_) (fun e t ht => begun.congr ht.1.2 ht.1.1)
  · obtain ⟨hb, hr | hstop⟩ := ht
    · exact (begun.congr hr hb).toExclusive
    · exact hw.toExclusive.sublist (afterStop_sublist hstop) (congrArg Books.srcIdentity hb)
  obtain ⟨hb, hstop⟩ := ht
  obtain ⟨hgone, hothers⟩ := safe pod t.running hpod hstop
  have sublist : t.running.Sublist w.running := afterStop_sublist hstop
  have ips : t.ips = w.ips := congrArg Books.ips hb
  have sources : t.podSourceIps = w.podSourceIps := congrArg Books.podSourceIps hb
  have exclusive : Exclusive cfg t := hw.toExclusive.sublist sublist (congrArg Books.srcIdentity hb)
  have allocated : ∀ i ∈ t.running, ∃ o, t.ips.allocated.get o = some i.podId ∧ t.ips.addr o = i.ip := by
    rw [ips]
    exact fun i hi => hw.allocated i (sublist.subset hi)
  -- A source IP recorded for another pod is that of an instance which the stop did not end.
  have source : ∀ p ip, p ≠ podId → t.podSourceIps.get p = some ip → ∃ i ∈ t.running, i.podId = p ∧ i.ip = ip := by
    intro p ip hne hget
    rw [sources] at hget
    obtain ⟨i, hi, rfl, hip⟩ := hw.source p ip hget
    exact ⟨i, not_not.mp fun hstopped => hne (hothers i hi hstopped), rfl, hip⟩
  have removed : ∀ u : World api, Secured cfg u →
      Exclusive cfg { u with pods := u.pods.removePod podId } ∧ Secured cfg { u with pods := u.pods.removePod podId } :=
    fun u hu => ⟨hu.toExclusive.congr rfl rfl, hu.toExclusive.congr rfl rfl, hu.allocated, hu.source⟩
  refine wp_releaseSource hreg (fun hnone => ?_) fun srcIp hsome => ?_
  · have secured : Secured cfg t := by
      refine ⟨exclusive, allocated, fun p ip hget => source p ip ?_ hget⟩
      rintro rfl
      rw [hnone] at hget
      cases hget
    exact ⟨fun _ _ => secured, fun _ => removed t secured⟩
  · have fresh : ∀ i ∈ t.running, i.ip ≠ srcIp := by
      intro i hi
      rw [sources] at hsome
      obtain ⟨j, hj, hpod, rfl⟩ := hw.source podId srcIp hsome
      refine hw.toExclusive.ip_ne (sublist.subset hi) hj ?_
      rintro rfl
      exact (hgone i hi).1 hpod
    have released : ∀ n, Secured cfg { t.withoutSource env podId srcIp with netns := n } := by
      intro n
      refine ⟨exclusive.unregister fresh rfl rfl, allocated_release allocated hgone, fun p ip hget => ?_⟩
      obtain ⟨hne, hget'⟩ := FinMap.get_remove_eq_some.mp hget
      exact source p ip hne hget'
    refine ⟨exclusive.congr rfl rfl, exclusive.unregister fresh rfl rfl, fun n => (released n).toExclusive, fun n => ?_⟩
    exact ⟨fun _ _ => released n, fun _ => removed _ (released n)⟩

/-! ### Runs -/

def SafeOp (cfg : ManagerConfig api) (w : World api) : ManagerOp api → Prop
  | .evict podId env => EvictSafe env w podId
  | .boot spec env => BootSafe cfg env w spec

theorem runOp_exclusive {op : ManagerOp api} (hreg : cfg.srcIdentity = true) (hw : Secured cfg w) (safe : SafeOp cfg w op) :
    wp (Exclusive cfg) (runOp cfg op) (fun _ => Secured cfg) (fun _ => Secured cfg) w := by
  cases op with
  | evict podId env => exact evictPod_exclusive hreg hw safe
  | boot spec env =>
    have booted : wp (Exclusive cfg) (bootPod cfg env spec) (fun _ => Secured cfg) (fun _ => Secured cfg) w :=
      bootPod_exclusive hreg hw safe
    exact wp_bind.mpr (booted.mono (fun _ => id) (fun _ _ ht => wp_pure.mpr ht) fun _ _ => id)

def SafeCall (cfg : ManagerConfig api) (w : World api) (call : ReconcileCall api) : Prop :=
  Along (turn (runOp cfg)) (SafeOp cfg) w (reconcileOps w call)

theorem reconcile_exclusive {call : ReconcileCall api} (hreg : cfg.srcIdentity = true) (hw : Secured cfg w)
    (safe : SafeCall cfg w call) :
    (∀ t ∈ (reconcile cfg call w).passed, Exclusive cfg t) ∧ Secured cfg (turn (reconcile cfg) w call) := by
  have step : ∀ s op, Secured cfg s → SafeOp cfg s op → Secured cfg (turn (runOp cfg) s op) :=
    fun s op hs hop => (runOp_exclusive hreg hs hop).final
  have passed : ∀ s op, Secured cfg s → SafeOp cfg s op → ∀ t ∈ (runOp cfg op s).passed, Exclusive cfg t :=
    fun s op hs hop => (runOp_exclusive hreg hs hop).passed
  constructor
  · exact runAll_passed.mpr (Along.of_inv step passed safe hw)
  · show Secured cfg (runAll (runOp cfg) (reconcileOps w call) w).final
    rw [runAll_final]
    exact Along.inv step safe hw

/-- In every run of reconcile calls whose operations are all safe, at every moment, running instances hold different
    workload IPs, and SRC_IDENTITY_MAP maps each of these to the fingerprint of the instance's own workload. -/
theorem reconcile_run_exclusive (cfg : ManagerConfig api) (hreg : cfg.srcIdentity = true) (ips : NodeIpAllocator)
    (calls : List (ReconcileCall api)) (safe : Along (turn (reconcile cfg)) (SafeCall cfg) { ips := ips } calls) :
    ∀ t ∈ (runAll (reconcile cfg) calls { ips := ips }).passed, Exclusive cfg t := by
  have start : Secured cfg { ips := ips } :=
    ⟨⟨List.Pairwise.nil, by rintro i ⟨⟩⟩, by rintro i ⟨⟩, by rintro podId ip ⟨⟩⟩
  refine runAll_passed.mpr (Along.of_inv ?_ ?_ safe start)
  · exact fun s call hs hcall => (reconcile_exclusive hreg hs hcall).2
  · exact fun s call hs hcall => (reconcile_exclusive hreg hs hcall).1

end

theorem reconcile_run_exclusive_of_boots :
    Along (turn (reconcile sampleConfig)) (SafeCall sampleConfig) { ips := samplePool }
      [sampleCall [sampleSpec "web" .containerd, sampleSpec "db" .containerd] {} fun _ => sampleBoot] ∧
    ∀ t ∈ (runAll (reconcile sampleConfig)
      [sampleCall [sampleSpec "web" .containerd, sampleSpec "db" .containerd] {} fun _ => sampleBoot]
      { ips := samplePool }).passed, Exclusive sampleConfig t := by
  have safe : Along (turn (reconcile sampleConfig)) (SafeCall sampleConfig) { ips := samplePool }
      [sampleCall [sampleSpec "web" .containerd, sampleSpec "db" .containerd] {} fun _ => sampleBoot] := by
    refine along_cons.mpr ⟨?_, along_nil⟩
    rw [SafeCall, reconcileOps_of_no_pods rfl]
    refine along_cons.mpr ⟨?_, along_cons.mpr ⟨?_, along_nil⟩⟩
    · exact fun _ _ _ _ _ => ⟨rfl, rfl, rfl, 0, rfl⟩
    · exact fun _ _ _ _ _ => ⟨rfl, rfl, rfl, 0, rfl⟩
  exact ⟨safe, reconcile_run_exclusive sampleConfig rfl samplePool _ safe⟩

/-- The MicroVM "web" boots; its shutdown fails; booting it again fails, and "db" boots. -/
def webStillRuns : List (ReconcileCall textApi) :=
  [sampleCall [sampleSpec "web" .cloudHypervisor] {} fun _ => sampleBoot,
    sampleCall [] { stop := some (.workload "CH vm.shutdown: connection refused") } fun _ => sampleBoot,
    sampleCall [sampleSpec "web" .cloudHypervisor, sampleSpec "db" .cloudHypervisor] {} fun n =>
      if n = 0 then { sampleBoot with bootVm := some "connection refused" } else sampleBoot]

/-- The shutdown of "web" fails, so its MicroVM runs on. Booting "web" again fails, which releases by pod id the pair of the
    MicroVM that still runs; "db" is given its IP. -/
theorem reconcile_run_shares_ip :
    ¬∀ t ∈ (runAll (reconcile sampleConfig) webStillRuns { ips := samplePool }).passed, Exclusive sampleConfig t := by
  intro h
  have shared : [0x0A000002, 0x0A000002] ∈ (runAll (reconcile sampleConfig) webStillRuns
      { ips := samplePool }).passed.map fun t => t.running.map (·.ip) := by decide +kernel
  obtain ⟨t, ht, hips⟩ := List.mem_map.mp shared
  have distinct := List.pairwise_map.mpr (h t ht).distinct
  rw [hips] at distinct
  exact absurd distinct (by decide)

end FleetosAgent.Workloads
