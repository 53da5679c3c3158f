import FleetosAgent.Theorems.ManagerSteps
import FleetosAgent.Theorems.Reconcile

/-! # Failed evictions

What a reconcile call leaves behind of workloads that it does not want. `W` is the set of workload ids that the last call
wants. A record outside `W` is evicted by that call only if the reconciler still sees it, that is, if it is live
(`Tracked.live`); and a pair or a SRC_IDENTITY_MAP entry goes with its pod only if the pod's record stands for it
(`Tracked.held`). -/

namespace FleetosAgent.Workloads
open Lib Traced NodeIpAllocator

/-- The workload address of the pair that an offset is part of. -/
def NodeIpAllocator.pairIp (a : NodeIpAllocator) (o : Nat) : UInt32 := a.addr (if o % 4 = 1 then o + 1 else o)

def pairOwner (o : Nat) (podId : String) : String := if o % 4 = 1 then gatewayOwner podId else podId

theorem pairOwner_eq_or (o : Nat) (podId : String) :
    pairOwner o podId = podId ∨ pairOwner o podId = gatewayOwner podId := by
  unfold pairOwner
  split
  · exact Or.inr rfl
  · exact Or.inl rfl

section
variable {api : SpiffeApi}

/-- The node holds the pair with the workload address `ip`, or a part of it, or has the IP in SRC_IDENTITY_MAP. -/
def Holds (w : World api) (ip : UInt32) : Prop :=
  ip ∈ w.srcIdentity.keys ∨ ∃ o ∈ w.ips.allocated.keys, w.ips.pairIp o = ip

/-- What is held was given to a pod; and of what was given to workloads outside `W`, a record stands for all that is
    held, and is live. -/
structure Tracked (W : Finset String) (w : World api) : Prop where
  pairs : ∀ o owner, w.ips.allocated.get o = some owner → (o % 4 = 1 ∨ o % 4 = 2) ∧
    ∃ p wk, w.grants.get (w.ips.pairIp o) = some (p, wk) ∧ owner = pairOwner o p
  granted : ∀ ip ∈ w.srcIdentity.keys, ip ∈ w.grants.keys
  live : ∀ p pod, w.pods.getPod p = some pod → pod.workloadId ∉ W → pod.Live
  held : ∀ ip p wk, Holds w ip → w.grants.get ip = some (p, wk) → wk ∉ W →
    (∃ pod, w.pods.getPod p = some pod ∧ pod.workloadId = wk) ∧ w.podSourceIps.get p = some ip

variable {W : Finset String} {w t : World api} {podId : String}

theorem NodeIpAllocator.Took.pairIp_eq {a a' : NodeIpAllocator} {gw wl : UInt32} {o : Nat}
    (took : Took a podId gw wl a' o) (o' : Nat) : a'.pairIp o' = a.pairIp o' :=
  took.addr_eq _

theorem NodeIpAllocator.Took.pairIp_gateway {a a' : NodeIpAllocator} {gw wl : UInt32} {o : Nat}
    (took : Took a podId gw wl a' o) : a.pairIp o = wl := by
  rw [pairIp, if_pos took.aligned, took.workload]

theorem NodeIpAllocator.Took.pairIp_workload {a a' : NodeIpAllocator} {gw wl : UInt32} {o : Nat}
    (took : Took a podId gw wl a' o) : a.pairIp (o + 1) = wl := by
  have aligned := took.aligned
  rw [pairIp, if_neg (by omega), took.workload]

theorem Tracked.pairIp_ne (h : Tracked W w) {gw wl : UInt32} {ips : NodeIpAllocator} {o : Nat}
    (took : Took w.ips podId gw wl ips o) {o' : Nat} (hkey : o' ∈ w.ips.allocated.keys) : w.ips.pairIp o' ≠ wl := by
  obtain ⟨owner, hget⟩ := FinMap.mem_keys_iff.mp hkey
  obtain ⟨hmod, -⟩ := h.pairs o' owner hget
  have hbound := (w.ips.bounded o' (Or.inr hkey)).2
  have hbelow := took.below
  have haligned := took.aligned
  rw [took.workload, pairIp, Ne]
  split
  · rw [w.ips.addr_inj (by omega) (by omega)]
    intro heq
    exact took.gateway_fresh ((Nat.succ.inj heq) ▸ hkey)
  · rw [w.ips.addr_inj (by omega) (by omega)]
    exact fun heq => took.workload_fresh (heq ▸ hkey)

/-! ### Booting -/

section Boot
variable {gw wl : UInt32} {ips : NodeIpAllocator} {o : Nat} {workloadId : String} {fp : IdentityFingerprint}

/-- What is held once a pair is taken and its IP registered was held before, the IP itself apart. -/
theorem Holds.before_took (took : Took w.ips podId gw wl ips o) (hips : t.ips = ips)
    (hsrc : t.srcIdentity = w.srcIdentity.insert wl fp) {ip : UInt32} (hne : ip ≠ wl) (hholds : Holds t ip) :
    Holds w ip := by
  rcases hholds with hip | ⟨o', hkey, hip⟩
  · rw [hsrc, FinMap.keys_insert, Finset.mem_insert] at hip
    exact Or.inl (hip.resolve_left hne)
  · rw [hips, took.pairIp_eq] at hip
    rw [hips, took.allocated, FinMap.keys_insert, FinMap.keys_insert, Finset.mem_insert, Finset.mem_insert] at hkey
    rcases hkey with rfl | rfl | hkey
    · exact absurd (hip.symm.trans took.pairIp_workload) hne
    · exact absurd (hip.symm.trans took.pairIp_gateway) hne
    · exact Or.inr ⟨o', hkey, hip⟩

/-- Both addresses of the pair that is taken are granted to the pod; the others are as before. -/
theorem Tracked.pair_granted (h : Tracked W w) (took : Took w.ips podId gw wl ips o) (workloadId : String) {o' : Nat}
    {owner : String} (hget : ips.allocated.get o' = some owner) : (o' % 4 = 1 ∨ o' % 4 = 2) ∧
      ∃ p wk, (w.grants.insert wl (podId, workloadId)).get (w.ips.pairIp o') = some (p, wk) ∧ owner = pairOwner o' p := by
  have aligned := took.aligned
  rw [took.get_eq_some] at hget
  rcases hget with ⟨rfl, rfl⟩ | ⟨rfl, rfl⟩ | hget
  · refine ⟨Or.inr (by omega), podId, workloadId, ?_, ?_⟩
    · rw [took.pairIp_workload, FinMap.get_insert_self]
    · rw [pairOwner, if_neg (by omega)]
  · refine ⟨Or.inl aligned, podId, workloadId, ?_, ?_⟩
    · rw [took.pairIp_gateway, FinMap.get_insert_self]
    · rw [pairOwner, if_pos aligned]
  · rw [FinMap.get_insert_ne _ _ (h.pairIp_ne took (FinMap.mem_keys_of_get hget))]
    exact h.pairs o' owner hget

theorem Tracked.booted (h : Tracked W w) (pod : Pod) (took : Took w.ips pod.podId gw wl ips o)
    (hcond : ∀ old, w.pods.getPod pod.podId = some old → old.workloadId ∈ W) (hlive : pod.Live) (hips : t.ips = ips)
    (hgrants : t.grants = w.grants.insert wl (pod.podId, pod.workloadId))
    (hsrc : t.srcIdentity = w.srcIdentity.insert wl fp) (hpods : t.pods = w.pods.addPod pod)
    (hsources : t.podSourceIps = w.podSourceIps.insert pod.podId wl) : Tracked W t := by
  have records : ∀ p, t.pods.getPod p = if p = pod.podId then some pod else w.pods.getPod p := by
    intro p
    rw [hpods, PodManager.getPod_addPod]
  refine ⟨?_, ?_, ?_, ?_⟩
  · intro o' owner hget
    rw [hips] at hget
    rw [hips, took.pairIp_eq, hgrants]
    exact h.pair_granted took pod.workloadId hget
  · intro ip hip
    rw [hsrc, FinMap.keys_insert, Finset.mem_insert] at hip
    rw [hgrants, FinMap.keys_insert, Finset.mem_insert]
    exact hip.imp_right (h.granted ip)
  · intro p pod' hget hout
    rw [records] at hget
    split at hget
    · cases hget
      exact hlive
    · exact h.live p pod' hget hout
  · intro ip p wk hholds hgrant hout
    rw [hgrants, FinMap.get_insert] at hgrant
    split at hgrant
    · next heq =>
      cases hgrant
      refine ⟨⟨pod, by rw [records, if_pos rfl], rfl⟩, ?_⟩
      rw [hsources, FinMap.get_insert_self, heq]
    · next hne =>
      have before : Holds w ip := hholds.before_took took hips hsrc hne
      obtain ⟨⟨pod', hget, hwk⟩, hsource⟩ := h.held ip p wk before hgrant hout
      have other : p ≠ pod.podId := by
        rintro rfl
        exact hout (hwk ▸ hcond pod' hget)
      refine ⟨⟨pod', by rw [records, if_neg other, hget], hwk⟩, ?_⟩
      rw [hsources, FinMap.get_insert_ne _ _ other, hsource]

/-- A boot whose reservation was undone: what is released belongs to the pod id. -/
theorem Tracked.undone (h : Tracked W w) (took : Took w.ips podId gw wl ips o)
    (hips : t.ips = ips.releaseP2pPair podId) (hgrants : t.grants = w.grants.insert wl (podId, workloadId))
    (hsrc : t.srcIdentity = (w.srcIdentity.insert wl fp).remove wl) (hpods : t.pods = w.pods)
    (hsources : t.podSourceIps = w.podSourceIps) : Tracked W t := by
  have pairIp_eq : ∀ o', t.ips.pairIp o' = w.ips.pairIp o' := by
    intro o'
    rw [hips]
    exact took.pairIp_eq o'
  have kept : ∀ o' owner, t.ips.allocated.get o' = some owner → w.ips.allocated.get o' = some owner := by
    intro o' owner hget
    rw [hips, releaseP2pPair_get, took.get_eq_some] at hget
    obtain ⟨⟨-, rfl⟩ | ⟨-, rfl⟩ | hget, hworkload, hgateway⟩ := hget
    · exact absurd rfl hworkload
    · exact absurd rfl hgateway
    · exact hget
  have listed : ∀ ip ∈ t.srcIdentity.keys, ip ≠ wl ∧ ip ∈ w.srcIdentity.keys := by
    intro ip hip
    rw [hsrc, FinMap.keys_remove, Finset.mem_erase, FinMap.keys_insert, Finset.mem_insert] at hip
    exact ⟨hip.1, hip.2.resolve_left hip.1⟩
  refine ⟨?_, ?_, ?_, ?_⟩
  · intro o' owner hget
    rw [hips, releaseP2pPair_get] at hget
    rw [pairIp_eq, hgrants]
    exact h.pair_granted took workloadId hget.1
  · intro ip hip
    rw [hgrants, FinMap.keys_insert]
    exact Finset.mem_insert_of_mem (h.granted ip (listed ip hip).2)
  · rw [hpods]
    exact h.live
  · intro ip p wk hholds hgrant hout
    have before : ip ≠ wl ∧ Holds w ip := by
      rcases hholds with hip | ⟨o', hkey, hip⟩
      · exact ⟨(listed ip hip).1, Or.inl (listed ip hip).2⟩
      · obtain ⟨owner, hget⟩ := FinMap.mem_keys_iff.mp hkey
        have hkey' := FinMap.mem_keys_of_get (kept o' owner hget)
        rw [pairIp_eq] at hip
        exact ⟨hip ▸ h.pairIp_ne took hkey', Or.inr ⟨o', hkey', hip⟩⟩
    rw [hgrants, FinMap.get_insert_ne _ _ before.1] at hgrant
    rw [hpods, hsources]
    exact h.held ip p wk before.2 hgrant hout

end Boot

/-! ### Evicting -/

/-- A stop that failed, of a pod whose workload is in `W`. -/
theorem Tracked.terminating (h : Tracked W w) {pod : Pod} (hpod : w.pods.getPod podId = some pod)
    (hin : pod.workloadId ∈ W) (hips : t.ips = w.ips) (hgrants : t.grants = w.grants)
    (hsrc : t.srcIdentity = w.srcIdentity) (hsources : t.podSourceIps = w.podSourceIps)
    (hpods : t.pods = w.pods.modifyPod podId Pod.beginEviction Pod.beginEviction_podId) : Tracked W t := by
  have records : ∀ p, t.pods.getPod p = if p = podId then some pod.beginEviction else w.pods.getPod p := by
    intro p
    rw [hpods, PodManager.getPod_modifyPod, hpod]
    rfl
  have holds : ∀ ip, Holds t ip ↔ Holds w ip := by
    intro ip
    rw [Holds, Holds, hips, hsrc]
  refine ⟨?_, ?_, ?_, ?_⟩
  · rw [hips, hgrants]
    exact h.pairs
  · rw [hsrc, hgrants]
    exact h.granted
  · intro p pod' hget hout
    rw [records] at hget
    split at hget
    · cases hget
      rw [Pod.beginEviction_workloadId] at hout
      exact absurd hin hout
    · exact h.live p pod' hget hout
  · intro ip p wk hholds hgrant hout
    rw [hgrants] at hgrant
    obtain ⟨⟨pod', hget, hwk⟩, hsource⟩ := h.held ip p wk ((holds ip).mp hholds) hgrant hout
    have other : p ≠ podId := by
      rintro rfl
      rw [hpod, Option.some.injEq] at hget
      rw [← hwk, ← hget] at hout
      exact hout hin
    exact ⟨⟨pod', by rw [records, if_neg other, hget], hwk⟩, by rw [hsources, hsource]⟩

/-- An eviction that went through: nothing is left of what was recorded for the pod. -/
theorem Tracked.evicted (h : Tracked W w) (hgrants : t.grants = w.grants) (hbase : t.ips.base = w.ips.base)
    (halloc : ∀ o owner, t.ips.allocated.get o = some owner → w.ips.allocated.get o = some owner ∧
      (w.podSourceIps.get podId = none ∨ owner ≠ podId ∧ owner ≠ gatewayOwner podId))
    (hsrc : ∀ ip ∈ t.srcIdentity.keys, ip ∈ w.srcIdentity.keys ∧ w.podSourceIps.get podId ≠ some ip)
    (hpods : t.pods = w.pods.removePod podId) (hsources : ∀ p, p ≠ podId → t.podSourceIps.get p = w.podSourceIps.get p) :
    Tracked W t := by
  have pairIp_eq : ∀ o, t.ips.pairIp o = w.ips.pairIp o := by
    intro o
    rw [pairIp, pairIp, addr, addr, hbase]
  refine ⟨?_, ?_, ?_, ?_⟩
  · intro o owner hget
    rw [pairIp_eq, hgrants]
    exact h.pairs o owner (halloc o owner hget).1
  · intro ip hip
    rw [hgrants]
    exact h.granted ip (hsrc ip hip).1
  · intro p pod hget hout
    rw [hpods] at hget
    exact h.live p pod (PodManager.getPod_removePod_eq_some.mp hget).2 hout
  · intro ip p wk hholds hgrant hout
    rw [hgrants] at hgrant
    have before : Holds w ip := by
      rcases hholds with hip | ⟨o, hkey, hip⟩
      · exact Or.inl (hsrc ip hip).1
      · obtain ⟨owner, hget⟩ := FinMap.mem_keys_iff.mp hkey
        exact Or.inr ⟨o, FinMap.mem_keys_of_get (halloc o owner hget).1, (pairIp_eq o) ▸ hip⟩
    obtain ⟨⟨pod, hget, hwk⟩, hsource⟩ := h.held ip p wk before hgrant hout
    have other : p ≠ podId := by
      rintro rfl
      rcases hholds with hip | ⟨o, hkey, hip⟩
      · exact (hsrc ip hip).2 hsource
      · obtain ⟨owner, hget⟩ := FinMap.mem_keys_iff.mp hkey
        obtain ⟨hget', hreleased⟩ := halloc o owner hget
        obtain ⟨-, p', wk', hgrant', rfl⟩ := h.pairs o owner hget'
        rw [← pairIp_eq, hip, hgrant] at hgrant'
        cases hgrant'
        rcases hreleased with hnone | ⟨hworkload, hgateway⟩
        · rw [hsource] at hnone
          cases hnone
        · exact (pairOwner_eq_or o p).elim hworkload hgateway
    refine ⟨⟨pod, ?_, hwk⟩, (hsources p other).trans hsource⟩
    rw [hpods]
    exact PodManager.getPod_removePod_eq_some.mpr ⟨other, hget⟩

/-! ### The operations -/

section Operations
variable {cfg : ManagerConfig api}

theorem bootPod_tracked {env : BootEnv api} {spec : WorkloadSpec} (hreg : cfg.srcIdentity = true)
    (hregister : env.register = none) (hunregister : env.unregister = none) (h : Tracked W w)
    (hcond : ∀ old, w.pods.getPod spec.effectiveId = some old → old.workloadId ∈ W) :
    wp (fun _ => True) (bootPod cfg env spec)
      (fun _ t => Tracked W t ∧ ∃ pod, pod.workloadId = spec.workloadId ∧ t.pods = w.pods.addPod pod)
      (fun _ t => Tracked W t ∧ t.pods = w.pods) w := by
  have early : ∀ k : Identity.DelegatedKeyManager api, Tracked W { w with delegatedKeys := k } :=
    fun k => ⟨h.pairs, h.granted, h.live, h.held⟩
  refine wp_bootPod (fun _ => trivial) (fun _ k => ⟨early k, rfl⟩) fun podSpec fp mounts k hspec _ _ => ?_
  refine wp_reservePair hreg (fun _ _ => ⟨early k, rfl⟩) (fun _ _ _ _ => trivial) ?_ ?_
  · intro _ _ _ e _ hfault
    rw [hregister] at hfault
    cases hfault
  · intro gw wl ips hok _
    obtain ⟨o, took⟩ := allocateP2pPair_took hok
    refine ⟨trivial, trivial, ?_⟩
    refine (bootRuntime_steps hspec).mono (fun _ _ => trivial) (fun handle t ht => ?_) (fun e t ht => ?_)
    · have hb := ht.1
      have hpods : t.pods = w.pods := congrArg Books.pods hb
      refine wp_recordPod trivial (fun _ => trivial) ⟨?_, _, rfl, congrArg (PodManager.addPod · _) hpods⟩
      refine h.booted (.booted spec.effectiveId spec.workloadId podSpec.tenantId spec.role spec.runtime fp handle) took
        hcond Pod.booted_live (congrArg Books.ips hb) (congrArg Books.grants hb) (congrArg Books.srcIdentity hb)
        (congrArg (PodManager.addPod · _) hpods) ?_
      exact congrArg (FinMap.insert · _ _) (congrArg Books.podSourceIps hb)
    · have hb := ht.1
      have hpods : t.pods = w.pods := congrArg Books.pods hb
      have hsrc : t.srcIdentity = w.srcIdentity.insert wl fp := congrArg Books.srcIdentity hb
      have removed : unregistered env.unregister wl t.srcIdentity = (w.srcIdentity.insert wl fp).remove wl := by
        rw [hunregister, hsrc]
        rfl
      refine wp_cancelReservation trivial trivial ⟨?_, hpods⟩
      exact h.undone took (congrArg (releaseP2pPair · _) (congrArg Books.ips hb)) (congrArg Books.grants hb) removed hpods
        (congrArg Books.podSourceIps hb)

theorem isSome_of_afterStop_none {env : EvictEnv} {runtime : RuntimeKind} {handle : UInt32}
    (h : afterStop env w podId runtime handle = none) : env.stop.isSome := by
  cases hstop : env.stop with
  | some e => rfl
  | none =>
    rw [afterStop.eq_def, hstop] at h
    split at h
    · cases h
    · split at h <;> cases h

theorem evictPod_tracked {env : EvictEnv} (hreg : cfg.srcIdentity = true) (hunregister : env.unregister = none)
    (hteardown : teardownPodScratch env.fs cfg.volumeConfig podId = .ok ()) (h : Tracked W w)
    (hcond : ∀ pod, w.pods.getPod podId = some pod → afterStop env w podId pod.runtime (pod.pid.getD 0) = none →
      pod.workloadId ∈ W) :
    wp (fun _ => True) (evictPod cfg env podId) (fun _ t => Tracked W t ∧ t.pods = w.pods.removePod podId)
      (fun _ t => Tracked W t ∧ (t = w ∧ w.pods.getPod podId = none ∨ env.stop.isSome)) w := by
  refine wp_evictPod (fun _ hnone => ⟨h, Or.inl ⟨rfl, hnone⟩⟩) (fun _ _ _ => trivial) fun pod hpod => ?_
  refine stopRuntime_steps.mono (fun _ _ => trivial) (fun _ t ht => ?_) (fun e t ht => ?_)
  · obtain ⟨hb, -⟩ := ht
    have hips : t.ips = w.ips := congrArg Books.ips hb
    have hbase : t.ips.base = w.ips.base := by rw [hips]
    have hgrants : t.grants = w.grants := congrArg Books.grants hb
    have hsources : t.podSourceIps = w.podSourceIps := congrArg Books.podSourceIps hb
    have hsrc : t.srcIdentity = w.srcIdentity := congrArg Books.srcIdentity hb
    have hpods : t.pods.removePod podId = w.pods.removePod podId := by
      have modified : t.pods = w.pods.modifyPod podId Pod.beginEviction Pod.beginEviction_podId := congrArg Books.pods hb
      rw [modified, PodManager.removePod_modifyPod]
    have torn : ∀ e, teardownPodScratch env.fs cfg.volumeConfig podId ≠ .error e := by
      intro e he
      rw [hteardown] at he
      cases he
    refine wp_releaseSource hreg (fun hnone => ?_) fun srcIp hsome => ?_
    · refine ⟨fun e he => absurd he (torn e), fun _ => ⟨trivial, ?_, hpods⟩⟩
      rw [hsources] at hnone
      refine h.evicted hgrants hbase ?_ ?_ hpods fun p _ => by rw [hsources]
      · intro o owner hget
        rw [hips] at hget
        exact ⟨hget, Or.inl hnone⟩
      · intro ip hip
        rw [hsrc] at hip
        exact ⟨hip, by rw [hnone]; exact Option.some_ne_none ip |>.symm⟩
    · refine ⟨trivial, trivial, fun _ => trivial, fun n => ⟨fun e he => absurd he (torn e), fun _ => ⟨trivial, ?_, hpods⟩⟩⟩
      rw [hsources] at hsome
      refine h.evicted hgrants hbase ?_ ?_ hpods fun p hne => ?_
      · intro o owner hget
        have released : (w.ips.releaseP2pPair podId).allocated.get o = some owner := hips ▸ hget
        rw [releaseP2pPair_get] at released
        exact ⟨released.1, Or.inr released.2⟩
      · intro ip hip
        have removed : ip ∈ (unregistered env.unregister srcIp t.srcIdentity).keys := hip
        rw [hunregister, hsrc] at removed
        obtain ⟨hne, hmem⟩ := Finset.mem_erase.mp removed
        rw [hsome, Ne, Option.some.injEq]
        exact ⟨hmem, fun heq => hne heq.symm⟩
      · show (t.podSourceIps.remove podId).get p = _
        rw [FinMap.get_remove_ne _ hne, hsources]
  · obtain ⟨⟨hb, -⟩, hstop⟩ := ht
    refine ⟨?_, Or.inr (isSome_of_afterStop_none hstop)⟩
    exact h.terminating hpod (hcond pod hpod hstop) (congrArg Books.ips hb) (congrArg Books.grants hb)
      (congrArg Books.srcIdentity hb) (congrArg Books.podSourceIps hb) (congrArg Books.pods hb)

/-- Only runtime calls fail; no stop fails for a pod whose workload is outside `W`, and no boot takes the id of a recorded
    pod whose workload is outside `W`. -/
def HealingOp (cfg : ManagerConfig api) (W : Finset String) (w : World api) : ManagerOp api → Prop
  | .evict podId env =>
    env.unregister = none ∧ teardownPodScratch env.fs cfg.volumeConfig podId = .ok () ∧
      ∀ pod, w.pods.getPod podId = some pod → afterStop env w podId pod.runtime (pod.pid.getD 0) = none →
        pod.workloadId ∈ W
  | .boot spec env =>
    env.register = none ∧ env.unregister = none ∧
      ∀ pod, w.pods.getPod spec.effectiveId = some pod → pod.workloadId ∈ W

theorem evict_tracked {env : EvictEnv} (hreg : cfg.srcIdentity = true) (h : Tracked W w)
    (hop : HealingOp cfg W w (.evict podId env)) :
    Tracked W (turn (runOp cfg) w (.evict podId env)) ∧
      (env.stop = none → ∀ p pod, (turn (runOp cfg) w (.evict podId env)).pods.getPod p = some pod →
        p ≠ podId ∧ w.pods.getPod p = some pod) := by
  obtain ⟨hunregister, hteardown, hcond⟩ := hop
  have evicted := evictPod_tracked hreg hunregister hteardown h hcond
  refine wp.final (P := fun t => Tracked W t ∧ (env.stop = none → ∀ p pod, t.pods.getPod p = some pod →
    p ≠ podId ∧ w.pods.getPod p = some pod)) (evicted.mono (fun _ ht => ht) ?_ ?_)
  · rintro - t ⟨tracked, hpods⟩
    refine ⟨tracked, fun _ p pod hget => ?_⟩
    rw [hpods] at hget
    exact PodManager.getPod_removePod_eq_some.mp hget
  · rintro e t ⟨tracked, ⟨rfl, hnone⟩ | hstop⟩
    · refine ⟨tracked, fun _ p pod hget => ⟨?_, hget⟩⟩
      rintro rfl
      rw [hnone] at hget
      cases hget
    · refine ⟨tracked, fun hno => ?_⟩
      rw [hno] at hstop
      cases hstop

theorem boot_tracked {env : BootEnv api} {spec : WorkloadSpec} (hreg : cfg.srcIdentity = true) (h : Tracked W w)
    (hop : HealingOp cfg W w (.boot spec env)) :
    Tracked W (turn (runOp cfg) w (.boot spec env)) ∧
      ∀ p pod, (turn (runOp cfg) w (.boot spec env)).pods.getPod p = some pod →
        pod.workloadId = spec.workloadId ∨ w.pods.getPod p = some pod := by
  obtain ⟨hregister, hunregister, hcond⟩ := hop
  have booted := bootPod_tracked hreg hregister hunregister h hcond
  refine wp.final (P := fun t => Tracked W t ∧ ∀ p pod, t.pods.getPod p = some pod →
    pod.workloadId = spec.workloadId ∨ w.pods.getPod p = some pod) (wp_bind.mpr (booted.mono (fun _ ht => ht) ?_ ?_))
  · rintro - t ⟨tracked, new, hwk, hpods⟩
    refine wp_pure.mpr ⟨tracked, fun p pod hget => ?_⟩
    rw [hpods, PodManager.getPod_addPod] at hget
    split at hget
    · cases hget
      exact Or.inl hwk
    · exact Or.inr hget
  · rintro e t ⟨tracked, hpods⟩
    refine ⟨tracked, fun p pod hget => Or.inr ?_⟩
    rw [← hpods, hget]

theorem runOp_tracked (hreg : cfg.srcIdentity = true) (op : ManagerOp api) (h : Tracked W w) (hop : HealingOp cfg W w op) :
    Tracked W (turn (runOp cfg) w op) := by
  cases op with
  | evict podId env => exact (evict_tracked hreg h hop).1
  | boot spec env => exact (boot_tracked hreg h hop).1

end Operations

/-! ### Runs -/

section Runs
variable {cfg : ManagerConfig api}

def ReconcileCall.wanted (call : ReconcileCall api) : Finset String := (call.desired.map (·.workloadId)).toFinset

/-- Nothing is left of a workload outside `W`: no record, no pair and no SRC_IDENTITY_MAP entry. -/
structure Healed (W : Finset String) (w : World api) : Prop where
  records : ∀ p pod, w.pods.getPod p = some pod → pod.workloadId ∈ W
  held : ∀ ip, Holds w ip → ∃ p wk, w.grants.get ip = some (p, wk) ∧ wk ∈ W

theorem Tracked.healed (h : Tracked W w) (hrecords : ∀ p pod, w.pods.getPod p = some pod → pod.workloadId ∈ W) :
    Healed W w := by
  refine ⟨hrecords, fun ip hholds => ?_⟩
  have granted : ∃ p wk, w.grants.get ip = some (p, wk) := by
    rcases hholds with hip | ⟨o, hkey, rfl⟩
    · obtain ⟨⟨p, wk⟩, hgrant⟩ := FinMap.mem_keys_iff.mp (h.granted ip hip)
      exact ⟨p, wk, hgrant⟩
    · obtain ⟨owner, hget⟩ := FinMap.mem_keys_iff.mp hkey
      obtain ⟨-, p, wk, hgrant, -⟩ := h.pairs o owner hget
      exact ⟨p, wk, hgrant⟩
  obtain ⟨p, wk, hgrant⟩ := granted
  refine ⟨p, wk, hgrant, ?_⟩
  by_contra hout
  obtain ⟨⟨pod, hget, hwk⟩, -⟩ := h.held ip p wk hholds hgrant hout
  exact hout (hwk ▸ hrecords p pod hget)

/-- Evictions whose stops succeed remove every record they name. -/
theorem evictions_heal (hreg : cfg.srcIdentity = true) {ops : List (ManagerOp api)}
    (hops : ∀ op ∈ ops, ∃ podId env, op = .evict podId env ∧ env.stop = none) (h : Tracked W w)
    (healing : Along (turn (runOp cfg)) (HealingOp cfg W) w ops)
    (named : ∀ p pod, w.pods.getPod p = some pod → pod.workloadId ∉ W → ∃ env, .evict p env ∈ ops) :
    Tracked W (ops.foldl (turn (runOp cfg)) w) ∧
      ∀ p pod, (ops.foldl (turn (runOp cfg)) w).pods.getPod p = some pod → pod.workloadId ∈ W := by
  induction ops generalizing w with
  | nil =>
    refine ⟨h, fun p pod hget => ?_⟩
    by_contra hout
    obtain ⟨env, hmem⟩ := named p pod hget hout
    cases hmem
  | cons op ops ih =>
    obtain ⟨hop, hrest⟩ := along_cons.mp healing
    obtain ⟨⟨podId, env, rfl, hstop⟩, others⟩ := List.forall_mem_cons.mp hops
    obtain ⟨tracked, removed⟩ := evict_tracked hreg h hop
    refine ih others tracked hrest fun p pod hget hout => ?_
    obtain ⟨hne, hget⟩ := removed hstop p pod hget
    obtain ⟨env', hmem⟩ := named p pod hget hout
    rcases List.mem_cons.mp hmem with heq | hmem
    · cases heq
      exact absurd rfl hne
    · exact ⟨env', hmem⟩

/-- Boots of wanted workloads add no record of another one. -/
theorem boots_heal (hreg : cfg.srcIdentity = true) {ops : List (ManagerOp api)}
    (hops : ∀ op ∈ ops, ∃ spec env, op = .boot spec env ∧ spec.workloadId ∈ W) (h : Tracked W w)
    (healing : Along (turn (runOp cfg)) (HealingOp cfg W) w ops)
    (hrecords : ∀ p pod, w.pods.getPod p = some pod → pod.workloadId ∈ W) :
    Healed W (ops.foldl (turn (runOp cfg)) w) := by
  induction ops generalizing w with
  | nil => exact h.healed hrecords
  | cons op ops ih =>
    obtain ⟨hop, hrest⟩ := along_cons.mp healing
    obtain ⟨⟨spec, env, rfl, hwanted⟩, others⟩ := List.forall_mem_cons.mp hops
    obtain ⟨tracked, added⟩ := boot_tracked hreg h hop
    refine ih others tracked hrest fun p pod hget => ?_
    rcases added p pod hget with hwk | hold
    · rw [hwk]
      exact hwanted
    · exact hrecords p pod hold

def HealingCall (cfg : ManagerConfig api) (W : Finset String) (w : World api) (call : ReconcileCall api) : Prop :=
  Along (turn (runOp cfg)) (HealingOp cfg W) w (reconcileOps w call)

theorem turn_reconcile (w : World api) (call : ReconcileCall api) :
    turn (reconcile cfg) w call = (reconcileOps w call).foldl (turn (runOp cfg)) w :=
  runAll_final

/-- A call whose stops succeed leaves nothing of the workloads that it does not want. -/
theorem reconcile_heals (hreg : cfg.srcIdentity = true) {call : ReconcileCall api}
    (hstops : ∀ n, (call.evictEnv n).stop = none) (h : Tracked call.wanted w)
    (healing : HealingCall cfg call.wanted w call) : Healed call.wanted (turn (reconcile cfg) w call) := by
  obtain ⟨evictions, boots⟩ := along_append.mp healing
  rw [turn_reconcile, reconcileOps, List.foldl_append]
  refine (evictions_heal hreg ?_ h evictions ?_).elim fun tracked hrecords => boots_heal hreg ?_ tracked boots hrecords
  · intro op hop
    obtain ⟨n, -, rfl⟩ := List.mem_mapIdx.mp hop
    exact ⟨_, _, rfl, hstops n⟩
  · -- A record of a workload that is not wanted is live, so the reconciler plans its eviction.
    intro p pod hget hout
    have planned : p ∈ (Reconciler.reconcile call.order call.desired w.pods).toEvict := by
      refine mem_toEvict.mpr ⟨pod, hget, h.live p pod hget hout, fun spec hspec heq => hout ?_⟩
      exact List.mem_toFinset.mpr (List.mem_map.mpr ⟨spec, hspec, heq⟩)
    obtain ⟨n, hn, rfl⟩ := List.getElem_of_mem planned
    exact ⟨_, List.mem_mapIdx.mpr ⟨n, hn, rfl⟩⟩
  · intro op hop
    obtain ⟨n, hn, rfl⟩ := List.mem_mapIdx.mp hop
    refine ⟨_, _, rfl, List.mem_toFinset.mpr (List.mem_map.mpr ⟨_, ?_, rfl⟩)⟩
    exact (mem_toBoot.mp (List.getElem_mem hn)).1

/-- In every run in which no stop fails for a pod whose workload the last call does not want, and no boot takes the id of
    such a pod's record, the last call, if its stops succeed, leaves nothing of the workloads that it does not want. -/
theorem reconcile_run_heals (cfg : ManagerConfig api) (hreg : cfg.srcIdentity = true) (ips : NodeIpAllocator)
    (hips : ips.allocated = ∅) (calls : List (ReconcileCall api)) (last : ReconcileCall api)
    (hstops : ∀ n, (last.evictEnv n).stop = none)
    (healing : Along (turn (reconcile cfg)) (HealingCall cfg last.wanted) { ips := ips } (calls ++ [last])) :
    Healed last.wanted ((calls ++ [last]).foldl (turn (reconcile cfg)) { ips := ips }) := by
  have start : Tracked last.wanted ({ ips := ips } : World api) := by
    refine ⟨?_, ?_, ?_, ?_⟩
    · intro o owner hget
      rw [hips] at hget
      cases hget
    · rintro ip ⟨⟩
    · rintro p pod ⟨⟩
    · rintro ip p wk - ⟨⟩
  have step : ∀ s call, Tracked last.wanted s → HealingCall cfg last.wanted s call →
      Tracked last.wanted (turn (reconcile cfg) s call) := by
    intro s call hs hcall
    rw [turn_reconcile]
    exact Along.inv (fun _ op => runOp_tracked hreg op) hcall hs
  obtain ⟨before, hlast⟩ := along_concat.mp healing
  rw [List.foldl_append]
  exact reconcile_heals hreg hstops (Along.inv step before start) hlast

end Runs

end

/-! ### A workload that is no longer wanted -/

def wantWeb : ReconcileCall textApi := sampleCall [sampleSpec "web" .cloudHypervisor] {} fun _ => sampleBoot

/-- Nothing is wanted; `stop` is what becomes of a stop. -/
def wantNothing (stop : Option AgentError) : ReconcileCall textApi := sampleCall [] { stop := stop } fun _ => sampleBoot

theorem reconcile_run_heals_of_stop :
    Healed (wantNothing none).wanted
      (([wantWeb] ++ [wantNothing none]).foldl (turn (reconcile sampleConfig)) { ips := samplePool }) := by
  refine reconcile_run_heals sampleConfig rfl samplePool rfl [wantWeb] (wantNothing none) (fun _ => rfl) ?_
  refine along_cons.mpr ⟨?_, along_cons.mpr ⟨?_, along_nil⟩⟩
  · rw [HealingCall, reconcileOps_of_no_pods rfl]
    exact along_cons.mpr ⟨⟨rfl, rfl, by rintro pod ⟨⟩⟩, along_nil⟩
  · have planned : (Reconciler.reconcile .sorted []
        (turn (reconcile sampleConfig) { ips := samplePool } wantWeb).pods).toEvict = ["web"] := by decide +kernel
    have ops : reconcileOps (turn (reconcile sampleConfig) { ips := samplePool } wantWeb) (wantNothing none) =
        [.evict "web" {}] := by
      show List.mapIdx _ (Reconciler.reconcile .sorted [] _).toEvict ++ _ = _
      rw [planned]
      rfl
    rw [HealingCall, ops]
    refine along_cons.mpr ⟨⟨rfl, by decide +kernel, fun pod _ hfails => ?_⟩, along_nil⟩
    cases isSome_of_afterStop_none hfails

/-- The MicroVM's first shutdown fails. The pod is Terminating from then on, and the reconciler never looks at it again. -/
theorem reconcile_run_keeps_terminating :
    ¬Healed (wantNothing none).wanted
      ([wantWeb, wantNothing (some (.workload "CH vm.shutdown: connection refused")), wantNothing none].foldl
        (turn (reconcile sampleConfig)) { ips := samplePool }) := by
  intro healed
  have kept : (([wantWeb, wantNothing (some (.workload "CH vm.shutdown: connection refused")), wantNothing none].foldl
      (turn (reconcile sampleConfig)) { ips := samplePool }).pods.getPod "web").isSome = true := by decide +kernel
  obtain ⟨pod, hpod⟩ := Option.isSome_iff_exists.mp kept
  have wanted := healed.records "web" pod hpod
  simp [wantNothing, sampleCall, ReconcileCall.wanted] at wanted

end FleetosAgent.Workloads
