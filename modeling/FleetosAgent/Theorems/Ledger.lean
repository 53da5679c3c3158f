import FleetosAgent.Theorems.ManagerSteps
import Mathlib.Data.Finset.Image

/-! # Resource ledger

Every resource that the workload manager holds belongs to a recorded pod: its /30 pair, its SRC_IDENTITY_MAP entry, its
source IP and probe runner, and for a MicroVM the armed interface, the adapter and the two attestation entries of its
CID. The tables of a MicroVM change in step, so they are looked at as one value. -/

namespace FleetosAgent.Workloads
open Lib Traced NodeIpAllocator

/-! ### The tables of the MicroVMs -/

/-- The armed interfaces, and the CIDs with an adapter, a boot measurement and a workload context. -/
structure VmTables where
  armed : Finset String
  adapters : Finset UInt32
  measured : Finset UInt32
  contexts : Finset UInt32

def World.vmTables {api : SpiffeApi} (w : World api) : VmTables :=
  ⟨w.armed, w.microvms.keys, w.bootMeasurements.keys, w.workloadContexts.keys⟩

def VmTables.ofCids (cids : Finset UInt32) : VmTables := ⟨cids.image tapInterface, cids, cids, cids⟩

theorem tapInterface_injective : Function.Injective tapInterface := by
  intro a b h
  have digits : toString a.toNat = toString b.toNat := (String.append_right_inj "vmtap").mp h
  rw [Nat.toString_eq_ofList_toDigits, Nat.toString_eq_ofList_toDigits, String.ofList_inj] at digits
  rw [← UInt32.toNat_inj, ← Nat.ofDigitChars_ten_toDigits (n := a.toNat), digits, Nat.ofDigitChars_ten_toDigits]

theorem tapInterface_notMem {cids : Finset UInt32} {cid : UInt32} (h : cid ∉ cids) :
    tapInterface cid ∉ cids.image tapInterface := by
  rw [tapInterface_injective.mem_finset_image]
  exact h

section Tables
variable {api : SpiffeApi} {cfg : ManagerConfig api} {w : World api} {cids : Finset UInt32}

theorem World.vmTables_eq_iff {t : VmTables} :
    w.vmTables = t ↔ w.armed = t.armed ∧ w.microvms.keys = t.adapters ∧ w.bootMeasurements.keys = t.measured ∧
      w.workloadContexts.keys = t.contexts := by
  cases t
  exact iff_of_eq (VmTables.mk.injEq ..)

section Boot
variable {env : BootEnv api} {spec : WorkloadSpec} {podSpec : PodSpec} {mounts : List PreparedMount}

theorem bootMicrovmInner_tables (hatt : cfg.attestation = true) (hspec : spec.podSpec = some podSpec)
    (hruntime : spec.runtime = .cloudHypervisor) {cid ip gw : UInt32} {interface : String} :
    wp (fun _ => True) (bootMicrovmInner cfg env spec mounts cid interface ip gw)
      (fun handle t => handle = cid ∧ t.nextCid = w.nextCid ∧ t.vmTables = ⟨w.armed, insert cid w.microvms.keys,
        insert cid w.bootMeasurements.keys, insert cid w.workloadContexts.keys⟩)
      (fun _ t => t.nextCid = w.nextCid ∧ t.armed = w.armed ∧ t.microvms = w.microvms ∧
        (t.bootMeasurements.remove cid).keys = w.bootMeasurements.keys.erase cid ∧
        (t.workloadContexts.remove cid).keys = w.workloadContexts.keys.erase cid) w := by
  rw [bootMicrovmInner, hatt, wp_bind]
  refine wp_ofExcept (fun measurement _ => ?_) fun e _ => ⟨rfl, rfl, rfl, rfl, rfl⟩
  refine wp_bind.mpr (wp_when (fun _ => wp_registerAttestation trivial trivial ?_) (by rintro ⟨⟩))
  refine wp_bind.mpr (wp_vmBoot hspec hruntime (fun e => ⟨rfl, rfl, rfl, ?_, ?_⟩) trivial ?_)
  · simp
  · simp
  · exact wp_bind.mpr (wp_modify.mpr ⟨trivial, wp_pure.mpr ⟨rfl, rfl, rfl⟩⟩)

/-- A MicroVM that boots takes the next CID; one that does not leaves the tables as they were. -/
theorem bootMicrovm_tables (hguard : cfg.netGuard = true) (hatt : cfg.attestation = true) (hdisarm : env.disarm = none)
    (hspec : spec.podSpec = some podSpec) (hruntime : spec.runtime = .cloudHypervisor) (hw : w.vmTables = .ofCids cids)
    (fresh : w.nextCid ∉ cids) (ip gw : UInt32) :
    wp (fun _ => True) (bootMicrovm cfg env spec mounts ip gw)
      (fun handle t => handle = w.nextCid ∧ t.nextCid = w.nextCid + 1 ∧ t.vmTables = .ofCids (insert w.nextCid cids))
      (fun _ t => (t.nextCid = w.nextCid ∨ t.nextCid = w.nextCid + 1) ∧ t.vmTables = .ofCids cids) w := by
  have tables := hw
  rw [World.vmTables_eq_iff] at hw
  obtain ⟨armed, adapters, measured, contexts⟩ := hw
  rw [bootMicrovm, hguard, hatt, hdisarm, wp_bind]
  refine wp_ofExcept (fun _ _ => ?_) fun e _ => ⟨Or.inl rfl, tables⟩
  rw [wp_bind, wp_get]
  refine wp_bind.mpr (wp_modify.mpr ⟨trivial, ?_⟩)
  refine wp_bind.mpr (wp_armGuard trivial ?_ fun e => ⟨Or.inr rfl, tables⟩)
  refine wp_bind.mpr (wp_attempt.mpr ?_)
  refine (bootMicrovmInner_tables hatt hspec hruntime).mono (fun _ _ => trivial) (fun handle t ht => ?_) (fun e t ht => ?_)
  · obtain ⟨rfl, hnext, hvm⟩ := ht
    refine wp_pure.mpr ⟨rfl, hnext, hvm.trans ?_⟩
    show VmTables.mk (insert _ w.armed) (insert _ w.microvms.keys) (insert _ w.bootMeasurements.keys)
      (insert _ w.workloadContexts.keys) = _
    rw [armed, adapters, measured, contexts]
    simp [VmTables.ofCids]
  · obtain ⟨hnext, harmed, hadapters, hmeasured, hcontexts⟩ := ht
    refine wp_bind.mpr (wp_when (fun _ => wp_unregisterAttestation trivial trivial ?_) (by rintro ⟨⟩))
    refine wp_bind.mpr (wp_disarmGuard trivial (wp_fail.mpr ⟨Or.inr hnext, ?_⟩) (by rintro e ⟨⟩))
    refine World.vmTables_eq_iff.mpr ⟨?_, ?_, ?_, ?_⟩
    · show t.armed.erase _ = _
      rw [harmed]
      show (insert _ w.armed).erase _ = _
      rw [armed]
      exact Finset.erase_insert (tapInterface_notMem fresh)
    · exact (congrArg FinMap.keys hadapters).trans adapters
    · refine hmeasured.trans ?_
      show w.bootMeasurements.keys.erase _ = _
      rw [measured]
      exact Finset.erase_eq_of_notMem fresh
    · refine hcontexts.trans ?_
      show w.workloadContexts.keys.erase _ = _
      rw [contexts]
      exact Finset.erase_eq_of_notMem fresh

/-- The CIDs in use after a boot that returned `handle`. -/
def cidsWith (runtime : RuntimeKind) (handle : UInt32) (cids : Finset UInt32) : Finset UInt32 :=
  match runtime with
  | .containerd => cids
  | .cloudHypervisor => insert handle cids

/-- The allocator of CIDs moves by at most one, and only for a MicroVM. -/
def CidStep (runtime : RuntimeKind) (w t : World api) : Prop :=
  t.nextCid = w.nextCid ∨ (runtime = .cloudHypervisor ∧ t.nextCid = w.nextCid + 1)

theorem bootRuntime_tables {reservation : Reservation} (hguard : cfg.netGuard = true) (hatt : cfg.attestation = true)
    (hdisarm : env.disarm = none) (hspec : spec.podSpec = some podSpec) (hw : w.vmTables = .ofCids cids)
    (fresh : w.nextCid ∉ cids) :
    wp (fun _ => True) (bootRuntime cfg env spec mounts reservation)
      (fun handle t => t.vmTables = .ofCids (cidsWith spec.runtime handle cids) ∧ CidStep spec.runtime w t ∧
        (spec.runtime = .cloudHypervisor → handle = w.nextCid ∧ t.nextCid = w.nextCid + 1))
      (fun _ t => t.vmTables = .ofCids cids ∧ CidStep spec.runtime w t) w := by
  unfold bootRuntime
  split
  · next hruntime =>
    rw [hruntime]
    exact wp_bootContainerd hspec hruntime (fun _ => trivial) (fun _ _ => ⟨hw, Or.inl rfl⟩) (fun _ _ => trivial)
      fun _ _ => ⟨hw, Or.inl rfl, by rintro ⟨⟩⟩
  · next hruntime =>
    rw [hruntime]
    refine (bootMicrovm_tables hguard hatt hdisarm hspec hruntime hw fresh _ _).mono (fun _ _ => trivial) ?_ ?_
    · rintro _ t ⟨rfl, hnext, htables⟩
      exact ⟨htables, Or.inr ⟨rfl, hnext⟩, fun _ => ⟨rfl, hnext⟩⟩
    · rintro e t ⟨hnext, htables⟩
      exact ⟨htables, hnext.imp_right fun h => ⟨rfl, h⟩⟩

end Boot

def cidsWithout (runtime : RuntimeKind) (handle : UInt32) (cids : Finset UInt32) : Finset UInt32 :=
  match runtime with
  | .containerd => cids
  | .cloudHypervisor => cids.erase handle

theorem stopRuntime_tables {env : EvictEnv} {podId : String} {runtime : RuntimeKind} {handle : UInt32}
    (hguard : cfg.netGuard = true) (hatt : cfg.attestation = true) (hdisarm : env.disarm = none)
    (hw : w.vmTables = .ofCids cids) (hcid : runtime = .cloudHypervisor → handle ∈ cids) :
    wp (fun _ => True) (stopRuntime cfg env podId runtime handle)
      (fun _ t => t.vmTables = .ofCids (cidsWithout runtime handle cids) ∧ t.nextCid = w.nextCid) (fun _ _ => True) w := by
  cases runtime with
  | containerd =>
    rw [stopRuntime, stopContainerd]
    cases env.stop with
    | some e => exact wp_fail.mpr trivial
    | none => exact wp_modify.mpr ⟨trivial, hw, rfl⟩
  | cloudHypervisor =>
    rw [World.vmTables_eq_iff] at hw
    obtain ⟨armed, adapters, measured, contexts⟩ := hw
    have present : (w.microvms.get handle).isSome = true := by
      obtain ⟨adapter, hget⟩ := FinMap.mem_keys_iff.mp ((Finset.ext_iff.mp adapters handle).mpr (hcid rfl))
      rw [hget]
      rfl
    rw [stopRuntime, stopMicrovm, hguard, hatt, hdisarm, wp_bind, wp_get, present]
    refine wp_bind.mpr (wp_modify.mpr ⟨trivial, wp_bind.mpr (wp_when (fun _ => ?_) (by rintro ⟨⟩))⟩)
    rw [wp_bind, stopVm]
    cases env.stop with
    | some e => exact wp_fail.mpr trivial
    | none =>
      refine wp_modify.mpr ⟨trivial, wp_when (fun _ => wp_bind.mpr ?_) (by rintro ⟨⟩)⟩
      refine wp_disarmGuard trivial (wp_pure.mpr (wp_when (fun _ => ?_) (by rintro ⟨⟩))) (by rintro e ⟨⟩)
      refine wp_unregisterAttestation trivial trivial ⟨World.vmTables_eq_iff.mpr ⟨?_, ?_, ?_, ?_⟩, rfl⟩
      · show w.armed.erase _ = _
        rw [armed]
        exact (Finset.image_erase tapInterface_injective cids handle).symm
      · exact congrArg (Finset.erase · handle) adapters
      · exact congrArg (Finset.erase · handle) measured
      · exact congrArg (Finset.erase · handle) contexts

end Tables

/-! ### The ledger -/

/-- The CIDs of the recorded MicroVM pods. -/
def PodManager.vmCids (pm : PodManager) : Finset UInt32 :=
  (pm.pods.keys.filter fun p => (pm.getPod p).any (·.runtime = .cloudHypervisor)).image fun p =>
    ((pm.getPod p).bind (·.pid)).getD 0

theorem PodManager.mem_vmCids {pm : PodManager} {cid : UInt32} :
    cid ∈ pm.vmCids ↔ ∃ p pod, pm.getPod p = some pod ∧ pod.runtime = .cloudHypervisor ∧ pod.pid.getD 0 = cid := by
  simp only [vmCids, Finset.mem_image, Finset.mem_filter]
  constructor
  · rintro ⟨p, ⟨-, hvm⟩, hcid⟩
    cases hpod : pm.getPod p with
    | none =>
      rw [hpod] at hvm
      cases hvm
    | some pod =>
      simp only [hpod, Option.any_some, decide_eq_true_eq] at hvm
      simp only [hpod, Option.bind_some] at hcid
      exact ⟨p, pod, hpod, hvm, hcid⟩
  · rintro ⟨p, pod, hpod, hvm, hcid⟩
    refine ⟨p, ⟨FinMap.mem_keys_of_get hpod, ?_⟩, ?_⟩
    · simp [hpod, hvm]
    · simpa [hpod] using hcid

section Ledger
variable {api : SpiffeApi}

/-- What the node holds is exactly what its pod records stand for; `pairOf` gives the gateway offset of each pod's pair. -/
structure Ledger (pairOf : String → Nat) (w : World api) : Prop where
  pairs : ∀ o owner, w.ips.allocated.get o = some owner ↔
    ∃ p ∈ w.pods.pods.keys, (o = pairOf p ∧ owner = gatewayOwner p) ∨ (o = pairOf p + 1 ∧ owner = p)
  sources : ∀ p ip, w.podSourceIps.get p = some ip ↔ p ∈ w.pods.pods.keys ∧ w.ips.addr (pairOf p + 1) = ip
  identities : ∀ ip fp, w.srcIdentity.get ip = some fp ↔
    ∃ p pod, w.pods.getPod p = some pod ∧ w.podSourceIps.get p = some ip ∧ pod.fingerprint = fp
  apart : ∀ p q ip, w.podSourceIps.get p = some ip → w.podSourceIps.get q = some ip → p = q
  probes : w.probes.runners.keys = w.pods.pods.keys
  vms : w.vmTables = .ofCids w.pods.vmCids

/-- The ledger, with what keeps it so: the pod ids are taken from `ids`, and the CIDs in use are different and behind the
    CID allocator. -/
structure Balanced (ids : Set String) (pairOf : String → Nat) (w : World api) : Prop extends Ledger pairOf w where
  named : ∀ p ∈ w.pods.pods.keys, p ∈ ids
  handles : ∀ p q pod pod', w.pods.getPod p = some pod → w.pods.getPod q = some pod' →
    pod.runtime = .cloudHypervisor → pod'.runtime = .cloudHypervisor → pod.pid.getD 0 = pod'.pid.getD 0 → p = q
  below : ∀ cid ∈ w.pods.vmCids, cid < w.nextCid

variable {ids : Set String} {pairOf : String → Nat} {w t : World api} {podId : String}

theorem Ledger.workload_owner (h : Ledger pairOf w) {p : String} {ip : UInt32} (hp : w.podSourceIps.get p = some ip) :
    w.ips.allocated.get (pairOf p + 1) = some p ∧ w.ips.addr (pairOf p + 1) = ip := by
  obtain ⟨hkey, haddr⟩ := (h.sources p ip).mp hp
  exact ⟨(h.pairs _ _).mpr ⟨p, hkey, Or.inr ⟨rfl, rfl⟩⟩, haddr⟩

theorem Ledger.fresh_source (h : Ledger pairOf w) {gw wl : UInt32} {ips : NodeIpAllocator} {o : Nat}
    (took : Took w.ips podId gw wl ips o) {p : String} {ip : UInt32} (hp : w.podSourceIps.get p = some ip) : ip ≠ wl := by
  obtain ⟨howner, haddr⟩ := h.workload_owner hp
  rw [← haddr]
  exact took.addr_ne howner

theorem Ledger.fresh_identity (h : Ledger pairOf w) {gw wl : UInt32} {ips : NodeIpAllocator} {o : Nat}
    (took : Took w.ips podId gw wl ips o) : w.srcIdentity.get wl = none := by
  rw [Option.eq_none_iff_forall_ne_some]
  intro fp hfp
  obtain ⟨p, -, -, hp, -⟩ := (h.identities wl fp).mp hfp
  exact h.fresh_source took hp rfl

section Ids
variable (hgw : ∀ p ∈ ids, gatewayOwner p ∉ ids) (hid : podId ∈ ids)
include hgw hid

theorem owner_ne {p owner : String} (hp : p ∈ ids) (hne : p ≠ podId) (howner : owner = gatewayOwner p ∨ owner = p) :
    owner ≠ podId ∧ owner ≠ gatewayOwner podId := by
  rcases howner with rfl | rfl
  · exact ⟨fun heq => hgw p hp (heq ▸ hid), fun heq => hne (gatewayOwner_injective heq)⟩
  · exact ⟨hne, fun heq => hgw podId hid (heq ▸ hp)⟩

theorem Balanced.owners_ne (h : Balanced ids pairOf w) (hnew : w.pods.getPod podId = none) (o : Nat) (owner : String)
    (howner : w.ips.allocated.get o = some owner) : owner ≠ podId ∧ owner ≠ gatewayOwner podId := by
  obtain ⟨p, hp, hpair⟩ := (h.pairs o owner).mp howner
  refine owner_ne hgw hid (h.named p hp) ?_ (hpair.imp And.right And.right)
  rintro rfl
  exact FinMap.notMem_keys.mpr hnew hp

end Ids

/-- A boot that failed and undid what it had done. -/
theorem Balanced.unchanged (h : Balanced ids pairOf w) (hpods : t.pods = w.pods) (hbase : t.ips.base = w.ips.base)
    (hallocated : t.ips.allocated = w.ips.allocated) (hsources : t.podSourceIps = w.podSourceIps)
    (hidentity : t.srcIdentity = w.srcIdentity) (hprobes : t.probes = w.probes) (hvms : t.vmTables = w.vmTables)
    (hnext : w.nextCid ≤ t.nextCid) : Balanced ids pairOf t := by
  have haddr : t.ips.addr = w.ips.addr := by
    funext o
    rw [addr, addr, hbase]
  refine ⟨⟨?_, ?_, ?_, ?_, ?_, ?_⟩, ?_, ?_, ?_⟩
  · rw [hpods, hallocated]
    exact h.pairs
  · rw [hpods, hsources, haddr]
    exact h.sources
  · rw [hpods, hsources, hidentity]
    exact h.identities
  · rw [hsources]
    exact h.apart
  · rw [hpods, hprobes]
    exact h.probes
  · rw [hpods, hvms]
    exact h.vms
  · rw [hpods]
    exact h.named
  · rw [hpods]
    exact h.handles
  · rw [hpods]
    exact fun cid hcid => UInt32.lt_of_lt_of_le (h.below cid hcid) hnext

/-! ### A pod is recorded -/

section Recorded
variable {pod : Pod}

theorem vmCids_addPod {pm : PodManager} (hnew : pm.getPod pod.podId = none) :
    (pm.addPod pod).vmCids = cidsWith pod.runtime (pod.pid.getD 0) pm.vmCids := by
  have others : ∀ cid, cid ∈ (pm.addPod pod).vmCids ↔
      (pod.runtime = .cloudHypervisor ∧ pod.pid.getD 0 = cid) ∨ cid ∈ pm.vmCids := by
    intro cid
    simp only [PodManager.mem_vmCids, PodManager.getPod_addPod]
    constructor
    · rintro ⟨p, pod', hget, hvm, hcid⟩
      split at hget
      · cases hget
        exact Or.inl ⟨hvm, hcid⟩
      · exact Or.inr ⟨p, pod', hget, hvm, hcid⟩
    · rintro (⟨hvm, hcid⟩ | ⟨p, pod', hget, hvm, hcid⟩)
      · exact ⟨pod.podId, pod, if_pos rfl, hvm, hcid⟩
      · refine ⟨p, pod', ?_, hvm, hcid⟩
        rw [if_neg, hget]
        rintro rfl
        rw [hnew] at hget
        cases hget
  ext cid
  rw [others]
  cases pod.runtime with
  | containerd => simp [cidsWith]
  | cloudHypervisor => simp [cidsWith, eq_comm]

/-- `t` is `w` with the record of a pod and its resources added: the pair at offset `o`, and for a MicroVM the next CID. -/
structure Recorded (w t : World api) (pod : Pod) (gw wl : UInt32) (o : Nat) : Prop where
  fresh : w.pods.getPod pod.podId = none
  took : Took w.ips pod.podId gw wl t.ips o
  pods : t.pods = w.pods.addPod pod
  sources : t.podSourceIps = w.podSourceIps.insert pod.podId wl
  identity : t.srcIdentity = w.srcIdentity.insert wl pod.fingerprint
  probes : t.probes.runners.keys = insert pod.podId w.probes.runners.keys
  vms : t.vmTables = .ofCids (cidsWith pod.runtime (pod.pid.getD 0) w.pods.vmCids)
  next : w.nextCid ≤ t.nextCid
  cid : pod.runtime = .cloudHypervisor → pod.pid.getD 0 = w.nextCid ∧ w.nextCid < t.nextCid

namespace Recorded
variable {gw wl : UInt32} {o : Nat} (r : Recorded w t pod gw wl o)
include r

theorem keys : t.pods.pods.keys = insert pod.podId w.pods.pods.keys := by
  rw [r.pods]
  rfl

theorem records (p : String) (pod' : Pod) :
    t.pods.getPod p = some pod' ↔ (p = pod.podId ∧ pod = pod') ∨ w.pods.getPod p = some pod' := by
  rw [r.pods]
  exact FinMap.get_insert_eq_some r.fresh

/-- The pods recorded before keep their pairs. -/
theorem update_pairOf {p : String} (hp : p ∈ w.pods.pods.keys) : Function.update pairOf pod.podId o p = pairOf p := by
  refine Function.update_of_ne ?_ _ _
  rintro rfl
  exact FinMap.notMem_keys.mpr r.fresh hp

theorem unsourced (h : Ledger pairOf w) : w.podSourceIps.get pod.podId = none := by
  rw [Option.eq_none_iff_forall_ne_some]
  intro ip hip
  exact FinMap.notMem_keys.mpr r.fresh ((h.sources _ ip).mp hip).1

theorem source_iff (h : Ledger pairOf w) (p : String) (ip : UInt32) :
    t.podSourceIps.get p = some ip ↔ (p = pod.podId ∧ wl = ip) ∨ w.podSourceIps.get p = some ip := by
  rw [r.sources, FinMap.get_insert_eq_some (r.unsourced h)]

theorem pair_iff (h : Ledger pairOf w) (x : Nat) (owner : String) : t.ips.allocated.get x = some owner ↔
    ∃ p ∈ t.pods.pods.keys, (x = Function.update pairOf pod.podId o p ∧ owner = gatewayOwner p) ∨
      (x = Function.update pairOf pod.podId o p + 1 ∧ owner = p) := by
  have old : (∃ p ∈ w.pods.pods.keys, (x = Function.update pairOf pod.podId o p ∧ owner = gatewayOwner p) ∨
      (x = Function.update pairOf pod.podId o p + 1 ∧ owner = p)) ↔
      ∃ p ∈ w.pods.pods.keys, (x = pairOf p ∧ owner = gatewayOwner p) ∨ (x = pairOf p + 1 ∧ owner = p) :=
    exists_congr fun p => and_congr_right fun hp => by rw [r.update_pairOf hp]
  rw [r.took.get_eq_some, h.pairs, r.keys, Finset.exists_mem_insert, Function.update_self, old]
  grind

theorem identity_iff (h : Ledger pairOf w) (ip : UInt32) (fp : IdentityFingerprint) : t.srcIdentity.get ip = some fp ↔
    ∃ p pod', t.pods.getPod p = some pod' ∧ t.podSourceIps.get p = some ip ∧ pod'.fingerprint = fp := by
  rw [r.identity, FinMap.get_insert_eq_some (h.fresh_identity r.took), h.identities]
  simp only [r.records, r.source_iff h]
  constructor
  · rintro (⟨rfl, rfl⟩ | ⟨p, pod', hp, hs, hf⟩)
    · exact ⟨pod.podId, pod, Or.inl ⟨rfl, rfl⟩, Or.inl ⟨rfl, rfl⟩, rfl⟩
    · exact ⟨p, pod', Or.inr hp, Or.inr hs, hf⟩
  · rintro ⟨p, pod', ⟨rfl, rfl⟩ | hp, ⟨hpod, rfl⟩ | hs, rfl⟩
    · exact Or.inl ⟨rfl, rfl⟩
    · rw [r.unsourced h] at hs
      cases hs
    · rw [hpod, r.fresh] at hp
      cases hp
    · exact Or.inr ⟨p, pod', hp, hs, rfl⟩

theorem apart (h : Ledger pairOf w) (p q : String) (ip : UInt32) (hp : t.podSourceIps.get p = some ip)
    (hq : t.podSourceIps.get q = some ip) : p = q := by
  rcases (r.source_iff h p ip).mp hp with ⟨rfl, rfl⟩ | hp <;> rcases (r.source_iff h q _).mp hq with ⟨rfl, hwl⟩ | hq
  · rfl
  · exact absurd rfl (h.fresh_source r.took hq)
  · exact absurd hwl.symm (h.fresh_source r.took hp)
  · exact h.apart p q ip hp hq

/-- The ledger has one entry more. -/
theorem ledger (h : Ledger pairOf w) : Ledger (Function.update pairOf pod.podId o) t where
  pairs := r.pair_iff h
  sources p ip := by
    rw [r.source_iff h, h.sources, r.keys, Finset.mem_insert, r.took.addr_eq, or_and_right]
    refine or_congr (and_congr_right ?_) (and_congr_right fun hp => by rw [r.update_pairOf hp])
    rintro rfl
    rw [Function.update_self, r.took.workload]
  identities := r.identity_iff h
  apart := r.apart h
  probes := by rw [r.keys, r.probes, h.probes]
  vms := by rw [r.vms, r.pods, vmCids_addPod r.fresh]

/-- The new MicroVM's CID is the allocator's, and those in use are behind it. -/
theorem cid_ne (h : Balanced ids pairOf w) (hvm : pod.runtime = .cloudHypervisor) {p : String} {pod' : Pod}
    (hp : w.pods.getPod p = some pod') (hvm' : pod'.runtime = .cloudHypervisor) : pod.pid.getD 0 ≠ pod'.pid.getD 0 := by
  intro heq
  have lt := h.below _ (PodManager.mem_vmCids.mpr ⟨p, pod', hp, hvm', heq.symm⟩)
  rw [(r.cid hvm).1] at lt
  exact UInt32.lt_irrefl _ lt

theorem below (h : Balanced ids pairOf w) : ∀ cid ∈ t.pods.vmCids, cid < t.nextCid := by
  intro cid hmem
  have old : cid ∈ w.pods.vmCids → cid < t.nextCid := fun hold => UInt32.lt_of_lt_of_le (h.below cid hold) r.next
  rw [r.pods, vmCids_addPod r.fresh] at hmem
  cases hruntime : pod.runtime with
  | containerd =>
    rw [hruntime] at hmem
    exact old hmem
  | cloudHypervisor =>
    obtain ⟨hpid, hlt⟩ := r.cid hruntime
    rw [hruntime, cidsWith, Finset.mem_insert, hpid] at hmem
    rcases hmem with rfl | hold
    · exact hlt
    · exact old hold

end Recorded

/-- A boot that returned: the pod's record and its resources have been added. -/
theorem Balanced.recorded (h : Balanced ids pairOf w) (hid : pod.podId ∈ ids) {gw wl : UInt32} {o : Nat}
    (r : Recorded w t pod gw wl o) : Balanced ids (Function.update pairOf pod.podId o) t where
  toLedger := r.ledger h.toLedger
  named p hp := by
    rw [r.keys, Finset.mem_insert] at hp
    rcases hp with rfl | hp
    · exact hid
    · exact h.named p hp
  handles p q pod₁ pod₂ hp hq hvm₁ hvm₂ heq := by
    rcases (r.records p pod₁).mp hp with ⟨rfl, rfl⟩ | hp <;> rcases (r.records q pod₂).mp hq with ⟨rfl, rfl⟩ | hq
    · rfl
    · exact absurd heq (r.cid_ne h hvm₁ hq hvm₂)
    · exact absurd heq.symm (r.cid_ne h hvm₂ hp hvm₁)
    · exact h.handles p q pod₁ pod₂ hp hq hvm₁ hvm₂ heq
  below := r.below h

end Recorded

/-! ### A record is removed -/

section Removed
variable {pod : Pod}

theorem vmCids_removePod {pm : PodManager} (hpod : pm.getPod podId = some pod)
    (unique : ∀ p pod', pm.getPod p = some pod' → pod'.runtime = .cloudHypervisor → pod.runtime = .cloudHypervisor →
      pod'.pid.getD 0 = pod.pid.getD 0 → p = podId) :
    (pm.removePod podId).vmCids = cidsWithout pod.runtime (pod.pid.getD 0) pm.vmCids := by
  ext cid
  simp only [PodManager.mem_vmCids, PodManager.getPod_removePod_eq_some]
  cases hruntime : pod.runtime with
  | containerd =>
    rw [cidsWithout, PodManager.mem_vmCids]
    constructor
    · rintro ⟨p, pod', ⟨-, hp⟩, hvm, hcid⟩
      exact ⟨p, pod', hp, hvm, hcid⟩
    · rintro ⟨p, pod', hp, hvm, hcid⟩
      refine ⟨p, pod', ⟨?_, hp⟩, hvm, hcid⟩
      rintro rfl
      rw [hpod, Option.some.injEq] at hp
      rw [← hp, hruntime] at hvm
      cases hvm
  | cloudHypervisor =>
    rw [cidsWithout, Finset.mem_erase, PodManager.mem_vmCids]
    constructor
    · rintro ⟨p, pod', ⟨hne, hp⟩, hvm, rfl⟩
      exact ⟨fun heq => hne (unique p pod' hp hvm hruntime heq), p, pod', hp, hvm, rfl⟩
    · rintro ⟨hother, p, pod', hp, hvm, rfl⟩
      refine ⟨p, pod', ⟨?_, hp⟩, hvm, rfl⟩
      rintro rfl
      rw [hpod, Option.some.injEq] at hp
      exact hother (by rw [hp])

/-- `t` is `w` without the record of a pod and without its resources. -/
structure Removed (w t : World api) (podId : String) (pod : Pod) (srcIp : UInt32) : Prop where
  recorded : w.pods.getPod podId = some pod
  sourced : w.podSourceIps.get podId = some srcIp
  pods : t.pods = w.pods.removePod podId
  ips : t.ips = w.ips.releaseP2pPair podId
  sources : t.podSourceIps = w.podSourceIps.remove podId
  identity : t.srcIdentity = w.srcIdentity.remove srcIp
  probes : t.probes = w.probes.unregisterPod podId
  vms : t.vmTables = .ofCids (cidsWithout pod.runtime (pod.pid.getD 0) w.pods.vmCids)
  next : t.nextCid = w.nextCid

namespace Removed
variable {srcIp : UInt32} (r : Removed w t podId pod srcIp)
include r

theorem keys : t.pods.pods.keys = w.pods.pods.keys.erase podId := by
  rw [r.pods]
  rfl

theorem records (p : String) (pod' : Pod) : t.pods.getPod p = some pod' ↔ p ≠ podId ∧ w.pods.getPod p = some pod' := by
  rw [r.pods]
  exact PodManager.getPod_removePod_eq_some

theorem source_iff (p : String) (ip : UInt32) :
    t.podSourceIps.get p = some ip ↔ p ≠ podId ∧ w.podSourceIps.get p = some ip := by
  rw [r.sources]
  exact FinMap.get_remove_eq_some

theorem pair_iff (h : Balanced ids pairOf w) (hgw : ∀ p ∈ ids, gatewayOwner p ∉ ids) (o : Nat) (owner : String) :
    t.ips.allocated.get o = some owner ↔
      ∃ p ∈ t.pods.pods.keys, (o = pairOf p ∧ owner = gatewayOwner p) ∨ (o = pairOf p + 1 ∧ owner = p) := by
  have hid : podId ∈ ids := h.named podId (FinMap.mem_keys_of_get r.recorded)
  rw [r.ips, releaseP2pPair_get, h.pairs, r.keys]
  constructor
  · rintro ⟨⟨p, hp, hpair⟩, hworkload, hgateway⟩
    refine ⟨p, Finset.mem_erase.mpr ⟨?_, hp⟩, hpair⟩
    rintro rfl
    rcases hpair with ⟨-, howner⟩ | ⟨-, howner⟩
    · exact hgateway howner
    · exact hworkload howner
  · rintro ⟨p, hp, hpair⟩
    obtain ⟨hne, hp⟩ := Finset.mem_erase.mp hp
    exact ⟨⟨p, hp, hpair⟩, owner_ne hgw hid (h.named p hp) hne (hpair.imp And.right And.right)⟩

theorem identity_iff (h : Ledger pairOf w) (ip : UInt32) (fp : IdentityFingerprint) : t.srcIdentity.get ip = some fp ↔
    ∃ p pod', t.pods.getPod p = some pod' ∧ t.podSourceIps.get p = some ip ∧ pod'.fingerprint = fp := by
  rw [r.identity, FinMap.get_remove_eq_some, h.identities]
  simp only [r.records, r.source_iff]
  constructor
  · rintro ⟨hne, p, pod', hp, hs, hf⟩
    have other : p ≠ podId := by
      rintro rfl
      rw [r.sourced, Option.some.injEq] at hs
      exact hne hs.symm
    exact ⟨p, pod', ⟨other, hp⟩, ⟨other, hs⟩, hf⟩
  · rintro ⟨p, pod', ⟨other, hp⟩, ⟨-, hs⟩, hf⟩
    refine ⟨?_, p, pod', hp, hs, hf⟩
    rintro rfl
    exact other (h.apart p podId _ hs r.sourced)

/-- The ledger has one entry less. -/
theorem ledger (h : Balanced ids pairOf w) (hgw : ∀ p ∈ ids, gatewayOwner p ∉ ids) : Ledger pairOf t where
  pairs := r.pair_iff h hgw
  sources p ip := by
    rw [r.source_iff, h.sources, r.keys, Finset.mem_erase, r.ips, and_assoc]
    rfl
  identities := r.identity_iff h.toLedger
  apart p q ip hp hq := h.apart p q ip ((r.source_iff p ip).mp hp).2 ((r.source_iff q ip).mp hq).2
  probes := by
    rw [r.keys, r.probes, ← h.probes]
    rfl
  vms := by
    rw [r.vms, r.pods, vmCids_removePod r.recorded]
    exact fun p pod' hp hvm' hvm heq => h.handles p podId pod' pod hp r.recorded hvm' hvm heq

end Removed

/-- An eviction that returned: the pod's record and its resources are gone. -/
theorem Balanced.removed (h : Balanced ids pairOf w) (hgw : ∀ p ∈ ids, gatewayOwner p ∉ ids) {srcIp : UInt32}
    (r : Removed w t podId pod srcIp) : Balanced ids pairOf t where
  toLedger := r.ledger h hgw
  named p hp := by
    rw [r.keys] at hp
    exact h.named p (Finset.mem_of_mem_erase hp)
  handles p q pod₁ pod₂ hp hq := h.handles p q pod₁ pod₂ ((r.records p pod₁).mp hp).2 ((r.records q pod₂).mp hq).2
  below cid hcid := by
    rw [r.next]
    obtain ⟨p, pod', hp, hvm, hpid⟩ := PodManager.mem_vmCids.mp hcid
    exact h.below cid (PodManager.mem_vmCids.mpr ⟨p, pod', ((r.records p pod').mp hp).2, hvm, hpid⟩)

end Removed

/-! ### The operations -/

section Operations
variable {cfg : ManagerConfig api}

/-- The optional dependencies whose tables the ledger is about. -/
structure Attached (cfg : ManagerConfig api) : Prop where
  srcIdentity : cfg.srcIdentity = true
  netGuard : cfg.netGuard = true
  attestation : cfg.attestation = true
  probes : cfg.probes = true

theorem nextCid_lt (room : w.nextCid.toNat + 1 < 2 ^ 32) (hnext : t.nextCid = w.nextCid + 1) : w.nextCid < t.nextCid := by
  rw [hnext, UInt32.lt_iff_toNat_lt, UInt32.toNat_add, UInt32.toNat_one, Nat.mod_eq_of_lt room]
  omega

theorem CidStep.le {runtime : RuntimeKind} (h : CidStep runtime w t)
    (hroom : runtime = .cloudHypervisor → w.nextCid.toNat + 1 < 2 ^ 32) : w.nextCid ≤ t.nextCid := by
  rcases h with heq | ⟨hvm, hnext⟩
  · rw [heq]
    exact UInt32.le_refl _
  · exact UInt32.le_of_lt (nextCid_lt (hroom hvm) hnext)

theorem CidStep.toNat_le {runtime : RuntimeKind} (h : CidStep runtime w t) :
    t.nextCid.toNat ≤ w.nextCid.toNat + (decide (runtime = .cloudHypervisor)).toNat := by
  rcases h with heq | ⟨hvm, hnext⟩
  · rw [heq]
    omega
  · rw [hnext, decide_eq_true hvm, UInt32.toNat_add, UInt32.toNat_one]
    exact Nat.mod_le _ _

theorem bootPod_balanced (attached : Attached cfg) {env : BootEnv api} {spec : WorkloadSpec}
    (hunregister : env.unregister = none) (hdisarm : env.disarm = none) (hgw : ∀ p ∈ ids, gatewayOwner p ∉ ids)
    (h : Balanced ids pairOf w) (hid : spec.effectiveId ∈ ids) (hnew : w.pods.getPod spec.effectiveId = none)
    (hroom : spec.runtime = .cloudHypervisor → w.nextCid.toNat + 1 < 2 ^ 32) :
    wp (fun _ => True) (bootPod cfg env spec) (fun _ t => (∃ pairOf', Balanced ids pairOf' t) ∧ CidStep spec.runtime w t)
      (fun _ t => (∃ pairOf', Balanced ids pairOf' t) ∧ CidStep spec.runtime w t) w := by
  have early : ∀ k, (∃ pairOf', Balanced ids pairOf' { w with delegatedKeys := k }) ∧
      CidStep spec.runtime w { w with delegatedKeys := k } :=
    fun k => ⟨⟨pairOf, h.unchanged rfl rfl rfl rfl rfl rfl rfl (UInt32.le_refl _)⟩, Or.inl rfl⟩
  have owners := h.owners_ne hgw hid hnew
  refine wp_bootPod (fun _ => trivial) (fun _ => early) ?_
  intro podSpec fp mounts k hspec _ _
  refine wp_reservePair attached.srcIdentity (fun _ _ => early k) (fun _ _ _ _ => trivial) ?_ ?_
  · intro gw wl ips _ hok _
    obtain ⟨o, took⟩ := allocateP2pPair_took hok
    refine ⟨trivial, fun _ => ⟨⟨pairOf, ?_⟩, Or.inl rfl⟩⟩
    exact h.unchanged rfl took.base (took.release_allocated owners) rfl rfl rfl rfl (UInt32.le_refl _)
  · intro gw wl ips hok _
    obtain ⟨o, took⟩ := allocateP2pPair_took hok
    have fresh : w.nextCid ∉ w.pods.vmCids := fun hmem => UInt32.lt_irrefl _ (h.below _ hmem)
    have vms : ((World.withPair { w with delegatedKeys := k } spec.effectiveId spec.workloadId wl ips).withSource cfg env wl
        fp).vmTables = .ofCids w.pods.vmCids := h.vms
    refine ⟨trivial, trivial, ?_⟩
    refine ((bootRuntime_steps hspec).and (bootRuntime_tables attached.netGuard attached.attestation hdisarm hspec vms
      fresh)).mono (fun _ _ => trivial) (fun handle t ht => ?_) (fun e t ht => ?_)
    · obtain ⟨⟨hb, -⟩, htables, hcid, hhandle⟩ := ht
      have ips_eq : t.ips = ips := congrArg Books.ips hb
      have hprobes : t.probes = w.probes := congrArg Books.probes hb
      refine wp_recordPod trivial (fun _ => trivial) ⟨⟨Function.update pairOf spec.effectiveId o, ?_⟩, hcid⟩
      have hid : (Pod.booted spec.effectiveId spec.workloadId podSpec.tenantId spec.role spec.runtime fp handle).podId ∈
          ids := hid
      exact h.recorded hid
        { fresh := hnew
          took := ips_eq ▸ took
          pods := congrArg (PodManager.addPod · _) (congrArg Books.pods hb)
          sources := congrArg (FinMap.insert · _ _) (congrArg Books.podSourceIps hb)
          identity := congrArg Books.srcIdentity hb
          probes := by
            rw [if_pos attached.probes, hprobes]
            rfl
          vms := htables
          next := hcid.le hroom
          cid := fun hvm => (hhandle hvm).imp_right (nextCid_lt (hroom hvm)) }
    · obtain ⟨⟨hb, -⟩, htables, hcid⟩ := ht
      have ips_eq : t.ips = ips := congrArg Books.ips hb
      have identities : t.srcIdentity = w.srcIdentity.insert wl fp := congrArg Books.srcIdentity hb
      refine wp_cancelReservation trivial trivial ⟨⟨pairOf, ?_⟩, hcid⟩
      refine h.unchanged (congrArg Books.pods hb) ?_ ?_ (congrArg Books.podSourceIps hb) ?_ (congrArg Books.probes hb)
        (htables.trans h.vms.symm) (hcid.le hroom)
      · exact (congrArg NodeIpAllocator.base ips_eq).trans took.base
      · rw [ips_eq]
        exact took.release_allocated owners
      · rw [hunregister, identities]
        exact FinMap.remove_insert_of_absent _ (h.fresh_identity took)

theorem evictPod_balanced (attached : Attached cfg) {env : EvictEnv} (hunregister : env.unregister = none)
    (hdisarm : env.disarm = none) (hgw : ∀ p ∈ ids, gatewayOwner p ∉ ids) (h : Balanced ids pairOf w) :
    wp (fun _ => True) (evictPod cfg env podId) (fun _ t => Balanced ids pairOf t ∧ t.nextCid = w.nextCid)
      (fun _ _ => True) w := by
  refine wp_evictPod (fun _ _ => trivial) (fun _ _ _ => trivial) fun pod hpod => ?_
  have vms : (w.withEviction cfg podId).vmTables = .ofCids w.pods.vmCids := h.vms
  have hcid : pod.runtime = .cloudHypervisor → pod.pid.getD 0 ∈ w.pods.vmCids :=
    fun hvm => PodManager.mem_vmCids.mpr ⟨podId, pod, hpod, hvm, rfl⟩
  refine (stopRuntime_steps.and (stopRuntime_tables attached.netGuard attached.attestation hdisarm vms hcid)).mono
    (fun _ _ => trivial) (fun _ t ht => ?_) (fun _ _ _ => trivial)
  obtain ⟨⟨hb, -⟩, htables, hnext⟩ := ht
  have hpods : t.pods = (w.withEviction cfg podId).pods := congrArg Books.pods hb
  have hips : t.ips = w.ips := congrArg Books.ips hb
  have hsources : t.podSourceIps = w.podSourceIps := congrArg Books.podSourceIps hb
  have hidentity : t.srcIdentity = w.srcIdentity := congrArg Books.srcIdentity hb
  have hprobes : t.probes = (w.withEviction cfg podId).probes := congrArg Books.probes hb
  refine wp_releaseSource attached.srcIdentity (fun hnone => ?_) fun srcIp hsome => ?_
  · -- A recorded pod has a source IP.
    have some := (h.sources podId _).mpr ⟨FinMap.mem_keys_of_get hpod, rfl⟩
    rw [hsources, some] at hnone
    cases hnone
  · refine ⟨trivial, trivial, fun _ => trivial, fun n => ⟨fun _ _ => trivial, fun _ => ⟨trivial, ?_, hnext⟩⟩⟩
    exact h.removed hgw
      { recorded := hpod
        sourced := hsources ▸ hsome
        pods := by
          show t.pods.removePod podId = _
          rw [hpods]
          exact PodManager.removePod_modifyPod _ Pod.beginEviction_podId
        ips := congrArg (releaseP2pPair · podId) hips
        sources := congrArg (FinMap.remove · podId) hsources
        identity := by
          show unregistered env.unregister srcIp t.srcIdentity = _
          rw [hunregister, hidentity]
          rfl
        probes := by
          show t.probes = _
          rw [hprobes, World.withEviction, if_pos attached.probes]
        vms := htables
        next := hnext }

end Operations

/-! ### Runs -/

def ManagerOp.bootsVm : ManagerOp api → Bool
  | .boot spec _ => spec.runtime = .cloudHypervisor
  | .evict .. => false

/-- A boot under a new id of `ids`, or an eviction that returns; the best-effort cleanup calls succeed. -/
def CleanOp (cfg : ManagerConfig api) (ids : Set String) (w : World api) : ManagerOp api → Prop
  | .boot spec env =>
    spec.effectiveId ∈ ids ∧ w.pods.getPod spec.effectiveId = none ∧ env.unregister = none ∧ env.disarm = none
  | .evict podId env => (evictPod cfg env podId w).result = .ok () ∧ env.unregister = none ∧ env.disarm = none

theorem runOp_balanced {cfg : ManagerConfig api} (attached : Attached cfg) (hgw : ∀ p ∈ ids, gatewayOwner p ∉ ids)
    (h : Balanced ids pairOf w) {op : ManagerOp api} (clean : CleanOp cfg ids w op)
    (hroom : w.nextCid.toNat + op.bootsVm.toNat < 2 ^ 32) :
    (∃ pairOf', Balanced ids pairOf' (turn (runOp cfg) w op)) ∧
      (turn (runOp cfg) w op).nextCid.toNat ≤ w.nextCid.toNat + op.bootsVm.toNat := by
  cases op with
  | boot spec env =>
    obtain ⟨hid, hnew, hunregister, hdisarm⟩ := clean
    have room : spec.runtime = .cloudHypervisor → w.nextCid.toNat + 1 < 2 ^ 32 := by
      intro hvm
      simpa [ManagerOp.bootsVm, hvm] using hroom
    have booted : wp (fun _ => True) (runOp cfg (.boot spec env))
        (fun _ t => (∃ pairOf', Balanced ids pairOf' t) ∧ CidStep spec.runtime w t)
        (fun _ t => (∃ pairOf', Balanced ids pairOf' t) ∧ CidStep spec.runtime w t) w :=
      wp_bind.mpr ((bootPod_balanced attached hunregister hdisarm hgw h hid hnew room).mono (fun _ ht => ht)
        (fun _ _ ht => wp_pure.mpr ht) fun _ _ ht => ht)
    exact ⟨booted.final.1, booted.final.2.toNat_le⟩
  | evict podId env =>
    obtain ⟨hok, hunregister, hdisarm⟩ := clean
    obtain ⟨balanced, hnext⟩ := (evictPod_balanced attached hunregister hdisarm hgw h).of_ok hok
    exact ⟨⟨pairOf, balanced⟩, (congrArg UInt32.toNat hnext).le⟩

theorem balanced_run {cfg : ManagerConfig api} (attached : Attached cfg) (hgw : ∀ p ∈ ids, gatewayOwner p ∉ ids)
    {ops : List (ManagerOp api)} (hvms : w.nextCid.toNat + ops.countP ManagerOp.bootsVm < 2 ^ 32)
    (clean : Along (turn (runOp cfg)) (CleanOp cfg ids) w ops) (h : Balanced ids pairOf w) :
    ∃ pairOf', Balanced ids pairOf' (ops.foldl (turn (runOp cfg)) w) := by
  induction ops generalizing w pairOf with
  | nil => exact ⟨pairOf, h⟩
  | cons op ops ih =>
    obtain ⟨hop, hrest⟩ := along_cons.mp clean
    have count : (op :: ops).countP ManagerOp.bootsVm = ops.countP ManagerOp.bootsVm + op.bootsVm.toNat := by
      rw [List.countP_cons]
      cases op.bootsVm <;> rfl
    rw [count] at hvms
    obtain ⟨⟨pairOf', balanced⟩, hnext⟩ := runOp_balanced attached hgw h hop (by omega)
    exact ih (by omega) hrest balanced

/-- After every run of boots, whatever becomes of them, and of evictions that return, the node holds exactly the resources
    of its recorded pods. -/
theorem ledger_run (cfg : ManagerConfig api) (attached : Attached cfg) (ids : Set String)
    (hgw : ∀ p ∈ ids, gatewayOwner p ∉ ids) (ips : NodeIpAllocator) (hips : ips.allocated = ∅) (ops : List (ManagerOp api))
    (hvms : ops.countP ManagerOp.bootsVm < 2 ^ 31) (clean : Along (turn (runOp cfg)) (CleanOp cfg ids) { ips := ips } ops) :
    ∃ pairOf, Ledger pairOf (ops.foldl (turn (runOp cfg)) { ips := ips }) := by
  have start : Balanced ids (fun _ => 0) ({ ips := ips } : World api) := by
    refine ⟨⟨?_, ?_, ?_, ?_, rfl, rfl⟩, ?_, ?_, ?_⟩
    · intro o owner
      rw [hips]
      simp [PodManager.new]
    · simp [PodManager.new]
    · simp
    · simp
    · simp [PodManager.new]
    · rintro p q pod pod' ⟨⟩
    · rintro cid ⟨⟩
  obtain ⟨pairOf, balanced⟩ := balanced_run attached hgw (show 3 + _ < 2 ^ 32 by omega) clean start
  exact ⟨pairOf, balanced.toLedger⟩

end Ledger

/-- A container and a MicroVM boot, another MicroVM does not, and the container is evicted. -/
def sampleOps : List (ManagerOp textApi) :=
  [.boot (sampleSpec "web" .containerd) sampleBoot, .boot (sampleSpec "vm" .cloudHypervisor) sampleBoot,
    .boot (sampleSpec "db" .cloudHypervisor) { sampleBoot with bootVm := some "no kvm" }, .evict "web" {}]

theorem ledger_run_of_sample :
    (sampleOps.foldl (turn (runOp sampleConfig)) { ips := samplePool }).pods.pods.keys = {"vm"} ∧
    ∃ pairOf, Ledger pairOf (sampleOps.foldl (turn (runOp sampleConfig)) { ips := samplePool }) := by
  refine ⟨by decide +kernel, ?_⟩
  refine ledger_run sampleConfig ⟨rfl, rfl, rfl, rfl⟩ {"web", "vm", "db"} ?_ samplePool rfl sampleOps (by decide) ?_
  · simp only [Set.mem_insert_iff, Set.mem_singleton_iff]
    rintro p (rfl | rfl | rfl) <;> decide
  · refine along_cons.mpr ⟨⟨by simp [sampleSpec, WorkloadSpec.effectiveId], by decide +kernel, rfl, rfl⟩, ?_⟩
    refine along_cons.mpr ⟨⟨by simp [sampleSpec, WorkloadSpec.effectiveId], by decide +kernel, rfl, rfl⟩, ?_⟩
    refine along_cons.mpr ⟨⟨by simp [sampleSpec, WorkloadSpec.effectiveId], by decide +kernel, rfl, rfl⟩, ?_⟩
    exact along_cons.mpr ⟨⟨by decide +kernel, rfl, rfl⟩, along_nil⟩

end FleetosAgent.Workloads
