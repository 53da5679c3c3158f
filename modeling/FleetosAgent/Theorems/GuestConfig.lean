import FleetosAgent.Theorems.Handshake
import FleetosAgent.Theorems.Ledger

/-! # A guest gets the config of its own boot

The attestation server finds what it knows about a guest by CID, in two tables that the workload manager fills and empties
while guests connect. As long as the CIDs do not wrap, what is found under a CID, at whatever moments, is from the one
boot that the CID was given to. -/

namespace FleetosAgent.Workloads
open Lib Identity Traced VsockAttest

variable {api : SpiffeApi}

/-! ### Owners of CIDs -/

/-- A MicroVM boot and the pair that it was given. -/
structure VmBoot (api : SpiffeApi) where
  spec : WorkloadSpec
  env : BootEnv api
  guestIp : UInt32
  gatewayIp : UInt32

/-- What the boot has measured. -/
def VmBoot.Measured (cfg : ManagerConfig api) (b : VmBoot api) (m : BootMeasurement) : Prop :=
  b.env.measure cfg.kernelPath (ociToErofs b.spec.image cfg.imageCachePath) cfg.guestInitPath = .ok m

def VmBoot.context (b : VmBoot api) : WorkloadContext := workloadContext b.spec b.guestIp b.gatewayIp

/-- The instance is the one that the boot starts. -/
def VmBoot.Starts (b : VmBoot api) (i : RuntimeInstance) : Prop :=
  ∃ podSpec, b.spec.podSpec = some podSpec ∧ i = bootInstance b.spec podSpec b.guestIp i.handle

/-- What is found under a CID, and what runs with it, is of its owner. -/
structure Owned (cfg : ManagerConfig api) (owners : UInt32 → Option (VmBoot api)) (w : World api) : Prop where
  context : ∀ cid ctx, w.workloadContexts.get cid = some ctx → ∃ b, owners cid = some b ∧ ctx = b.context
  measurement : ∀ cid m, w.bootMeasurements.get cid = some m → ∃ b, owners cid = some b ∧ b.Measured cfg m
  running : ∀ i ∈ w.running, i.runtime = .cloudHypervisor → ∃ b, owners i.handle = some b ∧ b.Starts i

section
variable {cfg : ManagerConfig api} {owners owners' : UInt32 → Option (VmBoot api)} {w t : World api}

theorem Owned.extend (h : Owned cfg owners w) (hext : ∀ cid b, owners cid = some b → owners' cid = some b) :
    Owned cfg owners' w := by
  refine ⟨fun cid ctx hctx => ?_, fun cid m hm => ?_, fun i hi hvm => ?_⟩
  · obtain ⟨b, hb, hctx⟩ := h.context cid ctx hctx
    exact ⟨b, hext cid b hb, hctx⟩
  · obtain ⟨b, hb, hm⟩ := h.measurement cid m hm
    exact ⟨b, hext cid b hb, hm⟩
  · obtain ⟨b, hb, starts⟩ := h.running i hi hvm
    exact ⟨b, hext _ b hb, starts⟩

theorem Owned.of_eq (h : Owned cfg owners w) (hc : t.workloadContexts = w.workloadContexts)
    (hm : t.bootMeasurements = w.bootMeasurements) (hr : t.running = w.running) : Owned cfg owners t :=
  ⟨hc ▸ h.context, hm ▸ h.measurement, hr ▸ h.running⟩

theorem Owned.insertMeasurement (h : Owned cfg owners w) {cid : UInt32} {b : VmBoot api} {m : BootMeasurement}
    (hb : owners cid = some b) (hm : b.Measured cfg m) :
    Owned cfg owners { w with bootMeasurements := w.bootMeasurements.insert cid m } := by
  refine ⟨h.context, fun cid' m' hget => ?_, h.running⟩
  rw [FinMap.get_insert] at hget
  split at hget
  · next heq =>
    cases hget
    exact ⟨b, heq ▸ hb, hm⟩
  · exact h.measurement cid' m' hget

theorem Owned.insertContext (h : Owned cfg owners w) {cid : UInt32} {b : VmBoot api} (hb : owners cid = some b) :
    Owned cfg owners { w with workloadContexts := w.workloadContexts.insert cid b.context } := by
  refine ⟨fun cid' ctx hget => ?_, h.measurement, h.running⟩
  rw [FinMap.get_insert] at hget
  split at hget
  · next heq =>
    cases hget
    exact ⟨b, heq ▸ hb, rfl⟩
  · exact h.context cid' ctx hget

theorem Owned.removeMeasurement (h : Owned cfg owners w) (cid : UInt32) :
    Owned cfg owners { w with bootMeasurements := w.bootMeasurements.remove cid } := by
  refine ⟨h.context, fun cid' m hget => ?_, h.running⟩
  rw [FinMap.get_remove] at hget
  split at hget
  · cases hget
  · exact h.measurement cid' m hget

theorem Owned.removeContext (h : Owned cfg owners w) (cid : UInt32) :
    Owned cfg owners { w with workloadContexts := w.workloadContexts.remove cid } := by
  refine ⟨fun cid' ctx hget => ?_, h.measurement, h.running⟩
  rw [FinMap.get_remove] at hget
  split at hget
  · cases hget
  · exact h.context cid' ctx hget

theorem Owned.start (h : Owned cfg owners w) {i : RuntimeInstance}
    (hi : i.runtime = .cloudHypervisor → ∃ b, owners i.handle = some b ∧ b.Starts i) :
    Owned cfg owners { w with running := w.running ++ [i] } := by
  refine ⟨h.context, h.measurement, fun j hj hvm => ?_⟩
  rcases List.mem_append.mp hj with hj | hj
  · exact h.running j hj hvm
  · obtain rfl := List.mem_singleton.mp hj
    exact hi hvm

theorem Owned.stop (h : Owned cfg owners w) (p : RuntimeInstance → Bool) :
    Owned cfg owners { w with running := w.running.filter p } :=
  ⟨h.context, h.measurement, fun i hi => h.running i (List.mem_of_mem_filter hi)⟩

/-- A CID without an owner can be given one. -/
theorem update_of_fresh {cid : UInt32} {b : VmBoot api} (fresh : owners cid = none) (cid' : UInt32) (b' : VmBoot api)
    (hb' : owners cid' = some b') : Function.update owners cid (some b) cid' = some b' := by
  rw [Function.update_of_ne, hb']
  rintro rfl
  rw [fresh] at hb'
  cases hb'

/-! ### Evictions -/

/-- The CID that is next, and the owners of those that were given. -/
def At (cfg : ManagerConfig api) (owners : UInt32 → Option (VmBoot api)) (cid : UInt32) (w : World api) : Prop :=
  w.nextCid = cid ∧ Owned cfg owners w

variable {cid : UInt32}

theorem at_networkFrame : NetworkFrame (At cfg owners cid) := fun _ _ _ _ _ _ _ h => ⟨h.1, h.2.of_eq rfl rfl rfl⟩

theorem unregisterAttestation_at {handle : UInt32} :
    Preserves (At cfg owners cid) (unregisterAttestation handle : Manager api Unit) :=
  .bind (.modify fun _ h => ⟨h.1, h.2.removeMeasurement handle⟩) fun _ => .modify fun _ h => ⟨h.1, h.2.removeContext handle⟩

theorem disarmGuard_at {fault : Option AgentError} {interface : String} :
    Preserves (At cfg owners cid) (disarmGuard fault interface : Manager api Unit) := by
  cases fault with
  | some e => exact .fail
  | none => exact .modify fun _ h => ⟨h.1, h.2.of_eq rfl rfl rfl⟩

theorem stopRuntime_at {env : EvictEnv} {podId : String} {runtime : RuntimeKind} {handle : UInt32} :
    Preserves (At cfg owners cid) (stopRuntime cfg env podId runtime handle) := by
  cases runtime with
  | containerd =>
    unfold stopRuntime stopContainerd
    cases env.stop with
    | some e => exact .fail
    | none => exact .modify fun _ h => ⟨h.1, h.2.stop _⟩
  | cloudHypervisor =>
    have stopped : Preserves (At cfg owners cid) (stopVm env handle : Manager api Unit) := by
      unfold stopVm
      cases env.stop with
      | some e => exact .fail
      | none => exact .modify fun _ h => ⟨h.1, h.2.stop _⟩
    refine .bind .get fun w => .bind (.modify fun _ h => ⟨h.1, h.2.of_eq rfl rfl rfl⟩) fun _ => ?_
    refine .bind (.when (.bind stopped fun _ => .when (.bind disarmGuard_at.attempt fun _ => .pure))) fun _ => ?_
    exact .when unregisterAttestation_at

theorem evictPod_at {env : EvictEnv} {podId : String} : Preserves (At cfg owners cid) (evictPod cfg env podId) := by
  have begun : Preserves (At cfg owners cid) (beginEvict cfg podId) := by
    refine .bind (.modify fun _ h => ⟨h.1, h.2.of_eq rfl rfl rfl⟩) fun _ =>
      .bind (.when (.modify fun _ h => ?_)) fun _ => ?_
    · exact ⟨h.1, h.2.of_eq rfl rfl rfl⟩
    · exact .when (.modify fun _ h => ⟨h.1, h.2.of_eq rfl rfl rfl⟩)
  refine .bind .get fun w => preserves_orFail_bind fun pod _ => .bind begun fun _ => .bind stopRuntime_at fun _ => ?_
  refine .bind (releaseSource_frame at_networkFrame.address) fun _ => .bind .ofExcept fun _ => ?_
  exact .modify fun _ h => ⟨h.1, h.2.of_eq rfl rfl rfl⟩

/-! ### Boots -/

section Boot
variable {env : BootEnv api} {spec : WorkloadSpec} {podSpec : PodSpec} {mounts : List PreparedMount}
  {reservation : Reservation}

theorem bootContainerd_at (hspec : spec.podSpec = some podSpec) (hruntime : spec.runtime = .containerd) {ip : UInt32} :
    Preserves (At cfg owners cid) (bootContainerd env spec ip) := by
  intro w h
  have started : ∀ n pid, At cfg owners cid
      { w with netns := n, running := w.running ++ [bootInstance spec podSpec ip pid] } := by
    intro n pid
    have owned := h.2.start (i := bootInstance spec podSpec ip pid) fun hvm => by
      rw [bootInstance, hruntime] at hvm
      cases hvm
    exact ⟨h.1, owned.of_eq rfl rfl rfl⟩
  exact wp_bootContainerd hspec hruntime (fun _ => ⟨h.1, h.2.of_eq rfl rfl rfl⟩)
    (fun _ _ => ⟨h.1, h.2.of_eq rfl rfl rfl⟩) started started

/-- Everything that a MicroVM boot files under its CID is its own. -/
theorem bootMicrovmInner_at {b : VmBoot api} {handle : UInt32} {interface : String} (hspec : b.spec.podSpec = some podSpec)
    (hruntime : b.spec.runtime = .cloudHypervisor) (hb : owners handle = some b) :
    Preserves (At cfg owners cid) (bootMicrovmInner cfg b.env b.spec mounts handle interface b.guestIp b.gatewayIp) := by
  refine .ofExcept_bind fun measurement hm => ?_
  have registered : Preserves (At cfg owners cid) (registerAttestation handle measurement b.context : Manager api Unit) :=
    .bind (.modify fun _ h => ⟨h.1, h.2.insertMeasurement hb hm⟩) fun _ => .modify fun _ h => ⟨h.1, h.2.insertContext hb⟩
  have booted : Preserves (At cfg owners cid) (MicroVmAdapter.boot b.env b.spec handle mounts
      (ociToErofs b.spec.image cfg.imageCachePath).toStringLossy interface b.guestIp b.gatewayIp) := by
    intro w h
    have started := h.2.start (i := bootInstance b.spec podSpec b.guestIp handle) fun _ => ⟨b, hb, podSpec, hspec, rfl⟩
    exact wp_vmBoot hspec hruntime (fun _ => h) ⟨h.1, started⟩ ⟨h.1, started⟩
  refine .bind registered.when fun _ => .bind booted fun _ => ?_
  exact .bind (.modify fun _ h => ⟨h.1, h.2.of_eq rfl rfl rfl⟩) fun _ => .pure

/-- Until the CID is taken nothing belongs to it; from then on it is this boot's. -/
theorem bootMicrovm_turns {b : VmBoot api} (hspec : b.spec.podSpec = some podSpec)
    (hruntime : b.spec.runtime = .cloudHypervisor) (fresh : owners cid = none) (h : At cfg owners cid w) :
    Turns (At cfg owners cid) (At cfg (Function.update owners cid (some b)) (cid + 1))
      (bootMicrovm cfg b.env b.spec mounts b.guestIp b.gatewayIp) w := by
  obtain ⟨rfl, owned⟩ := h
  refine .of_rest (wp_ofExcept (fun _ _ => .of_rest (wp_get.mpr ?_)) fun _ _ => ⟨rfl, owned⟩)
  have taken : At cfg (Function.update owners w.nextCid (some b)) (w.nextCid + 1) { w with nextCid := w.nextCid + 1 } :=
    ⟨rfl, (owned.extend (update_of_fresh fresh)).of_eq rfl rfl rfl⟩
  refine Or.inr (wp_bind.mpr (wp_modify.mpr ⟨Or.inr taken, Turns.turned ?_ taken⟩))
  split
  · exact .fail
  · refine .bind (fun t ht => wp_armGuard ?_ ?_ fun _ => ht) fun _ => ?_
    · exact ⟨ht.1, ht.2.of_eq rfl rfl rfl⟩
    · exact ⟨ht.1, ht.2.of_eq rfl rfl rfl⟩
    refine .bind (bootMicrovmInner_at hspec hruntime (Function.update_self ..)).attempt fun result => ?_
    cases result with
    | ok handle => exact .pure
    | error e => exact .bind unregisterAttestation_at.when fun _ => .bind disarmGuard_at.attempt fun _ => .fail

theorem reservePair_at {podId workloadId : String} {fp : IdentityFingerprint} (h : At cfg owners cid w) :
    wp (At cfg owners cid) (reservePair cfg env podId workloadId fp)
      (fun r t => (∃ ips, w.ips.allocateP2pPair podId = .ok ((r.gwIp, r.wlIp), ips)) ∧ At cfg owners cid t)
      (fun _ => At cfg owners cid) w := by
  rw [reservePair, wp_bind, wp_get, wp_bind]
  refine wp_ofExcept (fun pair hpair => ?_) fun _ _ => h
  obtain ⟨⟨gw, wl⟩, ips⟩ := pair
  have kept : At cfg owners cid { w with ips := ips, grants := w.grants.insert wl (podId, workloadId) } :=
    ⟨h.1, h.2.of_eq rfl rfl rfl⟩
  refine wp_bind.mpr (wp_modify.mpr ⟨kept, wp_bind.mpr ?_⟩)
  refine (registerWorkload_frame at_networkFrame.address _ kept).mono (fun _ => id) (fun _ t ht => ?_) fun _ _ => id
  have counted : Preserves (At cfg owners cid) (when (cfg.ebpfManager && !env.ebpfLockPoisoned && env.prepopulate.isNone)
      (modify fun w => { w with podNetCounters := w.podNetCounters.insert wl {} }) : Manager api Unit) :=
    .when (.modify fun _ h => ⟨h.1, h.2.of_eq rfl rfl rfl⟩)
  exact wp_bind.mpr ((counted t ht).mono (fun _ => id) (fun _ _ ht => wp_pure.mpr ⟨⟨ips, hpair⟩, ht⟩) fun _ _ => id)

theorem recordPod_at {podId : String} {fp : IdentityFingerprint} {handle : UInt32} :
    Preserves (At cfg owners cid) (recordPod cfg env spec podSpec podId fp reservation handle) := by
  unfold recordPod
  have recorded : ∀ pod : Pod, Preserves (At cfg owners cid) (do
      modify fun w => { w with pods := w.pods.addPod pod }
      when cfg.probes (modify fun w => { w with probes := w.probes.registerPod podId (.new podSpec.probes env.now) }) :
        Manager api Unit) :=
    fun _ => .bind (.modify fun _ h => ⟨h.1, h.2.of_eq rfl rfl rfl⟩) fun _ =>
      .when (.modify fun _ h => ⟨h.1, h.2.of_eq rfl rfl rfl⟩)
  cases reservation.registeredIp with
  | some ip => exact .bind (.modify fun _ h => ⟨h.1, h.2.of_eq rfl rfl rfl⟩) fun _ => recorded _
  | none => exact recorded _

/-- Booting a pod turns where its runtime does. -/
theorem bootPod_turns {B : World api → Prop} (h : At cfg owners cid w)
    (hruntime : ∀ podSpec mounts r ips t, spec.podSpec = some podSpec →
      w.ips.allocateP2pPair spec.effectiveId = .ok ((r.gwIp, r.wlIp), ips) → At cfg owners cid t →
      Turns (At cfg owners cid) B (bootRuntime cfg env spec mounts r) t)
    (hrecord : ∀ podSpec fp r handle, Preserves B (recordPod cfg env spec podSpec spec.effectiveId fp r handle))
    (hcancel : ∀ r, Preserves B (cancelReservation env spec.effectiveId r)) :
    Turns (At cfg owners cid) B (bootPod cfg env spec) w := by
  unfold bootPod
  cases hspec : spec.podSpec with
  | none => exact .of_rest (wp_orFail_none.mpr h)
  | some podSpec =>
    refine .of_rest (wp_orFail_some.mpr ?_)
    rw [effectiveId_eq hspec]
    refine .of_rest (wp_ofExcept (fun mounts _ => ?_) fun _ _ => h)
    refine .of_rest (wp_ofExcept (fun fp _ => ?_) fun _ _ => h)
    have keyed : ∀ k, At cfg owners cid { w with delegatedKeys := k } := fun k => ⟨h.1, h.2.of_eq rfl rfl rfl⟩
    refine .of_rest (wp_requestDelegatedKey keyed fun k => ?_)
    refine .of_rest ((reservePair_at (keyed k)).mono (fun _ => id) (fun r t ht => ?_) fun _ _ => id)
    obtain ⟨⟨ips, hpair⟩, ht⟩ := ht
    refine .bind (hruntime podSpec mounts r ips t hspec hpair ht).attempt (fun result t ht => ?_) fun result => ?_
    · refine .of_preserves ?_ ht
      cases result with
      | ok handle => exact .bind recordPod_at fun _ => .pure
      | error e => exact .bind (cancelReservation_frame at_networkFrame.address) fun _ => .fail
    · cases result with
      | ok handle => exact .bind (hrecord podSpec fp r handle) fun _ => .pure
      | error e => exact .bind (hcancel r) fun _ => .fail

theorem containerBoot_at (hcontainer : spec.runtime = .containerd) :
    Preserves (At cfg owners cid) (runOp cfg (.boot spec env)) := by
  intro w h
  have stays : Turns (At cfg owners cid) (fun _ => False) (bootPod cfg env spec) w := by
    refine bootPod_turns h (fun podSpec mounts r ips t hspec _ ht => ?_) (fun _ _ _ _ _ => False.elim) fun _ _ => False.elim
    unfold bootRuntime
    rw [hcontainer]
    exact .of_preserves (bootContainerd_at hspec hcontainer) ht
  rcases stays with stays | turns
  · exact wp_bind.mpr (stays.mono (fun _ => id) (fun _ _ ht => wp_pure.mpr ht) fun _ _ => id)
  · exact turns.final.elim

/-- A MicroVM boot takes at most the next CID, which is then its own. -/
theorem vmBoot_turns (env : BootEnv api) (hvm : spec.runtime = .cloudHypervisor) (fresh : owners cid = none)
    (h : At cfg owners cid w) :
    ∃ b : VmBoot api, b.spec = spec ∧ b.env = env ∧
      Turns (At cfg owners cid) (At cfg (Function.update owners cid (some b)) (cid + 1))
        (runOp cfg (.boot spec env)) w := by
  -- The pair is the allocator's, which nothing touches before the reservation; without one the boot ends there.
  obtain ⟨b, hb, henv, hpair⟩ : ∃ b : VmBoot api, b.spec = spec ∧ b.env = env ∧ ∀ (r : Reservation) ips,
      w.ips.allocateP2pPair spec.effectiveId = .ok ((r.gwIp, r.wlIp), ips) → r.wlIp = b.guestIp ∧ r.gwIp = b.gatewayIp := by
    cases w.ips.allocateP2pPair spec.effectiveId with
    | error e => exact ⟨⟨spec, env, 0, 0⟩, rfl, rfl, fun r ips hpair => by cases hpair⟩
    | ok pair => exact ⟨⟨spec, env, pair.1.2, pair.1.1⟩, rfl, rfl, fun r ips hpair => by cases hpair; exact ⟨rfl, rfl⟩⟩
  refine ⟨b, hb, henv,
    .bind (bootPod_turns h (fun podSpec mounts r ips t hspec hok ht => ?_) (fun _ _ _ _ => recordPod_at) fun _ => ?_)
    (fun _ _ ht => .of_preserves .pure ht) fun _ => .pure⟩
  · obtain ⟨hguest, hgateway⟩ := hpair r ips hok
    unfold bootRuntime
    rw [hvm, hguest, hgateway]
    subst hb henv
    exact bootMicrovm_turns hspec hvm fresh ht
  · exact cancelReservation_frame at_networkFrame.address

end Boot

/-! ### Runs -/

/-- The owners are of CIDs that were given. -/
def Given (owners : UInt32 → Option (VmBoot api)) (w : World api) : Prop :=
  ∀ cid b, owners cid = some b → cid.toNat < w.nextCid.toNat

theorem Given.fresh (given : Given owners w) : owners w.nextCid = none :=
  Option.eq_none_iff_forall_ne_some.mpr fun b hb => (given _ b hb).false

/-- The operation of the run that was given the CID is this boot: the counter stood there before it, and has moved on after
    it. -/
def TookCid (cfg : ManagerConfig api) (w : World api) (ops : List (ManagerOp api)) (cid : UInt32) (spec : WorkloadSpec)
    (env : BootEnv api) : Prop :=
  ∃ before after, ops = before ++ .boot spec env :: after ∧ (before.foldl (turn (runOp cfg)) w).nextCid = cid ∧
    ((before ++ [.boot spec env]).foldl (turn (runOp cfg)) w).nextCid = cid + 1

theorem TookCid.append_left {op : ManagerOp api} {ops : List (ManagerOp api)} {spec : WorkloadSpec} {env : BootEnv api}
    (h : TookCid cfg (turn (runOp cfg) w op) ops cid spec env) : TookCid cfg w (op :: ops) cid spec env := by
  obtain ⟨before, after, rfl, stood, moved⟩ := h
  exact ⟨op :: before, after, rfl, stood, moved⟩

theorem TookCid.append_right {op : ManagerOp api} {spec : WorkloadSpec} {env : BootEnv api}
    (h : TookCid cfg w [op] cid spec env) (ops : List (ManagerOp api)) : TookCid cfg w (op :: ops) cid spec env := by
  obtain ⟨before, after, split, stood, moved⟩ := h
  refine ⟨before, after ++ ops, ?_, stood, moved⟩
  rw [← List.cons_append, ← List.append_assoc, ← split]
  rfl

/-- What the operations do to the owners: those of before keep their CIDs, the new ones are boots of these operations that
    were given the CID, and everything on the way is of an owner. -/
structure Hands (cfg : ManagerConfig api) (owners owners' : UInt32 → Option (VmBoot api)) (w : World api)
    (ops : List (ManagerOp api)) :
    Prop where
  kept : ∀ cid b, owners cid = some b → owners' cid = some b
  new : ∀ cid b, owners' cid = some b → owners cid = some b ∨ TookCid cfg w ops cid b.spec b.env
  passed : ∀ t ∈ (runAll (runOp cfg) ops w).passed, Owned cfg owners' t
  final : Owned cfg owners' (ops.foldl (turn (runOp cfg)) w)
  given : Given owners' (ops.foldl (turn (runOp cfg)) w)
  next : (ops.foldl (turn (runOp cfg)) w).nextCid.toNat ≤ w.nextCid.toNat + ops.countP ManagerOp.bootsVm

theorem Hands.cons {owners'' : UInt32 → Option (VmBoot api)} {op : ManagerOp api} {ops : List (ManagerOp api)}
    (first : Hands cfg owners owners' w [op]) (rest : Hands cfg owners' owners'' (turn (runOp cfg) w op) ops) :
    Hands cfg owners owners'' w (op :: ops) where
  kept cid b hb := rest.kept cid b (first.kept cid b hb)
  new cid b hb := by
    rcases rest.new cid b hb with hb | hb
    · exact (first.new cid b hb).imp_right fun took => took.append_right ops
    · exact Or.inr hb.append_left
  passed t ht := by
    rcases List.mem_append.mp ht with ht | ht
    · exact (first.passed t (List.mem_append_left _ ht)).extend rest.kept
    · exact rest.passed t ht
  final := rest.final
  given := rest.given
  next := by
    have counts : (op :: ops).countP ManagerOp.bootsVm = ops.countP ManagerOp.bootsVm + [op].countP ManagerOp.bootsVm := by
      simp [List.countP_cons]
    have one := first.next
    have others := rest.next
    rw [List.foldl_cons, List.foldl_nil] at one
    rw [List.foldl_cons, counts]
    omega

/-- An operation that takes no CID. -/
theorem Hands.of_stays (given : Given owners w) {op : ManagerOp api}
    (passed : ∀ t ∈ (runOp cfg op w).passed, At cfg owners w.nextCid t)
    (final : At cfg owners w.nextCid (turn (runOp cfg) w op)) : Hands cfg owners owners w [op] where
  kept _ _ := id
  new _ _ := Or.inl
  passed t ht := by
    rw [show (runAll (runOp cfg) [op] w).passed = (runOp cfg op w).passed ++ [] from rfl, List.append_nil] at ht
    exact (passed t ht).2
  final := final.2
  given := by
    rw [List.foldl_cons, List.foldl_nil, Given, final.1]
    exact given
  next := by
    rw [List.foldl_cons, List.foldl_nil, final.1]
    exact Nat.le_add_right _ _

theorem Hands.of_preserves (h : Owned cfg owners w) (given : Given owners w) {op : ManagerOp api}
    (keeps : Preserves (At cfg owners w.nextCid) (runOp cfg op)) : Hands cfg owners owners w [op] :=
  .of_stays given (keeps w ⟨rfl, h⟩).passed (keeps w ⟨rfl, h⟩).final

/-- An operation that takes the next CID for the boot `b`. -/
theorem Hands.of_takes (given : Given owners w) (hroom : w.nextCid.toNat + 1 < 2 ^ 32) {b : VmBoot api}
    (hvm : b.spec.runtime = .cloudHypervisor)
    (passed : ∀ t ∈ (runOp cfg (.boot b.spec b.env) w).passed, At cfg owners w.nextCid t ∨
      At cfg (Function.update owners w.nextCid (some b)) (w.nextCid + 1) t)
    (final : At cfg (Function.update owners w.nextCid (some b)) (w.nextCid + 1) (turn (runOp cfg) w (.boot b.spec b.env))) :
    Hands cfg owners (Function.update owners w.nextCid (some b)) w [.boot b.spec b.env] := by
  have kept := update_of_fresh (b := b) given.fresh
  have next : (w.nextCid + 1).toNat = w.nextCid.toNat + 1 := by
    rw [UInt32.toNat_add]
    exact Nat.mod_eq_of_lt hroom
  refine ⟨kept, fun cid b' hb' => ?_, fun t ht => ?_, final.2, ?_, ?_⟩
  · by_cases hcid : cid = w.nextCid
    · subst hcid
      rw [Function.update_self] at hb'
      cases hb'
      exact Or.inr ⟨[], [], rfl, rfl, final.1⟩
    · rw [Function.update_of_ne hcid] at hb'
      exact Or.inl hb'
  · rw [show (runAll (runOp cfg) [.boot b.spec b.env] w).passed = (runOp cfg (.boot b.spec b.env) w).passed ++ [] from rfl,
      List.append_nil] at ht
    rcases passed t ht with ht | ht
    · exact ht.2.extend kept
    · exact ht.2
  · intro cid b' hb'
    rw [List.foldl_cons, List.foldl_nil, final.1, next]
    by_cases hcid : cid = w.nextCid
    · rw [hcid]
      exact Nat.lt_succ_self _
    · rw [Function.update_of_ne hcid] at hb'
      exact Nat.lt_succ_of_lt (given cid b' hb')
  · rw [List.foldl_cons, List.foldl_nil, final.1, next, List.countP_singleton, ManagerOp.bootsVm,
      if_pos (by simpa using hvm)]

theorem runOp_hands (op : ManagerOp api) (h : Owned cfg owners w) (given : Given owners w)
    (hroom : w.nextCid.toNat + op.bootsVm.toNat < 2 ^ 32) : ∃ owners', Hands cfg owners owners' w [op] := by
  cases op with
  | evict podId env => exact ⟨owners, .of_preserves h given evictPod_at⟩
  | boot spec env =>
    cases hruntime : spec.runtime with
    | containerd => exact ⟨owners, .of_preserves h given (containerBoot_at hruntime)⟩
    | cloudHypervisor =>
      obtain ⟨b, rfl, rfl, turns⟩ := vmBoot_turns env hruntime given.fresh ⟨rfl, h⟩
      rcases turns.cases with ⟨passed, final⟩ | ⟨passed, final⟩
      · exact ⟨owners, .of_stays given passed final⟩
      · have room : w.nextCid.toNat + 1 < 2 ^ 32 := by simpa [ManagerOp.bootsVm, hruntime] using hroom
        exact ⟨_, .of_takes given room hruntime passed final⟩

/-- Along a run that does not use up the CIDs there is one owner to each, at every moment. -/
theorem run_hands (ops : List (ManagerOp api)) (h : Owned cfg owners w) (given : Given owners w)
    (hroom : w.nextCid.toNat + ops.countP ManagerOp.bootsVm < 2 ^ 32) : ∃ owners', Hands cfg owners owners' w ops := by
  induction ops generalizing w owners with
  | nil => exact ⟨owners, fun _ _ => id, fun _ _ => Or.inl, by rintro t ⟨⟩, h, given, Nat.le_add_right _ _⟩
  | cons op ops ih =>
    have counts : (op :: ops).countP ManagerOp.bootsVm = ops.countP ManagerOp.bootsVm + [op].countP ManagerOp.bootsVm := by
      simp [List.countP_cons]
    have one : op.bootsVm.toNat = [op].countP ManagerOp.bootsVm := by
      rw [List.countP_singleton]
      cases op.bootsVm <;> rfl
    obtain ⟨owners₁, first⟩ := runOp_hands op h given (by omega)
    have next := first.next
    rw [List.foldl_cons, List.foldl_nil] at next
    obtain ⟨owners₂, rest⟩ := ih first.final first.given (by rw [List.foldl_cons, List.foldl_nil]; omega)
    exact ⟨owners₂, first.cons rest⟩

end

/-! ### What a guest is handed -/

/-- The states of a node that starts with the pool and runs the operations, in order. -/
def moments (cfg : ManagerConfig api) (ips : NodeIpAllocator) (ops : List (ManagerOp api)) : List (World api) :=
  { ips := ips } :: (runAll (runOp cfg) ops { ips := ips }).passed

theorem moments_owned (cfg : ManagerConfig api) (ips : NodeIpAllocator) {ops : List (ManagerOp api)}
    (hvms : ops.countP ManagerOp.bootsVm < 2 ^ 32 - 3) :
    ∃ owners, (∀ cid b, owners cid = some b → TookCid cfg { ips := ips } ops cid b.spec b.env) ∧
      ∀ t ∈ moments cfg ips ops, Owned cfg owners t := by
  have start : Owned cfg (fun _ => none) ({ ips := ips } : World api) := by
    refine ⟨?_, ?_, ?_⟩
    · rintro cid ctx ⟨⟩
    · rintro cid m ⟨⟩
    · rintro i ⟨⟩
  have unowned : Given (fun _ => none) ({ ips := ips } : World api) := by rintro cid b ⟨⟩
  obtain ⟨owners, hands⟩ := run_hands ops start unowned (show 3 + _ < 2 ^ 32 by omega)
  refine ⟨owners, fun cid b hb => ?_, fun t ht => ?_⟩
  · rcases hands.new cid b hb with old | new
    · cases old
    · exact new
  · rcases List.mem_cons.mp ht with rfl | ht
    · exact start.extend hands.kept
    · exact hands.passed t ht

theorem config_read {ca : CaApi api} {codec : Codec} {env : ConnEnv api ca} {server : VsockAttestServer} {cid : UInt32}
    {input : List UInt8} {config : WorkloadConfig}
    (hconfig : .config config ∈ (handleConnection codec env server true { input := input } cid).2.written) :
    ∃ proof, FrameRead codec input proof ∧ Granted env server cid proof config := by
  obtain ⟨dialogue, -⟩ := handleConnection_dialogue codec env server cid input
  generalize (handleConnection codec env server true { input := input } cid).2.written = written at hconfig dialogue
  cases dialogue with
  | silent => cases hconfig
  | challenged => simp [challengeMsg] at hconfig
  | answered => simp [challengeMsg, resultMsg] at hconfig
  | @configured proof pushed _ _ read _ _ granted =>
    obtain rfl : config = pushed := by simpa [challengeMsg, resultMsg] using hconfig
    exact ⟨proof, read, granted⟩

/-- Whenever the connection of a running MicroVM looks for its measurement and for its context while the manager boots and
    evicts, a config goes out only for a proof of what was measured by the boot that was given this MicroVM's CID, and it
    is built from the spec and the address of that boot, or it is the empty one. -/
theorem guest_config_is_of_its_boot {ca : CaApi api} (cfg : ManagerConfig api) (ips : NodeIpAllocator)
    (ops : List (ManagerOp api)) (hvms : ops.countP ManagerOp.bootsVm < 2 ^ 32 - 3) (verifying building now : World api)
    (hverifying : verifying ∈ moments cfg ips ops) (hbuilding : building ∈ moments cfg ips ops)
    (hnow : now ∈ moments cfg ips ops) (i : RuntimeInstance) (hi : i ∈ now.running) (hvm : i.runtime = .cloudHypervisor)
    (codec : Codec) (env : ConnEnv api ca) (builder : WorkloadConfigBuilder) (input : List UInt8)
    (config : WorkloadConfig)
    (hconfig : .config config ∈
      (handleConnection codec env ⟨verifying.bootMeasurements, building.workloadContexts, builder⟩ true
      { input := input } i.handle).2.written) :
    ∃ spec bootEnv podSpec m proof guest, TookCid cfg { ips := ips } ops i.handle spec bootEnv ∧
      spec.podSpec = some podSpec ∧
      i = bootInstance spec podSpec i.ip i.handle ∧
      bootEnv.measure cfg.kernelPath (ociToErofs spec.image cfg.imageCachePath) cfg.guestInitPath = .ok m ∧
      FrameRead codec input proof ∧ Accepted env.nonce (some m) proof ∧
      ((∃ gatewayIp, build ca builder env.building guest (workloadContext spec i.ip gatewayIp) = .ok config) ∨
        building.workloadContexts.get i.handle = none ∧ buildFallback builder guest = .ok config) := by
  obtain ⟨owners, boots, owned⟩ := moments_owned cfg ips hvms
  obtain ⟨proof, read, guest, ruled, built⟩ := config_read hconfig
  obtain ⟨b, hb, podSpec, hspec, hstarted⟩ := (owned now hnow).running i hi hvm
  have hip : i.ip = b.guestIp := congrArg RuntimeInstance.ip hstarted
  have accepted := verify_production_ok_iff.mp ⟨guest, ruled⟩
  obtain ⟨m, hm, -⟩ := accepted.measured
  obtain ⟨b', hb', hmeasured⟩ := (owned verifying hverifying).measurement _ m hm
  obtain rfl : b = b' := Option.some.inj (hb.symm.trans hb')
  refine ⟨b.spec, b.env, podSpec, m, proof, guest, boots _ b hb, hspec, hip ▸ hstarted, hmeasured, read, ?_, ?_⟩
  · rw [← hm]
    exact accepted
  · unfold workloadConfig at built
    cases hctx : building.workloadContexts.get i.handle with
    | none =>
      rw [hctx] at built
      exact Or.inr ⟨rfl, built⟩
    | some ctx =>
      rw [hctx] at built
      obtain ⟨b', hb', rfl⟩ := (owned building hbuilding).context _ ctx hctx
      obtain rfl : b = b' := Option.some.inj (hb.symm.trans hb')
      exact Or.inl ⟨b.gatewayIp, hip ▸ built⟩

/-- A guest whose every payload is a quote of zeros. -/
def zeroCodec : Codec where
  encode
    | .proof _ => .error ""
    | _ => .ok []
  decodeProof _ := .ok ⟨QUOTE_TYPE_HOST_MEASURED, List.replicate 32 0, .replicate 32 0⟩
  decode_encode h := by cases h

/-- A CA that issues nothing. -/
def silentCa : CaApi textApi where
  KeyPair := Unit
  serializeDer _ := []
  buildCsr _ _ := .error ""
  signSvidDelegated _ _ _ _ := .error ""

def sampleConnection : ConnEnv textApi silentCa where
  nonce := .replicate 32 0
  building := ⟨0, { keys := ∅ }, { keys := ∅ }, .ok ()⟩

/-- The MicroVM of a node that has booted it asks for its config. -/
theorem sample_guest_config :
    let ops := [ManagerOp.boot (sampleSpec "vm" .cloudHypervisor) sampleBoot]
    let now := (runAll (runOp sampleConfig) ops { ips := samplePool }).final
    let i : RuntimeInstance := ⟨"vm", "vm", "", "", .cloudHypervisor, 3, 0x0A000002⟩
    let config : WorkloadConfig :=
      { dummyIpRoutes := [], trustDomain := "", workloadBinaryPath := "/usr/bin/", guestIp := #v[10, 0, 0, 2]
        netmask := #v[255, 255, 255, 252], gateway := #v[10, 0, 0, 1] }
    let builder : WorkloadConfigBuilder := { trustDomain := "", svidTtlSecs := 60 }
    i ∈ now.running ∧
      .config config ∈ (handleConnection zeroCodec sampleConnection ⟨now.bootMeasurements, now.workloadContexts,
        builder⟩ true
        { input := [0, 0, 0, 0] } 3).2.written ∧
      ∃ spec bootEnv podSpec m proof guest, TookCid sampleConfig { ips := samplePool } ops i.handle spec bootEnv ∧
        spec.podSpec = some podSpec ∧ i = bootInstance spec podSpec i.ip i.handle ∧
        bootEnv.measure sampleConfig.kernelPath (ociToErofs spec.image sampleConfig.imageCachePath)
          sampleConfig.guestInitPath = .ok m ∧
        FrameRead zeroCodec [0, 0, 0, 0] proof ∧ Accepted sampleConnection.nonce (some m) proof ∧
        ((∃ gatewayIp, build silentCa builder sampleConnection.building guest
            (workloadContext spec i.ip gatewayIp) = .ok config) ∨
          now.workloadContexts.get i.handle = none ∧ buildFallback builder guest = .ok config) := by
  intro ops now i config builder
  have running : i ∈ now.running := by decide +kernel
  have moment : now ∈ moments sampleConfig samplePool ops := List.mem_of_getLast? rfl
  have sent : .config config ∈ (handleConnection zeroCodec sampleConnection
      ⟨now.bootMeasurements, now.workloadContexts, builder⟩ true { input := [0, 0, 0, 0] } 3).2.written :=
    List.mem_of_getLast? rfl
  exact ⟨running, sent, guest_config_is_of_its_boot sampleConfig samplePool ops (by decide) now now now moment moment
    moment i running rfl
    zeroCodec sampleConnection _ _ config sent⟩

end FleetosAgent.Workloads
