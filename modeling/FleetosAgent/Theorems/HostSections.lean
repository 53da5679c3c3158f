import FleetosAgent.Theorems.FixedPoint
import FleetosAgent.Workloads.Hosting

/-! # Boots and evictions as sections

`boot_pod` and `evict_pod` change the tables of a host only in the sections that `HostEvent` lists. So every state that a
reconcile call passes through is one that a run of sections of its operations reaches, and what the sections keep, with
anything in between, the call keeps. -/

namespace FleetosAgent.Workloads
open Lib Identity Traced

section
variable {api : SpiffeApi} {cfg : ManagerConfig api} {host : HostConfig api} {w : World api} {refresh : RefreshState api}
  {Q : HostState api → Prop}

/-- The tables of the host have `Q`. -/
def OfHost (Q : HostState api → Prop) (refresh : RefreshState api) (t : World api) : Prop := Q (t.host refresh)

theorem OfHost.networkFrame : NetworkFrame (OfHost Q refresh) := fun _ _ _ _ _ _ _ h => h

/-- The sections of a boot of `spec`. -/
inductive BootSection (spec : WorkloadSpec) (env : BootEnv api) : HostEvent api → Prop
  | keyAnswered (podSpec : PodSpec) (hspec : spec.podSpec = some podSpec) :
    BootSection spec env (.keyAnswered spec.workloadId podSpec env.delegatedKey)
  | registered (podSpec : PodSpec) (hspec : spec.podSpec = some podSpec) (hruntime : spec.runtime = .cloudHypervisor)
    (cid guestIp gatewayIp : UInt32) : BootSection spec env (.registered cid (workloadContext spec guestIp gatewayIp))
  | unregistered (cid : UInt32) : BootSection spec env (.unregistered cid)
  | recorded (pod : Pod) (podSpec : PodSpec) (hspec : spec.podSpec = some podSpec) (booted : BootedFrom spec pod)
    (tenant : pod.tenantId = podSpec.tenantId) : BootSection spec env (.recorded pod)

/-- The sections of an eviction of `podId`. -/
inductive EvictSection (podId : String) : HostEvent api → Prop
  | evicting : EvictSection podId (.evicting podId)
  | unregistered (cid : UInt32) : EvictSection podId (.unregistered cid)
  | removed : EvictSection podId (.removed podId)

/-- The sections of this kind keep `Q`. -/
def Kept (host : HostConfig api) (S : HostEvent api → Prop) (Q : HostState api → Prop) : Prop :=
  ∀ s event, S event → Q s → Q (hostStep host s event)

/-- The manager and the host are configured alike. -/
structure SameDelegation (cfg : ManagerConfig api) (host : HostConfig api) : Prop where
  trustDomain : host.trustDomain = cfg.trustDomain
  delegation : cfg.delegation = some host.delegation

section Boot
variable {env : BootEnv api} {spec : WorkloadSpec} {podSpec : PodSpec} {mounts : List PreparedMount}

theorem requestDelegatedKey_host (same : SameDelegation cfg host) (kept : Kept host (BootSection spec env) Q)
    (hspec : spec.podSpec = some podSpec) :
    Preserves (OfHost Q refresh) (requestDelegatedKey cfg env podSpec spec.workloadId) := by
  intro w hw
  have answered := kept _ _ (.keyAnswered podSpec hspec) hw
  unfold requestDelegatedKey
  rw [same.delegation]
  dsimp only
  rw [hostStep, requestAndInstall, HostConfig.bootId, same.trustDomain] at answered
  split
  · exact wp_pure.mpr hw
  · next key delegationId hok =>
    rw [hok] at answered
    exact wp_modify.mpr ⟨answered, answered⟩

theorem registerAttestation_host (kept : Kept host (BootSection spec env) Q) (hspec : spec.podSpec = some podSpec)
    (hruntime : spec.runtime = .cloudHypervisor) {cid ip gw : UInt32} {m : BootMeasurement} :
    Preserves (OfHost Q refresh) (registerAttestation cid m (workloadContext spec ip gw)) := by
  intro w hw
  have registered := kept _ _ (.registered podSpec hspec hruntime cid ip gw) hw
  exact wp_registerAttestation hw registered registered

theorem bootMicrovmInner_host (kept : Kept host (BootSection spec env) Q) (hspec : spec.podSpec = some podSpec)
    (hruntime : spec.runtime = .cloudHypervisor) {cid ip gw : UInt32} {interface : String} :
    Preserves (OfHost Q refresh) (bootMicrovmInner cfg env spec mounts cid interface ip gw) := by
  refine .bind .ofExcept fun measurement => .bind (.when (registerAttestation_host kept hspec hruntime)) fun _ => ?_
  refine .bind (fun t ht => wp_vmBoot hspec hruntime (fun _ => ht) ht ht) fun handle => ?_
  exact .bind (.modify fun _ ht => ht) fun _ => .pure

theorem bootMicrovm_host (kept : Kept host (BootSection spec env) Q) (hspec : spec.podSpec = some podSpec)
    (hruntime : spec.runtime = .cloudHypervisor) (ip gw : UInt32) :
    Preserves (OfHost Q refresh) (bootMicrovm cfg env spec mounts ip gw) := by
  refine .bind .ofExcept fun _ => .bind .get fun w => .bind (.modify fun _ ht => ht) fun _ => ?_
  split
  · exact .fail
  · refine .bind (fun t ht => wp_armGuard ht ht fun _ => ht) fun _ =>
      .bind (bootMicrovmInner_host kept hspec hruntime).attempt ?_
    intro result
    cases result with
    | ok handle => exact .pure
    | error e =>
      have forgotten : Preserves (OfHost Q refresh) (unregisterAttestation w.nextCid) := fun t ht =>
        wp_unregisterAttestation ht (kept _ _ (.unregistered w.nextCid) ht) (kept _ _ (.unregistered w.nextCid) ht)
      exact .bind (.when forgotten) fun _ => .bind (fun t ht => wp_disarmGuard ht ht fun _ _ => ht) fun _ => .fail

theorem bootRuntime_host (kept : Kept host (BootSection spec env) Q) (hspec : spec.podSpec = some podSpec)
    {reservation : Reservation} : Preserves (OfHost Q refresh) (bootRuntime cfg env spec mounts reservation) := by
  unfold bootRuntime
  split
  · next hruntime =>
    exact fun w hw => wp_bootContainerd hspec hruntime (fun _ => hw) (fun _ _ => hw) (fun _ _ => hw) fun _ _ => hw
  · next hruntime => exact bootMicrovm_host kept hspec hruntime _ _

theorem recordPod_host (kept : Kept host (BootSection spec env) Q) (hspec : spec.podSpec = some podSpec)
    {fp : IdentityFingerprint} {reservation : Reservation} {handle : UInt32} :
    Preserves (OfHost Q refresh) (recordPod cfg env spec podSpec spec.effectiveId fp reservation handle) := by
  generalize hpod : Pod.booted spec.effectiveId spec.workloadId podSpec.tenantId spec.role spec.runtime fp handle = pod
  have booted : BootedFrom spec pod := hpod ▸ ⟨rfl, rfl, Pod.booted_live⟩
  have tenant : pod.tenantId = podSpec.tenantId := hpod ▸ rfl
  have filed : Preserves (OfHost Q refresh) (do
      modify fun w => { w with pods := w.pods.addPod pod }
      when cfg.probes (modify fun w =>
        { w with probes := w.probes.registerPod spec.effectiveId (.new podSpec.probes env.now) }) :
        Manager api Unit) :=
    .bind (.modify fun _ ht => kept _ _ (.recorded pod podSpec hspec booted tenant) ht) fun _ =>
      .when (.modify fun _ ht => ht)
  unfold recordPod
  rw [hpod]
  split
  · exact .bind (.modify fun _ ht => ht) fun _ => filed
  · exact filed

/-- What the sections of a boot keep, and the request for its key, the boot keeps in every state it passes. -/
theorem bootPod_of_key (kept : Kept host (BootSection spec env) Q) (key : ∀ podSpec, spec.podSpec = some podSpec →
    Preserves (OfHost Q refresh) (requestDelegatedKey cfg env podSpec spec.workloadId)) :
    Preserves (OfHost Q refresh) (bootPod cfg env spec) := by
  refine preserves_orFail_bind fun podSpec hspec => ?_
  rw [effectiveId_eq hspec]
  refine .bind .ofExcept fun mounts => .bind .ofExcept fun fp => .bind (key podSpec hspec) fun _ => ?_
  refine .bind (reservePair_frame OfHost.networkFrame) fun reservation => .bind (bootRuntime_host kept hspec).attempt ?_
  intro result
  cases result with
  | ok handle => exact .bind (recordPod_host kept hspec) fun _ => .pure
  | error e => exact .bind (cancelReservation_frame OfHost.networkFrame.address) fun _ => .fail

theorem bootPod_host (same : SameDelegation cfg host) (kept : Kept host (BootSection spec env) Q) :
    Preserves (OfHost Q refresh) (bootPod cfg env spec) :=
  bootPod_of_key kept fun _ hspec => requestDelegatedKey_host same kept hspec

end Boot

/-! ### Evictions -/

section Evict
variable {env : EvictEnv} {podId : String}

theorem stopRuntime_host (kept : Kept host (EvictSection podId) Q) (runtime : RuntimeKind) (handle : UInt32) :
    Preserves (OfHost Q refresh) (stopRuntime cfg env podId runtime handle) := by
  unfold stopRuntime stopContainerd stopMicrovm stopVm
  cases runtime with
  | containerd =>
    cases env.stop with
    | some e => exact .fail
    | none => exact .modify fun _ ht => ht
  | cloudHypervisor =>
    have forgotten : Preserves (OfHost Q refresh) (unregisterAttestation handle) := fun t ht =>
      wp_unregisterAttestation ht (kept _ _ (.unregistered handle) ht) (kept _ _ (.unregistered handle) ht)
    refine .bind .get fun w => .bind (.modify fun _ ht => ht) fun _ => .bind (.when (.bind ?_ fun _ => ?_)) fun _ =>
      .when forgotten
    · cases env.stop with
      | some e => exact .fail
      | none => exact .modify fun _ ht => ht
    · exact .when (.bind (fun t ht => wp_disarmGuard ht ht fun _ _ => ht) fun _ => .pure)

theorem beginEvict_host (kept : Kept host (EvictSection podId) Q) :
    Preserves (OfHost Q refresh) (beginEvict cfg podId) := by
  refine .bind (.modify fun _ ht => kept _ _ .evicting ht) fun _ => ?_
  exact .bind (.when (.modify fun _ ht => ht)) fun _ => .when (.modify fun _ ht => ht)

/-- What the sections of an eviction keep, the eviction keeps in every state it passes. -/
theorem evictPod_host (kept : Kept host (EvictSection podId) Q) :
    Preserves (OfHost Q refresh) (evictPod cfg env podId) := by
  refine .bind .get fun w => preserves_orFail_bind fun pod _ => .bind (beginEvict_host kept) fun _ => ?_
  refine .bind (stopRuntime_host kept _ _) fun _ => .bind (releaseSource_frame OfHost.networkFrame.address) fun _ => ?_
  exact .bind .ofExcept fun _ => .modify fun _ ht => kept _ _ .removed ht

end Evict

/-! ### Reconcile calls -/

/-- The sections of an operation. -/
def OpSection : ManagerOp api → HostEvent api → Prop
  | .boot spec env => BootSection spec env
  | .evict podId _ => EvictSection podId

theorem runOp_host (same : SameDelegation cfg host) {op : ManagerOp api} (kept : Kept host (OpSection op) Q) :
    Preserves (OfHost Q refresh) (runOp cfg op) := by
  cases op with
  | evict podId env => exact evictPod_host kept
  | boot spec env => exact .bind (bootPod_host same kept) fun _ => .pure

theorem runAll_host (same : SameDelegation cfg host) {ops : List (ManagerOp api)}
    (kept : ∀ op ∈ ops, Kept host (OpSection op) Q) (hw : OfHost Q refresh w) :
    (∀ t ∈ (runAll (runOp cfg) ops w).passed, OfHost Q refresh t) ∧ OfHost Q refresh (runAll (runOp cfg) ops w).final := by
  have run := Preserves.runAll (fun op hop => runOp_host same (kept op hop)) w hw
  exact ⟨run.passed, run.final⟩

theorem hostAfter_append {events more : List (HostEvent api)} :
    hostAfter host (events ++ more) = more.foldl (hostStep host) (hostAfter host events) := List.foldl_append

/-- A run of such sections leads from `s` to `s'`. -/
def Follows (host : HostConfig api) (S : HostEvent api → Prop) (s s' : HostState api) : Prop :=
  ∃ events : List (HostEvent api), (∀ event ∈ events, S event) ∧ events.foldl (hostStep host) s = s'

theorem Follows.refl {S : HostEvent api → Prop} {s : HostState api} : Follows host S s s := ⟨[], by simp, rfl⟩

theorem Follows.concat {S : HostEvent api → Prop} {s s' : HostState api} {event : HostEvent api} (h : Follows host S s s')
    (hS : S event) : Follows host S s (hostStep host s' event) := by
  obtain ⟨events, all, rfl⟩ := h
  refine ⟨events ++ [event], ?_, List.foldl_concat ..⟩
  simpa [or_imp, forall_and] using ⟨all, hS⟩

/-- Every state that a reconcile call passes through, and its last one, is reached by a run of sections of its operations.
    -/
theorem reconcile_follows (same : SameDelegation cfg host) (call : ReconcileCall api) (t : World api)
    (ht : t ∈ (reconcile cfg call w).passed ∨ t = (reconcile cfg call w).final) :
    Follows host (fun event => ∃ op ∈ reconcileOps w call, OpSection op event) (w.host refresh) (t.host refresh) := by
  have kept : ∀ op ∈ reconcileOps w call, Kept host (OpSection op)
      (Follows host (fun event => ∃ op ∈ reconcileOps w call, OpSection op event) (w.host refresh)) :=
    fun op hop s event hevent hs => hs.concat ⟨op, hop, hevent⟩
  obtain ⟨passed, final⟩ := runAll_host same kept (Follows.refl (s := w.host refresh))
  rcases ht with ht | rfl
  · exact passed t ht
  · exact final

end

end FleetosAgent.Workloads
