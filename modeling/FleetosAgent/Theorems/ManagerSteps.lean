import FleetosAgent.Workloads.Manager

/-! # Steps of the workload manager

What each part of `boot_pod` and `evict_pod` can do to the node. The books are the tables the manager keeps itself; the
runtimes' own tables change only in `bootRuntime` and `stopRuntime`, which leave the books alone. -/

namespace FleetosAgent.Workloads
open Lib Identity Traced

/-- The tables that the manager keeps about its pods. -/
structure Books (api : SpiffeApi) where
  pods : PodManager
  ips : NodeIpAllocator
  podSourceIps : FinMap String UInt32
  probes : ProbeManager
  delegatedKeys : DelegatedKeyManager api
  srcIdentity : FinMap UInt32 IdentityFingerprint
  podNetCounters : FinMap UInt32 PodNetCounters
  events : List (String × PodEventType)
  grants : FinMap UInt32 (String × String)

def World.books {api : SpiffeApi} (w : World api) : Books api :=
  ⟨w.pods, w.ips, w.podSourceIps, w.probes, w.delegatedKeys, w.srcIdentity, w.podNetCounters, w.events, w.grants⟩

section
variable {api : SpiffeApi} {cfg : ManagerConfig api} {w : World api} {I : World api → Prop} {Q : Unit → World api → Prop}
  {E : AgentError → World api → Prop} {α : Type}

@[simp] theorem wp_orFail_some {Q : α → World api → Prop} {a : α} {e : AgentError} :
    wp I (orFail (some a) e) Q E w ↔ Q a w := wp_pure

@[simp] theorem wp_orFail_none {Q : α → World api → Prop} {e : AgentError} :
    wp I (orFail (none : Option α) e) Q E w ↔ E e w := wp_fail

theorem preserves_orFail_bind {β : Type} {P : World api → Prop} {x : Option α} {e : AgentError} {f : α → Manager api β}
    (h : ∀ a, x = some a → Preserves P (f a)) : Preserves P (orFail x e >>= f) := by
  intro w hw
  cases x with
  | none => exact wp_bind.mpr (wp_orFail_none.mpr hw)
  | some a => exact wp_bind.mpr (wp_orFail_some.mpr (h a rfl w hw))

/-! ### Booting on a runtime -/

section Boot
variable {env : BootEnv api} {spec : WorkloadSpec} {podSpec : PodSpec} {mounts : List PreparedMount}
  {reservation : Reservation}

def bootInstance (spec : WorkloadSpec) (podSpec : PodSpec) (ip handle : UInt32) : RuntimeInstance :=
  ⟨podSpec.podId.getD spec.workloadId, spec.workloadId, podSpec.tenantId, spec.role, spec.runtime, handle, ip⟩

/-- The books are as in `w`, and at most the instance of this boot has been started. -/
def AtMostStarted (w : World api) (spec : WorkloadSpec) (podSpec : PodSpec) (ip : UInt32) (t : World api) : Prop :=
  t.books = w.books ∧ (t.running = w.running ∨ ∃ handle, t.running = w.running ++ [bootInstance spec podSpec ip handle])

def Started (w : World api) (spec : WorkloadSpec) (podSpec : PodSpec) (ip handle : UInt32) (t : World api) : Prop :=
  t.books = w.books ∧ t.running = w.running ++ [bootInstance spec podSpec ip handle]

def NotStarted (w t : World api) : Prop := t.books = w.books ∧ t.running = w.running

theorem NotStarted.atMost {t : World api} {ip : UInt32} (h : NotStarted w t) : AtMostStarted w spec podSpec ip t :=
  ⟨h.1, Or.inl h.2⟩

theorem Started.atMost {t : World api} {ip handle : UInt32} (h : Started w spec podSpec ip handle t) :
    AtMostStarted w spec podSpec ip t :=
  ⟨h.1, Or.inr ⟨handle, h.2⟩⟩

theorem wp_destroyNetns {fault : Option AgentError} {podId : String} (hI : ∀ n, I { w with netns := n })
    (hQ : ∀ n, Q () { w with netns := n }) : wp I (destroyNetns fault podId) Q E w := by
  rw [destroyNetns, wp_bind, wp_get]
  split
  · exact wp_modify.mpr ⟨hI _, hQ _⟩
  · exact wp_pure.mpr (hQ w.netns)

/-- A container boot only makes and unmakes network namespaces until it starts the instance and returns. -/
theorem wp_bootContainerd {Q : UInt32 → World api → Prop} (hspec : spec.podSpec = some podSpec)
    (hruntime : spec.runtime = .containerd) {ip : UInt32} (hI : ∀ n, I { w with netns := n })
    (hE : ∀ e n, E e { w with netns := n })
    (hI' : ∀ n pid, I { w with netns := n, running := w.running ++ [bootInstance spec podSpec ip pid] })
    (hQ : ∀ n pid, Q pid { w with netns := n, running := w.running ++ [bootInstance spec podSpec ip pid] }) :
    wp I (bootContainerd env spec ip) Q E w := by
  simp only [bootInstance, hruntime] at hI' hQ
  rw [bootContainerd, hspec, wp_bind, wp_orFail_some]
  cases env.netnsAdd with
  | some e => exact wp_fail.mpr (hE e w.netns)
  | none =>
    refine wp_bind.mpr (wp_modify.mpr ⟨hI _, ?_⟩)
    cases env.configureNetns with
    | some e => exact wp_bind.mpr (wp_destroyNetns hI fun n => wp_fail.mpr (hE e n))
    | none =>
      cases env.containerdBoot with
      | error e => exact wp_bind.mpr (wp_destroyNetns hI fun n => wp_fail.mpr (hE e n))
      | ok pid => exact wp_bind.mpr (wp_modify.mpr ⟨hI' _ pid, wp_pure.mpr (hQ _ pid)⟩)

theorem bootContainerd_steps (hspec : spec.podSpec = some podSpec) (hruntime : spec.runtime = .containerd) (ip : UInt32) :
    wp (AtMostStarted w spec podSpec ip) (bootContainerd env spec ip) (fun handle => Started w spec podSpec ip handle)
      (fun _ => NotStarted w) w := by
  have started : ∀ n pid, Started w spec podSpec ip pid
      { w with netns := n, running := w.running ++ [bootInstance spec podSpec ip pid] } := fun n pid => ⟨rfl, rfl⟩
  exact wp_bootContainerd hspec hruntime (fun n => NotStarted.atMost ⟨rfl, rfl⟩) (fun e n => ⟨rfl, rfl⟩)
    (fun n pid => (started n pid).atMost) started

/-- `MicroVmAdapter::boot` starts the instance, or fails and changes nothing. -/
theorem wp_vmBoot {Q : UInt32 → World api → Prop} (hspec : spec.podSpec = some podSpec)
    (hruntime : spec.runtime = .cloudHypervisor) {cid ip gw : UInt32} {rootfs tap : String} (hE : ∀ e, E e w)
    (hI : I { w with running := w.running ++ [bootInstance spec podSpec ip cid] })
    (hQ : Q cid { w with running := w.running ++ [bootInstance spec podSpec ip cid] }) :
    wp I (MicroVmAdapter.boot env spec cid mounts rootfs tap ip gw) Q E w := by
  rw [bootInstance, hruntime] at hI hQ
  rw [MicroVmAdapter.boot, hspec, wp_bind]
  refine wp_ofExcept (fun _ _ => ?_) fun e _ => hE e
  rw [wp_bind, wp_orFail_some]
  split
  · exact wp_fail.mpr (hE _)
  · exact wp_fail.mpr (hE _)
  · exact wp_bind.mpr (wp_modify.mpr ⟨hI, wp_pure.mpr hQ⟩)

theorem wp_armGuard {fault : Option AgentError} {interface : String} (hI : I { w with armed := insert interface w.armed })
    (hQ : Q () { w with armed := insert interface w.armed }) (hE : ∀ e, E e w) :
    wp I (armGuard fault interface) Q E w := by
  cases fault with
  | some e => exact wp_fail.mpr (hE e)
  | none => exact wp_modify.mpr ⟨hI, hQ⟩

theorem wp_disarmGuard {Q : Except AgentError Unit → World api → Prop} {fault : Option AgentError} {interface : String}
    (hI : I { w with armed := w.armed.erase interface }) (hok : Q (.ok ()) { w with armed := w.armed.erase interface })
    (herr : ∀ e, fault = some e → Q (.error e) w) : wp I (attempt (disarmGuard fault interface)) Q E w := by
  rw [wp_attempt]
  cases fault with
  | some e => exact wp_fail.mpr (herr e rfl)
  | none => exact wp_modify.mpr ⟨hI, hok⟩

theorem wp_registerAttestation {cid : UInt32} {m : BootMeasurement} {c : WorkloadContext}
    (hI : I { w with bootMeasurements := w.bootMeasurements.insert cid m })
    (hI' : I { w with
      bootMeasurements := w.bootMeasurements.insert cid m, workloadContexts := w.workloadContexts.insert cid c })
    (hQ : Q () { w with
      bootMeasurements := w.bootMeasurements.insert cid m, workloadContexts := w.workloadContexts.insert cid c }) :
    wp I (registerAttestation cid m c) Q E w :=
  wp_bind.mpr (wp_modify.mpr ⟨hI, wp_modify.mpr ⟨hI', hQ⟩⟩)

theorem wp_unregisterAttestation {cid : UInt32} (hI : I { w with bootMeasurements := w.bootMeasurements.remove cid })
    (hI' : I { w with
      bootMeasurements := w.bootMeasurements.remove cid, workloadContexts := w.workloadContexts.remove cid })
    (hQ : Q () { w with
      bootMeasurements := w.bootMeasurements.remove cid, workloadContexts := w.workloadContexts.remove cid }) :
    wp I (unregisterAttestation cid) Q E w :=
  wp_bind.mpr (wp_modify.mpr ⟨hI, wp_modify.mpr ⟨hI', hQ⟩⟩)

theorem bootMicrovmInner_steps (hspec : spec.podSpec = some podSpec) (hruntime : spec.runtime = .cloudHypervisor)
    {cid ip gw : UInt32} {interface : String} :
    wp (AtMostStarted w spec podSpec ip) (bootMicrovmInner cfg env spec mounts cid interface ip gw)
      (fun handle => Started w spec podSpec ip handle) (fun _ => NotStarted w) w := by
  have quiet : ∀ b c, NotStarted w { w with bootMeasurements := b, workloadContexts := c } := fun b c => ⟨rfl, rfl⟩
  rw [bootMicrovmInner, wp_bind]
  refine wp_ofExcept (fun measurement _ => ?_) fun e _ => quiet w.bootMeasurements w.workloadContexts
  -- Whether the attestation tables were filled or not, the rest runs from a state with the same books.
  have rest : ∀ b c, wp (AtMostStarted w spec podSpec ip) (do
      let handle ← MicroVmAdapter.boot env spec cid mounts (ociToErofs spec.image cfg.imageCachePath).toStringLossy
        interface ip gw
      modify fun w => { w with microvms := w.microvms.insert cid ⟨s!"/run/fleetos/vm/{cid}/api.sock"⟩ }
      return handle) (fun handle => Started w spec podSpec ip handle) (fun _ => NotStarted w)
      { w with bootMeasurements := b, workloadContexts := c } := by
    intro b c
    have started : ∀ v, Started w spec podSpec ip cid
        { w with
          bootMeasurements := b, workloadContexts := c, microvms := v
          running := w.running ++ [bootInstance spec podSpec ip cid] } := fun v => ⟨rfl, rfl⟩
    refine wp_bind.mpr (wp_vmBoot hspec hruntime (fun e => quiet b c) (started w.microvms).atMost ?_)
    exact wp_bind.mpr (wp_modify.mpr ⟨(started _).atMost, wp_pure.mpr (started _)⟩)
  refine wp_bind.mpr (wp_when (fun _ => ?_) fun _ => rest w.bootMeasurements w.workloadContexts)
  exact wp_registerAttestation (quiet _ w.workloadContexts).atMost (quiet _ _).atMost (rest _ _)

theorem bootMicrovm_steps (hspec : spec.podSpec = some podSpec) (hruntime : spec.runtime = .cloudHypervisor)
    (ip gw : UInt32) :
    wp (AtMostStarted w spec podSpec ip) (bootMicrovm cfg env spec mounts ip gw)
      (fun handle => Started w spec podSpec ip handle) (fun _ => NotStarted w) w := by
  rw [bootMicrovm, wp_bind]
  refine wp_ofExcept (fun _ _ => ?_) fun e _ => ⟨rfl, rfl⟩
  rw [wp_bind, wp_get]
  refine wp_bind.mpr (wp_modify.mpr ⟨NotStarted.atMost ⟨rfl, rfl⟩, ?_⟩)
  split
  · exact wp_fail.mpr ⟨rfl, rfl⟩
  · refine wp_bind.mpr (wp_armGuard (NotStarted.atMost ⟨rfl, rfl⟩) ?_ fun e => ⟨rfl, rfl⟩)
    refine wp_bind.mpr (wp_attempt.mpr ?_)
    refine (bootMicrovmInner_steps hspec hruntime).mono (fun t ht => ht) (fun handle t ht => ?_) (fun e t ht => ?_)
    · exact wp_pure.mpr ht
    · have quiet : ∀ b c a, NotStarted w { t with bootMeasurements := b, workloadContexts := c, armed := a } :=
        fun b c a => ⟨ht.1, ht.2⟩
      have disarmed : ∀ b c, wp (AtMostStarted w spec podSpec ip)
          (attempt (disarmGuard env.disarm (tapInterface w.nextCid)))
          (fun _ => wp (AtMostStarted w spec podSpec ip) (fail e) (fun handle => Started w spec podSpec ip handle)
            (fun _ => NotStarted w))
          (fun _ => NotStarted w) { t with bootMeasurements := b, workloadContexts := c } := by
        intro b c
        exact wp_disarmGuard (quiet b c _).atMost (wp_fail.mpr (quiet b c _))
          fun _ _ => wp_fail.mpr (quiet b c t.armed)
      refine wp_bind.mpr (wp_when (fun _ => ?_) fun _ => wp_bind.mpr (disarmed t.bootMeasurements t.workloadContexts))
      exact wp_unregisterAttestation (quiet _ t.workloadContexts t.armed).atMost (quiet _ _ t.armed).atMost
        (wp_bind.mpr (disarmed _ _))

/-- Whatever the runtime does, the books stay as they are; at most the instance of this boot is started, and it is
    started exactly if the boot returns. -/
theorem bootRuntime_steps (hspec : spec.podSpec = some podSpec) :
    wp (AtMostStarted w spec podSpec reservation.wlIp) (bootRuntime cfg env spec mounts reservation)
      (fun handle => Started w spec podSpec reservation.wlIp handle) (fun _ => NotStarted w) w := by
  unfold bootRuntime
  split
  · next hruntime => exact bootContainerd_steps hspec hruntime _
  · next hruntime => exact bootMicrovm_steps hspec hruntime _ _

/-- The environment lets the runtime start the pod: a container, or a MicroVM under the CID `cid`. -/
def RuntimeStarts (cfg : ManagerConfig api) (env : BootEnv api) (spec : WorkloadSpec) (podSpec : PodSpec)
    (mounts : List PreparedMount) (gw cid : UInt32) : RuntimeKind → Prop
  | .containerd => env.netnsAdd = none ∧ env.configureNetns = none ∧ ∃ pid, env.containerdBoot = .ok pid
  | .cloudHypervisor => validateMicrovmMounts mounts = .ok () ∧ cfg.netGuard = true ∧ env.arm = none ∧
    (∃ m, env.measure cfg.kernelPath (ociToErofs spec.image cfg.imageCachePath) cfg.guestInitPath = .ok m) ∧
    env.createVm (MicroVmAdapter.vmConfig spec podSpec cid (ociToErofs spec.image cfg.imageCachePath).toStringLossy
      (tapInterface cid) gw) = none ∧ env.bootVm = none

theorem bootContainerd_returns (hspec : spec.podSpec = some podSpec) {ip : UInt32} (hadd : env.netnsAdd = none)
    (hconfigure : env.configureNetns = none) {pid : UInt32} (hboot : env.containerdBoot = .ok pid) :
    wp (fun _ => True) (bootContainerd env spec ip) (fun _ _ => True) (fun _ _ => False) w := by
  rw [bootContainerd, hspec, wp_bind, wp_orFail_some, hadd, hconfigure, hboot]
  exact wp_bind.mpr (wp_modify.mpr ⟨trivial, wp_bind.mpr (wp_modify.mpr ⟨trivial, wp_pure.mpr trivial⟩)⟩)

theorem vmBoot_returns (hspec : spec.podSpec = some podSpec) {cid ip gw : UInt32} {rootfs tap : String}
    (hmounts : validateMicrovmMounts mounts = .ok ())
    (hcreate : env.createVm (MicroVmAdapter.vmConfig spec podSpec cid rootfs tap gw) = none) (hboot : env.bootVm = none) :
    wp (fun _ => True) (MicroVmAdapter.boot env spec cid mounts rootfs tap ip gw) (fun _ _ => True)
      (fun _ _ => False) w := by
  rw [MicroVmAdapter.boot, hspec, hmounts, wp_bind]
  refine wp_ofExcept (fun _ _ => ?_) (by rintro e ⟨⟩)
  rw [wp_bind, wp_orFail_some, hcreate, hboot]
  exact wp_bind.mpr (wp_modify.mpr ⟨trivial, wp_pure.mpr trivial⟩)

theorem bootMicrovmInner_returns (hspec : spec.podSpec = some podSpec) {cid ip gw : UInt32}
    (starts : RuntimeStarts cfg env spec podSpec mounts gw cid .cloudHypervisor) :
    wp (fun _ => True) (bootMicrovmInner cfg env spec mounts cid (tapInterface cid) ip gw) (fun _ _ => True)
      (fun _ _ => False) w := by
  obtain ⟨hmounts, -, -, ⟨m, hmeasure⟩, hcreate, hboot⟩ := starts
  rw [bootMicrovmInner, hmeasure, wp_bind]
  refine wp_ofExcept (fun measurement _ => ?_) (by rintro e ⟨⟩)
  have registers : wp (fun _ => True) (when cfg.attestation
      (registerAttestation cid measurement (workloadContext spec ip gw))) (fun _ _ => True) (fun _ _ => False) w :=
    wp_when (fun _ => wp_registerAttestation trivial trivial trivial) fun _ => trivial
  refine wp_bind.mpr (registers.mono (fun _ => id) (fun _ _ _ => ?_) fun _ _ => id)
  refine wp_bind.mpr ((vmBoot_returns hspec hmounts hcreate hboot).mono (fun _ => id) (fun _ _ _ => ?_) fun _ _ => id)
  exact wp_bind.mpr (wp_modify.mpr ⟨trivial, wp_pure.mpr trivial⟩)

theorem bootMicrovm_returns (hspec : spec.podSpec = some podSpec) {ip gw : UInt32}
    (starts : RuntimeStarts cfg env spec podSpec mounts gw w.nextCid .cloudHypervisor) :
    wp (fun _ => True) (bootMicrovm cfg env spec mounts ip gw) (fun _ _ => True) (fun _ _ => False) w := by
  have ⟨hmounts, hguard, harm, _⟩ := starts
  rw [bootMicrovm, hmounts, wp_bind]
  refine wp_ofExcept (fun _ _ => ?_) (by rintro e ⟨⟩)
  rw [wp_bind, wp_get]
  refine wp_bind.mpr (wp_modify.mpr ⟨trivial, ?_⟩)
  rw [hguard, harm]
  refine wp_bind.mpr (wp_modify.mpr ⟨trivial, wp_bind.mpr (wp_attempt.mpr ?_)⟩)
  refine (bootMicrovmInner_returns hspec starts).mono (fun _ => id) (fun _ _ _ => ?_) fun _ _ => False.elim
  exact wp_pure.mpr trivial

theorem bootRuntime_ne_error (hspec : spec.podSpec = some podSpec)
    (starts : RuntimeStarts cfg env spec podSpec mounts reservation.gwIp w.nextCid spec.runtime) (e : AgentError) :
    (bootRuntime cfg env spec mounts reservation w).result ≠ .error e := by
  have returns : wp (fun _ => True) (bootRuntime cfg env spec mounts reservation) (fun _ _ => True)
      (fun _ _ => False) w := by
    unfold bootRuntime
    cases hruntime : spec.runtime with
    | containerd =>
      rw [hruntime] at starts
      obtain ⟨hadd, hconfigure, pid, hboot⟩ := starts
      exact bootContainerd_returns hspec hadd hconfigure hboot
    | cloudHypervisor =>
      rw [hruntime] at starts
      exact bootMicrovm_returns hspec starts
  obtain ⟨handle, hok⟩ := returns.returns
  rw [hok]
  rintro ⟨⟩

/-! ### The reservation and the record -/

theorem effectiveId_eq (hspec : spec.podSpec = some podSpec) : podSpec.podId.getD spec.workloadId = spec.effectiveId := by
  rw [WorkloadSpec.effectiveId, hspec]
  rfl

theorem wp_requestDelegatedKey {workloadId : String} (hI : ∀ k, I { w with delegatedKeys := k })
    (hQ : ∀ k, Q () { w with delegatedKeys := k }) : wp I (requestDelegatedKey cfg env podSpec workloadId) Q E w := by
  unfold requestDelegatedKey
  split
  · exact wp_pure.mpr (hQ w.delegatedKeys)
  · dsimp only
    split
    · exact wp_pure.mpr (hQ w.delegatedKeys)
    · exact wp_modify.mpr ⟨hI _, hQ _⟩

def World.withPair (w : World api) (podId workloadId : String) (wl : UInt32) (ips : NodeIpAllocator) : World api :=
  { w with ips := ips, grants := w.grants.insert wl (podId, workloadId) }

/-- The node once the workload IP is registered, with its counters if they could be pre-populated. -/
def World.withSource (w : World api) (cfg : ManagerConfig api) (env : BootEnv api) (wl : UInt32)
    (fp : IdentityFingerprint) : World api :=
  { w with
    srcIdentity := w.srcIdentity.insert wl fp
    podNetCounters := if cfg.ebpfManager && !env.ebpfLockPoisoned && env.prepopulate.isNone then
      w.podNetCounters.insert wl {} else w.podNetCounters }

theorem wp_reservePair {Q : Reservation → World api → Prop} {podId workloadId : String} {fp : IdentityFingerprint}
    (hreg : cfg.srcIdentity = true)
    (hexhausted : ∀ e, w.ips.allocateP2pPair podId = .error e → E e w)
    (hpair : ∀ gw wl ips, w.ips.allocateP2pPair podId = .ok ((gw, wl), ips) → I (w.withPair podId workloadId wl ips))
    (hrefused : ∀ gw wl ips e, w.ips.allocateP2pPair podId = .ok ((gw, wl), ips) → env.register = some e →
      I (w.withPair podId workloadId wl (ips.releaseP2pPair podId)) ∧
      ∀ e, E e (w.withPair podId workloadId wl (ips.releaseP2pPair podId)))
    (hsource : ∀ gw wl ips, w.ips.allocateP2pPair podId = .ok ((gw, wl), ips) → env.register = none →
      I { w.withPair podId workloadId wl ips with srcIdentity := w.srcIdentity.insert wl fp } ∧
      I ((w.withPair podId workloadId wl ips).withSource cfg env wl fp) ∧
      Q ⟨gw, wl, some ⟨wl⟩⟩ ((w.withPair podId workloadId wl ips).withSource cfg env wl fp)) :
    wp I (reservePair cfg env podId workloadId fp) Q E w := by
  rw [reservePair, wp_bind, wp_get, wp_bind]
  refine wp_ofExcept (fun pair hok => ?_) hexhausted
  obtain ⟨⟨gw, wl⟩, ips⟩ := pair
  refine wp_bind.mpr (wp_modify.mpr ⟨hpair gw wl ips hok, ?_⟩)
  rw [wp_bind, registerWorkload, if_pos hreg, wp_bind, wp_attempt]
  cases hfault : env.register with
  | some e =>
    obtain ⟨hI, hE⟩ := hrefused gw wl ips e hok hfault
    exact wp_fail.mpr (wp_bind.mpr (wp_modify.mpr ⟨hI, wp_fail.mpr (hE _)⟩))
  | none =>
    obtain ⟨hI, hI', hQ⟩ := hsource gw wl ips hok hfault
    refine wp_modify.mpr ⟨hI, wp_pure.mpr (wp_bind.mpr (wp_when (fun hc => ?_) fun hc => ?_))⟩
    · rw [World.withSource, if_pos hc] at hI' hQ
      exact wp_modify.mpr ⟨hI', wp_pure.mpr hQ⟩
    · rw [World.withSource, if_neg (by rw [hc]; decide)] at hQ
      exact wp_pure.mpr hQ

/-- SRC_IDENTITY_MAP after an attempt to unregister `ip`. -/
def unregistered (fault : Option String) (ip : UInt32) (m : FinMap UInt32 IdentityFingerprint) :
    FinMap UInt32 IdentityFingerprint :=
  if fault.isNone then m.remove ip else m

theorem wp_unregisterSource {Q : Except AgentError Unit → World api → Prop} {fault : Option String} {ip : HostOrderIpv4}
    (hI : I { w with srcIdentity := unregistered fault ip.val w.srcIdentity })
    (hQ : ∀ r, Q r { w with srcIdentity := unregistered fault ip.val w.srcIdentity }) :
    wp I (attempt (unregisterSource fault ip)) Q E w := by
  rw [wp_attempt]
  cases fault with
  | some e => exact wp_fail.mpr (hQ _)
  | none =>
    rw [unregisterSource, wp_bind, wp_get]
    split
    · exact wp_modify.mpr ⟨hI, hQ _⟩
    · next habsent =>
      have same : unregistered none ip.val w.srcIdentity = w.srcIdentity := FinMap.remove_of_notMem habsent
      rw [same] at hQ
      exact wp_fail.mpr (hQ _)

theorem wp_cancelReservation {podId : String} {gw wl : UInt32}
    (hI : I { w with srcIdentity := unregistered env.unregister wl w.srcIdentity })
    (hI' : I { w with
      srcIdentity := unregistered env.unregister wl w.srcIdentity, ips := w.ips.releaseP2pPair podId })
    (hQ : Q () { w with
      srcIdentity := unregistered env.unregister wl w.srcIdentity, ips := w.ips.releaseP2pPair podId }) :
    wp I (cancelReservation env podId ⟨gw, wl, some ⟨wl⟩⟩) Q E w :=
  wp_bind.mpr (wp_unregisterSource hI fun _ => wp_modify.mpr ⟨hI', hQ⟩)

theorem wp_recordPod {podId : String} {fp : IdentityFingerprint} {gw wl handle : UInt32}
    (hI : I { w with podSourceIps := w.podSourceIps.insert podId wl })
    (hI' : ∀ probes, I { w with
      podSourceIps := w.podSourceIps.insert podId wl
      pods := w.pods.addPod (.booted podId spec.workloadId podSpec.tenantId spec.role spec.runtime fp handle)
      probes := probes })
    (hQ : Q () { w with
      podSourceIps := w.podSourceIps.insert podId wl
      pods := w.pods.addPod (.booted podId spec.workloadId podSpec.tenantId spec.role spec.runtime fp handle)
      probes := if cfg.probes then w.probes.registerPod podId (.new podSpec.probes env.now) else w.probes }) :
    wp I (recordPod cfg env spec podSpec podId fp ⟨gw, wl, some ⟨wl⟩⟩ handle) Q E w := by
  refine wp_bind.mpr (wp_modify.mpr ⟨hI, wp_bind.mpr (wp_modify.mpr ⟨hI' w.probes, wp_when (fun hc => ?_) fun hc => ?_⟩)⟩)
  · rw [if_pos hc] at hQ
    exact wp_modify.mpr ⟨hI' _, hQ⟩
  · rw [if_neg (by rw [hc]; decide)] at hQ
    exact hQ

/-- Booting a pod: what fails before the reservation leaves the node as it was but for the delegated key; then the
    reservation, the runtime, and the record or the undoing of the reservation. -/
theorem wp_bootPod {Q : UInt32 → World api → Prop} (hkey : ∀ k, I { w with delegatedKeys := k })
    (hearly : ∀ e k, E e { w with delegatedKeys := k })
    (hreserve : ∀ podSpec fp mounts k, spec.podSpec = some podSpec →
      prepareMounts env.fs cfg.volumeConfig spec.effectiveId podSpec.volumes podSpec.volumeMounts = .ok mounts →
      workloadFingerprint api cfg.trustDomain podSpec.tenantId spec.workloadId spec.role = .ok fp →
      wp I (reservePair cfg env spec.effectiveId spec.workloadId fp) (fun reservation =>
        wp I (bootRuntime cfg env spec mounts reservation)
          (fun handle => wp I (recordPod cfg env spec podSpec spec.effectiveId fp reservation handle) (fun _ => Q handle) E)
          (fun e => wp I (cancelReservation env spec.effectiveId reservation) (fun _ => E e) E)) E
        { w with delegatedKeys := k }) :
    wp I (bootPod cfg env spec) Q E w := by
  unfold bootPod
  cases hspec : spec.podSpec with
  | none => exact wp_bind.mpr (wp_orFail_none.mpr (hearly _ w.delegatedKeys))
  | some podSpec =>
    rw [wp_bind, wp_orFail_some, effectiveId_eq hspec]
    refine wp_bind.mpr (wp_ofExcept (fun mounts hmounts => ?_) fun e _ => hearly e w.delegatedKeys)
    refine wp_bind.mpr (wp_ofExcept (fun fp hfp => ?_) fun e _ => hearly e w.delegatedKeys)
    refine wp_bind.mpr (wp_requestDelegatedKey hkey fun k => wp_bind.mpr ?_)
    refine (hreserve podSpec fp mounts k hspec hmounts hfp).mono (fun t ht => ht) (fun reservation t ht => ?_)
      (fun e t ht => ht)
    refine wp_bind.mpr (wp_attempt.mpr (ht.mono (fun t ht => ht) (fun handle t ht => ?_) (fun e t ht => ?_)))
    · exact wp_bind.mpr (ht.mono (fun t ht => ht) (fun _ t ht => wp_pure.mpr ht) (fun e t ht => ht))
    · exact wp_bind.mpr (ht.mono (fun t ht => ht) (fun _ t ht => wp_fail.mpr ht) (fun e t ht => ht))

end Boot

/-! ### Eviction -/

section Evict
variable {env : EvictEnv} {podId : String} {runtime : RuntimeKind} {handle : UInt32}

def World.withEviction (w : World api) (cfg : ManagerConfig api) (podId : String) : World api :=
  { w with
    pods := w.pods.modifyPod podId Pod.beginEviction Pod.beginEviction_podId
    probes := if cfg.probes then w.probes.unregisterPod podId else w.probes
    events := if cfg.eventReporter then w.events ++ [(podId, .evicting)] else w.events }

theorem wp_beginEvict (hI : ∀ pods probes events, I { w with pods := pods, probes := probes, events := events })
    (hQ : Q () (w.withEviction cfg podId)) : wp I (beginEvict cfg podId) Q E w := by
  have reported : ∀ probes,
      wp I (when cfg.eventReporter (modify fun w => { w with events := w.events ++ [(podId, .evicting)] }))
        (fun _ t => t = { w with
        pods := w.pods.modifyPod podId Pod.beginEviction Pod.beginEviction_podId
        probes := probes
        events := if cfg.eventReporter then w.events ++ [(podId, .evicting)] else w.events }) E
      { w with pods := w.pods.modifyPod podId Pod.beginEviction Pod.beginEviction_podId, probes := probes } := by
    intro probes
    refine wp_when (fun hc => wp_modify.mpr ⟨hI _ _ _, ?_⟩) fun hc => ?_
    · rw [if_pos hc]
    · rw [if_neg (by rw [hc]; decide)]
  have done : ∀ probes, probes = (if cfg.probes then w.probes.unregisterPod podId else w.probes) →
      wp I (when cfg.eventReporter (modify fun w => { w with events := w.events ++ [(podId, .evicting)] })) Q E
        { w with pods := w.pods.modifyPod podId Pod.beginEviction Pod.beginEviction_podId, probes := probes } := by
    rintro probes rfl
    exact (reported _).mono (fun t ht => ht) (fun _ t ht => by rw [ht]; exact hQ) fun e t ht => ht
  refine wp_bind.mpr (wp_modify.mpr ⟨hI _ w.probes w.events, wp_bind.mpr (wp_when (fun hc => ?_) fun hc => ?_)⟩)
  · exact wp_modify.mpr ⟨hI _ _ w.events, done _ (by rw [if_pos hc])⟩
  · exact done _ (by rw [if_neg (by rw [hc]; decide)])

/-- What still runs after the stop of a pod with this runtime and handle; `none` if the stop fails. A MicroVM whose adapter
    is gone is not stopped at all. -/
def afterStop (env : EvictEnv) (w : World api) (podId : String) (runtime : RuntimeKind) (handle : UInt32) :
    Option (List RuntimeInstance) :=
  match runtime with
  | .containerd =>
    if env.stop.isNone then some (w.running.filter fun i => !(i.runtime = .containerd ∧ i.podId = podId)) else none
  | .cloudHypervisor =>
    if (w.microvms.get handle).isNone then some w.running
    else if env.stop.isNone then some (w.running.filter fun i => !(i.runtime = .cloudHypervisor ∧ i.handle = handle))
    else none

theorem stopMicrovm_steps :
    wp (fun t => t.books = w.books ∧
        (t.running = w.running ∨ afterStop env w podId .cloudHypervisor handle = some t.running))
      (stopMicrovm cfg env handle)
      (fun _ t => t.books = w.books ∧ afterStop env w podId .cloudHypervisor handle = some t.running)
      (fun _ t => NotStarted w t ∧ afterStop env w podId .cloudHypervisor handle = none) w := by
  -- The last part only touches the attestation tables.
  have forget : ∀ t : World api, t.books = w.books → afterStop env w podId .cloudHypervisor handle = some t.running →
      wp (fun t => t.books = w.books ∧
          (t.running = w.running ∨ afterStop env w podId .cloudHypervisor handle = some t.running))
        (when cfg.attestation (unregisterAttestation handle))
        (fun _ t => t.books = w.books ∧ afterStop env w podId .cloudHypervisor handle = some t.running)
        (fun _ t => NotStarted w t ∧ afterStop env w podId .cloudHypervisor handle = none) t := by
    intro t hb hr
    exact wp_when (fun _ => wp_unregisterAttestation ⟨hb, Or.inr hr⟩ ⟨hb, Or.inr hr⟩ ⟨hb, hr⟩) fun _ => ⟨hb, hr⟩
  rw [stopMicrovm, wp_bind, wp_get]
  refine wp_bind.mpr (wp_modify.mpr ⟨⟨rfl, Or.inl rfl⟩, wp_bind.mpr (wp_when (fun hsome => ?_) fun hnone => ?_)⟩)
  · have present : (w.microvms.get handle).isNone = false := by
      rw [← Option.not_isSome, hsome]
      rfl
    rw [wp_bind, stopVm]
    cases hstop : env.stop with
    | some e => exact wp_fail.mpr ⟨⟨rfl, rfl⟩, by simp [afterStop, present, hstop]⟩
    | none =>
      have stopped : afterStop env w podId .cloudHypervisor handle =
          some (w.running.filter fun i => !(i.runtime = .cloudHypervisor ∧ i.handle = handle)) := by
        simp [afterStop, present, hstop]
      refine wp_modify.mpr ⟨⟨rfl, Or.inr stopped⟩, wp_when (fun _ => wp_bind.mpr ?_) fun _ => forget _ rfl stopped⟩
      exact wp_disarmGuard ⟨rfl, Or.inr stopped⟩ (wp_pure.mpr (forget _ rfl stopped))
        fun _ _ => wp_pure.mpr (forget _ rfl stopped)
  · refine forget _ rfl ?_
    have absent : (w.microvms.get handle).isNone = true := by
      rw [← Option.not_isSome, hnone]
      rfl
    simp [afterStop, absent]

/-- Whatever the stop does, the books stay as they are, and what runs afterwards is what `afterStop` says. -/
theorem stopRuntime_steps :
    wp (fun t => t.books = w.books ∧ (t.running = w.running ∨ afterStop env w podId runtime handle = some t.running))
      (stopRuntime cfg env podId runtime handle)
      (fun _ t => t.books = w.books ∧ afterStop env w podId runtime handle = some t.running)
      (fun _ t => NotStarted w t ∧ afterStop env w podId runtime handle = none) w := by
  cases runtime with
  | cloudHypervisor => exact stopMicrovm_steps
  | containerd =>
    rw [stopRuntime, stopContainerd]
    cases hstop : env.stop with
    | some e => exact wp_fail.mpr ⟨⟨rfl, rfl⟩, by simp [afterStop, hstop]⟩
    | none =>
      have stopped : afterStop env w podId .containerd handle =
          some (w.running.filter fun i => !(i.runtime = .containerd ∧ i.podId = podId)) := by
        simp [afterStop, hstop]
      exact wp_modify.mpr ⟨⟨rfl, Or.inr stopped⟩, rfl, stopped⟩

def World.withoutSource (w : World api) (env : EvictEnv) (podId : String) (srcIp : UInt32) : World api :=
  { w with
    podSourceIps := w.podSourceIps.remove podId
    srcIdentity := unregistered env.unregister srcIp w.srcIdentity
    ips := w.ips.releaseP2pPair podId }

theorem wp_releaseSource (hreg : cfg.srcIdentity = true) (hnone : w.podSourceIps.get podId = none → Q () w)
    (hsome : ∀ srcIp, w.podSourceIps.get podId = some srcIp →
      I { w with podSourceIps := w.podSourceIps.remove podId } ∧
      I { w with
        podSourceIps := w.podSourceIps.remove podId, srcIdentity := unregistered env.unregister srcIp w.srcIdentity } ∧
      (∀ n, I { w.withoutSource env podId srcIp with netns := n }) ∧
      ∀ n, Q () { w.withoutSource env podId srcIp with netns := n }) :
    wp I (releaseSource cfg env podId runtime) Q E w := by
  rw [releaseSource, wp_bind, wp_get]
  split
  · next h => exact wp_pure.mpr (hnone h)
  · next srcIp h =>
    obtain ⟨hI, hI', hI'', hQ⟩ := hsome srcIp h
    rw [hreg]
    refine wp_bind.mpr (wp_modify.mpr ⟨hI, wp_bind.mpr (wp_when (fun _ => ?_) (by rintro ⟨⟩))⟩)
    refine wp_bind.mpr (wp_unregisterSource hI' fun _ => wp_pure.mpr (wp_bind.mpr (wp_modify.mpr ⟨hI'' w.netns, ?_⟩)))
    exact wp_when (fun _ => wp_destroyNetns hI'' hQ) fun _ => hQ w.netns

/-- Evicting a pod: the stop may end it; after a successful stop the source is released, and then the scratch directory
    and the record go. -/
theorem wp_evictPod (hmissing : ∀ e, w.pods.getPod podId = none → E e w)
    (hI : ∀ pods probes events, I { w with pods := pods, probes := probes, events := events })
    (hstop : ∀ pod, w.pods.getPod podId = some pod →
      wp I (stopRuntime cfg env podId pod.runtime (pod.pid.getD 0))
        (fun _ => wp I (releaseSource cfg env podId pod.runtime) (fun _ t =>
          (∀ e, teardownPodScratch env.fs cfg.volumeConfig podId = .error e → E e t) ∧
          (teardownPodScratch env.fs cfg.volumeConfig podId = .ok () →
            I { t with pods := t.pods.removePod podId } ∧ Q () { t with pods := t.pods.removePod podId })) E) E
        (w.withEviction cfg podId)) :
    wp I (evictPod cfg env podId) Q E w := by
  rw [evictPod, wp_bind, wp_get]
  cases hpod : w.pods.getPod podId with
  | none => exact wp_bind.mpr (wp_orFail_none.mpr (hmissing _ hpod))
  | some pod =>
    refine wp_bind.mpr (wp_orFail_some.mpr (wp_bind.mpr (wp_beginEvict hI (wp_bind.mpr ?_))))
    refine (hstop pod hpod).mono (fun t ht => ht) (fun _ t ht => wp_bind.mpr ?_) (fun e t ht => ht)
    refine ht.mono (fun t ht => ht) (fun _ t ht => wp_bind.mpr ?_) (fun e t ht => ht)
    exact wp_ofExcept (fun _ hok => wp_modify.mpr (ht.2 hok)) fun e he => ht.1 e he

end Evict

/-! ### What looks past the network -/

section Frame
variable {P : World api → Prop} {podId : String}

/-- `P` does not look at the tables of the network. -/
def NetworkFrame (P : World api → Prop) : Prop :=
  ∀ t ips grants srcIdentity podNetCounters podSourceIps netns, P t → P { t with
    ips := ips, grants := grants, srcIdentity := srcIdentity, podNetCounters := podNetCounters
    podSourceIps := podSourceIps, netns := netns }

/-- `P` does not look at the tables of the network other than the counters. -/
def AddressFrame (P : World api → Prop) : Prop :=
  ∀ t ips grants srcIdentity podSourceIps netns, P t → P { t with
    ips := ips, grants := grants, srcIdentity := srcIdentity, podSourceIps := podSourceIps, netns := netns }

theorem NetworkFrame.address (hP : NetworkFrame P) : AddressFrame P := fun t _ _ _ _ _ => hP t _ _ _ t.podNetCounters _ _

theorem releasePair_frame (hP : AddressFrame P) : Preserves P (releasePair podId : Manager api Unit) :=
  .modify fun t => hP t _ _ _ _ _

theorem registerWorkload_frame {env : BootEnv api} {wl : UInt32} {fp : IdentityFingerprint} (hP : AddressFrame P) :
    Preserves P (registerWorkload cfg env podId wl fp) := by
  have registered : Preserves P (registerSource env.register ⟨wl⟩ fp : Manager api Unit) := by
    unfold registerSource
    cases env.register with
    | some e => exact .fail
    | none => exact .modify fun t => hP t _ _ _ _ _
  rw [registerWorkload]
  split
  · refine .bind registered.attempt fun result => ?_
    cases result with
    | error e => exact .bind (releasePair_frame hP) fun _ => .fail
    | ok _ => exact .pure
  · exact .pure

/-- A reservation that keeps `P` where it pre-populates the counters of its IP keeps it in every state. -/
theorem reservePair_of_counters {env : BootEnv api} {workloadId : String} {fp : IdentityFingerprint} (hP : AddressFrame P)
    (hcounters : ∀ (t : World api) wl, P t → P { t with podNetCounters := t.podNetCounters.insert wl {} }) :
    Preserves P (reservePair cfg env podId workloadId fp) := by
  refine .bind .get fun w => .bind .ofExcept fun pair => .bind (.modify fun t => hP t _ _ _ _ _) fun _ => ?_
  refine .bind (registerWorkload_frame hP) fun registered => ?_
  exact .bind (.when (.modify fun t => hcounters t _)) fun _ => .pure

theorem reservePair_frame {env : BootEnv api} {workloadId : String} {fp : IdentityFingerprint} (hP : NetworkFrame P) :
    Preserves P (reservePair cfg env podId workloadId fp) :=
  reservePair_of_counters hP.address fun t _ => hP t _ _ _ _ _ _

theorem unregisterSource_frame {fault : Option String} {ip : HostOrderIpv4} (hP : AddressFrame P) :
    Preserves P (attempt (unregisterSource fault ip)) :=
  fun w hw => wp_unregisterSource (hP w _ _ _ _ _ hw) fun _ => hP w _ _ _ _ _ hw

theorem cancelReservation_frame {env : BootEnv api} {reservation : Reservation} (hP : AddressFrame P) :
    Preserves P (cancelReservation env podId reservation) := by
  unfold cancelReservation
  split
  · exact .bind (unregisterSource_frame hP) fun _ => releasePair_frame hP
  · exact releasePair_frame hP

theorem releaseSource_frame {env : EvictEnv} {runtime : RuntimeKind} (hP : AddressFrame P) :
    Preserves P (releaseSource cfg env podId runtime) := by
  have destroyed : Preserves P (destroyNetns env.netnsDel podId : Manager api Unit) :=
    fun t ht => wp_destroyNetns (fun n => hP t _ _ _ _ n ht) fun n => hP t _ _ _ _ n ht
  refine .bind .get fun w => ?_
  cases w.podSourceIps.get podId with
  | none => exact .pure
  | some srcIp =>
    refine .bind (.modify fun t => hP t _ _ _ _ _) fun _ => .bind (.when ?_) fun _ => ?_
    · exact .bind (unregisterSource_frame hP) fun _ => .pure
    · exact .bind (releasePair_frame hP) fun _ => .when destroyed

end Frame

/-! ### Operations of a call -/

theorem reconcileOps_of_no_pods {call : ReconcileCall api} (h : w.pods = .new) :
    reconcileOps w call = call.desired.mapIdx fun n spec => .boot spec (call.bootEnv n) := by
  have none : w.pods.allPods call.order = [] := by
    rw [h, List.eq_nil_iff_forall_not_mem]
    intro pod hpod
    obtain ⟨k, hk⟩ := Enumeration.mem_values.mp hpod
    cases hk
  simp [reconcileOps, Reconciler.reconcile, none]

end

end FleetosAgent.Workloads
