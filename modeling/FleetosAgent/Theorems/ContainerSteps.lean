import FleetosAgent.Theorems.Containerd
import FleetosAgent.Theorems.ManagerSteps
import FleetosAgent.Theorems.Netns
import FleetosAgent.Workloads.ContainerNode

/-! # Steps of a node with containers

What one operation does to the manager's tables and to the host. A container boot that succeeds has found neither a
namespace nor a container of its pod, and leaves both; whatever an operation on one pod does, it keeps what the host holds
for the others. -/

namespace FleetosAgent.Workloads
open Lib Traced Netns

/-! ### The host -/

namespace ContainerHost
variable {ip : IpTool} {containerd : Containerd} {env : ContainerdEnv} {spec : WorkloadSpec} {podSpec : PodSpec}
  {mounts : List PreparedMount} {wlIp gwIp : UInt32} {h : ContainerHost ip containerd}

/-- The cleanup of a boot that failed. -/
theorem wp_cleanup {podId : String} {e : AgentError} {Q : UInt32 → ContainerHost ip containerd → Prop}
    {E : AgentError → ContainerHost ip containerd → Prop} (hE : ∀ t, E e t) :
    wp (fun _ => True) (onNet (Netns.destroyNetns podId) >>= fun _ => fail e) Q E h :=
  wp_bind.mpr (wp_zoom.mpr (Netns.wp_destroyNetns.mono (fun _ => id) (fun _ _ _ => wp_fail.mpr (hE _)) fun _ _ =>
    False.elim))

/-- What each part of a boot keeps, the boot keeps. -/
theorem bootContainerd_preserves {J : ContainerHost ip containerd → Prop}
    (hcreate : Preserves J (onNet (createNetns spec.effectiveId)))
    (hconfigure : Preserves J (onNet (configureNetns spec.effectiveId wlIp gwIp)))
    (hboot : ∀ ns, Preserves J (onAdapter (ContainerdAdapter.boot env spec mounts ns)))
    (hdestroy : Preserves J (onNet (Netns.destroyNetns spec.effectiveId))) :
    Preserves J (bootContainerd env spec mounts wlIp gwIp) := by
  unfold bootContainerd
  split
  · exact .fail
  · next podSpec hspec =>
    rw [effectiveId_eq hspec]
    refine .bind hcreate fun ns => .bind hconfigure.attempt fun configured => ?_
    split
    · exact .bind hdestroy fun _ => .fail
    · refine .bind (hboot ns).attempt fun booted => ?_
      split
      · exact .pure
      · exact .bind hdestroy fun _ => .fail

/-- On the side of `ip`. -/
theorem bootContainerd_preserves_net {P : ip.State → Prop} (hcreate : Preserves P (createNetns spec.effectiveId))
    (hconfigure : Preserves P (configureNetns spec.effectiveId wlIp gwIp))
    (hdestroy : Preserves P (Netns.destroyNetns spec.effectiveId)) :
    Preserves (fun h => P h.net) (bootContainerd env spec mounts wlIp gwIp : HostM ip containerd UInt32) :=
  bootContainerd_preserves (.zoom (fun _ => rfl) fun _ => hcreate) (.zoom (fun _ => rfl) fun _ => hconfigure)
    (fun _ => .zoom (fun _ => rfl) fun h => .const (p := P h.net)) (.zoom (fun _ => rfl) fun _ => hdestroy)

/-- On the side of containerd. -/
theorem bootContainerd_preserves_adapter {P : ContainerdAdapter containerd → Prop}
    (hboot : ∀ ns, Preserves P (ContainerdAdapter.boot env spec mounts ns)) :
    Preserves (fun h => P h.adapter) (bootContainerd env spec mounts wlIp gwIp : HostM ip containerd UInt32) :=
  have untouched : ∀ {α} (m : NetM ip α), Preserves (fun h => P h.adapter) (onNet m : HostM ip containerd α) := fun _ =>
    .zoom (fun _ => rfl) fun h => .const (p := P h.adapter)
  bootContainerd_preserves (untouched _) (untouched _) (fun ns => .zoom (fun _ => rfl) fun _ => hboot ns) (untouched _)

theorem evictContainer_preserves_net {P : ip.State → Prop} {podId : String} {sourced : Bool}
    (hdestroy : Preserves P (Netns.destroyNetns podId)) :
    Preserves (fun h => P h.net) (evictContainer env podId sourced : HostM ip containerd Unit) :=
  .bind (.zoom (fun _ => rfl) fun h => .const (p := P h.net)) fun _ => .when (.zoom (fun _ => rfl) fun _ => hdestroy)

theorem evictContainer_preserves_adapter {P : ContainerdAdapter containerd → Prop} {podId : String} {sourced : Bool}
    (hstop : Preserves P (ContainerdAdapter.stop env podId)) :
    Preserves (fun h => P h.adapter) (evictContainer env podId sourced : HostM ip containerd Unit) :=
  .bind (.zoom (fun _ => rfl) fun _ => hstop) fun _ => .when (.zoom (fun _ => rfl) fun h => .const (p := P h.adapter))

section Laws
variable (net : IpLaws ip) (daemon : ContainerdLaws containerd)

/-- A boot that succeeded: nothing of the pod was there, and everything is now. -/
structure Booted (podId : String) (wlIp gwIp : UInt32) (h t : ContainerHost ip containerd) : Prop where
  no_netns : ¬ net.holds h.net (.netns podId)
  no_container : ¬ daemon.has h.adapter.daemon podId
  free : Free net podId h.net
  wired : ∀ f ∈ wiring podId wlIp gwIp, net.holds t.net f
  container : daemon.has t.adapter.daemon podId

theorem wp_bootContainerd (hspec : spec.podSpec = some podSpec) :
    wp (fun _ => True) (bootContainerd env spec mounts wlIp gwIp) (fun _ => Booted net daemon spec.effectiveId wlIp gwIp h)
      (fun _ _ => True) h := by
  rw [bootContainerd, hspec]
  dsimp only
  rw [effectiveId_eq hspec]
  refine wp_bind.mpr (wp_zoom.mpr ?_)
  refine wp_bind.mpr (wp_runCmd trivial (fun s hadd => wp_pure.mpr ?_) fun _ => trivial)
  refine wp_bind.mpr (wp_attempt.mpr (wp_zoom.mpr ((wp_configureNetns net).mono (fun _ => id) (fun _ t ht => ?_)
    fun e t _ => wp_cleanup fun _ => trivial)))
  obtain ⟨free, wired⟩ := ht
  refine wp_bind.mpr (wp_attempt.mpr (wp_zoom.mpr ((ContainerdAdapter.wp_boot daemon hspec).mono (fun _ => id)
    (fun pid a ha => wp_pure.mpr ?_) fun e a _ => wp_cleanup fun _ => trivial)))
  exact
    { no_netns := net.netnsAdd_new hadd
      no_container := ha.1
      free := fun dev peer trait hf => free dev peer trait (net.done_keeps hadd hf rfl)
      wired := wired (net.netnsAdd_adds hadd)
      container := ha.2 }

/-- Where the namespace is there, the boot ends with the refusal of its first command. -/
theorem wp_bootContainerd_of_netns (hspec : spec.podSpec = some podSpec)
    (hnetns : net.holds h.net (.netns spec.effectiveId)) :
    wp (fun _ => True) (bootContainerd env spec mounts wlIp gwIp) (fun _ _ => False)
      (fun _ t => (∀ f, net.holds h.net f → net.holds t.net f) ∧ t.adapter = h.adapter) h := by
  rw [bootContainerd, hspec]
  dsimp only
  rw [effectiveId_eq hspec]
  exact wp_bind.mpr (wp_zoom.mpr ((wp_createNetns_of_netns net hnetns).mono (fun _ => id) (fun _ _ => False.elim)
    fun _ _ kept => ⟨kept, rfl⟩))

section Facts
variable {f : Fact}

theorem bootContainerd_keeps (hdel : IpCall.undoes ⟨none, .netnsDel spec.effectiveId⟩ f = false)
    (hmove : IpCall.undoes ⟨none, .linkSetNetns CONTAINER_IFACE spec.effectiveId⟩ f = false) :
    Preserves (fun h => net.holds h.net f) (bootContainerd env spec mounts wlIp gwIp : HostM ip containerd UInt32) :=
  bootContainerd_preserves_net (createNetns_keeps net) (configureNetns_keeps net hmove) (destroyNetns_keeps net hdel)

theorem evictContainer_keeps {podId : String} {sourced : Bool} (hdel : IpCall.undoes ⟨none, .netnsDel podId⟩ f = false) :
    Preserves (fun h => net.holds h.net f) (evictContainer env podId sourced : HostM ip containerd Unit) :=
  evictContainer_preserves_net (destroyNetns_keeps net hdel)

/-- An interface of the host that is called like the containers' stays, unless it leads into a namespace. -/
theorem bootContainerd_keeps_iface {peer : Peer} {trait : Trait} (hpeer : ∀ ns dev, peer ≠ .inside ns dev) :
    Preserves (fun h => net.holds h.net (.host CONTAINER_IFACE peer trait))
      (bootContainerd env spec mounts wlIp gwIp : HostM ip containerd UInt32) :=
  bootContainerd_preserves_net (createNetns_keeps net) (configureNetns_keeps_iface net)
    (destroyNetns_keeps net (netnsDel_undoes_host hpeer))

end Facts

/-- A boot takes no container away. -/
theorem bootContainerd_keeps_container {id : String} :
    Preserves (fun h => daemon.has h.adapter.daemon id)
      (bootContainerd env spec mounts wlIp gwIp : HostM ip containerd UInt32) :=
  bootContainerd_preserves_adapter fun _ => ContainerdAdapter.boot_keeps daemon

theorem evictContainer_keeps_container {id podId : String} {sourced : Bool} (hne : id ≠ podId) :
    Preserves (fun h => daemon.has h.adapter.daemon id) (evictContainer env podId sourced : HostM ip containerd Unit) :=
  evictContainer_preserves_adapter (ContainerdAdapter.stop_keeps daemon hne)

/-- The pair that a boot leaves behind is not cleaned up. -/
theorem bootContainerd_leaves_iface (hspec : spec.podSpec = some podSpec)
    (fails : FailsBeforeMove ip spec.effectiveId gwIp h.net) :
    ∃ dev, net.holds (bootContainerd env spec mounts wlIp gwIp h).final.net
      (.host CONTAINER_IFACE (.host dev) .present) := by
  obtain ⟨s, dev, hnetns, left⟩ := fails.left net
  refine ⟨dev, wp.final (I := fun _ => True)
    (P := fun t : ContainerHost ip containerd => net.holds t.net (.host CONTAINER_IFACE (.host dev) .present)) ?_⟩
  rw [bootContainerd, hspec]
  dsimp only
  rw [effectiveId_eq hspec]
  refine wp_bind.mpr (wp_zoom.mpr (wp_bind.mpr (wp_runCmd_of_done hnetns trivial (wp_pure.mpr ?_))))
  refine wp_bind.mpr (wp_attempt.mpr (wp_zoom.mpr (left.mono (fun _ => id) (fun _ _ => False.elim) fun e t ht => ?_)))
  have spared : IpCall.undoes ⟨none, .netnsDel spec.effectiveId⟩ (.host CONTAINER_IFACE (.host dev) .present) = false := rfl
  have kept := destroyNetns_keeps net spared t ht
  exact wp_bind.mpr (wp_zoom.mpr (kept.mono (fun _ _ => trivial) (fun _ _ hs => wp_fail.mpr hs) fun _ _ => id))

end Laws

end ContainerHost

/-! ### The answers -/

/-- What the manager's `boot_containerd` returns in an environment. -/
def BootEnv.containerAnswer {api : SpiffeApi} (env : BootEnv api) : Except AgentError UInt32 :=
  match env.netnsAdd, env.configureNetns with
  | some e, _ => .error e
  | none, some e => .error e
  | none, none => env.containerdBoot

section Answers
variable {api : SpiffeApi} {ip : IpTool} {containerd : Containerd} {cfg : ManagerConfig api} {env : BootEnv api}
  {adapter : ContainerdEnv} {spec : WorkloadSpec} {podSpec : PodSpec} {w : World api}

theorem wp_bootContainerd_answer (hspec : spec.podSpec = some podSpec) {wlIp : UInt32} :
    wp (fun _ => True) (bootContainerd env spec wlIp) (fun pid t => t.books = w.books ∧ env.containerAnswer = .ok pid)
      (fun e t => t.books = w.books ∧ env.containerAnswer = .error e) w := by
  rw [bootContainerd, hspec, wp_bind, wp_orFail_some, BootEnv.containerAnswer]
  cases env.netnsAdd with
  | some e => exact wp_fail.mpr ⟨rfl, rfl⟩
  | none =>
    refine wp_bind.mpr (wp_modify.mpr ⟨trivial, ?_⟩)
    cases env.configureNetns with
    | some e => exact wp_bind.mpr (wp_destroyNetns (fun _ => trivial) fun _ => wp_fail.mpr ⟨rfl, rfl⟩)
    | none =>
      cases env.containerdBoot with
      | error e => exact wp_bind.mpr (wp_destroyNetns (fun _ => trivial) fun _ => wp_fail.mpr ⟨rfl, rfl⟩)
      | ok pid => exact wp_bind.mpr (wp_modify.mpr ⟨trivial, wp_pure.mpr ⟨rfl, rfl⟩⟩)

theorem destroyNetns_returns {podId : String} (h : ContainerHost ip containerd) :
    (ContainerHost.onNet (Netns.destroyNetns podId) h).result = .ok () := by
  obtain ⟨_, returned⟩ : ∃ u, (Netns.destroyNetns podId h.net).result = .ok u := Netns.wp_destroyNetns.returns
  exact returned

/-- The manager that is given the host's answers returns what the host's `boot_containerd` does. -/
theorem containerAnswer_eq (hspec : spec.podSpec = some podSpec) (mounts : List PreparedMount) (wlIp gwIp : UInt32)
    (h : ContainerHost ip containerd)
    (hadd : env.netnsAdd = errorOf (ContainerHost.onNet (createNetns spec.effectiveId) h).result)
    (hconfigure : env.configureNetns = errorOf (ContainerHost.onNet (configureNetns spec.effectiveId wlIp gwIp)
      (ContainerHost.onNet (createNetns spec.effectiveId) h).final).result)
    (hboot : env.containerdBoot =
      (ContainerHost.onAdapter (ContainerdAdapter.boot adapter spec mounts (netnsPath spec.effectiveId))
        (ContainerHost.onNet (configureNetns spec.effectiveId wlIp gwIp)
          (ContainerHost.onNet (createNetns spec.effectiveId) h).final).final).result) :
    (ContainerHost.bootContainerd adapter spec mounts wlIp gwIp h).result = env.containerAnswer := by
  rw [ContainerHost.bootContainerd, hspec]
  dsimp only
  rw [effectiveId_eq hspec]
  cases hcreated : (ContainerHost.onNet (createNetns spec.effectiveId) h).result with
  | error e =>
    rw [bind_of_error hcreated, BootEnv.containerAnswer, hadd, hcreated]
    rfl
  | ok ns =>
    obtain rfl : ns = netnsPath spec.effectiveId := createNetns_path.of_ok hcreated
    rw [bind_of_ok hcreated, BootEnv.containerAnswer, hadd, hcreated, hconfigure]
    dsimp only
    generalize (ContainerHost.onNet (createNetns spec.effectiveId) h).final = created at hboot ⊢
    rw [bind_of_ok (show (attempt _ created).result = .ok _ from rfl)]
    dsimp only [attempt]
    cases (ContainerHost.onNet (configureNetns spec.effectiveId wlIp gwIp) created).result with
    | error e => exact congrArg Outcome.result (bind_of_ok (destroyNetns_returns _))
    | ok u =>
      dsimp only [errorOf]
      rw [hboot, bind_of_ok (show (attempt _ _).result = .ok _ from rfl)]
      dsimp only [attempt]
      generalize (ContainerHost.onNet (configureNetns spec.effectiveId wlIp gwIp) created).final = configured
      cases (ContainerHost.onAdapter (ContainerdAdapter.boot adapter spec mounts (netnsPath spec.effectiveId))
        configured).result with
      | error e => exact congrArg Outcome.result (bind_of_ok (destroyNetns_returns _))
      | ok pid => rfl

/-- `boot_pod` from the runtime on. -/
def finishBoot (cfg : ManagerConfig api) (env : BootEnv api) (spec : WorkloadSpec)
    (r : PodSpec × List PreparedMount × IdentityFingerprint × Reservation) : Manager api UInt32 := do
  match ← attempt (bootRuntime cfg env spec r.2.1 r.2.2.2) with
  | .ok handle => do
    recordPod cfg env spec r.1 (r.1.podId.getD spec.workloadId) r.2.2.1 r.2.2.2 handle
    return handle
  | .error e => do
    cancelReservation env (r.1.podId.getD spec.workloadId) r.2.2.2
    fail e

theorem bootPod_eq : bootPod cfg env spec = bootReservation cfg env spec >>= finishBoot cfg env spec := by
  simp only [bootReservation, bind_assoc, pure_bind]
  rfl

/-- The records are those of `w`. -/
structure SameRecords (w t : World api) : Prop where
  pods : t.pods = w.pods
  sources : t.podSourceIps = w.podSourceIps

theorem SameRecords.refl : SameRecords w w := ⟨rfl, rfl⟩

theorem SameRecords.trans {t u : World api} (h : SameRecords w t) (h' : SameRecords t u) : SameRecords w u :=
  ⟨h'.pods.trans h.pods, h'.sources.trans h.sources⟩

theorem SameRecords.of_books {t : World api} (h : t.books = w.books) : SameRecords w t where
  pods := congrArg Books.pods h
  sources := congrArg Books.podSourceIps h

/-- The pair of a reservation is the one that the pool gives next. -/
structure Reserved (cfg : ManagerConfig api) (w : World api) (podId : String) (r : Reservation) : Prop where
  pair : ∃ ips, w.ips.allocateP2pPair podId = .ok ((r.gwIp, r.wlIp), ips)
  registered : r.registeredIp = if cfg.srcIdentity then some ⟨r.wlIp⟩ else none

theorem wp_reservePair_records {podId workloadId : String} {fp : IdentityFingerprint} :
    wp (fun _ => True) (reservePair cfg env podId workloadId fp) (fun r t => SameRecords w t ∧ Reserved cfg w podId r)
      (fun _ => SameRecords w) w := by
  rw [reservePair, wp_bind, wp_get, wp_bind]
  refine wp_ofExcept (fun pair hok => ?_) fun _ _ => .refl
  obtain ⟨⟨gw, wl⟩, ips⟩ := pair
  refine wp_bind.mpr (wp_modify.mpr ⟨trivial, wp_bind.mpr ?_⟩)
  have counted : ∀ (t : World api) registered, SameRecords w t →
      (registered = if cfg.srcIdentity then some ⟨wl⟩ else none) → wp (fun _ => True) (do
        when (cfg.ebpfManager && !env.ebpfLockPoisoned && env.prepopulate.isNone) (modify fun w =>
          { w with podNetCounters := w.podNetCounters.insert wl {} })
        return ⟨gw, wl, registered⟩ : Manager api Reservation)
        (fun r t => SameRecords w t ∧ Reserved cfg w podId r) (fun _ => SameRecords w) t := by
    intro t registered ht hregistered
    have done : ∀ t, SameRecords w t → wp (fun _ => True) (return ⟨gw, wl, registered⟩ : Manager api Reservation)
        (fun r t => SameRecords w t ∧ Reserved cfg w podId r) (fun _ => SameRecords w) t :=
      fun t ht => wp_pure.mpr ⟨ht, ⟨ips, hok⟩, hregistered⟩
    exact wp_bind.mpr (wp_when (fun _ => wp_modify.mpr ⟨trivial, done _ ⟨ht.pods, ht.sources⟩⟩) fun _ => done _ ht)
  rw [registerWorkload]
  split
  · next hreg =>
    rw [wp_bind, wp_attempt]
    cases env.register with
    | some e => exact wp_fail.mpr (wp_bind.mpr (wp_modify.mpr ⟨trivial, wp_fail.mpr ⟨rfl, rfl⟩⟩))
    | none => exact wp_modify.mpr ⟨trivial, wp_pure.mpr (counted _ _ ⟨rfl, rfl⟩ (if_pos hreg).symm)⟩
  · next hreg => exact wp_pure.mpr (counted _ _ ⟨rfl, rfl⟩ (if_neg hreg).symm)

theorem wp_bootReservation : wp (fun _ => True) (bootReservation cfg env spec)
    (fun r t => spec.podSpec = some r.1 ∧ SameRecords w t ∧ Reserved cfg w spec.effectiveId r.2.2.2)
    (fun _ => SameRecords w) w := by
  unfold bootReservation
  cases hspec : spec.podSpec with
  | none => exact wp_bind.mpr (wp_orFail_none.mpr .refl)
  | some podSpec =>
    rw [wp_bind, wp_orFail_some, effectiveId_eq hspec]
    refine wp_bind.mpr (wp_ofExcept (fun mounts _ => ?_) fun _ _ => .refl)
    refine wp_bind.mpr (wp_ofExcept (fun fp _ => ?_) fun _ _ => .refl)
    refine wp_bind.mpr (wp_requestDelegatedKey (fun _ => trivial) fun k => wp_bind.mpr ?_)
    have keyed : SameRecords w { w with delegatedKeys := k } := ⟨rfl, rfl⟩
    exact wp_reservePair_records.mono (fun _ => id) (fun r t ht => wp_pure.mpr ⟨rfl, keyed.trans ht.1, ht.2.1, ht.2.2⟩)
      fun _ _ => keyed.trans

theorem wp_bootRuntime_answer {mounts : List PreparedMount} {reservation : Reservation}
    (hspec : spec.podSpec = some podSpec) :
    wp (fun _ => True) (bootRuntime cfg env spec mounts reservation)
      (fun pid t => SameRecords w t ∧ (spec.runtime = .containerd → env.containerAnswer = .ok pid))
      (fun _ => SameRecords w) w := by
  cases hruntime : spec.runtime with
  | containerd =>
    rw [bootRuntime, hruntime]
    exact (wp_bootContainerd_answer hspec).mono (fun _ => id) (fun pid t ht => ⟨.of_books ht.1, fun _ => ht.2⟩)
      fun e t ht => .of_books ht.1
  | cloudHypervisor =>
    exact (bootRuntime_steps hspec).mono (fun _ _ => trivial) (fun pid t ht => ⟨.of_books ht.1, by rintro ⟨⟩⟩)
      fun e t ht => .of_books ht.1

/-- The records with a booted pod more. -/
structure AddsRecord (cfg : ManagerConfig api) (spec : WorkloadSpec) (ip : UInt32) (w t : World api) : Prop where
  pod : ∃ pod, t.pods = w.pods.addPod pod ∧ pod.podId = spec.effectiveId ∧ pod.runtime = spec.runtime
  source : t.podSourceIps = if cfg.srcIdentity then w.podSourceIps.insert spec.effectiveId ip else w.podSourceIps

theorem AddsRecord.others {spec : WorkloadSpec} {ip : UInt32} {w t : World api} (adds : AddsRecord cfg spec ip w t)
    {podId : String} (hne : podId ≠ spec.effectiveId) :
    t.pods.getPod podId = w.pods.getPod podId ∧ t.podSourceIps.get podId = w.podSourceIps.get podId := by
  obtain ⟨pod, hpods, hid, -⟩ := adds.pod
  constructor
  · rw [hpods, PodManager.getPod_addPod, if_neg (by rwa [hid])]
  · rw [adds.source]
    split
    · exact FinMap.get_insert_ne _ _ hne
    · rfl

theorem AddsRecord.runtime {spec : WorkloadSpec} {ip : UInt32} {w t : World api} (adds : AddsRecord cfg spec ip w t)
    {pod : Pod} (hpod : t.pods.getPod spec.effectiveId = some pod) : pod.runtime = spec.runtime := by
  obtain ⟨added, hpods, hid, hruntime⟩ := adds.pod
  rw [hpods, PodManager.getPod_addPod, if_pos hid.symm] at hpod
  rw [← Option.some.inj hpod, hruntime]

theorem wp_recordPod_records {fp : IdentityFingerprint} {r : Reservation} {handle : UInt32} {w₀ : World api}
    (hreserved : Reserved cfg w₀ spec.effectiveId r) :
    wp (fun _ => True) (recordPod cfg env spec podSpec spec.effectiveId fp r handle)
      (fun _ => AddsRecord cfg spec r.wlIp w) (fun _ _ => False) w := by
  have noted : ∀ t : World api, t.pods = w.pods →
      (t.podSourceIps = if cfg.srcIdentity then w.podSourceIps.insert spec.effectiveId r.wlIp else w.podSourceIps) →
      wp (fun _ => True) (do
        modify fun w => { w with
          pods := w.pods.addPod
            (.booted spec.effectiveId spec.workloadId podSpec.tenantId spec.role spec.runtime fp handle) }
        when cfg.probes (modify fun w => { w with
          probes := w.probes.registerPod spec.effectiveId (.new podSpec.probes env.now) }) : Manager api Unit)
        (fun _ => AddsRecord cfg spec r.wlIp w) (fun _ _ => False) t := by
    intro t hpods hsource
    have adds : ∀ probes, AddsRecord cfg spec r.wlIp w { t with
        pods := t.pods.addPod (.booted spec.effectiveId spec.workloadId podSpec.tenantId spec.role spec.runtime fp handle)
        probes := probes } := fun probes => ⟨⟨_, by rw [hpods], rfl, rfl⟩, hsource⟩
    exact wp_bind.mpr (wp_modify.mpr ⟨trivial, wp_when (fun _ => wp_modify.mpr ⟨trivial, adds _⟩) fun _ => adds _⟩)
  have hregistered := hreserved.registered
  rw [recordPod, hregistered]
  split
  · next ip hip =>
    split at hip
    · next hreg =>
      obtain rfl := Option.some.inj hip
      exact wp_bind.mpr (wp_modify.mpr ⟨trivial, noted _ rfl (if_pos hreg).symm⟩)
    · cases hip
  · next hip =>
    split at hip
    · cases hip
    · next hreg => exact noted _ rfl (if_neg hreg).symm

theorem wp_cancelReservation_records {podId : String} {r : Reservation} :
    wp (fun _ => True) (cancelReservation env podId r) (fun _ => SameRecords w) (fun _ _ => False) w := by
  rw [cancelReservation]
  split
  · exact wp_bind.mpr (wp_unregisterSource trivial fun _ => wp_modify.mpr ⟨trivial, rfl, rfl⟩)
  · exact wp_modify.mpr ⟨trivial, rfl, rfl⟩

/-- What a boot does to the records. -/
theorem wp_bootPod_records : wp (fun _ => True) (bootPod cfg env spec)
    (fun pid t => ∃ r, (bootReservation cfg env spec w).result = .ok r ∧ spec.podSpec = some r.1 ∧
      Reserved cfg w spec.effectiveId r.2.2.2 ∧ (spec.runtime = .containerd → env.containerAnswer = .ok pid) ∧
      AddsRecord cfg spec r.2.2.2.wlIp w t)
    (fun _ => SameRecords w) w := by
  rw [bootPod_eq, wp_bind]
  refine wp_bootReservation.with_result.mono (fun _ => id) (fun r t ht => ?_) fun _ _ ht => ht.1
  obtain ⟨⟨hspec, same, reserved⟩, hresult⟩ := ht
  rw [finishBoot, effectiveId_eq hspec]
  refine wp_bind.mpr (wp_attempt.mpr ((wp_bootRuntime_answer hspec).mono (fun _ => id) (fun pid u hu => ?_)
    fun e u hu => ?_))
  · refine wp_bind.mpr ((wp_recordPod_records reserved).mono (fun _ => id) (fun _ v hv => wp_pure.mpr ?_) fun _ _ =>
      False.elim)
    refine ⟨r, hresult, hspec, reserved, hu.2, ?_⟩
    have before := same.trans hu.1
    obtain ⟨hpod, hips⟩ := hv
    rw [before.pods] at hpod
    rw [before.sources] at hips
    exact ⟨hpod, hips⟩
  · refine wp_bind.mpr (wp_cancelReservation_records.mono (fun _ => id) (fun _ v hv => wp_fail.mpr ?_) fun _ _ =>
      False.elim)
    exact same.trans (hu.trans hv)

end Answers

/-! ### Evictions -/

section Evict
variable {api : SpiffeApi} {cfg : ManagerConfig api} {env : EvictEnv} {podId : String} {w : World api}

theorem wp_releaseSource_records {runtime : RuntimeKind} : wp (fun _ => True) (releaseSource cfg env podId runtime)
    (fun _ t => t.pods = w.pods ∧ ∀ p, p ≠ podId → t.podSourceIps.get p = w.podSourceIps.get p) (fun _ _ => False) w := by
  rw [releaseSource, wp_bind, wp_get]
  split
  · exact wp_pure.mpr ⟨rfl, fun _ _ => rfl⟩
  · refine wp_bind.mpr (wp_modify.mpr ⟨trivial, wp_bind.mpr ?_⟩)
    have rest : ∀ t : World api, t.pods = w.pods → t.podSourceIps = w.podSourceIps.remove podId → wp (fun _ => True) (do
          releasePair podId
          when (runtime = .containerd) (destroyNetns env.netnsDel podId) : Manager api Unit)
        (fun _ t => t.pods = w.pods ∧ ∀ p, p ≠ podId → t.podSourceIps.get p = w.podSourceIps.get p)
        (fun _ _ => False) t := by
      intro t hpods hsource
      have others : ∀ p, p ≠ podId → t.podSourceIps.get p = w.podSourceIps.get p := fun p hp => by
        rw [hsource]
        exact FinMap.get_remove_ne _ hp
      refine wp_bind.mpr (wp_modify.mpr ⟨trivial, wp_when (fun _ => ?_) fun _ => ⟨hpods, others⟩⟩)
      exact wp_destroyNetns (fun _ => trivial) fun _ => ⟨hpods, others⟩
    refine wp_when (fun _ => wp_bind.mpr (wp_unregisterSource trivial fun _ => wp_pure.mpr ?_)) fun _ => rest _ rfl rfl
    exact rest _ rfl rfl

/-- What an eviction leaves of the records: those of the other pods, and of its own at most one that is no longer live. -/
structure Evicts (podId : String) (w t : World api) : Prop where
  pods : ∀ p, p ≠ podId → t.pods.getPod p = w.pods.getPod p
  sources : ∀ p, p ≠ podId → t.podSourceIps.get p = w.podSourceIps.get p
  own : ∀ pod, t.pods.getPod podId = some pod → ¬ pod.Live ∧ ∃ old, w.pods.getPod podId = some old ∧
    pod.runtime = old.runtime

theorem beginEviction_runtime (pod : Pod) : pod.beginEviction.runtime = pod.runtime := by
  unfold Pod.beginEviction
  split <;> rfl

theorem beginEviction_not_live (pod : Pod) : ¬ pod.beginEviction.Live := by
  intro live
  have state := pod.beginEviction_state
  unfold Pod.Live at live
  split at state
  · exact live.1 state
  · next dead => exact dead ⟨state ▸ live.1, state ▸ live.2⟩

theorem Evicts.begun : Evicts podId w (w.withEviction cfg podId) := by
  refine ⟨fun p hp => ?_, fun _ _ => rfl, fun pod hpod => ?_⟩
  · exact (PodManager.getPod_modifyPod _ Pod.beginEviction_podId _).trans (if_neg hp)
  · obtain ⟨old, hold, rfl⟩ :=
      Option.map_eq_some_iff.mp
        (((PodManager.getPod_modifyPod _ Pod.beginEviction_podId _).trans (if_pos rfl)).symm.trans hpod)
    exact ⟨beginEviction_not_live old, old, hold, beginEviction_runtime old⟩

theorem Evicts.released {t u : World api} (h : Evicts podId w t) (hpods : u.pods = t.pods)
    (hsource : ∀ p, p ≠ podId → u.podSourceIps.get p = t.podSourceIps.get p) : Evicts podId w u := by
  refine ⟨fun p hp => ?_, fun p hp => (hsource p hp).trans (h.sources p hp), fun pod hpod => ?_⟩
  · rw [hpods]
    exact h.pods p hp
  · rw [hpods] at hpod
    exact h.own pod hpod

theorem Evicts.of_books {t : World api} (h : t.books = (w.withEviction cfg podId).books) : Evicts podId w t := by
  have hsource : t.podSourceIps = (w.withEviction cfg podId).podSourceIps := congrArg Books.podSourceIps h
  have begun : Evicts podId w (w.withEviction cfg podId) := .begun
  refine begun.released (congrArg Books.pods h) fun p _ => ?_
  rw [hsource]

theorem wp_evictPod_records :
    wp (fun _ => True) (evictPod cfg env podId) (fun _ => Evicts podId w) (fun _ => Evicts podId w) w := by
  refine wp_evictPod (fun _ hnone => ?_) (fun _ _ _ => trivial) fun pod hpod => ?_
  · exact ⟨fun _ _ => rfl, fun _ _ => rfl, fun pod hpod => by rw [hnone] at hpod; cases hpod⟩
  · refine stopRuntime_steps.mono (fun _ _ => trivial) (fun _ t ht => ?_) fun _ t ht => ?_
    · refine wp_releaseSource_records.mono (fun _ => id) (fun _ u hu => ?_) fun _ _ => False.elim
      have released := (Evicts.of_books ht.1).released hu.1 hu.2
      refine ⟨fun _ _ => released, fun _ => ⟨trivial, fun p hp => ?_, released.sources, fun pod hpod => ?_⟩⟩
      · refine Eq.trans ?_ (released.pods p hp)
        exact FinMap.get_remove_ne _ hp
      · exact absurd rfl (PodManager.getPod_removePod_eq_some.mp hpod).1
    · exact .of_books ht.1.1

end Evict

/-! ### One operation -/

namespace ContainerNode
variable {api : SpiffeApi} {ip : IpTool} {containerd : Containerd} {cfg : ManagerConfig api}
  {n : ContainerNode api ip containerd} {spec : WorkloadSpec} {env : BootEnv api} {adapter : ContainerdEnv}

/-- The boot reached the host. -/
structure Reached (cfg : ManagerConfig api) (n : ContainerNode api ip containerd) (spec : WorkloadSpec)
    (env : BootEnv api) (adapter : ContainerdEnv)
    (r : PodSpec × List PreparedMount × IdentityFingerprint × Reservation) : Prop where
  podSpec : spec.podSpec = some r.1
  reservation : (bootReservation cfg (n.answerBoot cfg spec env adapter).1 spec n.world).result = .ok r
  answer : (n.answerBoot cfg spec env adapter).1.containerAnswer =
    (ContainerHost.bootContainerd adapter spec r.2.1 r.2.2.2.wlIp r.2.2.2.gwIp n.host).result
  after : (n.answerBoot cfg spec env adapter).2 =
    (ContainerHost.bootContainerd adapter spec r.2.1 r.2.2.2.wlIp r.2.2.2.gwIp n.host).final

/-- A boot reaches the host, or leaves it alone. -/
theorem answerBoot_cases (cfg : ManagerConfig api) (n : ContainerNode api ip containerd) (spec : WorkloadSpec)
    (env : BootEnv api) (adapter : ContainerdEnv) :
    (∃ r, Reached cfg n spec env adapter r) ∨ (n.answerBoot cfg spec env adapter = (env, n.host) ∧
      (spec.runtime = .containerd → ∀ r, (bootReservation cfg env spec n.world).result ≠ .ok r)) := by
  cases hruntime : spec.runtime with
  | cloudHypervisor =>
    refine Or.inr ⟨?_, by rintro ⟨⟩⟩
    rw [answerBoot, hruntime]
  | containerd =>
    cases hr : (bootReservation cfg env spec n.world).result with
    | error e => exact Or.inr ⟨by rw [answerBoot, hruntime, hr], by rintro - r ⟨⟩⟩
    | ok r =>
      obtain ⟨hspec, -⟩ := wp_bootReservation.of_ok hr
      refine Or.inl ⟨r, hspec, ?_, ?_, ?_⟩
      · rw [answerBoot, hruntime, hr]
        exact hr
      · symm
        refine containerAnswer_eq hspec _ _ _ _ ?_ ?_ ?_ <;> rw [answerBoot, hruntime, hr]
      · rw [answerBoot, hruntime, hr]

/-- A boot that succeeds adds a record; one that fails changes none. -/
theorem boot_records (cfg : ManagerConfig api) (n : ContainerNode api ip containerd) (spec : WorkloadSpec)
    (env : BootEnv api) (adapter : ContainerdEnv) :
    (∃ pid wlIp, n.bootResult cfg spec env adapter = .ok pid ∧
      AddsRecord cfg spec wlIp n.world (n.step cfg (.boot spec env adapter)).world) ∨
    ∃ e, n.bootResult cfg spec env adapter = .error e ∧
      SameRecords n.world (n.step cfg (.boot spec env adapter)).world := by
  obtain ⟨pid, hok, r, -, -, -, -, adds⟩ | failed :=
    (wp_bootPod_records : wp (fun _ => True) (bootPod cfg (n.answerBoot cfg spec env adapter).1 spec) _ _ n.world).cases
  · exact Or.inl ⟨pid, _, hok, adds⟩
  · exact Or.inr failed

/-- A container boot that succeeds has wired the pod up and put it on record. -/
theorem boot_ok (net : IpLaws ip) (daemon : ContainerdLaws containerd) {pid : UInt32}
    (hruntime : spec.runtime = .containerd) (hok : n.bootResult cfg spec env adapter = .ok pid) :
    ∃ reservation, Reserved cfg n.world spec.effectiveId reservation ∧
      ContainerHost.Booted net daemon spec.effectiveId reservation.wlIp reservation.gwIp n.host
        (n.step cfg (.boot spec env adapter)).host ∧
      AddsRecord cfg spec reservation.wlIp n.world (n.step cfg (.boot spec env adapter)).world := by
  obtain ⟨r', hr', hspec, reserved, answer, adds⟩ := wp_bootPod_records.of_ok hok
  obtain ⟨r, reached⟩ | ⟨same, unreached⟩ := answerBoot_cases cfg n spec env adapter
  · obtain rfl := Except.ok.inj (reached.reservation.symm.trans hr')
    refine ⟨r.2.2.2, reserved, ?_, adds⟩
    have booted := (ContainerHost.wp_bootContainerd net daemon hspec).of_ok (reached.answer.symm.trans (answer hruntime))
    rwa [← reached.after] at booted
  · rw [same] at hr'
    exact absurd hr' (unreached hruntime r')

/-- What a boot leaves true of the host. -/
theorem boot_host {J : ContainerHost ip containerd → Prop} (hJ : J n.host)
    (hreached : ∀ podSpec mounts wlIp gwIp, spec.podSpec = some podSpec →
      J (ContainerHost.bootContainerd adapter spec mounts wlIp gwIp n.host).final) :
    J (n.step cfg (.boot spec env adapter)).host := by
  show J (n.answerBoot cfg spec env adapter).2
  obtain ⟨r, reached⟩ | ⟨same, -⟩ := answerBoot_cases cfg n spec env adapter
  · rw [reached.after]
    exact hreached _ _ _ _ reached.podSpec
  · rwa [same]

theorem boot_preserves {J : ContainerHost ip containerd → Prop} (hJ : J n.host)
    (h : ∀ mounts wlIp gwIp, Preserves J (ContainerHost.bootContainerd adapter spec mounts wlIp gwIp)) :
    J (n.step cfg (.boot spec env adapter)).host :=
  boot_host hJ fun _ _ _ _ _ => (h _ _ _ _ hJ).final

/-- A boot of a pod whose namespace is there undoes nothing. -/
theorem boot_of_netns (net : IpLaws ip) (hnetns : net.holds n.host.net (.netns spec.effectiveId)) :
    (∀ f, net.holds n.host.net f → net.holds (n.step cfg (.boot spec env adapter)).host.net f) ∧
      (n.step cfg (.boot spec env adapter)).host.adapter = n.host.adapter :=
  boot_host (J := fun t => (∀ f, net.holds n.host.net f → net.holds t.net f) ∧ t.adapter = n.host.adapter)
    ⟨fun _ => id, rfl⟩ fun _ _ _ _ hspec =>
      ((ContainerHost.wp_bootContainerd_of_netns net hspec hnetns).mono (fun _ => id) (fun _ _ => False.elim)
        fun _ _ => id).final

/-- What an eviction leaves true of the host. -/
theorem evict_preserves {J : ContainerHost ip containerd → Prop} {podId : String} {env : EvictEnv} (hJ : J n.host)
    (h : ∀ pod sourced, n.world.pods.getPod podId = some pod → pod.runtime = .containerd →
      Preserves J (ContainerHost.evictContainer adapter podId sourced)) :
    J (n.step cfg (.evict podId env adapter)).host := by
  show J (n.answerEvict podId env adapter).2
  unfold answerEvict
  split
  · next pod hpod =>
    split
    · next hruntime => exact (h pod _ hpod hruntime _ hJ).final
    · exact hJ
  · exact hJ

theorem evict_records (cfg : ManagerConfig api) (n : ContainerNode api ip containerd) (podId : String) (env : EvictEnv)
    (adapter : ContainerdEnv) :
    Evicts podId n.world (n.step cfg (.evict podId env adapter)).world :=
  wp_evictPod_records.final

end ContainerNode

end FleetosAgent.Workloads
