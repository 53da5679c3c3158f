import FleetosAgent.Lib.Run
import FleetosAgent.Theorems.ContainerSteps

/-! # Containers over runs of a node

What holds of the namespaces and containers of a node in every run, for whatever `ip` and whatever containerd have their
laws: whichever of their runs and calls fail, and however often the agent restarts. -/

namespace FleetosAgent.Workloads
open Lib Traced Netns NodeIpAllocator

namespace ContainerNode
variable {api : SpiffeApi} {ip : IpTool} {containerd : Containerd} {net : IpLaws ip} {daemon : ContainerdLaws containerd}
  {cfg : ManagerConfig api} {n : ContainerNode api ip containerd} {podId : String}

/-! ### Pods on record -/

section States
variable (net : IpLaws ip) (daemon : ContainerdLaws containerd)

/-- The container of a pod is there, and its namespace is wired up with the pair that its source address is from. -/
structure WiredUp (cfg : ManagerConfig api) (n : ContainerNode api ip containerd) (podId : String) : Prop where
  container : daemon.has n.host.adapter.daemon podId
  pair : ∃ wlIp gwIp, gwIp + 1 = wlIp ∧ (∀ f ∈ wiring podId wlIp gwIp, net.holds n.host.net f) ∧
    (cfg.srcIdentity = true → n.world.podSourceIps.get podId = some wlIp)

/-- Every live container on record is wired up. -/
def Sound (cfg : ManagerConfig api) (n : ContainerNode api ip containerd) : Prop :=
  ∀ podId pod, n.world.pods.getPod podId = some pod → pod.runtime = .containerd → pod.Live → WiredUp net daemon cfg n podId

/-- The host holds a namespace or a container of a pod that the agent has no container on record for. -/
structure Stranded (podId : String) (n : ContainerNode api ip containerd) : Prop where
  unrecorded : ∀ pod, n.world.pods.getPod podId = some pod → pod.runtime = .cloudHypervisor
  held : net.holds n.host.net (.netns podId) ∨ daemon.has n.host.adapter.daemon podId

end States

theorem WiredUp.netns (h : WiredUp net daemon cfg n podId) : net.holds n.host.net (.netns podId) := by
  obtain ⟨wlIp, gwIp, -, wired, -⟩ := h.pair
  exact wired _ List.mem_cons_self

/-- The name of the host's veth is taken. -/
theorem WiredUp.veth (h : WiredUp net daemon cfg n podId) :
    ∃ peer trait, net.holds n.host.net (.host (hostVethName podId) peer trait) := by
  obtain ⟨wlIp, gwIp, -, wired, -⟩ := h.pair
  exact ⟨_, _, wired _ (List.mem_cons_of_mem _ List.mem_cons_self)⟩

theorem WiredUp.keep {t : ContainerNode api ip containerd} (h : WiredUp net daemon cfg n podId)
    (facts : ∀ wlIp gwIp, ∀ f ∈ wiring podId wlIp gwIp, net.holds n.host.net f → net.holds t.host.net f)
    (container : daemon.has n.host.adapter.daemon podId → daemon.has t.host.adapter.daemon podId)
    (source : t.world.podSourceIps.get podId = n.world.podSourceIps.get podId) : WiredUp net daemon cfg t podId := by
  obtain ⟨wlIp, gwIp, hpair, wired, hsource⟩ := h.pair
  exact ⟨container h.container, wlIp, gwIp, hpair, fun f hf => facts wlIp gwIp f hf (wired f hf),
    fun hreg => source.trans (hsource hreg)⟩

theorem pair_adjacent {w : World api} {r : Reservation} (h : Reserved cfg w podId r) : r.gwIp + 1 = r.wlIp := by
  obtain ⟨ips, hok⟩ := h.pair
  obtain ⟨o, took⟩ := allocateP2pPair_took hok
  rw [took.gateway, took.workload, addr, addr, ← Nat.add_assoc]
  exact (UInt32.ofNat_add _ _).symm

theorem WiredUp.of_booted {spec : WorkloadSpec} {r : Reservation} {t : ContainerNode api ip containerd}
    (reserved : Reserved cfg n.world spec.effectiveId r)
    (booted : ContainerHost.Booted net daemon spec.effectiveId r.wlIp r.gwIp n.host t.host)
    (adds : AddsRecord cfg spec r.wlIp n.world t.world) : WiredUp net daemon cfg t spec.effectiveId := by
  refine ⟨booted.container, r.wlIp, r.gwIp, pair_adjacent reserved, booted.wired, fun hreg => ?_⟩
  rw [adds.source, if_pos hreg]
  exact FinMap.get_insert_self _ _ _

theorem WiredUp.boot_other (h : WiredUp net daemon cfg n podId) {spec : WorkloadSpec} (hne : podId ≠ spec.effectiveId)
    (env : BootEnv api) (adapter : ContainerdEnv)
    (source : (n.step cfg (.boot spec env adapter)).world.podSourceIps.get podId = n.world.podSourceIps.get podId) :
    WiredUp net daemon cfg (n.step cfg (.boot spec env adapter)) podId := by
  refine h.keep (fun wlIp gwIp f hf held => ?_) (fun held => ?_) source
  · obtain ⟨hdel, hmove⟩ := wiring_kept hne f hf
    exact boot_preserves (J := fun h => net.holds h.net f) held fun _ _ _ =>
      ContainerHost.bootContainerd_keeps net hdel hmove
  · exact boot_preserves (J := fun h => daemon.has h.adapter.daemon podId) held fun _ _ _ =>
      ContainerHost.bootContainerd_keeps_container daemon

theorem WiredUp.boot_refused (h : WiredUp net daemon cfg n podId) {spec : WorkloadSpec} (hid : podId = spec.effectiveId)
    (env : BootEnv api) (adapter : ContainerdEnv)
    (source : (n.step cfg (.boot spec env adapter)).world.podSourceIps.get podId = n.world.podSourceIps.get podId) :
    WiredUp net daemon cfg (n.step cfg (.boot spec env adapter)) podId := by
  obtain ⟨kept, same⟩ := boot_of_netns net (hid ▸ h.netns)
  refine h.keep (fun _ _ f _ => kept f) (fun held => ?_) source
  rwa [same]

theorem Sound.boot (h : Sound net daemon cfg n) (spec : WorkloadSpec) (env : BootEnv api) (adapter : ContainerdEnv) :
    Sound net daemon cfg (n.step cfg (.boot spec env adapter)) := by
  intro podId pod hpod hcontainer live
  obtain ⟨pid, wlIp, hok, adds⟩ | ⟨e, -, same⟩ := boot_records cfg n spec env adapter
  · by_cases hid : podId = spec.effectiveId
    · subst hid
      obtain ⟨r, reserved, booted, adds⟩ := boot_ok net daemon ((adds.runtime hpod).symm.trans hcontainer) hok
      exact .of_booted reserved booted adds
    · obtain ⟨hpods, hsource⟩ := adds.others hid
      exact (h podId pod (hpods.symm.trans hpod) hcontainer live).boot_other hid env adapter hsource
  · rw [same.pods] at hpod
    have before := h podId pod hpod hcontainer live
    have hsource : _ = n.world.podSourceIps.get podId := congrArg (fun m => FinMap.get m podId) same.sources
    by_cases hid : podId = spec.effectiveId
    · exact before.boot_refused hid env adapter hsource
    · exact before.boot_other hid env adapter hsource

theorem Sound.evict (h : Sound net daemon cfg n) (podId : String) (env : EvictEnv) (adapter : ContainerdEnv) :
    Sound net daemon cfg (n.step cfg (.evict podId env adapter)) := by
  intro p pod hpod hcontainer live
  have evicts := evict_records cfg n podId env adapter
  by_cases hid : p = podId
  · subst hid
    exact absurd live (evicts.own pod hpod).1
  · have before := h p pod ((evicts.pods p hid).symm.trans hpod) hcontainer live
    refine before.keep (fun _ _ f hf held => ?_) (fun held => ?_) (evicts.sources p hid)
    · exact evict_preserves (J := fun h => net.holds h.net f) held fun _ _ _ _ =>
        ContainerHost.evictContainer_keeps net (wiring_kept hid f hf).1
    · exact evict_preserves (J := fun h => daemon.has h.adapter.daemon p) held fun _ _ _ _ =>
        ContainerHost.evictContainer_keeps_container daemon hid

theorem Sound.step (h : Sound net daemon cfg n) (op : NodeOp api) : Sound net daemon cfg (n.step cfg op) := by
  cases op with
  | boot spec env adapter => exact h.boot spec env adapter
  | evict podId env adapter => exact h.evict podId env adapter
  | setHosts content =>
    intro podId pod hpod hcontainer live
    exact (h podId pod hpod hcontainer live).keep (fun _ _ _ _ => id) id rfl
  | restart ips =>
    intro podId pod hpod
    cases hpod

theorem Sound.run (h : Sound net daemon cfg n) (ops : List (NodeOp api)) :
    Sound net daemon cfg (ops.foldl (ContainerNode.step cfg) n) := by
  induction ops generalizing n with
  | nil => exact h
  | cons op ops ih => exact ih (h.step op)

/-- A node whose agent has just started. -/
def started (ips : NodeIpAllocator) (netns : Finset String) (host : ContainerHost ip containerd) :
    ContainerNode api ip containerd :=
  ⟨{ ips := ips, netns := netns }, host⟩

theorem sound_started (ips : NodeIpAllocator) (netns : Finset String) (host : ContainerHost ip containerd) :
    Sound net daemon cfg (started ips netns host) := by
  intro podId pod hpod
  cases hpod

/-- In every run, whichever runs of `ip` and calls to containerd fail and however often the agent restarts, every live
    container on record is there and its namespace is wired up: with an `eth0` that is up with the pod's source address,
    at the other end of a host veth that is up with the address below it, and a default route. -/
theorem live_containers_are_wired (net : IpLaws ip) (daemon : ContainerdLaws containerd) (cfg : ManagerConfig api)
    (ips : NodeIpAllocator) (netns : Finset String) (host : ContainerHost ip containerd) (ops : List (NodeOp api))
    (podId : String) (pod : Pod)
    (hpod : (ops.foldl (ContainerNode.step cfg) (started ips netns host)).world.pods.getPod podId = some pod)
    (hcontainer : pod.runtime = .containerd) (live : pod.Live) :
    WiredUp net daemon cfg (ops.foldl (ContainerNode.step cfg) (started ips netns host)) podId := by
  exact (sound_started ips netns host).run ops podId pod hpod hcontainer live

/-- The first boot of a container. -/
def webBoot : NodeOp textApi := .boot (sampleSpec "web" .containerd) sampleBoot {}

/-- A host with these facts and failing runs of `ip`, and with these tasks that do not start. -/
def sampleNode (facts : List Fact) (faults : List IpCall) (unstartable : List String) :
    ContainerNode textApi FactNet.tool IdTable.daemon :=
  started samplePool ∅ ⟨⟨facts, faults⟩, { daemon := ⟨[], unstartable⟩ }⟩

theorem booted_web_is_wired : ∃ pod,
    ([webBoot].foldl (ContainerNode.step sampleConfig) (sampleNode [] [] [])).world.pods.getPod "web" = some pod ∧
    WiredUp FactNet.laws IdTable.laws sampleConfig
      ([webBoot].foldl (ContainerNode.step sampleConfig) (sampleNode [] [] [])) "web" :=
  ⟨_, rfl, live_containers_are_wired FactNet.laws IdTable.laws sampleConfig samplePool ∅ _ [webBoot] "web" _ rfl rfl
    (by decide)⟩

/-- While a container is live, no boot succeeds of a pod whose veth has the same name: not of itself, and not of one whose
    hash it shares. -/
theorem colliding_veth_refuses_boot (net : IpLaws ip) (daemon : ContainerdLaws containerd) (cfg : ManagerConfig api)
    (ips : NodeIpAllocator) (netns : Finset String) (host : ContainerHost ip containerd) (ops : List (NodeOp api))
    (podId : String) (pod : Pod)
    (hpod : (ops.foldl (ContainerNode.step cfg) (started ips netns host)).world.pods.getPod podId = some pod)
    (hcontainer : pod.runtime = .containerd) (live : pod.Live) (spec : WorkloadSpec) (env : BootEnv api)
    (adapter : ContainerdEnv) (hruntime : spec.runtime = .containerd)
    (hname : hostVethName spec.effectiveId = hostVethName podId) :
    ∃ e, (ops.foldl (ContainerNode.step cfg) (started ips netns host)).bootResult cfg spec env adapter = .error e := by
  have up : WiredUp net daemon cfg _ podId := (sound_started ips netns host).run ops podId pod hpod hcontainer live
  obtain ⟨peer, trait, taken⟩ := up.veth
  generalize ops.foldl (ContainerNode.step cfg) (started ips netns host) = n at taken
  cases hresult : n.bootResult cfg spec env adapter with
  | error e => exact ⟨e, rfl⟩
  | ok pid =>
    obtain ⟨r, -, booted, -⟩ := boot_ok net daemon hruntime hresult
    exact absurd hname.symm (booted.free _ _ _ taken).1

def longBoot : NodeOp textApi := .boot (sampleSpec "web-frontend-0" .containerd) sampleBoot {}

theorem hash_shaped_id_is_refused : ∃ pod,
    ([longBoot].foldl (ContainerNode.step sampleConfig) (sampleNode [] [] [])).world.pods.getPod "web-frontend-0" =
      some pod ∧
    ∃ e, ([longBoot].foldl (ContainerNode.step sampleConfig) (sampleNode [] [] [])).bootResult sampleConfig
      (sampleSpec "5ed9e5a39c" .containerd) sampleBoot {} = .error e :=
  ⟨_, rfl, colliding_veth_refuses_boot FactNet.laws IdTable.laws sampleConfig samplePool ∅ _ [longBoot]
    "web-frontend-0" _ rfl
    rfl (by decide) _ _ _ rfl (by decide)⟩

/-! ### Stranded pods -/

/-- The operation does not boot the container of this pod. -/
def NeverBoots (cfg : ManagerConfig api) (podId : String) (n : ContainerNode api ip containerd) (op : NodeOp api) : Prop :=
  ∀ spec env adapter, op = .boot spec env adapter → spec.effectiveId = podId → spec.runtime = .containerd →
    ∃ e, n.bootResult cfg spec env adapter = .error e

theorem Stranded.never_boots (h : Stranded net daemon podId n) (op : NodeOp api) : NeverBoots cfg podId n op := by
  rintro spec env adapter - rfl hruntime
  cases hresult : n.bootResult cfg spec env adapter with
  | error e => exact ⟨e, rfl⟩
  | ok pid =>
    obtain ⟨r, -, booted, -⟩ := boot_ok net daemon hruntime hresult
    obtain held | held := h.held
    · exact absurd held booted.no_netns
    · exact absurd held booted.no_container

/-- A boot leaves a namespace that was there, also the pod's own, and every container. -/
theorem Stranded.boot_held (h : Stranded net daemon podId n) (spec : WorkloadSpec) (env : BootEnv api)
    (adapter : ContainerdEnv) :
    net.holds (n.step cfg (.boot spec env adapter)).host.net (.netns podId) ∨
      daemon.has (n.step cfg (.boot spec env adapter)).host.adapter.daemon podId := by
  obtain held | held := h.held
  · left
    by_cases hid : podId = spec.effectiveId
    · exact (boot_of_netns net (hid ▸ held)).1 _ held
    · have spared : IpCall.undoes ⟨none, .netnsDel spec.effectiveId⟩ (.netns podId) = false := decide_eq_false hid
      exact boot_preserves (J := fun h => net.holds h.net (.netns podId)) held fun _ _ _ =>
        ContainerHost.bootContainerd_keeps net spared rfl
  · exact Or.inr (boot_preserves (J := fun h => daemon.has h.adapter.daemon podId) held fun _ _ _ =>
      ContainerHost.bootContainerd_keeps_container daemon)

theorem Stranded.boot (h : Stranded net daemon podId n) (spec : WorkloadSpec) (env : BootEnv api)
    (adapter : ContainerdEnv) :
    Stranded net daemon podId (n.step cfg (.boot spec env adapter)) := by
  refine ⟨fun pod hpod => ?_, h.boot_held spec env adapter⟩
  obtain ⟨pid, wlIp, hok, adds⟩ | ⟨e, -, same⟩ := boot_records cfg n spec env adapter
  · by_cases hid : podId = spec.effectiveId
    · subst hid
      cases hruntime : spec.runtime with
      | cloudHypervisor => exact (adds.runtime hpod).trans hruntime
      | containerd =>
        obtain ⟨e, failed⟩ := h.never_boots (.boot spec env adapter) spec env adapter rfl rfl hruntime
        rw [hok] at failed
        cases failed
    · exact h.unrecorded pod ((adds.others hid).1.symm.trans hpod)
  · exact h.unrecorded pod (same.pods ▸ hpod)

theorem Stranded.evict (h : Stranded net daemon podId n) (other : String) (env : EvictEnv) (adapter : ContainerdEnv) :
    Stranded net daemon podId (n.step cfg (.evict other env adapter)) := by
  have evicts := evict_records cfg n other env adapter
  -- A pod that is not on record as a container is not looked for on the host.
  have elsewhere : ∀ pod, n.world.pods.getPod other = some pod → pod.runtime = .containerd → podId ≠ other := by
    rintro pod hpod hcontainer rfl
    rw [h.unrecorded pod hpod] at hcontainer
    cases hcontainer
  refine ⟨fun pod hpod => ?_, ?_⟩
  · by_cases hid : podId = other
    · subst hid
      obtain ⟨-, old, hold, hruntime⟩ := evicts.own pod hpod
      exact hruntime.trans (h.unrecorded old hold)
    · exact h.unrecorded pod ((evicts.pods podId hid).symm.trans hpod)
  · obtain held | held := h.held
    · refine Or.inl (evict_preserves (J := fun h => net.holds h.net (.netns podId)) held fun pod _ hpod hcontainer => ?_)
      exact ContainerHost.evictContainer_keeps net (decide_eq_false (elsewhere pod hpod hcontainer))
    · refine Or.inr (evict_preserves (J := fun h => daemon.has h.adapter.daemon podId) held fun pod _ hpod hcontainer => ?_)
      exact ContainerHost.evictContainer_keeps_container daemon (elsewhere pod hpod hcontainer)

theorem Stranded.step (h : Stranded net daemon podId n) (op : NodeOp api) : Stranded net daemon podId (n.step cfg op) := by
  cases op with
  | boot spec env adapter => exact h.boot spec env adapter
  | evict other env adapter => exact h.evict other env adapter
  | setHosts content => exact ⟨h.unrecorded, h.held⟩
  | restart ips => exact ⟨fun _ hpod => (by cases hpod), h.held⟩

theorem Stranded.run (h : Stranded net daemon podId n) (ops : List (NodeOp api)) :
    Along (ContainerNode.step cfg) (NeverBoots cfg podId) n ops :=
  Along.of_inv (I := Stranded net daemon podId) (C := fun _ _ => True) (fun _ op hs _ => hs.step op)
    (fun _ op hs _ => hs.never_boots op) (fun _ _ _ _ => trivial) h

theorem WiredUp.stranded (h : WiredUp net daemon cfg n podId) (ips : NodeIpAllocator) :
    Stranded net daemon podId (n.step cfg (.restart ips)) :=
  ⟨fun _ hpod => (by cases hpod), Or.inl h.netns⟩

/-- Once the host holds a namespace or a container of a pod that is not on record as a container, no boot of that pod as a
    container ever succeeds: not after any boots and evictions, whatever fails in them, and not after a restart. -/
theorem stranded_pods_never_boot (net : IpLaws ip) (daemon : ContainerdLaws containerd) (cfg : ManagerConfig api)
    (n : ContainerNode api ip containerd) (podId : String)
    (unrecorded : ∀ pod, n.world.pods.getPod podId = some pod → pod.runtime = .cloudHypervisor)
    (held : net.holds n.host.net (.netns podId) ∨ daemon.has n.host.adapter.daemon podId) (ops : List (NodeOp api)) :
    Along (ContainerNode.step cfg) (NeverBoots cfg podId) n ops :=
  Stranded.run ⟨unrecorded, held⟩ ops

/-- The node after a boot whose task could not be started. -/
def unstarted : ContainerNode textApi FactNet.tool IdTable.daemon := (sampleNode [] [] ["web"]).step sampleConfig webBoot

theorem unstarted_web_never_boots : IdTable.laws.has unstarted.host.adapter.daemon "web" ∧
    Along (ContainerNode.step sampleConfig) (NeverBoots sampleConfig "web") unstarted [webBoot] := by
  have held : "web" ∈ IdTable.ids unstarted.host.adapter.daemon := by decide +kernel
  have unrecorded : (unstarted.world.pods.getPod "web").isNone := by decide +kernel
  refine ⟨held, stranded_pods_never_boot FactNet.laws IdTable.laws sampleConfig unstarted "web" (fun pod hpod => ?_)
    (Or.inr held)
    [webBoot]⟩
  rw [hpod] at unrecorded
  cases unrecorded

/-- A restart of the agent strands every live container: it is no longer on record, and cannot be booted again. -/
theorem restart_strands_live_containers (net : IpLaws ip) (daemon : ContainerdLaws containerd) (cfg : ManagerConfig api)
    (ips : NodeIpAllocator) (netns : Finset String) (host : ContainerHost ip containerd) (before : List (NodeOp api))
    (podId : String) (pod : Pod)
    (hpod : (before.foldl (ContainerNode.step cfg) (started ips netns host)).world.pods.getPod podId = some pod)
    (hcontainer : pod.runtime = .containerd) (live : pod.Live) (ips' : NodeIpAllocator) (after : List (NodeOp api)) :
    Along (ContainerNode.step cfg) (NeverBoots cfg podId)
      ((before.foldl (ContainerNode.step cfg) (started ips netns host)).step cfg (.restart ips')) after := by
  have up : WiredUp net daemon cfg _ podId := (sound_started ips netns host).run before podId pod hpod hcontainer live
  exact (up.stranded ips').run after

theorem restart_strands_web : ∃ pod,
    ([webBoot].foldl (ContainerNode.step sampleConfig) (sampleNode [] [] [])).world.pods.getPod "web" = some pod ∧
    Along (ContainerNode.step sampleConfig) (NeverBoots sampleConfig "web")
      (([webBoot].foldl (ContainerNode.step sampleConfig) (sampleNode [] [] [])).step sampleConfig (.restart samplePool))
      [webBoot] :=
  ⟨_, rfl, restart_strands_live_containers FactNet.laws IdTable.laws sampleConfig samplePool ∅ _ [webBoot] "web" _ rfl rfl
    (by decide) samplePool [webBoot]⟩

/-! ### A taken interface name -/

/-- The operation does not boot a container. -/
def BootsNone (cfg : ManagerConfig api) (n : ContainerNode api ip containerd) (op : NodeOp api) : Prop :=
  ∀ spec env adapter, op = .boot spec env adapter → spec.runtime = .containerd →
    ∃ e, n.bootResult cfg spec env adapter = .error e

section Blocked
variable {peer : Peer} {trait : Trait}

theorem iface_kept (hpeer : ∀ ns dev, peer ≠ .inside ns dev) (h : net.holds n.host.net (.host CONTAINER_IFACE peer trait))
    (op : NodeOp api) : net.holds (n.step cfg op).host.net (.host CONTAINER_IFACE peer trait) := by
  cases op with
  | setHosts content => exact h
  | restart ips => exact h
  | evict podId env adapter =>
    exact evict_preserves (J := fun t => net.holds t.net (.host CONTAINER_IFACE peer trait)) h fun _ _ _ _ =>
      ContainerHost.evictContainer_keeps net (netnsDel_undoes_host hpeer)
  | boot spec env adapter =>
    exact boot_preserves (J := fun t => net.holds t.net (.host CONTAINER_IFACE peer trait)) h fun _ _ _ =>
      ContainerHost.bootContainerd_keeps_iface net hpeer

theorem boots_none_of_iface (daemon : ContainerdLaws containerd)
    (h : net.holds n.host.net (.host CONTAINER_IFACE peer trait)) (op : NodeOp api) :
    BootsNone cfg n op := by
  rintro spec env adapter - hruntime
  cases hresult : n.bootResult cfg spec env adapter with
  | error e => exact ⟨e, rfl⟩
  | ok pid =>
    obtain ⟨r, -, booted, -⟩ := boot_ok net daemon hruntime hresult
    exact absurd rfl (booted.free _ _ _ h).2

theorem run_of_iface (daemon : ContainerdLaws containerd) (hpeer : ∀ ns dev, peer ≠ .inside ns dev)
    (h : net.holds n.host.net (.host CONTAINER_IFACE peer trait)) (ops : List (NodeOp api)) :
    Along (ContainerNode.step cfg) (BootsNone cfg) n ops :=
  Along.of_inv (I := fun n => net.holds n.host.net (.host CONTAINER_IFACE peer trait)) (C := fun _ _ => True)
    (fun _ op hs _ => iface_kept hpeer hs op) (fun _ op hs _ => boots_none_of_iface daemon hs op) (fun _ _ _ _ => trivial) h

end Blocked

/-- Where the host's own namespace has an `eth0` that leads into no named namespace, of its own or left by a
    `configure_netns` that failed, no container is ever booted, of whatever pod; evictions and restarts do not change
    that. -/
theorem host_iface_blocks_containers (net : IpLaws ip) (daemon : ContainerdLaws containerd) (cfg : ManagerConfig api)
    (n : ContainerNode api ip containerd) (peer : Peer) (trait : Trait)
    (hiface : net.holds n.host.net (.host CONTAINER_IFACE peer trait)) (hpeer : ∀ ns dev, peer ≠ .inside ns dev)
    (ops : List (NodeOp api)) : Along (ContainerNode.step cfg) (BootsNone cfg) n ops :=
  run_of_iface daemon hpeer hiface ops

/-- A host whose own network interface is `eth0`. -/
def cloudNode : ContainerNode textApi FactNet.tool IdTable.daemon := sampleNode [.host "eth0" .other .up] [] []

theorem cloud_host_boots_no_container :
    Along (ContainerNode.step sampleConfig) (BootsNone sampleConfig) cloudNode [webBoot] :=
  host_iface_blocks_containers FactNet.laws IdTable.laws sampleConfig cloudNode .other .up List.mem_cons_self
    (by rintro _ _ ⟨⟩) [webBoot]

/-- One command on the host end that fails once the pair is made is enough: no container of any pod is booted on the node
    from then on. -/
theorem failed_configure_blocks_containers (net : IpLaws ip) (daemon : ContainerdLaws containerd)
    (cfg : ManagerConfig api) (n : ContainerNode api ip containerd) (spec : WorkloadSpec) (env : BootEnv api)
    (adapter : ContainerdEnv) (hruntime : spec.runtime = .containerd)
    (r : PodSpec × List PreparedMount × IdentityFingerprint × Reservation)
    (hr : (bootReservation cfg env spec n.world).result = .ok r)
    (fails : FailsBeforeMove ip spec.effectiveId r.2.2.2.gwIp n.host.net) (ops : List (NodeOp api)) :
    Along (ContainerNode.step cfg) (BootsNone cfg) (n.step cfg (.boot spec env adapter)) ops := by
  obtain ⟨hspec, -⟩ := wp_bootReservation.of_ok hr
  have after : (n.step cfg (.boot spec env adapter)).host =
      (ContainerHost.bootContainerd adapter spec r.2.1 r.2.2.2.wlIp r.2.2.2.gwIp n.host).final := by
    rw [step, answerBoot, hruntime, hr]
  have left : ∃ dev, net.holds (n.step cfg (.boot spec env adapter)).host.net
      (.host CONTAINER_IFACE (.host dev) .present) := by
    rw [after]
    exact ContainerHost.bootContainerd_leaves_iface net hspec fails
  obtain ⟨dev, left⟩ := left
  exact run_of_iface daemon (by rintro _ _ ⟨⟩) left ops

/-- A node on which one run of `ip` fails. -/
def faultyNode : ContainerNode textApi FactNet.tool IdTable.daemon :=
  sampleNode [] [⟨none, .linkSetUp (hostVethName "web")⟩] []

theorem failed_set_up_blocks_containers : ∃ r,
    (bootReservation sampleConfig sampleBoot (sampleSpec "web" .containerd) faultyNode.world).result = .ok r ∧
    FailsBeforeMove FactNet.tool "web" r.2.2.2.gwIp faultyNode.host.net ∧
    Along (ContainerNode.step sampleConfig) (BootsNone sampleConfig) (faultyNode.step sampleConfig webBoot) [webBoot] := by
  have fails : FailsBeforeMove FactNet.tool "web" 0x0A000001 faultyNode.host.net :=
    ⟨_, _, rfl, rfl, Or.inr ⟨_, rfl, _, rfl⟩⟩
  exact ⟨_, rfl, fails, failed_configure_blocks_containers FactNet.laws IdTable.laws sampleConfig faultyNode
    (sampleSpec "web" .containerd) sampleBoot {} rfl _ rfl fails [webBoot]⟩

end ContainerNode

end FleetosAgent.Workloads
