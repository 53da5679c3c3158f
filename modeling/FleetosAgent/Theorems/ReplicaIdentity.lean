import FleetosAgent.Theorems.HostSections
import FleetosAgent.Theorems.KeyScope

/-! # Replicas and their identity

A key is requested for a pod, with the pod's ordinal, but it is filed under the id of the workload, which all replicas
share. So the replica that boots last decides the ordinal of every SVID that is issued from then on. The SVIDs of a node are
right exactly if pods with one id have one ordinal. -/

namespace FleetosAgent.VsockAttest
open Lib Identity Workloads

/-- `sign_svid_delegated` stamps the ordinal of the key it is given, where `ordinalOf` reads it. -/
structure StampingCa (api : SpiffeApi) extends CaApi api where
  ordinalOf : List UInt8 → Option UInt32
  stamped : ∀ key csr validitySecs now certDer, signSvidDelegated key csr validitySecs now = .ok certDer →
    ordinalOf certDer = key.targetOrdinal

section
variable {api : SpiffeApi} {cfg : HostConfig api} {builder : WorkloadConfigBuilder} {boots : List WorkloadSpec}

/-- What happens on a node that boots these workloads, any number of times, with an honest control. -/
inductive NodeEvent (boots : List WorkloadSpec) : HostEvent api → Prop
  | boot (spec : WorkloadSpec) (listed : spec ∈ boots) (env : BootEnv api) (honest : Honest env.delegatedKey)
    (event : HostEvent api) (part : BootSection spec env event) : NodeEvent boots event
  | evict (podId : String) (event : HostEvent api) (part : EvictSection podId event) : NodeEvent boots event
  | refresh (event : RefreshEvent api) (honest : event.Honest) : NodeEvent boots (.refresh event)

/-- Every certificate that is pushed to a guest carries the ordinal of the pod spec registered for its CID. A handshake
    looks the context up, and `build` reads the keys twice; anything may happen in between. -/
def ReplicaIdentity (ca : StampingCa api) (cfg : HostConfig api) (builder : WorkloadConfigBuilder)
    (events : List (HostEvent api)) : Prop :=
  ∀ lookup check sign post, events = lookup ++ check ++ sign ++ post →
    ∀ cid ctx guest now generate config, (hostAfter cfg lookup).contexts.get cid = some ctx →
      build ca.toCaApi builder ⟨now, (hostAfter cfg (lookup ++ check)).keys, (hostAfter cfg (lookup ++ check ++ sign)).keys,
        generate⟩ guest ctx = .ok config →
      ∀ certDer ∈ config.svidCertChainDer, ca.ordinalOf certDer = ctx.podSpec.ordinal

/-- Where a workload's key can serve a guest, the two have one ordinal. -/
def OrdinalsAgree (cfg : HostConfig api) (builder : WorkloadConfigBuilder) (boots : List WorkloadSpec) : Prop :=
  ∀ spec ∈ boots, ∀ guest ∈ boots, ∀ podSpec guestSpec, spec.podSpec = some podSpec → guest.podSpec = some guestSpec →
    guest.runtime = .cloudHypervisor → api.display (cfg.bootId spec.workloadId podSpec) =
      api.display (api.new builder.trustDomain guestSpec.tenantId .sa guestSpec.workloadId) →
    podSpec.ordinal = guestSpec.ordinal

/-- The states of a reconcile call are states of such a run. -/
theorem reconcile_nodeEvents {manager : ManagerConfig api} (same : SameDelegation manager cfg) {w t : World api}
    {refresh : RefreshState api} {call : ReconcileCall api} (listed : ∀ spec ∈ call.desired, spec ∈ boots)
    (honest : ∀ n, Honest (call.bootEnv n).delegatedKey) {events : List (HostEvent api)}
    (hw : hostAfter cfg events = w.host refresh)
    (ht : t ∈ (reconcile manager call w).passed ∨ t = (reconcile manager call w).final) :
    ∃ more, (∀ event ∈ more, NodeEvent boots event) ∧ hostAfter cfg (events ++ more) = t.host refresh := by
  have follows : Follows cfg _ (w.host refresh) (t.host refresh) := reconcile_follows same call t ht
  obtain ⟨more, parts, hmore⟩ := follows
  refine ⟨more, fun event hevent => ?_, by rw [hostAfter_append, hw, hmore]⟩
  obtain ⟨op, hop, part⟩ := parts event hevent
  rcases List.mem_append.mp hop with hop | hop <;> obtain ⟨n, hn, rfl⟩ := List.mem_mapIdx.mp hop
  · exact .evict _ event part
  · exact .boot _ (listed _ (mem_toBoot.mp (List.getElem_mem hn)).1) _ (honest n) event part

/-! ### What the tables hold -/

/-- A boot requests a key for this id with this ordinal. -/
def Requested (cfg : HostConfig api) (boots : List WorkloadSpec) (target : api.SpiffeId) (ordinal : Option UInt32) : Prop :=
  ∃ spec ∈ boots, ∃ podSpec, spec.podSpec = some podSpec ∧
    api.display target = api.display (cfg.bootId spec.workloadId podSpec) ∧ ordinal = podSpec.ordinal

theorem requested_ofText : OfText (Requested cfg boots) := by
  rintro id id' ordinal same ⟨spec, listed, podSpec, hspec, hdisplay, hordinal⟩
  exact ⟨spec, listed, podSpec, hspec, same ▸ hdisplay, hordinal⟩

/-- The keys and requests are those of boots, and the contexts are those of booted MicroVMs. -/
structure FromBoots (cfg : HostConfig api) (boots : List WorkloadSpec) (s : HostState api) : Prop where
  filed : Filed (Requested cfg boots) s.keys s.refresh
  contexts : ∀ cid ctx, s.contexts.get cid = some ctx →
    ∃ guest ∈ boots, guest.podSpec = some ctx.podSpec ∧ guest.runtime = .cloudHypervisor

theorem FromBoots.unregistered {s : HostState api} (h : FromBoots cfg boots s) (cid : UInt32) :
    FromBoots cfg boots (hostStep cfg s (.unregistered cid)) :=
  ⟨h.filed, fun cid' ctx hget => h.contexts cid' ctx (FinMap.get_remove_eq_some.mp hget).2⟩

theorem FromBoots.section {s : HostState api} {event : HostEvent api} {spec : WorkloadSpec} {env : BootEnv api}
    (h : FromBoots cfg boots s) (listed : spec ∈ boots) (honest : Honest env.delegatedKey)
    (part : BootSection spec env event) :
    FromBoots cfg boots (hostStep cfg s event) := by
  cases part with
  | keyAnswered podSpec hspec =>
    have requested : Requested cfg boots (cfg.bootId spec.workloadId podSpec) podSpec.ordinal :=
      ⟨spec, listed, podSpec, hspec, rfl, rfl⟩
    exact ⟨h.filed.requestAndInstall requested_ofText honest requested, h.contexts⟩
  | registered podSpec hspec hruntime cid guestIp gatewayIp =>
    refine ⟨h.filed, fun cid' ctx hget => ?_⟩
    rw [hostStep, FinMap.get_insert] at hget
    split at hget
    · obtain rfl := Option.some.inj hget
      exact ⟨spec, listed, by rw [workloadContext, hspec]; rfl, hruntime⟩
    · exact h.contexts cid' ctx hget
  | unregistered cid => exact h.unregistered cid
  | recorded => exact ⟨h.filed, h.contexts⟩

theorem FromBoots.step {s : HostState api} {event : HostEvent api} (h : FromBoots cfg boots s)
    (hevent : NodeEvent boots event) :
    FromBoots cfg boots (hostStep cfg s event) := by
  cases hevent with
  | boot spec listed env honest event part => exact h.section listed honest part
  | evict podId event part =>
    cases part with
    | evicting => exact ⟨h.filed, h.contexts⟩
    | unregistered cid => exact h.unregistered cid
    | removed => exact ⟨h.filed, h.contexts⟩
  | refresh event honest =>
    exact ⟨(refresh_move cfg.loop s.keys s.refresh event).filed requested_ofText honest h.filed, h.contexts⟩

theorem fromBoots_hostAfter {events : List (HostEvent api)} (hevents : ∀ event ∈ events, NodeEvent boots event) :
    FromBoots cfg boots (hostAfter cfg events) := by
  induction events using List.reverseRecOn with
  | nil => exact ⟨.empty, fun _ _ hget => (nomatch hget)⟩
  | append_singleton events event ih =>
    rw [List.forall_mem_append, List.forall_mem_singleton] at hevents
    rw [hostAfter, List.foldl_concat]
    exact (ih hevents.1).step hevents.2

/-! ### A guest with another replica's ordinal -/

/-- A CA whose certificates are the ordinals. -/
def ordinalCa (api : SpiffeApi) : StampingCa api where
  KeyPair := Unit
  serializeDer _ := [0]
  buildCsr _ _ := .ok []
  signSvidDelegated key _ _ _ := .ok ((key.targetOrdinal.map fun ordinal => leBytes 4 ordinal.toNat).getD [])
  ordinalOf der := if der = [] then none else some (UInt32.ofNat (ofLeBytes der))
  stamped := by
    intro key csr validitySecs now certDer hok
    obtain rfl := Except.ok.inj hok
    cases key.targetOrdinal with
    | none => rfl
    | some ordinal =>
      have fits : ordinal.toNat < 256 ^ 4 := ordinal.toNat_lt
      have filled : leBytes 4 ordinal.toNat ≠ [] := fun h => absurd (congrArg List.length h) (by simp)
      simp [filled, ofLeBytes_leBytes fits]

/-- With a key that is held throughout, `build` issues a certificate. -/
theorem build_of_held {keys : DelegatedKeyManager api} {ctx : WorkloadContext} {key : DelegatedSigningKey api}
    {delegationId : List UInt8} (held : keys.keys.get (builder.spiffeId api ctx) = some ⟨key, delegationId⟩)
    (unexpired : 0 < key.expiresAtUnix) (guest : VerifiedGuest) : ∃ config certDer,
      build (ordinalCa api).toCaApi builder ⟨0, keys, keys, .ok ()⟩ guest ctx = .ok config ∧
        config.svidCertChainDer = [certDer] ∧ (ordinalCa api).ordinalOf certDer = key.targetOrdinal := by
  rw [WorkloadConfigBuilder.spiffeId] at held
  have valid : keys.hasValidKey (api.new builder.trustDomain ctx.podSpec.tenantId .sa ctx.podSpec.workloadId) 0 = true := by
    simpa [DelegatedKeyManager.hasValidKey, held] using unexpired
  have found : keys.getKey (api.new builder.trustDomain ctx.podSpec.tenantId .sa ctx.podSpec.workloadId) 0 = some key := by
    simpa [DelegatedKeyManager.getKey, held] using unexpired
  unfold build
  simp only [valid, if_pos, issueSvid, DelegatedKeyManager.renewSvidLocally, found]
  exact ⟨_, _, rfl, rfl, (ordinalCa api).stamped key [] 0 0 _ rfl⟩

/-- The guest boots, then a replica of its workload; then the guest shakes hands. -/
def replicaRun (spec guest : WorkloadSpec) (podSpec guestSpec : PodSpec) (target : api.SpiffeId) : List (HostEvent api) :=
  [.keyAnswered guest.workloadId guestSpec (grants target), .registered 3 (workloadContext guest 0 0),
    .keyAnswered spec.workloadId podSpec (grants target)]

theorem nodeEvent_replicaRun {spec guest : WorkloadSpec} {podSpec guestSpec : PodSpec} {target : api.SpiffeId}
    (listed : spec ∈ boots) (listed' : guest ∈ boots) (hspec : spec.podSpec = some podSpec)
    (hguest : guest.podSpec = some guestSpec) (hruntime : guest.runtime = .cloudHypervisor) :
    ∀ event ∈ replicaRun spec guest podSpec guestSpec target, NodeEvent boots event := by
  let env : BootEnv api := { delegatedKey := grants target, measure := fun _ _ _ => .error (.internal "") }
  simp only [replicaRun, List.forall_mem_cons, List.not_mem_nil, false_imp_iff, implies_true, and_true]
  refine ⟨.boot guest listed' env (honest_grants target) _ ?_, .boot guest listed' env (honest_grants target) _ ?_,
    .boot spec listed env (honest_grants target) _ ?_⟩
  · exact .keyAnswered guestSpec hguest
  · exact .registered guestSpec hguest hruntime 3 0 0
  · exact .keyAnswered podSpec hspec

/-- The key of the replica has replaced the one of the guest. -/
theorem held_replicaRun (guest : WorkloadSpec) (guestSpec : PodSpec) {spec : WorkloadSpec} {podSpec : PodSpec}
    {target : api.SpiffeId} (same : api.display (cfg.bootId spec.workloadId podSpec) = api.display target) :
    (hostAfter cfg (replicaRun spec guest podSpec guestSpec target)).keys.keys.get target =
      some ⟨⟨target, podSpec.ordinal, 0, 14400⟩, []⟩ := by
  show FinMap.get (requestAndInstall _ _ _ _ _ _).2.keys _ = _
  rw [requestAndInstall_grants same]
  exact FinMap.get_insert_self ..

theorem ReplicaIdentity.of_agree {ca : StampingCa api} {events : List (HostEvent api)}
    (agree : OrdinalsAgree cfg builder boots) (hevents : ∀ event ∈ events, NodeEvent boots event) :
    ReplicaIdentity ca cfg builder events := by
  rintro lookup check sign post rfl cid ctx guest now generate config hctx hbuild certDer hcert
  have lookedUp : FromBoots cfg boots (hostAfter cfg lookup) :=
    fromBoots_hostAfter fun event he => hevents event (by simp [he])
  obtain ⟨spec', listed', hspec', hruntime⟩ := lookedUp.contexts cid ctx hctx
  rcases build_svid hbuild with ⟨hempty, -⟩ | ⟨certDer', keypair, key, hchain, -, ⟨csr, hsigned⟩, ⟨delegationId, hheld⟩, -⟩
  · rw [hempty] at hcert
    cases hcert
  · rw [hchain] at hcert
    obtain rfl := List.mem_singleton.mp hcert
    have signed : FromBoots cfg boots (hostAfter cfg (lookup ++ check ++ sign)) :=
      fromBoots_hostAfter fun event he => hevents event (List.mem_append_left post he)
    obtain ⟨spec, listed, podSpec, hspec, hdisplay, hordinal⟩ := signed.filed.held _ _ hheld
    rw [ca.stamped _ _ _ _ _ hsigned, hordinal]
    exact agree spec listed spec' listed' podSpec ctx.podSpec hspec hspec' hruntime hdisplay.symm

/-- In every run of boots of these workloads, every certificate that a guest is given carries the ordinal of the guest's own
    pod spec, exactly if pods of one id have one ordinal. -/
theorem replica_identity_iff (cfg : HostConfig api) (builder : WorkloadConfigBuilder) (boots : List WorkloadSpec) :
    (∀ ca events, (∀ event ∈ events, NodeEvent boots event) → ReplicaIdentity ca cfg builder events) ↔
      OrdinalsAgree cfg builder boots := by
  refine ⟨fun holds => ?_, fun agree ca events hevents => .of_agree agree hevents⟩
  intro spec listed guest listed' podSpec guestSpec hspec hguest hruntime hid
  let ctx := workloadContext guest 0 0
  have hctx : ctx.podSpec = guestSpec := by
    show guest.podSpec.getD {} = guestSpec
    rw [hguest]
    rfl
  let run := replicaRun spec guest podSpec guestSpec (builder.spiffeId api ctx)
  have held := held_replicaRun guest guestSpec
    (show api.display (cfg.bootId spec.workloadId podSpec) = api.display (builder.spiffeId api ctx) by
      rw [hid, WorkloadConfigBuilder.spiffeId, hctx])
  have registered : (hostAfter cfg run).contexts.get 3 = some ctx := FinMap.get_insert_self ..
  have unexpired : (0 : UInt64) < 14400 := by decide
  obtain ⟨config, certDer, hbuild, hchain, hstamp⟩ := build_of_held held unexpired ⟨.replicate 32 0⟩
  have events : ∀ event ∈ run, NodeEvent boots event := nodeEvent_replicaRun listed listed' hspec hguest hruntime
  have right := holds (ordinalCa api) run events run [] [] [] (by simp) 3 ctx ⟨.replicate 32 0⟩ 0 (.ok ()) config registered
    (by simpa using hbuild) certDer (by simp [hchain])
  rw [← hctx, ← right]
  exact hstamp.symm

end

/-! ### Two replicas -/

def replicaSpec (ordinal : UInt32) (podId : String) : WorkloadSpec where
  workloadId := "web"
  runtime := .cloudHypervisor
  podSpec := some { workloadId := "web", podId := some podId, ordinal := some ordinal }

/-- The node after one reconcile call that wants two replicas of "web". -/
def replicaNode : World textApi :=
  (reconcile delegatingConfig (sampleCall [replicaSpec 0 "web-0", replicaSpec 1 "web-1"] {} fun _ => delegatingBoot)
    { ips := samplePool }).final

/-- The first replica, with CID 3, is given an SVID with the ordinal of the second. -/
theorem first_replica_gets_second_ordinal : Honest textControl ∧ ∃ ctx config,
    replicaNode.workloadContexts.get 3 = some ctx ∧ ctx.podSpec.ordinal = some 0 ∧
    build (ordinalCa textApi).toCaApi { trustDomain := "fleet", svidTtlSecs := 3600 }
      ⟨0, replicaNode.delegatedKeys, replicaNode.delegatedKeys, .ok ()⟩ ⟨.replicate 32 0⟩ ctx = .ok config ∧
    config.svidCertChainDer.map (ordinalCa textApi).ordinalOf = [some 1] := by
  refine ⟨?_, ?_⟩
  · rintro request key delegationId ⟨⟩
    exact ⟨rfl, rfl⟩
  · exact ⟨_, _, rfl, rfl, rfl, rfl⟩

end FleetosAgent.VsockAttest
