import FleetosAgent.Workloads.Netns

/-! # What the network commands leave

What is assumed of `ip` and the kernel, as laws about facts that hold of the host, and from them one lemma for each
function of `workloads/netns.rs`. A `configure_netns` that succeeds wires the namespace up; one that fails can leave its
veth pair in the host's namespace. -/

namespace FleetosAgent.Workloads.Netns
open Lib Traced

/-! ### Facts -/

/-- The other end of an interface of the host: in the host's own namespace, or in a named one. `other` is an interface
    without one, or with one elsewhere. -/
inductive Peer where
  | other
  | host (dev : String)
  | inside (ns dev : String)
  deriving DecidableEq

/-- What is said of an interface. The address is one of a /30 network. -/
inductive Trait where
  | present
  | addr (ip : UInt32)
  | up
  deriving DecidableEq

inductive Fact where
  | netns (ns : String)
  /-- The host's own namespace has the interface, with this other end. -/
  | host (dev : String) (peer : Peer) (trait : Trait)
  | inside (ns dev : String) (trait : Trait)
  /-- The namespace has a default route. -/
  | route (ns : String) (gateway : UInt32)
  deriving DecidableEq

/-- What a run may undo: the deletion of a namespace what is in it and the interfaces that lead into it, and the move of an
    interface what is said of it and of its other end. -/
def IpCall.undoes : IpCall → Fact → Bool
  | ⟨_, .netnsDel ns⟩, .netns ns' => ns' = ns
  | ⟨_, .netnsDel ns⟩, .host _ (.inside ns' _) _ => ns' = ns
  | ⟨_, .netnsDel ns⟩, .inside ns' _ _ => ns' = ns
  | ⟨_, .netnsDel ns⟩, .route ns' _ => ns' = ns
  | ⟨none, .linkSetNetns dev _⟩, .host dev' peer _ => dev' = dev || peer = .host dev
  | ⟨some ns, .linkSetNetns _ _⟩, .host _ (.inside ns' _) _ => ns' = ns
  | ⟨some ns, .linkSetNetns _ _⟩, .inside ns' _ _ => ns' = ns
  | ⟨some ns, .linkSetNetns _ _⟩, .route ns' _ => ns' = ns
  | _, _ => false

/-- A name that the kernel takes for a pattern and fills in, as in `eth%d`. -/
def isPattern (dev : String) : Bool := dev.toList.contains '%'

/-- The run succeeds and leaves `t`. -/
def IpTool.Done (ip : IpTool) (s : ip.State) (call : IpCall) (t : ip.State) : Prop := ip.run s call = (.ok (), t)

def IpTool.Fails (ip : IpTool) (s : ip.State) (call : IpCall) : Prop := ∃ failure, (ip.run s call).1 = .error failure

/-- What is assumed of `ip` and the kernel. Nothing is said of what a run that fails has done, except that it keeps what it
    does not undo; and nothing but the agent's runs is taken to undo anything. -/
structure IpLaws (ip : IpTool) where
  holds : ip.State → Fact → Prop
  kept : ∀ {s call f}, holds s f → call.undoes f = false → holds (ip.run s call).2 f
  /-- `ip netns add` refuses a name that is taken. -/
  netnsAdd_new : ∀ {s t ns}, ip.Done s ⟨none, .netnsAdd ns⟩ t → ¬ holds s (.netns ns)
  netnsAdd_adds : ∀ {s t ns}, ip.Done s ⟨none, .netnsAdd ns⟩ t → holds t (.netns ns)
  /-- `ip link add` refuses a name that an interface of the host has, for either end. -/
  linkAdd_new : ∀ {s t name peer}, ip.Done s ⟨none, .linkAddVeth name peer⟩ t →
    ∀ dev far trait, holds s (.host dev far trait) → dev ≠ name ∧ dev ≠ peer
  linkAdd_adds : ∀ {s t name peer}, ip.Done s ⟨none, .linkAddVeth name peer⟩ t → isPattern name = false →
    isPattern peer = false → holds t (.host name (.host peer) .present)
  linkAdd_adds_peer : ∀ {s t name peer}, ip.Done s ⟨none, .linkAddVeth name peer⟩ t → isPattern peer = false →
    ∃ dev, holds t (.host peer (.host dev) .present)
  /-- No interface is called like a pattern. -/
  pattern_unknown : ∀ {s t addr dev}, ip.Done s ⟨none, .addrAdd addr dev⟩ t → isPattern dev = false
  addrAdd_host : ∀ {s t addr dev peer}, ip.Done s ⟨none, .addrAdd addr dev⟩ t →
    holds s (.host dev peer .present) → holds t (.host dev peer (.addr addr))
  addrAdd_inside : ∀ {s t ns addr dev}, ip.Done s ⟨some ns, .addrAdd addr dev⟩ t →
    holds s (.inside ns dev .present) → holds t (.inside ns dev (.addr addr))
  setUp_host : ∀ {s t dev peer}, ip.Done s ⟨none, .linkSetUp dev⟩ t →
    holds s (.host dev peer .present) → holds t (.host dev peer .up)
  setUp_inside : ∀ {s t ns dev}, ip.Done s ⟨some ns, .linkSetUp dev⟩ t →
    holds s (.inside ns dev .present) → holds t (.inside ns dev .up)
  /-- An interface that is moved into a named namespace stays the other end of its pair. -/
  setNetns_moves : ∀ {s t dev ns name trait}, ip.Done s ⟨none, .linkSetNetns dev ns⟩ t → holds s (.netns ns) →
    holds s (.host name (.host dev) trait) → holds t (.host name (.inside ns dev) trait) ∧ holds t (.inside ns dev .present)
  routeAdd_adds : ∀ {s t ns gateway}, ip.Done s ⟨some ns, .routeAddDefault gateway⟩ t → holds t (.route ns gateway)

theorem IpLaws.done_keeps {ip : IpTool} (laws : IpLaws ip) {s t : ip.State} {call : IpCall} (h : ip.Done s call t)
    {f : Fact} (hf : laws.holds s f) (hkept : call.undoes f = false) : laws.holds t f := by
  have after := laws.kept hf hkept
  rwa [h] at after

/-- A namespace that is wired up: its `eth0` is up with the pod's address, at the other end of a veth of the host that is up
    with the gateway's, and the default route leads there. -/
def wiring (podId : String) (containerIp gatewayIp : UInt32) : List Fact :=
  [.netns podId,
    .host (hostVethName podId) (.inside podId CONTAINER_IFACE) (.addr gatewayIp),
    .host (hostVethName podId) (.inside podId CONTAINER_IFACE) .up,
    .inside podId CONTAINER_IFACE (.addr containerIp),
    .inside podId CONTAINER_IFACE .up,
    .route podId gatewayIp]

/-! ### One run -/

section Run
variable {ip : IpTool} {call : IpCall} {I : ip.State → Prop} {Q : Unit → ip.State → Prop} {E : AgentError → ip.State → Prop}
  {s : ip.State}

theorem wp_runCmd (hI : I (ip.run s call).2) (hok : ∀ t, ip.Done s call t → Q () t) (herr : ∀ e, E e (ip.run s call).2) :
    wp I (runCmd call) Q E s := by
  refine wp_invoke hI (fun _ h => hok _ ?_) fun e _ => herr e
  cases hr : (ip.run s call).1 with
  | ok _ => exact Prod.ext hr rfl
  | error e =>
    rw [hr] at h
    cases h

theorem wp_runCmd_of_done {t : ip.State} (h : ip.Done s call t) (hI : I t) (hQ : Q () t) : wp I (runCmd call) Q E s := by
  have result : runCmd call s = ⟨.ok (), t, [t]⟩ := by
    rw [runCmd, invoke, h]
    rfl
  rw [wp, result]
  exact ⟨fun u hu => List.mem_singleton.mp hu ▸ hI, hQ⟩

theorem wp_runCmd_of_fails (h : ip.Fails s call) (hI : I (ip.run s call).2) (hE : ∀ e, E e (ip.run s call).2) :
    wp I (runCmd call) Q E s := by
  obtain ⟨failure, hfails⟩ := h
  refine wp_runCmd hI (fun t hdone => ?_) hE
  rw [IpTool.Done] at hdone
  rw [hdone] at hfails
  cases hfails

variable (laws : IpLaws ip) {f : Fact}

theorem runCmd_keeps (h : call.undoes f = false) : Preserves (fun s => laws.holds s f) (runCmd call) :=
  .invoke fun _ hs => laws.kept hs h

end Run

/-! ### The functions -/

section Functions
variable {ip : IpTool} (laws : IpLaws ip) {podId : String} {containerIp gatewayIp : UInt32} {s : ip.State} {f : Fact}

theorem createNetns_keeps : Preserves (fun s => laws.holds s f) (createNetns podId) :=
  .bind (runCmd_keeps laws rfl) fun _ => .pure

theorem destroyNetns_keeps (h : IpCall.undoes ⟨none, .netnsDel podId⟩ f = false) :
    Preserves (fun s => laws.holds s f) (destroyNetns podId) := by
  refine .bind .get fun s => ?_
  split
  · exact .bind (runCmd_keeps laws h).attempt fun _ => .pure
  · exact .pure

/-- Its deletion of the namespace may fail; it returns all the same. -/
theorem wp_destroyNetns : wp (fun _ => True) (destroyNetns podId) (fun _ _ => True) (fun _ _ => False) s := by
  refine wp_bind.mpr (wp_get.mpr ?_)
  split
  · exact wp_bind.mpr (wp_attempt.mpr (wp_runCmd trivial (fun _ _ => wp_pure.mpr trivial) fun _ => wp_pure.mpr trivial))
  · exact wp_pure.mpr trivial

theorem configureNetns_keeps (h : IpCall.undoes ⟨none, .linkSetNetns CONTAINER_IFACE podId⟩ f = false) :
    Preserves (fun s => laws.holds s f) (configureNetns podId containerIp gatewayIp) :=
  .bind (runCmd_keeps laws rfl) fun _ => .bind (runCmd_keeps laws rfl) fun _ => .bind (runCmd_keeps laws rfl) fun _ =>
    .bind (runCmd_keeps laws h) fun _ => .bind (runCmd_keeps laws rfl) fun _ => .bind (runCmd_keeps laws rfl) fun _ =>
      runCmd_keeps laws rfl

theorem createNetns_path : wp (fun _ => True) (createNetns podId) (fun path _ => path = netnsPath podId)
    (fun _ _ => True) s :=
  wp_bind.mpr (wp_runCmd trivial (fun _ _ => wp_pure.mpr rfl) fun _ => trivial)

theorem wp_createNetns_of_netns (hnetns : laws.holds s (.netns podId)) : wp (fun _ => True) (createNetns podId)
    (fun _ _ => False) (fun _ t => ∀ f, laws.holds s f → laws.holds t f) s :=
  wp_bind.mpr (wp_runCmd trivial (fun _ hadd => absurd hnetns (laws.netnsAdd_new hadd)) fun _ _ hf => laws.kept hf rfl)

/-- Neither name of a pod's pair is taken in the host's namespace. -/
def Free (laws : IpLaws ip) (podId : String) (s : ip.State) : Prop :=
  ∀ dev peer trait, laws.holds s (.host dev peer trait) → dev ≠ hostVethName podId ∧ dev ≠ CONTAINER_IFACE

theorem wp_configureNetns : wp (fun _ => True) (configureNetns podId containerIp gatewayIp)
    (fun _ t => Free laws podId s ∧
      (laws.holds s (.netns podId) → ∀ f ∈ wiring podId containerIp gatewayIp, laws.holds t f))
    (fun _ _ => True) s := by
  refine wp_bind.mpr (wp_runCmd trivial (fun s₁ hlink => ?_) fun _ => trivial)
  refine wp_bind.mpr (wp_runCmd trivial (fun s₂ hgateway => ?_) fun _ => trivial)
  refine wp_bind.mpr (wp_runCmd trivial (fun s₃ hhostUp => ?_) fun _ => trivial)
  refine wp_bind.mpr (wp_runCmd trivial (fun s₄ hmove => ?_) fun _ => trivial)
  refine wp_bind.mpr (wp_runCmd trivial (fun s₅ haddr => ?_) fun _ => trivial)
  refine wp_bind.mpr (wp_runCmd trivial (fun s₆ hup => ?_) fun _ => trivial)
  refine wp_runCmd trivial (fun s₇ hroute => ⟨laws.linkAdd_new hlink, fun hnetns => ?_⟩) fun _ => trivial
  -- The host's end, while the other is still beside it.
  have pair := laws.linkAdd_adds hlink (laws.pattern_unknown hgateway) (by decide)
  have gateway := laws.addrAdd_host hgateway pair
  have hostUp := laws.setUp_host hhostUp (laws.done_keeps hgateway pair rfl)
  have netns := laws.done_keeps hhostUp (laws.done_keeps hgateway (laws.done_keeps hlink hnetns rfl) rfl) rfl
  -- The other end, once it is in the namespace.
  obtain ⟨gateway', inside⟩ := laws.setNetns_moves hmove netns (laws.done_keeps hhostUp gateway rfl)
  obtain ⟨hostUp', -⟩ := laws.setNetns_moves hmove netns hostUp
  have addr := laws.addrAdd_inside haddr inside
  have up := laws.setUp_inside hup (laws.done_keeps haddr inside rfl)
  have last : ∀ {f}, laws.holds s₄ f → IpCall.undoes ⟨some podId, .addrAdd containerIp CONTAINER_IFACE⟩ f = false →
      IpCall.undoes ⟨some podId, .linkSetUp CONTAINER_IFACE⟩ f = false →
      IpCall.undoes ⟨some podId, .routeAddDefault gatewayIp⟩ f = false → laws.holds s₇ f := fun h h₅ h₆ h₇ =>
    laws.done_keeps hroute (laws.done_keeps hup (laws.done_keeps haddr h h₅) h₆) h₇
  simp only [wiring, List.forall_mem_cons, List.not_mem_nil, false_implies, implies_true, and_true]
  exact ⟨last (laws.done_keeps hmove netns rfl) rfl rfl rfl, last gateway' rfl rfl rfl, last hostUp' rfl rfl rfl,
    laws.done_keeps hroute (laws.done_keeps hup addr rfl) rfl, laws.done_keeps hroute up rfl, laws.routeAdd_adds hroute⟩

end Functions

/-! ### Other pods -/

theorem hostVethName_ne_iface (podId : String) : hostVethName podId ≠ CONTAINER_IFACE := by
  intro h
  have first := congrArg (fun name => name.toList.head?) h
  simp [hostVethName, HOST_VETH_PREFIX, CONTAINER_IFACE] at first

/-- What wires one pod up is not undone for another. -/
theorem wiring_kept {podId other : String} {containerIp gatewayIp : UInt32} (hne : podId ≠ other) :
    ∀ f ∈ wiring podId containerIp gatewayIp, IpCall.undoes ⟨none, .netnsDel other⟩ f = false ∧
      IpCall.undoes ⟨none, .linkSetNetns CONTAINER_IFACE other⟩ f = false := by
  simp [wiring, IpCall.undoes, hne, hostVethName_ne_iface]

/-! ### A taken name -/

section Taken
variable {podId : String} {peer : Peer} {trait : Trait}

theorem netnsDel_undoes_host {dev : String} (hpeer : ∀ ns dev, peer ≠ .inside ns dev) :
    IpCall.undoes ⟨none, .netnsDel podId⟩ (.host dev peer trait) = false := by
  cases peer with
  | other => rfl
  | host dev => rfl
  | inside ns dev => exact absurd rfl (hpeer ns dev)

variable {ip : IpTool} (laws : IpLaws ip) {containerIp gatewayIp : UInt32}

/-- Where the host has an interface called like the containers', the first command is refused and the interface is never
    moved. -/
theorem configureNetns_keeps_iface :
    Preserves (fun s => laws.holds s (.host CONTAINER_IFACE peer trait)) (configureNetns podId containerIp gatewayIp) := by
  intro s taken
  refine wp_bind.mpr (wp_runCmd (laws.kept taken rfl) (fun t hlink => ?_) fun _ => laws.kept taken rfl)
  exact absurd rfl (laws.linkAdd_new hlink _ _ _ taken).2

/-- The pair of a boot is made, and then one of the two commands on its host end fails. -/
def FailsBeforeMove (ip : IpTool) (podId : String) (gatewayIp : UInt32) (s : ip.State) : Prop :=
  ∃ s₁ s₂, ip.Done s ⟨none, .netnsAdd podId⟩ s₁ ∧
    ip.Done s₁ ⟨none, .linkAddVeth (hostVethName podId) CONTAINER_IFACE⟩ s₂ ∧
    (ip.Fails s₂ ⟨none, .addrAdd gatewayIp (hostVethName podId)⟩ ∨
      ∃ s₃, ip.Done s₂ ⟨none, .addrAdd gatewayIp (hostVethName podId)⟩ s₃ ∧
        ip.Fails s₃ ⟨none, .linkSetUp (hostVethName podId)⟩)

/-- The container end is left in the host's namespace. -/
theorem FailsBeforeMove.left {s : ip.State} (h : FailsBeforeMove ip podId gatewayIp s) :
    ∃ s₁ dev, ip.Done s ⟨none, .netnsAdd podId⟩ s₁ ∧ wp (fun _ => True) (configureNetns podId containerIp gatewayIp)
      (fun _ _ => False) (fun _ t => laws.holds t (.host CONTAINER_IFACE (.host dev) .present)) s₁ := by
  obtain ⟨s₁, s₂, hnetns, hlink, hfails⟩ := h
  obtain ⟨dev, left⟩ := laws.linkAdd_adds_peer hlink (by decide)
  refine ⟨s₁, dev, hnetns, wp_bind.mpr (wp_runCmd_of_done hlink trivial (wp_bind.mpr ?_))⟩
  obtain hfails | ⟨s₃, haddr, hfails⟩ := hfails
  · exact wp_runCmd_of_fails hfails trivial fun _ => laws.kept left rfl
  · refine wp_runCmd_of_done haddr trivial (wp_bind.mpr (wp_runCmd_of_fails hfails trivial fun _ => ?_))
    exact laws.kept (laws.done_keeps haddr left rfl) rfl

end Taken

/-! ### A tool with these laws -/

/-- The facts that hold, and the runs that fail. -/
structure FactNet where
  facts : List Fact := []
  faults : List IpCall := []

namespace FactNet

/-- What a run refuses. -/
def refuses (facts : List Fact) : IpCall → Bool
  | ⟨none, .netnsAdd ns⟩ => facts.contains (.netns ns)
  | ⟨none, .linkAddVeth name peer⟩ => isPattern name || isPattern peer ||
    facts.any fun
      | .host dev _ _ => dev = name || dev = peer
      | _ => false
  | ⟨none, .addrAdd _ dev⟩ => isPattern dev
  | _ => false

/-- What a run adds, from what holds. -/
def adds (facts : List Fact) : IpCall → List Fact
  | ⟨none, .netnsAdd ns⟩ => [.netns ns]
  | ⟨none, .linkAddVeth name peer⟩ => [.host name (.host peer) .present, .host peer (.host name) .present]
  | ⟨none, .addrAdd ip dev⟩ => facts.filterMap fun
    | .host dev' peer .present => if dev' = dev then some (.host dev peer (.addr ip)) else none
    | _ => none
  | ⟨some ns, .addrAdd ip dev⟩ => [.inside ns dev (.addr ip)]
  | ⟨none, .linkSetUp dev⟩ => facts.filterMap fun
    | .host dev' peer .present => if dev' = dev then some (.host dev peer .up) else none
    | _ => none
  | ⟨some ns, .linkSetUp dev⟩ => [.inside ns dev .up]
  | ⟨none, .linkSetNetns dev ns⟩ => .inside ns dev .present :: facts.filterMap fun
    | .host name (.host dev') trait => if dev' = dev then some (.host name (.inside ns dev) trait) else none
    | _ => none
  | ⟨some ns, .routeAddDefault gateway⟩ => [.route ns gateway]
  | _ => []

/-- A run that is not refused and does not fail does what it says. -/
def tool : IpTool where
  State := FactNet
  run s call :=
    if s.faults.contains call || refuses s.facts call then (.error (.exit "exit status: 2" "refused"), s)
    else (.ok (), { s with facts := adds s.facts call ++ s.facts.filter fun f => !call.undoes f })
  pathExists s path := s.facts.any fun
    | .netns ns => (netnsPath ns).bytes.data = path.bytes.data
    | _ => false

theorem done_inv {s t : FactNet} {call : IpCall} (h : tool.Done s call t) :
    refuses s.facts call = false ∧ t.facts = adds s.facts call ++ s.facts.filter fun f => !call.undoes f := by
  have h : (if s.faults.contains call || refuses s.facts call then _ else _) = (Except.ok (), t) := h
  split at h
  · cases h
  · next hdone =>
    rw [Bool.not_eq_true, Bool.or_eq_false_iff] at hdone
    obtain rfl := congrArg Prod.snd h
    exact ⟨hdone.2, rfl⟩

theorem mem_of_adds {s t : FactNet} {call : IpCall} (h : tool.Done s call t) {f : Fact} (hf : f ∈ adds s.facts call) :
    f ∈ t.facts := by
  rw [(done_inv h).2]
  exact List.mem_append_left _ hf

theorem run_keeps {s : FactNet} {call : IpCall} {f : Fact} (hf : f ∈ s.facts) (hkept : call.undoes f = false) :
    f ∈ (tool.run s call).2.facts := by
  show f ∈ (if s.faults.contains call || refuses s.facts call then (_, s) else (_, _) :
    Except IpFailure Unit × FactNet).2.facts
  split
  · exact hf
  · exact List.mem_append_right _ (List.mem_filter.mpr ⟨hf, by rw [hkept]; rfl⟩)

def laws : IpLaws tool where
  holds s f := f ∈ FactNet.facts s
  kept := run_keeps
  netnsAdd_new h := by simpa [refuses] using (done_inv h).1
  netnsAdd_adds h := mem_of_adds h List.mem_cons_self
  linkAdd_new h dev far trait hf := by
    have refused := (done_inv h).1
    simp only [refuses, Bool.or_eq_false_iff, List.any_eq_false] at refused
    simpa using refused.2 _ hf
  linkAdd_adds h _ _ := mem_of_adds h List.mem_cons_self
  linkAdd_adds_peer h _ := ⟨_, mem_of_adds h (List.mem_cons_of_mem _ List.mem_cons_self)⟩
  pattern_unknown h := (done_inv h).1
  addrAdd_host h hf := mem_of_adds h (List.mem_filterMap.mpr ⟨_, hf, if_pos rfl⟩)
  addrAdd_inside h _ := mem_of_adds h List.mem_cons_self
  setUp_host h hf := mem_of_adds h (List.mem_filterMap.mpr ⟨_, hf, if_pos rfl⟩)
  setUp_inside h _ := mem_of_adds h List.mem_cons_self
  setNetns_moves h _ hf := ⟨mem_of_adds h (List.mem_cons_of_mem _ (List.mem_filterMap.mpr ⟨_, hf, if_pos rfl⟩)),
    mem_of_adds h List.mem_cons_self⟩
  routeAdd_adds h := mem_of_adds h List.mem_cons_self

end FactNet

end FleetosAgent.Workloads.Netns
