import FleetosAgent.Theorems.RouteSync

/-! # Route sync over runs: keys and recovery

What a frame does to the keys of the two maps, stated over the entries of the frame: with a healthy kernel the mirror is
exact after every frame and no removal misses; after operations have failed, a healthy frame repairs the maps exactly
from the states that `Recoverable` describes. -/

namespace FleetosAgent.Routes
open Lib

/-! ### The entries of a frame that is accepted -/

section Entries
variable {api : SpiffeApi} {own : api.SpiffeId} {version : UInt64} {entry : RouteEntry} {entries : List RouteEntry}
  {routes : List (ResolvedRoute api)}

/-- One of the three identities of the entry does not parse; an empty role is no identity. -/
def Unparsable (api : SpiffeApi) (entry : RouteEntry) : Prop :=
  (∃ e, api.parse entry.destinationSvid = .error e) ∨
    (entry.destinationRole.isEmpty = false ∧ ∃ e, api.roleTryFrom entry.destinationRole = .error e) ∨
    ∃ e, api.parse entry.targetAgentSvid = .error e

theorem parseDestinationRole_eq_error {role : String} : (∃ e, parseDestinationRole api role = .error e) ↔
    role.isEmpty = false ∧ ∃ e, api.roleTryFrom role = .error e := by
  unfold parseDestinationRole
  split
  · next h => simp [h]
  · next h => cases api.roleTryFrom role <;> simp_all [Except.map, Except.mapError]

theorem resolveRoute_eq_error : (∃ e, resolveRoute api version entry = .error e) ↔ Unparsable api entry := by
  rw [Unparsable, ← parseDestinationRole_eq_error, resolveRoute]
  cases api.parse entry.destinationSvid with
  | error e => simp [Except.mapError, bind, Except.bind]
  | ok dst =>
    cases parseDestinationRole api entry.destinationRole with
    | error e => simp [Except.mapError, bind, Except.bind]
    | ok role => cases api.parse entry.targetAgentSvid <;> simp [Except.mapError, bind, Except.bind, pure, Except.pure]

/-- What a resolved route says about the entry it came from. -/
structure Resolves (api : SpiffeApi) (entry : RouteEntry) (route : ResolvedRoute api) : Prop where
  dummyIp : route.dummyIp = entry.dummyIp
  target : api.parse entry.targetAgentSvid = .ok route.targetAgent
  dst : ∃ id role, api.parse entry.destinationSvid = .ok id ∧ parseDestinationRole api entry.destinationRole = .ok role ∧
    route.value.dstFp = api.fingerprintOf id role

theorem resolves_of_ok {route : ResolvedRoute api} (h : resolveRoute api version entry = .ok route) :
    Resolves api entry route := by
  rw [resolveRoute] at h
  cases hd : api.parse entry.destinationSvid with
  | error e => simp [hd, Except.mapError, bind, Except.bind] at h
  | ok dst =>
    cases hr : parseDestinationRole api entry.destinationRole with
    | error e => simp [hd, hr, Except.mapError, bind, Except.bind] at h
    | ok role =>
      cases ht : api.parse entry.targetAgentSvid with
      | error e => simp [hd, hr, ht, Except.mapError, bind, Except.bind] at h
      | ok target =>
        simp only [hd, hr, ht, Except.mapError, bind, Except.bind, pure, Except.pure, Except.ok.injEq] at h
        subst h
        exact ⟨rfl, ht, dst, role, hd, hr, rfl⟩

theorem mapM_resolve_cons : (entry :: entries).mapM (resolveRoute api version) =
    match resolveRoute api version entry with
    | .error e => .error e
    | .ok route => (entries.mapM (resolveRoute api version)).map (route :: ·) := by
  rw [List.mapM_cons]
  cases resolveRoute api version entry with
  | error e => rfl
  | ok route => cases entries.mapM (resolveRoute api version) <;> rfl

/-- A frame is rejected exactly when one of its entries has a field that does not parse. -/
theorem mapM_resolve_eq_error : (∃ e, entries.mapM (resolveRoute api version) = .error e) ↔
    ∃ entry ∈ entries, Unparsable api entry := by
  induction entries with
  | nil => simp [pure, Except.pure]
  | cons entry entries ih =>
    have head : (∃ e, resolveRoute api version entry = .error e) ↔ Unparsable api entry := resolveRoute_eq_error
    rw [mapM_resolve_cons, List.exists_mem_cons_iff, ← ih, ← head]
    cases resolveRoute api version entry with
    | error e => simp
    | ok route => cases entries.mapM (resolveRoute api version) <;> simp [Except.map]

theorem forall₂_resolves (h : entries.mapM (resolveRoute api version) = .ok routes) :
    List.Forall₂ (Resolves api) entries routes := by
  induction entries generalizing routes with
  | nil =>
    obtain rfl := Except.ok.inj h
    exact .nil
  | cons entry entries ih =>
    rw [mapM_resolve_cons] at h
    cases hr : resolveRoute api version entry with
    | error e => simp [hr] at h
    | ok route =>
      cases hrest : entries.mapM (resolveRoute api version) with
      | error e => simp [hr, hrest, Except.map] at h
      | ok rest =>
        simp only [hr, hrest, Except.map, Except.ok.injEq] at h
        subst h
        exact .cons (resolves_of_ok hr) (ih hrest)

/-- The keys a frame wants in DUMMY_IP_ROUTE_MAP are the converted dummy IPs of its entries. -/
theorem mem_routeKeys (h : List.Forall₂ (Resolves api) entries routes) {k : UInt32} :
    k ∈ keySet (routePairs routes) ↔ ∃ entry ∈ entries, k = (HostOrderIpv4.fromNetwork entry.dummyIp).val := by
  rw [keySet, List.mem_toFinset]
  induction h with
  | nil => simp [routePairs]
  | cons hr _ ih =>
    simp only [routePairs, List.map_cons, List.mem_cons, exists_eq_or_imp, ResolvedRoute.hostOrderIp, hr.dummyIp] at ih ⊢
    rw [ih]

/-- The destination of the entry is on this node, and `fp` is its fingerprint. -/
def LocalFp (api : SpiffeApi) (own : api.SpiffeId) (entry : RouteEntry) (fp : IdentityFingerprint) : Prop :=
  api.parse entry.targetAgentSvid = .ok own ∧
    ∃ id role, api.parse entry.destinationSvid = .ok id ∧ parseDestinationRole api entry.destinationRole = .ok role ∧
      fp = api.fingerprintOf id role

theorem localFp_iff {route : ResolvedRoute api} (h : Resolves api entry route) {fp : IdentityFingerprint} :
    LocalFp api own entry fp ↔ route.targetAgent = own ∧ fp = route.value.dstFp := by
  obtain ⟨-, target, id, role, hid, hrole, hfp⟩ := h
  constructor
  · rintro ⟨htarget, id', role', hid', hrole', rfl⟩
    obtain rfl := Except.ok.inj (hid.symm.trans hid')
    obtain rfl := Except.ok.inj (hrole.symm.trans hrole')
    exact ⟨Except.ok.inj (target.symm.trans htarget), hfp.symm⟩
  · rintro ⟨rfl, rfl⟩
    exact ⟨target, id, role, hid, hrole, hfp⟩

theorem mem_localKeys (h : List.Forall₂ (Resolves api) entries routes) {fp : IdentityFingerprint} :
    fp ∈ keySet (localPairs own routes) ↔ ∃ entry ∈ entries, LocalFp api own entry fp := by
  rw [keySet, List.mem_toFinset]
  induction h with
  | nil => simp [localPairs]
  | @cons entry route entries routes hr _ ih =>
    rw [List.exists_mem_cons_iff, ← ih, localFp_iff hr]
    by_cases ht : route.targetAgent = own <;> simp [localPairs, ht]

end Entries

/-! ### One frame, whatever the kernel does -/

section Frame
variable {api : SpiffeApi} {own : api.SpiffeId} {w : RouteWorld} {frame : RouteFrame} {routes : List (ResolvedRoute api)}

/-- The frame is applied: its mutations are computed, the lock is taken and every map operation succeeds. -/
def Applies (api : SpiffeApi) (own : api.SpiffeId) (w : RouteWorld) (frame : RouteFrame) : Prop :=
  frame.env.lockPoisoned = none ∧ ∃ mutations,
    processRouteUpdate api own frame.env.order w.state frame.update = .ok (some mutations) ∧
    (applyMutationsToMaps frame.env.fault mutations w.maps).1 = .ok ()

theorem applies_iff_of_accepts (ha : Accepts api w.state.currentVersion frame.update routes) :
    Applies api own w frame ↔ frame.env.lockPoisoned = none ∧
      (applyMutationsToMaps frame.env.fault (diffMutations own frame.env.order w.state routes) w.maps).1 = .ok () := by
  rw [Applies, processRouteUpdate_of_accepts ha]
  simp

theorem Applies.accepts (h : Applies api own w frame) :
    ∃ routes, Accepts api w.state.currentVersion frame.update routes := by
  obtain ⟨-, mutations, hp, -⟩ := h
  rcases frame_cases api w.state.currentVersion frame.update with hs | ⟨hn, e, he⟩ | hacc
  · rw [processRouteUpdate_of_stale hs] at hp
    cases hp
  · rw [processRouteUpdate_of_error hn he] at hp
    cases hp
  · exact hacc

/-- A frame that is applied is recorded in the mirror, with the keys of its routes. -/
theorem routeStep_of_applies (h : Applies api own w frame)
    (ha : Accepts api w.state.currentVersion frame.update routes) :
    routeStep api own w frame =
      ⟨⟨frame.update.version, keySet (routePairs routes), keySet (localPairs own routes)⟩,
        (applyMutationsToMaps frame.env.fault (diffMutations own frame.env.order w.state routes) w.maps).2⟩ := by
  obtain ⟨lock, ok⟩ := (applies_iff_of_accepts ha).mp h
  rw [routeStep, processRouteUpdate_of_accepts ha, lock]
  dsimp only
  revert ok
  rcases applyMutationsToMaps frame.env.fault (diffMutations own frame.env.order w.state routes) w.maps with ⟨r, maps⟩
  rintro rfl
  simp only [applyMutationsToState_diff]

/-- A frame that is not applied leaves the mirror as it is. -/
theorem routeStep_state_of_not_applies (h : ¬Applies api own w frame) :
    (routeStep api own w frame).state = w.state := by
  unfold routeStep
  split
  · rfl
  · rfl
  · next mutations hp =>
    split
    · rfl
    · next lock =>
      split
      · rfl
      · next hm => exact absurd ⟨lock, mutations, hp, congrArg Prod.fst hm⟩ h

end Frame

/-! ### One frame on a healthy kernel -/

section Healthy
variable {api : SpiffeApi} {own : api.SpiffeId} {w : RouteWorld} {frame : RouteFrame} {routes : List (ResolvedRoute api)}
  {maps maps' : RouteMaps}

theorem apply_append_error {a : List RouteMutation} {e : AgentError}
    (h : applyMutationsToMaps quietMaps a maps = (.error e, maps')) (b : List RouteMutation) :
    applyMutationsToMaps quietMaps (a ++ b) maps = (.error e, maps') := by
  induction a generalizing maps with
  | nil => cases h
  | cons mutation a ih =>
    rw [List.cons_append, applyMutationsToMaps]
    rw [applyMutationsToMaps] at h
    cases hm : applyMutation (quietMaps 0) mutation maps with
    | error e' =>
      rw [hm] at h
      exact h
    | ok maps₁ =>
      rw [hm] at h
      exact ih h

/-- The mutations of a frame are applied without error exactly when the removals of both maps find their keys. -/
theorem apply_diff_ok_iff {order : KeyOrder} :
    (applyMutationsToMaps quietMaps (diffMutations own order w.state routes) w.maps).1 = .ok () ↔
      (routeTable order w routes).1 = .ok () ∧ (localTable own order w routes).1 = .ok () := by
  constructor
  · intro ok
    rw [diffMutations, List.append_assoc, apply_append (apply_inserts w.state routes w.maps)] at ok
    unfold routeTable localTable syncTable
    have deletes := apply_deletes (stale order.dummyIp w.state.dummyIpKeys (keySet (routePairs routes)))
      ⟨(insertAll quietMaps (missing w.state.dummyIpKeys (routePairs routes)) w.maps.dummyIpRoute).2,
        (insertAll quietMaps (missing w.state.localWorkloadFps (localPairs own routes)) w.maps.localWorkloads).2⟩
    rcases hr : (removeAll absentKey quietMaps (stale order.dummyIp w.state.dummyIpKeys (keySet (routePairs routes)))
      (insertAll quietMaps (missing w.state.dummyIpKeys (routePairs routes)) w.maps.dummyIpRoute).2).1 with e | u
    · rw [hr] at deletes
      rw [apply_append_error deletes] at ok
      cases ok
    · rw [hr] at deletes
      rw [apply_append deletes, apply_removals] at ok
      refine ⟨rfl, ?_⟩
      revert ok
      cases (removeAll absentKey quietMaps
        (stale order.localWorkload w.state.localWorkloadFps (keySet (localPairs own routes))) _).1 with
      | error e => exact fun ok => (by cases ok)
      | ok u => exact fun _ => rfl
  · rintro ⟨hr, hl⟩
    rw [apply_diff_ok hr hl]

/-- Each remove of the list finds its key in the maps that the mutations before it left. -/
def RemovesFind (mutations : List RouteMutation) (maps : RouteMaps) : Prop :=
  ∀ pre mutation post, mutations = pre ++ mutation :: post →
    match mutation with
    | .deleteRoute key => key.val ∈ (applyMutationsToMaps quietMaps pre maps).2.dummyIpRoute.keys
    | .removeLocalWorkload fp => fp ∈ (applyMutationsToMaps quietMaps pre maps).2.localWorkloads.keys
    | _ => True

/-- Where all operations succeed, no remove missed. -/
theorem removesFind_of_ok {mutations : List RouteMutation}
    (ok : (applyMutationsToMaps quietMaps mutations maps).1 = .ok ()) : RemovesFind mutations maps := by
  intro pre mutation post hsplit
  rcases hpre : applyMutationsToMaps quietMaps pre maps with ⟨e | u, maps₁⟩
  · rw [hsplit, apply_append_error hpre] at ok
    cases ok
  · rw [hsplit, apply_append hpre, applyMutationsToMaps] at ok
    cases mutation with
    | insertRoute key value => trivial
    | addLocalWorkload fp => trivial
    | deleteRoute key =>
      by_contra absent
      simp [quietMaps, applyMutation, absent] at ok
    | removeLocalWorkload fp =>
      by_contra absent
      simp [quietMaps, applyMutation, absent] at ok

end Healthy

/-! ### Runs on a healthy kernel: keys -/

section Keys
variable (api : SpiffeApi) (own : api.SpiffeId)

/-- What handling `frame` in `w` does to the keys when nothing fails on its own account. -/
structure KeysFollow (w : RouteWorld) (frame : RouteFrame) : Prop where
  mirrored : Mirrored (routeStep api own w frame)
  stale_frame : frame.update.version ≤ w.state.currentVersion →
    processRouteUpdate api own frame.env.order w.state frame.update = .ok none ∧ routeStep api own w frame = w
  unparsable_frame : w.state.currentVersion < frame.update.version →
    (∃ entry ∈ frame.update.routes, Unparsable api entry) →
    (∃ e, processRouteUpdate api own frame.env.order w.state frame.update = .error e) ∧ routeStep api own w frame = w
  accepted_frame : w.state.currentVersion < frame.update.version →
    (∀ entry ∈ frame.update.routes, ¬Unparsable api entry) → Applies api own w frame ∧
    (routeStep api own w frame).state.currentVersion = frame.update.version ∧
    (∀ k, k ∈ (routeStep api own w frame).maps.dummyIpRoute.keys ↔
      ∃ entry ∈ frame.update.routes, k = (HostOrderIpv4.fromNetwork entry.dummyIp).val) ∧
    ∀ fp, fp ∈ (routeStep api own w frame).maps.localWorkloads.keys ↔
      ∃ entry ∈ frame.update.routes, LocalFp api own entry fp
  removes_find : ∀ mutations, processRouteUpdate api own frame.env.order w.state frame.update = .ok (some mutations) →
    RemovesFind mutations w.maps

variable {api own} {w : RouteWorld} {frame : RouteFrame} {routes : List (ResolvedRoute api)}

theorem accepts_of_parsable (hv : w.state.currentVersion < frame.update.version)
    (hp : ∀ entry ∈ frame.update.routes, ¬Unparsable api entry) :
    ∃ routes, Accepts api w.state.currentVersion frame.update routes := by
  cases hr : frame.update.routes.mapM (resolveRoute api frame.update.version) with
  | error e =>
    obtain ⟨entry, hmem, hbad⟩ := mapM_resolve_eq_error.mp ⟨e, hr⟩
    exact absurd hbad (hp entry hmem)
  | ok routes => exact ⟨routes, hv, hr⟩

theorem applies_of_mirrored (h : frame.env.Healthy) (hm : Mirrored w)
    (ha : Accepts api w.state.currentVersion frame.update routes) : Applies api own w frame := by
  have fault : frame.env.fault = quietMaps := funext h.fault
  rw [applies_iff_of_accepts ha, fault, apply_diff_ok_iff]
  refine ⟨h.lock, ?_, ?_⟩
  · exact (syncTable_ok_iff (fun _ => rfl) fun _ => rfl).mpr fun k hk _ => hm.dummy_ip_keys ▸ hk
  · exact (syncTable_ok_iff (fun _ => rfl) fun _ => rfl).mpr fun k hk _ => hm.local_keys ▸ hk

theorem routeStep_keeps_mirrored (h : frame.env.Healthy) (hm : Mirrored w) : Mirrored (routeStep api own w frame) := by
  cases hacc : acceptRoute api w.state.currentVersion frame with
  | none =>
    rw [routeStep_of_dropped hacc]
    exact hm
  | some vr => exact mirrored_step h hm (acceptRoute_eq_some.mp hacc).2

theorem keysFollow_of_mirrored (h : frame.env.Healthy) (hm : Mirrored w) : KeysFollow api own w frame where
  mirrored := routeStep_keeps_mirrored h hm
  stale_frame hs := by
    have dropped : acceptRoute api w.state.currentVersion frame = none := if_pos hs
    exact ⟨processRouteUpdate_of_stale hs, routeStep_of_dropped dropped⟩
  unparsable_frame hv hbad := by
    obtain ⟨e, he⟩ := mapM_resolve_eq_error.mpr hbad
    have dropped : acceptRoute api w.state.currentVersion frame = none := by
      rw [acceptRoute, if_neg (UInt64.not_le.mpr hv), he]
      rfl
    exact ⟨⟨e, processRouteUpdate_of_error hv he⟩, routeStep_of_dropped dropped⟩
  accepted_frame hv hp := by
    obtain ⟨routes, ha⟩ := accepts_of_parsable hv hp
    have entries := forall₂_resolves ha.2
    have keys : Mirrored (routeStep api own w frame) := routeStep_keeps_mirrored h hm
    have state : (routeStep api own w frame).state =
        ⟨frame.update.version, keySet (routePairs routes), keySet (localPairs own routes)⟩ := by
      rw [routeStep_mirrored h hm ha]
    refine ⟨applies_of_mirrored h hm ha, by rw [state], fun k => ?_, fun fp => ?_⟩
    · rw [keys.dummy_ip_keys, state]
      exact mem_routeKeys entries
    · rw [keys.local_keys, state]
      exact mem_localKeys entries
  removes_find mutations hp := by
    have applied : (applyMutationsToMaps quietMaps mutations w.maps).1 = .ok () := by
      rcases frame_cases api w.state.currentVersion frame.update with hs | ⟨hn, e, he⟩ | ⟨routes, ha⟩
      · rw [processRouteUpdate_of_stale hs] at hp
        cases hp
      · rw [processRouteUpdate_of_error hn he] at hp
        cases hp
      · have applies : Applies api own w frame := applies_of_mirrored h hm ha
        obtain ⟨-, mutations', hp', ok⟩ := applies
        obtain rfl : mutations = mutations' := Option.some.inj (Except.ok.inj (hp.symm.trans hp'))
        rwa [show frame.env.fault = quietMaps from funext h.fault] at ok
    exact removesFind_of_ok applied

/-- The mirror, the kernel maps and the newest accepted frame have the same keys after every frame of every run on a
    healthy kernel, and no removal ever misses. -/
theorem route_run_keys (frames : List RouteFrame) (healthy : ∀ frame ∈ frames, frame.env.Healthy) :
    Along (routeStep api own) (KeysFollow api own) {} frames := by
  have run : Along (routeStep api own) (fun _ frame => frame.env.Healthy) {} frames :=
    fun pre frame post hl => healthy frame (by rw [hl]; simp)
  refine run.of_inv (I := Mirrored) (fun w frame hm h => ?_) (fun w frame hm h => ?_) mirrored_empty
  · exact routeStep_keeps_mirrored h hm
  · exact keysFollow_of_mirrored h hm

theorem route_run_keys_of_moved : Along (routeStep textApi nodeA) (KeysFollow textApi nodeA) {}
    [webFrame "node-a" 1, webFrame "node-bb" 2] :=
  route_run_keys _ (webFrames_healthy _ _)

end Keys

/-! ### Runs in which operations failed -/

section Recovery
variable {api : SpiffeApi} {own : api.SpiffeId} {w : RouteWorld} {frame : RouteFrame} {routes : List (ResolvedRoute api)}

/-- A state from which one healthy frame with these entries repairs both maps: every key of the mirror is in the kernel,
    and every kernel key that the mirror does not know is a key of the frame. -/
structure Recoverable (api : SpiffeApi) (own : api.SpiffeId) (entries : List RouteEntry) (w : RouteWorld) : Prop where
  dummy_ip_sub : w.state.dummyIpKeys ⊆ w.maps.dummyIpRoute.keys
  dummy_ip_extra : ∀ k ∈ w.maps.dummyIpRoute.keys, k ∉ w.state.dummyIpKeys →
    ∃ entry ∈ entries, k = (HostOrderIpv4.fromNetwork entry.dummyIp).val
  local_sub : w.state.localWorkloadFps ⊆ w.maps.localWorkloads.keys
  local_extra : ∀ fp ∈ w.maps.localWorkloads.keys, fp ∉ w.state.localWorkloadFps →
    ∃ entry ∈ entries, LocalFp api own entry fp

/-- The frame is applied without error, and afterwards both maps have exactly its keys. -/
structure Recovers (api : SpiffeApi) (own : api.SpiffeId) (w : RouteWorld) (frame : RouteFrame) : Prop where
  applies : Applies api own w frame
  dummy_ip_keys : ∀ k, k ∈ (routeStep api own w frame).maps.dummyIpRoute.keys ↔
    ∃ entry ∈ frame.update.routes, k = (HostOrderIpv4.fromNetwork entry.dummyIp).val
  local_keys : ∀ fp, fp ∈ (routeStep api own w frame).maps.localWorkloads.keys ↔
    ∃ entry ∈ frame.update.routes, LocalFp api own entry fp

theorem recoverable_iff (entries : List.Forall₂ (Resolves api) frame.update.routes routes) (order : KeyOrder) :
    Recoverable api own frame.update.routes w ↔
      ((routeTable order w routes).1 = .ok () ∧ (routeTable order w routes).2.keys = keySet (routePairs routes)) ∧
      ((localTable own order w routes).1 = .ok () ∧
        (localTable own order w routes).2.keys = keySet (localPairs own routes)) := by
  have quiet : Healthy quietMaps := fun _ => rfl
  unfold routeTable localTable
  rw [syncTable_exact_iff quiet quiet, syncTable_exact_iff quiet quiet]
  simp only [mem_routeKeys entries, mem_localKeys entries]
  exact ⟨fun ⟨a, b, c, d⟩ => ⟨⟨a, b⟩, c, d⟩, fun ⟨⟨a, b⟩, c, d⟩ => ⟨a, b, c, d⟩⟩

theorem recovers_iff (h : frame.env.Healthy) (ha : Accepts api w.state.currentVersion frame.update routes) :
    Recovers api own w frame ↔ Recoverable api own frame.update.routes w := by
  have entries := forall₂_resolves ha.2
  have fault : frame.env.fault = quietMaps := funext h.fault
  have applies : Applies api own w frame ↔ (routeTable frame.env.order w routes).1 = .ok () ∧
      (localTable own frame.env.order w routes).1 = .ok () := by
    rw [applies_iff_of_accepts ha, fault, apply_diff_ok_iff]
    exact and_iff_right h.lock
  have maps : Applies api own w frame → (routeStep api own w frame).maps =
      ⟨(routeTable frame.env.order w routes).2, (localTable own frame.env.order w routes).2⟩ := by
    intro happ
    obtain ⟨hr, hl⟩ := applies.mp happ
    rw [routeStep_of_applies happ ha, fault, apply_diff_ok hr hl]
  rw [recoverable_iff entries frame.env.order]
  constructor
  · rintro ⟨happ, hk, hf⟩
    obtain ⟨hr, hl⟩ := applies.mp happ
    rw [maps happ] at hk hf
    refine ⟨⟨hr, Finset.ext fun k => ?_⟩, hl, Finset.ext fun fp => ?_⟩
    · rw [hk, mem_routeKeys entries]
    · rw [hf, mem_localKeys entries]
  · rintro ⟨⟨hr, hk⟩, hl, hf⟩
    have happ := applies.mpr ⟨hr, hl⟩
    refine ⟨happ, fun k => ?_, fun fp => ?_⟩
    · rw [maps happ, hk, mem_routeKeys entries]
    · rw [maps happ, hf, mem_localKeys entries]

/-- A frame that is newer than the current version and has no field that does not parse. -/
def WellFormed (api : SpiffeApi) (w : RouteWorld) (frame : RouteFrame) : Prop :=
  w.state.currentVersion < frame.update.version ∧ ∀ entry ∈ frame.update.routes, ¬Unparsable api entry

/-- In every run, whatever operations failed in it: a fresh well-formed frame that finds the kernel healthy repairs the
    maps exactly when the state it finds is recoverable. -/
theorem route_run_recovers_iff (frames : List RouteFrame) :
    Along (routeStep api own) (fun w frame => frame.env.Healthy → WellFormed api w frame →
      (Recovers api own w frame ↔ Recoverable api own frame.update.routes w)) {} frames := by
  intro pre frame post _ h hwf
  obtain ⟨routes, ha⟩ := accepts_of_parsable hwf.1 hwf.2
  exact recovers_iff h ha

/-- The frame of `webFrame` dies at its LOCAL_WORKLOADS entry, after the route is in the kernel. -/
noncomputable def abandonedFrame : RouteFrame where
  update := (webFrame "node-a" 1).update
  env := { order := ⟨.arbitrary, .arbitrary⟩, fault := fun n => if n = 1 then some "no memory" else none }

noncomputable def emptyFrame : RouteFrame where
  update := { routes := [], version := 2 }
  env := { order := ⟨.arbitrary, .arbitrary⟩ }

def webKey : UInt32 := (webRoute "node-a" 1).hostOrderIp.val

/-- Its route is in the kernel afterwards, and the mirror does not know. -/
theorem abandonedFrame_step : routeStep textApi nodeA {} abandonedFrame =
    { maps := { dummyIpRoute := (∅ : FinMap _ _).insert webKey (routeValueBytes (webRoute "node-a" 1).value) } } := by
  have fresh : Accepts textApi ({} : RouteWorld).state.currentVersion abandonedFrame.update [webRoute "node-a" 1] :=
    ⟨by decide, webFrame_resolves "node-a" 1⟩
  have mutations : diffMutations nodeA abandonedFrame.env.order ({} : RouteWorld).state [webRoute "node-a" 1] =
      [.insertRoute (webRoute "node-a" 1).hostOrderIp (webRoute "node-a" 1).value,
        .addLocalWorkload (webRoute "node-a" 1).value.dstFp] := by
    have no_keys : ({} : RouteWorld).state.dummyIpKeys = ∅ := rfl
    have no_fps : ({} : RouteWorld).state.localWorkloadFps = ∅ := rfl
    have new_key : (webRoute "node-a" 1).hostOrderIp.val ∉ ({} : RouteWorld).state.dummyIpKeys := Finset.notMem_empty _
    have new_fp : (webRoute "node-a" 1).targetAgent = nodeA ∧
        (webRoute "node-a" 1).value.dstFp ∉ ({} : RouteWorld).state.localWorkloadFps := ⟨rfl, Finset.notMem_empty _⟩
    rw [diffMutations, no_keys, no_fps, stale_empty, stale_empty, List.flatMap_singleton, routeInserts, if_pos new_key,
      if_pos new_fp]
    rfl
  rw [routeStep, processRouteUpdate_of_accepts fresh, mutations]
  rfl

/-- The healthy frame that wants nothing leaves the route of the abandoned one in the kernel. -/
theorem route_run_keeps_abandoned_route :
    ¬Along (routeStep textApi nodeA) (fun w frame => frame.env.Healthy → WellFormed textApi w frame →
      Recovers textApi nodeA w frame) {} [abandonedFrame, emptyFrame] := by
  intro h
  have healthy : emptyFrame.env.Healthy := ⟨rfl, fun _ => rfl⟩
  have last := (along_cons.mp (along_cons.mp h).2).1 healthy
  rw [abandonedFrame_step] at last
  have fresh : Accepts textApi 0 emptyFrame.update [] := ⟨by decide, rfl⟩
  have recovers := last ⟨by decide, fun entry hmem => (by cases hmem)⟩
  have extra := ((recovers_iff healthy fresh).mp recovers).dummy_ip_extra
  obtain ⟨entry, hmem, -⟩ := extra webKey (Finset.mem_insert_self webKey ∅) (Finset.notMem_empty webKey)
  cases hmem

end Recovery

end FleetosAgent.Routes
