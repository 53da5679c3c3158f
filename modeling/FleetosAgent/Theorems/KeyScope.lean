import FleetosAgent.Lib.Run
import FleetosAgent.VsockAttest.ConfigPush

/-! # Issued SVIDs are in the scope of their key

Every change of the key manager files a key under the id it is for. So whatever happens to the manager between the two reads
of `build`, the key that signs is one for the workload, and unexpired at the time `build` read: if none is there any more,
both SVID fields stay empty. -/

namespace FleetosAgent.Identity
open Lib

/-! ### The manager -/

section Manager
variable {api : SpiffeApi}

/-- Every entry holds a key for the id it is filed under. -/
def DelegatedKeyManager.Scoped (m : DelegatedKeyManager api) : Prop :=
  ∀ target entry, m.keys.get target = some entry → entry.key.targetSvidId = target

/-- What can happen to the shared manager: its own calls, and the steps of the refresh loop. -/
inductive KeyOp (api : SpiffeApi) where
  | installKey (key : DelegatedSigningKey api) (delegationId : List UInt8)
  | remove (targetSvidId : api.SpiffeId)
  | pruneExpired (nowUnix : UInt64)
  | clear
  | refresh (event : RefreshEvent api)

def keyStep (loop : RefreshLoop api) (s : DelegatedKeyManager api × RefreshState api) :
    KeyOp api → DelegatedKeyManager api × RefreshState api
  | .installKey key delegationId => (s.1.installKey key delegationId, s.2)
  | .remove targetSvidId => (s.1.remove targetSvidId, s.2)
  | .pruneExpired nowUnix => (s.1.pruneExpired nowUnix, s.2)
  | .clear => (s.1.clear, s.2)
  | .refresh event => loop.step s.1 s.2 event

/-- The manager after a run from an empty one. -/
def keysAfter (loop : RefreshLoop api) (ops : List (KeyOp api)) : DelegatedKeyManager api :=
  (ops.foldl (keyStep loop) ({}, {})).1

namespace DelegatedKeyManager
variable {m : DelegatedKeyManager api}

theorem Scoped.installKey (h : m.Scoped) (key : DelegatedSigningKey api) (delegationId : List UInt8) :
    (m.installKey key delegationId).Scoped := by
  intro target entry hget
  rw [DelegatedKeyManager.installKey, FinMap.get_insert] at hget
  split at hget
  · next heq =>
    obtain rfl := Option.some.inj hget
    exact heq.symm
  · exact h target entry hget

theorem Scoped.remove (h : m.Scoped) (targetSvidId : api.SpiffeId) : (m.remove targetSvidId).Scoped :=
  fun target entry hget => h target entry (FinMap.get_remove_eq_some.mp hget).2

theorem Scoped.pruneExpired (h : m.Scoped) (nowUnix : UInt64) : (m.pruneExpired nowUnix).Scoped :=
  fun target entry hget => h target entry (FinMap.get_retain_eq_some.mp hget).1

theorem Scoped.empty : ({} : DelegatedKeyManager api).Scoped := fun _ _ hget => nomatch hget

theorem Scoped.requestAndInstall (h : m.Scoped) (control : Control api) (node target : api.SpiffeId)
    (ordinal : Option UInt32) (ttlSecs : UInt64) :
    (requestAndInstall control m node target ordinal ttlSecs).2.Scoped := by
  unfold Identity.requestAndInstall
  split
  · exact h
  · exact h.installKey _ _

end DelegatedKeyManager

/-- What a step of the refresh loop does. -/
inductive RefreshMove (loop : RefreshLoop api) (m : DelegatedKeyManager api) (s : RefreshState api) :
    RefreshEvent api → DelegatedKeyManager api × RefreshState api → Prop
  | idle (event : RefreshEvent api) : RefreshMove loop m s event (m, s)
  | ticked (nowUnix : UInt64) (order : Enumeration api.SpiffeId) (done : s.queue = [] ∧ s.waiting = none) :
    RefreshMove loop m s (.tick nowUnix order)
      (m.pruneExpired nowUnix, { queue := RefreshLoop.needsRefresh (m.pruneExpired nowUnix) order nowUnix })
  | sent (next : api.SpiffeId × Option UInt32) (queue : List (api.SpiffeId × Option UInt32))
    (head : s.queue = next :: queue)
    (free : s.waiting = none) : RefreshMove loop m s .send (m, ⟨queue, some next⟩)
  | answered (control : Control api) (target : api.SpiffeId) (ordinal : Option UInt32)
    (awaited : s.waiting = some (target, ordinal)) : RefreshMove loop m s (.answered control)
      ((requestAndInstall control m loop.nodeSvidId target ordinal loop.ttlSecs).2, { s with waiting := none })

theorem refresh_move (loop : RefreshLoop api) (m : DelegatedKeyManager api) (s : RefreshState api)
    (event : RefreshEvent api) :
    RefreshMove loop m s event (loop.step m s event) := by
  obtain ⟨queue, waiting⟩ := s
  cases event with
  | tick nowUnix order =>
    cases queue with
    | cons next queue => exact .idle _
    | nil =>
      cases waiting with
      | some awaited => exact .idle _
      | none => exact .ticked nowUnix order ⟨rfl, rfl⟩
  | send =>
    cases queue with
    | nil => exact .idle _
    | cons next queue =>
      cases waiting with
      | some awaited => exact .idle _
      | none => exact .sent next queue rfl rfl
  | answered control =>
    cases waiting with
    | none => exact .idle _
    | some awaited => exact .answered control awaited.1 awaited.2 rfl

theorem RefreshMove.scoped {loop : RefreshLoop api} {m : DelegatedKeyManager api} {s : RefreshState api}
    {event : RefreshEvent api} {next : DelegatedKeyManager api × RefreshState api}
    (move : RefreshMove loop m s event next) (h : m.Scoped) :
    next.1.Scoped := by
  cases move with
  | idle => exact h
  | ticked nowUnix => exact h.pruneExpired nowUnix
  | sent => exact h
  | answered control => exact h.requestAndInstall control _ _ _ _

/-! ### What is asked for is what is filed -/

/-- Where control answers with a key, it is one for the requested id and ordinal. The request names the id by its text. -/
def Honest (control : Control api) : Prop :=
  ∀ request key delegationId, control request = .ok (key, delegationId) →
    api.display key.targetSvidId = request.targetSpiffeId ∧ key.targetOrdinal = request.targetOrdinal

def RefreshEvent.Honest : RefreshEvent api → Prop
  | .answered control => Identity.Honest control
  | _ => True

/-- Every key that is held and every request of the refresh loop is for an id and an ordinal with `R`. -/
structure Filed (R : api.SpiffeId → Option UInt32 → Prop) (m : DelegatedKeyManager api) (s : RefreshState api) : Prop where
  held : ∀ target entry, m.keys.get target = some entry → R target entry.key.targetOrdinal
  queued : ∀ request ∈ s.queue, R request.1 request.2
  awaited : ∀ request, s.waiting = some request → R request.1 request.2

section Filed
variable {R : api.SpiffeId → Option UInt32 → Prop} {m : DelegatedKeyManager api} {s : RefreshState api}

/-- `R` depends on the text of the id only. -/
def OfText (R : api.SpiffeId → Option UInt32 → Prop) : Prop :=
  ∀ id id' ordinal, api.display id = api.display id' → R id ordinal → R id' ordinal

theorem Filed.empty : Filed R ({} : DelegatedKeyManager api) {} :=
  ⟨fun _ _ h => (nomatch h), fun _ h => (nomatch h), fun _ h => (nomatch h)⟩

theorem Filed.requestAndInstall {control : Control api} {node target : api.SpiffeId} {ordinal : Option UInt32}
    {ttlSecs : UInt64} (text : OfText R) (honest : Honest control) (hR : R target ordinal) (h : Filed R m s) :
    Filed R (requestAndInstall control m node target ordinal ttlSecs).2 s := by
  refine ⟨fun target' entry hget => ?_, h.queued, h.awaited⟩
  unfold Identity.requestAndInstall at hget
  split at hget
  · exact h.held target' entry hget
  · next key delegationId hok =>
    obtain ⟨hdisplay, hordinal⟩ := honest _ _ _ hok
    rw [DelegatedKeyManager.installKey, FinMap.get_insert] at hget
    split at hget
    · next heq =>
      obtain rfl := Option.some.inj hget
      rw [heq, hordinal]
      exact text target key.targetSvidId ordinal hdisplay.symm hR
    · exact h.held target' entry hget

/-- The loop asks again for what is held: the same id, with the ordinal of its key. -/
theorem needsRefresh_held {order : Enumeration api.SpiffeId} {nowUnix : UInt64} {request : api.SpiffeId × Option UInt32}
    (h : request ∈ RefreshLoop.needsRefresh (m.pruneExpired nowUnix) order nowUnix) :
    ∃ entry, m.keys.get request.1 = some entry ∧ request.2 = entry.key.targetOrdinal := by
  obtain ⟨target, hmem, hrequest⟩ := List.mem_filterMap.mp h
  obtain ⟨-, hsome⟩ := Option.ite_none_right_eq_some.mp hrequest
  obtain rfl := Option.some.inj hsome
  obtain ⟨entry, hentry⟩ := FinMap.mem_keys_iff.mp ((order.mem_list _ _).mp hmem)
  obtain ⟨hget, hvalid⟩ := FinMap.get_retain_eq_some.mp hentry
  refine ⟨entry, hget, ?_⟩
  have held : (m.pruneExpired nowUnix).getKey target nowUnix = some entry.key := by
    rw [DelegatedKeyManager.getKey, hentry, Option.filter_some, if_pos hvalid]
    rfl
  rw [held]
  rfl

theorem RefreshMove.filed {loop : RefreshLoop api} {event : RefreshEvent api}
    {next : DelegatedKeyManager api × RefreshState api} (move : RefreshMove loop m s event next) (text : OfText R)
    (honest : event.Honest) (h : Filed R m s) :
    Filed R next.1 next.2 := by
  cases move with
  | idle => exact h
  | ticked nowUnix order =>
    refine ⟨fun target entry hget => h.held target entry (FinMap.get_retain_eq_some.mp hget).1, fun request hmem => ?_,
      fun _ hnone => (nomatch hnone)⟩
    obtain ⟨entry, hget, hordinal⟩ := needsRefresh_held hmem
    rw [hordinal]
    exact h.held request.1 entry hget
  | sent next queue head =>
    have queued := h.queued
    rw [head] at queued
    refine ⟨h.held, fun request hmem => queued request (List.mem_cons_of_mem _ hmem), fun request hsome => ?_⟩
    obtain rfl := Option.some.inj hsome
    exact queued _ List.mem_cons_self
  | answered control target ordinal hwaiting =>
    have filed : Filed R m { s with waiting := none } := ⟨h.held, h.queued, fun _ hnone => (nomatch hnone)⟩
    exact filed.requestAndInstall text honest (h.awaited _ hwaiting)

/-- A control that knows one id. -/
def grants (target : api.SpiffeId) : Control api := fun request =>
  if request.targetSpiffeId = api.display target then .ok (⟨target, request.targetOrdinal, 0, 14400⟩, [])
  else .error (.rpc "unknown target")

theorem honest_grants (target : api.SpiffeId) : Honest (grants target) := by
  intro request key delegationId hok
  unfold grants at hok
  split at hok
  · next heq =>
    cases hok
    exact ⟨heq.symm, rfl⟩
  · cases hok

theorem requestAndInstall_grants {node target target' : api.SpiffeId} {ordinal : Option UInt32}
    {ttlSecs : UInt64} (h : api.display target' = api.display target) :
    (requestAndInstall (grants target) m node target' ordinal ttlSecs).2 = m.installKey ⟨target, ordinal, 0, 14400⟩ [] := by
  rw [requestAndInstall, grants, if_pos h]

end Filed

/-! ### Runs -/

theorem scoped_step {loop : RefreshLoop api} {s : DelegatedKeyManager api × RefreshState api} (h : s.1.Scoped)
    (op : KeyOp api) :
    (keyStep loop s op).1.Scoped := by
  cases op with
  | installKey key delegationId => exact h.installKey key delegationId
  | remove targetSvidId => exact h.remove targetSvidId
  | pruneExpired nowUnix => exact h.pruneExpired nowUnix
  | clear => exact .empty
  | refresh event => exact (refresh_move loop s.1 s.2 event).scoped h

theorem scoped_run (loop : RefreshLoop api) (ops : List (KeyOp api)) : (keysAfter loop ops).Scoped := by
  induction ops using List.reverseRecOn with
  | nil => exact .empty
  | append_singleton ops op ih =>
    rw [keysAfter, List.foldl_concat]
    exact scoped_step ih op

end Manager

end FleetosAgent.Identity

namespace FleetosAgent.VsockAttest
open Lib Identity Wiring Workloads

/-! ### The builder -/

/-- The encoding of a generated key pair, by `rcgen`, is never empty. -/
structure RcgenApi (api : SpiffeApi) extends CaApi api where
  serializeDer_ne_nil : ∀ keypair, serializeDer keypair ≠ []

section Builder
variable {api : SpiffeApi}

/-- The id of the workload that a context is for. -/
def WorkloadConfigBuilder.spiffeId (api : SpiffeApi) (builder : WorkloadConfigBuilder) (ctx : WorkloadContext) :
    api.SpiffeId :=
  api.new builder.trustDomain ctx.podSpec.tenantId .sa ctx.podSpec.workloadId

/-- The certificate was signed at `now` by an unexpired key of the manager for exactly this id. -/
structure SignedInScope (ca : CaApi api) (builder : WorkloadConfigBuilder) (env : BuildEnv api ca) (ctx : WorkloadContext)
    (certDer : List UInt8) (key : DelegatedSigningKey api) : Prop where
  signed : ∃ csr, ca.signSvidDelegated key csr builder.svidTtlSecs env.now = .ok certDer
  held : ∃ delegationId, env.keysAtSign.keys.get (builder.spiffeId api ctx) = some ⟨key, delegationId⟩
  unexpired : env.now < key.expiresAtUnix

theorem getKey_eq_some {m : DelegatedKeyManager api} {target : api.SpiffeId} {now : UInt64} {key : DelegatedSigningKey api}
    (h : m.getKey target now = some key) :
    (∃ delegationId, m.keys.get target = some ⟨key, delegationId⟩) ∧ now < key.expiresAtUnix := by
  unfold DelegatedKeyManager.getKey at h
  obtain ⟨⟨key', delegationId⟩, hentry, rfl⟩ := Option.map_eq_some_iff.mp h
  obtain ⟨hget, hvalid⟩ := Option.filter_eq_some_iff.mp hentry
  exact ⟨⟨delegationId, hget⟩, by simpa using hvalid⟩

/-- What `build` puts in the two SVID fields. -/
theorem build_fields {ca : CaApi api} {builder : WorkloadConfigBuilder} {env : BuildEnv api ca} {guest : VerifiedGuest}
    {ctx : WorkloadContext} {config : WorkloadConfig} (h : build ca builder env guest ctx = .ok config) :
    (if env.keysAtCheck.hasValidKey (builder.spiffeId api ctx) env.now then
      issueSvid ca builder env (builder.spiffeId api ctx)
      else .ok ([], [])) = .ok (config.svidCertChainDer, config.svidPrivateKeyDer) := by
  unfold build at h
  rw [WorkloadConfigBuilder.spiffeId]
  generalize api.new builder.trustDomain ctx.podSpec.tenantId .sa ctx.podSpec.workloadId = spiffeId at h ⊢
  dsimp only at h
  cases hvalid : env.keysAtCheck.hasValidKey spiffeId env.now with
  | false =>
    rw [hvalid] at h
    obtain rfl := Except.ok.inj h
    rfl
  | true =>
    rw [hvalid, if_pos rfl] at h
    rw [if_pos rfl]
    cases hissue : issueSvid ca builder env spiffeId with
    | error e =>
      rw [hissue] at h
      cases h
    | ok fields =>
      rw [hissue] at h
      obtain rfl := Except.ok.inj h
      rfl

/-- A signature of the manager's key for the id fills both fields; a failed one leaves both empty. -/
theorem issueSvid_fields {ca : CaApi api} {builder : WorkloadConfigBuilder} {env : BuildEnv api ca} {ctx : WorkloadContext}
    {chain : List (List UInt8)} {privateKey : List UInt8}
    (h : issueSvid ca builder env (builder.spiffeId api ctx) = .ok (chain, privateKey)) :
    (chain = [] ∧ privateKey = []) ∨ ∃ certDer keypair key, chain = [certDer] ∧ privateKey = ca.serializeDer keypair ∧
      SignedInScope ca builder env ctx certDer key := by
  unfold issueSvid at h
  cases hgenerate : env.generate with
  | error e =>
    rw [hgenerate] at h
    cases h
  | ok keypair =>
    rw [hgenerate] at h
    simp only [Except.mapError, bind, Except.bind] at h
    cases hcsr : ca.buildCsr (builder.spiffeId api ctx) keypair with
    | error e =>
      rw [hcsr] at h
      cases h
    | ok csr =>
      simp only [hcsr, DelegatedKeyManager.renewSvidLocally, Except.mapError] at h
      cases hkey : env.keysAtSign.getKey (builder.spiffeId api ctx) env.now with
      | none =>
        simp only [hkey] at h
        obtain ⟨rfl, rfl⟩ := Prod.mk.inj (Except.ok.inj h)
        exact Or.inl ⟨rfl, rfl⟩
      | some key =>
        obtain ⟨held, unexpired⟩ := getKey_eq_some hkey
        simp only [hkey] at h
        cases hsign : ca.signSvidDelegated key csr builder.svidTtlSecs env.now with
        | error e =>
          simp only [hsign] at h
          obtain ⟨rfl, rfl⟩ := Prod.mk.inj (Except.ok.inj h)
          exact Or.inl ⟨rfl, rfl⟩
        | ok certDer =>
          simp only [hsign] at h
          obtain ⟨rfl, rfl⟩ := Prod.mk.inj (Except.ok.inj h)
          exact Or.inr ⟨certDer, keypair, key, rfl, rfl, ⟨csr, hsign⟩, held, unexpired⟩

/-- `build` leaves both SVID fields empty, or fills both from one signature. -/
theorem build_svid {ca : CaApi api} {builder : WorkloadConfigBuilder} {env : BuildEnv api ca} {guest : VerifiedGuest}
    {ctx : WorkloadContext} {config : WorkloadConfig} (h : build ca builder env guest ctx = .ok config) :
    (config.svidCertChainDer = [] ∧ config.svidPrivateKeyDer = []) ∨
      ∃ certDer keypair key, config.svidCertChainDer = [certDer] ∧ config.svidPrivateKeyDer = ca.serializeDer keypair ∧
        SignedInScope ca builder env ctx certDer key := by
  have fields := build_fields h
  split at fields
  · exact issueSvid_fields fields
  · obtain ⟨hchain, hkey⟩ := Prod.mk.inj (Except.ok.inj fields)
    exact Or.inl ⟨hchain.symm, hkey.symm⟩

/-- The keys that a `build` meets at its two reads of the shared manager, with any steps before and in between. -/
def buildBetween (ca : CaApi api) (loop : RefreshLoop api) (pre mid : List (KeyOp api)) (now : UInt64)
    (generate : Except String ca.KeyPair) : BuildEnv api ca :=
  ⟨now, keysAfter loop pre, keysAfter loop (pre ++ mid), generate⟩

/-- After every run each entry is filed under the id of its key; and in every config that is built over any further steps,
    the chain and the private key are both empty, or both are there and the chain was signed by a key for exactly the
    workload's id that was unexpired at the time the build read. -/
theorem svid_issuance_scoped (ca : RcgenApi api) (loop : RefreshLoop api) (pre mid : List (KeyOp api)) :
    (keysAfter loop pre).Scoped ∧
      ∀ builder guest ctx now generate config,
        build ca.toCaApi builder (buildBetween ca.toCaApi loop pre mid now generate) guest ctx = .ok config →
        (config.svidCertChainDer = [] ∧ config.svidPrivateKeyDer = []) ∨
          config.svidPrivateKeyDer ≠ [] ∧ ∃ certDer csr key, config.svidCertChainDer = [certDer] ∧
            ca.signSvidDelegated key csr builder.svidTtlSecs now = .ok certDer ∧
            key.targetSvidId = api.new builder.trustDomain ctx.podSpec.tenantId .sa ctx.podSpec.workloadId ∧
            now < key.expiresAtUnix := by
  refine ⟨scoped_run loop pre, fun builder guest ctx now generate config hbuild => ?_⟩
  rcases build_svid hbuild with hempty | ⟨certDer, keypair, key, hchain, hprivate, ⟨csr, hsigned⟩,
    ⟨delegationId, hheld⟩, hvalid⟩
  · exact Or.inl hempty
  · have scope := scoped_run loop (pre ++ mid) _ _ hheld
    refine Or.inr ⟨?_, certDer, csr, key, hchain, hsigned, scope, hvalid⟩
    rw [hprivate]
    exact ca.serializeDer_ne_nil keypair

end Builder

/-! ### A workload whose key is held -/

/-- A CA that signs everything: its one key pair and its certificates are empty DER sequences. -/
def emptySequences (api : SpiffeApi) : RcgenApi api where
  KeyPair := Unit
  serializeDer _ := [0x30, 0]
  buildCsr _ _ := .ok [0x30, 0]
  signSvidDelegated _ _ _ _ := .ok [0x30, 0]
  serializeDer_ne_nil _ := List.cons_ne_nil _ _

def webBuilder : WorkloadConfigBuilder := { trustDomain := "fleet.local", svidTtlSecs := 3600 }

def webContext : WorkloadContext where
  podSpec := { workloadId := "web", tenantId := "acme" }
  guestIp := .replicate 4 0
  netmask := .replicate 4 0
  gateway := .replicate 4 0

def webKey : DelegatedSigningKey textApi := ⟨"spiffe://fleet.local/acme/sa/web", none, 0, 14400⟩

/-- The key is there at the check, and is still there when the certificate is signed after a prune. -/
def webEnv : BuildEnv textApi (emptySequences textApi).toCaApi :=
  buildBetween _ ⟨"spiffe://fleet.local/system/node/n1", 14400⟩ [.installKey webKey []] [.pruneExpired 100] 100 (.ok ())

/-- Both fields are filled, by a key for the workload. -/
theorem svid_issued_to_web : ∃ config,
    build (emptySequences textApi).toCaApi webBuilder webEnv ⟨.replicate 32 0⟩ webContext = .ok config ∧
      config.svidCertChainDer = [[0x30, 0]] ∧ config.svidPrivateKeyDer ≠ [] ∧
      ∃ certDer csr key, config.svidCertChainDer = [certDer] ∧
        (emptySequences textApi).signSvidDelegated key csr webBuilder.svidTtlSecs 100 = .ok certDer ∧
        key.targetSvidId = "spiffe://fleet.local/acme/sa/web" ∧ 100 < key.expiresAtUnix := by
  refine ⟨_, rfl, rfl, ?_⟩
  rcases (svid_issuance_scoped (emptySequences textApi) ⟨"spiffe://fleet.local/system/node/n1", 14400⟩
    [.installKey webKey []] [.pruneExpired 100]).2 webBuilder ⟨.replicate 32 0⟩ webContext 100 (.ok ()) _ rfl
    with ⟨empty, -⟩ | filled
  · cases empty
  · exact filled

end FleetosAgent.VsockAttest
