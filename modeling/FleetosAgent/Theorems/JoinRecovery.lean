import FleetosAgent.Theorems.JoinCalls

/-! # A node can always start again

No history of starts, however they were cut short, leaves a node that cannot start: once the storage works and control
answers, the next start gets to its mTLS channel, and it asks control for nothing if the SVID is installed. -/

namespace FleetosAgent.Join
open Lib Client Identity Secret Traced

/-! ### Programs that do not fail -/

/-- The program returns, and `Q` holds then. -/
def Ends {α : Type} (m : Start α) (Q : α → NodeState → Prop) (node : NodeState) : Prop :=
  wp (fun _ => True) m Q (fun _ _ => False) node

section
variable {α β : Type} {m : Start α} {Q : α → NodeState → Prop} {node : NodeState}

theorem Ends.bind {f : α → Start β} {R : β → NodeState → Prop} (h : Ends m Q node) (hf : ∀ a t, Q a t → Ends (f a) R t) :
    Ends (m >>= f) R node :=
  wp_bind.mpr (h.mono (fun _ => id) hf fun _ _ => id)

theorem Ends.result (h : Ends m Q node) : ∃ a, (m node).result = .ok a ∧ Q a (m node).final := by
  have post := h.2
  cases hr : (m node).result with
  | ok a =>
    rw [hr] at post
    exact ⟨a, rfl, post⟩
  | error e =>
    rw [hr] at post
    exact post.elim

/-- What holds of every run holds of one that does not fail. -/
theorem Ends.and {I : NodeState → Prop} {R : α → NodeState → Prop} {E : Halt → NodeState → Prop} (h : Ends m Q node)
    (safe : wp I m R E node) : Ends m (fun a t => Q a t ∧ R a t) node :=
  (Traced.wp.and h safe).mono (fun _ _ => trivial) (fun _ _ => id) fun _ _ ht => ht.1

theorem ends_orFailed {x : Except StartError α} {a : α} (h : x = .ok a) :
    Ends (orFailed x) (fun b t => b = a ∧ t = node) node := by
  subst h
  exact wp_orFailed (fun b hb => ⟨(Except.ok.inj hb).symm, rfl⟩) fun _ he => (by cases he)

theorem ends_orAttestation {what : String} {x : Except String α} {a : α} (h : x = .ok a) :
    Ends (orAttestation what x) (fun b t => b = a ∧ t = node) node := by
  subst h
  exact wp_orAttestation (fun b hb => ⟨(Except.ok.inj hb).symm, rfl⟩) fun _ he => (by cases he)

end

/-! ### A start that nothing keeps from ending -/

/-- Sealing works. -/
def Stores {keys : KeystoreApi} (keystore : TpmSealedStore keys) (env : SealEnv keys) : Prop :=
  ∀ store keyLabel plaintext, ∃ store', keystore.storeSealed env store keyLabel plaintext = some (.ok (), store')

/-- Control is unavailable for a while, in which it redirects the call that often, and then it responds. -/
def Responds {Resp : Type} (attempts : List (Attempt Resp)) (redirects : Nat) : Prop :=
  ∃ waits resp connect rest, attempts = waits ++ ⟨.ok resp, connect⟩ :: rest ∧
    (∀ attempt ∈ waits, ∀ trustBundlePem, attempt.Unavailable trustBundlePem) ∧
    (waits.filterMap Attempt.leader?).length = redirects

/-- The calls of either flow are responded to in the end, after no more redirects than a join follows. -/
structure JoinEnv.Answered {keys : KeystoreApi} {api : JoinApi} (env : JoinEnv keys api)
    (nonce quote activation issue : Nat) : Prop where
  requestNonce : Responds env.requestNonce nonce
  submitQuote : Responds env.submitQuote quote
  requestActivation : Responds env.requestActivation activation
  submitCsr : Responds env.submitCsr issue
  insecure : nonce + quote + issue ≤ maxRedirectHops
  secure : activation + issue ≤ maxRedirectHops

section
variable {keys : KeystoreApi} {api : JoinApi}

/-- The TPM does what it is asked for. -/
structure TpmEnv.Works (tpm : TpmEnv api) : Prop where
  new : tpm.new = .ok ()
  beginAttestation : ∃ pubs, tpm.beginAttestation = .ok pubs
  readEkCert : ∃ cert, tpm.readEkCert = .ok cert
  activate : ∀ blob secret, ∃ bytes array, tpm.activate blob secret = .ok bytes ∧ asArray 32 bytes = some array
  quote : ∀ nonce pcrs, ∃ quoteOut bytes, tpm.quote nonce pcrs = .ok quoteOut ∧
    api.encodePcrValues quoteOut.pcrValues = .ok bytes
  finishAttestation : tpm.finishAttestation = .ok ()

/-- The files can be read, the storage and the TPM work, and control answers in the end. -/
structure StartEnv.Responsive (cfg : JoinConfig keys) (env : StartEnv keys api) : Prop where
  load : env.load = {} ∧ env.reload = {} ∧ env.join.loadFaults = {} ∧ env.join.storeFaults = {}
  stores : Stores ⟨cfg.sealingEndpoint⟩ env.sealingKey.store ∧ Stores ⟨cfg.sealingEndpoint⟩ env.join.sealingKey.store ∧
    Stores ⟨cfg.sealingEndpoint⟩ env.join.svidKey
  loadKey : ∀ key, env.loadKey.faults.get key = none
  readBundle : ∀ path, (∃ pem, env.join.readToString path = .ok pem) ∧ ∃ pem, env.readToString path = .ok pem
  connect : ∀ tls, env.join.connect tls = .ok () ∧ env.connect tls = .ok ()
  generate : ∃ keypair csrDer, env.join.generate = .ok keypair ∧ api.buildCsr (cfg.nodeSpiffeId api) keypair = .ok csrDer
  tpm : env.join.tpm.Works
  answered : ∃ nonce quote activation issue, env.join.Answered nonce quote activation issue
  encode : ∀ cert, ∃ bytes, api.codec.encode [cert] = .ok bytes
  trustBundle : env.join.getTrustBundle = some (.ok ())

end

section
variable {keys : KeystoreApi} {api : JoinApi} {node : NodeState}

theorem ends_storeSealed {keystore : TpmSealedStore keys} {env : SealEnv keys} (stores : Stores keystore env)
    (keyLabel plaintext : List UInt8) : Ends (storeSealed keystore env keyLabel plaintext)
    (fun _ t => t.svid = node.svid) node := by
  obtain ⟨store, hstore⟩ := stores node.delegation keyLabel plaintext
  unfold Ends
  rw [storeSealed, wp_bind, wp_get, hstore, wp_bind, wp_modify, wp_bind, wp_modify]
  exact ⟨trivial, trivial, wp_orAgentError (fun _ _ => rfl) fun _ h => (by cases h)⟩

theorem ends_generateAndStoreSealingKey {keystore : TpmSealedStore keys} {env : SealingKeyEnv keys}
    (stores : Stores keystore env.store) :
    Ends (generateAndStoreSealingKey keystore env) (fun _ t => t.svid = node.svid) node :=
  (ends_storeSealed stores _ _).bind fun _ _ ht => wp_pure.mpr ht

/-- A loop that has hops enough left gets its response, and has followed the redirects then. -/
theorem ends_callLoop {Resp : Type} {wrap : Resp → JoinReply} {trustBundlePem name : String} {request : JoinRequest}
    {link : Link} {attempts : List (Attempt Resp)} {redirects : Nat} (responds : Responds attempts redirects)
    (hhops : link.redirectHops + redirects ≤ maxRedirectHops) :
    Ends (callLoop wrap trustBundlePem name request attempts link)
      (fun answer t => answer.2.redirectHops = link.redirectHops + redirects ∧ t.svid = node.svid) node := by
  obtain ⟨waits, resp, connect, rest, rfl, hwaits, rfl⟩ := responds
  induction waits generalizing node link with
  | nil =>
    unfold Ends
    rw [List.nil_append, callLoop, wp_bind, record, wp_modify]
    exact ⟨trivial, wp_pure.mpr ⟨rfl, rfl⟩⟩
  | cons attempt waits ih =>
    obtain ⟨hattempt, hrest⟩ := List.forall_mem_cons.mp hwaits
    obtain ⟨status, hreply, hcode, hconnect⟩ := hattempt trustBundlePem
    have leader : attempt.leader? = leaderAddress status := by rw [Attempt.leader?, hreply]
    have notBeyond : ¬maxRedirectHops < link.redirectHops := by omega
    unfold Ends
    rw [List.cons_append, callLoop, wp_bind, record, wp_modify, hreply]
    dsimp only
    rw [classifyError, if_neg notBeyond, if_pos hcode]
    cases hleader : leaderAddress status with
    | none =>
      rw [List.filterMap_cons_none (leader.trans hleader)] at hhops ⊢
      exact ⟨trivial, ih hrest hhops⟩
    | some address =>
      rw [List.filterMap_cons_some (leader.trans hleader), List.length_cons] at hhops ⊢
      dsimp only
      refine ⟨trivial, (ends_orFailed (hconnect address hleader)).bind fun _ s₁ h₁ => ?_⟩
      obtain ⟨-, rfl⟩ := h₁
      refine (ih hrest ?_).mono (fun _ => id) (fun answer t ht => ⟨?_, ht.2⟩) fun _ _ => id
      · dsimp only
        omega
      · rw [ht.1]
        dsimp only
        omega

theorem ends_insertSvid {key value : List UInt8} : Ends (insertSvid {} key value) (fun _ _ => True) node :=
  wp_insertSvid ⟨trivial, trivial⟩ fun _ h => (by cases h)

theorem ends_storeSvid {certChainDer : List (List UInt8)} {certBytes : List UInt8} {svidVersion currentGeneration : UInt64}
    (hencode : api.codec.encode certChainDer = .ok certBytes) :
    Ends (storeSvid api.codec {} certChainDer svidVersion currentGeneration) (fun _ _ => True) node := by
  have encoded : Ends (orAgentError ((api.codec.encode certChainDer).mapError .serialization)) (fun _ _ => True) node := by
    rw [hencode]
    exact wp_orAgentError (fun _ _ => trivial) fun _ h => (by cases h)
  exact encoded.bind fun _ _ _ => ends_insertSvid.bind fun _ _ _ => ends_insertSvid.bind fun _ _ _ =>
    ends_insertSvid.bind fun _ _ _ => ends_insertSvid

variable {cfg : JoinConfig keys} {env : StartEnv keys api}

theorem ends_generateSvidKey (responsive : env.Responsive cfg) :
    Ends (generateSvidKey cfg env.join ⟨cfg.sealingEndpoint⟩) (fun _ t => t.svid = node.svid) node := by
  obtain ⟨keypair, csrDer, hgenerate, hcsr⟩ := responsive.generate
  refine (ends_orAttestation hgenerate).bind fun _ s₁ h₁ => ?_
  obtain ⟨rfl, rfl⟩ := h₁
  refine (ends_storeSealed responsive.stores.2.2 _ _).bind fun _ s₂ h₂ => ?_
  exact (ends_orAttestation hcsr).mono (fun _ => id) (fun _ t ht => ht.2 ▸ h₂) fun _ _ => id

theorem ends_connectToControl (responsive : env.Responsive cfg) :
    Ends (connectToControl cfg env.join) (fun connected t => connected.2.redirectHops = 0 ∧ t = node) node := by
  obtain ⟨⟨pem, hpem⟩, -⟩ := responsive.readBundle (cfg.trustBundlePath.getD cfg.controlTrustBundlePath)
  have read : (env.join.readToString (cfg.trustBundlePath.getD cfg.controlTrustBundlePath)).mapError
      (fun e => StartError.config s!"failed to read trust bundle: {e}") = .ok pem := mapError_eq_ok.mpr hpem
  refine (ends_orFailed read).bind fun _ s₁ h₁ => ?_
  obtain ⟨rfl, rfl⟩ := h₁
  refine (ends_orFailed (responsive.connect _).1).bind fun _ s₂ h₂ => ?_
  exact wp_pure.mpr ⟨rfl, h₂.2⟩

theorem ends_installSvid (responsive : env.Responsive cfg) (hnone : ¬Svid.Installed node.svid) (response : SvidResponse) :
    Ends (installSvid env.join response) (fun _ _ => True) node := by
  obtain ⟨-, -, hload, hstore⟩ := responsive.load
  obtain ⟨bytes, hencode⟩ := responsive.encode response.certChainDer
  have loaded : Ends (loadSvid api.codec env.join.loadFaults) (fun _ _ => True) node := by
    rw [hload]
    refine wp_loadSvid (fun _ _ => trivial) fun e he => ?_
    rw [Svid.load_of_not_installed hnone] at he
    cases he
  refine loaded.bind fun _ _ _ => ?_
  rw [hstore]
  exact ends_storeSvid hencode

theorem ends_getTrustBundle (responsive : env.Responsive cfg) {link : Link} :
    Ends (getTrustBundle api env.join.getTrustBundle link) (fun _ _ => True) node := by
  rw [responsive.trustBundle]
  exact wp_bind.mpr (wp_modify.mpr ⟨trivial, wp_pure.mpr trivial⟩)

theorem ends_performInsecureJoin (responsive : env.Responsive cfg) (hendpoint : cfg.sealingEndpoint = none)
    (hnone : ¬Svid.Installed node.svid) : Ends (performInsecureJoin cfg env.join false) (fun _ _ => True) node := by
  have stores := responsive.stores.2.1
  have generated : ∀ node, Ends (generateSvidKey cfg env.join ⟨cfg.sealingEndpoint⟩) (fun _ t => t.svid = node.svid) node :=
    fun _ => ends_generateSvidKey responsive
  rw [hendpoint] at stores generated
  obtain ⟨nonce, quote, activation, issue, answered⟩ := responsive.answered
  unfold performInsecureJoin
  rw [if_neg (by decide)]
  refine (ends_generateAndStoreSealingKey stores).bind fun _ s₁ h₁ => ?_
  refine (ends_connectToControl responsive).bind fun connected s₂ h₂ => ?_
  obtain ⟨trustBundlePem, link⟩ := connected
  obtain ⟨hhops, rfl⟩ := h₂
  replace hhops : link.redirectHops = 0 := hhops
  have hops := answered.insecure
  refine (ends_callLoop answered.requestNonce (by omega)).bind fun answer s₃ h₃ => ?_
  refine (ends_callLoop answered.submitQuote (by omega)).bind fun answer s₄ h₄ => ?_
  refine (generated s₄).bind fun csrDer s₅ h₅ => ?_
  refine (ends_callLoop answered.submitCsr (by omega)).bind fun answer s₆ h₆ => ?_
  have still : ¬Svid.Installed s₆.svid := by rwa [h₆.2, h₅, h₄.2, h₃.2, h₁]
  exact (ends_installSvid responsive still _).bind fun _ _ _ => ends_getTrustBundle responsive

theorem ends_answerChallenge (responsive : env.Responsive cfg) (challenge : ActivationChallenge) :
    Ends (answerChallenge cfg env.join challenge)
      (fun answer t => t = node ∧ ∃ bytes, api.encodePcrValues answer.2.pcrValues = .ok bytes) node := by
  obtain ⟨bytes, secret, hactivate, hsecret⟩ := responsive.tpm.activate challenge.credentialBlob challenge.secret
  obtain ⟨quoteOut, encoded, hquote, hencode⟩ := responsive.tpm.quote challenge.serverNonce cfg.pcrIndices
  refine (ends_orAttestation hactivate).bind fun _ s₁ h₁ => ?_
  obtain ⟨rfl, rfl⟩ := h₁
  dsimp only
  rw [hsecret]
  refine (ends_orAttestation hquote).bind fun _ s₂ h₂ => ?_
  obtain ⟨rfl, rfl⟩ := h₂
  exact wp_pure.mpr ⟨rfl, encoded, hencode⟩

theorem ends_performSecureJoin (responsive : env.Responsive cfg) (hendpoint : cfg.sealingEndpoint = some cfg.tpmEndpoint)
    (hnone : ¬Svid.Installed node.svid) : Ends (performSecureJoin cfg env.join) (fun _ _ => True) node := by
  have stores := responsive.stores.2.1
  have generated : ∀ node, Ends (generateSvidKey cfg env.join ⟨cfg.sealingEndpoint⟩) (fun _ t => t.svid = node.svid) node :=
    fun _ => ends_generateSvidKey responsive
  rw [hendpoint] at stores generated
  obtain ⟨nonce, quote, activation, issue, answered⟩ := responsive.answered
  obtain ⟨pubs, hpubs⟩ := responsive.tpm.beginAttestation
  obtain ⟨ekCert, hcert⟩ := responsive.tpm.readEkCert
  unfold performSecureJoin
  refine (ends_generateAndStoreSealingKey stores).bind fun _ s₁ h₁ => ?_
  refine (ends_orAttestation responsive.tpm.new).bind fun _ s₂ h₂ => ?_
  obtain ⟨rfl, rfl⟩ := h₂
  refine (ends_orAttestation hpubs).bind fun _ s₃ h₃ => ?_
  obtain ⟨rfl, rfl⟩ := h₃
  refine (ends_orAttestation hcert).bind fun _ s₄ h₄ => ?_
  obtain ⟨rfl, rfl⟩ := h₄
  refine (ends_connectToControl responsive).bind fun connected s₅ h₅ => ?_
  obtain ⟨trustBundlePem, link⟩ := connected
  obtain ⟨hhops, rfl⟩ := h₅
  replace hhops : link.redirectHops = 0 := hhops
  have hops := answered.secure
  refine (ends_callLoop answered.requestActivation (by omega)).bind fun answer s₆ h₆ => ?_
  refine (ends_answerChallenge responsive _).bind fun proof s₇ h₇ => ?_
  obtain ⟨rfl, bytes, hbytes⟩ := h₇
  refine (generated _).bind fun csrDer s₈ h₈ => ?_
  have encoded : Ends (orAgentError ((api.encodePcrValues proof.2.pcrValues).mapError .serialization))
      (fun _ t => t = s₈) s₈ := by
    rw [hbytes]
    exact wp_orAgentError (fun _ _ => rfl) fun _ h => (by cases h)
  refine encoded.bind fun _ s₉ h₉ => ?_
  subst h₉
  refine (ends_callLoop answered.submitCsr (by omega)).bind fun answer s₁₀ h₁₀ => ?_
  have still : ¬Svid.Installed s₁₀.svid := by rwa [h₁₀.2, h₈, h₆.2, h₁]
  refine (ends_installSvid responsive still _).bind fun _ _ _ => (ends_getTrustBundle responsive).bind fun _ _ _ => ?_
  exact (ends_orAttestation responsive.tpm.finishAttestation).mono (fun _ => id) (fun _ _ _ => trivial) fun _ _ => id

theorem ends_performJoin {production : Bool} (hproduction : cfg.mode = .insecure → production = false)
    (responsive : env.Responsive cfg) (hnone : ¬Svid.Installed node.svid) :
    Ends (performJoin cfg env.join production) (fun _ _ => True) node := by
  unfold performJoin
  cases hmode : cfg.mode with
  | secure => exact ends_performSecureJoin responsive (by rw [JoinConfig.sealingEndpoint, hmode]) hnone
  | insecure =>
    rw [hproduction hmode]
    exact ends_performInsecureJoin responsive (by rw [JoinConfig.sealingEndpoint, hmode]) hnone

end

/-! ### Starting again -/

section
variable {lawful : LawfulKeystoreApi} {api : JoinApi} {cfg : JoinConfig lawful.toKeystoreApi} {production : Bool}
  {node : NodeState} {env : StartEnv lawful.toKeystoreApi api}

theorem Sound.loads (h : Sound ⟨cfg.sealingEndpoint⟩ (cfg.nodeSpiffeId api) node) :
    ∃ state, Svid.load api.codec {} node.svid = .ok state ∧ (isNone state = false ↔ Svid.Installed node.svid) := by
  obtain ⟨contents, holds, joined⟩ := id h
  by_cases hinstalled : Svid.Installed node.svid
  · obtain ⟨keypair, response, secret, -, entries⟩ := joined hinstalled
    have hload := Svid.load_of_entries hinstalled entries
    exact ⟨_, hload, h.load hload⟩
  · have hload : Svid.load api.codec {} node.svid = .ok {} := Svid.load_of_not_installed hinstalled
    exact ⟨_, hload, h.load hload⟩

theorem ends_svidPhase (hproduction : cfg.mode = .insecure → production = false) (responsive : env.Responsive cfg)
    (faithful : env.Faithful) (h : Sound ⟨cfg.sealingEndpoint⟩ (cfg.nodeSpiffeId api) node) :
    Ends (svidPhase cfg production env) (fun _ t => Svid.Installed node.svid → t.exchanges = node.exchanges) node := by
  obtain ⟨hload, hreload, -, -⟩ := responsive.load
  obtain ⟨state, hstate, hnone⟩ := h.loads
  have loaded : Ends (loadSvid api.codec env.load) (fun found t => found = state ∧ t = node) node := by
    rw [hload]
    refine wp_loadSvid (fun found hfound => ⟨Except.ok.inj (hfound.symm.trans hstate), rfl⟩) fun e he => ?_
    cases he.symm.trans hstate
  refine loaded.bind fun found s₁ h₁ => ?_
  obtain ⟨rfl, rfl⟩ := h₁
  cases hfound : isNone found with
  | false =>
    rw [if_neg (by simp)]
    exact wp_pure.mpr fun _ => rfl
  | true =>
    have absent : ¬Svid.Installed s₁.svid := fun hinstalled => by
      rw [hnone.mpr hinstalled] at hfound
      cases hfound
    rw [if_pos rfl]
    obtain ⟨contents, holds, -⟩ := h
    have unjoined : Unjoined ⟨cfg.sealingEndpoint⟩ contents s₁ := ⟨holds, absent⟩
    refine ((ends_generateAndStoreSealingKey responsive.stores.1).and
      (wp_generateAndStoreSealingKey (cfg.nodeSpiffeId api) faithful.sealingKey unjoined)).bind fun _ s₂ h₂ => ?_
    have joining := wp_performJoin production faithful.joinKey faithful.svidKey h₂.2.2
    have still : ¬Svid.Installed s₂.svid := by rwa [h₂.1]
    refine ((ends_performJoin hproduction responsive still).and joining).bind fun _ s₃ h₃ => ?_
    obtain ⟨state', hstate', -⟩ := h₃.2.1.loads
    rw [hreload]
    refine wp_loadSvid (fun _ _ hinstalled => absurd hinstalled absent) fun e he => ?_
    cases he.symm.trans hstate'

theorem ends_start (hproduction : cfg.mode = .insecure → production = false) (responsive : env.Responsive cfg)
    (faithful : env.Faithful) (h : Sound ⟨cfg.sealingEndpoint⟩ (cfg.nodeSpiffeId api) node) :
    Ends (start cfg production env) (fun _ t => Svid.Installed node.svid → t.exchanges = node.exchanges) node := by
  refine ((ends_svidPhase hproduction responsive faithful h).and (wp_svidPhase production faithful h)).bind
    fun state s₁ h₁ => ?_
  obtain ⟨quiet, ⟨contents, ⟨master, keeps⟩, joined⟩, hinstalled, -⟩ := h₁
  obtain ⟨keypair, response, secret, agreed, -⟩ := joined hinstalled
  obtain ⟨-, pem, hpem⟩ := responsive.readBundle cfg.controlTrustBundlePath
  have read : (env.readToString cfg.controlTrustBundlePath).mapError
      (fun e => StartError.config s!"failed to read trust bundle: {e}") = .ok pem := mapError_eq_ok.mpr hpem
  refine (ends_orFailed read).bind fun _ s₂ h₂ => ?_
  obtain ⟨rfl, rfl⟩ := h₂
  have key : Ends (loadSealed ⟨cfg.sealingEndpoint⟩ env.loadKey KEY_SVID_PRIVATE_KEY)
      (fun found t => found = some (api.serializeDer keypair) ∧ t = s₂) s₂ := by
    have hload := loadSealed_of_keeps responsive.loadKey keeps svid_label_ne
    rw [agreed.privateKey] at hload
    unfold Ends
    rw [loadSealed, wp_bind, wp_get, hload, wp_bind, wp_modify]
    exact ⟨trivial, wp_orAgentError (fun _ hok => ⟨(Except.ok.inj hok).symm, rfl⟩) fun _ he => (by cases he)⟩
  refine key.bind fun found s₃ h₃ => ?_
  obtain ⟨rfl, rfl⟩ := h₃
  refine (ends_orFailed (responsive.connect _).2).bind fun _ s₄ h₄ => ?_
  obtain ⟨rfl, rfl⟩ := h₄
  exact wp_pure.mpr quiet

end

/-- After any history of starts, killed wherever they are, a start that meets a working storage and TPM and a control that
    responds in the end, after at most five redirects in the join, gets to its mTLS channel, unless the build has no join
    in the configured mode; and it makes no call of the join if an SVID is installed. -/
theorem start_recovers (lawful : LawfulKeystoreApi) (api : JoinApi) (cfg : JoinConfig lawful.toKeystoreApi)
    (production : Bool) (hproduction : cfg.mode = .insecure → production = false)
    (history : List (Boot lawful.toKeystoreApi api)) (faithful : ∀ b ∈ history, b.env.Faithful)
    (env : StartEnv lawful.toKeystoreApi api) (henv : env.Faithful) (responsive : env.Responsive cfg) :
    (∃ tls, (start cfg production env (booted cfg production history)).result = .ok tls) ∧
      (Svid.Installed (booted cfg production history).svid →
        (start cfg production env (booted cfg production history)).final.exchanges =
          (booted cfg production history).exchanges) := by
  obtain ⟨tls, hresult, quiet⟩ := (ends_start hproduction responsive henv (Sound.booted cfg production faithful)).result
  exact ⟨⟨tls, hresult⟩, quiet⟩

/-! ### The plain node responds -/

/-- A storage without faults has a master key, or gets one. -/
theorem getOrCreateSoftwareMasterKey_ok (keypair : Bytes 32 × Bytes 32) (store : DelegationStore) :
    ∃ pair store', getOrCreateSoftwareMasterKey {} keypair store = some (.ok pair, store') := by
  obtain ⟨⟨answer, store'⟩, h⟩ := getOrCreateSoftwareMasterKey_returns {} keypair store
  cases answer with
  | ok pair => exact ⟨pair, store', h⟩
  | error e =>
    unfold getOrCreateSoftwareMasterKey at h
    dsimp only at h
    split at h
    · cases h
    · split at h
      · simp [Option.bind_eq_some_iff] at h
      · cases h

theorem plainEnv_stores : Stores (⟨plainConfig.sealingEndpoint⟩ : TpmSealedStore plainKeystore.toKeystoreApi)
    (plainEnv true) := by
  intro store keyLabel plaintext
  obtain ⟨pair, store', hkey⟩ := getOrCreateSoftwareMasterKey_ok (plainEnv true).keypair store
  refine ⟨store'.insert keyLabel (SEAL_PREFIX_SOFTWARE :: plaintext), ?_⟩
  have hseal : (plainEnv true).sealSecret pair.2 plaintext 0 1 = .ok ⟨0, 1, .replicate 32 0, plaintext⟩ := rfl
  have hencode : plainKeystore.encodeSecret ⟨0, 1, .replicate 32 0, plaintext⟩ = .ok plaintext := if_pos rfl
  show softwareSeal _ _ _ _ _ = _
  unfold softwareSeal
  rw [show (plainEnv true).faults = {} from rfl, hkey, Option.bind_eq_bind, Option.bind_some]
  dsimp only
  rw [hseal]
  dsimp only
  rw [hencode]
  rfl

theorem plainStart_responsive : plainStart.Responsive plainConfig where
  load := ⟨rfl, rfl, rfl, rfl⟩
  stores := ⟨plainEnv_stores, plainEnv_stores, plainEnv_stores⟩
  loadKey _ := rfl
  readBundle _ := ⟨⟨"ca", rfl⟩, "ca", rfl⟩
  connect _ := ⟨rfl, rfl⟩
  generate := ⟨[5, 5], [5, 5], rfl, rfl⟩
  tpm := ⟨rfl, ⟨_, rfl⟩, ⟨_, rfl⟩, fun _ _ => ⟨_, .replicate 32 1, rfl, rfl⟩, fun _ _ => ⟨_, _, rfl, rfl⟩, rfl⟩
  answered := by
    refine ⟨0, 0, 0, 0, ⟨[⟨.error { code := .unavailable }, fun _ => .ok ()⟩], [8], _, [], rfl, ?_, rfl⟩,
      ⟨[], (), _, [], rfl, fun _ h => (by cases h), rfl⟩, ⟨[], ⟨[], [], [8]⟩, _, [], rfl, fun _ h => (by cases h), rfl⟩,
      ⟨[], ⟨[6], 4⟩, _, [], rfl, fun _ h => (by cases h), rfl⟩, Nat.zero_le _, Nat.zero_le _⟩
    exact List.forall_mem_singleton.mpr fun _ => ⟨_, rfl, rfl, fun _ _ => rfl⟩
  encode cert := ⟨cert, rfl⟩
  trustBundle := rfl

/-- The first start is killed after its fifth write, before the SVID is there. -/
theorem killed_start_recovers :
    ∃ tls, (start plainConfig false plainStart (booted plainConfig false [⟨plainStart, some 5⟩])).result = .ok tls := by
  have faithful : ∀ b ∈ [(⟨plainStart, some 5⟩ : Boot _ plainApi)], b.env.Faithful :=
    List.forall_mem_singleton.mpr plainStart_faithful
  exact (start_recovers plainKeystore plainApi plainConfig false (fun _ => rfl) _ faithful plainStart plainStart_faithful
    plainStart_responsive).1

end FleetosAgent.Join
