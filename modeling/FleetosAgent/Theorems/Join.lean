import FleetosAgent.Theorems.JoinSteps
import FleetosAgent.Theorems.Pem

/-! # A node holds the keys of its SVID

A start may be killed at any write and control may answer what it likes: an SVID that is installed was issued for the
private key that is sealed on the node, and control was last sent the public half of the sealing key that is. -/

namespace FleetosAgent.Join
open Lib Client Identity Secret Traced

/-! ### What control was sent -/

/-- The X25519 key that a request registers for the node. -/
def JoinRequest.pubkey? : JoinRequest → Option (List UInt8)
  | .submitQuote quote => some quote.agentX25519Pubkey
  | .submitActivationProof proof => some proof.agentX25519Pubkey
  | _ => none

/-- The CSR that a request asks to sign. -/
def JoinRequest.csr? : JoinRequest → Option (List UInt8)
  | .submitCsr csrDer => some csrDer
  | .submitActivationProof proof => some proof.csrDer
  | _ => none

def lastRegistered (exchanges : List Exchange) : Option (List UInt8) := (exchanges.filterMap (·.request.pubkey?)).getLast?

/-- The last call that sent a CSR. -/
def lastIssue (exchanges : List Exchange) : Option Exchange := (exchanges.filter (·.request.csr?.isSome)).getLast?

section
variable {node : NodeState} {exchange : Exchange}

theorem lastRegistered_sent : lastRegistered (node.sent exchange).exchanges =
    exchange.request.pubkey?.or (lastRegistered node.exchanges) := by
  rw [NodeState.sent, lastRegistered, List.filterMap_append]
  cases h : exchange.request.pubkey? with
  | none => simp [h, lastRegistered]
  | some key => simp [h]

theorem lastIssue_sent_of_csr {csrDer : List UInt8} (h : exchange.request.csr? = some csrDer) :
    lastIssue (node.sent exchange).exchanges = some exchange := by
  rw [NodeState.sent, lastIssue, List.filter_append]
  simp [h]

theorem lastIssue_sent (h : exchange.request.csr? = none) :
    lastIssue (node.sent exchange).exchanges = lastIssue node.exchanges := by
  rw [NodeState.sent, lastIssue, List.filter_append]
  simp [h, lastIssue]

end

/-! ### The invariant -/

/-- What was generated and sealed in a call has its public half. -/
structure SealingKeyEnv.Faithful {lawful : LawfulKeystoreApi} (env : SealingKeyEnv lawful.toKeystoreApi) : Prop where
  pair : env.keypair.2 = lawful.publicOf env.keypair.1
  store : env.store.Faithful

structure StartEnv.Faithful {lawful : LawfulKeystoreApi} {api : JoinApi} (env : StartEnv lawful.toKeystoreApi api) :
    Prop where
  sealingKey : env.sealingKey.Faithful
  joinKey : env.join.sealingKey.Faithful
  svidKey : env.join.svidKey.Faithful
  loadKey : env.loadKey.keypair.2 = lawful.publicOf env.loadKey.keypair.1

section
variable {lawful : LawfulKeystoreApi} {api : JoinApi}

def Holds (keystore : TpmSealedStore lawful.toKeystoreApi) (contents : FinMap (List UInt8) (List UInt8))
    (node : NodeState) : Prop :=
  ∃ master, Keeps keystore node.delegation contents master

/-- Before the join is done. -/
structure Unjoined (keystore : TpmSealedStore lawful.toKeystoreApi) (contents : FinMap (List UInt8) (List UInt8))
    (node : NodeState) :
    Prop where
  holds : Holds keystore contents node
  none : ¬Svid.Installed node.svid

/-- The keys of the node are those that control was last sent: `response` is its answer to the CSR of `keypair`. -/
structure Agreed (lawful : LawfulKeystoreApi) (nodeId : api.spiffe.SpiffeId) (contents : FinMap (List UInt8) (List UInt8))
    (node : NodeState) (keypair : api.KeyPair) (response : SvidResponse) (secret : Bytes 32) : Prop where
  issued : ∃ target request csrDer, lastIssue node.exchanges = some ⟨target, request, some (.ok (.svid response))⟩ ∧
    request.csr? = some csrDer ∧ api.buildCsr nodeId keypair = .ok csrDer
  privateKey : contents.get KEY_SVID_PRIVATE_KEY = some (api.serializeDer keypair)
  registered : lastRegistered node.exchanges = some (lawful.publicOf secret).toList
  sealingSecret : contents.get KEY_SEALING_KEY_BLOB = some secret.toList

def Sound (keystore : TpmSealedStore lawful.toKeystoreApi) (nodeId : api.spiffe.SpiffeId) (node : NodeState) : Prop :=
  ∃ contents, Holds keystore contents node ∧ (Svid.Installed node.svid → ∃ keypair response secret,
    Agreed lawful nodeId contents node keypair response secret ∧
    Svid.Entries api.codec node.svid ⟨[response.certChainDer], response.svidVersion, 1⟩)

end

section
variable {lawful : LawfulKeystoreApi} {api : JoinApi} {keystore : TpmSealedStore lawful.toKeystoreApi}
  {nodeId : api.spiffe.SpiffeId} {contents : FinMap (List UInt8) (List UInt8)} {node : NodeState}
  {keypair : api.KeyPair} {response : SvidResponse} {secret : Bytes 32}

theorem Unjoined.sound (h : Unjoined keystore contents node) : Sound keystore nodeId node :=
  ⟨contents, h.holds, fun hinstalled => absurd hinstalled h.none⟩

theorem Unjoined.sent (h : Unjoined keystore contents node) (exchange : Exchange) :
    Unjoined keystore contents (node.sent exchange) :=
  ⟨h.holds, h.none⟩

theorem Unjoined.store (h : Unjoined keystore contents node) {contents' : FinMap (List UInt8) (List UInt8)}
    {store : DelegationStore} {master : Option (Bytes 32)} (kept : Keeps keystore store contents' master) :
    Unjoined keystore contents' { node with delegation := store } :=
  ⟨⟨master, kept⟩, h.none⟩

/-- A call that sends neither a CSR nor a key. -/
theorem Agreed.sent (h : Agreed lawful nodeId contents node keypair response secret) {exchange : Exchange}
    (hcsr : exchange.request.csr? = none) (hkey : exchange.request.pubkey? = none) :
    Agreed lawful nodeId contents (node.sent exchange) keypair response secret := by
  refine ⟨?_, h.privateKey, ?_, h.sealingSecret⟩
  · rw [lastIssue_sent hcsr]
    exact h.issued
  · rw [lastRegistered_sent, hkey]
    exact h.registered

theorem Sound.sent (h : Sound keystore nodeId node) {exchange : Exchange} (hcsr : exchange.request.csr? = none)
    (hkey : exchange.request.pubkey? = none) : Sound keystore nodeId (node.sent exchange) := by
  obtain ⟨contents, holds, joined⟩ := h
  refine ⟨contents, holds, fun hinstalled => ?_⟩
  obtain ⟨keypair, response, secret, agreed, entries⟩ := joined hinstalled
  exact ⟨keypair, response, secret, agreed.sent hcsr hkey, entries⟩

/-! ### The pieces of a join -/

theorem sealing_label_ne : KEY_SEALING_KEY_BLOB ≠ SOFTWARE_MASTER_KEY_LABEL := by decide +kernel

theorem svid_label_ne : KEY_SVID_PRIVATE_KEY ≠ SOFTWARE_MASTER_KEY_LABEL := by decide +kernel

theorem labels_ne : KEY_SEALING_KEY_BLOB ≠ KEY_SVID_PRIVATE_KEY := by decide +kernel

variable {cfg : JoinConfig lawful.toKeystoreApi} {env : JoinEnv lawful.toKeystoreApi api}

theorem wp_generateAndStoreSealingKey (nodeId : api.spiffe.SpiffeId) {sealingEnv : SealingKeyEnv lawful.toKeystoreApi}
    (faithful : sealingEnv.Faithful) (h : Unjoined keystore contents node) :
    wp (Sound keystore nodeId) (generateAndStoreSealingKey keystore sealingEnv)
      (fun pubkey t => pubkey = lawful.publicOf sealingEnv.keypair.1 ∧
        Unjoined keystore (contents.insert KEY_SEALING_KEY_BLOB sealingEnv.keypair.1.toList) t)
      (fun _ => Sound keystore nodeId) node := by
  obtain ⟨master, kept⟩ := h.holds
  rw [generateAndStoreSealingKey, wp_bind]
  refine wp_storeSealed faithful.store sealing_label_ne kept (fun store master kept => ?_) fun store master kept => ?_
  · exact ⟨(h.store kept).sound, fun _ => (h.store kept).sound⟩
  · exact ⟨(h.store kept).sound, wp_pure.mpr ⟨faithful.pair, h.store kept⟩⟩

/-- The CSR is for the keypair that has been sealed. -/
theorem wp_generateSvidKey (faithful : env.svidKey.Faithful) (h : Unjoined keystore contents node) :
    wp (Sound keystore nodeId) (generateSvidKey cfg env keystore)
      (fun csrDer t => t.exchanges = node.exchanges ∧ ∃ keypair, api.buildCsr (cfg.nodeSpiffeId api) keypair = .ok csrDer ∧
        Unjoined keystore (contents.insert KEY_SVID_PRIVATE_KEY (api.serializeDer keypair)) t)
      (fun _ => Sound keystore nodeId) node := by
  obtain ⟨master, kept⟩ := h.holds
  rw [generateSvidKey, wp_bind]
  refine wp_orAttestation (fun keypair _ => ?_) fun _ _ _ => h.sound
  rw [wp_bind]
  refine wp_storeSealed faithful svid_label_ne kept (fun store master kept => ?_) fun store master kept => ?_
  · exact ⟨(h.store kept).sound, fun _ => (h.store kept).sound⟩
  · refine ⟨(h.store kept).sound, wp_orAttestation (fun csrDer hcsr => ?_) fun _ _ _ => (h.store kept).sound⟩
    exact ⟨rfl, keypair, hcsr, h.store kept⟩

theorem wp_installSvid (h : Unjoined keystore contents node)
    (agreed : Agreed lawful nodeId contents node keypair response secret) :
    wp (Sound keystore nodeId) (installSvid env response) (fun _ t => Sound keystore nodeId t ∧ Svid.Installed t.svid)
      (fun _ => Sound keystore nodeId) node := by
  rw [installSvid, wp_bind]
  refine wp_loadSvid (fun current hload => ?_) fun _ _ => h.sound
  have first : current = {} := by
    have plain := Svid.load_of_ok hload
    rw [Svid.load_of_not_installed h.none] at plain
    exact (Except.ok.inj plain).symm
  subst first
  refine wp_storeSvid h.none (fun svid hnone => ?_) fun svid hinstalled entries => ?_
  · have unjoined : Unjoined keystore contents { node with svid := svid } := ⟨h.holds, hnone⟩
    exact ⟨unjoined.sound, fun _ => unjoined.sound⟩
  · have sound : Sound keystore nodeId { node with svid := svid } :=
      ⟨contents, h.holds, fun _ => ⟨keypair, response, secret, ⟨agreed.issued, agreed.privateKey, agreed.registered,
        agreed.sealingSecret⟩, entries⟩⟩
    exact ⟨sound, sound, hinstalled⟩

theorem wp_getTrustBundle {reply : Option (Except Status Unit)} {link : Link}
    (h : Sound keystore nodeId node ∧ Svid.Installed node.svid) :
    wp (Sound keystore nodeId) (getTrustBundle api reply link) (fun _ t => Sound keystore nodeId t ∧ Svid.Installed t.svid)
      (fun _ => Sound keystore nodeId) node := by
  have sent : ∀ reply, Sound keystore nodeId (node.sent ⟨link.target, .getTrustBundle, reply⟩) :=
    fun reply => h.1.sent rfl rfl
  unfold getTrustBundle
  rw [wp_bind, record, wp_modify]
  refine ⟨sent _, ?_⟩
  split
  · exact wp_fail.mpr (sent _)
  · exact wp_pure.mpr ⟨sent _, h.2⟩
  · exact wp_fail.mpr (sent _)

theorem wp_connectToControl (h : Unjoined keystore contents node) :
    wp (Sound keystore nodeId) (connectToControl cfg env) (fun _ t => t = node) (fun _ => Sound keystore nodeId) node := by
  rw [connectToControl, wp_bind]
  refine wp_orFailed (fun _ _ => ?_) fun _ _ => h.sound
  rw [wp_bind]
  exact wp_orFailed (fun _ _ => wp_pure.mpr rfl) fun _ _ => h.sound

/-- The answer to the CSR makes the keys that the node has generated the agreed ones. -/
theorem agreed_of_answer (contents : FinMap (List UInt8) (List UInt8)) (node : NodeState) (exchange : Exchange)
    (secret : Bytes 32) {csrDer : List UInt8} (hcsr : api.buildCsr nodeId keypair = .ok csrDer)
    (hrequest : exchange.request.csr? = some csrDer) (hreply : exchange.reply = some (.ok (.svid response)))
    (hkey : lastRegistered (node.sent exchange).exchanges = some (lawful.publicOf secret).toList) :
    Agreed lawful nodeId ((contents.insert KEY_SEALING_KEY_BLOB secret.toList).insert KEY_SVID_PRIVATE_KEY
      (api.serializeDer keypair))
      (node.sent exchange) keypair response secret := by
  refine ⟨⟨exchange.target, exchange.request, csrDer, ?_, hrequest, hcsr⟩, FinMap.get_insert_self .., hkey, ?_⟩
  · rw [lastIssue_sent_of_csr hrequest, ← hreply]
  · rw [FinMap.get_insert_ne _ _ labels_ne, FinMap.get_insert_self]

/-! ### The flows -/

theorem wp_performInsecureJoin (production : Bool) (joinKey : env.sealingKey.Faithful) (svidKey : env.svidKey.Faithful)
    (hkeystore : keystore = ⟨none⟩) (h : Unjoined keystore contents node) :
    wp (Sound keystore (cfg.nodeSpiffeId api)) (performInsecureJoin cfg env production)
      (fun _ t => Sound keystore (cfg.nodeSpiffeId api) t ∧ Svid.Installed t.svid)
      (fun _ => Sound keystore (cfg.nodeSpiffeId api)) node := by
  unfold performInsecureJoin
  split
  · exact wp_fail.mpr h.sound
  dsimp only
  rw [← hkeystore, wp_bind]
  refine (wp_generateAndStoreSealingKey _ joinKey h).mono (fun _ => id) (fun pubkey s₁ hs₁ => ?_) fun _ _ => id
  obtain ⟨rfl, h₁⟩ := hs₁
  rw [wp_bind]
  refine (wp_connectToControl h₁).mono (fun _ => id) (fun connected s₂ hs₂ => ?_) fun _ _ => id
  subst hs₂
  obtain ⟨trustBundlePem, link⟩ := connected
  rw [wp_bind]
  refine wp_callLoop (J := fun _ t => Unjoined keystore _ t) h₁
    (fun _ t reply ht => ⟨(ht.sent _).sound, fun _ => (ht.sent _).sound⟩)
    (fun link₁ s₃ nonce h₃ => ?_) fun _ _ _ _ ht _ => ht.sent _
  rw [wp_bind]
  refine wp_callLoop (J := fun _ t => Unjoined keystore _ t) (h₃.sent _)
    (fun _ t reply ht => ⟨(ht.sent _).sound, fun _ => (ht.sent _).sound⟩)
    (fun link₂ s₄ attested h₄ => ?_) fun _ _ _ _ ht _ => ht.sent _
  rw [wp_bind]
  refine (wp_generateSvidKey svidKey (h₄.sent _)).mono (fun _ => id) (fun csrDer s₅ hs₅ => ?_) fun _ _ => id
  obtain ⟨same, keypair, hcsr, h₅⟩ := hs₅
  have registered : lastRegistered s₅.exchanges = some (lawful.publicOf env.sealingKey.keypair.1).toList := by
    rw [same, lastRegistered_sent]
    rfl
  rw [wp_bind]
  -- The CSR is sent without the key, which control has been sent with the quote.
  refine wp_callLoop (J := fun _ t => Unjoined keystore _ t ∧
      lastRegistered t.exchanges = some (lawful.publicOf env.sealingKey.keypair.1).toList) ⟨h₅, registered⟩
    (fun _ t reply ht => ⟨(ht.1.sent _).sound, fun _ => (ht.1.sent _).sound⟩)
    (fun link₃ s₆ svidResp hs₆ => ?_) fun _ t _ _ ht _ => ⟨ht.1.sent _, lastRegistered_sent.trans ht.2⟩
  rw [wp_bind]
  have agreed := agreed_of_answer contents s₆ ⟨link₃.target, .submitCsr csrDer, some (.ok (.svid svidResp))⟩ _ hcsr rfl rfl
    (lastRegistered_sent.trans hs₆.2)
  exact (wp_installSvid (hs₆.1.sent _) agreed).mono (fun _ => id) (fun _ t ht => wp_getTrustBundle ht) fun _ _ => id

theorem wp_answerChallenge {challenge : ActivationChallenge} (h : Unjoined keystore contents node) :
    wp (Sound keystore nodeId) (answerChallenge cfg env challenge) (fun _ t => t = node)
      (fun _ => Sound keystore nodeId) node := by
  unfold answerChallenge
  rw [wp_bind]
  refine wp_orAttestation (fun secretBytes _ => ?_) fun _ _ _ => h.sound
  split
  · exact wp_fail.mpr h.sound
  · rw [wp_bind]
    exact wp_orAttestation (fun _ _ => wp_pure.mpr rfl) fun _ _ _ => h.sound

theorem wp_performSecureJoin (joinKey : env.sealingKey.Faithful) (svidKey : env.svidKey.Faithful)
    (hkeystore : keystore = ⟨some cfg.tpmEndpoint⟩) (h : Unjoined keystore contents node) :
    wp (Sound keystore (cfg.nodeSpiffeId api)) (performSecureJoin cfg env)
      (fun _ t => Sound keystore (cfg.nodeSpiffeId api) t ∧ Svid.Installed t.svid)
      (fun _ => Sound keystore (cfg.nodeSpiffeId api)) node := by
  unfold performSecureJoin
  dsimp only
  rw [← hkeystore, wp_bind]
  refine (wp_generateAndStoreSealingKey _ joinKey h).mono (fun _ => id) (fun pubkey s₁ hs₁ => ?_) fun _ _ => id
  obtain ⟨rfl, h₁⟩ := hs₁
  rw [wp_bind]
  refine wp_orAttestation (fun _ _ => ?_) fun _ _ _ => h₁.sound
  rw [wp_bind]
  refine wp_orAttestation (fun pubs _ => ?_) fun _ _ _ => h₁.sound
  obtain ⟨akPub, ekPub⟩ := pubs
  rw [wp_bind]
  refine wp_orAttestation (fun ekCert _ => ?_) fun _ _ _ => h₁.sound
  rw [wp_bind]
  refine (wp_connectToControl h₁).mono (fun _ => id) (fun connected s₂ hs₂ => ?_) fun _ _ => id
  subst hs₂
  obtain ⟨trustBundlePem, link⟩ := connected
  rw [wp_bind]
  refine wp_callLoop (J := fun _ t => Unjoined keystore _ t) h₁
    (fun _ t reply ht => ⟨(ht.sent _).sound, fun _ => (ht.sent _).sound⟩)
    (fun link₁ s₃ challenge h₃ => ?_) fun _ _ _ _ ht _ => ht.sent _
  rw [wp_bind]
  refine (wp_answerChallenge (h₃.sent _)).mono (fun _ => id) (fun answer s₄ hs₄ => ?_) fun _ _ => id
  subst hs₄
  obtain ⟨hmac, quoteOut⟩ := answer
  rw [wp_bind]
  refine (wp_generateSvidKey svidKey (h₃.sent _)).mono (fun _ => id) (fun csrDer s₅ hs₅ => ?_) fun _ _ => id
  obtain ⟨-, keypair, hcsr, h₅⟩ := hs₅
  rw [wp_bind]
  refine wp_orAgentError (fun pcrSelection _ => ?_) fun _ _ => h₅.sound
  rw [wp_bind]
  refine wp_callLoop (J := fun _ t => Unjoined keystore _ t) h₅
    (fun _ t reply ht => ⟨(ht.sent _).sound, fun _ => (ht.sent _).sound⟩)
    (fun link₂ s₆ svidResp h₆ => ?_) fun _ _ _ _ ht _ => ht.sent _
  rw [wp_bind]
  -- One call sends both the CSR and the key.
  have agreed := agreed_of_answer contents s₆
    ⟨link₂.target, .submitActivationProof ⟨hmac, quoteOut.quote, quoteOut.signature,
      pcrSelection, csrDer, (lawful.publicOf env.sealingKey.keypair.1).toList⟩, some (.ok (.svid svidResp))⟩
    env.sealingKey.keypair.1 hcsr rfl rfl lastRegistered_sent
  refine (wp_installSvid (h₆.sent _) agreed).mono (fun _ => id) (fun _ s₇ h₇ => ?_) fun _ _ => id
  rw [wp_bind]
  refine (wp_getTrustBundle h₇).mono (fun _ => id) (fun _ s₈ h₈ => ?_) fun _ _ => id
  exact wp_orAttestation (fun _ _ => h₈) fun _ _ _ => h₈.1

theorem wp_performJoin (production : Bool) (joinKey : env.sealingKey.Faithful) (svidKey : env.svidKey.Faithful)
    (h : Unjoined ⟨cfg.sealingEndpoint⟩ contents node) :
    wp (Sound ⟨cfg.sealingEndpoint⟩ (cfg.nodeSpiffeId api)) (performJoin cfg env production)
      (fun _ t => Sound ⟨cfg.sealingEndpoint⟩ (cfg.nodeSpiffeId api) t ∧ Svid.Installed t.svid)
      (fun _ => Sound ⟨cfg.sealingEndpoint⟩ (cfg.nodeSpiffeId api)) node := by
  unfold performJoin
  cases hmode : cfg.mode with
  | secure => exact wp_performSecureJoin joinKey svidKey (by rw [JoinConfig.sealingEndpoint, hmode]) h
  | insecure => exact wp_performInsecureJoin production joinKey svidKey (by rw [JoinConfig.sealingEndpoint, hmode]) h

/-! ### A start -/

variable {startEnv : StartEnv lawful.toKeystoreApi api}

theorem Sound.load (h : Sound keystore nodeId node) {faults : KeyspaceFaults} {state : Svid.SvidState}
    (hload : Svid.load api.codec faults node.svid = .ok state) : isNone state = false ↔ Svid.Installed node.svid := by
  have plain := Svid.load_of_ok hload
  obtain ⟨contents, -, joined⟩ := h
  by_cases hinstalled : Svid.Installed node.svid
  · obtain ⟨keypair, response, secret, -, entries⟩ := joined hinstalled
    rw [Svid.load_of_entries hinstalled entries, Except.ok.injEq] at plain
    subst plain
    exact iff_of_true rfl hinstalled
  · rw [Svid.load_of_not_installed hinstalled, Except.ok.injEq] at plain
    subst plain
    exact iff_of_false (by decide) hinstalled

/-- A start has an SVID once it is past its fourth phase: the installed one, which it has loaded. -/
theorem wp_svidPhase (production : Bool) (faithful : startEnv.Faithful)
    (h : Sound ⟨cfg.sealingEndpoint⟩ (cfg.nodeSpiffeId api) node) :
    wp (Sound ⟨cfg.sealingEndpoint⟩ (cfg.nodeSpiffeId api)) (svidPhase cfg production startEnv)
      (fun state t => Sound ⟨cfg.sealingEndpoint⟩ (cfg.nodeSpiffeId api) t ∧ Svid.Installed t.svid ∧
        Svid.load api.codec {} t.svid = .ok state)
      (fun _ => Sound ⟨cfg.sealingEndpoint⟩ (cfg.nodeSpiffeId api)) node := by
  rw [svidPhase, wp_bind]
  refine wp_loadSvid (fun state hload => ?_) fun _ _ => h
  cases hnone : isNone state with
  | false =>
    rw [if_neg (by simp)]
    exact wp_pure.mpr ⟨h, (h.load hload).mp hnone, Svid.load_of_ok hload⟩
  | true =>
    have absent : ¬Svid.Installed node.svid := fun hinstalled => by
      rw [(h.load hload).mpr hinstalled] at hnone
      cases hnone
    obtain ⟨contents, holds, -⟩ := h
    have unjoined : Unjoined ⟨cfg.sealingEndpoint⟩ contents node := ⟨holds, absent⟩
    rw [if_pos rfl, wp_bind]
    refine (wp_generateAndStoreSealingKey _ faithful.sealingKey unjoined).mono (fun _ => id) (fun _ s₁ h₁ => ?_)
      fun _ _ => id
    rw [wp_bind]
    refine (wp_performJoin production faithful.joinKey faithful.svidKey h₁.2).mono (fun _ => id) (fun _ s₂ h₂ => ?_)
      fun _ _ => id
    exact wp_loadSvid (fun state hreload => ⟨h₂.1, h₂.2, Svid.load_of_ok hreload⟩) fun _ _ => h₂.1

theorem wp_loadSealed {I : NodeState → Prop} {E : Halt → NodeState → Prop} {Q : Option (List UInt8) → NodeState → Prop}
    {loadEnv : LoadEnv} {keyLabel : List UInt8} {master : Option (Bytes 32)}
    (hpair : loadEnv.keypair.2 = lawful.publicOf loadEnv.keypair.1) (hlabel : keyLabel ≠ SOFTWARE_MASTER_KEY_LABEL)
    (h : Keeps keystore node.delegation contents master)
    (kept : ∀ store master, Keeps keystore store contents master → I { node with delegation := store } ∧
      Q (contents.get keyLabel) { node with delegation := store } ∧ ∀ e, E (.failed e) { node with delegation := store }) :
    wp I (loadSealed keystore loadEnv keyLabel) Q E node := by
  obtain ⟨answer, store, master', hload, hkeeps⟩ := loadSealed_keeps keyLabel hpair h
  obtain ⟨hI, hQ, hE⟩ := kept store master' hkeeps
  rw [loadSealed, wp_bind, wp_get, hload, wp_bind, wp_modify]
  refine ⟨hI, ?_⟩
  cases answer with
  | ok value =>
    obtain rfl := loadSealed_ok h hlabel hload
    exact wp_orAgentError (fun _ hok => Except.ok.inj hok ▸ hQ) fun _ h => (by cases h)
  | error e => exact wp_orAgentError (fun _ h => (by cases h)) fun _ _ => hE _

theorem Sound.delegation {store : DelegationStore} {master : Option (Bytes 32)}
    (kept : Keeps keystore store contents master)
    (joined : Svid.Installed node.svid → ∃ keypair response secret,
      Agreed lawful nodeId contents node keypair response secret ∧
      Svid.Entries api.codec node.svid ⟨[response.certChainDer], response.svidVersion, 1⟩) :
    Sound keystore nodeId { node with delegation := store } := by
  refine ⟨contents, ⟨master, kept⟩, fun hinstalled => ?_⟩
  obtain ⟨keypair, response, secret, agreed, entries⟩ := joined hinstalled
  exact ⟨keypair, response, secret, ⟨agreed.issued, agreed.privateKey, agreed.registered, agreed.sealingSecret⟩, entries⟩

/-- The channel shows the SVID that control issued, and the private key of its CSR. -/
def Shows (lawful : LawfulKeystoreApi) (cfg : JoinConfig lawful.toKeystoreApi) (api : JoinApi) (tls : TlsConfig)
    (node : NodeState) : Prop :=
  ∃ contents keypair response secret trustBundlePem,
    Agreed lawful (cfg.nodeSpiffeId api) contents node keypair response secret ∧
    tls = mtlsConfig api.base64 cfg.controlAddress trustBundlePem [response.certChainDer] (api.serializeDer keypair)

theorem wp_start (production : Bool) (faithful : startEnv.Faithful)
    (h : Sound ⟨cfg.sealingEndpoint⟩ (cfg.nodeSpiffeId api) node) :
    wp (Sound ⟨cfg.sealingEndpoint⟩ (cfg.nodeSpiffeId api)) (start cfg production startEnv)
      (fun tls t => Sound ⟨cfg.sealingEndpoint⟩ (cfg.nodeSpiffeId api) t ∧ Shows lawful cfg api tls t)
      (fun _ => Sound ⟨cfg.sealingEndpoint⟩ (cfg.nodeSpiffeId api)) node := by
  rw [start, wp_bind]
  refine (wp_svidPhase production faithful h).mono (fun _ => id) (fun state s₁ hs₁ => ?_) fun _ _ => id
  obtain ⟨sound, hinstalled, hload⟩ := hs₁
  rw [wp_bind]
  refine wp_orFailed (fun trustBundlePem _ => ?_) fun _ _ => sound
  obtain ⟨contents, ⟨master, keeps⟩, joined⟩ := sound
  rw [wp_bind]
  refine wp_loadSealed faithful.loadKey svid_label_ne keeps fun store master kept => ?_
  have sound : Sound ⟨cfg.sealingEndpoint⟩ (cfg.nodeSpiffeId api) { s₁ with delegation := store } := .delegation kept joined
  refine ⟨sound, ?_, fun _ => sound⟩
  obtain ⟨keypair, response, secret, agreed, entries⟩ := joined hinstalled
  rw [Svid.load_of_entries hinstalled entries, Except.ok.injEq] at hload
  subst hload
  rw [agreed.privateKey]
  dsimp only
  rw [wp_bind]
  refine wp_orFailed (fun _ _ => wp_pure.mpr ⟨sound, ?_⟩) fun _ _ => sound
  exact ⟨contents, keypair, response, secret, trustBundlePem,
    ⟨agreed.issued, agreed.privateKey, agreed.registered, agreed.sealingSecret⟩, rfl⟩

/-! ### Histories of starts -/

theorem Sound.initial : Sound keystore nodeId {} :=
  ⟨∅, ⟨none, .empty⟩, fun hinstalled => (by cases hinstalled)⟩

theorem Sound.boot (production : Bool) {b : Boot lawful.toKeystoreApi api} (faithful : b.env.Faithful)
    (h : Sound ⟨cfg.sealingEndpoint⟩ (cfg.nodeSpiffeId api) node) :
    Sound ⟨cfg.sealingEndpoint⟩ (cfg.nodeSpiffeId api) (boot cfg production node b) := by
  have run := wp_start production faithful h
  have final := (run.mono (fun _ => id) (fun _ _ ht => ht.1) fun _ _ => id).final
  unfold Join.boot
  cases b.killedAfter with
  | none => exact final
  | some writes =>
    dsimp only
    cases hmoment : (node :: (start cfg production b.env node).passed)[writes]? with
    | none => exact final
    | some t =>
      rcases List.mem_cons.mp (List.mem_of_getElem? hmoment) with rfl | hmem
      · exact h
      · exact run.passed t hmem

theorem Sound.booted (cfg : JoinConfig lawful.toKeystoreApi) (production : Bool)
    {history : List (Boot lawful.toKeystoreApi api)} (faithful : ∀ b ∈ history, b.env.Faithful) :
    Sound ⟨cfg.sealingEndpoint⟩ (cfg.nodeSpiffeId api) (booted cfg production history) := by
  induction history using List.reverseRecOn with
  | nil => exact .initial
  | append_singleton history b ih =>
    rw [List.forall_mem_append, List.forall_mem_singleton] at faithful
    rw [Join.booted, List.foldl_concat]
    exact (ih faithful.1).boot production faithful.2

end

/-! ### A node whose keys are plain -/

/-- Keypairs are lists of bytes, and a CSR is its keypair. -/
def plainApi : JoinApi where
  spiffe := textApi
  codec := Svid.singleCert
  KeyPair := List UInt8
  serializeDer keypair := keypair
  buildCsr _ keypair := .ok keypair
  computeActivationProof secret nonce := secret.toList ++ nonce
  PcrValues := List UInt8
  encodePcrValues values := .ok values
  base64 := Base64.standard
  displayStatus status := status.message

def plainConfig : JoinConfig plainKeystore.toKeystoreApi where
  nodeName := "n1"
  trustDomain := "t"
  controlAddress := "c1:9443"
  controlTrustBundlePath := "/ca.pem"
  mode := .insecure
  tpmEndpoint := ()

def plainSealingKey : SealingKeyEnv plainKeystore.toKeystoreApi := ⟨(.replicate 32 3, .replicate 32 3), plainEnv true⟩

/-- Control is unavailable to the first call and then answers. -/
def plainStart : StartEnv plainKeystore.toKeystoreApi plainApi where
  sealingKey := plainSealingKey
  join :=
    { sealingKey := plainSealingKey
      tpm := ⟨.ok (), .ok ([], []), .ok none, fun _ _ => .ok (List.replicate 32 1), fun _ _ => .ok ⟨[], [], []⟩, .ok ()⟩
      readToString := fun _ => .ok "ca"
      connect := fun _ => .ok ()
      requestNonce := [⟨.error { code := .unavailable }, fun _ => .ok ()⟩, ⟨.ok [8], fun _ => .ok ()⟩]
      submitQuote := [⟨.ok (), fun _ => .ok ()⟩]
      requestActivation := [⟨.ok ⟨[], [], [8]⟩, fun _ => .ok ()⟩]
      generate := .ok [5, 5]
      svidKey := plainEnv true
      submitCsr := [⟨.ok ⟨[6], 4⟩, fun _ => .ok ()⟩]
      getTrustBundle := some (.ok ()) }
  readToString _ := .ok "ca"
  loadKey := { keypair := (.replicate 32 9, .replicate 32 9) }
  connect _ := .ok ()

theorem plainEnv_faithful (tpm : Bool) : (plainEnv tpm).Faithful := by
  refine ⟨fun _ data _ blob hseal => ?_, rfl, fun _ data _ _ secret hseal => ?_⟩
  · cases tpm <;> cases hseal
    rfl
  · cases hseal
    rfl

theorem plainStart_faithful : plainStart.Faithful :=
  ⟨⟨rfl, plainEnv_faithful true⟩, ⟨rfl, plainEnv_faithful true⟩, plainEnv_faithful true, rfl⟩

/-! ### What the node has and shows -/

/-- At every moment of every history of starts, killed wherever they are: if an SVID is installed, it is the one that
    control answered the last CSR with, in generation 1; that CSR is of the keypair whose private key the keystore loads;
    and the key that control was last sent is the public half of the sealing secret that the keystore loads. -/
theorem installed_svid_is_of_kept_keys (lawful : LawfulKeystoreApi) (api : JoinApi) (cfg : JoinConfig lawful.toKeystoreApi)
    (production : Bool) (history : List (Boot lawful.toKeystoreApi api)) (faithful : ∀ b ∈ history, b.env.Faithful)
    (hinstalled : Svid.Installed (booted cfg production history).svid) :
    ∃ (keypair : api.KeyPair) (response : SvidResponse) (secret : Bytes 32) (target : String) (request : JoinRequest)
      (csrDer : List UInt8),
      Svid.load api.codec {} (booted cfg production history).svid = .ok ⟨[response.certChainDer], response.svidVersion, 1⟩ ∧
      lastIssue (booted cfg production history).exchanges = some ⟨target, request, some (.ok (.svid response))⟩ ∧
      request.csr? = some csrDer ∧ api.buildCsr (cfg.nodeSpiffeId api) keypair = .ok csrDer ∧
      Loads ⟨cfg.sealingEndpoint⟩ (booted cfg production history).delegation KEY_SVID_PRIVATE_KEY
        (some (api.serializeDer keypair)) ∧
      lastRegistered (booted cfg production history).exchanges = some (lawful.publicOf secret).toList ∧
      Loads ⟨cfg.sealingEndpoint⟩ (booted cfg production history).delegation KEY_SEALING_KEY_BLOB (some secret.toList) := by
  obtain ⟨contents, ⟨master, keeps⟩, joined⟩ := Sound.booted cfg production faithful
  obtain ⟨keypair, response, secret, agreed, entries⟩ := joined hinstalled
  obtain ⟨target, request, csrDer, hissue, hrequest, hcsr⟩ := agreed.issued
  refine ⟨keypair, response, secret, target, request, csrDer, Svid.load_of_entries hinstalled entries, hissue,
    hrequest, hcsr,
    fun env hread => ?_, agreed.registered, fun env hread => ?_⟩
  · rw [← agreed.privateKey]
    exact ⟨_, loadSealed_of_keeps hread keeps svid_label_ne⟩
  · rw [← agreed.sealingSecret]
    exact ⟨_, loadSealed_of_keeps hread keeps sealing_label_ne⟩

theorem plain_start_installs : Svid.Installed (booted plainConfig false [⟨plainStart, none⟩]).svid ∧
    ∃ keypair, Loads ⟨plainConfig.sealingEndpoint⟩ (booted plainConfig false [⟨plainStart, none⟩]).delegation
      KEY_SVID_PRIVATE_KEY (some keypair) := by
  have hinstalled : Svid.Installed (booted plainConfig false [⟨plainStart, none⟩]).svid := by
    unfold Svid.Installed
    decide +kernel
  have faithful : ∀ b ∈ [(⟨plainStart, none⟩ : Boot _ plainApi)], b.env.Faithful :=
    List.forall_mem_singleton.mpr plainStart_faithful
  obtain ⟨keypair, _, _, _, _, _, _, _, _, _, loads, _⟩ :=
    installed_svid_is_of_kept_keys plainKeystore plainApi plainConfig false _ faithful hinstalled
  exact ⟨hinstalled, keypair, loads⟩

/-- A start that gets as far as the mTLS channel, after any history, shows in it the certificate that control answered the
    last CSR with and the private key of that CSR. -/
theorem start_shows_issued_svid (lawful : LawfulKeystoreApi) (api : JoinApi) (cfg : JoinConfig lawful.toKeystoreApi)
    (production : Bool) (history : List (Boot lawful.toKeystoreApi api)) (faithful : ∀ b ∈ history, b.env.Faithful)
    (env : StartEnv lawful.toKeystoreApi api) (henv : env.Faithful) (tls : TlsConfig)
    (hstart : (start cfg production env (booted cfg production history)).result = .ok tls) :
    ∃ (keypair : api.KeyPair) (response : SvidResponse) (target : String) (request : JoinRequest) (csrDer : List UInt8)
      (certPem keyPem : String),
      lastIssue (start cfg production env (booted cfg production history)).final.exchanges =
        some ⟨target, request, some (.ok (.svid response))⟩ ∧
      request.csr? = some csrDer ∧ api.buildCsr (cfg.nodeSpiffeId api) keypair = .ok csrDer ∧
      tls.identity = some (certPem, keyPem) ∧
      Pem.read? api.base64 certPem.toList = some [⟨"CERTIFICATE".toList, response.certChainDer⟩] ∧
      Pem.read? api.base64 keyPem.toList = some [⟨"PRIVATE KEY".toList, api.serializeDer keypair⟩] := by
  have sound := Sound.booted cfg production faithful
  obtain ⟨-, contents, keypair, response, secret, trustBundlePem, agreed, rfl⟩ :=
    (wp_start production henv sound).of_ok hstart
  obtain ⟨target, request, csrDer, hissue, hrequest, hcsr⟩ := agreed.issued
  exact ⟨keypair, response, target, request, csrDer, _, _, hissue, hrequest, hcsr, identity_mtlsConfig ..,
    read?_dersToPem newline_notMem_certificate _, read?_dersToPem newline_notMem_privateKey _⟩

/-- The first start is killed after its ninth write. -/
theorem killed_start_shows :
    ∃ tls, (start plainConfig false plainStart (booted plainConfig false [⟨plainStart, some 9⟩])).result = .ok tls ∧
    ∃ certPem keyPem, tls.identity = some (certPem, keyPem) := by
  have faithful : ∀ b ∈ [(⟨plainStart, some 9⟩ : Boot _ plainApi)], b.env.Faithful :=
    List.forall_mem_singleton.mpr plainStart_faithful
  have hstart : (start plainConfig false plainStart (booted plainConfig false [⟨plainStart, some 9⟩])).result =
    .ok (mtlsConfig Base64.standard "c1:9443" "ca" [[6]] [5, 5]) := rfl
  obtain ⟨_, _, _, _, _, certPem, keyPem, _, _, _, identity, _⟩ :=
    start_shows_issued_svid plainKeystore plainApi plainConfig false _ faithful plainStart plainStart_faithful _ hstart
  exact ⟨_, hstart, certPem, keyPem, identity⟩

end FleetosAgent.Join
