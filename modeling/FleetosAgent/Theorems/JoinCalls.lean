import FleetosAgent.Theorems.Join

/-! # The calls of a join

What a join says to control is a conversation: each call is the one that the answers so far ask for, and goes where the last
redirect pointed. -/

namespace FleetosAgent.Join
open Lib Client Identity Secret Traced

/-! ### Conversations -/

def Exchange.answer? (e : Exchange) : Option JoinReply :=
  match e.reply with
  | some (.ok reply) => some reply
  | _ => none

/-- The leader that an answer points to. -/
def Exchange.redirect? (e : Exchange) : Option String :=
  match e.reply with
  | some (.error status) => if status.code = .unavailable then leaderAddress status else none
  | _ => none

/-- A call after which a join goes on: it has a response, or control is unavailable. -/
def Exchange.Passed (e : Exchange) : Prop :=
  match e.reply with
  | some (.ok _) => True
  | some (.error status) => status.code = .unavailable
  | none => False

def answers (log : List Exchange) : List JoinReply := log.filterMap Exchange.answer?

def redirects (log : List Exchange) : List String := log.filterMap Exchange.redirect?

section
variable {keys : KeystoreApi} {api : JoinApi} (cfg : JoinConfig keys) (env : JoinEnv keys api)

/-- The request that an insecure join makes after these answers. -/
def InsecureCall : List JoinReply → JoinRequest → Prop
  | [], request => request = .requestNonce (api.spiffe.display (cfg.nodeSpiffeId api))
  | [.nonce nonce], request => request = .submitQuote (insecureQuote cfg nonce env.sealingKey.keypair.2)
  | [.nonce _, .attested], request => ∃ keypair csrDer, env.generate = .ok keypair ∧
      api.buildCsr (cfg.nodeSpiffeId api) keypair = .ok csrDer ∧ request = .submitCsr csrDer
  | [.nonce _, .attested, .svid _], request => request = .getTrustBundle
  | _, _ => False

/-- The proof that the TPM gives for a challenge. -/
def Proves (challenge : ActivationChallenge) (proof : ActivationProof) : Prop :=
  ∃ secretBytes secret quoteOut, env.tpm.activate challenge.credentialBlob challenge.secret = .ok secretBytes ∧
    asArray 32 secretBytes = some secret ∧ proof.hmac = api.computeActivationProof secret challenge.serverNonce ∧
    env.tpm.quote challenge.serverNonce cfg.pcrIndices = .ok quoteOut ∧ proof.quote = quoteOut.quote ∧
    proof.quoteSignature = quoteOut.signature ∧ api.encodePcrValues quoteOut.pcrValues = .ok proof.pcrSelection

def SecureCall : List JoinReply → JoinRequest → Prop
  | [], request => ∃ akPub ekPub ekCert, env.tpm.beginAttestation = .ok (akPub, ekPub) ∧ env.tpm.readEkCert = .ok ekCert ∧
      request = .requestActivation ⟨akPub, ekCert.getD [], ekPub⟩
  | [.challenge challenge], request => ∃ proof keypair, Proves cfg env challenge proof ∧ env.generate = .ok keypair ∧
      api.buildCsr (cfg.nodeSpiffeId api) keypair = .ok proof.csrDer ∧
      proof.agentX25519Pubkey = env.sealingKey.keypair.2.toList ∧ request = .submitActivationProof proof
  | [.challenge _, .svid _], request => request = .getTrustBundle
  | _, _ => False

def JoinCall (answers : List JoinReply) (request : JoinRequest) : Prop :=
  match cfg.mode with
  | .secure => SecureCall cfg env answers request
  | .insecure => InsecureCall cfg env answers request

end

/-- A call made after `before`. -/
structure Legal (address : String) (Call : List JoinReply → JoinRequest → Prop) (before : List Exchange) (e : Exchange) :
    Prop where
  request : Call (answers before) e.request
  target : e.target = (redirects before).getLast?.getD address
  few : (redirects before).length ≤ maxRedirectHops + 1
  passed : ∀ x ∈ before, x.Passed

/-! ### Where a join is -/

section
variable {address : String} {Call : List JoinReply → JoinRequest → Prop}

/-- The clients are connected where the calls so far have led. -/
structure Talking (address : String) (Call : List JoinReply → JoinRequest → Prop) (log : List Exchange) (link : Link) :
    Prop where
  legal : Throughout (Legal address Call) log
  target : link.target = (redirects log).getLast?.getD address
  hops : link.redirectHops = (redirects log).length
  few : (redirects log).length ≤ maxRedirectHops + 1
  passed : ∀ x ∈ log, x.Passed

theorem Talking.start : Talking address Call [] { target := address } :=
  ⟨throughout_nil, rfl, rfl, Nat.zero_le _, fun _ h => (by cases h)⟩

variable {log : List Exchange} {link link' : Link} {request : JoinRequest}

theorem Talking.call (h : Talking address Call log link) (hcall : Call (answers log) request)
    (reply : Option (Except Status JoinReply)) : Throughout (Legal address Call) (log ++ [⟨link.target, request, reply⟩]) :=
  throughout_concat.mpr ⟨h.legal, hcall, h.target, h.few, h.passed⟩

theorem Talking.answered (h : Talking address Call log link) (hcall : Call (answers log) request) (reply : JoinReply) :
    Talking address Call (log ++ [⟨link.target, request, some (.ok reply)⟩]) link ∧
      answers (log ++ [⟨link.target, request, some (.ok reply)⟩]) = answers log ++ [reply] := by
  have same : redirects (log ++ [⟨link.target, request, some (.ok reply)⟩]) = redirects log := by
    simp [redirects, Exchange.redirect?]
  refine ⟨⟨h.call hcall _, same ▸ h.target, same ▸ h.hops, same ▸ h.few, ?_⟩, by simp [answers, Exchange.answer?]⟩
  rw [List.forall_mem_append, List.forall_mem_singleton]
  exact ⟨h.passed, trivial⟩

theorem follow_cases {status : Status} (h : link.follow status = some link') : link.redirectHops ≤ maxRedirectHops ∧
    status.code = .unavailable ∧
    ((∃ leader, leaderAddress status = some leader ∧ link' = ⟨leader, link.redirectHops + 1⟩) ∨
      (leaderAddress status = none ∧ link' = link)) := by
  unfold Link.follow classifyError at h
  by_cases hhops : maxRedirectHops < link.redirectHops
  · rw [if_pos hhops] at h
    cases h
  rw [if_neg hhops] at h
  by_cases hcode : status.code = .unavailable
  · rw [if_pos hcode] at h
    refine ⟨Nat.le_of_not_lt hhops, hcode, ?_⟩
    cases hleader : leaderAddress status with
    | none =>
      rw [hleader] at h
      cases h
      exact Or.inr ⟨rfl, rfl⟩
    | some leader =>
      rw [hleader] at h
      cases h
      exact Or.inl ⟨leader, rfl, rfl⟩
  · rw [if_neg hcode] at h
    cases h

theorem Talking.followed (h : Talking address Call log link) (hcall : Call (answers log) request) {status : Status}
    (hfollow : link.follow status = some link') :
    Talking address Call (log ++ [⟨link.target, request, some (.error status)⟩]) link' ∧
      answers (log ++ [⟨link.target, request, some (.error status)⟩]) = answers log := by
  obtain ⟨hhops, hcode, hnext⟩ := follow_cases hfollow
  have passed : ∀ x ∈ log ++ [⟨link.target, request, some (.error status)⟩], x.Passed := by
    rw [List.forall_mem_append, List.forall_mem_singleton]
    exact ⟨h.passed, hcode⟩
  have redirected : redirects (log ++ [⟨link.target, request, some (.error status)⟩]) =
      redirects log ++ (leaderAddress status).toList := by
    cases hleader : leaderAddress status <;> simp [redirects, Exchange.redirect?, hcode, hleader]
  refine ⟨⟨h.call hcall _, ?_, ?_, ?_, passed⟩, by simp [answers, Exchange.answer?]⟩ <;>
    rcases hnext with ⟨leader, hleader, rfl⟩ | ⟨hleader, rfl⟩ <;> rw [redirected, hleader]
  · simp
  · simpa using h.target
  · simpa using h.hops
  · simpa using h.hops
  · rw [List.length_append, Option.toList_some, List.length_singleton, ← h.hops]
    exact Nat.add_le_add_right hhops 1
  · simpa using h.few

/-- Of the calls made since `base`, each was legal. -/
def Heard (address : String) (Call : List JoinReply → JoinRequest → Prop) (base : List Exchange) (node : NodeState) :
    Prop :=
  ∃ log, node.exchanges = base ++ log ∧ Throughout (Legal address Call) log

variable {base : List Exchange} {node : NodeState}

theorem Talking.heard (h : Talking address Call log link) (hnode : node.exchanges = base ++ log) :
    Heard address Call base node :=
  ⟨log, hnode, h.legal⟩

theorem sent_exchanges {exchange : Exchange} (hnode : node.exchanges = base ++ log) :
    (node.sent exchange).exchanges = base ++ (log ++ [exchange]) := by
  rw [NodeState.sent, hnode, List.append_assoc]

/-- A loop whose request is legal leaves a conversation with one more answer. -/
theorem wp_callLoop_talking {Resp : Type} {wrap : Resp → JoinReply} {trustBundlePem name : String}
    {attempts : List (Attempt Resp)} (h : Talking address Call log link) (hnode : node.exchanges = base ++ log)
    (hcall : Call (answers log) request) :
    wp (Heard address Call base) (callLoop wrap trustBundlePem name request attempts link)
      (fun answer t => ∃ log', t.exchanges = base ++ log' ∧ Talking address Call log' answer.2 ∧
        answers log' = answers log ++ [wrap answer.1])
      (fun _ => Heard address Call base) node := by
  refine wp_callLoop (J := fun link t => ∃ log', t.exchanges = base ++ log' ∧ Talking address Call log' link ∧
    answers log' = answers log)
    ⟨log, hnode, h, rfl⟩ (fun link t reply ht => ?_) (fun link t resp ht => ?_) fun link t status link' ht hfollow => ?_
  · obtain ⟨log', hlog, talking, same⟩ := ht
    have heard : Heard address Call base (t.sent ⟨link.target, request, reply⟩) :=
      ⟨_, sent_exchanges hlog, talking.call (same ▸ hcall) reply⟩
    exact ⟨heard, fun _ => heard⟩
  · obtain ⟨log', hlog, talking, same⟩ := ht
    obtain ⟨talking', hanswers⟩ := talking.answered (same ▸ hcall) (wrap resp)
    exact ⟨_, sent_exchanges hlog, talking', by rw [hanswers, same]⟩
  · obtain ⟨log', hlog, talking, same⟩ := ht
    obtain ⟨talking', hanswers⟩ := talking.followed (same ▸ hcall) hfollow
    exact ⟨_, sent_exchanges hlog, talking', hanswers.trans same⟩

end

/-! ### What makes no call -/

section Quiet
variable {P : List Exchange → Prop} {keys : KeystoreApi} {api : JoinApi}

theorem orAgentError_quiet {α : Type} {x : Except AgentError α} : Preserves (fun t => P t.exchanges) (orAgentError x) :=
  fun _ h => wp_orAgentError (fun _ _ => h) fun _ _ => h

theorem storeSealed_quiet {keystore : TpmSealedStore keys} {env : SealEnv keys} {keyLabel plaintext : List UInt8} :
    Preserves (fun t => P t.exchanges) (storeSealed keystore env keyLabel plaintext) := by
  refine .bind .get fun node => ?_
  cases keystore.storeSealed env node.delegation keyLabel plaintext with
  | none => exact .fail
  | some answer => exact .bind (.modify fun _ h => h) fun _ => .bind (.modify fun _ h => h) fun _ => orAgentError_quiet

theorem insertSvid_quiet {faults : KeyspaceFaults} {key value : List UInt8} :
    Preserves (fun t => P t.exchanges) (insertSvid faults key value) :=
  fun _ h => wp_insertSvid ⟨h, h⟩ fun _ _ => h

theorem installSvid_quiet {env : JoinEnv keys api} {response : SvidResponse} :
    Preserves (fun t => P t.exchanges) (installSvid env response) := by
  refine .bind (fun _ h => wp_loadSvid (fun _ _ => h) fun _ _ => h) fun current => ?_
  exact .bind orAgentError_quiet fun _ => .bind insertSvid_quiet fun _ => .bind insertSvid_quiet fun _ =>
    .bind insertSvid_quiet fun _ => insertSvid_quiet

theorem generateSvidKey_quiet {cfg : JoinConfig keys} {env : JoinEnv keys api} {sealedStore : TpmSealedStore keys}
    {node : NodeState} (h : P node.exchanges) : wp (fun t => P t.exchanges) (generateSvidKey cfg env sealedStore)
      (fun csrDer t => P t.exchanges ∧ ∃ keypair, env.generate = .ok keypair ∧
        api.buildCsr (cfg.nodeSpiffeId api) keypair = .ok csrDer)
      (fun _ t => P t.exchanges) node := by
  rw [generateSvidKey, wp_bind]
  refine wp_orAttestation (fun keypair hgenerate => ?_) fun _ _ _ => h
  rw [wp_bind]
  refine (storeSealed_quiet node h).mono (fun _ => id) (fun _ t ht => ?_) fun _ _ => id
  exact wp_orAttestation (fun csrDer hcsr => ⟨ht, keypair, hgenerate, hcsr⟩) fun _ _ _ => ht

end Quiet

/-! ### The flows -/

section Flows
variable {keys : KeystoreApi} {api : JoinApi} {cfg : JoinConfig keys} {env : JoinEnv keys api} {node : NodeState}
  {Call : List JoinReply → JoinRequest → Prop} {base log : List Exchange} {link : Link}

/-- The pieces between the calls. -/
theorem wp_between {α : Type} {m : Start α} {Q : α → NodeState → Prop} (h : Talking cfg.controlAddress Call log link)
    (quiet : wp (fun t => t.exchanges = base ++ log) m Q (fun _ t => t.exchanges = base ++ log) node) :
    wp (Heard cfg.controlAddress Call base) m Q (fun _ => Heard cfg.controlAddress Call base) node :=
  quiet.mono (fun _ ht => h.heard ht) (fun _ _ => id) fun _ _ ht => h.heard ht

theorem wp_connect_quiet {P : List Exchange → Prop} (h : P node.exchanges) :
    wp (fun t => P t.exchanges) (connectToControl cfg env)
      (fun connected t => P t.exchanges ∧ connected.2 = { target := cfg.controlAddress })
      (fun _ t => P t.exchanges) node := by
  rw [connectToControl, wp_bind]
  refine wp_orFailed (fun _ _ => ?_) fun _ _ => h
  rw [wp_bind]
  exact wp_orFailed (fun _ _ => wp_pure.mpr ⟨h, rfl⟩) fun _ _ => h

/-- The last call, which is not repeated. -/
theorem wp_getTrustBundle_heard {reply : Option (Except Status Unit)} (h : Talking cfg.controlAddress Call log link)
    (hnode : node.exchanges = base ++ log) (hcall : Call (answers log) .getTrustBundle) :
    wp (Heard cfg.controlAddress Call base) (getTrustBundle api reply link) (fun _ => Heard cfg.controlAddress Call base)
      (fun _ => Heard cfg.controlAddress Call base) node := by
  have heard : ∀ reply, Heard cfg.controlAddress Call base (node.sent ⟨link.target, .getTrustBundle, reply⟩) :=
    fun reply => ⟨_, sent_exchanges hnode, h.call hcall reply⟩
  unfold getTrustBundle
  rw [wp_bind, record, wp_modify]
  refine ⟨heard _, ?_⟩
  split
  · exact wp_fail.mpr (heard _)
  · exact wp_pure.mpr (heard _)
  · exact wp_fail.mpr (heard _)

theorem insecure_heard (production : Bool) : wp (Heard cfg.controlAddress (InsecureCall cfg env) node.exchanges)
    (performInsecureJoin cfg env production) (fun _ => Heard cfg.controlAddress (InsecureCall cfg env) node.exchanges)
    (fun _ => Heard cfg.controlAddress (InsecureCall cfg env) node.exchanges) node := by
  have begun : Talking cfg.controlAddress (InsecureCall cfg env) [] { target := cfg.controlAddress } := .start
  have first : node.exchanges = node.exchanges ++ [] := (List.append_nil _).symm
  unfold performInsecureJoin
  split
  · exact wp_fail.mpr (begun.heard first)
  dsimp only
  rw [generateAndStoreSealingKey, wp_bind, wp_bind]
  refine (wp_between begun (storeSealed_quiet (P := (· = _)) node first)).mono (fun _ => id) (fun _ s₁ h₁ => ?_)
    fun _ _ => id
  rw [wp_pure, wp_bind]
  refine (wp_between begun (wp_connect_quiet (P := (· = _)) h₁)).mono (fun _ => id) (fun connected s₂ h₂ => ?_)
    fun _ _ => id
  obtain ⟨trustBundlePem, link⟩ := connected
  obtain ⟨hs₂, rfl⟩ := h₂
  rw [wp_bind]
  refine (wp_callLoop_talking begun hs₂ rfl).mono (fun _ => id) (fun answer s₃ h₃ => ?_) fun _ _ => id
  obtain ⟨nonce, link₁⟩ := answer
  obtain ⟨log₁, hs₃, talking₁, answers₁⟩ := h₃
  rw [wp_bind]
  refine (wp_callLoop_talking talking₁ hs₃ (answers₁ ▸ rfl)).mono (fun _ => id) (fun answer s₄ h₄ => ?_) fun _ _ => id
  obtain ⟨attested, link₂⟩ := answer
  obtain ⟨log₂, hs₄, talking₂, answers₂⟩ := h₄
  rw [answers₁] at answers₂
  rw [wp_bind]
  refine (wp_between talking₂ (generateSvidKey_quiet (P := (· = _)) hs₄)).mono (fun _ => id) (fun csrDer s₅ h₅ => ?_)
    fun _ _ => id
  obtain ⟨hs₅, keypair, hgenerate, hcsr⟩ := h₅
  rw [wp_bind]
  refine (wp_callLoop_talking talking₂ hs₅ (answers₂ ▸ ⟨keypair, csrDer, hgenerate, hcsr, rfl⟩)).mono (fun _ => id)
    (fun answer s₆ h₆ => ?_) fun _ _ => id
  obtain ⟨svidResp, link₃⟩ := answer
  obtain ⟨log₃, hs₆, talking₃, answers₃⟩ := h₆
  rw [answers₂] at answers₃
  rw [wp_bind]
  refine (wp_between talking₃ (installSvid_quiet (P := (· = _)) s₆ hs₆)).mono (fun _ => id) (fun _ s₇ hs₇ => ?_)
    fun _ _ => id
  exact wp_getTrustBundle_heard talking₃ hs₇ (answers₃ ▸ rfl)

/-- What the TPM answers to a challenge. -/
theorem wp_answerChallenge_quiet {P : List Exchange → Prop} {challenge : ActivationChallenge} (h : P node.exchanges) :
    wp (fun t => P t.exchanges) (answerChallenge cfg env challenge)
      (fun answer t => P t.exchanges ∧ ∃ secretBytes secret,
        env.tpm.activate challenge.credentialBlob challenge.secret = .ok secretBytes ∧ asArray 32 secretBytes =
          some secret ∧
        answer.1 = api.computeActivationProof secret challenge.serverNonce ∧
        env.tpm.quote challenge.serverNonce cfg.pcrIndices = .ok answer.2)
      (fun _ t => P t.exchanges) node := by
  unfold answerChallenge
  rw [wp_bind]
  refine wp_orAttestation (fun secretBytes hactivate => ?_) fun _ _ _ => h
  split
  · exact wp_fail.mpr h
  · next secret hsecret =>
    rw [wp_bind]
    refine wp_orAttestation (fun quoteOut hquote => wp_pure.mpr ⟨h, secretBytes, secret, hactivate, hsecret, rfl, hquote⟩)
      fun _ _ _ => h

theorem secure_heard : wp (Heard cfg.controlAddress (SecureCall cfg env) node.exchanges) (performSecureJoin cfg env)
    (fun _ => Heard cfg.controlAddress (SecureCall cfg env) node.exchanges)
    (fun _ => Heard cfg.controlAddress (SecureCall cfg env) node.exchanges) node := by
  have begun : Talking cfg.controlAddress (SecureCall cfg env) [] { target := cfg.controlAddress } := .start
  have first : node.exchanges = node.exchanges ++ [] := (List.append_nil _).symm
  unfold performSecureJoin
  dsimp only
  rw [generateAndStoreSealingKey, wp_bind, wp_bind]
  refine (wp_between begun (storeSealed_quiet (P := (· = _)) node first)).mono (fun _ => id) (fun _ s₁ h₁ => ?_)
    fun _ _ => id
  have quiet := begun.heard h₁
  rw [wp_pure, wp_bind]
  refine wp_orAttestation (fun _ _ => ?_) fun _ _ _ => quiet
  rw [wp_bind]
  refine wp_orAttestation (fun pubs hpubs => ?_) fun _ _ _ => quiet
  obtain ⟨akPub, ekPub⟩ := pubs
  rw [wp_bind]
  refine wp_orAttestation (fun ekCert hcert => ?_) fun _ _ _ => quiet
  rw [wp_bind]
  refine (wp_between begun (wp_connect_quiet (P := (· = _)) h₁)).mono (fun _ => id) (fun connected s₂ h₂ => ?_)
    fun _ _ => id
  obtain ⟨trustBundlePem, link⟩ := connected
  obtain ⟨hs₂, rfl⟩ := h₂
  rw [wp_bind]
  refine (wp_callLoop_talking begun hs₂ ⟨akPub, ekPub, ekCert, hpubs, hcert, rfl⟩).mono (fun _ => id)
    (fun answer s₃ h₃ => ?_)
    fun _ _ => id
  obtain ⟨challenge, link₁⟩ := answer
  obtain ⟨log₁, hs₃, talking₁, answers₁⟩ := h₃
  rw [wp_bind]
  refine (wp_between talking₁ (wp_answerChallenge_quiet (P := (· = _)) hs₃)).mono (fun _ => id) (fun answer s₄ h₄ => ?_)
    fun _ _ => id
  obtain ⟨hmac, quoteOut⟩ := answer
  obtain ⟨hs₄, secretBytes, secret, hactivate, hsecret, hhmac, hquote⟩ := h₄
  rw [wp_bind]
  refine (wp_between talking₁ (generateSvidKey_quiet (P := (· = _)) hs₄)).mono (fun _ => id) (fun csrDer s₅ h₅ => ?_)
    fun _ _ => id
  obtain ⟨hs₅, keypair, hgenerate, hcsr⟩ := h₅
  rw [wp_bind]
  refine wp_orAgentError (fun pcrSelection hencode => ?_) fun _ _ => talking₁.heard hs₅
  have proves : Proves cfg env challenge
      ⟨hmac, quoteOut.quote, quoteOut.signature, pcrSelection, csrDer, env.sealingKey.keypair.2.toList⟩ :=
    ⟨secretBytes, secret, quoteOut, hactivate, hsecret, hhmac, hquote, rfl, rfl, mapError_eq_ok.mp hencode⟩
  rw [wp_bind]
  refine (wp_callLoop_talking talking₁ hs₅ (answers₁ ▸ ⟨_, keypair, proves, hgenerate, hcsr, rfl, rfl⟩)).mono (fun _ => id)
    (fun answer s₆ h₆ => ?_) fun _ _ => id
  obtain ⟨svidResp, link₂⟩ := answer
  obtain ⟨log₂, hs₆, talking₂, answers₂⟩ := h₆
  rw [answers₁] at answers₂
  rw [wp_bind]
  refine (wp_between talking₂ (installSvid_quiet (P := (· = _)) s₆ hs₆)).mono (fun _ => id) (fun _ s₇ hs₇ => ?_)
    fun _ _ => id
  rw [wp_bind]
  refine (wp_getTrustBundle_heard talking₂ hs₇ (answers₂ ▸ rfl)).mono (fun _ => id) (fun _ s₈ h₈ => ?_) fun _ _ => id
  exact wp_orAttestation (fun _ _ => h₈) fun _ _ _ => h₈

end Flows

/-- Whatever control answers, the calls of a join are a conversation, at every moment of it: each call is the one that the
    responses so far ask for in its mode, goes to the leader of the last redirect, after at most six redirects in the whole
    join, and is made only after every call before it had a response or found control unavailable. -/
theorem join_calls_are_a_conversation (keys : KeystoreApi) (api : JoinApi) (cfg : JoinConfig keys) (env : JoinEnv keys api)
    (production : Bool) (node : NodeState) :
    ∀ t ∈ (performJoin cfg env production node).final :: (performJoin cfg env production node).passed,
      ∃ log, t.exchanges = node.exchanges ++ log ∧ Throughout (Legal cfg.controlAddress (JoinCall cfg env)) log := by
  have heard : wp (Heard cfg.controlAddress (JoinCall cfg env) node.exchanges) (performJoin cfg env production)
      (fun _ => Heard cfg.controlAddress (JoinCall cfg env) node.exchanges)
      (fun _ => Heard cfg.controlAddress (JoinCall cfg env) node.exchanges) node := by
    unfold performJoin JoinCall
    cases cfg.mode with
    | secure => exact secure_heard
    | insecure => exact insecure_heard production
  exact List.forall_mem_cons.mpr ⟨heard.final, heard.passed⟩

theorem plain_join_calls_five_times : ∃ log, (performJoin plainConfig plainStart.join false {}).final.exchanges = log ∧
    log.length = 5 ∧ Throughout (Legal plainConfig.controlAddress (JoinCall plainConfig plainStart.join)) log := by
  have length : (performJoin plainConfig plainStart.join false {}).final.exchanges.length = 5 := rfl
  obtain ⟨log, hlog, legal⟩ :=
    join_calls_are_a_conversation _ plainApi plainConfig plainStart.join false {} _ List.mem_cons_self
  rw [List.nil_append] at hlog
  exact ⟨log, hlog, hlog ▸ length, legal⟩

/-! ### A loop has no end of its own -/

section Waiting
variable {Resp : Type} {wrap : Resp → JoinReply} {trustBundlePem name : String} {request : JoinRequest}

/-- Control is unavailable to the call, and the leader that it names, if any, can be connected to. -/
def Attempt.Unavailable (trustBundlePem : String) (attempt : Attempt Resp) : Prop :=
  ∃ status, attempt.reply = .error status ∧ status.code = .unavailable ∧
    ∀ leader, leaderAddress status = some leader → attempt.connect (serverTrustConfig leader trustBundlePem) = .ok ()

def Attempt.leader? (attempt : Attempt Resp) : Option String :=
  match attempt.reply with
  | .ok _ => none
  | .error status => leaderAddress status

/-- Every answer so far left the loop to call again: before the last one there were at most five redirects. -/
def Waits (trustBundlePem : String) (attempts : List (Attempt Resp)) (redirectHops : Nat) : Prop :=
  (∀ attempt ∈ attempts, attempt.Unavailable trustBundlePem) ∧
    (attempts ≠ [] → redirectHops + (attempts.dropLast.filterMap Attempt.leader?).length ≤ maxRedirectHops)

variable {attempt : Attempt Resp} {attempts : List (Attempt Resp)} {redirectHops : Nat}

theorem waits_cons (hattempt : attempt.Unavailable trustBundlePem) (hhops : redirectHops ≤ maxRedirectHops) :
    Waits trustBundlePem (attempt :: attempts) redirectHops ↔
      Waits trustBundlePem attempts (redirectHops + attempt.leader?.toList.length) := by
  unfold Waits
  rw [List.forall_mem_cons, and_iff_right hattempt]
  refine and_congr_right fun _ => ?_
  cases attempts with
  | nil => simpa using hhops
  | cons next attempts =>
    rw [List.dropLast_cons_cons, List.filterMap_cons]
    cases attempt.leader? <;> simp [Nat.add_assoc, Nat.add_comm 1]

theorem not_waits_of_hops (hhops : maxRedirectHops < redirectHops) :
    ¬Waits trustBundlePem (attempt :: attempts) redirectHops := by
  intro h
  have few := h.2 (List.cons_ne_nil _ _)
  omega

theorem not_waits_of_head (hattempt : ¬attempt.Unavailable trustBundlePem) :
    ¬Waits trustBundlePem (attempt :: attempts) redirectHops :=
  fun h => hattempt (h.1 attempt List.mem_cons_self)

theorem wp_callLoop_waits (wrap : Resp → JoinReply) (trustBundlePem name : String) (request : JoinRequest)
    (attempts : List (Attempt Resp)) (link : Link) (node : NodeState) :
    wp (fun _ => True) (callLoop wrap trustBundlePem name request attempts link)
      (fun _ _ => ¬Waits trustBundlePem attempts link.redirectHops)
      (fun halt _ => halt = .waiting ↔ Waits trustBundlePem attempts link.redirectHops) node := by
  induction attempts generalizing link node with
  | nil =>
    rw [callLoop, wp_bind, record, wp_modify, wp_fail]
    exact ⟨trivial, iff_of_true rfl ⟨fun _ h => (by cases h), fun h => absurd rfl h⟩⟩
  | cons attempt attempts ih =>
    rw [callLoop, wp_bind, record, wp_modify]
    refine ⟨trivial, ?_⟩
    cases hreply : attempt.reply with
    | ok resp =>
      refine wp_pure.mpr (not_waits_of_head ?_)
      rintro ⟨status, hstatus, -⟩
      cases hreply.symm.trans hstatus
    | error status =>
      have only : attempt.Unavailable trustBundlePem → status.code = .unavailable ∧
          ∀ leader, leaderAddress status = some leader → attempt.connect (serverTrustConfig leader trustBundlePem) =
            .ok () := by
        rintro ⟨status', hstatus, h⟩
        cases hreply.symm.trans hstatus
        exact h
      have leader : attempt.leader? = leaderAddress status := by rw [Attempt.leader?, hreply]
      dsimp only
      unfold classifyError
      by_cases hhops : maxRedirectHops < link.redirectHops
      · rw [if_pos hhops]
        exact wp_fail.mpr (iff_of_false (by simp) (not_waits_of_hops hhops))
      rw [if_neg hhops]
      by_cases hcode : status.code = .unavailable
      · rw [if_pos hcode]
        cases hleader : leaderAddress status with
        | none =>
          have unavailable : attempt.Unavailable trustBundlePem :=
            ⟨status, hreply, hcode, fun leader h => (by rw [hleader] at h; cases h)⟩
          rw [waits_cons unavailable (Nat.le_of_not_lt hhops), leader, hleader]
          exact ih link _
        | some address =>
          dsimp only
          rw [wp_bind]
          refine wp_orFailed (fun _ hconnect => ?_) fun e hconnect => ?_
          · have unavailable : attempt.Unavailable trustBundlePem := by
              refine ⟨status, hreply, hcode, fun leader h => ?_⟩
              cases hleader.symm.trans h
              exact hconnect
            rw [waits_cons unavailable (Nat.le_of_not_lt hhops), leader, hleader]
            exact ih _ _
          · refine iff_of_false (by simp) (not_waits_of_head fun h => ?_)
            cases hconnect.symm.trans ((only h).2 address hleader)
      · rw [if_neg hcode]
        exact wp_fail.mpr (iff_of_false (by simp) (not_waits_of_head fun h => hcode (only h).1))

end Waiting

/-- A loop of the join is still waiting after these answers exactly if control was unavailable in every one of them, each
    leader that it named could be connected to, and the join had followed at most five redirects before the last. So there
    is no limit to the calls that find control unavailable and name no leader. -/
theorem join_loop_waits_iff {Resp : Type} (wrap : Resp → JoinReply) (trustBundlePem name : String) (request : JoinRequest)
    (attempts : List (Attempt Resp)) (link : Link) (node : NodeState) :
    (callLoop wrap trustBundlePem name request attempts link node).result = .error .waiting ↔
      Waits trustBundlePem attempts link.redirectHops := by
  have post := (wp_callLoop_waits wrap trustBundlePem name request attempts link node).2
  cases hr : (callLoop wrap trustBundlePem name request attempts link node).result with
  | ok answer =>
    rw [hr] at post
    exact iff_of_false (by simp) post
  | error halt =>
    rw [hr] at post
    simpa using post

end FleetosAgent.Join
