import FleetosAgent.Client.Channels
import FleetosAgent.Client.Retry
import FleetosAgent.Identity.Svid
import FleetosAgent.Lib.Traced
import FleetosAgent.Spiffe

/-! # Joining a fleet

`join/secure.rs`, `join/insecure.rs` and the first phases of `main.rs`: a start of the agent loads the SVID of the node, or
joins to get one, and opens the mTLS channel with it. Each write to the storage and each call of control is one step of the
program, so what a kill can leave is a state of the model. -/

namespace FleetosAgent.Join
open Lib Client Identity Secret Traced

/-! ### Messages -/

/-- `AttestationQuote`; its type is always TPM 2. -/
structure AttestationQuote where
  rawQuote : List UInt8
  rawSignature : List UInt8
  joinToken : String
  agentX25519Pubkey : List UInt8
  deriving DecidableEq

structure ActivationRequest where
  akPub : List UInt8
  ekCertDer : List UInt8
  ekPub : List UInt8
  deriving DecidableEq

structure ActivationChallenge where
  credentialBlob : List UInt8
  secret : List UInt8
  serverNonce : List UInt8
  deriving DecidableEq

structure ActivationProof where
  hmac : List UInt8
  quote : List UInt8
  quoteSignature : List UInt8
  pcrSelection : List UInt8
  csrDer : List UInt8
  agentX25519Pubkey : List UInt8
  deriving DecidableEq

structure SvidResponse where
  certChainDer : List UInt8
  svidVersion : UInt64
  deriving DecidableEq

inductive JoinRequest where
  | requestNonce (claimedSpiffeId : String)
  | submitQuote (quote : AttestationQuote)
  | submitCsr (csrDer : List UInt8)
  | requestActivation (request : ActivationRequest)
  | submitActivationProof (proof : ActivationProof)
  | getTrustBundle
  deriving DecidableEq

/-- The responses, as far as they are read. -/
inductive JoinReply where
  | nonce (nonce : List UInt8)
  | attested
  | challenge (challenge : ActivationChallenge)
  | svid (response : SvidResponse)
  | trustBundle
  deriving DecidableEq

/-- A call of control; without a reply it is not answered (yet). -/
structure Exchange where
  target : String
  request : JoinRequest
  reply : Option (Except Status JoinReply)

/-! ### The node -/

/-- What the flows call beside the keystore's functions: SPIFFE ids, `rcgen`, `build_csr`, `compute_activation_proof`,
    `postcard` of PCR values, base64 and the text of a status. -/
structure JoinApi where
  spiffe : SpiffeApi
  codec : Svid.ChainCodec
  KeyPair : Type
  serializeDer : KeyPair → List UInt8
  buildCsr : spiffe.SpiffeId → KeyPair → Except String (List UInt8)
  computeActivationProof : Bytes 32 → List UInt8 → List UInt8
  PcrValues : Type
  encodePcrValues : PcrValues → Except String (List UInt8)
  base64 : Base64.Engine
  displayStatus : Status → String

/-- The storage of the node, and the calls it has made of control since its first start. -/
structure NodeState where
  svid : Svid.SvidStore := ∅
  delegation : DelegationStore := ∅
  exchanges : List Exchange := []

/-- The errors of a start. -/
inductive StartError where
  | agent (error : AgentError)
  | config (text : String)
  | grpcTransport (text : String)
  | joinFailed (text : String)

/-- How a start that does not go on ends. -/
inductive Halt where
  | failed (error : StartError)
  /-- It waits for the answer to a call. -/
  | waiting
  | panicked

abbrev Start := Traced NodeState Halt

inductive JoinMode where
  | secure
  | insecure
  deriving DecidableEq, Repr

/-- The fields of `AgentConfig` that these phases read. -/
structure JoinConfig (keys : KeystoreApi) where
  nodeName : String
  trustDomain : String
  controlAddress : String
  controlTrustBundlePath : String
  mode : JoinMode := .secure
  token : String := ""
  trustBundlePath : Option String := none
  pcrIndices : List UInt8 := [0, 7, 9]
  tpmEndpoint : keys.TpmEndpoint

section
variable {keys : KeystoreApi}

/-- `sealing_endpoint`: there is a TPM in secure mode only. -/
def JoinConfig.sealingEndpoint (cfg : JoinConfig keys) : Option keys.TpmEndpoint :=
  match cfg.mode with
  | .insecure => none
  | .secure => some cfg.tpmEndpoint

def JoinConfig.nodeSpiffeId (cfg : JoinConfig keys) (api : JoinApi) : api.spiffe.SpiffeId :=
  api.spiffe.new cfg.trustDomain "system" .node cfg.nodeName

end

def orFailed {α : Type} (x : Except StartError α) : Start α := ofExcept (x.mapError .failed)

def orAgentError {α : Type} (x : Except AgentError α) : Start α := orFailed (x.mapError .agent)

def orAttestation {α : Type} (what : String) (x : Except String α) : Start α :=
  orAgentError (x.mapError fun e => .attestation s!"{what} failed: {e}")

/-! ### The storage -/

/-- The keyspace with the software master key that `after` has: what stands between the inserts of a `store_sealed` that
    makes the key. -/
def withMasterKeyOf (after store : DelegationStore) : DelegationStore :=
  match after.get SOFTWARE_MASTER_KEY_LABEL with
  | some key => store.insert SOFTWARE_MASTER_KEY_LABEL key
  | none => store

section Storage
variable {keys : KeystoreApi}

def storeSealed (keystore : TpmSealedStore keys) (env : SealEnv keys) (keyLabel plaintext : List UInt8) : Start Unit := do
  let node ← get
  match keystore.storeSealed env node.delegation keyLabel plaintext with
  | none => fail .panicked
  | some (result, store) => do
    modify fun node => { node with delegation := withMasterKeyOf store node.delegation }
    modify fun node => { node with delegation := store }
    orAgentError result

def loadSealed (keystore : TpmSealedStore keys) (env : LoadEnv) (keyLabel : List UInt8) : Start (Option (List UInt8)) := do
  let node ← get
  match keystore.loadSealed env node.delegation keyLabel with
  | none => fail .panicked
  | some (result, store) => do
    modify fun node => { node with delegation := store }
    orAgentError result

def KEY_SEALING_KEY_BLOB : List UInt8 := utf8 "sealing_key_blob"

def KEY_SVID_PRIVATE_KEY : List UInt8 := utf8 "svid_private_key"

/-- What a `generate_and_store_sealing_key` meets: the keypair that is generated, private half first. -/
structure SealingKeyEnv (keys : KeystoreApi) where
  keypair : Bytes 32 × Bytes 32
  store : SealEnv keys

/-- Generate the X25519 sealing keypair and seal its private half; the public half is returned. -/
def generateAndStoreSealingKey (keystore : TpmSealedStore keys) (env : SealingKeyEnv keys) : Start (Bytes 32) := do
  storeSealed keystore env.store KEY_SEALING_KEY_BLOB env.keypair.1.toList
  return env.keypair.2

def loadSvid (codec : Svid.ChainCodec) (faults : KeyspaceFaults) : Start Svid.SvidState := do
  let node ← get
  orAgentError (Svid.load codec faults node.svid)

def insertSvid (faults : KeyspaceFaults) (key value : List UInt8) : Start Unit := do
  let node ← get
  match insertKey faults node.svid key value with
  | (.error e, _) => fail (.failed (.agent e))
  | (.ok (), svid) => modify fun node => { node with svid := svid }

/-- `svid::store`, insert by insert. -/
def storeSvid (codec : Svid.ChainCodec) (faults : KeyspaceFaults) (certChainDer : List (List UInt8))
    (svidVersion currentGeneration : UInt64) : Start Unit := do
  let generation := currentGeneration + 1
  let certBytes ← orAgentError ((codec.encode certChainDer).mapError .serialization)
  insertSvid faults Svid.KEY_CERT_CHAIN certBytes
  insertSvid faults Svid.KEY_VERSION (toLeBytes svidVersion)
  insertSvid faults Svid.KEY_GENERATION (toLeBytes generation)
  insertSvid faults Svid.KEY_INSTALLED [1]

end Storage

/-! ### Calls of control -/

/-- Connecting a channel with a configuration. -/
abbrev Connect := TlsConfig → Except StartError Unit

/-- One turn of a loop: what the call is answered, and whether a new channel can be built if it is redirected. -/
structure Attempt (Resp : Type) where
  reply : Except Status Resp
  connect : Connect := fun _ => .ok ()

/-- Where the clients of a join are connected, and the redirects that it has followed so far, in all its loops. -/
structure Link where
  target : String
  redirectHops : Nat := 0

section Calls
variable {Resp : Type} (wrap : Resp → JoinReply) (trustBundlePem name : String) (request : JoinRequest)

def NodeState.sent (node : NodeState) (exchange : Exchange) : NodeState :=
  { node with exchanges := node.exchanges ++ [exchange] }

def record (exchange : Exchange) : Start Unit := modify (·.sent exchange)

/-- A loop of the join: it calls until there is a response, follows redirects and waits, and gives up on other errors.
    There is no limit to how often it calls the same target. -/
def callLoop : List (Attempt Resp) → Link → Start (Resp × Link)
  | [], link => do
    record ⟨link.target, request, none⟩
    fail .waiting
  | attempt :: attempts, link => do
    record ⟨link.target, request, some (attempt.reply.map wrap)⟩
    match attempt.reply with
    | .ok resp => return (resp, link)
    | .error status =>
      match classifyError status link.redirectHops with
      | .redirectAndRetry newTarget _ => do
        orFailed (attempt.connect (serverTrustConfig newTarget trustBundlePem))
        callLoop attempts ⟨newTarget, link.redirectHops + 1⟩
      | .retrySameTarget _ => callLoop attempts link
      | .giveUp reason => fail (.failed (.joinFailed s!"{name} failed: {reason}"))

end Calls

/-- `get_trust_bundle`, which is called once. -/
def getTrustBundle (api : JoinApi) (reply : Option (Except Status Unit)) (link : Link) : Start Unit := do
  record ⟨link.target, .getTrustBundle, reply.map (·.map fun _ => .trustBundle)⟩
  match reply with
  | none => fail .waiting
  | some (.ok _) => pure ()
  | some (.error status) => fail (.failed (.joinFailed s!"GetTrustBundle failed: {api.displayStatus status}"))

/-! ### The flows -/

structure TpmQuote (api : JoinApi) where
  quote : List UInt8
  signature : List UInt8
  pcrValues : api.PcrValues

/-- What the `TpmContextManager` does during a secure join. -/
structure TpmEnv (api : JoinApi) where
  new : Except String Unit
  /-- The public parts of the AK and the EK. -/
  beginAttestation : Except String (List UInt8 × List UInt8)
  readEkCert : Except String (Option (List UInt8))
  /-- Credential blob, encrypted secret. -/
  activate : List UInt8 → List UInt8 → Except String (List UInt8)
  /-- Nonce, PCR indices. -/
  quote : List UInt8 → List UInt8 → Except String (TpmQuote api)
  finishAttestation : Except String Unit

/-- What the surroundings do during one join. The loops of the mode that is not configured are not read. -/
structure JoinEnv (keys : KeystoreApi) (api : JoinApi) where
  sealingKey : SealingKeyEnv keys
  tpm : TpmEnv api
  readToString : String → Except String String
  connect : Connect
  requestNonce : List (Attempt (List UInt8)) := []
  submitQuote : List (Attempt Unit) := []
  requestActivation : List (Attempt ActivationChallenge) := []
  /-- `rcgen::KeyPair::generate`. -/
  generate : Except String api.KeyPair
  svidKey : SealEnv keys
  /-- The replies to SubmitCsr or SubmitActivationProof. -/
  submitCsr : List (Attempt SvidResponse) := []
  loadFaults : KeyspaceFaults := {}
  storeFaults : KeyspaceFaults := {}
  getTrustBundle : Option (Except Status Unit) := none

section Flows
variable {keys : KeystoreApi} {api : JoinApi} (cfg : JoinConfig keys) (env : JoinEnv keys api)

/-- Read the trust bundle of the join and connect to control. -/
def connectToControl : Start (String × Link) := do
  let trustBundlePath := cfg.trustBundlePath.getD cfg.controlTrustBundlePath
  let trustBundlePem ← orFailed ((env.readToString trustBundlePath).mapError fun e =>
    .config s!"failed to read trust bundle: {e}")
  orFailed (env.connect (serverTrustConfig cfg.controlAddress trustBundlePem))
  return (trustBundlePem, { target := cfg.controlAddress })

/-- Generate the keypair of the SVID, seal it and build the CSR for it. -/
def generateSvidKey (sealedStore : TpmSealedStore keys) : Start (List UInt8) := do
  let svidKeypair ← orAttestation "rcgen keygen" env.generate
  storeSealed sealedStore env.svidKey KEY_SVID_PRIVATE_KEY (api.serializeDer svidKeypair)
  orAttestation "build_csr" (api.buildCsr (cfg.nodeSpiffeId api) svidKeypair)

/-- Install the SVID; the generation that is bumped is the one in the storage. -/
def installSvid (svidResp : SvidResponse) : Start Unit := do
  let current ← loadSvid api.codec env.loadFaults
  storeSvid api.codec env.storeFaults [svidResp.certChainDer] svidResp.svidVersion current.generation

def insecureQuote (nonce : List UInt8) (sealingPubkey : Bytes 32) : AttestationQuote where
  rawQuote := nonce
  rawSignature := []
  joinToken := cfg.token
  agentX25519Pubkey := sealingPubkey.toList

def performInsecureJoin (production : Bool) : Start Unit := do
  if production then fail (.failed (.joinFailed "insecure join mode is compiled out of production builds"))
  else do
    let sealedStore : TpmSealedStore keys := ⟨none⟩
    let sealingPubkey ← generateAndStoreSealingKey sealedStore env.sealingKey
    let (trustBundlePem, link) ← connectToControl cfg env
    let (nonce, link) ← callLoop .nonce trustBundlePem "RequestNonce"
      (.requestNonce (api.spiffe.display (cfg.nodeSpiffeId api)))
      env.requestNonce link
    let (_, link) ← callLoop (fun _ => .attested) trustBundlePem "SubmitQuote"
      (.submitQuote (insecureQuote cfg nonce sealingPubkey))
      env.submitQuote link
    let csrDer ← generateSvidKey cfg env sealedStore
    -- A redirect rebuilds only the client that is still used.
    let (svidResp, link) ← callLoop .svid trustBundlePem "SubmitCsr" (.submitCsr csrDer) env.submitCsr link
    installSvid env svidResp
    getTrustBundle api env.getTrustBundle link

/-- Activate the credential of a challenge, and quote its nonce. -/
def answerChallenge (challenge : ActivationChallenge) : Start (List UInt8 × TpmQuote api) := do
  let secretBytes ← orAttestation "activate" (env.tpm.activate challenge.credentialBlob challenge.secret)
  match asArray 32 secretBytes with
  | none => fail (.failed (.agent (.attestation "secret is not 32 bytes")))
  | some secret => do
    let hmac := api.computeActivationProof secret challenge.serverNonce
    let quoteOut ← orAttestation "quote" (env.tpm.quote challenge.serverNonce cfg.pcrIndices)
    return (hmac, quoteOut)

def performSecureJoin : Start Unit := do
  let sealedStore : TpmSealedStore keys := ⟨some cfg.tpmEndpoint⟩
  let sealingPubkey ← generateAndStoreSealingKey sealedStore env.sealingKey
  orAttestation "TPM context manager init" env.tpm.new
  let (akPub, ekPub) ← orAttestation "TPM attestation session" env.tpm.beginAttestation
  let ekCert ← orAttestation "read EK cert" env.tpm.readEkCert
  let (trustBundlePem, link) ← connectToControl cfg env
  let (challenge, link) ← callLoop .challenge trustBundlePem "RequestActivation"
    (.requestActivation ⟨akPub, ekCert.getD [], ekPub⟩) env.requestActivation link
  let (hmac, quoteOut) ← answerChallenge cfg env challenge
  let csrDer ← generateSvidKey cfg env sealedStore
  -- The loop encodes the PCR values again at every turn.
  let pcrSelection ← orAgentError ((api.encodePcrValues quoteOut.pcrValues).mapError .serialization)
  let (svidResp, link) ← callLoop .svid trustBundlePem "SubmitActivationProof"
    (.submitActivationProof ⟨hmac, quoteOut.quote, quoteOut.signature, pcrSelection, csrDer, sealingPubkey.toList⟩)
    env.submitCsr link
  installSvid env svidResp
  getTrustBundle api env.getTrustBundle link
  orAttestation "finish attestation" env.tpm.finishAttestation

def performJoin (production : Bool) : Start Unit :=
  match cfg.mode with
  | .secure => performSecureJoin cfg env
  | .insecure => performInsecureJoin cfg env production

end Flows

/-! ### A start of the agent -/

/-- What the surroundings do from the opening of the storage to the first channel. -/
structure StartEnv (keys : KeystoreApi) (api : JoinApi) where
  load : KeyspaceFaults := {}
  sealingKey : SealingKeyEnv keys
  join : JoinEnv keys api
  reload : KeyspaceFaults := {}
  readToString : String → Except String String
  loadKey : LoadEnv
  connect : Connect

section Main
variable {keys : KeystoreApi} {api : JoinApi} (cfg : JoinConfig keys) (production : Bool) (env : StartEnv keys api)

def isNone (state : Svid.SvidState) : Bool := state.certChainDer.isEmpty

/-- Phase 4 of `main`: load the SVID, or join. -/
def svidPhase : Start Svid.SvidState := do
  let svidState ← loadSvid api.codec env.load
  if isNone svidState then do
    -- The join makes another keypair, which replaces this one.
    let _ ← generateAndStoreSealingKey ⟨cfg.sealingEndpoint⟩ env.sealingKey
    performJoin cfg env.join production
    loadSvid api.codec env.reload
  else pure svidState

/-- Phases 3 to 5 of `main`, to where the mTLS channel to control is established. -/
def start : Start TlsConfig := do
  let svidState ← svidPhase cfg production env
  let trustBundlePem ← orFailed ((env.readToString cfg.controlTrustBundlePath).mapError fun e =>
    .config s!"failed to read trust bundle: {e}")
  match ← loadSealed ⟨cfg.sealingEndpoint⟩ env.loadKey KEY_SVID_PRIVATE_KEY with
  | none => fail (.failed (.agent (.identity "SVID private key not found in keystore")))
  | some privateKeyDer => do
    let tls := mtlsConfig api.base64 cfg.controlAddress trustBundlePem svidState.certChainDer privateKeyDer
    orFailed (env.connect tls)
    return tls

/-- One start of the agent on a node, and after how many writes it is killed, if it is before it halts. -/
structure Boot (keys : KeystoreApi) (api : JoinApi) where
  env : StartEnv keys api
  killedAfter : Option Nat := none

/-- The node after a start. -/
def boot (node : NodeState) (b : Boot keys api) : NodeState :=
  let outcome := start cfg production b.env node
  match b.killedAfter with
  | none => outcome.final
  | some writes => ((node :: outcome.passed)[writes]?).getD outcome.final

/-- The node after a history of starts. -/
def booted (history : List (Boot keys api)) : NodeState := history.foldl (boot cfg production) {}

end Main

end FleetosAgent.Join
