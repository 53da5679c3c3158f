import FleetosAgent.Identity.Sequences
import FleetosAgent.Spiffe

/-! # Secret delivery

`secret/deliver.rs` and `SecretsHandler` of `wiring.rs`: a rotation fetches a sealed secret, checks its sequence, unseals
it with the node's key and writes the plaintext to the file of the workload. -/

namespace FleetosAgent.Secret
open Lib Identity

/-! ### The pipeline -/

/-- The `SealedSecret` message. -/
structure ProtoSealedSecret where
  targetSpiffeId : String
  sealedForSvidVersion : UInt64
  sequence : UInt64
  ephemeralPubkey : List UInt8
  ciphertext : List UInt8
  deriving DecidableEq

/-- `fleetos_core::crypto::SealedSecret`: it does not know for whom it is. -/
structure CoreSealedSecret where
  sealedForSvidVersion : UInt64
  sequence : UInt64
  ephemeralPubkey : Bytes 32
  ciphertext : List UInt8
  deriving DecidableEq

/-- `fleetos_core::crypto`: its `unseal`. -/
structure SealingApi where
  unsealSecret : Bytes 32 → CoreSealedSecret → Except String (List UInt8)

/-- A key of 32 bytes out of a slice, or its length. -/
def key32 (bytes : List UInt8) : Except Nat (Bytes 32) :=
  if h : bytes.length = 32 then .ok ⟨bytes.toArray, by simpa using h⟩ else .error bytes.length

def protoToCore (proto : ProtoSealedSecret) : Except AgentError CoreSealedSecret :=
  match key32 proto.ephemeralPubkey with
  | .error got => .error (.secret s!"ephemeral_pubkey must be 32 bytes, got {got}")
  | .ok ephemeralPubkey => .ok {
      sealedForSvidVersion := proto.sealedForSvidVersion
      sequence := proto.sequence
      ephemeralPubkey := ephemeralPubkey
      ciphertext := proto.ciphertext }

section Pipeline
variable (crypto : SealingApi)

/-- Replay check, conversion, unseal. The sequence is recorded before the secret is known to open. -/
def deliverSecret (env : StorageEnv) (store : SequenceStore) (proto : ProtoSealedSecret) (privateKey : Bytes 32) :
    Except AgentError (List UInt8) × SequenceStore :=
  match checkAndRecord env store proto.targetSpiffeId proto.sealedForSvidVersion proto.sequence with
  | (.error e, store) => (.error e, store)
  | (.ok false, store) =>
    (.error (.secret (s!"secret rejected: sequence {proto.sequence} is not newer for target {proto.targetSpiffeId} " ++
      s!"(svid_version={proto.sealedForSvidVersion})")), store)
  | (.ok true, store) =>
    match protoToCore proto with
    | .error e => (.error e, store)
    | .ok core =>
      match crypto.unsealSecret privateKey core with
      | .error e => (.error (.secret s!"unseal failed: {e}"), store)
      | .ok plaintext => (.ok plaintext, store)

/-- One call of `deliver_secret`. -/
structure Delivery where
  proto : ProtoSealedSecret
  privateKey : Bytes 32
  storage : StorageEnv := {}

def deliveryAnswer (store : SequenceStore) (call : Delivery) : Except AgentError (List UInt8) :=
  (deliverSecret crypto call.storage store call.proto call.privateKey).1

def deliveryStep (store : SequenceStore) (call : Delivery) : SequenceStore :=
  (deliverSecret crypto call.storage store call.proto call.privateKey).2

end Pipeline

/-! ### `SecretsHandler` -/

structure FetchSecretRequest where
  targetSpiffeId : String
  sealedForSvidVersion : UInt64

/-- What the surroundings do during one rotation. -/
structure RotationEnv where
  /-- `unary::fetch_secret`: whatever control answers in the end. -/
  fetch : FetchSecretRequest → Except AgentError ProtoSealedSecret
  /-- `load_sealing_secret`. -/
  sealingSecret : Except AgentError (Option (List UInt8))
  storage : StorageEnv := {}
  createDir : Option String := none
  /-- A failed write may leave anything in the file. -/
  write : Option (String × List UInt8) := none

structure SecretsWorld where
  sequences : SequenceStore := ∅
  files : FinMap String (List UInt8) := ∅
  /-- The secrets in memory. -/
  secrets : FinMap String (List UInt8) := ∅

/-- `spiffe_id.replace(['/', ':'], "_")`. -/
def safeName (spiffeId : String) : String := spiffeId.map fun ch => if ch = '/' ∨ ch = ':' then '_' else ch

def secretPath (spiffeId : String) : String := "/run/fleetos/secrets/" ++ safeName spiffeId

section Handler
variable (api : SpiffeApi) (crypto : SealingApi)

/-- `SecretsHandler::unseal`. -/
def unsealWithNodeKey (env : RotationEnv) (store : SequenceStore) (proto : ProtoSealedSecret) :
    Except AgentError (List UInt8) × SequenceStore :=
  match env.sealingSecret with
  | .error e => (.error e, store)
  | .ok none => (.error (.secret "node sealing private key missing"), store)
  | .ok (some bytes) =>
    match key32 bytes with
    | .error got => (.error (.secret s!"node sealing key must be 32 bytes (X25519), got {got}"), store)
    | .ok key => deliverSecret crypto env.storage store proto key

/-- `SecretsHandler::deliver`: the file is that of the id the rotation is for. -/
def deliver (env : RotationEnv) (files : FinMap String (List UInt8)) (spiffeId : String) (plaintext : List UInt8) :
    Except AgentError Unit × FinMap String (List UInt8) :=
  match api.parse spiffeId with
  | .error e => (.error (.secret s!"invalid SPIFFE ID for delivery: {e}"), files)
  | .ok _ =>
    match env.createDir, env.write with
    | some e, _ => (.error (.io e), files)
    | none, some (e, left) => (.error (.io e), files.insert (secretPath spiffeId) left)
    | none, none => (.ok (), files.insert (secretPath spiffeId) plaintext)

/-- `SecretsHandler::handle_rotation`. -/
def handleRotation (w : SecretsWorld) (spiffeId : String) (svidVersion : UInt64) (env : RotationEnv) :
    Except AgentError Unit × SecretsWorld :=
  match env.fetch ⟨spiffeId, svidVersion⟩ with
  | .error e => (.error e, w)
  | .ok proto =>
    match unsealWithNodeKey crypto env w.sequences proto with
    | (.error e, sequences) => (.error e, { w with sequences := sequences })
    | (.ok plaintext, sequences) =>
      match deliver api env w.files spiffeId plaintext with
      | (.error e, files) => (.error e, { w with sequences := sequences, files := files })
      | (.ok _, files) => (.ok (), ⟨sequences, files, w.secrets.insert spiffeId plaintext⟩)

structure RotationCall where
  spiffeId : String
  svidVersion : UInt64
  env : RotationEnv

def rotationStep (w : SecretsWorld) (call : RotationCall) : SecretsWorld :=
  (handleRotation api crypto w call.spiffeId call.svidVersion call.env).2

end Handler

end FleetosAgent.Secret
