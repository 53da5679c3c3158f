import FleetosAgent.Lib.Checked
import FleetosAgent.Secret.Deliver

/-! # Sealed keys

`identity/keystore.rs` (Ruling G): sensitive keys in the `delegation` keyspace, sealed by the TPM, or in software where
there is no TPM or its seal fails. The first byte of a value says how it was sealed; a payload that the TPM cannot seal
whole is encrypted with a key that the TPM seals. A panic of a slice is `none`. -/

namespace FleetosAgent.Identity
open Lib Secret

/-- The TPM functions, `postcard`, ChaCha20Poly1305 and X25519 sealing that the store calls. -/
structure KeystoreApi extends SealingApi where
  TpmEndpoint : Type
  SealedBlob : Type
  unsealBlob : TpmEndpoint → SealedBlob → Except String (List UInt8)
  encodeBlob : SealedBlob → Except String (List UInt8)
  decodeBlob : List UInt8 → Except String SealedBlob
  encodeSecret : CoreSealedSecret → Except String (List UInt8)
  decodeSecret : List UInt8 → Except String CoreSealedSecret
  /-- Key, nonce, message, AAD. -/
  encrypt : Bytes 32 → Bytes 12 → List UInt8 → List UInt8 → Except String (List UInt8)
  decrypt : Bytes 32 → Bytes 12 → List UInt8 → List UInt8 → Except String (List UInt8)

/-- The `delegation` keyspace of the storage. -/
abbrev DelegationStore := FinMap (List UInt8) (List UInt8)

/-- How the storage fails during one call: by key, and by key and value. -/
structure KeyspaceFaults where
  get : List UInt8 → Option String := fun _ => none
  insert : List UInt8 → List UInt8 → Option String := fun _ _ => none

/-- What a `store_sealed` meets: the TPM, the random bytes and the storage. -/
structure SealEnv (api : KeystoreApi) where
  sealToPcr : api.TpmEndpoint → List UInt8 → List UInt8 → Except String api.SealedBlob
  dek : Bytes 32
  nonce : Bytes 12
  /-- `generate_sealing_keypair`: private, public. -/
  keypair : Bytes 32 × Bytes 32
  /-- `crypto::seal`: recipient, plaintext, SVID version, sequence. -/
  sealSecret : Bytes 32 → List UInt8 → UInt64 → UInt64 → Except String CoreSealedSecret
  faults : KeyspaceFaults := {}

structure LoadEnv where
  keypair : Bytes 32 × Bytes 32
  faults : KeyspaceFaults := {}

def DEFAULT_SEAL_PCRS : List UInt8 := [0, 7, 9]

def SOFTWARE_MASTER_KEY_LABEL : List UInt8 := utf8 "software_master_key"

def SEAL_PREFIX_TPM : UInt8 := 0x01

def SEAL_PREFIX_SOFTWARE : UInt8 := 0x02

def SEAL_PREFIX_TPM_ENVELOPE : UInt8 := 0x03

def TPM_SEAL_MAX_BYTES : Nat := 64

/-- `TpmSealedStore`: without an endpoint it seals in software only. -/
structure TpmSealedStore (api : KeystoreApi) where
  endpoint : Option api.TpmEndpoint

/-- `storage.delegation.insert`. -/
def insertKey (faults : KeyspaceFaults) (store : DelegationStore) (key value : List UInt8) :
    Except AgentError Unit × DelegationStore :=
  match faults.insert key value with
  | some e => (.error (.storage e), store)
  | none => (.ok (), store.insert key value)

/-! ### Software sealing -/

def createSoftwareMasterKey (faults : KeyspaceFaults) (keypair : Bytes 32 × Bytes 32) (store : DelegationStore) :
    Except AgentError (Bytes 32 × Bytes 32) × DelegationStore :=
  match insertKey faults store SOFTWARE_MASTER_KEY_LABEL (keypair.1.toList ++ keypair.2.toList) with
  | (.error e, store) => (.error e, store)
  | (.ok (), store) => (.ok keypair, store)

/-- The master key that is stored, or else a new one. An entry of another length is replaced. -/
def getOrCreateSoftwareMasterKey (faults : KeyspaceFaults) (keypair : Bytes 32 × Bytes 32) (store : DelegationStore) :
    Option (Except AgentError (Bytes 32 × Bytes 32) × DelegationStore) :=
  match faults.get SOFTWARE_MASTER_KEY_LABEL with
  | some e => some (.error (.storage e), store)
  | none =>
    match store.get SOFTWARE_MASTER_KEY_LABEL with
    | none => some (createSoftwareMasterKey faults keypair store)
    | some keyBytes =>
      if keyBytes.length = 64 then do
        let privateKey ← asArray 32 (← slice keyBytes 0 32)
        let publicKey ← asArray 32 (← slice keyBytes 32 keyBytes.length)
        return (.ok (privateKey, publicKey), store)
      else some (createSoftwareMasterKey faults keypair store)

section Store
variable (api : KeystoreApi) (env : SealEnv api)

/-- Encrypt the plaintext with the software master public key. -/
def softwareSeal (store : DelegationStore) (keyLabel plaintext : List UInt8) :
    Option (Except AgentError Unit × DelegationStore) := do
  match ← getOrCreateSoftwareMasterKey env.faults env.keypair store with
  | (.error e, store) => return (.error e, store)
  | (.ok (_, publicKey), store) =>
    match env.sealSecret publicKey plaintext 0 1 with
    | .error e => return (.error (.secret s!"software seal failed: {e}"), store)
    | .ok secret =>
      match api.encodeSecret secret with
      | .error e => return (.error (.serialization e), store)
      | .ok sealedBytes => return insertKey env.faults store keyLabel (SEAL_PREFIX_SOFTWARE :: sealedBytes)

end Store

def softwareUnsealFromBytes (api : KeystoreApi) (env : LoadEnv) (store : DelegationStore) (sealedBytes : List UInt8) :
    Option (Except AgentError (Option (List UInt8)) × DelegationStore) := do
  match ← getOrCreateSoftwareMasterKey env.faults env.keypair store with
  | (.error e, store) => return (.error e, store)
  | (.ok (privateKey, _), store) =>
    match api.decodeSecret sealedBytes with
    | .error e => return (.error (.serialization e), store)
    | .ok secret =>
      match api.unsealSecret privateKey secret with
      | .error e => return (.error (.secret s!"software unseal failed: {e}"), store)
      | .ok plaintext => return (.ok (some plaintext), store)

/-! ### Envelopes -/

/-- `[prefix][u32_le(blob_len)][postcard(SealedBlob)][nonce][ciphertext]`; the length is cut to 32 bits. -/
def envelopeBytes (sealedBlobBytes : List UInt8) (nonce : Bytes 12) (ciphertext : List UInt8) : List UInt8 :=
  SEAL_PREFIX_TPM_ENVELOPE ::
    (leBytes 4 (sealedBlobBytes.length % 2 ^ 32) ++ sealedBlobBytes ++ nonce.toList ++ ciphertext)

/-- Seal a random key by the TPM, and the payload with that key; the label is the AAD. -/
def envelopeSeal (api : KeystoreApi) (env : SealEnv api) (endpoint : api.TpmEndpoint) (store : DelegationStore)
    (keyLabel plaintext : List UInt8) : Except AgentError Unit × DelegationStore :=
  match env.sealToPcr endpoint env.dek.toList DEFAULT_SEAL_PCRS with
  | .error e => (.error (.secret s!"envelope DEK sealing failed: {e}"), store)
  | .ok sealedDek =>
    match api.encrypt env.dek env.nonce plaintext keyLabel with
    | .error e => (.error (.secret s!"envelope encryption failed: {e}"), store)
    | .ok ciphertext =>
      match api.encodeBlob sealedDek with
      | .error e => (.error (.serialization e), store)
      | .ok sealedBlobBytes => insertKey env.faults store keyLabel (envelopeBytes sealedBlobBytes env.nonce ciphertext)

/-- The parts of an envelope, without its prefix byte: sealed blob, nonce, ciphertext. -/
def parseEnvelope (raw : List UInt8) : Option (Except AgentError (List UInt8 × Bytes 12 × List UInt8)) :=
  if raw.length < 4 then some (.error (.secret "envelope blob too short"))
  else do
    let lengthBytes ← slice raw 0 4
    if lengthBytes.length ≠ 4 then return .error (.secret "envelope blob: bad length prefix")
    else
      let blobLen := ofLeBytes lengthBytes
      let offset := 4
      if raw.length < offset + blobLen + 12 then return .error (.secret "envelope blob truncated")
      else
        let sealedBlobBytes ← slice raw offset (offset + blobLen)
        let nonceStart := offset + blobLen
        match asArray 12 (← slice raw nonceStart (nonceStart + 12)) with
        | none => return .error (.secret "envelope blob: bad nonce")
        | some nonce => do
          let ciphertext ← slice raw (nonceStart + 12) raw.length
          return .ok (sealedBlobBytes, nonce, ciphertext)

section Unseal
variable (api : KeystoreApi) (endpoint : api.TpmEndpoint) (keyLabel : List UInt8)

/-- Unseal the key by the TPM, and decrypt the payload with it; the AAD must match. -/
def openEnvelope (sealedBlobBytes : List UInt8) (nonce : Bytes 12) (ciphertext : List UInt8) :
    Except AgentError (List UInt8) :=
  match api.decodeBlob sealedBlobBytes with
  | .error e => .error (.serialization e)
  | .ok sealedDek =>
    match api.unsealBlob endpoint sealedDek with
    | .error e => .error (.secret s!"envelope DEK unseal failed: {e}")
    | .ok dek =>
      match key32 dek with
      | .error _ => .error (.secret "envelope cipher init failed: Invalid Length")
      | .ok key =>
        match api.decrypt key nonce ciphertext keyLabel with
        | .error _ => .error (.secret "envelope decryption failed (wrong key_label or corrupted blob)")
        | .ok plaintext => .ok plaintext

def envelopeUnseal (raw : List UInt8) : Option (Except AgentError (List UInt8)) := do
  match ← parseEnvelope raw with
  | .error e => return .error e
  | .ok (sealedBlobBytes, nonce, ciphertext) => return openEnvelope api endpoint keyLabel sealedBlobBytes nonce ciphertext

/-- A blob that the TPM sealed whole. -/
def tpmUnseal (raw : List UInt8) : Except AgentError (List UInt8) :=
  match api.decodeBlob raw with
  | .error e => .error (.serialization e)
  | .ok sealed =>
    match api.unsealBlob endpoint sealed with
    | .error e => .error (.secret s!"TPM unseal failed: {e}")
    | .ok plaintext => .ok plaintext

end Unseal

/-! ### The store -/

namespace TpmSealedStore
variable {api : KeystoreApi} (self : TpmSealedStore api)

def storeSealed (env : SealEnv api) (store : DelegationStore) (keyLabel plaintext : List UInt8) :
    Option (Except AgentError Unit × DelegationStore) :=
  match self.endpoint with
  | none => softwareSeal api env store keyLabel plaintext
  | some endpoint =>
    if TPM_SEAL_MAX_BYTES < plaintext.length then
      match envelopeSeal api env endpoint store keyLabel plaintext with
      | (.ok (), store) => some (.ok (), store)
      -- Ruling G degraded: fall back to software sealing.
      | (.error _, store) => softwareSeal api env store keyLabel plaintext
    else
      match env.sealToPcr endpoint plaintext DEFAULT_SEAL_PCRS with
      | .error _ => softwareSeal api env store keyLabel plaintext
      | .ok blob =>
        match api.encodeBlob blob with
        | .error e => some (.error (.serialization e), store)
        | .ok blobBytes => some (insertKey env.faults store keyLabel (SEAL_PREFIX_TPM :: blobBytes))

/-- Unseal a value that is not empty, by its first byte. -/
def unsealRaw (env : LoadEnv) (store : DelegationStore) (keyLabel raw : List UInt8) :
    Option (Except AgentError (Option (List UInt8)) × DelegationStore) := do
  let first ← raw[0]?
  let rest ← slice raw 1 raw.length
  if first = SEAL_PREFIX_TPM then
    match self.endpoint with
    | none => return (.error (.secret "cannot unseal TPM blob without a TPM endpoint"), store)
    | some endpoint => return ((tpmUnseal api endpoint rest).map some, store)
  else if first = SEAL_PREFIX_TPM_ENVELOPE then
    match self.endpoint with
    | none => return (.error (.secret "cannot unseal TPM envelope blob without a TPM endpoint"), store)
    | some endpoint => return ((← envelopeUnseal api endpoint keyLabel rest).map some, store)
  else if first = SEAL_PREFIX_SOFTWARE then softwareUnsealFromBytes api env store rest
  else return (.error (.secret "unknown seal prefix"), store)

def loadSealed (env : LoadEnv) (store : DelegationStore) (keyLabel : List UInt8) :
    Option (Except AgentError (Option (List UInt8)) × DelegationStore) :=
  match env.faults.get keyLabel with
  | some e => some (.error (.storage e), store)
  | none =>
    match store.get keyLabel with
    | none => some (.ok none, store)
    | some raw => if raw = [] then some (.ok none, store) else self.unsealRaw env store keyLabel raw

end TpmSealedStore

/-! ### Sequences of calls -/

inductive SealedCall (api : KeystoreApi) where
  | store (keyLabel plaintext : List UInt8) (env : SealEnv api)
  | load (keyLabel : List UInt8) (env : LoadEnv)

inductive SealedAnswer where
  | stored (result : Except AgentError Unit)
  | loaded (result : Except AgentError (Option (List UInt8)))

namespace TpmSealedStore
variable {api : KeystoreApi} (self : TpmSealedStore api)

def call (store : DelegationStore) : SealedCall api → Option (SealedAnswer × DelegationStore)
  | .store keyLabel plaintext env => do
    let (result, store) ← self.storeSealed env store keyLabel plaintext
    return (.stored result, store)
  | .load keyLabel env => do
    let (result, store) ← self.loadSealed env store keyLabel
    return (.loaded result, store)

/-- The answers of a sequence of calls, and the keyspace after it. -/
def run (store : DelegationStore) : List (SealedCall api) → Option (List SealedAnswer × DelegationStore)
  | [] => some ([], store)
  | call :: calls => do
    let (answer, store) ← self.call store call
    let (answers, store) ← run store calls
    return (answer :: answers, store)

end TpmSealedStore

end FleetosAgent.Identity
