import FleetosAgent.Identity.Keystore

/-! # The sealed store gives back what was stored

Each way of sealing writes a value from which the matching way of unsealing gets the plaintext back; the software one
needs the master key, which is made once and never changes. So the keyspace represents a map from labels to plaintexts,
whatever mix of formats the history has left in it. -/

namespace FleetosAgent.Identity
open Lib Secret

/-! ### No slice is out of range -/

theorem getOrCreateSoftwareMasterKey_returns (faults : KeyspaceFaults) (keypair : Bytes 32 × Bytes 32)
    (store : DelegationStore) :
    ∃ answer, getOrCreateSoftwareMasterKey faults keypair store = some answer := by
  unfold getOrCreateSoftwareMasterKey
  split
  · exact ⟨_, rfl⟩
  · split
    · exact ⟨_, rfl⟩
    · next keyBytes _ =>
      split
      · next hlength =>
        obtain ⟨front, hfront, hfrontLength⟩ := slice_of_le (l := keyBytes) (i := 0) (j := 32) (by omega) (by omega)
        obtain ⟨back, hback, hbackLength⟩ := slice_of_le (l := keyBytes) (i := 32) (by omega) le_rfl
        obtain ⟨privateKey, hprivate⟩ := asArray_of_length hfrontLength
        obtain ⟨publicKey, hpublic⟩ := asArray_of_length (hbackLength.trans (by rw [hlength]))
        refine ⟨(.ok (privateKey, publicKey), store), ?_⟩
        rw [hfront, hback, Option.bind_eq_bind, Option.bind_some, hprivate]
        simp [hpublic]
      · exact ⟨_, rfl⟩

theorem parseEnvelope_returns (raw : List UInt8) : ∃ answer, parseEnvelope raw = some answer := by
  unfold parseEnvelope
  split
  · exact ⟨_, rfl⟩
  · next hshort =>
    obtain ⟨lengthBytes, hlengthBytes, hfour⟩ := slice_of_le (l := raw) (i := 0) (j := 4) (by omega) (by omega)
    simp only [hlengthBytes, Option.bind_eq_bind, Option.bind_some]
    rw [if_neg (by omega)]
    split
    · exact ⟨_, rfl⟩
    · next htruncated =>
      obtain ⟨blob, hblob, -⟩ := slice_of_le (l := raw) (i := 4) (j := 4 + ofLeBytes lengthBytes) (by omega) (by omega)
      obtain ⟨nonceBytes, hnonceBytes, htwelve⟩ :=
        slice_of_le (l := raw) (i := 4 + ofLeBytes lengthBytes) (j := 4 + ofLeBytes lengthBytes + 12) (by omega) (by omega)
      obtain ⟨ciphertext, hciphertext, -⟩ :=
        slice_of_le (l := raw) (i := 4 + ofLeBytes lengthBytes + 12) (by omega) le_rfl
      obtain ⟨nonce, hnonce⟩ := asArray_of_length (htwelve.trans (Nat.add_sub_cancel_left ..))
      refine ⟨.ok (blob, nonce, ciphertext), ?_⟩
      simp [hblob, hnonceBytes, hnonce, hciphertext]

theorem envelopeUnseal_returns {api : KeystoreApi} (endpoint : api.TpmEndpoint) (keyLabel raw : List UInt8) :
    ∃ answer, envelopeUnseal api endpoint keyLabel raw = some answer := by
  obtain ⟨parsed, hparsed⟩ := parseEnvelope_returns raw
  rw [envelopeUnseal, hparsed]
  cases parsed <;> exact ⟨_, rfl⟩

theorem softwareUnsealFromBytes_returns (api : KeystoreApi) (env : LoadEnv) (store : DelegationStore)
    (sealedBytes : List UInt8) :
    ∃ answer key store', softwareUnsealFromBytes api env store sealedBytes = some (answer, store') ∧
      getOrCreateSoftwareMasterKey env.faults env.keypair store = some (key, store') := by
  obtain ⟨⟨key, store'⟩, hkey⟩ := getOrCreateSoftwareMasterKey_returns env.faults env.keypair store
  rw [softwareUnsealFromBytes, hkey, Option.bind_eq_bind, Option.bind_some]
  cases key with
  | error e => exact ⟨_, _, store', rfl, rfl⟩
  | ok pair =>
    dsimp only
    cases api.decodeSecret sealedBytes with
    | error e => exact ⟨_, _, store', rfl, rfl⟩
    | ok secret =>
      dsimp only
      cases api.unsealSecret pair.1 secret <;> exact ⟨_, _, store', rfl, rfl⟩

theorem unsealRaw_cons {api : KeystoreApi} (keystore : TpmSealedStore api) (env : LoadEnv) (store : DelegationStore)
    (keyLabel : List UInt8) (first : UInt8) (rest : List UInt8) : keystore.unsealRaw env store keyLabel (first :: rest) =
      if first = SEAL_PREFIX_TPM then
        match keystore.endpoint with
        | none => some (.error (.secret "cannot unseal TPM blob without a TPM endpoint"), store)
        | some endpoint => some ((tpmUnseal api endpoint rest).map some, store)
      else if first = SEAL_PREFIX_TPM_ENVELOPE then
        match keystore.endpoint with
        | none => some (.error (.secret "cannot unseal TPM envelope blob without a TPM endpoint"), store)
        | some endpoint => (envelopeUnseal api endpoint keyLabel rest).map fun answer => (answer.map some, store)
      else if first = SEAL_PREFIX_SOFTWARE then softwareUnsealFromBytes api env store rest
      else some (.error (.secret "unknown seal prefix"), store) := by
  have whole : slice (first :: rest) 1 (first :: rest).length = some rest := by simp [slice]
  simp only [TpmSealedStore.unsealRaw, List.getElem?_cons_zero, whole, Option.bind_eq_bind, Option.bind_some]
  split
  · rfl
  · split
    · cases keystore.endpoint with
      | none => rfl
      | some endpoint => exact Option.map_eq_bind.symm
    · rfl

/-- Whatever is stored under the label, `load_sealed` returns; and it changes nothing, or makes the master key. -/
theorem loadSealed_returns {api : KeystoreApi} (keystore : TpmSealedStore api) (env : LoadEnv) (store : DelegationStore)
    (keyLabel : List UInt8) : ∃ answer store', keystore.loadSealed env store keyLabel = some (answer, store') ∧
      (store' = store ∨ ∃ key, getOrCreateSoftwareMasterKey env.faults env.keypair store = some (key, store')) := by
  unfold TpmSealedStore.loadSealed
  split
  · exact ⟨_, store, rfl, Or.inl rfl⟩
  · split
    · exact ⟨_, store, rfl, Or.inl rfl⟩
    · next raw _ =>
      split
      · exact ⟨_, store, rfl, Or.inl rfl⟩
      · next hne =>
        obtain ⟨first, rest, rfl⟩ := List.exists_cons_of_ne_nil hne
        rw [unsealRaw_cons]
        split
        · split <;> exact ⟨_, store, rfl, Or.inl rfl⟩
        · split
          · split
            · exact ⟨_, store, rfl, Or.inl rfl⟩
            · next endpoint _ =>
              obtain ⟨answer, hanswer⟩ := envelopeUnseal_returns endpoint keyLabel rest
              exact ⟨answer.map some, store, by rw [hanswer]; rfl, Or.inl rfl⟩
          · split
            · obtain ⟨answer, key, store', hanswer, hkey⟩ := softwareUnsealFromBytes_returns api env store rest
              exact ⟨answer, store', hanswer, Or.inr ⟨key, hkey⟩⟩
            · exact ⟨_, store, rfl, Or.inl rfl⟩

/-! ### What a value holds -/

/-- The assumptions on what the store calls: what was encoded or encrypted comes back, and nothing is decrypted under
    another AAD. The sizes in TPM structures have 16 bits, so an encoded blob is far from 4 GiB. -/
structure LawfulKeystoreApi extends KeystoreApi where
  /-- The public half of an X25519 key. -/
  publicOf : Bytes 32 → Bytes 32
  decode_encodeBlob : ∀ blob bytes, encodeBlob blob = .ok bytes → decodeBlob bytes = .ok blob
  encodeBlob_length : ∀ blob bytes, encodeBlob blob = .ok bytes → bytes.length < 2 ^ 32
  decode_encodeSecret : ∀ secret bytes, encodeSecret secret = .ok bytes → decodeSecret bytes = .ok secret
  decrypt_encrypt : ∀ key nonce message aad ciphertext, encrypt key nonce message aad = .ok ciphertext →
    decrypt key nonce ciphertext aad = .ok message
  decrypt_otherAad : ∀ key nonce message aad ciphertext, encrypt key nonce message aad = .ok ciphertext →
    ∀ aad', aad' ≠ aad → ∃ e, decrypt key nonce ciphertext aad' = .error e

section
variable {api : LawfulKeystoreApi} {keystore : TpmSealedStore api.toKeystoreApi} {store store' : DelegationStore}
  {contents : FinMap (List UInt8) (List UInt8)} {master master' : Option (Bytes 32)} {keyLabel plaintext raw : List UInt8}

/-- What the TPM and X25519 have sealed in this call can be unsealed. -/
structure SealEnv.Faithful (env : SealEnv api.toKeystoreApi) : Prop where
  tpm : ∀ endpoint data pcrs blob, env.sealToPcr endpoint data pcrs = .ok blob → api.unsealBlob endpoint blob = .ok data
  keypair : env.keypair.2 = api.publicOf env.keypair.1
  secret : ∀ privateKey data version sequence secret,
    env.sealSecret (api.publicOf privateKey) data version sequence = .ok secret →
    api.unsealSecret privateKey secret = .ok data

/-- The value is one that sealing `plaintext` under `keyLabel` writes. -/
inductive SealedAs (api : LawfulKeystoreApi) (endpoint : Option api.TpmEndpoint) (master : Option (Bytes 32))
    (keyLabel plaintext : List UInt8) : List UInt8 → Prop
  | tpm (tpm : api.TpmEndpoint) (blob : api.SealedBlob) (blobBytes : List UInt8) (hendpoint : endpoint = some tpm)
    (hdecode : api.decodeBlob blobBytes = .ok blob) (hunseal : api.unsealBlob tpm blob = .ok plaintext) :
    SealedAs api endpoint master keyLabel plaintext (SEAL_PREFIX_TPM :: blobBytes)
  | software (privateKey : Bytes 32) (secret : CoreSealedSecret) (bytes : List UInt8) (hmaster : master = some privateKey)
    (hdecode : api.decodeSecret bytes = .ok secret) (hunseal : api.unsealSecret privateKey secret = .ok plaintext) :
    SealedAs api endpoint master keyLabel plaintext (SEAL_PREFIX_SOFTWARE :: bytes)
  | envelope (tpm : api.TpmEndpoint) (blob : api.SealedBlob) (blobBytes : List UInt8) (dek : Bytes 32) (nonce : Bytes 12)
    (ciphertext : List UInt8) (hendpoint : endpoint = some tpm) (hlength : blobBytes.length < 2 ^ 32)
    (hdecode : api.decodeBlob blobBytes = .ok blob) (hunseal : api.unsealBlob tpm blob = .ok dek.toList)
    (hencrypt : api.encrypt dek nonce plaintext keyLabel = .ok ciphertext) :
    SealedAs api endpoint master keyLabel plaintext (envelopeBytes blobBytes nonce ciphertext)

/-- The keyspace holds, for every label but the one of the master key, a value for what `contents` says of it. -/
structure Keeps (keystore : TpmSealedStore api.toKeystoreApi) (store : DelegationStore)
    (contents : FinMap (List UInt8) (List UInt8)) (master : Option (Bytes 32)) : Prop where
  masterKey : store.get SOFTWARE_MASTER_KEY_LABEL = master.map fun key => key.toList ++ (api.publicOf key).toList
  stored : ∀ keyLabel, keyLabel ≠ SOFTWARE_MASTER_KEY_LABEL → ∀ plaintext, contents.get keyLabel = some plaintext →
    ∃ raw, store.get keyLabel = some raw ∧ SealedAs api keystore.endpoint master keyLabel plaintext raw
  absent : ∀ keyLabel, keyLabel ≠ SOFTWARE_MASTER_KEY_LABEL → contents.get keyLabel = none → store.get keyLabel = none

theorem Keeps.empty : Keeps keystore ∅ ∅ none := ⟨rfl, fun _ _ _ h => (nomatch h), fun _ _ _ => rfl⟩

theorem Keeps.insert (h : Keeps keystore store contents master) (hlabel : keyLabel ≠ SOFTWARE_MASTER_KEY_LABEL)
    (hraw : SealedAs api keystore.endpoint master keyLabel plaintext raw) :
    Keeps keystore (store.insert keyLabel raw) (contents.insert keyLabel plaintext) master := by
  refine ⟨by rw [FinMap.get_insert_ne _ _ hlabel.symm, h.masterKey], fun other hother data hdata => ?_,
    fun other hother hnone => ?_⟩
  · rw [FinMap.get_insert] at hdata ⊢
    split
    · next heq =>
      rw [if_pos heq] at hdata
      obtain rfl := Option.some.inj hdata
      exact ⟨raw, rfl, heq ▸ hraw⟩
    · next hne =>
      rw [if_neg hne] at hdata
      exact h.stored other hother data hdata
  · rw [FinMap.get_insert] at hnone ⊢
    split
    · next heq =>
      rw [if_pos heq] at hnone
      cases hnone
    · next hne =>
      rw [if_neg hne] at hnone
      exact h.absent other hother hnone

/-! ### The master key -/

/-- The master key has been made if there was none, and nothing else has changed. -/
structure Grown (api : LawfulKeystoreApi) (store store' : DelegationStore) (master master' : Option (Bytes 32)) : Prop where
  masterKey : store'.get SOFTWARE_MASTER_KEY_LABEL = master'.map fun key => key.toList ++ (api.publicOf key).toList
  others : ∀ keyLabel, keyLabel ≠ SOFTWARE_MASTER_KEY_LABEL → store'.get keyLabel = store.get keyLabel
  same : ∀ key, master = some key → master' = some key

theorem SealedAs.grow {endpoint : Option api.TpmEndpoint} (h : SealedAs api endpoint master keyLabel plaintext raw)
    (same : ∀ key, master = some key → master' = some key) : SealedAs api endpoint master' keyLabel plaintext raw := by
  cases h with
  | tpm tpm blob blobBytes hendpoint hdecode hunseal => exact .tpm tpm blob blobBytes hendpoint hdecode hunseal
  | software privateKey secret bytes hmaster hdecode hunseal =>
    exact .software privateKey secret bytes (same privateKey hmaster) hdecode hunseal
  | envelope tpm blob blobBytes dek nonce ciphertext hendpoint hlength hdecode hunseal hencrypt =>
    exact .envelope tpm blob blobBytes dek nonce ciphertext hendpoint hlength hdecode hunseal hencrypt

theorem Keeps.grow (h : Keeps keystore store contents master) (grown : Grown api store store' master master') :
    Keeps keystore store' contents master' := by
  refine ⟨grown.masterKey, fun other hother data hdata => ?_, fun other hother hnone => ?_⟩
  · obtain ⟨raw, hraw, hsealed⟩ := h.stored other hother data hdata
    exact ⟨raw, (grown.others other hother).trans hraw, hsealed.grow grown.same⟩
  · exact (grown.others other hother).trans (h.absent other hother hnone)

theorem createSoftwareMasterKey_grown (faults : KeyspaceFaults) {keypair : Bytes 32 × Bytes 32}
    (hpair : keypair.2 = api.publicOf keypair.1) (hnone : store.get SOFTWARE_MASTER_KEY_LABEL = none) :
    ∃ master', Grown api store (createSoftwareMasterKey faults keypair store).2 none master' ∧
      ∀ pair, (createSoftwareMasterKey faults keypair store).1 = .ok pair → master' = some pair.1 ∧
        pair.2 = api.publicOf pair.1 := by
  unfold createSoftwareMasterKey insertKey
  cases faults.insert SOFTWARE_MASTER_KEY_LABEL (keypair.1.toList ++ keypair.2.toList) with
  | some e => exact ⟨none, ⟨hnone, fun _ _ => rfl, fun _ h => h⟩, fun _ h => (nomatch h)⟩
  | none =>
    refine ⟨some keypair.1, ⟨?_, fun other hother => FinMap.get_insert_ne _ _ hother, fun _ h => (nomatch h)⟩, ?_⟩
    · show FinMap.get (store.insert _ _) _ = _
      rw [FinMap.get_insert_self, hpair]
      rfl
    · rintro pair ⟨⟩
      exact ⟨rfl, hpair⟩

/-- Once made, the master key is what is found. -/
theorem getOrCreateSoftwareMasterKey_of_master {faults : KeyspaceFaults} {keypair : Bytes 32 × Bytes 32} {key : Bytes 32}
    (hget : faults.get SOFTWARE_MASTER_KEY_LABEL = none) (h : Keeps keystore store contents (some key)) :
    getOrCreateSoftwareMasterKey faults keypair store = some (.ok (key, api.publicOf key), store) := by
  have front : slice (key.toList ++ (api.publicOf key).toList) 0 32 = some key.toList := by
    have part := slice_append (a := []) (b := key.toList) (c := (api.publicOf key).toList) (i := 0) (j := 32) rfl (by simp)
    exact part
  have back : slice (key.toList ++ (api.publicOf key).toList) 32 64 = some (api.publicOf key).toList := by
    have part := slice_append (a := key.toList) (b := (api.publicOf key).toList) (c := []) (i := 32) (j := 64)
      (by simp) (by simp)
    rwa [List.append_nil] at part
  have length : (key.toList ++ (api.publicOf key).toList).length = 64 := by simp
  simp [getOrCreateSoftwareMasterKey, hget, h.masterKey, length, front, back]

/-- The master key, made before or now. -/
theorem getOrCreateSoftwareMasterKey_grown (faults : KeyspaceFaults) {keypair : Bytes 32 × Bytes 32}
    (hpair : keypair.2 = api.publicOf keypair.1) (h : Keeps keystore store contents master) :
    ∃ answer store' master', getOrCreateSoftwareMasterKey faults keypair store = some (answer, store') ∧
      Grown api store store' master master' ∧ ∀ pair, answer = .ok pair → master' = some pair.1 ∧
      pair.2 = api.publicOf pair.1 := by
  have kept : Grown api store store master master := ⟨h.masterKey, fun _ _ => rfl, fun _ h => h⟩
  cases hget : faults.get SOFTWARE_MASTER_KEY_LABEL with
  | some e =>
    refine ⟨.error (.storage e), store, master, ?_, kept, fun _ h => (nomatch h)⟩
    rw [getOrCreateSoftwareMasterKey, hget]
  | none =>
    cases master with
    | none =>
      obtain ⟨master', grown, hok⟩ := createSoftwareMasterKey_grown faults hpair h.masterKey
      refine ⟨_, _, master', ?_, grown, hok⟩
      rw [getOrCreateSoftwareMasterKey, hget]
      dsimp only
      rw [h.masterKey]
      rfl
    | some key =>
      refine ⟨_, store, some key, getOrCreateSoftwareMasterKey_of_master hget h, kept, ?_⟩
      rintro pair ⟨⟩
      exact ⟨rfl, rfl⟩

/-! ### Storing -/

/-- A successful store replaces what its label holds. -/
def recorded (contents : FinMap (List UInt8) (List UInt8)) (keyLabel plaintext : List UInt8) :
    Except AgentError Unit → FinMap (List UInt8) (List UInt8)
  | .ok _ => contents.insert keyLabel plaintext
  | .error _ => contents

/-- The call returns, and leaves the keyspace with the plaintext under the label, or as it was if it failed. -/
def StoresInto (keystore : TpmSealedStore api.toKeystoreApi) (contents : FinMap (List UInt8) (List UInt8))
    (keyLabel plaintext : List UInt8) (outcome : Option (Except AgentError Unit × DelegationStore)) : Prop :=
  ∃ answer store' master', outcome = some (answer, store') ∧
    Keeps keystore store' (recorded contents keyLabel plaintext answer) master'

theorem insertKey_keeps {faults : KeyspaceFaults} (h : Keeps keystore store contents master)
    (hlabel : keyLabel ≠ SOFTWARE_MASTER_KEY_LABEL) (hraw : SealedAs api keystore.endpoint master keyLabel plaintext raw) :
    Keeps keystore (insertKey faults store keyLabel raw).2
      (recorded contents keyLabel plaintext (insertKey faults store keyLabel raw).1) master := by
  unfold insertKey
  cases faults.insert keyLabel raw with
  | some e => exact h
  | none => exact h.insert hlabel hraw

section
variable {env : SealEnv api.toKeystoreApi}

theorem softwareSeal_stores (faithful : env.Faithful) (h : Keeps keystore store contents master)
    (hlabel : keyLabel ≠ SOFTWARE_MASTER_KEY_LABEL) :
    StoresInto keystore contents keyLabel plaintext (softwareSeal api.toKeystoreApi env store keyLabel plaintext) := by
  obtain ⟨answer, store', master', hkey, grown, hpair⟩ :=
    getOrCreateSoftwareMasterKey_grown env.faults faithful.keypair h
  have kept := h.grow grown
  rw [softwareSeal, hkey, Option.bind_eq_bind, Option.bind_some]
  cases answer with
  | error e => exact ⟨.error e, store', master', rfl, kept⟩
  | ok pair =>
    obtain ⟨hmaster, hpublic⟩ := hpair pair rfl
    dsimp only
    cases hseal : env.sealSecret pair.2 plaintext 0 1 with
    | error e => exact ⟨_, store', master', rfl, kept⟩
    | ok secret =>
      rw [hpublic] at hseal
      have hunseal := faithful.secret _ _ _ _ _ hseal
      dsimp only
      cases hencode : api.encodeSecret secret with
      | error e => exact ⟨_, store', master', rfl, kept⟩
      | ok bytes =>
        have hsealed : SealedAs api keystore.endpoint master' keyLabel plaintext (SEAL_PREFIX_SOFTWARE :: bytes) :=
          .software pair.1 secret bytes hmaster (api.decode_encodeSecret _ _ hencode) hunseal
        exact ⟨_, _, master', rfl, insertKey_keeps kept hlabel hsealed⟩

theorem envelopeSeal_keeps {endpoint : api.TpmEndpoint} (plaintext : List UInt8) (faithful : env.Faithful)
    (h : Keeps keystore store contents master) (hlabel : keyLabel ≠ SOFTWARE_MASTER_KEY_LABEL)
    (hendpoint : keystore.endpoint = some endpoint) :
    Keeps keystore (envelopeSeal api.toKeystoreApi env endpoint store keyLabel plaintext).2
      (recorded contents keyLabel plaintext (envelopeSeal api.toKeystoreApi env endpoint store keyLabel plaintext).1)
      master := by
  unfold envelopeSeal
  cases hseal : env.sealToPcr endpoint env.dek.toList DEFAULT_SEAL_PCRS with
  | error e => exact h
  | ok blob =>
    dsimp only
    cases hencrypt : api.encrypt env.dek env.nonce plaintext keyLabel with
    | error e => exact h
    | ok ciphertext =>
      dsimp only
      cases hencode : api.encodeBlob blob with
      | error e => exact h
      | ok blobBytes =>
        refine insertKey_keeps h hlabel
          (.envelope endpoint blob blobBytes env.dek env.nonce ciphertext hendpoint ?_ ?_ ?_ hencrypt)
        · exact api.encodeBlob_length blob blobBytes hencode
        · exact api.decode_encodeBlob blob blobBytes hencode
        · exact faithful.tpm _ _ _ _ hseal

theorem storeSealed_stores (plaintext : List UInt8) (faithful : env.Faithful) (h : Keeps keystore store contents master)
    (hlabel : keyLabel ≠ SOFTWARE_MASTER_KEY_LABEL) :
    StoresInto keystore contents keyLabel plaintext (keystore.storeSealed env store keyLabel plaintext) := by
  unfold TpmSealedStore.storeSealed
  cases hendpoint : keystore.endpoint with
  | none => exact softwareSeal_stores faithful h hlabel
  | some endpoint =>
    dsimp only
    split
    · have kept := envelopeSeal_keeps plaintext faithful h hlabel hendpoint
      cases hsealed : envelopeSeal api.toKeystoreApi env endpoint store keyLabel plaintext with
      | mk answer store' =>
        rw [hsealed] at kept
        cases answer with
        | ok => exact ⟨_, store', master, rfl, kept⟩
        | error e => exact softwareSeal_stores faithful kept hlabel
    · cases hseal : env.sealToPcr endpoint plaintext DEFAULT_SEAL_PCRS with
      | error e => exact softwareSeal_stores faithful h hlabel
      | ok blob =>
        dsimp only
        cases hencode : api.encodeBlob blob with
        | error e => exact ⟨_, store, master, rfl, h⟩
        | ok blobBytes =>
          have hsealed : SealedAs api keystore.endpoint master keyLabel plaintext (SEAL_PREFIX_TPM :: blobBytes) :=
            .tpm endpoint blob blobBytes hendpoint (api.decode_encodeBlob _ _ hencode) (faithful.tpm _ _ _ _ hseal)
          exact ⟨_, _, master, rfl, insertKey_keeps h hlabel hsealed⟩

end

/-! ### Loading -/

section
variable {env : LoadEnv}

theorem parseEnvelope_envelope {blobBytes ciphertext : List UInt8} {nonce : Bytes 12}
    (hlength : blobBytes.length < 2 ^ 32) :
    parseEnvelope (leBytes 4 (blobBytes.length % 2 ^ 32) ++ blobBytes ++ nonce.toList ++ ciphertext) =
      some (.ok (blobBytes, nonce, ciphertext)) := by
  rw [Nat.mod_eq_of_lt hlength]
  have hnumber : ofLeBytes (leBytes 4 blobBytes.length) = blobBytes.length := ofLeBytes_leBytes hlength
  generalize hprefix : leBytes 4 blobBytes.length = lengthBytes at hnumber
  have hfour : lengthBytes.length = 4 := hprefix ▸ length_leBytes ..
  have htotal : (lengthBytes ++ blobBytes ++ nonce.toList ++ ciphertext).length = 4 + blobBytes.length + 12 +
      ciphertext.length := by
    simp [hfour, Nat.add_assoc]
  have first : slice (lengthBytes ++ blobBytes ++ nonce.toList ++ ciphertext) 0 4 = some lengthBytes := by
    have part := slice_append (a := []) (b := lengthBytes) (c := blobBytes ++ nonce.toList ++ ciphertext) (i := 0)
      (j := 4) rfl (by omega)
    simpa using part
  have second : slice (lengthBytes ++ blobBytes ++ nonce.toList ++ ciphertext) 4 (4 + blobBytes.length) =
      some blobBytes := by
    have part := slice_append (a := lengthBytes) (b := blobBytes) (c := nonce.toList ++ ciphertext) (i := 4) hfour.symm rfl
    simpa using part
  have third : slice (lengthBytes ++ blobBytes ++ nonce.toList ++ ciphertext) (4 + blobBytes.length)
      (4 + blobBytes.length + 12) =
        some nonce.toList := slice_append (by simp [hfour]) (by simp)
  have fourth : slice (lengthBytes ++ blobBytes ++ nonce.toList ++ ciphertext) (4 + blobBytes.length + 12)
      (lengthBytes ++ blobBytes ++ nonce.toList ++ ciphertext).length = some ciphertext := by
    have part := slice_append (a := lengthBytes ++ blobBytes ++ nonce.toList) (b := ciphertext) (c := [])
      (i := 4 + blobBytes.length + 12) (by simp [hfour, Nat.add_assoc]) rfl
    rwa [List.append_nil, ← htotal] at part
  rw [parseEnvelope, if_neg (by omega), first]
  simp only [Option.bind_eq_bind, Option.bind_some]
  rw [if_neg (by omega), hnumber, if_neg (by omega), second, third, fourth]
  simp

theorem key32_toList (key : Bytes 32) : key32 key.toList = .ok key := by
  obtain ⟨array, hsize⟩ := key
  exact dif_pos (by simpa using hsize)

theorem openEnvelope_sealed {endpoint : api.TpmEndpoint} {blob : api.SealedBlob} {blobBytes ciphertext : List UInt8}
    {dek : Bytes 32} {nonce : Bytes 12} (hdecode : api.decodeBlob blobBytes = .ok blob)
    (hunseal : api.unsealBlob endpoint blob = .ok dek.toList) (label : List UInt8) :
    openEnvelope api.toKeystoreApi endpoint label blobBytes nonce ciphertext =
      (api.decrypt dek nonce ciphertext label).mapError fun _ =>
        .secret "envelope decryption failed (wrong key_label or corrupted blob)" := by
  simp only [openEnvelope, hdecode, hunseal, key32_toList]
  cases api.decrypt dek nonce ciphertext label <;> rfl

/-- An envelope opens under the label it was sealed for, and under no other. -/
theorem envelopeUnseal_sealed {endpoint : api.TpmEndpoint} {blob : api.SealedBlob} {blobBytes ciphertext : List UInt8}
    {dek : Bytes 32} {nonce : Bytes 12} (hlength : blobBytes.length < 2 ^ 32)
    (hdecode : api.decodeBlob blobBytes = .ok blob) (hunseal : api.unsealBlob endpoint blob = .ok dek.toList)
    (label : List UInt8) :
    envelopeUnseal api.toKeystoreApi endpoint label
        (leBytes 4 (blobBytes.length % 2 ^ 32) ++ blobBytes ++ nonce.toList ++ ciphertext) =
      some ((api.decrypt dek nonce ciphertext label).mapError fun _ =>
        .secret "envelope decryption failed (wrong key_label or corrupted blob)") := by
  rw [envelopeUnseal, parseEnvelope_envelope hlength, ← openEnvelope_sealed hdecode hunseal]
  rfl

/-- A sealed value gives its plaintext back. -/
theorem unsealRaw_sealed (hget : env.faults.get SOFTWARE_MASTER_KEY_LABEL = none) (h : Keeps keystore store contents master)
    (hraw : SealedAs api keystore.endpoint master keyLabel plaintext raw) :
    keystore.unsealRaw env store keyLabel raw = some (.ok (some plaintext), store) := by
  cases hraw with
  | tpm tpm blob blobBytes hendpoint hdecode hunseal =>
    rw [unsealRaw_cons, if_pos rfl, hendpoint]
    simp [tpmUnseal, hdecode, hunseal, Except.map]
  | software privateKey secret bytes hmaster hdecode hunseal =>
    subst hmaster
    rw [unsealRaw_cons, if_neg (by decide), if_neg (by decide), if_pos rfl, softwareUnsealFromBytes,
      getOrCreateSoftwareMasterKey_of_master hget h]
    simp [hdecode, hunseal]
  | envelope tpm blob blobBytes dek nonce ciphertext hendpoint hlength hdecode hunseal hencrypt =>
    rw [envelopeBytes, unsealRaw_cons, if_neg (by decide), if_pos rfl, hendpoint]
    dsimp only
    rw [envelopeUnseal_sealed hlength hdecode hunseal, api.decrypt_encrypt _ _ _ _ _ hencrypt]
    rfl

theorem loadSealed_keeps (keyLabel : List UInt8) (hpair : env.keypair.2 = api.publicOf env.keypair.1)
    (h : Keeps keystore store contents master) :
    ∃ answer store' master', keystore.loadSealed env store keyLabel = some (answer, store') ∧
    Keeps keystore store' contents master' := by
  obtain ⟨answer, store', hload, hstore⟩ := loadSealed_returns keystore env store keyLabel
  rcases hstore with rfl | ⟨key, hkey⟩
  · exact ⟨answer, store', master, hload, h⟩
  · obtain ⟨key', store'', master', hkey', grown, -⟩ := getOrCreateSoftwareMasterKey_grown env.faults hpair h
    obtain ⟨rfl, rfl⟩ := Prod.mk.inj (Option.some.inj (hkey.symm.trans hkey'))
    exact ⟨answer, store', master', hload, h.grow grown⟩

/-- A load with a storage that reads gives what the keyspace represents. -/
theorem loadSealed_of_keeps (hread : ∀ key, env.faults.get key = none) (h : Keeps keystore store contents master)
    (hlabel : keyLabel ≠ SOFTWARE_MASTER_KEY_LABEL) :
    keystore.loadSealed env store keyLabel = some (.ok (contents.get keyLabel), store) := by
  rw [TpmSealedStore.loadSealed, hread]
  dsimp only
  cases hcontents : contents.get keyLabel with
  | none => rw [h.absent keyLabel hlabel hcontents]
  | some plaintext =>
    obtain ⟨raw, hraw, hsealed⟩ := h.stored keyLabel hlabel plaintext hcontents
    have hne : raw ≠ [] := by
      rintro rfl
      cases hsealed
    rw [hraw]
    dsimp only
    rw [if_neg hne, unsealRaw_sealed (hread _) h hsealed]

end

/-! ### Sequences of calls -/

/-- The TPM and X25519 seal faithfully, and the call does not name the master key's label to store under it. -/
def Admissible (api : LawfulKeystoreApi) : SealedCall api.toKeystoreApi → Prop
  | .store keyLabel _ env => keyLabel ≠ SOFTWARE_MASTER_KEY_LABEL ∧ env.Faithful
  | .load _ env => env.keypair.2 = api.publicOf env.keypair.1

/-- The plaintext that this call has successfully stored under the label. -/
def storedUnder {api : KeystoreApi} (keyLabel : List UInt8) : SealedCall api × SealedAnswer → Option (List UInt8)
  | (.store label plaintext _, .stored (.ok _)) => if label = keyLabel then some plaintext else none
  | _ => none

/-- The plaintext of the last successful store under the label. -/
def lastStored {api : KeystoreApi} (calls : List (SealedCall api)) (answers : List SealedAnswer) (keyLabel : List UInt8) :
    Option (List UInt8) :=
  ((calls.zip answers).filterMap (storedUnder keyLabel)).getLast?

theorem lastStored_cons {call : SealedCall api.toKeystoreApi} {calls : List (SealedCall api.toKeystoreApi)}
    {answer : SealedAnswer} {answers : List SealedAnswer} : lastStored (call :: calls) (answer :: answers) keyLabel =
      (lastStored calls answers keyLabel).or (storedUnder keyLabel (call, answer)) := by
  rw [lastStored, List.zip_cons_cons, List.filterMap_cons]
  cases storedUnder keyLabel (call, answer) with
  | none => rw [Option.or_none]; rfl
  | some plaintext =>
    rw [List.getLast?_cons, lastStored]
    cases ((calls.zip answers).filterMap (storedUnder keyLabel)).getLast? <;> rfl

theorem call_keeps {call : SealedCall api.toKeystoreApi} (hcall : Admissible api call)
    (h : Keeps keystore store contents master) :
    ∃ answer store' contents' master', keystore.call store call = some (answer, store') ∧
      Keeps keystore store' contents' master' ∧
      ∀ keyLabel, contents'.get keyLabel = (storedUnder keyLabel (call, answer)).or (contents.get keyLabel) := by
  cases call with
  | store label plaintext env =>
    obtain ⟨answer, store', master', hstore, kept⟩ := storeSealed_stores plaintext hcall.2 h hcall.1
    refine ⟨.stored answer, store', _, master', by rw [TpmSealedStore.call, hstore]; rfl, kept, fun keyLabel => ?_⟩
    cases answer with
    | error e => rfl
    | ok =>
      rw [recorded, FinMap.get_insert, storedUnder]
      by_cases heq : keyLabel = label
      · rw [if_pos heq, if_pos heq.symm]
        rfl
      · rw [if_neg heq, if_neg (Ne.symm heq)]
        rfl
  | load label env =>
    obtain ⟨answer, store', master', hload, kept⟩ := loadSealed_keeps label hcall h
    exact ⟨.loaded answer, store', contents, master', by rw [TpmSealedStore.call, hload]; rfl, kept, fun _ => rfl⟩

theorem run_keeps {calls : List (SealedCall api.toKeystoreApi)} (hcalls : ∀ call ∈ calls, Admissible api call)
    (h : Keeps keystore store contents master) :
    ∃ answers store' contents' master', keystore.run store calls = some (answers, store') ∧
      Keeps keystore store' contents' master' ∧
      ∀ keyLabel, contents'.get keyLabel = (lastStored calls answers keyLabel).or (contents.get keyLabel) := by
  induction calls generalizing store contents master with
  | nil => exact ⟨[], store, contents, master, rfl, h, fun _ => rfl⟩
  | cons call calls ih =>
    obtain ⟨hcall, hrest⟩ := List.forall_mem_cons.mp hcalls
    obtain ⟨answer, store₁, contents₁, master₁, hanswer, kept₁, hcontents₁⟩ := call_keeps hcall h
    obtain ⟨answers, store₂, contents₂, master₂, hanswers, kept₂, hcontents₂⟩ := ih hrest kept₁
    refine ⟨answer :: answers, store₂, contents₂, master₂, ?_, kept₂, fun keyLabel => ?_⟩
    · rw [TpmSealedStore.run, hanswer]
      simp [hanswers]
    · rw [hcontents₂, hcontents₁, lastStored_cons, Option.or_assoc]

/-- An envelope that is copied under another label does not open there. -/
theorem copied_envelope_fails (h : Keeps keystore store contents master) (hlabel : keyLabel ≠ SOFTWARE_MASTER_KEY_LABEL)
    (hraw : store.get keyLabel = some raw) (henvelope : raw.head? = some SEAL_PREFIX_TPM_ENVELOPE) {other : List UInt8}
    (hother : other ≠ keyLabel) (env : LoadEnv) :
    ∃ e store', keystore.loadSealed env (store.insert other raw) other = some (.error e, store') := by
  rw [TpmSealedStore.loadSealed]
  cases env.faults.get other with
  | some e => exact ⟨_, _, rfl⟩
  | none =>
    have hcontents : ∃ plaintext, contents.get keyLabel = some plaintext := by
      refine Option.ne_none_iff_exists'.mp fun hnone => ?_
      rw [h.absent keyLabel hlabel hnone] at hraw
      cases hraw
    obtain ⟨plaintext, hplaintext⟩ := hcontents
    obtain ⟨raw', hraw', hsealed⟩ := h.stored keyLabel hlabel plaintext hplaintext
    obtain rfl := Option.some.inj (hraw.symm.trans hraw')
    dsimp only
    rw [FinMap.get_insert_self]
    cases hsealed with
    | tpm => exact absurd (Option.some.inj henvelope) (by decide)
    | software => exact absurd (Option.some.inj henvelope) (by decide)
    | envelope tpm blob blobBytes dek nonce ciphertext hendpoint hlength hdecode hunseal hencrypt =>
      obtain ⟨e, hdecrypt⟩ := api.decrypt_otherAad _ _ _ _ _ hencrypt other hother
      dsimp only
      rw [if_neg (by simp [envelopeBytes]), envelopeBytes, unsealRaw_cons, if_neg (by decide), if_pos rfl, hendpoint]
      dsimp only
      rw [envelopeUnseal_sealed hlength hdecode hunseal, hdecrypt]
      exact ⟨_, _, rfl⟩

/-- While the storage reads, a load under the label gives this. -/
def Loads {api : KeystoreApi} (keystore : TpmSealedStore api) (store : DelegationStore) (keyLabel : List UInt8)
    (plaintext : Option (List UInt8)) : Prop :=
  ∀ env : LoadEnv, (∀ key, env.faults.get key = none) → ∃ store', keystore.loadSealed env store keyLabel =
    some (.ok plaintext, store')

/-- No sequence of calls panics. After each, a label loads the plaintext of its last successful store, and stores under
    other labels do not change that; an envelope copied under another label does not load; and whatever bytes are found
    under a label, a load returns. -/
theorem sealed_store_round_trip (api : LawfulKeystoreApi) (keystore : TpmSealedStore api.toKeystoreApi)
    (calls : List (SealedCall api.toKeystoreApi)) (hcalls : ∀ call ∈ calls, Admissible api call) :
    ∃ answers store, keystore.run ∅ calls = some (answers, store) ∧
      (∀ keyLabel, keyLabel ≠ SOFTWARE_MASTER_KEY_LABEL →
        Loads keystore store keyLabel (lastStored calls answers keyLabel)) ∧
      (∀ other plaintext env, Admissible api (.store other plaintext env) →
        ∃ answer store', keystore.storeSealed env store other plaintext = some (answer, store') ∧
          ∀ keyLabel, keyLabel ≠ SOFTWARE_MASTER_KEY_LABEL → keyLabel ≠ other →
            Loads keystore store' keyLabel (lastStored calls answers keyLabel)) ∧
      (∀ keyLabel raw, keyLabel ≠ SOFTWARE_MASTER_KEY_LABEL → store.get keyLabel = some raw →
        raw.head? = some SEAL_PREFIX_TPM_ENVELOPE → ∀ other, other ≠ keyLabel → ∀ env, ∃ e store',
          keystore.loadSealed env (store.insert other raw) other = some (.error e, store')) ∧
      ∀ (found : DelegationStore) keyLabel env, ∃ answer store', keystore.loadSealed env found keyLabel =
        some (answer, store') := by
  have start : Keeps keystore ∅ ∅ none := .empty
  obtain ⟨answers, store, contents, master, hrun, kept, hcontents⟩ := run_keeps hcalls start
  have last : ∀ keyLabel, contents.get keyLabel = lastStored calls answers keyLabel :=
    fun keyLabel => (hcontents keyLabel).trans Option.or_none
  refine ⟨answers, store, hrun, fun keyLabel hlabel env hread => ?_, fun other plaintext env hcall => ?_,
    fun keyLabel raw hlabel hraw henvelope other hother env => copied_envelope_fails kept hlabel hraw henvelope hother env,
    fun found keyLabel env => ?_⟩
  · rw [← last]
    exact ⟨store, loadSealed_of_keeps hread kept hlabel⟩
  · obtain ⟨answer, store', master', hstore, kept'⟩ := storeSealed_stores plaintext hcall.2 kept hcall.1
    refine ⟨answer, store', hstore, fun keyLabel hlabel hne env' hread => ⟨store', ?_⟩⟩
    rw [loadSealed_of_keeps hread kept' hlabel, ← last]
    cases answer with
    | error e => rfl
    | ok => rw [recorded, FinMap.get_insert_ne _ _ hne]
  · obtain ⟨answer, store', hload, -⟩ := loadSealed_returns keystore env found keyLabel
    exact ⟨answer, store', hload⟩

end

/-! ### A store whose seals are plain -/

theorem eq_of_withLength_prefix {w : Nat} {a b input : List UInt8} (ha : a.length < 256 ^ w) (hb : b.length < 256 ^ w)
    (hpa : withLength w a <+: input) (hpb : withLength w b <+: input) : a = b := by
  obtain ⟨-, hlength, -, htake⟩ := (withLength_prefix_iff ha).mp hpa
  obtain ⟨-, hlength', -, htake'⟩ := (withLength_prefix_iff hb).mp hpb
  rw [← htake, ← htake', ← hlength, hlength']

/-- The ciphertext starts with the AAD, by which it is known; the rest is left as it is. -/
def plainKeystore : LawfulKeystoreApi where
  unsealSecret _ secret := .ok secret.ciphertext
  TpmEndpoint := Unit
  SealedBlob := List UInt8
  unsealBlob _ blob := .ok blob
  encodeBlob blob := if blob.length < 2 ^ 32 then .ok blob else .error "too long"
  decodeBlob bytes := .ok bytes
  encodeSecret secret :=
    if secret = ⟨0, 1, .replicate 32 0, secret.ciphertext⟩ then .ok secret.ciphertext else .error "not plain"
  decodeSecret bytes := .ok ⟨0, 1, .replicate 32 0, bytes⟩
  encrypt _ _ message aad := if aad.length < 256 ^ 8 then .ok (withLength 8 aad ++ message) else .error "too long"
  decrypt _ _ ciphertext aad :=
    if aad.length < 256 ^ 8 ∧ withLength 8 aad <+: ciphertext then .ok (ciphertext.drop (withLength 8 aad).length)
    else .error "wrong AAD"
  publicOf key := key
  decode_encodeBlob := by
    intro blob bytes h
    split at h
    · exact h ▸ rfl
    · cases h
  encodeBlob_length := by
    intro blob bytes h
    split at h
    · next hlength =>
      obtain rfl := Except.ok.inj h
      exact hlength
    · cases h
  decode_encodeSecret := by
    intro secret bytes h
    split at h
    · next hplain =>
      obtain rfl := Except.ok.inj h
      exact congrArg Except.ok hplain.symm
    · cases h
  decrypt_encrypt := by
    intro key nonce message aad ciphertext h
    split at h
    · next hlength =>
      obtain rfl := Except.ok.inj h
      rw [if_pos ⟨hlength, List.prefix_append _ _⟩, List.drop_left]
    · cases h
  decrypt_otherAad := by
    intro key nonce message aad ciphertext h aad' hne
    split at h
    · next hlength =>
      obtain rfl := Except.ok.inj h
      refine ⟨_, if_neg ?_⟩
      rintro ⟨hlength', hprefix⟩
      exact hne ( eq_of_withLength_prefix hlength' hlength hprefix (List.prefix_append _ _))
    · cases h

/-- A call in which the TPM seals, or fails. -/
def plainEnv (tpm : Bool) : SealEnv plainKeystore.toKeystoreApi where
  sealToPcr _ data _ := if tpm then .ok data else .error "TPM busy"
  dek := .replicate 32 7
  nonce := .replicate 12 7
  keypair := (.replicate 32 9, .replicate 32 9)
  sealSecret _ data version sequence := .ok ⟨version, sequence, .replicate 32 0, data⟩

/-- A long key in an envelope, then a short one under the same label while the TPM fails. -/
def plainCalls : List (SealedCall plainKeystore.toKeystoreApi) :=
  [.store [1] (List.replicate 65 5) (plainEnv true), .store [1] [6] (plainEnv false)]

def plainStore : TpmSealedStore plainKeystore.toKeystoreApi := ⟨some ()⟩

theorem sealed_store_round_trip_of_plain : ∃ answers store, plainStore.run ∅ plainCalls = some (answers, store) ∧
    ∀ keyLabel, keyLabel ≠ SOFTWARE_MASTER_KEY_LABEL →
      Loads plainStore store keyLabel (lastStored plainCalls answers keyLabel) := by
  have faithful : ∀ tpm, (plainEnv tpm).Faithful := by
    intro tpm
    refine ⟨fun _ data _ blob hseal => ?_, rfl, fun _ data _ _ secret hseal => ?_⟩
    · cases tpm <;> cases hseal
      rfl
    · cases hseal
      rfl
  have admissible : ∀ call ∈ plainCalls, Admissible plainKeystore call := by
    simp only [plainCalls, List.forall_mem_cons]
    exact ⟨⟨by decide +kernel, faithful true⟩, ⟨by decide +kernel, faithful false⟩, by simp⟩
  obtain ⟨answers, store, hrun, loads, -⟩ := sealed_store_round_trip plainKeystore plainStore plainCalls admissible
  exact ⟨answers, store, hrun, loads⟩

end FleetosAgent.Identity
