import FleetosAgent.Secret.Deliver
import FleetosAgent.Theorems.Sequences

/-! # What a failed delivery leaves behind

The replay table is written before the secret is converted and unsealed. So a delivery that fails after the replay check
leaves its sequence in the table, and a later secret of the same pair has to be above it. -/

namespace FleetosAgent.Secret
open Lib Identity

section Delivery
variable {crypto : SealingApi} {store : SequenceStore} {call : Delivery}

/-- The private key opens the secret: the ephemeral key has its 32 bytes, and the box is for this key. -/
def Delivery.Opens (crypto : SealingApi) (call : Delivery) : Prop :=
  ∃ ephemeral : Bytes 32, ephemeral.toList = call.proto.ephemeralPubkey ∧ ∃ plaintext,
    crypto.unsealSecret call.privateKey ⟨call.proto.sealedForSvidVersion, call.proto.sequence, ephemeral,
      call.proto.ciphertext⟩ = .ok plaintext

/-- The replay table takes the sequence: it is above the mark of its pair, and the storage works. -/
def Delivery.Recorded (store : SequenceStore) (call : Delivery) : Prop :=
  (watermarks store).Records (call.proto.targetSpiffeId, call.proto.sealedForSvidVersion) call.proto.sequence call.storage

theorem key32_eq_ok {bytes : List UInt8} {key : Bytes 32} : key32 bytes = .ok key ↔ key.toList = bytes := by
  unfold key32
  constructor
  · intro h
    split at h
    · rw [← Except.ok.inj h]
      rfl
    · cases h
  · rintro rfl
    rw [dif_pos (by simp)]
    rfl

/-- What becomes of a secret that passed the replay check. -/
theorem opens_iff : call.Opens crypto ↔ ∃ core plaintext, protoToCore call.proto = .ok core ∧
    crypto.unsealSecret call.privateKey core = .ok plaintext := by
  constructor
  · rintro ⟨ephemeral, hbytes, plaintext, hplain⟩
    exact ⟨_, plaintext, by rw [protoToCore, key32_eq_ok.mpr hbytes], hplain⟩
  · rintro ⟨core, plaintext, hcore, hplain⟩
    cases hkey : key32 call.proto.ephemeralPubkey with
    | error got =>
      rw [protoToCore, hkey] at hcore
      cases hcore
    | ok ephemeral =>
      rw [protoToCore, hkey] at hcore
      obtain rfl := Except.ok.inj hcore
      exact ⟨ephemeral, key32_eq_ok.mp hkey, plaintext, hplain⟩

/-- A delivery whose sequence is not recorded fails. -/
theorem delivery_of_not_recorded (h : ¬call.Recorded store) :
    (∃ e, deliveryAnswer crypto store call = .error e) ∧ deliveryStep crypto store call = store := by
  have verdict := mt Watermarks.verdict_eq_ok_true.mp h
  rw [Delivery.Recorded] at h
  unfold deliveryAnswer deliveryStep deliverSecret
  rw [checkAndRecord_eq, if_neg h]
  cases hv : (watermarks store).verdict (call.proto.targetSpiffeId, call.proto.sealedForSvidVersion) call.proto.sequence
      call.storage with
  | error e => exact ⟨⟨e, rfl⟩, rfl⟩
  | ok accepted =>
    cases accepted with
    | false => exact ⟨⟨_, rfl⟩, rfl⟩
    | true => exact absurd hv verdict

/-- One whose sequence is recorded moves the mark, and fails exactly if the key does not open the secret. -/
theorem delivery_of_recorded (crypto : SealingApi) (h : call.Recorded store) :
    ((∃ e, deliveryAnswer crypto store call = .error e) ↔ ¬call.Opens crypto) ∧ deliveryStep crypto store call ≠ store := by
  have verdict := Watermarks.verdict_eq_ok_true.mpr h
  rw [Delivery.Recorded] at h
  have moved : store.insert (sequenceKey call.proto.targetSpiffeId call.proto.sealedForSvidVersion)
      (toLeBytes call.proto.sequence) ≠ store := by
    intro same
    have marks : watermarks store = Function.update (watermarks store) (call.proto.targetSpiffeId,
        call.proto.sealedForSvidVersion) (some call.proto.sequence) := by rw [← watermarks_insert, same]
    have mark := congrFun marks (call.proto.targetSpiffeId, call.proto.sealedForSvidVersion)
    rw [Function.update_self] at mark
    exact UInt64.lt_irrefl _ (h.1.2 _ mark)
  rw [opens_iff, deliveryAnswer, deliveryStep, deliverSecret, checkAndRecord_eq, if_pos h, verdict]
  dsimp only
  cases hcore : protoToCore call.proto with
  | error e => exact ⟨by simp, moved⟩
  | ok core =>
    dsimp only
    cases hplain : crypto.unsealSecret call.privateKey core with
    | error e => exact ⟨by simp [hplain], moved⟩
    | ok plaintext => exact ⟨by simp [hplain], moved⟩

/-- A failed delivery leaves the table as it was exactly if it did not fail after the replay check. -/
theorem keeps_store_iff : ((∃ e, deliveryAnswer crypto store call = .error e) → deliveryStep crypto store call = store) ↔
    (call.Recorded store → call.Opens crypto) := by
  by_cases hrec : call.Recorded store
  · obtain ⟨fails, moved⟩ := delivery_of_recorded crypto hrec
    rw [fails]
    exact ⟨fun keeps _ => by_contra fun hopens => moved (keeps hopens), fun opens hopens => absurd (opens hrec) hopens⟩
  · exact ⟨fun _ h => absurd h hrec, fun _ _ => (delivery_of_not_recorded hrec).2⟩

end Delivery

/-! ### Runs -/

section Runs
variable (crypto : SealingApi) (store : SequenceStore) (calls : List Delivery)

open Classical in
/-- Over a run, the deliveries that fail leave the table as it was at every step exactly if no secret that its key does not
    open is recorded; and then every genuine secret is answered as if the unopenable ones before it had not been there. -/
theorem failed_deliveries_harmless_iff :
    (Along (deliveryStep crypto) (fun store call => (∃ e, deliveryAnswer crypto store call = .error e) →
        deliveryStep crypto store call = store) store calls ∧
      ∀ pre post, calls = pre ++ post → ∀ genuine : Delivery, genuine.Opens crypto →
        deliveryAnswer crypto (pre.foldl (deliveryStep crypto) store) genuine =
          deliveryAnswer crypto ((pre.filter fun call => call.Opens crypto).foldl (deliveryStep crypto) store) genuine) ↔
      Along (deliveryStep crypto) (fun store call => call.Recorded store → call.Opens crypto) store calls := by
  rw [along_congr fun store call => keeps_store_iff]
  refine ⟨And.left, fun sound => ⟨sound, ?_⟩⟩
  rintro pre post rfl genuine -
  have before := (along_append.mp sound).1
  -- A secret that is not opened was not recorded, so its call did nothing.
  rw [(before.mono fun store call recorded hclosed => ?_).foldl_filter]
  exact (delivery_of_not_recorded fun hrec => of_decide_eq_false hclosed (recorded hrec)).2

end Runs

/-! ### A poisoned pair -/

/-- Opens secrets whose ciphertext is not empty. -/
def someSecretsApi : SealingApi where
  unsealSecret _ core := if core.ciphertext = [] then .error "aead::Error" else .ok core.ciphertext

/-- A secret for "web" with the largest sequence that does not open. -/
def poison : Delivery := ⟨⟨"web", 1, 18446744073709551615, .replicate 32 7, []⟩, .replicate 32 9, {}⟩

def genuine : Delivery := ⟨⟨"web", 1, 1, .replicate 32 7, [42]⟩, .replicate 32 9, {}⟩

/-- The secret that does not open is answered with an error and stays in the table; the genuine one that follows is
    rejected, and would not have been. -/
theorem genuine_rejected_after_poison :
    deliveryAnswer someSecretsApi ∅ poison = .error (.secret "unseal failed: aead::Error") ∧
      deliveryStep someSecretsApi ∅ poison ≠ ∅ ∧
      deliveryAnswer someSecretsApi (deliveryStep someSecretsApi ∅ poison) genuine =
        .error (.secret "secret rejected: sequence 1 is not newer for target web (svid_version=1)") ∧
      deliveryAnswer someSecretsApi ∅ genuine = .ok [42] := by
  refine ⟨rfl, fun h => ?_, rfl, rfl⟩
  have recorded : (deliveryStep someSecretsApi ∅ poison).get (sequenceKey "web" 1) = some (.replicate 8 255) := rfl
  rw [h] at recorded
  cases recorded

end FleetosAgent.Secret
