import FleetosAgent.Secret.Deliver
import FleetosAgent.Theorems.Sequences

/-! # Anti-replay over runs of rotations

A rotation for a workload writes to the workload's file, but the replay table is asked about the target that the response
names. A sealed secret is written to a file once as long as it always comes under one target. -/

namespace FleetosAgent.Secret
open Lib Identity

section Write
variable {api : SpiffeApi} {crypto : SealingApi} {w : SecretsWorld} {call : RotationCall}

/-- A write of an opened secret to a file, and the target that the response named. -/
structure SecretWrite where
  path : String
  sealedSecret : CoreSealedSecret
  target : String
  deriving DecidableEq

/-- The write that a rotation comes to, whether the file system then completes it or not. -/
def secretWrite (api : SpiffeApi) (crypto : SealingApi) (w : SecretsWorld) (call : RotationCall) : Option SecretWrite :=
  match call.env.fetch ⟨call.spiffeId, call.svidVersion⟩ with
  | .error _ => none
  | .ok proto =>
    match protoToCore proto, (unsealWithNodeKey crypto call.env w.sequences proto).1, api.parse call.spiffeId,
      call.env.createDir with
    | .ok core, .ok _, .ok _, none => some ⟨secretPath call.spiffeId, core, proto.targetSpiffeId⟩
    | _, _, _, _ => none

/-- The marks only move up. -/
def Grows (marks marks' : Watermarks) : Prop := ∀ pair, ∀ mark ∈ marks pair, ∃ mark' ∈ marks' pair, mark ≤ mark'

theorem Grows.refl (marks : Watermarks) : Grows marks marks := fun _ mark h => ⟨mark, h, UInt64.le_refl _⟩

theorem grows_update {marks : Watermarks} {pair : String × UInt64} {sequence : UInt64} (h : marks.Passes pair sequence) :
    Grows marks (Function.update marks pair (some sequence)) := by
  intro pair' mark hmark
  by_cases hpair : pair' = pair
  · subst hpair
    exact ⟨sequence, by rw [Function.update_self]; rfl, UInt64.le_of_lt (h.2 mark hmark)⟩
  · exact ⟨mark, by rwa [Function.update_of_ne hpair], UInt64.le_refl _⟩

theorem grows_sequenceStep (store : SequenceStore) (c : SequenceCall) :
    Grows (watermarks store) (watermarks (sequenceStep store c)) := by
  rcases accepts_cases store c with ⟨-, hsame⟩ | ⟨pair, sequence, -, hpass, hmarks⟩
  · rw [hsame]
    exact .refl _
  · rw [hmarks]
    exact grows_update hpass

/-- The question to the replay table that a response leads to. -/
def checkOf (env : RotationEnv) (proto : ProtoSealedSecret) : SequenceCall :=
  .checkAndRecord proto.targetSpiffeId proto.sealedForSvidVersion proto.sequence env.storage

theorem deliverSecret_spec (crypto : SealingApi) (env : RotationEnv) (store : SequenceStore) (proto : ProtoSealedSecret)
    (key : Bytes 32) :
    (deliverSecret crypto env.storage store proto key).2 = sequenceStep store (checkOf env proto) ∧
      ∀ plaintext, (deliverSecret crypto env.storage store proto key).1 = .ok plaintext →
        accepts store (checkOf env proto) =
          some ((proto.targetSpiffeId, proto.sealedForSvidVersion), proto.sequence) := by
  rw [checkOf, sequenceStep, accepts, deliverSecret]
  rcases checkAndRecord env.storage store proto.targetSpiffeId proto.sealedForSvidVersion proto.sequence with
    ⟨e | accepted, store'⟩
  · exact ⟨rfl, fun _ h => by cases h⟩
  · cases accepted with
    | false => exact ⟨rfl, fun _ h => by cases h⟩
    | true =>
      refine ⟨?_, fun _ _ => rfl⟩
      dsimp only
      cases protoToCore proto with
      | error e => rfl
      | ok core => cases h : crypto.unsealSecret key core <;> simp only [h]

/-- Without a node key nothing is asked; with one, the replay table is asked about the response's target. -/
theorem unsealWithNodeKey_cases (crypto : SealingApi) (env : RotationEnv) (store : SequenceStore)
    (proto : ProtoSealedSecret) :
    ((∃ e, (unsealWithNodeKey crypto env store proto).1 = .error e) ∧
        Grows (watermarks store) (watermarks (unsealWithNodeKey crypto env store proto).2)) ∨
      accepts store (checkOf env proto) = some ((proto.targetSpiffeId, proto.sealedForSvidVersion), proto.sequence) ∧
        (unsealWithNodeKey crypto env store proto).2 = sequenceStep store (checkOf env proto) := by
  unfold unsealWithNodeKey
  cases env.sealingSecret with
  | error e => exact Or.inl ⟨⟨e, rfl⟩, .refl _⟩
  | ok found =>
    cases found with
    | none => exact Or.inl ⟨⟨_, rfl⟩, .refl _⟩
    | some bytes =>
      dsimp only
      cases key32 bytes with
      | error got => exact Or.inl ⟨⟨_, rfl⟩, .refl _⟩
      | ok key =>
        obtain ⟨hstore, hacc⟩ := deliverSecret_spec crypto env store proto key
        dsimp only
        cases hres : (deliverSecret crypto env.storage store proto key).1 with
        | error e => exact Or.inl ⟨⟨e, rfl⟩, hstore ▸ grows_sequenceStep store _⟩
        | ok plaintext => exact Or.inr ⟨hacc plaintext hres, hstore⟩

/-- The replay table after a rotation. -/
theorem sequences_rotationStep : (rotationStep api crypto w call).sequences =
    match call.env.fetch ⟨call.spiffeId, call.svidVersion⟩ with
    | .error _ => w.sequences
    | .ok proto => (unsealWithNodeKey crypto call.env w.sequences proto).2 := by
  unfold rotationStep handleRotation
  cases call.env.fetch ⟨call.spiffeId, call.svidVersion⟩ with
  | error e => rfl
  | ok proto =>
    dsimp only
    rcases unsealWithNodeKey crypto call.env w.sequences proto with ⟨e | plaintext, sequences⟩
    · rfl
    · dsimp only
      rcases deliver api call.env w.files call.spiffeId plaintext with ⟨e | u, files⟩ <;> rfl

/-- What a response offers to write, and where. -/
structure Offers (call : RotationCall) (write : SecretWrite) (proto : ProtoSealedSecret) : Prop where
  fetched : call.env.fetch ⟨call.spiffeId, call.svidVersion⟩ = .ok proto
  converted : protoToCore proto = .ok write.sealedSecret
  target : proto.targetSpiffeId = write.target
  path : secretPath call.spiffeId = write.path

theorem protoToCore_fields {proto : ProtoSealedSecret} {core : CoreSealedSecret} (h : protoToCore proto = .ok core) :
    core.sealedForSvidVersion = proto.sealedForSvidVersion ∧ core.sequence = proto.sequence := by
  unfold protoToCore at h
  split at h
  · cases h
  · obtain rfl := Except.ok.inj h
    exact ⟨rfl, rfl⟩

theorem secretWrite_offers {write : SecretWrite} (h : secretWrite api crypto w call = some write) :
    ∃ proto, Offers call write proto ∧ ∃ plaintext, (unsealWithNodeKey crypto call.env w.sequences proto).1 =
      .ok plaintext := by
  unfold secretWrite at h
  split at h
  · cases h
  · next proto hfetch =>
    split at h
    · next core plaintext id hcore hplain _ _ =>
      obtain rfl := Option.some.inj h
      exact ⟨proto, ⟨hfetch, hcore, rfl, rfl⟩, plaintext, hplain⟩
    · cases h

/-- The pair under which the replay table knows a write. -/
def SecretWrite.pair (write : SecretWrite) : String × UInt64 := (write.target, write.sealedSecret.sealedForSvidVersion)

/-- A rotation that writes has passed the replay check and is recorded in the table. -/
theorem secretWrite_recorded {write : SecretWrite} (h : secretWrite api crypto w call = some write) :
    (watermarks w.sequences).Passes write.pair write.sealedSecret.sequence ∧
      watermarks (rotationStep api crypto w call).sequences =
        Function.update (watermarks w.sequences) write.pair (some write.sealedSecret.sequence) := by
  obtain ⟨proto, offers, plaintext, hplain⟩ := secretWrite_offers h
  obtain ⟨version, sequence⟩ := protoToCore_fields offers.converted
  rw [sequences_rotationStep, offers.fetched, SecretWrite.pair, ← offers.target, version, sequence]
  rcases unsealWithNodeKey_cases crypto call.env w.sequences proto with ⟨⟨e, hfail⟩, -⟩ | ⟨hacc, hstore⟩
  · rw [hplain] at hfail
    cases hfail
  · rcases accepts_cases w.sequences (checkOf call.env proto) with ⟨hnone, -⟩ | ⟨pair, sequence, hacc', hpass, hmarks⟩
    · rw [hacc] at hnone
      cases hnone
    · obtain ⟨rfl, rfl⟩ := Prod.mk.inj (Option.some.inj (hacc.symm.trans hacc'))
      dsimp only
      rw [hstore]
      exact ⟨hpass, hmarks⟩

theorem grows_rotationStep (api : SpiffeApi) (crypto : SealingApi) (w : SecretsWorld) (call : RotationCall) :
    Grows (watermarks w.sequences) (watermarks (rotationStep api crypto w call).sequences) := by
  rw [sequences_rotationStep]
  cases call.env.fetch ⟨call.spiffeId, call.svidVersion⟩ with
  | error e => exact .refl _
  | ok proto =>
    dsimp only
    rcases unsealWithNodeKey_cases crypto call.env w.sequences proto with ⟨-, hgrows⟩ | ⟨-, hstore⟩
    · exact hgrows
    · rw [hstore]
      exact grows_sequenceStep _ _

end Write

/-! ### Runs -/

section Runs
variable {api : SpiffeApi} {crypto : SealingApi} {calls : List RotationCall}

/-- Every write is covered by a mark of its pair. -/
def Recorded (writes : List SecretWrite) (marks : Watermarks) : Prop :=
  ∀ write ∈ writes, ∃ mark ∈ marks write.pair, write.sealedSecret.sequence ≤ mark

/-- A sealed secret that is offered for one file comes under one target. -/
def OneTarget (calls : List RotationCall) : Prop :=
  ∀ call ∈ calls, ∀ call' ∈ calls, ∀ write write' proto proto', Offers call write proto → Offers call' write' proto' →
    write.path = write'.path → write.sealedSecret = write'.sealedSecret → write.target = write'.target

theorem recorded_run (api : SpiffeApi) (crypto : SealingApi) (calls : List RotationCall) :
    Recorded (emitted (rotationStep api crypto) (secretWrite api crypto) {} calls)
      (watermarks (calls.foldl (rotationStep api crypto) {}).sequences) := by
  induction calls using List.reverseRecOn with
  | nil => exact fun _ h => nomatch h
  | append_singleton calls call ih =>
    rw [emitted_concat, List.foldl_concat]
    intro write hmem
    rcases List.mem_append.mp hmem with hmem | hmem
    · obtain ⟨mark, hmark, hle⟩ := ih write hmem
      obtain ⟨mark', hmark', hle'⟩ := grows_rotationStep api crypto _ call _ mark hmark
      exact ⟨mark', hmark', UInt64.le_trans hle hle'⟩
    · obtain ⟨-, hmarks⟩ := secretWrite_recorded (Option.mem_toList.mp hmem)
      refine ⟨write.sealedSecret.sequence, ?_, UInt64.le_refl _⟩
      rw [hmarks, Function.update_self]
      rfl

/-- In every run in which a sealed secret offered for a file keeps its target, no sealed secret is written to a file
    twice. -/
theorem secret_written_once (calls : List RotationCall) (one : OneTarget calls) :
    ((emitted (rotationStep api crypto) (secretWrite api crypto) {} calls).map
      fun write => (write.path, write.sealedSecret)).Nodup := by
  induction calls using List.reverseRecOn with
  | nil => exact List.nodup_nil
  | append_singleton calls call ih =>
    have before : OneTarget calls := fun c hc c' hc' => one c (List.mem_append_left _ hc) c' (List.mem_append_left _ hc')
    rw [emitted_concat, List.map_append]
    refine List.Nodup.append (ih before) ?_ ?_
    · cases secretWrite api crypto (calls.foldl (rotationStep api crypto) {}) call <;> simp
    · intro key hold hnew
      obtain ⟨old, holdmem, rfl⟩ := List.mem_map.mp hold
      obtain ⟨new, hnewmem, heq⟩ := List.mem_map.mp hnew
      obtain ⟨hpath, hsealed⟩ := Prod.mk.inj heq
      have hwrite := Option.mem_toList.mp hnewmem
      -- The same secret for the same file, so the same target; but its pair is marked already.
      obtain ⟨c, hc, w, hout⟩ := mem_emitted holdmem
      obtain ⟨proto, offers, -⟩ := secretWrite_offers hout
      obtain ⟨proto', offers', -⟩ := secretWrite_offers hwrite
      have htarget : new.target = old.target :=
        one call (by simp) c (List.mem_append_left _ hc) new old proto' proto offers' offers hpath hsealed
      obtain ⟨mark, hmark, hle⟩ := recorded_run api crypto calls old holdmem
      have hpair : new.pair = old.pair := by rw [SecretWrite.pair, SecretWrite.pair, htarget, hsealed]
      have fresh := (secretWrite_recorded hwrite).1.2 mark (hpair ▸ hmark)
      rw [hsealed] at fresh
      exact absurd hle (UInt64.not_le.mpr fresh)

/-! ### A relabelled secret -/

def webSecret : CoreSealedSecret where
  sealedForSvidVersion := 1
  sequence := 1
  ephemeralPubkey := .replicate 32 7
  ciphertext := []

/-- Only the one secret opens. -/
def oneSecretApi : SealingApi where
  unsealSecret _ core := if core = webSecret then .ok [42] else .error "aead::Error"

def webId : String := "spiffe://test.internal/ns/tenant-1/sa/web"

def dbId : String := "spiffe://test.internal/ns/tenant-1/sa/db"

/-- A rotation of "web" that is answered with the secret under the label `target`. -/
def rotateWeb (target : String) : RotationCall where
  spiffeId := webId
  svidVersion := 1
  env := {
    fetch := fun _ => .ok ⟨target, 1, 1, .replicate 32 7, []⟩
    sealingSecret := .ok (some (.replicate 32 9)) }

theorem secret_written_once_of_replay :
    ((emitted (rotationStep textApi oneSecretApi) (secretWrite textApi oneSecretApi) {}
      [rotateWeb webId, rotateWeb webId]).map fun write => (write.path, write.sealedSecret)).Nodup := by
  refine secret_written_once _ fun call hc call' hc' write write' proto proto' offers offers' _ _ => ?_
  have labelled : ∀ call ∈ [rotateWeb webId, rotateWeb webId], call = rotateWeb webId := by simp
  have target : ∀ call write proto, call = rotateWeb webId → Offers call write proto → write.target = webId := by
    rintro _ write proto rfl offers
    rw [← offers.target, ← Except.ok.inj offers.fetched]
  rw [target call write proto (labelled call hc) offers, target call' write' proto' (labelled call' hc') offers']

/-- The same secret under another label is written to the file again. -/
theorem secret_written_twice_of_relabelled :
    ¬((emitted (rotationStep textApi oneSecretApi) (secretWrite textApi oneSecretApi) {}
      [rotateWeb webId, rotateWeb dbId]).map fun write => (write.path, write.sealedSecret)).Nodup := by
  have writes : emitted (rotationStep textApi oneSecretApi) (secretWrite textApi oneSecretApi) {}
      [rotateWeb webId, rotateWeb dbId] = [⟨secretPath webId, webSecret, webId⟩, ⟨secretPath webId, webSecret, dbId⟩] := rfl
  rw [writes]
  simp

end Runs

end FleetosAgent.Secret
