import FleetosAgent.Join
import FleetosAgent.Theorems.Generations
import FleetosAgent.Theorems.Keystore

/-! # The steps of a start

One rule for each piece of a start: what the storage and the log of calls are at each moment of it. -/

namespace FleetosAgent.Identity
open Lib Secret

section Master
variable {api : LawfulKeystoreApi} {keystore : TpmSealedStore api.toKeystoreApi} {store store' : DelegationStore}
  {contents contents' : FinMap (List UInt8) (List UInt8)} {master master' : Option (Bytes 32)} {key : Bytes 32}
  {keyLabel plaintext : List UInt8} {env : SealEnv api.toKeystoreApi} {answer : Except AgentError Unit}

theorem insertKey_get_ne {faults : KeyspaceFaults} {value other : List UInt8}
    (hinsert : insertKey faults store keyLabel value = (answer, store')) (h : other ≠ keyLabel) :
    store'.get other = store.get other := by
  unfold insertKey at hinsert
  cases hfault : faults.insert keyLabel value with
  | some e =>
    rw [hfault] at hinsert
    cases hinsert
    rfl
  | none =>
    rw [hfault] at hinsert
    cases hinsert
    exact FinMap.get_insert_ne _ _ h

theorem getOrCreateSoftwareMasterKey_same (faults : KeyspaceFaults) (keypair : Bytes 32 × Bytes 32)
    (h : Keeps keystore store contents (some key)) :
    ∃ answer, getOrCreateSoftwareMasterKey faults keypair store = some (answer, store) := by
  cases hget : faults.get SOFTWARE_MASTER_KEY_LABEL with
  | some e =>
    refine ⟨.error (.storage e), ?_⟩
    rw [getOrCreateSoftwareMasterKey, hget]
  | none => exact ⟨_, getOrCreateSoftwareMasterKey_of_master hget h⟩

theorem softwareSeal_masterKey (h : Keeps keystore store contents (some key))
    (hlabel : keyLabel ≠ SOFTWARE_MASTER_KEY_LABEL)
    (hseal : softwareSeal api.toKeystoreApi env store keyLabel plaintext = some (answer, store')) :
    store'.get SOFTWARE_MASTER_KEY_LABEL = store.get SOFTWARE_MASTER_KEY_LABEL := by
  obtain ⟨found, hfound⟩ := getOrCreateSoftwareMasterKey_same env.faults env.keypair h
  rw [softwareSeal, hfound, Option.bind_eq_bind, Option.bind_some] at hseal
  cases found with
  | error e =>
    cases hseal
    rfl
  | ok pair =>
    dsimp only at hseal
    cases hsecret : env.sealSecret pair.2 plaintext 0 1 with
    | error e =>
      rw [hsecret] at hseal
      cases hseal
      rfl
    | ok secret =>
      rw [hsecret] at hseal
      dsimp only at hseal
      cases hencode : api.encodeSecret secret with
      | error e =>
        rw [hencode] at hseal
        cases hseal
        rfl
      | ok bytes =>
        rw [hencode] at hseal
        exact insertKey_get_ne (Option.some.inj hseal) hlabel.symm

theorem envelopeSeal_masterKey (env : SealEnv api.toKeystoreApi) (endpoint : api.TpmEndpoint) (store : DelegationStore)
    (plaintext : List UInt8) (hlabel : keyLabel ≠ SOFTWARE_MASTER_KEY_LABEL) :
    (envelopeSeal api.toKeystoreApi env endpoint store keyLabel plaintext).2.get SOFTWARE_MASTER_KEY_LABEL =
      store.get SOFTWARE_MASTER_KEY_LABEL := by
  unfold envelopeSeal
  split
  · rfl
  · split
    · rfl
    · split
      · rfl
      · exact insertKey_get_ne rfl hlabel.symm

/-- A store leaves a master key that there is. -/
theorem storeSealed_masterKey (faithful : env.Faithful) (h : Keeps keystore store contents (some key))
    (hlabel : keyLabel ≠ SOFTWARE_MASTER_KEY_LABEL)
    (hstore : keystore.storeSealed env store keyLabel plaintext = some (answer, store')) :
    store'.get SOFTWARE_MASTER_KEY_LABEL = store.get SOFTWARE_MASTER_KEY_LABEL := by
  unfold TpmSealedStore.storeSealed at hstore
  cases hendpoint : keystore.endpoint with
  | none =>
    rw [hendpoint] at hstore
    exact softwareSeal_masterKey h hlabel hstore
  | some endpoint =>
    rw [hendpoint] at hstore
    dsimp only at hstore
    split at hstore
    · have kept := envelopeSeal_keeps plaintext faithful h hlabel hendpoint
      have same := envelopeSeal_masterKey env endpoint store plaintext hlabel
      cases hsealed : envelopeSeal api.toKeystoreApi env endpoint store keyLabel plaintext with
      | mk sealedAnswer sealedStore =>
        rw [hsealed] at kept same hstore
        cases sealedAnswer with
        | ok =>
          cases hstore
          exact same
        | error e => exact (softwareSeal_masterKey kept hlabel hstore).trans same
    · split at hstore
      · exact softwareSeal_masterKey h hlabel hstore
      · split at hstore
        · cases hstore
          rfl
        · exact insertKey_get_ne (Option.some.inj hstore) hlabel.symm

theorem toList_append_inj {m n : Nat} {a a' : Bytes m} {b b' : Bytes n}
    (h : a.toList ++ b.toList = a'.toList ++ b'.toList) : a = a' :=
  Vector.toList_inj.mp (List.append_inj_left h (by simp))

/-- The store of a master key between the inserts of a `store_sealed`. -/
theorem Keeps.same_master (faithful : env.Faithful) (h : Keeps keystore store contents master)
    (h' : Keeps keystore store' contents' master') (hlabel : keyLabel ≠ SOFTWARE_MASTER_KEY_LABEL)
    (hstore : keystore.storeSealed env store keyLabel plaintext = some (answer, store')) :
    ∀ key, master = some key → master' = some key := by
  rintro key rfl
  have same := storeSealed_masterKey faithful h hlabel hstore
  rw [h.masterKey, h'.masterKey] at same
  cases master' with
  | none => cases same
  | some key' => exact congrArg some (toList_append_inj (Option.some.inj same))

/-- Only the software unsealing reads the storage again. -/
theorem unsealRaw_ok {env : LoadEnv} {raw : List UInt8} {value : Option (List UInt8)}
    (h : Keeps keystore store contents master) (hraw : SealedAs api keystore.endpoint master keyLabel plaintext raw)
    (hunseal : keystore.unsealRaw env store keyLabel raw = some (.ok value, store')) : value = some plaintext := by
  cases hfault : env.faults.get SOFTWARE_MASTER_KEY_LABEL with
  | none =>
    cases hunseal.symm.trans (unsealRaw_sealed hfault h hraw)
    rfl
  | some e =>
    have plain : keystore.unsealRaw { keypair := env.keypair } store keyLabel raw = some (.ok (some plaintext), store) :=
      unsealRaw_sealed rfl h hraw
    cases hraw with
    | tpm =>
      rw [unsealRaw_cons, if_pos rfl] at hunseal plain
      cases hunseal.symm.trans plain
      rfl
    | software =>
      rw [unsealRaw_cons, if_neg (by decide), if_neg (by decide), if_pos rfl, softwareUnsealFromBytes,
        getOrCreateSoftwareMasterKey, hfault] at hunseal
      cases hunseal
    | envelope =>
      rw [envelopeBytes, unsealRaw_cons, if_neg (by decide), if_pos rfl] at hunseal plain
      cases hunseal.symm.trans plain
      rfl

/-- A load that succeeds gives what the keyspace represents, whatever else of the storage fails. -/
theorem loadSealed_ok {env : LoadEnv} {value : Option (List UInt8)} (h : Keeps keystore store contents master)
    (hlabel : keyLabel ≠ SOFTWARE_MASTER_KEY_LABEL)
    (hload : keystore.loadSealed env store keyLabel = some (.ok value, store')) :
    value = contents.get keyLabel := by
  rw [TpmSealedStore.loadSealed] at hload
  cases hfault : env.faults.get keyLabel with
  | some e =>
    rw [hfault] at hload
    cases hload
  | none =>
    rw [hfault] at hload
    dsimp only at hload
    cases hcontents : contents.get keyLabel with
    | none =>
      rw [h.absent keyLabel hlabel hcontents] at hload
      cases hload
      rfl
    | some plaintext =>
      obtain ⟨raw, hraw, hsealed⟩ := h.stored keyLabel hlabel plaintext hcontents
      have hne : raw ≠ [] := by
        rintro rfl
        cases hsealed
      rw [hraw] at hload
      dsimp only at hload
      rw [if_neg hne] at hload
      exact unsealRaw_ok h hsealed hload

end Master

end FleetosAgent.Identity

namespace FleetosAgent.Join
open Lib Client Identity Secret Traced

/-! ### Sealed keys -/

section Sealed
variable {lawful : LawfulKeystoreApi} {keystore : TpmSealedStore lawful.toKeystoreApi} {store store' : DelegationStore}
  {contents contents' : FinMap (List UInt8) (List UInt8)} {master master' : Option (Bytes 32)}

theorem Keeps.withMasterKeyOf (h : Keeps keystore store contents master) (h' : Keeps keystore store' contents' master')
    (same : ∀ key, master = some key → master' = some key) :
    Keeps keystore (withMasterKeyOf store' store) contents master' := by
  refine h.grow ⟨?_, fun other hother => ?_, same⟩ <;> rw [Join.withMasterKeyOf, h'.masterKey] <;> cases master' with
  | none =>
    cases master with
    | none => first | exact h.masterKey | rfl
    | some key => exact absurd (same key rfl) (by simp)
  | some key => first | exact FinMap.get_insert_self .. | exact FinMap.get_insert_ne _ _ hother

variable {I : NodeState → Prop} {E : Halt → NodeState → Prop} {node : NodeState} {env : SealEnv lawful.toKeystoreApi}
  {keyLabel plaintext : List UInt8}

/-- Until the value is inserted the keyspace represents what it did, and from then on the value too. -/
theorem wp_storeSealed {Q : Unit → NodeState → Prop} (faithful : env.Faithful)
    (hlabel : keyLabel ≠ SOFTWARE_MASTER_KEY_LABEL) (h : Keeps keystore node.delegation contents master)
    (before : ∀ store master, Keeps keystore store contents master →
      I { node with delegation := store } ∧ ∀ e, E (.failed e) { node with delegation := store })
    (after : ∀ store master, Keeps keystore store (contents.insert keyLabel plaintext) master →
      I { node with delegation := store } ∧ Q () { node with delegation := store }) :
    wp I (storeSealed keystore env keyLabel plaintext) Q E node := by
  obtain ⟨answer, store, master', hstore, kept⟩ := storeSealed_stores plaintext faithful h hlabel
  have between := Keeps.withMasterKeyOf h kept (h.same_master faithful kept hlabel hstore)
  rw [storeSealed, wp_bind, wp_get, hstore, wp_bind, wp_modify, wp_bind, wp_modify]
  refine ⟨(before _ _ between).1, ?_⟩
  cases answer with
  | ok =>
    obtain ⟨hI, hQ⟩ := after store master' kept
    exact ⟨hI, wp_ofExcept (fun _ _ => hQ) fun _ h => (by cases h)⟩
  | error e =>
    obtain ⟨hI, hE⟩ := before store master' kept
    refine ⟨hI, wp_ofExcept (fun _ h => (by cases h)) fun halt hhalt => ?_⟩
    obtain rfl := Except.error.inj hhalt
    exact hE _

end Sealed

/-! ### The SVID -/

section
variable {α : Type} {I : NodeState → Prop} {E : Halt → NodeState → Prop} {node : NodeState}

theorem mapError_eq_ok {ε ε' : Type} {x : Except ε α} {f : ε → ε'} {a : α} : x.mapError f = .ok a ↔ x = .ok a := by
  cases x <;> simp [Except.mapError]

theorem wp_orFailed {Q : α → NodeState → Prop} {x : Except StartError α} (hok : ∀ a, x = .ok a → Q a node)
    (herr : ∀ e, x = .error e → E (.failed e) node) : wp I (orFailed x) Q E node := by
  cases x with
  | ok a => exact wp_ofExcept (fun _ h => Except.ok.inj h ▸ hok a rfl) fun _ h => (by cases h)
  | error e => exact wp_ofExcept (fun _ h => (by cases h)) fun _ h => Except.error.inj h ▸ herr e rfl

theorem wp_orAgentError {Q : α → NodeState → Prop} {x : Except AgentError α} (hok : ∀ a, x = .ok a → Q a node)
    (herr : ∀ e, x = .error e → E (.failed (.agent e)) node) : wp I (orAgentError x) Q E node := by
  cases x with
  | ok a => exact wp_orFailed (fun _ h => Except.ok.inj h ▸ hok a rfl) fun _ h => (by cases h)
  | error e => exact wp_orFailed (fun _ h => (by cases h)) fun _ h => Except.error.inj h ▸ herr e rfl

theorem wp_orAttestation {Q : α → NodeState → Prop} {what : String} {x : Except String α} (hok : ∀ a, x = .ok a → Q a node)
    (herr : ∀ e, x = .error e → ∀ e', E (.failed e') node) : wp I (orAttestation what x) Q E node := by
  cases x with
  | ok a => exact wp_orAgentError (fun _ h => Except.ok.inj h ▸ hok a rfl) fun _ h => (by cases h)
  | error e => exact wp_orAgentError (fun _ h => (by cases h)) fun _ _ => herr e rfl _

variable {codec : Svid.ChainCodec} {faults : KeyspaceFaults}

theorem wp_loadSvid {Q : Svid.SvidState → NodeState → Prop}
    (hok : ∀ state, Svid.load codec faults node.svid = .ok state → Q state node)
    (herr : ∀ e, Svid.load codec faults node.svid = .error e → E (.failed (.agent e)) node) :
    wp I (loadSvid codec faults) Q E node := by
  rw [loadSvid, wp_bind, wp_get]
  exact wp_orAgentError hok herr

theorem wp_insertSvid {Q : Unit → NodeState → Prop} {key value : List UInt8}
    (hok : I { node with svid := node.svid.insert key value } ∧ Q () { node with svid := node.svid.insert key value })
    (hfault : ∀ text, faults.insert key value = some text → E (.failed (.agent (.storage text))) node) :
    wp I (insertSvid faults key value) Q E node := by
  rw [insertSvid, wp_bind, wp_get, insertKey]
  cases h : faults.insert key value with
  | some text => exact wp_fail.mpr (hfault text h)
  | none => exact wp_modify.mpr hok

/-- Where no SVID is installed, a store is seen only when its last insert is made, and then whole. -/
theorem wp_storeSvid {Q : Unit → NodeState → Prop} {certChainDer : List (List UInt8)}
    {svidVersion currentGeneration : UInt64} (hnone : ¬Svid.Installed node.svid)
    (before : ∀ svid, ¬Svid.Installed svid → I { node with svid := svid } ∧ ∀ e, E (.failed e) { node with svid := svid })
    (after : ∀ svid, Svid.Installed svid → Svid.Entries codec svid ⟨certChainDer, svidVersion, currentGeneration + 1⟩ →
      I { node with svid := svid } ∧ Q () { node with svid := svid }) :
    wp I (storeSvid codec faults certChainDer svidVersion currentGeneration) Q E node := by
  rw [storeSvid, wp_bind]
  refine wp_orAgentError (fun certBytes h => ?_) fun e _ => (before node.svid hnone).2 _
  have hencode : codec.encode certChainDer = .ok certBytes := mapError_eq_ok.mp h
  -- What the first inserts leave.
  let image := fun taken => Svid.written node.svid ((Svid.inserts certBytes svidVersion (currentGeneration + 1)).take taken)
  have himage : ∀ taken, Svid.crash codec taken node.svid certChainDer svidVersion currentGeneration = image taken :=
    Svid.crash_of_encoded hencode
  have installed : ∀ taken, Svid.Installed (image taken) ↔ 4 ≤ taken ∨ Svid.Installed node.svid := by
    intro taken
    rw [← himage]
    exact Svid.installed_crash hencode taken
  have entries : Svid.Entries codec (image 4) ⟨certChainDer, svidVersion, currentGeneration + 1⟩ :=
    himage 4 ▸ Svid.entries_crash hencode (by omega)
  have step : ∀ taken, taken < 4 → I { node with svid := image taken } ∧
      ∀ e, E (.failed e) { node with svid := image taken } :=
    fun taken hlt => before _ fun h => ((installed taken).mp h).elim (by omega) hnone
  rw [wp_bind]
  refine wp_insertSvid ⟨(step 1 (by omega)).1, ?_⟩ fun _ _ => (step 0 (by omega)).2 _
  rw [wp_bind]
  refine wp_insertSvid ⟨(step 2 (by omega)).1, ?_⟩ fun _ _ => (step 1 (by omega)).2 _
  rw [wp_bind]
  refine wp_insertSvid ⟨(step 3 (by omega)).1, ?_⟩ fun _ _ => (step 2 (by omega)).2 _
  exact wp_insertSvid (after _ ((installed 4).mpr (Or.inl (by omega))) entries) fun _ _ => (step 3 (by omega)).2 _

end

/-! ### Calls -/

/-- Where a loop goes on after an error. -/
def Link.follow (link : Link) (status : Status) : Option Link :=
  match classifyError status link.redirectHops with
  | .redirectAndRetry newTarget _ => some ⟨newTarget, link.redirectHops + 1⟩
  | .retrySameTarget _ => some link
  | .giveUp _ => none

section Calls
variable {Resp : Type} {wrap : Resp → JoinReply} {trustBundlePem name : String} {request : JoinRequest}
  {I : NodeState → Prop} {E : Halt → NodeState → Prop} {Q : Resp × Link → NodeState → Prop} {J : Link → NodeState → Prop}

/-- A loop keeps what each error that it goes on after keeps. -/
theorem wp_callLoop {attempts : List (Attempt Resp)} {link : Link} {node : NodeState} (hJ : J link node)
    (hsent : ∀ link node reply, J link node → I (node.sent ⟨link.target, request, reply⟩) ∧
      ∀ halt, E halt (node.sent ⟨link.target, request, reply⟩))
    (hok : ∀ link node resp, J link node → Q (resp, link) (node.sent ⟨link.target, request, some (.ok (wrap resp))⟩))
    (hagain : ∀ link node status link', J link node → link.follow status = some link' →
      J link' (node.sent ⟨link.target, request, some (.error status)⟩)) :
    wp I (callLoop wrap trustBundlePem name request attempts link) Q E node := by
  induction attempts generalizing link node with
  | nil =>
    rw [callLoop, wp_bind, record, wp_modify, wp_fail]
    exact ⟨(hsent link node none hJ).1, (hsent link node none hJ).2 _⟩
  | cons attempt attempts ih =>
    rw [callLoop, wp_bind, record, wp_modify]
    refine ⟨(hsent link node _ hJ).1, ?_⟩
    cases hreply : attempt.reply with
    | ok resp => exact wp_pure.mpr (hok link node resp hJ)
    | error status =>
      have failed := (hsent link node (some (.error status)) hJ).2
      have again := hagain link node status
      simp only [Link.follow] at again
      dsimp only
      split
      · next newTarget delay haction =>
        rw [haction] at again
        rw [wp_bind]
        exact wp_orFailed (fun _ _ => ih (again _ hJ rfl)) fun e _ => failed _
      · next delay haction =>
        rw [haction] at again
        exact ih (again _ hJ rfl)
      · exact wp_fail.mpr (failed _)

end Calls

end FleetosAgent.Join
