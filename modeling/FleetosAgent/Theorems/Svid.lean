import FleetosAgent.Identity.Svid
import FleetosAgent.Lib.Run

/-! # Crashes while an SVID is stored

The four inserts of a store are not one write. The flag is inserted last, so it protects the first install; while an SVID is
installed it is set already, and every image that a crash leaves is read back as it stands. -/

namespace FleetosAgent.Identity.Svid
open Lib

variable {codec : ChainCodec}

/-! ### Images -/

/-- The storage after the entries are inserted. -/
def written (storage : SvidStore) (entries : List (List UInt8 × List UInt8)) : SvidStore :=
  entries.foldl (fun storage entry => storage.insert entry.1 entry.2) storage

/-- What a crash leaves that lets the first `taken` inserts of a store take effect; a chain that cannot be encoded is not
    inserted. -/
def crash (codec : ChainCodec) (taken : Nat) (storage : SvidStore) (certChainDer : List (List UInt8))
    (svidVersion currentGeneration : UInt64) : SvidStore :=
  match codec.encode certChainDer with
  | .error _ => storage
  | .ok certBytes => written storage ((inserts certBytes svidVersion (currentGeneration + 1)).take taken)

theorem insertAll_written (faults : KeyspaceFaults) (storage : SvidStore) (entries : List (List UInt8 × List UInt8)) :
    ∃ taken, (insertAll faults storage entries).2 = written storage (entries.take taken) := by
  induction entries generalizing storage with
  | nil => exact ⟨0, rfl⟩
  | cons entry entries ih =>
    obtain ⟨key, value⟩ := entry
    rw [insertAll, insertKey]
    cases faults.insert key value with
    | some e => exact ⟨0, rfl⟩
    | none =>
      obtain ⟨taken, h⟩ := ih (storage.insert key value)
      exact ⟨taken + 1, h⟩

/-- A store whose insert fails leaves what a crash before that insert leaves. -/
theorem store_image (faults : KeyspaceFaults) (storage : SvidStore) (certChainDer : List (List UInt8))
    (svidVersion currentGeneration : UInt64) :
    ∃ taken, (store codec faults storage certChainDer svidVersion currentGeneration).2 =
      crash codec taken storage certChainDer svidVersion currentGeneration := by
  unfold store crash
  cases codec.encode certChainDer with
  | error e => exact ⟨0, rfl⟩
  | ok certBytes =>
    obtain ⟨taken, h⟩ := insertAll_written faults storage (inserts certBytes svidVersion (currentGeneration + 1))
    refine ⟨taken, ?_⟩
    dsimp only
    rw [← h]
    cases hr : insertAll faults storage (inserts certBytes svidVersion (currentGeneration + 1)) with
    | mk result storage' => cases result <;> rfl

/-! ### What is read back -/

/-- The entries of the keyspace say `state`. -/
structure Entries (codec : ChainCodec) (storage : SvidStore) (state : SvidState) : Prop where
  chain : ∃ raw, storage.get KEY_CERT_CHAIN = some raw ∧ codec.decode raw = .ok state.certChainDer
  version : storage.get KEY_VERSION = some (toLeBytes state.svidVersion)
  generation : storage.get KEY_GENERATION = some (toLeBytes state.generation)

def Installed (storage : SvidStore) : Prop := isInstalled (storage.get KEY_INSTALLED) = true

theorem fromLeBytes_toLeBytes (corrupt : String) (n : UInt64) : fromLeBytes corrupt (toLeBytes n) = .ok n := by
  have lt : n.toNat < 256 ^ 8 := n.toNat_lt
  rw [fromLeBytes, toLeBytes, if_pos (length_leBytes 8 _), ofLeBytes_leBytes lt, UInt64.ofNat_toNat]

theorem load_of_not_installed {storage : SvidStore} (h : ¬Installed storage) : load codec {} storage = .ok {} := by
  have flag : isInstalled (storage.get KEY_INSTALLED) = false := Bool.eq_false_iff.mpr h
  show (if !isInstalled (storage.get KEY_INSTALLED) then _ else _) = _
  rw [flag]
  rfl

theorem load_of_entries {storage : SvidStore} {state : SvidState} (h : Installed storage)
    (entries : Entries codec storage state) :
    load codec {} storage = .ok state := by
  obtain ⟨raw, hraw, hdecode⟩ := entries.chain
  have flag : isInstalled (storage.get KEY_INSTALLED) = true := h
  simp only [load, getKey, bind, Except.bind, flag, hraw, entries.version, entries.generation, required, hdecode,
    Except.mapError, fromLeBytes_toLeBytes]
  rfl

section Crash
variable {storage : SvidStore} {certChainDer : List (List UInt8)} {certBytes : List UInt8}
  {svidVersion currentGeneration : UInt64}

theorem crash_of_encoded (h : codec.encode certChainDer = .ok certBytes) (taken : Nat) :
    crash codec taken storage certChainDer svidVersion currentGeneration =
      written storage ((inserts certBytes svidVersion (currentGeneration + 1)).take taken) := by
  rw [crash, h]

/-- The flag is inserted last. -/
theorem installed_crash (h : codec.encode certChainDer = .ok certBytes) (taken : Nat) :
    Installed (crash codec taken storage certChainDer svidVersion currentGeneration) ↔ 4 ≤ taken ∨ Installed storage := by
  rw [crash_of_encoded h]
  unfold Installed written inserts
  rcases taken with _ | _ | _ | _ | taken <;> simp +decide [FinMap.get_insert, isInstalled]

/-- With three inserts the entries are the new ones. -/
theorem entries_crash (h : codec.encode certChainDer = .ok certBytes) {taken : Nat} (htaken : 3 ≤ taken) :
    Entries codec (crash codec taken storage certChainDer svidVersion currentGeneration)
      ⟨certChainDer, svidVersion, currentGeneration + 1⟩ := by
  rw [crash_of_encoded h]
  obtain ⟨rest, rfl⟩ := Nat.exists_eq_add_of_le' htaken
  refine ⟨⟨certBytes, ?_, codec.decode_encode _ _ h⟩, ?_, ?_⟩ <;>
    cases rest <;> simp +decide [written, inserts, FinMap.get_insert]

/-- With one insert the chain is new, and the version and the generation are the old ones. -/
theorem entries_crash_one (h : codec.encode certChainDer = .ok certBytes) {old : SvidState}
    (entries : Entries codec storage old) :
    Entries codec (crash codec 1 storage certChainDer svidVersion currentGeneration)
      ⟨certChainDer, old.svidVersion, old.generation⟩ := by
  rw [crash_of_encoded h]
  refine ⟨⟨certBytes, ?_, codec.decode_encode _ _ h⟩, ?_, ?_⟩ <;>
    simp +decide [written, inserts, FinMap.get_insert, entries.version, entries.generation]

theorem entries_crash_two (h : codec.encode certChainDer = .ok certBytes) {old : SvidState}
    (entries : Entries codec storage old) :
    Entries codec (crash codec 2 storage certChainDer svidVersion currentGeneration)
      ⟨certChainDer, svidVersion, old.generation⟩ := by
  rw [crash_of_encoded h]
  refine ⟨⟨certBytes, ?_, codec.decode_encode _ _ h⟩, ?_, ?_⟩ <;>
    simp +decide [written, inserts, FinMap.get_insert, entries.generation]

/-! ### Every storage that a node can have -/

/-- What happens to the keyspace: a store, which may fail at an insert, a crash inside a store, and a clear. -/
inductive SvidOp where
  | store (faults : KeyspaceFaults) (certChainDer : List (List UInt8)) (svidVersion currentGeneration : UInt64)
  | crash (taken : Nat) (certChainDer : List (List UInt8)) (svidVersion currentGeneration : UInt64)
  | clear (faults : KeyspaceFaults)

def SvidOp.apply (codec : ChainCodec) (storage : SvidStore) : SvidOp → SvidStore
  | .store faults certChainDer svidVersion currentGeneration =>
    (Svid.store codec faults storage certChainDer svidVersion currentGeneration).2
  | .crash taken certChainDer svidVersion currentGeneration =>
    Svid.crash codec taken storage certChainDer svidVersion currentGeneration
  | .clear faults => (Svid.clear faults storage).2

/-- The storage of a node after a history. -/
def persisted (codec : ChainCodec) (history : List SvidOp) : SvidStore := history.foldl (SvidOp.apply codec) ∅

/-- While the flag is set, the entries can be read. -/
def Readable (codec : ChainCodec) (storage : SvidStore) : Prop := Installed storage → ∃ state, Entries codec storage state

theorem Readable.crash (hr : Readable codec storage) (taken : Nat) :
    Readable codec (Svid.crash codec taken storage certChainDer svidVersion currentGeneration) := by
  cases h : codec.encode certChainDer with
  | error e =>
    rw [Svid.crash, h]
    exact hr
  | ok certBytes =>
    intro hinstalled
    rcases (installed_crash h taken).mp hinstalled with hfour | hold
    · exact ⟨_, entries_crash h (by omega)⟩
    · obtain ⟨old, entries⟩ := hr hold
      rcases taken with _ | _ | _ | taken
      · rw [crash_of_encoded h]
        exact ⟨old, entries⟩
      · exact ⟨_, entries_crash_one h entries⟩
      · exact ⟨_, entries_crash_two h entries⟩
      · exact ⟨_, entries_crash h (by omega)⟩

theorem Readable.clear (hr : Readable codec storage) (faults : KeyspaceFaults) :
    Readable codec (Svid.clear faults storage).2 := by
  unfold Svid.clear insertKey
  cases faults.insert KEY_INSTALLED [0] with
  | some e => exact hr
  | none =>
    intro hinstalled
    simp [Installed, isInstalled] at hinstalled

theorem readable_persisted (history : List SvidOp) : Readable codec (persisted codec history) := by
  induction history using List.reverseRecOn with
  | nil => intro hinstalled; simp [Installed, persisted, isInstalled] at hinstalled
  | append_singleton history op ih =>
    rw [persisted, List.foldl_concat]
    cases op with
    | store faults certChainDer svidVersion currentGeneration =>
      obtain ⟨taken, himage⟩ := store_image faults (persisted codec history) certChainDer svidVersion currentGeneration
      show Readable codec (Svid.store codec faults (persisted codec history) certChainDer svidVersion currentGeneration).2
      rw [himage]
      exact ih.crash taken
    | crash taken certChainDer svidVersion currentGeneration => exact ih.crash taken
    | clear faults => exact ih.clear faults

/-! ### Atomicity -/

/-- A store of this state was cut short, by a failing insert or a crash, or ended. -/
def Interrupted (codec : ChainCodec) (storage : SvidStore) (certChainDer : List (List UInt8))
    (svidVersion currentGeneration : UInt64) (t : SvidStore) : Prop :=
  (∃ faults, t = (store codec faults storage certChainDer svidVersion currentGeneration).2) ∨
    ∃ taken, t = crash codec taken storage certChainDer svidVersion currentGeneration

/-- However a store ends, the next load returns the state from before or the new one. -/
def CrashAtomic (codec : ChainCodec) (storage : SvidStore) (certChainDer : List (List UInt8))
    (svidVersion currentGeneration : UInt64) : Prop :=
  ∃ prev, load codec {} storage = .ok prev ∧ ∀ t, Interrupted codec storage certChainDer svidVersion currentGeneration t →
    load codec {} t = .ok prev ∨ load codec {} t = .ok ⟨certChainDer, svidVersion, currentGeneration + 1⟩

/-- The two states differ in at most one of chain, version and generation. -/
def OneFieldApart (old new : SvidState) : Prop :=
  (old.certChainDer = new.certChainDer ∧ old.svidVersion = new.svidVersion) ∨
    (old.certChainDer = new.certChainDer ∧ old.generation = new.generation) ∨
    (old.svidVersion = new.svidVersion ∧ old.generation = new.generation)

/-- The two mixtures that the inserts pass through, of the new chain with the old rest and of the old generation with the
    new rest, are both one of the two states. -/
theorem oneFieldApart_iff {old new : SvidState} : OneFieldApart old new ↔
    (⟨new.certChainDer, old.svidVersion, old.generation⟩ = old ∨
      ⟨new.certChainDer, old.svidVersion, old.generation⟩ = new) ∧
      (⟨new.certChainDer, new.svidVersion, old.generation⟩ = old ∨ ⟨new.certChainDer, new.svidVersion, old.generation⟩ =
        new) := by
  obtain ⟨chain, version, generation⟩ := old
  obtain ⟨chain', version', generation'⟩ := new
  simp only [OneFieldApart, SvidState.mk.injEq, true_and, and_true]
  constructor
  · rintro (⟨rfl, rfl⟩ | ⟨rfl, rfl⟩ | ⟨rfl, rfl⟩)
    · exact ⟨Or.inl rfl, Or.inl ⟨rfl, rfl⟩⟩
    · exact ⟨Or.inl rfl, Or.inr rfl⟩
    · exact ⟨Or.inr ⟨rfl, rfl⟩, Or.inr rfl⟩
  · rintro ⟨rfl | ⟨rfl, rfl⟩, second⟩
    · rcases second with ⟨-, rfl⟩ | rfl
      · exact Or.inl ⟨rfl, rfl⟩
      · exact Or.inr (Or.inl ⟨rfl, rfl⟩)
    · exact Or.inr (Or.inr ⟨rfl, rfl⟩)

/-- Every interruption leaves an image of a crash. -/
theorem forall_interrupted {P : SvidStore → Prop} :
    (∀ t, Interrupted codec storage certChainDer svidVersion currentGeneration t → P t) ↔
      ∀ taken, P (crash codec taken storage certChainDer svidVersion currentGeneration) := by
  constructor
  · intro h taken
    exact h _ (Or.inr ⟨taken, rfl⟩)
  · rintro h t (⟨faults, rfl⟩ | ⟨taken, rfl⟩)
    · obtain ⟨taken, himage⟩ := store_image faults storage certChainDer svidVersion currentGeneration
      rw [himage]
      exact h taken
    · exact h taken

/-- Over an installed state, the images of the first two inserts decide. -/
theorem crashAtomic_of_installed (h : codec.encode certChainDer = .ok certBytes) (hinstalled : Installed storage)
    {old : SvidState} (entries : Entries codec storage old) :
    CrashAtomic codec storage certChainDer svidVersion currentGeneration ↔
      OneFieldApart old ⟨certChainDer, svidVersion, currentGeneration + 1⟩ := by
  have still : ∀ taken, Installed (crash codec taken storage certChainDer svidVersion currentGeneration) :=
    fun taken => (installed_crash h taken).mpr (Or.inr hinstalled)
  have before := load_of_entries hinstalled entries
  have one := load_of_entries (still 1) (entries_crash_one h entries)
  have two := load_of_entries (still 2) (entries_crash_two h entries)
  have later : ∀ taken, 3 ≤ taken → load codec {} (crash codec taken storage certChainDer svidVersion currentGeneration) =
      .ok ⟨certChainDer, svidVersion, currentGeneration + 1⟩ :=
    fun taken htaken => load_of_entries (still taken) (entries_crash h htaken)
  unfold CrashAtomic
  rw [oneFieldApart_iff]
  constructor
  · rintro ⟨prev, hprev, hall⟩
    obtain rfl := Except.ok.inj (before.symm.trans hprev)
    rw [forall_interrupted] at hall
    have first := hall 1
    have second := hall 2
    rw [one, Except.ok.injEq, Except.ok.injEq] at first
    rw [two, Except.ok.injEq, Except.ok.injEq] at second
    exact ⟨first, second⟩
  · rintro ⟨first, second⟩
    refine ⟨old, before, forall_interrupted.mpr fun taken => ?_⟩
    rcases taken with _ | _ | _ | taken
    · rw [crash_of_encoded h]
      exact Or.inl before
    · rw [one, Except.ok.injEq, Except.ok.injEq]
      exact first
    · rw [two, Except.ok.injEq, Except.ok.injEq]
      exact second
    · exact Or.inr (later _ (by omega))

/-- Where nothing is installed, the flag decides: up to it the load returns the default, after it the new state. -/
theorem crashAtomic_of_not_installed (hnone : ¬Installed storage) :
    CrashAtomic codec storage certChainDer svidVersion currentGeneration := by
  refine ⟨{}, load_of_not_installed hnone, forall_interrupted.mpr fun taken => ?_⟩
  cases h : codec.encode certChainDer with
  | error e =>
    rw [crash, h]
    exact Or.inl (load_of_not_installed hnone)
  | ok certBytes =>
    by_cases hfour : 4 ≤ taken
    · exact Or.inr (load_of_entries ((installed_crash h taken).mpr (Or.inl hfour)) (entries_crash h (by omega)))
    · exact Or.inl (load_of_not_installed fun hinstalled => ((installed_crash h taken).mp hinstalled).elim hfour hnone)

end Crash

/-- After any history of stores, crashes and clears, a store is crash-atomic exactly if it fails before its first insert, or
    no SVID is installed, or the new state differs from the installed one in at most one of chain, version and
    generation. -/
theorem crashAtomic_iff (codec : ChainCodec) (history : List SvidOp) (certChainDer : List (List UInt8))
    (svidVersion currentGeneration : UInt64) :
    CrashAtomic codec (persisted codec history) certChainDer svidVersion currentGeneration ↔
      (∃ e, codec.encode certChainDer = .error e) ∨ ¬Installed (persisted codec history) ∨
        ∃ old, load codec {} (persisted codec history) = .ok old ∧
          OneFieldApart old ⟨certChainDer, svidVersion, currentGeneration + 1⟩ := by
  by_cases hinstalled : Installed (persisted codec history)
  · obtain ⟨old, entries⟩ := readable_persisted history hinstalled
    have before := load_of_entries hinstalled entries
    cases h : codec.encode certChainDer with
    | error e =>
      refine iff_of_true ⟨old, before, forall_interrupted.mpr fun taken => ?_⟩ (Or.inl ⟨e, rfl⟩)
      rw [crash, h]
      exact Or.inl before
    | ok certBytes =>
      rw [crashAtomic_of_installed h hinstalled entries]
      constructor
      · intro hone
        exact Or.inr (Or.inr ⟨old, before, hone⟩)
      · rintro (⟨e, he⟩ | hnone | ⟨old', hold', hone⟩)
        · cases he
        · exact absurd hinstalled hnone
        · obtain rfl := Except.ok.inj (before.symm.trans hold')
          exact hone
  · exact iff_of_true (crashAtomic_of_not_installed hinstalled) (Or.inr (Or.inl hinstalled))

/-- Chains of one certificate, written as it is. -/
def singleCert : ChainCodec where
  encode
    | [cert] => .ok cert
    | _ => .error "not a single certificate"
  decode raw := .ok [raw]
  decode_encode
    | [_], _, h => by cases h; rfl

/-- A rotation that crashes after its first insert leaves the new chain with the old version and generation. -/
theorem rotation_crash_mixes :
    let storage := persisted singleCert [.store {} [[1]] 1 0]
    load singleCert {} (crash singleCert 1 storage [[2]] 2 1) = .ok ⟨[[2]], 1, 1⟩ ∧
    ¬CrashAtomic singleCert storage [[2]] 2 1 := by
  intro storage
  have before : load singleCert {} storage = .ok ⟨[[1]], 1, 1⟩ := rfl
  have mixed : load singleCert {} (crash singleCert 1 storage [[2]] 2 1) = .ok ⟨[[2]], 1, 1⟩ := rfl
  refine ⟨mixed, ?_⟩
  rintro ⟨prev, hprev, hall⟩
  obtain rfl := Except.ok.inj (before.symm.trans hprev)
  have hmixed := hall _ (Or.inr ⟨1, rfl⟩)
  rw [mixed, Except.ok.injEq, Except.ok.injEq] at hmixed
  exact absurd hmixed (by decide)

end FleetosAgent.Identity.Svid
