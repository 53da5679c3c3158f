import FleetosAgent.Client.Rotation
import FleetosAgent.Theorems.Svid

/-! # Generations

A store bumps the generation it loads, and a load that finds no SVID installed returns generation 0, whatever was written
before. So the generations grow as long as the flag stays set, and start over after a clear; and a client that has seen the
first generation 1 does not notice the second. Nor does it notice an SVID that nobody has written into `svid_state`. -/

namespace FleetosAgent.Identity.Svid
open Lib

variable {codec : ChainCodec} {faults : KeyspaceFaults} {storage : SvidStore} {state : SvidState}
  {certChainDer : List (List UInt8)} {certBytes : List UInt8} {svidVersion current : UInt64}
  {entries rest : List (List UInt8 × List UInt8)}

/-! ### What a store writes -/

theorem insertAll_append (faults : KeyspaceFaults) (storage : SvidStore) (entries rest : List (List UInt8 × List UInt8)) :
    insertAll faults storage (entries ++ rest) =
      match insertAll faults storage entries with
      | (.error e, storage) => (.error e, storage)
      | (.ok (), storage) => insertAll faults storage rest := by
  induction entries generalizing storage with
  | nil => rfl
  | cons entry entries ih =>
    obtain ⟨key, value⟩ := entry
    rw [List.cons_append, insertAll, insertAll, insertKey]
    cases faults.insert key value with
    | some e => rfl
    | none => exact ih (storage.insert key value)

/-- All entries are inserted, or those before the insert that fails. -/
theorem insertAll_cases (faults : KeyspaceFaults) (storage : SvidStore) (entries : List (List UInt8 × List UInt8)) :
    insertAll faults storage entries = (.ok (), written storage entries) ∨
      ∃ e, ∃ taken < entries.length, insertAll faults storage entries =
        (.error e, written storage (entries.take taken)) := by
  induction entries generalizing storage with
  | nil => exact Or.inl rfl
  | cons entry entries ih =>
    obtain ⟨key, value⟩ := entry
    rw [insertAll, insertKey]
    cases faults.insert key value with
    | some e => exact Or.inr ⟨_, 0, Nat.succ_pos _, rfl⟩
    | none =>
      rcases ih (storage.insert key value) with done | ⟨e, taken, lt, cut⟩
      · exact Or.inl done
      · exact Or.inr ⟨e, taken + 1, Nat.succ_lt_succ lt, cut⟩

/-- The inserts of a store up to its generation. -/
def firstInserts (certBytes : List UInt8) (svidVersion generation : UInt64) : List (List UInt8 × List UInt8) :=
  (inserts certBytes svidVersion generation).take 3

/-- A store of a chain that can be encoded fails before it has written the generation, or at the flag, or succeeds. -/
inductive Stored (codec : ChainCodec) (faults : KeyspaceFaults) (storage : SvidStore) (certChainDer : List (List UInt8))
    (certBytes : List UInt8) (svidVersion current : UInt64) : Prop where
  | early (e : AgentError) (taken : Nat) (lt : taken < 3)
      (first : (insertAll faults storage (firstInserts certBytes svidVersion (current + 1))).1 = .error e)
      (eq : store codec faults storage certChainDer svidVersion current =
        (.error e, written storage ((firstInserts certBytes svidVersion (current + 1)).take taken)))
  | atFlag (e : AgentError)
      (first : (insertAll faults storage (firstInserts certBytes svidVersion (current + 1))).1 = .ok ())
      (eq : store codec faults storage certChainDer svidVersion current =
        (.error e, written storage (firstInserts certBytes svidVersion (current + 1))))
  | done
      (first : (insertAll faults storage (firstInserts certBytes svidVersion (current + 1))).1 = .ok ())
      (eq : store codec faults storage certChainDer svidVersion current =
        (.ok ⟨certChainDer, svidVersion, current + 1⟩, written storage (inserts certBytes svidVersion (current + 1))))

theorem stored (hencode : codec.encode certChainDer = .ok certBytes) (faults : KeyspaceFaults) (storage : SvidStore)
    (svidVersion current : UInt64) : Stored codec faults storage certChainDer certBytes svidVersion current := by
  have split : inserts certBytes svidVersion (current + 1) =
      firstInserts certBytes svidVersion (current + 1) ++ [(KEY_INSTALLED, [1])] := rfl
  have step : store codec faults storage certChainDer svidVersion current =
      match insertAll faults storage (inserts certBytes svidVersion (current + 1)) with
      | (.error e, storage) => (.error e, storage)
      | (.ok (), storage) => (.ok ⟨certChainDer, svidVersion, current + 1⟩, storage) := by
    unfold store
    exact hencode ▸ rfl
  rw [split, insertAll_append] at step
  rcases insertAll_cases faults storage (firstInserts certBytes svidVersion (current + 1)) with ok | ⟨e, taken, lt, cut⟩
  · rw [ok] at step
    dsimp only at step
    rcases insertAll_cases faults (written storage (firstInserts certBytes svidVersion (current + 1)))
      [(KEY_INSTALLED, [1])]
      with flag | ⟨e, taken, lt, cut⟩
    · rw [flag] at step
      exact .done (by rw [ok]) step
    · rw [cut, Nat.lt_one_iff.mp lt] at step
      exact .atFlag e (by rw [ok]) step
  · rw [cut] at step
    exact .early e taken lt (by rw [cut]) step

theorem get_generation_early {taken : Nat} (h : taken < 3) (generation : UInt64) :
    (written storage ((firstInserts certBytes svidVersion generation).take taken)).get KEY_GENERATION =
      storage.get KEY_GENERATION := by
  rcases taken with _ | _ | _ | taken
  · rfl
  · simp +decide [written, firstInserts, inserts, FinMap.get_insert]
  · simp +decide [written, firstInserts, inserts, FinMap.get_insert]
  · omega

theorem get_generation_first (generation : UInt64) :
    (written storage (firstInserts certBytes svidVersion generation)).get KEY_GENERATION = some (toLeBytes generation) := by
  simp +decide [written, firstInserts, inserts]

theorem get_generation_all (generation : UInt64) :
    (written storage (inserts certBytes svidVersion generation)).get KEY_GENERATION = some (toLeBytes generation) := by
  simp +decide [written, inserts, FinMap.get_insert]

/-! ### What a store loads -/

theorem bind_mono {α β : Type} {x y : Except AgentError α} {f g : α → Except AgentError β} {b : β}
    (hxy : ∀ a, x = .ok a → y = .ok a) (hfg : ∀ a, f a = .ok b → g a = .ok b) (h : (x >>= f) = .ok b) :
    (y >>= g) = .ok b := by
  cases x with
  | error e => cases h
  | ok a =>
    rw [hxy a rfl]
    exact hfg a h

theorem getKey_of_ok {key : List UInt8} (raw : Option (List UInt8)) (h : getKey faults storage key = .ok raw) :
    getKey {} storage key = .ok raw := by
  unfold getKey at h
  cases hf : faults.get key with
  | some e =>
    rw [hf] at h
    cases h
  | none =>
    rw [hf] at h
    exact h

/-- A load that returns has met no fault. -/
theorem load_of_ok (h : load codec faults storage = .ok state) : load codec {} storage = .ok state := by
  refine bind_mono getKey_of_ok (fun flag h => ?_) h
  by_cases hflag : (!isInstalled flag) = true
  · rw [if_pos hflag] at h ⊢
    exact h
  · rw [if_neg hflag] at h ⊢
    -- Chain, version and generation: each is got, has to be there and is decoded.
    refine bind_mono getKey_of_ok
      (fun _ h => bind_mono (fun _ => id) (fun _ h => bind_mono (fun _ => id) (fun _ h => ?_) h) h) h
    refine bind_mono getKey_of_ok
      (fun _ h => bind_mono (fun _ => id) (fun _ h => bind_mono (fun _ => id) (fun _ h => ?_) h) h) h
    exact bind_mono getKey_of_ok (fun _ => id) h

/-- What a store bumps: nothing where no SVID is installed, else the generation in the storage. -/
theorem generation_of_load (readable : Readable codec storage) (h : load codec faults storage = .ok state) :
    (¬Installed storage ∧ state.generation = 0) ∨
      (Installed storage ∧ storage.get KEY_GENERATION = some (toLeBytes state.generation)) := by
  have plain := load_of_ok h
  by_cases installed : Installed storage
  · obtain ⟨entry, entries⟩ := readable installed
    rw [load_of_entries installed entries, Except.ok.injEq] at plain
    subst plain
    exact Or.inr ⟨installed, entries.generation⟩
  · rw [load_of_not_installed installed, Except.ok.injEq] at plain
    subst plain
    exact Or.inl ⟨installed, rfl⟩

end FleetosAgent.Identity.Svid

namespace FleetosAgent.Client
open Lib Identity Svid

variable {codec : ChainCodec} {w : SvidWorld} {event : SvidEvent}

/-! ### The generations that were written -/

/-- Whether the event is a call on the storage. -/
def SvidEvent.onStorage : SvidEvent → Bool
  | .store .. | .clear _ => true
  | _ => false

/-- How many generations there may be after the event. -/
def bound (w : SvidWorld) (event : SvidEvent) : Nat := w.written.length + if event.onStorage then 1 else 0

/-- What is written is greater than everything that was written before. -/
def Grows (codec : ChainCodec) (w : SvidWorld) (event : SvidEvent) : Prop :=
  ∀ generation, w.writes codec event = some generation → ∀ earlier ∈ w.written, earlier < generation

/-- A store that writes a generation finds an SVID installed, or is the first to write one. -/
def StillInstalled (codec : ChainCodec) (w : SvidWorld) (event : SvidEvent) : Prop :=
  (w.writes codec event).isSome → Installed w.storage ∨ w.storage.get KEY_GENERATION = none

/-- The generations were written one after the other, and the storage has the last one. -/
structure Recorded (codec : ChainCodec) (w : SvidWorld) : Prop where
  readable : Readable codec w.storage
  counted : w.written.map UInt64.toNat = List.range' 1 w.written.length
  entry : w.storage.get KEY_GENERATION = if w.written = [] then none else some (toLeBytes (.ofNat w.written.length))

theorem Recorded.bounds (h : Recorded codec w) {generation : UInt64} (hmem : generation ∈ w.written) :
    1 ≤ generation.toNat ∧ generation.toNat ≤ w.written.length := by
  have mem := List.mem_map_of_mem (f := UInt64.toNat) hmem
  rw [h.counted, List.mem_range'_1] at mem
  omega

theorem writes_eq_some {generation : UInt64} (h : w.writes codec event = some generation) :
    ∃ loadFaults faults certChainDer svidVersion current certBytes, event = .store loadFaults faults certChainDer
      svidVersion ∧
      load codec loadFaults w.storage = .ok current ∧ codec.encode certChainDer = .ok certBytes ∧
      (insertAll faults w.storage (firstInserts certBytes svidVersion (current.generation + 1))).1 = .ok () ∧
      generation = current.generation + 1 := by
  cases event with
  | store loadFaults faults certChainDer svidVersion =>
    unfold SvidWorld.writes at h
    cases hload : load codec loadFaults w.storage with
    | error e => simp [hload] at h
    | ok current =>
      cases hencode : codec.encode certChainDer with
      | error e => simp [hload, hencode] at h
      | ok certBytes =>
        simp only [hload, hencode, Option.ite_none_right_eq_some, Option.some.injEq] at h
        obtain ⟨first, rfl⟩ := h
        refine ⟨loadFaults, faults, certChainDer, svidVersion, current, certBytes, rfl, hload, hencode, ?_, rfl⟩
        cases hfirst : (insertAll faults w.storage (firstInserts certBytes svidVersion (current.generation + 1))).1 with
        | ok u => rfl
        | error e =>
          rw [firstInserts] at hfirst
          rw [hfirst] at first
          cases first
  | clear faults => cases h
  | publish => cases h
  | getChannel => cases h
  | built fault => cases h
  | retarget newTarget => cases h

/-- The next generation, while an SVID is installed or none was written. -/
theorem Recorded.next (h : Recorded codec w) (few : bound w event < 2 ^ 64) {generation : UInt64}
    (hwrites : w.writes codec event = some generation) (still : StillInstalled codec w event) :
    generation.toNat = w.written.length + 1 := by
  obtain ⟨loadFaults, faults, certChainDer, svidVersion, current, certBytes, rfl, hload, -, -, rfl⟩ :=
    writes_eq_some hwrites
  replace few : w.written.length + 1 < 2 ^ 64 := few
  have condition := still (by rw [hwrites]; rfl)
  rcases generation_of_load h.readable hload with ⟨none, zero⟩ | ⟨installed, entry⟩
  · have first := condition.resolve_left none
    rw [h.entry] at first
    have empty : w.written = [] := by
      by_contra hne
      rw [if_neg hne] at first
      cases first
    rw [zero, empty]
    rfl
  · rw [h.entry] at entry
    by_cases empty : w.written = []
    · rw [if_pos empty] at entry
      cases entry
    · rw [if_neg empty, Option.some.injEq] at entry
      rw [← toLeBytes_injective entry, UInt64.toNat_add, UInt64.toNat_ofNat_of_lt' (Nat.lt_of_succ_lt few)]
      exact Nat.mod_eq_of_lt few

/-- The generations grow exactly while the flag protects them: a store that finds no SVID installed writes 1 again. -/
theorem Recorded.grows_iff (h : Recorded codec w) (few : bound w event < 2 ^ 64) :
    Grows codec w event ↔ StillInstalled codec w event := by
  constructor
  · intro grows isSome
    obtain ⟨generation, hwrites⟩ := Option.isSome_iff_exists.mp isSome
    have larger := grows generation hwrites
    obtain ⟨loadFaults, faults, certChainDer, svidVersion, current, certBytes, rfl, hload, -, -, rfl⟩ :=
      writes_eq_some hwrites
    rcases generation_of_load h.readable hload with ⟨none, zero⟩ | ⟨installed, -⟩
    · right
      rw [h.entry]
      refine if_pos (List.eq_nil_iff_forall_not_mem.mpr fun earlier hmem => ?_)
      have below := UInt64.lt_iff_toNat_lt.mp (larger earlier hmem)
      have bounds := h.bounds hmem
      rw [zero] at below
      exact absurd below (Nat.not_lt.mpr bounds.1)
    · exact Or.inl installed
  · intro still generation hwrites earlier hmem
    have next := h.next few hwrites still
    have bounds := h.bounds hmem
    exact UInt64.lt_iff_toNat_lt.mpr (by omega)

/-- What a store does to the world. -/
inductive Installs (codec : ChainCodec) (w : SvidWorld) (event : SvidEvent) : SvidWorld → Prop where
  /-- It fails before it has written a generation. -/
  | unwritten (storage : SvidStore) (writes : w.writes codec event = none)
      (readable : Readable codec w.storage → Readable codec storage)
      (entry : storage.get KEY_GENERATION = w.storage.get KEY_GENERATION) :
      Installs codec w event { w with storage := storage }
  /-- It has written a generation, and succeeds or fails at the flag. -/
  | wrote (storage : SvidStore) (latest : SvidState) (generation : UInt64) (writes : w.writes codec event = some generation)
      (readable : Readable codec w.storage → Readable codec storage)
      (entry : storage.get KEY_GENERATION = some (toLeBytes generation))
      (returned : latest = w.latest ∨ latest.generation = generation) :
      Installs codec w event { w with storage := storage, latest := latest, written := w.written ++ [generation] }

theorem step_store (w : SvidWorld) (loadFaults faults : KeyspaceFaults) (certChainDer : List (List UInt8))
    (svidVersion : UInt64) :
    Installs codec w (.store loadFaults faults certChainDer svidVersion)
      (w.step codec (.store loadFaults faults certChainDer svidVersion)) := by
  cases hload : load codec loadFaults w.storage with
  | error e =>
    have step : w.step codec (.store loadFaults faults certChainDer svidVersion) = { w with storage := w.storage } := by
      simp [SvidWorld.step, SvidWorld.writes, install, hload, Except.toOption]
    rw [step]
    exact .unwritten w.storage (by simp [SvidWorld.writes, hload]) id rfl
  | ok current =>
    cases hencode : codec.encode certChainDer with
    | error e =>
      have step : w.step codec (.store loadFaults faults certChainDer svidVersion) = { w with storage := w.storage } := by
        simp [SvidWorld.step, SvidWorld.writes, install, store, hload, hencode, Except.toOption]
      rw [step]
      exact .unwritten w.storage (by simp [SvidWorld.writes, hload, hencode]) id rfl
    | ok certBytes =>
      obtain ⟨taken, image⟩ := @store_image codec faults w.storage certChainDer svidVersion current.generation
      have readable : Readable codec w.storage →
          Readable codec (store codec faults w.storage certChainDer svidVersion current.generation).2 := by
        intro h
        rw [image]
        exact h.crash taken
      have writes : w.writes codec (.store loadFaults faults certChainDer svidVersion) =
          if (insertAll faults w.storage (firstInserts certBytes svidVersion (current.generation + 1))).1.isOk then
            some (current.generation + 1) else none := by
        simp only [SvidWorld.writes, hload, hencode]
        rfl
      have step : w.step codec (.store loadFaults faults certChainDer svidVersion) = { w with
          storage := (store codec faults w.storage certChainDer svidVersion current.generation).2
          latest := (store codec faults w.storage certChainDer svidVersion current.generation).1.toOption.getD w.latest
          written := w.written ++ (w.writes codec (.store loadFaults faults certChainDer svidVersion)).toList } := by
        simp only [SvidWorld.step, install, hload]
      rw [step]
      rcases stored hencode faults w.storage svidVersion current.generation with
        ⟨e, count, lt, first, eq⟩ | ⟨e, first, eq⟩ | ⟨first, eq⟩ <;> rw [first] at writes <;> rw [eq] at readable ⊢
      · replace writes : w.writes codec (.store loadFaults faults certChainDer svidVersion) = none := writes
        rw [writes, Option.toList_none, List.append_nil]
        exact .unwritten _ writes readable (get_generation_early lt _)
      · rw [writes]
        exact .wrote _ _ _ writes readable (get_generation_first _) (Or.inl rfl)
      · rw [writes]
        exact .wrote _ _ _ writes readable (get_generation_all _) (Or.inr rfl)

/-- Neither the client nor a publication touches the storage or what was written. -/
theorem step_client (codec : ChainCodec) (w : SvidWorld) (h : event.onStorage = false) :
    (w.step codec event).storage = w.storage ∧ (w.step codec event).written = w.written := by
  cases event with
  | store => cases h
  | clear => cases h
  | publish => exact ⟨rfl, rfl⟩
  | getChannel =>
    unfold SvidWorld.step
    dsimp only
    split <;> exact ⟨rfl, rfl⟩
  | built fault =>
    unfold SvidWorld.step
    dsimp only
    split <;> exact ⟨rfl, rfl⟩
  | retarget newTarget =>
    unfold SvidWorld.step
    dsimp only
    split <;> exact ⟨rfl, rfl⟩

theorem Recorded.step (h : Recorded codec w) (few : bound w event < 2 ^ 64) (still : StillInstalled codec w event) :
    Recorded codec (w.step codec event) := by
  have client : event.onStorage = false → Recorded codec (w.step codec event) := by
    intro hclient
    obtain ⟨storage, written⟩ := step_client codec w hclient
    refine ⟨storage ▸ h.readable, written ▸ h.counted, ?_⟩
    rw [storage, written]
    exact h.entry
  cases event with
  | store loadFaults faults certChainDer svidVersion =>
    have installs : Installs codec w _ _ := step_store w loadFaults faults certChainDer svidVersion
    generalize w.step codec (.store loadFaults faults certChainDer svidVersion) = t at installs ⊢
    cases installs with
    | unwritten storage writes readable entry => exact ⟨readable h.readable, h.counted, entry.trans h.entry⟩
    | wrote storage latest generation writes readable entry returned =>
      have next := h.next few writes still
      refine ⟨readable h.readable, ?_, ?_⟩
      · show (w.written ++ [generation]).map UInt64.toNat = List.range' 1 (w.written ++ [generation]).length
        rw [List.map_append, h.counted, List.length_append, List.length_singleton, List.range'_concat]
        simp [next, Nat.add_comm]
      · show storage.get KEY_GENERATION = if w.written ++ [generation] = [] then none else
          some (toLeBytes (.ofNat (w.written ++ [generation]).length))
        rw [entry, if_neg (by simp), List.length_append, List.length_singleton, ← next, UInt64.ofNat_toNat]
  | clear faults =>
    refine ⟨h.readable.clear faults, h.counted, Eq.trans ?_ h.entry⟩
    show (Svid.clear faults w.storage).2.get KEY_GENERATION = _
    rw [Svid.clear, insertKey]
    cases faults.insert KEY_INSTALLED [0] with
    | some e => rfl
    | none => exact FinMap.get_insert_ne _ _ (by decide)
  | publish => exact client rfl
  | getChannel => exact client rfl
  | built fault => exact client rfl
  | retarget newTarget => exact client rfl

/-! ### The channel that is kept -/

/-- `get_channel` keeps the cached channel; where there is none, or a newer generation, it has seen that one and builds. -/
theorem beginGetChannel_cases {Channel : Type} {client : ControlPlaneClient Channel} {generation : UInt64}
    (seen : client.lastSvidGeneration ≤ generation) :
    (client.lastSvidGeneration = generation ∧ ClientTask.beginGetChannel client generation = (client, .returned) ∧
        client.channel.isSome) ∨
      ((client.lastSvidGeneration < generation ∨ client.channel = none) ∧ ClientTask.beginGetChannel client generation =
        ({ client with lastSvidGeneration := generation, channel := none }, .building client.currentTarget)) := by
  have begins : ClientTask.beginGetChannel client generation =
      ClientTask.advance generation (ClientTask.advance generation (client, .atGeneration)) := rfl
  rw [begins]
  by_cases newer : client.lastSvidGeneration < generation
  · refine Or.inr ⟨Or.inl newer, ?_⟩
    simp [ClientTask.advance, ClientTask.resume, newer]
  · have same : client.lastSvidGeneration = generation := UInt64.le_antisymm seen (UInt64.not_lt.mp newer)
    obtain ⟨target, channel, last⟩ := client
    obtain rfl : last = generation := same
    cases channel with
    | some channel =>
      left
      simp [ClientTask.advance, ClientTask.resume]
    | none =>
      refine Or.inr ⟨Or.inr rfl, ?_⟩
      simp [ClientTask.advance, ClientTask.resume]

theorem retarget_client {Channel : Type} (client : ControlPlaneClient Channel) (generation : UInt64) (newTarget : String) :
    ((ClientTask.advance generation)^[2] (client, .retarget newTarget)).1.lastSvidGeneration = client.lastSvidGeneration ∧
      ∀ channel, ((ClientTask.advance generation)^[2] (client, .retarget newTarget)).1.channel = some channel →
        client.channel = some channel := by
  have begins : (ClientTask.advance generation)^[2] (client, .retarget newTarget) =
      ClientTask.advance generation (ClientTask.advance generation (client, .retarget newTarget)) := rfl
  rw [begins]
  by_cases same : client.currentTarget = newTarget <;> simp [ClientTask.advance, ClientTask.resume, same]

/-- A call of `get_channel` that keeps the cached channel keeps one that was built with the SVID installed last. -/
def KeepsLatest (codec : ChainCodec) (w : SvidWorld) (event : SvidEvent) : Prop :=
  event = .getChannel → w.building = none → ∀ svid, (w.step codec event).client.channel = some svid → svid = w.latest

/-- A call of `get_channel` that finds a channel, and no newer SVID in the shared state, finds the SVID installed last
    there. -/
def Published (w : SvidWorld) (event : SvidEvent) : Prop :=
  event = .getChannel → w.building = none → w.client.channel.isSome →
    w.svidState.generation ≤ w.client.lastSvidGeneration → w.svidState = w.latest

/-- `svid` was the SVID when the client last looked; if its generation is still the current one, it still is. -/
def SeenLast (w : SvidWorld) (svid : SvidState) : Prop :=
  svid.generation = w.client.lastSvidGeneration ∧ (svid.generation = w.svidState.generation → svid = w.svidState)

/-- Generations tell SVIDs apart: the client is not ahead of the shared state, nor that of the storage, and who has the same
    generation has the same SVID. -/
structure Fresh (w : SvidWorld) : Prop where
  known : w.latest.generation = 0 ∨ w.latest.generation ∈ w.written
  behind : w.svidState.generation ≤ w.latest.generation
  same : w.svidState.generation = w.latest.generation → w.svidState = w.latest
  seen : w.client.lastSvidGeneration ≤ w.svidState.generation
  channel : ∀ svid, w.client.channel = some svid → SeenLast w svid
  building : ∀ target svid, w.building = some (target, svid) → SeenLast w svid

/-- What is kept is the SVID of the shared state, so it is the one installed last exactly if that one was published. -/
theorem Fresh.keepsLatest_iff (h : Fresh w) : KeepsLatest codec w event ↔ Published w event := by
  refine forall_congr' fun hevent => forall_congr' fun idle => ?_
  obtain rfl := hevent
  rw [SvidWorld.step, if_neg (by simp [idle])]
  rcases beginGetChannel_cases h.seen with ⟨notNewer, keeps, cached⟩ | ⟨rebuilds, builds⟩
  · obtain ⟨svid, hsvid⟩ := Option.isSome_iff_exists.mp cached
    obtain ⟨last, current⟩ := h.channel svid hsvid
    obtain rfl : svid = w.svidState := current (last.trans notNewer)
    rw [keeps]
    simp [hsvid, notNewer]
  · rw [builds]
    refine iff_of_true (fun svid hsvid => by cases hsvid) fun cached notNewer => ?_
    rcases rebuilds with newer | empty
    · exact absurd notNewer (UInt64.not_le.mpr newer)
    · rw [empty] at cached
      cases cached

/-- A new generation is one that nobody has seen. -/
theorem Fresh.replaced (h : Fresh w) {latest : SvidState} {storage : SvidStore}
    (larger : ∀ earlier ∈ w.written, earlier < latest.generation) (positive : 0 < latest.generation) :
    Fresh { w with storage := storage, latest := latest, written := w.written ++ [latest.generation] } := by
  have newer : w.latest.generation < latest.generation := by
    rcases h.known with zero | mem
    · rw [zero]
      exact positive
    · exact larger _ mem
  have unpublished : w.svidState.generation < latest.generation := UInt64.lt_of_le_of_lt h.behind newer
  exact ⟨Or.inr (by simp), UInt64.le_of_lt unpublished, fun same => absurd same (UInt64.ne_of_lt unpublished),
    h.seen, h.channel,
    h.building⟩

theorem Fresh.store {loadFaults faults : KeyspaceFaults} {certChainDer : List (List UInt8)} {svidVersion : UInt64}
    (h : Fresh w) (recorded : Recorded codec w)
    (few : bound w (.store loadFaults faults certChainDer svidVersion) < 2 ^ 64)
    (still : StillInstalled codec w (.store loadFaults faults certChainDer svidVersion)) :
    Fresh (w.step codec (.store loadFaults faults certChainDer svidVersion)) := by
  have installs : Installs codec w _ _ := step_store w loadFaults faults certChainDer svidVersion
  generalize w.step codec (.store loadFaults faults certChainDer svidVersion) = t at installs ⊢
  cases installs with
  | unwritten storage writes readable entry => exact ⟨h.known, h.behind, h.same, h.seen, h.channel, h.building⟩
  | wrote storage latest generation writes readable entry returned =>
    have larger := (recorded.grows_iff few).mpr still generation writes
    have next := recorded.next few writes still
    rcases returned with rfl | rfl
    · exact ⟨h.known.imp_right (List.mem_append_left _), h.behind, h.same, h.seen, h.channel, h.building⟩
    · refine h.replaced larger (UInt64.lt_iff_toNat_lt.mpr ?_)
      rw [next]
      exact Nat.succ_pos _

/-- What the client has is of an older generation than the SVID that gets published, or is that SVID. -/
theorem Fresh.publish (h : Fresh w) : Fresh (w.step codec .publish) := by
  have seenLast : ∀ svid, SeenLast w svid → SeenLast (w.step codec .publish) svid := by
    rintro svid ⟨last, current⟩
    refine ⟨last, fun published => ?_⟩
    replace published : svid.generation = w.latest.generation := published
    have reached : w.svidState.generation = w.latest.generation := by
      refine UInt64.le_antisymm h.behind ?_
      rw [← published, last]
      exact h.seen
    exact (current (published.trans reached.symm)).trans (h.same reached)
  exact ⟨h.known, UInt64.le_refl _, fun _ => rfl, UInt64.le_trans h.seen h.behind, fun svid hsvid =>
    seenLast svid (h.channel svid hsvid),
    fun target svid hsvid => seenLast svid (h.building target svid hsvid)⟩

theorem Fresh.getChannel (h : Fresh w) : Fresh (w.step codec .getChannel) := by
  unfold SvidWorld.step
  dsimp only
  split
  · exact h
  · rcases beginGetChannel_cases h.seen with ⟨-, keeps, -⟩ | ⟨-, builds⟩
    · rw [keeps]
      exact ⟨h.known, h.behind, h.same, h.seen, h.channel, nofun⟩
    · rw [builds]
      refine ⟨h.known, h.behind, h.same, UInt64.le_refl _, nofun, ?_⟩
      rintro target svid hsvid
      cases hsvid
      exact ⟨rfl, fun _ => rfl⟩

theorem Fresh.built (h : Fresh w) (fault : Option AgentError) : Fresh (w.step codec (.built fault)) := by
  unfold SvidWorld.step
  dsimp only
  cases hbuilding : w.building with
  | none => exact h
  | some b =>
    obtain ⟨target, svid⟩ := b
    have seenLast := h.building target svid hbuilding
    cases fault with
    | some e => exact ⟨h.known, h.behind, h.same, h.seen, h.channel, nofun⟩
    | none =>
      refine ⟨h.known, h.behind, h.same, h.seen, ?_, nofun⟩
      rintro svid' hsvid
      cases hsvid
      exact seenLast

theorem Fresh.retarget (h : Fresh w) (newTarget : String) : Fresh (w.step codec (.retarget newTarget)) := by
  unfold SvidWorld.step
  dsimp only
  split
  · exact h
  · obtain ⟨last, channel⟩ := retarget_client w.client w.svidState.generation newTarget
    refine ⟨h.known, h.behind, h.same, last.symm ▸ h.seen, fun svid hsvid => ?_, fun target svid hsvid => ?_⟩
    · obtain ⟨seenLast, current⟩ := h.channel svid (channel svid hsvid)
      exact ⟨seenLast.trans last.symm, current⟩
    · obtain ⟨seenLast, current⟩ := h.building target svid hsvid
      exact ⟨seenLast.trans last.symm, current⟩

theorem Fresh.step (h : Fresh w) (recorded : Recorded codec w) (few : bound w event < 2 ^ 64)
    (still : StillInstalled codec w event) : Fresh (w.step codec event) := by
  cases event with
  | store loadFaults faults certChainDer svidVersion => exact h.store recorded few still
  | clear faults => exact ⟨h.known, h.behind, h.same, h.seen, h.channel, h.building⟩
  | publish => exact h.publish
  | getChannel => exact h.getChannel
  | built fault => exact h.built fault
  | retarget newTarget => exact h.retarget newTarget

/-! ### Whole runs -/

/-- A run from an empty storage with fewer than 2^64 calls on it. -/
structure SvidRun where
  initialTarget : String
  events : List SvidEvent
  few : events.countP (·.onStorage) < 2 ^ 64

def SvidRun.initial (run : SvidRun) : SvidWorld := { client := { currentTarget := run.initialTarget } }

/-- The generations grow, and no channel is kept that was built with a replaced SVID. -/
def Rotates (codec : ChainCodec) (w : SvidWorld) (event : SvidEvent) : Prop :=
  Grows codec w event ∧ KeepsLatest codec w event

/-- The flag is there where a generation is written, and the client has been told where it keeps a channel. -/
def Guarded (codec : ChainCodec) (w : SvidWorld) (event : SvidEvent) : Prop :=
  StillInstalled codec w event ∧ Published w event

theorem length_written_step (w : SvidWorld) (event : SvidEvent) : (w.step codec event).written.length ≤ bound w event := by
  have client : event.onStorage = false → (w.step codec event).written.length ≤ bound w event := by
    intro hclient
    rw [(step_client codec w hclient).2, bound, hclient]
    exact Nat.le_refl _
  cases event with
  | store loadFaults faults certChainDer svidVersion =>
    have installs : Installs codec w _ _ := step_store w loadFaults faults certChainDer svidVersion
    generalize w.step codec (.store loadFaults faults certChainDer svidVersion) = t at installs ⊢
    cases installs with
    | unwritten => exact Nat.le_succ _
    | wrote => exact (List.length_append ..).le
  | clear faults => exact Nat.le_succ _
  | publish => exact client rfl
  | getChannel => exact client rfl
  | built fault => exact client rfl
  | retarget newTarget => exact client rfl

/-- A guarded run has its generations recorded and tells its SVIDs apart; and it rotates no longer than it is guarded. -/
theorem along_rotates_iff {initial : SvidWorld} (hrecorded : Recorded codec initial) (hfresh : Fresh initial)
    (hnone : initial.written = []) (events : List SvidEvent) (few : events.countP (·.onStorage) < 2 ^ 64) :
    (Along (SvidWorld.step codec) (Rotates codec) initial events ↔
        Along (SvidWorld.step codec) (Guarded codec) initial events) ∧
      (Along (SvidWorld.step codec) (Guarded codec) initial events →
        Recorded codec (events.foldl (SvidWorld.step codec) initial) ∧
        Fresh (events.foldl (SvidWorld.step codec) initial)) ∧
      (events.foldl (SvidWorld.step codec) initial).written.length ≤ events.countP (·.onStorage) := by
  induction events using List.reverseRecOn with
  | nil => exact ⟨⟨fun _ => along_nil, fun _ => along_nil⟩, fun _ => ⟨hrecorded, hfresh⟩, by simp [hnone]⟩
  | append_singleton events event ih =>
    have total : (events ++ [event]).countP (·.onStorage) = events.countP (·.onStorage) +
        if event.onStorage then 1 else 0 := by
      rw [List.countP_append, List.countP_singleton]
    obtain ⟨equiv, sound, length⟩ := ih (by omega)
    rw [List.foldl_concat, along_concat, along_concat, equiv]
    generalize events.foldl (SvidWorld.step codec) initial = w at sound length ⊢
    have small : bound w event < 2 ^ 64 := by
      unfold bound
      omega
    refine ⟨and_congr_right fun guarded => ?_, ?_, ?_⟩
    · obtain ⟨recorded, fresh⟩ := sound guarded
      exact and_congr (recorded.grows_iff small) fresh.keepsLatest_iff
    · rintro ⟨guarded, still, -⟩
      obtain ⟨recorded, fresh⟩ := sound guarded
      exact ⟨recorded.step small still, fresh.step recorded small still⟩
    · refine (length_written_step w event).trans ?_
      unfold bound
      omega

theorem recorded_initial (run : SvidRun) : Recorded codec run.initial where
  readable h := by simp [Installed, SvidRun.initial, isInstalled] at h
  counted := rfl
  entry := rfl

theorem fresh_initial (run : SvidRun) : Fresh run.initial :=
  ⟨Or.inl rfl, UInt64.le_refl _, fun _ => rfl, UInt64.le_refl _, nofun, nofun⟩

/-- In a run of installs, clears, publications and calls of the client the generations grow, and no channel is kept that was
    built with a replaced SVID, exactly if every store that writes a generation finds an SVID installed or is the first to
    write one, and every call that keeps a channel finds the SVID installed last in the shared state. -/
theorem svid_generations_grow_iff (codec : ChainCodec) (run : SvidRun) :
    Along (SvidWorld.step codec) (Rotates codec) run.initial run.events ↔
      Along (SvidWorld.step codec) (Guarded codec) run.initial run.events :=
  (along_rotates_iff (recorded_initial run) (fresh_initial run) rfl run.events run.few).1

/-- The node joins and its client connects; then it is cleared and joins again, and both times its SVID is published. -/
def clearedRun : SvidRun where
  initialTarget := "10.0.1.1:9443"
  events := [.store {} {} [[1]] 1, .publish, .getChannel, .built none, .clear {}, .store {} {} [[2]] 2,
    .publish, .getChannel]
  few := by decide

/-- The same with a renewal in place of the clear, which nobody publishes. -/
def renewedRun : SvidRun where
  initialTarget := "10.0.1.1:9443"
  events := [.store {} {} [[1]] 1, .publish, .getChannel, .built none, .store {} {} [[2]] 2, .getChannel]
  few := by decide

def SvidRun.final (codec : ChainCodec) (run : SvidRun) : SvidWorld := run.events.foldl (SvidWorld.step codec) run.initial

/-- A node that is cleared and joins again gets generation 1 a second time, and its client keeps the channel of the first
    SVID although the second one was published. After a renewal the client keeps it until the second SVID is published. -/
theorem cleared_node_keeps_channel :
    let w := clearedRun.final singleCert
    let w' := renewedRun.final singleCert
    (w.written = [1, 1] ∧ w.latest = ⟨[[2]], 2, 1⟩ ∧ w.svidState = w.latest ∧ w.building = none ∧
        w.client.channel = some ⟨[[1]], 1, 1⟩) ∧
      w'.written = [1, 2] ∧ w'.latest = ⟨[[2]], 2, 2⟩ ∧ w'.building = none ∧ w'.client.channel = some ⟨[[1]], 1, 1⟩ := by
  decide

end FleetosAgent.Client
