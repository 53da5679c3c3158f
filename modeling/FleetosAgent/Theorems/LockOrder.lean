import FleetosAgent.Client.Channel

/-! # Lock order of the client

`get_channel` takes `channel` first and comes to `current_target` last, `retarget` takes the two the other way round. Each
order alone is safe. A task of each kind between its two locks is a deadlock, and it is the only one there is. -/

namespace FleetosAgent.Client
open Lib

/-! ### Deadlocked states -/

/-- The order in which `get_channel` takes the locks. -/
def ClientLock.channelFirst : ClientLock → ℕ
  | channel => 0
  | svidState => 1
  | lastSvidGeneration => 2
  | currentTarget => 3

/-- An order for `retarget`, and for `get_channel` as long as it finds a channel. -/
def ClientLock.targetFirst : ClientLock → ℕ
  | currentTarget => 0
  | channel => 1
  | svidState => 2
  | lastSvidGeneration => 3

theorem ClientTask.channelFirst_ascending {task : ClientTask} (h : task ≠ .atChannel) (want : ClientLock × LockMode)
    (hwant : task.wanted = some want) : ∀ hold ∈ task.held, hold.1.channelFirst < want.1.channelFirst := by
  cases task with
  | atChannel => exact absurd rfl h
  | building | returned => cases hwant
  | getChannel | atSvidState | atGeneration | atTarget | retarget =>
    obtain rfl := Option.some.inj hwant
    simp [held, ClientLock.channelFirst]

theorem ClientTask.targetFirst_ascending {task : ClientTask} (h : task ≠ .atTarget) (want : ClientLock × LockMode)
    (hwant : task.wanted = some want) : ∀ hold ∈ task.held, hold.1.targetFirst < want.1.targetFirst := by
  cases task with
  | atTarget => exact absurd rfl h
  | building | returned => cases hwant
  | getChannel | atSvidState | atGeneration | atChannel | retarget =>
    obtain rfl := Option.some.inj hwant
    simp [held, ClientLock.targetFirst]

section
variable {Channel : Type} {n : ℕ} {s : ClientSystem Channel n}

/-- Some tasks are deadlocked exactly if a `get_channel` waits for the target while a `retarget` waits for the channel. -/
theorem deadlock_iff : (∃ tasks, s.locking.Deadlock tasks) ↔ (∃ i, s.tasks i = .atTarget) ∧
    ∃ j, s.tasks j = .atChannel := by
  constructor
  · rintro ⟨tasks, dead⟩
    constructor
    · by_contra none
      have ascending := fun i => ClientTask.targetFirst_ascending fun hi => none ⟨i, hi⟩
      exact Locking.not_deadlock_of_ascending ClientLock.targetFirst 4 (by rintro (_ | _ | _ | _) <;> decide)
        ascending tasks dead
    · by_contra none
      have ascending := fun i => ClientTask.channelFirst_ascending fun hi => none ⟨i, hi⟩
      exact Locking.not_deadlock_of_ascending ClientLock.channelFirst 4 (by rintro (_ | _ | _ | _) <;> decide)
        ascending tasks dead
  · rintro ⟨⟨i, hi⟩, j, hj⟩
    have hne : i ≠ j := by
      rintro rfl
      rw [hi] at hj
      cases hj
    refine ⟨{i, j}, Locking.deadlock_pair ⟨hne, ?_⟩ ⟨hne.symm, ?_⟩⟩ <;>
      simp [ClientSystem.locking, hi, hj, ClientTask.held, ClientTask.wanted, LockMode.Excludes]

/-! ### Runs without a deadlock -/

theorem step_run_of_free {i : Fin n} (build : String → Except AgentError Channel) (hfree : s.locking.Free i) :
    (s.step (.run i build)).client = ((s.tasks i).resume s.client s.svidGeneration build).1 ∧
      (s.step (.run i build)).tasks = Function.update s.tasks i ((s.tasks i).resume s.client s.svidGeneration build).2 := by
  rw [ClientSystem.step, if_pos hfree]
  exact ⟨rfl, rfl⟩

/-- A step leaves the client and the tasks alone, or resumes one task. -/
theorem step_cases (s : ClientSystem Channel n) (event : ClientEvent Channel n) :
    ((s.step event).client = s.client ∧ (s.step event).tasks = s.tasks) ∨ ∃ i build,
      (s.step event).client = ((s.tasks i).resume s.client s.svidGeneration build).1 ∧
      (s.step event).tasks = Function.update s.tasks i ((s.tasks i).resume s.client s.svidGeneration build).2 := by
  cases event with
  | run i build =>
    by_cases hfree : s.locking.Free i
    · exact Or.inr ⟨i, build, step_run_of_free build hfree⟩
    · rw [ClientSystem.step, if_neg hfree]
      exact Or.inl ⟨rfl, rfl⟩
  | rotated generation =>
    refine Or.inl ?_
    unfold ClientSystem.step
    dsimp only
    split <;> exact ⟨rfl, rfl⟩

/-- What resuming a task keeps, of the client and of the task, a run keeps. -/
theorem run_keeps (C : ControlPlaneClient Channel → Prop) (T : ClientTask → Prop)
    (hresume : ∀ client svidGeneration build task, C client → T task →
      C (task.resume client svidGeneration build).1 ∧ T (task.resume client svidGeneration build).2)
    (hclient : C s.client) (htasks : ∀ i, T (s.tasks i)) (events : List (ClientEvent Channel n)) :
    C (events.foldl ClientSystem.step s).client ∧ ∀ i, T ((events.foldl ClientSystem.step s).tasks i) := by
  induction events generalizing s with
  | nil => exact ⟨hclient, htasks⟩
  | cons event events ih =>
    rcases step_cases s event with ⟨client, tasks⟩ | ⟨i, build, client, tasks⟩
    · exact ih (client ▸ hclient) (tasks ▸ htasks)
    · obtain ⟨hclient', htask⟩ := hresume _ s.svidGeneration build _ hclient (htasks i)
      refine ih (client ▸ hclient') fun j => ?_
      rw [tasks, Function.update_apply]
      split
      · exact htask
      · exact htasks j

/-- A task of `retarget`. -/
def ClientTask.Retargets (task : ClientTask) : Prop :=
  task = .atChannel ∨ task = .returned ∨ ∃ newTarget, task = .retarget newTarget

theorem retargets_resume {client : ControlPlaneClient Channel} {svidGeneration : UInt64}
    {build : String → Except AgentError Channel} {task : ClientTask} (h : task.Retargets) :
    (task.resume client svidGeneration build).2.Retargets := by
  rcases h with rfl | rfl | ⟨newTarget, rfl⟩
  · exact Or.inr (Or.inl rfl)
  · exact Or.inr (Or.inl rfl)
  · unfold ClientTask.resume
    dsimp only
    split
    · exact Or.inl rfl
    · exact Or.inr (Or.inl rfl)

/-- A task that does not change the target. -/
def ClientTask.Keeps (target : String) (task : ClientTask) : Prop :=
  task ≠ .atChannel ∧ ∀ newTarget, task = .retarget newTarget → newTarget = target

theorem keeps_resume {target : String} {client : ControlPlaneClient Channel} {svidGeneration : UInt64}
    {build : String → Except AgentError Channel} {task : ClientTask} (hclient : client.currentTarget = target)
    (h : task.Keeps target) : (task.resume client svidGeneration build).1.currentTarget = target ∧
      (task.resume client svidGeneration build).2.Keeps target := by
  obtain ⟨hchannel, hretarget⟩ := h
  have returned : ClientTask.returned.Keeps target := ⟨nofun, nofun⟩
  cases task with
  | getChannel => exact ⟨hclient, nofun, nofun⟩
  | atSvidState => exact ⟨hclient, nofun, nofun⟩
  | atGeneration =>
    unfold ClientTask.resume
    dsimp only
    split <;> split <;> first | exact ⟨hclient, returned⟩ | exact ⟨hclient, nofun, nofun⟩
  | atTarget => exact ⟨hclient, nofun, nofun⟩
  | building built =>
    unfold ClientTask.resume
    dsimp only
    split <;> exact ⟨hclient, returned⟩
  | retarget newTarget =>
    have same : ¬ client.currentTarget ≠ newTarget := not_not.mpr (hclient.trans (hretarget newTarget rfl).symm)
    rw [ClientTask.resume, if_neg same]
    exact ⟨hclient, returned⟩
  | atChannel => exact absurd rfl hchannel
  | returned => exact ⟨hclient, returned⟩

/-! ### A run into the deadlock -/

section Trap
variable {i j : Fin n} {a b : ClientTask}

/-- Task `i` is at `a`, task `j` at `b`, and no other one holds anything; no channel is cached. -/
structure Stand (s : ClientSystem Channel n) (i j : Fin n) (a b : ClientTask) : Prop where
  first : s.tasks i = a
  second : s.tasks j = b
  others : ∀ k, k ≠ i → k ≠ j → (s.tasks k).held = []
  uncached : s.client.channel = none

theorem Stand.symm (h : Stand s i j a b) : Stand s j i b a :=
  ⟨h.second, h.first, fun k hj hi => h.others k hi hj, h.uncached⟩

theorem Stand.free (h : Stand s i j a b) (hother : ∀ want, a.wanted = some want → ∀ hold ∈ b.held, hold.1 ≠ want.1) :
    s.locking.Free i := by
  rintro k ⟨hne, want, hwant, hold, hhold, hlock, -⟩
  have hwant' : a.wanted = some want := h.first ▸ Option.mem_toList.mp hwant
  by_cases hk : k = j
  · have hhold' : hold ∈ b.held := h.second ▸ hk ▸ hhold
    exact hother want hwant' hold hhold' hlock
  · have hhold' : hold ∈ (s.tasks k).held := hhold
    rw [h.others k hne.symm hk] at hhold'
    cases hhold'

/-- With no channel in the cache, rotated or not, `get_channel` goes on to the target. -/
theorem resume_of_uncached {client : ControlPlaneClient Channel} {svidGeneration : UInt64}
    {build : String → Except AgentError Channel} (h : client.channel = none) :
    (ClientTask.atGeneration.resume client svidGeneration build).2 = .atTarget ∧
      (ClientTask.atGeneration.resume client svidGeneration build).1.channel = none := by
  unfold ClientTask.resume
  dsimp only
  split <;> simp [h]

/-- `i` can go on, and takes no channel from the cache. -/
theorem Stand.advance {a' : ClientTask} (build : String → Except AgentError Channel) (h : Stand s i j a b) (hne : i ≠ j)
    (hother : ∀ want, a.wanted = some want → ∀ hold ∈ b.held, hold.1 ≠ want.1)
    (hresume : (a.resume s.client s.svidGeneration build).2 = a' ∧
      (a.resume s.client s.svidGeneration build).1.channel = none) :
    Stand (s.step (.run i build)) i j a' b := by
  obtain ⟨client, tasks⟩ := step_run_of_free build (h.free hother)
  rw [h.first] at client tasks
  refine ⟨?_, ?_, fun k hi hj => ?_, client ▸ hresume.2⟩
  · rw [tasks, Function.update_self, hresume.1]
  · rw [tasks, Function.update_of_ne hne.symm, h.second]
  · rw [tasks, Function.update_of_ne hi, h.others k hi hj]

/-- A changing `retarget` has the target, and `get_channel` the channel, before either of them comes to its other lock. -/
theorem Stand.trapped {newTarget : String} (h : Stand s i j .getChannel (.retarget newTarget))
    (hchange : s.client.currentTarget ≠ newTarget) :
    ∃ events : List (ClientEvent Channel n), Stand (events.foldl ClientSystem.step s) i j .atTarget .atChannel := by
  let build : String → Except AgentError Channel := fun _ => .error (.rpc "unreachable")
  have hne : i ≠ j := by
    rintro rfl
    have both := h.first.symm.trans h.second
    cases both
  have apart : ∀ task ∈ [ClientTask.getChannel, .atSvidState, .atGeneration], ∀ want, task.wanted = some want →
      ∀ hold ∈ ClientTask.atChannel.held, hold.1 ≠ want.1 := by
    simp [ClientTask.wanted, ClientTask.held]
  have retargeted : Stand (s.step (.run j build)) i j .getChannel .atChannel := by
    refine (h.symm.advance build hne.symm (by simp [ClientTask.held]) ?_).symm
    rw [ClientTask.resume, if_pos hchange]
    exact ⟨rfl, h.uncached⟩
  have first : Stand _ i j .atSvidState .atChannel :=
    retargeted.advance build hne (apart _ (by simp)) ⟨rfl, retargeted.uncached⟩
  have second : Stand _ i j .atGeneration .atChannel := first.advance build hne (apart _ (by simp)) ⟨rfl, first.uncached⟩
  exact ⟨[.run j build, .run i build, .run i build, .run i build],
    second.advance build hne (apart _ (by simp)) (resume_of_uncached second.uncached)⟩

end Trap

/-! ### Runs from a new client -/

section New
variable {initialTarget : String} {svidGeneration : UInt64} {calls : Fin n → ClientCall}

/-- Where nobody asks for the channel, nobody comes to wait for the target with the channel in hand. -/
theorem ne_atTarget_of_no_getChannel (hcalls : ∀ i, calls i ≠ .getChannel) (events : List (ClientEvent Channel n))
    (i : Fin n) :
    (events.foldl ClientSystem.step (.new initialTarget svidGeneration calls)).tasks i ≠ .atTarget := by
  have retargets : ∀ k, (calls k).task.Retargets := by
    intro k
    cases hk : calls k with
    | getChannel => exact absurd hk (hcalls k)
    | retarget newTarget => exact Or.inr (Or.inr ⟨newTarget, rfl⟩)
  have kept := (run_keeps (fun _ => True) _ (fun _ _ _ _ _ h => ⟨trivial, retargets_resume h⟩) trivial
    (s := .new initialTarget svidGeneration calls) retargets events).2 i
  intro hi
  rw [hi] at kept
  simp [ClientTask.Retargets] at kept

/-- Where every redirect is to the target that is set already, nobody comes to wait for the channel with the target in
    hand. -/
theorem ne_atChannel_of_same_target (hcalls : ∀ i newTarget, calls i = .retarget newTarget → newTarget = initialTarget)
    (events : List (ClientEvent Channel n)) (j : Fin n) :
    (events.foldl ClientSystem.step (.new initialTarget svidGeneration calls)).tasks j ≠ .atChannel := by
  have keeps : ∀ k, (calls k).task.Keeps initialTarget := by
    intro k
    cases hk : calls k with
    | getChannel => exact ⟨nofun, nofun⟩
    | retarget newTarget =>
      refine ⟨nofun, fun target htarget => ?_⟩
      obtain rfl := ClientTask.retarget.inj htarget
      exact hcalls k newTarget hk
  exact ((run_keeps (fun client => client.currentTarget = initialTarget) _ (fun _ _ _ _ => keeps_resume) rfl
    (s := .new initialTarget svidGeneration calls) keeps events).2 j).1

theorem stand_new {i j : Fin n} {newTarget : String} (hi : calls i = .getChannel) (hj : calls j = .retarget newTarget) :
    Stand (.new initialTarget svidGeneration calls : ClientSystem Channel n) i j .getChannel (.retarget newTarget) := by
  refine ⟨by simp [ClientSystem.new, hi, ClientCall.task], by simp [ClientSystem.new, hj, ClientCall.task],
    fun k _ _ => ?_, rfl⟩
  show (calls k).task.held = []
  cases calls k <;> rfl

end New

/-- No run of these calls on a new client ever deadlocks, exactly if no call is a `get_channel` or no `retarget` names
    another target than the client was made with. -/
theorem client_never_deadlocks_iff (Channel : Type) {n : ℕ} (initialTarget : String) (svidGeneration : UInt64)
    (calls : Fin n → ClientCall) :
    (∀ (events : List (ClientEvent Channel n)) tasks,
      ¬ (events.foldl ClientSystem.step (.new initialTarget svidGeneration calls)).locking.Deadlock tasks) ↔
    (∀ i, calls i ≠ .getChannel) ∨ ∀ i newTarget, calls i = .retarget newTarget → newTarget = initialTarget := by
  constructor
  · intro never
    by_contra hcalls
    push Not at hcalls
    obtain ⟨⟨i, hi⟩, j, newTarget, hj, hchange⟩ := hcalls
    obtain ⟨events, trapped⟩ := (stand_new hi hj).trapped hchange.symm
    obtain ⟨tasks, dead⟩ := deadlock_iff.mpr ⟨⟨i, trapped.first⟩, j, trapped.second⟩
    exact never events tasks dead
  · intro hcalls events tasks dead
    obtain ⟨⟨i, hi⟩, j, hj⟩ := deadlock_iff.mp ⟨tasks, dead⟩
    rcases hcalls with hcalls | hcalls
    · exact ne_atTarget_of_no_getChannel hcalls events i hi
    · exact ne_atChannel_of_same_target hcalls events j hj

end

/-! ### A second redirect -/

def redirectedCalls : Fin 4 → ClientCall
  | 0 => .getChannel
  | 1 => .retarget "b"
  | 2 => .retarget "c"
  | 3 => .getChannel

/-- The channel is built at the start, a redirect to "b" clears it, and then a redirect to "c" and the next `get_channel`
    run together. -/
def redirectedRun : List (ClientEvent Unit 4) :=
  [0, 0, 0, 0, 0, 1, 1, 2, 3, 3, 3].map fun i => .run i fun _ => .ok ()

theorem second_redirect_deadlocks :
    (redirectedRun.foldl ClientSystem.step (.new "a" 1 redirectedCalls)).locking.Deadlock {2, 3} :=
  Locking.deadlock_pair (by decide) (by decide)

end FleetosAgent.Client
