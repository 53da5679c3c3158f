import FleetosAgent.Client.Channels
import FleetosAgent.Lib.Run
import FleetosAgent.Theorems.LockOrder

/-! # The cached channel

`get_channel` holds the lock of the channel from its first await to its return, and `retarget` changes the target before
it waits for that lock. So a task that builds found nothing cached, nobody builds beside it, and a channel to an old
target is cached at most until the `retarget` that is at the lock gets it. -/

namespace FleetosAgent.Client
open Lib

variable {Channel : Type}

/-! ### Steps -/

/-- What a resumed task does to the client, and where it stands afterwards. -/
inductive Resumed (client : ControlPlaneClient Channel) (build : String → Except AgentError Channel) :
    ClientTask → ControlPlaneClient Channel → ClientTask → Prop where
  | locks : Resumed client build .getChannel client .atSvidState
  | reads : Resumed client build .atSvidState client .atGeneration
  | hit : Resumed client build .atGeneration client .returned
  /-- There was no channel, or the SVID had rotated. -/
  | miss (generation : UInt64) :
    Resumed client build .atGeneration { client with lastSvidGeneration := generation, channel := none } .atTarget
  | aims : Resumed client build .atTarget client (.building client.currentTarget)
  | builds {target : String} {channel : Channel} (h : build target = .ok channel) :
    Resumed client build (.building target) { client with channel := some channel } .returned
  | fails {target : String} {e : AgentError} (h : build target = .error e) :
    Resumed client build (.building target) client .returned
  | moves {newTarget : String} :
    Resumed client build (.retarget newTarget) { client with currentTarget := newTarget } .atChannel
  | stays {newTarget : String} : Resumed client build (.retarget newTarget) client .returned
  | drops : Resumed client build .atChannel { client with channel := none } .returned
  | idles : Resumed client build .returned client .returned

theorem resumed (client : ControlPlaneClient Channel) (svidGeneration : UInt64) (build : String → Except AgentError Channel)
    (task : ClientTask) : Resumed client build task (task.resume client svidGeneration build).1
      (task.resume client svidGeneration build).2 := by
  cases task with
  | getChannel => exact .locks
  | atSvidState => exact .reads
  | atTarget => exact .aims
  | atChannel => exact .drops
  | returned => exact .idles
  | atGeneration =>
    obtain ⟨target, channel, generation⟩ := client
    unfold ClientTask.resume
    by_cases rotated : generation < svidGeneration
    · simp only [rotated, if_true]
      exact .miss svidGeneration
    · cases channel with
      | none =>
        simp only [rotated, if_false]
        exact .miss generation
      | some channel =>
        simp only [rotated, if_false]
        exact .hit
  | building target =>
    unfold ClientTask.resume
    cases h : build target with
    | ok channel =>
      simp only [h]
      exact .builds h
    | error e =>
      simp only [h]
      exact .fails h
  | retarget newTarget =>
    unfold ClientTask.resume
    by_cases same : client.currentTarget ≠ newTarget
    · simp only [if_pos same]
      exact .moves
    · simp only [if_neg same]
      exact .stays

variable {n : ℕ} {s : ClientSystem Channel n}

/-- A step runs no task and leaves the client and the tasks alone, or it resumes one that nobody keeps from its lock. -/
theorem step_resumes (s : ClientSystem Channel n) (event : ClientEvent Channel n) :
    ((∀ i build, event = .run i build → ¬ s.locking.Free i) ∧ (s.step event).client = s.client ∧
      (s.step event).tasks = s.tasks) ∨
    ∃ i build task, event = .run i build ∧ s.locking.Free i ∧
      Resumed s.client build (s.tasks i) (s.step event).client task ∧ (s.step event).tasks =
        Function.update s.tasks i task := by
  cases event with
  | run i build =>
    by_cases hfree : s.locking.Free i
    · obtain ⟨client, tasks⟩ := step_run_of_free build hfree
      exact Or.inr ⟨i, build, _, rfl, hfree, client ▸ resumed s.client s.svidGeneration build (s.tasks i), tasks⟩
    · refine Or.inl ⟨fun j build' h => ?_, ?_⟩
      · cases h
        exact hfree
      · rw [ClientSystem.step, if_neg hfree]
        exact ⟨rfl, rfl⟩
  | rotated generation =>
    refine Or.inl ⟨fun _ _ h => (by cases h), ?_⟩
    unfold ClientSystem.step
    dsimp only
    split <;> exact ⟨rfl, rfl⟩

/-! ### Exclusion -/

/-- A resumed task holds what it held and the lock it was at. -/
theorem Resumed.held {client client' : ControlPlaneClient Channel} {build : String → Except AgentError Channel}
    {task task' : ClientTask} (h : Resumed client build task client' task') {hold : ClientLock × LockMode}
    (held : hold ∈ task'.held) :
    hold ∈ task.held ∨ task.wanted = some hold := by
  cases h <;> simp_all [ClientTask.held, ClientTask.wanted] <;> tauto

theorem exclusive_step (h : s.locking.Exclusive) (event : ClientEvent Channel n) : (s.step event).locking.Exclusive := by
  rcases step_resumes s event with ⟨-, -, tasks⟩ | ⟨i, build, task, -, free, resumed, tasks⟩
  · rw [ClientSystem.locking, tasks]
    exact h
  · have held : (fun j => ((s.step event).tasks j).held) = Function.update s.locking.held i task.held := by
      rw [tasks]
      funext j
      exact Function.apply_update (fun _ => ClientTask.held) s.tasks i task j
    rw [ClientSystem.locking, held]
    exact h.grant free fun hold => resumed.held

/-- A task that has found nothing cached. -/
def ClientTask.Misses : ClientTask → Prop
  | atTarget => True
  | building _ => True
  | _ => False

theorem ClientTask.Misses.held {task : ClientTask} (h : task.Misses) :
    (ClientLock.channel, LockMode.write) ∈ task.held := by
  cases task <;> simp_all [Misses, ClientTask.held]

/-- The locks are kept, and nothing is cached while a task builds. -/
structure SingleFlight (s : ClientSystem Channel n) : Prop where
  exclusive : s.locking.Exclusive
  uncached : ∀ i, (s.tasks i).Misses → s.client.channel = none

theorem SingleFlight.alone {i j : Fin n} (h : SingleFlight s) (hi : (s.tasks i).Misses) (hj : (s.tasks j).Misses) : i = j :=
  h.exclusive.eq_of_write hi.held hj.held

theorem Resumed.misses {client client' : ControlPlaneClient Channel} {build : String → Except AgentError Channel}
    {task task' : ClientTask} (h : Resumed client build task client' task') (uncached : task.Misses → client.channel = none)
    (misses : task'.Misses) : client'.channel = none := by
  cases h <;> simp_all [ClientTask.Misses]

/-- A task that is resumed caches a channel only at the end of its build. -/
theorem Resumed.caches {client client' : ControlPlaneClient Channel} {build : String → Except AgentError Channel}
    {task task' : ClientTask} (h : Resumed client build task client' task') (uncached : client.channel = none) :
    client'.channel = none ∨ task.Misses := by
  cases h <;> simp_all [ClientTask.Misses]

theorem singleFlight_step (h : SingleFlight s) (event : ClientEvent Channel n) : SingleFlight (s.step event) := by
  refine ⟨exclusive_step h.exclusive event, fun j misses => ?_⟩
  rcases step_resumes s event with ⟨-, client, tasks⟩ | ⟨i, build, task, -, -, resumed, tasks⟩
  · rw [client]
    exact h.uncached j (tasks ▸ misses)
  · rw [tasks] at misses
    by_cases hj : j = i
    · subst hj
      rw [Function.update_self] at misses
      exact resumed.misses (h.uncached j) misses
    · rw [Function.update_of_ne hj] at misses
      -- Whoever caches a channel is the one that builds, and that is the other task.
      exact (resumed.caches (h.uncached j misses)).resolve_right fun hi => hj (h.alone misses hi)

theorem singleFlight_new (initialTarget : String) (svidGeneration : UInt64) (calls : Fin n → ClientCall) :
    SingleFlight (ClientSystem.new initialTarget svidGeneration calls : ClientSystem Channel n) where
  exclusive i j _ a ha := by
    dsimp only [ClientSystem.new, ClientSystem.locking] at ha
    cases h : calls i <;> simp [h, ClientCall.task, ClientTask.held] at ha
  uncached _ _ := rfl

theorem singleFlight_run (initialTarget : String) (svidGeneration : UInt64) (calls : Fin n → ClientCall)
    (events : List (ClientEvent Channel n)) :
    SingleFlight (events.foldl ClientSystem.step (.new initialTarget svidGeneration calls)) := by
  induction events using List.reverseRecOn with
  | nil => exact singleFlight_new initialTarget svidGeneration calls
  | append_singleton events event ih =>
    rw [List.foldl_concat]
    exact singleFlight_step ih event

/-! ### Targets -/

/-- A `retarget` has changed the target, and has not dropped the channel yet. -/
def ClientSystem.Retargeting (s : ClientSystem Channel n) : Prop := ∃ i, s.tasks i = .atChannel

section Aimed
variable {s' : ClientSystem Channel n} (Leads : Channel → String → Prop)

/-- Channels lead to the current target unless a `retarget` is about to drop them. -/
structure Aimed (s : ClientSystem Channel n) : Prop where
  building : ∀ i target, s.tasks i = .building target → target = s.client.currentTarget ∨ s.Retargeting
  cached : ∀ channel, s.client.channel = some channel → Leads channel s.client.currentTarget ∨ s.Retargeting

/-- What a build returns leads to the target it was asked for. -/
def ClientEvent.Truthful : ClientEvent Channel n → Prop
  | .run _ build => ∀ target channel, build target = .ok channel → Leads channel target
  | .rotated _ => True

variable {Leads} {i : Fin n} {task : ClientTask}

theorem ClientSystem.Retargeting.kept (h : s.Retargeting) (hi : s.tasks i ≠ .atChannel)
    (tasks : s'.tasks = Function.update s.tasks i task) : s'.Retargeting := by
  obtain ⟨j, hj⟩ := h
  have hne : j ≠ i := by
    rintro rfl
    exact hi hj
  exact ⟨j, by rw [tasks, Function.update_of_ne hne, hj]⟩

/-- Any step but the two that come with a change of the target. -/
theorem Aimed.kept (h : Aimed Leads s) (tasks : s'.tasks = Function.update s.tasks i task) (hi : s.tasks i ≠ .atChannel)
    (target : s'.client.currentTarget = s.client.currentTarget)
    (building : ∀ target, task = .building target → target = s.client.currentTarget ∨ s.Retargeting)
    (cached : ∀ channel, s'.client.channel = some channel → Leads channel s.client.currentTarget ∨ s.Retargeting) :
    Aimed Leads s' := by
  constructor
  · intro j target' hj
    rw [target]
    rw [tasks, Function.update_apply] at hj
    split at hj
    · exact (building target' hj).imp_right fun r => r.kept hi tasks
    · exact (h.building j target' hj).imp_right fun r => r.kept hi tasks
  · intro channel hchannel
    rw [target]
    exact (cached channel hchannel).imp_right fun r => r.kept hi tasks

theorem aimed_step (h : Aimed Leads s) {event : ClientEvent Channel n} (truthful : event.Truthful Leads) :
    Aimed Leads (s.step event) := by
  rcases step_resumes s event with ⟨-, client, tasks⟩ | ⟨i, build, task, rfl, free, resumed, tasks⟩
  · exact ⟨by rw [client, ClientSystem.Retargeting, tasks]; exact h.building,
      by rw [client, ClientSystem.Retargeting, tasks]; exact h.cached⟩
  generalize hclient : (s.step (.run i build)).client = client at resumed
  generalize htask : s.tasks i = before at resumed
  cases resumed with
  | locks | reads | hit | fails | stays | idles =>
    exact h.kept tasks (by simp [htask]) (by rw [hclient]) (fun _ hb => by cases hb) (by rw [hclient]; exact h.cached)
  | miss generation =>
    exact h.kept tasks (by simp [htask]) (by rw [hclient]) (fun _ hb => by cases hb)
      (fun _ hc => by rw [hclient] at hc; cases hc)
  | aims =>
    refine h.kept tasks (by simp [htask]) (by rw [hclient]) (fun _ hb => ?_) (by rw [hclient]; exact h.cached)
    cases hb
    exact Or.inl rfl
  | @builds target channel hbuild =>
    refine h.kept tasks (by simp [htask]) (by rw [hclient]) (fun _ hb => by cases hb) fun _ hc => ?_
    rw [hclient] at hc
    cases hc
    rcases h.building i target htask with rfl | retargeting
    · exact Or.inl (truthful _ channel hbuild)
    · exact Or.inr retargeting
  | moves =>
    have retargeting : (s.step (.run i build)).Retargeting := ⟨i, by rw [tasks, Function.update_self]⟩
    exact ⟨fun _ _ _ => Or.inr retargeting, fun _ _ => Or.inr retargeting⟩
  | drops =>
    constructor
    · -- A task that builds would hold the lock that was free for this one.
      intro j target hj
      rw [tasks, Function.update_apply] at hj
      split at hj
      · cases hj
      · have hold : (ClientLock.channel, LockMode.write) ∈ s.locking.held j := by
          simp [ClientSystem.locking, hj, ClientTask.held]
        refine absurd hold (free.notMem_held (Ne.symm ‹_›) ?_)
        simp [ClientSystem.locking, htask, ClientTask.wanted]
    · intro channel hchannel
      rw [hclient] at hchannel
      cases hchannel

theorem aimed_new (initialTarget : String) (svidGeneration : UInt64) (calls : Fin n → ClientCall) :
    Aimed Leads (ClientSystem.new initialTarget svidGeneration calls) where
  building i target hi := by
    dsimp only [ClientSystem.new] at hi
    cases h : calls i <;> simp [h, ClientCall.task] at hi
  cached channel hchannel := by cases hchannel

theorem aimed_run (initialTarget : String) (svidGeneration : UInt64) (calls : Fin n → ClientCall)
    {events : List (ClientEvent Channel n)} (truthful : ∀ event ∈ events, event.Truthful Leads) :
    Aimed Leads (events.foldl ClientSystem.step (.new initialTarget svidGeneration calls)) := by
  induction events using List.reverseRecOn with
  | nil => exact aimed_new initialTarget svidGeneration calls
  | append_singleton events event ih =>
    rw [List.foldl_concat]
    exact aimed_step (ih fun e he => truthful e (List.mem_append_left _ he)) (truthful event (by simp))

end Aimed

/-- In every interleaving of `get_channel`, `retarget` and rotations of the SVID, a cached channel leads to the current
    target, unless a `retarget` that has changed the target is waiting for the lock of the channel to drop it. -/
theorem cached_channel_leads_to_target {Channel : Type} {n : ℕ} (Leads : Channel → String → Prop) (initialTarget : String)
    (svidGeneration : UInt64) (calls : Fin n → ClientCall) (events : List (ClientEvent Channel n))
    (truthful : ∀ event ∈ events, event.Truthful Leads) (channel : Channel)
    (cached : (events.foldl ClientSystem.step (.new initialTarget svidGeneration calls)).client.channel = some channel) :
    Leads channel (events.foldl ClientSystem.step (.new initialTarget svidGeneration calls)).client.currentTarget ∨
      ∃ i, (events.foldl ClientSystem.step (.new initialTarget svidGeneration calls)).tasks i = .atChannel :=
  (aimed_run initialTarget svidGeneration calls truthful).cached channel cached

/-- The channel leads to the address that `build_mtls_channel` was given, with a scheme. -/
theorem buildChannel_leads {engine : Base64.Engine} {trustBundlePem : String} {certChainDer : List (List UInt8)}
    {loadSvidPrivateKey : Except AgentError (Option (List UInt8))} {connect : TlsConfig → Except AgentError Unit}
    {target : String} {channel : TlsConfig}
    (h : buildChannel engine trustBundlePem certChainDer loadSvidPrivateKey connect target =
      .ok channel) :
    channel.address = ensureScheme target := by
  rcases loadSvidPrivateKey with e | _ | privateKeyDer
  · cases h
  · cases h
  · cases hconnect : connect (mtlsConfig engine target trustBundlePem certChainDer privateKeyDer) with
    | error e => simp [buildChannel, hconnect, bind, Except.bind] at h
    | ok _ =>
      simp only [buildChannel, hconnect, bind, Except.bind, pure, Except.pure, Except.ok.injEq] at h
      rw [← h]
      rfl

/-- A `get_channel` up to its return while a `retarget` has only changed the target. -/
def redirectedBuild : List (ClientEvent TlsConfig 4) :=
  let build := buildChannel Base64.standard "ca" [[1]] (.ok (some [2])) fun _ => .ok ()
  let getter := Fin.last 3
  let redirect := (Fin.last 2).castSucc
  [.run getter build, .run getter build, .run getter build, .run getter build, .run redirect build, .run getter build]

/-- The channel to the old target is cached; the `retarget` is at its lock. -/
theorem redirected_build_leads_to_old_target :
    (redirectedBuild.foldl ClientSystem.step (.new "a" 1 redirectedCalls)).client.channel =
      some (mtlsConfig Base64.standard "a" "ca" [[1]] [2]) ∧
      ((mtlsConfig Base64.standard "a" "ca" [[1]] [2]).address = ensureScheme "c" ∨
        ∃ i, (redirectedBuild.foldl ClientSystem.step (.new "a" 1 redirectedCalls)).tasks i = .atChannel) := by
  have cached : (redirectedBuild.foldl ClientSystem.step (.new "a" 1 redirectedCalls)).client.channel =
      some (mtlsConfig Base64.standard "a" "ca" [[1]] [2]) := rfl
  refine ⟨cached, cached_channel_leads_to_target (fun channel target => channel.address = ensureScheme target) "a" 1
    redirectedCalls redirectedBuild (fun event hevent => ?_) _ cached⟩
  simp only [redirectedBuild, List.mem_cons, List.not_mem_nil, or_false] at hevent
  rcases hevent with rfl | rfl | rfl | rfl | rfl | rfl <;> exact fun target channel h => buildChannel_leads h

/-! ### Builds -/

/-- The channel that a step builds. -/
def ClientSystem.built (s : ClientSystem Channel n) : ClientEvent Channel n → Option Channel
  | .run i build =>
    if s.locking.Free i then
      match s.tasks i with
      | .building target => (build target).toOption
      | _ => none
    else none
  | .rotated _ => none

/-- The channel that was cached before a step and is not afterwards. -/
def ClientSystem.dropped (s : ClientSystem Channel n) (event : ClientEvent Channel n) : Option Channel :=
  if (s.step event).client.channel.isNone then s.client.channel else none

/-- What was cached or is built, is dropped or is cached. -/
theorem ledger_step (h : SingleFlight s) (event : ClientEvent Channel n) :
    s.client.channel.toList ++ (s.built event).toList = (s.dropped event).toList ++
      (s.step event).client.channel.toList := by
  rcases step_resumes s event with ⟨stuck, client, -⟩ | ⟨i, build, task, rfl, free, resumed, tasks⟩
  · have built : s.built event = none := by
      cases event with
      | run i build => exact if_neg (stuck i build rfl)
      | rotated generation => rfl
    rw [built, ClientSystem.dropped, client]
    cases s.client.channel <;> rfl
  generalize htask : s.tasks i = before at resumed
  rw [ClientSystem.dropped, ClientSystem.built, if_pos free, htask]
  generalize (s.step (.run i build)).client = client at resumed
  cases resumed with
  | locks | reads | hit | aims | moves | stays | idles =>
    dsimp only
    cases s.client.channel <;> rfl
  | fails hbuild =>
    simp only [hbuild]
    cases s.client.channel <;> rfl
  | builds hbuild =>
    simp only [hbuild, h.uncached i (by rw [htask]; trivial)]
    rfl
  | miss | drops => simp

/-- In every interleaving, the channels that were built are those that were dropped since, in that order, and then the one
    that is cached: nothing is built while a channel is cached, and no two tasks build one together. -/
theorem channels_built_one_by_one {Channel : Type} {n : ℕ} (initialTarget : String) (svidGeneration : UInt64)
    (calls : Fin n → ClientCall) (events : List (ClientEvent Channel n)) :
    emitted ClientSystem.step ClientSystem.built (.new initialTarget svidGeneration calls) events =
      emitted ClientSystem.step ClientSystem.dropped (.new initialTarget svidGeneration calls) events ++
        (events.foldl ClientSystem.step (.new initialTarget svidGeneration calls)).client.channel.toList := by
  induction events using List.reverseRecOn with
  | nil => rfl
  | append_singleton events event ih =>
    have single : SingleFlight (events.foldl ClientSystem.step (.new initialTarget svidGeneration calls)) :=
      singleFlight_run initialTarget svidGeneration calls events
    rw [emitted_concat, emitted_concat, List.foldl_concat, ih, List.append_assoc, ledger_step single event,
      List.append_assoc]

end FleetosAgent.Client
