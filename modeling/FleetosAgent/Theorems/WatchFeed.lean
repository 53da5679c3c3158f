import FleetosAgent.WatchLoops
import FleetosAgent.Lib.Cursor
import FleetosAgent.Theorems.RouteWatch
import FleetosAgent.Theorems.PolicySync

/-! # The watch loops over whole runs

The cursor of a stream moves when it yields an update, the version of the loop when it applies one. The first makes the
yielded versions the running maxima of the received ones, so nothing is rolled back; but the cursor does not wait for the
loop, and a request tells control what was yielded and not what was applied. -/

namespace FleetosAgent.Client
open Lib

/-! ### One answer -/

section Watch
variable {U : Type} {version : U → UInt64} {s : WatchState} {answer : NetAnswer U}

/-- The update that arrives at this step. -/
def receives (s : WatchState) (answer : NetAnswer U) : Option U :=
  match s.phase, answer.message with
  | .streaming, .ok update => update
  | _, _ => none

theorem streamError_spec (s : WatchState) (status : Status) :
    (streamError (U := U) s status).1.lastKnownVersion = s.lastKnownVersion ∧
      (streamError (U := U) s status).2.yielded = none ∧ (streamError (U := U) s status).2.request = none := by
  unfold streamError
  split <;> exact ⟨rfl, rfl, rfl⟩

theorem requestError_spec (s : WatchState) (request : WatchRequest) (status : Status) :
    (requestError (U := U) s request status).1.lastKnownVersion = s.lastKnownVersion ∧
      (∀ update, (requestError (U := U) s request status).2.yielded ≠ some (.ok update)) ∧
      (requestError (U := U) s request status).2.request = some request := by
  unfold requestError
  split
  · exact ⟨rfl, nofun, rfl⟩
  · exact ⟨rfl, nofun, rfl⟩
  · exact ⟨rfl, nofun, rfl⟩

/-- What a step does with the cursor, the loop and control: an update that arrives is yielded and moves the cursor if it is
    newer, and what a request says is the cursor. -/
structure WatchSpec (version : U → UInt64) (s : WatchState) (answer : NetAnswer U) : Prop where
  cursor : (watchVersioned version s answer).1.lastKnownVersion = (receives s answer).elim s.lastKnownVersion fun update =>
    if s.lastKnownVersion < version update then version update else s.lastKnownVersion
  yielded : ∀ update, (watchVersioned version s answer).2.yielded = some (.ok update) ↔
    receives s answer = some update ∧ s.lastKnownVersion < version update
  request : ∀ request, (watchVersioned version s answer).2.request = some request →
    request.lastKnownVersion = s.lastKnownVersion

/-- A step at which nothing arrives. -/
theorem WatchSpec.idle (silent : receives s answer = none)
    (kept : (watchVersioned version s answer).1.lastKnownVersion = s.lastKnownVersion)
    (unyielded : ∀ update, (watchVersioned version s answer).2.yielded ≠ some (.ok update))
    (asks : ∀ request, (watchVersioned version s answer).2.request = some request →
      request.lastKnownVersion = s.lastKnownVersion) : WatchSpec version s answer where
  cursor := by
    rw [silent]
    exact kept
  yielded update := by
    rw [silent]
    exact iff_of_false (unyielded update) fun h => nomatch h.1
  request := asks

theorem watchSpec_request (h : s.phase = .request) : WatchSpec version s answer := by
  have silent : receives s answer = none := by rw [receives, h]
  cases hw : answer.watch with
  | ok u =>
    exact .idle silent (by simp [watchVersioned, h, hw]) (by simp [watchVersioned, h, hw])
      (by simp [watchVersioned, h, hw])
  | error status =>
    have step : watchVersioned version s answer = requestError s ⟨s.lastKnownVersion⟩ status := by
      simp only [watchVersioned, h, hw]
    obtain ⟨kept, unyielded, asked⟩ := requestError_spec (U := U) s ⟨s.lastKnownVersion⟩ status
    refine .idle silent ?_ ?_ ?_ <;> rw [step]
    · exact kept
    · exact unyielded
    · intro request asks
      rw [← Option.some.inj (asked.symm.trans asks)]

theorem watchSpec_streaming (h : s.phase = .streaming) : WatchSpec version s answer := by
  cases hm : answer.message with
  | error status =>
    have silent : receives s answer = none := by rw [receives, h, hm]
    have step : watchVersioned version s answer = streamError s status := by simp only [watchVersioned, h, hm]
    obtain ⟨kept, unyielded, unasked⟩ := streamError_spec (U := U) s status
    refine .idle silent ?_ ?_ ?_ <;> rw [step]
    · exact kept
    · rw [unyielded]
      nofun
    · rw [unasked]
      nofun
  | ok message =>
    have arrives : receives s answer = message := by rw [receives, h, hm]
    cases message with
    | none =>
      exact .idle arrives (by simp [watchVersioned, h, hm]) (by simp [watchVersioned, h, hm])
        (by simp [watchVersioned, h, hm])
    | some update =>
      by_cases hnew : s.lastKnownVersion < version update
      · refine ⟨by simp [watchVersioned, arrives, h, hm, hnew], fun update' => ?_, by simp [watchVersioned, h, hm, hnew]⟩
        simp only [watchVersioned, arrives, h, hm, if_pos hnew, Option.some.injEq, Except.ok.injEq]
        exact ⟨fun e => ⟨e, e ▸ hnew⟩, And.left⟩
      · refine ⟨by simp [watchVersioned, arrives, h, hm, hnew], fun update' => ?_, by simp [watchVersioned, h, hm, hnew]⟩
        simp only [watchVersioned, arrives, h, hm, if_neg hnew, reduceCtorEq, Option.some.injEq, false_iff]
        rintro ⟨rfl, hnew'⟩
        exact hnew hnew'

theorem watchSpec : WatchSpec version s answer := by
  cases h : s.phase with
  | channel =>
    have silent : receives s answer = none := by rw [receives, h]
    cases hc : answer.channel with
    | ok u =>
      exact .idle silent (by simp [watchVersioned, h, hc]) (by simp [watchVersioned, h, hc])
        (by simp [watchVersioned, h, hc])
    | error e =>
      exact .idle silent (by simp [watchVersioned, h, hc]) (by simp [watchVersioned, h, hc])
        (by simp [watchVersioned, h, hc])
  | request => exact watchSpec_request h
  | streaming => exact watchSpec_streaming h

end Watch

end FleetosAgent.Client

namespace FleetosAgent.Wiring
open Lib Client Routes Policy

/-! ### One step of a loop with its stream -/

section Feed
variable {U : Type} {loop : WatchLoop U} {f : Feed loop} {event : FeedEvent loop} {update : U}

/-- The stream of the loop is a versioned one, and the current version is set by an applied update and by nothing else. -/
structure WatchLoop.Lawful (loop : WatchLoop U) : Prop where
  stream_eq : loop.stream = watchVersioned loop.version
  start_version : loop.currentVersion loop.start = 0
  version_of_applies : ∀ w update env, loop.applies w update env = true →
    loop.currentVersion (loop.handle w update env) = loop.version update
  version_of_fails : ∀ w update env, loop.applies w update env = false →
    loop.currentVersion (loop.handle w update env) = loop.currentVersion w

theorem version_syncPolicy (c : PolicyCompiler) (dataTrustDomain : String) (w : PolicyWorld) (update : SagUpdate c)
    (env : SyncEnv) : (syncPolicy c dataTrustDomain w update env).2.state.currentVersion =
      bif sagApplied c dataTrustDomain w update env then update.version else w.state.currentVersion := by
  unfold syncPolicy sagApplied
  cases compileAndSync c env.order w.state update.rules update.version dataTrustDomain with
  | error e => rfl
  | ok found =>
    cases found with
    | none => rfl
    | some found =>
      obtain ⟨mutations, compiled⟩ := found
      dsimp only
      rcases Policy.applyMutationsToMaps env mutations w.maps with ⟨e | u, maps⟩
      · rfl
      · rfl

theorem sagLoop_lawful (c : PolicyCompiler) (dataTrustDomain : String) : (sagLoop c dataTrustDomain).Lawful where
  stream_eq := rfl
  start_version := rfl
  version_of_applies w update env h :=
    (version_syncPolicy c dataTrustDomain w update env).trans (congrArg (bif · then _ else _) h)
  version_of_fails w update env h :=
    (version_syncPolicy c dataTrustDomain w update env).trans (congrArg (bif · then _ else _) h)

theorem routesLoop_lawful (api : SpiffeApi) (own : api.SpiffeId) : (routesLoop api own).Lawful where
  stream_eq := rfl
  start_version := rfl
  version_of_applies w update env h := by
    have happ : Applies api own w.routes ⟨update, env⟩ := routeApplied_iff.mp h
    obtain ⟨routes, ha⟩ := happ.accepts
    exact congrArg (·.state.currentVersion) (routeStep_of_applies happ ha)
  version_of_fails w update env h := by
    have hnot : ¬Applies api own w.routes ⟨update, env⟩ := fun happ =>
      Bool.eq_false_iff.mp h (routeApplied_iff.mpr happ)
    exact congrArg (·.currentVersion) (routeStep_state_of_not_applies hnot)

/-- The update that arrives at the stream. -/
def received (f : Feed loop) (event : FeedEvent loop) : Option U := receives f.stream event.answer

/-- The update whose mutations the loop executes. -/
def executed (f : Feed loop) (event : FeedEvent loop) : Option U :=
  (yields f event).filter fun update => loop.executes f.world update event.env

def applied (f : Feed loop) (event : FeedEvent loop) : Option U :=
  (yields f event).filter fun update => loop.applies f.world update event.env

/-- Whether the update that is yielded is applied. -/
def outcome (f : Feed loop) (event : FeedEvent loop) : Option Bool :=
  (yields f event).map fun update => loop.applies f.world update event.env

theorem yields_eq_some (hl : loop.Lawful) : yields f event = some update ↔
    received f event = some update ∧ f.stream.lastKnownVersion < loop.version update := by
  unfold yields received
  rw [← watchSpec.yielded, hl.stream_eq]
  split
  · next heq => simp [heq]
  · next hno => exact iff_of_false nofun (hno update)

theorem cursor_feedStep (hl : loop.Lawful) : (feedStep f event).stream.lastKnownVersion =
    (received f event).elim f.stream.lastKnownVersion fun update =>
      if f.stream.lastKnownVersion < loop.version update then loop.version update else f.stream.lastKnownVersion := by
  unfold feedStep received
  rw [hl.stream_eq]
  exact watchSpec.cursor

/-- An update that is newer than the cursor moves it and is handled; all else leaves cursor and loop as they are. -/
theorem feed_cases (hl : loop.Lawful) (f : Feed loop) (event : FeedEvent loop) :
    (yields f event = none ∧ (feedStep f event).world = f.world ∧
      (feedStep f event).stream.lastKnownVersion = f.stream.lastKnownVersion ∧
      ∀ update ∈ received f event, ¬f.stream.lastKnownVersion < loop.version update) ∨
    ∃ update, yields f event = some update ∧ (feedStep f event).world = loop.handle f.world update event.env ∧
      (feedStep f event).stream.lastKnownVersion = loop.version update ∧
      received f event = some update ∧ f.stream.lastKnownVersion < loop.version update := by
  cases hy : yields f event with
  | none =>
    have old : ∀ update ∈ received f event, ¬f.stream.lastKnownVersion < loop.version update := by
      intro update hrec hnew
      rw [(yields_eq_some hl).mpr ⟨hrec, hnew⟩] at hy
      cases hy
    refine Or.inl ⟨rfl, by simp only [feedStep, hy], ?_, old⟩
    rw [cursor_feedStep hl]
    cases hr : received f event with
    | none => rfl
    | some update => exact if_neg (old update hr)
  | some update =>
    obtain ⟨hrec, hnew⟩ := (yields_eq_some hl).mp hy
    refine Or.inr ⟨update, rfl, by simp only [feedStep, hy], ?_, hrec, hnew⟩
    rw [cursor_feedStep hl, hrec]
    exact if_pos hnew

end Feed

/-! ### Runs -/

section Runs
variable {U : Type} (loop : WatchLoop U) (events : List (FeedEvent loop))

/-- What the run of a stream and its loop has come to, in terms of what arrived, was yielded, executed and applied. -/
structure Tracks (f : Feed loop) : Prop where
  cursor : IsCursor 0 ((emitted feedStep received {} events).map loop.version) f.stream.lastKnownVersion
  yielded : (emitted feedStep yields {} events).map loop.version =
    runningMaxima 0 ((emitted feedStep received {} events).map loop.version)
  executed_lt : ((emitted feedStep executed {} events).map loop.version).Pairwise (· < ·)
  executed_le : ∀ v ∈ (emitted feedStep executed {} events).map loop.version, v ≤ f.stream.lastKnownVersion
  current : loop.currentVersion f.world = (emitted feedStep applied {} events).getLast?.elim 0 loop.version
  current_le : loop.currentVersion f.world ≤ f.stream.lastKnownVersion
  honest : f.stream.lastKnownVersion ≤ loop.currentVersion f.world ↔
    ∀ ok ∈ (emitted feedStep outcome {} events).getLast?, ok = true

variable {loop events} {f : Feed loop} {event : FeedEvent loop}

theorem tracks_start (hl : loop.Lawful) : Tracks loop [] {} where
  cursor := isCursor_nil
  yielded := rfl
  executed_lt := .nil
  executed_le := nofun
  current := hl.start_version
  current_le := hl.start_version ▸ UInt64.le_refl _
  honest := iff_of_true (hl.start_version ▸ UInt64.le_refl _) nofun

/-- The cursor and the yielded versions, whatever arrives. -/
theorem tracks_step_stream (event : FeedEvent loop) (hl : loop.Lawful) (hf : events.foldl feedStep {} = f)
    (h : Tracks loop events f) :
    IsCursor 0 ((emitted feedStep received {} (events ++ [event])).map loop.version)
        (feedStep f event).stream.lastKnownVersion ∧
      (emitted feedStep yields {} (events ++ [event])).map loop.version =
        runningMaxima 0 ((emitted feedStep received {} (events ++ [event])).map loop.version) := by
  rw [emitted_concat, emitted_concat, hf, cursor_feedStep hl]
  cases hr : received f event with
  | none =>
    have silent : yields f event = none := Option.eq_none_iff_forall_ne_some.mpr fun update hy => by
      rw [(yields_eq_some hl).mp hy |>.1] at hr
      cases hr
    rw [silent, Option.toList_none, List.append_nil, List.append_nil]
    exact ⟨h.cursor, h.yielded⟩
  | some update =>
    rw [Option.toList_some, List.map_append, List.map_append, List.map_singleton, h.cursor.runningMaxima_concat, h.yielded]
    refine ⟨h.cursor.concat, congrArg _ ?_⟩
    by_cases hnew : f.stream.lastKnownVersion < loop.version update
    · rw [(yields_eq_some hl).mpr ⟨hr, hnew⟩, if_pos hnew]
      rfl
    · have silent : yields f event = none := Option.eq_none_iff_forall_ne_some.mpr fun update' hy => by
        obtain ⟨hr', hnew'⟩ := (yields_eq_some hl).mp hy
        obtain rfl := Option.some.inj (hr.symm.trans hr')
        exact hnew hnew'
      rw [silent, if_neg hnew]
      rfl

/-- A step that yields nothing leaves the loop where it is. -/
theorem tracks_step_idle (hl : loop.Lawful) (hf : events.foldl feedStep {} = f) (h : Tracks loop events f)
    (hy : yields f event = none) (hworld : (feedStep f event).world = f.world)
    (hlast : (feedStep f event).stream.lastKnownVersion = f.stream.lastKnownVersion) :
    Tracks loop (events ++ [event]) (feedStep f event) := by
  obtain ⟨cursor, yielded⟩ := tracks_step_stream event hl hf h
  subst hf
  have executed_same : emitted feedStep executed {} (events ++ [event]) = emitted feedStep executed {} events :=
    emitted_concat_of_none (by rw [executed, hy]; rfl)
  have applied_same : emitted feedStep applied {} (events ++ [event]) = emitted feedStep applied {} events :=
    emitted_concat_of_none (by rw [applied, hy]; rfl)
  have outcome_same : emitted feedStep outcome {} (events ++ [event]) = emitted feedStep outcome {} events :=
    emitted_concat_of_none (by rw [outcome, hy]; rfl)
  refine ⟨cursor, yielded, ?_, ?_, ?_, ?_, ?_⟩
  · rw [executed_same]
    exact h.executed_lt
  · rw [executed_same, hlast]
    exact h.executed_le
  · rw [applied_same, hworld]
    exact h.current
  · rw [hworld, hlast]
    exact h.current_le
  · rw [hworld, hlast, outcome_same]
    exact h.honest

/-- The executed versions after a step that yields. -/
theorem executed_step (h : Tracks loop events f) (hf : events.foldl feedStep {} = f) {update : U}
    (hy : yields f event = some update) (hnew : f.stream.lastKnownVersion < loop.version update) :
    ((emitted feedStep executed {} (events ++ [event])).map loop.version).Pairwise (· < ·) ∧
      ∀ v ∈ (emitted feedStep executed {} (events ++ [event])).map loop.version, v ≤ loop.version update := by
  subst hf
  by_cases hexec : loop.executes (events.foldl feedStep {}).world update event.env = true
  · rw [emitted_concat_of_some (b := update) (by rw [executed, hy, Option.filter_some, if_pos hexec]), List.map_append]
    exact pairwise_lt_concat h.executed_lt h.executed_le hnew
  · rw [emitted_concat_of_none (by rw [executed, hy, Option.filter_some, if_neg hexec])]
    exact ⟨h.executed_lt, fun v hv => Std.le_trans (h.executed_le v hv) (UInt64.le_of_lt hnew)⟩

theorem tracks_step (hl : loop.Lawful) (hf : events.foldl feedStep {} = f) (h : Tracks loop events f) :
    Tracks loop (events ++ [event]) (feedStep f event) := by
  rcases feed_cases hl f event with ⟨hy, hworld, hlast, -⟩ | ⟨update, hy, hworld, hlast, -, hnew⟩
  · exact tracks_step_idle hl hf h hy hworld hlast
  · obtain ⟨cursor, yielded⟩ := tracks_step_stream event hl hf h
    obtain ⟨executed_lt, executed_le⟩ := executed_step h hf hy hnew
    have current_lt : loop.currentVersion f.world < loop.version update := Std.lt_of_le_of_lt h.current_le hnew
    have last_outcome : (emitted feedStep outcome {} (events ++ [event])).getLast? =
        some (loop.applies f.world update event.env) := by
      rw [getLast?_emitted_concat, hf, outcome, hy]
      rfl
    -- the rest is decided by whether the yielded update is applied
    rw [← hlast] at executed_le
    refine ⟨cursor, yielded, executed_lt, executed_le, ?_, ?_, ?_⟩
    · rw [getLast?_emitted_concat, hf, applied, hy, hworld, Option.filter_some]
      cases happ : loop.applies f.world update event.env with
      | true => exact hl.version_of_applies _ _ _ happ
      | false => exact (hl.version_of_fails _ _ _ happ).trans h.current
    · rw [hworld, hlast]
      cases happ : loop.applies f.world update event.env with
      | true => exact hl.version_of_applies _ _ _ happ ▸ UInt64.le_refl _
      | false => exact hl.version_of_fails _ _ _ happ ▸ UInt64.le_of_lt current_lt
    · rw [hworld, hlast, last_outcome]
      cases happ : loop.applies f.world update event.env with
      | true => exact iff_of_true (hl.version_of_applies _ _ _ happ ▸ UInt64.le_refl _) (by simp)
      | false =>
        rw [hl.version_of_fails _ _ _ happ]
        exact iff_of_false (UInt64.not_le.mpr current_lt) (by simp)

theorem tracks_run (hl : loop.Lawful) (events : List (FeedEvent loop)) : Tracks loop events (events.foldl feedStep {}) := by
  induction events using List.reverseRecOn with
  | nil => exact tracks_start hl
  | append_singleton events event ih =>
    rw [List.foldl_concat]
    exact tracks_step hl rfl ih

/-! ### No rollback -/

/-- What a run yields, executes and applies never goes back to an older version. -/
structure NoRollback (loop : WatchLoop U) (events : List (FeedEvent loop)) : Prop where
  yielded : (emitted feedStep yields {} events).map loop.version =
    runningMaxima 0 ((emitted feedStep received {} events).map loop.version)
  executed : ((emitted feedStep executed {} events).map loop.version).Pairwise (· < ·)
  current : loop.currentVersion (events.foldl feedStep {}).world =
    (emitted feedStep applied {} events).getLast?.elim 0 loop.version
  never_decreases : Along feedStep (fun f event =>
    loop.currentVersion f.world ≤ loop.currentVersion (feedStep f event).world) {} events

theorem currentVersion_le (h : loop.currentVersion f.world ≤ f.stream.lastKnownVersion) (hl : loop.Lawful) :
    loop.currentVersion f.world ≤ loop.currentVersion (feedStep f event).world := by
  rcases feed_cases hl f event with ⟨-, hworld, -⟩ | ⟨update, -, hworld, -, -, hnew⟩
  · rw [hworld]
    exact UInt64.le_refl _
  · rw [hworld]
    cases happ : loop.applies f.world update event.env with
    | true =>
      rw [hl.version_of_applies _ _ _ happ]
      exact UInt64.le_of_lt (Std.lt_of_le_of_lt h hnew)
    | false =>
      rw [hl.version_of_fails _ _ _ happ]
      exact UInt64.le_refl _

theorem noRollback_of_lawful (hl : loop.Lawful) (events : List (FeedEvent loop)) : NoRollback loop events := by
  have h := tracks_run hl events
  exact ⟨h.yielded, h.executed_lt, h.current, fun pre event _ _ => currentVersion_le (tracks_run hl pre).current_le hl⟩

/-- Neither loop is ever rolled back, whatever the network and the kernel do. -/
theorem watch_loops_no_rollback (c : PolicyCompiler) (dataTrustDomain : String) (api : SpiffeApi) (own : api.SpiffeId) :
    (∀ events, NoRollback (sagLoop c dataTrustDomain) events) ∧ ∀ events, NoRollback (routesLoop api own) events :=
  ⟨noRollback_of_lawful (sagLoop_lawful c dataTrustDomain), noRollback_of_lawful (routesLoop_lawful api own)⟩

/-! ### What control is told -/

/-- No request of the run names a version that the loop has not come to. -/
def RequestsBounded (loop : WatchLoop U) (events : List (FeedEvent loop)) : Prop :=
  Along feedStep (fun f event => ∀ request ∈ sends f event,
    request.lastKnownVersion ≤ loop.currentVersion f.world) {} events

/-- Whenever the run sends a request, the update that was yielded last had been applied. -/
def AppliedBeforeRequests (loop : WatchLoop U) (events : List (FeedEvent loop)) : Prop :=
  ∀ pre event post, events = pre ++ event :: post → (sends (pre.foldl feedStep {}) event).isSome →
    ∀ ok ∈ (emitted feedStep outcome {} pre).getLast?, ok = true

theorem request_eq_cursor (hl : loop.Lawful) {request : WatchRequest} (h : request ∈ sends f event) :
    request.lastKnownVersion = f.stream.lastKnownVersion := by
  rw [sends, hl.stream_eq] at h
  exact watchSpec.request request h

theorem requestsBounded_iff (hl : loop.Lawful) (events : List (FeedEvent loop)) :
    RequestsBounded loop events ↔ AppliedBeforeRequests loop events := by
  constructor
  · intro h pre event post hsplit hsent
    obtain ⟨request, hreq⟩ := Option.isSome_iff_exists.mp hsent
    have bounded := h pre event post hsplit request hreq
    rw [request_eq_cursor hl hreq] at bounded
    exact (tracks_run hl pre).honest.mp bounded
  · intro h pre event post hsplit request hreq
    rw [request_eq_cursor hl hreq]
    exact (tracks_run hl pre).honest.mpr (h pre event post hsplit (Option.isSome_iff_exists.mpr ⟨request, hreq⟩))

/-- Control is never told of a version that was not applied, exactly in the runs that apply what they yield before they
    connect again. -/
theorem watch_requests_bounded_iff (c : PolicyCompiler) (dataTrustDomain : String) (api : SpiffeApi) (own : api.SpiffeId) :
    (∀ events, RequestsBounded (sagLoop c dataTrustDomain) events ↔
      AppliedBeforeRequests (sagLoop c dataTrustDomain) events) ∧
    ∀ events, RequestsBounded (routesLoop api own) events ↔ AppliedBeforeRequests (routesLoop api own) events :=
  ⟨requestsBounded_iff (sagLoop_lawful c dataTrustDomain), requestsBounded_iff (routesLoop_lawful api own)⟩

/-- The stream connects, yields a frame that the kernel does not take, is closed by the server and connects again. -/
noncomputable def lostFrame : List (FeedEvent (sagLoop passthrough "td")) :=
  [⟨{}, quiet⟩, ⟨{}, quiet⟩, ⟨{ message := .ok (some Policy.abandonedFrame.update) }, Policy.abandonedFrame.env⟩,
    ⟨{}, quiet⟩, ⟨{}, quiet⟩, ⟨{}, quiet⟩]

theorem watch_requests_lost_frame : ¬RequestsBounded (sagLoop passthrough "td") lostFrame := by
  intro h
  have world : ((lostFrame.take 5).foldl feedStep {}).world = sagStep passthrough "td" {} Policy.abandonedFrame := rfl
  have sent : sends ((lostFrame.take 5).foldl feedStep {}) (⟨{}, quiet⟩ : FeedEvent (sagLoop passthrough "td")) =
      some ⟨1⟩ := rfl
  have bounded := h (lostFrame.take 5) ⟨{}, quiet⟩ [] rfl ⟨1⟩ sent
  rw [world, Policy.abandonedFrame_step] at bounded
  exact absurd bounded (by decide)

end Runs

end FleetosAgent.Wiring
