import FleetosAgent.Client.Retry
import FleetosAgent.Policy.Sync
import FleetosAgent.Routes.Table
import FleetosAgent.Workloads.Spec

/-! # Reconnecting watch streams

`client/watch.rs`: each stream is a loop that asks for a channel, sends a WatchRequest and reads messages until the server
closes or an error comes, and then starts over. The model takes one step for each answer of the network. -/

namespace FleetosAgent.Client

structure WatchRequest where
  lastKnownVersion : UInt64
  deriving DecidableEq

/-- Where the loop waits: for a channel, for the answer to its request, for a message. -/
inductive WatchPhase where
  | channel
  | request
  | streaming
  deriving DecidableEq

/-- The variables of the loop. -/
structure WatchState where
  lastKnownVersion : UInt64 := 0
  redirectHops : Nat := 0
  consecutiveFailures : Nat := 0
  phase : WatchPhase := .channel

/-- What the network answers; a step reads the answer it waits for. -/
structure NetAnswer (U : Type) where
  channel : Except AgentError Unit := .ok ()
  watch : Except Status Unit := .ok ()
  message : Except Status (Option U) := .ok none

/-- What a step does apart from the variables: the request it sends, what the stream yields, the new target of the client
    and how long it sleeps afterwards. -/
structure WatchOutput (U : Type) where
  request : Option WatchRequest := none
  yielded : Option (Except AgentError U) := none
  retarget : Option String := none
  sleepMs : Nat := 0

section Versioned
variable {U : Type} (version : U → UInt64)

/-- The stream ends with an error; only a redirect is acted upon. -/
def streamError (s : WatchState) (status : Status) : WatchState × WatchOutput U :=
  match classifyError status s.redirectHops with
  | .redirectAndRetry newTarget delayMs =>
    ({ s with redirectHops := s.redirectHops + 1, phase := .channel }, { retarget := some newTarget, sleepMs := delayMs })
  | _ => ({ s with phase := .channel }, {})

/-- The request `request` fails. -/
def requestError (s : WatchState) (request : WatchRequest) (status : Status) : WatchState × WatchOutput U :=
  match classifyError status s.redirectHops with
  | .redirectAndRetry newTarget delayMs =>
    ({ s with redirectHops := s.redirectHops + 1, phase := .channel },
      { request := some request, retarget := some newTarget, sleepMs := delayMs })
  | .retrySameTarget delayMs => ({ s with phase := .channel }, { request := some request, sleepMs := delayMs })
  | .giveUp reason =>
    ({ s with consecutiveFailures := s.consecutiveFailures + 1, phase := .channel },
      { request := some request, yielded := some (.error (.rpc s!"watch connection failed: {reason}")),
        sleepMs := backoffMs (s.consecutiveFailures + 1) })

/-- A watch stream of versioned updates. -/
def watchVersioned (s : WatchState) (answer : NetAnswer U) : WatchState × WatchOutput U :=
  match s.phase with
  | .channel =>
    match answer.channel with
    | .ok _ => ({ s with phase := .request }, {})
    | .error e => (s, { yielded := some (.error e), sleepMs := baseRetryDelayMs })
  | .request =>
    let request : WatchRequest := ⟨s.lastKnownVersion⟩
    match answer.watch with
    | .ok _ => ({ s with consecutiveFailures := 0, redirectHops := 0, phase := .streaming }, { request := some request })
    | .error status => requestError s request status
  | .streaming =>
    match answer.message with
    | .ok (some update) =>
      if s.lastKnownVersion < version update then
        ({ s with lastKnownVersion := version update }, { yielded := some (.ok update) })
      else (s, {})
    | .ok none => ({ s with phase := .channel }, {})
    | .error status => streamError s status

end Versioned

def watchSag (c : Policy.PolicyCompiler) (s : WatchState) (answer : NetAnswer (Policy.SagUpdate c)) :
    WatchState × WatchOutput (Policy.SagUpdate c) :=
  watchVersioned (·.version) s answer

def watchRoutes (s : WatchState) (answer : NetAnswer Routes.RouteUpdate) : WatchState × WatchOutput Routes.RouteUpdate :=
  watchVersioned (·.version) s answer

structure ScheduleUpdate where
  assignments : List Workloads.WorkloadAssignment
  version : UInt64

def watchSchedule (s : WatchState) (answer : NetAnswer ScheduleUpdate) : WatchState × WatchOutput ScheduleUpdate :=
  watchVersioned (·.version) s answer

/-- The stream of WatchEvent is unversioned: every message is yielded, and a request never says what is known. -/
def watchEvents {WatchEvent : Type} (s : WatchState) (answer : NetAnswer WatchEvent) :
    WatchState × WatchOutput WatchEvent :=
  match s.phase with
  | .channel =>
    match answer.channel with
    | .ok _ => ({ s with phase := .request }, {})
    | .error e => (s, { yielded := some (.error e), sleepMs := baseRetryDelayMs })
  | .request =>
    let request : WatchRequest := ⟨0⟩
    match answer.watch with
    | .ok _ => ({ s with consecutiveFailures := 0, redirectHops := 0, phase := .streaming }, { request := some request })
    | .error status => requestError s request status
  | .streaming =>
    match answer.message with
    | .ok (some update) => (s, { yielded := some (.ok update) })
    | .ok none => ({ s with phase := .channel }, {})
    | .error status => streamError s status

end FleetosAgent.Client
