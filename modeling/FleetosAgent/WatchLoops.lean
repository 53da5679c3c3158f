import FleetosAgent.Client.Watch
import FleetosAgent.Wiring
import FleetosAgent.Workloads.Manager

/-! # The watch loops with their streams

`run_sag_watch` and `run_routes_watch` pull their stream: the stream goes on to its next await only when the loop has
handled what it yielded. So a loop and its stream are one machine, which takes a step for each answer of the network.
`run_schedule_watch` hands each frame to the reconciler. -/

namespace FleetosAgent.Wiring
open Client Routes Policy

/-- A loop `while let Some(result) = stream.next().await` over a versioned stream. -/
structure WatchLoop (U : Type) where
  stream : WatchState → NetAnswer U → WatchState × WatchOutput U
  version : U → UInt64
  World : Type
  /-- What the environment does while one update is handled. -/
  Env : Type
  start : World
  handle : World → U → Env → World
  /-- Mutations were computed from the update, and the loop goes on to execute them. -/
  executes : World → U → Env → Bool
  /-- All of them were executed, and the sync state was updated. -/
  applies : World → U → Env → Bool
  currentVersion : World → UInt64

/-- Whether `sync_policy` updates the sync state: there were mutations, and every operation succeeded. -/
def sagApplied (c : PolicyCompiler) (dataTrustDomain : String) (w : PolicyWorld) (update : SagUpdate c) (env : SyncEnv) :
    Bool :=
  match compileAndSync c env.order w.state update.rules update.version dataTrustDomain with
  | .ok (some (mutations, _)) => (Policy.applyMutationsToMaps env mutations w.maps).1.isOk
  | _ => false

def sagLoop (c : PolicyCompiler) (dataTrustDomain : String) : WatchLoop (SagUpdate c) where
  stream := watchSag c
  version := (·.version)
  World := PolicyWorld
  Env := SyncEnv
  start := {}
  handle w update env := sagStep c dataTrustDomain w ⟨update, env⟩
  executes w update env :=
    match compileAndSync c env.order w.state update.rules update.version dataTrustDomain with
    | .ok (some _) => true
    | _ => false
  applies := sagApplied c dataTrustDomain
  currentVersion w := w.state.currentVersion

def routesLoop (api : SpiffeApi) (ownNodeSpiffeId : api.SpiffeId) : WatchLoop RouteUpdate where
  stream := watchRoutes
  version := (·.version)
  World := RoutesWatch
  Env := RouteEnv
  start := {}
  handle w update env := routesWatchStep api ownNodeSpiffeId w ⟨update, env⟩
  executes w update env :=
    match processRouteUpdate api ownNodeSpiffeId env.order w.routes.state update with
    | .ok (some _) => true
    | _ => false
  applies w update env := routeApplied api ownNodeSpiffeId w.routes ⟨update, env⟩
  currentVersion w := w.routes.state.currentVersion

section Feed
variable {U : Type} (loop : WatchLoop U)

/-- The stream and the loop that pulls it. -/
structure Feed where
  stream : WatchState := {}
  world : loop.World := loop.start

/-- An answer of the network, and what the environment does if an update is handled at this step. -/
structure FeedEvent where
  answer : NetAnswer U
  env : loop.Env

variable {loop}

/-- The update that the step yields to the loop; an error that is yielded is only logged. -/
def yields (f : Feed loop) (event : FeedEvent loop) : Option U :=
  match (loop.stream f.stream event.answer).2.yielded with
  | some (.ok update) => some update
  | _ => none

def feedStep (f : Feed loop) (event : FeedEvent loop) : Feed loop where
  stream := (loop.stream f.stream event.answer).1
  world :=
    match yields f event with
    | some update => loop.handle f.world update event.env
    | none => f.world

/-- The WatchRequest that the step sends. -/
def sends (f : Feed loop) (event : FeedEvent loop) : Option WatchRequest := (loop.stream f.stream event.answer).2.request

end Feed

/-! ### The schedule -/

section Schedule
open Workloads

/-- What the environment does while a schedule frame is handled. -/
structure ScheduleEnv (api : SpiffeApi) where
  order : Lib.Enumeration String
  evictEnv : Nat → EvictEnv
  bootEnv : Nat → BootEnv api

/-- The specs of a frame; an assignment that `from_assignment` rejects is left out. -/
def scheduleSpecs (update : ScheduleUpdate) : List WorkloadSpec :=
  update.assignments.filterMap fun assignment => (WorkloadSpec.fromAssignment assignment).toOption

def scheduleCall {api : SpiffeApi} (update : ScheduleUpdate) (env : ScheduleEnv api) : ReconcileCall api :=
  ⟨scheduleSpecs update, env.order, env.evictEnv, env.bootEnv⟩

/-- `run_schedule_watch` with a frame that its stream yields. -/
def scheduleStep {api : SpiffeApi} (cfg : ManagerConfig api) (update : ScheduleUpdate) (env : ScheduleEnv api) :
    Manager api Unit :=
  reconcile cfg (scheduleCall update env)

end Schedule

end FleetosAgent.Wiring
