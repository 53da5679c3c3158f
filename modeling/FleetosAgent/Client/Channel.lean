import FleetosAgent.Abi
import FleetosAgent.Lib.Locks
import Mathlib.Data.Fintype.Basic

/-! # Control plane client

`client/mod.rs`: the shared channel to control. `get_channel` and `retarget` are cut at their awaits, so that a step of a
task is what it does from the grant of one lock to the next await; a guard is held to the end of its scope. -/

namespace FleetosAgent.Client
open Lib

inductive ClientLock where
  | channel
  | svidState
  | lastSvidGeneration
  | currentTarget
  deriving DecidableEq, Repr

/-- What the locks of a `ControlPlaneClient` guard; `svid_state` is shared with others. -/
structure ControlPlaneClient (Channel : Type) where
  currentTarget : String
  channel : Option Channel := none
  lastSvidGeneration : UInt64 := 0

/-- Where a task stands: before its first lock, at the next one, or at the build of the channel. -/
inductive ClientTask where
  | getChannel
  | atSvidState
  | atGeneration
  /-- No channel is cached. -/
  | atTarget
  | building (target : String)
  | retarget (newTarget : String)
  /-- The target has changed. -/
  | atChannel
  | returned
  deriving DecidableEq, Repr

namespace ClientTask

/-- The guards in scope. -/
def held : ClientTask → List (ClientLock × LockMode)
  | getChannel => []
  | atSvidState => [(.channel, .write)]
  | atGeneration => [(.channel, .write), (.svidState, .read)]
  | atTarget => [(.channel, .write), (.svidState, .read), (.lastSvidGeneration, .write)]
  -- The guard of `current_target` ends with its statement, and the one of `svid_state` is dropped after it.
  | building _ => [(.channel, .write), (.lastSvidGeneration, .write)]
  | retarget _ => []
  | atChannel => [(.currentTarget, .write)]
  | returned => []

def wanted : ClientTask → Option (ClientLock × LockMode)
  | getChannel => some (.channel, .write)
  | atSvidState => some (.svidState, .read)
  | atGeneration => some (.lastSvidGeneration, .write)
  | atTarget => some (.currentTarget, .read)
  | building _ => none
  | retarget _ => some (.currentTarget, .write)
  | atChannel => some (.channel, .write)
  | returned => none

section
variable {Channel : Type}

/-- What a task does once it has the lock it is at. `build` loads the SVID's private key and builds the mTLS channel. -/
def resume (client : ControlPlaneClient Channel) (svidGeneration : UInt64) (build : String → Except AgentError Channel) :
    ClientTask → ControlPlaneClient Channel × ClientTask
  | getChannel => (client, atSvidState)
  | atSvidState => (client, atGeneration)
  | atGeneration =>
    -- SVID rotated: rebuild the channel.
    let client := if client.lastSvidGeneration < svidGeneration then
      { client with lastSvidGeneration := svidGeneration, channel := none } else client
    if client.channel.isSome then (client, returned) else (client, atTarget)
  | atTarget => (client, building client.currentTarget)
  | building target =>
    match build target with
    | .ok channel => ({ client with channel := some channel }, returned)
    | .error _ => (client, returned)
  | retarget newTarget =>
    if client.currentTarget ≠ newTarget then ({ client with currentTarget := newTarget }, atChannel) else (client, returned)
  | atChannel => ({ client with channel := none }, returned)
  | returned => (client, returned)

end

end ClientTask

/-- A client and the tasks that call it. -/
structure ClientSystem (Channel : Type) (n : ℕ) where
  client : ControlPlaneClient Channel
  svidGeneration : UInt64
  tasks : Fin n → ClientTask

/-- The calls that tasks make. -/
inductive ClientCall where
  | getChannel
  | retarget (newTarget : String)
  deriving DecidableEq, Repr

def ClientCall.task : ClientCall → ClientTask
  | getChannel => .getChannel
  | retarget newTarget => .retarget newTarget

inductive ClientEvent (Channel : Type) (n : ℕ) where
  /-- The scheduler runs a task to its next await. -/
  | run (task : Fin n) (build : String → Except AgentError Channel)
  /-- Another component replaces the SVID. -/
  | rotated (generation : UInt64)

namespace ClientSystem
variable {Channel : Type} {n : ℕ}

/-- A new client, none of the calls begun. -/
def new (initialTarget : String) (svidGeneration : UInt64) (calls : Fin n → ClientCall) : ClientSystem Channel n :=
  ⟨{ currentTarget := initialTarget }, svidGeneration, fun i => (calls i).task⟩

def locking (s : ClientSystem Channel n) : Locking (Fin n) ClientLock :=
  ⟨fun i => (s.tasks i).held, fun i => (s.tasks i).wanted⟩

instance (s : ClientSystem Channel n) (i : Fin n) : Decidable (s.locking.Free i) := inferInstanceAs (Decidable (∀ _, ¬ _))

/-- A task whose lock is not free stays where it is; the SVID is replaced only while nobody reads it. -/
def step (s : ClientSystem Channel n) : ClientEvent Channel n → ClientSystem Channel n
  | .run i build =>
    if s.locking.Free i then
      let (client, task) := (s.tasks i).resume s.client s.svidGeneration build
      { s with client := client, tasks := Function.update s.tasks i task }
    else s
  | .rotated generation =>
    if ∃ i, (.svidState, .read) ∈ (s.tasks i).held then s else { s with svidGeneration := generation }

end ClientSystem

end FleetosAgent.Client
