import FleetosAgent.Client.Channel
import FleetosAgent.Identity.Svid

/-! # SVIDs that are replaced under a client

The storage of the SVID, the `svid_state` that is shared with the client, and the client. A channel is the SVID it was built
with. A store writes to the storage only: that its SVID gets into `svid_state` is an event of its own, which the agent has
at startup and nowhere else. `get_channel` drops its guard of `svid_state` before it builds, so the SVID may be replaced
while it does; the lock of the channel keeps the calls apart. -/

namespace FleetosAgent.Client
open Lib Identity Svid

/-- A step at which nothing is built. -/
def ClientTask.advance {Channel : Type} (svidGeneration : UInt64) (p : ControlPlaneClient Channel × ClientTask) :
    ControlPlaneClient Channel × ClientTask :=
  p.2.resume p.1 svidGeneration fun _ => .error (.internal "not at the build")

/-- `get_channel` up to where it drops the guard of `svid_state`: it has returned, or it is about to build. -/
def ClientTask.beginGetChannel {Channel : Type} (client : ControlPlaneClient Channel) (svidGeneration : UInt64) :
    ControlPlaneClient Channel × ClientTask :=
  (advance svidGeneration)^[4] (client, .getChannel)

structure SvidWorld where
  storage : SvidStore := ∅
  /-- What the last store that succeeded has returned. -/
  latest : SvidState := {}
  svidState : SvidState := {}
  client : ControlPlaneClient SvidState
  /-- The target and the SVID of the channel that is being built. -/
  building : Option (String × SvidState) := none
  /-- The generations that were written so far. Only statements look here. -/
  written : List UInt64 := []

inductive SvidEvent where
  /-- An SVID is installed in the storage. -/
  | store (loadFaults faults : KeyspaceFaults) (certChainDer : List (List UInt8)) (svidVersion : UInt64)
  | clear (faults : KeyspaceFaults)
  /-- The shared state is set to the SVID that was installed last. -/
  | publish
  /-- A call of `get_channel`; it waits while another one builds. -/
  | getChannel
  /-- The build ends. -/
  | built (fault : Option AgentError)
  | retarget (newTarget : String)

section
variable (codec : ChainCodec)

/-- The generation that a store writes: three of its inserts have to succeed. -/
def SvidWorld.writes (w : SvidWorld) : SvidEvent → Option UInt64
  | .store loadFaults faults certChainDer svidVersion =>
    match load codec loadFaults w.storage, codec.encode certChainDer with
    | .ok current, .ok certBytes =>
      let generation := current.generation + 1
      if (insertAll faults w.storage ((inserts certBytes svidVersion generation).take 3)).1.isOk
        then some generation else none
    | _, _ => none
  | _ => none

def SvidWorld.step (w : SvidWorld) (event : SvidEvent) : SvidWorld :=
  match event with
  | .store loadFaults faults certChainDer svidVersion =>
    let (result, storage) := install codec loadFaults faults w.storage certChainDer svidVersion
    { w with
      storage := storage
      latest := result.toOption.getD w.latest
      written := w.written ++ (w.writes codec event).toList }
  | .clear faults => { w with storage := (Svid.clear faults w.storage).2 }
  | .publish => { w with svidState := w.latest }
  | .getChannel =>
    if w.building.isSome then w
    else
      let (client, task) := ClientTask.beginGetChannel w.client w.svidState.generation
      { w with
        client := client
        building := match task with
          | .building target => some (target, w.svidState)
          | _ => none }
  | .built fault =>
    match w.building with
    | none => w
    | some (target, svid) =>
      let build := fun _ => match fault with
        | some e => .error e
        | none => .ok svid
      { w with client := ((ClientTask.building target).resume w.client svid.generation build).1, building := none }
  | .retarget newTarget =>
    -- It clears the channel under its lock.
    if w.building.isSome then w
    else { w with client := ((ClientTask.advance w.svidState.generation)^[2] (w.client, .retarget newTarget)).1 }

end

end FleetosAgent.Client
