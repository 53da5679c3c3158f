import FleetosAgent.Abi
import FleetosAgent.Lib.FinMap

/-! # VmNetGuard and its adapter

`ebpf/programs.rs` (`attach_tc`, `VmNetGuard::arm`), `ebpf/maps.rs` (`arm_boot_gate`) and `ebpf/net_guard_adapter.rs`: the
guards of the MicroVM interfaces, and the one word BOOT_GATE[0] that opens the overlay ingress path of the node. -/

namespace FleetosAgent.Ebpf
open Lib

inductive TcAttachType where
  | ingress
  | egress
  deriving DecidableEq

def TcAttachType.programName : TcAttachType → String
  | egress => "fleetos_tc_egress"
  | ingress => "fleetos_tc_ingress"

/-- How `attach_tc` may fail. -/
inductive TcFault where
  | programMissing
  | cast (text : String)
  | load (text : String)
  | attach (text : String)

/-- The link of an attached classifier, by what it is attached to. -/
structure AttachedLink where
  interface : String
  direction : TcAttachType
  deriving DecidableEq

def attachTc (fault : Option TcFault) (interface : String) (direction : TcAttachType) : Except AgentError AttachedLink :=
  let programName := direction.programName
  match fault with
  | some .programMissing => .error (.ebpf s!"{programName} program missing")
  | some (.cast e) => .error (.ebpf s!"{programName} cast: {e}")
  | some (.load e) => .error (.ebpf s!"{programName} load: {e}")
  | some (.attach e) => .error (.ebpf s!"{programName} attach to {interface}: {e}")
  | none => .ok ⟨interface, direction⟩

structure VmNetGuard where
  interface : String
  egressLink : AttachedLink
  ingressLink : AttachedLink
  deriving DecidableEq

/-- What the kernel does during one `arm`. -/
structure ArmEnv where
  egress : Option TcFault := none
  ingress : Option TcFault := none
  gateWrite : Option String := none

/-- `arm_boot_gate` and the write of `disarm`: set BOOT_GATE[0]. -/
def setBootGate (fault : Option String) (what : String) (value : UInt32) : Except AgentError UInt32 :=
  match fault with
  | some e => .error (.ebpf s!"BOOT_GATE {what}: {e}")
  | none => .ok value

/-- Attach both classifiers to the interface, then arm BOOT_GATE: the guard and the new word. -/
def VmNetGuard.arm (env : ArmEnv) (interface : String) : Except AgentError (VmNetGuard × UInt32) := do
  let egressLink ← attachTc env.egress interface .egress
  let ingressLink ← attachTc env.ingress interface .ingress
  let gate ← setBootGate env.gateWrite "arm" 1
  return (⟨interface, egressLink, ingressLink⟩, gate)

/-- `VmNetGuardAdapter`. `new` takes the BOOT_GATE map, so the option is `some` from then on. -/
structure VmNetGuardAdapter where
  bootGate : Option UInt32 := some 0
  /-- Live guards by interface. -/
  guards : FinMap String VmNetGuard := ∅

namespace VmNetGuardAdapter
variable (adapter : VmNetGuardAdapter)

def arm (env : ArmEnv) (interface : String) : Except AgentError Unit × VmNetGuardAdapter :=
  match adapter.bootGate with
  | none => (.error (.ebpf "BOOT_GATE not available"), adapter)
  | some _ =>
    match VmNetGuard.arm env interface with
    | .error e => (.error e, adapter)
    | .ok (guard, gate) => (.ok (), { bootGate := some gate, guards := adapter.guards.insert interface guard })

def disarm (gateWrite : Option String) (interface : String) : Except AgentError Unit × VmNetGuardAdapter :=
  let adapter := { adapter with guards := adapter.guards.remove interface }
  match adapter.bootGate with
  | none => (.ok (), adapter)
  | some _ =>
    -- The gate is closed whatever other guards there are.
    match setBootGate gateWrite "disarm" 0 with
    | .error e => (.error e, adapter)
    | .ok gate => (.ok (), { adapter with bootGate := some gate })

end VmNetGuardAdapter

inductive GuardCall where
  | arm (interface : String) (env : ArmEnv)
  | disarm (interface : String) (gateWrite : Option String)

def guardStep (adapter : VmNetGuardAdapter) : GuardCall → VmNetGuardAdapter
  | .arm interface env => (adapter.arm env interface).2
  | .disarm interface gateWrite => (adapter.disarm gateWrite interface).2

end FleetosAgent.Ebpf
