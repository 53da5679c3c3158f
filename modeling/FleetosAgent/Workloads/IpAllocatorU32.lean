import FleetosAgent.Lib.Checked
import FleetosAgent.Workloads.IpAllocator

/-! # The allocator in 32 bits

`NodeIpAllocator` of `workloads/mod.rs` once more, with the fields and the arithmetic of the source: every `u32` operation
that overflows is a panic, and a call that fails returns the allocator it leaves behind. -/

namespace FleetosAgent.Workloads
open Lib

structure U32Allocator where
  base : UInt32
  hostCount : UInt32
  nextOffset : UInt32
  free : Finset UInt32
  allocated : FinMap UInt32 String

/-- A call, with the order in which it walks the free set if it does. -/
inductive AllocatorCall (Offset : Type) where
  | allocate (podId : String) (order : Enumeration Offset)
  | release (podId : String)
  | allocateP2pPair (podId : String) (order : Enumeration Offset)
  | releaseP2pPair (podId : String)

inductive AllocatorAnswer where
  | address (result : Except AgentError UInt32)
  | pair (result : Except AgentError (UInt32 × UInt32))
  | released

namespace U32Allocator

def new (std : StdParsers) (cidr : String) : Option (Except AgentError U32Allocator) :=
  match parseCidr std cidr with
  | .error e => some (.error e)
  | .ok (ip, bits) =>
    if ¬(8 ≤ bits ∧ bits ≤ 28) then some (.error (.workload s!"workload_ip_cidr prefix /{bits} outside 8..=28"))
    else do
      let shift ← checkedSub 32 bits
      let mask ← if bits = 0 then some 0 else checkedShl 0xFFFFFFFF shift
      let base := ip &&& mask
      if base >>> 28 = 0xF then
        return .error (.workload "workload_ip_cidr overlaps the 240.0.0.0/4 dummy space")
      else
        let hostCount ← checkedShl 1 shift
        return .ok ⟨base, hostCount, 1, ∅, ∅⟩

variable (s : U32Allocator)

def allocate (order : Enumeration UInt32) (podId : String) : Option (Except AgentError UInt32 × U32Allocator) :=
  match (order.list s.free).head? with
  | some o => do
    let ip ← checkedAdd s.base o
    return (.ok ip, { s with free := s.free.erase o, allocated := s.allocated.insert o podId })
  | none => do
    let o := s.nextOffset
    let last ← checkedSub s.hostCount 1
    if last ≤ o then return (.error (.workload "node workload IP space exhausted"), s)
    else
      let next ← checkedAdd o 1
      let ip ← checkedAdd s.base o
      return (.ok ip, { s with nextOffset := next, allocated := s.allocated.insert o podId })

def release (podId : String) : U32Allocator :=
  { s with
    free := s.free ∪ s.allocated.keys.filter fun o => s.allocated.get o = some podId
    allocated := s.allocated.retain fun _ owner => !(owner = podId) }

/-- The first of the candidates that starts a freed pair. -/
def findPair (free : Finset UInt32) : List UInt32 → Option (Option UInt32)
  | [] => some none
  | o :: candidates =>
    if o % 4 = 1 then do
      let next ← checkedAdd o 1
      if next ∈ free then some (some o) else findPair free candidates
    else findPair free candidates

/-- `while o % 4 != 1 { o += 1 }`, for at most `fuel` turns. -/
def nextBoundary : Nat → UInt32 → Option UInt32
  | 0, o => if o % 4 = 1 then some o else none
  | fuel + 1, o => if o % 4 = 1 then some o else do nextBoundary fuel (← checkedAdd o 1)

/-- `allocate_microvm_pair`. -/
def allocateP2pPair (order : Enumeration UInt32) (podId : String) :
    Option (Except AgentError (UInt32 × UInt32) × U32Allocator) := do
  let reuse ← findPair s.free ((order.list s.free).mergeSort fun o o' => o ≤ o')
  match reuse with
  | some o =>
    let guest ← checkedAdd o 1
    let gatewayIp ← checkedAdd s.base o
    let guestIp ← checkedAdd gatewayIp 1
    return (.ok (gatewayIp, guestIp), { s with
      free := (s.free.erase o).erase guest
      allocated := (s.allocated.insert o (NodeIpAllocator.gatewayOwner podId)).insert guest podId })
  | none =>
    let o ← nextBoundary 3 s.nextOffset
    let guest ← checkedAdd o 1
    let last ← checkedSub s.hostCount 1
    if last ≤ guest then return (.error (.workload "node workload IP space exhausted"), s)
    else
      let next ← checkedAdd o 4
      let gatewayIp ← checkedAdd s.base o
      let guestIp ← checkedAdd s.base guest
      return (.ok (gatewayIp, guestIp), { s with
        nextOffset := next
        allocated := (s.allocated.insert o (NodeIpAllocator.gatewayOwner podId)).insert guest podId })

/-- `release_microvm_pair`. -/
def releaseP2pPair (podId : String) : U32Allocator :=
  { s with
    free := s.free ∪ s.allocated.keys.filter fun o =>
      s.allocated.get o = some podId ∨ s.allocated.get o = some (NodeIpAllocator.gatewayOwner podId)
    allocated := s.allocated.retain fun _ owner => !(owner = podId ∨ owner = NodeIpAllocator.gatewayOwner podId) }

def step : AllocatorCall UInt32 → Option (AllocatorAnswer × U32Allocator)
  | .allocate podId order => (s.allocate order podId).map fun (result, s') => (.address result, s')
  | .release podId => some (.released, s.release podId)
  | .allocateP2pPair podId order => (s.allocateP2pPair order podId).map fun (result, s') => (.pair result, s')
  | .releaseP2pPair podId => some (.released, s.releaseP2pPair podId)

/-- The allocator after a run of calls. -/
def run (s : U32Allocator) : List (AllocatorCall UInt32) → Option U32Allocator
  | [] => some s
  | call :: calls => do
    let (_, s') ← s.step call
    run s' calls

end U32Allocator

end FleetosAgent.Workloads
