import FleetosAgent.Ebpf.NetGuard
import FleetosAgent.Lib.Run

/-! # BOOT_GATE and the guards

The gate is one word for the node, and `disarm` closes it for an interface. So the gate follows the guards as long as only
the last guard is taken away. -/

namespace FleetosAgent.Ebpf
open Lib

variable {adapter : VmNetGuardAdapter} {call : GuardCall}

/-- The gate is open exactly if some interface has a live guard. -/
structure GateExact (adapter : VmNetGuardAdapter) : Prop where
  available : adapter.bootGate.isSome
  open_iff : adapter.bootGate = some 1 ↔ ∃ interface, interface ∈ adapter.guards.keys

/-- The write of BOOT_GATE that the call may come to succeeds. -/
def WritesSucceed : GuardCall → Prop
  | .arm _ env => env.gateWrite = none
  | .disarm _ gateWrite => gateWrite = none

/-- No interface but the one that is disarmed has a live guard. -/
def DisarmsLast (adapter : VmNetGuardAdapter) : GuardCall → Prop
  | .arm .. => True
  | .disarm interface _ => ∀ other ∈ adapter.guards.keys, other = interface

/-- `arm` either fails and changes nothing, or opens the gate and adds the guard. -/
theorem arm_cases (adapter : VmNetGuardAdapter) (env : ArmEnv) (interface : String) :
    (∃ e, adapter.arm env interface = (.error e, adapter)) ∨
      ∃ guard, adapter.arm env interface =
        (.ok (), { bootGate := some 1, guards := adapter.guards.insert interface guard }) := by
  unfold VmNetGuardAdapter.arm
  cases adapter.bootGate with
  | none => exact Or.inl ⟨_, rfl⟩
  | some word =>
    cases harm : VmNetGuard.arm env interface with
    | error e => exact Or.inl ⟨e, rfl⟩
    | ok armed =>
      obtain ⟨guard, gate⟩ := armed
      have opened : gate = 1 := by
        rw [VmNetGuard.arm] at harm
        cases hegress : attachTc env.egress interface .egress <;>
          cases hingress : attachTc env.ingress interface .ingress <;>
          cases hwrite : env.gateWrite <;>
          simp [hegress, hingress, hwrite, setBootGate, bind, Except.bind, pure, Except.pure] at harm
        exact harm.2.symm
      exact Or.inr ⟨guard, by rw [opened]⟩

/-- One call on an exact gate. -/
theorem gateExact_step_iff (h : GateExact adapter) (writes : WritesSucceed call) :
    GateExact (guardStep adapter call) ↔ DisarmsLast adapter call := by
  cases call with
  | arm interface env =>
    refine iff_of_true ?_ trivial
    rw [guardStep]
    rcases arm_cases adapter env interface with ⟨e, hfail⟩ | ⟨guard, hok⟩
    · rw [hfail]
      exact h
    · rw [hok]
      exact ⟨rfl, iff_of_true rfl ⟨interface, Finset.mem_insert_self interface _⟩⟩
  | disarm interface gateWrite =>
    obtain ⟨word, hword⟩ := Option.isSome_iff_exists.mp h.available
    have closed : guardStep adapter (.disarm interface gateWrite) =
        { bootGate := some 0, guards := adapter.guards.remove interface } := by
      simp only [guardStep, VmNetGuardAdapter.disarm, hword, show gateWrite = none from writes, setBootGate]
    have shut : (some 0 : Option UInt32) ≠ some 1 := by decide
    rw [closed]
    constructor
    · intro h' other hother
      by_contra hne
      exact shut (h'.open_iff.mpr ⟨other, Finset.mem_erase.mpr ⟨hne, hother⟩⟩)
    · intro last
      refine ⟨rfl, iff_of_false shut ?_⟩
      rintro ⟨other, hother⟩
      obtain ⟨hne, hmem⟩ := Finset.mem_erase.mp hother
      exact hne (last other hmem)

theorem gateExact_new : GateExact {} := ⟨rfl, iff_of_false (by decide) fun ⟨_, h⟩ => Finset.notMem_empty _ h⟩

/-- The gate follows the guards after every call exactly if each `disarm` finds no guard of another interface. -/
theorem boot_gate_exact_iff (calls : List GuardCall) (writes : ∀ call ∈ calls, WritesSucceed call) :
    Along guardStep (fun adapter call => GateExact (guardStep adapter call)) {} calls ↔
      Along guardStep DisarmsLast {} calls :=
  along_iff_of_inv writes gateExact_new (fun _ _ => gateExact_step_iff) fun _ _ _ _ h => h

/-- Two MicroVMs one after the other. -/
theorem boot_gate_exact_of_turns : Along guardStep (fun adapter call => GateExact (guardStep adapter call)) {}
    [.arm "tap0" {}, .disarm "tap0" none, .arm "tap1" {}, .disarm "tap1" none] := by
  refine (boot_gate_exact_iff _ (by simp [WritesSucceed])).mpr ?_
  simp only [along_cons, DisarmsLast, true_and]
  exact ⟨by decide, by decide, along_nil⟩

theorem not_gateExact_of_live (calls : List GuardCall) (last : GuardCall) (interface : String)
    (live : interface ∈ ((calls ++ [last]).foldl guardStep {}).guards.keys)
    (shut : ((calls ++ [last]).foldl guardStep {}).bootGate ≠ some 1) :
    ¬Along guardStep (fun adapter call => GateExact (guardStep adapter call)) {} (calls ++ [last]) := by
  intro h
  rw [List.foldl_append] at live shut
  exact shut ((along_concat.mp h).2.open_iff.mpr ⟨interface, live⟩)

/-- Two MicroVMs at a time: the first one's end closes the gate for the second. So does a `disarm` of an interface that was
    never armed. -/
theorem boot_gate_closed_for_other :
    ¬Along guardStep (fun adapter call => GateExact (guardStep adapter call)) {}
      [.arm "tap0" {}, .arm "tap1" {}, .disarm "tap0" none] ∧
    ¬Along guardStep (fun adapter call => GateExact (guardStep adapter call)) {} [.arm "tap0" {}, .disarm "tap1" none] := by
  constructor
  · exact not_gateExact_of_live [.arm "tap0" {}, .arm "tap1" {}] (.disarm "tap0" none) "tap1" (by decide) (by decide)
  · exact not_gateExact_of_live [.arm "tap0" {}] (.disarm "tap1" none) "tap0" (by decide) (by decide)

end FleetosAgent.Ebpf
