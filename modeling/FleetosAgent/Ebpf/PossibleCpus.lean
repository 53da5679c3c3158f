import FleetosAgent.Ebpf.Counters
import FleetosAgent.Lib.RangeText

/-! # The possible CPUs

`num_possible_cpus` of `ebpf/maps.rs` reads the kernel's list of the CPUs, and `prepopulate_pod_counters` makes that many
zeroed values. A parse that does not succeed is a panic. -/

namespace FleetosAgent.Ebpf
open Lib

/-- What the loop finds in one part of the list; `none` is a panic. -/
def partHighest (part : List Char) : Option Nat :=
  match RangeText.splitOnce '-' part with
  | some (lo, hi) => do
    let lo ← RangeText.parseBelow UInt64.size lo
    let hi ← RangeText.parseBelow UInt64.size hi
    if lo ≤ hi then some hi else none
  | none => RangeText.parseBelow UInt64.size part

/-- `possible` is what reading /sys/devices/system/cpu/possible gives. -/
def numPossibleCpus (possible : Except String String) : Option Nat := do
  let raw := possible.toOption.getD "0"
  let max ← ((RangeText.trim raw.toList).splitOn ',').foldlM (fun max part => (partHighest part).map (Nat.max max)) 0
  some ((max + 1) % UInt64.size)

/-- `PerCpuValues::try_from` of `aya` on a node with `nrCpus` possible CPUs: with what it refuses a list of so many
    values. Its contract is that there is one value for each possible CPU. -/
structure PerCpuApi (nrCpus : Nat) where
  tryFrom : Nat → Option String
  accepts_iff : ∀ values, tryFrom values = none ↔ values = nrCpus

/-- What `prepopulate_pod_counters` fails with, where `num_possible_cpus` is `ncpu`: the conversion of the values comes
    first, and then the insertion. -/
def PerCpuApi.fault {nrCpus : Nat} (aya : PerCpuApi nrCpus) (ncpu : Nat) (insertFault : Option String) : Option String :=
  match aya.tryFrom ncpu with
  | some e => some s!"PerCpuValues: {e}"
  | none => insertFault.map fun e => s!"POD_NET_COUNTERS insert: {e}"

end FleetosAgent.Ebpf
