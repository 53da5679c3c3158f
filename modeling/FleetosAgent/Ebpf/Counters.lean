import FleetosAgent.Workloads.Runtime
import FleetosAgent.Lib.Saturating

/-! # POD_NET_COUNTERS

`ebpf/counters.rs` and `prepopulate_pod_counters` of `ebpf/maps.rs`. The kernel increments per-CPU counters for the workload
IPs that have an entry; the agent sums them over the CPUs, diffs consecutive reads and reports rates. -/

namespace FleetosAgent.Ebpf
open Lib Workloads

/-- Aggregated counters across all CPUs for a single workload IP. -/
structure AggregatedCounters where
  txBytes : UInt64 := 0
  txPackets : UInt64 := 0
  rxBytes : UInt64 := 0
  rxPackets : UInt64 := 0

/-- Per-second rates computed from two consecutive aggregate samples. -/
structure CounterRates where
  txBytesPerSec : UInt64
  txPacketsPerSec : UInt64
  rxBytesPerSec : UInt64
  rxPacketsPerSec : UInt64

/-- Sum the per-CPU samples for one IP into a single aggregate. -/
def aggregate (perCpu : List PodNetCounters) : AggregatedCounters :=
  perCpu.foldl (fun a c => {
    txBytes := saturatingAdd a.txBytes c.txBytes
    txPackets := saturatingAdd a.txPackets c.txPackets
    rxBytes := saturatingAdd a.rxBytes c.rxBytes
    rxPackets := saturatingAdd a.rxPackets c.rxPackets }) {}

/-- Per-second rate between two aggregate samples; `none` if the interval is zero. -/
def rate (prev curr : AggregatedCounters) (intervalSecs : UInt64) : Option CounterRates :=
  if intervalSecs = 0 then none
  else some {
    -- `wrapping_sub`
    txBytesPerSec := (curr.txBytes - prev.txBytes) / intervalSecs
    txPacketsPerSec := (curr.txPackets - prev.txPackets) / intervalSecs
    rxBytesPerSec := (curr.rxBytes - prev.rxBytes) / intervalSecs
    rxPacketsPerSec := (curr.rxPackets - prev.rxPackets) / intervalSecs }

/-- POD_NET_COUNTERS: workload IP → one value per possible CPU. -/
abbrev CounterMap (ncpu : Nat) := FinMap UInt32 (Fin ncpu → PodNetCounters)

/-- Pre-populate a zeroed entry for a workload IP, over an old one if there is one. `fault` is what the conversion or the
    insertion fails with. -/
def prepopulatePodCounters {ncpu : Nat} (fault : Option String) (map : CounterMap ncpu) (workloadIp : UInt32) :
    Except AgentError Unit × CounterMap ncpu :=
  match fault with
  | some text => (.error (.ebpf text), map)
  | none => (.ok (), map.insert workloadIp fun _ => {})

/-- Stateful reader that tracks previous aggregates for rate computation. -/
structure PodNetCountersReader where
  previous : FinMap UInt32 AggregatedCounters := ∅

/-- Read counters for all IPs in the map, aggregate across CPUs, and compute rates against the previous sample. `fault` is
    what the iteration over the map fails with. -/
def PodNetCountersReader.readAndComputeRates {ncpu : Nat} (reader : PodNetCountersReader) (fault : Option String)
    (map : CounterMap ncpu) (intervalSecs : UInt64) :
    Except AgentError (FinMap UInt32 CounterRates) × PodNetCountersReader :=
  match fault with
  | some text => (.error (.ebpf s!"POD_NET_COUNTERS iter: {text}"), reader)
  | none =>
    let currentAggregates := map.mapValues fun perCpu => aggregate (List.ofFn perCpu)
    let rates := currentAggregates.filterMapValues fun ip agg => (reader.previous.get ip).bind fun prev =>
      rate prev agg intervalSecs
    (.ok rates, { previous := currentAggregates })

end FleetosAgent.Ebpf
