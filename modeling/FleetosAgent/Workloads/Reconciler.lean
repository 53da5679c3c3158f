import FleetosAgent.Workloads.PodManager

/-! # Full-state reconciler

`workloads/reconciler.rs`: every `ScheduleUpdate` frame is full state (Ruling B). Present in frame, absent locally →
boot; absent in frame, present locally → graceful eviction. -/

namespace FleetosAgent.Workloads
open Lib

/-- Reconciliation result: the specs to boot and the ids of the pods to evict. -/
structure ReconcileResult where
  toBoot : List WorkloadSpec := []
  toEvict : List String := []

/-- Reconcile desired assignments against running pods. `order` is the order in which the pod table is walked. -/
def Reconciler.reconcile (order : Enumeration String) (desired : List WorkloadSpec) (running : PodManager) :
    ReconcileResult :=
  let desiredIds : Finset String := (desired.map (·.workloadId)).toFinset
  let runningIds : Finset String := (((running.allPods order).filter (·.Live)).map (·.workloadId)).toFinset
  { toBoot := desired.filter fun spec => spec.workloadId ∉ runningIds
    toEvict := ((running.allPods order).filter fun pod => pod.Live ∧ pod.workloadId ∉ desiredIds).map (·.podId) }

end FleetosAgent.Workloads
