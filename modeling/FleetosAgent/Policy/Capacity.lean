import FleetosAgent.Lib.FaultyTable
import FleetosAgent.Policy.Sync

/-! # The sizes of the policy maps

POLICY_EXACT and POLICY_WILDCARD have a fixed number of entries. The kernel refuses a new key when the map is full and
overwrites one that is there; the agent inserts before it removes. -/

namespace FleetosAgent.Policy
open Lib

/-- How many entries the two maps have. -/
structure MapSizes where
  policyExactMax : Nat
  policyWildcardMax : Nat

/-- What a failed `bpf_map_update_elem` reads like. -/
def mapFull : String := "`bpf_map_update_elem` failed"

/-- What fails on a kernel whose maps have these sizes and which is healthy otherwise. -/
def MapSizes.env (sizes : MapSizes) (order : KeyOrder) (mutations : PolicyMutations) (maps : PolicyMaps) : SyncEnv where
  order := order
  insertExact := fullFault sizes.policyExactMax mapFull
    (mutations.insertExact.map fun kv => (exactKeyBytes kv.1, policyValueBytes kv.2)) maps.policyExact
  insertWildcard := fullFault sizes.policyWildcardMax mapFull
    (mutations.insertWildcard.map fun kv => (wildcardKeyBytes kv.1, policyValueBytes kv.2)) maps.policyWildcard

/-- A frame, and the order in which the mirror is walked meanwhile. -/
structure SagArrival (c : PolicyCompiler) where
  update : SagUpdate c
  order : KeyOrder

section
variable (sizes : MapSizes) (c : PolicyCompiler) (dataTrustDomain : String)

/-- The frame as such a kernel meets it. -/
def sizedFrame (w : PolicyWorld) (arrival : SagArrival c) : SagFrame c where
  update := arrival.update
  env :=
    match compileAndSync c arrival.order w.state arrival.update.rules arrival.update.version dataTrustDomain with
    | .ok (some (mutations, _)) => sizes.env arrival.order mutations w.maps
    | _ => { order := arrival.order }

def syncSized (w : PolicyWorld) (arrival : SagArrival c) : Except AgentError Unit × PolicyWorld :=
  let frame := sizedFrame sizes c dataTrustDomain w arrival
  syncPolicy c dataTrustDomain w frame.update frame.env

/-- One turn of the loop of `run_sag_watch` on such a kernel. -/
def sizedStep (w : PolicyWorld) (arrival : SagArrival c) : PolicyWorld := (syncSized sizes c dataTrustDomain w arrival).2

end

end FleetosAgent.Policy
