import FleetosAgent.Abi
import FleetosAgent.Lib.MirrorSync

/-! # Full-state policy sync

`policy/sync.rs`: every `SagUpdate` frame is full state (Ruling B). The agent computes the desired key set
from the compiled entries, diffs it against the tracked keys and produces insert/delete mutations.

The policy compiler (`fleetos_policy_compiler`) is another crate and stands here as `PolicyCompiler`. -/

namespace FleetosAgent.Policy
open Lib

inductive CompiledPolicyEntry where
  | exact (srcFingerprint dstFingerprint : Bytes 16) (protocol : UInt8) (dstPort : UInt16) (decision : UInt8)
      (sagVersion : UInt64)
  | wildcard (srcFingerprint dstFingerprint : Bytes 16) (decision : UInt8) (sagVersion : UInt64)

/-- `CompiledPolicySet`, of which the sync reads the entries. -/
structure CompiledPolicySet where
  entries : List CompiledPolicyEntry

/-- The functions of `fleetos_policy_compiler` that the sync calls. -/
structure PolicyCompiler where
  ProtoSagRule : Type
  SagRule : Type
  protoRuleToCore : ProtoSagRule → Except String SagRule
  compilePolicySet : List SagRule → UInt64 → String → Except String CompiledPolicySet
  toEbpfExactKey : CompiledPolicyEntry → Option EbpfPolicyKey
  toEbpfWildcardKey : CompiledPolicyEntry → Option EbpfPolicyWildcardKey
  toEbpfValue : CompiledPolicyEntry → EbpfPolicyValue

/-- Tracks the current state of policy entries in the eBPF maps: the userspace mirror. -/
structure PolicySyncState where
  currentVersion : UInt64
  exactKeys : Finset (Bytes 40)
  wildcardKeys : Finset (Bytes 32)

def PolicySyncState.new : PolicySyncState where
  currentVersion := 0
  exactKeys := ∅
  wildcardKeys := ∅

structure PolicyMutations where
  insertExact : List (EbpfPolicyKey × EbpfPolicyValue) := []
  deleteExact : List (Bytes 40) := []
  insertWildcard : List (EbpfPolicyWildcardKey × EbpfPolicyValue) := []
  deleteWildcard : List (Bytes 32) := []

structure KeyOrder where
  exact : Enumeration (Bytes 40)
  wildcard : Enumeration (Bytes 32)

/-- What the loop over the compiled entries has collected so far. -/
structure Collected where
  mutations : PolicyMutations := {}
  desiredExactKeys : Finset (Bytes 40) := ∅
  desiredWildcardKeys : Finset (Bytes 32) := ∅

section Compiler
variable (c : PolicyCompiler)

/-- One turn of the loop: the key is desired, and the entry is inserted if the mirror lacks its key. -/
def collectEntry (state : PolicySyncState) (acc : Collected) (entry : CompiledPolicyEntry) : Collected :=
  match entry with
  | .exact .. =>
    match c.toEbpfExactKey entry with
    | some key =>
      let keyBytes := exactKeyBytes key
      { acc with
        desiredExactKeys := insert keyBytes acc.desiredExactKeys
        mutations := if keyBytes ∉ state.exactKeys then
            { acc.mutations with insertExact := acc.mutations.insertExact ++ [(key, c.toEbpfValue entry)] }
          else acc.mutations }
    | none => acc
  | .wildcard .. =>
    match c.toEbpfWildcardKey entry with
    | some key =>
      let keyBytes := wildcardKeyBytes key
      { acc with
        desiredWildcardKeys := insert keyBytes acc.desiredWildcardKeys
        mutations := if keyBytes ∉ state.wildcardKeys then
            { acc.mutations with insertWildcard := acc.mutations.insertWildcard ++ [(key, c.toEbpfValue entry)] }
          else acc.mutations }
    | none => acc

/-- Compute the diff between the desired state (compiled entries) and the current state (tracked keys). -/
def computeSyncMutations (order : KeyOrder) (state : PolicySyncState) (compiled : CompiledPolicySet) :
    PolicyMutations :=
  let acc := compiled.entries.foldl (collectEntry c state) {}
  { acc.mutations with
    deleteExact := (order.exact.list state.exactKeys).filter (· ∉ acc.desiredExactKeys)
    deleteWildcard := (order.wildcard.list state.wildcardKeys).filter (· ∉ acc.desiredWildcardKeys) }

def compileRules (protoRules : List c.ProtoSagRule) (version : UInt64) (dataTrustDomain : String) :
    Except AgentError CompiledPolicySet := do
  let coreRules ← protoRules.mapM fun rule =>
    (c.protoRuleToCore rule).mapError fun e => .policy s!"proto→core conversion failed: {e}"
  (c.compilePolicySet coreRules version dataTrustDomain).mapError fun e => .policy s!"compilation failed: {e}"

/-- High-level compile-and-sync entry point. `none` if the update is stale (version ≤ current). -/
def compileAndSync (order : KeyOrder) (state : PolicySyncState) (protoRules : List c.ProtoSagRule) (version : UInt64)
    (dataTrustDomain : String) : Except AgentError (Option (PolicyMutations × CompiledPolicySet)) :=
  if version ≤ state.currentVersion then .ok none
  else
    match compileRules c protoRules version dataTrustDomain with
    | .error e => .error e
    | .ok compiled => .ok (some (computeSyncMutations c order state compiled, compiled))

end Compiler

/-- Apply mutations to the sync state after they've been applied to the eBPF maps. -/
def applyMutationsToState (state : PolicySyncState) (mutations : PolicyMutations) (newVersion : UInt64) :
    PolicySyncState where
  exactKeys := mutations.deleteExact.foldl Finset.erase
    (mutations.insertExact.foldl (fun keys kv => insert (exactKeyBytes kv.1) keys) state.exactKeys)
  wildcardKeys := mutations.deleteWildcard.foldl Finset.erase
    (mutations.insertWildcard.foldl (fun keys kv => insert (wildcardKeyBytes kv.1) keys) state.wildcardKeys)
  currentVersion := newVersion

/-! ### Applying to the kernel: `sync_policy` of `wiring.rs` -/

structure SagUpdate (c : PolicyCompiler) where
  rules : List c.ProtoSagRule
  version : UInt64

structure PolicyMaps where
  policyExact : FinMap (Bytes 40) (Bytes 16) := ∅
  policyWildcard : FinMap (Bytes 32) (Bytes 16) := ∅

/-- What the agent's environment does while one frame is handled: the walk order of the mirror, whether the lock
    of the eBPF manager is poisoned, and which operations of each of the four loops fail, with the error's text. -/
structure SyncEnv where
  order : KeyOrder
  lockPoisoned : Option String := none
  insertExact : Nat → Option String := fun _ => none
  removeExact : Nat → Option String := fun _ => none
  insertWildcard : Nat → Option String := fun _ => none
  removeWildcard : Nat → Option String := fun _ => none

/-- The kernel is healthy: an insert succeeds, and a remove succeeds iff the key is present. -/
structure SyncEnv.Healthy (env : SyncEnv) : Prop where
  lock : env.lockPoisoned = none
  insertExact : Lib.Healthy env.insertExact
  removeExact : Lib.Healthy env.removeExact
  insertWildcard : Lib.Healthy env.insertWildcard
  removeWildcard : Lib.Healthy env.removeWildcard

/-- The four loops of `sync_policy` over the locked maps; the first failing operation ends them. -/
def applyMutationsToMaps (env : SyncEnv) (mutations : PolicyMutations) (maps : PolicyMaps) :
    Except AgentError Unit × PolicyMaps :=
  match env.lockPoisoned with
  | some e => (.error (.ebpf s!"EbpfManager lock poisoned: {e}"), maps)
  | none =>
    match insertAll env.insertExact
        (mutations.insertExact.map fun kv => (exactKeyBytes kv.1, policyValueBytes kv.2)) maps.policyExact with
    | (.error e, exact) => (.error (.ebpf s!"POLICY_EXACT insert failed: {e}"), { maps with policyExact := exact })
    | (.ok _, exact) =>
      match removeAll absentKey env.removeExact mutations.deleteExact exact with
      | (.error e, exact) => (.error (.ebpf s!"POLICY_EXACT remove failed: {e}"), { maps with policyExact := exact })
      | (.ok _, exact) =>
        match insertAll env.insertWildcard
            (mutations.insertWildcard.map fun kv => (wildcardKeyBytes kv.1, policyValueBytes kv.2))
            maps.policyWildcard with
        | (.error e, wildcard) =>
          (.error (.ebpf s!"POLICY_WILDCARD insert failed: {e}"), { policyExact := exact, policyWildcard := wildcard })
        | (.ok _, wildcard) =>
          match removeAll absentKey env.removeWildcard mutations.deleteWildcard wildcard with
          | (.error e, wildcard) =>
            (.error (.ebpf s!"POLICY_WILDCARD remove failed: {e}"), { policyExact := exact, policyWildcard := wildcard })
          | (.ok _, wildcard) => (.ok (), { policyExact := exact, policyWildcard := wildcard })

structure PolicyWorld where
  state : PolicySyncState := .new
  maps : PolicyMaps := {}

variable (c : PolicyCompiler) (dataTrustDomain : String)

/-- Apply a SagUpdate to the eBPF policy maps: compile_and_sync → apply mutations to the maps → update state. -/
def syncPolicy (w : PolicyWorld) (update : SagUpdate c) (env : SyncEnv) : Except AgentError Unit × PolicyWorld :=
  match compileAndSync c env.order w.state update.rules update.version dataTrustDomain with
  | .error e => (.error e, w)
  | .ok none => (.ok (), w)
  | .ok (some (mutations, _)) =>
    match applyMutationsToMaps env mutations w.maps with
    | (.error e, maps) => (.error e, { w with maps := maps })
    | (.ok _, maps) => (.ok (), { state := applyMutationsToState w.state mutations update.version, maps := maps })

structure SagFrame where
  update : SagUpdate c
  env : SyncEnv

/-- One turn of the loop of `run_sag_watch`: a failed sync is logged and the next frame is awaited. -/
def sagStep (w : PolicyWorld) (frame : SagFrame c) : PolicyWorld :=
  (syncPolicy c dataTrustDomain w frame.update frame.env).2

end FleetosAgent.Policy
