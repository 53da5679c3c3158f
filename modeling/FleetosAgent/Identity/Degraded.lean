import FleetosAgent.Spiffe
import FleetosAgent.Lib.FinMap
import Mathlib.Algebra.Group.Nat.Defs

/-! # Delegated signing keys

`identity/degraded.rs`: one delegated key per target workload, requested when a pod boots and requested again by the refresh
loop when 75% of its time is over. -/

namespace FleetosAgent.Identity
open Lib

/-- `DelegatedSigningKey` of `fleetos_core`, as far as the agent looks into it. -/
structure DelegatedSigningKey (api : SpiffeApi) where
  targetSvidId : api.SpiffeId
  targetOrdinal : Option UInt32
  issuedAtUnix : UInt64
  expiresAtUnix : UInt64

structure DelegatedKeyEntry (api : SpiffeApi) where
  key : DelegatedSigningKey api
  delegationId : List UInt8

/-- Map-based manager holding delegated signing keys, one per target workload SPIFFE ID. -/
structure DelegatedKeyManager (api : SpiffeApi) where
  keys : FinMap api.SpiffeId (DelegatedKeyEntry api) := ∅

/-- Install or replace the delegated key, filed under the workload it is scoped to renew. -/
def DelegatedKeyManager.installKey {api : SpiffeApi} (m : DelegatedKeyManager api) (key : DelegatedSigningKey api)
    (delegationId : List UInt8) : DelegatedKeyManager api :=
  ⟨m.keys.insert key.targetSvidId ⟨key, delegationId⟩⟩

/-- Key generation and signing, of `rcgen` and `fleetos_core::spiffe::ca`. -/
structure CaApi (api : SpiffeApi) where
  KeyPair : Type
  serializeDer : KeyPair → List UInt8
  buildCsr : api.SpiffeId → KeyPair → Except String (List UInt8)
  signSvidDelegated : DelegatedSigningKey api → List UInt8 → UInt64 → UInt64 → Except String (List UInt8)

namespace DelegatedKeyManager
variable {api : SpiffeApi} (m : DelegatedKeyManager api)

def hasValidKey (targetSvidId : api.SpiffeId) (nowUnix : UInt64) : Bool :=
  match m.keys.get targetSvidId with
  | some entry => nowUnix < entry.key.expiresAtUnix
  | none => false

/-- The delegated key of the target if it is unexpired. -/
def getKey (targetSvidId : api.SpiffeId) (nowUnix : UInt64) : Option (DelegatedSigningKey api) :=
  ((m.keys.get targetSvidId).filter fun entry => nowUnix < entry.key.expiresAtUnix).map (·.key)

/-- A natural number as `f64` holds it: 53 significant bits, ties to even. -/
def asF64 (n : Nat) : Nat :=
  let e := n.log2 - 52
  let (q, r) := (n / 2 ^ e, n % 2 ^ e)
  if 2 ^ e < 2 * r ∨ 2 * r = 2 ^ e ∧ q % 2 = 1 then (q + 1) * 2 ^ e else q * 2 ^ e

/-- `(ttl as f64 * REFRESH_FRACTION) as u64`: the product with 0.75 is rounded once more, and the cast cuts off. -/
def threeQuarters (ttl : UInt64) : UInt64 := UInt64.ofNat (asF64 (3 * asF64 ttl.toNat) / 4)

/-- 75% of the key's time has elapsed. -/
def shouldRefresh (targetSvidId : api.SpiffeId) (nowUnix : UInt64) : Bool :=
  match m.keys.get targetSvidId with
  | some entry =>
    let ttl := if entry.key.issuedAtUnix ≤ entry.key.expiresAtUnix then
      entry.key.expiresAtUnix - entry.key.issuedAtUnix else 0
    entry.key.issuedAtUnix + threeQuarters ttl ≤ nowUnix
  | none => false

/-- `targets`, in the order in which the hash map is walked. -/
def targets (order : Enumeration api.SpiffeId) : List api.SpiffeId := order.list m.keys.keys

def remove (targetSvidId : api.SpiffeId) : DelegatedKeyManager api := ⟨m.keys.remove targetSvidId⟩

def pruneExpired (nowUnix : UInt64) : DelegatedKeyManager api :=
  ⟨m.keys.retain fun _ entry => nowUnix < entry.key.expiresAtUnix⟩

def clear (_m : DelegatedKeyManager api) : DelegatedKeyManager api := {}

/-- Sign a workload SVID with the delegated key of the target. -/
def renewSvidLocally (ca : CaApi api) (targetSvidId : api.SpiffeId) (csrDer : List UInt8) (validitySecs nowUnix : UInt64) :
    Except AgentError (List UInt8) :=
  match m.getKey targetSvidId nowUnix with
  | none => .error (.identity s!"no valid delegated key for target {api.display targetSvidId}")
  | some key => (ca.signSvidDelegated key csrDer validitySecs nowUnix).mapError fun e =>
      .identity s!"local SVID renewal failed: {e}"

end DelegatedKeyManager

structure DelegatedKeyRequest where
  nodeSvid : String
  targetSpiffeId : String
  targetOrdinal : Option UInt32
  requestedTtlSecs : UInt64

def DEFAULT_DELEGATED_KEY_TTL_SECS : UInt64 := 14400

/-! ### Requests -/

/-- How control answers `RequestDelegatedKey`, its key material parsed. -/
abbrev Control (api : SpiffeApi) := DelegatedKeyRequest → Except AgentError (DelegatedSigningKey api × List UInt8)

/-- Request a delegated key for a target and install it. -/
def requestAndInstall {api : SpiffeApi} (control : Control api) (m : DelegatedKeyManager api)
    (nodeSvidId targetSvidId : api.SpiffeId) (targetOrdinal : Option UInt32) (ttlSecs : UInt64) :
    Except AgentError Unit × DelegatedKeyManager api :=
  match control ⟨api.display nodeSvidId, api.display targetSvidId, targetOrdinal, ttlSecs⟩ with
  | .error e => (.error e, m)
  | .ok (key, delegationId) => (.ok (), m.installKey key delegationId)

/-! ### The refresh loop -/

/-- The arguments of `run_delegation_refresh_loop`. -/
structure RefreshLoop (api : SpiffeApi) where
  nodeSvidId : api.SpiffeId
  ttlSecs : UInt64

/-- Where the loop stands: the targets still to be requested in this turn, and the request it awaits. -/
structure RefreshState (api : SpiffeApi) where
  queue : List (api.SpiffeId × Option UInt32) := []
  waiting : Option (api.SpiffeId × Option UInt32) := none

/-- What the loop does between two of its awaits. -/
inductive RefreshEvent (api : SpiffeApi) where
  | tick (nowUnix : UInt64) (order : Enumeration api.SpiffeId)
  | send
  | answered (control : Control api)

namespace RefreshLoop
variable {api : SpiffeApi} (loop : RefreshLoop api)

/-- The targets that need a refresh, each with the ordinal of the key that is held. -/
def needsRefresh (m : DelegatedKeyManager api) (order : Enumeration api.SpiffeId) (nowUnix : UInt64) :
    List (api.SpiffeId × Option UInt32) :=
  (m.targets order).filterMap fun id =>
    if m.shouldRefresh id nowUnix then some (id, (m.getKey id nowUnix).bind (·.targetOrdinal)) else none

/-- A tick waits for the end of the turn before it; the requests of a turn are made one after another. -/
def step (m : DelegatedKeyManager api) (s : RefreshState api) :
    RefreshEvent api → DelegatedKeyManager api × RefreshState api
  | .tick nowUnix order =>
    match s.queue, s.waiting with
    | [], none => (m.pruneExpired nowUnix, { queue := needsRefresh (m.pruneExpired nowUnix) order nowUnix })
    | _, _ => (m, s)
  | .send =>
    match s.queue, s.waiting with
    | next :: queue, none => (m, ⟨queue, some next⟩)
    | _, _ => (m, s)
  | .answered control =>
    match s.waiting with
    | none => (m, s)
    | some (target, ordinal) =>
      ((requestAndInstall control m loop.nodeSvidId target ordinal loop.ttlSecs).2, { s with waiting := none })

end RefreshLoop

end FleetosAgent.Identity
