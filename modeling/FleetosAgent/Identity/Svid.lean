import FleetosAgent.Identity.Keystore
import FleetosAgent.Lib.Bytes

/-! # The persisted node SVID

`identity/svid.rs`: the certificate chain, the SVID version and the generation of the node, each under its own key of the
`svid` keyspace, and a flag that says whether they are there. -/

namespace FleetosAgent.Identity.Svid
open Lib

/-- `postcard::to_allocvec` and `postcard::from_bytes` of a certificate chain: what was encoded is decoded. -/
structure ChainCodec where
  encode : List (List UInt8) → Except String (List UInt8)
  decode : List UInt8 → Except String (List (List UInt8))
  decode_encode : ∀ chain bytes, encode chain = .ok bytes → decode bytes = .ok chain

/-- The `svid` keyspace of the storage. -/
abbrev SvidStore := FinMap (List UInt8) (List UInt8)

def KEY_CERT_CHAIN : List UInt8 := utf8 "cert_chain"

def KEY_VERSION : List UInt8 := utf8 "svid_version"

def KEY_GENERATION : List UInt8 := utf8 "generation"

def KEY_INSTALLED : List UInt8 := utf8 "installed"

/-- In-memory snapshot of the installed node SVID; the default is "no SVID". -/
structure SvidState where
  certChainDer : List (List UInt8) := []
  svidVersion : UInt64 := 0
  generation : UInt64 := 0
  deriving DecidableEq

/-- `storage.svid.get`. -/
def getKey (faults : KeyspaceFaults) (storage : SvidStore) (key : List UInt8) : Except AgentError (Option (List UInt8)) :=
  match faults.get key with
  | some e => .error (.storage e)
  | none => .ok (storage.get key)

/-- `u64::from_le_bytes` of a slice that has eight bytes. -/
def fromLeBytes (corrupt : String) (raw : List UInt8) : Except AgentError UInt64 :=
  if raw.length = 8 then .ok (.ofNat (ofLeBytes raw)) else .error (.identity corrupt)

/-- An entry that has to be there. -/
def required (missing : String) : Option (List UInt8) → Except AgentError (List UInt8)
  | some raw => .ok raw
  | none => .error (.identity missing)

/-- The flag is set if its first byte is 1. -/
def isInstalled : Option (List UInt8) → Bool
  | some (b :: _) => b = 1
  | _ => false

section
variable (codec : ChainCodec)

def load (faults : KeyspaceFaults) (storage : SvidStore) : Except AgentError SvidState := do
  if !isInstalled (← getKey faults storage KEY_INSTALLED) then return {}
  let certChainRaw ← required "SVID marked installed but cert chain missing" (← getKey faults storage KEY_CERT_CHAIN)
  let certChainDer ← (codec.decode certChainRaw).mapError .serialization
  let versionRaw ← required "SVID marked installed but version missing" (← getKey faults storage KEY_VERSION)
  let svidVersion ← fromLeBytes "corrupt svid_version" versionRaw
  let genRaw ← required "SVID marked installed but generation missing" (← getKey faults storage KEY_GENERATION)
  let generation ← fromLeBytes "corrupt generation" genRaw
  return ⟨certChainDer, svidVersion, generation⟩

/-- Inserts in order; the first one that fails ends them. -/
def insertAll (faults : KeyspaceFaults) : SvidStore → List (List UInt8 × List UInt8) → Except AgentError Unit × SvidStore
  | storage, [] => (.ok (), storage)
  | storage, (key, value) :: rest =>
    match insertKey faults storage key value with
    | (.error e, storage) => (.error e, storage)
    | (.ok (), storage) => insertAll faults storage rest

/-- The four inserts of `store`, in order. -/
def inserts (certBytes : List UInt8) (svidVersion generation : UInt64) : List (List UInt8 × List UInt8) :=
  [(KEY_CERT_CHAIN, certBytes), (KEY_VERSION, toLeBytes svidVersion), (KEY_GENERATION, toLeBytes generation),
    (KEY_INSTALLED, [1])]

/-- Persist a new SVID state, bumping the generation counter. -/
def store (faults : KeyspaceFaults) (storage : SvidStore) (certChainDer : List (List UInt8))
    (svidVersion currentGeneration : UInt64) : Except AgentError SvidState × SvidStore :=
  let generation := currentGeneration + 1
  match codec.encode certChainDer with
  | .error e => (.error (.serialization e), storage)
  | .ok certBytes =>
    match insertAll faults storage (inserts certBytes svidVersion generation) with
    | (.error e, storage) => (.error e, storage)
    | (.ok (), storage) => (.ok ⟨certChainDer, svidVersion, generation⟩, storage)

/-- What both join flows do with a signed chain: the generation to bump is the one that is loaded. -/
def install (loadFaults faults : KeyspaceFaults) (storage : SvidStore) (certChainDer : List (List UInt8))
    (svidVersion : UInt64) : Except AgentError SvidState × SvidStore :=
  match load codec loadFaults storage with
  | .error e => (.error e, storage)
  | .ok current => store codec faults storage certChainDer svidVersion current.generation

end

/-- Clear the persisted SVID: only the flag. -/
def clear (faults : KeyspaceFaults) (storage : SvidStore) : Except AgentError Unit × SvidStore :=
  insertKey faults storage KEY_INSTALLED [0]

end FleetosAgent.Identity.Svid
