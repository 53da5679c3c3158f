import FleetosAgent.Abi
import FleetosAgent.Lib.FinMap
import FleetosAgent.Lib.Bytes

/-! # Secret sequences

`identity/sequences.rs` (S-10): the last accepted sequence for each (target, svid_version) pair, kept in a keyspace of
bytes. A secret is accepted only with a sequence that is strictly greater. -/

namespace FleetosAgent.Identity
open Lib

/-- The `sequences` keyspace of the storage. -/
abbrev SequenceStore := FinMap (List UInt8) (List UInt8)

/-- How the storage fails during one call. -/
structure StorageEnv where
  get : Option String := none
  insert : Option String := none

def utf8 (s : String) : List UInt8 := s.toByteArray.data.toList

def sequenceKey (target : String) (svidVersion : UInt64) : List UInt8 := utf8 target ++ 0x00 :: toLeBytes svidVersion

/-- The sequence in a stored value: its first eight bytes, if it has as many. -/
def storedSequence (bytes : List UInt8) : Option UInt64 :=
  if 8 ≤ bytes.length then some (UInt64.ofNat (ofLeBytes (bytes.take 8))) else none

/-- Whether the secret should be processed; `false` if it must be dropped as a replay. -/
def checkAndRecord (env : StorageEnv) (store : SequenceStore) (target : String) (svidVersion incomingSequence : UInt64) :
    Except AgentError Bool × SequenceStore :=
  -- Sequence 0 is never valid.
  if incomingSequence = 0 then (.ok false, store)
  else
    let key := sequenceKey target svidVersion
    match env.get with
    | some e => (.error (.storage e), store)
    | none =>
      let lastSeen := ((store.get key).bind storedSequence).getD 0
      if incomingSequence ≤ lastSeen then (.ok false, store)
      else
        match env.insert with
        | some e => (.error (.storage e), store)
        | none => (.ok true, store.insert key (toLeBytes incomingSequence))

def lastSeen (env : StorageEnv) (store : SequenceStore) (target : String) (svidVersion : UInt64) :
    Except AgentError (Option UInt64) :=
  match env.get with
  | some e => .error (.storage e)
  | none => .ok ((store.get (sequenceKey target svidVersion)).bind storedSequence)

inductive SequenceCall where
  | checkAndRecord (target : String) (svidVersion incomingSequence : UInt64) (env : StorageEnv)
  | lastSeen (target : String) (svidVersion : UInt64) (env : StorageEnv)

inductive SequenceAnswer where
  | checked (result : Except AgentError Bool)
  | seen (result : Except AgentError (Option UInt64))

def sequenceStep (store : SequenceStore) : SequenceCall → SequenceStore
  | .checkAndRecord target svidVersion sequence env => (checkAndRecord env store target svidVersion sequence).2
  | .lastSeen .. => store

def sequenceAnswer (store : SequenceStore) : SequenceCall → SequenceAnswer
  | .checkAndRecord target svidVersion sequence env => .checked (checkAndRecord env store target svidVersion sequence).1
  | .lastSeen target svidVersion env => .seen (lastSeen env store target svidVersion)

end FleetosAgent.Identity
