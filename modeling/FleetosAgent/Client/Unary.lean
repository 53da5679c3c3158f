import FleetosAgent.Client.Retry
import FleetosAgent.Identity.Degraded
import FleetosAgent.Observability.PodEvents
import FleetosAgent.Secret.Deliver

/-! # Unary calls

`client/unary.rs`: each wrapper is a loop that asks for a channel, makes its call and, if the call fails, follows a
redirect, waits and calls again, or gives up. The model takes one step for each turn of the loop. -/

namespace FleetosAgent.Client

def maxTransientRetries : Nat := 3

/-- What one turn meets: the channel of the client and, if there is one, the reply to the call. -/
structure UnaryAttempt (Resp : Type) where
  channel : Except AgentError Unit := .ok ()
  reply : Except Status Resp

/-- The variables of the loop, and what the wrapper has returned. -/
structure UnaryState (R : Type) where
  redirectHops : Nat := 0
  transientRetries : Nat := 0
  returned : Option (Except AgentError R) := none

/-- What a turn does apart from the variables: the request it sends, the new target of the client and how long it sleeps. -/
structure UnaryOutput (Req : Type) where
  request : Option Req := none
  retarget : Option String := none
  sleepMs : Option Nat := none

/-- What tells the wrappers apart: the name in the error texts, the request and what they make of the response. -/
structure UnaryRpc (Req Resp R : Type) where
  name : String
  request : Req
  receive : Resp → R

namespace UnaryRpc
variable {Req Resp R : Type} (rpc : UnaryRpc Req Resp R)

/-- The call has failed. -/
def failed (s : UnaryState R) (status : Status) : UnaryState R × UnaryOutput Req :=
  match classifyError status s.redirectHops with
  | .redirectAndRetry newTarget _ =>
    ({ s with redirectHops := s.redirectHops + 1 }, { request := some rpc.request, retarget := some newTarget })
  | .retrySameTarget delayMs =>
    let transientRetries := s.transientRetries + 1
    if maxTransientRetries < transientRetries then
      ({ s with
          transientRetries := transientRetries
          returned := some (.error (.rpc s!"{rpc.name} failed after {transientRetries} retries: {status.message}")) },
        { request := some rpc.request })
    else ({ s with transientRetries := transientRetries }, { request := some rpc.request, sleepMs := some delayMs })
  | .giveUp reason =>
    ({ s with returned := some (.error (.rpc s!"{rpc.name} failed: {reason}")) }, { request := some rpc.request })

/-- One turn of the loop; a wrapper that has returned does nothing more. -/
def turn (s : UnaryState R) (attempt : UnaryAttempt Resp) : UnaryState R × UnaryOutput Req :=
  match s.returned, attempt.channel, attempt.reply with
  | some _, _, _ => (s, {})
  | none, .error e, _ => ({ s with returned := some (.error e) }, {})
  | none, .ok _, .ok response =>
    ({ s with returned := some (.ok (rpc.receive response)) }, { request := some rpc.request })
  | none, .ok _, .error status => rpc.failed s status

def step (s : UnaryState R) (attempt : UnaryAttempt Resp) : UnaryState R := (rpc.turn s attempt).1

end UnaryRpc

/-! ### The wrappers

Messages that the agent only passes on stand as types. -/

def fetchSecret (targetSpiffeId : String) (svidVersion : UInt64) :
    UnaryRpc Secret.FetchSecretRequest Secret.ProtoSealedSecret Secret.ProtoSealedSecret :=
  ⟨"FetchSecret", ⟨targetSpiffeId, svidVersion⟩, id⟩

def reportWorkloadStatus {WorkloadStatusReport StatusAck : Type} (report : WorkloadStatusReport) :
    UnaryRpc WorkloadStatusReport StatusAck StatusAck :=
  ⟨"ReportWorkloadStatus", report, id⟩

def reportPodMetrics {PodMetrics MetricsAck : Type} (metrics : PodMetrics) : UnaryRpc PodMetrics MetricsAck MetricsAck :=
  ⟨"ReportPodMetrics", metrics, id⟩

structure ReportPodEventsRequest where
  events : List Observability.PodEvent

/-- The one wrapper that drops the response. -/
def reportPodEvents {Ack : Type} (events : List Observability.PodEvent) : UnaryRpc ReportPodEventsRequest Ack Unit :=
  ⟨"ReportPodEvents", ⟨events⟩, fun _ => ()⟩

def requestDelegatedKey {DelegatedKeyResponse : Type} (request : Identity.DelegatedKeyRequest) :
    UnaryRpc Identity.DelegatedKeyRequest DelegatedKeyResponse DelegatedKeyResponse :=
  ⟨"RequestDelegatedKey", request, id⟩

structure CsrRequest where
  csrDer : List UInt8

def submitCsr {SvidResponse : Type} (csrDer : List UInt8) : UnaryRpc CsrRequest SvidResponse SvidResponse :=
  ⟨"SubmitCsr", ⟨csrDer⟩, id⟩

structure TrustBundleRequest where

def getTrustBundle {TrustBundle : Type} : UnaryRpc TrustBundleRequest TrustBundle TrustBundle :=
  ⟨"GetTrustBundle", ⟨⟩, id⟩

end FleetosAgent.Client
