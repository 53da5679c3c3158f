import FleetosAgent.Abi
import Mathlib.Algebra.Group.Nat.Defs

/-! # Redirect and retry

`client/retry.rs`: what to do after a gRPC call has failed, as a pure function of the status and of the redirects taken
so far. -/

namespace FleetosAgent.Client

/-- `tonic::Code`. -/
inductive Code where
  | ok | cancelled | unknown | invalidArgument | deadlineExceeded | notFound | alreadyExists | permissionDenied
  | resourceExhausted | failedPrecondition | aborted | outOfRange | unimplemented | internal | unavailable | dataLoss
  | unauthenticated
  deriving DecidableEq, Repr

/-- Its `Debug` form. -/
def Code.debug : Code → String
  | ok => "Ok"
  | cancelled => "Cancelled"
  | unknown => "Unknown"
  | invalidArgument => "InvalidArgument"
  | deadlineExceeded => "DeadlineExceeded"
  | notFound => "NotFound"
  | alreadyExists => "AlreadyExists"
  | permissionDenied => "PermissionDenied"
  | resourceExhausted => "ResourceExhausted"
  | failedPrecondition => "FailedPrecondition"
  | aborted => "Aborted"
  | outOfRange => "OutOfRange"
  | unimplemented => "Unimplemented"
  | internal => "Internal"
  | unavailable => "Unavailable"
  | dataLoss => "DataLoss"
  | unauthenticated => "Unauthenticated"

/-- `tonic::Status`, with the one metadata value that is read: `leader-dc-address`, if it is there and visible ASCII. -/
structure Status where
  code : Code
  message : String := ""
  leaderDcAddress : Option String := none

def maxRedirectHops : Nat := 5
def baseRetryDelayMs : Nat := 100
def maxRetryDelayMs : Nat := 5000

inductive RetryAction where
  | retrySameTarget (delayMs : Nat)
  | redirectAndRetry (newTarget : String) (delayMs : Nat)
  | giveUp (reason : String)
  deriving DecidableEq, Repr

/-- `(BASE_RETRY_DELAY_MS * 2u64.pow(n as u32)).min(MAX_RETRY_DELAY_MS)`, in the wrapping arithmetic of a release build. -/
def backoffMs (n : Nat) : Nat := min (baseRetryDelayMs * 2 ^ (n % 2 ^ 32) % 2 ^ 64) maxRetryDelayMs

/-- The same computation where every result has to fit 64 bits: `none` is an overflow, at which a debug build panics. -/
def checkedBackoffMs (n : Nat) : Option Nat :=
  let power := 2 ^ (n % 2 ^ 32)
  if 2 ^ 64 ≤ power then none
  else if 2 ^ 64 ≤ baseRetryDelayMs * power then none
  else some (min (baseRetryDelayMs * power) maxRetryDelayMs)

def leaderAddress (status : Status) : Option String :=
  (status.leaderDcAddress.map (·.trimAscii.toString)).filter (!·.isEmpty)

/-- `redirectHops`: the consecutive redirects taken for this operation. -/
def classifyError (status : Status) (redirectHops : Nat) : RetryAction :=
  if maxRedirectHops < redirectHops then .giveUp s!"max redirect hops ({maxRedirectHops}) exceeded"
  else if status.code = .unavailable then
    match leaderAddress status with
    | some address => .redirectAndRetry address 0
    | none => .retrySameTarget (backoffMs redirectHops)
  else .giveUp s!"non-retryable gRPC error: {status.code.debug} - {status.message}"

end FleetosAgent.Client
