import FleetosAgent.VsockAttest.ConfigPush

/-! # The handshake of a guest connection

`vsock_attest/mod.rs`: challenge, proof, result and, for an accepted guest, the workload config, each as one frame on the
connection of one peer CID. -/

namespace FleetosAgent.VsockAttest
open Lib Identity Workloads

def PROTOCOL_VERSION : UInt8 := 1
def MAX_MESSAGE_BYTES : Nat := 16 * 1024 * 1024

structure VsockAttestationChallenge where
  protocolVersion : UInt8
  nonce : Bytes 32

structure AgentAttestResult where
  accepted : Bool
  reason : String

/-- The messages of `fleetos_core::vsock_proto`. -/
inductive Message where
  | challenge (challenge : VsockAttestationChallenge)
  | proof (proof : VsockAttestationProof)
  | result (result : AgentAttestResult)
  | config (config : WorkloadConfig)

/-- The serialisation behind `frame_msg` and `decode_msg`. -/
structure Codec where
  encode : Message → Except String (List UInt8)
  decodeProof : List UInt8 → Except String VsockAttestationProof
  decode_encode : ∀ {proof payload}, encode (.proof proof) = .ok payload → decodeProof payload = .ok proof

/-- `frame_msg`: four bytes of length, then the payload. -/
def frameMsg (codec : Codec) (msg : Message) : Except String (List UInt8) := (codec.encode msg).map (withLength 4)

/-- The connected stream: what the guest sends and has not been read, and what was handed to the socket. -/
structure Stream where
  input : List UInt8
  written : List Message := []
  output : List UInt8 := []

/-- What one connection meets. -/
structure ConnEnv (api : SpiffeApi) (ca : CaApi api) where
  nonce : Bytes 32
  /-- How a read fails once the guest's bytes have run out. -/
  readError : String := "failed to fill whole buffer"
  /-- Whether the write of the `i`-th message fails, and how many of its bytes are out by then. -/
  writeFault : Nat → Option (String × Nat) := fun _ => none
  building : BuildEnv api ca

/-- What the server holds for its connections. -/
structure VsockAttestServer where
  bootMeasurements : FinMap UInt32 BootMeasurement := ∅
  workloadContexts : FinMap UInt32 WorkloadContext := ∅
  configBuilder : WorkloadConfigBuilder

section Connection
variable {api : SpiffeApi} {ca : CaApi api} (codec : Codec) (env : ConnEnv api ca)

/-- `write_msg`. -/
def writeMsg (stream : Stream) (msg : Message) : Except AgentError Unit × Stream :=
  match frameMsg codec msg with
  | .error e => (.error (.internal s!"frame_msg failed: {e}"), stream)
  | .ok framed =>
    match env.writeFault stream.written.length with
    | some (e, out) => (.error (.internal s!"write failed: {e}"),
        { stream with written := stream.written ++ [msg], output := stream.output ++ framed.take out })
    | none => (.ok (), { stream with written := stream.written ++ [msg], output := stream.output ++ framed })

/-- `read_exact`. -/
def readExact (stream : Stream) (n : Nat) : Except String (List UInt8) × Stream :=
  if stream.input.length < n then (.error env.readError, { stream with input := [] })
  else (.ok (stream.input.take n), { stream with input := stream.input.drop n })

/-- `read_msg`, for the only message the agent reads. -/
def readMsg (stream : Stream) : Except AgentError VsockAttestationProof × Stream :=
  match readExact env stream 4 with
  | (.error e, stream) => (.error (.internal s!"read length failed: {e}"), stream)
  | (.ok lenBuf, stream) =>
    let len := ofLeBytes lenBuf
    if MAX_MESSAGE_BYTES < len then
      (.error (.internal s!"message too large: {len} bytes (max {MAX_MESSAGE_BYTES})"), stream)
    else
      match readExact env stream len with
      | (.error e, stream) => (.error (.internal s!"read payload failed: {e}"), stream)
      | (.ok buf, stream) => ((codec.decodeProof buf).mapError fun e => .internal s!"decode_msg failed: {e}", stream)

/-- The result that is sent for a verification. -/
def attestResult : Except AgentError VerifiedGuest → AgentAttestResult
  | .ok _ => ⟨true, ""⟩
  | .error e => ⟨false, e.display⟩

variable (server : VsockAttestServer)

/-- The config of a verified guest: that of the workload registered for its CID, or the fallback. -/
def workloadConfig (peerCid : UInt32) (verified : VerifiedGuest) : Except AgentError WorkloadConfig :=
  match server.workloadContexts.get peerCid with
  | some ctx => build ca server.configBuilder env.building verified ctx
  | none => buildFallback server.configBuilder verified

/-- Step 4 of `handle_connection`: the config, if the guest is accepted. -/
def pushConfig (stream : Stream) (peerCid : UInt32) : Except AgentError VerifiedGuest → Except AgentError Unit × Stream
  | .error _ => (.ok (), stream)
  | .ok verified =>
    match workloadConfig env server peerCid verified with
    | .error e => (.error e, stream)
    | .ok config => writeMsg codec env stream (.config config)

/-- Steps 3 and 4 of `handle_connection`: the verdict on the proof, and what follows from it. -/
def answerProof (production : Bool) (stream : Stream) (peerCid : UInt32) (proof : VsockAttestationProof) :
    Except AgentError Unit × Stream :=
  let verification := verify proof env.nonce peerCid production (server.bootMeasurements.get peerCid)
  match writeMsg codec env stream (.result (attestResult verification)) with
  | (.error e, stream) => (.error e, stream)
  | (.ok _, stream) => pushConfig codec env server stream peerCid verification

/-- `handle_connection`. -/
def handleConnection (production : Bool) (stream : Stream) (peerCid : UInt32) : Except AgentError Unit × Stream :=
  match writeMsg codec env stream (.challenge ⟨PROTOCOL_VERSION, env.nonce⟩) with
  | (.error e, stream) => (.error e, stream)
  | (.ok _, stream) =>
    match readMsg codec env stream with
    | (.error e, stream) => (.error e, stream)
    | (.ok proof, stream) => answerProof codec env server production stream peerCid proof

end Connection

end FleetosAgent.VsockAttest
