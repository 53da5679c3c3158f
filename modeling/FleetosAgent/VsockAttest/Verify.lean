import FleetosAgent.Lib.Bytes
import FleetosAgent.Workloads.Runtime

/-! # Quote verification

`vsock_attest/verify.rs`: a guest's proof is accepted by its quote type, fail-closed. Only host-measured quotes can pass
in a production build. -/

namespace FleetosAgent.VsockAttest
open Lib Workloads

/-! ### Constants of `fleetos_core::vsock_proto` -/

def QUOTE_TYPE_TPM2 : UInt8 := 0
def QUOTE_TYPE_SEV_SNP : UInt8 := 1
def QUOTE_TYPE_TDX : UInt8 := 2
def QUOTE_TYPE_HOST_MEASURED : UInt8 := 3
def QUOTE_TYPE_DEV_SOFTWARE : UInt8 := 0xFF

structure VsockAttestationProof where
  quoteType : UInt8
  rawQuote : List UInt8
  guestX25519Pubkey : Bytes 32

structure VerifiedGuest where
  guestX25519Pubkey : Bytes 32

section Verifier
variable (proof : VsockAttestationProof) (nonce : Bytes 32) (peerCid : UInt32)

def verifyNonceBinding : Except AgentError Unit :=
  if proof.quoteType = QUOTE_TYPE_HOST_MEASURED ∨ proof.quoteType = QUOTE_TYPE_DEV_SOFTWARE then
    if (windows 32 proof.rawQuote).any (· = nonce.toList) then .ok ()
    else .error (.attestation "nonce not found in quote (fail-closed)")
  else .error (.attestation "nonce binding verification not implemented for this quote type (fail-closed)")

/-- `production` is the cargo feature of that name. -/
def verifyDevSoftware (production : Bool) : Except AgentError VerifiedGuest :=
  if production then
    .error (.attestation "QUOTE_TYPE_DEV_SOFTWARE rejected in production build (fail-closed)")
  else do
    verifyNonceBinding proof nonce
    return ⟨proof.guestX25519Pubkey⟩

def verifyHostMeasured (measurement : Option BootMeasurement) : Except AgentError VerifiedGuest := do
  verifyNonceBinding proof nonce
  match measurement with
  | none => .error (.attestation s!"no boot measurement registered for CID {peerCid} (fail-closed)")
  | some measurement =>
    if proof.rawQuote.length < 32 then .error (.attestation "host-measured quote too short (fail-closed)")
    else
      let quoteHash := proof.rawQuote.take 32
      if quoteHash ≠ measurement.combinedHash.toList then
        .error (.attestation
          (s!"boot measurement mismatch for CID {peerCid}: expected {measurement.combinedHash.toList}, " ++
            s!"got {quoteHash} (fail-closed)"))
      else .ok ⟨proof.guestX25519Pubkey⟩

/-- `VsockQuoteVerifier::verify`. -/
def verify (production : Bool) (measurement : Option BootMeasurement) : Except AgentError VerifiedGuest :=
  if proof.quoteType = QUOTE_TYPE_DEV_SOFTWARE then verifyDevSoftware proof nonce production
  else if proof.quoteType = QUOTE_TYPE_HOST_MEASURED then verifyHostMeasured proof nonce peerCid measurement
  else if proof.quoteType = QUOTE_TYPE_TPM2 then
    .error (.attestation "TPM2 guest attestation not yet implemented (fail-closed)")
  else if proof.quoteType = QUOTE_TYPE_SEV_SNP then
    .error (.attestation "SEV-SNP guest attestation not yet implemented (fail-closed)")
  else if proof.quoteType = QUOTE_TYPE_TDX then
    .error (.attestation "TDX guest attestation not yet implemented (fail-closed)")
  else .error (.attestation s!"unknown quote_type {proof.quoteType} (fail-closed)")

end Verifier

end FleetosAgent.VsockAttest
