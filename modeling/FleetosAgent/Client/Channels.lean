import FleetosAgent.Abi
import FleetosAgent.Lib.Pem

/-! # TLS channels to control

`client/channels.rs`: the address and the TLS configuration of a channel. Before the node has an SVID, the channel only
trusts the bundle; afterwards it also shows the SVID's chain and key, as PEM. -/

namespace FleetosAgent.Client
open Lib

/-- Ensure the address has a scheme. -/
def ensureScheme (address : String) : String :=
  if address.startsWith "http://" || address.startsWith "https://" then address else s!"https://{address}"

section Pem
variable (engine : Base64.Engine)

/-- The body of `der_to_pem`, and of the loop of `ders_to_pem`. The engine is `STANDARD` of the `base64` crate; what it
    writes is ASCII, so a piece of 64 bytes is one of 64 characters. -/
def pushPem (label : String) (pem : String) (der : List UInt8) : String :=
  let b64 := engine.encode der
  let pem := pem ++ s!"-----BEGIN {label}-----\n"
  let pem := (Pem.chunks 64 b64).foldl (fun pem chunk => (pem ++ .ofList chunk).push '\n') pem
  pem ++ s!"-----END {label}-----\n"

def dersToPem (ders : List (List UInt8)) (label : String) : String := ders.foldl (pushPem engine label) ""

def derToPem (der : List UInt8) (label : String) : String := pushPem engine label "" der

end Pem

/-- What an endpoint is configured with before it connects. -/
structure TlsConfig where
  address : String
  caCertificate : String
  domainName : String
  /-- The PEM of the certificate chain and of the private key. -/
  identity : Option (String × String) := none

/-- `build_server_trust_channel`, up to the connection. -/
def serverTrustConfig (address trustBundlePem : String) : TlsConfig where
  address := ensureScheme address
  caCertificate := trustBundlePem
  domainName := "fleetos-control"

/-- `build_mtls_channel`, up to the connection. -/
def mtlsConfig (engine : Base64.Engine) (address trustBundlePem : String) (certChainDer : List (List UInt8))
    (privateKeyDer : List UInt8) : TlsConfig where
  address := ensureScheme address
  caCertificate := trustBundlePem
  domainName := "fleetos-control"
  identity := some (dersToPem engine certChainDer "CERTIFICATE", derToPem engine privateKeyDer "PRIVATE KEY")

/-- The end of `get_channel`, with what the keystore answers; `connect` is the endpoint from its URI to its connection. -/
def buildChannel (engine : Base64.Engine) (trustBundlePem : String) (certChainDer : List (List UInt8))
    (loadSvidPrivateKey : Except AgentError (Option (List UInt8))) (connect : TlsConfig → Except AgentError Unit)
    (target : String) : Except AgentError TlsConfig := do
  let privateKeyDer ← loadSvidPrivateKey
  match privateKeyDer with
  | none => throw (.identity "SVID private key not found in keystore")
  | some privateKeyDer =>
    let config := mtlsConfig engine target trustBundlePem certChainDer privateKeyDer
    connect config
    pure config

end FleetosAgent.Client
