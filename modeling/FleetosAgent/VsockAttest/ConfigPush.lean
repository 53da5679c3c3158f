import FleetosAgent.Identity.Degraded
import FleetosAgent.VsockAttest.Verify
import FleetosAgent.Wiring

/-! # WorkloadConfig construction

`vsock_attest/config_push.rs`: what a verified guest is given. The SVID fields stay empty where no valid delegated key is
held (fail-closed). -/

namespace FleetosAgent.VsockAttest
open Lib Identity Wiring Workloads

structure VolumeMountConfig where
  name : String
  mountPath : String
  readOnly : Bool

/-- `WorkloadConfig` of `fleetos_core::vsock_proto`. -/
structure WorkloadConfig where
  svidCertChainDer : List (List UInt8) := []
  svidPrivateKeyDer : List UInt8 := []
  envVars : List (String × String) := []
  volumeMounts : List VolumeMountConfig := []
  dummyIpRoutes : List DummyIpRouteConfig
  workloadBinaryPath : String := ""
  workloadArgs : List String := []
  trustDomain : String
  tenantId : String := ""
  serviceName : String := ""
  role : String := ""
  guestIp : Octets := .replicate 4 0
  netmask : Octets := .replicate 4 0
  gateway : Octets := .replicate 4 0

structure WorkloadConfigBuilder where
  trustDomain : String
  dummyIpRoutes : List DummyIpRouteConfig := []
  svidTtlSecs : UInt64

/-- What `build` meets: the clock, the delegated keys at its two reads of the shared manager, and the key generator. -/
structure BuildEnv (api : SpiffeApi) (ca : CaApi api) where
  now : UInt64
  keysAtCheck : DelegatedKeyManager api
  keysAtSign : DelegatedKeyManager api
  generate : Except String ca.KeyPair

section Build
variable {api : SpiffeApi} (ca : CaApi api) (builder : WorkloadConfigBuilder) (env : BuildEnv api ca)

/-- A fresh keypair and a certificate for it, or two empty fields if the signing fails. -/
def issueSvid (workloadSpiffeId : api.SpiffeId) : Except AgentError (List (List UInt8) × List UInt8) := do
  let keypair ← env.generate.mapError fun e => .identity s!"workload keygen failed: {e}"
  let csr ← (ca.buildCsr workloadSpiffeId keypair).mapError fun e => .identity s!"workload CSR build failed: {e}"
  match env.keysAtSign.renewSvidLocally ca workloadSpiffeId csr builder.svidTtlSecs env.now with
  | .ok certDer => return ([certDer], ca.serializeDer keypair)
  | .error _ => return ([], [])

/-- `WorkloadConfigBuilder::build`. -/
def build (_guest : VerifiedGuest) (ctx : WorkloadContext) : Except AgentError WorkloadConfig := do
  let workloadSpiffeId := api.new builder.trustDomain ctx.podSpec.tenantId .sa ctx.podSpec.workloadId
  let (svidCertChainDer, svidPrivateKeyDer) ←
    if env.keysAtCheck.hasValidKey workloadSpiffeId env.now then issueSvid ca builder env workloadSpiffeId
    else .ok ([], [])
  return {
    svidCertChainDer := svidCertChainDer
    svidPrivateKeyDer := svidPrivateKeyDer
    envVars := ctx.podSpec.env.map fun e => (e.name, e.value)
    volumeMounts := ctx.podSpec.volumeMounts.map fun vm => ⟨vm.name, vm.mountPath, vm.readOnly⟩
    dummyIpRoutes := builder.dummyIpRoutes
    workloadBinaryPath := s!"/usr/bin/{ctx.podSpec.workloadId}"
    workloadArgs := []
    trustDomain := builder.trustDomain
    tenantId := ctx.podSpec.tenantId
    serviceName := ctx.podSpec.workloadId
    role := ctx.podSpec.role
    guestIp := ctx.guestIp
    netmask := ctx.netmask
    gateway := ctx.gateway }

/-- `WorkloadConfigBuilder::build_fallback`, when no workload context is available. -/
def buildFallback (_guest : VerifiedGuest) : Except AgentError WorkloadConfig :=
  .ok { dummyIpRoutes := builder.dummyIpRoutes, trustDomain := builder.trustDomain }

end Build

end FleetosAgent.VsockAttest
