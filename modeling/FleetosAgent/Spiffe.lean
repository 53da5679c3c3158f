import FleetosAgent.Abi

/-! # SPIFFE identities

The types and functions of `fleetos_core::spiffe` and `fleetos_core::hash` that the agent calls; they live in
another crate, so they stand here as the parameter `SpiffeApi`. -/

namespace FleetosAgent

/-- `IdKind`, as far as the agent names it. -/
inductive IdKind where
  | sa
  | node
  deriving DecidableEq, Repr

structure SpiffeApi where
  SpiffeId : Type
  WorkloadRole : Type
  decEq : DecidableEq SpiffeId
  /-- `SpiffeId::new(trust_domain, tenant, kind, name)`. -/
  new : String → String → IdKind → String → SpiffeId
  /-- The `tenant` and `name` fields of a `SpiffeId`. -/
  tenant : SpiffeId → String
  name : SpiffeId → String
  /-- `SpiffeId::to_string`. -/
  display : SpiffeId → String
  /-- `str::parse::<SpiffeId>`. -/
  parse : String → Except String SpiffeId
  /-- `WorkloadRole::try_from(&str)`. -/
  roleTryFrom : String → Except String WorkloadRole
  /-- `IdentityFingerprint::of`. -/
  fingerprintOf : SpiffeId → Option WorkloadRole → IdentityFingerprint

instance (api : SpiffeApi) : DecidableEq api.SpiffeId := api.decEq

/-- Identities that are their own texts, with a fingerprint that tells texts of different lengths apart. -/
def textApi : SpiffeApi where
  SpiffeId := String
  WorkloadRole := String
  decEq := inferInstance
  new trustDomain tenant kind name :=
    s!"spiffe://{trustDomain}/{tenant}/" ++ (match kind with | .sa => "sa/" | .node => "node/") ++ name
  tenant _ := ""
  name id := id
  display id := id
  parse text := .ok text
  roleTryFrom text := .ok text
  fingerprintOf id _ := ⟨.replicate 16 id.length.toUInt8⟩

end FleetosAgent
