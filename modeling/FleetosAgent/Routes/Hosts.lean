import FleetosAgent.Routes.Table

/-! # Hosts entries

`routes/hosts.rs` and `generate_hosts_entries` of `workloads/env.rs`: the names that the dummy IPs of a frame get (Ruling
E). The names that the loop behind WatchRoutes gives them are in `Wiring`. -/

namespace FleetosAgent.Routes

/-- `fleetos_core::naming`: a hostname is `{service}.{role}.{tenant}.svc.{trust_domain}`, where it is one. -/
structure NamingApi where
  dummyIpHostname : String → String → String → String → Except String String
  canonical : ∀ service role tenant trustDomain hostname,
    dummyIpHostname service role tenant trustDomain = .ok hostname →
      hostname = service ++ "." ++ role ++ "." ++ tenant ++ ".svc." ++ trustDomain

structure HostsEntry where
  ip : String
  hostname : String
  deriving DecidableEq

section
variable (api : SpiffeApi) (naming : NamingApi) (trustDomain : String)

/-- The entry of one route; none for an empty role. -/
def hostsEntry (route : RouteEntry) : Except AgentError (Option HostsEntry) := do
  let dstSpiffe ← (api.parse route.destinationSvid).mapError fun e =>
    .policy s!"invalid destination_svid '{route.destinationSvid}': {e}"
  let serviceName := api.name dstSpiffe
  let tenant := api.tenant dstSpiffe
  let role := route.destinationRole
  if role.isEmpty then return none
  let hostname ← (naming.dummyIpHostname serviceName role tenant trustDomain).mapError fun e =>
    .policy s!"failed to compute hostname for {serviceName}.{role}.{tenant}: {e}"
  return some ⟨dottedQuad (toBeBytes route.dummyIp), hostname⟩

def buildHostsEntries : List RouteEntry → Except AgentError (List HostsEntry)
  | [] => .ok []
  | route :: routes => do
    let entry ← hostsEntry api naming trustDomain route
    let entries ← buildHostsEntries routes
    return entry.toList ++ entries

/-- `generate_hosts_entries`: the whole SVID is the service, and the trust domain is the tenant. -/
def generateHostsEntries (routes : List RouteEntry) : List (String × String) :=
  routes.map fun route =>
    let rendered := naming.dummyIpHostname route.destinationSvid route.destinationRole trustDomain trustDomain
    let hostname := rendered.toOption.getD route.destinationSvid
    (dottedQuad (toBeBytes route.dummyIp), hostname)

end

end FleetosAgent.Routes
