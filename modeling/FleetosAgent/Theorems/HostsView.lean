import FleetosAgent.Routes.Hosts
import FleetosAgent.Wiring
import Mathlib.Data.Fintype.EquivFin
import Mathlib.Data.Fintype.Lattice

/-! # The three views of the hosts

One frame of routes is rendered three times. The names differ wherever a route has a role: the builder names the service,
the role, the tenant and the trust domain, the generator puts the SVID for the service, and the loop behind WatchRoutes
leaves the role and the trust domain out. -/

namespace FleetosAgent.Wiring
open Routes

variable {api : SpiffeApi} {naming : NamingApi} {trustDomain : String}

/-! ### Bindings -/

/-- The routes that get a name of their own. -/
def named (routes : List RouteEntry) : List RouteEntry := routes.filter fun route => !route.destinationRole.isEmpty

/-- What a line of the hosts content binds. -/
def DummyIpRouteConfig.binding (cfg : DummyIpRouteConfig) : String × String :=
  (dottedQuad cfg.dummyIp, cfg.service ++ "." ++ cfg.tenant)

/-- The bindings in the hosts content of the containerd adapter. -/
def containerdBindings (api : SpiffeApi) (routes : List RouteEntry) : List (String × String) :=
  (routes.filterMap (routeToDummyIpConfig api)).map DummyIpRouteConfig.binding

theorem hostsLine_eq (cfg : DummyIpRouteConfig) : hostsLine cfg = cfg.binding.1 ++ " " ++ cfg.binding.2 := by
  simp only [hostsLine, DummyIpRouteConfig.binding, String.append_assoc]
  rfl

/-- The content has one line for each binding. -/
theorem hostsContent_eq (update : RouteUpdate) : hostsContent api update =
    "\n".intercalate ("127.0.0.1 localhost" :: (containerdBindings api update.routes).map fun b => b.1 ++ " " ++ b.2) ++
      "\n" := by
  have lines : (dummyRoutes api update).map hostsLine =
      (containerdBindings api update.routes).map fun b => b.1 ++ " " ++ b.2 := by
    rw [containerdBindings, List.map_map, ← dummyRoutes]
    exact List.map_congr_left fun cfg _ => hostsLine_eq cfg
  rw [hostsContent, lines]

theorem mem_named {routes : List RouteEntry} {route : RouteEntry} :
    route ∈ named routes ↔ route ∈ routes ∧ route.destinationRole ≠ "" := by
  simp [named]

theorem mem_containerdBindings {routes : List RouteEntry} {binding : String × String} :
    binding ∈ containerdBindings api routes ↔ ∃ route ∈ routes, ∃ spiffe, api.parse route.destinationSvid = .ok spiffe ∧
      binding = (dottedQuad (toBeBytes route.dummyIp), api.name spiffe ++ "." ++ api.tenant spiffe) := by
  simp only [containerdBindings, List.mem_map, List.mem_filterMap]
  constructor
  · rintro ⟨cfg, ⟨route, hroute, hcfg⟩, rfl⟩
    unfold routeToDummyIpConfig at hcfg
    cases hparse : api.parse route.destinationSvid with
    | error e => simp [hparse] at hcfg
    | ok spiffe =>
      simp only [hparse, Option.some.injEq] at hcfg
      subst hcfg
      exact ⟨route, hroute, spiffe, hparse, rfl⟩
  · rintro ⟨route, hroute, spiffe, hparse, rfl⟩
    refine ⟨⟨toBeBytes route.dummyIp, api.name spiffe, route.destinationRole, api.tenant spiffe⟩, ⟨route, hroute, ?_⟩, rfl⟩
    unfold routeToDummyIpConfig
    rw [hparse]

/-- What the builder returns for one route. -/
theorem hostsEntry_eq_ok {route : RouteEntry} {entry : Option HostsEntry}
    (h : hostsEntry api naming trustDomain route = .ok entry) :
    ∃ spiffe, api.parse route.destinationSvid = .ok spiffe ∧ entry = if route.destinationRole.isEmpty then none else
      some ⟨dottedQuad (toBeBytes route.dummyIp),
        api.name spiffe ++ "." ++ route.destinationRole ++ "." ++ api.tenant spiffe ++ ".svc." ++ trustDomain⟩ := by
  simp only [hostsEntry, bind, Except.bind, Except.mapError] at h
  cases hparse : api.parse route.destinationSvid with
  | error e => simp [hparse] at h
  | ok spiffe =>
    refine ⟨spiffe, rfl, ?_⟩
    simp only [hparse] at h
    cases hrole : route.destinationRole.isEmpty with
    | true =>
      rw [hrole] at h
      exact (Except.ok.inj h).symm
    | false =>
      rw [hrole] at h
      cases hname : naming.dummyIpHostname (api.name spiffe) route.destinationRole (api.tenant spiffe) trustDomain with
      | error e => simp [hname] at h
      | ok hostname =>
        simp only [hname] at h
        rw [naming.canonical _ _ _ _ _ hname] at h
        exact (Except.ok.inj h).symm

/-- What the builder returns for a list with a first route. -/
theorem buildHostsEntries_cons_eq_ok {route : RouteEntry} {routes : List RouteEntry} {entries : List HostsEntry}
    (h : buildHostsEntries api naming trustDomain (route :: routes) = .ok entries) :
    ∃ entry rest, hostsEntry api naming trustDomain route = .ok entry ∧
      buildHostsEntries api naming trustDomain routes = .ok rest ∧ entries = entry.toList ++ rest := by
  simp only [buildHostsEntries, bind, Except.bind] at h
  cases hentry : hostsEntry api naming trustDomain route with
  | error e => simp [hentry] at h
  | ok entry =>
    cases hrest : buildHostsEntries api naming trustDomain routes with
    | error e => simp [hentry, hrest] at h
    | ok rest =>
      simp only [hentry, hrest] at h
      exact ⟨entry, rest, rfl, rfl, (Except.ok.inj h).symm⟩

theorem mem_of_buildHostsEntries {routes : List RouteEntry} {entries : List HostsEntry}
    (h : buildHostsEntries api naming trustDomain routes = .ok entries) {entry : HostsEntry} :
    entry ∈ entries ↔ ∃ route ∈ named routes, ∃ spiffe, api.parse route.destinationSvid = .ok spiffe ∧
      entry = ⟨dottedQuad (toBeBytes route.dummyIp),
        api.name spiffe ++ "." ++ route.destinationRole ++ "." ++ api.tenant spiffe ++ ".svc." ++ trustDomain⟩ := by
  induction routes generalizing entries with
  | nil =>
    cases h
    simp [named]
  | cons route routes ih =>
    obtain ⟨first, rest, hentry, hrest, rfl⟩ := buildHostsEntries_cons_eq_ok h
    obtain ⟨spiffe, hparse, rfl⟩ := hostsEntry_eq_ok hentry
    rw [List.mem_append, ih hrest]
    cases hrole : route.destinationRole.isEmpty with
    | true =>
      have skipped : named (route :: routes) = named routes := List.filter_cons_of_neg (by simp [hrole])
      rw [skipped, if_pos rfl, Option.toList_none]
      simp
    | false =>
      have kept : named (route :: routes) = route :: named routes := List.filter_cons_of_pos (by simp [hrole])
      rw [kept, List.exists_mem_cons_iff, if_neg Bool.false_ne_true, Option.toList_some, List.mem_singleton, hparse]
      refine or_congr_left ⟨fun heq => ⟨spiffe, rfl, heq⟩, ?_⟩
      rintro ⟨spiffe', hspiffe, heq⟩
      rw [Except.ok.inj hspiffe]
      exact heq

theorem parses_of_buildHostsEntries {routes : List RouteEntry} {entries : List HostsEntry}
    (h : buildHostsEntries api naming trustDomain routes = .ok entries) {route : RouteEntry} (hroute : route ∈ routes) :
    ∃ spiffe, api.parse route.destinationSvid = .ok spiffe := by
  induction routes generalizing entries with
  | nil => cases hroute
  | cons first routes ih =>
    obtain ⟨entry, rest, hentry, hrest, -⟩ := buildHostsEntries_cons_eq_ok h
    rcases List.mem_cons.mp hroute with rfl | hroute
    · obtain ⟨spiffe, hparse, -⟩ := hostsEntry_eq_ok hentry
      exact ⟨spiffe, hparse⟩
    · exact ih hrest hroute

/-! ### One view -/

/-- A frame that the builder accepts. -/
structure RenderedRoutes (api : SpiffeApi) (naming : NamingApi) (trustDomain : String) where
  routes : List RouteEntry
  entries : List HostsEntry
  built : buildHostsEntries api naming trustDomain routes = .ok entries

/-- For the routes with a role the three renderers bind the same names to the same addresses, and the names of two roles
    of a service differ. -/
structure OneHostsView (frame : RenderedRoutes api naming trustDomain) : Prop where
  generated : ∀ ip hostname, ⟨ip, hostname⟩ ∈ frame.entries ↔
    (ip, hostname) ∈ generateHostsEntries naming trustDomain (named frame.routes)
  installed : ∀ ip hostname, ⟨ip, hostname⟩ ∈ frame.entries ↔ (ip, hostname) ∈ containerdBindings api (named frame.routes)
  roles : ∀ route ∈ named frame.routes, ∀ other ∈ named frame.routes, route.destinationSvid = other.destinationSvid →
    route.destinationRole ≠ other.destinationRole →
    ∀ binding ∈ containerdBindings api [route], ∀ binding' ∈ containerdBindings api [other], binding.2 ≠ binding'.2

/-- Where the builder and the containerd adapter bind the same names, no route has a role: the longest name of the builder
    is longer than every name in the hosts content. -/
theorem named_eq_nil (frame : RenderedRoutes api naming trustDomain)
    (h : ∀ ip hostname, ⟨ip, hostname⟩ ∈ frame.entries ↔ (ip, hostname) ∈ containerdBindings api (named frame.routes)) :
    named frame.routes = [] := by
  obtain ⟨routes, entries, built⟩ := frame
  have entry_of := @mem_of_buildHostsEntries api naming trustDomain routes entries built
  have none : entries = [] := by
    by_contra hne
    have : Nonempty (Fin entries.length) := ⟨⟨0, List.length_pos_of_ne_nil hne⟩⟩
    obtain ⟨longest, hlongest⟩ := Finite.exists_max fun i : Fin entries.length => (entries.get i).hostname.length
    have bound : ∀ entry ∈ entries, entry.hostname.length ≤ (entries.get longest).hostname.length := by
      intro entry hentry
      obtain ⟨i, rfl⟩ := List.get_of_mem hentry
      exact hlongest i
    -- The longest name is in the content, so the builder has a longer one.
    obtain ⟨route, hroute, spiffe, hparse, hbinding⟩ :=
      mem_containerdBindings.mp ((h _ _).mp (entries.get_mem longest))
    have longer := bound _ (entry_of.mpr ⟨route, hroute, spiffe, hparse, rfl⟩)
    rw [(Prod.mk.inj hbinding).2] at longer
    simp only [String.length_append] at longer
    have dots : ".svc.".length = 5 := rfl
    omega
  refine List.eq_nil_iff_forall_not_mem.mpr fun route hroute => ?_
  obtain ⟨spiffe, hparse⟩ := parses_of_buildHostsEntries built (mem_named.mp hroute).1
  have mem := entry_of.mpr ⟨route, hroute, spiffe, hparse, rfl⟩
  rw [none] at mem
  cases mem

/-- The three renderers show one view exactly of the frames in which no route has a role. -/
theorem one_hosts_view_iff (frame : RenderedRoutes api naming trustDomain) :
    OneHostsView frame ↔ ∀ route ∈ frame.routes, route.destinationRole = "" := by
  constructor
  · intro h route hroute
    have none := named_eq_nil frame h.installed
    by_contra role
    have mem : route ∈ named frame.routes := mem_named.mpr ⟨hroute, role⟩
    rw [none] at mem
    cases mem
  · intro h
    have none : named frame.routes = [] :=
      List.eq_nil_iff_forall_not_mem.mpr fun route hroute => (mem_named.mp hroute).2 (h route (mem_named.mp hroute).1)
    have empty : frame.entries = [] := by
      refine List.eq_nil_iff_forall_not_mem.mpr fun entry hentry => ?_
      obtain ⟨route, hroute, -⟩ := (mem_of_buildHostsEntries frame.built).mp hentry
      rw [none] at hroute
      cases hroute
    constructor
    · rw [empty, none]
      exact fun _ _ => ⟨nofun, nofun⟩
    · rw [empty, none]
      exact fun _ _ => ⟨nofun, nofun⟩
    · rw [none]
      exact nofun

/-- Every name is one, and every SVID is that of the service web of acme. -/
def canonicalNaming : NamingApi where
  dummyIpHostname service role tenant trustDomain := .ok (service ++ "." ++ role ++ "." ++ tenant ++ ".svc." ++ trustDomain)
  canonical _ _ _ _ _ h := (Except.ok.inj h).symm

def acmeApi : SpiffeApi := { textApi with tenant := fun _ => "acme", name := fun _ => "web" }

def webAs (role : String) (dummyIp : UInt32) : RouteEntry where
  destinationSvid := "spiffe://fleet.local/ns/acme/sa/web"
  destinationRole := role
  targetAgentSvid := "spiffe://fleet.local/ns/acme/node/a"
  dummyIp := dummyIp

/-- Two roles of one service have two names in the builder, two others in the generator and one in the hosts content. -/
theorem roles_share_hosts_name :
    ∃ frame : RenderedRoutes acmeApi canonicalNaming "fleet.local",
      frame.routes = [webAs "reader" 0xFD000001, webAs "writer" 0xFD000002] ∧
      frame.entries = [⟨"253.0.0.1", "web.reader.acme.svc.fleet.local"⟩, ⟨"253.0.0.2", "web.writer.acme.svc.fleet.local"⟩] ∧
      generateHostsEntries canonicalNaming "fleet.local" frame.routes =
        [("253.0.0.1", "spiffe://fleet.local/ns/acme/sa/web.reader.fleet.local.svc.fleet.local"),
         ("253.0.0.2", "spiffe://fleet.local/ns/acme/sa/web.writer.fleet.local.svc.fleet.local")] ∧
      hostsContent acmeApi ⟨frame.routes, 1⟩ = "127.0.0.1 localhost\n253.0.0.1 web.acme\n253.0.0.2 web.acme\n" ∧
      ¬OneHostsView frame := by
  let frame : RenderedRoutes acmeApi canonicalNaming "fleet.local" :=
    ⟨[webAs "reader" 0xFD000001, webAs "writer" 0xFD000002], _, rfl⟩
  refine ⟨frame, rfl, rfl, rfl, rfl, fun view => ?_⟩
  have reader : webAs "reader" 0xFD000001 ∈ named frame.routes := mem_named.mpr ⟨.head _, by decide⟩
  have writer : webAs "writer" 0xFD000002 ∈ named frame.routes := mem_named.mpr ⟨.tail _ (.head _), by decide⟩
  exact view.roles _ reader _ writer rfl (by decide) _ (.head _) _ (.head _) rfl

end FleetosAgent.Wiring
