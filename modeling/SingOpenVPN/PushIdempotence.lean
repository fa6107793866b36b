import SingOpenVPN.ClientTunnel
import SingOpenVPN.TransitionSystem

/-!
# Pushing the same options twice

A push merges lists by comparing the new entries with the stored ones.  For addresses,
DNS servers and domains this makes a second push of the same options a no-op and keeps
the lists free of duplicates.

For routes it does not.  A pushed route without a gateway is stored, and then completed
with the gateway of the tunnel.  The stored route no longer equals the pushed one, so the
next push of the same options stores it once more, and completes it to a duplicate of the
first.  `configuration_twice_iff` says exactly when a second push changes nothing: no
pushed route is one that gets its gateway from the tunnel.  `duplicateFree_iff` says
exactly when a push leaves no duplicate: no completed route coincides with another one of
the merged list.
-/

namespace SingOpenVPN

open UniqueList TransitionSystem List TunnelDNSServer

/-! ### A session -/

inductive PushEvent where
  | push (options : PushedOptions)
  | clearAuthToken

/-- The pushes of a session that starts with the configuration `start`, which has no DNS
servers: they only come from pushes. -/
def tunnelSession (routeNoPull : Bool) (start : TunnelConfiguration) :
    System ClientTunnelState PushEvent where
  initial tunnel :=
    tunnel.configuration = start ∧ start.dnsServers = [] ∧ tunnel.pulledOptionsReceived = false ∧
      tunnel.modernDNSConfigured = false ∧ tunnel.modernSearchDomains = []
  step tunnel
    | .push options => some (applyPushedOptions routeNoPull tunnel options)
    | .clearAuthToken => some (clearAuthToken tunnel)

/-! ### Routes and their gateways -/

namespace TunnelConfiguration

def routes (configuration : TunnelConfiguration) (ipv4 : Bool) : List TunnelRoute :=
  if ipv4 then configuration.ipv4Routes else configuration.ipv6Routes

/-- The gateway that completes the routes of one family. -/
def gatewayFor (configuration : TunnelConfiguration) (ipv4 : Bool) : Option ZonedAddr :=
  if ipv4 then configuration.ipv4RouteGateway else configuration.vpnGatewayIPv6

end TunnelConfiguration

/-- The route has no gateway of its own and the configuration gives it one. -/
def GatewayAdded (configuration : TunnelConfiguration) (route : TunnelRoute) : Prop :=
  route.gateway = none ∧ ∃ gateway ∈ configuration.gatewayFor route.destination.addr.is4,
    route.destination.addr.is4 = gateway.is4

def completeRoute (gateway : Option ZonedAddr) (route : TunnelRoute) : TunnelRoute :=
  gateway.elim route fun gateway => fillTunnelRouteGateway gateway route

theorem fillTunnelRouteGateways_eq_map (routes : List TunnelRoute) (gateway : Option ZonedAddr) :
    fillTunnelRouteGateways routes gateway = routes.map (completeRoute gateway) := by
  cases gateway with
  | none => exact (map_id routes).symm
  | some gateway => rfl

theorem completeRoute_cases (gateway : Option ZonedAddr) (route : TunnelRoute) :
    (completeRoute gateway route = route ∧
      ¬ (route.gateway = none ∧ ∃ value ∈ gateway, route.destination.addr.is4 = value.is4)) ∨
    (route.gateway = none ∧ ∃ value ∈ gateway, route.destination.addr.is4 = value.is4 ∧
      completeRoute gateway route = { route with gateway := some value }) := by
  cases gateway with
  | none => exact .inl ⟨rfl, by simp⟩
  | some value =>
    by_cases hlacks : route.gateway = none ∧ route.destination.addr.is4 = value.is4
    · exact .inr ⟨hlacks.1, value, rfl, hlacks.2, if_pos hlacks⟩
    · refine .inl ⟨if_neg hlacks, ?_⟩
      rintro ⟨hnone, value', hvalue, his4⟩
      obtain rfl : value = value' := Option.some.inj hvalue
      exact hlacks ⟨hnone, his4⟩

variable {gateway : Option ZonedAddr} {route : TunnelRoute}

theorem completeRoute_ne_self {value : ZonedAddr} (hnone : route.gateway = none)
    (heq : completeRoute gateway route = { route with gateway := some value }) :
    completeRoute gateway route ≠ route := by
  intro hself
  have hgateway := congrArg TunnelRoute.gateway (hself.symm.trans heq)
  simp [hnone] at hgateway

theorem completeRoute_eq_self :
    completeRoute gateway route = route ↔
      ¬ (route.gateway = none ∧ ∃ value ∈ gateway, route.destination.addr.is4 = value.is4) := by
  rcases completeRoute_cases gateway route with ⟨heq, hnot⟩ | ⟨hnone, value, hvalue, his4, heq⟩
  · exact iff_of_true heq hnot
  · exact iff_of_false (completeRoute_ne_self hnone heq) (not_not.mpr ⟨hnone, value, hvalue, his4⟩)

theorem completeRoute_twice (gateway : Option ZonedAddr) (route : TunnelRoute) :
    completeRoute gateway (completeRoute gateway route) = completeRoute gateway route := by
  rcases completeRoute_cases gateway route with ⟨heq, -⟩ | ⟨-, value, -, -, heq⟩
  · rw [heq, heq]
  · rw [heq, completeRoute_eq_self]
    simp

/-- No completed route coincides with another route of the list. -/
def CompletedApart (gateway : Option ZonedAddr) (routes : List TunnelRoute) : Prop :=
  ∀ route ∈ routes, completeRoute gateway route ≠ route → completeRoute gateway route ∉ routes

/-- Completing a list of distinct routes yields a duplicate only where a completed route
was there already. -/
theorem nodup_map_completeRoute {routes : List TunnelRoute} (hnodup : routes.Nodup)
    (gateway : Option ZonedAddr) :
    (routes.map (completeRoute gateway)).Nodup ↔ CompletedApart gateway routes := by
  rw [nodup_map_iff_inj_on hnodup]
  constructor
  · intro hinj route hroute hchanged hmem
    exact hchanged (hinj _ hmem _ hroute (completeRoute_twice gateway route))
  · intro hfresh left hleft right hright heq
    rcases completeRoute_cases gateway left with
      ⟨hsame, -⟩ | ⟨hnone, value, hvalue, -, hcomplete⟩
    · rcases completeRoute_cases gateway right with ⟨hsame', -⟩ | ⟨hnone', value', -, -, hcomplete'⟩
      · rw [← hsame, heq, hsame']
      · refine absurd ?_ (hfresh right hright (completeRoute_ne_self hnone' hcomplete'))
        rw [← heq, hsame]
        exact hleft
    · have hchanged := completeRoute_ne_self hnone hcomplete
      rcases completeRoute_cases gateway right with
        ⟨hsame', -⟩ | ⟨hnone', value', hvalue', -, hcomplete'⟩
      · refine absurd ?_ (hfresh left hleft hchanged)
        rw [heq, hsame']
        exact hright
      · cases left
        cases right
        simp_all

/-! ### The routes after a push -/

section Push

variable (routeNoPull : Bool) (configuration : TunnelConfiguration) (options : PushedOptions)

/-- The pushed routes of one family, in the form in which they are compared. -/
def arrivingRoutes (ipv4 : Bool) : List TunnelRoute :=
  (pushedTunnelRoutes (options.routesByFamily ipv4)
      (if options.routeMetricSet then options.routeMetric else configuration.routeMetric)).map
    fun value => { value with destination := value.destination.masked }

/-- The routes of one family after the merge, before they are completed. -/
def mergedRoutes (ipv4 : Bool) : List TunnelRoute :=
  if routeNoPull then configuration.routes ipv4
  else appendUnique (configuration.routes ipv4) (arrivingRoutes configuration options ipv4)

/-- The gateway that completes the routes of one family: what is pushed counts before what is
stored. -/
def pushedGatewayFor (ipv4 : Bool) : Option ZonedAddr :=
  let localAddress := options.localAddressByFamily ipv4
  let vpnGateway :=
    if localAddress ≠ [] then (pushedLocalAddressPrefixes localAddress).2
    else if ipv4 then configuration.vpnGateway
    else configuration.vpnGatewayIPv6
  let topology := if options.topology ≠ [] then options.topology else configuration.topology
  let routeGateway :=
    (options.effectiveRouteGateway vpnGateway topology).or configuration.routeGateway
  if ipv4 && routeGateway.any (·.is4) then routeGateway else vpnGateway

variable (tunnel : ClientTunnelState)

theorem gatewayFor_applyPushedOptions (ipv4 : Bool) :
    (applyPushedOptions routeNoPull tunnel options).configuration.gatewayFor ipv4 =
      pushedGatewayFor tunnel.configuration options ipv4 := by
  unfold applyPushedOptions pushedConfiguration applyPushedDNS
  cases ipv4 <;> cases routeNoPull <;> cases options.modernDNS <;>
    cases tunnel.modernDNSConfigured <;> rfl

theorem routes_applyPushedOptions (ipv4 : Bool) :
    (applyPushedOptions routeNoPull tunnel options).configuration.routes ipv4 =
      (mergedRoutes routeNoPull tunnel.configuration options ipv4).map
        (completeRoute (pushedGatewayFor tunnel.configuration options ipv4)) := by
  rw [← gatewayFor_applyPushedOptions routeNoPull, ← fillTunnelRouteGateways_eq_map]
  cases routeNoPull with
  | true => cases ipv4 <;> rfl
  | false =>
    -- the metric that fills in for a missing one was set by an earlier stage
    unfold mergedRoutes arrivingRoutes applyPushedOptions pushedConfiguration applyPushedDNS
    cases ipv4 <;> cases options.modernDNS <;> cases tunnel.modernDNSConfigured <;> rfl

theorem is4_addr_masked (range : Prefix) : range.masked.addr.is4 = range.addr.is4 := by
  cases range <;> rfl

theorem arrivingRoutes_complete {first : TunnelConfiguration} {ipv4 : Bool} :
    (∀ route ∈ arrivingRoutes configuration options ipv4,
        completeRoute (first.gatewayFor ipv4) route = route) ↔
      ∀ value ∈ options.routes, value.route.destination.addr.is4 = ipv4 →
        ¬ GatewayAdded first value.route := by
  constructor
  · rintro hcomplete value hvalue rfl
    have hmem := hcomplete _ (mem_map_of_mem (mem_map_of_mem
      (mem_filter.mpr ⟨hvalue, beq_self_eq_true _⟩)))
    simpa [completeRoute_eq_self, is4_addr_masked, GatewayAdded] using hmem
  · intro hnone route hroute
    obtain ⟨pushed, hpushed, rfl⟩ := mem_map.mp hroute
    obtain ⟨value, hvalue, rfl⟩ := mem_map.mp hpushed
    obtain ⟨hmem, his4⟩ := mem_filter.mp hvalue
    obtain rfl := beq_iff_eq.mp his4
    have hvalue := hnone value hmem rfl
    simpa [completeRoute_eq_self, is4_addr_masked, GatewayAdded] using hvalue

end Push

/-! ### The second push -/

section Twice

variable {p : Prop} {α : Type}

theorem ite_twice [Decidable p] (pushed kept : α) :
    (if p then pushed else if p then pushed else kept) = if p then pushed else kept := by
  by_cases h : p <;> simp [h]

theorem ite_twice_right [Decidable p] (pushed kept : α) :
    (if p then if p then kept else pushed else pushed) = if p then kept else pushed := by
  by_cases h : p <;> simp [h]

/-- The ping timers are set by two options, of which each clears the other's. -/
theorem ite_ite_twice {q : Prop} [Decidable p] [Decidable q] (pushed cleared kept : α) :
    (if p then pushed else if q then cleared else
        if p then pushed else if q then cleared else kept) =
      if p then pushed else if q then cleared else kept := by
  by_cases h : p <;> by_cases h' : q <;> simp [h, h']

theorem or_twice (pushed kept : Option α) :
    pushed.or (pushed.or kept) = pushed.or kept := by
  rw [← Option.or_assoc, Option.or_self]

theorem appendUniqueStringValues_twice (destination values : List Text) :
    appendUniqueStringValues (appendUniqueStringValues destination values) values =
      appendUniqueStringValues destination values := appendUnique_twice destination values

theorem appendUniqueAddresses_twice (destination values : List ZonedAddr) :
    appendUniqueAddresses (appendUniqueAddresses destination values) values =
      appendUniqueAddresses destination values := appendUnique_twice destination values

theorem mergeTunnelDNSServers_twice {destination : List TunnelDNSServer}
    (h : (destination.map priority).Nodup) (servers : List TunnelDNSServer) :
    mergeTunnelDNSServers (mergeTunnelDNSServers destination servers) servers =
      mergeTunnelDNSServers destination servers := by
  exact sorted_upserts_twice h

/-- The pushed excluded routes of one family, in the form in which they are compared. -/
def arrivingExcludedRoutes (options : PushedOptions) (ipv4 : Bool) : List TunnelRoute :=
  (options.excludedRoutes.filter fun excluded =>
      excluded.route.destination.addr.is4 == ipv4).map fun excluded =>
    { excluded.route with destination := excluded.route.destination.masked }

theorem appendExcludedRoutes_eq (options : PushedOptions) (ipv4 : Bool)
    (destination : List TunnelRoute) :
    appendExcludedRoutes options ipv4 destination =
      appendUnique destination (arrivingExcludedRoutes options ipv4) := by
  rw [arrivingExcludedRoutes, appendUnique, foldl_map]
  rfl

theorem appendExcludedRoutes_twice (options : PushedOptions) (ipv4 : Bool)
    (destination : List TunnelRoute) :
    appendExcludedRoutes options ipv4 (appendExcludedRoutes options ipv4 destination) =
      appendExcludedRoutes options ipv4 destination := by
  rw [appendExcludedRoutes_eq, appendExcludedRoutes_eq, appendUnique_twice]

/-- **All of the configuration but its routes is the same after a second push.** -/
theorem pushedConfiguration_twice (routeNoPull modernDNSConfigured : Bool)
    (modernSearchDomains : List Text) {configuration : TunnelConfiguration}
    (h : (configuration.dnsServers.map priority).Nodup) (options : PushedOptions) :
    let first := pushedConfiguration routeNoPull modernDNSConfigured modernSearchDomains
      configuration options
    let second := pushedConfiguration routeNoPull
      (modernDNSConfigured || (!routeNoPull && options.modernDNS)) modernSearchDomains first options
    second = { first with ipv4Routes := second.ipv4Routes, ipv6Routes := second.ipv6Routes } := by
  -- which DNS settings are in force is decided by three flags; the rest is field by field
  cases routeNoPull <;> cases modernDNSConfigured <;> cases hmodern : options.modernDNS <;>
    simp [pushedConfiguration, applyPushedAddresses, applyPushedDNS, applyPushedSettings,
      applyPushedRoutes, completeRoutes, switchToModernDNS, appendModernDNS, appendDHCPOptionDNS,
      hmodern, h, mergeTunnelDNSServers_twice, appendExcludedRoutes_twice,
      appendUniqueStringValues_twice, appendUniqueAddresses_twice, ite_twice, ite_twice_right,
      ite_ite_twice, or_twice, -ite_eq_left_iff, -ite_eq_right_iff, -ite_not]

theorem configuration_twice_of_routes (routeNoPull : Bool) {tunnel : ClientTunnelState}
    (options : PushedOptions)
    (h : (tunnel.configuration.dnsServers.map priority).Nodup) :
    let first := applyPushedOptions routeNoPull tunnel options
    let second := applyPushedOptions routeNoPull first options
    second.configuration = { first.configuration with
      ipv4Routes := second.configuration.ipv4Routes
      ipv6Routes := second.configuration.ipv6Routes } := by
  have htwice := pushedConfiguration_twice routeNoPull tunnel.modernDNSConfigured
    (appendUniqueStringValues tunnel.modernSearchDomains options.modernSearchDomains) h options
  simpa only [applyPushedOptions, appendUniqueStringValues_twice] using htwice

variable {routeNoPull : Bool} {tunnel : ClientTunnelState} {options : PushedOptions}

/-- The routes of one family stay as they are exactly if the tunnel completes none of the
pushed ones. -/
theorem routes_twice_iff
    (h : (tunnel.configuration.dnsServers.map priority).Nodup) (ipv4 : Bool) :
    let first := applyPushedOptions routeNoPull tunnel options
    (applyPushedOptions routeNoPull first options).configuration.routes ipv4 =
        first.configuration.routes ipv4 ↔
      routeNoPull = true ∨ ∀ value ∈ options.routes, value.route.destination.addr.is4 = ipv4 →
        ¬ GatewayAdded first.configuration value.route := by
  intro first
  have hsecond := configuration_twice_of_routes routeNoPull options h
  have hgateway : pushedGatewayFor first.configuration options ipv4 =
      first.configuration.gatewayFor ipv4 := by
    rw [← gatewayFor_applyPushedOptions routeNoPull, hsecond]
    rfl
  have hfirst := gatewayFor_applyPushedOptions routeNoPull options tunnel ipv4
  rw [routes_applyPushedOptions routeNoPull options first,
    routes_applyPushedOptions routeNoPull options tunnel, hgateway, ← hfirst]
  cases routeNoPull with
  | true =>
    refine iff_of_true ?_ (.inl rfl)
    rw [mergedRoutes, if_pos rfl, routes_applyPushedOptions, ← hfirst, map_map]
    exact map_congr_left fun route _ => completeRoute_twice _ route
  | false =>
    have harriving : arrivingRoutes first.configuration options ipv4 =
        arrivingRoutes tunnel.configuration options ipv4 := by
      have hmetric : first.configuration.routeMetric = if options.routeMetricSet then
          options.routeMetric else tunnel.configuration.routeMetric := by
        unfold first applyPushedOptions pushedConfiguration applyPushedDNS
        cases options.modernDNS <;> cases tunnel.modernDNSConfigured <;> rfl
      rw [arrivingRoutes, arrivingRoutes, hmetric, ite_twice]
    rw [mergedRoutes, if_neg Bool.false_ne_true, routes_applyPushedOptions, ← hfirst, harriving,
      mergedRoutes, if_neg Bool.false_ne_true, completed_twice_iff (completeRoute_twice _),
      arrivingRoutes_complete]
    simp [first]

/-- **When a second push changes nothing.** -/
theorem configuration_twice_iff
    (h : (tunnel.configuration.dnsServers.map priority).Nodup) :
    let first := applyPushedOptions routeNoPull tunnel options
    (applyPushedOptions routeNoPull first options).configuration = first.configuration ↔
      routeNoPull = true ∨
        ∀ value ∈ options.routes, ¬ GatewayAdded first.configuration value.route := by
  intro first
  have hsecond := configuration_twice_of_routes routeNoPull options h
  constructor
  · intro hsame
    by_cases hpull : routeNoPull = true
    · exact .inl hpull
    · refine .inr fun value hvalue => ?_
      have hfamily := (routes_twice_iff h value.route.destination.addr.is4).mp
        (congrArg (·.routes value.route.destination.addr.is4) hsame)
      exact hfamily.resolve_left hpull value hvalue rfl
  · intro hnone
    have hfamily :
      ∀ ipv4, (applyPushedOptions routeNoPull first options).configuration.routes ipv4 =
        first.configuration.routes ipv4 := by
      intro ipv4
      refine (routes_twice_iff h ipv4).mpr (hnone.imp_right fun hnone value hvalue _ => ?_)
      exact hnone value hvalue
    have hipv4 := hfamily true
    have hipv6 := hfamily false
    simp only [TunnelConfiguration.routes, if_true, Bool.false_eq_true, if_false] at hipv4 hipv6
    rw [hsecond, hipv4, hipv6]

end Twice

/-! ### Duplicates -/

/-- The route, address, DNS and search-domain lists have no duplicate. -/
structure DuplicateFree (configuration : TunnelConfiguration) : Prop where
  localIPv4 : configuration.localIPv4.Nodup
  localIPv6 : configuration.localIPv6.Nodup
  routes : ∀ ipv4, (configuration.routes ipv4).Nodup
  excludedIPv4Routes : configuration.excludedIPv4Routes.Nodup
  excludedIPv6Routes : configuration.excludedIPv6Routes.Nodup
  dns : configuration.dns.Nodup
  dnsServers : configuration.dnsServers.Nodup
  searchDomains : configuration.searchDomains.Nodup
  dnsRoutes : configuration.dnsRoutes.Nodup

/-- What holds of the DNS settings throughout a session. -/
structure DistinctDNS (tunnel : ClientTunnelState) : Prop where
  priorities : (tunnel.configuration.dnsServers.map TunnelDNSServer.priority).Nodup
  modernSearchDomains : tunnel.modernSearchDomains.Nodup

section Duplicates

variable {routeNoPull : Bool} {tunnel : ClientTunnelState} {options : PushedOptions}

theorem nodup_priority_mergeTunnelDNSServers {destination : List TunnelDNSServer}
    (h : (destination.map priority).Nodup) (servers : List TunnelDNSServer) :
    ((mergeTunnelDNSServers destination servers).map priority).Nodup := by
  unfold mergeTunnelDNSServers
  rw [((perm_insertionSort _ _).map _).nodup_iff, keys_upserts]
  exact nodup_appendUnique h _

theorem nodup_pushedLocalAddressPrefixes (values : List PushedLocalAddress) :
    (pushedLocalAddressPrefixes values).1.Nodup :=
  nodup_appendUnique nodup_nil _

theorem DistinctDNS.push (h : DistinctDNS tunnel) (routeNoPull : Bool) (options : PushedOptions) :
    DistinctDNS (applyPushedOptions routeNoPull tunnel options) where
  priorities := by
    have hmerged := nodup_priority_mergeTunnelDNSServers h.priorities options.dnsServers
    cases routeNoPull with
    | true => exact h.priorities
    | false =>
      unfold applyPushedOptions pushedConfiguration applyPushedDNS
      cases options.modernDNS <;> cases tunnel.modernDNSConfigured
      · exact h.priorities
      all_goals exact hmerged
  modernSearchDomains := nodup_appendUnique h.modernSearchDomains _

variable {start : TunnelConfiguration}

theorem distinctDNS_of_initial (h : (tunnelSession routeNoPull start).initial tunnel) :
    DistinctDNS tunnel := by
  obtain ⟨rfl, hservers, -, -, hdomains⟩ := h
  exact ⟨by simp [hservers], by simp [hdomains]⟩

theorem distinctDNS_of_reachable {allowed : ClientTunnelState → PushEvent → Prop}
    (h : ReachableBy (tunnelSession routeNoPull start) allowed tunnel) :
    DistinctDNS tunnel := by
  apply h.invariant
  · intro tunnel hinitial
    exact distinctDNS_of_initial hinitial
  · intro tunnel event next htunnel _ hstep
    cases event with
    | push options =>
      cases hstep
      exact htunnel.push routeNoPull options
    | clearAuthToken =>
      cases hstep
      exact ⟨htunnel.priorities, htunnel.modernSearchDomains⟩

theorem nodup_mergedRoutes (h : DuplicateFree tunnel.configuration) (ipv4 : Bool) :
    (mergedRoutes routeNoPull tunnel.configuration options ipv4).Nodup := by
  unfold mergedRoutes
  split
  · exact h.routes ipv4
  · exact nodup_appendUnique (h.routes ipv4) _

/-! Every stage but the last one keeps the lists free of duplicates. -/

section StagesKeep

variable {configuration : TunnelConfiguration}

section

variable (h : DuplicateFree configuration)

include h

variable (options : PushedOptions)

theorem DuplicateFree.addresses :
    DuplicateFree (applyPushedAddresses configuration options) :=
  { h with
    localIPv4 := by
      unfold applyPushedAddresses
      dsimp only
      split
      · exact nodup_pushedLocalAddressPrefixes _
      · exact h.localIPv4
    localIPv6 := by
      unfold applyPushedAddresses
      dsimp only
      split
      · exact nodup_pushedLocalAddressPrefixes _
      · exact h.localIPv6 }

theorem DuplicateFree.modernDNS
    (hpriorities : (configuration.dnsServers.map priority).Nodup)
    (options : PushedOptions) : DuplicateFree (appendModernDNS configuration options) :=
  { h with
    dns := nodup_appendUnique h.dns _
    dnsServers := (nodup_priority_mergeTunnelDNSServers hpriorities _).of_map
    searchDomains := nodup_appendUnique h.searchDomains _ }

theorem DuplicateFree.dhcpOptionDNS :
    DuplicateFree (appendDHCPOptionDNS configuration options) :=
  { h with
    dns := nodup_appendUnique h.dns _
    searchDomains := nodup_appendUnique h.searchDomains _
    dnsRoutes := nodup_appendUnique h.dnsRoutes _ }

theorem DuplicateFree.pushedDNS
    (hpriorities : (configuration.dnsServers.map priority).Nodup)
    {modernSearchDomains : List Text} (hdomains : modernSearchDomains.Nodup)
    (options : PushedOptions) (modernDNSConfigured : Bool) :
    DuplicateFree
      (applyPushedDNS configuration options modernDNSConfigured modernSearchDomains) := by
  have hswitched : DuplicateFree (switchToModernDNS configuration modernSearchDomains) :=
    { h with
      dns := nodup_nil
      searchDomains := hdomains
      dnsRoutes := nodup_nil }
  unfold applyPushedDNS
  cases options.modernDNS with
  | true =>
    cases modernDNSConfigured with
    | true => exact { h.modernDNS hpriorities options with }
    | false => exact { hswitched.modernDNS hpriorities options with }
  | false =>
    cases modernDNSConfigured with
    | true => exact { h.modernDNS hpriorities options with }
    | false => exact { h.dhcpOptionDNS options with }

theorem DuplicateFree.settings :
    DuplicateFree (applyPushedSettings configuration options) := { h with }

theorem DuplicateFree.pushedRoutes :
    DuplicateFree (applyPushedRoutes configuration options) :=
  { h with
    routes := by
      intro ipv4
      cases ipv4 with
      | true => exact nodup_appendUnique (h.routes true) _
      | false => exact nodup_appendUnique (h.routes false) _
    excludedIPv4Routes := by
      have := nodup_appendUnique h.excludedIPv4Routes
      simpa only [applyPushedRoutes, appendExcludedRoutes_eq] using this _
    excludedIPv6Routes := by
      have := nodup_appendUnique h.excludedIPv6Routes
      simpa only [applyPushedRoutes, appendExcludedRoutes_eq] using this _ }

end

end StagesKeep

theorem duplicateFree_of_routes (hdns : DistinctDNS tunnel) (h : DuplicateFree tunnel.configuration)
    (hroutes : ∀ ipv4,
      ((applyPushedOptions routeNoPull tunnel options).configuration.routes ipv4).Nodup) :
    DuplicateFree (applyPushedOptions routeNoPull tunnel options).configuration := by
  have hdomains := (hdns.push routeNoPull options).modernSearchDomains
  have haddresses := h.addresses options
  cases routeNoPull with
  | true => exact { haddresses.settings options with routes := hroutes }
  | false =>
    have hpushed := haddresses.pushedDNS hdns.priorities hdomains options tunnel.modernDNSConfigured
    exact { (hpushed.settings options).pushedRoutes options with routes := hroutes }

/-- No route that the push completes coincides with another route of the merged list. -/
def RoutesStayApart (routeNoPull : Bool) (tunnel : ClientTunnelState) (options : PushedOptions) :
    Prop :=
  ∀ ipv4, CompletedApart (pushedGatewayFor tunnel.configuration options ipv4)
    (mergedRoutes routeNoPull tunnel.configuration options ipv4)

/-- **When a push leaves no duplicate.** -/
theorem duplicateFree_iff (hdns : DistinctDNS tunnel) (h : DuplicateFree tunnel.configuration) :
    DuplicateFree (applyPushedOptions routeNoPull tunnel options).configuration ↔
      RoutesStayApart routeNoPull tunnel options := by
  constructor
  · intro hfree ipv4
    have hnodup := hfree.routes ipv4
    rw [routes_applyPushedOptions] at hnodup
    exact (nodup_map_completeRoute (nodup_mergedRoutes h ipv4) _).mp hnodup
  · intro hapart
    apply duplicateFree_of_routes hdns h
    intro ipv4
    rw [routes_applyPushedOptions]
    exact (nodup_map_completeRoute (nodup_mergedRoutes h ipv4) _).mpr (hapart ipv4)

/-- A step of a session that keeps the routes apart. -/
def KeepsRoutesApart (routeNoPull : Bool) (tunnel : ClientTunnelState) : PushEvent → Prop
  | .push options => RoutesStayApart routeNoPull tunnel options
  | .clearAuthToken => True

theorem duplicateFree_of_reachable {start : TunnelConfiguration} (hstart : DuplicateFree start)
    (h : ReachableBy (tunnelSession routeNoPull start) (KeepsRoutesApart routeNoPull) tunnel) :
    DuplicateFree tunnel.configuration := by
  have hboth : DistinctDNS tunnel ∧ DuplicateFree tunnel.configuration := by
    apply h.invariant
    · intro tunnel hinitial
      exact ⟨distinctDNS_of_initial hinitial, hinitial.1 ▸ hstart⟩
    · rintro tunnel event next ⟨hdns, hfree⟩ hallowed hstep
      cases event with
      | push options =>
        cases hstep
        exact ⟨hdns.push routeNoPull options, (duplicateFree_iff hdns hfree).mpr hallowed⟩
      | clearAuthToken =>
        cases hstep
        exact ⟨⟨hdns.priorities, hdns.modernSearchDomains⟩, { hfree with }⟩
  exact hboth.2

end Duplicates

/-! ### Pushes of a session -/

/-- **In every state of a session, a second push of the same options changes nothing
exactly if the tunnel completes none of the pushed routes.  From lists without duplicates,
a push leaves none exactly if it keeps the routes apart, and a session whose pushes all do
never has any.** -/
theorem second_push_and_duplicates (routeNoPull : Bool) (start : TunnelConfiguration) :
    (∀ tunnel, Reachable (tunnelSession routeNoPull start) tunnel → ∀ options,
      let first := applyPushedOptions routeNoPull tunnel options
      (applyPushedOptions routeNoPull first options).configuration = first.configuration ↔
        routeNoPull = true ∨
          ∀ value ∈ options.routes, ¬ GatewayAdded first.configuration value.route) ∧
    (∀ tunnel, Reachable (tunnelSession routeNoPull start) tunnel →
      DuplicateFree tunnel.configuration → ∀ options,
        (DuplicateFree (applyPushedOptions routeNoPull tunnel options).configuration ↔
          RoutesStayApart routeNoPull tunnel options)) ∧
    (DuplicateFree start → ∀ tunnel,
      ReachableBy (tunnelSession routeNoPull start) (KeepsRoutesApart routeNoPull) tunnel →
        DuplicateFree tunnel.configuration) := by
  refine ⟨?_, ?_, ?_⟩
  · intro tunnel htunnel options
    exact configuration_twice_iff (distinctDNS_of_reachable htunnel).priorities
  · intro tunnel htunnel hfree options
    exact duplicateFree_iff (distinctDNS_of_reachable htunnel) hfree
  · intro hstart tunnel htunnel
    exact duplicateFree_of_reachable hstart htunnel

/-- The start of a session whose tunnel has the gateway `10.8.0.1`. -/
def gatewayTunnel : ClientTunnelState where
  configuration := { vpnGateway := some (.v4 0x0A080001) }

/-- `route 192.0.2.0 255.255.255.0`, without a gateway. -/
def bareRoutePush : PushedOptions where
  routes :=
    [{ route := { destination := .v4 { addr := 0xC0000200, bits := 24, bits_le := by decide } } }]

/-- The same route with the gateway written out. -/
def gatewayRoutePush : PushedOptions where
  routes :=
    [{ route := { destination := .v4 { addr := 0xC0000200, bits := 24, bits_le := by decide }
                  gateway := some (.v4 0x0A080001) } }]

/-- A route without a gateway, pushed twice, is in the configuration twice. -/
theorem bare_route_pushed_twice :
    let first := applyPushedOptions false gatewayTunnel bareRoutePush
    let second := applyPushedOptions false first bareRoutePush
    Reachable (tunnelSession false gatewayTunnel.configuration) gatewayTunnel ∧
      first.configuration.ipv4Routes.length = 1 ∧ second.configuration ≠ first.configuration ∧
      ∃ route, second.configuration.ipv4Routes = [route, route] := by
  refine ⟨.start ⟨rfl, rfl, rfl, rfl, rfl⟩, by decide, by decide, ?_⟩
  exact ⟨{ destination := .v4 { addr := 0xC0000200, bits := 24, bits_le := by decide }
           gateway := some (.v4 0x0A080001) }, by decide⟩

/-- With its gateway written out the route is there once, after any number of pushes. -/
theorem second_push_and_duplicates_gateway :
    let first := applyPushedOptions false gatewayTunnel gatewayRoutePush
    (applyPushedOptions false first gatewayRoutePush).configuration = first.configuration ∧
      DuplicateFree first.configuration ∧ first.configuration.ipv4Routes.length = 1 := by
  obtain ⟨htwice, -, hrun⟩ := second_push_and_duplicates false gatewayTunnel.configuration
  have hstart : DuplicateFree gatewayTunnel.configuration := by
    refine ⟨?_, ?_, ?_, ?_, ?_, ?_, ?_, ?_, ?_⟩ <;> decide
  have hinitial : (tunnelSession false gatewayTunnel.configuration).initial gatewayTunnel :=
    ⟨rfl, rfl, rfl, rfl, rfl⟩
  refine ⟨?_, ?_, by decide⟩
  · refine (htwice gatewayTunnel (.start hinitial) gatewayRoutePush).mpr (.inr ?_)
    simp [gatewayRoutePush, GatewayAdded]
  · have hapart : KeepsRoutesApart false gatewayTunnel (.push gatewayRoutePush) := by
      intro ipv4
      cases ipv4 <;> unfold CompletedApart <;> decide
    exact hrun hstart _ (.next (.start hinitial) hapart rfl)

end SingOpenVPN
