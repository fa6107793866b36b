import SingOpenVPN.DataFraming
import SingOpenVPN.PushIdempotence

/-!
# Rejected pushes (`client_tunnel.go`, `compression_options.go`)

A pull filter may reject an option line, which ends the decoding and leaves the options of the
lines before it; the pushed compression may turn out to be one the client does not allow.
`applyPushedOptions` learns of the second only after it has stored the merged configuration,
and looks at neither before the event is queued: a rejected push is merged like any other, and
only its result says that the session has to end.  It has no effect exactly if it repeats what is
stored and nobody waits for the event (`rejected_push_unchanged_iff`).
-/

namespace SingOpenVPN

open UniqueList List TunnelDNSServer

/-! ### Pushed compression -/

namespace CompressionSettings

def disabled : CompressionSettings := ⟨.none, false, false, false⟩

/-- `compressionSettings.apply`, `none` for a directive that is not supported. -/
def apply (settings : CompressionSettings) (directive : CompressionDirective) :
    Option CompressionSettings :=
  let value := directive.value
  if directive.name = ascii "compress" then
    if value = [] ∨ value = ascii "stub" then
      some { settings with algorithm := .stub, swap := true }
    else if value = ascii "stub-v2" then some { settings with algorithm := .stubV2 }
    else if value = ascii "lzo" then
      some { settings with algorithm := .lzo, adaptive := false, swap := false }
    else if value = ascii "lz4" then some { settings with algorithm := .lz4, swap := true }
    else if value = ascii "lz4-v2" then some { settings with algorithm := .lz4V2 }
    else if (["migrate", "none", "no", "disabled", "off"].map ascii).contains value then
      some disabled
    else none
  else if directive.name = ascii "comp-lzo" then
    let settings := { settings with swap := false }
    if value = [] ∨ value = ascii "adaptive" then
      some { settings with algorithm := .lzo, adaptive := true, asymmetric := false }
    else if value = ascii "yes" then
      some { settings with algorithm := .lzo, adaptive := false, asymmetric := false }
    else if value = ascii "asym" then
      some { settings with algorithm := .lzo, adaptive := false, asymmetric := true }
    else if value = ascii "no" then some { settings with algorithm := .stub, adaptive := false }
    else if (["none", "disabled", "off"].map ascii).contains value then some disabled
    else none
  else none

def nonStubEnabled (settings : CompressionSettings) : Bool :=
  settings.algorithm = .lzo ∨ settings.algorithm = .lz4 ∨ settings.algorithm = .lz4V2

end CompressionSettings

def CompressionDirective.rejectionPart (directive : CompressionDirective) : Text :=
  directive.name ++ if directive.value ≠ [] then ascii " " ++ directive.value else []

/-- The directives in wire order, with the texts of those seen so far; the error is the
    rejection. -/
def replayCompression (settings : CompressionSettings) (rejectionParts : List Text) :
    List CompressionDirective → Except Text (CompressionSettings × List Text)
  | [] => .ok (settings, rejectionParts)
  | directive :: directives =>
    let rejectionParts := rejectionParts ++ [directive.rejectionPart]
    match settings.apply directive with
    | none => .error (joinText (ascii "; ") rejectionParts)
    | some settings => replayCompression settings rejectionParts directives

/-! ### The client -/

/-- What a client is configured with; `onTunnelConfiguration` says that it has a handler for
    configuration events. -/
structure PullingClient where
  routeNoPull : Bool
  onTunnelConfiguration : Bool
  compression : CompressionSettings
  allowCompressionPolicy : AllowCompressionPolicy
  fragment : Nat

inductive TunnelConfigurationEventReason where
  | initial
  | renegotiation
  | pushUpdate
deriving DecidableEq

structure TunnelConfigurationEvent where
  reason : TunnelConfigurationEventReason
  configuration : TunnelConfiguration

/-- What a push reads or writes: the tunnel, the queue of events and the data framing, which has
    a number because the pointer to it tells it from the one that it replaces. -/
structure PushedClient where
  tunnel : ClientTunnelState
  deferInitialEvent : Bool
  compressionPushRejection : Text
  events : List TunnelConfigurationEvent
  stopped : Bool
  framing : Option (Nat × DataChannelFraming)

namespace PullingClient

variable (client : PullingClient)

def enqueueTunnelConfigurationEventLocked (stopped : Bool) (events : List TunnelConfigurationEvent)
    (event : TunnelConfigurationEvent) : List TunnelConfigurationEvent :=
  if client.onTunnelConfiguration = false ∨ stopped = true then events else events ++ [event]

/-- `framing.Store`; a new framing is another object than the old one. -/
def storeFraming (old : Option (Nat × DataChannelFraming)) (new : Option DataChannelFraming) :
    Option (Nat × DataChannelFraming) :=
  new.map fun new => ((old.map (·.1 + 1)).getD 0, new)

/-- The rejection, and the framing afterwards. -/
def maybeReconfigureDataFramingFromPushedOptions (framing : Option (Nat × DataChannelFraming))
    (options : PushedOptions) (random : Nat) : Text × Option (Nat × DataChannelFraming) :=
  if options.compressionDirectives = [] then ([], framing)
  else
    match replayCompression client.compression [] options.compressionDirectives with
    | .error rejection => (rejection, framing)
    | .ok (pushedCompression, rejectionParts) =>
      if client.allowCompressionPolicy = .stubOnly ∧ pushedCompression.nonStubEnabled then
        (joinText (ascii "; ") rejectionParts, framing)
      else if pushedCompression = client.compression then ([], framing)
      else
        ([], storeFraming framing (newDataChannelFraming pushedCompression client.fragment
          client.allowCompressionPolicy random))

/-- `applyPushedOptions` with all its effects; `random` is what a new framing draws. -/
def push (s : PushedClient) (options : PushedOptions) (random : Nat) : PushedClient :=
  let isInitialPulledOptions := !s.tunnel.pulledOptionsReceived
  let tunnel := applyPushedOptions client.routeNoPull s.tunnel options
  let (rejection, framing) :=
    if isInitialPulledOptions then
      client.maybeReconfigureDataFramingFromPushedOptions s.framing options random
    else ([], s.framing)
  let eventReason :=
    if options.kind = .update then TunnelConfigurationEventReason.pushUpdate
    else if isInitialPulledOptions then .initial
    else .renegotiation
  { s with
    tunnel := tunnel
    compressionPushRejection := rejection
    events :=
      if isInitialPulledOptions && s.deferInitialEvent then s.events
      else client.enqueueTunnelConfigurationEventLocked s.stopped s.events
        ⟨eventReason, tunnel.configuration⟩
    framing := framing }

end PullingClient

def PushedClient.Rejected (s : PushedClient) : Prop :=
  s.tunnel.pullFilterRejection ≠ [] ∨ s.compressionPushRejection ≠ []

/-- The configuration, the token, the framing and the queue of events are the same. -/
structure PushedClient.SameEffects (s s' : PushedClient) : Prop where
  configuration : s'.tunnel.configuration = s.tunnel.configuration
  authToken : s'.tunnel.authToken = s.tunnel.authToken
  authTokenUser : s'.tunnel.authTokenUser = s.tunnel.authTokenUser
  framing : s'.framing = s.framing
  events : s'.events = s.events

/-! ### Pushes that repeat what is stored -/

section Stored

variable (configuration : TunnelConfiguration) (options : PushedOptions)

@[mk_iff] structure AddressesStored : Prop where
  topology : options.topology ≠ [] → options.topology = configuration.topology
  /-- a value below the minimum is not taken -/
  tunMTU : 0 < options.tunMTU ∧
      (if configuration.localIPv6 ≠ [] then 1280 else 576) ≤ options.tunMTU →
    options.tunMTU = configuration.tunMTU
  localIPv4 : options.localAddressByFamily true ≠ [] →
    pushedLocalAddressPrefixes (options.localAddressByFamily true) =
      (configuration.localIPv4, configuration.vpnGateway)
  localIPv6 : options.localAddressByFamily false ≠ [] →
    pushedLocalAddressPrefixes (options.localAddressByFamily false) =
      (configuration.localIPv6, configuration.vpnGatewayIPv6)
  /-- each of the two timers clears the other -/
  pingRestart : (options.pingExitSet && !options.pingRestartEnabled) →
    0 = configuration.pingRestart
  pingExit : (options.pingRestartEnabled && !options.pingExitSet) →
    0 = configuration.pingExit

/-- `modern` says that DNS servers were pushed, with these options or before. -/
@[mk_iff dnsStored_iff] structure DNSStored (modern : Bool) : Prop where
  dns : pushedAddresses (if modern then options.modernDNSAddresses else options.dns) ⊆
    configuration.dns
  /-- the servers are in the order of their priorities; of those pushed with one priority the last
  counts -/
  dnsServers : modern →
    configuration.dnsServers.Pairwise (·.priority ≤ ·.priority) ∧
      ∀ wanted server, lookup priority wanted options.dnsServers.reverse = some server →
        server ∈ configuration.dnsServers
  dhcpOptions : (if modern then filterOpenVPNNonDNSDHCPOptions options.dhcpOptions
    else options.dhcpOptions) ⊆ configuration.dhcpOptions
  searchDomains : (if modern then options.modernSearchDomains else options.searchDomains) ⊆
    configuration.searchDomains
  dnsRoutes : modern = false → options.dnsRoutes ⊆ configuration.dnsRoutes
  blockIPv6 : options.blockIPv6 → configuration.blockIPv6
  blockOutsideDNS : options.blockOutsideDNS → configuration.blockOutsideDNS
  routeMetric : options.routeMetricSet → options.routeMetric = configuration.routeMetric

/-- The first push with DNS servers starts the settings afresh: nothing else may be stored.
    `modernSearchDomains` has the domains of this push. -/
structure NothingElseStored (modernSearchDomains : List Text) : Prop where
  dns : appendUnique [] (pushedAddresses options.modernDNSAddresses) = configuration.dns
  dhcpOptions :
    filterOpenVPNNonDNSDHCPOptions configuration.dhcpOptions = configuration.dhcpOptions
  searchDomains : modernSearchDomains = configuration.searchDomains
  dnsRoutes : configuration.dnsRoutes = []

@[mk_iff] structure SettingsStored : Prop where
  routeGateway : ∀ gateway ∈
      options.effectiveRouteGateway configuration.vpnGateway configuration.topology,
    configuration.routeGateway = some gateway
  pingInterval : options.pingIntervalEnabled →
    options.pingInterval = configuration.pingInterval
  pingRestart : options.pingRestartEnabled → options.pingRestart = configuration.pingRestart
  authToken : options.authToken ≠ [] → options.authToken = configuration.authToken
  authTokenUser : options.authTokenUser ≠ [] → options.authTokenUser = configuration.authTokenUser
  explicitExitNotify : options.explicitExitNotifySet →
    options.explicitExitNotify = configuration.explicitExitNotify
  peerID : ∀ peerID ∈ options.peerID, configuration.peerID = some peerID
  selectedCipher : options.selectedCipher ≠ [] →
    options.selectedCipher = configuration.selectedCipher
  selectedAuth : options.selectedAuth ≠ [] → options.selectedAuth = configuration.selectedAuth
  protocolFlags : options.protocolFlags ≠ [] → options.protocolFlags = configuration.protocolFlags
  keyDerivation : options.keyDerivation ≠ [] → options.keyDerivation = configuration.keyDerivation
  inactiveTimeout : options.inactiveTimeoutSet →
    options.inactiveTimeout = configuration.inactiveTimeout
  inactiveMinimumBytes : options.inactiveTimeoutSet →
    options.inactiveMinimumBytes = configuration.inactiveMinimumBytes
  sessionTimeout : options.sessionTimeoutSet →
    options.sessionTimeout = configuration.sessionTimeout
  pingExit : options.pingExitSet → options.pingExit = configuration.pingExit
  pingTimerRemote : options.pingTimerRemote → configuration.pingTimerRemote

@[mk_iff] structure RoutesStored : Prop where
  ipv4Routes : arrivingRoutes configuration options true ⊆ configuration.ipv4Routes
  ipv6Routes : arrivingRoutes configuration options false ⊆ configuration.ipv6Routes
  excludedIPv4Routes : arrivingExcludedRoutes options true ⊆ configuration.excludedIPv4Routes
  excludedIPv6Routes : arrivingExcludedRoutes options false ⊆ configuration.excludedIPv6Routes
  redirectGateway : options.redirectGateway → configuration.redirectGateway
  redirectGatewayFlags : options.redirectGateway →
    options.redirectGatewayFlags = configuration.redirectGatewayFlags
  redirectPrivate : options.redirectPrivate → configuration.redirectPrivate

variable {configuration options}

/-! Every stage leaves the configuration alone exactly if what it would write is stored. -/

theorem or_eq_right_iff {α : Type} {pushed stored : Option α} :
    pushed.or stored = stored ↔ ∀ value ∈ pushed, stored = some value := by
  cases pushed <;> simp [eq_comm]

theorem applyPushedAddresses_eq_self :
    applyPushedAddresses configuration options = configuration ↔
      AddressesStored configuration options := by
  simp only [applyPushedAddresses, TunnelConfiguration.ext_iff, ite_eq_right_iff, Prod.ext_iff,
    true_and, and_true, addressesStored_iff]
  constructor
  · rintro ⟨htopology, hmtu, hipv4, hipv6, hgateway, hgatewayIPv6, hping⟩
    rw [ite_eq_right_iff.mpr hipv6] at hmtu
    exact ⟨htopology, hmtu, fun hsome => ⟨hipv4 hsome, hgateway hsome⟩,
      fun hsome => ⟨hipv6 hsome, hgatewayIPv6 hsome⟩, hping⟩
  · rintro ⟨htopology, hmtu, hipv4, hipv6, hping⟩
    rw [ite_eq_right_iff.mpr fun hsome => (hipv6 hsome).1]
    exact ⟨htopology, hmtu, fun hsome => (hipv4 hsome).1, fun hsome => (hipv6 hsome).1,
      fun hsome => (hipv4 hsome).2, fun hsome => (hipv6 hsome).2, hping⟩

theorem applyPushedSettings_eq_self :
    applyPushedSettings configuration options = configuration ↔
      SettingsStored configuration options := by
  simp only [applyPushedSettings, TunnelConfiguration.ext_iff, ite_eq_right_iff,
    Bool.or_eq_right_iff_imp, or_eq_right_iff, settingsStored_iff, true_and]

theorem applyPushedRoutes_eq_self
    (hmetric : options.routeMetricSet = true → options.routeMetric = configuration.routeMetric) :
    applyPushedRoutes configuration options = configuration ↔
      RoutesStored configuration options := by
  simp only [applyPushedRoutes, TunnelConfiguration.ext_iff, appendUniqueTunnelRoutes,
    appendExcludedRoutes_eq, appendUnique_eq_self, ite_eq_right_iff, Bool.or_eq_right_iff_imp,
    routesStored_iff, arrivingRoutes, ite_eq_right_iff.mpr hmetric, true_and, and_true]

theorem completeRoutes_eq_self : completeRoutes configuration = configuration ↔
    ∀ ipv4, ∀ route ∈ configuration.routes ipv4,
      completeRoute (configuration.gatewayFor ipv4) route = route := by
  have hmap : ∀ ipv4, (configuration.routes ipv4).map
      (completeRoute (configuration.gatewayFor ipv4)) = configuration.routes ipv4 ↔
        ∀ route ∈ configuration.routes ipv4,
          completeRoute (configuration.gatewayFor ipv4) route = route := by
    intro ipv4
    nth_rewrite 2 [← map_id (configuration.routes ipv4)]
    exact map_inj_left
  simp only [← hmap, Bool.forall_bool, completeRoutes, TunnelConfiguration.ext_iff,
    fillTunnelRouteGateways_eq_map, true_and, and_true]
  exact and_comm

/-- The ping timers again: what was cleared is cleared again. -/
theorem ite_ite_absorbed {α : Type} (set other : Bool) (pushed cleared kept : α) :
    (if other = true ∧ set = false then cleared else
        if set = true then pushed else if other = true ∧ set = false then cleared else kept) =
      if set = true then pushed else if other = true ∧ set = false then cleared else kept := by
  cases set <;> cases other <;> rfl

/-- Completing does not shorten a list, so no route was added to it. -/
theorem applyPushedRoutes_of_completed
    (h : completeRoutes (applyPushedRoutes configuration options) = configuration) :
    applyPushedRoutes configuration options = configuration := by
  have hnone : ∀ (stored arriving : List TunnelRoute) gateway,
      fillTunnelRouteGateways (appendUniqueTunnelRoutes stored arriving) gateway = stored →
      appendUniqueTunnelRoutes stored arriving = stored := by
    intro stored arriving gateway heq
    obtain ⟨added, hadded, -⟩ := exists_appendUnique stored
      (arriving.map fun value => { value with destination := value.destination.masked })
    rw [appendUniqueTunnelRoutes, hadded] at heq ⊢
    have hlength := congrArg length heq
    rw [fillTunnelRouteGateways_eq_map, length_map, length_append, Nat.add_eq_left,
      length_eq_zero_iff] at hlength
    rw [hlength, append_nil]
  have hfields := TunnelConfiguration.ext_iff.mp h
  simp only [completeRoutes, applyPushedRoutes, true_and, and_true] at hfields
  obtain ⟨hipv4, hipv6, hrest⟩ := hfields
  simp only [applyPushedRoutes, TunnelConfiguration.ext_iff, true_and, and_true]
  exact ⟨hnone _ _ _ hipv4, hnone _ _ _ hipv6, hrest⟩

variable {modernSearchDomains : List Text}

theorem applyPushedDNS_eq_self (hnodup : (configuration.dnsServers.map priority).Nodup)
    (hdomains : options.modernSearchDomains ⊆ modernSearchDomains) (modernDNSConfigured : Bool) :
    applyPushedDNS configuration options modernDNSConfigured modernSearchDomains =
        configuration ↔
      DNSStored configuration options (modernDNSConfigured || options.modernDNS) ∧
        (options.modernDNS = true → modernDNSConfigured = false →
          NothingElseStored configuration options modernSearchDomains) := by
  have hservers : mergeTunnelDNSServers configuration.dnsServers options.dnsServers =
      configuration.dnsServers ↔ _ := sorted_upserts_eq_self hnodup
  have hsame := appendUnique_eq_self.mpr hdomains
  cases modernDNSConfigured <;> cases hmodern : options.modernDNS
  case false.true =>
    simp only [applyPushedDNS, hmodern, Bool.or_true, if_true, appendModernDNS, Bool.not_false,
      Bool.and_self, switchToModernDNS, appendUniqueAddresses, appendUniqueStringValues, hsame,
      TunnelConfiguration.ext_iff, hservers, nil_eq, Bool.or_eq_right_iff_imp, ite_eq_right_iff,
      and_true, true_and, dnsStored_iff, forall_const, Bool.true_eq_false, IsEmpty.forall_iff]
    constructor
    · rintro ⟨hdns, hservers, hdhcp, hequal, hroutes, hrest⟩
      obtain ⟨hstored, hkept⟩ := (appendUnique_filter_eq_self _ _ _).mp hdhcp
      refine ⟨⟨?_, hservers, hstored, hequal ▸ hdomains, hrest⟩, hdns, hkept, hequal, hroutes⟩
      exact fun address haddress => hdns ▸ mem_appendUnique.mpr (.inr haddress)
    · rintro ⟨⟨-, hservers, hstored, -, hrest⟩, hafresh⟩
      have hdhcp := (appendUnique_filter_eq_self _ _ _).mpr ⟨hstored, hafresh.dhcpOptions⟩
      exact ⟨hafresh.dns, hservers, hdhcp, hafresh.searchDomains, hafresh.dnsRoutes, hrest⟩
  all_goals
    simp [applyPushedDNS, TunnelConfiguration.ext_iff, hmodern, appendDHCPOptionDNS,
      appendModernDNS, appendUniqueAddresses, appendUniqueStringValues, appendUnique_eq_self,
      hservers, dnsStored_iff]

/-- What these stages have written no later stage takes back: they would write the same. -/
theorem stages_absorbed (hnodup : (configuration.dnsServers.map priority).Nodup)
    (hdomains : options.modernSearchDomains ⊆ modernSearchDomains)
    (modernDNSConfigured routeNoPull : Bool) :
    let first := pushedConfiguration routeNoPull modernDNSConfigured modernSearchDomains
      configuration options
    applyPushedAddresses first options = first ∧
      (routeNoPull = false →
        applyPushedDNS first options modernDNSConfigured modernSearchDomains = first) ∧
      applyPushedSettings first options = first := by
  have hsame := appendUnique_eq_self.mpr hdomains
  cases routeNoPull <;> cases modernDNSConfigured <;> cases hmodern : options.modernDNS <;>
    simp [pushedConfiguration, applyPushedAddresses, applyPushedDNS, applyPushedSettings,
      applyPushedRoutes, completeRoutes, switchToModernDNS, appendModernDNS, appendDHCPOptionDNS,
      hmodern, hnodup, hsame, mergeTunnelDNSServers_twice, appendUniqueStringValues,
      appendUniqueAddresses, filterOpenVPNNonDNSDHCPOptions, filter_appendUnique, ite_twice,
      ite_twice_right, ite_ite_absorbed, or_twice, -ite_eq_left_iff, -ite_eq_right_iff, -ite_not]

theorem pushedConfiguration_eq_self (hnodup : (configuration.dnsServers.map priority).Nodup)
    (hdomains : options.modernSearchDomains ⊆ modernSearchDomains)
    (modernDNSConfigured routeNoPull : Bool) :
    pushedConfiguration routeNoPull modernDNSConfigured modernSearchDomains configuration options =
        configuration ↔
      applyPushedAddresses configuration options = configuration ∧
        (routeNoPull = false → applyPushedDNS configuration options modernDNSConfigured
          modernSearchDomains = configuration) ∧
        applyPushedSettings configuration options = configuration ∧
        (routeNoPull = false → applyPushedRoutes configuration options = configuration) ∧
        completeRoutes configuration = configuration := by
  constructor
  · intro h
    have habsorbed := stages_absorbed hnodup hdomains modernDNSConfigured routeNoPull
    dsimp only at habsorbed
    rw [h] at habsorbed
    obtain ⟨haddresses, hdns, hsettings⟩ := habsorbed
    refine ⟨haddresses, hdns, hsettings, ?_⟩
    cases routeNoPull with
    | true =>
      simp only [pushedConfiguration, if_true, haddresses, hsettings] at h
      exact ⟨by simp, h⟩
    | false =>
      simp only [pushedConfiguration, Bool.false_eq_true, if_false, haddresses, hdns rfl,
        hsettings] at h
      have hroutes := applyPushedRoutes_of_completed h
      rw [hroutes] at h
      exact ⟨fun _ => hroutes, h⟩
  · rintro ⟨haddresses, hdns, hsettings, hroutes, hcomplete⟩
    cases routeNoPull with
    | true => simp only [pushedConfiguration, if_true, haddresses, hsettings, hcomplete]
    | false =>
      simp only [pushedConfiguration, Bool.false_eq_true, if_false, haddresses, hdns rfl,
        hsettings, hroutes rfl, hcomplete]

end Stored

/-! ### A rejected push -/

/-- What is pushed is stored; with `route-nopull` routes and DNS settings are not looked at. -/
structure OptionsStored (routeNoPull : Bool) (tunnel : ClientTunnelState)
    (options : PushedOptions) : Prop where
  addresses : AddressesStored tunnel.configuration options
  dns : routeNoPull = false → DNSStored tunnel.configuration options
    (tunnel.modernDNSConfigured || options.modernDNS)
  firstDNS : routeNoPull = false → options.modernDNS = true → tunnel.modernDNSConfigured = false →
    NothingElseStored tunnel.configuration options
      (appendUniqueStringValues tunnel.modernSearchDomains options.modernSearchDomains)
  settings : SettingsStored tunnel.configuration options
  routes : routeNoPull = false → RoutesStored tunnel.configuration options
  /-- no stored route waits for the gateway that is stored -/
  complete : ∀ ipv4, ∀ route ∈ tunnel.configuration.routes ipv4,
    completeRoute (tunnel.configuration.gatewayFor ipv4) route = route

theorem configuration_unchanged_iff {tunnel : ClientTunnelState}
    (hnodup : (tunnel.configuration.dnsServers.map priority).Nodup) (routeNoPull : Bool)
    (options : PushedOptions) :
    (applyPushedOptions routeNoPull tunnel options).configuration = tunnel.configuration ↔
      OptionsStored routeNoPull tunnel options := by
  have hdomains : options.modernSearchDomains ⊆
      appendUniqueStringValues tunnel.modernSearchDomains options.modernSearchDomains :=
    fun _ hdomain => mem_appendUnique.mpr (.inr hdomain)
  simp only [applyPushedOptions, pushedConfiguration_eq_self hnodup hdomains,
    applyPushedAddresses_eq_self, applyPushedDNS_eq_self hnodup hdomains,
    applyPushedSettings_eq_self, completeRoutes_eq_self]
  constructor
  · rintro ⟨haddresses, hdns, hsettings, hroutes, hcomplete⟩
    refine ⟨haddresses, fun hpull => (hdns hpull).1, fun hpull => (hdns hpull).2, hsettings, ?_,
      hcomplete⟩
    exact fun hpull => (applyPushedRoutes_eq_self (hdns hpull).1.routeMetric).mp (hroutes hpull)
  · intro h
    refine ⟨h.addresses, fun hpull => ⟨h.dns hpull, h.firstDNS hpull⟩, h.settings, ?_, h.complete⟩
    exact fun hpull => (applyPushedRoutes_eq_self (h.dns hpull).routeMetric).mpr (h.routes hpull)

namespace PullingClient

/-- The directives lead back to the configured compression or are refused, or there is no framing
    before and none after. -/
def KeepsFraming (client : PullingClient) (s : PushedClient)
    (directives : List CompressionDirective) : Prop :=
  ∀ pushedCompression rejectionParts,
    replayCompression client.compression [] directives = .ok (pushedCompression, rejectionParts) →
    client.allowCompressionPolicy = .stubOnly ∧ pushedCompression.nonStubEnabled = true ∨
      pushedCompression = client.compression ∨
      s.framing = none ∧ pushedCompression.framingEnabled = false ∧ client.fragment = 0

/-- A push that repeats what is stored, with an event that nobody waits for. -/
structure PushIsVoid (client : PullingClient) (s : PushedClient) (options : PushedOptions) :
    Prop where
  stored : OptionsStored client.routeNoPull s.tunnel options
  authToken : options.authToken ≠ [] → options.authToken = s.tunnel.authToken
  authTokenUser : options.authTokenUser ≠ [] → options.authTokenUser = s.tunnel.authTokenUser
  compression : s.tunnel.pulledOptionsReceived = false →
    client.KeepsFraming s options.compressionDirectives
  event : client.onTunnelConfiguration = false ∨ s.stopped = true ∨
    s.tunnel.pulledOptionsReceived = false ∧ s.deferInitialEvent = true

variable {client : PullingClient} {s : PushedClient} {options : PushedOptions} (random : Nat)

theorem storeFraming_eq_self {old : Option (Nat × DataChannelFraming)}
    {new : Option DataChannelFraming} : storeFraming old new = old ↔ old = none ∧ new = none := by
  cases old <;> cases new <;> simp [storeFraming, Prod.ext_iff]

theorem framing_unchanged_iff :
    (client.push s options random).framing = s.framing ↔
      (s.tunnel.pulledOptionsReceived = false →
        client.KeepsFraming s options.compressionDirectives) := by
  cases hreceived : s.tunnel.pulledOptionsReceived with
  | true => simp [push, hreceived]
  | false =>
    simp only [push, hreceived, Bool.not_false, if_true, forall_true_left, KeepsFraming,
      maybeReconfigureDataFramingFromPushedOptions]
    by_cases hnone : options.compressionDirectives = []
    · simp +contextual [hnone, replayCompression]
    · rw [if_neg hnone]
      cases hreplay : replayCompression client.compression [] options.compressionDirectives with
      | error rejection => simp
      | ok result =>
        simp only [Except.ok.injEq, Prod.ext_iff, and_imp]
        split_ifs <;> simp_all [storeFraming_eq_self, newDataChannelFraming]

theorem events_unchanged_iff :
    (client.push s options random).events = s.events ↔
      client.onTunnelConfiguration = false ∨ s.stopped = true ∨
        s.tunnel.pulledOptionsReceived = false ∧ s.deferInitialEvent = true := by
  simp only [push, enqueueTunnelConfigurationEventLocked]
  split
  · next hinitial => exact iff_of_true rfl (.inr (.inr (by simpa using hinitial)))
  · next hdue =>
    split
    · next hquiet => exact iff_of_true rfl (hquiet.imp_right .inl)
    · next hheard =>
      refine iff_of_false (by simp) fun hevent => hheard (hevent.imp_right fun hquiet => ?_)
      exact hquiet.resolve_right fun hinitial => hdue (by simp [hinitial])

end PullingClient

/-- A push that is reported as rejected leaves the configuration, the token, the data framing and
the queue of events alone exactly if it repeats what is stored and no event is due.  (Merging keeps
the priorities of the stored DNS servers different.) -/
theorem rejected_push_unchanged_iff {client : PullingClient} {s : PushedClient}
    {options : PushedOptions} (hnodup : (s.tunnel.configuration.dnsServers.map priority).Nodup)
    (random : Nat) (_ : (client.push s options random).Rejected) :
    s.SameEffects (client.push s options random) ↔ client.PushIsVoid s options := by
  -- the verdict plays no part: what a push does is done before anybody looks at it
  have hconfiguration := configuration_unchanged_iff hnodup client.routeNoPull options
  constructor
  · intro h
    exact
      { stored := hconfiguration.mp h.configuration
        authToken := ite_eq_right_iff.mp h.authToken
        authTokenUser := ite_eq_right_iff.mp h.authTokenUser
        compression := (PullingClient.framing_unchanged_iff random).mp h.framing
        event := (PullingClient.events_unchanged_iff random).mp h.events }
  · intro hvoid
    exact
      { configuration := hconfiguration.mpr hvoid.stored
        authToken := ite_eq_right_iff.mpr hvoid.authToken
        authTokenUser := ite_eq_right_iff.mpr hvoid.authTokenUser
        framing := (PullingClient.framing_unchanged_iff random).mpr hvoid.compression
        events := (PullingClient.events_unchanged_iff random).mpr hvoid.event }

/-! ### Two pushes -/

def listeningClient (onTunnelConfiguration : Bool) : PullingClient where
  routeNoPull := false
  onTunnelConfiguration := onTunnelConfiguration
  compression := .disabled
  allowCompressionPolicy := .stubOnly
  fragment := 0

def untouchedClient : PushedClient where
  tunnel := { configuration := {} }
  deferInitialEvent := false
  compressionPushRejection := []
  events := []
  stopped := false
  framing := none

/-- A token in front of a line that the pull filters reject is remembered, and the application
is told. -/
theorem rejected_push_takes_effect :
    ∃ options : PushedOptions, options.pullFilterRejection = ascii "route 10.0.0.0" ∧
      ((listeningClient true).push untouchedClient options 0).Rejected ∧
      ((listeningClient true).push untouchedClient options 0).tunnel.authToken = ascii "token" ∧
      ((listeningClient true).push untouchedClient options 0).events.length = 1 ∧
      ¬ untouchedClient.SameEffects ((listeningClient true).push untouchedClient options 0) := by
  refine ⟨{ authToken := ascii "token", pullFilterRejection := ascii "route 10.0.0.0" }, rfl,
    .inl (by decide +kernel), by decide +kernel, by decide +kernel, fun h => ?_⟩
  exact absurd (congrArg length h.events) (by decide +kernel)

/-- A token in front of the rejected line, pushed for the second time to a client that nobody
listens to, changes nothing. -/
theorem rejected_push_unchanged_unheard :
    let options : PushedOptions :=
      { authToken := ascii "token", topology := ascii "subnet"
        pullFilterRejection := ascii "route 10.0.0.0" }
    let s := (listeningClient false).push untouchedClient options 0
    s.tunnel.configuration.authToken = ascii "token" ∧
      ((listeningClient false).push s options 0).Rejected ∧
      s.SameEffects ((listeningClient false).push s options 0) := by
  intro options s
  have hrejected : ((listeningClient false).push s options 0).Rejected := .inl (by decide +kernel)
  have hvoid : (listeningClient false).PushIsVoid s options :=
    { stored :=
        { addresses := by constructor <;> decide +kernel
          dns := fun _ => ⟨by decide +kernel, nofun, by decide +kernel, by decide +kernel,
            by decide +kernel, by decide +kernel, by decide +kernel, by decide +kernel⟩
          firstDNS := nofun
          settings := by constructor <;> decide +kernel
          routes := fun _ => by constructor <;> decide +kernel
          complete := by decide +kernel }
      authToken := by decide +kernel
      authTokenUser := by decide +kernel
      compression := fun hinitial => absurd hinitial (by decide +kernel)
      event := .inl rfl }
  refine ⟨by decide +kernel, hrejected, ?_⟩
  exact (rejected_push_unchanged_iff (by decide +kernel) 0 hrejected).mpr hvoid

end SingOpenVPN
