import SingOpenVPN.TunnelOptions

/-!
# Applying pushed options (`client_tunnel.go`)

The client keeps one tunnel configuration per session.  Every push reply and push update
is merged into it: scalar options replace what was there, lists grow by what they do not
have yet, DNS servers replace the one of the same priority.  The first push with DNS
servers switches the session to them and drops what older DHCP options had configured.

Routes without a gateway get theirs at the end, when the pushed endpoints are known.

The application's event queue, the data channel's framing and the logged warnings, which
the source sees to in the same function, are not part of the configuration and are left
out.
-/

namespace SingOpenVPN

open UniqueList

/-- The part of `clientTunnelState` that a push reads or writes. -/
structure ClientTunnelState where
  configuration : TunnelConfiguration
  authToken : Text := []
  authTokenUser : Text := []
  pulledOptionsReceived : Bool := false
  modernDNSConfigured : Bool := false
  modernSearchDomains : List Text := []
  pullFilterRejection : Text := []
deriving DecidableEq

def appendUniqueStringValues (destination values : List Text) : List Text :=
  appendUnique destination values

def filterOpenVPNNonDNSDHCPOptions (values : List Text) : List Text :=
  values.filter fun value =>
    match fields value with
    | [] => true
    | name :: _ => !(["DNS", "DNS6", "DOMAIN", "ADAPTER_DOMAIN_SUFFIX", "DOMAIN-SEARCH",
        "DOMAIN-ROUTE"].map ascii).contains (toUpper name)

def mergeTunnelDNSServers (destination servers : List TunnelDNSServer) : List TunnelDNSServer :=
  (upserts TunnelDNSServer.priority destination servers).insertionSort
    fun left right => left.priority ≤ right.priority

section Stages

variable (configuration : TunnelConfiguration) (options : PushedOptions)

def applyPushedAddresses : TunnelConfiguration :=
  let localIPv4 := options.localAddressByFamily true
  let localIPv6 := options.localAddressByFamily false
  let updated : TunnelConfiguration :=
    { configuration with
      pingExit :=
        if options.pingRestartEnabled && !options.pingExitSet then 0 else configuration.pingExit
      pingRestart :=
        if options.pingExitSet && !options.pingRestartEnabled then 0
        else configuration.pingRestart
      topology := if options.topology ≠ [] then options.topology else configuration.topology
      localIPv4 :=
        if localIPv4 ≠ [] then (pushedLocalAddressPrefixes localIPv4).1 else configuration.localIPv4
      vpnGateway :=
        if localIPv4 ≠ [] then (pushedLocalAddressPrefixes localIPv4).2
        else configuration.vpnGateway
      localIPv6 :=
        if localIPv6 ≠ [] then (pushedLocalAddressPrefixes localIPv6).1 else configuration.localIPv6
      vpnGatewayIPv6 :=
        if localIPv6 ≠ [] then (pushedLocalAddressPrefixes localIPv6).2
        else configuration.vpnGatewayIPv6 }
  { updated with
    tunMTU :=
      if 0 < options.tunMTU ∧ (if updated.localIPv6 ≠ [] then 1280 else 576) ≤ options.tunMTU then
        options.tunMTU
      else configuration.tunMTU }

/-- The first push with DNS servers starts the DNS settings afresh. -/
def switchToModernDNS (modernSearchDomains : List Text) : TunnelConfiguration :=
  { configuration with
    dns := []
    searchDomains := modernSearchDomains
    dnsRoutes := []
    dhcpOptions := filterOpenVPNNonDNSDHCPOptions configuration.dhcpOptions }

def appendModernDNS : TunnelConfiguration :=
  { configuration with
    dns := appendUniqueAddresses configuration.dns (pushedAddresses options.modernDNSAddresses)
    dnsServers := mergeTunnelDNSServers configuration.dnsServers options.dnsServers
    searchDomains :=
      appendUniqueStringValues configuration.searchDomains options.modernSearchDomains
    dhcpOptions := appendUniqueStringValues configuration.dhcpOptions
      (filterOpenVPNNonDNSDHCPOptions options.dhcpOptions) }

def appendDHCPOptionDNS : TunnelConfiguration :=
  { configuration with
    dns := appendUniqueAddresses configuration.dns (pushedAddresses options.dns)
    dhcpOptions := appendUniqueStringValues configuration.dhcpOptions options.dhcpOptions
    searchDomains := appendUniqueStringValues configuration.searchDomains options.searchDomains
    dnsRoutes := appendUniqueStringValues configuration.dnsRoutes options.dnsRoutes }

/-- The options that `route-nopull` suppresses and that are not routes. -/
def applyPushedDNS (modernDNSConfigured : Bool) (modernSearchDomains : List Text) :
    TunnelConfiguration :=
  let updated :=
    if options.modernDNS && !modernDNSConfigured then
      switchToModernDNS configuration modernSearchDomains
    else configuration
  let updated :=
    if modernDNSConfigured || options.modernDNS then appendModernDNS updated options
    else appendDHCPOptionDNS updated options
  { updated with
    blockIPv6 := options.blockIPv6 || configuration.blockIPv6
    blockOutsideDNS := options.blockOutsideDNS || configuration.blockOutsideDNS
    routeMetric :=
      if options.routeMetricSet then options.routeMetric else configuration.routeMetric }

/-- Timers, credentials, negotiated parameters and the route gateway. -/
def applyPushedSettings : TunnelConfiguration :=
  { configuration with
    pingInterval :=
      if options.pingIntervalEnabled then options.pingInterval else configuration.pingInterval
    pingRestart :=
      if options.pingRestartEnabled then options.pingRestart else configuration.pingRestart
    authToken := if options.authToken ≠ [] then options.authToken else configuration.authToken
    authTokenUser :=
      if options.authTokenUser ≠ [] then options.authTokenUser else configuration.authTokenUser
    explicitExitNotify :=
      if options.explicitExitNotifySet then options.explicitExitNotify
      else configuration.explicitExitNotify
    peerID := options.peerID.or configuration.peerID
    selectedCipher :=
      if options.selectedCipher ≠ [] then options.selectedCipher else configuration.selectedCipher
    selectedAuth :=
      if options.selectedAuth ≠ [] then options.selectedAuth else configuration.selectedAuth
    protocolFlags :=
      if options.protocolFlags ≠ [] then options.protocolFlags else configuration.protocolFlags
    keyDerivation :=
      if options.keyDerivation ≠ [] then options.keyDerivation else configuration.keyDerivation
    inactiveTimeout :=
      if options.inactiveTimeoutSet then options.inactiveTimeout else configuration.inactiveTimeout
    inactiveMinimumBytes :=
      if options.inactiveTimeoutSet then options.inactiveMinimumBytes
      else configuration.inactiveMinimumBytes
    sessionTimeout :=
      if options.sessionTimeoutSet then options.sessionTimeout else configuration.sessionTimeout
    pingExit := if options.pingExitSet then options.pingExit else configuration.pingExit
    pingTimerRemote := options.pingTimerRemote || configuration.pingTimerRemote
    routeGateway :=
      (options.effectiveRouteGateway configuration.vpnGateway configuration.topology).or
        configuration.routeGateway }

def appendExcludedRoutes (ipv4 : Bool) (destination : List TunnelRoute) : List TunnelRoute :=
  (options.excludedRoutes.filter fun excluded =>
      excluded.route.destination.addr.is4 == ipv4).foldl
    (fun routes excluded => appendUniqueTunnelRoutes routes [excluded.route]) destination

def applyPushedRoutes : TunnelConfiguration :=
  { configuration with
    ipv4Routes := appendUniqueTunnelRoutes configuration.ipv4Routes
      (pushedTunnelRoutes (options.routesByFamily true) configuration.routeMetric)
    ipv6Routes := appendUniqueTunnelRoutes configuration.ipv6Routes
      (pushedTunnelRoutes (options.routesByFamily false) configuration.routeMetric)
    excludedIPv4Routes := appendExcludedRoutes options true configuration.excludedIPv4Routes
    excludedIPv6Routes := appendExcludedRoutes options false configuration.excludedIPv6Routes
    redirectGateway := options.redirectGateway || configuration.redirectGateway
    redirectGatewayFlags :=
      if options.redirectGateway then options.redirectGatewayFlags
      else configuration.redirectGatewayFlags
    redirectPrivate := options.redirectPrivate || configuration.redirectPrivate }

/-- The gateway of IPv4 routes without one of their own. -/
def TunnelConfiguration.ipv4RouteGateway : Option ZonedAddr :=
  if configuration.routeGateway.any (·.is4) then configuration.routeGateway
  else configuration.vpnGateway

def completeRoutes : TunnelConfiguration :=
  { configuration with
    ipv4Routes := fillTunnelRouteGateways configuration.ipv4Routes configuration.ipv4RouteGateway
    ipv6Routes := fillTunnelRouteGateways configuration.ipv6Routes configuration.vpnGatewayIPv6 }

end Stages

/-- The configuration after a push: `routeNoPull` is the client's option, the lists of
modern search domains already have those of this push. -/
def pushedConfiguration (routeNoPull modernDNSConfigured : Bool) (modernSearchDomains : List Text)
    (configuration : TunnelConfiguration) (options : PushedOptions) : TunnelConfiguration :=
  let updated := applyPushedAddresses configuration options
  let updated :=
    if routeNoPull then updated
    else applyPushedDNS updated options modernDNSConfigured modernSearchDomains
  let updated := applyPushedSettings updated options
  let updated := if routeNoPull then updated else applyPushedRoutes updated options
  completeRoutes updated

def applyPushedOptions (routeNoPull : Bool) (tunnel : ClientTunnelState) (options : PushedOptions) :
    ClientTunnelState :=
  let modernSearchDomains :=
    appendUniqueStringValues tunnel.modernSearchDomains options.modernSearchDomains
  { configuration := pushedConfiguration routeNoPull tunnel.modernDNSConfigured modernSearchDomains
      tunnel.configuration options
    authToken := if options.authToken ≠ [] then options.authToken else tunnel.authToken
    authTokenUser :=
      if options.authTokenUser ≠ [] then options.authTokenUser else tunnel.authTokenUser
    pulledOptionsReceived := true
    modernDNSConfigured :=
      tunnel.modernDNSConfigured || (!routeNoPull && options.modernDNS)
    modernSearchDomains
    pullFilterRejection := options.pullFilterRejection }

/-- `clearAuthToken`, without the answer whether there was a token to send. -/
def clearAuthToken (tunnel : ClientTunnelState) : ClientTunnelState :=
  { tunnel with
    authToken := []
    authTokenUser := []
    configuration := { tunnel.configuration with authToken := [], authTokenUser := [] } }

end SingOpenVPN
