import SingOpenVPN.GoText
import SingOpenVPN.Netip
import SingOpenVPN.UniqueList

/-!
# Pushed options and the tunnel configuration (`tunnel_options.go`)

`PushedOptions` is what a client has decoded from the server's push replies and
`TunnelConfiguration` what it hands to the application.  Slices are lists, so the
source's cloning functions are the identity and have no definition of their own.

Prefixes are valid ones: decoding yields no others and the source filters the
configured ones before it uses them.  `netip.Addr{}` is `none`.
-/

namespace SingOpenVPN

open UniqueList

/-! ### Addresses -/

/-- A valid `netip.Addr`; only an IPv6 address has a zone. -/
inductive ZonedAddr where
  | v4 (value : IPv4)
  | v6 (value : IPv6) (zone : Text)
deriving DecidableEq

def ZonedAddr.is4 : ZonedAddr → Bool
  | .v4 _ => true
  | .v6 _ _ => false

def Prefix.addr : Prefix → ZonedAddr
  | .v4 range => .v4 range.addr
  | .v6 range => .v6 range.addr []

def Prefix.masked : Prefix → Prefix
  | .v4 range => .v4 range.masked
  | .v6 range => .v6 range.masked

structure AddrPort where
  addr : Option ZonedAddr
  port : UInt16
deriving DecidableEq

/-! ### Options -/

/-- `TunnelRoute`, with its `Prefix` as the destination. -/
structure TunnelRoute where
  destination : Prefix
  gateway : Option ZonedAddr := none
  metric : Int := 0
deriving DecidableEq

structure TunnelDNSServer where
  priority : Int
  addresses : List AddrPort := []
  resolveDomains : List Text := []
  dnssec : Text := []
  transport : Text := []
  sni : Text := []
deriving DecidableEq

structure PushedLocalAddress where
  range : Prefix
  peer : Option ZonedAddr := none
  raw : Text := []
deriving DecidableEq

structure PushedRoute where
  route : TunnelRoute
  raw : Text := []
deriving DecidableEq

structure PushedAddress where
  address : Option ZonedAddr
  raw : Text := []
  optionName : Text := []
deriving DecidableEq

structure PushedExcludedRoute where
  name : Text
  value : Text
  route : TunnelRoute
deriving DecidableEq

/-- `pushedOptionParseError`.  Of an error that wraps one of the standard library, `err`
is the message in front of it. -/
structure PushedOptionParseError where
  name : Text
  value : Text
  err : Text
deriving DecidableEq

structure CompressionDirective where
  name : Text
  value : Text
deriving DecidableEq

inductive PushOptionsKind where
  | reply
  | update
deriving DecidableEq

structure PushedOptions where
  kind : PushOptionsKind := .reply
  modernDNS : Bool := false
  modernDNSAddresses : List PushedAddress := []
  modernSearchDomains : List Text := []
  pullFilterRejection : Text := []
  topology : Text := []
  tunMTU : Nat := 0
  localAddress : List PushedLocalAddress := []
  routeGateway : Option ZonedAddr := none
  routeGatewayVPN : Bool := false
  routeGatewayRaw : Text := []
  routes : List PushedRoute := []
  dns : List PushedAddress := []
  dnsServers : List TunnelDNSServer := []
  dhcpOptions : List Text := []
  searchDomains : List Text := []
  dnsRoutes : List Text := []
  blockIPv6 : Bool := false
  blockOutsideDNS : Bool := false
  redirectGateway : Bool := false
  redirectGatewayFlags : List Text := []
  redirectPrivate : Bool := false
  routeMetric : Int := 0
  routeMetricSet : Bool := false
  pingInterval : Duration := 0
  pingIntervalEnabled : Bool := false
  pingRestart : Duration := 0
  pingRestartEnabled : Bool := false
  authToken : Text := []
  authTokenUser : Text := []
  peerID : Option Nat := none
  selectedCipher : Text := []
  selectedAuth : Text := []
  protocolFlags : List Text := []
  keyDerivation : Text := []
  explicitExitNotify : Nat := 0
  explicitExitNotifySet : Bool := false
  compressionDirectives : List CompressionDirective := []
  inactiveTimeout : Duration := 0
  inactiveMinimumBytes : Nat := 0
  inactiveTimeoutSet : Bool := false
  sessionTimeout : Duration := 0
  sessionTimeoutSet : Bool := false
  pingExit : Duration := 0
  pingExitSet : Bool := false
  pingTimerRemote : Bool := false
  parseErrors : List PushedOptionParseError := []
  excludedRoutes : List PushedExcludedRoute := []
deriving DecidableEq

@[ext] structure TunnelConfiguration where
  devType : Text := []
  topology : Text := []
  tunMTU : Nat := 0
  localIPv4 : List Prefix := []
  localIPv6 : List Prefix := []
  vpnGateway : Option ZonedAddr := none
  vpnGatewayIPv6 : Option ZonedAddr := none
  ipv4Routes : List TunnelRoute := []
  ipv6Routes : List TunnelRoute := []
  excludedIPv4Routes : List TunnelRoute := []
  excludedIPv6Routes : List TunnelRoute := []
  dns : List ZonedAddr := []
  dnsServers : List TunnelDNSServer := []
  dhcpOptions : List Text := []
  searchDomains : List Text := []
  dnsRoutes : List Text := []
  blockIPv6 : Bool := false
  blockOutsideDNS : Bool := false
  redirectGateway : Bool := false
  redirectGatewayFlags : List Text := []
  redirectPrivate : Bool := false
  routeMetric : Int := 0
  routeGateway : Option ZonedAddr := none
  pingInterval : Duration := 0
  pingRestart : Duration := 0
  authToken : Text := []
  authTokenUser : Text := []
  explicitExitNotify : Nat := 0
  peerID : Option Nat := none
  selectedCipher : Text := []
  selectedAuth : Text := []
  protocolFlags : List Text := []
  keyDerivation : Text := []
  inactiveTimeout : Duration := 0
  inactiveMinimumBytes : Nat := 0
  sessionTimeout : Duration := 0
  pingExit : Duration := 0
  pingTimerRemote : Bool := false
deriving DecidableEq

/-! ### Reading pushed options -/

namespace PushedOptions

def localAddressByFamily (options : PushedOptions) (ipv4 : Bool) : List PushedLocalAddress :=
  options.localAddress.filter fun value => value.range.addr.is4 == ipv4

def routesByFamily (options : PushedOptions) (ipv4 : Bool) : List PushedRoute :=
  options.routes.filter fun value => value.route.destination.addr.is4 == ipv4

def effectiveRouteGateway (options : PushedOptions) (vpnGateway : Option ZonedAddr)
    (topology : Text) : Option ZonedAddr :=
  if options.routeGateway.isSome then options.routeGateway
  else if options.routeGatewayVPN && vpnGateway.isSome &&
      !equalFold (trimSpace topology) (ascii "subnet") then vpnGateway
  else none

end PushedOptions

/-- The prefixes without repetition, and the first peer that is set. -/
def pushedLocalAddressPrefixes (values : List PushedLocalAddress) :
    List Prefix × Option ZonedAddr :=
  (appendUnique [] (values.map (·.range)), values.findSome? (·.peer))

def pushedAddresses (values : List PushedAddress) : List ZonedAddr :=
  values.filterMap (·.address)

def pushedTunnelRoutes (values : List PushedRoute) (routeMetric : Int) : List TunnelRoute :=
  values.map fun value =>
    { value.route with
      destination := value.route.destination.masked
      metric := if value.route.metric = 0 then routeMetric else value.route.metric }

def fillTunnelRouteGateway (gateway : ZonedAddr) (route : TunnelRoute) : TunnelRoute :=
  if route.gateway = none ∧ route.destination.addr.is4 = gateway.is4 then
    { route with gateway := some gateway }
  else route

def fillTunnelRouteGateways (routes : List TunnelRoute) : Option ZonedAddr → List TunnelRoute
  | none => routes
  | some gateway => routes.map (fillTunnelRouteGateway gateway)

def appendUniqueAddresses (destination values : List ZonedAddr) : List ZonedAddr :=
  appendUnique destination values

def appendUniqueTunnelRoutes (destination values : List TunnelRoute) : List TunnelRoute :=
  appendUnique destination
    (values.map fun value => { value with destination := value.destination.masked })

end SingOpenVPN
