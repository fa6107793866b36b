import Mathlib.Data.List.Basic
import SingOpenVPN.IPPool
import SingOpenVPN.PeerRoutes
import SingOpenVPN.TransitionSystem

/-!
# Ownership of tunnel addresses (`server_tunnel.go`, `server_data.go`)

A session that asks for its configuration gets addresses from the pool and has
them entered in the route table; when it ends, they are taken out of the table
and given back.  Pool and table have a lock each, so between the two halves of
either operation the steps of every other session may happen.

Each session's control loop runs in one goroutine: where it stands is its
`TunnelStage`.  Its data packets arrive in another one at any time, also while
addresses are assigned or released.  `leases` records for the pool which session
was given an address; it is not part of the program.

The incoming queue of the server drops packets when it is full; `incoming` holds
every packet that was put into it.
-/

namespace SingOpenVPN

open TransitionSystem Option PeerRoutes

/-! ### The server -/

/-- Where a session stands in `allocateAndRegisterTunnelAddress` or
`releaseTunnelAddress`. -/
inductive TunnelStage where
  /-- In the control loop, outside both. -/
  | controlLoop
  /-- The IPv4 lease is taken, `routes.Register` is next. -/
  | registerIPv4
  /-- Done with IPv4, the IPv6 half is next. -/
  | allocateIPv6
  | registerIPv6
  /-- The session ends: `routes.Unregister` of the IPv4 address is next. -/
  | unregisterIPv4
  | releaseIPv4
  | unregisterIPv6
  | releaseIPv6
  | finished
deriving DecidableEq, Repr

/-- The fields of `tlsServerSession` both operations read. -/
structure TunnelSession where
  peerAddress : String
  stickyIdentity : String
  ifconfigInet4 : Option IPv4
  ifconfigPeer4 : Option IPv4
  ifconfigInet6 : Option IPv6
  stage : TunnelStage
deriving DecidableEq, Repr

/-- Packets whose sources a session has checked and not yet handed up. -/
structure Delivery where
  session : Nat
  accepted : List Bytes
  clamp : MSSClamp
  /-- `deliverIncomingBuffers`, rather than `deliverIncomingPayloads`. -/
  inPlace : Bool
  /-- The leases when the sources were checked. -/
  leasesAtCheck : Addr → Option Nat

structure ServerData where
  session : Nat
  peerAddress : String
  payload : Bytes
  leasesAtCheck : Addr → Option Nat

structure TunnelServer where
  ipPool : Option IPPool
  routes : PeerRoutes
  sessions : Nat → TunnelSession
  deliveries : List Delivery
  incoming : List ServerData
  leases : Addr → Option Nat

inductive TunnelEvent where
  /-- A PUSH_REQUEST, which runs `allocateAndRegisterTunnelAddress`. -/
  | pushRequest (session : Nat)
  /-- The control loop returns, which runs `releaseTunnelAddress`. -/
  | terminate (session : Nat)
  /-- The next half of the operation the session is in. -/
  | advance (session : Nat) (now : Time)
  /-- `acceptIncomingSources` of a batch of decrypted packets. -/
  | checkSources (session : Nat) (payloads : List Bytes) (clamp : MSSClamp) (inPlace : Bool)
  /-- The rest of `deliverIncomingBuffers` or `deliverIncomingPayloads`. -/
  | handUp (index : Nat)

namespace TunnelServer

variable (s : TunnelServer)

def setSession (session : Nat) (value : TunnelSession) : TunnelServer :=
  { s with sessions := Function.update s.sessions session value }

def setStage (session : Nat) (stage : TunnelStage) : TunnelServer :=
  s.setSession session { s.sessions session with stage }

/-- The first half of `allocateAndRegisterTunnelAddress`.  A failure ends the
session. -/
def allocateIPv4 (session : Nat) : TunnelServer :=
  match s.ipPool with
  | none => s
  | some pool =>
    let current := s.sessions session
    if pool.ipv4.isSome ∧ current.ifconfigInet4 = none then
      match pool.allocateIPv4ForIdentity current.stickyIdentity with
      | .error _ => s.setStage session .unregisterIPv4
      | .ok (lease, pool') =>
        { s.setSession session { current with
            ifconfigInet4 := some lease.client, ifconfigPeer4 := lease.peer
            stage := .registerIPv4 } with
          ipPool := some pool'
          leases := Function.update s.leases (.v4 lease.client) (some session) }
    else s.setStage session .allocateIPv6

/-- The second half. -/
def allocateIPv6 (session : Nat) : TunnelServer :=
  match s.ipPool with
  | none => s.setStage session .controlLoop
  | some pool =>
    let current := s.sessions session
    if pool.ipv6.isSome ∧ current.ifconfigInet6 = none then
      match pool.allocateIPv6ForIdentity current.stickyIdentity with
      | .error _ => s.setStage session .unregisterIPv4
      | .ok (address, pool') =>
        { s.setSession session { current with
            ifconfigInet6 := some address, stage := .registerIPv6 } with
          ipPool := some pool'
          leases := Function.update s.leases (.v6 address) (some session) }
    else s.setStage session .controlLoop

def register (session : Nat) (address : Addr) : TunnelServer :=
  { s with routes := s.routes.register address (s.sessions session).peerAddress (some session) }

def unregister (address : Addr) : TunnelServer :=
  { s with routes := s.routes.unregister address }

def release (address : Addr) (now : Time) : TunnelServer :=
  { s with
    ipPool := s.ipPool.map fun pool => pool.release address now
    leases := Function.update s.leases address none }

def advance (session : Nat) (now : Time) : Option TunnelServer :=
  let current := s.sessions session
  match current.stage with
  | .registerIPv4 => match current.ifconfigInet4 with
    | some client => some ((s.register session (.v4 client)).setStage session .allocateIPv6)
    | none => none
  | .allocateIPv6 => some (s.allocateIPv6 session)
  | .registerIPv6 => match current.ifconfigInet6 with
    | some address => some ((s.register session (.v6 address)).setStage session .controlLoop)
    | none => none
  | .unregisterIPv4 => match current.ifconfigInet4 with
    | some client => some ((s.unregister (.v4 client)).setStage session .releaseIPv4)
    | none => some (s.setStage session .unregisterIPv6)
  | .releaseIPv4 => match current.ifconfigInet4 with
    | some client => some ((s.release (.v4 client) now).setSession session
        { current with ifconfigInet4 := none, ifconfigPeer4 := none, stage := .unregisterIPv6 })
    | none => none
  | .unregisterIPv6 => match current.ifconfigInet6 with
    | some address => some ((s.unregister (.v6 address)).setStage session .releaseIPv6)
    | none => some (s.setStage session .finished)
  | .releaseIPv6 => match current.ifconfigInet6 with
    | some address => some ((s.release (.v6 address) now).setSession session
        { current with ifconfigInet6 := none, stage := .finished })
    | none => none
  | .controlLoop | .finished => none

/-- The payloads `acceptIncomingSources` accepts: all of them without a pool. -/
def acceptIncomingSources (session : Nat) (payloads : List Bytes) : List Bytes :=
  match s.ipPool with
  | none => payloads
  | some _ => payloads.filter fun payload => s.routes.sourceOwnedBy payload (some session)

def handedUp (delivery : Delivery) : Except IndexError (List ServerData) := do
  let peerAddress := (s.sessions delivery.session).peerAddress
  let payloads ← delivery.accepted.mapM fun payload =>
    if delivery.inPlace then Prod.fst <$> delivery.clamp.applyInPlace payload
    else delivery.clamp.apply payload
  let packets := payloads.map fun payload =>
    { session := delivery.session, peerAddress, payload
      leasesAtCheck := delivery.leasesAtCheck : ServerData }
  -- only `pushIncomingDataPackets` filters
  return if delivery.inPlace then packets
    else packets.filter fun packet => packet.peerAddress ≠ "" && !packet.payload.isEmpty

def step : TunnelEvent → Option TunnelServer
  | .pushRequest session =>
    if (s.sessions session).stage = .controlLoop then some (s.allocateIPv4 session) else none
  | .terminate session =>
    if (s.sessions session).stage = .controlLoop then some (s.setStage session .unregisterIPv4)
    else none
  | .advance session now => s.advance session now
  | .checkSources session payloads clamp inPlace =>
    some { s with deliveries := s.deliveries ++
      [{ session, clamp, inPlace, accepted := s.acceptIncomingSources session payloads
         leasesAtCheck := s.leases }] }
  | .handUp index =>
    match s.deliveries[index]? with
    | none => none
    | some delivery => match s.handedUp delivery with
      | .error _ => none
      | .ok packets => some { s with
          deliveries := s.deliveries.eraseIdx index
          incoming := s.incoming ++ packets }

end TunnelServer

def TunnelEvent.session : TunnelEvent → Option Nat
  | .pushRequest session => some session
  | .terminate session => some session
  | .advance session _ => some session
  | .checkSources session _ _ _ => some session
  | .handUp _ => none

/-- A server that has just been prepared: no session has an address. -/
structure FreshTunnelServer (s : TunnelServer) : Prop where
  prepared : ∃ options, prepareServerDataPlane options = .ok s.ipPool
  routes : s.routes = ∅
  session : ∀ session, (s.sessions session).ifconfigInet4 = none ∧
    (s.sessions session).ifconfigInet6 = none ∧ (s.sessions session).stage = .controlLoop
  deliveries : s.deliveries = []
  incoming : s.incoming = []
  leases : ∀ address, s.leases address = none

def tunnelSystem : System TunnelServer TunnelEvent where
  initial := FreshTunnelServer
  step := TunnelServer.step

/-! ### The invariant -/

def TunnelSession.Has (session : TunnelSession) : Addr → Prop
  | .v4 address => session.ifconfigInet4 = some address
  | .v6 address => session.ifconfigInet6 = some address

/-- The session is between the two halves of releasing the address. -/
def TunnelSession.Releasing (session : TunnelSession) : Addr → Prop
  | .v4 address => session.stage = .releaseIPv4 ∧ session.ifconfigInet4 = some address
  | .v6 address => session.stage = .releaseIPv6 ∧ session.ifconfigInet6 = some address

theorem TunnelSession.not_releasing {session : TunnelSession} {address : Addr}
    (h4 : session.stage ≠ .releaseIPv4) (h6 : session.stage ≠ .releaseIPv6) :
    ¬ session.Releasing address := by
  cases address with
  | v4 value => exact fun h => h4 h.1
  | v6 value => exact fun h => h6 h.1

/-- The packet is well formed, its source address was leased to the session, and
it is not link-local. -/
def LeasedSource (packet : Bytes) (session : Nat) (leases : Addr → Option Nat) : Prop :=
  ∃ source, IPPacketFrom packet source ∧ leases source = some session ∧
    ∀ address, source = .v6 address → ¬ LinkLocal6 address

structure TunnelInvariant (s : TunnelServer) : Prop where
  /-- A session holds the leases of its addresses, and no other ones. -/
  leases : ∀ address session, s.leases address = some session ↔ (s.sessions session).Has address
  inUse : ∀ address session, s.leases address = some session →
    ∃ pool ∈ s.ipPool, pool.InUse address
  routes : ∀ address route, s.routes.lookup address = some route →
    ∃ session, route.session = some session ∧ s.leases address = some session
  /-- Between the two halves of a release the address has no route. -/
  released : ∀ session address, (s.sessions session).Releasing address →
    s.routes.lookup address = none
  deliveries : s.ipPool.isSome → ∀ delivery ∈ s.deliveries, ∀ packet ∈ delivery.accepted,
    LeasedSource packet delivery.session delivery.leasesAtCheck
  incoming : s.ipPool.isSome → ∀ packet ∈ s.incoming,
    LeasedSource packet.payload packet.session packet.leasesAtCheck

theorem LeasedSource.of_sameHeader {packet packet' : Bytes} {session : Nat}
    {leases : Addr → Option Nat} (h : LeasedSource packet session leases)
    (hheader : SameHeader packet packet') : LeasedSource packet' session leases := by
  obtain ⟨source, hpacket, hleased, hlocal⟩ := h
  refine ⟨source, ?_, hleased, hlocal⟩
  rw [← sourceFromIPPacket_eq_some, sourceFromIPPacket_congr hheader]
  exact sourceFromIPPacket_eq_some.mpr hpacket

namespace TunnelInvariant

variable {s : TunnelServer} {session : Nat}

theorem initial (h : FreshTunnelServer s) : TunnelInvariant s where
  leases address session := by
    rw [h.leases]
    cases address <;> simp [TunnelSession.Has, h.session]
  inUse address session hleased := by
    rw [h.leases] at hleased
    cases hleased
  routes address route hroute := by
    rw [h.routes] at hroute
    cases hroute
  released session address hreleasing := by
    rw [h.routes]
    rfl
  deliveries := by simp [h.deliveries]
  incoming := by simp [h.incoming]

variable {address : Addr} {route : PeerRoute} {now : Time} {s' : TunnelServer}
  {value : TunnelSession}

section

variable (h : TunnelInvariant s)

include h

theorem setSession (hhas : ∀ address, value.Has address ↔ (s.sessions session).Has address)
    (hreleasing : ∀ address, value.Releasing address → s.routes.lookup address = none) :
    TunnelInvariant (s.setSession session value) := by
  refine { h with leases := ?_, released := ?_ }
  · intro address other
    rw [show (s.setSession session value).leases = s.leases from rfl, h.leases]
    by_cases hother : other = session
    · subst hother
      simp [TunnelServer.setSession, hhas]
    · simp [TunnelServer.setSession, hother]
  · intro other address
    by_cases hother : other = session
    · subst hother
      simpa [TunnelServer.setSession] using hreleasing address
    · simpa [TunnelServer.setSession, hother] using h.released other address

theorem setStage {stage : TunnelStage}
    (hreleasing : ∀ address, { s.sessions session with stage }.Releasing address →
      s.routes.lookup address = none) : TunnelInvariant (s.setStage session stage) := by
  refine h.setSession ?_ hreleasing
  intro address
  cases address <;> rfl

/-- Only the stages between the halves of a release say something about routes. -/
theorem setStage_of_ne {stage : TunnelStage} (h4 : stage ≠ .releaseIPv4)
    (h6 : stage ≠ .releaseIPv6) :
    TunnelInvariant (s.setStage session stage) :=
  h.setStage fun _ hreleasing => absurd hreleasing (TunnelSession.not_releasing h4 h6)

theorem grant {pool pool' : IPPool} (hpool : s.ipPool = some pool) (hfree : ¬ pool.InUse address)
    (hinUse : ∀ other, pool'.InUse other ↔ other = address ∨ pool.InUse other)
    (hhas : ∀ other, value.Has other ↔ other = address ∨ (s.sessions session).Has other)
    (hreleasing : ∀ other, ¬ value.Releasing other) :
    TunnelInvariant { s.setSession session value with
      ipPool := some pool'
      leases := Function.update s.leases address (some session) } := by
  -- nobody has the lease of an address that is free
  have hfresh : ∀ other, ¬ s.leases address = some other := by
    intro other hleased
    obtain ⟨pool'', hpool'', hused⟩ := h.inUse address other hleased
    rw [hpool] at hpool''
    cases hpool''
    exact hfree hused
  constructor
  case leases =>
    intro address' other
    by_cases haddress : address' = address
    · subst haddress
      by_cases hother : other = session
      · subst hother
        simp [TunnelServer.setSession, hhas]
      · have hnot : ¬ (s.sessions other).Has address' :=
          fun hother' => hfresh other ((h.leases _ _).mpr hother')
        simp [TunnelServer.setSession, hother, hnot, Ne.symm hother]
    · by_cases hother : other = session
      · subst hother
        simp [TunnelServer.setSession, hhas, haddress, h.leases]
      · simp [TunnelServer.setSession, hother, haddress, h.leases]
  case inUse =>
    intro address' other hleased
    refine ⟨pool', rfl, (hinUse address').mpr ?_⟩
    by_cases haddress : address' = address
    · exact .inl haddress
    · have hleased' := (Function.update_of_ne haddress _ _).symm.trans hleased
      obtain ⟨pool'', hpool'', hused⟩ := h.inUse address' other hleased'
      rw [hpool] at hpool''
      cases hpool''
      exact .inr hused
  case routes =>
    intro address' route hroute
    obtain ⟨other, hother, hleased⟩ := h.routes address' route hroute
    refine ⟨other, hother, ?_⟩
    have haddress : address' ≠ address := by
      rintro rfl
      exact hfresh other hleased
    exact (Function.update_of_ne haddress _ _).trans hleased
  case released =>
    intro other address'
    by_cases hother : other = session
    · subst hother
      simp [TunnelServer.setSession, hreleasing]
    · simpa [TunnelServer.setSession, hother] using h.released other address'
  case deliveries =>
    intro _
    exact h.deliveries (by simp [hpool])
  case incoming =>
    intro _
    exact h.incoming (by simp [hpool])

theorem register (address : Addr) (hhas : (s.sessions session).Has address)
    (hreleasing : ¬ (s.sessions session).Releasing address) :
    TunnelInvariant (s.register session address) := by
  have hleased := (h.leases address session).mpr hhas
  refine { h with routes := ?_, released := ?_ }
  · intro address' route hroute
    rcases lookup_register hroute with ⟨rfl, hsession⟩ | hroute
    · exact ⟨session, hsession, hleased⟩
    · exact h.routes address' route hroute
  · intro other address' hother
    -- the releasing session holds the lease, so the registered address is another one
    have haddress : address' ≠ address := by
      rintro rfl
      have hother' : (s.sessions other).Has address' := by
        cases address' with
        | v4 value => exact hother.2
        | v6 value => exact hother.2
      rw [← h.leases, hleased] at hother'
      cases hother'
      exact hreleasing hother
    exact (lookup_register_ne haddress).trans (h.released other address' hother)

theorem unregister (address : Addr) : TunnelInvariant (s.unregister address) := by
  refine { h with routes := ?_, released := ?_ }
  · intro address' route hroute
    exact h.routes address' route (lookup_unregister hroute).2
  · intro other address' hother
    have hnone := h.released other address' hother
    by_cases haddress : address' = address
    · subst haddress
      exact AList.lookup_erase _ _
    · exact (AList.lookup_erase_ne haddress).trans hnone

theorem revoke (hheld : (s.sessions session).Has address) (hroute : s.routes.lookup address = none)
    (hhas : ∀ other, value.Has other ↔ other ≠ address ∧ (s.sessions session).Has other)
    (hreleasing : ∀ other, ¬ value.Releasing other) :
    TunnelInvariant ((s.release address now).setSession session value) := by
  have hleased := (h.leases address session).mpr hheld
  constructor
  case leases =>
    intro address' other
    by_cases haddress : address' = address
    · subst haddress
      by_cases hother : other = session
      · subst hother
        simp [TunnelServer.setSession, TunnelServer.release, hhas]
      · have hnot : ¬ (s.sessions other).Has address' := by
          rw [← h.leases, hleased]
          simpa using Ne.symm hother
        simp [TunnelServer.setSession, TunnelServer.release, hother, hnot]
    · by_cases hother : other = session
      · subst hother
        simp [TunnelServer.setSession, TunnelServer.release, hhas, haddress, h.leases]
      · simp [TunnelServer.setSession, TunnelServer.release, hother, haddress, h.leases]
  case inUse =>
    intro address' other hleased'
    have haddress : address' ≠ address := by
      rintro rfl
      simp [TunnelServer.setSession, TunnelServer.release] at hleased'
    simp only [TunnelServer.setSession, TunnelServer.release, Function.update_of_ne haddress]
      at hleased' ⊢
    obtain ⟨pool, hpool, hused⟩ := h.inUse address' other hleased'
    exact ⟨pool.release address now, by simp [mem_def.mp hpool],
      IPPool.inUse_release.mpr ⟨haddress, hused⟩⟩
  case routes =>
    intro address' route hroute'
    obtain ⟨other, hother, hleased'⟩ := h.routes address' route hroute'
    refine ⟨other, hother, ?_⟩
    have haddress : address' ≠ address := by
      rintro rfl
      exact absurd (hroute.symm.trans hroute') (by simp)
    simpa [TunnelServer.setSession, TunnelServer.release, haddress] using hleased'
  case released =>
    intro other address'
    by_cases hother : other = session
    · subst hother
      simp [TunnelServer.setSession, hreleasing]
    · simpa [TunnelServer.setSession, TunnelServer.release, hother] using h.released other address'
  case deliveries =>
    intro hpool
    exact h.deliveries (by simpa [TunnelServer.setSession, TunnelServer.release] using hpool)
  case incoming =>
    intro hpool
    exact h.incoming (by simpa [TunnelServer.setSession, TunnelServer.release] using hpool)

/-! ### Every step keeps it -/

theorem allocateIPv4 : TunnelInvariant (s.allocateIPv4 session) := by
  unfold TunnelServer.allocateIPv4
  split
  · exact h
  rename_i pool hpool
  dsimp only
  split
  · rename_i hnew
    split
    · exact h.setStage_of_ne (by decide) (by decide)
    · rename_i lease pool' hallocate
      obtain ⟨hfree, rfl⟩ := IPPool.allocateIPv4ForIdentity_ok hallocate
      refine h.grant hpool hfree (fun other => IPPool.inUse_commitIPv4Lease) ?_ ?_
      · rintro (value | value)
        · simp [TunnelSession.Has, hnew.2, eq_comm]
        · simp [TunnelSession.Has]
      · exact fun other => TunnelSession.not_releasing (by simp) (by simp)
  · exact h.setStage_of_ne (by decide) (by decide)

theorem allocateIPv6 : TunnelInvariant (s.allocateIPv6 session) := by
  unfold TunnelServer.allocateIPv6
  split
  · exact h.setStage_of_ne (by decide) (by decide)
  rename_i pool hpool
  dsimp only
  split
  · rename_i hnew
    split
    · exact h.setStage_of_ne (by decide) (by decide)
    · rename_i address pool' hallocate
      obtain ⟨hfree, rfl⟩ := IPPool.allocateIPv6ForIdentity_ok hallocate
      refine h.grant hpool hfree (fun other => IPPool.inUse_commitIPv6Address) ?_ ?_
      · rintro (value | value)
        · simp [TunnelSession.Has]
        · simp [TunnelSession.Has, hnew.2, eq_comm]
      · exact fun other => TunnelSession.not_releasing (by simp) (by simp)
  · exact h.setStage_of_ne (by decide) (by decide)

theorem advance (hstep : s.advance session now = some s') : TunnelInvariant s' := by
  unfold TunnelServer.advance at hstep
  dsimp only at hstep
  split at hstep
  case h_1 hstage =>
    split at hstep
    · rename_i client hclient
      cases hstep
      refine (h.register (.v4 client) hclient ?_).setStage_of_ne (by decide) (by decide)
      exact TunnelSession.not_releasing (by simp [hstage]) (by simp [hstage])
    · cases hstep
  case h_2 =>
    cases hstep
    exact h.allocateIPv6
  case h_3 hstage =>
    split at hstep
    · rename_i address haddress
      cases hstep
      refine (h.register (.v6 address) haddress ?_).setStage_of_ne (by decide) (by decide)
      exact TunnelSession.not_releasing (by simp [hstage]) (by simp [hstage])
    · cases hstep
  case h_4 =>
    split at hstep
    · rename_i client hclient
      cases hstep
      refine (h.unregister _).setStage ?_
      rintro (value | value) ⟨hnext, hvalue⟩
      · obtain rfl : client = value := some.inj (hclient.symm.trans hvalue)
        exact AList.lookup_erase _ _
      · cases hnext
    · cases hstep
      exact h.setStage_of_ne (by decide) (by decide)
  case h_5 hstage =>
    split at hstep
    · rename_i client hclient
      cases hstep
      refine h.revoke hclient (h.released session (.v4 client) ⟨hstage, hclient⟩) ?_ ?_
      · rintro (value | value)
        · simp [TunnelSession.Has, hclient, eq_comm]
        · simp [TunnelSession.Has]
      · exact fun other => TunnelSession.not_releasing (by simp) (by simp)
    · cases hstep
  case h_6 =>
    split at hstep
    · rename_i address haddress
      cases hstep
      refine (h.unregister _).setStage ?_
      rintro (value | value) ⟨hnext, hvalue⟩
      · cases hnext
      · obtain rfl : address = value := some.inj (haddress.symm.trans hvalue)
        exact AList.lookup_erase _ _
    · cases hstep
      exact h.setStage_of_ne (by decide) (by decide)
  case h_7 hstage =>
    split at hstep
    · rename_i address haddress
      cases hstep
      refine h.revoke haddress (h.released session (.v6 address) ⟨hstage, haddress⟩) ?_ ?_
      · rintro (value | value)
        · simp [TunnelSession.Has]
        · simp [TunnelSession.Has, haddress, eq_comm]
      · exact fun other => TunnelSession.not_releasing (by simp) (by simp)
    · cases hstep
  all_goals cases hstep

/-- With a pool, an accepted packet comes from an address leased to the
session. -/
theorem leasedSource_of_accepted (hpool : s.ipPool.isSome) {payloads : List Bytes} {packet : Bytes}
    (hpacket : packet ∈ s.acceptIncomingSources session payloads) :
    LeasedSource packet session s.leases := by
  obtain ⟨pool, hsome⟩ := isSome_iff_exists.mp hpool
  rw [TunnelServer.acceptIncomingSources, hsome] at hpacket
  have howned := (List.mem_filter.mp hpacket).2
  obtain ⟨source, route, hfrom, hroute, hsession, hlocal⟩ := sourceOwnedBy_eq_true howned
  obtain ⟨owner, howner, hleased⟩ := h.routes source route hroute
  rw [hsession] at howner
  cases howner
  refine ⟨source, hfrom, hleased, ?_⟩
  intro address hsource hlinkLocal
  have hallowed := hlocal address hsource
  rw [isLinkLocalUnicast6_of_linkLocal6 hlinkLocal] at hallowed
  cases hallowed

end

/-- What is handed up are the accepted packets, up to their clamped segments. -/
theorem handedUp_ok {delivery : Delivery} {packets : List ServerData}
    (h : s.handedUp delivery = .ok packets) {packet : ServerData} (hpacket : packet ∈ packets) :
    packet.session = delivery.session ∧ packet.leasesAtCheck = delivery.leasesAtCheck ∧
      ∃ payload ∈ delivery.accepted, SameHeader payload packet.payload := by
  obtain ⟨payloads, hpayloads, h⟩ := bind_eq_ok.mp h
  have hmem : packet ∈ payloads.map fun payload =>
      { session := delivery.session
        peerAddress := (s.sessions delivery.session).peerAddress
        payload, leasesAtCheck := delivery.leasesAtCheck : ServerData } := by
    cases h
    split at hpacket
    · exact hpacket
    · exact List.mem_of_mem_filter hpacket
  obtain ⟨clamped, hclamped, rfl⟩ := List.mem_map.mp hmem
  obtain ⟨payload, hpayload, hok⟩ := mem_of_mapM_eq_ok hpayloads hclamped
  refine ⟨rfl, rfl, payload, hpayload, ?_⟩
  split at hok
  · obtain ⟨result, hresult, hfst⟩ := bind_eq_ok.mp hok
    cases hfst
    exact MSSClamp.applyInPlace_ok hresult
  · exact MSSClamp.apply_ok hok

/-- **Every step keeps the invariant.** -/
theorem step {event : TunnelEvent} (h : TunnelInvariant s) (hstep : s.step event = some s') :
    TunnelInvariant s' := by
  cases event with
  | pushRequest session =>
    simp only [TunnelServer.step, ite_none_right_eq_some, some.injEq] at hstep
    obtain ⟨-, rfl⟩ := hstep
    exact h.allocateIPv4
  | terminate session =>
    simp only [TunnelServer.step, ite_none_right_eq_some, some.injEq] at hstep
    obtain ⟨-, rfl⟩ := hstep
    exact h.setStage_of_ne (by decide) (by decide)
  | advance session now => exact h.advance hstep
  | checkSources session payloads clamp inPlace =>
    cases hstep
    refine { h with deliveries := ?_ }
    intro hpool delivery hdelivery
    rcases List.mem_append.mp hdelivery with hold | hnew
    · exact h.deliveries hpool delivery hold
    · obtain rfl := List.mem_singleton.mp hnew
      intro packet hpacket
      exact h.leasedSource_of_accepted hpool hpacket
  | handUp index =>
    simp only [TunnelServer.step] at hstep
    split at hstep
    · cases hstep
    rename_i delivery hdelivery
    split at hstep
    · cases hstep
    rename_i packets hpackets
    cases hstep
    refine { h with deliveries := ?_, incoming := ?_ }
    · intro hpool other hother
      exact h.deliveries hpool other (List.mem_of_mem_eraseIdx hother)
    · intro hpool packet hpacket
      rcases List.mem_append.mp hpacket with hold | hnew
      · exact h.incoming hpool packet hold
      · obtain ⟨hsession, hleases, payload, hpayload, hheader⟩ := handedUp_ok hpackets hnew
        have hchecked :=
          h.deliveries hpool delivery (List.mem_of_getElem? hdelivery) payload hpayload
        rw [hsession, hleases]
        exact hchecked.of_sameHeader hheader

theorem of_reachable (h : Reachable tunnelSystem s) : TunnelInvariant s :=
  h.invariant (fun _ hinitial => initial hinitial) fun _ _ _ hinvariant _ hstep =>
    hinvariant.step hstep

/-! ### Routes of other sessions -/

theorem route_ne (h : TunnelInvariant s) {held : Addr}
    (hroute : s.routes.lookup address = some route) (hother : route.session ≠ some session)
    (hheld : (s.sessions session).Has held) : address ≠ held := by
  rintro rfl
  obtain ⟨owner, howner, hleased⟩ := h.routes address route hroute
  rw [(h.leases address session).mpr hheld] at hleased
  cases hleased
  exact hother howner

theorem allocateIPv4_routes : (s.allocateIPv4 session).routes = s.routes := by
  unfold TunnelServer.allocateIPv4
  split
  · rfl
  · dsimp only
    split
    · split <;> rfl
    · rfl

theorem allocateIPv6_routes : (s.allocateIPv6 session).routes = s.routes := by
  unfold TunnelServer.allocateIPv6
  split
  · rfl
  · dsimp only
    split
    · split <;> rfl
    · rfl

theorem advance_routes (h : TunnelInvariant s) (hstep : s.advance session now = some s')
    (hroute : s.routes.lookup address = some route) (hother : route.session ≠ some session) :
    s'.routes.lookup address = some route := by
  unfold TunnelServer.advance at hstep
  dsimp only at hstep
  split at hstep
  case h_1 =>
    split at hstep
    · rename_i client hclient
      cases hstep
      have hne : address ≠ .v4 client := h.route_ne hroute hother hclient
      exact (lookup_register_ne hne).trans hroute
    · cases hstep
  case h_2 =>
    cases hstep
    rw [allocateIPv6_routes]
    exact hroute
  case h_3 =>
    split at hstep
    · rename_i value hvalue
      cases hstep
      have hne : address ≠ .v6 value := h.route_ne hroute hother hvalue
      exact (lookup_register_ne hne).trans hroute
    · cases hstep
  case h_4 =>
    split at hstep
    · rename_i client hclient
      cases hstep
      have hne : address ≠ .v4 client := h.route_ne hroute hother hclient
      exact (AList.lookup_erase_ne hne).trans hroute
    · cases hstep
      exact hroute
  case h_6 =>
    split at hstep
    · rename_i value hvalue
      cases hstep
      have hne : address ≠ .v6 value := h.route_ne hroute hother hvalue
      exact (AList.lookup_erase_ne hne).trans hroute
    · cases hstep
      exact hroute
  -- giving an address back leaves the table alone
  case h_5 | h_7 =>
    split at hstep
    · cases hstep
      exact hroute
    · cases hstep
  all_goals cases hstep

/-- **A step of one session leaves the routes of all others alone.** -/
theorem step_routes {event : TunnelEvent} (h : TunnelInvariant s) (hstep : s.step event = some s')
    (hroute : s.routes.lookup address = some route) (hother : route.session ≠ event.session) :
    s'.routes.lookup address = some route := by
  cases event with
  | pushRequest session =>
    simp only [TunnelServer.step, ite_none_right_eq_some, some.injEq] at hstep
    obtain ⟨-, rfl⟩ := hstep
    rw [allocateIPv4_routes]
    exact hroute
  | terminate session =>
    simp only [TunnelServer.step, ite_none_right_eq_some, some.injEq] at hstep
    obtain ⟨-, rfl⟩ := hstep
    exact hroute
  | advance session now => exact h.advance_routes hstep hroute hother
  | checkSources session payloads clamp inPlace =>
    cases hstep
    exact hroute
  | handUp index =>
    simp only [TunnelServer.step] at hstep
    split at hstep
    · cases hstep
    split at hstep
    · cases hstep
    cases hstep
    exact hroute

end TunnelInvariant

/-- **Tunnel sources are owned.**  In every reachable state of a server, for any
number of sessions and any interleaving of their steps: an address is routed to a
session only while that session holds its lease, which the pool keeps in use; no
step of a session touches a route of another one; and with a pool configured,
every packet handed up is a well-formed IP packet whose source address was leased
to its session when the sources were checked, and is not link-local. -/
theorem tunnel_source_owned {s : TunnelServer} (hreachable : Reachable tunnelSystem s) :
    (∀ address route, s.routes.lookup address = some route →
      ∃ session, route.session = some session ∧ s.leases address = some session) ∧
    (∀ address session, s.leases address = some session →
      ∃ pool ∈ s.ipPool, pool.InUse address) ∧
    (∀ event s', tunnelSystem.step s event = some s' → ∀ address route,
      s.routes.lookup address = some route → route.session ≠ event.session →
        s'.routes.lookup address = some route) ∧
    (s.ipPool.isSome → ∀ packet ∈ s.incoming, ∃ source,
      IPPacketFrom packet.payload source ∧
      packet.leasesAtCheck source = some packet.session ∧
      ∀ address, source = .v6 address → ¬ LinkLocal6 address) := by
  have hinvariant := TunnelInvariant.of_reachable hreachable
  refine ⟨hinvariant.routes, hinvariant.inUse, ?_, hinvariant.incoming⟩
  intro event s' hstep address route hroute hother
  exact hinvariant.step_routes hstep hroute hother

/-! ### Two clients of a small pool -/

/-- A `/29` pool under `subnet`, for clients 10.8.0.2 to 10.8.0.6. -/
def smallPoolOptions : ServerTunnelOptions where
  addressPools := [some (.v4 { addr := 0x0A080000#32, bits := 29, bits_le := by decide })]
  topology := "subnet"
  localAddress := []

def smallPoolServer : TunnelServer where
  ipPool := (prepareServerDataPlane smallPoolOptions).toOption.join
  routes := ∅
  sessions _ :=
    { peerAddress := "198.51.100.1:1194", stickyIdentity := "", ifconfigInet4 := none
      ifconfigPeer4 := none, ifconfigInet6 := none, stage := .controlLoop }
  deliveries := []
  incoming := []
  leases _ := none

theorem freshTunnelServer_smallPool : FreshTunnelServer smallPoolServer where
  prepared := ⟨smallPoolOptions, rfl⟩
  routes := rfl
  session _ := ⟨rfl, rfl, rfl⟩
  deliveries := rfl
  incoming := rfl
  leases _ := rfl

def packetFromFirstClient : Bytes :=
  [0x45, 0, 0, 20, 0, 0, 0, 0, 64, 17, 0, 0, 10, 8, 0, 2, 10, 8, 0, 1]

/-- Session 0 gets 10.8.0.2 and sends from it; session 1, which gets 10.8.0.3,
sends the same packet; session 0 ends and is between the halves of its release. -/
def twoClientsRun : List TunnelEvent :=
  [.pushRequest 0, .pushRequest 1, .advance 0 0, .advance 1 0, .advance 0 0, .advance 1 0,
   .checkSources 0 [packetFromFirstClient] { enabled := true, maximumSegmentSize := 1400 } true,
   .checkSources 1 [packetFromFirstClient] { enabled := true, maximumSegmentSize := 1400 } true,
   .handUp 0, .handUp 0, .terminate 0, .advance 0 0]

/-- The run hands up the packet of the session that has the address and drops the
other one; the route of session 1 is still there. -/
theorem tunnel_source_owned_two_clients :
    ∃ s, Reachable tunnelSystem s ∧
      s.incoming.map (fun packet => (packet.session, packet.payload)) =
        [(0, packetFromFirstClient)] ∧
      s.routes.lookup (.v4 0x0A080002#32) = none ∧
      (s.routes.lookup (.v4 0x0A080003#32)).map PeerRoute.session = some (some 1) ∧
      ∀ packet ∈ s.incoming, ∃ source, IPPacketFrom packet.payload source ∧
        packet.leasesAtCheck source = some packet.session ∧
        ∀ address, source = .v6 address → ¬ LinkLocal6 address := by
  obtain ⟨s, hreachable, hpool, hincoming, hfirst, hsecond⟩ : ∃ s, Reachable tunnelSystem s ∧
      s.ipPool.isSome = true ∧
      s.incoming.map (fun packet => (packet.session, packet.payload)) =
        [(0, packetFromFirstClient)] ∧
      s.routes.lookup (.v4 0x0A080002#32) = none ∧
      (s.routes.lookup (.v4 0x0A080003#32)).map PeerRoute.session = some (some 1) :=
    exists_reachableBy freshTunnelServer_smallPool twoClientsRun (by decide +kernel)
  exact ⟨s, hreachable, hincoming, hfirst, hsecond, (tunnel_source_owned hreachable).2.2.2 hpool⟩

end SingOpenVPN
