import SingOpenVPN.ControlWrap
import SingOpenVPN.SessionRegistry

/-!
# Admission of UDP peers (`udp_predecrypt.go`, `server_listener.go`)

A datagram from an address no session is bound to is decoded with a fresh copy of
the static protection and, if it is an initial reset, answered with a challenge
that costs the server nothing.  Only an echo of that challenge, or a tls-crypt-v2
reset of a client that cannot echo, reserves a slot and creates a session.

`created` of the registry counts the session objects.  `reservations` counts the
slots ever reserved and is not part of the program: it tells a slot that was
reserved and given back from one that was never reserved.
-/

namespace SingOpenVPN

open ByteCodec

/-! ### The resource policy (`server_resource_policy.go`) -/

structure ServerResourcePolicy where
  maxClients : Int
  connectFrequency : Int
  connectFrequencyPeriod : Duration
  connectWindowStart : Option Time
  connectWindowCount : Int
  initialConnectFrequency : Int
  initialConnectFrequencyPeriod : Duration
  initialWindowStart : Option Time
  initialWindowCount : Int
  instances : Int

namespace ServerResourcePolicy

variable (p : ServerResourcePolicy)

def allowInitialPacket (now : Time) : Bool × ServerResourcePolicy :=
  let expired := match p.initialWindowStart with
    | none => true
    | some start => decide (now - start > p.initialConnectFrequencyPeriod)
  let opened := if expired then
      { p with initialWindowStart := some now, initialWindowCount := 0 }
    else p
  let counted := { opened with initialWindowCount := opened.initialWindowCount + 1 }
  (decide (counted.initialWindowCount ≤ p.initialConnectFrequency), counted)

def refundInitialPacket : ServerResourcePolicy :=
  if p.initialWindowCount > 0 then { p with initialWindowCount := p.initialWindowCount - 1 } else p

def allowNewConnection (now : Time) : Bool × ServerResourcePolicy :=
  if p.connectFrequencyPeriod = 0 then (true, p)
  else
    let expired := match p.connectWindowStart with
      | none => true
      | some start => decide (now - start ≥ p.connectFrequencyPeriod)
    let opened := if expired then
        { p with connectWindowStart := some now, connectWindowCount := 0 }
      else p
    let counted := { opened with connectWindowCount := opened.connectWindowCount + 1 }
    (decide (counted.connectWindowCount ≤ p.connectFrequency), counted)

def reserveInstance : Option ServerResourcePolicy :=
  if p.instances ≥ p.maxClients then none else some { p with instances := p.instances + 1 }

def releaseInstance : ServerResourcePolicy :=
  { p with instances := p.instances - 1 }

@[simp] theorem instances_allowInitialPacket (now : Time) :
    (p.allowInitialPacket now).2.instances = p.instances := by
  unfold allowInitialPacket
  dsimp only
  split <;> split <;> rfl

end ServerResourcePolicy

/-! ### The server -/

/-- The parts of `tlsServer` the admission of UDP peers uses. -/
structure UDPServer where
  /-- `lifecycleState == serverLifecycleRunning` -/
  running : Bool
  registry : SessionRegistry
  resourcePolicy : ServerResourcePolicy
  staticProtection : ControlProtection
  sessionIDHMACSigner : SessionIDHMACSigner
  cryptV2ForceCookie : Bool
  reservations : Nat

/-- What is read of the environment while one datagram is handled: `time.Now()` of
the admission, the clock of the replay window and of the packet ids of a
challenge, and whether the server still runs when the worker of a new session is
reserved. -/
structure AdmissionClock where
  now : Time
  replay : Time
  arrival : Time
  first : UInt32
  wrapped : UInt32
  stillRunning : Bool

def unixSeconds (now : Time) : Int := now / 10 ^ 9

inductive UDPPreDecryptResult where
  | drop
  | challenge (challenge : Bytes) (serverSessionID clientSessionID : SessionID)
  | accept (packet : Packet) (protection : ControlProtection) (serverSessionID : SessionID)
      (directReset : Bool)

def opcodeOf (rawPacket : Bytes) : Opcode := Opcode.ofCode (rawPacket.headD 0 >>> 3)

def isPossibleUDPPreDecryptPacket (rawPacket : Bytes) : Bool :=
  if rawPacket.length < tlsControlHeaderLength ∨ rawPacket.headD 0 &&& 0x07 ≠ 0 then false
  else if (rawPacket.drop 1).take 8 = unsetSessionID.toList then false
  else match opcodeOf rawPacket with
    | .controlHardResetClientV2 | .controlHardResetClientV3 | .controlV1 | .acknowledgmentV1
    | .controlWKCv1 => true
    | _ => false

def tlsCryptV2ResetAnnouncesEarlyNegotiation (rawPacket : Bytes) : Bool :=
  if rawPacket.length < tlsControlHeaderLength + 4 then false
  else
    let packetID := getBE ((rawPacket.drop tlsControlHeaderLength).take 4)
    packetID &&& 0x0f000000 == 0x0f000000

def validateInitialClientReset (packet : Packet) : Bool :=
  packet.keyID = 0 &&
    (packet.opcode = .controlHardResetClientV2 || packet.opcode = .controlHardResetClientV3) &&
    packet.id = 0 && packet.acknowledgmentIDs = [] && packet.payload = []

/-- `tlsPacketIDState.seedNextID`; `seconds` is the reading of the clock it may
make. -/
def seedNextID (state : TLSPacketIDState) (nextID seconds : UInt32) : TLSPacketIDState :=
  { nextID, timestamp := if state.timestamp = 0 then seconds else state.timestamp }

def seedUDPProtectionAfterChallenge (protection : ControlProtection) (seconds : UInt32) :
    ControlProtection :=
  { protection with
    auth := protection.auth.map fun codec =>
      { codec with sendState := seedNextID codec.sendState 1 seconds }
    crypt := protection.crypt.map fun codec =>
      { codec with sendState := seedNextID codec.sendState 1 seconds } }

namespace UDPServer

variable (crypto : CryptoPrimitives) (s : UDPServer)

def decodeUDPPreDecryptPacket (rawPacket : Bytes) (clock : AdmissionClock) :
    Option (Packet × ControlProtection × Bool) :=
  match s.staticProtection.newSessionProtection.decodeIncomingControlPacket crypto rawPacket
      clock.replay clock.arrival with
  | (.error _, _) => none
  | (.ok packetBytes, protection) =>
    match parsePacket packetBytes with
    | .error _ => none
    | .ok packet =>
      if packet.opcode ≠ opcodeOf rawPacket then none
      else some (packet, protection,
        opcodeOf rawPacket = .controlHardResetClientV3 &&
          tlsCryptV2ResetAnnouncesEarlyNegotiation rawPacket)

/-- The challenge `preDecryptUDPPacket` answers an initial reset with. -/
def challengePacket (serverSessionID : SessionID) (packet : Packet) : Packet :=
  { newPacket .controlHardResetServerV2 0
      (if packet.opcode = .controlHardResetClientV3 then [0x00, 0x01, 0x00, 0x02, 0x00, 0x01]
        else []) with
    localSessionID := serverSessionID
    acknowledgmentIDs := [packet.id]
    remoteSessionID := packet.localSessionID }

def preDecryptUDPPacket (rawPacket : Bytes) (peerAddress : NetAddr)
    (clock : AdmissionClock) : UDPPreDecryptResult × UDPServer :=
  match s.decodeUDPPreDecryptPacket crypto rawPacket clock with
  | none => (.drop, s)
  | some (packet, protection, earlyNegotiation) =>
    if packet.keyID ≠ 0 ∨ packet.localSessionID = unsetSessionID then (.drop, s)
    else match packet.opcode with
      | .controlHardResetClientV2 | .controlHardResetClientV3 =>
        if !validateInitialClientReset packet then (.drop, s)
        else
          -- only initial resets are charged to the budget of initial packets
          let (allowed, resourcePolicy) := s.resourcePolicy.allowInitialPacket clock.now
          let s := { s with resourcePolicy }
          if !allowed then (.drop, s)
          else if packet.opcode = .controlHardResetClientV3 ∧ !earlyNegotiation then
            if s.cryptV2ForceCookie then (.drop, s)
            else (.accept packet protection unsetSessionID true, s)
          else
            let serverSessionID := s.sessionIDHMACSigner.deriveSessionIDAt crypto
              packet.localSessionID (some peerAddress) (unixSeconds clock.now) 0
            match (challengePacket serverSessionID packet).bytes with
            | .error _ => (.drop, s)
            | .ok challenge =>
              (.challenge (protection.encodeOutgoingControlPacket crypto challenge clock.first
                clock.wrapped).1 serverSessionID packet.localSessionID, s)
      | .controlV1 | .acknowledgmentV1 | .controlWKCv1 =>
        if packet.acknowledgmentIDs = [] ∨ packet.remoteSessionID = unsetSessionID then (.drop, s)
        else if !s.sessionIDHMACSigner.validateAt crypto packet.localSessionID (some peerAddress)
            packet.remoteSessionID (unixSeconds clock.now) then (.drop, s)
        else (.accept packet (seedUDPProtectionAfterChallenge protection clock.first)
          packet.remoteSessionID false, s)
      | _ => (.drop, s)

variable (text : NetAddr → String)

def newUDPSession (remoteAddress : NetAddr) (remoteSessionID : SessionID) :
    Nat × UDPServer :=
  (s.registry.created,
    { s with registry := s.registry.addSession remoteSessionID (some remoteAddress) })

def unregisterSession (session : Nat) : UDPServer :=
  { s with registry := s.registry.evictSessionLocked session }

/-- `releaseResourceReservation` of a session that holds one. -/
def releaseReservation : UDPServer :=
  { s with resourcePolicy := s.resourcePolicy.releaseInstance }

/-- The admission of a peer whose first packet was accepted.  The session that it
starts, if any, runs on its own. -/
def admitPeer (packet : Packet) (remoteAddress : NetAddr) (clock : AdmissionClock) :
    UDPServer :=
  let (allowed, resourcePolicy) := s.resourcePolicy.allowNewConnection clock.now
  let s := { s with resourcePolicy }
  if !allowed then s
  else
    let refunded := s.resourcePolicy.refundInitialPacket
    match refunded.reserveInstance with
    | none => { s with resourcePolicy := refunded }
    | some reserved =>
      let s := { s with resourcePolicy := reserved, reservations := s.reservations + 1 }
      let (session, s) := s.newUDPSession remoteAddress packet.localSessionID
      match s.registry.registerSession text s.running (text remoteAddress) session
          (some remoteAddress) with
      | .error _ => s.releaseReservation
      | .ok registry =>
        let s := { s with registry }
        if !clock.stillRunning then (s.unregisterSession session).releaseReservation else s

/-- `acceptUnboundUDPPacket`; a challenge is sent to the address and leaves
nothing behind. -/
def acceptUnboundUDPPacket (rawPacket : Bytes) (remoteAddress : NetAddr)
    (clock : AdmissionClock) : UDPServer :=
  if !isPossibleUDPPreDecryptPacket rawPacket then s
  else match s.preDecryptUDPPacket crypto rawPacket remoteAddress clock with
    | (.accept packet _ _ _, s) => s.admitPeer text packet remoteAddress clock
    | (_, s) => s

/-- `acceptInitialUDPReset`; the displaced session is closed by the caller. -/
def acceptInitialUDPReset (rawPacket : Bytes) (remoteAddress : NetAddr)
    (clock : AdmissionClock) : UDPServer :=
  match s.decodeUDPPreDecryptPacket crypto rawPacket clock with
  | none => s
  | some (packet, _, _) =>
    if !validateInitialClientReset packet then s
    else
      let (session, s) := s.newUDPSession remoteAddress packet.localSessionID
      match s.registry.registerInitialSession text s.running (text remoteAddress) session
          remoteAddress with
      | .error _ => s
      | .ok (_, registry) =>
        let s := { s with registry }
        if !clock.stillRunning then s.unregisterSession session else s

/-- What `dispatchListenerPackets` does with one datagram, for the route that was
found for it.  A delivered datagram goes into the queue of its session. -/
def dispatch (route : SessionRegistry.UDPPacketRoute) (rawPacket : Bytes)
    (remoteAddress : NetAddr) (clock : AdmissionClock) : UDPServer :=
  match route with
  | .unbound => s.acceptUnboundUDPPacket crypto text rawPacket remoteAddress clock
  | .initialReset => s.acceptInitialUDPReset crypto text rawPacket remoteAddress clock
  | .deliver _ | .drop => s

/-! ### Nothing else admits -/

/-- A session was created or changed its place in a table, or a slot was
reserved. -/
def Admits (s s' : UDPServer) : Prop :=
  s'.registry ≠ s.registry ∨ s'.resourcePolicy.instances ≠ s.resourcePolicy.instances ∨
    s'.reservations ≠ s.reservations

/-- The datagram is a tls-crypt-v2 reset of a client that does not announce early
negotiation, at a server that has a tls-crypt-v2 key and does not force
cookies. -/
structure NoncookieReset (s : UDPServer) (rawPacket : Bytes) : Prop where
  opcode : opcodeOf rawPacket = .controlHardResetClientV3
  serverKey : s.staticProtection.cryptV2ServerKey ≠ []
  notEarly : tlsCryptV2ResetAnnouncesEarlyNegotiation rawPacket = false
  notForced : s.cryptV2ForceCookie = false

/-- The datagram carries a packet that echoes a session id the server derives for
its client session id, the address it came from, and a bucket from two before to
one after the current one. -/
def EchoesCookie (rawPacket : Bytes) (remoteAddress : NetAddr)
    (clock : AdmissionClock) : Prop :=
  ∃ packet protection earlyNegotiation,
    s.decodeUDPPreDecryptPacket crypto rawPacket clock =
      some (packet, protection, earlyNegotiation) ∧
    ∃ offset ∈ SessionIDHMACSigner.validationOffsets,
      packet.remoteSessionID = s.sessionIDHMACSigner.deriveSessionIDAt crypto packet.localSessionID
        (some remoteAddress) (unixSeconds clock.now) offset

variable {crypto text} {s s' : UDPServer} {rawPacket : Bytes} {remoteAddress : NetAddr}
  {clock : AdmissionClock}

variable {protection : ControlProtection} {packet : Packet}

theorem serverKey_of_decoded {earlyNegotiation : Bool}
    (hopcode : opcodeOf rawPacket = .controlHardResetClientV3)
    (h : s.decodeUDPPreDecryptPacket crypto rawPacket clock
      = some (packet, protection, earlyNegotiation)) :
    s.staticProtection.cryptV2ServerKey ≠ [] := by
  intro hkey
  have hextract :
    s.staticProtection.newSessionProtection.extractTLSCryptV2ClientKey crypto rawPacket
      = .error "peer wants tls-crypt-v2 but no server key is present" := by
    simp [ControlProtection.extractTLSCryptV2ClientKey,
      ControlProtection.newSessionProtection, hkey]
  have hdecode : ∃ err, s.staticProtection.newSessionProtection.decodeIncomingControlPacket crypto
      rawPacket clock.replay clock.arrival =
        (.error err, s.staticProtection.newSessionProtection) := by
    unfold ControlProtection.decodeIncomingControlPacket
    split
    · exact ⟨_, rfl⟩
    · have hcode : Opcode.ofCode (rawPacket.headD 0 >>> 3) = .controlHardResetClientV3 := hopcode
      rw [hcode]
      simp [hextract]
  obtain ⟨err, herr⟩ := hdecode
  simp [decodeUDPPreDecryptPacket, herr] at h

/-- A decoded packet has the opcode of the datagram, and its early negotiation is
read off the datagram. -/
theorem decoded_opcode {earlyNegotiation : Bool}
    (h : s.decodeUDPPreDecryptPacket crypto rawPacket clock
      = some (packet, protection, earlyNegotiation)) :
    packet.opcode = opcodeOf rawPacket ∧
      (packet.opcode = .controlHardResetClientV3 → earlyNegotiation = false →
        tlsCryptV2ResetAnnouncesEarlyNegotiation rawPacket = false) := by
  unfold decodeUDPPreDecryptPacket at h
  split at h
  · cases h
  split at h
  · cases h
  split at h
  · cases h
  rename_i hopcode
  rw [not_not] at hopcode
  cases h
  refine ⟨hopcode, fun hreset hearly => ?_⟩
  rw [hopcode] at hreset
  simpa [hreset] using hearly

/-- What the pre-decryption can do to the server is charge the budget of initial
packets. -/
theorem preDecrypt_frame (crypto : CryptoPrimitives) (s : UDPServer) (rawPacket : Bytes)
    (remoteAddress : NetAddr) (clock : AdmissionClock) :
    (s.preDecryptUDPPacket crypto rawPacket remoteAddress clock).2.registry = s.registry ∧
    (s.preDecryptUDPPacket crypto rawPacket remoteAddress clock).2.reservations = s.reservations ∧
    (s.preDecryptUDPPacket crypto rawPacket remoteAddress clock).2.resourcePolicy.instances
      = s.resourcePolicy.instances := by
  unfold preDecryptUDPPacket
  split
  · exact ⟨rfl, rfl, rfl⟩
  split
  · exact ⟨rfl, rfl, rfl⟩
  split
  case h_1 | h_2 =>
    split
    · exact ⟨rfl, rfl, rfl⟩
    have hinstances := ServerResourcePolicy.instances_allowInitialPacket s.resourcePolicy clock.now
    dsimp only
    split
    · exact ⟨rfl, rfl, hinstances⟩
    split
    · split
      · exact ⟨rfl, rfl, hinstances⟩
      · exact ⟨rfl, rfl, hinstances⟩
    · split
      · exact ⟨rfl, rfl, hinstances⟩
      · exact ⟨rfl, rfl, hinstances⟩
  case h_3 | h_4 | h_5 =>
    split
    · exact ⟨rfl, rfl, rfl⟩
    split
    · exact ⟨rfl, rfl, rfl⟩
    · exact ⟨rfl, rfl, rfl⟩
  case h_6 => exact ⟨rfl, rfl, rfl⟩

/-- **An accepted first packet is a reset without cookie or echoes one.** -/
theorem preDecrypt_accept {serverSessionID : SessionID} {directReset : Bool}
    (h : s.preDecryptUDPPacket crypto rawPacket remoteAddress clock
      = (.accept packet protection serverSessionID directReset, s')) :
    s.NoncookieReset rawPacket ∨ s.EchoesCookie crypto rawPacket remoteAddress clock := by
  unfold preDecryptUDPPacket at h
  split at h
  · cases h
  rename_i decoded protection' earlyNegotiation hdecoded
  have hopcode := decoded_opcode hdecoded
  split at h
  · cases h
  split at h
  case h_1 | h_2 =>
    left
    split at h
    · cases h
    dsimp only at h
    split at h
    · cases h
    split at h
    · rename_i hdirect
      split at h
      · cases h
      rename_i hforced
      simp only [Bool.not_eq_true'] at hdirect
      have hraw : opcodeOf rawPacket = .controlHardResetClientV3 := hopcode.1.symm.trans hdirect.1
      exact ⟨hraw, serverKey_of_decoded hraw hdecoded, hopcode.2 hdirect.1 hdirect.2,
        by simpa using hforced⟩
    · split at h <;> cases h
  case h_3 | h_4 | h_5 =>
    right
    split at h
    · cases h
    split at h
    · cases h
    rename_i hvalidate
    simp only [Bool.not_eq_true', Bool.not_eq_false] at hvalidate
    obtain ⟨offset, hoffset, hderived⟩ := SessionIDHMACSigner.validateAt_eq_true.mp hvalidate
    exact ⟨decoded, protection', earlyNegotiation, hdecoded, offset, hoffset, hderived.symm⟩
  case h_6 => cases h

/-- **Only an accepted first packet admits.** -/
theorem acceptUnbound_admits
    (h : s.Admits (s.acceptUnboundUDPPacket crypto text rawPacket remoteAddress clock)) :
    s.NoncookieReset rawPacket ∨ s.EchoesCookie crypto rawPacket remoteAddress clock := by
  unfold acceptUnboundUDPPacket at h
  split at h
  · simp [Admits] at h
  · have hframe := preDecrypt_frame crypto s rawPacket remoteAddress clock
    split at h
    · rename_i hresult
      exact preDecrypt_accept hresult
    · rename_i result s' hresult hother
      rw [hother] at hframe
      rcases h with h | h | h
      · exact absurd hframe.1 h
      · exact absurd hframe.2.2 h
      · exact absurd hframe.2.1 h

/-- A challenge carries the session id derived for the current bucket. -/
theorem preDecrypt_challenge {challenge : Bytes} {serverSessionID clientSessionID : SessionID}
    (h : s.preDecryptUDPPacket crypto rawPacket remoteAddress clock
      = (.challenge challenge serverSessionID clientSessionID, s')) :
    serverSessionID = s.sessionIDHMACSigner.deriveSessionIDAt crypto clientSessionID
      (some remoteAddress) (unixSeconds clock.now) 0 := by
  unfold preDecryptUDPPacket at h
  split at h
  · cases h
  split at h
  · cases h
  split at h
  case h_1 | h_2 =>
    split at h
    · cases h
    dsimp only at h
    split at h
    · cases h
    split at h
    · split at h <;> cases h
    · split at h
      · cases h
      · cases h
        rfl
  case h_3 | h_4 | h_5 =>
    split at h
    · cases h
    split at h <;> cases h
  case h_6 => cases h

/-- A datagram from an unbound address is admitted only by
`acceptUnboundUDPPacket`, whatever happened since it was routed. -/
theorem dispatch_admits {r : SessionRegistry}
    (hactive : r.udpSessionByAddress.lookup (text remoteAddress) = none)
    (hinitial : r.udpInitialSessionByAddress.lookup (text remoteAddress) = none)
    (h : s.Admits (s.dispatch crypto text (r.routeUDPPacketLocked rawPacket (text remoteAddress))
      rawPacket remoteAddress clock)) :
    s.NoncookieReset rawPacket ∨ s.EchoesCookie crypto rawPacket remoteAddress clock := by
  have hroute := SessionRegistry.route_ne_initialReset rawPacket hactive hinitial
  generalize r.routeUDPPacketLocked rawPacket (text remoteAddress) = route at h hroute
  cases route with
  | unbound => exact acceptUnbound_admits h
  | initialReset => exact absurd rfl hroute
  | deliver session | drop => simp [Admits, dispatch] at h

end UDPServer

/-! ### Cookies bind -/

open SessionIDHMACSigner in
/-- **UDP cookies bind an address, a client and a time.**

A datagram from an address no session is bound to creates a session or reserves a
slot only if it is a tls-crypt-v2 reset without early negotiation while cookies
are not forced, or if it echoes a session id the server derives for its address,
its client session id and an accepted bucket.  A challenge carries the session id
of the current bucket.

As long as none of the HMAC inputs that are compared collide, a cookie validates
only for its own address and client session id, and, when it was issued from the
Unix epoch on and fewer than `2 ^ 32 - 1` buckets have passed, not more than 90
seconds after its issue.  For them it always validates within 60 seconds. -/
theorem udp_cookie_binds (crypto : CryptoPrimitives) (text : NetAddr → String) (hmacKey : Bytes) :
    (∀ (r : SessionRegistry) (s : UDPServer) rawPacket remoteAddress clock,
      r.udpSessionByAddress.lookup (text remoteAddress) = none →
      r.udpInitialSessionByAddress.lookup (text remoteAddress) = none →
      s.Admits (s.dispatch crypto text (r.routeUDPPacketLocked rawPacket (text remoteAddress))
        rawPacket remoteAddress clock) →
      s.NoncookieReset rawPacket ∨ s.EchoesCookie crypto rawPacket remoteAddress clock) ∧
    (∀ (s s' : UDPServer) rawPacket remoteAddress clock challenge serverSessionID clientSessionID,
      s.preDecryptUDPPacket crypto rawPacket remoteAddress clock
        = (.challenge challenge serverSessionID clientSessionID, s') →
      serverSessionID = s.sessionIDHMACSigner.deriveSessionIDAt crypto clientSessionID
        (some remoteAddress) (unixSeconds clock.now) 0) ∧
    (∀ (address address' : UDPAddr) clientSessionID clientSessionID' issued checked,
      address.Valid → address'.Valid →
      CollisionFree crypto (newSessionIDHMACSigner hmacKey)
        ((newSessionIDHMACSigner hmacKey).comparedInputs clientSessionID address issued
          clientSessionID' address' checked) →
      (newSessionIDHMACSigner hmacKey).validateAt crypto clientSessionID' (some (.udp address'))
        ((newSessionIDHMACSigner hmacKey).deriveSessionIDAt crypto clientSessionID
          (some (.udp address)) issued 0) checked = true →
      address.Same address' ∧ clientSessionID = clientSessionID' ∧
        (0 ≤ issued → bucketNumber checked - bucketNumber issued < 2 ^ 32 - 1 →
          checked - issued ≤ 90)) ∧
    (∀ (address address' : UDPAddr) clientSessionID issued checked,
      address.Valid → address.Same address' → issued ≤ checked → checked - issued ≤ 60 →
      (newSessionIDHMACSigner hmacKey).validateAt crypto clientSessionID (some (.udp address'))
        ((newSessionIDHMACSigner hmacKey).deriveSessionIDAt crypto clientSessionID
          (some (.udp address)) issued 0) checked = true) := by
  refine ⟨?_, ?_, ?_, ?_⟩
  · intro r s rawPacket remoteAddress clock hactive hinitial hadmits
    exact UDPServer.dispatch_admits hactive hinitial hadmits
  · intro s s' rawPacket remoteAddress clock challenge serverSessionID clientSessionID hchallenge
    exact UDPServer.preDecrypt_challenge hchallenge
  · intro address address' clientSessionID clientSessionID' issued checked hvalid hvalid' hfree
      hvalidates
    obtain ⟨hsame, hclient, offset, hoffset, hbucket⟩ :=
      bound_of_validateAt hfree hvalid hvalid' hvalidates
    refine ⟨hsame, hclient, fun hissued hwrap => ?_⟩
    by_contra hlate
    exact not_accepted_of_late hissued (not_le.mp hlate) hwrap hoffset hbucket
  · intro address address' clientSessionID issued checked hvalid hsame horder hsoon
    exact validateAt_of_soon hsame hvalid horder hsoon

/-! ### A client that echoes its cookie -/

section Echo

/-- Primitives whose MAC is the front of its message, for runs that can be
evaluated. -/
def frontPrimitives : CryptoPrimitives where
  hmac hash _ message := (message ++ List.replicate hash.size 0).take hash.size
  newCipher _ _ := none
  length_hmac hash _ message := by simp

def exampleClient : UDPAddr := { ip := [192, 0, 2, 1], port := 1194, zone := [] }

def exampleOther : UDPAddr := { ip := [198, 0, 2, 1], port := 1194, zone := [] }

def exampleClientSessionID : SessionID := ⟨[1, 2, 3, 4, 5, 6, 7, 8], rfl⟩

def exampleUDPServer : UDPServer where
  running := true
  registry := .start
  resourcePolicy :=
    { maxClients := 1024, connectFrequency := 0, connectFrequencyPeriod := 0
      connectWindowStart := none, connectWindowCount := 0, initialConnectFrequency := 100
      initialConnectFrequencyPeriod := 10 ^ 10, initialWindowStart := none
      initialWindowCount := 0, instances := 0 }
  staticProtection := { auth := none, crypt := none, cryptV2ServerKey := [] }
  sessionIDHMACSigner := newSessionIDHMACSigner []
  cryptV2ForceCookie := false
  reservations := 0

def exampleClock : AdmissionClock :=
  { now := 1000 * 10 ^ 9, replay := 1000 * 10 ^ 9, arrival := 1000 * 10 ^ 9, first := 1000
    wrapped := 1000, stillRunning := true }

/-- A P_CONTROL_V1 packet that acknowledges packet 0 of the session id derived 1000
seconds after the epoch. -/
def examplePacket : Bytes :=
  [0x20] ++ exampleClientSessionID.toList ++ [1, 0, 0, 0, 0] ++ [0, 0, 0, 33, 4, 192, 0, 2] ++
    [0, 0, 0, 1]

/-- The echo is admitted; the cookie is good for its address a minute later and
for no other address. -/
theorem udp_cookie_binds_echo :
    exampleUDPServer.Admits (exampleUDPServer.dispatch frontPrimitives (fun _ => "192.0.2.1:1194")
      (exampleUDPServer.registry.routeUDPPacketLocked examplePacket "192.0.2.1:1194")
      examplePacket (.udp exampleClient) exampleClock) ∧
    (exampleUDPServer.NoncookieReset examplePacket ∨
      exampleUDPServer.EchoesCookie frontPrimitives examplePacket (.udp exampleClient)
        exampleClock) ∧
    (newSessionIDHMACSigner []).validateAt frontPrimitives exampleClientSessionID
      (some (.udp exampleClient)) ((newSessionIDHMACSigner []).deriveSessionIDAt frontPrimitives
        exampleClientSessionID (some (.udp exampleClient)) 1000 0) 1060 = true ∧
    ¬ (newSessionIDHMACSigner []).validateAt frontPrimitives exampleClientSessionID
      (some (.udp exampleOther)) ((newSessionIDHMACSigner []).deriveSessionIDAt frontPrimitives
        exampleClientSessionID (some (.udp exampleClient)) 1000 0) 1000 = true := by
  have hadmits : exampleUDPServer.Admits (exampleUDPServer.dispatch frontPrimitives
      (fun _ => "192.0.2.1:1194")
      (exampleUDPServer.registry.routeUDPPacketLocked examplePacket "192.0.2.1:1194")
      examplePacket (.udp exampleClient) exampleClock) :=
    .inr (.inr (by decide +kernel))
  obtain ⟨hadmission, -, hbinds, hsoon⟩ :=
    udp_cookie_binds frontPrimitives (fun _ => "192.0.2.1:1194") []
  refine ⟨hadmits, hadmission _ _ _ _ _ rfl rfl hadmits, ?_, ?_⟩
  · exact hsoon _ _ _ 1000 1060 (.inl rfl) ⟨rfl, rfl, rfl⟩ (by decide) (by decide)
  · intro hvalidates
    have hsame := (hbinds exampleClient exampleOther _ _ 1000 1000 (.inl rfl) (.inl rfl)
      (by decide +kernel) hvalidates).1
    exact absurd hsame.ip (by decide)

/-- A cookie issued 29 seconds before the Unix epoch validates 118 seconds later:
truncating division makes the bucket around the epoch twice as long. -/
theorem cookie_validates_late :
    (newSessionIDHMACSigner []).validateAt frontPrimitives exampleClientSessionID
      (some (.udp exampleClient)) ((newSessionIDHMACSigner []).deriveSessionIDAt frontPrimitives
        exampleClientSessionID (some (.udp exampleClient)) (-29) 0) 89 = true ∧
    90 < 89 - (-29 : Int) ∧
    SessionIDHMACSigner.CollisionFree frontPrimitives (newSessionIDHMACSigner [])
      ((newSessionIDHMACSigner []).comparedInputs exampleClientSessionID exampleClient (-29)
        exampleClientSessionID exampleClient 89) := by
  refine ⟨by decide +kernel, by decide, by decide +kernel⟩

end Echo

end SingOpenVPN
