import SingOpenVPN.DataCodec
import SingOpenVPN.DataKeys
import SingOpenVPN.SessionRegistry
import SingOpenVPN.TransitionSystem
import SingOpenVPN.UDPPeerConnection

/-!
# Floating of UDP sessions (`peer_data.go`, `control_channel.go`, `server_tls.go`)

A client that changes its address keeps its session: a data packet from another
address that one of the session's keys decodes moves the session there.  The reader
of a session takes a batch of datagrams off the queue and handles them one by one,
while the source address is noted once for the batch.

The state is that of all sessions of a server and their registry; a step is a read
of a batch, the handling of one datagram of it, datagrams that arrive, a change of
keys or any operation on the registry, in any order and by any session.  It is shown
that an address changes only to the source of a datagram that was decoded, and what
is bound to the session then (`udp_float_sound`).

Decoding a packet and floating are one step here.  An operation on the registry
between the two reads and writes nothing that decoding does, and a change of keys
(`confirmDataKey` may make one) nothing that the float does, so the first can be
moved before the decoding and the second behind the float.  What the reader does with
control packets and with the decoded payload does not concern the addresses.
-/

namespace SingOpenVPN

open TransitionSystem List UDPPeerConnection

/-! ### The state -/

structure FloatPeer where
  connection : UDPPeerConnection
  /-- The datagrams of the last read that are still to be handled. -/
  batch : List UDPPeerPacket
  dataKeys : DataKeys
  /-- The codec objects of the session's keys. -/
  codecs : ObjectID → Option DataCodec
  /-- `authenticatedDataPacketObserver` is set. -/
  observed : Bool
  /-- Every datagram that was ever queued for the session. -/
  received : List UDPPeerPacket

namespace FloatPeer

def new : FloatPeer where
  connection := .new
  batch := []
  dataKeys := .empty
  codecs := fun _ => none
  observed := false
  received := []

/-- `selectReceiveCodec` drops the keys that have expired. -/
def dropExpired (peer : FloatPeer) (keyID : UInt8) (now : Time) : FloatPeer :=
  { peer with dataKeys := (peer.dataKeys.selectReceiveCodec keyID now).2 }

def storeCodec (peer : FloatPeer) (codec : ObjectID) (object : DataCodec) : FloatPeer :=
  { peer with codecs := Function.update peer.codecs codec (some object) }

/-- The codec object `selectReceiveCodec` returns for a key id. -/
def selectedCodec (peer : FloatPeer) (keyID : UInt8) (now : Time) :
    Option (ObjectID × DataCodec) := do
  let codec ← (peer.dataKeys.selectReceiveCodec keyID now).1
  let object ← peer.codecs codec
  return (codec, object)

end FloatPeer

structure FloatServer where
  registry : SessionRegistry
  peers : Nat → FloatPeer

def aadPrefixOf (packet : Packet) : Bytes :=
  if packet.opcode = .dataV2 then packet.headerByte :: packet.peerID.toList else []

variable (s : FloatServer)

namespace FloatServer

def setPeer (session : Nat) (peer : FloatPeer) : FloatServer :=
  { s with peers := Function.update s.peers session peer }

def closePeer (session : Nat) : FloatServer :=
  s.setPeer session
    { s.peers session with connection := (s.peers session).connection.close }

def remoteAddress (session : Nat) : Option NetAddr :=
  (s.registry.sessions session).remoteAddress

section Handling

variable (crypto : DataPrimitives) (text : NetAddr → String)

def floatAuthenticatedUDPPeer (session : Nat) : FloatServer :=
  match (s.peers session).connection.floatCandidateAddress text (s.remoteAddress session) with
  | none => s
  | some sourceAddress =>
    match s.registry.floatUDPSessionToSource text session sourceAddress.netAddr with
    | none => s
    | some (displaced, registry) =>
      let floated := { s with registry := registry }
      match displaced with
      | none => floated
      | some existing => floated.closePeer existing

/-- One round of the loop of `handleIncomingDataPackets`.  `now` is the time of the
key selection, `checked` and `arrival` are the times the replay window reads. -/
def handleIncomingDataPacket (session : Nat) (packet : Packet)
    (now checked arrival : Time) : FloatServer :=
  let peer := (s.peers session).dropExpired packet.keyID now
  match (s.peers session).selectedCodec packet.keyID now with
  | none => s.setPeer session peer
  | some (codec, object) =>
    let decoded := object.decodeBuffer crypto (aadPrefixOf packet) packet.payload checked arrival
    let after := s.setPeer session (peer.storeCodec codec decoded.2)
    match decoded.1 with
    | .error _ => after
    | .ok _ => if peer.observed then after.floatAuthenticatedUDPPeer text session else after

def handleNext (session : Nat) (now checked arrival : Time) :
    Option FloatServer :=
  match (s.peers session).batch with
  | [] => none
  | datagram :: rest =>
    let s := s.setPeer session { s.peers session with batch := rest }
    match parsePacketView datagram.buffer with
    | .error _ => some s
    | .ok packet =>
      if packet.opcode.isData then
        some (s.handleIncomingDataPacket crypto text session packet now checked arrival)
      else some s

end Handling

end FloatServer

/-! ### Steps -/

inductive KeyOperation where
  | installInitial (codec : ObjectID) (keyID : UInt8) (manager : ObjectID)
  | install (codec : ObjectID) (keyID : UInt8) (manager : ObjectID) (sequence : Nat)
      (promote : Bool) (now : Time)
  | discard (keyID : UInt8) (sequence : Nat)

def DataKeys.operate (keys : DataKeys) : KeyOperation → DataKeys
  | .installInitial codec keyID manager => installInitialDataCodec codec keyID manager
  | .install codec keyID manager sequence promote now =>
    keys.installDataKeyState codec keyID manager sequence promote now
  | .discard keyID sequence => keys.discardDataKeyState keyID sequence

inductive FloatEvent where
  /-- `newUDPSession` -/
  | newSession (remoteAddress : PeerAddress) (remoteSessionID : SessionID)
  | registry (operation : SessionRegistry.Operation)
  /-- `setAuthenticatedDataPacketObserver` -/
  | observe (session : Nat)
  /-- `newTLSDataCodec` made a codec. -/
  | newCodec (session : Nat) (codec : ObjectID) (object : DataCodec)
  | keys (session : Nat) (operation : KeyOperation)
  /-- The listener queues datagrams for the session. -/
  | deliver (session : Nat) (packets : List UDPPeerPacket)
  /-- The reader takes a batch of at most `max` datagrams. -/
  | read (session : Nat) (max : Nat)
  /-- The reader handles the next datagram of its batch. -/
  | handle (session : Nat) (now checked arrival : Time)
  /-- The reader returns without handling the rest of its batch. -/
  | stop (session : Nat)
  | close (session : Nat)

def FloatEvent.session : FloatEvent → Option Nat
  | newSession _ _ => none
  | registry operation => some operation.session
  | observe session | newCodec session _ _ | keys session _
  | deliver session _ | read session _ | handle session _ _ _ | stop session | close session =>
    some session

namespace FloatServer

structure Initial (s : FloatServer) : Prop where
  created : s.registry.created = 0
  remoteAddress : ∀ session, s.remoteAddress session = none
  bound : s.registry.udpSessionByAddress = ∅
  peers : ∀ session, s.peers session = .new

def addSession (remoteAddress : PeerAddress) (remoteSessionID : SessionID) :
    FloatServer where
  registry := s.registry.addSession remoteSessionID (some remoteAddress.netAddr)
  peers := Function.update s.peers s.registry.created .new

variable (crypto : DataPrimitives) (text : NetAddr → String)

def react : FloatEvent → Option FloatServer
  | .newSession remoteAddress remoteSessionID => some (s.addSession remoteAddress remoteSessionID)
  | .registry operation => some { s with registry := s.registry.operate text operation }
  | .observe session => some (s.setPeer session { s.peers session with observed := true })
  | .newCodec session codec object =>
    if ((s.peers session).codecs codec).isNone then
      some (s.setPeer session ((s.peers session).storeCodec codec object))
    else none
  | .keys session operation =>
    some (s.setPeer session { s.peers session with
      dataKeys := (s.peers session).dataKeys.operate operation })
  | .deliver session packets =>
    some (s.setPeer session { s.peers session with
      connection := (s.peers session).connection.pushPackets packets
      received := (s.peers session).received ++ packets })
  | .read session max =>
    if (s.peers session).batch = [] then
      ((s.peers session).connection.readPackets text max).map fun batch =>
        s.setPeer session { s.peers session with batch := batch.1, connection := batch.2 }
    else none
  | .handle session now checked arrival => s.handleNext crypto text session now checked arrival
  | .stop session => some (s.setPeer session { s.peers session with batch := [] })
  | .close session => some (s.closePeer session)

/-- Only sessions that were created act. -/
def step (event : FloatEvent) : Option FloatServer :=
  if event.session.all (· < s.registry.created) then s.react crypto text event else none

end FloatServer

def floatSystem (crypto : DataPrimitives) (text : NetAddr → String) :
    System FloatServer FloatEvent where
  initial := FloatServer.Initial
  step := fun s event => s.step crypto text event

/-! ### The invariant -/

/-- What is in front of the reader was received, and a batch has the source its read
noted. -/
structure FloatPeer.Invariant (peer : FloatPeer) : Prop where
  queued : ∀ packet ∈ peer.connection.incomingPackets.contents, packet ∈ peer.received
  batch : ∀ packet ∈ peer.batch, packet ∈ peer.received
  source : ∀ packet ∈ peer.batch, ∃ readAddress, peer.connection.readAddress = some readAddress ∧
    readAddress.address.Same packet.remoteAddress.address

namespace FloatPeer.Invariant

theorem new : FloatPeer.new.Invariant where
  queued packet hpacket := by cases hpacket
  batch packet hpacket := by cases hpacket
  source packet hpacket := by cases hpacket

variable {peer : FloatPeer}

theorem of_eq {peer' : FloatPeer} (h : peer.Invariant)
    (hconnection : peer'.connection = peer.connection)
    (hbatch : peer'.batch = peer.batch) (hreceived : peer'.received = peer.received) :
    peer'.Invariant := by
  constructor
  · rw [hconnection, hreceived]
    exact h.queued
  · rw [hbatch, hreceived]
    exact h.batch
  · rw [hbatch, hconnection]
    exact h.source

theorem close (h : peer.Invariant) :
    ({ peer with connection := peer.connection.close } : FloatPeer).Invariant where
  queued packet hpacket := by
    rw [contents_close] at hpacket
    cases hpacket
  batch := h.batch
  source := h.source

theorem deliver (h : peer.Invariant) (packets : List UDPPeerPacket) :
    ({ peer with
      connection := peer.connection.pushPackets packets
      received := peer.received ++ packets } : FloatPeer).Invariant where
  queued packet hpacket := by
    rcases mem_contents_pushPackets hpacket with hqueued | hnew
    · exact mem_append_left _ (h.queued packet hqueued)
    · exact mem_append_right _ hnew
  batch packet hpacket := mem_append_left _ (h.batch packet hpacket)
  source packet hpacket := by
    rw [readAddress_pushPackets]
    exact h.source packet hpacket

theorem read (h : peer.Invariant) {text : NetAddr → String} {max : Nat}
    {packets : List UDPPeerPacket} {connection : UDPPeerConnection}
    (hread : peer.connection.readPackets text max = some (packets, connection)) :
    ({ peer with batch := packets, connection := connection } : FloatPeer).Invariant := by
  obtain ⟨⟨readAddress, hreadAddress, hsource⟩, hcontents⟩ :=
    readPackets_eq_some hread
  have hqueued := h.queued
  rw [hcontents] at hqueued
  exact {
    queued := fun packet hpacket => hqueued packet (mem_append_right _ hpacket)
    batch := fun packet hpacket => hqueued packet (mem_append_left _ hpacket)
    source := fun packet hpacket => ⟨readAddress, hreadAddress, hsource packet hpacket⟩ }

theorem dropBatch (h : peer.Invariant) {rest : List UDPPeerPacket} (hrest : rest ⊆ peer.batch) :
    ({ peer with batch := rest } : FloatPeer).Invariant where
  queued := h.queued
  batch packet hpacket := h.batch packet (hrest hpacket)
  source packet hpacket := h.source packet (hrest hpacket)

end FloatPeer.Invariant

/-- Every session sends to an address the listener reported, and what is bound to a
session is the address it sends to. -/
structure FloatServer.Invariant (text : NetAddr → String) (s : FloatServer) : Prop where
  peers : ∀ session, (s.peers session).Invariant
  remote : ∀ session < s.registry.created, ∃ peer : PeerAddress,
    s.remoteAddress session = some peer.netAddr
  uncreated : ∀ session, s.registry.created ≤ session → s.remoteAddress session = none
  bound : ∀ key session, s.registry.udpSessionByAddress.lookup key = some session →
    ∃ address, s.remoteAddress session = some address ∧ key = text address

/-! ### What handling a datagram does -/

namespace FloatServer

@[simp] theorem peers_setPeer_self (session : Nat) (peer : FloatPeer) :
    (s.setPeer session peer).peers session = peer := Function.update_self ..

@[simp] theorem setPeer_setPeer (session : Nat) (peer peer' : FloatPeer) :
    (s.setPeer session peer).setPeer session peer' = s.setPeer session peer' := by
  simp [setPeer]

variable {event : FloatEvent} {s s' : FloatServer} {session : Nat} {arrival checked now : Time}

theorem invariant_setPeer (h : ∀ session, (s.peers session).Invariant) (session : Nat)
    {peer : FloatPeer} (hpeer : peer.Invariant) :
    ∀ other, ((s.setPeer session peer).peers other).Invariant := by
  intro other
  unfold setPeer
  dsimp only
  by_cases hother : other = session
  · subst hother
    rwa [Function.update_self]
  · rw [Function.update_of_ne hother]
    exact h other

variable {crypto : DataPrimitives} {text : NetAddr → String}

theorem floatAuthenticatedUDPPeer_cases (text : NetAddr → String) (s : FloatServer)
    (session : Nat) :
    s.floatAuthenticatedUDPPeer text session = s ∨
    ∃ source displaced,
      (s.peers session).connection.floatCandidateAddress text (s.remoteAddress session) =
        some source ∧
      s.registry.floatUDPSessionToSource text session source.netAddr =
        some (displaced, (s.floatAuthenticatedUDPPeer text session).registry) ∧
      ((s.floatAuthenticatedUDPPeer text session).peers = s.peers ∨
        ∃ existing, (s.floatAuthenticatedUDPPeer text session).peers =
          (s.closePeer existing).peers) := by
  unfold floatAuthenticatedUDPPeer
  split
  · exact .inl rfl
  next source hsource =>
  split
  · exact .inl rfl
  next displaced registry hfloat =>
  refine .inr ⟨source, displaced, hsource, ?_⟩
  cases displaced with
  | none => exact ⟨hfloat, .inl rfl⟩
  | some existing => exact ⟨hfloat, .inr ⟨existing, rfl⟩⟩

/-- Two states of a session that its reader cannot tell apart. -/
structure SameReader (peer peer' : FloatPeer) : Prop where
  connection : peer'.connection = peer.connection
  batch : peer'.batch = peer.batch
  received : peer'.received = peer.received

theorem handleIncomingDataPacket_cases (crypto : DataPrimitives) (text : NetAddr → String)
    (s : FloatServer) (session : Nat) (packet : Packet) (now checked arrival : Time) :
    ∃ peer, SameReader (s.peers session) peer ∧
      (s.handleIncomingDataPacket crypto text session packet now checked arrival =
          s.setPeer session peer ∨
        ∃ codec object decoded,
          (s.peers session).selectedCodec packet.keyID now = some (codec, object) ∧
          (object.decodeBuffer crypto (aadPrefixOf packet) packet.payload checked arrival).1 =
            .ok decoded ∧
          s.handleIncomingDataPacket crypto text session packet now checked arrival =
            (s.setPeer session peer).floatAuthenticatedUDPPeer text session) := by
  unfold handleIncomingDataPacket
  dsimp only
  split
  · exact ⟨(s.peers session).dropExpired packet.keyID now, ⟨rfl, rfl, rfl⟩, .inl rfl⟩
  next codec object hselected =>
  refine ⟨((s.peers session).dropExpired packet.keyID now).storeCodec codec
    (object.decodeBuffer crypto (aadPrefixOf packet) packet.payload checked arrival).2,
    ⟨rfl, rfl, rfl⟩, ?_⟩
  split
  · exact .inl rfl
  next decoded hdecoded =>
  split
  · exact .inr ⟨codec, object, decoded, hselected, hdecoded, rfl⟩
  · exact .inl rfl

theorem handleNext_cases (h : s.handleNext crypto text session now checked arrival = some s') :
    ∃ datagram rest peer, (s.peers session).batch = datagram :: rest ∧
      SameReader { s.peers session with batch := rest } peer ∧
      (s' = s.setPeer session peer ∨
        ∃ packet codec object decoded, parsePacketView datagram.buffer = .ok packet ∧
          packet.opcode.isData = true ∧
          (s.peers session).selectedCodec packet.keyID now = some (codec, object) ∧
          (object.decodeBuffer crypto (aadPrefixOf packet) packet.payload checked arrival).1 =
            .ok decoded ∧
          s' = (s.setPeer session peer).floatAuthenticatedUDPPeer text session) := by
  unfold handleNext at h
  split at h
  · cases h
  next datagram rest hbatch =>
  have hdropped : SameReader { s.peers session with batch := rest }
      { s.peers session with batch := rest } := ⟨rfl, rfl, rfl⟩
  split at h
  · cases h
    exact ⟨datagram, rest, _, hbatch, hdropped, .inl rfl⟩
  next packet hparse =>
  split at h
  · next hdata =>
    obtain ⟨peer, hreader, hcases⟩ := handleIncomingDataPacket_cases crypto text
      (s.setPeer session { s.peers session with batch := rest }) session packet now checked arrival
    rw [Option.some.inj h, setPeer_setPeer, peers_setPeer_self] at hcases
    rw [peers_setPeer_self] at hreader
    refine ⟨datagram, rest, peer, hbatch, hreader, hcases.imp_right ?_⟩
    rintro ⟨codec, object, decoded, hselected, hdecoded, hfloat⟩
    exact ⟨packet, codec, object, decoded, hparse, hdata, hselected, hdecoded, hfloat⟩
  · cases h
    exact ⟨datagram, rest, _, hbatch, hdropped, .inl rfl⟩

/-- The reader of a session handles a datagram that takes the session to `source`. -/
structure Floats (crypto : DataPrimitives) (text : NetAddr → String) (s s' : FloatServer)
    (session : Nat) (now checked arrival : Time) (datagram : UDPPeerPacket) (packet : Packet)
    (object : DataCodec) (source : PeerAddress) : Prop where
  next : (s.peers session).batch.head? = some datagram
  parsed : parsePacketView datagram.buffer = .ok packet
  data : packet.opcode.isData = true
  selected : ∃ codec, (s.peers session).selectedCodec packet.keyID now = some (codec, object)
  decoded : ∃ decoded, (object.decodeBuffer crypto (aadPrefixOf packet) packet.payload checked
    arrival).1 = .ok decoded
  candidate : (s.peers session).connection.floatCandidateAddress text (s.remoteAddress session) =
    some source
  registry : ∃ displaced, s.registry.floatUDPSessionToSource text session source.netAddr =
    some (displaced, s'.registry)

theorem handleNext_registry (h : s.handleNext crypto text session now checked arrival = some s') :
    s'.registry = s.registry ∨ ∃ datagram packet object source,
      Floats crypto text s s' session now checked arrival datagram packet object source := by
  obtain ⟨datagram, rest, peer, hbatch, hreader, rfl | hfloat⟩ := handleNext_cases h
  · exact .inl rfl
  obtain ⟨packet, codec, object, decoded, hparsed, hdata, hselected, hdecoded, rfl⟩ := hfloat
  rcases floatAuthenticatedUDPPeer_cases text (s.setPeer session peer) session with
    hsame | ⟨source, displaced, hcandidate, hregistry, -⟩
  · rw [hsame]
    exact .inl rfl
  · rw [peers_setPeer_self, hreader.connection] at hcandidate
    exact .inr ⟨datagram, packet, object, source, {
      next := by rw [hbatch, List.head?_cons]
      parsed := hparsed
      data := hdata
      selected := ⟨codec, hselected⟩
      decoded := ⟨decoded, hdecoded⟩
      candidate := hcandidate
      registry := ⟨displaced, hregistry⟩ }⟩

/-- **What a step does to the addresses**: it makes a session, leaves every session
where it is, or is a float. -/
theorem react_registry (h : s.react crypto text event = some s') :
    (∃ address remoteSessionID, s' = s.addSession address remoteSessionID) ∨
    s.registry.KeepsAddresses text s'.registry ∨
    ∃ session now checked arrival datagram packet object source,
      event = .handle session now checked arrival ∧
      Floats crypto text s s' session now checked arrival datagram packet object source := by
  cases event with
  | newSession address remoteSessionID =>
    cases h
    exact .inl ⟨address, remoteSessionID, rfl⟩
  | registry operation =>
    cases h
    exact .inr (.inl (.operate s.registry operation))
  | handle session now checked arrival =>
    rcases handleNext_registry h with hsame | ⟨datagram, packet, object, source, hfloats⟩
    · rw [hsame]
      exact .inr (.inl (.refl _))
    · exact .inr (.inr ⟨session, now, checked, arrival, datagram, packet, object, source, rfl,
        hfloats⟩)
  | newCodec session codec object =>
    simp only [react] at h
    split at h
    · cases h
      exact .inr (.inl (.refl _))
    · cases h
  | read session max =>
    simp only [react] at h
    split at h
    · obtain ⟨batch, -, rfl⟩ := Option.map_eq_some_iff.mp h
      exact .inr (.inl (.refl _))
    · cases h
  | observe session | keys session operation | deliver session packets | stop session
  | close session =>
    cases h
    exact .inr (.inl (.refl _))

theorem react_peers (hpeers : ∀ session, (s.peers session).Invariant)
    (h : s.react crypto text event = some s') :
    ∀ session, (s'.peers session).Invariant := by
  cases event with
  | newSession address remoteSessionID =>
    cases h
    exact invariant_setPeer hpeers s.registry.created .new
  | registry operation =>
    cases h
    exact hpeers
  | observe session | keys session operation =>
    cases h
    exact invariant_setPeer hpeers session ((hpeers session).of_eq rfl rfl rfl)
  | newCodec session codec object =>
    simp only [react] at h
    split at h
    · cases h
      exact invariant_setPeer hpeers session ((hpeers session).of_eq rfl rfl rfl)
    · cases h
  | deliver session packets =>
    cases h
    exact invariant_setPeer hpeers session ((hpeers session).deliver packets)
  | read session max =>
    simp only [react] at h
    split at h
    · obtain ⟨⟨packets, connection⟩, hread, rfl⟩ := Option.map_eq_some_iff.mp h
      exact invariant_setPeer hpeers session ((hpeers session).read hread)
    · cases h
  | stop session =>
    cases h
    exact invariant_setPeer hpeers session ((hpeers session).dropBatch (nil_subset _))
  | close session =>
    cases h
    exact invariant_setPeer hpeers session (hpeers session).close
  | handle session now checked arrival =>
    obtain ⟨datagram, rest, peer, hbatch, hreader, hcases⟩ := handleNext_cases h
    have hrest : rest ⊆ (s.peers session).batch := by
      rw [hbatch]
      exact subset_cons_self _ _
    have hpeer : peer.Invariant := ((hpeers session).dropBatch hrest).of_eq hreader.connection
      hreader.batch hreader.received
    have hset := invariant_setPeer hpeers session hpeer
    rcases hcases with rfl | ⟨packet, codec, object, decoded, -, -, -, -, rfl⟩
    · exact hset
    rcases floatAuthenticatedUDPPeer_cases text (s.setPeer session peer) session with
      hsame | ⟨-, -, -, -, hsame | ⟨existing, hclosed⟩⟩
    · rw [hsame]
      exact hset
    · rw [hsame]
      exact hset
    · rw [hclosed]
      exact invariant_setPeer hset existing (hset existing).close

/-! ### Every run -/

theorem Floats.floatedTo {datagram : UDPPeerPacket} {packet : Packet} {object : DataCodec}
    {source : PeerAddress}
    (h : Floats crypto text s s' session now checked arrival datagram packet object source) :
    s.registry.FloatedTo text s'.registry session source.netAddr := by
  obtain ⟨displaced, hregistry⟩ := h.registry
  exact SessionRegistry.floatedTo_of_floatUDPSessionToSource hregistry

theorem invariant_of_initial (h : s.Initial) : s.Invariant text where
  peers session := by
    rw [h.peers session]
    exact .new
  remote session hsession := by
    rw [h.created] at hsession
    exact absurd hsession (Nat.not_lt_zero _)
  uncreated session _ := h.remoteAddress session
  bound key session hbound := by
    rw [h.bound, AList.lookup_empty] at hbound
    cases hbound

theorem Invariant.addSession (h : s.Invariant text) (address : PeerAddress)
    (remoteSessionID : SessionID) : (s.addSession address remoteSessionID).Invariant text := by
  have hnew : (s.addSession address remoteSessionID).remoteAddress s.registry.created =
      some address.netAddr := by
    simp [remoteAddress, FloatServer.addSession, SessionRegistry.addSession]
  have hold : ∀ session, session ≠ s.registry.created →
      (s.addSession address remoteSessionID).remoteAddress session = s.remoteAddress session := by
    intro session hne
    simp [remoteAddress, FloatServer.addSession, SessionRegistry.addSession,
      Function.update_of_ne hne]
  constructor
  · exact invariant_setPeer h.peers s.registry.created .new
  · intro session hsession
    rcases Nat.lt_succ_iff_lt_or_eq.mp hsession with hlt | rfl
    · rw [hold session hlt.ne]
      exact h.remote session hlt
    · exact ⟨address, hnew⟩
  · intro session hsession
    rw [hold session (ne_of_gt hsession)]
    exact h.uncreated session (Nat.le_of_succ_le hsession)
  · intro key session hbound
    obtain ⟨bound, hremote, hkey⟩ := h.bound key session hbound
    refine ⟨bound, ?_, hkey⟩
    rw [hold session ?_, hremote]
    rintro rfl
    rw [h.uncreated _ (le_refl _)] at hremote
    cases hremote

theorem Invariant.keeps (h : s.Invariant text) (hpeers : ∀ session, (s'.peers session).Invariant)
    (hkeeps : s.registry.KeepsAddresses text s'.registry) : s'.Invariant text where
  peers := hpeers
  remote session hsession := by
    rw [remoteAddress, hkeeps.remoteAddress]
    exact h.remote session (hkeeps.created ▸ hsession)
  uncreated session hsession := by
    rw [remoteAddress, hkeeps.remoteAddress]
    exact h.uncreated session (hkeeps.created ▸ hsession)
  bound key session hbound := by
    rw [remoteAddress, hkeeps.remoteAddress]
    rcases hkeeps.bound key session hbound with hbefore | hnew
    · exact h.bound key session hbefore
    · exact hnew

theorem Invariant.floated (h : s.Invariant text) (hpeers : ∀ session, (s'.peers session).Invariant)
    {source : PeerAddress} (hsession : session < s.registry.created)
    (hfloated : s.registry.FloatedTo text s'.registry session source.netAddr) :
    s'.Invariant text := by
  constructor
  · exact hpeers
  · intro other hother
    by_cases heq : other = session
    · subst heq
      exact ⟨source, hfloated.remoteAddress⟩
    · rw [remoteAddress, hfloated.others other heq]
      exact h.remote other (hfloated.created ▸ hother)
  · intro other hother
    rw [hfloated.created] at hother
    rw [remoteAddress, hfloated.others other (by omega)]
    exact h.uncreated other hother
  · intro key other hbound
    by_cases heq : other = session
    · subst heq
      exact ⟨source.netAddr, hfloated.remoteAddress, (hfloated.bound key).mp hbound⟩
    · rw [remoteAddress, hfloated.others other heq]
      exact h.bound key other (hfloated.boundOthers key other heq hbound)

/-- **Every step keeps the invariant.** -/
theorem Invariant.step (h : s.Invariant text) (hstep : s.step crypto text event = some s') :
    s'.Invariant text := by
  unfold FloatServer.step at hstep
  split at hstep
  · next hcreated =>
    have hpeers := react_peers h.peers hstep
    rcases react_registry hstep with ⟨address, remoteSessionID, rfl⟩ | hkeeps |
      ⟨session, now, checked, arrival, datagram, packet, object, source, rfl, hfloats⟩
    · exact h.addSession address remoteSessionID
    · exact h.keeps hpeers hkeeps
    · have hsession : session < s.registry.created := by simpa [FloatEvent.session] using hcreated
      exact h.floated hpeers hsession hfloats.floatedTo
  · cases hstep

theorem invariant_of_reachable (h : Reachable (floatSystem crypto text) s) :
    s.Invariant text :=
  h.invariant (fun _ hinitial => invariant_of_initial hinitial)
    fun _ _ _ hinvariant _ hstep => hinvariant.step hstep

end FloatServer

/-! ### Floats are sound -/

/-- A key the session can receive with decodes the data packet of the datagram: the
packet authenticates if the key's codec has a tag or a MAC to check, and it passes the
replay check of that codec. -/
structure FloatPeer.Accepts (crypto : DataPrimitives) (peer : FloatPeer)
    (now checked arrival : Time)
    (datagram : UDPPeerPacket) (packet : Packet) (object : DataCodec) : Prop where
  parsed : parsePacketView datagram.buffer = .ok packet
  data : packet.opcode.isData = true
  key : ∃ entry ∈ peer.dataKeys.receiveCodecs, entry.keyID = packet.keyID ∧
    entry.expired now = false ∧ peer.codecs entry.codec = some object
  authenticated : object.authenticates = true →
    object.Authenticated crypto (aadPrefixOf packet) packet.payload
  fresh : ∃ packetID timestamp plaintext,
    object.openPacket crypto (aadPrefixOf packet) packet.payload =
      .ok (packetID, timestamp, plaintext) ∧
    (object.checkReplay packetID timestamp checked arrival).1 = true

theorem FloatPeer.selectedCodec_eq_some {peer : FloatPeer} {keyID : UInt8} {now : Time}
    {codec : ObjectID} {object : DataCodec}
    (h : peer.selectedCodec keyID now = some (codec, object)) :
    ∃ entry ∈ peer.dataKeys.receiveCodecs, entry.keyID = keyID ∧ entry.expired now = false ∧
      peer.codecs entry.codec = some object := by
  obtain ⟨selected, hselected, h⟩ := Option.bind_eq_some_iff.mp h
  obtain ⟨found, hfound, h⟩ := Option.bind_eq_some_iff.mp h
  cases h
  obtain ⟨entry, hlast, rfl⟩ := Option.map_eq_some_iff.mp hselected
  obtain ⟨hretained, hkeyID⟩ := mem_filter.mp (mem_of_getLast? hlast)
  obtain ⟨hmem, hexpired⟩ := mem_filter.mp hretained
  exact ⟨entry, hmem, by simpa using hkeyID, by simpa using hexpired, hfound⟩

theorem FloatServer.Floats.accepts {crypto : DataPrimitives} {text : NetAddr → String}
    {s s' : FloatServer} {session : Nat} {now checked arrival : Time} {datagram : UDPPeerPacket}
    {packet : Packet} {object : DataCodec} {source : PeerAddress}
    (h : Floats crypto text s s' session now checked arrival datagram packet object source) :
    (s.peers session).Accepts crypto now checked arrival datagram packet object := by
  obtain ⟨codec, hselected⟩ := h.selected
  obtain ⟨⟨packetID, plaintext⟩, hdecoded⟩ := h.decoded
  obtain ⟨timestamp, hopened, hfresh⟩ := DataCodec.decodeBuffer_eq_ok.mp hdecoded
  exact {
    parsed := h.parsed
    data := h.data
    key := FloatPeer.selectedCodec_eq_some hselected
    authenticated := DataCodec.authenticated_of_openPacket hopened
    fresh := ⟨packetID, timestamp, plaintext, hopened, hfresh⟩ }

/-- **UDP floats are sound.**  In every reachable state a session is bound to no other
address than the one it sends to.  A step changes the address a session sends to only
if its reader handles a datagram that was received for the session and that one of its
receive keys accepts; the new address is the source of that datagram, and then the
session is bound to exactly that address and no longer to the one before. -/
theorem udp_float_sound (crypto : DataPrimitives) (text : NetAddr → String)
    (htext : ∀ left right : PeerAddress, text left.netAddr = text right.netAddr →
      left.address.Same right.address)
    {s s' : FloatServer} {event : FloatEvent} (hreachable : Reachable (floatSystem crypto text) s)
    (hstep : (floatSystem crypto text).step s event = some s') {session : Nat}
    (hsession : session < s.registry.created) :
    (∀ key, s.registry.udpSessionByAddress.lookup key = some session →
      ∃ address, s.remoteAddress session = some address ∧ key = text address) ∧
    (s'.remoteAddress session ≠ s.remoteAddress session →
      ∃ (now checked arrival : Time) (datagram : UDPPeerPacket) (packet : Packet)
        (object : DataCodec) (old new : PeerAddress),
        event = .handle session now checked arrival ∧
        (s.peers session).batch.head? = some datagram ∧
        datagram ∈ (s.peers session).received ∧
        (s.peers session).Accepts crypto now checked arrival datagram packet object ∧
        s.remoteAddress session = some old.netAddr ∧
        s'.remoteAddress session = some new.netAddr ∧
        new.address.Same datagram.remoteAddress.address ∧
        ¬ new.address.Same old.address ∧
        (∀ key, s'.registry.udpSessionByAddress.lookup key = some session ↔
          key = text new.netAddr) ∧
        s'.registry.udpSessionByAddress.lookup (text old.netAddr) ≠ some session) := by
  have hinvariant := FloatServer.invariant_of_reachable hreachable
  refine ⟨fun key => hinvariant.bound key session, fun hchanged => ?_⟩
  obtain ⟨old, hold⟩ := hinvariant.remote session hsession
  have hreact : s.react crypto text event = some s' := by
    have hstep : s.step crypto text event = some s' := hstep
    unfold FloatServer.step at hstep
    split at hstep
    · exact hstep
    · cases hstep
  rcases FloatServer.react_registry hreact with ⟨address, remoteSessionID, rfl⟩ | hkeeps |
    ⟨moved, now, checked, arrival, datagram, packet, object, source, rfl, hfloats⟩
  · -- a new session is another one
    refine absurd ?_ hchanged
    simp [FloatServer.remoteAddress, FloatServer.addSession, SessionRegistry.addSession,
      Function.update_of_ne hsession.ne]
  · exact absurd (hkeeps.remoteAddress session) hchanged
  · have hfloated := hfloats.floatedTo
    have hmoved : moved = session := by
      by_contra hne
      exact hchanged (hfloated.others session (Ne.symm hne))
    subst hmoved
    -- the candidate is the source of the whole batch, so of this datagram
    obtain ⟨hread, hdiffers⟩ :=
      UDPPeerConnection.floatCandidateAddress_eq_some hfloats.candidate
    have hmem := mem_of_head? hfloats.next
    obtain ⟨readAddress, hreadAddress, hsource⟩ := (hinvariant.peers moved).source datagram hmem
    obtain rfl : source = readAddress := Option.some.inj (hread.symm.trans hreadAddress)
    have hother : ¬ source.address.Same old.address := by
      rw [hold] at hdiffers
      intro hsame
      rw [(equalPacketSource_iff text source old).mpr hsame] at hdiffers
      cases hdiffers
    refine ⟨now, checked, arrival, datagram, packet, object, old, source, rfl, hfloats.next,
      (hinvariant.peers moved).batch datagram hmem, hfloats.accepts, hold, hfloated.remoteAddress,
      hsource, hother, hfloated.bound, fun hbound => ?_⟩
    exact hother (htext source old ((hfloated.bound _).mp hbound).symm)

section Examples

/-- An AEAD cipher whose tag is the front of its key. -/
def keyTagAEAD (cipherKey : Bytes) : AEAD where
  sealPayload _ plaintext _ := plaintext ++ (cipherKey ++ List.replicate 16 0).take 16
  openSealed _ ciphertext _ :=
    if ciphertext.drop (ciphertext.length - 16) = (cipherKey ++ List.replicate 16 0).take 16 then
      .ok (ciphertext.take (ciphertext.length - 16))
    else .error "message authentication failed"
  length_sealPayload _ plaintext _ := by simp
  openSealed_sealPayload _ plaintext _ := by simp

def keyTagPrimitives : DataPrimitives where
  hmac hash key message := (key ++ message ++ List.replicate hash.size 0).take hash.size
  newCipher _ _ := none
  length_hmac hash key message := by
    rw [List.length_take, List.length_append, List.length_replicate]
    omega
  newGCM _ := .error "unsupported"
  newChaCha20Poly1305 cipherKey := .ok (keyTagAEAD cipherKey)

/-- A ChaCha20-Poly1305 codec of both roles; its keys are made of sevens. -/
def sevensCodec : DataCodec := .gcm {
  sendAEAD := keyTagAEAD (List.replicate 32 7)
  sendIVSuffix := List.replicate 8 7
  receiveAEAD := keyTagAEAD (List.replicate 32 7)
  receiveIVSuffix := List.replicate 8 7
  replayWindow := newReplayWindow defaultReplayWindowSize defaultReplayWindowTime
  length_sendIVSuffix := rfl
  length_receiveIVSuffix := rfl }

def noneCodec : DataCodec := .cbc {
  sendCipherBlock := none
  sendHMACKey := []
  receiveCipher := none
  receiveHMACKey := []
  hash := none
  replayWindow := newReplayWindow defaultReplayWindowSize defaultReplayWindowTime }

theorem newTLSDataCodec_none (crypto : DataPrimitives) {keyMaterial : Bytes}
    (h : 256 ≤ keyMaterial.length) (timestamp : UInt32) :
    newTLSDataCodec crypto keyMaterial true "NONE" "NONE" 0 0 timestamp = .ok noneCodec := by
  have hstream : tlsStreamCipherSpec "NONE" = .error "unsupported tls stream cipher" := by rfl
  have hkey : ¬ keyMaterial.length < 256 := Nat.not_lt.mpr h
  simp only [newTLSDataCodec, dataReplayWindowParameters, hstream, newTLSCBCDataCodec, tlsKeySlots,
    dif_neg hkey]
  rfl

def homeAddress : PeerAddress := ⟨{ ip := [192, 0, 2, 1], port := 1194, zone := [] }, .inl rfl⟩

def roamingAddress : PeerAddress :=
  ⟨{ ip := [198, 51, 100, 1], port := 1194, zone := [] }, .inl rfl⟩

def strangerAddress : PeerAddress :=
  ⟨{ ip := [203, 0, 113, 9], port := 4000, zone := [] }, .inl rfl⟩

def idleFloatServer : FloatServer where
  registry := .start
  peers _ := .new

theorem idleFloatServer_initial : idleFloatServer.Initial := ⟨rfl, fun _ => rfl, rfl, fun _ => rfl⟩

/-- A session at the home address with a peer id and one key. -/
def establish (codec : DataCodec) : List FloatEvent :=
  [.newSession homeAddress unsetSessionID, .observe 0, .registry (.register 0 true),
    .registry (.enablePeerID 0 true 1), .newCodec 0 0 codec, .keys 0 (.installInitial 0 0 0)]

/-- A P_DATA_V2 packet of peer id and key id zero. -/
def dataDatagram (source : PeerAddress) (payload : Bytes) : UDPPeerPacket :=
  { buffer := [0x48, 0, 0, 0] ++ payload, remoteAddress := source }

/-- A packet the codec of sevens encodes, with the given id and an empty payload. -/
def sevensPayload (packetID : UInt8) : Bytes := [0, 0, 0, packetID] ++ List.replicate 16 7

example : sevensCodec.encode keyTagPrimitives (fun _ => List.Vector.replicate _ 0) 2
    [0x48, 0, 0, 0] [] = .ok (sevensPayload 2) := rfl

/-- Before the last step of the run: two datagrams are handled, the third is read. -/
def roamingEvents : List FloatEvent :=
  establish sevensCodec ++
    [.deliver 0 [dataDatagram homeAddress (sevensPayload 1),
        dataDatagram strangerAddress [0, 0, 0, 2], dataDatagram roamingAddress (sevensPayload 2)],
      .read 0 dataPacketBatchSize, .handle 0 0 0 0, .read 0 dataPacketBatchSize, .handle 0 0 0 0,
      .read 0 dataPacketBatchSize]

/-- Before the last step of the run: a stranger's datagram is read. -/
def strangerEvents : List FloatEvent :=
  establish noneCodec ++
    [.deliver 0 [dataDatagram strangerAddress [0, 0, 0, 1]], .read 0 dataPacketBatchSize]

/-- Three datagrams are queued at once: one from home, one from a stranger that no key
opens, and one of the client from another address.  The session follows the client, and
afterwards it is bound to the new address only. -/
theorem udp_float_sound_roaming :
    ∃ s s', Reachable (floatSystem keyTagPrimitives NetAddr.keyText) s ∧
      (floatSystem keyTagPrimitives NetAddr.keyText).step s (.handle 0 0 0 0) = some s' ∧
      s.remoteAddress 0 = some homeAddress.netAddr ∧
      s'.remoteAddress 0 = some roamingAddress.netAddr ∧
      (∃ key, s.registry.udpSessionByAddress.lookup key = some 0) ∧
      ∀ key, s'.registry.udpSessionByAddress.lookup key = some 0 ↔
        key = NetAddr.keyText roamingAddress.netAddr := by
  obtain ⟨s, hreachable, hnext⟩ : ∃ s, Reachable (floatSystem keyTagPrimitives NetAddr.keyText) s ∧
      (s.step keyTagPrimitives NetAddr.keyText (.handle 0 0 0 0)).any (fun s' => decide
        (0 < s.registry.created ∧ s.remoteAddress 0 = some homeAddress.netAddr ∧
          s'.remoteAddress 0 = some roamingAddress.netAddr ∧
          s.registry.udpSessionByAddress.lookup (NetAddr.keyText homeAddress.netAddr) = some 0)) =
        true :=
    exists_reachableBy idleFloatServer_initial roamingEvents (by decide +kernel)
  obtain ⟨s', hstep, hfacts⟩ := (Option.any_eq_true _ _).mp hnext
  obtain ⟨hcreated, hhome, hroaming, hbound⟩ := of_decide_eq_true hfacts
  have hchanged : s'.remoteAddress 0 ≠ s.remoteAddress 0 := by
    rw [hhome, hroaming]
    decide
  obtain ⟨_, _, _, _, _, _, _, new, -, -, -, -, -, hnew, -, -, hexactly, -⟩ :=
    (udp_float_sound keyTagPrimitives NetAddr.keyText
      (fun left right => same_of_keyText_eq left.valid right.valid) hreachable hstep hcreated).2
      hchanged
  refine ⟨s, s', hreachable, hstep, hhome, hroaming, ⟨_, hbound⟩, fun key => ?_⟩
  rw [hexactly key, ← Option.some.inj (hnew.symm.trans hroaming)]

/-- Without authentication a stranger takes the session over: under `cipher NONE` and
`auth NONE` a datagram that no key of the session authenticates, and that needs none to
be written, is routed to the session by its peer id and moves it to its source. -/
theorem stranger_moves_session :
    (∀ keyMaterial : Bytes, 256 ≤ keyMaterial.length →
      newTLSDataCodec keyTagPrimitives keyMaterial true "NONE" "NONE" 0 0 0 = .ok noneCodec) ∧
    ∃ s s', Reachable (floatSystem keyTagPrimitives NetAddr.keyText) s ∧
      s.registry.routeUDPPacketLocked (dataDatagram strangerAddress [0, 0, 0, 1]).buffer
        (NetAddr.keyText strangerAddress.netAddr) = .deliver 0 ∧
      (floatSystem keyTagPrimitives NetAddr.keyText).step s (.handle 0 0 0 0) = some s' ∧
      s.remoteAddress 0 = some homeAddress.netAddr ∧
      s'.remoteAddress 0 = some strangerAddress.netAddr ∧
      ∀ entry ∈ (s.peers 0).dataKeys.receiveCodecs, ∀ object,
        (s.peers 0).codecs entry.codec = some object →
        ∀ aadPrefix payload, ¬ object.Authenticated keyTagPrimitives aadPrefix payload := by
  refine ⟨fun keyMaterial h => newTLSDataCodec_none _ h 0, ?_⟩
  obtain ⟨s, hreachable, hnext⟩ : ∃ s, Reachable (floatSystem keyTagPrimitives NetAddr.keyText) s ∧
      (s.step keyTagPrimitives NetAddr.keyText (.handle 0 0 0 0)).any (fun s' => decide
        (s.registry.routeUDPPacketLocked (dataDatagram strangerAddress [0, 0, 0, 1]).buffer
            (NetAddr.keyText strangerAddress.netAddr) = .deliver 0 ∧
          s.remoteAddress 0 = some homeAddress.netAddr ∧
          s'.remoteAddress 0 = some strangerAddress.netAddr ∧
          ∀ entry ∈ (s.peers 0).dataKeys.receiveCodecs,
            ((s.peers 0).codecs entry.codec).all (fun object => !object.authenticates) = true)) =
        true :=
    exists_reachableBy idleFloatServer_initial strangerEvents (by decide +kernel)
  obtain ⟨s', hstep, hfacts⟩ := (Option.any_eq_true _ _).mp hnext
  obtain ⟨hroute, hhome, hstranger, hcodecs⟩ := of_decide_eq_true hfacts
  refine ⟨s, s', hreachable, hroute, hstep, hhome, hstranger, ?_⟩
  intro entry hentry object hobject aadPrefix payload hauthenticated
  have hnone := hcodecs entry hentry
  rw [hobject, Option.all_some, DataCodec.authenticates_of_authenticated hauthenticated] at hnone
  cases hnone

end Examples

end SingOpenVPN
