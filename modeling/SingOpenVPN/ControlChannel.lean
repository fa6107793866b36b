import SingOpenVPN.Reliable
import SingOpenVPN.TransitionSystem

/-!
# The TLS control channel (`control_channel.go`)

A control channel turns a byte stream into reliable control packets and back.
Several goroutines share it: callers of `Write` and `Read`, the packet reader
and the sender, which retransmits and acknowledges.  Each of them holds a lock
only for one operation of the reliable layer, so the steps of `Endpoint.step`
are those operations, and any order of them is a run.

Two endpoints are joined by a link (`Link`).  What one side has put on the link
stays available to the other for ever: a packet may arrive at any time, in any
order, many times or never.
-/

namespace SingOpenVPN

open TransitionSystem

/-! ### One channel -/

def tlsControlPayloadSize : Nat := 1024
def tlsControlChannelMTU : Nat := 1250

def readChunksCapacity : Nat := 32

/-- `tlsControlChannel`, without deadlines, observers and the routing of other
    key states.  The two overheads are what `controlPacketOverhead` and
    `controlChannelDatagramOverhead` return for this channel. -/
structure ControlChannel where
  sessionManager : SessionManager
  outgoing : OutgoingReliableState
  incoming : IncomingReliableState
  handlesSoftReset : Bool
  wrappedClientKey : Bytes
  protectionOverhead : Nat
  datagramOverhead : Nat
  readChunks : List Bytes
  readRemainder : Bytes
  closed : Bool
deriving DecidableEq

def newTLSControlChannel (sessionManager : SessionManager) (handlesSoftReset : Bool)
    (wrappedClientKey : Bytes) (protectionOverhead datagramOverhead : Nat) : ControlChannel where
  sessionManager := sessionManager
  outgoing := newOutgoingReliableState
  incoming := newIncomingReliableState
  handlesSoftReset := handlesSoftReset
  wrappedClientKey := wrappedClientKey
  protectionOverhead := protectionOverhead
  datagramOverhead := datagramOverhead
  readChunks := []
  readRemainder := []
  closed := false

def acknowledgmentArrayLength (acknowledgmentCount : Nat) : Nat :=
  let acknowledgmentCount := min acknowledgmentCount maximumAcknowledgmentsPerPacket
  if acknowledgmentCount = 0 then 1 else 1 + 4 * acknowledgmentCount + 8

namespace ControlChannel

variable (c : ControlChannel)

def controlChannelFrameOverhead (acknowledgmentCount : Nat) : Nat :=
  1 + 8 + acknowledgmentArrayLength acknowledgmentCount + 4 + c.protectionOverhead +
    c.datagramOverhead

def nextPacketCarriesWrappedClientKey : Bool :=
  0 < c.wrappedClientKey.length && c.sessionManager.localControlPacketID = 1

def controlPacketWith (opcode : Opcode) (payload : Bytes)
    (acknowledgmentIDs : List PacketID) : Except SessionError (Packet × SessionManager) :=
  (c.sessionManager.newControlPacket opcode payload).map fun (packet, sessionManager) =>
    ({ packet with acknowledgmentIDs := acknowledgmentIDs }, sessionManager)

/-- What `sendInitialSoftReset` gives `InsertOutgoingPacket`. -/
def softResetPacketWith (acknowledgmentIDs : List PacketID) :
    Except SessionError (Packet × Unit) :=
  c.sessionManager.newSoftResetPacket.map fun packet =>
    ({ packet with acknowledgmentIDs := acknowledgmentIDs }, ())

def insertControlPacket (maximumAcknowledgments : Nat) (opcode : Opcode)
    (payload : Bytes) : Except SessionError (Option Packet) × ControlChannel :=
  match c.outgoing.insertOutgoingPacket maximumAcknowledgments
      (c.controlPacketWith opcode payload) with
  | (.ok (some (packet, sessionManager)), outgoing) =>
    (.ok (some packet), { c with outgoing := outgoing, sessionManager := sessionManager })
  | (.ok none, outgoing) => (.ok none, { c with outgoing := outgoing })
  | (.error err, outgoing) => (.error err, { c with outgoing := outgoing })

/-- How much of the buffer the next packet takes.  The pending count is read
    before the send buffer is locked, so it is a parameter. -/
def outgoingChunkSize (pendingAcknowledgmentCount bufferLength : Nat) : Nat :=
  let payloadSize := min tlsControlPayloadSize tlsControlChannelMTU -
    c.controlChannelFrameOverhead pendingAcknowledgmentCount
  let payloadSize :=
    if c.nextPacketCarriesWrappedClientKey then payloadSize - c.wrappedClientKey.length
    else payloadSize
  min bufferLength payloadSize

def newOutgoingControlPacket (pendingAcknowledgmentCount : Nat)
    (buffer : Bytes) : Except SessionError (Option Packet) × ControlChannel :=
  c.insertControlPacket maximumAcknowledgmentsPerPacket .controlV1
    (buffer.take (c.outgoingChunkSize pendingAcknowledgmentCount buffer.length))

/-- `newAcknowledgmentPacket`; `none` stands for its three errors. -/
def newAcknowledgmentPacket : Option Packet × ControlChannel :=
  if c.nextPacketCarriesWrappedClientKey then
    match c.insertControlPacket acknowledgmentSetCapacity .controlWKCv1 [] with
    | (.ok (some packet), c) => (some packet, c)
    | (_, c) => (none, c)
  else
    let (acknowledgmentIDs, outgoing) :=
      c.outgoing.takeAcknowledgmentIDsLocked acknowledgmentSetCapacity
    if acknowledgmentIDs.length = 0 then (none, { c with outgoing := outgoing })
    else
      match c.sessionManager.newAcknowledgmentPacket acknowledgmentIDs with
      | .ok packet => (some packet, { c with outgoing := outgoing })
      | .error _ => (none, { c with
          outgoing := outgoing.returnAcknowledgmentIDsLocked acknowledgmentIDs })

def shouldSendWrappedClientKey (packet : Packet) : Bool :=
  0 < c.wrappedClientKey.length && packet.id = 1 &&
    (packet.opcode = .controlV1 || packet.opcode = .controlWKCv1)

/-- The packet `writePacket` serializes, as the peer parses it.  The wrapped key
    behind it is taken off again by the peer's decoder. -/
def wirePacket (packet : Packet) : Packet :=
  if c.shouldSendWrappedClientKey packet && packet.opcode ≠ .controlWKCv1 then
    { packet with opcode := .controlWKCv1 }.onWire
  else packet.onWire

/-- What `processIncomingControlPacket` does before it touches the receive
    buffer. -/
inductive Admission where
  | dropped
  | softReset
  | recorded (outgoing : OutgoingReliableState)
  | inserting (outgoing : OutgoingReliableState)

/-- `processIncomingControlPacket` up to and including `OnIncomingPacket`. -/
def admitControlPacket (packet : Packet) : Admission :=
  if c.sessionManager.validateIncomingRemoteSessionID packet = false then .dropped
  else if packet.opcode.isTLSHardReset then
    if packet.keyID ≠ 0 ∨ c.sessionManager.keyID ≠ 0 then .dropped
    else if c.sessionManager.validateIncomingLocalSessionID packet = false then .dropped
    else .recorded (c.outgoing.onIncomingPacket packet)
  else if packet.opcode = .controlSoftResetV1 then
    if c.sessionManager.validateIncomingLocalSessionID packet = false then .dropped
    else if c.handlesSoftReset then .softReset
    else .recorded (c.outgoing.onIncomingPacket packet)
  else if c.sessionManager.validateIncomingLocalSessionID packet = false then .dropped
  else if packet.keyID ≠ c.sessionManager.keyID then .dropped
  else if packet.opcode = .acknowledgmentV1 then .recorded (c.outgoing.onIncomingPacket packet)
  else if packet.opcode.isControl = false then .recorded (c.outgoing.onIncomingPacket packet)
  else .inserting (c.outgoing.onIncomingPacket packet)

open OutgoingReliableState in
/-- What `InsertOutgoingPacket` does for a control packet. -/
theorem insertControlPacket_cases {c c' : ControlChannel} {maximum : Nat} {opcode : Opcode}
    {payload : Bytes} {result : Except SessionError (Option Packet)}
    (h : c.insertControlPacket maximum opcode payload = (result, c')) :
    (∃ outgoing : OutgoingReliableState, (∀ packet, result ≠ .ok (some packet)) ∧
      c' = { c with outgoing := outgoing } ∧
      outgoing.inFlightPackets = c.outgoing.inFlightPackets ∧
      ∀ id ∈ outgoing.pendingAcknowledgmentID, id ∈ c.outgoing.pendingAcknowledgmentID) ∨
    (∃ (outgoing : OutgoingReliableState) (packet : Packet), result = .ok (some packet) ∧
      c' = { c with
        outgoing := outgoing
        sessionManager := { c.sessionManager with
          localControlPacketID := c.sessionManager.localControlPacketID + 1 } } ∧
      outgoing.inFlightPackets = sortInFlight (c.outgoing.inFlightPackets ++ [.fresh packet]) ∧
      (∀ id ∈ outgoing.pendingAcknowledgmentID, id ∈ c.outgoing.pendingAcknowledgmentID) ∧
      packet.opcode = opcode ∧ packet.payload = payload ∧
      (∀ id ∈ packet.acknowledgmentIDs, id ∈ c.outgoing.pendingAcknowledgmentID) ∧
      packet.id = c.sessionManager.localControlPacketID ∧
      c.sessionManager.localControlPacketID.toNat < 2 ^ 32 - 1) := by
  unfold insertControlPacket at h
  generalize hinsert : c.outgoing.insertOutgoingPacket maximum
    (c.controlPacketWith opcode payload) = inserted at h
  obtain ⟨answer, outgoing⟩ := inserted
  obtain ⟨-, hacks, hpending⟩ := takeAcknowledgmentIDsLocked_spec
    (rfl : c.outgoing.takeAcknowledgmentIDsLocked maximum = _)
  rcases insertOutgoingPacket_cases hinsert with
    ⟨rfl, rfl⟩ | ⟨err, rfl, rfl⟩ | ⟨packet, manager, rfl, hnew, rfl⟩
  · obtain ⟨rfl, rfl⟩ := Prod.mk.inj h
    exact .inl ⟨_, nofun, rfl, rfl, fun _ hid => hid⟩
  · obtain ⟨rfl, rfl⟩ := Prod.mk.inj h
    refine .inl ⟨_, nofun, rfl, inFlightPackets_returnAcknowledgmentIDsLocked _ _,
      fun id hid => ?_⟩
    exact (pending_returnAcknowledgmentIDsLocked hid).elim (hpending id) (hacks id)
  · obtain ⟨rfl, rfl⟩ := Prod.mk.inj h
    -- the packet is the one the session manager numbered, with the taken ids
    obtain ⟨⟨base, next⟩, hmade, hbase⟩ := map_eq_ok.mp hnew
    obtain ⟨rfl, rfl⟩ := Prod.mk.inj hbase
    obtain ⟨hopcode, hpayload, hid, _, hlt, rfl⟩ := SessionManager.newControlPacket_eq_ok hmade
    exact .inr ⟨_, _, rfl, rfl, rfl, hpending, hopcode, hpayload, hacks, hid, hlt⟩

end ControlChannel

/-! ### One endpoint and its goroutines -/

/-- Where the packet reader stands.  `inserting` lies between `OnIncomingPacket`
    and `TryInsertIncomingPacket`. -/
inductive Reader where
  | idle
  | inserting (packet : Packet)
  | pushing (chunks : List Bytes)
  | stopped
deriving DecidableEq

/-- A channel with its goroutines.  `outbox` holds the packets on their way into
    `writePacket`, `sent` what went out on the link.  The last four fields only
    observe: every control packet made, every packet an acknowledgment took out
    of the send buffer, the packets handed to the ordered stream, and the bytes
    `Read` returned. -/
structure Endpoint where
  channel : ControlChannel
  reader : Reader
  outbox : List Packet
  sent : List Packet
  created : List Packet
  acknowledged : List Packet
  delivered : List Packet
  returned : Bytes
deriving DecidableEq

def Endpoint.start (channel : ControlChannel) : Endpoint := ⟨channel, .idle, [], [], [], [], [], []⟩

inductive ChannelEvent where
  | write (pendingAcknowledgmentCount : Nat) (buffer : Bytes)
  | retransmit (now : Time)
  | acknowledge
  | transmit (index : Nat) (reachesLink : Bool)
  | receive (index : Nat)
  | insert
  | push
  | abandon
  | readChunk
  | readBytes (count : Nat)
  | close
deriving DecidableEq

namespace Endpoint

variable (e : Endpoint)

/-- One round of the loop in `Write` that does not wait. -/
def write (pendingAcknowledgmentCount : Nat) (buffer : Bytes) : Option Endpoint :=
  if buffer.length = 0 then none
  else
    match e.channel.newOutgoingControlPacket pendingAcknowledgmentCount buffer with
    | (.ok (some packet), channel) => some { e with
        channel := channel
        outbox := e.outbox ++ [packet]
        created := e.created ++ [packet] }
    | (_, channel) => some { e with channel := channel }

/-- The first half of a round of `runSender`. -/
def retransmit (now : Time) : Endpoint :=
  let (readyPackets, outgoing) := e.channel.outgoing.packetsReadyToSend now
  { e with channel := { e.channel with outgoing := outgoing }, outbox := e.outbox ++ readyPackets }

/-- The second half of a round of `runSender`.  The pending count it looked at
    may be out of date by now, so the step has no guard. -/
def acknowledge : Endpoint :=
  match e.channel.newAcknowledgmentPacket with
  | (some packet, channel) => { e with
      channel := channel
      outbox := e.outbox ++ [packet]
      created := if packet.opcode = .acknowledgmentV1 then e.created else e.created ++ [packet] }
  | (none, channel) => { e with channel := channel }

/-- `writePacket`, with a link that accepts the packet or reports an error. -/
def transmit (index : Nat) (reachesLink : Bool) : Option Endpoint :=
  match e.outbox[index]? with
  | none => none
  | some packet =>
    let outbox := e.outbox.eraseIdx index
    if reachesLink then
      some { e with outbox := outbox, sent := e.sent ++ [e.channel.wirePacket packet] }
    else if packet.opcode = .acknowledgmentV1 then
      some { e with
        outbox := outbox
        channel := { e.channel with
          outgoing := e.channel.outgoing.returnAcknowledgmentIDsLocked packet.acknowledgmentIDs } }
    else some { e with outbox := outbox }

/-- The reader records a packet: what it acknowledges leaves the send buffer. -/
def record (packet : Packet) (outgoing : OutgoingReliableState) : Endpoint :=
  { e with
    channel := { e.channel with outgoing := outgoing }
    acknowledged := e.acknowledged ++
      e.channel.outgoing.packets.filter (·.id ∈ packet.acknowledgmentIDs) }

/-- The reader takes packet `index` of those the peer has sent. -/
def receive (peerSent : List Packet) (index : Nat) : Option Endpoint :=
  match e.reader, peerSent[index]? with
  | .idle, some packet =>
    match e.channel.admitControlPacket packet with
    | .dropped | .softReset => some e
    | .recorded outgoing => some (e.record packet outgoing)
    | .inserting outgoing => some { e.record packet outgoing with reader := .inserting packet }
  | _, _ => none

/-- The reader offers the packet to the receive buffer and takes out what has
    become deliverable. -/
def insert : Option Endpoint :=
  match e.reader with
  | .inserting packet =>
    match e.channel.incoming.tryInsertIncomingPacket packet with
    | (false, incoming) => some { e with
        channel := { e.channel with incoming := incoming }
        reader := .idle }
    | (true, incoming) =>
      let (orderedPackets, incoming) := incoming.nextOrderedSequence
      some { e with
        channel := { e.channel with incoming := incoming }
        reader := .pushing ((orderedPackets.map Packet.payload).filter (0 < ·.length))
        delivered := e.delivered ++ orderedPackets }
  | _ => none

/-- The reader pushes one payload into `readChunks`, or is done. -/
def push : Option Endpoint :=
  match e.reader with
  | .pushing [] => some { e with reader := .idle }
  | .pushing (chunk :: chunks) =>
    if readChunksCapacity ≤ e.channel.readChunks.length then none
    else some { e with
      channel := { e.channel with readChunks := e.channel.readChunks ++ [chunk] }
      reader := .pushing chunks }
  | _ => none

/-- The reader waiting to push notices that the channel was closed. -/
def abandon : Option Endpoint :=
  match e.reader with
  | .pushing (_ :: _) => if e.channel.closed then some { e with reader := .stopped } else none
  | _ => none

def readChunk : Option Endpoint :=
  match e.channel.readRemainder, e.channel.readChunks with
  | [], chunk :: chunks => some { e with
      channel := { e.channel with readRemainder := chunk, readChunks := chunks } }
  | _, _ => none

def readBytes (count : Nat) : Option Endpoint :=
  if e.channel.readRemainder.length = 0 then none
  else some { e with
    channel := { e.channel with readRemainder := e.channel.readRemainder.drop count }
    returned := e.returned ++ e.channel.readRemainder.take count }

def step (peerSent : List Packet) (e : Endpoint) : ChannelEvent → Option Endpoint
  | .write pendingAcknowledgmentCount buffer => e.write pendingAcknowledgmentCount buffer
  | .retransmit now => some (e.retransmit now)
  | .acknowledge => some e.acknowledge
  | .transmit index reachesLink => e.transmit index reachesLink
  | .receive index => e.receive peerSent index
  | .insert => e.insert
  | .push => e.push
  | .abandon => e.abandon
  | .readChunk => e.readChunk
  | .readBytes count => e.readBytes count
  | .close => some { e with channel := { e.channel with closed := true } }

end Endpoint

/-! ### Two endpoints joined by a link -/

inductive Side where
  | client
  | server
deriving DecidableEq

def Side.other : Side → Side
  | .client => .server
  | .server => .client

structure Link where
  client : Endpoint
  server : Endpoint
deriving DecidableEq

namespace Link

def endpoint (link : Link) : Side → Endpoint
  | .client => link.client
  | .server => link.server

def setEndpoint (link : Link) (side : Side) (e : Endpoint) : Link :=
  match side with
  | .client => { link with client := e }
  | .server => { link with server := e }

section SetEndpoint

variable {link : Link} {side : Side} {e : Endpoint}

/-- What holds of each endpoint still does when the endpoint of `side` has moved. -/
theorem forall_setEndpoint {P : Endpoint → Prop} (h : ∀ side, P (link.endpoint side)) (he : P e) :
    ∀ side', P ((link.setEndpoint side e).endpoint side') := by
  intro side'
  cases side <;> cases side'
  · exact he
  · exact h .server
  · exact h .client
  · exact he

/-- The same of an endpoint and its peer: the moved endpoint is once the first of the two and
    once the second. -/
theorem forall_peers_setEndpoint {R : Endpoint → Endpoint → Prop}
    (h : ∀ side, R (link.endpoint side) (link.endpoint side.other))
    (hfirst : R (link.endpoint side) (link.endpoint side.other) → R e (link.endpoint side.other))
    (hsecond : R (link.endpoint side.other) (link.endpoint side) → R (link.endpoint side.other) e) :
    ∀ side', R ((link.setEndpoint side e).endpoint side')
      ((link.setEndpoint side e).endpoint side'.other) := by
  intro side'
  cases side <;> cases side'
  · exact hfirst (h .client)
  · exact hsecond (h .server)
  · exact hsecond (h .client)
  · exact hfirst (h .server)

end SetEndpoint

/-- Both channels are fresh; session ids, key ids, roles and overheads are
    arbitrary. -/
def initial (link : Link) : Prop :=
  ∀ side, ∃ (sessionManager : SessionManager) (handlesSoftReset : Bool)
    (wrappedClientKey : Bytes) (protectionOverhead datagramOverhead : Nat),
    sessionManager.localControlPacketID = 1 ∧ link.endpoint side = Endpoint.start
      (newTLSControlChannel sessionManager handlesSoftReset wrappedClientKey protectionOverhead
        datagramOverhead)

def step (link : Link) (event : Side × ChannelEvent) : Option Link :=
  ((link.endpoint event.1).step (link.endpoint event.1.other).sent event.2).map
    (link.setEndpoint event.1)

end Link

def linkSystem : System Link (Side × ChannelEvent) := ⟨Link.initial, Link.step⟩

end SingOpenVPN
