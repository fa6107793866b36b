import SingOpenVPN.ControlChannel

/-!
# Acknowledged control packets

An acknowledgment takes a packet out of the sender's buffer for good, so it must
not be sent for a packet the receiver does not keep.  The receiver notes the id
for acknowledgment before it offers the packet to its receive window, and the
sender's buffer bounds the number of packets in flight, not the span of their
ids.  One lost packet is enough: the others are acknowledged, the sender moves
on, and a packet twelve ids beyond the missing one is acknowledged and thrown
away (`acknowledged_packet_lost`).

Runs in which no such packet is recorded, and in which no acknowledgment is
taken between the recording of a packet and its insertion, lose nothing
(`no_acknowledged_loss`).  Three invariants carry that proof: the packets an
endpoint makes are numbered apart (`Numbered`), an endpoint promises only what it
has (`Accountable`), and what one side has comes from the other (`Mirrors`).
-/

namespace SingOpenVPN

open TransitionSystem List Endpoint ControlChannel OutgoingReliableState IncomingReliableState

/-! ### The property -/

variable (e : Endpoint)

namespace Endpoint

/-- The packets that have reached the ordered stream or wait in the receive
    buffer. -/
def kept : List Packet := e.delivered ++ e.channel.incoming.pendingPackets

/-- The endpoint has delivered the packet or holds it in its receive buffer. -/
def Holds (packet : Packet) : Prop :=
  ∃ held ∈ e.kept, held.id = packet.id ∧ held.payload = packet.payload

instance (e : Endpoint) (packet : Packet) : Decidable (e.Holds packet) :=
  inferInstanceAs (Decidable (∃ held ∈ e.kept, _))

end Endpoint

/-- Every packet an acknowledgment took out of one side's send buffer has been
    delivered by the other side or is held by it. -/
def NoAcknowledgedLoss (link : Link) : Prop :=
  (∀ packet ∈ link.client.acknowledged, link.server.Holds packet) ∧
  ∀ packet ∈ link.server.acknowledged, link.client.Holds packet

instance (link : Link) : Decidable (NoAcknowledgedLoss link) :=
  inferInstanceAs (Decidable (_ ∧ _))

/-! ### A run that loses a packet -/

def freshLink : Link where
  client := Endpoint.start (newTLSControlChannel
    ((newSessionManagerWithLocalID (List.Vector.replicate 8 1)).setRemoteSessionID
      (List.Vector.replicate 8 2)) true [] 0 28)
  server := Endpoint.start (newTLSControlChannel
    ((newSessionManagerWithLocalID (List.Vector.replicate 8 2)).setRemoteSessionID
      (List.Vector.replicate 8 1)) true [] 0 28)

theorem freshLink_initial : linkSystem.initial freshLink := by
  intro side
  cases side
  · exact ⟨_, _, _, _, _, rfl, rfl⟩
  · exact ⟨_, _, _, _, _, rfl, rfl⟩

def serverBuffers (index : Nat) : List (Side × ChannelEvent) :=
  [(.server, .receive index), (.server, .insert), (.server, .push)]

def serverAcknowledges (index : Nat) : List (Side × ChannelEvent) :=
  [(.server, .acknowledge), (.server, .transmit 0 true), (.client, .receive index)]

/-- Packet 1 is never put on the link.  Packets 2 to 8 are buffered and
    acknowledged, which lets the client write up to packet 13; the server
    acknowledges that one and refuses it. -/
def lossyRun : List (Side × ChannelEvent) :=
  List.replicate 6 (.client, .write 0 [7]) ++ List.replicate 5 (.client, .transmit 1 true) ++
  (List.range 5).flatMap serverBuffers ++ serverAcknowledges 0 ++
  List.replicate 5 (.client, .write 0 [7]) ++ List.replicate 2 (.client, .transmit 1 true) ++
  serverBuffers 5 ++ serverBuffers 6 ++ serverAcknowledges 1 ++
  List.replicate 2 (.client, .write 0 [7]) ++ [(.client, .transmit 5 true)] ++
  [(.server, .receive 7), (.server, .insert)] ++ serverAcknowledges 2

/-- **A packet is acknowledged and lost.** -/
theorem acknowledged_packet_lost :
    ∃ link, Reachable linkSystem link ∧ ¬ NoAcknowledgedLoss link := by
  exact exists_reachableBy freshLink_initial lossyRun (by decide +kernel)

/-! ### What the steps that take acknowledgments do -/

/-- The opcodes of the control packets a channel makes for its byte stream. -/
def Opcode.CarriesStream (opcode : Opcode) : Prop :=
  opcode = .controlV1 ∨ opcode = .controlWKCv1

theorem Opcode.CarriesStream.ne_acknowledgment {opcode : Opcode} (h : opcode.CarriesStream) :
    opcode ≠ .acknowledgmentV1 := by
  rcases h with rfl | rfl
  · decide
  · decide

/-- The effect of a step that may move acknowledgments into a packet. -/
inductive Takes (e : Endpoint) : Endpoint → Prop
  | quiet {outgoing : OutgoingReliableState}
      (hpackets : outgoing.packets = e.channel.outgoing.packets)
      (hpending : ∀ id ∈ outgoing.pendingAcknowledgmentID,
        id ∈ e.channel.outgoing.pendingAcknowledgmentID) :
      Takes e { e with channel := { e.channel with outgoing := outgoing } }
  | acknowledgment {outgoing : OutgoingReliableState} {packet : Packet}
      (hpackets : outgoing.packets = e.channel.outgoing.packets)
      (hpending : ∀ id ∈ outgoing.pendingAcknowledgmentID,
        id ∈ e.channel.outgoing.pendingAcknowledgmentID)
      (hopcode : packet.opcode = .acknowledgmentV1)
      (hacks : ∀ id ∈ packet.acknowledgmentIDs,
        id ∈ e.channel.outgoing.pendingAcknowledgmentID) :
      Takes e { e with
        channel := { e.channel with outgoing := outgoing }
        outbox := e.outbox ++ [packet] }
  | control {outgoing : OutgoingReliableState} {packet : Packet}
      (hpackets : ∀ other, other ∈ outgoing.packets ↔
        other ∈ e.channel.outgoing.packets ∨ other = packet)
      (hpending : ∀ id ∈ outgoing.pendingAcknowledgmentID,
        id ∈ e.channel.outgoing.pendingAcknowledgmentID)
      (hopcode : packet.opcode.CarriesStream)
      (hacks : ∀ id ∈ packet.acknowledgmentIDs,
        id ∈ e.channel.outgoing.pendingAcknowledgmentID)
      (hid : packet.id = e.channel.sessionManager.localControlPacketID)
      (hlt : e.channel.sessionManager.localControlPacketID.toNat < 2 ^ 32 - 1) :
      Takes e { e with
        channel := { e.channel with
          outgoing := outgoing
          sessionManager := { e.channel.sessionManager with
            localControlPacketID := e.channel.sessionManager.localControlPacketID + 1 } }
        outbox := e.outbox ++ [packet]
        created := e.created ++ [packet] }

theorem Endpoint.takes_of_write {e e' : Endpoint} {pendingAcknowledgmentCount : Nat}
    {buffer : Bytes} (h : e.write pendingAcknowledgmentCount buffer = some e') : Takes e e' := by
  unfold write at h
  split at h
  · cases h
  · unfold newOutgoingControlPacket at h
    generalize hinsert : e.channel.insertControlPacket _ _ _ = inserted at h
    obtain ⟨answer, channel⟩ := inserted
    rcases insertControlPacket_cases hinsert with
      ⟨outgoing, hnone, rfl, hflight, hpending⟩ |
      ⟨outgoing, packet, rfl, rfl, hflight, hpending, hopcode, _, hacks, hid, hlt⟩
    · split at h
      · next packet _ heq => exact absurd (Prod.mk.inj heq).1 (hnone packet)
      · next heq =>
        cases heq
        cases h
        exact .quiet (congrArg (map _) hflight) hpending
    · cases h
      exact .control (mem_packets_insert hflight) hpending (.inl hopcode) hacks hid hlt

theorem Endpoint.takes_acknowledge : Takes e e.acknowledge := by
  unfold acknowledge newAcknowledgmentPacket
  by_cases hkey : e.channel.nextPacketCarriesWrappedClientKey
  · -- an empty control packet carries the wrapped key again
    rw [if_pos hkey]
    generalize hinsert : e.channel.insertControlPacket _ _ _ = inserted
    obtain ⟨answer, channel⟩ := inserted
    rcases insertControlPacket_cases hinsert with
      ⟨outgoing, hnone, rfl, hflight, hpending⟩ |
      ⟨outgoing, packet, rfl, rfl, hflight, hpending, hopcode, _, hacks, hid, hlt⟩
    · cases answer with
      | error err => exact .quiet (congrArg (map _) hflight) hpending
      | ok made =>
        cases made with
        | none => exact .quiet (congrArg (map _) hflight) hpending
        | some packet => exact absurd rfl (hnone packet)
    · have hstream : packet.opcode.CarriesStream := .inr hopcode
      dsimp only
      rw [if_neg hstream.ne_acknowledgment]
      exact .control (mem_packets_insert hflight) hpending hstream hacks hid hlt
  · rw [if_neg hkey]
    generalize htake : e.channel.outgoing.takeAcknowledgmentIDsLocked _ = taken
    obtain ⟨acknowledgmentIDs, outgoing⟩ := taken
    obtain ⟨hpackets, htaken, hleft⟩ := takeAcknowledgmentIDsLocked_spec htake
    dsimp only
    by_cases hnone : acknowledgmentIDs.length = 0
    · rw [if_pos hnone]
      exact .quiet hpackets hleft
    · rw [if_neg hnone]
      cases hmade : e.channel.sessionManager.newAcknowledgmentPacket acknowledgmentIDs with
      | ok packet =>
        obtain ⟨hopcode, rfl⟩ := SessionManager.newAcknowledgmentPacket_eq_ok hmade
        dsimp only
        rw [if_pos hopcode]
        exact .acknowledgment hpackets hleft hopcode htaken
      | error err =>
        refine .quiet (by rw [packets_returnAcknowledgmentIDsLocked, hpackets])
          ?_
        intro id hid
        rcases pending_returnAcknowledgmentIDsLocked hid with hold | hreturned
        · exact hleft id hold
        · exact htaken id hreturned

/-! ### What is put on the link and what is taken from it -/

section WirePacket

variable (c : ControlChannel) (packet : Packet)

@[simp] theorem ControlChannel.wirePacket_acknowledgmentIDs :
    (c.wirePacket packet).acknowledgmentIDs = packet.acknowledgmentIDs := by
  unfold wirePacket
  split <;> rfl

@[simp] theorem ControlChannel.wirePacket_payload :
    (c.wirePacket packet).payload = packet.payload := by
  unfold wirePacket
  split <;> rfl

theorem ControlChannel.wirePacket_acknowledgment {packet : Packet}
    (h : packet.opcode = .acknowledgmentV1) :
    (c.wirePacket packet).opcode = .acknowledgmentV1 := by
  simp [wirePacket, shouldSendWrappedClientKey, h]

/-- A stream packet keeps its id; at most its opcode changes, to the other one. -/
theorem ControlChannel.wirePacket_stream {packet : Packet} (h : packet.opcode.CarriesStream) :
    (c.wirePacket packet).opcode.CarriesStream ∧ (c.wirePacket packet).id = packet.id := by
  unfold wirePacket
  split
  · exact ⟨.inr rfl, Packet.onWire_id (by simp)⟩
  · exact ⟨h, Packet.onWire_id h.ne_acknowledgment⟩

end WirePacket

/-- Everything `admitControlPacket` can answer.  A stream packet is never merely
    recorded, and an acknowledgment never inserted. -/
theorem ControlChannel.admitControlPacket_cases (c : ControlChannel) (packet : Packet) :
    c.admitControlPacket packet = .dropped ∨ c.admitControlPacket packet = .softReset ∨
    (¬ packet.opcode.CarriesStream ∧
      c.admitControlPacket packet = .recorded (c.outgoing.onIncomingPacket packet)) ∨
    (packet.opcode ≠ .acknowledgmentV1 ∧
      c.admitControlPacket packet = .inserting (c.outgoing.onIncomingPacket packet)) := by
  unfold admitControlPacket
  split
  · exact .inl rfl
  split
  · next hreset =>
    split
    · exact .inl rfl
    split
    · exact .inl rfl
    · refine .inr (.inr (.inl ⟨?_, rfl⟩))
      rintro (heq | heq) <;> rw [heq] at hreset <;> cases hreset
  split
  · next hsoft =>
    split
    · exact .inl rfl
    split
    · exact .inr (.inl rfl)
    · refine .inr (.inr (.inl ⟨?_, rfl⟩))
      rintro (heq | heq) <;> rw [heq] at hsoft <;> cases hsoft
  split
  · exact .inl rfl
  split
  · exact .inl rfl
  split
  · next hack => exact .inr (.inr (.inl ⟨fun hstream => hstream.ne_acknowledgment hack, rfl⟩))
  split
  · next hcontrol =>
    refine .inr (.inr (.inl ⟨?_, rfl⟩))
    rintro (heq | heq) <;> rw [heq] at hcontrol <;> cases hcontrol
  · next hack _ => exact .inr (.inr (.inr ⟨hack, rfl⟩))

variable {event : ChannelEvent} {e e' receiver sender : Endpoint} {incoming : IncomingReliableState}
  {peerSent : List Packet}

theorem Endpoint.receive_cases {index : Nat} (h : e.receive peerSent index = some e') :
    e.reader = .idle ∧ ∃ packet, peerSent[index]? = some packet ∧
      (e' = e ∨
        (¬ packet.opcode.CarriesStream ∧
          e' = e.record packet (e.channel.outgoing.onIncomingPacket packet)) ∨
        (packet.opcode ≠ .acknowledgmentV1 ∧
          e' = { e.record packet (e.channel.outgoing.onIncomingPacket packet) with
            reader := .inserting packet })) := by
  unfold receive at h
  split at h
  · next packet hreader hpacket =>
    refine ⟨hreader, packet, hpacket, ?_⟩
    rcases e.channel.admitControlPacket_cases packet with
      heq | heq | ⟨hother, heq⟩ | ⟨hother, heq⟩
    all_goals
      rw [heq] at h
      cases h
    · exact .inl rfl
    · exact .inl rfl
    · exact .inr (.inl ⟨hother, rfl⟩)
    · exact .inr (.inr ⟨hother, rfl⟩)
  · cases h

/-- The endpoint after its receive buffer `incoming` has released what is in
    order. -/
def Endpoint.deliver (incoming : IncomingReliableState) (chunks : List Bytes) :
    Endpoint :=
  { e with
    channel := { e.channel with incoming := incoming.nextOrderedSequence.2 }
    reader := .pushing chunks
    delivered := e.delivered ++ incoming.nextOrderedSequence.1 }

/-- The effect of each event, said once for all invariants. -/
inductive Moves (peerSent : List Packet) (e : Endpoint) : ChannelEvent → Endpoint → Prop
  | writes {count : Nat} {buffer : Bytes} {e' : Endpoint} (htakes : Takes e e') :
      Moves peerSent e (.write count buffer) e'
  | acknowledges {e' : Endpoint} (htakes : Takes e e') : Moves peerSent e .acknowledge e'
  | retransmits {now : Time} {outgoing : OutgoingReliableState} {readyPackets : List Packet}
      (hpackets : outgoing.packets = e.channel.outgoing.packets)
      (hpending : outgoing.pendingAcknowledgmentID = e.channel.outgoing.pendingAcknowledgmentID)
      (hready : ∀ packet ∈ readyPackets, packet ∈ e.channel.outgoing.packets) :
      Moves peerSent e (.retransmit now) { e with
        channel := { e.channel with outgoing := outgoing }
        outbox := e.outbox ++ readyPackets }
  | sends {index : Nat} {packet : Packet} {outbox : List Packet} (hpacket : packet ∈ e.outbox)
      (houtbox : ∀ other ∈ outbox, other ∈ e.outbox) :
      Moves peerSent e (.transmit index true) { e with
        outbox := outbox
        sent := e.sent ++ [e.channel.wirePacket packet] }
  | fails {index : Nat} {packet : Packet} {outbox : List Packet}
      {outgoing : OutgoingReliableState} (hpacket : packet ∈ e.outbox)
      (houtbox : ∀ other ∈ outbox, other ∈ e.outbox)
      (hpackets : outgoing.packets = e.channel.outgoing.packets)
      (hpending : ∀ id ∈ outgoing.pendingAcknowledgmentID,
        id ∈ e.channel.outgoing.pendingAcknowledgmentID ∨ id ∈ packet.acknowledgmentIDs) :
      Moves peerSent e (.transmit index false) { e with
        outbox := outbox
        channel := { e.channel with outgoing := outgoing } }
  | ignores {index : Nat} : Moves peerSent e (.receive index) e
  | records {index : Nat} {packet : Packet} (hpacket : peerSent[index]? = some packet)
      (hopcode : ¬ packet.opcode.CarriesStream) :
      Moves peerSent e (.receive index)
        (e.record packet (e.channel.outgoing.onIncomingPacket packet))
  | accepts {index : Nat} {packet : Packet} (hidle : e.reader = .idle)
      (hpacket : peerSent[index]? = some packet) (hopcode : packet.opcode ≠ .acknowledgmentV1) :
      Moves peerSent e (.receive index)
        { e.record packet (e.channel.outgoing.onIncomingPacket packet) with
          reader := .inserting packet }
  | refuses {packet : Packet} {incoming : IncomingReliableState}
      (hreader : e.reader = .inserting packet)
      (hinsert : e.channel.incoming.tryInsertIncomingPacket packet = (false, incoming)) :
      Moves peerSent e .insert { e with
        channel := { e.channel with incoming := incoming }
        reader := .idle }
  | inserts {packet : Packet} {incoming : IncomingReliableState} {chunks : List Bytes}
      (hreader : e.reader = .inserting packet)
      (hinsert : e.channel.incoming.tryInsertIncomingPacket packet = (true, incoming)) :
      Moves peerSent e .insert (e.deliver incoming chunks)
  | reads {event : ChannelEvent} {readChunks : List Bytes} {readRemainder returned : Bytes}
      {closed : Bool} {reader : Reader}
      (hreader : ∀ packet, reader = .inserting packet ↔ e.reader = .inserting packet) :
      Moves peerSent e event { e with
        channel := { e.channel with
          readChunks := readChunks
          readRemainder := readRemainder
          closed := closed }
        reader := reader
        returned := returned }

theorem Endpoint.moves_of_step (h : e.step peerSent event = some e') :
    Moves peerSent e event e' := by
  cases event with
  | write count buffer => exact .writes (takes_of_write h)
  | acknowledge =>
    cases h
    exact .acknowledges e.takes_acknowledge
  | retransmit now =>
    cases h
    exact .retransmits (e.channel.outgoing.packets_packetsReadyToSend now) rfl
      fun packet hpacket => e.channel.outgoing.mem_packetsReadyToSend hpacket
  | transmit index reachesLink =>
    simp only [step, transmit] at h
    split at h
    · cases h
    · next packet hpacket =>
      have hmem := mem_of_getElem? hpacket
      have houtbox : ∀ other ∈ e.outbox.eraseIdx index, other ∈ e.outbox := fun other hother =>
        mem_of_mem_eraseIdx hother
      cases reachesLink with
      | true =>
        cases h
        exact .sends hmem houtbox
      | false =>
        simp only [Bool.false_eq_true, if_false] at h
        split at h
        · cases h
          exact .fails hmem houtbox (by simp) fun id hid =>
            pending_returnAcknowledgmentIDsLocked hid
        · cases h
          exact .fails hmem houtbox rfl fun id hid => .inl hid
  | receive index =>
    obtain ⟨hidle, packet, hpacket, rfl | ⟨hopcode, rfl⟩ | ⟨hopcode, rfl⟩⟩ :=
      receive_cases h
    · exact .ignores
    · exact .records hpacket hopcode
    · exact .accepts hidle hpacket hopcode
  | insert =>
    simp only [step, insert] at h
    split at h
    · next packet hreader =>
      split at h
      · next incoming hinsert =>
        cases h
        exact .refuses hreader hinsert
      · next incoming hinsert =>
        cases h
        exact .inserts hreader hinsert
    · cases h
  | push =>
    simp only [step, push] at h
    split at h
    · next hreader =>
      cases h
      exact .reads (by simp [hreader])
    · next hreader =>
      split at h
      · cases h
      · cases h
        exact .reads (by simp [hreader])
    · cases h
  | abandon =>
    simp only [step, abandon] at h
    split at h
    · next hreader =>
      split at h
      · cases h
        exact .reads (by simp [hreader])
      · cases h
    · cases h
  | readChunk =>
    simp only [step, readChunk] at h
    split at h
    · cases h
      exact .reads fun packet => Iff.rfl
    · cases h
  | readBytes count =>
    simp only [step, readBytes] at h
    split at h
    · cases h
    · cases h
      exact .reads fun packet => Iff.rfl
  | close =>
    cases h
    exact .reads fun packet => Iff.rfl

/-! ### Control packets are numbered apart -/

def Endpoint.Made (packet : Packet) : Prop :=
  ∃ original ∈ e.created, original.id = packet.id ∧ original.payload = packet.payload

/-- The control packets an endpoint makes have different ids, all of them below
    its counter, and every packet it holds or sends is one of them. -/
structure Numbered (e : Endpoint) : Prop where
  counter_pos : 1 ≤ e.channel.sessionManager.localControlPacketID.toNat
  created_pos : ∀ packet ∈ e.created, 1 ≤ packet.id.toNat
  created_lt : ∀ packet ∈ e.created,
    packet.id.toNat < e.channel.sessionManager.localControlPacketID.toNat
  unique : ∀ packet ∈ e.created, ∀ other ∈ e.created, packet.id = other.id → packet = other
  stream : ∀ packet ∈ e.created, packet.opcode.CarriesStream
  inFlight : ∀ packet ∈ e.channel.outgoing.packets, packet ∈ e.created
  outbox : ∀ packet ∈ e.outbox, packet.opcode = .acknowledgmentV1 ∨ packet ∈ e.created
  sent : ∀ packet ∈ e.sent, packet.opcode = .acknowledgmentV1 ∨
    (packet.opcode.CarriesStream ∧ e.Made packet)

theorem Numbered.of_subset (h : Numbered e)
    (hmanager : e'.channel.sessionManager = e.channel.sessionManager)
    (hcreated : e'.created = e.created)
    (hinFlight : ∀ packet ∈ e'.channel.outgoing.packets, packet ∈ e.channel.outgoing.packets)
    (houtbox : ∀ packet ∈ e'.outbox, packet ∈ e.outbox ∨ packet ∈ e.channel.outgoing.packets)
    (hsent : ∀ packet ∈ e'.sent, packet ∈ e.sent ∨
      ∃ original ∈ e.outbox, packet = e.channel.wirePacket original) : Numbered e' := by
  have hmade : ∀ packet, e.Made packet → e'.Made packet := by
    intro packet hpacket
    unfold Endpoint.Made
    rwa [hcreated]
  refine ⟨?_, ?_, ?_, ?_, ?_, ?_, ?_, ?_⟩
  · rw [hmanager]
    exact h.counter_pos
  · rw [hcreated]
    exact h.created_pos
  · rw [hcreated, hmanager]
    exact h.created_lt
  · rw [hcreated]
    exact h.unique
  · rw [hcreated]
    exact h.stream
  · intro packet hpacket
    rw [hcreated]
    exact h.inFlight packet (hinFlight packet hpacket)
  · intro packet hpacket
    rw [hcreated]
    rcases houtbox packet hpacket with hold | hready
    · exact h.outbox packet hold
    · exact .inr (h.inFlight packet hready)
  · intro packet hpacket
    rcases hsent packet hpacket with hold | ⟨original, horiginal, rfl⟩
    · exact (h.sent packet hold).imp_right fun hstream => ⟨hstream.1, hmade packet hstream.2⟩
    · rcases h.outbox original horiginal with hack | hcreate
      · exact .inl (e.channel.wirePacket_acknowledgment hack)
      · obtain ⟨hstream, hid⟩ := e.channel.wirePacket_stream (h.stream original hcreate)
        exact .inr ⟨hstream, hmade _ ⟨original, hcreate, hid.symm, by simp⟩⟩

theorem Numbered.of_takes (h : Numbered e) (htakes : Takes e e') :
    Numbered e' := by
  cases htakes with
  | quiet hpackets hpending =>
    exact h.of_subset rfl rfl (fun packet hpacket => hpackets ▸ hpacket)
      (fun packet hpacket => .inl hpacket) fun packet hpacket => .inl hpacket
  | @acknowledgment outgoing packet hpackets hpending hopcode hacks =>
    have hquiet : Numbered { e with channel := { e.channel with outgoing := outgoing } } :=
      h.of_subset rfl rfl (fun packet hpacket => hpackets ▸ hpacket)
        (fun packet hpacket => .inl hpacket) fun packet hpacket => .inl hpacket
    refine { hquiet with outbox := ?_ }
    intro other hother
    rcases mem_append.mp hother with hold | hnew
    · exact h.outbox other hold
    · rw [mem_singleton.mp hnew]
      exact .inl hopcode
  | @control outgoing packet hpackets hpending hopcode hacks hid hlt =>
    have hnext := SessionManager.toNat_succ_of_lt hlt
    have hcases : ∀ other ∈ e.created ++ [packet], other ∈ e.created ∨ other = packet := by simp
    have hfresh : ∀ other ∈ e.created, other.id ≠ packet.id := by
      intro other hother heq
      have := h.created_lt other hother
      rw [heq, hid] at this
      exact lt_irrefl _ this
    refine ⟨?_, ?_, ?_, ?_, ?_, ?_, ?_, ?_⟩
    · dsimp only
      omega
    · intro other hother
      rcases hcases other hother with hold | rfl
      · exact h.created_pos other hold
      · rw [hid]
        exact h.counter_pos
    · intro other hother
      rw [hnext]
      rcases hcases other hother with hold | rfl
      · exact Nat.lt_succ_of_lt (h.created_lt other hold)
      · rw [hid]
        exact Nat.lt_succ_self _
    · intro left hleft right hright heq
      rcases hcases left hleft with hold | hnew <;> rcases hcases right hright with hold' | hnew'
      · exact h.unique left hold right hold' heq
      · exact absurd (hnew' ▸ heq) (hfresh left hold)
      · exact absurd (hnew ▸ heq).symm (hfresh right hold')
      · rw [hnew, hnew']
    · intro other hother
      rcases hcases other hother with hold | rfl
      · exact h.stream other hold
      · exact hopcode
    · intro other hother
      rcases (hpackets other).mp hother with hold | rfl
      · exact mem_append_left _ (h.inFlight other hold)
      · exact mem_append_right _ (mem_singleton.mpr rfl)
    · intro other hother
      rcases mem_append.mp hother with hold | hnew
      · exact (h.outbox other hold).imp_right fun hin => mem_append_left _ hin
      · exact .inr (mem_append_right _ hnew)
    · intro other hother
      refine (h.sent other hother).imp_right fun ⟨hstream, original, hin, hsame⟩ => ?_
      exact ⟨hstream, original, mem_append_left _ hin, hsame⟩

/-- **Every step keeps the numbering.** -/
theorem Numbered.of_moves (h : Numbered e) (hmoves : Moves peerSent e event e') : Numbered e' := by
  have hkeep : ∀ packet ∈ e.sent, packet ∈ e.sent ∨ ∃ original ∈ e.outbox,
      packet = e.channel.wirePacket original := fun packet hpacket => .inl hpacket
  have hhold : ∀ packet ∈ e.outbox, packet ∈ e.outbox ∨ packet ∈ e.channel.outgoing.packets :=
    fun packet hpacket => .inl hpacket
  cases hmoves with
  | writes htakes | acknowledges htakes => exact h.of_takes htakes
  | retransmits hpackets hpending hready =>
    refine h.of_subset rfl rfl (fun packet hpacket => hpackets ▸ hpacket) ?_ hkeep
    intro packet hpacket
    exact (mem_append.mp hpacket).imp_right (hready packet)
  | @sends index packet outbox hpacket houtbox =>
    refine h.of_subset rfl rfl (fun packet hpacket => hpacket)
      (fun other hother => .inl (houtbox other hother)) ?_
    intro other hother
    refine (mem_append.mp hother).imp_right fun hnew => ?_
    exact ⟨packet, hpacket, mem_singleton.mp hnew⟩
  | fails hpacket houtbox hpackets hpending =>
    exact h.of_subset rfl rfl (fun packet hpacket => hpackets ▸ hpacket)
      (fun other hother => .inl (houtbox other hother)) hkeep
  | ignores => exact h
  | records hpacket hopcode | accepts hidle hpacket hopcode =>
    exact h.of_subset rfl rfl (fun _ => mem_packets_of_onIncomingPacket) hhold hkeep
  | refuses hreader hinsert | inserts hreader hinsert =>
    exact h.of_subset rfl rfl (fun packet hpacket => hpacket) hhold hkeep
  | reads hreader => exact h.of_subset rfl rfl (fun packet hpacket => hpacket) hhold hkeep

/-! ### An endpoint promises only what it has -/

/-- A packet with this id has been delivered or waits in the receive buffer. -/
def Endpoint.HasID (id : PacketID) : Prop := ∃ packet ∈ e.kept, packet.id = id

theorem Endpoint.HasID.mono (h : ∀ packet ∈ e.kept, packet ∈ e'.kept) {id : PacketID}
    (hid : e.HasID id) : e'.HasID id := by
  obtain ⟨packet, hpacket, heq⟩ := hid
  exact ⟨packet, h packet hpacket, heq⟩

/-- The reader is about to insert a packet with this id, and it fits the receive
    window. -/
def Endpoint.Inserting (id : PacketID) : Prop :=
  ∃ packet, e.reader = .inserting packet ∧ packet.id = id ∧
    packet.id.toNat ≤ e.channel.incoming.lastConsumedID.toNat + reliableReceiveBufferSize

/-- Every acknowledgment that is pending, waits in a packet or was sent is for a
    packet the endpoint has; a pending one may be for the packet in the reader's
    hands. -/
structure Accountable (e : Endpoint) : Prop where
  windowed : e.channel.incoming.Windowed
  consumed : ∀ id, 1 ≤ id → id ≤ e.channel.incoming.lastConsumedID.toNat →
    ∃ packet ∈ e.delivered, packet.id.toNat = id
  inserting : ∀ packet, e.reader = .inserting packet →
    1 ≤ packet.id.toNat ∧ packet.id.toNat < 2 ^ 32 - 1
  pending : ∀ id ∈ e.channel.outgoing.pendingAcknowledgmentID, e.HasID id ∨ e.Inserting id
  inFlight : ∀ packet ∈ e.channel.outgoing.packets, ∀ id ∈ packet.acknowledgmentIDs, e.HasID id
  outbox : ∀ packet ∈ e.outbox, ∀ id ∈ packet.acknowledgmentIDs, e.HasID id
  sent : ∀ packet ∈ e.sent, ∀ id ∈ packet.acknowledgmentIDs, e.HasID id

def Reader.isInserting : Reader → Bool
  | .inserting _ => true
  | _ => false

/-- The steps that lose nothing: no acknowledgment is taken while the reader
    stands between recording a packet and inserting it, and no packet beyond the
    receive window is recorded. -/
def Orderly (e : Endpoint) (peerSent : List Packet) : ChannelEvent → Prop
  | .write _ _ => e.reader.isInserting = false
  | .acknowledge => e.reader.isInserting = false
  | .receive index => ∀ packet ∈ peerSent[index]?, packet.opcode ≠ .acknowledgmentV1 →
      e.channel.outgoing.pendingAcknowledgmentID.length < acknowledgmentSetCapacity →
      packet.id.toNat ≤ e.channel.incoming.lastConsumedID.toNat + reliableReceiveBufferSize
  | _ => True

instance (e : Endpoint) (peerSent : List Packet) (event : ChannelEvent) :
    Decidable (Orderly e peerSent event) :=
  match event with
  | .write _ _ | .acknowledge => inferInstanceAs (Decidable (_ = _))
  | .receive _ => inferInstanceAs (Decidable (∀ packet ∈ _, _))
  | .retransmit _ | .transmit _ _ | .insert | .push | .abandon | .readChunk | .readBytes _
  | .close => inferInstanceAs (Decidable True)

theorem Accountable.pending_hasID (h : Accountable e) (hreader : e.reader.isInserting = false) :
    ∀ id ∈ e.channel.outgoing.pendingAcknowledgmentID, e.HasID id := by
  intro id hid
  rcases h.pending id hid with hhas | ⟨packet, hinserting, _⟩
  · exact hhas
  · rw [hinserting] at hreader
    cases hreader

theorem Accountable.of_takes (h : Accountable e) (hreader : e.reader.isInserting = false)
    (htakes : Takes e e') : Accountable e' := by
  have hhas := h.pending_hasID hreader
  cases htakes with
  | quiet hpackets hpending =>
    exact { h with
      pending := fun id hid => .inl (hhas id (hpending id hid))
      inFlight := fun packet hpacket => h.inFlight packet (hpackets ▸ hpacket) }
  | @acknowledgment outgoing packet hpackets hpending hopcode hacks =>
    refine { h with
      pending := fun id hid => .inl (hhas id (hpending id hid))
      inFlight := fun packet hpacket => h.inFlight packet (hpackets ▸ hpacket)
      outbox := ?_ }
    intro other hother id hid
    rcases mem_append.mp hother with hold | hnew
    · exact h.outbox other hold id hid
    · rw [mem_singleton.mp hnew] at hid
      exact hhas id (hacks id hid)
  | @control outgoing packet hpackets hpending hopcode hacks hcounter hlt =>
    refine { h with
      pending := fun id hid => .inl (hhas id (hpending id hid))
      inFlight := ?_
      outbox := ?_ }
    · intro other hother id hid
      rcases (hpackets other).mp hother with hold | hnew
      · exact h.inFlight other hold id hid
      · exact hhas id (hacks id (hnew ▸ hid))
    · intro other hother id hid
      rcases mem_append.mp hother with hold | hnew
      · exact h.outbox other hold id hid
      · rw [mem_singleton.mp hnew] at hid
        exact hhas id (hacks id hid)

variable {packet : Packet}

/-- A refused packet was delivered or is buffered, unless it lay beyond the
    window. -/
theorem Accountable.hasID_of_refused (h : Accountable e)
    (hreader : e.reader = .inserting packet)
    (hinsert : e.channel.incoming.tryInsertIncomingPacket packet = (false, incoming)) :
    incoming = e.channel.incoming ∧
    (packet.id.toNat ≤ e.channel.incoming.lastConsumedID.toNat + reliableReceiveBufferSize →
      e.HasID packet.id) := by
  obtain ⟨hpos, hlast⟩ := h.inserting packet hreader
  rcases tryInsertIncomingPacket_cases h.windowed hlast with
    ⟨heq, hreason⟩ | ⟨incoming', heq, _⟩
  · rw [hinsert] at heq
    refine ⟨(Prod.mk.inj heq).2, fun hwindow => ?_⟩
    rcases hreason with hconsumed | hbuffered | hbeyond
    · obtain ⟨delivered, hdelivered, hid⟩ := h.consumed _ hpos hconsumed
      exact ⟨delivered, mem_append_left _ hdelivered, UInt32.toNat_inj.mp hid⟩
    · obtain ⟨buffered, hbuffered, hid⟩ := mem_map.mp hbuffered
      exact ⟨buffered, mem_append_right _ hbuffered, hid⟩
    · omega
  · rw [hinsert] at heq
    cases heq

/-- An inserted packet joins what the endpoint keeps, and nothing leaves; what is delivered
    with it has the next ids. -/
theorem Endpoint.deliver_of_insert (h : e.channel.incoming.Windowed)
    (hlast : packet.id.toNat < 2 ^ 32 - 1)
    (hinsert : e.channel.incoming.tryInsertIncomingPacket packet = (true, incoming))
    (chunks : List Bytes) :
    (∀ other, other ∈ (e.deliver incoming chunks).kept ↔ other ∈ e.kept ∨ other = packet) ∧
    (e.deliver incoming chunks).channel.incoming.Windowed ∧
    ∃ ordered, (e.deliver incoming chunks).delivered = e.delivered ++ ordered ∧
      ordered.map (fun packet => packet.id.toNat) =
        List.range' (e.channel.incoming.lastConsumedID.toNat + 1) ordered.length ∧
      (e.deliver incoming chunks).channel.incoming.lastConsumedID.toNat =
        e.channel.incoming.lastConsumedID.toNat + ordered.length := by
  rcases tryInsertIncomingPacket_cases h hlast with
    ⟨heq, _⟩ | ⟨incoming', heq, hwindowed, hpending, hconsumed⟩
  · rw [hinsert] at heq
    cases heq
  rw [hinsert] at heq
  obtain rfl : incoming = incoming' := (Prod.mk.inj heq).2
  obtain ⟨hperm, hids, hlastConsumed, hnext⟩ :=
    nextOrderedSequence_spec hwindowed
  rw [hpending] at hperm
  rw [hconsumed] at hids hlastConsumed
  refine ⟨?_, hnext, incoming.nextOrderedSequence.1, rfl, hids, hlastConsumed⟩
  intro other
  rw [kept, deliver, append_assoc, mem_append, hperm.mem_iff,
    kept, mem_append, mem_append, mem_singleton, or_assoc]

theorem Accountable.kept_deliver (h : Accountable e)
    (hreader : e.reader = .inserting packet)
    (hinsert : e.channel.incoming.tryInsertIncomingPacket packet = (true, incoming))
    (chunks : List Bytes) :
    (∀ other, other ∈ (e.deliver incoming chunks).kept ↔ other ∈ e.kept ∨ other = packet) ∧
    (e.deliver incoming chunks).channel.incoming.Windowed ∧
    ∀ id, 1 ≤ id → id ≤ (e.deliver incoming chunks).channel.incoming.lastConsumedID.toNat →
      ∃ packet ∈ (e.deliver incoming chunks).delivered, packet.id.toNat = id := by
  obtain ⟨_, hlast⟩ := h.inserting packet hreader
  obtain ⟨hkept, hwindowed, ordered, hdelivered, hids, hconsumed⟩ :=
    deliver_of_insert h.windowed hlast hinsert chunks
  refine ⟨hkept, hwindowed, ?_⟩
  intro id hpos hle
  rw [hdelivered]
  by_cases hold : id ≤ e.channel.incoming.lastConsumedID.toNat
  · obtain ⟨delivered, hmem, hid⟩ := h.consumed id hpos hold
    exact ⟨delivered, mem_append_left _ hmem, hid⟩
  · have hin : id ∈ ordered.map fun packet => packet.id.toNat := by
      rw [hids, mem_range'_1]
      omega
    obtain ⟨delivered, hmem, hid⟩ := mem_map.mp hin
    exact ⟨delivered, mem_append_right _ hmem, hid⟩

def FromPeer (peerSent : List Packet) : Prop :=
  ∀ packet ∈ peerSent, packet.opcode = .acknowledgmentV1 ∨
    (packet.opcode.CarriesStream ∧ 1 ≤ packet.id.toNat ∧ packet.id.toNat < 2 ^ 32 - 1)

theorem Numbered.fromPeer (h : Numbered e) : FromPeer e.sent := by
  intro packet hpacket
  refine (h.sent packet hpacket).imp_right fun ⟨hstream, original, hcreated, hid, _⟩ => ?_
  have hpos := h.created_pos original hcreated
  have hlt := h.created_lt original hcreated
  have hcounter := e.channel.sessionManager.localControlPacketID.toNat_lt
  rw [← hid]
  exact ⟨hstream, hpos, by omega⟩

/-- **Every orderly step keeps the promises.** -/
theorem Accountable.of_moves (h : Accountable e) (hpeer : FromPeer peerSent)
    (horderly : Orderly e peerSent event) (hmoves : Moves peerSent e event e') :
    Accountable e' := by
  cases hmoves with
  | writes htakes | acknowledges htakes => exact h.of_takes horderly htakes
  | retransmits hpackets hpending hready =>
    refine { h with
      pending := fun id hid => h.pending id (hpending ▸ hid)
      inFlight := fun packet hpacket => h.inFlight packet (hpackets ▸ hpacket)
      outbox := ?_ }
    intro packet hpacket
    rcases mem_append.mp hpacket with hold | hnew
    · exact h.outbox packet hold
    · exact h.inFlight packet (hready packet hnew)
  | @sends index packet outbox hpacket houtbox =>
    refine { h with
      outbox := fun other hother => h.outbox other (houtbox other hother)
      sent := ?_ }
    intro other hother
    rcases mem_append.mp hother with hold | hnew
    · exact h.sent other hold
    · rw [mem_singleton.mp hnew, wirePacket_acknowledgmentIDs]
      exact h.outbox packet hpacket
  | @fails index packet outbox outgoing hpacket houtbox hpackets hpending =>
    refine { h with
      pending := ?_
      inFlight := fun packet hpacket => h.inFlight packet (hpackets ▸ hpacket)
      outbox := fun other hother => h.outbox other (houtbox other hother) }
    intro id hid
    rcases hpending id hid with hold | hreturned
    · exact h.pending id hold
    · exact .inl (h.outbox packet hpacket id hreturned)
  | ignores => exact h
  | @records index packet hpacket hopcode =>
    -- only an acknowledgment gets here, and it is not noted for acknowledgment
    have hack : packet.opcode = .acknowledgmentV1 :=
      (hpeer packet (mem_of_getElem? hpacket)).resolve_right fun hstream => hopcode hstream.1
    refine { h with
      pending := ?_
      inFlight := fun other hother => h.inFlight other (mem_packets_of_onIncomingPacket hother) }
    intro id hid
    rcases e.channel.outgoing.mem_pending_onIncomingPacket hid with hold | ⟨_, hnot, _⟩
    · exact h.pending id hold
    · exact absurd hack hnot
  | @accepts index packet hidle hpacket hopcode =>
    have hhas := h.pending_hasID (by rw [hidle]; rfl)
    obtain ⟨_, hpos, hlt⟩ :=
      (hpeer packet (mem_of_getElem? hpacket)).resolve_left hopcode
    refine { h with
      inserting := ?_
      pending := ?_
      inFlight := fun other hother => h.inFlight other (mem_packets_of_onIncomingPacket hother) }
    · rintro other heq
      cases heq
      exact ⟨hpos, hlt⟩
    · intro id hid
      rcases e.channel.outgoing.mem_pending_onIncomingPacket hid with hold | ⟨rfl, hnot, hroom⟩
      · exact .inl (hhas id hold)
      · exact .inr ⟨packet, rfl, rfl, horderly packet hpacket hnot hroom⟩
  | @refuses packet incoming hreader hinsert =>
    obtain ⟨rfl, hwindow⟩ := h.hasID_of_refused hreader hinsert
    refine { h with
      inserting := nofun
      pending := ?_ }
    intro id hid
    rcases h.pending id hid with hhas | ⟨other, hother, rfl, hle⟩
    · exact .inl hhas
    · rw [hreader] at hother
      cases hother
      exact .inl (hwindow hle)
  | @inserts packet incoming chunks hreader hinsert =>
    obtain ⟨hkept, hwindowed, hconsumed⟩ := h.kept_deliver hreader hinsert chunks
    have hmono : ∀ id, e.HasID id → (e.deliver incoming chunks).HasID id := fun id =>
      Endpoint.HasID.mono fun other hother => (hkept other).mpr (.inl hother)
    refine ⟨hwindowed, hconsumed, nofun, ?_, ?_, ?_, ?_⟩
    · intro id hid
      rcases h.pending id hid with hhas | ⟨other, hother, rfl, _⟩
      · exact .inl (hmono id hhas)
      · rw [hreader] at hother
        cases hother
        exact .inl ⟨packet, (hkept packet).mpr (.inr rfl), rfl⟩
    · exact fun other hother id hid => hmono id (h.inFlight other hother id hid)
    · exact fun other hother id hid => hmono id (h.outbox other hother id hid)
    · exact fun other hother id hid => hmono id (h.sent other hother id hid)
  | reads hreader =>
    refine { h with
      inserting := fun packet hpacket => h.inserting packet ((hreader packet).mp hpacket)
      pending := ?_ }
    intro id hid
    refine (h.pending id hid).imp_right fun ⟨packet, hpacket, hrest⟩ => ?_
    exact ⟨packet, (hreader packet).mpr hpacket, hrest⟩

/-! ### What one side has comes from the other -/

/-- The receiver's packets were made by the sender, and what left the sender's
    buffer is with the receiver. -/
structure Mirrors (sender receiver : Endpoint) : Prop where
  kept : ∀ packet ∈ receiver.kept, sender.Made packet
  inserting : ∀ packet, receiver.reader = .inserting packet → sender.Made packet
  created : ∀ packet ∈ sender.acknowledged, packet ∈ sender.created
  acknowledged : ∀ packet ∈ sender.acknowledged, receiver.HasID packet.id

theorem Moves.created_acknowledged (hmoves : Moves peerSent e event e') :
    (∀ packet ∈ e.created, packet ∈ e'.created) ∧
    ∀ packet ∈ e'.acknowledged, packet ∈ e.acknowledged ∨
      (packet ∈ e.channel.outgoing.packets ∧
        ∃ incoming ∈ peerSent, packet.id ∈ incoming.acknowledgmentIDs) := by
  have hsame : ∀ packet ∈ e.acknowledged, packet ∈ e.acknowledged ∨
      (packet ∈ e.channel.outgoing.packets ∧
        ∃ incoming ∈ peerSent, packet.id ∈ incoming.acknowledgmentIDs) :=
    fun packet hpacket => .inl hpacket
  -- both steps that hear an acknowledgment record the packet that carries it
  have hrecord : ∀ (index : Nat) (incoming : Packet), peerSent[index]? = some incoming →
      ∀ packet ∈ e.acknowledged ++
        e.channel.outgoing.packets.filter (·.id ∈ incoming.acknowledgmentIDs),
      packet ∈ e.acknowledged ∨ (packet ∈ e.channel.outgoing.packets ∧
        ∃ incoming ∈ peerSent, packet.id ∈ incoming.acknowledgmentIDs) := by
    intro index incoming hincoming packet hpacket
    refine (mem_append.mp hpacket).imp_right fun hremoved => ?_
    obtain ⟨hinFlight, hacked⟩ := mem_filter.mp hremoved
    exact ⟨hinFlight, incoming, mem_of_getElem? hincoming, by simpa using hacked⟩
  have htakes : ∀ e', Takes e e' →
      (∀ packet ∈ e.created, packet ∈ e'.created) ∧ e'.acknowledged = e.acknowledged := by
    intro e' htakes
    cases htakes with
    | quiet | acknowledgment => exact ⟨fun packet hpacket => hpacket, rfl⟩
    | control => exact ⟨fun packet hpacket => mem_append_left _ hpacket, rfl⟩
  cases hmoves with
  | writes h | acknowledges h => exact ⟨(htakes _ h).1, (htakes _ h).2 ▸ hsame⟩
  | records hpacket | accepts _ hpacket =>
    exact ⟨fun packet hpacket => hpacket, hrecord _ _ hpacket⟩
  | retransmits | sends | fails | ignores | refuses | inserts | reads =>
    exact ⟨fun packet hpacket => hpacket, hsame⟩

theorem Moves.made (hmoves : Moves peerSent e event e') {packet : Packet} :
    e.Made packet → e'.Made packet := by
  rintro ⟨original, horiginal, hsame⟩
  exact ⟨original, hmoves.created_acknowledged.1 original horiginal, hsame⟩

section

variable (h : Mirrors sender receiver) (hnumbered : Numbered sender)

include h hnumbered

theorem Mirrors.of_sender_moves {sender' : Endpoint} (haccountable : Accountable receiver)
    (hmoves : Moves receiver.sent sender event sender') : Mirrors sender' receiver := by
  obtain ⟨hcreated, hacknowledged⟩ := hmoves.created_acknowledged
  refine ⟨fun packet hpacket => hmoves.made (h.kept packet hpacket),
    fun packet hpacket => hmoves.made (h.inserting packet hpacket), ?_, ?_⟩
  · intro packet hpacket
    rcases hacknowledged packet hpacket with hold | ⟨hinFlight, _⟩
    · exact hcreated packet (h.created packet hold)
    · exact hcreated packet (hnumbered.inFlight packet hinFlight)
  · intro packet hpacket
    rcases hacknowledged packet hpacket with hold | ⟨_, incoming, hincoming, hid⟩
    · exact h.acknowledged packet hold
    · exact haccountable.sent incoming hincoming packet.id hid

theorem Mirrors.of_receiver_moves {receiver' : Endpoint} (haccountable : Accountable receiver)
    (hmoves : Moves sender.sent receiver event receiver') : Mirrors sender receiver' := by
  have htakes : ∀ receiver', Takes receiver receiver' → Mirrors sender receiver' := by
    intro receiver' htakes
    cases htakes with
    | quiet | acknowledgment | control => exact { h with }
  cases hmoves with
  | writes hmove | acknowledges hmove => exact htakes _ hmove
  | retransmits | sends | fails | ignores | records =>
    exact { h with }
  | @accepts index packet hidle hpacket hopcode =>
    refine ⟨h.kept, ?_, h.created, h.acknowledged⟩
    rintro other heq
    cases heq
    exact ((hnumbered.sent packet (mem_of_getElem? hpacket)).resolve_left hopcode).2
  | refuses hreader hinsert =>
    obtain ⟨rfl, _⟩ := haccountable.hasID_of_refused hreader hinsert
    exact ⟨h.kept, nofun, h.created, h.acknowledged⟩
  | @inserts packet incoming chunks hreader hinsert =>
    obtain ⟨hkept, _⟩ := haccountable.kept_deliver hreader hinsert chunks
    refine ⟨?_, nofun, h.created, ?_⟩
    · intro other hother
      rcases (hkept other).mp hother with hold | rfl
      · exact h.kept other hold
      · exact h.inserting other hreader
    · intro other hother
      exact (h.acknowledged other hother).mono fun packet hpacket =>
        (hkept packet).mpr (.inl hpacket)
  | reads hreader =>
    exact ⟨h.kept, fun packet hpacket => h.inserting packet ((hreader packet).mp hpacket),
      h.created, h.acknowledged⟩

/-- What was acknowledged is held, payload and all: the id names one packet. -/
theorem Mirrors.holds : ∀ packet ∈ sender.acknowledged, receiver.Holds packet := by
  intro packet hpacket
  obtain ⟨held, hkept, hid⟩ := h.acknowledged packet hpacket
  obtain ⟨original, hcreated, hsameID, hpayload⟩ := h.kept held hkept
  have heq : original = packet :=
    hnumbered.unique original hcreated packet (h.created packet hpacket) (hsameID.trans hid)
  exact ⟨held, hkept, hid, by rw [← hpayload, heq]⟩

end

/-! ### The whole link -/

def OrderlyStep (link : Link) (event : Side × ChannelEvent) : Prop :=
  Orderly (link.endpoint event.1) (link.endpoint event.1.other).sent event.2

instance (link : Link) (event : Side × ChannelEvent) : Decidable (OrderlyStep link event) :=
  inferInstanceAs (Decidable (Orderly _ _ _))

structure LinkInvariant (link : Link) : Prop where
  numbered : ∀ side, Numbered (link.endpoint side)
  accountable : ∀ side, Accountable (link.endpoint side)
  mirrors : ∀ side, Mirrors (link.endpoint side) (link.endpoint side.other)

theorem numbered_start {channel : ControlChannel}
    (houtgoing : channel.outgoing = newOutgoingReliableState)
    (hcounter : channel.sessionManager.localControlPacketID = 1) :
    Numbered (start channel) := by
  constructor <;> simp [start, houtgoing, hcounter, newOutgoingReliableState,
    packets]

theorem accountable_start {channel : ControlChannel}
    (houtgoing : channel.outgoing = newOutgoingReliableState)
    (hincoming : channel.incoming = newIncomingReliableState) :
    Accountable (start channel) := by
  refine ⟨hincoming ▸ windowed_newIncomingReliableState, ?_, nofun, ?_, ?_,
    nofun, nofun⟩
  · intro id hpos hle
    simp only [start, hincoming, newIncomingReliableState] at hle
    exact absurd hle (Nat.not_le.mpr hpos)
  · simp [start, houtgoing, newOutgoingReliableState]
  · simp [start, houtgoing, newOutgoingReliableState, packets]

theorem numbered_of_initial {link : Link} (h : link.initial) (side : Side) :
    Numbered (link.endpoint side) := by
  obtain ⟨manager, _, _, _, _, hcounter, heq⟩ := h side
  rw [heq]
  exact numbered_start rfl hcounter

theorem LinkInvariant.of_initial {link : Link} (h : link.initial) : LinkInvariant link := by
  refine ⟨numbered_of_initial h, ?_, ?_⟩
  · intro side
    obtain ⟨manager, _, _, _, _, hcounter, heq⟩ := h side
    rw [heq]
    exact accountable_start rfl rfl
  · intro side
    obtain ⟨_, _, _, _, _, _, hsender⟩ := h side
    obtain ⟨_, _, _, _, _, _, hreceiver⟩ := h side.other
    rw [hsender, hreceiver]
    constructor <;> simp [start, kept, newTLSControlChannel,
      newIncomingReliableState]

theorem LinkInvariant.step {link link' : Link} {event : Side × ChannelEvent}
    (h : LinkInvariant link) (horderly : OrderlyStep link event)
    (hstep : link.step event = some link') : LinkInvariant link' := by
  obtain ⟨side, event⟩ := event
  obtain ⟨e', hmove, rfl⟩ := Option.map_eq_some_iff.mp hstep
  have hmoves := moves_of_step hmove
  refine ⟨Link.forall_setEndpoint h.numbered ((h.numbered side).of_moves hmoves),
    Link.forall_setEndpoint h.accountable
      ((h.accountable side).of_moves (h.numbered side.other).fromPeer horderly hmoves),
    Link.forall_peers_setEndpoint h.mirrors ?_ ?_⟩
  · intro hmirrors
    exact hmirrors.of_sender_moves (h.numbered side) (h.accountable side.other) hmoves
  · intro hmirrors
    exact hmirrors.of_receiver_moves (h.numbered side.other) (h.accountable side) hmoves

/-- **No acknowledged control packet is lost** in a run of orderly steps: in
    every state, what an acknowledgment removed from one side's send buffer has
    been delivered by the other side or waits in its receive buffer. -/
theorem no_acknowledged_loss (link : Link) (h : ReachableBy linkSystem OrderlyStep link) :
    NoAcknowledgedLoss link := by
  have hinvariant : LinkInvariant link := h.invariant (fun _ hinitial => .of_initial hinitial)
    fun _ _ _ hstate horderly hstep => hstate.step horderly hstep
  exact ⟨(hinvariant.mirrors .client).holds (hinvariant.numbered .client),
    (hinvariant.mirrors .server).holds (hinvariant.numbered .server)⟩

/-- A packet is written, delivered and acknowledged in an orderly run. -/
theorem no_acknowledged_loss_delivered :
    ∃ link, ReachableBy linkSystem OrderlyStep link ∧ link.client.acknowledged.length = 1 ∧
      NoAcknowledgedLoss link := by
  obtain ⟨link, hreachable, hacknowledged⟩ : ∃ link, ReachableBy linkSystem OrderlyStep link ∧
      link.client.acknowledged.length = 1 :=
    exists_reachableBy freshLink_initial ([(.client, .write 0 [7]), (.client, .transmit 0 true)] ++
      serverBuffers 0 ++ serverAcknowledges 0) (by decide +kernel)
  exact ⟨link, hreachable, hacknowledged, no_acknowledged_loss link hreachable⟩

end SingOpenVPN
