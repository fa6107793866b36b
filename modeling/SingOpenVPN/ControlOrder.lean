import SingOpenVPN.ControlDelivery

/-!
# The control stream arrives in order

Whatever the link loses, repeats or reorders, the receiver hands its stream the packets
with the ids 1, 2, 3 and so on, each of them once, and `Read` returns the beginning of
what the sender has put into its send buffer.

The sender numbers its packets without gaps (`Sequential`), the receive buffer releases
them without gaps (`Receives`), and between the buffer and `Read` the bytes only wait in
line (`Flows`).  No condition on the run is needed: a packet that is acknowledged and
thrown away stops the stream, it does not spoil it.
-/

namespace SingOpenVPN

open TransitionSystem List Endpoint

def payloads (packets : List Packet) : Bytes := (packets.map Packet.payload).flatten

def Reader.chunks : Reader → List Bytes
  | .pushing chunks => chunks
  | _ => []

/-- What has left the receive buffer: returned by `Read`, or on the way there. -/
def Endpoint.arrived (e : Endpoint) : Bytes :=
  e.returned ++ e.channel.readRemainder ++ e.channel.readChunks.flatten ++ e.reader.chunks.flatten

/-! ### The sender numbers without gaps -/

structure Sequential (e : Endpoint) : Prop where
  ids : e.created.map (fun packet => packet.id.toNat) = List.range' 1 e.created.length
  counter : e.channel.sessionManager.localControlPacketID.toNat = e.created.length + 1

variable {event : ChannelEvent} {e e' receiver sender : Endpoint} {peerSent : List Packet}

theorem Sequential.of_takes (h : Sequential e) (htakes : Takes e e') :
    Sequential e' := by
  cases htakes with
  | quiet | acknowledgment => exact ⟨h.ids, h.counter⟩
  | control hpackets hpending hopcode hacks hid hlt =>
    constructor
    · rw [map_append, h.ids, length_append, length_singleton,
        List.range'_1_concat, map_singleton, hid, h.counter, add_comm 1]
    · rw [SessionManager.toNat_succ_of_lt hlt, h.counter, length_append, length_singleton]

theorem Sequential.of_moves (h : Sequential e) (hmoves : Moves peerSent e event e') :
    Sequential e' := by
  cases hmoves with
  | writes htakes | acknowledges htakes => exact h.of_takes htakes
  | retransmits | sends | fails | ignores | records | accepts | refuses | inserts | reads =>
    exact ⟨h.ids, h.counter⟩

theorem id_of_getElem? {packets : List Packet} {n index : Nat} {packet : Packet}
    (hids : packets.map (fun packet => packet.id.toNat) = List.range' 1 n)
    (hindex : packets[index]? = some packet) : packet.id.toNat = 1 + index := by
  have hid : (packets.map fun packet => packet.id.toNat)[index]? = some packet.id.toNat := by
    rw [List.getElem?_map, hindex, Option.map_some]
  rw [hids] at hid
  have hlt : index < n := by simpa using (List.getElem?_eq_some_iff.mp hid).1
  rw [List.getElem?_range' hlt, one_mul, Option.some.injEq] at hid
  exact hid.symm

/-! ### The receiver releases without gaps -/

structure Receives (sender receiver : Endpoint) : Prop where
  windowed : receiver.channel.incoming.Windowed
  inserting : ∀ packet, receiver.reader = .inserting packet →
    1 ≤ packet.id.toNat ∧ packet.id.toNat < 2 ^ 32 - 1 ∧ sender.Made packet
  ids : receiver.delivered.map (fun packet => packet.id.toNat) =
    List.range' 1 receiver.channel.incoming.lastConsumedID.toNat
  kept : ∀ packet ∈ receiver.kept, sender.Made packet

section

variable (h : Receives sender receiver)

include h

theorem Receives.of_sender_moves {sender' : Endpoint}
    (hmoves : Moves peerSent sender event sender') :
    Receives sender' receiver := by
  refine { h with
    inserting := ?_
    kept := fun packet hpacket => hmoves.made (h.kept packet hpacket) }
  intro packet hpacket
  obtain ⟨hpos, hlt, hold⟩ := h.inserting packet hpacket
  exact ⟨hpos, hlt, hmoves.made hold⟩

theorem Receives.of_insert {packet : Packet} {incoming : IncomingReliableState}
    {chunks : List Bytes} (hreader : receiver.reader = .inserting packet)
    (hinsert : receiver.channel.incoming.tryInsertIncomingPacket packet = (true, incoming)) :
    Receives sender (receiver.deliver incoming chunks) := by
  obtain ⟨-, hlast, hmade⟩ := h.inserting packet hreader
  obtain ⟨hkept, hwindowed, ordered, hdelivered, hids, hconsumed⟩ :=
    deliver_of_insert h.windowed hlast hinsert chunks
  refine ⟨hwindowed, nofun, ?_, ?_⟩
  · rw [hdelivered, map_append, h.ids, hids, hconsumed, add_comm _ 1, List.range'_append_1]
  · intro other hother
    rcases (hkept other).mp hother with hold | rfl
    · exact h.kept other hold
    · exact hmade

theorem Receives.of_receiver_moves {receiver' : Endpoint} (hnumbered : Numbered sender)
    (hmoves : Moves sender.sent receiver event receiver') : Receives sender receiver' := by
  have htakes : ∀ receiver', Takes receiver receiver' → Receives sender receiver' := by
    intro receiver' htakes
    cases htakes with
    | quiet | acknowledgment | control => exact { h with }
  cases hmoves with
  | writes hmove | acknowledges hmove => exact htakes _ hmove
  | retransmits | sends | fails | ignores | records =>
    exact { h with }
  | @accepts index packet hidle hpacket hopcode =>
    have hmem := mem_of_getElem? hpacket
    refine ⟨h.windowed, ?_, h.ids, h.kept⟩
    rintro other heq
    cases heq
    obtain ⟨-, hpos, hlt⟩ := (hnumbered.fromPeer packet hmem).resolve_left hopcode
    exact ⟨hpos, hlt, ((hnumbered.sent packet hmem).resolve_left hopcode).2⟩
  | @refuses packet incoming hreader hinsert =>
    obtain ⟨-, hlast, -⟩ := h.inserting packet hreader
    rcases IncomingReliableState.tryInsertIncomingPacket_cases h.windowed hlast with
      ⟨heq, -⟩ | ⟨incoming', heq, -⟩
    · rw [hinsert] at heq
      obtain rfl : incoming = receiver.channel.incoming := (Prod.mk.inj heq).2
      exact ⟨h.windowed, nofun, h.ids, h.kept⟩
    · rw [hinsert] at heq
      cases heq
  | inserts hreader hinsert => exact h.of_insert hreader hinsert
  | reads hreader =>
    exact ⟨h.windowed, fun packet hpacket => h.inserting packet ((hreader packet).mp hpacket),
      h.ids, h.kept⟩

theorem Receives.delivered_prefix (hsequential : Sequential sender) :
    receiver.delivered.map Packet.payload <+: sender.created.map Packet.payload := by
  rw [prefix_iff_getElem?]
  intro index hindex
  rw [length_map] at hindex
  have hplace : receiver.delivered[index]? = some receiver.delivered[index] :=
    List.getElem?_eq_getElem hindex
  obtain ⟨original, horiginal, hid, hpayload⟩ :=
    h.kept _ (mem_append_left _ (getElem_mem hindex))
  obtain ⟨position, hposition⟩ := mem_iff_getElem?.mp horiginal
  -- the two packets have the same id, so the same place
  have hsame : position = index := by
    have hleft := id_of_getElem? hsequential.ids hposition
    have hright := id_of_getElem? h.ids hplace
    rw [hid] at hleft
    omega
  subst hsame
  rw [getElem_map, List.getElem?_map, hposition, Option.map_some, hpayload]

end

/-! ### From the receive buffer to `Read` -/

/-- The bytes on their way to `Read` are those of the delivered packets; a reader that was
    stopped has dropped the end. -/
structure Flows (e : Endpoint) : Prop where
  beginning : e.arrived <+: payloads e.delivered
  running : e.reader ≠ .stopped → e.arrived = payloads e.delivered

theorem Flows.of_eq (h : Flows e) (harrived : e'.arrived = e.arrived)
    (hdelivered : e'.delivered = e.delivered)
    (hreader : e'.reader ≠ .stopped → e.reader ≠ .stopped) :
    Flows e' where
  beginning := by
    rw [harrived, hdelivered]
    exact h.beginning
  running := by
    intro hrunning
    rw [harrived, hdelivered]
    exact h.running (hreader hrunning)

theorem Flows.of_running (h : e.arrived = payloads e.delivered) : Flows e :=
  ⟨h ▸ prefix_rfl, fun _ => h⟩

theorem Flows.of_takes (h : Flows e) (htakes : Takes e e') : Flows e' := by
  cases htakes with
  | quiet | acknowledgment | control => exact h.of_eq rfl rfl id

theorem payloads_append (left right : List Packet) :
    payloads (left ++ right) = payloads left ++ payloads right := by
  simp [payloads]

theorem flatten_filter_length (chunks : List Bytes) :
    (chunks.filter (0 < ·.length)).flatten = chunks.flatten := by
  simp only [length_pos_iff]
  exact flatten_filter_ne_nil

theorem Flows.insert {e e' : Endpoint} (h : Flows e) (hstep : e.insert = some e') : Flows e' := by
  unfold Endpoint.insert at hstep
  split at hstep
  next packet hreader =>
    have hbefore := h.running (by simp [hreader])
    split at hstep
    · cases hstep
      refine h.of_eq ?_ rfl (by simp [hreader])
      simp [arrived, hreader, Reader.chunks]
    · next incoming hinsert =>
      cases hstep
      refine Flows.of_running ?_
      rw [payloads_append, ← hbefore]
      simp [arrived, hreader, Reader.chunks, flatten_filter_length, payloads]
  · cases hstep

theorem Flows.step (h : Flows e) (hstep : e.step peerSent event = some e') : Flows e' := by
  cases event with
  | write count buffer => exact h.of_takes (takes_of_write hstep)
  | acknowledge =>
    cases hstep
    exact h.of_takes e.takes_acknowledge
  | retransmit now | close =>
    cases hstep
    exact h.of_eq rfl rfl id
  | transmit index reachesLink =>
    simp only [step, transmit] at hstep
    split at hstep
    · cases hstep
    · split at hstep
      · cases hstep
        exact h.of_eq rfl rfl id
      · split at hstep
        · cases hstep
          exact h.of_eq rfl rfl id
        · cases hstep
          exact h.of_eq rfl rfl id
  | receive index =>
    obtain ⟨hidle, packet, -, rfl | ⟨-, rfl⟩ | ⟨-, rfl⟩⟩ := receive_cases hstep
    · exact h
    · exact h.of_eq rfl rfl id
    · refine h.of_eq ?_ rfl (by simp [hidle])
      simp [arrived, record, Reader.chunks, hidle]
  | insert => exact h.insert hstep
  | push =>
    simp only [step, push] at hstep
    split at hstep
    · next hreader =>
      cases hstep
      refine h.of_eq ?_ rfl (by simp [hreader])
      simp [arrived, Reader.chunks, hreader]
    · next chunk chunks hreader =>
      split at hstep
      · cases hstep
      · cases hstep
        refine h.of_eq ?_ rfl (by simp [hreader])
        simp [arrived, Reader.chunks, hreader]
    · cases hstep
  | abandon =>
    simp only [step, abandon] at hstep
    split at hstep
    · next chunk chunks hreader =>
      split at hstep
      · cases hstep
        refine ⟨?_, fun hrunning => absurd rfl hrunning⟩
        -- what the reader still held is dropped
        refine List.IsPrefix.trans ?_ h.beginning
        simp [arrived, Reader.chunks]
      · cases hstep
    · cases hstep
  | readChunk =>
    simp only [step, readChunk] at hstep
    split at hstep
    · next chunk chunks hremainder hchunks =>
      cases hstep
      refine h.of_eq ?_ rfl id
      simp [arrived, hremainder, hchunks]
    · cases hstep
  | readBytes count =>
    simp only [step, readBytes] at hstep
    split at hstep
    · cases hstep
    · cases hstep
      refine h.of_eq ?_ rfl id
      simp [arrived]

/-! ### Both directions of a link -/

structure StreamInvariant (link : Link) : Prop where
  numbered : ∀ side, Numbered (link.endpoint side)
  sequential : ∀ side, Sequential (link.endpoint side)
  receives : ∀ side, Receives (link.endpoint side) (link.endpoint side.other)
  flows : ∀ side, Flows (link.endpoint side)

theorem StreamInvariant.of_initial {link : Link} (h : link.initial) : StreamInvariant link := by
  refine ⟨numbered_of_initial h, ?_, ?_, ?_⟩
  · intro side
    obtain ⟨manager, _, _, _, _, hcounter, heq⟩ := h side
    rw [heq]
    refine ⟨rfl, ?_⟩
    simp [start, newTLSControlChannel, hcounter]
  · intro side
    obtain ⟨_, _, _, _, _, _, hreceiver⟩ := h side.other
    rw [hreceiver]
    refine ⟨IncomingReliableState.windowed_newIncomingReliableState, ?_, rfl, ?_⟩
    · intro packet hreader
      cases hreader
    · simp [start, kept, newTLSControlChannel, newIncomingReliableState]
  · intro side
    obtain ⟨_, _, _, _, _, _, heq⟩ := h side
    rw [heq]
    exact Flows.of_running rfl

theorem StreamInvariant.step {link link' : Link} {event : Side × ChannelEvent}
    (h : StreamInvariant link) (hstep : link.step event = some link') : StreamInvariant link' := by
  obtain ⟨side, event⟩ := event
  obtain ⟨e', hmove, rfl⟩ := Option.map_eq_some_iff.mp hstep
  have hmoves := moves_of_step hmove
  refine ⟨Link.forall_setEndpoint h.numbered ((h.numbered side).of_moves hmoves),
    Link.forall_setEndpoint h.sequential ((h.sequential side).of_moves hmoves),
    Link.forall_peers_setEndpoint h.receives ?_ ?_,
    Link.forall_setEndpoint h.flows ((h.flows side).step hmove)⟩
  · intro hreceives
    exact hreceives.of_sender_moves hmoves
  · intro hreceives
    exact hreceives.of_receiver_moves (h.numbered side.other) hmoves

/-- **Control stream safety.**  In every state of every run, in both directions: what `Read`
    has returned is the beginning of what the sender has put into its send buffer, and
    the packets delivered to the stream have the ids 1, 2, 3 and so on. -/
theorem control_stream_safe {link : Link} (h : Reachable linkSystem link) (side : Side) :
    (link.endpoint side.other).returned <+: payloads (link.endpoint side).created ∧
    (link.endpoint side.other).delivered.map (fun packet => packet.id.toNat) =
      List.range' 1 (link.endpoint side.other).delivered.length := by
  have hinvariant : StreamInvariant link := h.invariant (fun _ hinitial => .of_initial hinitial)
    fun _ _ _ hstate _ hstep => hstate.step hstep
  have hreceives := hinvariant.receives side
  constructor
  · have hreturned : (link.endpoint side.other).returned <+:
        (link.endpoint side.other).arrived := by
      simp [Endpoint.arrived]
    obtain ⟨rest, hrest⟩ := hreceives.delivered_prefix (hinvariant.sequential side)
    refine (hreturned.trans (hinvariant.flows side.other).beginning).trans ⟨rest.flatten, ?_⟩
    rw [payloads, payloads, ← flatten_append, hrest]
  · have hlength := congrArg List.length hreceives.ids
    rw [length_map, length_range'] at hlength
    rw [hreceives.ids, hlength]

/-- The second of two packets arrives first and twice; the server reads both payloads in
    order. -/
theorem control_stream_safe_reordered :
    ∃ link, Reachable linkSystem link ∧ link.server.returned = [7, 8, 9] ∧
      link.server.returned <+: payloads link.client.created := by
  obtain ⟨link, hreachable, hreturned⟩ : ∃ link, Reachable linkSystem link ∧
      link.server.returned = [7, 8, 9] :=
    exists_reachableBy freshLink_initial
      [(.client, .write 0 [7, 8]), (.client, .write 0 [9]), (.client, .transmit 1 true),
        (.client, .transmit 0 true), (.server, .receive 0), (.server, .insert), (.server, .push),
        (.server, .receive 0), (.server, .insert), (.server, .receive 1), (.server, .insert),
        (.server, .push), (.server, .push), (.server, .push), (.server, .readChunk),
        (.server, .readBytes 1), (.server, .readBytes 4), (.server, .readChunk),
        (.server, .readBytes 4)] (by decide +kernel)
  exact ⟨link, hreachable, hreturned, (control_stream_safe hreachable .client).1⟩

end SingOpenVPN
