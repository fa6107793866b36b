import SingOpenVPN.ControlChannel

/-!
# Pending acknowledgments (`proto/reliable.go`, `control_channel.go`)

The reader notes the id of every control packet it takes in, up to eight of them.  An id
leaves the record with the packet that carries it.  A control packet stays in the reliable
send buffer until the peer has it; a dedicated acknowledgment does not, so its ids are put back
when the packet cannot be built or the link refuses it.

`newAcknowledgmentPacket` locks the reliable layer twice, and `writePacket` once more, with the
reader free to run in between: when the ids come back, the record may have filled up again, and
then they are dropped (`acknowledgment_forgotten`).
-/

namespace SingOpenVPN

open TransitionSystem List Option OutgoingReliableState

/-! ### The channel and its goroutines -/

/-- A channel as its acknowledgments see it.

    `taken` are the ids `newAcknowledgmentPacket` has taken and not built into a packet yet;
    `outbox` holds the packets on their way into `writePacket`.  The last two fields observe:
    every packet that was put into the send buffer, and every packet the link accepted. -/
structure AcknowledgingChannel where
  channel : ControlChannel
  taken : Option (List PacketID)
  outbox : List Packet
  buffered : List Packet
  accepted : List Packet
deriving DecidableEq

inductive AcknowledgingEvent where
  | write (pendingAcknowledgmentCount : Nat) (buffer : Bytes)
  | softReset
  | wrappedClientKey
  | take
  | build
  | resend (now : Time)
  | link (index : Nat) (reachesLink : Bool)
  | seed (packet : Packet)
  | receive (packet : Packet)
deriving DecidableEq

namespace AcknowledgingChannel

variable (s : AcknowledgingChannel)

def pending : List PacketID := s.channel.outgoing.pendingAcknowledgmentID

def withOutgoing (outgoing : OutgoingReliableState) :
    AcknowledgingChannel :=
  { s with channel := { s.channel with outgoing := outgoing } }

/-- A packet has taken a slot of the send buffer and goes to the link. -/
def buffer (packet : Packet) : AcknowledgingChannel :=
  { s with outbox := s.outbox ++ [packet], buffered := s.buffered ++ [packet] }

def afterInsert :
    Except SessionError (Option Packet) × ControlChannel → AcknowledgingChannel
  | (.ok (some packet), channel) => { s with channel := channel }.buffer packet
  | (_, channel) => { s with channel := channel }

def softReset : AcknowledgingChannel :=
  match s.channel.outgoing.insertOutgoingPacket maximumAcknowledgmentsPerPacket
      s.channel.softResetPacketWith with
  | (.ok (some (packet, ())), outgoing) => (s.withOutgoing outgoing).buffer packet
  | (_, outgoing) => s.withOutgoing outgoing

/-- `TakeAcknowledgmentIDs` in `newAcknowledgmentPacket`. -/
def take : AcknowledgingChannel :=
  let (acknowledgmentIDs, outgoing) :=
    s.channel.outgoing.takeAcknowledgmentIDsLocked acknowledgmentSetCapacity
  if acknowledgmentIDs.length = 0 then s.withOutgoing outgoing
  else { s.withOutgoing outgoing with taken := some acknowledgmentIDs }

/-- The rest of `newAcknowledgmentPacket`, with `ReturnAcknowledgmentIDs` if it fails. -/
def build (acknowledgmentIDs : List PacketID) : AcknowledgingChannel :=
  match s.channel.sessionManager.newAcknowledgmentPacket acknowledgmentIDs with
  | .ok packet => { s with taken := none, outbox := s.outbox ++ [packet] }
  | .error _ => { s.withOutgoing
      (s.channel.outgoing.returnAcknowledgmentIDsLocked acknowledgmentIDs) with taken := none }

def resend (now : Time) : AcknowledgingChannel :=
  let (readyPackets, outgoing) := s.channel.outgoing.packetsReadyToSend now
  { s.withOutgoing outgoing with outbox := s.outbox ++ readyPackets }

def written (packet : Packet) (reachesLink : Bool) :
    AcknowledgingChannel :=
  if reachesLink then { s with accepted := s.accepted ++ [packet] }
  else if packet.opcode = .acknowledgmentV1 then
    s.withOutgoing (s.channel.outgoing.returnAcknowledgmentIDsLocked packet.acknowledgmentIDs)
  else s

def record (packet : Packet) : AcknowledgingChannel :=
  s.withOutgoing (s.channel.outgoing.onIncomingPacket packet)

/-- `processIncomingControlPacket`, as far as the outgoing half goes. -/
def receive (packet : Packet) : AcknowledgingChannel :=
  match s.channel.admitControlPacket packet with
  | .dropped | .softReset => s
  | .recorded _ | .inserting _ => s.record packet

/-- While `newAcknowledgmentPacket` is between its two halves it holds `outgoingAccess`, which
    keeps out the other makers of packets. -/
def step : AcknowledgingEvent → Option AcknowledgingChannel
  | .write pendingAcknowledgmentCount buffer =>
    if s.taken.isSome ∨ buffer.length = 0 then none
    else some (s.afterInsert (s.channel.newOutgoingControlPacket pendingAcknowledgmentCount buffer))
  | .softReset => if s.taken.isSome then none else some s.softReset
  | .wrappedClientKey =>
    if s.taken.isSome ∨ s.channel.nextPacketCarriesWrappedClientKey = false then none
    else some (s.afterInsert (s.channel.insertControlPacket acknowledgmentSetCapacity
      .controlWKCv1 []))
  | .take =>
    if s.taken.isSome ∨ s.channel.nextPacketCarriesWrappedClientKey then none else some s.take
  | .build => s.taken.map s.build
  | .resend now => some (s.resend now)
  | .link index reachesLink =>
    s.outbox[index]?.map fun packet =>
      { s with outbox := s.outbox.eraseIdx index }.written packet reachesLink
  | .seed packet =>
    if s.channel.sessionManager.validateIncomingRemoteSessionID packet = false then some s
    else some (s.record packet)
  | .receive packet => some (s.receive packet)

end AcknowledgingChannel

def acknowledgingSystem : System AcknowledgingChannel AcknowledgingEvent where
  initial s := ∃ (sessionManager : SessionManager) (handlesSoftReset : Bool)
    (wrappedClientKey : Bytes) (protectionOverhead datagramOverhead : Nat),
    s = ⟨newTLSControlChannel sessionManager handlesSoftReset wrappedClientKey protectionOverhead
      datagramOverhead, none, [], [], []⟩
  step := AcknowledgingChannel.step

namespace AcknowledgingChannel

/-! ### What the claim is about -/

/-- An id still waits: it is on record, or was taken from it by a dedicated acknowledgment of
    which it is not known yet whether it goes out. -/
def Awaits (s : AcknowledgingChannel) (id : PacketID) : Prop :=
  id ∈ s.pending ∨ (∃ ids ∈ s.taken, id ∈ ids) ∨
    ∃ packet ∈ s.outbox, packet.opcode = .acknowledgmentV1 ∧ id ∈ packet.acknowledgmentIDs

/-- Since `s`, a packet with the id has been put into the send buffer or accepted by the
    link. -/
def Carried (s s' : AcknowledgingChannel) (id : PacketID) : Prop :=
  ∃ packet : Packet, id ∈ packet.acknowledgmentIDs ∧
    (packet ∈ s'.buffered.drop s.buffered.length ∨ packet ∈ s'.accepted.drop s.accepted.length)

/-- Putting ids back finds room for those that are not on record again. -/
def HasRoom (pending ids : List PacketID) : Prop :=
  pending.length + (ids.filter (· ∉ pending)).length ≤ acknowledgmentSetCapacity

/-- The steps that put ids back find room for them. -/
def ReturnsFit (s : AcknowledgingChannel) : AcknowledgingEvent → Prop
  | .build => ∀ ids ∈ s.taken,
      (s.channel.sessionManager.newAcknowledgmentPacket ids).isOk = false → HasRoom s.pending ids
  | .link index false => ∀ packet ∈ s.outbox[index]?, packet.opcode = .acknowledgmentV1 →
      HasRoom s.pending packet.acknowledgmentIDs
  | _ => True

instance (pending ids : List PacketID) : Decidable (HasRoom pending ids) :=
  inferInstanceAs (Decidable (_ ≤ _))

instance (s : AcknowledgingChannel) (event : AcknowledgingEvent) :
    Decidable (s.ReturnsFit event) := by
  unfold ReturnsFit
  split <;> infer_instance

end AcknowledgingChannel

/-! ### The record -/

namespace OutgoingReliableState

open AcknowledgingChannel (HasRoom)

structure Bounded (s : OutgoingReliableState) : Prop where
  nodup : s.pendingAcknowledgmentID.Nodup
  length_le : s.pendingAcknowledgmentID.length ≤ acknowledgmentSetCapacity

variable {s : OutgoingReliableState}

theorem Bounded.insert (h : s.Bounded) {id : PacketID}
    (hroom : id ∈ s.pendingAcknowledgmentID ∨
      s.pendingAcknowledgmentID.length < acknowledgmentSetCapacity) :
    { s with pendingAcknowledgmentID := s.pendingAcknowledgmentID.insert id }.Bounded where
  nodup := h.nodup.insert
  length_le := by
    by_cases hmem : id ∈ s.pendingAcknowledgmentID
    · simp only [insert_of_mem hmem]
      exact h.length_le
    · simp only [length_insert_of_not_mem hmem]
      exact hroom.resolve_left hmem

theorem Bounded.onIncomingPacket (h : s.Bounded) (packet : Packet) :
    (s.onIncomingPacket packet).Bounded := by
  by_cases hroom : packet.opcode ≠ .acknowledgmentV1 ∧
      s.pendingAcknowledgmentID.length < acknowledgmentSetCapacity
  · have hinsert := @Bounded.insert s h packet.id (.inr hroom.2)
    exact ⟨by simpa [OutgoingReliableState.onIncomingPacket, hroom] using hinsert.nodup,
      by simpa [OutgoingReliableState.onIncomingPacket, hroom] using hinsert.length_le⟩
  · exact ⟨by simpa [OutgoingReliableState.onIncomingPacket, hroom] using h.nodup,
      by simpa [OutgoingReliableState.onIncomingPacket, hroom] using h.length_le⟩

variable {ids : List PacketID} {id : PacketID}

theorem mem_onIncomingPacket (hid : id ∈ s.pendingAcknowledgmentID) (packet : Packet) :
    id ∈ (s.onIncomingPacket packet).pendingAcknowledgmentID := by
  rw [onIncomingPacket]
  split_ifs
  · exact mem_insert_of_mem hid
  · exact hid

theorem Bounded.takeAcknowledgmentIDsLocked (h : s.Bounded) (maximumCount : Nat) :
    (s.takeAcknowledgmentIDsLocked maximumCount).2.Bounded :=
  ⟨h.nodup.filter _, (length_filter_le _ _).trans h.length_le⟩

theorem mem_takeAcknowledgmentIDsLocked {maximumCount : Nat}
    (hid : id ∈ s.pendingAcknowledgmentID) :
    id ∈ (s.takeAcknowledgmentIDsLocked maximumCount).1 ∨
      id ∈ (s.takeAcknowledgmentIDsLocked maximumCount).2.pendingAcknowledgmentID := by
  by_cases htaken : id ∈ (s.takeAcknowledgmentIDsLocked maximumCount).1
  · exact .inl htaken
  · exact .inr (mem_filter.mpr ⟨hid, decide_eq_true htaken⟩)

theorem Bounded.returnAcknowledgmentIDsLocked (h : s.Bounded) (ids : List PacketID) :
    (s.returnAcknowledgmentIDsLocked ids).Bounded := by
  induction ids generalizing s with
  | nil => exact h
  | cons id others ih =>
    rw [returnAcknowledgmentIDsLocked]
    split_ifs with hfull
    · exact h
    · refine ih (h.insert ?_)
      by_contra hnot
      rw [not_or, not_lt] at hnot
      exact hfull hnot

theorem mem_returnAcknowledgmentIDsLocked (hid : id ∈ s.pendingAcknowledgmentID) :
    id ∈ (s.returnAcknowledgmentIDsLocked ids).pendingAcknowledgmentID := by
  induction ids generalizing s with
  | nil => exact hid
  | cons other others ih =>
    rw [returnAcknowledgmentIDsLocked]
    split_ifs
    · exact hid
    · exact ih (mem_insert_of_mem hid)

theorem mem_returnAcknowledgmentIDsLocked_of_hasRoom (hroom : HasRoom s.pendingAcknowledgmentID ids)
    (hid : id ∈ ids) :
    id ∈ (s.returnAcknowledgmentIDsLocked ids).pendingAcknowledgmentID := by
  induction ids generalizing s with
  | nil => cases hid
  | cons first others ih =>
    -- once `first` is on record, the others need no more room than before
    have hothers : HasRoom (s.pendingAcknowledgmentID.insert first) others := by
      by_cases hmem : first ∈ s.pendingAcknowledgmentID
      · simpa [HasRoom, insert_of_mem hmem, filter_cons, hmem] using hroom
      · have hsub : (others.filter (· ∉ first :: s.pendingAcknowledgmentID)).Sublist
            (others.filter (· ∉ s.pendingAcknowledgmentID)) :=
          monotone_filter_right others fun other hother => by
            simp only [decide_eq_true_eq, mem_cons, not_or] at hother ⊢
            exact hother.2
        have hle := hsub.length_le
        rw [HasRoom, insert_of_not_mem hmem, length_cons]
        simp only [HasRoom, filter_cons, hmem, not_false_eq_true, decide_true, if_true,
          length_cons] at hroom
        omega
    have hnext : ¬ (first ∉ s.pendingAcknowledgmentID ∧
        acknowledgmentSetCapacity ≤ s.pendingAcknowledgmentID.length) := by
      rintro ⟨hnot, hfull⟩
      simp only [HasRoom, filter_cons, hnot, not_false_eq_true, decide_true, if_true,
        length_cons] at hroom
      omega
    rw [returnAcknowledgmentIDsLocked, if_neg hnext]
    rcases mem_cons.mp hid with rfl | hmem
    · exact mem_returnAcknowledgmentIDsLocked mem_insert_self
    · exact ih hothers hmem

/-- Ids that are put back before anything else happens find room. -/
theorem Bounded.hasRoom (h : s.Bounded) (maximumCount : Nat) :
    HasRoom (s.takeAcknowledgmentIDsLocked maximumCount).2.pendingAcknowledgmentID
      (s.takeAcknowledgmentIDsLocked maximumCount).1 := by
  have hperm := perm_insertionSort (· ≤ ·) s.pendingAcknowledgmentID
  have hnodup : (s.takeAcknowledgmentIDsLocked maximumCount).1.Nodup :=
    (hperm.nodup_iff.mpr h.nodup).sublist (take_sublist _ _)
  have hsub : (s.takeAcknowledgmentIDsLocked maximumCount).1 ++
      (s.takeAcknowledgmentIDsLocked maximumCount).2.pendingAcknowledgmentID ⊆
        s.pendingAcknowledgmentID := by
    intro id hid
    rcases mem_append.mp hid with htaken | hleft
    · exact hperm.mem_iff.mp (mem_of_mem_take htaken)
    · exact (mem_filter.mp hleft).1
  have hdisjoint : ((s.takeAcknowledgmentIDsLocked maximumCount).1 ++
      (s.takeAcknowledgmentIDsLocked maximumCount).2.pendingAcknowledgmentID).Nodup := by
    refine nodup_append.mpr ⟨hnodup, h.nodup.filter _, ?_⟩
    rintro id htaken other hleft rfl
    exact of_decide_eq_true (mem_filter.mp hleft).2 htaken
  have hlength := (subperm_of_subset hdisjoint hsub).length_le
  have hfilter := length_filter_le
    (· ∉ (s.takeAcknowledgmentIDsLocked maximumCount).2.pendingAcknowledgmentID)
    (s.takeAcknowledgmentIDsLocked maximumCount).1
  have hbound := h.length_le
  rw [length_append] at hlength
  rw [HasRoom]
  omega

/-- Inserting a packet keeps the record a set of eight, and an id leaves it only with the
    packet. -/
theorem Bounded.insertOutgoingPacket {σ ε : Type} {s' : OutgoingReliableState} (h : s.Bounded)
    {maximum : Nat} {newPacket : List PacketID → Except ε (Packet × σ)}
    {result : Except ε (Option (Packet × σ))}
    (hinsert : s.insertOutgoingPacket maximum newPacket = (result, s')) :
    s'.Bounded ∧ ((∀ packet state, result ≠ .ok (some (packet, state))) ∧
        (∀ id ∈ s.pendingAcknowledgmentID, id ∈ s'.pendingAcknowledgmentID) ∨
      ∃ packet state ids, result = .ok (some (packet, state)) ∧
        newPacket ids = .ok (packet, state) ∧
        ∀ id ∈ s.pendingAcknowledgmentID, id ∈ ids ∨ id ∈ s'.pendingAcknowledgmentID) := by
  have htaken := h.takeAcknowledgmentIDsLocked maximum
  rcases insertOutgoingPacket_cases hinsert with
    ⟨rfl, rfl⟩ | ⟨err, rfl, rfl⟩ | ⟨packet, state, rfl, hnew, rfl⟩
  · exact ⟨h, .inl ⟨by simp, fun _ hid => hid⟩⟩
  · refine ⟨htaken.returnAcknowledgmentIDsLocked _, .inl ⟨by simp, fun id hid => ?_⟩⟩
    rcases mem_takeAcknowledgmentIDsLocked hid with hmem | hmem
    · exact mem_returnAcknowledgmentIDsLocked_of_hasRoom (h.hasRoom maximum) hmem
    · exact mem_returnAcknowledgmentIDsLocked hmem
  · refine ⟨⟨htaken.nodup, htaken.length_le⟩, .inr ⟨packet, state, _, rfl, hnew, fun id hid => ?_⟩⟩
    exact mem_takeAcknowledgmentIDsLocked hid

end OutgoingReliableState

/-! ### One step -/

namespace AcknowledgingChannel

/-- What a step may do to ids that wait: the logs grow, and an id stops waiting only with a
    packet that is new in them. -/
structure Advances (s s' : AcknowledgingChannel) : Prop where
  bounded : s'.channel.outgoing.Bounded
  logs : ∃ newBuffered newAccepted, s'.buffered = s.buffered ++ newBuffered ∧
    s'.accepted = s.accepted ++ newAccepted ∧ ∀ id, s.Awaits id →
      s'.Awaits id ∨ ∃ packet ∈ newBuffered ++ newAccepted, id ∈ packet.acknowledgmentIDs

variable {s s' : AcknowledgingChannel}

/-- A step that logs nothing. -/
theorem advances_of_awaits (hbounded : s'.channel.outgoing.Bounded)
    (hbuffered : s'.buffered = s.buffered) (haccepted : s'.accepted = s.accepted)
    (hawaits : ∀ id, s.Awaits id → s'.Awaits id) : Advances s s' :=
  ⟨hbounded, [], [], by simp [hbuffered], by simp [haccepted], fun id hid => .inl (hawaits id hid)⟩

/-- The record keeps its ids and nothing is taken out of the outbox. -/
theorem awaits_of_subset (s s' : AcknowledgingChannel)
    (hpending : ∀ id ∈ s.pending, id ∈ s'.pending)
    (htaken : s'.taken = s.taken) (houtbox : ∀ packet ∈ s.outbox, packet ∈ s'.outbox)
    {id : PacketID} (h : s.Awaits id) : s'.Awaits id := by
  rcases h with hmem | ⟨ids, hids, hmem⟩ | ⟨packet, hpacket, hacks⟩
  · exact .inl (hpending id hmem)
  · exact .inr (.inl ⟨ids, htaken ▸ hids, hmem⟩)
  · exact .inr (.inr ⟨packet, houtbox packet hpacket, hacks⟩)

variable {event : AcknowledgingEvent} {channel : ControlChannel} {packet : Packet}

/-- A packet with the taken ids enters the send buffer. -/
theorem advances_buffer (hbounded : channel.outgoing.Bounded)
    (hpending : ∀ id ∈ s.pending, id ∈ packet.acknowledgmentIDs ∨
      id ∈ channel.outgoing.pendingAcknowledgmentID) :
    Advances s ({ s with channel := channel }.buffer packet) := by
  refine ⟨hbounded, [packet], [], rfl, by simp [buffer], fun id hid => ?_⟩
  rcases hid with hmem | ⟨ids, hids, hmem⟩ | ⟨other, hother, hacks⟩
  · rcases hpending id hmem with hcarried | hleft
    · exact .inr ⟨packet, by simp, hcarried⟩
    · exact .inl (.inl hleft)
  · exact .inl (.inr (.inl ⟨ids, hids, hmem⟩))
  · exact .inl (.inr (.inr ⟨other, mem_append_left _ hother, hacks⟩))

theorem advances_keep (hbounded : channel.outgoing.Bounded)
    (hpending : ∀ id ∈ s.pending, id ∈ channel.outgoing.pendingAcknowledgmentID) :
    Advances s { s with channel := channel } :=
  advances_of_awaits hbounded rfl rfl fun _ hid =>
    awaits_of_subset s { s with channel := channel } hpending rfl (fun _ hpacket => hpacket) hid

section

variable (h : s.channel.outgoing.Bounded)

include h

theorem advances_insertControlPacket (maximum : Nat) (opcode : Opcode) (payload : Bytes) :
    Advances s (s.afterInsert (s.channel.insertControlPacket maximum opcode payload)) := by
  rw [ControlChannel.insertControlPacket]
  generalize hinsert : s.channel.outgoing.insertOutgoingPacket maximum
    (s.channel.controlPacketWith opcode payload) = inserted
  obtain ⟨answer, outgoing⟩ := inserted
  obtain ⟨hbounded, ⟨hnone, hpending⟩ | ⟨packet, manager, ids, rfl, hnew, hpending⟩⟩ :=
    h.insertOutgoingPacket hinsert
  · rcases answer with err | _ | ⟨packet, manager⟩
    · exact advances_keep hbounded hpending
    · exact advances_keep hbounded hpending
    · exact absurd rfl (hnone packet manager)
  · obtain ⟨⟨base, next⟩, -, hbase⟩ := map_eq_ok.mp hnew
    obtain ⟨rfl, rfl⟩ := Prod.mk.inj hbase
    exact advances_buffer hbounded hpending

theorem advances_softReset : Advances s s.softReset := by
  rw [softReset]
  generalize hinsert : s.channel.outgoing.insertOutgoingPacket maximumAcknowledgmentsPerPacket
    s.channel.softResetPacketWith = inserted
  obtain ⟨answer, outgoing⟩ := inserted
  obtain ⟨hbounded, ⟨hnone, hpending⟩ | ⟨packet, nothing, ids, rfl, hnew, hpending⟩⟩ :=
    h.insertOutgoingPacket hinsert
  · rcases answer with err | _ | ⟨packet, nothing⟩
    · exact advances_keep hbounded hpending
    · exact advances_keep hbounded hpending
    · exact absurd rfl (hnone packet nothing)
  · obtain ⟨base, -, hbase⟩ := map_eq_ok.mp hnew
    obtain ⟨rfl, -⟩ := Prod.mk.inj hbase
    exact advances_buffer hbounded hpending

theorem advances_take (htaken : s.taken = none) : Advances s s.take := by
  have hbounded := h.takeAcknowledgmentIDsLocked acknowledgmentSetCapacity
  rw [take]
  dsimp only
  split_ifs with hnone
  · refine advances_keep hbounded fun id hid => ?_
    rw [length_eq_zero_iff] at hnone
    rcases mem_takeAcknowledgmentIDsLocked hid with hmem | hmem
    · rw [hnone] at hmem
      cases hmem
    · exact hmem
  · refine advances_of_awaits hbounded rfl rfl fun id hid => ?_
    rcases hid with hmem | ⟨ids, hids, -⟩ | hacks
    · rcases mem_takeAcknowledgmentIDsLocked hmem with hids | hleft
      · exact .inr (.inl ⟨_, rfl, hids⟩)
      · exact .inl hleft
    · rw [htaken] at hids
      cases hids
    · exact .inr (.inr hacks)

theorem advances_build {ids : List PacketID} (htaken : s.taken = some ids) :
    (s.build ids).channel.outgoing.Bounded ∧ (s.ReturnsFit .build → Advances s (s.build ids)) := by
  rw [build]
  cases hpacket : s.channel.sessionManager.newAcknowledgmentPacket ids with
  | ok packet =>
    obtain ⟨hopcode, hacks⟩ := SessionManager.newAcknowledgmentPacket_eq_ok hpacket
    refine ⟨h, fun _ => advances_of_awaits h rfl rfl fun id hid => ?_⟩
    rcases hid with hmem | ⟨others, hothers, hmem⟩ | ⟨other, hother, hids⟩
    · exact .inl hmem
    · rw [htaken, mem_some_iff] at hothers
      subst hothers
      exact .inr (.inr ⟨packet, by simp, hopcode, hacks ▸ hmem⟩)
    · exact .inr (.inr ⟨other, mem_append_left _ hother, hids⟩)
  | error err =>
    have hbounded := h.returnAcknowledgmentIDsLocked ids
    refine ⟨hbounded, fun hfits => advances_of_awaits hbounded rfl rfl fun id hid => ?_⟩
    have hroom := hfits ids htaken (by rw [hpacket]; rfl)
    rcases hid with hmem | ⟨others, hothers, hmem⟩ | hacks
    · exact .inl (mem_returnAcknowledgmentIDsLocked hmem)
    · rw [htaken, mem_some_iff] at hothers
      subst hothers
      exact .inl (mem_returnAcknowledgmentIDsLocked_of_hasRoom hroom hmem)
    · exact .inr (.inr hacks)

theorem advances_written {index : Nat} (hindex : s.outbox[index]? = some packet)
    (reachesLink : Bool) :
    let s' := { s with outbox := s.outbox.eraseIdx index }.written packet reachesLink
    s'.channel.outgoing.Bounded ∧ (s.ReturnsFit (.link index reachesLink) → Advances s s') := by
  have hother : ∀ other ∈ s.outbox, other = packet ∨ other ∈ s.outbox.eraseIdx index := by
    intro other hmem
    obtain ⟨position, hposition⟩ := mem_iff_getElem?.mp hmem
    by_cases heq : position = index
    · rw [heq, hindex, Option.some.injEq] at hposition
      exact .inl hposition.symm
    · exact .inr (mem_eraseIdx_iff_getElem?.mpr ⟨position, heq, hposition⟩)
  rw [written]
  cases reachesLink with
  | true =>
    refine ⟨h, fun _ => ⟨h, [], [packet], by simp, by simp, fun id hid => ?_⟩⟩
    rcases hid with hmem | htaken | ⟨other, hmem, hopcode, hacks⟩
    · exact .inl (.inl hmem)
    · exact .inl (.inr (.inl htaken))
    · rcases hother other hmem with rfl | hleft
      · exact .inr ⟨other, by simp, hacks⟩
      · exact .inl (.inr (.inr ⟨other, hleft, hopcode, hacks⟩))
  | false =>
    simp only [Bool.false_eq_true, if_false]
    split_ifs with hdedicated
    · have hbounded := h.returnAcknowledgmentIDsLocked packet.acknowledgmentIDs
      refine ⟨hbounded, fun hfits => advances_of_awaits hbounded rfl rfl fun id hid => ?_⟩
      rcases hid with hmem | htaken | ⟨other, hmem, hopcode, hacks⟩
      · exact .inl (mem_returnAcknowledgmentIDsLocked hmem)
      · exact .inr (.inl htaken)
      · rcases hother other hmem with rfl | hleft
        · exact .inl (mem_returnAcknowledgmentIDsLocked_of_hasRoom
            (hfits other hindex hdedicated) hacks)
        · exact .inr (.inr ⟨other, hleft, hopcode, hacks⟩)
    · refine ⟨h, fun _ => advances_of_awaits h rfl rfl fun id hid => ?_⟩
      rcases hid with hmem | htaken | ⟨other, hmem, hopcode, hacks⟩
      · exact .inl hmem
      · exact .inr (.inl htaken)
      · rcases hother other hmem with rfl | hleft
        · exact absurd hopcode hdedicated
        · exact .inr (.inr ⟨other, hleft, hopcode, hacks⟩)

theorem advances_record (packet : Packet) :
    Advances s (s.record packet) :=
  advances_keep (h.onIncomingPacket packet) fun _ hid =>
    mem_onIncomingPacket hid packet

/-- A step keeps the record a set of eight, and no id is lost if those put back fit. -/
theorem advances_step (hstep : s.step event = some s') :
    s'.channel.outgoing.Bounded ∧ (s.ReturnsFit event → Advances s s') := by
  have hanyway : ∀ {s'}, Advances s s' →
      s'.channel.outgoing.Bounded ∧ (s.ReturnsFit event → Advances s s') :=
    fun hadvances => ⟨hadvances.bounded, fun _ => hadvances⟩
  have hrefl : Advances s s := advances_of_awaits h rfl rfl fun _ hid => hid
  cases event with
  | write pendingAcknowledgmentCount buffer | wrappedClientKey =>
    rw [step] at hstep
    split_ifs at hstep
    cases hstep
    exact hanyway (advances_insertControlPacket h _ _ _)
  | softReset =>
    rw [step] at hstep
    split_ifs at hstep
    cases hstep
    exact hanyway (advances_softReset h)
  | take =>
    rw [step] at hstep
    split_ifs at hstep with hguard
    cases hstep
    rw [not_or, not_isSome_iff_eq_none] at hguard
    exact hanyway (advances_take h hguard.1)
  | build =>
    obtain ⟨ids, hids, rfl⟩ := map_eq_some_iff.mp hstep
    exact advances_build h hids
  | resend now =>
    cases hstep
    refine hanyway (advances_of_awaits ⟨h.nodup, h.length_le⟩ rfl rfl fun id hid => ?_)
    exact awaits_of_subset s (s.resend now) (fun _ hmem => hmem) rfl
      (fun _ hpacket => mem_append_left _ hpacket) hid
  | link index reachesLink =>
    obtain ⟨packet, hindex, rfl⟩ := map_eq_some_iff.mp hstep
    exact advances_written h hindex reachesLink
  | seed packet =>
    rw [step] at hstep
    split_ifs at hstep
    · cases hstep
      exact hanyway hrefl
    · cases hstep
      exact hanyway (advances_record h packet)
  | receive packet =>
    cases hstep
    rw [receive]
    cases s.channel.admitControlPacket packet with
    | dropped => exact hanyway hrefl
    | softReset => exact hanyway hrefl
    | recorded outgoing | inserting outgoing => exact hanyway (advances_record h packet)

end

/-! ### Whole runs -/

def runsFrom (s : AcknowledgingChannel) : System AcknowledgingChannel AcknowledgingEvent :=
  { acknowledgingSystem with initial := (· = s) }

theorem bounded_of_reachable (h : Reachable acknowledgingSystem s) :
    s.channel.outgoing.Bounded := by
  refine h.invariant ?_ fun _ _ _ hbounded _ hstep => (advances_step hbounded hstep).1
  rintro _ ⟨_, _, _, _, _, rfl⟩
  exact ⟨nodup_nil, Nat.zero_le _⟩

/-- What a run from `s` has done to the ids that waited in `s`. -/
structure Accounted (s s' : AcknowledgingChannel) : Prop where
  bounded : s'.channel.outgoing.Bounded
  buffered_le : s.buffered.length ≤ s'.buffered.length
  accepted_le : s.accepted.length ≤ s'.accepted.length
  awaits : ∀ id, s.Awaits id → s'.Awaits id ∨ Carried s s' id

theorem Accounted.step {start : AcknowledgingChannel} (h : Accounted start s)
    (hfits : s.ReturnsFit event) (hstep : s.step event = some s') :
    Accounted start s' := by
  obtain ⟨hbounded, newBuffered, newAccepted, hbuffered, haccepted, hawaits⟩ :=
    (advances_step h.bounded hstep).2 hfits
  have hbufferedDrop : s'.buffered.drop start.buffered.length =
      s.buffered.drop start.buffered.length ++ newBuffered := by
    rw [hbuffered, drop_append_of_le_length h.buffered_le]
  have hacceptedDrop : s'.accepted.drop start.accepted.length =
      s.accepted.drop start.accepted.length ++ newAccepted := by
    rw [haccepted, drop_append_of_le_length h.accepted_le]
  refine ⟨hbounded, ?_, ?_, fun id hid => ?_⟩
  · rw [hbuffered, length_append]
    exact h.buffered_le.trans (Nat.le_add_right _ _)
  · rw [haccepted, length_append]
    exact h.accepted_le.trans (Nat.le_add_right _ _)
  · rw [Carried, hbufferedDrop, hacceptedDrop]
    simp only [mem_append]
    rcases h.awaits id hid with hwaits | ⟨packet, hacks, hlogged⟩
    · rcases hawaits id hwaits with hstill | ⟨packet, hnew, hacks⟩
      · exact .inl hstill
      · rcases mem_append.mp hnew with hmem | hmem
        · exact .inr ⟨packet, hacks, .inl (.inr hmem)⟩
        · exact .inr ⟨packet, hacks, .inr (.inr hmem)⟩
    · exact .inr ⟨packet, hacks, hlogged.imp .inl .inl⟩

/-- The record is a set of at most eight ids in every run, and an id on record waits until a
packet that carries it is in the send buffer or on the link, as long as ids that are put back
find room. -/
theorem acknowledgment_waits_until_carried {s : AcknowledgingChannel}
    (hs : Reachable acknowledgingSystem s) :
    (s.pending.Nodup ∧ s.pending.length ≤ acknowledgmentSetCapacity) ∧
      ∀ s', ReachableBy (runsFrom s) ReturnsFit s' →
        ∀ id ∈ s.pending, s'.Awaits id ∨ Carried s s' id := by
  have hbounded := bounded_of_reachable hs
  refine ⟨⟨hbounded.nodup, hbounded.length_le⟩, fun s' hrun id hid => ?_⟩
  have haccounted : Accounted s s' := by
    refine hrun.invariant ?_ fun _ _ _ hstate hfits hstep => hstate.step hfits hstep
    rintro _ rfl
    exact ⟨hbounded, le_refl _, le_refl _, fun _ hid => .inl hid⟩
  exact haccounted.awaits id (.inl hid)

/-! ### Two runs -/

def fresh : AcknowledgingChannel :=
  ⟨newTLSControlChannel
    ((newSessionManagerWithLocalID (List.Vector.replicate 8 1)).setRemoteSessionID
    (List.Vector.replicate 8 2)) false [] 0 28, none, [], [], []⟩

theorem acknowledgingSystem_initial_fresh : acknowledgingSystem.initial fresh :=
  ⟨_, _, _, _, _, rfl⟩

def receives (ids : List PacketID) : List AcknowledgingEvent :=
  ids.map fun id => .receive
    { newPacket .controlV1 0 [7] with localSessionID := List.Vector.replicate 8 2, id := id }

/-- Eight ids are taken for a dedicated acknowledgment and eight others arrive before the link
refuses it: the first eight are gone, and nothing has carried them. -/
theorem acknowledgment_forgotten :
    ∃ s s', Reachable acknowledgingSystem s ∧ ReachableBy (runsFrom s) (fun _ _ => True) s' ∧
      1 ∈ s.pending ∧ ¬ s'.Awaits 1 ∧ ¬ Carried s s' 1 := by
  obtain ⟨s, hreachable, hpending, hruns⟩ : ∃ s, Reachable acknowledgingSystem s ∧ 1 ∈ s.pending ∧
      (runFrom (runsFrom s) (fun _ _ => True) s ([.take, .build] ++
        receives [9, 10, 11, 12, 13, 14, 15, 16] ++ [.link 0 false])).any (fun s' => decide
          (1 ∉ s'.pending ∧ s'.taken = none ∧ s'.outbox = [] ∧ s'.buffered = [] ∧
            s'.accepted = [])) = true :=
    exists_reachableBy acknowledgingSystem_initial_fresh (receives [1, 2, 3, 4, 5, 6, 7, 8])
      (by decide +kernel)
  obtain ⟨s', hreachable', hgone, htaken, houtbox, hbuffered, haccepted⟩ :=
    exists_reachableBy rfl _ hruns
  refine ⟨s, s', hreachable, hreachable', hpending, ?_, ?_⟩
  · simp [Awaits, hgone, htaken, houtbox]
  · simp [Carried, hbuffered, haccepted]

/-- Two ids are taken, the link refuses their acknowledgment, and they are on record again. -/
theorem acknowledgment_waits_after_refusal :
    ∃ s s', Reachable acknowledgingSystem s ∧ ReachableBy (runsFrom s) ReturnsFit s' ∧
      1 ∈ s.pending ∧ s.pending.length ≤ acknowledgmentSetCapacity ∧
      (s'.Awaits 1 ∨ Carried s s' 1) := by
  obtain ⟨s, hreachable, hpending, hruns⟩ : ∃ s, Reachable acknowledgingSystem s ∧
      1 ∈ s.pending ∧ (runFrom (runsFrom s) ReturnsFit s ([.take, .build, .link 0 false] ++
        receives [3])).isSome = true :=
    exists_reachableBy acknowledgingSystem_initial_fresh (receives [1, 2]) (by decide +kernel)
  obtain ⟨s', hs'⟩ := isSome_iff_exists.mp hruns
  have hreachable' : ReachableBy (runsFrom s) ReturnsFit s' :=
    reachableBy_of_runFrom (.start rfl) hs'
  obtain ⟨⟨-, hlength⟩, hwaits⟩ := acknowledgment_waits_until_carried hreachable
  exact ⟨s, s', hreachable, hreachable', hpending, hlength, hwaits s' hreachable' 1 hpending⟩

end AcknowledgingChannel

end SingOpenVPN
