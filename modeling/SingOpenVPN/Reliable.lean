import Mathlib.Data.List.Perm.Subperm
import Mathlib.Data.List.Sort
import SingOpenVPN.SessionManager

/-!
# The reliable layer (`proto/reliable.go`)

The outgoing half keeps the packets in flight and the ids it still has to
acknowledge; the incoming half buffers packets until the ones before them have
arrived.  Go's id sets are lists without duplicates here, read only through
membership, size and their sorted contents.
-/

namespace SingOpenVPN

open List UInt32

/-! ### Constants -/

def reliableSendBufferSize : Nat := 6
def reliableReceiveBufferSize : Nat := 12
def maximumAcknowledgmentsPerPacket : Nat := 4
def acknowledgmentSetCapacity : Nat := 8
def initialRetransmissionTimeout : Duration := 2 * 10 ^ 9
def maximumRetransmissionTimeout : Duration := 60 * 10 ^ 9
def fastRetransmissionACKThreshold : Nat := 3

/-! ### The outgoing half -/

/-- `inFlightPacket`.  The deadline is `none` before the first transmission. -/
structure InFlightPacket where
  packet : Packet
  retransmissionDeadline : Option Time
  higherPacketAcknowledges : Nat
  retransmissionCount : Nat
deriving DecidableEq

def InFlightPacket.fresh (packet : Packet) : InFlightPacket := ⟨packet, none, 0, 0⟩

def toInt64 (value : Int) : Int := Int.bmod value (2 ^ 64)

/-- `scheduleForRetransmission`.  The shift and the product are `int64`
    operations. -/
def InFlightPacket.scheduleForRetransmission (p : InFlightPacket) (now : Time) : InFlightPacket :=
  let retransmissionCount := p.retransmissionCount + 1
  let factor := toInt64 (2 ^ (retransmissionCount - 1))
  let retransmissionInterval :=
    min (toInt64 (initialRetransmissionTimeout * factor)) maximumRetransmissionTimeout
  { p with
    retransmissionCount := retransmissionCount
    retransmissionDeadline := some (now + retransmissionInterval) }

structure OutgoingReliableState where
  inFlightPackets : List InFlightPacket
  pendingAcknowledgmentID : List PacketID
deriving DecidableEq

def newOutgoingReliableState : OutgoingReliableState := ⟨[], []⟩

/-- The order of `sort.SliceStable` on the packets in flight. -/
def sortInFlight (packets : List InFlightPacket) : List InFlightPacket :=
  packets.insertionSort fun left right => left.packet.id ≤ right.packet.id

/-- The inner loop of `OnIncomingPacket` for one acknowledged id: a match is
    replaced by the last packet and the index is examined again, so each round
    either shortens the list or moves on.  The list's length is fuel enough. -/
def acknowledgeLoop (acknowledgedID : PacketID) :
    Nat → Nat → List InFlightPacket → List InFlightPacket
  | 0, _, packets => packets
  | fuel + 1, packetIndex, packets =>
    match packets[packetIndex]?, packets.getLast? with
    | some trackedPacket, some lastPacket =>
      if acknowledgedID = trackedPacket.packet.id then
        acknowledgeLoop acknowledgedID fuel packetIndex
          (packets.set packetIndex lastPacket).dropLast
      else if trackedPacket.packet.id < acknowledgedID then
        acknowledgeLoop acknowledgedID fuel (packetIndex + 1)
          (packets.set packetIndex
            { trackedPacket with
              higherPacketAcknowledges := trackedPacket.higherPacketAcknowledges + 1 })
      else acknowledgeLoop acknowledgedID fuel (packetIndex + 1) packets
    | _, _ => packets

def acknowledgeOne (packets : List InFlightPacket) (acknowledgedID : PacketID) :
    List InFlightPacket := acknowledgeLoop acknowledgedID packets.length 0 packets

variable (s : OutgoingReliableState)

namespace OutgoingReliableState

/-- `takeAcknowledgmentIDsLocked`: the lowest ids, up to `maximumCount`. -/
def takeAcknowledgmentIDsLocked (maximumCount : Nat) :
    List PacketID × OutgoingReliableState :=
  let acknowledgmentIDs := (s.pendingAcknowledgmentID.insertionSort (· ≤ ·)).take maximumCount
  (acknowledgmentIDs, { s with
    pendingAcknowledgmentID := s.pendingAcknowledgmentID.filter (· ∉ acknowledgmentIDs) })

/-- `returnAcknowledgmentIDsLocked`: stops at the first id the set has no room
    for. -/
def returnAcknowledgmentIDsLocked (s : OutgoingReliableState) :
    List PacketID → OutgoingReliableState
  | [] => s
  | acknowledgmentID :: others =>
    if acknowledgmentID ∉ s.pendingAcknowledgmentID ∧
        acknowledgmentSetCapacity ≤ s.pendingAcknowledgmentID.length then s
    else returnAcknowledgmentIDsLocked
      { s with pendingAcknowledgmentID := s.pendingAcknowledgmentID.insert acknowledgmentID } others

/-- `InsertOutgoingPacket`.  `newPacket` runs under the lock and may advance the
    state `σ` its packet ids come from; a full send buffer takes nothing. -/
def insertOutgoingPacket {σ ε : Type} (maximumAcknowledgments : Nat)
    (newPacket : List PacketID → Except ε (Packet × σ)) :
    Except ε (Option (Packet × σ)) × OutgoingReliableState :=
  if reliableSendBufferSize ≤ s.inFlightPackets.length then (.ok none, s)
  else
    let (acknowledgmentIDs, taken) := s.takeAcknowledgmentIDsLocked maximumAcknowledgments
    match newPacket acknowledgmentIDs with
    | .error err => (.error err, taken.returnAcknowledgmentIDsLocked acknowledgmentIDs)
    | .ok (packet, state) => (.ok (some (packet, state)), { taken with
        inFlightPackets := sortInFlight (taken.inFlightPackets ++ [InFlightPacket.fresh packet]) })

/-- `OnIncomingPacket`: note the id for acknowledgment while the set has room,
    then drop what the packet acknowledges. -/
def onIncomingPacket (packet : Packet) : OutgoingReliableState where
  pendingAcknowledgmentID :=
    if packet.opcode ≠ .acknowledgmentV1 ∧
        s.pendingAcknowledgmentID.length < acknowledgmentSetCapacity then
      s.pendingAcknowledgmentID.insert packet.id
    else s.pendingAcknowledgmentID
  inFlightPackets := sortInFlight (packet.acknowledgmentIDs.foldl acknowledgeOne s.inFlightPackets)

/-- A packet is due: never sent, past its deadline, or overtaken three times. -/
def isReady (now : Time) (p : InFlightPacket) : Bool :=
  (match p.retransmissionDeadline with
    | none => true
    | some deadline => deadline ≤ now) ||
  fastRetransmissionACKThreshold ≤ p.higherPacketAcknowledges

def packetsReadyToSend (now : Time) :
    List Packet × OutgoingReliableState :=
  ((s.inFlightPackets.filter (isReady now)).map InFlightPacket.packet, { s with
    inFlightPackets := s.inFlightPackets.map fun p =>
      if isReady now p then p.scheduleForRetransmission now else p })

end OutgoingReliableState

/-! ### The incoming half -/

structure IncomingReliableState where
  pendingPackets : List Packet
  bufferedID : List PacketID
  lastConsumedID : PacketID
deriving DecidableEq

def newIncomingReliableState : IncomingReliableState := ⟨[], [], 0⟩

namespace IncomingReliableState

/-- `TryInsertIncomingPacket`.  The distance to the next expected id is
    `uint32` arithmetic. -/
def tryInsertIncomingPacket (s : IncomingReliableState) (packet : Packet) :
    Bool × IncomingReliableState :=
  if packet.id ≤ s.lastConsumedID then (false, s)
  else if packet.id ∈ s.bufferedID then (false, s)
  else if reliableReceiveBufferSize ≤ (packet.id - (s.lastConsumedID + 1)).toNat then (false, s)
  else if reliableReceiveBufferSize ≤ s.pendingPackets.length then (false, s)
  else (true, { s with
    pendingPackets := s.pendingPackets ++ [packet]
    bufferedID := s.bufferedID.insert packet.id })

/-- The loop of `NextOrderedSequence` over the sorted packets. -/
def orderedLoop (s : IncomingReliableState) : List Packet → List Packet × IncomingReliableState
  | [] => ([], { s with pendingPackets := [] })
  | packet :: packets =>
    if packet.id = s.lastConsumedID + 1 then
      let (readyPackets, s) := orderedLoop { s with
        bufferedID := s.bufferedID.filter (· ≠ packet.id)
        lastConsumedID := packet.id } packets
      (packet :: readyPackets, s)
    else
      let (readyPackets, s') := orderedLoop s packets
      if s.lastConsumedID + 1 < packet.id then
        (readyPackets, { s' with pendingPackets := packet :: s'.pendingPackets })
      else (readyPackets, s')

def nextOrderedSequence (s : IncomingReliableState) : List Packet × IncomingReliableState :=
  orderedLoop s (s.pendingPackets.insertionSort fun left right => left.id ≤ right.id)

theorem length_orderedLoop_le (s : IncomingReliableState) (packets : List Packet) :
    (s.orderedLoop packets).1.length ≤ packets.length := by
  induction packets generalizing s with
  | nil => exact le_rfl
  | cons packet packets ih =>
    rw [orderedLoop]
    split_ifs
    · exact Nat.succ_le_succ (ih _)
    · exact (ih s).trans (Nat.le_succ _)
    · exact (ih s).trans (Nat.le_succ _)

end IncomingReliableState

/-! ### The acknowledgment loop removes what it should -/

/-- What one acknowledged id does to a packet that stays in flight. -/
def noteHigher (acknowledgedID : PacketID) (p : InFlightPacket) : InFlightPacket :=
  if p.packet.id < acknowledgedID then
    { p with higherPacketAcknowledges := p.higherPacketAcknowledges + 1 }
  else p

variable (acknowledgedID : PacketID)

@[simp] theorem noteHigher_packet (p : InFlightPacket) :
    (noteHigher acknowledgedID p).packet = p.packet := by
  unfold noteHigher
  split <;> rfl

def unacknowledged (acknowledgedID : PacketID) (packets : List InFlightPacket) :
    List InFlightPacket :=
  (packets.filter (·.packet.id ≠ acknowledgedID)).map (noteHigher acknowledgedID)

theorem unacknowledged_perm {left right : List InFlightPacket}
    (h : left.Perm right) :
    (unacknowledged acknowledgedID left).Perm (unacknowledged acknowledgedID right) :=
  (h.filter _).map _

/-- The loop at the end of `front`: the rest is reduced, in some order. -/
theorem acknowledgeLoop_perm (fuel : Nat)
    (front rest : List InFlightPacket) (hfuel : rest.length ≤ fuel) :
    (acknowledgeLoop acknowledgedID fuel front.length (front ++ rest)).Perm
      (front ++ unacknowledged acknowledgedID rest) := by
  induction fuel generalizing front rest with
  | zero =>
    obtain rfl : rest = [] := length_eq_zero_iff.mp (Nat.le_zero.mp hfuel)
    simp [acknowledgeLoop, unacknowledged]
  | succ fuel ih =>
    cases rest with
    | nil => simp [acknowledgeLoop, unacknowledged]
    | cons current rest =>
      have hlast : (front ++ current :: rest).getLast? =
          some ((current :: rest).getLast (by simp)) := by
        rw [List.getLast?_append, List.getLast?_eq_some_getLast (by simp)]
        rfl
      have hget : (front ++ current :: rest)[front.length]? = some current := by simp
      rw [acknowledgeLoop, hget, hlast]
      dsimp only
      split
      · next hmatch =>
        -- the last packet moves into the gap
        rcases eq_nil_or_concat rest with rfl | ⟨middle, lastPacket, rfl⟩
        · have hnext := ih front [] (Nat.zero_le _)
          simpa [unacknowledged, hmatch.symm] using hnext
        · have hnext := ih front (lastPacket :: middle) (by simpa using hfuel)
          have hlist : ((front ++ current :: (middle ++ [lastPacket])).set front.length
              ((current :: (middle ++ [lastPacket])).getLast (by simp))).dropLast =
              front ++ lastPacket :: middle := by
            rw [getLast_cons (by simp), getLast_append_singleton,
              set_append_right _ _ (le_refl _), Nat.sub_self, set_cons_zero,
              ← cons_append, ← append_assoc, dropLast_concat]
          rw [concat_eq_append, hlist]
          refine hnext.trans (List.Perm.append_left front ?_)
          have hskip : unacknowledged acknowledgedID (current :: (middle ++ [lastPacket])) =
              unacknowledged acknowledgedID (middle ++ [lastPacket]) := by
            simp [unacknowledged, hmatch.symm]
          rw [hskip]
          exact unacknowledged_perm acknowledgedID (perm_append_singleton lastPacket middle).symm
      · next hother =>
        have hkeep : unacknowledged acknowledgedID (current :: rest) =
            noteHigher acknowledgedID current :: unacknowledged acknowledgedID rest := by
          simp [unacknowledged, Ne.symm hother]
        split
        · next hlower =>
          have hnext :=
            ih (front ++ [noteHigher acknowledgedID current]) rest (by simpa using hfuel)
          rw [hkeep]
          simpa [noteHigher, hlower] using hnext
        · next hlower =>
          have hnext := ih (front ++ [current]) rest (by simpa using hfuel)
          rw [hkeep]
          simpa [noteHigher, hlower] using hnext

theorem acknowledgeOne_perm (packets : List InFlightPacket) (acknowledgedID : PacketID) :
    (acknowledgeOne packets acknowledgedID).Perm (unacknowledged acknowledgedID packets) := by
  have h := acknowledgeLoop_perm acknowledgedID packets.length [] packets (le_refl _)
  exact h

theorem map_packet_unacknowledged (packets : List InFlightPacket) :
    (unacknowledged acknowledgedID packets).map InFlightPacket.packet =
      (packets.map InFlightPacket.packet).filter (·.id ≠ acknowledgedID) := by
  rw [unacknowledged, map_map, filter_map]
  exact map_congr_left fun p _ => noteHigher_packet acknowledgedID p

theorem foldl_acknowledgeOne_perm (acknowledgmentIDs : List PacketID)
    (packets : List InFlightPacket) :
    ((acknowledgmentIDs.foldl acknowledgeOne packets).map InFlightPacket.packet).Perm
      ((packets.map InFlightPacket.packet).filter (·.id ∉ acknowledgmentIDs)) := by
  induction acknowledgmentIDs generalizing packets with
  | nil => simp
  | cons acknowledgedID others ih =>
    have hone : ((acknowledgeOne packets acknowledgedID).map InFlightPacket.packet).Perm
        ((packets.map InFlightPacket.packet).filter (·.id ≠ acknowledgedID)) := by
      rw [← map_packet_unacknowledged]
      exact (acknowledgeOne_perm packets acknowledgedID).map _
    refine (ih _).trans ((hone.filter _).trans (List.Perm.of_eq ?_))
    rw [filter_filter]
    apply filter_congr
    intro packet _
    simp [Bool.and_comm]

/-! ### The send buffer -/

namespace OutgoingReliableState

variable (s : OutgoingReliableState)

def packets : List Packet := s.inFlightPackets.map InFlightPacket.packet

theorem mem_packets_sortInFlight (inFlight : List InFlightPacket) (packet : Packet) :
    packet ∈ (sortInFlight inFlight).map InFlightPacket.packet ↔
      packet ∈ inFlight.map InFlightPacket.packet :=
  ((perm_insertionSort _ inFlight).map _).mem_iff

theorem mem_packets_insert {s s' : OutgoingReliableState} {packet : Packet}
    (h : s'.inFlightPackets = sortInFlight (s.inFlightPackets ++ [.fresh packet]))
    (other : Packet) : other ∈ s'.packets ↔ other ∈ s.packets ∨ other = packet := by
  rw [packets, h, mem_packets_sortInFlight, map_append, mem_append]
  simp [packets, InFlightPacket.fresh]

theorem mem_packets_onIncomingPacket (incoming packet : Packet) :
    packet ∈ (s.onIncomingPacket incoming).packets ↔
      packet ∈ s.packets ∧ packet.id ∉ incoming.acknowledgmentIDs := by
  rw [packets, onIncomingPacket, mem_packets_sortInFlight,
    (foldl_acknowledgeOne_perm _ _).mem_iff, mem_filter]
  simp [packets]

theorem mem_packets_of_onIncomingPacket {s : OutgoingReliableState} {incoming packet : Packet}
    (h : packet ∈ (s.onIncomingPacket incoming).packets) : packet ∈ s.packets :=
  ((s.mem_packets_onIncomingPacket incoming packet).mp h).1

theorem mem_pending_onIncomingPacket {incoming : Packet} {id : PacketID}
    (h : id ∈ (s.onIncomingPacket incoming).pendingAcknowledgmentID) :
    id ∈ s.pendingAcknowledgmentID ∨ (id = incoming.id ∧ incoming.opcode ≠ .acknowledgmentV1 ∧
      s.pendingAcknowledgmentID.length < acknowledgmentSetCapacity) := by
  unfold onIncomingPacket at h
  split at h
  · next hroom =>
    rcases mem_insert_iff.mp h with rfl | hmem
    · exact .inr ⟨rfl, hroom⟩
    · exact .inl hmem
  · exact .inl h

/-! ### Taking and returning acknowledgment ids -/

variable {acknowledgmentIDs : List PacketID}

theorem takeAcknowledgmentIDsLocked_spec {s s' : OutgoingReliableState} {maximumCount : Nat}
    (h : s.takeAcknowledgmentIDsLocked maximumCount = (acknowledgmentIDs, s')) :
    s'.packets = s.packets ∧
    (∀ id ∈ acknowledgmentIDs, id ∈ s.pendingAcknowledgmentID) ∧
    ∀ id ∈ s'.pendingAcknowledgmentID, id ∈ s.pendingAcknowledgmentID := by
  obtain ⟨rfl, rfl⟩ := Prod.mk.inj h
  refine ⟨rfl, ?_, ?_⟩
  · intro id hid
    exact (perm_insertionSort _ _).mem_iff.mp (mem_of_mem_take hid)
  · intro id hid
    exact (mem_filter.mp hid).1

theorem pending_returnAcknowledgmentIDsLocked {s : OutgoingReliableState}
    {id : PacketID}
    (h : id ∈ (s.returnAcknowledgmentIDsLocked acknowledgmentIDs).pendingAcknowledgmentID) :
    id ∈ s.pendingAcknowledgmentID ∨ id ∈ acknowledgmentIDs := by
  induction acknowledgmentIDs generalizing s with
  | nil => exact .inl h
  | cons acknowledgmentID others ih =>
    rw [returnAcknowledgmentIDsLocked] at h
    split at h
    · exact .inl h
    · rcases ih h with hmem | hmem
      · rcases mem_insert_iff.mp hmem with rfl | hold
        · exact .inr mem_cons_self
        · exact .inl hold
      · exact .inr (mem_cons_of_mem _ hmem)

@[simp] theorem inFlightPackets_returnAcknowledgmentIDsLocked
    (acknowledgmentIDs : List PacketID) :
    (s.returnAcknowledgmentIDsLocked acknowledgmentIDs).inFlightPackets = s.inFlightPackets := by
  induction acknowledgmentIDs generalizing s with
  | nil => rfl
  | cons acknowledgmentID others ih =>
    rw [returnAcknowledgmentIDsLocked]
    split
    · rfl
    · rw [ih]

@[simp] theorem packets_returnAcknowledgmentIDsLocked
    (acknowledgmentIDs : List PacketID) :
    (s.returnAcknowledgmentIDsLocked acknowledgmentIDs).packets = s.packets := by
  rw [packets, inFlightPackets_returnAcknowledgmentIDsLocked, packets]

/-- Everything `InsertOutgoingPacket` can do: nothing, fail with the taken ids
    put back, or hold the new packet. -/
theorem insertOutgoingPacket_cases {σ ε : Type} {s s' : OutgoingReliableState} {maximum : Nat}
    {newPacket : List PacketID → Except ε (Packet × σ)}
    {result : Except ε (Option (Packet × σ))}
    (h : s.insertOutgoingPacket maximum newPacket = (result, s')) :
    let taken := s.takeAcknowledgmentIDsLocked maximum
    (result = .ok none ∧ s' = s) ∨
    (∃ err, result = .error err ∧ s' = taken.2.returnAcknowledgmentIDsLocked taken.1) ∨
    (∃ packet state, result = .ok (some (packet, state)) ∧
      newPacket taken.1 = .ok (packet, state) ∧ s' = { taken.2 with
        inFlightPackets :=
          sortInFlight (s.inFlightPackets ++ [InFlightPacket.fresh packet]) }) := by
  unfold insertOutgoingPacket at h
  split at h
  · obtain ⟨rfl, rfl⟩ := Prod.mk.inj h
    exact .inl ⟨rfl, rfl⟩
  · dsimp only at h
    split at h
    · next err _ =>
      obtain ⟨rfl, rfl⟩ := Prod.mk.inj h
      exact .inr (.inl ⟨err, rfl, rfl⟩)
    · next packet state hnew =>
      obtain ⟨rfl, rfl⟩ := Prod.mk.inj h
      exact .inr (.inr ⟨packet, state, rfl, hnew, rfl⟩)

@[simp] theorem packets_packetsReadyToSend (now : Time) :
    (s.packetsReadyToSend now).2.packets = s.packets := by
  rw [packets, packetsReadyToSend, map_map]
  apply map_congr_left
  intro p _
  simp only [Function.comp]
  split <;> rfl

theorem mem_packetsReadyToSend {now : Time} {packet : Packet}
    (h : packet ∈ (s.packetsReadyToSend now).1) : packet ∈ s.packets := by
  obtain ⟨p, hp, rfl⟩ := mem_map.mp h
  exact mem_map.mpr ⟨p, (mem_filter.mp hp).1, rfl⟩

end OutgoingReliableState

/-! ### The receive buffer -/

namespace IncomingReliableState

/-- The buffer holds distinct ids inside the receive window, and the id set
    mirrors it. -/
structure Windowed (s : IncomingReliableState) : Prop where
  gt : ∀ packet ∈ s.pendingPackets, s.lastConsumedID.toNat < packet.id.toNat
  le : ∀ packet ∈ s.pendingPackets,
    packet.id.toNat ≤ s.lastConsumedID.toNat + reliableReceiveBufferSize
  lt_last : ∀ packet ∈ s.pendingPackets, packet.id.toNat < 2 ^ 32 - 1
  consumed_lt : s.lastConsumedID.toNat < 2 ^ 32 - 1
  nodup : (s.pendingPackets.map Packet.id).Nodup
  buffered : ∀ id, id ∈ s.bufferedID ↔ id ∈ s.pendingPackets.map Packet.id

theorem windowed_newIncomingReliableState : Windowed newIncomingReliableState := by
  constructor <;> simp [newIncomingReliableState]

/-- The ids of the packets a sorted, duplicate-free buffer releases follow the
    last consumed one without a gap; the others stay, and nothing is dropped. -/
theorem orderedLoop_spec (packets : List Packet) (s : IncomingReliableState)
    (hsorted : packets.Pairwise fun left right => left.id.toNat < right.id.toNat)
    (hgt : ∀ packet ∈ packets, s.lastConsumedID.toNat < packet.id.toNat)
    (hlast : ∀ packet ∈ packets, packet.id.toNat < 2 ^ 32 - 1) :
    (s.orderedLoop packets).1 ++ (s.orderedLoop packets).2.pendingPackets = packets ∧
    (s.orderedLoop packets).1.map (fun packet => packet.id.toNat) =
      List.range' (s.lastConsumedID.toNat + 1) (s.orderedLoop packets).1.length ∧
    (s.orderedLoop packets).2.lastConsumedID.toNat =
      s.lastConsumedID.toNat + (s.orderedLoop packets).1.length ∧
    (∀ id, id ∈ (s.orderedLoop packets).2.bufferedID ↔
      id ∈ s.bufferedID ∧ id ∉ (s.orderedLoop packets).1.map Packet.id) := by
  induction packets generalizing s with
  | nil => simp [orderedLoop]
  | cons packet packets ih =>
    obtain ⟨hbelow, hrest⟩ := pairwise_cons.mp hsorted
    have hpacket := hgt packet mem_cons_self
    have hpacketLast := hlast packet mem_cons_self
    have hlastRest : ∀ other ∈ packets, other.id.toNat < 2 ^ 32 - 1 := fun other hother =>
      hlast other (mem_cons_of_mem _ hother)
    have hnext : (s.lastConsumedID + 1).toNat = s.lastConsumedID.toNat + 1 :=
      SessionManager.toNat_succ_of_lt (by omega)
    rw [orderedLoop]
    split
    · next heq =>
      -- the expected packet: released, and the expectation moves on
      have hid : packet.id.toNat = s.lastConsumedID.toNat + 1 := by rw [heq, hnext]
      obtain ⟨hsplit, hids, hconsumed, hbuffered⟩ := ih { s with
        bufferedID := s.bufferedID.filter (· ≠ packet.id)
        lastConsumedID := packet.id } hrest hbelow hlastRest
      refine ⟨by rw [cons_append, hsplit], ?_, ?_, ?_⟩
      · rw [map_cons, hids, length_cons, List.range'_succ, hid]
      · rw [hconsumed, hid, length_cons]
        omega
      · intro id
        rw [hbuffered, mem_filter, map_cons, mem_cons]
        simp only [ne_eq, decide_not, Bool.not_eq_true', decide_eq_false_iff_not, not_or, and_assoc]
    · next hne =>
      have hgap : s.lastConsumedID.toNat + 1 < packet.id.toNat := by
        have : packet.id.toNat ≠ (s.lastConsumedID + 1).toNat := fun heq =>
          hne (UInt32.toNat_inj.mp heq)
        omega
      obtain ⟨hsplit, hids, hconsumed, hbuffered⟩ := ih s hrest
        (fun other hother => lt_trans hpacket (hbelow other hother)) hlastRest
      -- a gap: every later packet lies beyond it
      have hnone : (s.orderedLoop packets).1 = [] := by
        cases hready : (s.orderedLoop packets).1 with
        | nil => rfl
        | cons first others =>
          rw [hready, map_cons, length_cons, List.range'_succ] at hids
          have hfirst := hbelow first (by rw [← hsplit, hready]; simp)
          have := (List.cons.inj hids).1
          omega
      rw [hnone] at hsplit hids hconsumed hbuffered
      have hretain : s.lastConsumedID + 1 < packet.id := by
        rw [lt_iff_toNat_lt, hnext]
        exact hgap
      dsimp only
      rw [if_pos hretain, hnone]
      refine ⟨?_, rfl, hconsumed, hbuffered⟩
      rw [nil_append] at hsplit ⊢
      rw [hsplit]

variable {s : IncomingReliableState}

theorem nextOrderedSequence_spec (h : Windowed s) :
    (s.nextOrderedSequence.1 ++ s.nextOrderedSequence.2.pendingPackets).Perm s.pendingPackets ∧
    s.nextOrderedSequence.1.map (fun packet => packet.id.toNat) =
      List.range' (s.lastConsumedID.toNat + 1) s.nextOrderedSequence.1.length ∧
    s.nextOrderedSequence.2.lastConsumedID.toNat =
      s.lastConsumedID.toNat + s.nextOrderedSequence.1.length ∧
    Windowed s.nextOrderedSequence.2 := by
  unfold nextOrderedSequence
  have hperm := perm_insertionSort (fun left right : Packet => left.id ≤ right.id)
    s.pendingPackets
  have hmem := fun packet => hperm.mem_iff (a := packet)
  have hstrict : (s.pendingPackets.insertionSort fun left right => left.id ≤ right.id).Pairwise
      fun left right => left.id.toNat < right.id.toNat := by
    have hle : (s.pendingPackets.insertionSort fun left right : Packet =>
        left.id ≤ right.id).Pairwise fun left right => left.id ≤ right.id :=
      haveI : Std.Total fun left right : Packet => left.id ≤ right.id :=
        ⟨fun left right => UInt32.le_total left.id right.id⟩
      haveI : IsTrans Packet fun left right => left.id ≤ right.id :=
        ⟨fun _ _ _ hfirst hsecond => UInt32.le_trans hfirst hsecond⟩
      pairwise_insertionSort _ _
    have hne := pairwise_map.mp (nodup_iff_pairwise_ne.mp
      ((hperm.map Packet.id).nodup_iff.mpr h.nodup))
    refine hle.imp₂ ?_ hne
    intro left right hfirst hsecond
    exact lt_of_le_of_ne hfirst fun heq => hsecond (UInt32.toNat_inj.mp heq)
  obtain ⟨hsplit, hids, hconsumed, hbuffered⟩ := orderedLoop_spec _ s hstrict
    (fun packet hpacket => h.gt packet ((hmem packet).mp hpacket))
    (fun packet hpacket => h.lt_last packet ((hmem packet).mp hpacket))
  have hsplitPerm := (List.Perm.of_eq hsplit).trans hperm
  refine ⟨hsplitPerm, hids, hconsumed, ?_⟩
  generalize s.orderedLoop _ = result at *
  obtain ⟨ready, s'⟩ := result
  dsimp only at *
  have hretained : ∀ packet ∈ s'.pendingPackets, packet ∈ s.pendingPackets := fun packet hpacket =>
    hsplitPerm.mem_iff.mp (mem_append_right _ hpacket)
  rw [← hsplit, pairwise_append] at hstrict
  -- the last released packet carries the new last consumed id
  have hnewest : ready = [] ∨ ∃ packet ∈ ready, packet.id.toNat = s'.lastConsumedID.toNat := by
    rcases eq_nil_or_concat ready with hnil | ⟨front, packet, rfl⟩
    · exact .inl hnil
    · right
      have hin : s'.lastConsumedID.toNat ∈
          (front.concat packet).map fun packet => packet.id.toNat := by
        rw [hids, hconsumed, length_concat, mem_range'_1]
        omega
      obtain ⟨newest, hmemNewest, heq⟩ := mem_map.mp hin
      exact ⟨newest, hmemNewest, heq⟩
  have hnodup : (ready.map Packet.id ++ s'.pendingPackets.map Packet.id).Nodup := by
    rw [← map_append]
    exact (hsplitPerm.map Packet.id).nodup_iff.mpr h.nodup
  refine ⟨?_, ?_, fun packet hpacket => h.lt_last packet (hretained packet hpacket), ?_,
    (nodup_append.mp hnodup).2.1, ?_⟩
  · intro packet hpacket
    rcases hnewest with rfl | ⟨newest, hready, heq⟩
    · rw [hconsumed]
      exact h.gt packet (hretained packet hpacket)
    · rw [← heq]
      exact hstrict.2.2 newest hready packet hpacket
  · intro packet hpacket
    have := h.le packet (hretained packet hpacket)
    omega
  · rcases hnewest with rfl | ⟨newest, hready, heq⟩
    · rw [hconsumed]
      exact h.consumed_lt
    · rw [← heq]
      exact h.lt_last newest (hsplitPerm.mem_iff.mp (mem_append_left _ hready))
  · intro id
    rw [hbuffered, h.buffered, ← (hsplitPerm.map Packet.id).mem_iff, map_append,
      mem_append]
    constructor
    · rintro ⟨hin | hin, hout⟩
      · exact absurd hin hout
      · exact hin
    · intro hin
      exact ⟨.inr hin, fun hready => (nodup_append.mp hnodup).2.2 id hready id hin rfl⟩

/-- The ids of a windowed buffer together with a missing id of the window take
    at most the twelve places the window has. -/
theorem Windowed.length_lt (h : Windowed s) {packet : Packet}
    (hgt : s.lastConsumedID.toNat < packet.id.toNat)
    (hle : packet.id.toNat ≤ s.lastConsumedID.toNat + reliableReceiveBufferSize)
    (hfresh : packet.id ∉ s.pendingPackets.map Packet.id) :
    s.pendingPackets.length < reliableReceiveBufferSize := by
  have hnodup : ((packet :: s.pendingPackets).map fun other => other.id.toNat).Nodup := by
    have hids : ((packet :: s.pendingPackets).map Packet.id).Nodup :=
      nodup_cons.mpr ⟨hfresh, h.nodup⟩
    have hcomp := hids.map fun _ _ => UInt32.toNat_inj.mp
    rwa [map_map] at hcomp
  have hwindow : ((packet :: s.pendingPackets).map fun other => other.id.toNat) ⊆
      List.range' (s.lastConsumedID.toNat + 1) reliableReceiveBufferSize := by
    intro id hid
    obtain ⟨other, hother, rfl⟩ := mem_map.mp hid
    rw [mem_range'_1]
    rcases mem_cons.mp hother with rfl | hpending
    · omega
    · have hlow := h.gt other hpending
      have hhigh := h.le other hpending
      omega
  have hlength := (subperm_of_subset hnodup hwindow).length_le
  rw [length_map, length_cons, length_range'] at hlength
  exact hlength

/-- What `TryInsertIncomingPacket` answers on a windowed buffer: it refuses what
    was consumed, what is buffered and what lies beyond the window. -/
theorem tryInsertIncomingPacket_cases (h : Windowed s)
    {packet : Packet} (hlast : packet.id.toNat < 2 ^ 32 - 1) :
    (s.tryInsertIncomingPacket packet = (false, s) ∧
      (packet.id.toNat ≤ s.lastConsumedID.toNat ∨
        packet.id ∈ s.pendingPackets.map Packet.id ∨
        s.lastConsumedID.toNat + reliableReceiveBufferSize < packet.id.toNat)) ∨
    ∃ s', s.tryInsertIncomingPacket packet = (true, s') ∧ Windowed s' ∧
      s'.pendingPackets = s.pendingPackets ++ [packet] ∧ s'.lastConsumedID = s.lastConsumedID := by
  unfold tryInsertIncomingPacket
  by_cases hconsumed : packet.id ≤ s.lastConsumedID
  · rw [if_pos hconsumed]
    exact .inl ⟨rfl, .inl (le_iff_toNat_le.mp hconsumed)⟩
  rw [if_neg hconsumed]
  have hgt : s.lastConsumedID.toNat < packet.id.toNat := by
    rw [le_iff_toNat_le] at hconsumed
    omega
  by_cases hbuffered : packet.id ∈ s.bufferedID
  · rw [if_pos hbuffered]
    exact .inl ⟨rfl, .inr (.inl ((h.buffered packet.id).mp hbuffered))⟩
  rw [if_neg hbuffered]
  have hfresh : packet.id ∉ s.pendingPackets.map Packet.id := fun hin =>
    hbuffered ((h.buffered packet.id).mpr hin)
  -- no wrap-around: the id lies above the last consumed one
  have hnext : (s.lastConsumedID + 1).toNat = s.lastConsumedID.toNat + 1 :=
    SessionManager.toNat_succ_of_lt h.consumed_lt
  have hdistance : (packet.id - (s.lastConsumedID + 1)).toNat =
      packet.id.toNat - (s.lastConsumedID.toNat + 1) := by
    rw [UInt32.toNat_sub_of_le _ _ (by rw [UInt32.le_iff_toNat_le, hnext]; exact hgt), hnext]
  rw [hdistance]
  by_cases hwindow : reliableReceiveBufferSize ≤ packet.id.toNat - (s.lastConsumedID.toNat + 1)
  · rw [if_pos hwindow]
    exact .inl ⟨rfl, .inr (.inr (by omega))⟩
  rw [if_neg hwindow]
  have hle : packet.id.toNat ≤ s.lastConsumedID.toNat + reliableReceiveBufferSize := by omega
  rw [if_neg (Nat.not_le.mpr (h.length_lt hgt hle hfresh))]
  refine .inr ⟨_, rfl, ?_, rfl, rfl⟩
  have hcases : ∀ other ∈ s.pendingPackets ++ [packet],
      other ∈ s.pendingPackets ∨ other = packet := by simp
  refine ⟨?_, ?_, ?_, h.consumed_lt, ?_, ?_⟩
  · intro other hother
    rcases hcases other hother with hold | rfl
    · exact h.gt other hold
    · exact hgt
  · intro other hother
    rcases hcases other hother with hold | rfl
    · exact h.le other hold
    · exact hle
  · intro other hother
    rcases hcases other hother with hold | rfl
    · exact h.lt_last other hold
    · exact hlast
  · rw [map_append, nodup_append]
    refine ⟨h.nodup, nodup_singleton _, ?_⟩
    intro id hid other hother heq
    rw [mem_singleton.mp hother] at heq
    exact hfresh (heq ▸ hid)
  · intro id
    rw [mem_insert_iff, h.buffered, map_append, mem_append, or_comm]
    simp

end IncomingReliableState

end SingOpenVPN
