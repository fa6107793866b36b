import SingOpenVPN.PacketQueue
import SingOpenVPN.SessionIDCookie

/-!
# The packet connection of a UDP peer (`udp_peer_conn.go`)

One listener carries every peer, so a session reads from a queue of datagrams that
the listener fills.  A read takes a batch of them and notes one source address for
the whole batch; the queue is cut where the source changes, which makes that address
the source of every datagram of the batch (`readPackets_eq_some`).

The address a session sends to, `remoteAddress`, is a field of the session in the
registry.  Deadlines and writing are left out.
-/

namespace SingOpenVPN

open DataPacketQueue

/-! ### Addresses of peers -/

structure PeerAddress where
  address : UDPAddr
  valid : address.Valid
deriving DecidableEq

def PeerAddress.netAddr (peer : PeerAddress) : NetAddr := .udp peer.address

def ipEqual (left right : Bytes) : Bool :=
  if left.length = right.length then decide (left = right)
  else if left.length = 4 ∧ right.length = 16 then
    decide (right.take 12 = v4InV6Prefix ∧ left = right.drop 12)
  else if left.length = 16 ∧ right.length = 4 then
    decide (left.take 12 = v4InV6Prefix ∧ left.drop 12 = right)
  else false

def NetAddr.networkName : NetAddr → Bytes
  | .udp _ => "udp".toUTF8.toList
  | .other network _ => network

variable (text : NetAddr → String)

def equalPacketSource (left right : Option NetAddr) : Bool :=
  match left, right with
  | none, none => true
  | some (.udp left), some (.udp right) =>
    decide (left.port = right.port ∧ left.zone = right.zone) && ipEqual left.ip right.ip
  | some left, some right =>
    decide (left.networkName = right.networkName ∧ text left = text right)
  | _, _ => false

theorem mapped_eq_iff {short long : Bytes} :
    v4InV6Prefix ++ short = long ↔ long.take 12 = v4InV6Prefix ∧ short = long.drop 12 := by
  constructor
  · rintro rfl
    exact ⟨rfl, rfl⟩
  · rintro ⟨hfront, hback⟩
    rw [hback, ← hfront, List.take_append_drop]

theorem ipEqual_iff {left right : Bytes} (hleft : left.length = 4 ∨ left.length = 16)
    (hright : right.length = 4 ∨ right.length = 16) :
    ipEqual left right = true ↔ to16 left = to16 right := by
  unfold ipEqual to16
  rcases hleft with hleft | hleft
  · rcases hright with hright | hright
    · simp [hleft, hright]
    · simp [hleft, hright, mapped_eq_iff]
  · rcases hright with hright | hright
    · simp only [hleft, hright, Nat.reduceEqDiff, if_false, if_true, and_self,
        decide_eq_true_eq, Option.some.injEq]
      rw [eq_comm (a := left), mapped_eq_iff, eq_comm (a := right)]
    · simp [hleft, hright]

theorem equalPacketSource_iff (left right : PeerAddress) :
    equalPacketSource text (some left.netAddr) (some right.netAddr) = true ↔
      left.address.Same right.address := by
  rw [PeerAddress.netAddr, PeerAddress.netAddr, equalPacketSource, Bool.and_eq_true,
    decide_eq_true_eq, ipEqual_iff left.valid right.valid]
  constructor
  · rintro ⟨⟨hport, hzone⟩, hip⟩
    exact ⟨hip, hport, hzone⟩
  · intro hsame
    exact ⟨⟨hsame.port, hsame.zone⟩, hsame.ip⟩

/-! ### The queue of a peer -/

structure UDPPeerPacket where
  buffer : Bytes
  remoteAddress : PeerAddress
deriving DecidableEq

/-- What a cleared slot of a queue holds; it is never read. -/
instance : Inhabited UDPPeerPacket :=
  ⟨{ buffer := [], remoteAddress := ⟨⟨[0, 0, 0, 0], 0, []⟩, .inl rfl⟩ }⟩

structure UDPPeerConnection where
  incomingPackets : DataPacketQueue UDPPeerPacket 256
  readAddress : Option PeerAddress
  closed : Bool

namespace UDPPeerConnection

def new : UDPPeerConnection where
  incomingPackets := .newDataPacketQueueWithCapacity UDPPeerPacket 256
  readAddress := none
  closed := false

variable (c : UDPPeerConnection)

def pushPackets (packets : List UDPPeerPacket) : UDPPeerConnection :=
  if c.closed then c
  else { c with incomingPackets := (c.incomingPackets.pushBatchDropNew packets).2 }

def sameSource (first packet : UDPPeerPacket) : Bool :=
  equalPacketSource text (some first.remoteAddress.netAddr) (some packet.remoteAddress.netAddr)

/-- `ReadPackets` with a batch size of `max`, and `ReadPacket` with one of one; `none`
while there is nothing to read. -/
def readPackets (max : Nat) :
    Option (List UDPPeerPacket × UDPPeerConnection) :=
  if c.closed then none
  else
    let popped := c.incomingPackets.pop max (some (sameSource text))
    match popped.1 with
    | [] => none
    | first :: rest => some (first :: rest,
        { c with incomingPackets := popped.2, readAddress := some first.remoteAddress })

/-- `floatCandidateAddress` of a connection that sends to `remoteAddress`. -/
def floatCandidateAddress (remoteAddress : Option NetAddr) :
    Option PeerAddress :=
  c.readAddress.filter fun readAddress =>
    !equalPacketSource text (some readAddress.netAddr) remoteAddress

def close : UDPPeerConnection :=
  { c with closed := true, incomingPackets := c.incomingPackets.drain.2 }

/-! ### What a read returns -/

theorem mem_contents_pushPackets {c : UDPPeerConnection} {packets : List UDPPeerPacket}
    {packet : UDPPeerPacket} (h : packet ∈ (c.pushPackets packets).incomingPackets.contents) :
    packet ∈ c.incomingPackets.contents ∨ packet ∈ packets := by
  unfold pushPackets at h
  split at h
  · exact .inl h
  · rw [contents_pushBatchDropNew, List.mem_append] at h
    exact h.imp_right List.mem_of_mem_take

@[simp] theorem readAddress_pushPackets (packets : List UDPPeerPacket) :
    (c.pushPackets packets).readAddress = c.readAddress := by
  unfold pushPackets
  split
  · rfl
  · rfl

theorem contents_close : c.close.incomingPackets.contents = [] := by
  rw [close, drain, contents_pop]
  exact List.drop_of_length_le (by simp [popCount])

variable {text}

/-- **A batch has one source**: its datagrams come from the queue and all of them
have the source the read noted. -/
theorem readPackets_eq_some {c c' : UDPPeerConnection} {max : Nat} {packets : List UDPPeerPacket}
    (h : c.readPackets text max = some (packets, c')) :
    (∃ readAddress, c'.readAddress = some readAddress ∧
      ∀ packet ∈ packets, readAddress.address.Same packet.remoteAddress.address) ∧
    c.incomingPackets.contents = packets ++ c'.incomingPackets.contents := by
  unfold readPackets at h
  split at h
  · cases h
  dsimp only at h
  split at h
  · cases h
  next first rest hpopped =>
  obtain ⟨rfl, rfl⟩ := Prod.mk.inj (Option.some.inj h)
  constructor
  · refine ⟨first.remoteAddress, rfl, fun packet hpacket => ?_⟩
    rcases List.mem_cons.mp hpacket with rfl | hrest
    · exact ⟨rfl, rfl, rfl⟩
    · exact (equalPacketSource_iff text _ _).mp
        (sameRun_of_pop hpopped packet hrest)
  · rw [← hpopped, pop_fst, contents_pop, List.take_append_drop]

theorem floatCandidateAddress_eq_some {c : UDPPeerConnection} {remoteAddress : Option NetAddr}
    {candidate : PeerAddress} (h : c.floatCandidateAddress text remoteAddress = some candidate) :
    c.readAddress = some candidate ∧
      equalPacketSource text (some candidate.netAddr) remoteAddress = false := by
  obtain ⟨hread, hdiffers⟩ := Option.filter_eq_some_iff.mp h
  exact ⟨hread, by simpa using hdiffers⟩

end UDPPeerConnection

end SingOpenVPN
