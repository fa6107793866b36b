import Mathlib.Data.List.AList
import SingOpenVPN.MSSClamp
import SingOpenVPN.Netip

/-!
# Routes to peers (`peer_route_registry.go`)

The server keeps, for every tunnel address it has assigned, the session that
holds it.  A decrypted packet is handed up only when it parses as an IP packet
and its source address is routed to the session it came from.

`IPPacketFrom` lays out on the wire what a well-formed packet with a given
source address is; the parser accepts exactly those packets
(`sourceFromIPPacket_eq_some`).  Clamping keeps the header, so the packet that
is handed up is as well formed as the one that was checked.
-/

namespace SingOpenVPN

open ByteCodec List

/-! ### The source address of a packet -/

def sourceFromIPv4Packet (packet : Bytes) (first : UInt8) : Option IPv4 :=
  let headerLength := (first &&& 0x0f).toNat * 4
  let totalLength := getBE ((packet.drop 2).take 2)
  if packet.length < 20 then none
  else if headerLength < 20 ∨ headerLength > packet.length then none
  else if totalLength < headerLength ∨ totalLength ≠ packet.length then none
  else some (addrFrom4 ((packet.drop 12).take 4))

def sourceFromIPv6Packet (packet : Bytes) : Option IPv6 :=
  let payloadLength := getBE ((packet.drop 4).take 2)
  if packet.length < 40 then none
  else if payloadLength ≠ packet.length - 40 then none
  else some (addrFrom16 ((packet.drop 8).take 16))

def sourceFromIPPacket (packet : Bytes) : Option Addr :=
  match packet with
  | [] => none
  | first :: _ =>
    if first >>> 4 = 4 then (sourceFromIPv4Packet packet first).map .v4
    else if first >>> 4 = 6 then (sourceFromIPv6Packet packet).map .v6
    else none

/-- A well-formed IP packet and its source address: the version, the header
length and the length fields agree with the bytes that are there. -/
inductive IPPacketFrom : Bytes → Addr → Prop
  | v4 {packet : Bytes} (first service : UInt8) (middle rest : Bytes) (source : IPv4)
      (hversion : first.toNat / 16 = 4) (hheader : 5 ≤ first.toNat % 16)
      (hfits : first.toNat % 16 * 4 ≤ packet.length) (hlength : packet.length < 2 ^ 16)
      (hmiddle : middle.length = 8)
      (hpacket : packet = first :: service ::
        (putBE 2 packet.length ++ (middle ++ (putBE 4 source.toNat ++ rest)))) :
      IPPacketFrom packet (.v4 source)
  | v6 {packet : Bytes} (first : UInt8) (flow control rest : Bytes) (source : IPv6)
      (hversion : first.toNat / 16 = 6) (hfits : 40 ≤ packet.length)
      (hlength : packet.length - 40 < 2 ^ 16) (hflow : flow.length = 3)
      (hcontrol : control.length = 2)
      (hpacket : packet = first ::
        (flow ++ (putBE 2 (packet.length - 40) ++ (control ++ (putBE 16 source.toNat ++ rest))))) :
      IPPacketFrom packet (.v6 source)

theorem high_nibble_eq {byte : UInt8} {nibble : UInt8} :
    byte >>> 4 = nibble ↔ byte.toNat / 16 = nibble.toNat := by
  rw [← UInt8.toNat_inj, UInt8.toNat_shiftRight]
  simp [Nat.shiftRight_eq_div_pow]

theorem low_nibble_toNat (byte : UInt8) : (byte &&& 0x0f).toNat = byte.toNat % 16 := by
  exact Nat.and_two_pow_sub_one_eq_mod byte.toNat 4

variable {packet tail : Bytes} {i j : Nat} {first : UInt8}

theorem slice_eq_putBE (h : i + j ≤ packet.length) :
    (packet.drop i).take j = putBE j (getBE ((packet.drop i).take j)) := by
  have hlength : ((packet.drop i).take j).length = j := by
    simp
    omega
  have hbytes := putBE_getBE ((packet.drop i).take j)
  rw [hlength] at hbytes
  exact hbytes.symm

theorem getBE_slice_lt (packet : Bytes) (i j : Nat) (h : i + j ≤ packet.length) :
    getBE ((packet.drop i).take j) < 256 ^ j := by
  have hlength : ((packet.drop i).take j).length = j := by
    simp
    omega
  have hlt := getBE_lt ((packet.drop i).take j)
  rwa [hlength] at hlt

theorem slice_append {front field rest : Bytes} (hi : front.length = i) (hj : field.length = j) :
    ((front ++ (field ++ rest)).drop i).take j = field := by
  rw [drop_left' hi, take_left' hj]

variable {packet' : Bytes} {source : IPv4}

theorem sourceFromIPv4Packet_eq_some :
    sourceFromIPv4Packet packet first = some source ↔
      5 ≤ first.toNat % 16 ∧ first.toNat % 16 * 4 ≤ packet.length ∧
        getBE ((packet.drop 2).take 2) = packet.length ∧
        addrFrom4 ((packet.drop 12).take 4) = source := by
  unfold sourceFromIPv4Packet
  rw [low_nibble_toNat]
  dsimp only
  constructor
  · intro h
    split at h
    · cases h
    split at h
    · cases h
    split at h
    · cases h
    refine ⟨by omega, by omega, by omega, Option.some.inj h⟩
  · rintro ⟨hheader, hfits, htotal, hsource⟩
    rw [if_neg (by omega), if_neg (by omega), if_neg (by omega), hsource]

theorem sourceFromIPv6Packet_eq_some {source : IPv6} :
    sourceFromIPv6Packet packet = some source ↔
      40 ≤ packet.length ∧ getBE ((packet.drop 4).take 2) = packet.length - 40 ∧
        addrFrom16 ((packet.drop 8).take 16) = source := by
  unfold sourceFromIPv6Packet
  dsimp only
  constructor
  · intro h
    split at h
    · cases h
    split at h
    · cases h
    rename_i hfits hpayload
    exact ⟨not_lt.mp hfits, not_not.mp hpayload, Option.some.inj h⟩
  · rintro ⟨hfits, hpayload, hsource⟩
    rw [if_neg (by omega), if_neg (by omega), hsource]

theorem toNat_addrFrom4 (h : 16 ≤ packet.length) :
    (addrFrom4 ((packet.drop 12).take 4)).toNat = getBE ((packet.drop 12).take 4) := by
  exact Nat.mod_eq_of_lt (getBE_slice_lt packet 12 4 h)

theorem toNat_addrFrom16 (h : 24 ≤ packet.length) :
    (addrFrom16 ((packet.drop 8).take 16)).toNat = getBE ((packet.drop 8).take 16) := by
  exact Nat.mod_eq_of_lt (getBE_slice_lt packet 8 16 h)

theorem ipPacketFrom_of_ipv4 (hpacket : packet = first :: tail) (hversion : first >>> 4 = 4)
    (h : sourceFromIPv4Packet packet first = some source) :
    IPPacketFrom packet (.v4 source) := by
  obtain ⟨hheader, hfits, htotal, rfl⟩ := sourceFromIPv4Packet_eq_some.mp h
  have hbound := getBE_slice_lt packet 2 2 (by omega)
  obtain ⟨service, tail', rfl⟩ : ∃ service tail', tail = service :: tail' := by
    cases tail with
    | nil =>
      rw [hpacket, length_singleton] at hfits
      omega
    | cons service tail' => exact ⟨service, tail', rfl⟩
  refine .v4 first service ((packet.drop 4).take 8) (packet.drop 16) _ (high_nibble_eq.mp hversion)
    hheader hfits (by omega) (by simp; omega) ?_
  have hlengthField : putBE 2 packet.length = (packet.drop 2).take 2 := by
    rw [slice_eq_putBE (by omega), htotal]
  rw [toNat_addrFrom4 (by omega), ← slice_eq_putBE (by omega), hlengthField,
    drop_take_append_drop, drop_take_append_drop, drop_take_append_drop]
  nth_rewrite 2 [hpacket]
  exact hpacket

theorem ipPacketFrom_of_ipv6 {source : IPv6} (hpacket : packet = first :: tail)
    (hversion : first >>> 4 = 6) (h : sourceFromIPv6Packet packet = some source) :
    IPPacketFrom packet (.v6 source) := by
  obtain ⟨hfits, hpayload, rfl⟩ := sourceFromIPv6Packet_eq_some.mp h
  have hbound := getBE_slice_lt packet 4 2 (by omega)
  refine .v6 first ((packet.drop 1).take 3) ((packet.drop 6).take 2) (packet.drop 24) _
    (high_nibble_eq.mp hversion) hfits (by omega) (by simp; omega) (by simp; omega) ?_
  have hlengthField : putBE 2 (packet.length - 40) = (packet.drop 4).take 2 := by
    rw [slice_eq_putBE (by omega), hpayload]
  rw [toNat_addrFrom16 (by omega), ← slice_eq_putBE (by omega), hlengthField,
    drop_take_append_drop, drop_take_append_drop, drop_take_append_drop,
    drop_take_append_drop]
  nth_rewrite 2 [hpacket]
  exact hpacket

theorem sourceFromIPPacket_ipv4 (hversion : first >>> 4 = 4) :
    sourceFromIPPacket (first :: tail) = (sourceFromIPv4Packet (first :: tail) first).map .v4 :=
  if_pos hversion

theorem sourceFromIPPacket_ipv6 (hversion : first >>> 4 = 6) :
    sourceFromIPPacket (first :: tail) = (sourceFromIPv6Packet (first :: tail)).map .v6 := by
  have hnot : ¬ first >>> 4 = 4 := by
    rw [hversion]
    decide
  rw [sourceFromIPPacket, if_neg hnot, if_pos hversion]

/-- **The parser accepts exactly the well-formed IP packets**, and returns their
source address. -/
theorem sourceFromIPPacket_eq_some {source : Addr} :
    sourceFromIPPacket packet = some source ↔ IPPacketFrom packet source := by
  constructor
  · intro h
    cases packet with
    | nil => cases h
    | cons first tail =>
      by_cases hversion4 : first >>> 4 = 4
      · rw [sourceFromIPPacket_ipv4 hversion4] at h
        obtain ⟨source4, hsource4, rfl⟩ := Option.map_eq_some_iff.mp h
        exact ipPacketFrom_of_ipv4 rfl hversion4 hsource4
      · by_cases hversion6 : first >>> 4 = 6
        · rw [sourceFromIPPacket_ipv6 hversion6] at h
          obtain ⟨source6, hsource6, rfl⟩ := Option.map_eq_some_iff.mp h
          exact ipPacketFrom_of_ipv6 rfl hversion6 hsource6
        · rw [sourceFromIPPacket, if_neg hversion4, if_neg hversion6] at h
          cases h
  · intro h
    cases h with
    | v4 first service middle rest source hversion hheader hfits hlength hmiddle hpacket =>
      have htotal : getBE ((packet.drop 2).take 2) = packet.length := by
        generalize packet.length = n at hpacket hlength ⊢
        have hfront : packet = [first, service] ++ (putBE 2 n ++
            (middle ++ (putBE 4 source.toNat ++ rest))) := hpacket
        rw [hfront, slice_append (by rfl) (by simp), getBE_putBE hlength]
      have hsource : addrFrom4 ((packet.drop 12).take 4) = source := by
        have hfront : packet = ([first, service] ++ putBE 2 packet.length ++ middle) ++
            (putBE 4 source.toNat ++ rest) := by simpa using hpacket
        rw [hfront, slice_append (by simp [hmiddle]) (by simp), addrFrom4,
          getBE_putBE source.isLt, BitVec.ofNat_toNat, BitVec.setWidth_eq]
      rw [hpacket, sourceFromIPPacket_ipv4 (high_nibble_eq.mpr hversion), ← hpacket,
        sourceFromIPv4Packet_eq_some.mpr ⟨hheader, hfits, htotal, hsource⟩]
      rfl
    | v6 first flow control rest source hversion hfits hlength hflow hcontrol hpacket =>
      have hpayload : getBE ((packet.drop 4).take 2) = packet.length - 40 := by
        have hfront : packet = (first :: flow) ++ (putBE 2 (packet.length - 40) ++
            (control ++ (putBE 16 source.toNat ++ rest))) := hpacket
        generalize packet.length - 40 = n at hfront hlength ⊢
        rw [hfront, slice_append (by simp [hflow]) (by simp), getBE_putBE hlength]
      have hsource : addrFrom16 ((packet.drop 8).take 16) = source := by
        have hfront : packet = (first :: flow ++ putBE 2 (packet.length - 40) ++ control) ++
            (putBE 16 source.toNat ++ rest) := by simpa using hpacket
        rw [hfront, slice_append (by simp [hflow, hcontrol]) (by simp), addrFrom16,
          getBE_putBE source.isLt, BitVec.ofNat_toNat, BitVec.setWidth_eq]
      rw [hpacket, sourceFromIPPacket_ipv6 (high_nibble_eq.mpr hversion), ← hpacket,
        sourceFromIPv6Packet_eq_some.mpr ⟨hfits, hpayload, hsource⟩]
      rfl

theorem slice_eq_of_take_eq {n : Nat} (h : packet'.take n = packet.take n) (hbound : i + j ≤ n) :
    (packet'.drop i).take j = (packet.drop i).take j := by
  have hslice : ∀ bytes : Bytes, (bytes.drop i).take j = ((bytes.take n).drop i).take j := by
    intro bytes
    rw [drop_take, take_take, min_eq_left (by omega)]
  rw [hslice packet', hslice packet, h]

theorem sourceFromIPPacket_congr (h : SameHeader packet packet') :
    sourceFromIPPacket packet' = sourceFromIPPacket packet := by
  cases packet with
  | nil =>
    obtain rfl : packet' = [] := length_eq_zero_iff.mp h.length
    rfl
  | cons first tail =>
    obtain ⟨tail', rfl⟩ : ∃ tail', packet' = first :: tail' := by
      cases packet' with
      | nil => cases h.length
      | cons first' tail' =>
        have hfixed := h.fixed
        exact ⟨tail', by rw [(List.cons.inj hfixed).1]⟩
    by_cases hversion4 : first >>> 4 = 4
    · rw [sourceFromIPPacket_ipv4 hversion4, sourceFromIPPacket_ipv4 hversion4]
      unfold sourceFromIPv4Packet
      rw [h.length, slice_eq_of_take_eq h.fixed (by decide : 2 + 2 ≤ 20),
        slice_eq_of_take_eq h.fixed (by decide : 12 + 4 ≤ 20)]
    · by_cases hversion6 : first >>> 4 = 6
      · have hfixed := h.fixed6 first rfl hversion6
        rw [sourceFromIPPacket_ipv6 hversion6, sourceFromIPPacket_ipv6 hversion6]
        unfold sourceFromIPv6Packet
        rw [h.length, slice_eq_of_take_eq hfixed (by decide : 4 + 2 ≤ 40),
          slice_eq_of_take_eq hfixed (by decide : 8 + 16 ≤ 40)]
      · rw [sourceFromIPPacket, sourceFromIPPacket, if_neg hversion4, if_neg hversion6,
          if_neg hversion4, if_neg hversion6]

/-! ### The registry -/

/-- A route to a peer.  The static-key server registers routes without a
session. -/
structure PeerRoute where
  peerAddress : String
  session : Option Nat
deriving DecidableEq, Repr

abbrev PeerRoutes := AList (fun _ : Addr => PeerRoute)

namespace PeerRoutes

def register (routes : PeerRoutes) (address : Addr) (peerAddress : String) (session : Option Nat) :
    PeerRoutes :=
  if peerAddress = "" then routes else routes.insert address { peerAddress, session }

def unregister (routes : PeerRoutes) (address : Addr) : PeerRoutes := routes.erase address

/-- Whether `SourcesOwnedBy` finds the source of a packet owned by the session. -/
def sourceOwnedBy (routes : PeerRoutes) (packet : Bytes) (session : Option Nat) : Bool :=
  match sourceFromIPPacket packet with
  | none => false
  | some source =>
    let linkLocal := match source with
      | .v4 _ => false
      | .v6 address => isLinkLocalUnicast6 address
    session.isSome && !linkLocal && match routes.lookup source with
      | none => false
      | some owner => owner.session == session

variable {address other : Addr} {routes : PeerRoutes}

theorem sourceOwnedBy_eq_true {packet : Bytes} {session : Nat}
    (h : routes.sourceOwnedBy packet (some session) = true) :
    ∃ source route, IPPacketFrom packet source ∧ routes.lookup source = some route ∧
      route.session = some session ∧
      ∀ address, source = .v6 address → isLinkLocalUnicast6 address = false := by
  unfold sourceOwnedBy at h
  split at h
  · cases h
  rename_i source hsource
  simp only [Option.isSome_some, Bool.true_and, Bool.and_eq_true, Bool.not_eq_true'] at h
  obtain ⟨hlocal, howner⟩ := h
  split at howner
  · cases howner
  rename_i route hroute
  refine ⟨source, route, sourceFromIPPacket_eq_some.mp hsource, hroute, by simpa using howner, ?_⟩
  rintro address rfl
  exact hlocal

variable {session : Option Nat} {route : PeerRoute} {peerAddress : String}

theorem lookup_register
    (h : (routes.register address peerAddress session).lookup other = some route) :
    (other = address ∧ route.session = session) ∨ routes.lookup other = some route := by
  unfold register at h
  split at h
  · exact .inr h
  · by_cases hother : other = address
    · subst hother
      rw [AList.lookup_insert] at h
      cases h
      exact .inl ⟨rfl, rfl⟩
    · rw [AList.lookup_insert_ne hother] at h
      exact .inr h

theorem lookup_register_ne (hother : other ≠ address) :
    (routes.register address peerAddress session).lookup other = routes.lookup other := by
  unfold register
  split
  · rfl
  · exact AList.lookup_insert_ne hother

theorem lookup_unregister (h : (routes.unregister address).lookup other = some route) :
    other ≠ address ∧ routes.lookup other = some route := by
  by_cases hother : other = address
  · subst hother
    rw [unregister, AList.lookup_erase] at h
    cases h
  · rw [unregister, AList.lookup_erase_ne hother] at h
    exact ⟨hother, h⟩

end PeerRoutes

end SingOpenVPN
