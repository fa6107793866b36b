import SingOpenVPN.Packet

/-!
# The packet codec as a bijection (`proto/packet.go`)

`Packet.Carried` lists what a packet may hold: an opcode of five bits, a key id of
three, and no field that its opcode does not carry.  On these packets
serialization and parsing are inverse to each other.  The second direction reads
the parser backwards: each reader that succeeds gives its input as what was read
followed by what is left.
-/

namespace SingOpenVPN

open ByteCodec List Opcode UInt8

/-! ### Readers, backwards -/

variable {bytes rest : Bytes} {count : Nat}

theorem readFull_eq_some {front : Bytes} (h : readFull count bytes = some (front, rest)) :
    bytes = front ++ rest ∧ front.length = count := by
  rw [readFull] at h
  split at h
  · next hcount =>
    obtain ⟨rfl, rfl⟩ := h
    exact ⟨(take_append_drop count bytes).symm, length_take_of_le hcount⟩
  · simp at h

theorem readArray_eq_some {array : List.Vector UInt8 count}
    (h : readArray count bytes = some (array, rest)) : bytes = array.toList ++ rest := by
  rw [readArray] at h
  split at h
  · obtain ⟨rfl, rfl⟩ := h
    exact (take_append_drop count bytes).symm
  · simp at h

theorem readNumbers_eq_some {width : Nat} {numbers : List Nat}
    (h : readNumbers width count bytes = some (numbers, rest)) :
    bytes = numbers.flatMap (putBE width) ++ rest ∧ numbers.length = count ∧
      ∀ number ∈ numbers, number < 256 ^ width := by
  induction count generalizing bytes numbers with
  | zero =>
    obtain ⟨rfl, rfl⟩ := h
    simp
  | succ count ih =>
    obtain ⟨⟨first, bytes'⟩, hfirst, h⟩ := Option.bind_eq_some_iff.mp h
    obtain ⟨⟨others, bytes''⟩, hothers, h⟩ := Option.bind_eq_some_iff.mp h
    obtain ⟨rfl, rfl⟩ := h
    obtain ⟨rfl, hlength⟩ := readFull_eq_some hfirst
    obtain ⟨rfl, hcount, hfits⟩ := ih hothers
    have hput : putBE width (getBE first) = first := by
      rw [← hlength]
      exact putBE_getBE first
    refine ⟨by simp [hput], by simp [hcount], ?_⟩
    intro number hnumber
    rcases mem_cons.mp hnumber with rfl | hnumber
    · rw [← hlength]
      exact getBE_lt first
    · exact hfits number hnumber

theorem parseField_eq_ok {α : Type} {context : String} {read : Option α} {value : α} :
    parseField context read = .ok value ↔ read = some value := by
  cases read <;> simp [parseField]

/-! ### The header byte -/

set_option maxRecDepth 4096 in
theorem header_join : ∀ header < 256,
    ((ofNat header >>> 3) <<< 3) ||| ((ofNat header &&& 0x07) &&& 0x07) =
      ofNat header ∧
    (ofNat header >>> 3).toNat < 32 ∧ (ofNat header &&& 0x07).toNat < 8 := by
  decide

theorem headerByte_join (header : UInt8) :
    ((header >>> 3) <<< 3) ||| ((header &&& 0x07) &&& 0x07) = header ∧
      (header >>> 3).toNat < 32 ∧ (header &&& 0x07).toNat < 8 := by
  have h := header_join header.toNat header.toNat_lt
  simpa only [UInt8.ofNat_toNat] using h

set_option maxRecDepth 4096 in
theorem Opcode.code_ofCode_of_lt : ∀ code < 256,
    (ofCode (ofNat code)).code = ofNat code := by
  decide

theorem Opcode.code_ofCode (code : UInt8) : (ofCode code).code = code := by
  have h := code_ofCode_of_lt code.toNat code.toNat_lt
  simpa only [UInt8.ofNat_toNat] using h

/-! ### What a packet may hold -/

/-- The fields of a packet are those its opcode carries, within their widths. -/
structure Packet.Carried (p : Packet) : Prop where
  opcode : ∃ code : UInt8, code.toNat < 32 ∧ p.opcode = Opcode.ofCode code
  keyID : p.keyID.toNat < 8
  acknowledgments : p.acknowledgmentIDs.length ≤ 255
  peerID : p.opcode ≠ .dataV2 → p.peerID = List.Vector.replicate 3 0
  data : p.opcode.isControlOrAcknowledgment = false →
    p.localSessionID = unsetSessionID ∧ p.acknowledgmentIDs = [] ∧ p.id = 0
  remoteSessionID : p.acknowledgmentIDs = [] → p.remoteSessionID = unsetSessionID
  id : p.opcode = .acknowledgmentV1 → p.id = 0

namespace Packet

variable {p : Packet}

theorem bytes_of_dataV2 (h : p.opcode = .dataV2) :
    p.bytes = .ok (p.headerByte :: (p.peerID.toList ++ p.payload)) := by
  simp [Packet.bytes, h]

theorem bytes_of_control (h : p.opcode.isControlOrAcknowledgment = true)
    (hacks : p.acknowledgmentIDs.length ≤ 255) :
    p.bytes = .ok (p.headerByte :: (p.controlHeader ++ p.payload)) := by
  have hdata : p.opcode ≠ .dataV2 := by
    intro heq
    simp [heq, isControlOrAcknowledgment, isControl] at h
  simp [Packet.bytes, hdata, h, Nat.not_lt.mpr hacks]

theorem bytes_of_other (hdata : p.opcode ≠ .dataV2)
    (hcontrol : p.opcode.isControlOrAcknowledgment = false) :
    p.bytes = .ok (p.headerByte :: p.payload) := by
  simp [Packet.bytes, hdata, hcontrol]

theorem Carried.headerByte (h : p.Carried) :
    ofCode (p.headerByte >>> 3) = p.opcode ∧ p.headerByte &&& 0x07 = p.keyID := by
  obtain ⟨code, hcode, hopcode⟩ := h.opcode
  have hfive : p.opcode.code.toNat < 32 := by
    rw [hopcode, code_ofCode]
    exact hcode
  obtain ⟨hsplit, hkey⟩ := Packet.headerByte_split hfive h.keyID
  refine ⟨?_, hkey⟩
  rw [hsplit, hopcode, code_ofCode]

theorem Carried.onWire (h : p.Carried) (hcontrol : p.opcode.isControlOrAcknowledgment = true) :
    p.onWire = p := by
  have hdata : p.opcode ≠ .dataV2 := by
    intro heq
    simp [heq, isControlOrAcknowledgment, isControl] at hcontrol
  have hremote : p.onWire.remoteSessionID = p.remoteSessionID := by
    by_cases hacks : p.acknowledgmentIDs = []
    · simp [Packet.onWire, hacks, h.remoteSessionID hacks]
    · simp [Packet.onWire, length_pos_iff.mpr hacks]
  have hid : p.onWire.id = p.id := by
    by_cases hack : p.opcode = .acknowledgmentV1
    · simp [Packet.onWire, hack, h.id hack]
    · exact Packet.onWire_id hack
  have hpeer : p.onWire.peerID = p.peerID := (h.peerID hdata).symm
  calc p.onWire
      = { p with
          peerID := p.onWire.peerID
          remoteSessionID := p.onWire.remoteSessionID
          id := p.onWire.id } := rfl
    _ = p := by rw [hremote, hid, hpeer]

end Packet

/-! ### Parsing what was serialized -/

variable {p : Packet}

theorem Packet.Carried.parsePacket_bytes (h : p.Carried) :
    ∃ raw, p.bytes = .ok raw ∧ parsePacket raw = .ok p := by
  obtain ⟨hopcode, hkey⟩ := h.headerByte
  by_cases hcontrol : p.opcode.isControlOrAcknowledgment = true
  · have hbytes := Packet.bytes_of_control hcontrol h.acknowledgments
    refine ⟨_, hbytes, ?_⟩
    have hparse := SingOpenVPN.parsePacket_bytes hcontrol h.keyID h.acknowledgments
    rw [hbytes, h.onWire hcontrol] at hparse
    exact hparse
  · rw [Bool.not_eq_true] at hcontrol
    obtain ⟨hlocal, hnone, hid⟩ := h.data hcontrol
    have hremote := h.remoteSessionID hnone
    by_cases hdata : p.opcode = .dataV2
    · refine ⟨_, Packet.bytes_of_dataV2 hdata, ?_⟩
      obtain ⟨opcode, keyID, peerID, localSessionID, acknowledgmentIDs, remoteSessionID, id,
        payload⟩ := p
      simp_all [parsePacket, readArray_append, newPacket]
    · refine ⟨_, Packet.bytes_of_other hdata hcontrol, ?_⟩
      have hpeer := h.peerID hdata
      obtain ⟨opcode, keyID, peerID, localSessionID, acknowledgmentIDs, remoteSessionID, id,
        payload⟩ := p
      simp_all [parsePacket, newPacket]

/-! ### Serializing what was parsed -/

/-- The parser behind the remote session id: the id, which an acknowledgment does not have, and
    the payload. -/
def parsePacketTail (packet : Packet) (localSessionID : SessionID) (numbers : List Nat)
    (remoteSessionID : SessionID) (reader : Bytes) : Except PacketError Packet := do
  let (id, reader) ←
    if packet.opcode ≠ .acknowledgmentV1 then do
      let (id, reader) ← parseField "read packet id: " (readFull 4 reader)
      pure (UInt32.ofNat (getBE id), reader)
    else pure (packet.id, reader)
  return { packet with
    localSessionID := localSessionID
    acknowledgmentIDs := numbers.map UInt32.ofNat
    remoteSessionID := remoteSessionID
    id := id
    payload := reader }

theorem parsePacketTail_eq_ok {packet : Packet} {localSessionID remoteSessionID : SessionID}
    {numbers : List Nat} {reader : Bytes} (hid : packet.id = 0)
    (h : parsePacketTail packet localSessionID numbers remoteSessionID reader = .ok p) :
    ∃ (id : PacketID) (payload : Bytes),
      reader = (if packet.opcode ≠ .acknowledgmentV1 then putBE 4 id.toNat else []) ++ payload ∧
      (packet.opcode = .acknowledgmentV1 → id = 0) ∧
      p = { packet with
        localSessionID := localSessionID
        acknowledgmentIDs := numbers.map UInt32.ofNat
        remoteSessionID := remoteSessionID
        id := id
        payload := payload } := by
  unfold parsePacketTail at h
  by_cases hack : packet.opcode = .acknowledgmentV1
  · simp only [hack, ne_eq, not_true_eq_false, if_false] at h
    cases h
    exact ⟨0, reader, by simp [hack], fun _ => rfl, by rw [hid, hack]⟩
  · simp only [ne_eq, hack, not_false_eq_true, if_true] at h
    obtain ⟨⟨idBytes, payload⟩, hread, hresult⟩ := bind_eq_ok.mp h
    obtain ⟨rfl, hfour⟩ := readFull_eq_some (parseField_eq_ok.mp hread)
    cases hresult
    refine ⟨UInt32.ofNat (getBE idBytes), payload, ?_, fun heq => absurd heq hack, rfl⟩
    have hlt := getBE_lt idBytes
    rw [hfour] at hlt
    have hput := putBE_getBE idBytes
    rw [hfour] at hput
    rw [if_pos hack, UInt32.toNat_ofNat_of_lt' hlt, hput]

theorem parseControlOrAcknowledgmentPacket_eq_ok {packet : Packet} {packetBody : Bytes}
    (hid : packet.id = 0) (hremote : packet.remoteSessionID = unsetSessionID)
    (h : parseControlOrAcknowledgmentPacket packet packetBody = .ok p) :
    packetBody = p.controlHeader ++ p.payload ∧ p.opcode = packet.opcode ∧ p.keyID = packet.keyID ∧
      p.peerID = packet.peerID ∧ p.acknowledgmentIDs.length ≤ 255 ∧
      (p.acknowledgmentIDs = [] → p.remoteSessionID = unsetSessionID) ∧
      (p.opcode = .acknowledgmentV1 → p.id = 0) := by
  rw [parseControlOrAcknowledgmentPacket] at h
  by_cases hshort : packetBody.length < 8 + 1
  · rw [if_pos hshort] at h
    cases h
  rw [if_neg hshort] at h
  obtain ⟨⟨localSessionID, afterLocal⟩, hlocal, hafterLocal⟩ := bind_eq_ok.mp h
  obtain ⟨⟨count, afterCount⟩, hcount, hafterCount⟩ := bind_eq_ok.mp hafterLocal
  obtain ⟨⟨numbers, afterNumbers⟩, hnumbers, hrest⟩ := bind_eq_ok.mp hafterCount
  obtain rfl := readArray_eq_some (parseField_eq_ok.mp hlocal)
  obtain rfl := readArray_eq_some (parseField_eq_ok.mp hcount)
  obtain ⟨rfl, hlength, hfits⟩ := readNumbers_eq_some (parseField_eq_ok.mp hnumbers)
  dsimp only at hrest
  -- the two optional fields: remote session id and packet id
  have hoptional : ∃ (remoteSessionID : SessionID) (id : PacketID) (payload : Bytes),
      afterNumbers = (if 0 < numbers.length then remoteSessionID.toList else []) ++
        ((if packet.opcode ≠ .acknowledgmentV1 then putBE 4 id.toNat else []) ++ payload) ∧
      (numbers = [] → remoteSessionID = unsetSessionID) ∧
      (packet.opcode = .acknowledgmentV1 → id = 0) ∧
      p = { packet with
        localSessionID := localSessionID
        acknowledgmentIDs := numbers.map UInt32.ofNat
        remoteSessionID := remoteSessionID
        id := id
        payload := payload } := by
    by_cases hremoteField : 0 < numbers.length
    · rw [if_pos hremoteField] at hrest
      obtain ⟨⟨remoteSessionID, afterRemote⟩, hread, hafterRemote⟩ := bind_eq_ok.mp hrest
      obtain rfl := readArray_eq_some (parseField_eq_ok.mp hread)
      obtain ⟨id, payload, rfl, hack, rfl⟩ := @parsePacketTail_eq_ok p packet localSessionID
        remoteSessionID numbers afterRemote hid hafterRemote
      refine ⟨remoteSessionID, id, payload, by rw [if_pos hremoteField], ?_, hack, rfl⟩
      intro hnone
      simp [hnone] at hremoteField
    · rw [if_neg hremoteField] at hrest
      obtain ⟨id, payload, rfl, hack, rfl⟩ := @parsePacketTail_eq_ok p packet localSessionID
        packet.remoteSessionID numbers afterNumbers hid hrest
      refine ⟨packet.remoteSessionID, id, payload, by rw [if_neg hremoteField]; rfl, ?_, hack, rfl⟩
      intro _
      exact hremote
  obtain ⟨remoteSessionID, id, payload, rfl, hnone, hack, rfl⟩ := hoptional
  have hcounted : count.toList = [ofNat numbers.length] := by
    rw [hlength]
    simp
  have hmapped : (numbers.map UInt32.ofNat).map UInt32.toNat = numbers := by
    rw [map_map]
    exact (map_congr_left fun number hnumber =>
      UInt32.toNat_ofNat_of_lt' (hfits number hnumber)).trans (map_id numbers)
  refine ⟨?_, rfl, rfl, rfl, ?_, ?_, hack⟩
  · rw [hcounted]
    simp only [Packet.controlHeader, hmapped, length_map, append_assoc]
  · have hbyte := count.head.toNat_lt
    simp only [length_map]
    omega
  · intro hempty
    exact hnone (map_eq_nil_iff.mp hempty)

theorem parsePacket_eq_ok {raw : Bytes} (h : parsePacket raw = .ok p) :
    p.bytes = .ok raw ∧ p.Carried := by
  rcases raw with _ | ⟨header, packetBody⟩
  · cases h
  obtain ⟨hjoin, hfive, hthree⟩ := headerByte_join header
  have hheader : ∀ packet : Packet, packet.opcode = ofCode (header >>> 3) →
      packet.keyID = header &&& 0x07 → packet.headerByte = header := by
    intro packet hopcode hkey
    rw [Packet.headerByte, hopcode, hkey, code_ofCode, hjoin]
  dsimp only [parsePacket] at h
  by_cases hdata : ofCode (header >>> 3) = .dataV2
  · rw [if_pos hdata] at h
    split at h
    · cases h
    · next peerID payload hread =>
      obtain rfl := readArray_eq_some hread
      cases h
      refine ⟨?_, ⟨_, hfive, rfl⟩, hthree, by simp [newPacket], ?_, ?_, ?_, ?_⟩
      · rw [Packet.bytes_of_dataV2 hdata, hheader _ rfl rfl]
      · intro hne
        exact absurd hdata hne
      all_goals simp [newPacket]
  rw [if_neg hdata] at h
  by_cases hcontrol : (ofCode (header >>> 3)).isControlOrAcknowledgment = true
  · rw [if_pos hcontrol] at h
    obtain ⟨rfl, hopcode, hkey, hpeer, hacks, hremote, hid⟩ :=
      parseControlOrAcknowledgmentPacket_eq_ok rfl rfl h
    have hopcode : p.opcode = ofCode (header >>> 3) := hopcode
    constructor
    · rw [Packet.bytes_of_control (hopcode ▸ hcontrol) hacks, hheader p hopcode hkey]
    · refine ⟨⟨_, hfive, hopcode⟩, hkey ▸ hthree, hacks, fun _ => hpeer, ?_, hremote, hid⟩
      intro hnot
      rw [hopcode, hcontrol] at hnot
      cases hnot
  · rw [if_neg hcontrol] at h
    rw [Bool.not_eq_true] at hcontrol
    cases h
    refine ⟨?_, ⟨_, hfive, rfl⟩, hthree, by simp [newPacket], fun _ => rfl, ?_, ?_, ?_⟩
    · rw [Packet.bytes_of_other hdata hcontrol, hheader _ rfl rfl]
    all_goals simp [newPacket]

/-! ### The two parsers -/

theorem parsePacketView_eq (raw : Bytes) : parsePacketView raw = parsePacket raw := by
  rcases raw with _ | ⟨header, packetBody⟩
  · rfl
  simp only [parsePacketView]
  by_cases hdata : (ofCode (header >>> 3)).isData = true
  · have hcontrol : (ofCode (header >>> 3)).isControlOrAcknowledgment = false := by
      revert hdata
      cases ofCode (header >>> 3) <;> simp [isData, isControlOrAcknowledgment,
        isControl]
    simp [parsePacket, hdata, hcontrol]
  · simp [hdata]

/-! ### The codec -/

/-- **The packet codec is a bijection** between the packets that hold what their
    opcode carries and the byte strings the parser accepts, and the parser that
    does not copy payloads is the same function. -/
theorem packet_codec_bijective :
    (∀ p : Packet, p.Carried → ∃ raw, p.bytes = .ok raw ∧ parsePacket raw = .ok p) ∧
    (∀ raw p, parsePacket raw = .ok p → p.bytes = .ok raw ∧ p.Carried) ∧
    (∀ raw, parsePacketView raw = parsePacket raw) := by
  refine ⟨?_, ?_, parsePacketView_eq⟩
  · intro p h
    exact h.parsePacket_bytes
  · intro raw p h
    exact parsePacket_eq_ok h

def twoAcknowledgments : Packet :=
  { newPacket .acknowledgmentV1 3 [] with
    acknowledgmentIDs := [7, 8]
    remoteSessionID := List.Vector.replicate 8 1 }

theorem twoAcknowledgments_carried : twoAcknowledgments.Carried where
  opcode := ⟨5, by decide, by decide⟩
  keyID := by decide
  acknowledgments := by decide
  peerID := by simp [twoAcknowledgments, newPacket]
  data := by decide
  remoteSessionID := by simp [twoAcknowledgments]
  id := by simp [twoAcknowledgments, newPacket]

theorem packet_codec_bijective_acknowledgments :
    twoAcknowledgments.Carried ∧
    (∃ raw, twoAcknowledgments.bytes = .ok raw ∧ parsePacket raw = .ok twoAcknowledgments) ∧
    (newPacket .dataV1 1 [9]).bytes = .ok [49, 9] :=
  ⟨twoAcknowledgments_carried, packet_codec_bijective.1 _ twoAcknowledgments_carried,
    (packet_codec_bijective.2.1 [49, 9] (newPacket .dataV1 1 [9]) (by decide)).1⟩

end SingOpenVPN
