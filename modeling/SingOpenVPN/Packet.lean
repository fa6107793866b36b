import SingOpenVPN.Basic
import SingOpenVPN.ByteCodec

/-!
# Packets (`proto/packet.go`)

The packet record, its serialization `Packet.bytes` and the parser
`parsePacket`.  Data packets carry an opaque payload; control packets and
acknowledgments carry session ids, acknowledged ids and, control packets only,
a packet id.

`Packet.onWire` is a control packet as the peer sees it: the remote session id
travels only together with acknowledgments, and an acknowledgment packet has no
id of its own.  `parsePacket_bytes` is the reason the link between two channels
can be modelled as carrying packets.
-/

namespace SingOpenVPN

open ByteCodec UInt8

/-! ### Opcodes -/

/-- `Opcode`.  The codes outside the named range are parsed, and handled like
    data without a peer id. -/
inductive Opcode where
  | controlHardResetClientV1
  | controlHardResetServerV1
  | controlSoftResetV1
  | controlV1
  | acknowledgmentV1
  | dataV1
  | controlHardResetClientV2
  | controlHardResetServerV2
  | dataV2
  | controlHardResetClientV3
  | controlWKCv1
  | unknown (code : UInt8)
deriving DecidableEq, Repr

namespace Opcode

def code : Opcode → UInt8
  | controlHardResetClientV1 => 1
  | controlHardResetServerV1 => 2
  | controlSoftResetV1 => 3
  | controlV1 => 4
  | acknowledgmentV1 => 5
  | dataV1 => 6
  | controlHardResetClientV2 => 7
  | controlHardResetServerV2 => 8
  | dataV2 => 9
  | controlHardResetClientV3 => 10
  | controlWKCv1 => 11
  | unknown code => code

def ofCode (code : UInt8) : Opcode :=
  match code.toNat with
  | 1 => controlHardResetClientV1
  | 2 => controlHardResetServerV1
  | 3 => controlSoftResetV1
  | 4 => controlV1
  | 5 => acknowledgmentV1
  | 6 => dataV1
  | 7 => controlHardResetClientV2
  | 8 => controlHardResetServerV2
  | 9 => dataV2
  | 10 => controlHardResetClientV3
  | 11 => controlWKCv1
  | _ => unknown code

def isControl : Opcode → Bool
  | controlHardResetClientV1 | controlHardResetServerV1 | controlSoftResetV1 | controlV1
  | controlHardResetClientV2 | controlHardResetServerV2 | controlHardResetClientV3
  | controlWKCv1 => true
  | _ => false

def isData : Opcode → Bool
  | dataV1 | dataV2 => true
  | _ => false

def isControlOrAcknowledgment (opcode : Opcode) : Bool :=
  opcode.isControl || opcode = acknowledgmentV1

def isTLSHardReset : Opcode → Bool
  | controlHardResetClientV1 | controlHardResetServerV1 | controlHardResetClientV2
  | controlHardResetServerV2 | controlHardResetClientV3 => true
  | _ => false

end Opcode

/-! ### The packet record -/

abbrev SessionID := List.Vector UInt8 8

def unsetSessionID : SessionID := List.Vector.replicate 8 0

abbrev PacketID := UInt32

abbrev PeerID := List.Vector UInt8 3

structure Packet where
  opcode : Opcode
  keyID : UInt8
  peerID : PeerID
  localSessionID : SessionID
  acknowledgmentIDs : List PacketID
  remoteSessionID : SessionID
  id : PacketID
  payload : Bytes
deriving DecidableEq

def newPacket (opcode : Opcode) (keyID : UInt8) (payload : Bytes) : Packet where
  opcode := opcode
  keyID := keyID
  peerID := List.Vector.replicate 3 0
  localSessionID := unsetSessionID
  acknowledgmentIDs := []
  remoteSessionID := unsetSessionID
  id := 0
  payload := payload

/-- `ErrPacketTooShort`, and `ErrPacketParse` and `ErrPacketSerialize` with what
    they were extended by. -/
inductive PacketError where
  | tooShort
  | parse (context : String)
  | serialize (context : String)
deriving DecidableEq, Repr

/-! ### Serialization -/

def Packet.headerByte (p : Packet) : UInt8 := (p.opcode.code <<< 3) ||| (p.keyID &&& 0x07)

/-- The fields a control packet or an acknowledgment has before its payload. -/
def Packet.controlHeader (p : Packet) : Bytes :=
  p.localSessionID.toList ++ [UInt8.ofNat p.acknowledgmentIDs.length] ++
    (p.acknowledgmentIDs.map UInt32.toNat).flatMap (putBE 4) ++
    (if 0 < p.acknowledgmentIDs.length then p.remoteSessionID.toList else []) ++
    (if p.opcode ≠ .acknowledgmentV1 then putBE 4 p.id.toNat else [])

def Packet.bytes (p : Packet) : Except PacketError Bytes :=
  if p.opcode = .dataV2 then .ok (p.headerByte :: (p.peerID.toList ++ p.payload))
  else if p.opcode.isControlOrAcknowledgment then
    if 255 < p.acknowledgmentIDs.length then .error (.serialize "too many acknowledgments")
    else .ok (p.headerByte :: (p.controlHeader ++ p.payload))
  else .ok (p.headerByte :: p.payload)

/-! ### Parsing -/

/-- A failed read of a field, extended by its name. -/
def parseField {α : Type} (context : String) : Option α → Except PacketError α
  | some value => .ok value
  | none => .error (.parse context)

def parseControlOrAcknowledgmentPacket (packet : Packet) (packetBody : Bytes) :
    Except PacketError Packet := do
  if packetBody.length < 8 + 1 then throw .tooShort
  let (localSessionID, reader) ← parseField "read local session id: " (readArray 8 packetBody)
  let (count, reader) ← parseField "read acknowledgment count: " (readArray 1 reader)
  let (acknowledgmentIDs, reader) ←
    parseField "read acknowledgment id: " (readNumbers 4 count.head.toNat reader)
  let (remoteSessionID, reader) ←
    if 0 < acknowledgmentIDs.length then
      parseField "read remote session id: " (readArray 8 reader)
    else pure (packet.remoteSessionID, reader)
  let (id, reader) ←
    if packet.opcode ≠ .acknowledgmentV1 then do
      let (id, reader) ← parseField "read packet id: " (readFull 4 reader)
      pure (UInt32.ofNat (getBE id), reader)
    else pure (packet.id, reader)
  return { packet with
    localSessionID := localSessionID
    acknowledgmentIDs := acknowledgmentIDs.map UInt32.ofNat
    remoteSessionID := remoteSessionID
    id := id
    payload := reader }

def parsePacket (rawPacket : Bytes) : Except PacketError Packet :=
  match rawPacket with
  | [] => .error .tooShort
  | header :: packetBody =>
    let opcode := Opcode.ofCode (header >>> 3)
    let packet := newPacket opcode (header &&& 0x07) []
    if opcode = .dataV2 then
      match readArray 3 packetBody with
      | none => .error .tooShort
      | some (peerID, packetBody) => .ok { packet with peerID := peerID, payload := packetBody }
    else if opcode.isControlOrAcknowledgment then
      parseControlOrAcknowledgmentPacket packet packetBody
    else .ok { packet with payload := packetBody }

/-- `ParsePacketView`, which does not copy the payload of a data packet. -/
def parsePacketView (rawPacket : Bytes) : Except PacketError Packet :=
  match rawPacket with
  | [] => .error .tooShort
  | header :: packetBody =>
    let opcode := Opcode.ofCode (header >>> 3)
    if !opcode.isData then parsePacket rawPacket
    else
      let packet := newPacket opcode (header &&& 0x07) []
      if opcode = .dataV2 then
        match readArray 3 packetBody with
        | none => .error .tooShort
        | some (peerID, packetBody) => .ok { packet with peerID := peerID, payload := packetBody }
      else .ok { packet with payload := packetBody }

/-! ### What the peer sees of a control packet -/

/-- A control packet or an acknowledgment as it comes out of the peer's parser. -/
def Packet.onWire (p : Packet) : Packet :=
  { p with
    peerID := List.Vector.replicate 3 0
    remoteSessionID := if 0 < p.acknowledgmentIDs.length then p.remoteSessionID else unsetSessionID
    id := if p.opcode ≠ .acknowledgmentV1 then p.id else 0 }

@[simp] theorem Packet.onWire_opcode (p : Packet) : p.onWire.opcode = p.opcode := rfl

theorem Packet.onWire_id {p : Packet} (h : p.opcode ≠ .acknowledgmentV1) : p.onWire.id = p.id :=
  if_pos h

theorem header_split : ∀ code < 32, ∀ keyID < 8,
    (((ofNat code <<< 3) ||| (ofNat keyID &&& 0x07)) >>> 3 = ofNat code) ∧
    (((ofNat code <<< 3) ||| (ofNat keyID &&& 0x07)) &&& 0x07 = ofNat keyID) := by
  decide

theorem Packet.headerByte_split {p : Packet} (hcode : p.opcode.code.toNat < 32)
    (hkey : p.keyID.toNat < 8) :
    p.headerByte >>> 3 = p.opcode.code ∧ p.headerByte &&& 0x07 = p.keyID := by
  have h := header_split _ hcode _ hkey
  simpa only [UInt8.ofNat_toNat, Packet.headerByte] using h

theorem Opcode.ofCode_code {opcode : Opcode} (h : opcode.isControlOrAcknowledgment = true) :
    Opcode.ofCode opcode.code = opcode := by
  cases opcode with
  | unknown code => cases h
  | _ => rfl

theorem Opcode.code_lt {opcode : Opcode} (h : opcode.isControlOrAcknowledgment = true) :
    opcode.code.toNat < 32 := by
  cases opcode with
  | unknown code => cases h
  | _ => decide

theorem map_ofNat_toNat (ids : List PacketID) :
    (ids.map UInt32.toNat).map UInt32.ofNat = ids := by
  rw [List.map_map]
  exact (List.map_congr_left fun id _ => UInt32.ofNat_toNat).trans (List.map_id ids)

theorem parseControlOrAcknowledgmentPacket_controlHeader {p packet : Packet}
    (hopcode : packet.opcode = p.opcode) (hid : packet.id = 0)
    (hremote : packet.remoteSessionID = unsetSessionID)
    (hacks : p.acknowledgmentIDs.length ≤ 255) :
    parseControlOrAcknowledgmentPacket packet (p.controlHeader ++ p.payload) =
      .ok { packet with
        localSessionID := p.localSessionID
        acknowledgmentIDs := p.acknowledgmentIDs
        remoteSessionID := p.onWire.remoteSessionID
        id := p.onWire.id
        payload := p.payload } := by
  have hlength : ¬ (p.controlHeader ++ p.payload).length < 8 + 1 := by
    simp [Packet.controlHeader]
    omega
  have hcount : (ofNat p.acknowledgmentIDs.length).toNat = p.acknowledgmentIDs.length := by
    rw [toNat_ofNat']
    omega
  have hnumbers : ∀ number ∈ p.acknowledgmentIDs.map UInt32.toNat, number < 256 ^ 4 := by
    intro number hnumber
    obtain ⟨id, _, rfl⟩ := List.mem_map.mp hnumber
    exact id.toNat_lt
  have hread := readNumbers_append hnumbers
  rw [List.length_map] at hread
  unfold parseControlOrAcknowledgmentPacket
  rw [if_neg hlength]
  simp only [Packet.controlHeader, List.append_assoc, readArray_append, List.cons_append,
    List.nil_append, readArray_one, List.Vector.head_cons, hcount, hread,
    parseField, Except.bind, bind, map_ofNat_toNat, List.length_map, hopcode]
  -- the two optional fields: remote session id and packet id
  by_cases hremoteField : 0 < p.acknowledgmentIDs.length <;>
    by_cases hidField : p.opcode = .acknowledgmentV1 <;>
    simp [hremoteField, hidField, readArray_append, readFull_append, hid, hremote,
      Packet.onWire, pure, Except.pure]

theorem parsePacket_bytes {p : Packet} (hcontrol : p.opcode.isControlOrAcknowledgment = true)
    (hkey : p.keyID.toNat < 8) (hacks : p.acknowledgmentIDs.length ≤ 255) :
    p.bytes.bind parsePacket = .ok p.onWire := by
  obtain ⟨hcode, hkeyID⟩ := Packet.headerByte_split (Opcode.code_lt hcontrol) hkey
  have hdata : p.opcode ≠ .dataV2 := by
    rintro heq
    rw [heq] at hcontrol
    cases hcontrol
  rw [Packet.bytes, if_neg hdata, if_pos hcontrol, if_neg (by omega), Except.bind, parsePacket]
  simp only [hcode, Opcode.ofCode_code hcontrol, hkeyID]
  rw [if_neg hdata, if_pos hcontrol]
  exact parseControlOrAcknowledgmentPacket_controlHeader rfl rfl rfl hacks

end SingOpenVPN
