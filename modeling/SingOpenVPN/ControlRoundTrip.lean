import SingOpenVPN.ControlIDs
import SingOpenVPN.Reflection
import SingOpenVPN.TransitionSystem

/-!
# Wrapped control packets, sent and received (`control_wrap.go`)

Two endpoints hold the same key for opposite roles.  One of them sends control
packets, the link loses some, repeats others and keeps the order; the other one
unwraps what arrives.  What is wrapped is unwrapped up to the replay check of its id
(`Paired`), and the ids are in order.

A tls-crypt-v2 client sends its wrapped key behind the packets that announce it; a
tls-crypt-v2 server that has no key yet can unwrap only such a packet.
-/

namespace SingOpenVPN

open ByteCodec BlockModes TransitionSystem List Option ControlProtection ControlCryptCodec

/-! ### Sending -/

def rawOpcode (rawPacket : Bytes) : Opcode := Opcode.ofCode (rawPacket.headD 0 >>> 3)

/-- The two opcodes a wrapped client key travels with. -/
def announcesWrappedKey (opcode : Opcode) : Bool :=
  opcode = .controlHardResetClientV3 || opcode = .controlWKCv1

def appendTLSCryptV2WrappedClientKey (rawPacket wrappedClientKey : Bytes) (opcode : Opcode) :
    Bytes :=
  if 0 < wrappedClientKey.length ∧ announcesWrappedKey opcode = true then
    rawPacket ++ wrappedClientKey
  else rawPacket

structure ControlSender where
  protection : ControlProtection
  wrappedClientKey : Bytes

namespace ControlSender

variable (crypto : CryptoPrimitives)

/-- `writeHandshakePacket` and `writePacket`, up to the link. -/
def send (sender : ControlSender) (packet : ControlSend) : Bytes × ControlSender :=
  let (encodedPacket, protection) := sender.protection.encodeOutgoingControlPacket crypto
    packet.rawPacket packet.first packet.wrapped
  (appendTLSCryptV2WrappedClientKey encodedPacket sender.wrappedClientKey
      (rawOpcode packet.rawPacket),
    { sender with protection := protection })

def sendAll (sender : ControlSender) : List ControlSend → List Bytes
  | [] => []
  | packet :: packets =>
    (sender.send crypto packet).1 :: (sender.send crypto packet).2.sendAll packets

/-- The sender with its packet counter set, as `seedNextID` does before the first packet. -/
def withSendState (sender : ControlSender) (s : TLSPacketIDState) : ControlSender :=
  { sender with protection := { sender.protection with
      auth := sender.protection.auth.map fun auth => { auth with sendState := s }
      crypt := sender.protection.crypt.map fun crypt => { crypt with sendState := s } } }

end ControlSender

def TLSPacketIDState.seedNextID (s : TLSPacketIDState) (nextID now : UInt32) : TLSPacketIDState :=
  { nextID := nextID, timestamp := if s.timestamp = 0 then now else s.timestamp }

/-! ### The endpoints -/

/-- What `newTLSClientProtection` and `newTLSServerProtection` read of the options: the
    content of the tls-crypt-v2 key file, the keys of tls-crypt and tls-auth, and the two
    settings of tls-auth. -/
structure ControlKeyOptions where
  cryptV2 : Option Bytes
  crypt : Option StaticKeyMaterial
  auth : Option StaticKeyMaterial
  keyDirection : Int
  dataChannelAuth : String

def tlsCryptV2EarlyNegotiationStart : UInt32 := 0x0f000000

def loadTLSCryptV2ClientKey (keyBytes : Bytes) : Except String (StaticKeyMaterial × Bytes) :=
  match readArray tlsCryptV2ClientKeyDataLength keyBytes with
  | none => .error "invalid tls-crypt-v2 client key"
  | some (keyMaterial, wrappedClientKey) =>
    if wrappedClientKey.length = 0 then .error "missing wrapped tls-crypt-v2 client key"
    else .ok (keyMaterial, wrappedClientKey)

def loadTLSCryptV2ServerKey (keyBytes : Bytes) : Except String Bytes :=
  if keyBytes.length < tlsCryptV2ServerKeyLength then .error "invalid tls-crypt-v2 server key"
  else .ok (keyBytes.take tlsCryptV2ServerKeyLength)

/-- The digest tls-auth uses where the data channel names none. -/
def tlsAuthName (dataChannelAuth : String) : String :=
  if dataChannelAuth = "" ∨ dataChannelAuth = "NONE" then "SHA1" else dataChannelAuth

section Endpoints

variable (crypto : CryptoPrimitives)

def newTLSClientProtection (options : ControlKeyOptions) (now : UInt32) :
    Except String ControlSender :=
  match options.cryptV2, options.crypt, options.auth with
  | some keyBytes, _, _ => do
    let (keyMaterial, wrappedClientKey) ← loadTLSCryptV2ClientKey keyBytes
    let cryptCodec ← newControlCryptCodecFromMaterial crypto keyMaterial tlsCryptKeyDirectionInverse
    let sendState := cryptCodec.sendState.seedNextID tlsCryptV2EarlyNegotiationStart now
    return ⟨⟨none, some { cryptCodec with sendState := sendState }, []⟩, wrappedClientKey⟩
  | none, some keyMaterial, _ => do
    let cryptCodec ← newControlCryptCodecFromMaterial crypto keyMaterial tlsCryptKeyDirectionInverse
    return ⟨⟨none, some cryptCodec, []⟩, []⟩
  | none, none, some keyMaterial => do
    let authCodec ← newControlAuthCodecWithAuth keyMaterial options.keyDirection
      (tlsAuthName options.dataChannelAuth)
    return ⟨⟨some authCodec, none, []⟩, []⟩
  | none, none, none => return ⟨⟨none, none, []⟩, []⟩

def newTLSServerProtection (options : ControlKeyOptions) : Except String ControlProtection :=
  match options.cryptV2, options.crypt, options.auth with
  | some keyBytes, _, _ => do
    let serverKey ← loadTLSCryptV2ServerKey keyBytes
    return ⟨none, none, serverKey⟩
  | none, some keyMaterial, _ => do
    let cryptCodec ← newControlCryptCodecFromMaterial crypto keyMaterial tlsCryptKeyDirectionNormal
    return ⟨none, some cryptCodec, []⟩
  | none, none, some keyMaterial => do
    let authCodec ← newControlAuthCodecWithAuth keyMaterial options.keyDirection
      (tlsAuthName options.dataChannelAuth)
    return ⟨some authCodec, none, []⟩
  | none, none, none => return ⟨none, none, []⟩

/-- A tls-crypt-v2 client key file whose wrapped key the server can unwrap to the key it
    stands beside. -/
def UnwrapsTo (clientKeyBytes serverKeyBytes : Bytes) : Prop :=
  ∃ keyMaterial wrappedClientKey serverKey,
    loadTLSCryptV2ClientKey clientKeyBytes = .ok (keyMaterial, wrappedClientKey) ∧
    loadTLSCryptV2ServerKey serverKeyBytes = .ok serverKey ∧
    ControlProtection.unwrapTLSCryptV2ClientKey crypto wrappedClientKey serverKey = .ok keyMaterial

/-- A client and a server that wrap their control packets with the same key, for opposite
    roles. -/
structure OppositeRoles (client server : ControlKeyOptions) : Prop where
  wraps : client.cryptV2.isSome = true ∨ client.crypt.isSome = true ∨ client.auth.isSome = true
  cryptV2 : Option.Rel (UnwrapsTo crypto) client.cryptV2 server.cryptV2
  crypt : client.cryptV2 = none → client.crypt = server.crypt
  auth : client.cryptV2 = none → client.crypt = none → client.auth = server.auth ∧
    OppositeDirections client.keyDirection server.keyDirection ∧
    tlsAuthName client.dataChannelAuth = tlsAuthName server.dataChannelAuth

end Endpoints

/-! ### The slot of the other side -/

section Slots

variable {crypto : CryptoPrimitives} {staticKeyMaterial : StaticKeyMaterial} {left right : Int}

theorem newControlAuthCodecWithAuth_opposite (hdirections : OppositeDirections left right)
    {authName : String} {c peer : ControlAuthCodec}
    (h : newControlAuthCodecWithAuth staticKeyMaterial left authName = .ok c)
    (h' : newControlAuthCodecWithAuth staticKeyMaterial right authName = .ok peer) :
    peer.hash = c.hash ∧ peer.receiveState = defaultReplayWindow ∧
      ∃ rest, peer.receiveKeys = c.sendKey :: rest := by
  obtain ⟨slots, hslots⟩ := hdirections.receiveSlotIndexes
  obtain ⟨hash, -, hresult, hresult'⟩ := bind_eq_ok_both h h'
  cases hash with
  | none => cases hresult
  | some hash =>
    cases hresult
    cases hresult'
    refine ⟨rfl, rfl, slots.map (macKey staticKeyMaterial hash), ?_⟩
    rw [hslots, map_cons]

theorem newControlCryptCodecFromMaterial_opposite (hdirections : OppositeDirections left right)
    {c peer : ControlCryptCodec}
    (h : newControlCryptCodecFromMaterial crypto staticKeyMaterial left = .ok c)
    (h' : newControlCryptCodecFromMaterial crypto staticKeyMaterial right = .ok peer) :
    peer.receiveState = defaultReplayWindow ∧
      ∃ rest, peer.receiveCandidates = ⟨c.sendEncryptBlock, c.sendAuthKey⟩ :: rest := by
  obtain ⟨slots, hslots⟩ := hdirections.receiveSlotIndexes
  obtain ⟨send, hsend, hrest⟩ := bind_eq_ok.mp h
  obtain ⟨_, -, hresult⟩ := bind_eq_ok.mp hrest
  obtain ⟨_, -, hrest'⟩ := bind_eq_ok.mp h'
  obtain ⟨candidates, hcandidates, hresult'⟩ := bind_eq_ok.mp hrest'
  rw [hslots, mapM_cons] at hcandidates
  obtain ⟨first, hfirst, htail⟩ := bind_eq_ok.mp hcandidates
  obtain ⟨others, -, hlist⟩ := bind_eq_ok.mp htail
  obtain rfl : send = first := Except.ok.inj (hsend.symm.trans hfirst)
  cases hresult
  cases hresult'
  cases hlist
  exact ⟨rfl, others, rfl⟩

end Slots

/-! ### The wrapped key behind a packet -/

section WrappedKey

variable {crypto : CryptoPrimitives}

/-- What `extractTLSCryptV2ClientKey` needs to find the key behind a packet. -/
structure WrappedKeyFits (wrappedClientKey serverKey : Bytes) : Prop where
  serverKey : 0 < serverKey.length
  tag : tlsCryptTagLength + 2 ≤ wrappedClientKey.length
  length : getBE (wrappedClientKey.drop (wrappedClientKey.length - 2)) = wrappedClientKey.length

theorem wrappedKeyFits_of_unwrap {wrappedClientKey serverKey : Bytes}
    {keyMaterial : StaticKeyMaterial}
    (h : unwrapTLSCryptV2ClientKey crypto wrappedClientKey serverKey =
      .ok keyMaterial) : WrappedKeyFits wrappedClientKey serverKey := by
  rw [unwrapTLSCryptV2ClientKey] at h
  by_cases hserver : serverKey.length < tlsCryptV2ServerKeyLength
  · rw [if_pos hserver] at h
    cases h
  rw [if_neg hserver] at h
  by_cases htag : wrappedClientKey.length < tlsCryptTagLength + 2
  · rw [if_pos htag] at h
    cases h
  rw [if_neg htag] at h
  by_cases hlength :
      getBE (wrappedClientKey.drop (wrappedClientKey.length - 2)) ≠ wrappedClientKey.length
  · rw [if_pos hlength] at h
    cases h
  · simp only [tlsCryptV2ServerKeyLength] at hserver
    exact ⟨by omega, not_lt.mp htag, not_not.mp hlength⟩

variable {p : ControlProtection} {packetBytes wrappedClientKey : Bytes}

theorem WrappedKeyFits.extract (h : WrappedKeyFits wrappedClientKey p.cryptV2ServerKey)
    (hlength : tlsControlHeaderLength ≤ packetBytes.length) :
    let rawPacket := packetBytes ++ wrappedClientKey
    let wrappedKeyLength := getBE (rawPacket.drop (rawPacket.length - 2))
    p.cryptV2ServerKey.length ≠ 0 ∧ ¬ rawPacket.length < tlsControlHeaderLength + 2 ∧
      ¬ (wrappedKeyLength < tlsCryptTagLength + 2 ∨
        rawPacket.length - tlsControlHeaderLength < wrappedKeyLength) ∧
      rawPacket.take (rawPacket.length - wrappedKeyLength) = packetBytes ∧
      rawPacket.drop (rawPacket.length - wrappedKeyLength) = wrappedClientKey := by
  have htag := h.tag
  have hserver := h.serverKey
  have hlast : (packetBytes ++ wrappedClientKey).drop
      ((packetBytes ++ wrappedClientKey).length - 2) =
        wrappedClientKey.drop (wrappedClientKey.length - 2) := by
    rw [drop_append, length_append, drop_eq_nil_of_le (by omega), nil_append,
      show packetBytes.length + wrappedClientKey.length - 2 - packetBytes.length =
        wrappedClientKey.length - 2 from by omega]
  dsimp only
  rw [hlast, h.length, length_append, Nat.add_sub_cancel]
  refine ⟨by omega, by omega, by omega, take_left, drop_left⟩

theorem extractTLSCryptV2ClientKey_keyed
    (hfits : WrappedKeyFits wrappedClientKey p.cryptV2ServerKey)
    (hlength : tlsControlHeaderLength ≤ packetBytes.length) (hkeyed : p.crypt.isSome = true) :
    p.extractTLSCryptV2ClientKey crypto (packetBytes ++ wrappedClientKey) =
      .ok (packetBytes, p) := by
  obtain ⟨codec, hcodec⟩ := isSome_iff_exists.mp hkeyed
  obtain ⟨hserver, hshort, hbounds, htake, -⟩ := hfits.extract hlength
  rw [extractTLSCryptV2ClientKey, if_neg hserver, if_neg hshort]
  rw [if_neg hbounds, htake, hcodec]

theorem extractTLSCryptV2ClientKey_unkeyed {keyMaterial : StaticKeyMaterial}
    {cryptCodec : ControlCryptCodec}
    (hunwrap : unwrapTLSCryptV2ClientKey crypto wrappedClientKey
      p.cryptV2ServerKey = .ok keyMaterial)
    (hcodec : newControlCryptCodecFromMaterial crypto keyMaterial tlsCryptKeyDirectionNormal =
      .ok cryptCodec)
    (hlength : tlsControlHeaderLength ≤ packetBytes.length) (hunkeyed : p.crypt = none) :
    p.extractTLSCryptV2ClientKey crypto (packetBytes ++ wrappedClientKey) =
      .ok (packetBytes, { p with crypt := some cryptCodec }) := by
  obtain ⟨hserver, hshort, hbounds, htake, hdrop⟩ :=
    (wrappedKeyFits_of_unwrap hunwrap).extract hlength
  rw [extractTLSCryptV2ClientKey, if_neg hserver, if_neg hshort]
  rw [if_neg hbounds, htake, hdrop, hunkeyed]
  rw [hunwrap]
  simp only [hcodec, bind, Except.bind, pure, Except.pure]

end WrappedKey

/-! ### One packet across the link -/

/-- A packet this endpoint may send: it has a whole header, and if its opcode announces a
    wrapped client key, then the endpoint has one to append. -/
structure Sendable (wrappedClientKey rawPacket : Bytes) : Prop where
  header : tlsControlHeaderLength ≤ rawPacket.length
  announces : announcesWrappedKey (rawOpcode rawPacket) = true → 0 < wrappedClientKey.length

section Pairing

variable (crypto : CryptoPrimitives)

/-- A sender and a receiver, as a function of its replay window, that understand each
    other: what the one sends, the other decodes down to the replay check of its id. -/
structure Paired (sender : ControlSender) (receiver : ReplayWindow → ControlProtection) : Prop where
  sent : ∀ (s : TLSPacketIDState) (send : ControlSend),
    Sendable sender.wrappedClientKey send.rawPacket →
    ((sender.withSendState s).send crypto send).2 =
      sender.withSendState (s.next send.first send.wrapped)
  decodes : ∀ (s : TLSPacketIDState) (send : ControlSend) (w : ReplayWindow) (now arrival : Time),
    Sendable sender.wrappedClientKey send.rawPacket →
    ∃ err, (receiver w).decodeIncomingControlPacket crypto
        ((sender.withSendState s).send crypto send).1 now arrival =
      let answer := w.acceptState (s.next send.first send.wrapped) now arrival
      (if answer.1 then .ok send.rawPacket else .error err, receiver answer.2)

variable {crypto} {packet rawPacket : Bytes}

theorem rawOpcode_append (h : tlsControlHeaderLength ≤ rawPacket.length) (rest : Bytes) :
    rawOpcode (rawPacket.take tlsControlHeaderLength ++ rest) = rawOpcode rawPacket := by
  cases rawPacket with
  | nil => cases h
  | cons first body => rfl

theorem ControlAuthCodec.encodeControlPacket_shape (c : ControlAuthCodec) {rawPacket : Bytes}
    (h : tlsControlHeaderLength ≤ rawPacket.length) (first wrapped : UInt32) :
    (∃ rest, (c.encodeControlPacket crypto rawPacket first wrapped).1 =
      rawPacket.take tlsControlHeaderLength ++ rest) ∧
    (c.encodeControlPacket crypto rawPacket first wrapped).2 =
      { c with sendState := c.sendState.next first wrapped } := by
  rw [encodeControlPacket, if_neg (not_lt.mpr h)]
  constructor
  · simp only [append_assoc]
    exact ⟨_, rfl⟩
  · rfl

theorem ControlCryptCodec.encodeControlPacket_shape (c : ControlCryptCodec) {rawPacket : Bytes}
    (h : tlsControlHeaderLength ≤ rawPacket.length) (first wrapped : UInt32) :
    (∃ rest, (c.encodeControlPacket crypto rawPacket first wrapped).1 =
      rawPacket.take tlsControlHeaderLength ++ rest) ∧
    (c.encodeControlPacket crypto rawPacket first wrapped).2 =
      { c with sendState := c.sendState.next first wrapped } := by
  rw [encodeControlPacket, if_neg (not_lt.mpr h)]
  constructor
  · simp only [append_assoc]
    exact ⟨_, rfl⟩
  · rfl

variable {p : ControlProtection}

/-- A packet with a whole header is authenticated as it is, or after its wrapped key was cut
    off. -/
theorem decodeIncomingControlPacket_plain {rest : Bytes}
    (hlength : tlsControlHeaderLength ≤ packet.length)
    (hopcode : announcesWrappedKey (rawOpcode packet) = false) (now arrival : Time) :
    p.decodeIncomingControlPacket crypto (packet.take tlsControlHeaderLength ++ rest) now arrival =
      p.authenticate crypto (packet.take tlsControlHeaderLength ++ rest) now arrival := by
  have hheader :
      ¬ (packet.take tlsControlHeaderLength ++ rest).length < tlsControlHeaderLength := by
    rw [length_append, length_take_of_le hlength]
    omega
  have hplain :
      ¬ (rawOpcode packet = .controlHardResetClientV3 ∨ rawOpcode packet = .controlWKCv1) := by
    simpa [announcesWrappedKey] using hopcode
  rw [← rawOpcode_append hlength rest] at hplain
  rw [decodeIncomingControlPacket, if_neg hheader]
  exact if_neg hplain

theorem decodeIncomingControlPacket_announced {p p' : ControlProtection}
    {rest wrappedClientKey : Bytes} (hlength : tlsControlHeaderLength ≤ packet.length)
    (hopcode : announcesWrappedKey (rawOpcode packet) = true)
    (hextract : p.extractTLSCryptV2ClientKey crypto
      ((packet.take tlsControlHeaderLength ++ rest) ++ wrappedClientKey) =
        .ok (packet.take tlsControlHeaderLength ++ rest, p')) (now arrival : Time) :
    p.decodeIncomingControlPacket crypto
        ((packet.take tlsControlHeaderLength ++ rest) ++ wrappedClientKey) now arrival =
      p'.authenticate crypto (packet.take tlsControlHeaderLength ++ rest) now arrival := by
  have hheader : ¬ ((packet.take tlsControlHeaderLength ++ rest) ++ wrappedClientKey).length <
      tlsControlHeaderLength := by
    rw [append_assoc, length_append, length_take_of_le hlength]
    omega
  have hannounced : rawOpcode packet = .controlHardResetClientV3 ∨
      rawOpcode packet = .controlWKCv1 := by
    simpa [announcesWrappedKey] using hopcode
  rw [← rawOpcode_append hlength (rest ++ wrappedClientKey), ← append_assoc] at hannounced
  rw [decodeIncomingControlPacket, if_neg hheader]
  refine (if_pos hannounced).trans ?_
  rw [hextract]

theorem appendTLSCryptV2WrappedClientKey_plain {wrappedClientKey : Bytes} {opcode : Opcode}
    (h : announcesWrappedKey opcode = false) :
    appendTLSCryptV2WrappedClientKey rawPacket wrappedClientKey opcode = rawPacket := by
  simp [appendTLSCryptV2WrappedClientKey, h]

theorem Sendable.plain (h : Sendable [] rawPacket) :
    announcesWrappedKey (rawOpcode rawPacket) = false := by
  rw [← Bool.not_eq_true]
  intro hannounces
  exact lt_irrefl 0 (h.announces hannounces)

theorem authenticate_auth {auth auth' : ControlAuthCodec}
    {packetBytes : Bytes} {accepted : Bool} {now arrival : Time} (hcrypt : p.crypt = none)
    (hauth : p.auth = some auth) (h : auth.decodeControlPacket crypto packetBytes now arrival =
      (if accepted then some packet else none, auth')) :
    p.authenticate crypto packetBytes now arrival =
      (if accepted then .ok packet else .error "invalid tls-auth packet",
        { p with auth := some auth' }) := by
  rw [authenticate, hcrypt, hauth]
  dsimp only
  rw [h]
  cases accepted <;> rfl

theorem authenticate_crypt {crypt crypt' : ControlCryptCodec}
    {packetBytes : Bytes} {accepted : Bool} {now arrival : Time} (hcrypt : p.crypt = some crypt)
    (h : crypt.decodeControlPacket crypto packetBytes now arrival =
      (if accepted then some packet else none, crypt')) :
    p.authenticate crypto packetBytes now arrival =
      (if accepted then .ok packet else .error "invalid tls-crypt packet",
        { p with crypt := some crypt' }) := by
  rw [authenticate, hcrypt]
  dsimp only
  rw [h]
  cases accepted <;> rfl

theorem paired_auth {c peer : ControlAuthCodec} {rest : List Bytes} (hhash : peer.hash = c.hash)
    (hkeys : peer.receiveKeys = c.sendKey :: rest) :
    Paired crypto ⟨⟨some c, none, []⟩, []⟩
      (fun w => ⟨some { peer with receiveState := w }, none, []⟩) where
  sent := by
    intro s send hsendable
    simp [ControlSender.send, ControlSender.withSendState,
      encodeOutgoingControlPacket,
      (ControlAuthCodec.encodeControlPacket_shape { c with sendState := s } hsendable.header _ _).2]
  decodes := by
    intro s send w now arrival hsendable
    refine ⟨"invalid tls-auth packet", ?_⟩
    have hkeys' : ({ peer with receiveState := w } : ControlAuthCodec).receiveKeys =
        [] ++ ({ c with sendState := s } : ControlAuthCodec).sendKey :: rest := hkeys
    have hhash' : ({ peer with receiveState := w } : ControlAuthCodec).hash =
        ({ c with sendState := s } : ControlAuthCodec).hash := hhash
    have hdecode := ControlAuthCodec.decode_encode_peer crypto hhash' hkeys' (by simp)
      hsendable.header send.first send.wrapped now arrival
    obtain ⟨⟨tail, htail⟩, -⟩ := @ControlAuthCodec.encodeControlPacket_shape crypto
      { c with sendState := s } _ hsendable.header send.first send.wrapped
    rw [htail] at hdecode
    simp only [ControlSender.send, ControlSender.withSendState, map_some, map_none,
      encodeOutgoingControlPacket, htail]
    rw [appendTLSCryptV2WrappedClientKey_plain hsendable.plain,
      decodeIncomingControlPacket_plain hsendable.header hsendable.plain]
    exact authenticate_auth rfl rfl hdecode

/-- tls-crypt, of both versions: the wrapped key is cut off again where the receiver has the
    server's key. -/
theorem paired_crypt {c peer : ControlCryptCodec} {rest : List ControlCryptCandidate}
    (hcandidates : peer.receiveCandidates = ⟨c.sendEncryptBlock, c.sendAuthKey⟩ :: rest)
    {wrappedClientKey serverKey : Bytes} (senderKey : Bytes)
    (hfits : wrappedClientKey = [] ∨ WrappedKeyFits wrappedClientKey serverKey) :
    Paired crypto ⟨⟨none, some c, senderKey⟩, wrappedClientKey⟩
      (fun w => ⟨none, some { peer with receiveState := w }, serverKey⟩) where
  sent := by
    intro s send hsendable
    simp [ControlSender.send, ControlSender.withSendState,
      encodeOutgoingControlPacket,
      (encodeControlPacket_shape { c with sendState := s } hsendable.header _ _).2]
  decodes := by
    intro s send w now arrival hsendable
    refine ⟨"invalid tls-crypt packet", ?_⟩
    have hcandidates' : ({ peer with receiveState := w } : ControlCryptCodec).receiveCandidates =
        [] ++ ⟨({ c with sendState := s } : ControlCryptCodec).sendEncryptBlock,
          ({ c with sendState := s } : ControlCryptCodec).sendAuthKey⟩ :: rest := hcandidates
    have hdecode := decode_encode_peer crypto hcandidates' (by simp)
      hsendable.header send.first send.wrapped now arrival
    obtain ⟨⟨tail, htail⟩, -⟩ := @encodeControlPacket_shape crypto
      { c with sendState := s } _ hsendable.header send.first send.wrapped
    rw [htail] at hdecode
    simp only [ControlSender.send, ControlSender.withSendState, map_some, map_none,
      encodeOutgoingControlPacket, htail]
    rcases Bool.eq_false_or_eq_true (announcesWrappedKey (rawOpcode send.rawPacket)) with
      hannounces | hplain
    · have hwrapped := hsendable.announces hannounces
      have hfits : WrappedKeyFits wrappedClientKey serverKey :=
        hfits.resolve_left (ne_nil_of_length_pos hwrapped)
      have hheader : tlsControlHeaderLength ≤
          (send.rawPacket.take tlsControlHeaderLength ++ tail).length := by
        rw [length_append, length_take_of_le hsendable.header]
        omega
      rw [appendTLSCryptV2WrappedClientKey, if_pos ⟨hwrapped, hannounces⟩,
        decodeIncomingControlPacket_announced hsendable.header hannounces
          (extractTLSCryptV2ClientKey_keyed hfits hheader rfl)]
      exact authenticate_crypt rfl hdecode
    · rw [appendTLSCryptV2WrappedClientKey_plain hplain,
        decodeIncomingControlPacket_plain hsendable.header hplain]
      exact authenticate_crypt rfl hdecode

end Pairing

/-! ### The receiver -/

structure ControlReceiver where
  protection : ControlProtection
  seen : List Nat

structure ControlArrival where
  index : Nat
  now : Time
  arrival : Time

/-- A tls-crypt-v2 server needs the client's key: from an earlier packet, or from this one. -/
def Unwrappable (p : ControlProtection) (rawPacket : Bytes) : Prop :=
  0 < p.cryptV2ServerKey.length → p.crypt.isSome = true ∨
    announcesWrappedKey (rawOpcode rawPacket) = true

section Receiving

variable (crypto : CryptoPrimitives)

/-- Packets arrive in order, any of them may be lost, and any that arrived may arrive
    again. -/
def receiverSystem (start : ControlProtection) (wires : List Bytes) :
    System ControlReceiver ControlArrival where
  initial r := r = ⟨start, []⟩
  step r a := do
    let wire ← wires[a.index]?
    let protection := (r.protection.decodeIncomingControlPacket crypto wire a.now a.arrival).2
    if a.index ∈ r.seen then return ⟨protection, r.seen⟩
    else if ∀ index ∈ r.seen, index < a.index then return ⟨protection, a.index :: r.seen⟩
    else none

/-- In every state the receiver can be in, a packet that comes next is decoded to what was
    sent and one that was seen is refused.  The first packet a tls-crypt-v2 server gets must
    bring the client's key. -/
def RoundTrips (sender : ControlSender) (start : ControlProtection) (sends : List ControlSend) :
    Prop :=
  ∀ r, ReachableBy (receiverSystem crypto start (sender.sendAll crypto sends))
      (fun r a => ∀ send ∈ sends[a.index]?, Unwrappable r.protection send.rawPacket) r →
    ∀ index send wire, sends[index]? = some send →
      (sender.sendAll crypto sends)[index]? = some wire → ∀ now arrival,
      ((∀ earlier ∈ r.seen, earlier < index) → Unwrappable r.protection send.rawPacket →
        (r.protection.decodeIncomingControlPacket crypto wire now arrival).1 =
          .ok send.rawPacket) ∧
      (index ∈ r.seen →
        ∃ err, (r.protection.decodeIncomingControlPacket crypto wire now arrival).1 = .error err)

/-- The start of a receiver: it has its keys, or gets them from the first packet that
    announces them. -/
def Opens (sender : ControlSender) (start : ControlProtection)
    (receiver : ReplayWindow → ControlProtection) : Prop :=
  ∀ (s : TLSPacketIDState) (send : ControlSend) (now arrival : Time),
    Sendable sender.wrappedClientKey send.rawPacket → Unwrappable start send.rawPacket →
    start.decodeIncomingControlPacket crypto ((sender.withSendState s).send crypto send).1
        now arrival =
      (receiver defaultReplayWindow).decodeIncomingControlPacket crypto
        ((sender.withSendState s).send crypto send).1 now arrival

/-- The receiver has its start state and saw nothing, or its window was given the ids of
    what it saw. -/
def Follows (start : ControlProtection) (receiver : ReplayWindow → ControlProtection)
    (states : List TLSPacketIDState) (r : ControlReceiver) : Prop :=
  r = ⟨start, []⟩ ∨ ∃ w, r.protection = receiver w ∧
    InOrder w (r.seen.filterMap fun index => states[index]?.map TLSPacketIDState.pair)

variable {crypto} {sender : ControlSender} {start : ControlProtection}
  {receiver : ReplayWindow → ControlProtection} {s : TLSPacketIDState} {sends : List ControlSend}
  {wire : Bytes} {send : ControlSend} {index : Nat}

/-- What was sent at an index, and the state of the counter at that packet. -/
theorem Paired.getElem?_sendAll (h : Paired crypto sender receiver)
    (hsendable : ∀ send ∈ sends, Sendable sender.wrappedClientKey send.rawPacket)
    (hsend : sends[index]? = some send)
    (hwire : ((sender.withSendState s).sendAll crypto sends)[index]? = some wire) :
    ∃ before : TLSPacketIDState, wire = ((sender.withSendState before).send crypto send).1 ∧
      (sendStates s sends)[index]? = some (before.next send.first send.wrapped) := by
  induction sends generalizing s index with
  | nil => cases hsend
  | cons first sends ih =>
    rw [ControlSender.sendAll, h.sent s first (hsendable first mem_cons_self)] at hwire
    cases index with
    | zero =>
      cases hsend
      cases hwire
      exact ⟨s, rfl, rfl⟩
    | succ index =>
      exact ih (fun send hmem => hsendable send (mem_cons_of_mem _ hmem)) hsend hwire

theorem before_of_index_lt (hahead : ClockAhead s sends) {seen : List Nat}
    {state : TLSPacketIDState} (hstate : (sendStates s sends)[index]? = some state)
    (hseen : ∀ earlier ∈ seen, earlier < index) :
    ∀ pair ∈ seen.filterMap fun index => (sendStates s sends)[index]?.map TLSPacketIDState.pair,
      LongFormBefore pair state.pair := by
  intro pair hpair
  obtain ⟨earlier, hearlier, hmap⟩ := mem_filterMap.mp hpair
  obtain ⟨state', hstate', rfl⟩ := map_eq_some_iff.mp hmap
  obtain ⟨hlength, rfl⟩ := List.getElem?_eq_some_iff.mp hstate
  obtain ⟨hlength', rfl⟩ := List.getElem?_eq_some_iff.mp hstate'
  exact pairwise_iff_getElem.mp (sendStates_pairwise hahead).1 earlier index hlength' hlength
    (hseen earlier hearlier)

section Arrival

variable {r : ControlReceiver} (h : Paired crypto sender receiver) (hahead : ClockAhead s sends)
  (hsendable : ∀ send ∈ sends, Sendable sender.wrappedClientKey send.rawPacket)
  (hfollows : Follows start receiver (sendStates s sends) r) (hsend : sends[index]? = some send)
  (hwire : ((sender.withSendState s).sendAll crypto sends)[index]? = some wire)

include h hahead hsendable hfollows hsend hwire

theorem Paired.next (hopens : Opens crypto sender start receiver)
    (hnext : ∀ earlier ∈ r.seen, earlier < index)
    (hunwrappable : Unwrappable r.protection send.rawPacket) (now arrival : Time) :
    (r.protection.decodeIncomingControlPacket crypto wire now arrival).1 = .ok send.rawPacket ∧
      Follows start receiver (sendStates s sends)
        ⟨(r.protection.decodeIncomingControlPacket crypto wire now arrival).2,
          index :: r.seen⟩ := by
  obtain ⟨before, rfl, hstate⟩ := h.getElem?_sendAll hsendable hsend hwire
  have hid := ((sendStates_pairwise hahead).2 _ (mem_of_getElem? hstate)).2
  have hsent := hsendable send (mem_of_getElem? hsend)
  -- in both cases the packet meets a window that knows the ids of what was seen
  have hwindow : ∃ w, r.protection.decodeIncomingControlPacket crypto
        ((sender.withSendState before).send crypto send).1 now arrival =
      (receiver w).decodeIncomingControlPacket crypto
        ((sender.withSendState before).send crypto send).1 now arrival ∧
      InOrder w (r.seen.filterMap fun index =>
        (sendStates s sends)[index]?.map TLSPacketIDState.pair) := by
    rcases hfollows with rfl | ⟨w, hprotection, hinOrder⟩
    · exact ⟨_, hopens before send now arrival hsent hunwrappable, inOrder_defaultReplayWindow⟩
    · exact ⟨w, by rw [hprotection], hinOrder⟩
  obtain ⟨w, hsame, hinOrder⟩ := hwindow
  obtain ⟨err, hdecodes⟩ := h.decodes before send w now arrival hsent
  obtain ⟨haccepts, hafter⟩ :=
    hinOrder.newer hid (before_of_index_lt hahead hstate hnext) now arrival
  rw [hsame, hdecodes]
  dsimp only
  rw [if_pos haccepts]
  refine ⟨rfl, .inr ⟨_, rfl, ?_⟩⟩
  simpa only [filterMap_cons, hstate, map_some] using hafter

theorem Paired.again (hseen : index ∈ r.seen) (now arrival : Time) :
    (∃ err, (r.protection.decodeIncomingControlPacket crypto wire now arrival).1 = .error err) ∧
      Follows start receiver (sendStates s sends)
        ⟨(r.protection.decodeIncomingControlPacket crypto wire now arrival).2, r.seen⟩ := by
  obtain ⟨before, rfl, hstate⟩ := h.getElem?_sendAll hsendable hsend hwire
  have hid := ((sendStates_pairwise hahead).2 _ (mem_of_getElem? hstate)).2
  rcases hfollows with rfl | ⟨w, hprotection, hinOrder⟩
  · cases hseen
  · have hpair : (before.next send.first send.wrapped).pair ∈ r.seen.filterMap fun index =>
        (sendStates s sends)[index]?.map TLSPacketIDState.pair :=
      mem_filterMap.mpr ⟨index, hseen, by rw [hstate, map_some]⟩
    obtain ⟨err, hdecodes⟩ := h.decodes before send w now arrival
      (hsendable send (mem_of_getElem? hsend))
    obtain ⟨hrefuses, hafter⟩ := hinOrder.again hid hpair now arrival
    rw [hprotection, hdecodes]
    dsimp only
    rw [hrefuses]
    exact ⟨⟨err, rfl⟩, .inr ⟨_, rfl, hafter⟩⟩

end Arrival

theorem getElem?_of_getElem?_sendAll {sender : ControlSender} {sends : List ControlSend}
    (h : (sender.sendAll crypto sends)[index]? = some wire) :
    ∃ send, sends[index]? = some send := by
  induction sends generalizing sender index with
  | nil => cases h
  | cons first sends ih =>
    cases index with
    | zero => exact ⟨first, rfl⟩
    | succ index => exact ih h

theorem Paired.roundTrips (h : Paired crypto sender receiver)
    (hopens : Opens crypto sender start receiver) (hahead : ClockAhead s sends)
    (hsendable : ∀ send ∈ sends, Sendable sender.wrappedClientKey send.rawPacket) :
    RoundTrips crypto (sender.withSendState s) start sends := by
  intro r hreachable
  have hfollows : Follows start receiver (sendStates s sends) r := by
    refine hreachable.invariant (fun _ hinitial => .inl hinitial) ?_
    intro r a r' hfollows hallowed hstep
    obtain ⟨wire, hwire, hrest⟩ := bind_eq_some_iff.mp hstep
    obtain ⟨send, hsend⟩ := getElem?_of_getElem?_sendAll hwire
    by_cases hseen : a.index ∈ r.seen
    · rw [if_pos hseen] at hrest
      cases hrest
      exact (h.again hahead hsendable hfollows hsend hwire hseen _ _).2
    by_cases hnext : ∀ index ∈ r.seen, index < a.index
    · rw [if_neg hseen, if_pos hnext] at hrest
      cases hrest
      exact (h.next hahead hsendable hfollows hsend hwire hopens hnext (hallowed send hsend) _ _).2
    · rw [if_neg hseen, if_neg hnext] at hrest
      cases hrest
  intro index send wire hsend hwire now arrival
  constructor
  · intro hnext hunwrappable
    exact (h.next hahead hsendable hfollows hsend hwire hopens hnext hunwrappable now arrival).1
  · intro hseen
    exact (h.again hahead hsendable hfollows hsend hwire hseen now arrival).1

end Receiving

/-! ### The two directions -/

section Directions

variable {crypto : CryptoPrimitives}

/-- What a server sends to a client with: a tls-crypt-v2 server uses the key it unwrapped. -/
def ControlProtection.sendsTo (crypto : CryptoPrimitives) (p : ControlProtection)
    (wrappedClientKey : Bytes) : Except String ControlSender :=
  if 0 < p.cryptV2ServerKey.length then do
    let clientKeyMaterial ← unwrapTLSCryptV2ClientKey crypto wrappedClientKey p.cryptV2ServerKey
    let cryptCodec ← newControlCryptCodecFromMaterial crypto clientKeyMaterial
      tlsCryptKeyDirectionNormal
    return ⟨{ p with crypt := some cryptCodec }, []⟩
  else return ⟨p, []⟩

theorem oppositeDirections_crypt :
    OppositeDirections tlsCryptKeyDirectionInverse tlsCryptKeyDirectionNormal :=
  .inr (.inl ⟨rfl, rfl⟩)

variable {c peer : ControlCryptCodec}

theorem newControlCryptCodecFromMaterial_normal {staticKeyMaterial : StaticKeyMaterial}
    (h : newControlCryptCodecFromMaterial crypto staticKeyMaterial tlsCryptKeyDirectionInverse =
      .ok c) :
    ∃ peer, newControlCryptCodecFromMaterial crypto staticKeyMaterial tlsCryptKeyDirectionNormal =
      .ok peer := by
  obtain ⟨send, hsend, hrest⟩ := bind_eq_ok.mp h
  obtain ⟨candidates, hcandidates, -⟩ := bind_eq_ok.mp hrest
  have hslots : receiveSlotIndexes tlsCryptKeyDirectionInverse =
      [sendSlotIndex tlsCryptKeyDirectionNormal, sendSlotIndex tlsCryptKeyDirectionInverse] := rfl
  have hslots' : receiveSlotIndexes tlsCryptKeyDirectionNormal =
      [sendSlotIndex tlsCryptKeyDirectionInverse, sendSlotIndex tlsCryptKeyDirectionNormal] := rfl
  rw [hslots, mapM_cons] at hcandidates
  obtain ⟨first, hfirst, -⟩ := bind_eq_ok.mp hcandidates
  refine ⟨_, bind_eq_ok.mpr ⟨first, hfirst, bind_eq_ok.mpr ⟨[send, first], ?_, rfl⟩⟩⟩
  rw [hslots', mapM_cons, mapM_cons, mapM_nil, hsend, hfirst]
  rfl

theorem opens_of_eq {sender : ControlSender} {start : ControlProtection}
    {receiver : ReplayWindow → ControlProtection} (h : start = receiver defaultReplayWindow) :
    Opens crypto sender start receiver := by
  intro s send now arrival _ _
  rw [h]

theorem crypt_defaultReplayWindow (h : peer.receiveState = defaultReplayWindow) :
    peer = { peer with receiveState := defaultReplayWindow } := by
  rw [← h]

theorem auth_defaultReplayWindow {peer : ControlAuthCodec}
    (h : peer.receiveState = defaultReplayWindow) :
    peer = { peer with receiveState := defaultReplayWindow } := by
  rw [← h]

variable {wrappedClientKey serverKey : Bytes}

/-- A tls-crypt-v2 server without a key takes it from the packet that announces it. -/
theorem opens_cryptV2 {keyMaterial : StaticKeyMaterial}
    (hunwrap : unwrapTLSCryptV2ClientKey crypto wrappedClientKey serverKey =
      .ok keyMaterial)
    (hpeer : newControlCryptCodecFromMaterial crypto keyMaterial tlsCryptKeyDirectionNormal =
      .ok peer) (hwindow : peer.receiveState = defaultReplayWindow) :
    Opens crypto ⟨⟨none, some c, []⟩, wrappedClientKey⟩ ⟨none, none, serverKey⟩
      (fun w => ⟨none, some { peer with receiveState := w }, serverKey⟩) := by
  intro s send now arrival hsendable hunwrappable
  have hfits := wrappedKeyFits_of_unwrap hunwrap
  have hannounces : announcesWrappedKey (rawOpcode send.rawPacket) = true := by
    simpa [hfits.serverKey] using hunwrappable hfits.serverKey
  obtain ⟨⟨tail, htail⟩, -⟩ := @encodeControlPacket_shape crypto
    { c with sendState := s } _ hsendable.header send.first send.wrapped
  have hheader : tlsControlHeaderLength ≤
      (send.rawPacket.take tlsControlHeaderLength ++ tail).length := by
    rw [length_append, length_take_of_le hsendable.header]
    omega
  simp only [ControlSender.send, ControlSender.withSendState, map_some, map_none,
    encodeOutgoingControlPacket, htail]
  rw [appendTLSCryptV2WrappedClientKey, if_pos ⟨hsendable.announces hannounces, hannounces⟩,
    decodeIncomingControlPacket_announced hsendable.header hannounces
      (extractTLSCryptV2ClientKey_unkeyed hunwrap hpeer hheader rfl),
    decodeIncomingControlPacket_announced hsendable.header hannounces
      (extractTLSCryptV2ClientKey_keyed hfits hheader rfl), ← crypt_defaultReplayWindow hwindow]

variable {keyMaterial : StaticKeyMaterial} {s : TLSPacketIDState} {sends : List ControlSend}

/-- Two codecs of one key, one for each role, in both directions.  The sender's counter may
    have been set before. -/
theorem roundTrips_crypt {left right : Int} (hdirections : OppositeDirections left right)
    (h : newControlCryptCodecFromMaterial crypto keyMaterial left = .ok c)
    (h' : newControlCryptCodecFromMaterial crypto keyMaterial right = .ok peer)
    (seed peerSeed : TLSPacketIDState) (senderKey : Bytes) (hahead : ClockAhead s sends)
    (hsendable : ∀ send ∈ sends, Sendable [] send.rawPacket) :
    RoundTrips crypto (ControlSender.withSendState
        ⟨⟨none, some { c with sendState := seed }, senderKey⟩, []⟩ s)
      ⟨none, some { peer with sendState := peerSeed }, []⟩ sends := by
  obtain ⟨hwindow, rest, hcandidates⟩ := newControlCryptCodecFromMaterial_opposite hdirections h h'
  have hpaired :=
    @paired_crypt crypto { c with sendState := seed } { peer with sendState := peerSeed }
    rest hcandidates [] [] senderKey (.inl rfl)
  refine hpaired.roundTrips (opens_of_eq ?_) hahead hsendable
  rw [← crypt_defaultReplayWindow]
  exact hwindow

theorem roundTrips_auth {left right : Int} (hdirections : OppositeDirections left right)
    {authName : String} {c peer : ControlAuthCodec}
    (h : newControlAuthCodecWithAuth keyMaterial left authName = .ok c)
    (h' : newControlAuthCodecWithAuth keyMaterial right authName = .ok peer)
    (hahead : ClockAhead s sends) (hsendable : ∀ send ∈ sends, Sendable [] send.rawPacket) :
    RoundTrips crypto (ControlSender.withSendState ⟨⟨some c, none, []⟩, []⟩ s)
      ⟨some peer, none, []⟩ sends := by
  obtain ⟨hhash, hwindow, rest, hkeys⟩ := newControlAuthCodecWithAuth_opposite hdirections h h'
  refine (paired_auth hhash hkeys).roundTrips (opens_of_eq ?_) hahead hsendable
  rw [← auth_defaultReplayWindow hwindow]

theorem roundTrips_cryptV2
    (hunwrap : unwrapTLSCryptV2ClientKey crypto wrappedClientKey serverKey =
      .ok keyMaterial)
    (h : newControlCryptCodecFromMaterial crypto keyMaterial tlsCryptKeyDirectionInverse = .ok c)
    (seed : TLSPacketIDState) (hahead : ClockAhead s sends)
    (hsendable : ∀ send ∈ sends, Sendable wrappedClientKey send.rawPacket) :
    RoundTrips crypto (ControlSender.withSendState
        ⟨⟨none, some { c with sendState := seed }, []⟩, wrappedClientKey⟩ s)
      ⟨none, none, serverKey⟩ sends := by
  obtain ⟨peer, hpeer⟩ := newControlCryptCodecFromMaterial_normal h
  obtain ⟨hwindow, rest, hcandidates⟩ :=
    newControlCryptCodecFromMaterial_opposite oppositeDirections_crypt h hpeer
  have hpaired := @paired_crypt crypto { c with sendState := seed } peer rest hcandidates
    wrappedClientKey serverKey [] (.inr (wrappedKeyFits_of_unwrap hunwrap))
  exact hpaired.roundTrips (opens_cryptV2 hunwrap hpeer hwindow) hahead hsendable

end Directions

/-- Whatever a client and a server of one control key send each other, in both directions
    and from any value of the packet counter, comes back as it was sent when it arrives in
    order, and is refused when it arrives again.  The ids must not start again while the
    clock stands at the timestamp, which fewer than `2 ^ 32` packets of a counter that began
    at zero cannot do. -/
theorem control_wrap_round_trip (crypto : CryptoPrimitives) {client server : ControlKeyOptions}
    (hroles : OppositeRoles crypto client server) (now : UInt32) {clientEnd : ControlSender}
    {serverEnd : ControlProtection}
    (hclient : newTLSClientProtection crypto client now = .ok clientEnd)
    (hserver : newTLSServerProtection crypto server = .ok serverEnd) (s : TLSPacketIDState)
    (sends : List ControlSend)
    (hcounter : s.nextID.toNat + sends.length < 2 ^ 32 ∨ ClockAhead s sends) :
    ((∀ send ∈ sends, Sendable clientEnd.wrappedClientKey send.rawPacket) →
      RoundTrips crypto (clientEnd.withSendState s) serverEnd sends) ∧
    (∀ serverSender, serverEnd.sendsTo crypto clientEnd.wrappedClientKey = .ok serverSender →
      (∀ send ∈ sends, Sendable [] send.rawPacket) →
      RoundTrips crypto (serverSender.withSendState s) clientEnd.protection sends) := by
  have hahead : ClockAhead s sends := by
    rcases hcounter with hfew | hahead
    · exact clockAhead_of_lt hfew
    · exact hahead
  obtain ⟨clientV2, clientCrypt, clientAuth, clientDirection, clientAuthName⟩ := client
  obtain ⟨serverV2, serverCrypt, serverAuth, serverDirection, serverAuthName⟩ := server
  obtain ⟨hwraps, hv2, hcrypt, hauth⟩ := hroles
  rcases hv2 with @⟨clientKeyBytes, serverKeyBytes, hunwraps⟩ | _
  · obtain ⟨keyMaterial, wrappedClientKey, serverKey, hload, hload', hunwrap⟩ := hunwraps
    obtain ⟨loaded, hloaded, hrest⟩ := bind_eq_ok.mp hclient
    obtain rfl : (keyMaterial, wrappedClientKey) = loaded :=
      Except.ok.inj (hload.symm.trans hloaded)
    obtain ⟨c, hc, hresult⟩ := bind_eq_ok.mp hrest
    obtain ⟨loaded', hloaded', hresult'⟩ := bind_eq_ok.mp hserver
    obtain rfl : serverKey = loaded' := Except.ok.inj (hload'.symm.trans hloaded')
    cases hresult
    cases hresult'
    refine ⟨roundTrips_cryptV2 hunwrap hc _ hahead, ?_⟩
    intro serverSender hsends hsendable
    rw [ControlProtection.sendsTo, if_pos (wrappedKeyFits_of_unwrap hunwrap).serverKey] at hsends
    obtain ⟨unwrapped, hunwrapped, hafter⟩ := bind_eq_ok.mp hsends
    obtain rfl : keyMaterial = unwrapped := Except.ok.inj (hunwrap.symm.trans hunwrapped)
    obtain ⟨peer, hpeer, hsender⟩ := bind_eq_ok.mp hafter
    cases hsender
    exact roundTrips_crypt oppositeDirections_crypt.symm hpeer hc peer.sendState _ serverKey hahead
      hsendable
  · obtain rfl : clientCrypt = serverCrypt := hcrypt rfl
    cases clientCrypt with
    | some keyMaterial =>
      obtain ⟨c, hc, hresult⟩ := bind_eq_ok.mp hclient
      obtain ⟨peer, hpeer, hresult'⟩ := bind_eq_ok.mp hserver
      cases hresult
      cases hresult'
      refine ⟨roundTrips_crypt oppositeDirections_crypt hc hpeer c.sendState peer.sendState []
        hahead, ?_⟩
      intro serverSender hsends hsendable
      cases hsends
      exact roundTrips_crypt oppositeDirections_crypt.symm hpeer hc peer.sendState c.sendState []
        hahead hsendable
    | none =>
      obtain ⟨rfl, hdirections, hname⟩ := hauth rfl rfl
      cases clientAuth with
      | some keyMaterial =>
        obtain ⟨c, hc, hresult⟩ := bind_eq_ok.mp hclient
        obtain ⟨peer, hpeer, hresult'⟩ := bind_eq_ok.mp hserver
        cases hresult
        cases hresult'
        rw [hname] at hc
        refine ⟨roundTrips_auth hdirections hc hpeer hahead, ?_⟩
        intro serverSender hsends hsendable
        cases hsends
        exact roundTrips_auth hdirections.symm hpeer hc hahead hsendable
      | none => simp at hwraps

/-! ### A tls-crypt-v2 client and its server -/

section Example

/-- `zeroOneKeyMaterial` as the server key wraps it: tag, ciphertext and length. -/
def exampleWrappedClientKey : Bytes :=
  List.replicate 32 0 ++
    ctr ((firstBytePrimitives.newCipher .aes []).get rfl) (List.replicate 16 0)
      zeroOneKeyMaterial.toList ++ [1, 34]

def exampleV2Client : ControlKeyOptions where
  cryptV2 := some (zeroOneKeyMaterial.toList ++ exampleWrappedClientKey)
  crypt := none
  auth := none
  keyDirection := -1
  dataChannelAuth := ""

def exampleV2Server : ControlKeyOptions where
  cryptV2 := some (List.replicate 128 0)
  crypt := none
  auth := none
  keyDirection := -1
  dataChannelAuth := ""

/-- A V3 reset and a P_CONTROL_V1 packet behind it. -/
def exampleControlSends : List ControlSend :=
  [⟨[0x50, 1, 2, 3, 4, 5, 6, 7, 8], 1000, 1000⟩, ⟨[0x20, 1, 2, 3, 4, 5, 6, 7, 8], 1000, 1000⟩]

theorem load_exampleV2Client :
    loadTLSCryptV2ClientKey (zeroOneKeyMaterial.toList ++ exampleWrappedClientKey) =
      .ok (zeroOneKeyMaterial, exampleWrappedClientKey) := by
  have hwrapped : exampleWrappedClientKey.length ≠ 0 := by
    simp [exampleWrappedClientKey]
  have hread : readArray tlsCryptV2ClientKeyDataLength
      (zeroOneKeyMaterial.toList ++ exampleWrappedClientKey) =
        some (zeroOneKeyMaterial, exampleWrappedClientKey) := readArray_append _ _
  rw [loadTLSCryptV2ClientKey, hread]
  exact if_neg hwrapped

theorem unwrap_exampleWrappedClientKey :
    unwrapTLSCryptV2ClientKey firstBytePrimitives exampleWrappedClientKey
      (List.replicate 128 0) = .ok zeroOneKeyMaterial := by
  decide +kernel

theorem oppositeRoles_exampleV2 :
    OppositeRoles firstBytePrimitives exampleV2Client exampleV2Server where
  wraps := .inl rfl
  cryptV2 := .some ⟨zeroOneKeyMaterial, exampleWrappedClientKey, List.replicate 128 0,
    load_exampleV2Client, by decide +kernel, unwrap_exampleWrappedClientKey⟩
  crypt := by simp [exampleV2Client]
  auth := by simp [exampleV2Client]

theorem exampleV2_endpoints :
    ∃ c, newControlCryptCodecFromMaterial firstBytePrimitives zeroOneKeyMaterial
        tlsCryptKeyDirectionInverse = .ok c ∧
      newTLSClientProtection firstBytePrimitives exampleV2Client 1000 =
        .ok ⟨⟨none, some { c with sendState := ⟨tlsCryptV2EarlyNegotiationStart, 1000⟩ }, []⟩,
          exampleWrappedClientKey⟩ ∧
      newTLSServerProtection firstBytePrimitives exampleV2Server =
        .ok ⟨none, none, List.replicate 128 0⟩ := by
  refine ⟨_, rfl, ?_, ?_⟩
  · refine bind_eq_ok.mpr ⟨(zeroOneKeyMaterial, exampleWrappedClientKey), load_exampleV2Client, ?_⟩
    exact bind_eq_ok.mpr ⟨_, rfl, rfl⟩
  · exact bind_eq_ok.mpr ⟨_, by decide +kernel, rfl⟩

theorem sendable_exampleControlSends :
    ∀ send ∈ exampleControlSends, Sendable exampleWrappedClientKey send.rawPacket := by
  intro send hsend
  have hwrapped : 0 < exampleWrappedClientKey.length := by
    simp [exampleWrappedClientKey]
  rcases mem_pair.mp hsend with rfl | rfl
  · exact ⟨by decide, fun _ => hwrapped⟩
  · exact ⟨by decide, fun _ => hwrapped⟩

/-- The reset is lost; the packet behind it reaches a server that does not have the client's
    key. -/
theorem control_wrap_needs_client_key :
    OppositeRoles firstBytePrimitives exampleV2Client exampleV2Server ∧
    ∃ clientEnd serverEnd,
      newTLSClientProtection firstBytePrimitives exampleV2Client 1000 = .ok clientEnd ∧
      newTLSServerProtection firstBytePrimitives exampleV2Server = .ok serverEnd ∧
      (∀ send ∈ exampleControlSends, Sendable clientEnd.wrappedClientKey send.rawPacket) ∧
      ∃ wire, (clientEnd.sendAll firstBytePrimitives exampleControlSends)[1]? = some wire ∧
        (serverEnd.decodeIncomingControlPacket firstBytePrimitives wire 0 0).1 =
          .error "missing tls-crypt-v2 wrapped client key" := by
  obtain ⟨c, hc, hclient, hserver⟩ := exampleV2_endpoints
  cases hc
  exact ⟨oppositeRoles_exampleV2, _, _, hclient, hserver, sendable_exampleControlSends, _, rfl,
    by decide +kernel⟩

/-- Once the reset has arrived, the packet behind it is decoded and the reset is refused when
    it arrives again. -/
theorem control_wrap_round_trip_exampleV2 :
    ∃ clientEnd serverEnd,
      newTLSClientProtection firstBytePrimitives exampleV2Client 1000 = .ok clientEnd ∧
      newTLSServerProtection firstBytePrimitives exampleV2Server = .ok serverEnd ∧
      RoundTrips firstBytePrimitives
        (clientEnd.withSendState ⟨tlsCryptV2EarlyNegotiationStart, 1000⟩)
        serverEnd exampleControlSends ∧
      ∃ serverSender, serverEnd.sendsTo firstBytePrimitives clientEnd.wrappedClientKey =
          .ok serverSender ∧
        RoundTrips firstBytePrimitives
          (serverSender.withSendState ⟨tlsCryptV2EarlyNegotiationStart, 1000⟩)
          clientEnd.protection [⟨List.replicate 9 0x20, 1000, 1000⟩] := by
  obtain ⟨c, hc, hclient, hserver⟩ := exampleV2_endpoints
  obtain ⟨hthere, -⟩ := control_wrap_round_trip firstBytePrimitives oppositeRoles_exampleV2 1000
    hclient hserver ⟨tlsCryptV2EarlyNegotiationStart, 1000⟩ exampleControlSends
    (.inl (by decide))
  obtain ⟨-, hback⟩ := control_wrap_round_trip firstBytePrimitives oppositeRoles_exampleV2 1000
    hclient hserver ⟨tlsCryptV2EarlyNegotiationStart, 1000⟩ [⟨List.replicate 9 0x20, 1000, 1000⟩]
    (.inl (by decide))
  obtain ⟨peer, hpeer⟩ := newControlCryptCodecFromMaterial_normal hc
  have hsends : ControlProtection.sendsTo firstBytePrimitives ⟨none, none, List.replicate 128 0⟩
      exampleWrappedClientKey = .ok ⟨⟨none, some peer, List.replicate 128 0⟩, []⟩ := by
    rw [ControlProtection.sendsTo, if_pos (by decide +kernel)]
    refine bind_eq_ok.mpr ⟨zeroOneKeyMaterial, unwrap_exampleWrappedClientKey, ?_⟩
    exact bind_eq_ok.mpr ⟨peer, hpeer, rfl⟩
  refine ⟨_, _, hclient, hserver, hthere sendable_exampleControlSends, _, hsends,
    hback _ hsends ?_⟩
  intro send hsend
  rw [mem_singleton.mp hsend]
  exact ⟨by decide, by decide⟩

end Example

end SingOpenVPN
