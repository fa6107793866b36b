import SingOpenVPN.Packet
import SingOpenVPN.StaticKey

/-!
# tls-auth and tls-crypt (`control_wrap.go`)

Two ways to wrap a control packet under a static key.  tls-auth puts a MAC and a
long-form packet id behind the nine header bytes; tls-crypt puts the packet id
and the MAC there and encrypts the rest in counter mode, with the MAC as
initialization vector.  Both pass what authenticated through a replay window.

A `ControlProtection` is one of the two, or a tls-crypt-v2 server that has yet
to unwrap the client's key.
-/

namespace SingOpenVPN

open ByteCodec BlockModes List

def tlsControlHeaderLength : Nat := 1 + 8
def tlsControlPacketIDLength : Nat := 8
def tlsCryptTagLength : Nat := 32
def tlsCryptBlockLength : Nat := 16
def tlsCryptKeyDirectionNormal : Int := 0
def tlsCryptKeyDirectionInverse : Int := 1
def tlsCryptV2ClientKeyDataLength : Nat := 256
def tlsCryptV2ServerKeyLength : Nat := 128

def defaultReplayWindow : ReplayWindow := newReplayWindow 64 (15 * 10 ^ 9)

/-! ### Long-form packet ids -/

structure TLSPacketIDState where
  nextID : UInt32
  timestamp : UInt32
deriving DecidableEq

/-- `tlsPacketIDState.next`; `first` and `wrapped` are the two readings of the
    clock in seconds it may make. -/
def TLSPacketIDState.next (s : TLSPacketIDState) (first wrapped : UInt32) : TLSPacketIDState :=
  let s := if s.timestamp = 0 then { s with timestamp := first } else s
  let s := if s.nextID = 0xFFFFFFFF then
      { nextID := 0, timestamp := if s.timestamp < wrapped then wrapped else s.timestamp }
    else s
  { s with nextID := s.nextID + 1 }

def TLSPacketIDState.packetID (s : TLSPacketIDState) : Bytes :=
  putBE 4 s.nextID.toNat ++ putBE 4 s.timestamp.toNat

theorem TLSPacketIDState.length_packetID (s : TLSPacketIDState) :
    s.packetID.length = tlsControlPacketIDLength := by
  simp [TLSPacketIDState.packetID, tlsControlPacketIDLength]

def acceptPacketID (w : ReplayWindow) (packetID : Bytes) (now arrival : Time) :
    Bool × ReplayWindow :=
  w.acceptLongForm (getBE (packetID.take 4)) (getBE (packetID.drop 4)) now arrival

theorem acceptPacketID_packetID (w : ReplayWindow) (s : TLSPacketIDState) (now arrival : Time) :
    acceptPacketID w s.packetID now arrival =
      w.acceptLongForm s.nextID.toNat s.timestamp.toNat now arrival := by
  have htake : s.packetID.take 4 = putBE 4 s.nextID.toNat := take_left' (by simp)
  have hdrop : s.packetID.drop 4 = putBE 4 s.timestamp.toNat := drop_left' (by simp)
  rw [acceptPacketID, htake, hdrop, getBE_putBE_uint32, getBE_putBE_uint32]

/-! ### tls-auth -/

structure ControlAuthCodec where
  sendKey : Bytes
  receiveKeys : List Bytes
  sendState : TLSPacketIDState
  receiveState : ReplayWindow
  hash : HashName
deriving DecidableEq

def newControlAuthCodecWithAuth (staticKeyMaterial : StaticKeyMaterial) (keyDirection : Int)
    (authName : String) : Except String ControlAuthCodec := do
  match ← staticHMACFactory authName with
  | none => throw "tls-auth requires a non-NONE auth algorithm"
  | some hash => return {
      sendKey := macKey staticKeyMaterial hash (sendSlotIndex keyDirection)
      receiveKeys := (receiveSlotIndexes keyDirection).map (macKey staticKeyMaterial hash)
      sendState := ⟨0, 0⟩
      receiveState := defaultReplayWindow
      hash := hash }

namespace ControlAuthCodec

variable (crypto : CryptoPrimitives)

def newSessionCodec (c : ControlAuthCodec) : ControlAuthCodec :=
  { c with sendState := ⟨0, 0⟩, receiveState := defaultReplayWindow }

/-- `encodeControlPacket`.  A packet shorter than its header is passed through. -/
def encodeControlPacket (c : ControlAuthCodec) (rawPacket : Bytes) (first wrapped : UInt32) :
    Bytes × ControlAuthCodec :=
  if rawPacket.length < tlsControlHeaderLength then (rawPacket, c)
  else
    let sendState := c.sendState.next first wrapped
    let digest := crypto.hmac c.hash c.sendKey (sendState.packetID ++ rawPacket)
    (rawPacket.take tlsControlHeaderLength ++ digest ++ sendState.packetID ++
        rawPacket.drop tlsControlHeaderLength,
      { c with sendState := sendState })

/-- The loop of `decodeControlPacket` over the receive keys. -/
def decodeLoop (c : ControlAuthCodec) (receivedDigest packetIDBytes header body : Bytes)
    (now arrival : Time) : List Bytes → Option Bytes × ControlAuthCodec
  | [] => (none, c)
  | receiveKey :: receiveKeys =>
    if receivedDigest ≠ crypto.hmac c.hash receiveKey (packetIDBytes ++ header ++ body) then
      decodeLoop c receivedDigest packetIDBytes header body now arrival receiveKeys
    else
      let (accepted, receiveState) := acceptPacketID c.receiveState packetIDBytes now arrival
      (if accepted then some (header ++ body) else none, { c with receiveState := receiveState })

def decodeControlPacket (c : ControlAuthCodec) (rawPacket : Bytes) (now arrival : Time) :
    Option Bytes × ControlAuthCodec :=
  if rawPacket.length < tlsControlHeaderLength + c.hash.size + tlsControlPacketIDLength then
    (none, c)
  else
    let header := rawPacket.take tlsControlHeaderLength
    let rest := rawPacket.drop tlsControlHeaderLength
    let receivedDigest := rest.take c.hash.size
    let rest := rest.drop c.hash.size
    c.decodeLoop crypto receivedDigest (rest.take tlsControlPacketIDLength) header
      (rest.drop tlsControlPacketIDLength) now arrival c.receiveKeys

theorem decodeLoop_skip {c : ControlAuthCodec} {receivedDigest packetIDBytes header body : Bytes}
    {skipped : List Bytes}
    (h : ∀ other ∈ skipped,
      receivedDigest ≠ crypto.hmac c.hash other (packetIDBytes ++ header ++ body))
    (now arrival : Time) (receiveKeys : List Bytes) :
    c.decodeLoop crypto receivedDigest packetIDBytes header body now arrival
        (skipped ++ receiveKeys) =
      c.decodeLoop crypto receivedDigest packetIDBytes header body now arrival receiveKeys := by
  induction skipped with
  | nil => rfl
  | cons other skipped ih =>
    rw [cons_append, decodeLoop, if_pos (h other mem_cons_self)]
    exact ih fun key hkey => h key (mem_cons_of_mem _ hkey)

/-- A packet of `c` decoded by a peer that has its key reaches the peer's replay check of
    its id.  The keys the peer tries before must not verify. -/
theorem decode_encode_peer {c peer : ControlAuthCodec} {skipped rest : List Bytes}
    (hhash : peer.hash = c.hash) (hkeys : peer.receiveKeys = skipped ++ c.sendKey :: rest)
    (hseparated : ∀ other ∈ skipped, ∀ left right,
      crypto.hmac c.hash c.sendKey left ≠ crypto.hmac c.hash other right)
    {rawPacket : Bytes} (hlength : tlsControlHeaderLength ≤ rawPacket.length)
    (first wrapped : UInt32) (now arrival : Time) :
    peer.decodeControlPacket crypto (c.encodeControlPacket crypto rawPacket first wrapped).1
        now arrival =
      let sendState := c.sendState.next first wrapped
      let answer := peer.receiveState.acceptLongForm sendState.nextID.toNat
        sendState.timestamp.toNat now arrival
      (if answer.1 then some rawPacket else none, { peer with receiveState := answer.2 }) := by
  have hheader : (rawPacket.take tlsControlHeaderLength).length = tlsControlHeaderLength :=
    length_take_of_le hlength
  rw [encodeControlPacket, if_neg (Nat.not_lt.mpr hlength)]
  dsimp only
  generalize c.sendState.next first wrapped = sendState
  generalize hdigest : crypto.hmac c.hash c.sendKey (sendState.packetID ++ rawPacket) = digest
  have hdigestLength : digest.length = peer.hash.size := by
    rw [hhash, ← hdigest]
    exact crypto.length_hmac _ _ _
  have hid := sendState.length_packetID
  unfold decodeControlPacket
  simp only [append_assoc]
  rw [if_neg (by simp [hdigestLength, hid]; omega), take_left' hheader,
    drop_left' hheader, take_left' hdigestLength, drop_left' hdigestLength,
    take_left' hid, drop_left' hid, hkeys]
  have hverifies : digest = crypto.hmac peer.hash c.sendKey (sendState.packetID ++
      rawPacket.take tlsControlHeaderLength ++ rawPacket.drop tlsControlHeaderLength) := by
    rw [hhash, append_assoc, take_append_drop, hdigest]
  rw [decodeLoop_skip crypto, decodeLoop]
  · rw [if_neg (not_not.mpr hverifies), acceptPacketID_packetID, take_append_drop, ← hkeys]
  · intro other hother
    rw [hhash, ← hdigest]
    exact hseparated other hother _ _

end ControlAuthCodec

/-! ### tls-crypt -/

structure ControlCryptCandidate where
  encryptBlock : BlockCipher
  authKey : Bytes

structure ControlCryptCodec where
  sendEncryptBlock : BlockCipher
  sendAuthKey : Bytes
  receiveCandidates : List ControlCryptCandidate
  sendState : TLSPacketIDState
  receiveState : ReplayWindow

section CryptCodec

variable (crypto : CryptoPrimitives)

def newControlCryptKeys (keySlot : StaticKeySlot) : Except String ControlCryptCandidate :=
  match crypto.newCipher .aes (keySlot.cipherKey.take 32) with
  | none => .error "invalid key size"
  | some encryptBlock => .ok ⟨encryptBlock, keySlot.hmacKey.take 32⟩

def newControlCryptCodecFromMaterial (staticKeyMaterial : StaticKeyMaterial) (keyDirection : Int) :
    Except String ControlCryptCodec := do
  let keySlots := splitStaticKeyMaterial staticKeyMaterial
  let send ← newControlCryptKeys crypto (keySlots (sendSlotIndex keyDirection))
  let receiveCandidates ← (receiveSlotIndexes keyDirection).mapM fun slotIndex =>
    newControlCryptKeys crypto (keySlots slotIndex)
  return {
    sendEncryptBlock := send.encryptBlock
    sendAuthKey := send.authKey
    receiveCandidates := receiveCandidates
    sendState := ⟨0, 0⟩
    receiveState := defaultReplayWindow }

namespace ControlCryptCodec

def newSessionCodec (c : ControlCryptCodec) : ControlCryptCodec :=
  { c with sendState := ⟨0, 0⟩, receiveState := defaultReplayWindow }

def encodeControlPacket (c : ControlCryptCodec) (rawPacket : Bytes) (first wrapped : UInt32) :
    Bytes × ControlCryptCodec :=
  if rawPacket.length < tlsControlHeaderLength then (rawPacket, c)
  else
    let header := rawPacket.take tlsControlHeaderLength
    let body := rawPacket.drop tlsControlHeaderLength
    let sendState := c.sendState.next first wrapped
    let tag := crypto.hmac .sha256 c.sendAuthKey (header ++ sendState.packetID ++ body)
    let ciphertext := ctr c.sendEncryptBlock (tag.take tlsCryptBlockLength) body
    (header ++ sendState.packetID ++ tag ++ ciphertext, { c with sendState := sendState })

/-- The loop of `decodeControlPacket` over the candidates. -/
def decodeLoop (c : ControlCryptCodec) (header packetIDBytes receivedTag ciphertext : Bytes)
    (now arrival : Time) : List ControlCryptCandidate → Option Bytes × ControlCryptCodec
  | [] => (none, c)
  | candidate :: candidates =>
    let plaintext := ctr candidate.encryptBlock (receivedTag.take tlsCryptBlockLength) ciphertext
    if receivedTag ≠
        crypto.hmac .sha256 candidate.authKey (header ++ packetIDBytes ++ plaintext) then
      decodeLoop c header packetIDBytes receivedTag ciphertext now arrival candidates
    else
      let (accepted, receiveState) := acceptPacketID c.receiveState packetIDBytes now arrival
      (if accepted then some (header ++ plaintext) else none,
        { c with receiveState := receiveState })

def decodeControlPacket (c : ControlCryptCodec) (rawPacket : Bytes) (now arrival : Time) :
    Option Bytes × ControlCryptCodec :=
  if rawPacket.length < tlsControlHeaderLength + tlsControlPacketIDLength + tlsCryptTagLength then
    (none, c)
  else
    let header := rawPacket.take tlsControlHeaderLength
    let rest := rawPacket.drop tlsControlHeaderLength
    let packetIDBytes := rest.take tlsControlPacketIDLength
    let rest := rest.drop tlsControlPacketIDLength
    c.decodeLoop crypto header packetIDBytes (rest.take tlsCryptTagLength)
      (rest.drop tlsCryptTagLength) now arrival c.receiveCandidates

theorem decodeLoop_skip {c : ControlCryptCodec}
    {header packetIDBytes receivedTag ciphertext : Bytes}
    {skipped : List ControlCryptCandidate}
    (h : ∀ other ∈ skipped, receivedTag ≠ crypto.hmac .sha256 other.authKey
      (header ++ packetIDBytes ++
        ctr other.encryptBlock (receivedTag.take tlsCryptBlockLength) ciphertext))
    (now arrival : Time) (candidates : List ControlCryptCandidate) :
    c.decodeLoop crypto header packetIDBytes receivedTag ciphertext now arrival
        (skipped ++ candidates) =
      c.decodeLoop crypto header packetIDBytes receivedTag ciphertext now arrival candidates := by
  induction skipped with
  | nil => rfl
  | cons other skipped ih =>
    rw [cons_append, decodeLoop, if_pos (h other mem_cons_self)]
    exact ih fun candidate hcandidate => h candidate (mem_cons_of_mem _ hcandidate)

/-- A packet of `c` decoded by a peer that has its keys reaches the peer's replay check of
    its id. -/
theorem decode_encode_peer {c peer : ControlCryptCodec} {skipped rest : List ControlCryptCandidate}
    (hcandidates : peer.receiveCandidates =
      skipped ++ ⟨c.sendEncryptBlock, c.sendAuthKey⟩ :: rest)
    (hseparated : ∀ other ∈ skipped, ∀ left right,
      crypto.hmac .sha256 c.sendAuthKey left ≠ crypto.hmac .sha256 other.authKey right)
    {rawPacket : Bytes} (hlength : tlsControlHeaderLength ≤ rawPacket.length)
    (first wrapped : UInt32) (now arrival : Time) :
    peer.decodeControlPacket crypto (c.encodeControlPacket crypto rawPacket first wrapped).1
        now arrival =
      let sendState := c.sendState.next first wrapped
      let answer := peer.receiveState.acceptLongForm sendState.nextID.toNat
        sendState.timestamp.toNat now arrival
      (if answer.1 then some rawPacket else none, { peer with receiveState := answer.2 }) := by
  have hheader : (rawPacket.take tlsControlHeaderLength).length = tlsControlHeaderLength :=
    length_take_of_le hlength
  rw [encodeControlPacket, if_neg (Nat.not_lt.mpr hlength)]
  dsimp only
  generalize c.sendState.next first wrapped = sendState
  generalize htag : crypto.hmac .sha256 c.sendAuthKey (rawPacket.take tlsControlHeaderLength ++
    sendState.packetID ++ rawPacket.drop tlsControlHeaderLength) = tag
  have htagLength : tag.length = tlsCryptTagLength := htag ▸ crypto.length_hmac _ _ _
  have hid := sendState.length_packetID
  unfold decodeControlPacket
  simp only [append_assoc]
  rw [if_neg (by simp [htagLength, hid]; omega), take_left' hheader, drop_left' hheader,
    take_left' hid, drop_left' hid, take_left' htagLength,
    drop_left' htagLength, hcandidates]
  -- under the right keys the key stream cancels and the tag verifies
  rw [decodeLoop_skip crypto, decodeLoop]
  · simp only [ctr_ctr]
    rw [if_neg (not_not.mpr htag.symm), acceptPacketID_packetID, take_append_drop,
      ← hcandidates]
  · intro other hother
    rw [← htag]
    exact hseparated other hother _ _

end ControlCryptCodec

end CryptCodec

/-! ### The protection of a session -/

structure ControlProtection where
  auth : Option ControlAuthCodec
  crypt : Option ControlCryptCodec
  cryptV2ServerKey : Bytes

namespace ControlProtection

variable (crypto : CryptoPrimitives) (p : ControlProtection)

def newSessionProtection : ControlProtection :=
  { p with
    auth := p.auth.map ControlAuthCodec.newSessionCodec
    crypt := p.crypt.map ControlCryptCodec.newSessionCodec }

def unwrapTLSCryptV2ClientKey (wrappedClientKey serverKey : Bytes) :
    Except String StaticKeyMaterial :=
  if serverKey.length < tlsCryptV2ServerKeyLength then .error "invalid tls-crypt-v2 server key"
  else if wrappedClientKey.length < tlsCryptTagLength + 2 then
    .error "invalid tls-crypt-v2 wrapped key"
  else
    let lengthBytes := wrappedClientKey.drop (wrappedClientKey.length - 2)
    if getBE lengthBytes ≠ wrappedClientKey.length then
      .error "invalid tls-crypt-v2 wrapped key length"
    else
      match crypto.newCipher .aes (serverKey.take 32) with
      | none => .error "invalid key size"
      | some encryptBlock =>
        let authKey := (serverKey.drop 64).take 32
        let tag := wrappedClientKey.take tlsCryptTagLength
        let ciphertext := (wrappedClientKey.drop tlsCryptTagLength).take
          (wrappedClientKey.length - 2 - tlsCryptTagLength)
        let plaintext := ctr encryptBlock (tag.take tlsCryptBlockLength) ciphertext
        if tag ≠ crypto.hmac .sha256 authKey (lengthBytes ++ plaintext) then
          .error "tls-crypt-v2 client key authentication failed"
        else
          match readArray 256 plaintext with
          | none => .error "tls-crypt-v2 plaintext too short"
          | some (clientKeyMaterial, _) => .ok clientKeyMaterial

/-- `extractTLSCryptV2ClientKey`: the packet without the wrapped key behind it;
    the first such packet sets up the control channel keys. -/
def extractTLSCryptV2ClientKey (rawPacket : Bytes) :
    Except String (Bytes × ControlProtection) :=
  if p.cryptV2ServerKey.length = 0 then
    .error "peer wants tls-crypt-v2 but no server key is present"
  else if rawPacket.length < tlsControlHeaderLength + 2 then .error "invalid tls-crypt-v2 packet"
  else
    let wrappedKeyLength := getBE (rawPacket.drop (rawPacket.length - 2))
    if wrappedKeyLength < tlsCryptTagLength + 2 ∨
        rawPacket.length - tlsControlHeaderLength < wrappedKeyLength then
      .error "invalid tls-crypt-v2 wrapped key"
    else
      let packetBytes := rawPacket.take (rawPacket.length - wrappedKeyLength)
      match p.crypt with
      | some _ => .ok (packetBytes, p)
      | none => do
        let clientKeyMaterial ← unwrapTLSCryptV2ClientKey crypto
          (rawPacket.drop (rawPacket.length - wrappedKeyLength)) p.cryptV2ServerKey
        let cryptCodec ← newControlCryptCodecFromMaterial crypto clientKeyMaterial
          tlsCryptKeyDirectionNormal
        return (packetBytes, { p with crypt := some cryptCodec })

/-- The authentication step of `decodeIncomingControlPacket`. -/
def authenticate (packetBytes : Bytes) (now arrival : Time) :
    Except String Bytes × ControlProtection :=
  match p.crypt, p.auth with
  | some crypt, _ =>
    match crypt.decodeControlPacket crypto packetBytes now arrival with
    | (some decodedPacket, crypt) => (.ok decodedPacket, { p with crypt := some crypt })
    | (none, crypt) => (.error "invalid tls-crypt packet", { p with crypt := some crypt })
  | none, some auth =>
    match auth.decodeControlPacket crypto packetBytes now arrival with
    | (some decodedPacket, auth) => (.ok decodedPacket, { p with auth := some auth })
    | (none, auth) => (.error "invalid tls-auth packet", { p with auth := some auth })
  | none, none =>
    if 0 < p.cryptV2ServerKey.length then (.error "missing tls-crypt-v2 wrapped client key", p)
    else (.ok packetBytes, p)

def decodeIncomingControlPacket (rawPacket : Bytes) (now arrival : Time) :
    Except String Bytes × ControlProtection :=
  if rawPacket.length < tlsControlHeaderLength then (.error "invalid tls control packet", p)
  else
    let opcode := Opcode.ofCode (rawPacket.headD 0 >>> 3)
    if opcode = .controlHardResetClientV3 ∨ opcode = .controlWKCv1 then
      match p.extractTLSCryptV2ClientKey crypto rawPacket with
      | .error err => (.error err, p)
      | .ok (strippedPacket, p) => p.authenticate crypto strippedPacket now arrival
    else p.authenticate crypto rawPacket now arrival

def encodeOutgoingControlPacket (rawPacket : Bytes)
    (first wrapped : UInt32) : Bytes × ControlProtection :=
  match p.crypt, p.auth with
  | some crypt, _ =>
    let (encodedPacket, crypt) := crypt.encodeControlPacket crypto rawPacket first wrapped
    (encodedPacket, { p with crypt := some crypt })
  | none, some auth =>
    let (encodedPacket, auth) := auth.encodeControlPacket crypto rawPacket first wrapped
    (encodedPacket, { p with auth := some auth })
  | none, none => (rawPacket, p)

end ControlProtection

end SingOpenVPN
