import SingOpenVPN.StaticKey

/-!
# The data codecs of a TLS session (`data_codec.go`, `data_codec_aead.go`,
`data_codec_cbc.go`, `data_codec_stream.go`)

A negotiated key protects data packets by an AEAD cipher, by a block cipher in
chaining mode behind a MAC, or by one in a feedback mode behind a MAC.  Decoding
opens the packet, that is checks its tag or MAC and decrypts it, and then asks the
replay window for its packet id.

Under `auth NONE` the chaining and feedback codecs have no MAC to check: whatever
decrypts is opened.  `Authenticating` says which codecs have something to check and
`Authenticated` what a packet that passed it carries.

The AEAD ciphers come from packages outside the repository; they are the fields
`DataPrimitives` adds.
-/

namespace SingOpenVPN

open ByteCodec BlockModes List

/-! ### Primitives -/

/-- `cipher.AEAD` with its key, for nonces of twelve bytes and tags of
`tlsDataAEADTagSize`. -/
structure AEAD where
  sealPayload : (nonce plaintext additionalData : Bytes) → Bytes
  openSealed : (nonce ciphertext additionalData : Bytes) → Except String Bytes
  length_sealPayload : ∀ nonce plaintext additionalData,
    (sealPayload nonce plaintext additionalData).length = plaintext.length + 16
  openSealed_sealPayload : ∀ nonce plaintext additionalData,
    openSealed nonce (sealPayload nonce plaintext additionalData) additionalData = .ok plaintext

structure DataPrimitives extends CryptoPrimitives where
  newGCM : BlockCipher → Except String AEAD
  newChaCha20Poly1305 : Bytes → Except String AEAD

def tlsDataAEADTagSize : Nat := 16

/-- The parts of key material, if there is enough of it. -/
def tlsKeySlots (keyMaterial : Bytes) : Except String (Fin 2 → StaticKeySlot) :=
  if h : keyMaterial.length < 256 then .error "invalid tls key material"
  else .ok (splitStaticKeyMaterial ⟨keyMaterial.take 256, by rw [List.length_take]; omega⟩)

/-! ### AEAD ciphers -/

structure TLSGCMDataCodec where
  sendAEAD : AEAD
  sendIVSuffix : Bytes
  receiveAEAD : AEAD
  receiveIVSuffix : Bytes
  replayWindow : ReplayWindow
  length_sendIVSuffix : sendIVSuffix.length = 8
  length_receiveIVSuffix : receiveIVSuffix.length = 8

/-- The codec of two keyed ciphers; the rest of the nonce comes from the MAC keys. -/
def aeadDataCodec (sendAEAD receiveAEAD : AEAD) (sendSlot receiveSlot : StaticKeySlot)
    (replayWindow : ReplayWindow) : TLSGCMDataCodec where
  sendAEAD := sendAEAD
  sendIVSuffix := sendSlot.hmacKey.take 8
  receiveAEAD := receiveAEAD
  receiveIVSuffix := receiveSlot.hmacKey.take 8
  replayWindow := replayWindow
  length_sendIVSuffix := by simp [sendSlot.length_hmacKey]
  length_receiveIVSuffix := by simp [receiveSlot.length_hmacKey]

def gcmKeySize : String → Except String Nat
  | "AES-128-GCM" => .ok 16
  | "AES-192-GCM" => .ok 24
  | "AES-256-GCM" => .ok 32
  | _ => .error "unsupported gcm cipher"

section Primitives

variable (crypto : DataPrimitives)

def DataPrimitives.newAES (cipherKey : Bytes) : Except String BlockCipher :=
  match crypto.newCipher .aes cipherKey with
  | some cipher => .ok cipher
  | none => .error "invalid key size"

def newTLSGCMDataCodec (keyMaterial : Bytes) (server : Bool) (cipherName : String)
    (replayWindowSize : Nat) (replayWindowTime : Duration) : Except String TLSGCMDataCodec := do
  let keySlots ← tlsKeySlots keyMaterial
  let (sendSlot, receiveSlot) := tlsDataKeySlots keySlots server
  let keySize ← gcmKeySize cipherName
  let sendBlock ← crypto.newAES (sendSlot.cipherKey.take keySize)
  let receiveBlock ← crypto.newAES (receiveSlot.cipherKey.take keySize)
  let sendAEAD ← crypto.newGCM sendBlock
  let receiveAEAD ← crypto.newGCM receiveBlock
  return aeadDataCodec sendAEAD receiveAEAD sendSlot receiveSlot
    (newReplayWindow replayWindowSize replayWindowTime)

def newTLSChaCha20Poly1305DataCodec (keyMaterial : Bytes) (server : Bool)
    (replayWindowSize : Nat) (replayWindowTime : Duration) : Except String TLSGCMDataCodec := do
  let keySlots ← tlsKeySlots keyMaterial
  let (sendSlot, receiveSlot) := tlsDataKeySlots keySlots server
  let sendAEAD ← crypto.newChaCha20Poly1305 (sendSlot.cipherKey.take 32)
  let receiveAEAD ← crypto.newChaCha20Poly1305 (receiveSlot.cipherKey.take 32)
  return aeadDataCodec sendAEAD receiveAEAD sendSlot receiveSlot
    (newReplayWindow replayWindowSize replayWindowTime)

end Primitives

/-- The arrays `EncodeBuffer` or `DecodeBuffer` of a codec writes nonce and additional data
into; they hold what the last packet has left there. -/
structure AEADArrays where
  nonce : Bytes
  additionalData : Bytes
  length_nonce : nonce.length = 32
  length_additionalData : additionalData.length = 8

/-- There is no result if the packet id does not fit behind the prefix: `PutUint32` panics. -/
def AEADArrays.write (arrays : AEADArrays) (ivSuffix aadPrefix packetIDBytes : Bytes) :
    Option AEADArrays :=
  if h : aadPrefix.length + 4 ≤ 8 then
    some {
      nonce := copyInto (copyInto arrays.nonce 0 packetIDBytes) 4 ivSuffix
      additionalData :=
        copyInto (copyInto arrays.additionalData 0 aadPrefix) aadPrefix.length packetIDBytes
      length_nonce := by simp [length_copyInto, arrays.length_nonce]
      length_additionalData := by
        have hlength := arrays.length_additionalData
        rw [length_copyInto (by rw [length_copyInto (Nat.zero_le _)]; omega),
          length_copyInto (Nat.zero_le _), hlength] }
  else none

/-- `buf.Buffer`: the bytes before its start, its contents and the free bytes behind them. -/
structure DataBuffer where
  headroom : Bytes
  content : Bytes
  tailroom : Bytes

namespace DataBuffer

variable (b : DataBuffer)

/-- `Truncate`, also to more than the contents. -/
def truncate (length : Nat) : DataBuffer :=
  let bytes := b.content ++ b.tailroom
  { b with content := bytes.take length, tailroom := bytes.drop length }

/-- Write over the contents from their start on, and over the bytes behind them. -/
def overwrite (source : Bytes) : DataBuffer :=
  let bytes := copyInto (b.content ++ b.tailroom) 0 source
  { b with content := bytes.take b.content.length, tailroom := bytes.drop b.content.length }

def extendHeader (size : Nat) : DataBuffer :=
  let start := b.headroom.length - size
  { b with headroom := b.headroom.take start, content := b.headroom.drop start ++ b.content }

end DataBuffer

def encodedHeaderSize : Nat := 4 + tlsDataAEADTagSize

/-- A buffer without room for header and tag is copied into a new one. -/
def DataBuffer.withRoom (b : DataBuffer) : DataBuffer :=
  if b.headroom.length < encodedHeaderSize ∨ b.tailroom.length < tlsDataAEADTagSize then
    { headroom := replicate (max b.headroom.length encodedHeaderSize) 0, content := b.content
      tailroom := replicate tlsDataAEADTagSize 0 }
  else b

/-- `Seal` has written over the plain payload; packet id and tag go in front of it. -/
def DataBuffer.placeSealed (b : DataBuffer) (packetIDBytes sealedPayload : Bytes) : DataBuffer :=
  let plainPayloadLength := b.content.length
  let b := (b.overwrite sealedPayload).truncate sealedPayload.length
  let tag := sealedPayload.drop plainPayloadLength
  let b := b.extendHeader encodedHeaderSize
  let b := { b with content := copyInto (copyInto b.content 0 packetIDBytes) 4 tag }
  b.truncate (encodedHeaderSize + plainPayloadLength)

variable (c : TLSGCMDataCodec)

namespace TLSGCMDataCodec

def encodedLength (payloadLength : Nat) : Nat := 4 + tlsDataAEADTagSize + payloadLength

/-- `Encode`.  The tag moves from the end of the sealed payload to its front. -/
def encode (packetID : UInt32) (aadPrefix payload : Bytes) :
    Except String Bytes := do
  if packetID = 0 then throw "invalid data packet id"
  let packetIDBytes := putBE 4 packetID.toNat
  let ciphertext := c.sendAEAD.sealPayload (packetIDBytes ++ c.sendIVSuffix) payload
    (aadPrefix ++ packetIDBytes)
  if ciphertext.length < tlsDataAEADTagSize then throw "invalid gcm ciphertext"
  let tag := ciphertext.drop (ciphertext.length - tlsDataAEADTagSize)
  let encryptedPayload := ciphertext.take (ciphertext.length - tlsDataAEADTagSize)
  return packetIDBytes ++ tag ++ encryptedPayload

/-- `EncodeBuffer`, which seals in place and writes packet id and tag in front. -/
def encodeBuffer (arrays : AEADArrays) (packetID : UInt32)
    (aadPrefix : Bytes) (payload : DataBuffer) : Option (Except String DataBuffer × AEADArrays) :=
  if packetID = 0 then some (.error "invalid data packet id", arrays)
  else
    let payload := payload.withRoom
    let packetIDBytes := putBE 4 packetID.toNat
    (arrays.write c.sendIVSuffix aadPrefix packetIDBytes).map fun arrays =>
      let sealedPayload := c.sendAEAD.sealPayload (arrays.nonce.take 12) payload.content
        (arrays.additionalData.take (aadPrefix.length + 4))
      if sealedPayload.length ≠ payload.content.length + tlsDataAEADTagSize then
        (.error "invalid gcm ciphertext", arrays)
      else (.ok (payload.placeSealed packetIDBytes sealedPayload), arrays)

/-- The part of `Decode` before the replay check: packet id and payload. -/
def openCopy (aadPrefix payload : Bytes) : Except String (Nat × Bytes) := do
  if payload.length < 4 + tlsDataAEADTagSize then throw "invalid gcm payload"
  let packetID := getBE (payload.take 4)
  let tag := (payload.drop 4).take tlsDataAEADTagSize
  let ciphertext := payload.drop (4 + tlsDataAEADTagSize)
  let decodedPayload ← c.receiveAEAD.openSealed (putBE 4 packetID ++ c.receiveIVSuffix)
    (ciphertext ++ tag) (aadPrefix ++ putBE 4 packetID)
  return (packetID, decodedPayload)

/-- The part of `DecodeBuffer` before the replay check: packet id and payload.  The
tag is moved behind the ciphertext inside the received buffer. -/
def openMoved (nonce additionalData payload : Bytes) :
    Except String (Nat × Bytes) := do
  if payload.length < 4 + tlsDataAEADTagSize then throw "invalid gcm payload"
  let packetID := getBE (payload.take 4)
  let tag := (payload.drop 4).take tlsDataAEADTagSize
  let ciphertextLength := payload.length - 4 - tlsDataAEADTagSize
  let moved := copyInto payload 4 (payload.drop (4 + tlsDataAEADTagSize))
  let moved := copyInto moved (4 + ciphertextLength) tag
  let sealedPayload := (moved.drop 4).take (ciphertextLength + tlsDataAEADTagSize)
  let decodedPayload ← c.receiveAEAD.openSealed nonce sealedPayload additionalData
  return (packetID, decodedPayload)

/-- The same with nonce and additional data as the arrays of `DecodeBuffer` hold them for a
prefix they have room for. -/
def openPacket (aadPrefix payload : Bytes) : Except String (Nat × Bytes) :=
  let packetIDBytes := putBE 4 (getBE (payload.take 4))
  c.openMoved (packetIDBytes ++ c.receiveIVSuffix) (aadPrefix ++ packetIDBytes) payload

end TLSGCMDataCodec

/-! ### Block ciphers behind a MAC -/

variable (crypto : CryptoPrimitives)

def slotMACKey (hash : Option HashName) (slot : StaticKeySlot) : Bytes :=
  match hash with
  | none => []
  | some hash => slot.hmacKey.take hash.size

structure TLSCBCDataCodec where
  sendCipherBlock : Option BlockCipher
  sendHMACKey : Bytes
  receiveCipher : Option BlockCipher
  receiveHMACKey : Bytes
  /-- `hashFactory`; without one `hmacSize` is zero. -/
  hash : Option HashName
  replayWindow : ReplayWindow

def newTLSCBCDataCodec (keyMaterial : Bytes) (server : Bool)
    (cipherName authName : String) (replayWindowSize : Nat) (replayWindowTime : Duration) :
    Except String TLSCBCDataCodec := do
  let keySlots ← tlsKeySlots keyMaterial
  let (sendSlot, receiveSlot) := tlsDataKeySlots keySlots server
  let cipherKeySize ← staticCipherKeySize cipherName
  let hash ← staticHMACFactory authName
  let sendCipherBlock ← newStaticCipherBlock crypto cipherName sendSlot.cipherKey cipherKeySize
  let receiveCipher ← newStaticCipherBlock crypto cipherName receiveSlot.cipherKey cipherKeySize
  return {
    sendCipherBlock := sendCipherBlock
    sendHMACKey := slotMACKey hash sendSlot
    receiveCipher := receiveCipher
    receiveHMACKey := slotMACKey hash receiveSlot
    hash := hash
    replayWindow := newReplayWindow replayWindowSize replayWindowTime }

namespace TLSCBCDataCodec

variable (c : TLSCBCDataCodec)

def encodedLength (payloadLength : Nat) : Nat :=
  macSize c.hash + protectedLength c.sendCipherBlock (4 + payloadLength)

def encode
    (random : (count : Nat) → List.Vector UInt8 count) (packetID : UInt32) (payload : Bytes) :
    Except String Bytes := do
  if packetID = 0 then throw "invalid data packet id"
  let protectedPayload ← protectCBC c.sendCipherBlock random (putBE 4 packetID.toNat ++ payload)
  return sealTLSMAC crypto c.hash c.sendHMACKey protectedPayload

/-- The part of `Decode` before the replay check: packet id and payload. -/
def openPacket (payload : Bytes) :
    Except String (Nat × Bytes) := do
  let protectedPayload ← openTLSMAC crypto c.hash c.receiveHMACKey "invalid tls data packet"
    "invalid tls data packet hmac" payload
  let plainPayload ← openCBC c.receiveCipher "invalid tls data packet" protectedPayload
  if plainPayload.length < 4 then throw "invalid tls data packet"
  return (getBE (plainPayload.take 4), plainPayload.drop 4)

end TLSCBCDataCodec

inductive TLSStreamCipherMode where
  | cfb
  | ofb
deriving DecidableEq, Repr

structure TLSStreamDataCodec where
  sendCipherBlock : BlockCipher
  sendHMACKey : Bytes
  receiveCipher : BlockCipher
  receiveHMACKey : Bytes
  hash : Option HashName
  mode : TLSStreamCipherMode
  sendTimestamp : UInt32
  replayWindow : ReplayWindow

/-- `tlsStreamCipherSpec`: the mode, the name of the cipher in chaining mode and its
key size. -/
def tlsStreamCipherSpec (cipherName : String) :
    Except String (TLSStreamCipherMode × String × Nat) := do
  let characters := cipherName.toList
  let baseName := characters.take (characters.length - 4)
  let mode ←
    if "-CFB".toList.isSuffixOf characters then .ok TLSStreamCipherMode.cfb
    else if "-OFB".toList.isSuffixOf characters then .ok TLSStreamCipherMode.ofb
    else .error "unsupported tls stream cipher"
  let cbcCipherName := String.ofList (baseName ++ "-CBC".toList)
  match staticCipherKeySize cbcCipherName with
  | .ok cipherKeySize => return (mode, cbcCipherName, cipherKeySize)
  | .error _ => .error "unsupported tls stream cipher"

/-- `newTLSStreamDataCodec`; `timestamp` is the time of the call in seconds.  The
names `tlsStreamCipherSpec` returns all have a cipher. -/
def newTLSStreamDataCodec (keyMaterial : Bytes) (server : Bool)
    (cipherName authName : String) (replayWindowSize : Nat) (replayWindowTime : Duration)
    (timestamp : UInt32) : Except String TLSStreamDataCodec := do
  let keySlots ← tlsKeySlots keyMaterial
  let (mode, cbcCipherName, cipherKeySize) ← tlsStreamCipherSpec cipherName
  let (sendSlot, receiveSlot) := tlsDataKeySlots keySlots server
  let hash ← staticHMACFactory authName
  let sendCipherBlock ← newStaticCipherBlock crypto cbcCipherName sendSlot.cipherKey cipherKeySize
  let receiveCipher ← newStaticCipherBlock crypto cbcCipherName receiveSlot.cipherKey cipherKeySize
  match sendCipherBlock, receiveCipher with
  | some sendCipherBlock, some receiveCipher =>
    return {
      sendCipherBlock := sendCipherBlock
      sendHMACKey := slotMACKey hash sendSlot
      receiveCipher := receiveCipher
      receiveHMACKey := slotMACKey hash receiveSlot
      hash := hash
      mode := mode
      sendTimestamp := timestamp
      replayWindow := newReplayWindow replayWindowSize replayWindowTime }
  | _, _ => .error "unsupported tls stream cipher"

namespace TLSStreamDataCodec

def encodedLength (c : TLSStreamDataCodec) (payloadLength : Nat) : Nat :=
  macSize c.hash + c.sendCipherBlock.blockSize + payloadLength

def stream (c : TLSStreamDataCodec) (block : BlockCipher) (initializationVector : Bytes)
    (encrypt : Bool) (data : Bytes) : Bytes :=
  match c.mode with
  | .ofb => ofb block (blockCount block data) initializationVector data
  | .cfb =>
    if encrypt then cfbEncrypt block (blockCount block data) initializationVector data
    else cfbDecrypt block (blockCount block data) initializationVector data

/-- `Encode`.  The initialization vector is the packet id and the timestamp, filled
with zeros. -/
def encode (c : TLSStreamDataCodec) (crypto : CryptoPrimitives) (packetID : UInt32)
    (payload : Bytes) : Except String Bytes := do
  if packetID = 0 then throw "invalid data packet id"
  let initializationVector := putBE 4 packetID.toNat ++ putBE 4 c.sendTimestamp.toNat ++
    List.replicate (c.sendCipherBlock.blockSize - 8) 0
  let cipherPayload := c.stream c.sendCipherBlock initializationVector true payload
  return sealTLSMAC crypto c.hash c.sendHMACKey (initializationVector ++ cipherPayload)

/-- The part of `Decode` before the replay check: packet id, timestamp and payload. -/
def openPacket (c : TLSStreamDataCodec) (crypto : CryptoPrimitives) (payload : Bytes) :
    Except String (Nat × Nat × Bytes) := do
  let protectedPayload ← openTLSMAC crypto c.hash c.receiveHMACKey "invalid tls stream data packet"
    "invalid tls stream data packet hmac" payload
  let blockSize := c.receiveCipher.blockSize
  if protectedPayload.length ≤ blockSize then throw "invalid tls stream data packet"
  let initializationVector := protectedPayload.take blockSize
  let packetID := getBE (initializationVector.take 4)
  let packetTimestamp := getBE ((initializationVector.drop 4).take 4)
  return (packetID, packetTimestamp, c.stream c.receiveCipher initializationVector false
    (protectedPayload.drop blockSize))

end TLSStreamDataCodec

/-! ### The codec of a key -/

/-- `dataCodec`, as `newTLSDataCodec` makes them. -/
inductive DataCodec where
  | gcm (codec : TLSGCMDataCodec)
  | cbc (codec : TLSCBCDataCodec)
  | stream (codec : TLSStreamDataCodec)

def defaultReplayWindowTime : Duration := 15 * 10 ^ 9

def defaultReplayWindowSize : Nat := 64

def dataReplayWindowParameters (replayWindowSize : Nat) (replayWindowTime : Duration) :
    Nat × Duration :=
  (if replayWindowSize = 0 then defaultReplayWindowSize else replayWindowSize,
    if replayWindowTime = 0 then defaultReplayWindowTime else replayWindowTime)

def newTLSDataCodec (crypto : DataPrimitives) (keyMaterial : Bytes) (server : Bool)
    (cipherName authName : String) (replayWindowSize : Nat) (replayWindowTime : Duration)
    (timestamp : UInt32) : Except String DataCodec :=
  let (windowSize, windowTime) := dataReplayWindowParameters replayWindowSize replayWindowTime
  match cipherName with
  | "AES-128-GCM" | "AES-192-GCM" | "AES-256-GCM" =>
    (newTLSGCMDataCodec crypto keyMaterial server cipherName windowSize windowTime).map .gcm
  | "CHACHA20-POLY1305" =>
    (newTLSChaCha20Poly1305DataCodec crypto keyMaterial server windowSize windowTime).map .gcm
  | _ =>
    match tlsStreamCipherSpec cipherName with
    | .ok _ => (newTLSStreamDataCodec crypto.toCryptoPrimitives keyMaterial server cipherName
        authName windowSize windowTime timestamp).map .stream
    | .error _ => (newTLSCBCDataCodec crypto.toCryptoPrimitives keyMaterial server cipherName
        authName windowSize windowTime).map .cbc

namespace DataCodec

variable (crypto : DataPrimitives)

def encodedLength (c : DataCodec) (payloadLength : Nat) : Nat :=
  match c with
  | gcm _ => TLSGCMDataCodec.encodedLength payloadLength
  | cbc codec => codec.encodedLength payloadLength
  | stream codec => codec.encodedLength payloadLength

def encode (c : DataCodec) (random : (count : Nat) → List.Vector UInt8 count) (packetID : UInt32)
    (aadPrefix payload : Bytes) : Except String Bytes :=
  match c with
  | gcm codec => codec.encode packetID aadPrefix payload
  | cbc codec => codec.encode crypto.toCryptoPrimitives random packetID payload
  | stream codec => codec.encode crypto.toCryptoPrimitives packetID payload

/-- What `DecodeBuffer` reads of a packet before the replay check: packet id,
timestamp and payload.  Only the stream codec sends a timestamp. -/
def openPacket (c : DataCodec) (aadPrefix payload : Bytes) : Except String (Nat × Nat × Bytes) :=
  match c with
  | gcm codec => (codec.openPacket aadPrefix payload).map fun opened => (opened.1, 0, opened.2)
  | cbc codec => (codec.openPacket crypto.toCryptoPrimitives payload).map fun opened =>
      (opened.1, 0, opened.2)
  | stream codec => codec.openPacket crypto.toCryptoPrimitives payload

def checkReplay (c : DataCodec) (packetID timestamp : Nat) (now arrival : Time) :
    Bool × DataCodec :=
  match c with
  | gcm codec =>
    let answer := codec.replayWindow.accept packetID now arrival
    (answer.1, gcm { codec with replayWindow := answer.2 })
  | cbc codec =>
    let answer := codec.replayWindow.accept packetID now arrival
    (answer.1, cbc { codec with replayWindow := answer.2 })
  | stream codec =>
    let answer := codec.replayWindow.acceptLongForm packetID timestamp now arrival
    (answer.1, stream { codec with replayWindow := answer.2 })

def replayError : DataCodec → String
  | gcm _ => "replayed gcm packet"
  | cbc _ => "replayed tls data packet"
  | stream _ => "replayed tls stream data packet"

def decodeBuffer (c : DataCodec) (aadPrefix payload : Bytes) (now arrival : Time) :
    Except String (Nat × Bytes) × DataCodec :=
  match c.openPacket crypto aadPrefix payload with
  | .error err => (.error err, c)
  | .ok (packetID, timestamp, decodedPayload) =>
    let answer := c.checkReplay packetID timestamp now arrival
    (if answer.1 then .ok (packetID, decodedPayload) else .error c.replayError, answer.2)

/-- `Decode`: only the AEAD codec opens a packet in another way than `DecodeBuffer`. -/
def decode (c : DataCodec) (aadPrefix payload : Bytes) (now arrival : Time) :
    Except String (Nat × Bytes) × DataCodec :=
  match c with
  | gcm codec =>
    match codec.openCopy aadPrefix payload with
    | .error err => (.error err, gcm codec)
    | .ok (packetID, decodedPayload) =>
      let answer := (gcm codec).checkReplay packetID 0 now arrival
      (if answer.1 then .ok (packetID, decodedPayload) else .error (gcm codec).replayError,
        answer.2)
  | c => c.decodeBuffer crypto aadPrefix payload now arrival

/-- `DecodeBuffer` of the AEAD codec with its arrays. -/
def decodeInPlace (codec : TLSGCMDataCodec) (arrays : AEADArrays) (aadPrefix payload : Bytes)
    (now arrival : Time) : Option ((Except String (Nat × Bytes) × DataCodec) × AEADArrays) :=
  if payload.length < 4 + tlsDataAEADTagSize then
    some ((.error "invalid gcm payload", gcm codec), arrays)
  else
    (arrays.write codec.receiveIVSuffix aadPrefix (putBE 4 (getBE (payload.take 4)))).map
      fun arrays =>
        (match codec.openMoved (arrays.nonce.take 12)
            (arrays.additionalData.take (aadPrefix.length + 4)) payload with
          | .error err => (.error err, gcm codec)
          | .ok (packetID, decodedPayload) =>
            let answer := (gcm codec).checkReplay packetID 0 now arrival
            (if answer.1 then .ok (packetID, decodedPayload) else .error (gcm codec).replayError,
              answer.2), arrays)

theorem decodeBuffer_eq_ok {crypto : DataPrimitives} {c : DataCodec} {aadPrefix payload : Bytes}
    {now arrival : Time} {packetID : Nat} {decodedPayload : Bytes} :
    (c.decodeBuffer crypto aadPrefix payload now arrival).1 = .ok (packetID, decodedPayload) ↔
      ∃ timestamp, c.openPacket crypto aadPrefix payload =
          .ok (packetID, timestamp, decodedPayload) ∧
        (c.checkReplay packetID timestamp now arrival).1 = true := by
  unfold decodeBuffer
  cases hopen : c.openPacket crypto aadPrefix payload with
  | error err => simp
  | ok opened =>
    obtain ⟨openedID, timestamp, openedPayload⟩ := opened
    dsimp only
    constructor
    · intro h
      split at h
      · next haccepted =>
        cases h
        exact ⟨timestamp, rfl, haccepted⟩
      · cases h
    · rintro ⟨_, hopened, haccepted⟩
      cases hopened
      rw [if_pos haccepted]

end DataCodec

/-! ### What an opened packet carries -/

def MACVerified (hash : Option HashName) (receiveHMACKey payload : Bytes) :
    Prop :=
  ∃ name, hash = some name ∧
    payload.take name.size = crypto.hmac name receiveHMACKey (payload.drop name.size)

/-- The payload is a packet id, a tag and a ciphertext that the AEAD cipher opens. -/
def TLSGCMDataCodec.TagVerified (aadPrefix payload : Bytes) : Prop :=
  ∃ packetIDBytes tag ciphertext plaintext : Bytes,
    packetIDBytes.length = 4 ∧ tag.length = tlsDataAEADTagSize ∧
    payload = packetIDBytes ++ (tag ++ ciphertext) ∧
    c.receiveAEAD.openSealed (packetIDBytes ++ c.receiveIVSuffix) (ciphertext ++ tag)
      (aadPrefix ++ packetIDBytes) = .ok plaintext

namespace DataCodec

def authenticates : DataCodec → Bool
  | gcm _ => true
  | cbc codec => codec.hash.isSome
  | stream codec => codec.hash.isSome

def Authenticated (crypto : DataPrimitives) (c : DataCodec) (aadPrefix payload : Bytes) : Prop :=
  match c with
  | gcm codec => codec.TagVerified aadPrefix payload
  | cbc codec => MACVerified crypto.toCryptoPrimitives codec.hash codec.receiveHMACKey payload
  | stream codec => MACVerified crypto.toCryptoPrimitives codec.hash codec.receiveHMACKey payload

/-- Without a tag or a MAC nothing authenticates. -/
theorem authenticates_of_authenticated {crypto : DataPrimitives} {c : DataCodec}
    {aadPrefix payload : Bytes} (h : c.Authenticated crypto aadPrefix payload) :
    c.authenticates = true := by
  cases c with
  | gcm codec => rfl
  | cbc codec | stream codec =>
    obtain ⟨name, hname, -⟩ := h
    simp [authenticates, hname]

end DataCodec

theorem copyInto_tag (packetIDBytes tag ciphertext : Bytes) :
    copyInto (copyInto (packetIDBytes ++ (tag ++ ciphertext)) packetIDBytes.length ciphertext)
      (packetIDBytes.length + ciphertext.length) tag = packetIDBytes ++ (ciphertext ++ tag) := by
  -- the bytes behind the packet id, cut where the ciphertext will end
  have hcut : tag ++ ciphertext =
      (tag ++ ciphertext).take ciphertext.length ++ (tag ++ ciphertext).drop ciphertext.length :=
    (take_append_drop _ _).symm
  have hfront : ciphertext.length = ((tag ++ ciphertext).take ciphertext.length).length := by
    simp
  rw [hcut, copyInto_append _ _ hfront, ← append_assoc, ← length_append]
  have hback : tag.length = ((tag ++ ciphertext).drop ciphertext.length).length := by simp
  have hmoved := copyInto_append (packetIDBytes ++ ciphertext) [] hback
  rw [append_nil, append_nil] at hmoved
  rw [hmoved, append_assoc]

theorem gcmParts {payload : Bytes} (h : ¬ payload.length < 4 + tlsDataAEADTagSize) :
    ∃ packetIDBytes tag ciphertext : Bytes, packetIDBytes.length = 4 ∧
      tag.length = tlsDataAEADTagSize ∧ payload = packetIDBytes ++ (tag ++ ciphertext) := by
  rw [tlsDataAEADTagSize] at h
  refine ⟨payload.take 4, (payload.drop 4).take 16, (payload.drop 4).drop 16,
    length_take_of_le (by omega), ?_, ?_⟩
  · exact length_take_of_le (by rw [length_drop]; omega)
  · rw [take_append_drop, take_append_drop]

section Parts

variable {c : TLSGCMDataCodec} {aadPrefix packetIDBytes tag ciphertext : Bytes}

theorem TLSGCMDataCodec.openPacket_parts (hid : packetIDBytes.length = 4)
    (htag : tag.length = tlsDataAEADTagSize) :
    c.openPacket aadPrefix (packetIDBytes ++ (tag ++ ciphertext)) =
      (c.receiveAEAD.openSealed (packetIDBytes ++ c.receiveIVSuffix) (ciphertext ++ tag)
        (aadPrefix ++ packetIDBytes)).map fun payload => (getBE packetIDBytes, payload) := by
  have hlength : ¬ (packetIDBytes ++ (tag ++ ciphertext)).length < 4 + tlsDataAEADTagSize := by
    rw [length_append, length_append, hid, htag]
    omega
  have hcount : (packetIDBytes ++ (tag ++ ciphertext)).length - 4 - tlsDataAEADTagSize =
      ciphertext.length := by
    rw [length_append, length_append, hid, htag]
    omega
  have hidBytes : putBE 4 (getBE packetIDBytes) = packetIDBytes := hid ▸ putBE_getBE packetIDBytes
  have hbehind : (packetIDBytes ++ (tag ++ ciphertext)).drop (4 + tlsDataAEADTagSize) =
      ciphertext := by
    rw [← drop_drop, drop_left' hid, drop_left' htag]
  have hmoved := copyInto_tag packetIDBytes tag ciphertext
  rw [hid] at hmoved
  simp only [openPacket, openMoved]
  rw [if_neg hlength, hcount, hbehind, drop_left' hid, take_left' htag,
    take_left' hid, hmoved, drop_left' hid, hidBytes,
    take_of_length_le (by rw [length_append, htag])]
  cases c.receiveAEAD.openSealed (packetIDBytes ++ c.receiveIVSuffix) (ciphertext ++ tag)
    (aadPrefix ++ packetIDBytes) <;> rfl

theorem TLSGCMDataCodec.openCopy_eq (aadPrefix payload : Bytes) :
    c.openCopy aadPrefix payload = c.openPacket aadPrefix payload := by
  by_cases hlength : payload.length < 4 + tlsDataAEADTagSize
  · simp only [openCopy, openPacket, openMoved, if_pos hlength]
    rfl
  · obtain ⟨packetIDBytes, tag, ciphertext, hid, htag, rfl⟩ := gcmParts hlength
    have hidBytes : putBE 4 (getBE packetIDBytes) = packetIDBytes := hid ▸ putBE_getBE packetIDBytes
    rw [openPacket_parts hid htag]
    simp only [openCopy]
    rw [if_neg hlength, ← drop_drop, drop_left' hid, drop_left' htag,
      take_left' hid, take_left' htag, hidBytes]
    cases c.receiveAEAD.openSealed (packetIDBytes ++ c.receiveIVSuffix) (ciphertext ++ tag)
      (aadPrefix ++ packetIDBytes) <;> rfl

theorem TLSGCMDataCodec.tagVerified_of_openPacket {payload : Bytes} {opened : Nat × Bytes}
    (h : c.openPacket aadPrefix payload = .ok opened) : c.TagVerified aadPrefix payload := by
  by_cases hlength : payload.length < 4 + tlsDataAEADTagSize
  · simp only [openPacket, openMoved, if_pos hlength] at h
    cases h
  · obtain ⟨packetIDBytes, tag, ciphertext, hid, htag, rfl⟩ := gcmParts hlength
    rw [openPacket_parts hid htag] at h
    obtain ⟨plaintext, hopen, -⟩ := map_eq_ok.mp h
    exact ⟨packetIDBytes, tag, ciphertext, plaintext, hid, htag, rfl, hopen⟩

end Parts

theorem openTLSMAC_eq_ok {crypto : CryptoPrimitives} {hash : Option HashName}
    {receiveHMACKey payload protectedPayload : Bytes} {tooShort mismatch : String}
    (h : openTLSMAC crypto hash receiveHMACKey tooShort mismatch payload = .ok protectedPayload)
    (hhash : hash.isSome = true) : MACVerified crypto hash receiveHMACKey payload := by
  obtain ⟨name, rfl⟩ := Option.isSome_iff_exists.mp hhash
  unfold openTLSMAC at h
  dsimp only at h
  split at h
  · cases h
  · split at h
    · cases h
    · next hmac => exact ⟨name, rfl, not_not.mp hmac⟩

/-- **A packet that a codec with a tag or a MAC opens authenticates under its key.** -/
theorem DataCodec.authenticated_of_openPacket {crypto : DataPrimitives} {c : DataCodec}
    {aadPrefix payload : Bytes} {opened : Nat × Nat × Bytes}
    (h : c.openPacket crypto aadPrefix payload = .ok opened) (hcodec : c.authenticates = true) :
    c.Authenticated crypto aadPrefix payload := by
  cases c with
  | gcm codec =>
    obtain ⟨_, hopen, -⟩ := map_eq_ok.mp h
    exact codec.tagVerified_of_openPacket hopen
  | cbc codec =>
    obtain ⟨_, hopen, -⟩ := map_eq_ok.mp h
    obtain ⟨_, hmac, -⟩ := bind_eq_ok.mp hopen
    exact openTLSMAC_eq_ok hmac hcodec
  | stream codec =>
    obtain ⟨_, hmac, -⟩ := bind_eq_ok.mp h
    exact openTLSMAC_eq_ok hmac hcodec

end SingOpenVPN
