import SingOpenVPN.BlockModes
import SingOpenVPN.ReplayWindow

/-!
# Static keys and the static-key data codec (`data_codec_static.go`)

A static key is 256 bytes, two slots of a cipher key and a MAC key.  The key
direction says which slot a side sends with and which slots it tries on
reception.  The static-key data codec prefixes the payload with a packet id and
a timestamp, encrypts it with a block cipher in chaining mode and puts a MAC in
front.

Hashes and block ciphers come from packages outside the repository; they are the
parameter `CryptoPrimitives`.
-/

namespace SingOpenVPN

open ByteCodec BlockModes List

/-! ### Primitives -/

inductive HashName where
  | sha1
  | sha224
  | sha256
  | sha384
  | sha512
  | ripemd160
  | md5
deriving DecidableEq, Repr

def HashName.size : HashName → Nat
  | sha1 => 20
  | sha224 => 28
  | sha256 => 32
  | sha384 => 48
  | sha512 => 64
  | ripemd160 => 20
  | md5 => 16

inductive BlockAlgorithm where
  | blowfish
  | des
  | tripleDES
  | cast5
  | aes
  | aria
  | camellia
  | seed
  | sm4
deriving DecidableEq, Repr

/-- What the codecs use of the hash and cipher packages.  `newCipher` is `none`
    where the package refuses the key. -/
structure CryptoPrimitives where
  hmac : HashName → Bytes → Bytes → Bytes
  newCipher : BlockAlgorithm → Bytes → Option BlockCipher
  length_hmac : ∀ hash key message, (hmac hash key message).length = hash.size

/-! ### Slots and directions -/

/-- Key material as `loadStaticKeyMaterialFromSource` returns it. -/
abbrev StaticKeyMaterial := List.Vector UInt8 256

structure StaticKeySlot where
  cipherKey : Bytes
  hmacKey : Bytes
  length_hmacKey : hmacKey.length = 64
deriving DecidableEq

def splitStaticKeyMaterial (staticKeyMaterial : StaticKeyMaterial) : Fin 2 → StaticKeySlot
  | 0 => ⟨staticKeyMaterial.toList.take 64, (staticKeyMaterial.toList.drop 64).take 64, by simp⟩
  | 1 => ⟨(staticKeyMaterial.toList.drop 128).take 64,
      (staticKeyMaterial.toList.drop 192).take 64, by simp⟩

/-- `resolveStaticKeyDirection`: the slot to send with, the slot to receive with
    and the slot to try after it.  None of the three is ever negative. -/
def resolveStaticKeyDirection (keyDirection : Int) : Fin 2 × Fin 2 × Fin 2 :=
  if keyDirection = 1 ∨ keyDirection = 2 then (1, 0, 1)
  else if keyDirection < 0 then (0, 0, 1)
  else (0, 1, 0)

/-- The slots a side tries on reception, in order. -/
def receiveSlotIndexes (keyDirection : Int) : List (Fin 2) :=
  let (_, receiveSlotIndex, receiveFallbackIndex) := resolveStaticKeyDirection keyDirection
  if receiveFallbackIndex ≠ receiveSlotIndex then [receiveSlotIndex, receiveFallbackIndex]
  else [receiveSlotIndex]

def sendSlotIndex (keyDirection : Int) : Fin 2 := (resolveStaticKeyDirection keyDirection).1

/-- Directions that use each other's slot: one side 0 and the other 1, or neither side
    one of its own. -/
def OppositeDirections (left right : Int) : Prop :=
  (left = 0 ∧ right = 1) ∨ (left = 1 ∧ right = 0) ∨ (left = -1 ∧ right = -1)

theorem OppositeDirections.symm {left right : Int} (h : OppositeDirections left right) :
    OppositeDirections right left := by
  simp only [OppositeDirections] at h ⊢
  omega

theorem OppositeDirections.receiveSlotIndexes {left right : Int}
    (h : OppositeDirections left right) :
    ∃ rest, receiveSlotIndexes right = sendSlotIndex left :: rest := by
  rcases h with ⟨rfl, rfl⟩ | ⟨rfl, rfl⟩ | ⟨rfl, rfl⟩
  · exact ⟨_, rfl⟩
  · exact ⟨_, rfl⟩
  · exact ⟨_, rfl⟩

/-- `tlsDataKeySlots` (`data_codec.go`): the slot to send with and the slot to receive with
    under a negotiated key, where the role decides. -/
def tlsDataKeySlots (keySlots : Fin 2 → StaticKeySlot) (server : Bool) :
    StaticKeySlot × StaticKeySlot :=
  if server then (keySlots 1, keySlots 0) else (keySlots 0, keySlots 1)

def staticHMACFactory : String → Except String (Option HashName)
  | "" | "SHA1" => .ok (some .sha1)
  | "SHA224" => .ok (some .sha224)
  | "SHA256" => .ok (some .sha256)
  | "SHA384" => .ok (some .sha384)
  | "SHA512" => .ok (some .sha512)
  | "RIPEMD160" => .ok (some .ripemd160)
  | "MD5" => .ok (some .md5)
  | "NONE" => .ok none
  | _ => .error "unsupported static key auth"

def staticCipherKeySize : String → Except String Nat
  | "BF-CBC" => .ok 16
  | "DES-CBC" => .ok 8
  | "DES-EDE-CBC" => .ok 16
  | "DES-EDE3-CBC" => .ok 24
  | "CAST5-CBC" => .ok 16
  | "AES-128-CBC" => .ok 16
  | "AES-192-CBC" => .ok 24
  | "AES-256-CBC" => .ok 32
  | "ARIA-128-CBC" | "CAMELLIA-128-CBC" | "SEED-CBC" | "SM4-CBC" => .ok 16
  | "ARIA-192-CBC" | "CAMELLIA-192-CBC" => .ok 24
  | "ARIA-256-CBC" | "CAMELLIA-256-CBC" => .ok 32
  | "NONE" => .ok 0
  | _ => .error "unsupported static key cipher"

section Primitives

variable (crypto : CryptoPrimitives)

/-- A cipher of an outside package, or its refusal of the key. -/
def CryptoPrimitives.cipher (algorithm : BlockAlgorithm) (cipherKey : Bytes) :
    Except String (Option BlockCipher) :=
  match crypto.newCipher algorithm cipherKey with
  | some cipher => .ok (some cipher)
  | none => .error "invalid key size"

def newStaticCipherBlock (cipherName : String) (keyMaterial : Bytes) (keySize : Nat) :
    Except String (Option BlockCipher) :=
  if cipherName = "NONE" then .ok none
  else if keySize = 0 ∨ keyMaterial.length < keySize then
    .error "invalid static key cipher key size"
  else
    let cipherKey := keyMaterial.take keySize
    match cipherName with
    | "BF-CBC" => crypto.cipher .blowfish cipherKey
    | "DES-CBC" => crypto.cipher .des cipherKey
    | "DES-EDE-CBC" => crypto.cipher .tripleDES (cipherKey ++ cipherKey.take 8)
    | "DES-EDE3-CBC" => crypto.cipher .tripleDES cipherKey
    | "CAST5-CBC" => crypto.cipher .cast5 cipherKey
    | "AES-128-CBC" | "AES-192-CBC" | "AES-256-CBC" => crypto.cipher .aes cipherKey
    | "ARIA-128-CBC" | "ARIA-192-CBC" | "ARIA-256-CBC" => crypto.cipher .aria cipherKey
    | "CAMELLIA-128-CBC" | "CAMELLIA-192-CBC" | "CAMELLIA-256-CBC" =>
      crypto.cipher .camellia cipherKey
    | "SEED-CBC" => crypto.cipher .seed cipherKey
    | "SM4-CBC" => crypto.cipher .sm4 cipherKey
    | _ => .error "unsupported static key cipher"

end Primitives

/-! ### Padding -/

/-- The payload followed by as many copies of the padding size as fill a block. -/
def padded (payload : Bytes) (blockSize : Nat) : Bytes :=
  let paddingSize := blockSize - payload.length % blockSize
  let paddingSize := if paddingSize = 0 then blockSize else paddingSize
  payload ++ List.replicate paddingSize (UInt8.ofNat paddingSize)

def pkcs7Pad (payload : Bytes) (blockSize : Nat) : Except String Bytes :=
  if blockSize = 0 then .error "invalid block size" else .ok (padded payload blockSize)

def pkcs7Unpad (payload : Bytes) (blockSize : Nat) : Except String Bytes :=
  if blockSize = 0 ∨ payload.length = 0 ∨ payload.length % blockSize ≠ 0 then
    .error "invalid static key payload padding"
  else
    let paddingSize := (payload.getLastD 0).toNat
    if paddingSize = 0 ∨ blockSize < paddingSize ∨ payload.length < paddingSize then
      .error "invalid static key payload padding"
    else
      let paddingStart := payload.length - paddingSize
      if (payload.drop paddingStart).any (· ≠ UInt8.ofNat paddingSize) then
        .error "invalid static key payload padding"
      else .ok (payload.take paddingStart)

theorem length_padded (payload : Bytes) {blockSize : Nat} (hpos : 0 < blockSize) :
    (padded payload blockSize).length = (payload.length / blockSize + 1) * blockSize := by
  have hmod := Nat.mod_lt payload.length hpos
  have hdiv := Nat.div_add_mod payload.length blockSize
  simp only [padded, length_append, length_replicate]
  rw [if_neg (by omega), Nat.add_mul, one_mul, mul_comm (payload.length / blockSize)]
  omega

theorem pkcs7Unpad_padded (payload : Bytes) {blockSize : Nat} (hpos : 0 < blockSize)
    (hlt : blockSize < 256) : pkcs7Unpad (padded payload blockSize) blockSize = .ok payload := by
  have hmod := Nat.mod_lt payload.length hpos
  obtain ⟨size, hsize, hsizePos, hsizeLe, heq⟩ : ∃ size,
      size = blockSize - payload.length % blockSize ∧ 0 < size ∧ size ≤ blockSize ∧
      padded payload blockSize = payload ++ List.replicate size (UInt8.ofNat size) :=
    ⟨_, rfl, by omega, by omega, by simp only [padded]; rw [if_neg (by omega)]⟩
  have hlength : (padded payload blockSize).length % blockSize = 0 := by
    rw [length_padded payload hpos]
    exact Nat.mul_mod_left _ _
  have hlast : (padded payload blockSize).getLastD 0 = UInt8.ofNat size := by
    obtain ⟨size', rfl⟩ := Nat.exists_eq_add_of_le' hsizePos
    rw [heq, replicate_succ', ← append_assoc]
    simp
  have hbyte : (UInt8.ofNat size).toNat = size := by
    rw [UInt8.toNat_ofNat']
    omega
  have hlen : (padded payload blockSize).length = payload.length + size := by
    rw [heq, length_append, length_replicate]
  unfold pkcs7Unpad
  rw [if_neg (by omega)]
  simp only [hlast, hbyte]
  rw [if_neg (by omega), hlen, Nat.add_sub_cancel, heq, drop_left, take_left,
    if_neg (by simp)]

/-- A padded payload in chaining mode behind its initialization vector: its length, and
    what the decoder makes of it. -/
theorem cbc_padded (cipher : BlockCipher)
    (initializationVector : List.Vector UInt8 cipher.blockSize)
    (payload : Bytes) :
    let protectedPayload := initializationVector.toList ++
      cbcEncrypt cipher ((padded payload cipher.blockSize).length / cipher.blockSize)
        initializationVector.toList (padded payload cipher.blockSize)
    protectedPayload.length =
        cipher.blockSize + (payload.length / cipher.blockSize + 1) * cipher.blockSize ∧
      ¬ (protectedPayload.length < cipher.blockSize * 2 ∨
        protectedPayload.length % cipher.blockSize ≠ 0) ∧
      pkcs7Unpad (cbcDecrypt cipher
        ((protectedPayload.drop cipher.blockSize).length / cipher.blockSize)
        (protectedPayload.take cipher.blockSize) (protectedPayload.drop cipher.blockSize))
        cipher.blockSize = .ok payload := by
  have hpos := cipher.blockSize_pos
  have hpadded := length_padded payload hpos
  have hblocks : (padded payload cipher.blockSize).length / cipher.blockSize =
      payload.length / cipher.blockSize + 1 := by
    rw [hpadded, Nat.mul_div_cancel _ hpos]
  have hiv : initializationVector.toList.length = cipher.blockSize :=
    initializationVector.toList_length
  have hencrypted := length_cbcEncrypt cipher (payload.length / cipher.blockSize + 1)
    initializationVector.toList (padded payload cipher.blockSize) hiv hpadded
  have hnext : cipher.blockSize + (payload.length / cipher.blockSize + 1) * cipher.blockSize =
      (payload.length / cipher.blockSize + 2) * cipher.blockSize := by
    rw [Nat.add_mul, Nat.add_mul]
    omega
  have htwo :
      cipher.blockSize * 2 ≤ (payload.length / cipher.blockSize + 2) * cipher.blockSize := by
    rw [mul_comm]
    exact Nat.mul_le_mul_right _ (Nat.le_add_left 2 _)
  dsimp only
  rw [hblocks, take_left' hiv, drop_left' hiv, length_append, hiv, hencrypted,
    Nat.mul_div_cancel _ hpos]
  refine ⟨rfl, ?_, ?_⟩
  · rw [hnext, Nat.mul_mod_left]
    omega
  · rw [cbcDecrypt_cbcEncrypt cipher _ _ _ hiv hpadded]
    exact pkcs7Unpad_padded payload hpos cipher.blockSize_lt

/-- The length of a payload under a cipher, behind its initialization vector. -/
def protectedLength (cipherBlock : Option BlockCipher) (plainLength : Nat) : Nat :=
  match cipherBlock with
  | none => plainLength
  | some cipher => cipher.blockSize + (plainLength / cipher.blockSize + 1) * cipher.blockSize

/-- A payload in chaining mode behind its initialization vector, or as it is without a
    cipher.  `random` stands for `rand.Read`. -/
def protectCBC (cipherBlock : Option BlockCipher) (random : (count : Nat) → List.Vector UInt8 count)
    (plainPayload : Bytes) : Except String Bytes :=
  match cipherBlock with
  | none => .ok plainPayload
  | some cipher => do
    let paddedPayload ← pkcs7Pad plainPayload cipher.blockSize
    let initializationVector := (random cipher.blockSize).toList
    return initializationVector ++
      cbcEncrypt cipher (paddedPayload.length / cipher.blockSize) initializationVector paddedPayload

/-- The way back, with the error of a payload that is not made of blocks. -/
def openCBC (cipherBlock : Option BlockCipher) (invalid : String) (protectedPayload : Bytes) :
    Except String Bytes :=
  match cipherBlock with
  | none => .ok protectedPayload
  | some cipher =>
    if protectedPayload.length < cipher.blockSize * 2 ∨
        protectedPayload.length % cipher.blockSize ≠ 0 then .error invalid
    else
      let initializationVector := protectedPayload.take cipher.blockSize
      let cipherPayload := protectedPayload.drop cipher.blockSize
      pkcs7Unpad (cbcDecrypt cipher (cipherPayload.length / cipher.blockSize) initializationVector
        cipherPayload) cipher.blockSize

theorem protectCBC_spec (cipherBlock : Option BlockCipher)
    (random : (count : Nat) → List.Vector UInt8 count) (plain : Bytes) :
    ∃ protectedPayload, protectCBC cipherBlock random plain = .ok protectedPayload ∧
      protectedPayload.length = protectedLength cipherBlock plain.length ∧
      ∀ invalid, openCBC cipherBlock invalid protectedPayload = .ok plain := by
  cases cipherBlock with
  | none => exact ⟨plain, rfl, rfl, fun _ => rfl⟩
  | some cipher =>
    obtain ⟨hlength, hblocks, hopen⟩ := cbc_padded cipher (random cipher.blockSize) plain
    refine ⟨_, ?_, hlength, fun invalid => ?_⟩
    · simp only [protectCBC, pkcs7Pad, if_neg (ne_of_gt cipher.blockSize_pos)]
      rfl
    · exact (if_neg hblocks).trans hopen

/-! ### MACs in front of a payload -/

variable (crypto : CryptoPrimitives)

/-- The MAC in front of a protected payload, if there is one. -/
def sealTLSMAC (hash : Option HashName) (sendHMACKey : Bytes)
    (protectedPayload : Bytes) : Bytes :=
  match hash with
  | none => protectedPayload
  | some hash => crypto.hmac hash sendHMACKey protectedPayload ++ protectedPayload

def macSize (hash : Option HashName) : Nat := (hash.map HashName.size).getD 0

theorem length_sealTLSMAC (hash : Option HashName)
    (sendHMACKey protectedPayload : Bytes) :
    (sealTLSMAC crypto hash sendHMACKey protectedPayload).length =
      macSize hash + protectedPayload.length := by
  cases hash with
  | none => simp [sealTLSMAC, macSize]
  | some hash => simp [sealTLSMAC, macSize, crypto.length_hmac]

/-- The check of a MAC in front of a payload, with its errors. -/
def openTLSMAC (hash : Option HashName) (receiveHMACKey : Bytes)
    (tooShort mismatch : String) (payload : Bytes) : Except String Bytes :=
  match hash with
  | none => .ok payload
  | some hash =>
    if payload.length < hash.size then .error tooShort
    else if payload.take hash.size ≠ crypto.hmac hash receiveHMACKey (payload.drop hash.size) then
      .error mismatch
    else .ok (payload.drop hash.size)

theorem openTLSMAC_sealTLSMAC (hash : Option HashName) (key : Bytes) (tooShort mismatch : String)
    (protectedPayload : Bytes) :
    openTLSMAC crypto hash key tooShort mismatch (sealTLSMAC crypto hash key protectedPayload) =
      .ok protectedPayload := by
  cases hash with
  | none => rfl
  | some hash =>
    have hmac := crypto.length_hmac hash key protectedPayload
    have hsealed : sealTLSMAC crypto (some hash) key protectedPayload =
        crypto.hmac hash key protectedPayload ++ protectedPayload := rfl
    rw [hsealed, openTLSMAC, if_neg (by simp [hmac]), take_left' hmac, drop_left' hmac,
      if_neg (by simp)]

/-! ### The static-key data codec -/

structure StaticKeyDecodeCandidate where
  cipherBlock : Option BlockCipher
  hmacKey : Bytes

structure StaticKeyDataCodec where
  sendCipherBlock : Option BlockCipher
  sendHMACKey : Bytes
  receiveCandidates : List StaticKeyDecodeCandidate
  hash : Option HashName
  sendTimestamp : UInt32
  replayWindow : ReplayWindow

namespace StaticKeyDataCodec

variable (crypto : CryptoPrimitives) (c : StaticKeyDataCodec)

def encodedLength (payloadLength : Nat) : Nat :=
  macSize c.hash + protectedLength c.sendCipherBlock (8 + payloadLength)

def plainPayload (packetID timestamp : UInt32) (payload : Bytes) : Bytes :=
  putBE 4 packetID.toNat ++ putBE 4 timestamp.toNat ++ payload

def encode (random : (count : Nat) → List.Vector UInt8 count)
    (packetID : UInt32) (payload : Bytes) : Except String Bytes := do
  if packetID = 0 then throw "invalid static key packet id"
  let protectedPayload ← protectCBC c.sendCipherBlock random
    (plainPayload packetID c.sendTimestamp payload)
  return sealTLSMAC crypto c.hash c.sendHMACKey protectedPayload

/-- `decodeWithCandidate`: packet id, timestamp and payload. -/
def decodeWithCandidate (payload : Bytes)
    (candidate : StaticKeyDecodeCandidate) : Except String (Nat × Nat × Bytes) := do
  let protectedPayload ← openTLSMAC crypto c.hash candidate.hmacKey "invalid static key payload"
    "invalid static key payload hmac" payload
  let plainPayload ← openCBC candidate.cipherBlock "invalid static key payload" protectedPayload
  if plainPayload.length < 8 then throw "invalid static key payload"
  let packetID := getBE (plainPayload.take 4)
  if packetID = 0 then throw "invalid static key packet id"
  return (packetID, getBE ((plainPayload.drop 4).take 4), plainPayload.drop 8)

/-- The loop of `Decode` over the candidates; `decodeError` is the error of the
    candidate before. -/
def decodeLoop (c : StaticKeyDataCodec) (payload : Bytes) (now arrival : Time) :
    String → List StaticKeyDecodeCandidate → Except String (Nat × Bytes) × StaticKeyDataCodec
  | decodeError, [] => (.error decodeError, c)
  | _, candidate :: candidates =>
    match c.decodeWithCandidate crypto payload candidate with
    | .ok (packetID, packetTimestamp, decodedPayload) =>
      let (accepted, replayWindow) :=
        c.replayWindow.acceptLongForm packetID packetTimestamp now arrival
      if accepted then
        (.ok (packetID, decodedPayload), { c with replayWindow := replayWindow })
      else
        (.error "replayed static key data packet", { c with replayWindow := replayWindow })
    | .error decodeError => decodeLoop c payload now arrival decodeError candidates

def decode (payload : Bytes) (now arrival : Time) :
    Except String (Nat × Bytes) × StaticKeyDataCodec :=
  c.decodeLoop crypto payload now arrival "invalid static key payload" c.receiveCandidates

theorem encode_eq_ok {c : StaticKeyDataCodec} {random : (count : Nat) → List.Vector UInt8 count}
    {packetID : UInt32} {payload packet : Bytes}
    (h : c.encode crypto random packetID payload = .ok packet) :
    packetID ≠ 0 ∧ ∃ protectedPayload,
      protectCBC c.sendCipherBlock random (plainPayload packetID c.sendTimestamp payload) =
        .ok protectedPayload ∧
      packet = sealTLSMAC crypto c.hash c.sendHMACKey protectedPayload := by
  rw [encode] at h
  by_cases hzero : packetID = 0
  · rw [if_pos hzero] at h
    cases h
  rw [if_neg hzero] at h
  obtain ⟨protectedPayload, hprotect, hresult⟩ := bind_eq_ok.mp h
  cases hresult
  exact ⟨hzero, protectedPayload, hprotect, rfl⟩

theorem plainPayload_fields (packetID timestamp : UInt32) (payload : Bytes) :
    (plainPayload packetID timestamp payload).length = 8 + payload.length ∧
    (plainPayload packetID timestamp payload).take 4 = putBE 4 packetID.toNat ∧
    ((plainPayload packetID timestamp payload).drop 4).take 4 = putBE 4 timestamp.toNat ∧
    (plainPayload packetID timestamp payload).drop 8 = payload := by
  refine ⟨?_, ?_, ?_, ?_⟩
  · simp only [plainPayload, length_append, length_putBE]
  · rw [plainPayload, append_assoc]
    exact take_left' (by simp)
  · exact take_left' (by simp)
  · exact drop_left' (by simp)

/-- Under the send slot of `c` any codec with its hash reads a packet of `c` back. -/
theorem decodeWithCandidate_encode {c peer : StaticKeyDataCodec} (hhash : peer.hash = c.hash)
    {random : (count : Nat) → List.Vector UInt8 count} {packetID : UInt32}
    {payload packet : Bytes} (h : c.encode crypto random packetID payload = .ok packet) :
    peer.decodeWithCandidate crypto packet ⟨c.sendCipherBlock, c.sendHMACKey⟩ =
      .ok (packetID.toNat, c.sendTimestamp.toNat, payload) := by
  obtain ⟨hzero, protectedPayload, hprotect, rfl⟩ := encode_eq_ok crypto h
  obtain ⟨_, hprotect', -, hcipher⟩ :=
    protectCBC_spec c.sendCipherBlock random (plainPayload packetID c.sendTimestamp payload)
  obtain rfl := Except.ok.inj (hprotect.symm.trans hprotect')
  have hid : ¬ packetID.toNat = 0 := fun heq => hzero (UInt32.toNat_inj.mp heq)
  obtain ⟨hlength, htake, htime, hdrop⟩ := plainPayload_fields packetID c.sendTimestamp payload
  simp only [decodeWithCandidate, hhash, openTLSMAC_sealTLSMAC, hcipher, bind, Except.bind,
    hlength, htake, htime, hdrop, getBE_putBE_uint32]
  rw [if_neg (by omega), if_neg hid]
  rfl

end StaticKeyDataCodec

def macKey (staticKeyMaterial : StaticKeyMaterial) (hash : HashName) (slotIndex : Fin 2) : Bytes :=
  (splitStaticKeyMaterial staticKeyMaterial slotIndex).hmacKey.take hash.size

/-- The MACs of the two slots never agree, whatever they are taken over. -/
def SlotsSeparated (hash : HashName)
    (staticKeyMaterial : StaticKeyMaterial) : Prop :=
  ∀ left right, crypto.hmac hash (macKey staticKeyMaterial hash 0) left ≠
    crypto.hmac hash (macKey staticKeyMaterial hash 1) right

/-- `newStaticKeyDataCodec` on loaded key material; `timestamp` is the time of
    the call in seconds. -/
def newStaticKeyDataCodec (staticKeyMaterial : StaticKeyMaterial)
    (keyDirection : Int) (cipherName authName : String) (replayWindowSize : Nat)
    (replayWindowTime : Duration) (timestamp : UInt32) : Except String StaticKeyDataCodec := do
  let cipherKeySize ← staticCipherKeySize cipherName
  let hash ← staticHMACFactory authName
  let keySlots := splitStaticKeyMaterial staticKeyMaterial
  let slotHMACKey := fun slotIndex =>
    (hash.map fun hash => macKey staticKeyMaterial hash slotIndex).getD []
  let sendCipherBlock ← newStaticCipherBlock crypto cipherName
    (keySlots (sendSlotIndex keyDirection)).cipherKey cipherKeySize
  let receiveCandidates ← (receiveSlotIndexes keyDirection).mapM fun slotIndex => do
    let cipherBlock ← newStaticCipherBlock crypto cipherName (keySlots slotIndex).cipherKey
      cipherKeySize
    return ⟨cipherBlock, slotHMACKey slotIndex⟩
  return {
    sendCipherBlock := sendCipherBlock
    sendHMACKey := slotHMACKey (sendSlotIndex keyDirection)
    receiveCandidates := receiveCandidates
    hash := hash
    sendTimestamp := timestamp
    replayWindow := newReplayWindow replayWindowSize replayWindowTime }

end SingOpenVPN
