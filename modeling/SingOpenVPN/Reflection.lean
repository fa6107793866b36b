import SingOpenVPN.ControlWrap

/-!
# Reflected packets

Two slots and a direction are there so that a packet sent back to its sender
does not authenticate.  `resolveStaticKeyDirection` returns, for an explicit
direction, the send slot as the slot to try after the receive slot, so each of
the three codecs accepts its own packets whenever its replay window has no
objection.

The three `decode_encode` lemmas say what decoding one's own packet does: it ends
in the replay check, for every content and every state of the counters and the
window.  MACs under the two slots are assumed never to agree (`SlotsSeparated`).
-/

namespace SingOpenVPN

open ByteCodec BlockModes List StaticKeyDataCodec

/-! ### Directions and slots -/

theorem SlotsSeparated.ne {crypto : CryptoPrimitives} {hash : HashName}
    {staticKeyMaterial : StaticKeyMaterial} (h : SlotsSeparated crypto hash staticKeyMaterial)
    {own other : Fin 2} (hne : own ≠ other) (left right : Bytes) :
    crypto.hmac hash (macKey staticKeyMaterial hash own) left ≠
      crypto.hmac hash (macKey staticKeyMaterial hash other) right := by
  match own, other with
  | 0, 0 => exact absurd rfl hne
  | 0, 1 => exact h left right
  | 1, 0 => exact (h right left).symm
  | 1, 1 => exact absurd rfl hne

/-- With an explicit direction a side tries the peer's slot first and its own
    second. -/
theorem receiveSlotIndexes_explicit {keyDirection : Int} (h : keyDirection = 0 ∨ keyDirection = 1) :
    ∃ other, sendSlotIndex keyDirection ≠ other ∧
      receiveSlotIndexes keyDirection = [other, sendSlotIndex keyDirection] := by
  rcases h with rfl | rfl
  · exact ⟨1, by decide, by decide⟩
  · exact ⟨0, by decide, by decide⟩

/-- A replay check that decides alone refuses without a trace exactly when it
    answers no and leaves the window as it was. -/
theorem refused_iff {α : Type} (answer : Bool × ReplayWindow) (value : α) (w : ReplayWindow) :
    ((if answer.1 then some value else none) = none ∧ answer.2 = w) ↔ answer = (false, w) := by
  obtain ⟨accepted, w'⟩ := answer
  cases accepted <;> simp

/-- A control packet that a codec passes through unwrapped when it is short, and decodes up to the
    replay check otherwise. -/
theorem refused_iff_of_decoded {γ : Type} (receiveState : γ → ReplayWindow)
    {decoded : Option Bytes × γ} {rawPacket : Bytes} {answer : Bool × ReplayWindow}
    {w : ReplayWindow}
    (hshort : rawPacket.length < tlsControlHeaderLength →
      decoded.1 = none ∧ receiveState decoded.2 = w)
    (hlong : tlsControlHeaderLength ≤ rawPacket.length → ∃ c,
      decoded = (if answer.1 then some rawPacket else none, c) ∧ receiveState c = answer.2) :
    (decoded.1 = none ∧ receiveState decoded.2 = w) ↔
      (rawPacket.length < tlsControlHeaderLength ∨ answer = (false, w)) := by
  rcases lt_or_ge rawPacket.length tlsControlHeaderLength with hlength | hlength
  · exact iff_of_true (hshort hlength) (.inl hlength)
  · obtain ⟨c, rfl, hwindow⟩ := hlong hlength
    rw [hwindow, refused_iff answer rawPacket w, or_iff_right (Nat.not_lt.mpr hlength)]

/-! ### The static-key data codec -/

section StaticKey

variable (crypto : CryptoPrimitives)

variable {packet payload : Bytes} {hash : HashName} {c : StaticKeyDataCodec} {packetID : UInt32}

theorem StaticKeyDataCodec.encode_mac (hhash : c.hash = some hash)
    {random : (count : Nat) → List.Vector UInt8 count}
    (hencode : c.encode crypto random packetID payload = .ok packet) :
    ∃ protectedPayload, packet =
      crypto.hmac hash c.sendHMACKey protectedPayload ++ protectedPayload := by
  obtain ⟨-, protectedPayload, -, rfl⟩ := encode_eq_ok crypto hencode
  exact ⟨protectedPayload, by rw [hhash]; rfl⟩

variable {other : StaticKeyDecodeCandidate}

section

variable (hhash : c.hash = some hash)
  (hcandidates : c.receiveCandidates = [other, ⟨c.sendCipherBlock, c.sendHMACKey⟩])
  (hseparated : ∀ left right,
    crypto.hmac hash c.sendHMACKey left ≠ crypto.hmac hash other.hmacKey right)
  {random : (count : Nat) → List.Vector UInt8 count}
  (hencode : c.encode crypto random packetID payload = .ok packet) (w : ReplayWindow)
  (now arrival : Time)

include hhash hcandidates hseparated hencode

theorem StaticKeyDataCodec.decode_encode :
    { c with replayWindow := w }.decode crypto packet now arrival =
      let answer := w.acceptLongForm packetID.toNat c.sendTimestamp.toNat now arrival
      (if answer.1 then .ok (packetID.toNat, payload) else .error "replayed static key data packet",
        { c with replayWindow := answer.2 }) := by
  obtain ⟨protectedPayload, hpacket⟩ := encode_mac crypto hhash hencode
  have hown := @decodeWithCandidate_encode crypto c c rfl _ _ _ _ hencode
  have hmac := crypto.length_hmac hash c.sendHMACKey protectedPayload
  have hother : c.decodeWithCandidate crypto packet other =
      .error "invalid static key payload hmac" := by
    have hopen : openTLSMAC crypto c.hash other.hmacKey "invalid static key payload"
        "invalid static key payload hmac" packet = .error "invalid static key payload hmac" := by
      simp only [openTLSMAC, hhash, hpacket]
      rw [if_neg (by simp [hmac]), take_left' hmac, drop_left' hmac,
        if_pos (hseparated _ _)]
    rw [decodeWithCandidate, hopen]
    rfl
  -- the window is not consulted before a candidate has verified
  have hsame :
      ∀ candidate, { c with replayWindow := w }.decodeWithCandidate crypto packet candidate =
      c.decodeWithCandidate crypto packet candidate := fun _ => rfl
  have hdecode : { c with replayWindow := w }.decode crypto packet now arrival =
      { c with replayWindow := w }.decodeLoop crypto packet now arrival
        "invalid static key payload" [other, ⟨c.sendCipherBlock, c.sendHMACKey⟩] := by
    rw [← hcandidates]
    rfl
  rw [hdecode, decodeLoop, hsame, hother]
  dsimp only
  rw [decodeLoop, hsame, hown]
  dsimp only
  split <;> rfl

theorem StaticKeyDataCodec.reflected_iff :
    (({ c with replayWindow := w }.decode crypto packet now arrival).1.toOption = none ∧
      ({ c with replayWindow := w }.decode crypto packet now arrival).2.replayWindow = w) ↔
    w.acceptLongForm packetID.toNat c.sendTimestamp.toNat now arrival = (false, w) := by
  rw [decode_encode crypto hhash hcandidates hseparated hencode]
  dsimp only
  rw [← refused_iff _ (packetID.toNat, payload) w]
  split <;> simp [Except.toOption]

end

end StaticKey

/-! ### The keys the constructors choose -/

section Constructors

variable {crypto : CryptoPrimitives} {staticKeyMaterial : StaticKeyMaterial} {keyDirection : Int}

variable {authName : String}

theorem newControlAuthCodecWithAuth_keys (hdirection : keyDirection = 0 ∨ keyDirection = 1)
    {c : ControlAuthCodec}
    (h : newControlAuthCodecWithAuth staticKeyMaterial keyDirection authName = .ok c) :
    ∃ other, sendSlotIndex keyDirection ≠ other ∧
      c.sendKey = macKey staticKeyMaterial c.hash (sendSlotIndex keyDirection) ∧
      c.receiveKeys = [macKey staticKeyMaterial c.hash other, c.sendKey] := by
  obtain ⟨other, hne, hslots⟩ := receiveSlotIndexes_explicit hdirection
  obtain ⟨hash, -, hresult⟩ := bind_eq_ok.mp h
  cases hash with
  | none => cases hresult
  | some hash =>
    cases hresult
    refine ⟨other, hne, rfl, ?_⟩
    simp only [hslots, map_cons, map_nil]

theorem newControlCryptKeys_authKey {slotIndex : Fin 2} {candidate : ControlCryptCandidate}
    (h : newControlCryptKeys crypto (splitStaticKeyMaterial staticKeyMaterial slotIndex) =
      .ok candidate) :
    candidate.authKey = macKey staticKeyMaterial .sha256 slotIndex := by
  unfold newControlCryptKeys at h
  split at h
  · cases h
  · cases h
    rfl

theorem newControlCryptCodecFromMaterial_keys (hdirection : keyDirection = 0 ∨ keyDirection = 1)
    {c : ControlCryptCodec}
    (h : newControlCryptCodecFromMaterial crypto staticKeyMaterial keyDirection = .ok c) :
    ∃ (otherSlot : Fin 2) (other : ControlCryptCandidate), sendSlotIndex keyDirection ≠ otherSlot ∧
      c.sendAuthKey = macKey staticKeyMaterial .sha256 (sendSlotIndex keyDirection) ∧
      other.authKey = macKey staticKeyMaterial .sha256 otherSlot ∧
      c.receiveCandidates = [other, ⟨c.sendEncryptBlock, c.sendAuthKey⟩] := by
  obtain ⟨otherSlot, hne, hslots⟩ := receiveSlotIndexes_explicit hdirection
  obtain ⟨send, hsend, hrest⟩ := bind_eq_ok.mp h
  obtain ⟨receiveCandidates, hcandidates, hresult⟩ := bind_eq_ok.mp hrest
  rw [hslots, mapM_cons, mapM_cons, mapM_nil] at hcandidates
  obtain ⟨other, hother, htail⟩ := bind_eq_ok.mp hcandidates
  obtain ⟨own, hown, hlist⟩ := bind_eq_ok.mp htail
  cases hresult
  refine ⟨otherSlot, other, hne, newControlCryptKeys_authKey hsend,
    newControlCryptKeys_authKey hother, ?_⟩
  -- the own slot gives the candidate it sends with
  rw [hsend] at hown
  cases hown
  cases hlist
  rfl

variable {time : Duration} {size : Nat} {cipherName : String} {timestamp : UInt32}

theorem newStaticKeyDataCodec_keys (hdirection : keyDirection = 0 ∨ keyDirection = 1)
    {hash : HashName} (hauth : staticHMACFactory authName = .ok (some hash))
    {c : StaticKeyDataCodec}
    (h : newStaticKeyDataCodec crypto staticKeyMaterial keyDirection cipherName authName size time
      timestamp = .ok c) :
    ∃ (otherSlot : Fin 2) (other : StaticKeyDecodeCandidate),
      sendSlotIndex keyDirection ≠ otherSlot ∧ c.hash = some hash ∧
      c.sendHMACKey = macKey staticKeyMaterial hash (sendSlotIndex keyDirection) ∧
      other.hmacKey = macKey staticKeyMaterial hash otherSlot ∧
      c.receiveCandidates = [other, ⟨c.sendCipherBlock, c.sendHMACKey⟩] := by
  obtain ⟨otherSlot, hne, hslots⟩ := receiveSlotIndexes_explicit hdirection
  obtain ⟨cipherKeySize, -, hafterSize⟩ := bind_eq_ok.mp h
  obtain ⟨chosen, hchosen, hafterHash⟩ := bind_eq_ok.mp hafterSize
  rw [hauth] at hchosen
  cases hchosen
  obtain ⟨sendCipherBlock, hsend, hafterSend⟩ := bind_eq_ok.mp hafterHash
  obtain ⟨receiveCandidates, hcandidates, hresult⟩ := bind_eq_ok.mp hafterSend
  rw [hslots, mapM_cons, mapM_cons, mapM_nil] at hcandidates
  obtain ⟨other, hother, htail⟩ := bind_eq_ok.mp hcandidates
  obtain ⟨own, hown, hlist⟩ := bind_eq_ok.mp htail
  obtain ⟨otherBlock, -, hotherResult⟩ := bind_eq_ok.mp hother
  obtain ⟨ownBlock, hownBlock, hownResult⟩ := bind_eq_ok.mp hown
  cases hresult
  cases hotherResult
  cases hownResult
  cases hlist
  rw [hsend] at hownBlock
  cases hownBlock
  exact ⟨otherSlot, _, hne, rfl, rfl, rfl, rfl⟩

theorem newStaticKeyDataCodec_sendTimestamp {c : StaticKeyDataCodec}
    (h : newStaticKeyDataCodec crypto staticKeyMaterial keyDirection cipherName authName size time
      timestamp = .ok c) : c.sendTimestamp = timestamp := by
  obtain ⟨cipherKeySize, -, hafterSize⟩ := bind_eq_ok.mp h
  obtain ⟨hash, -, hafterHash⟩ := bind_eq_ok.mp hafterSize
  obtain ⟨sendCipherBlock, -, hafterSend⟩ := bind_eq_ok.mp hafterHash
  obtain ⟨receiveCandidates, -, hresult⟩ := bind_eq_ok.mp hafterSend
  cases hresult
  rfl

end Constructors

/-! ### Reflection -/

/-- **When a reflected packet is refused.**  A codec with an explicit direction is
    given a packet it encoded at any earlier point, with any state of the counters
    and of the replay window.  It refuses the packet and leaves the window as it was
    exactly when the control packet was too short to be wrapped or the replay window
    itself refuses the id: the directions contribute nothing. -/
theorem reflected_packet_refused_iff (crypto : CryptoPrimitives)
    (staticKeyMaterial : StaticKeyMaterial) (keyDirection : Int)
    (hdirection : keyDirection = 0 ∨ keyDirection = 1) :
    (∀ authName c, newControlAuthCodecWithAuth staticKeyMaterial keyDirection authName = .ok c →
      SlotsSeparated crypto c.hash staticKeyMaterial →
      ∀ (sendState later : TLSPacketIDState) (w : ReplayWindow) (rawPacket : Bytes)
        (first wrapped : UInt32) (now arrival : Time),
      let packet := ({ c with sendState := sendState }.encodeControlPacket crypto rawPacket
        first wrapped).1
      let decoded := { c with sendState := later, receiveState := w }.decodeControlPacket crypto
        packet now arrival
      (decoded.1 = none ∧ decoded.2.receiveState = w) ↔
        (rawPacket.length < tlsControlHeaderLength ∨
          w.acceptLongForm (sendState.next first wrapped).nextID.toNat
            (sendState.next first wrapped).timestamp.toNat now arrival = (false, w))) ∧
    (∀ c, newControlCryptCodecFromMaterial crypto staticKeyMaterial keyDirection = .ok c →
      SlotsSeparated crypto .sha256 staticKeyMaterial →
      ∀ (sendState later : TLSPacketIDState) (w : ReplayWindow) (rawPacket : Bytes)
        (first wrapped : UInt32) (now arrival : Time),
      let packet := ({ c with sendState := sendState }.encodeControlPacket crypto rawPacket
        first wrapped).1
      let decoded := { c with sendState := later, receiveState := w }.decodeControlPacket crypto
        packet now arrival
      (decoded.1 = none ∧ decoded.2.receiveState = w) ↔
        (rawPacket.length < tlsControlHeaderLength ∨
          w.acceptLongForm (sendState.next first wrapped).nextID.toNat
            (sendState.next first wrapped).timestamp.toNat now arrival = (false, w))) ∧
    (∀ cipherName authName hash size time timestamp c,
      staticHMACFactory authName = .ok (some hash) →
      newStaticKeyDataCodec crypto staticKeyMaterial keyDirection cipherName authName size time
        timestamp = .ok c →
      SlotsSeparated crypto hash staticKeyMaterial →
      ∀ (w : ReplayWindow) (random : (count : Nat) → List.Vector UInt8 count) (packetID : UInt32)
        (payload packet : Bytes) (now arrival : Time),
      c.encode crypto random packetID payload = .ok packet →
      let decoded := { c with replayWindow := w }.decode crypto packet now arrival
      (decoded.1.toOption = none ∧ decoded.2.replayWindow = w) ↔
        w.acceptLongForm packetID.toNat timestamp.toNat now arrival = (false, w)) := by
  refine ⟨?_, ?_, ?_⟩
  · intro authName c hnew hseparated sendState later w rawPacket first wrapped now arrival
    obtain ⟨other, hne, hsend, hkeys⟩ := newControlAuthCodecWithAuth_keys hdirection hnew
    -- the peer's slot does not verify, the own slot does
    have hskipped : ∀ key ∈ [macKey staticKeyMaterial c.hash other], ∀ left right,
        crypto.hmac c.hash c.sendKey left ≠ crypto.hmac c.hash key right :=
      forall_mem_singleton.mpr fun left right => hsend ▸ hseparated.ne hne left right
    apply refused_iff_of_decoded ControlAuthCodec.receiveState
    · intro hshort
      rw [ControlAuthCodec.encodeControlPacket, if_pos hshort,
        ControlAuthCodec.decodeControlPacket, if_pos (by dsimp only; omega)]
      exact ⟨rfl, rfl⟩
    · intro hlong
      have hslots : { c with sendState := later, receiveState := w }.receiveKeys =
          [macKey staticKeyMaterial c.hash other] ++ c.sendKey :: [] := hkeys
      have hhash : { c with sendState := later, receiveState := w }.hash = c.hash := rfl
      exact ⟨_, ControlAuthCodec.decode_encode_peer (c := { c with sendState := sendState }) crypto
        hhash hslots hskipped hlong first wrapped now arrival, rfl⟩
  · intro c hnew hseparated sendState later w rawPacket first wrapped now arrival
    obtain ⟨otherSlot, other, hne, hsend, hother, hcandidates⟩ :=
      newControlCryptCodecFromMaterial_keys hdirection hnew
    have hskipped : ∀ candidate ∈ [other], ∀ left right,
        crypto.hmac .sha256 c.sendAuthKey left ≠ crypto.hmac .sha256 candidate.authKey right :=
      forall_mem_singleton.mpr fun left right =>
        hother ▸ hsend ▸ hseparated.ne hne left right
    apply refused_iff_of_decoded ControlCryptCodec.receiveState
    · intro hshort
      rw [ControlCryptCodec.encodeControlPacket, if_pos hshort,
        ControlCryptCodec.decodeControlPacket, if_pos (by dsimp only; omega)]
      exact ⟨rfl, rfl⟩
    · intro hlong
      have hslots : { c with sendState := later, receiveState := w }.receiveCandidates =
          [other] ++ ⟨c.sendEncryptBlock, c.sendAuthKey⟩ :: [] := hcandidates
      exact ⟨_, ControlCryptCodec.decode_encode_peer (c := { c with sendState := sendState }) crypto
        hslots hskipped hlong first wrapped now arrival, rfl⟩
  · intro cipherName authName hash size time timestamp c hauth hnew hseparated w random packetID
      payload packet now arrival hencode
    obtain ⟨otherSlot, other, hne, hhash, hsend, hother, hcandidates⟩ :=
      newStaticKeyDataCodec_keys hdirection hauth hnew
    rw [← newStaticKeyDataCodec_sendTimestamp hnew]
    exact StaticKeyDataCodec.reflected_iff crypto hhash hcandidates (fun left right => by
      rw [hother, hsend]
      exact hseparated.ne hne left right) hencode w now arrival

/-- Primitives whose MAC repeats the first byte of its key and whose cipher is the
    identity, for runs that can be evaluated. -/
def firstBytePrimitives : CryptoPrimitives where
  hmac hash key _ := List.replicate hash.size (key.headD 0)
  newCipher _ _ := some {
    blockSize := 16
    encrypt := id
    decrypt := id
    blockSize_pos := by decide
    blockSize_lt := by decide
    length_encrypt := fun _ h => h
    length_decrypt := fun _ h => h
    decrypt_encrypt := fun _ _ => rfl }
  length_hmac _ _ _ := List.length_replicate

/-- Key material whose first slot is all zeros and whose second is all ones. -/
def zeroOneKeyMaterial : StaticKeyMaterial :=
  ⟨List.replicate 128 0 ++ List.replicate 128 1, by
    rw [List.length_append, List.length_replicate, List.length_replicate]⟩

theorem slotsSeparated_zeroOne (hash : HashName) :
    SlotsSeparated firstBytePrimitives hash zeroOneKeyMaterial := by
  intro left right
  -- the MAC does not look at its message
  show firstBytePrimitives.hmac hash (macKey zeroOneKeyMaterial hash 0) [] ≠
    firstBytePrimitives.hmac hash (macKey zeroOneKeyMaterial hash 1) []
  cases hash <;> decide +kernel

/-- A fresh codec of each kind accepts its first own packet. -/
theorem reflected_packet_accepted :
    (∀ hash, SlotsSeparated firstBytePrimitives hash zeroOneKeyMaterial) ∧
    (∃ c, newControlAuthCodecWithAuth zeroOneKeyMaterial 0 "SHA1" = .ok c ∧
      (c.decodeControlPacket firstBytePrimitives (c.encodeControlPacket firstBytePrimitives
        (List.replicate 9 7) 1 1).1 0 0).1 = some (List.replicate 9 7)) ∧
    (∃ c, newControlCryptCodecFromMaterial firstBytePrimitives zeroOneKeyMaterial 0 = .ok c ∧
      (c.decodeControlPacket firstBytePrimitives (c.encodeControlPacket firstBytePrimitives
        (List.replicate 9 7) 1 1).1 0 0).1 = some (List.replicate 9 7)) ∧
    (∃ c packet, newStaticKeyDataCodec firstBytePrimitives zeroOneKeyMaterial 0 "AES-128-CBC" "SHA1"
        64 0 1 = .ok c ∧
      c.encode firstBytePrimitives (fun count => List.Vector.replicate count 0) 1 [7] = .ok packet ∧
      (c.decode firstBytePrimitives packet 0 0).1.toOption = some (1, [7])) := by
  refine ⟨slotsSeparated_zeroOne, ⟨_, rfl, by decide +kernel⟩, ⟨_, rfl, by decide +kernel⟩,
    ⟨_, _, rfl, rfl, by decide +kernel⟩⟩

theorem reflected_packet_refused_iff_zeroOne :
    (∃ c, newControlAuthCodecWithAuth zeroOneKeyMaterial 0 "SHA1" = .ok c ∧
      let decoded := c.decodeControlPacket firstBytePrimitives
        (c.encodeControlPacket firstBytePrimitives (List.replicate 9 7) 1 1).1 0 0
      ¬ (decoded.1 = none ∧ decoded.2.receiveState = c.receiveState)) ∧
    (∃ c, newControlCryptCodecFromMaterial firstBytePrimitives zeroOneKeyMaterial 1 = .ok c ∧
      let decoded := c.decodeControlPacket firstBytePrimitives
        (c.encodeControlPacket firstBytePrimitives (List.replicate 9 7) 1 1).1 0 0
      ¬ (decoded.1 = none ∧ decoded.2.receiveState = c.receiveState)) ∧
    (∃ c packet, newStaticKeyDataCodec firstBytePrimitives zeroOneKeyMaterial 0 "AES-128-CBC" "SHA1"
        64 0 1 = .ok c ∧
      c.encode firstBytePrimitives (fun count => List.Vector.replicate count 0) 1 [7] = .ok packet ∧
      let decoded := c.decode firstBytePrimitives packet 0 0
      ¬ (decoded.1.toOption = none ∧ decoded.2.replayWindow = c.replayWindow)) := by
  refine ⟨⟨_, rfl, fun h => ?_⟩, ⟨_, rfl, fun h => ?_⟩, ⟨_, _, rfl, rfl, fun h => ?_⟩⟩
  · have hrefused := ((reflected_packet_refused_iff firstBytePrimitives zeroOneKeyMaterial 0
      (.inl rfl)).1 "SHA1" _ rfl (slotsSeparated_zeroOne _) _ _ _ _ _ _ _ _).mp h
    exact absurd hrefused (by decide +kernel)
  · have hrefused := ((reflected_packet_refused_iff firstBytePrimitives zeroOneKeyMaterial 1
      (.inr rfl)).2.1 _ rfl (slotsSeparated_zeroOne _) _ _ _ _ _ _ _ _).mp h
    exact absurd hrefused (by decide +kernel)
  · have hrefused := ((reflected_packet_refused_iff firstBytePrimitives zeroOneKeyMaterial 0
      (.inl rfl)).2.2 "AES-128-CBC" "SHA1" .sha1 64 0 1 _ rfl rfl (slotsSeparated_zeroOne _) _
      (fun count => List.Vector.replicate count 0) 1 [7] _ 0 0 rfl).mp h
    exact absurd hrefused (by decide +kernel)

end SingOpenVPN
