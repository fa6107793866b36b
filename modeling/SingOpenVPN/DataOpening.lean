import SingOpenVPN.DataCodec

/-!
# Opening what the opposite role has encoded (`data_codec_aead.go`, `data_codec_cbc.go`,
`data_codec_stream.go`, `data_codec_static.go`)

A codec whose receive keys are the send keys of another one opens its packets: it reads
the packet id, the timestamp where there is one, and the payload.  The packets have the
length `EncodedLength` announces.  Codecs built from the same key material for opposite
roles have each other's keys.
-/

namespace SingOpenVPN

open ByteCodec BlockModes List

/-! ### Sealing and opening in place -/

theorem AEADArrays.write_spec (arrays : AEADArrays) {ivSuffix aadPrefix packetIDBytes : Bytes}
    (hsuffix : ivSuffix.length = 8) (haad : aadPrefix.length ≤ 4)
    (hid : packetIDBytes.length = 4) :
    ∃ written, arrays.write ivSuffix aadPrefix packetIDBytes = some written ∧
      written.nonce.take 12 = packetIDBytes ++ ivSuffix ∧
      written.additionalData.take (aadPrefix.length + 4) = aadPrefix ++ packetIDBytes := by
  have hnonce : packetIDBytes.length + ivSuffix.length ≤ arrays.nonce.length := by
    rw [hid, hsuffix, arrays.length_nonce]
    decide
  have hdata : aadPrefix.length + packetIDBytes.length ≤ arrays.additionalData.length := by
    rw [hid, arrays.length_additionalData]
    omega
  refine ⟨_, dif_pos (by omega), ?_, ?_⟩
  · rw [← take_copyInto_copyInto hnonce, hid, hsuffix]
  · rw [← take_copyInto_copyInto hdata, hid]

namespace DataBuffer

variable (b : DataBuffer)

theorem withRoom_spec : b.withRoom.content = b.content ∧
    encodedHeaderSize ≤ b.withRoom.headroom.length ∧
    tlsDataAEADTagSize ≤ b.withRoom.tailroom.length := by
  unfold withRoom
  split
  · simp
  · next h =>
    rw [not_or, Nat.not_lt, Nat.not_lt] at h
    exact ⟨rfl, h⟩

theorem content_sealed {sealedPayload : Bytes}
    (h : sealedPayload.length ≤ b.content.length + b.tailroom.length) :
    ((b.overwrite sealedPayload).truncate sealedPayload.length).content = sealedPayload := by
  simp only [truncate, overwrite, take_append_drop]
  exact take_copyInto_zero (by rwa [length_append])

theorem content_header {first second : Bytes}
    (h : first.length + second.length ≤ b.headroom.length) :
    copyInto (copyInto (b.extendHeader (first.length + second.length)).content 0 first)
      first.length second = first ++ (second ++ b.content) := by
  have hsize : (b.headroom.drop (b.headroom.length - (first.length + second.length))).length =
      first.length + second.length := by
    rw [length_drop]
    omega
  simp only [extendHeader]
  generalize b.headroom.drop (b.headroom.length - (first.length + second.length)) = header
    at hsize ⊢
  -- the header is cut where the second part will start
  have hcut : header = header.take first.length ++ header.drop first.length :=
    (take_append_drop _ _).symm
  have hfront : first.length = (header.take first.length).length := by
    rw [length_take]
    omega
  have hback : second.length = (header.drop first.length).length := by
    rw [length_drop]
    omega
  have hfirst := copyInto_append [] (header.drop first.length ++ b.content) hfront
  rw [nil_append, ← append_assoc, ← hcut, nil_append, length_nil] at hfirst
  rw [hfirst]
  exact copyInto_append first b.content hback

theorem content_placeSealed {packetIDBytes sealedPayload : Bytes}
    (hheadroom : encodedHeaderSize ≤ b.headroom.length)
    (htailroom : tlsDataAEADTagSize ≤ b.tailroom.length) (hid : packetIDBytes.length = 4)
    (hsealed : sealedPayload.length = b.content.length + tlsDataAEADTagSize) :
    (b.placeSealed packetIDBytes sealedPayload).content =
      packetIDBytes ++ sealedPayload.drop b.content.length ++
        sealedPayload.take b.content.length := by
  have hroom : sealedPayload.length ≤ b.content.length + b.tailroom.length := by omega
  have htag : (sealedPayload.drop b.content.length).length = tlsDataAEADTagSize := by
    rw [length_drop]
    omega
  have hsize : packetIDBytes.length + (sealedPayload.drop b.content.length).length =
      encodedHeaderSize := by rw [hid, htag, encodedHeaderSize]
  have hheader := ((b.overwrite sealedPayload).truncate sealedPayload.length).content_header
    (hsize.trans_le hheadroom)
  rw [hsize, hid, b.content_sealed hroom] at hheader
  simp only [placeSealed, truncate] at hheader ⊢
  rw [hheader, ← hsize, ← length_append, append_assoc, append_assoc, ← append_assoc packetIDBytes,
    take_length_add_append, take_append_of_le_length (by omega)]

end DataBuffer

namespace TLSGCMDataCodec

variable (c : TLSGCMDataCodec) (arrays : AEADArrays) {aadPrefix : Bytes}

theorem encodeBuffer_spec (packetID : UInt32) (haad : aadPrefix.length ≤ 4)
    (payload : DataBuffer) :
    ∃ result arrays', c.encodeBuffer arrays packetID aadPrefix payload = some (result, arrays') ∧
      result.map DataBuffer.content = c.encode packetID aadPrefix payload.content := by
  by_cases hid : packetID = 0
  · exact ⟨_, _, if_pos hid, by simp only [encode, if_pos hid]; rfl⟩
  obtain ⟨written, hwrite, hnonce, hdata⟩ := arrays.write_spec c.length_sendIVSuffix haad
    (length_putBE 4 packetID.toNat)
  obtain ⟨hcontent, hheadroom, htailroom⟩ := payload.withRoom_spec
  generalize hsealed : c.sendAEAD.sealPayload (putBE 4 packetID.toNat ++ c.sendIVSuffix)
    payload.content (aadPrefix ++ putBE 4 packetID.toNat) = sealedPayload
  have hlength : sealedPayload.length = payload.content.length + tlsDataAEADTagSize := by
    rw [← hsealed]
    exact c.sendAEAD.length_sealPayload _ _ _
  refine ⟨.ok (payload.withRoom.placeSealed (putBE 4 packetID.toNat) sealedPayload), written,
    ?_, ?_⟩
  · simp only [encodeBuffer, if_neg hid, hwrite, Option.map_some, hnonce, hdata, hcontent, hsealed]
    rw [if_neg (not_not.mpr hlength)]
  · have hplaced := payload.withRoom.content_placeSealed hheadroom htailroom
      (length_putBE 4 packetID.toNat) (hcontent ▸ hlength)
    simp only [encode, hsealed, if_neg hid]
    rw [if_neg (by omega), hlength, Nat.add_sub_cancel, ← hcontent]
    exact congrArg Except.ok hplaced

theorem decodeInPlace_spec (crypto : DataPrimitives) (haad : aadPrefix.length ≤ 4) (payload : Bytes)
    (now arrival : Time) :
    ∃ arrays', DataCodec.decodeInPlace c arrays aadPrefix payload now arrival =
      some ((DataCodec.gcm c).decodeBuffer crypto aadPrefix payload now arrival, arrays') := by
  by_cases hlength : payload.length < 4 + tlsDataAEADTagSize
  · refine ⟨arrays, ?_⟩
    simp only [DataCodec.decodeInPlace, DataCodec.decodeBuffer, DataCodec.openPacket, openPacket,
      openMoved, if_pos hlength]
    rfl
  · obtain ⟨written, hwrite, hnonce, hdata⟩ := arrays.write_spec c.length_receiveIVSuffix haad
      (length_putBE 4 (getBE (payload.take 4)))
    refine ⟨written, ?_⟩
    simp only [DataCodec.decodeInPlace, if_neg hlength, hwrite, Option.map_some, hnonce, hdata,
      DataCodec.decodeBuffer, DataCodec.openPacket, openPacket]
    cases c.openMoved _ _ payload <;> rfl

end TLSGCMDataCodec

/-! ### What a codec sends, its mirror opens -/

section Open

variable {crypto : CryptoPrimitives} {packetID : UInt32}

theorem TLSGCMDataCodec.openPacket_encode {c peer : TLSGCMDataCodec}
    (haead : peer.receiveAEAD = c.sendAEAD) (hsuffix : peer.receiveIVSuffix = c.sendIVSuffix)
    (hid : packetID ≠ 0) (aadPrefix payload : Bytes) :
    ∃ packet, c.encode packetID aadPrefix payload = .ok packet ∧
      packet.length = encodedLength payload.length ∧
      peer.openPacket aadPrefix packet = .ok (packetID.toNat, payload) := by
  generalize hsealed : c.sendAEAD.sealPayload (putBE 4 packetID.toNat ++ c.sendIVSuffix) payload
    (aadPrefix ++ putBE 4 packetID.toNat) = ciphertext
  have hlength : ciphertext.length = payload.length + tlsDataAEADTagSize := by
    rw [← hsealed]
    exact c.sendAEAD.length_sealPayload _ _ _
  have htag : (ciphertext.drop (ciphertext.length - tlsDataAEADTagSize)).length =
      tlsDataAEADTagSize := by
    rw [length_drop]
    omega
  refine ⟨putBE 4 packetID.toNat ++
    (ciphertext.drop (ciphertext.length - tlsDataAEADTagSize) ++
      ciphertext.take (ciphertext.length - tlsDataAEADTagSize)), ?_, ?_, ?_⟩
  · simp only [encode, hsealed]
    rw [if_neg hid, if_neg (by omega), append_assoc]
    rfl
  · rw [length_append, length_append, htag, length_take, length_putBE, encodedLength]
    omega
  · rw [openPacket_parts (length_putBE 4 _) htag, take_append_drop, haead, hsuffix, ← hsealed,
      c.sendAEAD.openSealed_sealPayload, getBE_putBE_uint32]
    rfl

theorem TLSCBCDataCodec.openPacket_encode {c peer : TLSCBCDataCodec} (hhash : peer.hash = c.hash)
    (hkey : peer.receiveHMACKey = c.sendHMACKey) (hcipher : peer.receiveCipher = c.sendCipherBlock)
    (hid : packetID ≠ 0) (random : (count : Nat) → List.Vector UInt8 count) (payload : Bytes) :
    ∃ packet, c.encode crypto random packetID payload = .ok packet ∧
      packet.length = c.encodedLength payload.length ∧
      peer.openPacket crypto packet = .ok (packetID.toNat, payload) := by
  obtain ⟨protectedPayload, hprotect, hlength, hopen⟩ :=
    protectCBC_spec c.sendCipherBlock random (putBE 4 packetID.toNat ++ payload)
  refine ⟨sealTLSMAC crypto c.hash c.sendHMACKey protectedPayload, ?_, ?_, ?_⟩
  · rw [encode, if_neg hid]
    simp only [hprotect, bind, Except.bind]
    rfl
  · rw [length_sealTLSMAC, hlength, encodedLength, length_append, length_putBE]
  · rw [openPacket, hhash, hkey, hcipher, openTLSMAC_sealTLSMAC]
    simp only [hopen, bind, Except.bind]
    rw [if_neg (by simp), take_left' (length_putBE 4 _), drop_left' (length_putBE 4 _),
      getBE_putBE_uint32]
    rfl

theorem TLSStreamDataCodec.stream_stream {c peer : TLSStreamDataCodec} (hmode : peer.mode = c.mode)
    (block : BlockCipher) {initializationVector : Bytes}
    (hiv : initializationVector.length = block.blockSize) (data : Bytes) :
    peer.stream block initializationVector false (c.stream block initializationVector true data) =
        data ∧
      (c.stream block initializationVector true data).length = data.length := by
  have hcount := length_le_blockCount block data
  cases hc : c.mode with
  | cfb =>
    obtain ⟨hinverse, hlength⟩ := cfbDecrypt_cfbEncrypt block _ _ data hiv hcount
    simp only [stream, hmode, hc, if_true, Bool.false_eq_true, if_false]
    rw [blockCount_congr block hlength]
    exact ⟨hinverse, hlength⟩
  | ofb =>
    obtain ⟨hinverse, hlength⟩ := ofb_ofb block _ _ data hiv hcount
    simp only [stream, hmode, hc]
    rw [blockCount_congr block hlength]
    exact ⟨hinverse, hlength⟩

theorem TLSStreamDataCodec.openPacket_encode {c peer : TLSStreamDataCodec}
    (hhash : peer.hash = c.hash) (hkey : peer.receiveHMACKey = c.sendHMACKey)
    (hcipher : peer.receiveCipher = c.sendCipherBlock) (hmode : peer.mode = c.mode)
    (hblock : 8 ≤ c.sendCipherBlock.blockSize) (hid : packetID ≠ 0) {payload : Bytes}
    (hpayload : payload ≠ []) :
    ∃ packet, c.encode crypto packetID payload = .ok packet ∧
      packet.length = c.encodedLength payload.length ∧
      peer.openPacket crypto packet = .ok (packetID.toNat, c.sendTimestamp.toNat, payload) := by
  generalize hiv : putBE 4 packetID.toNat ++ putBE 4 c.sendTimestamp.toNat ++
    List.replicate (c.sendCipherBlock.blockSize - 8) 0 = initializationVector
  have hivLength : initializationVector.length = c.sendCipherBlock.blockSize := by
    rw [← hiv]
    simp only [length_append, length_putBE, length_replicate]
    omega
  have hfields : initializationVector.take 4 = putBE 4 packetID.toNat ∧
      (initializationVector.drop 4).take 4 = putBE 4 c.sendTimestamp.toNat := by
    rw [← hiv, append_assoc, take_left' (length_putBE 4 _),
      drop_left' (length_putBE 4 _), take_left' (length_putBE 4 _)]
    exact ⟨rfl, rfl⟩
  obtain ⟨hinverse, hlength⟩ := stream_stream hmode c.sendCipherBlock hivLength payload
  have hpositive : 0 < payload.length := length_pos_iff.mpr hpayload
  refine ⟨sealTLSMAC crypto c.hash c.sendHMACKey (initializationVector ++
    c.stream c.sendCipherBlock initializationVector true payload), ?_, ?_, ?_⟩
  · simp only [encode, hiv]
    rw [if_neg hid]
    rfl
  · rw [length_sealTLSMAC, length_append, hivLength, hlength, encodedLength, add_assoc]
  · rw [openPacket, hhash, hkey, openTLSMAC_sealTLSMAC]
    simp only [bind, Except.bind, hcipher]
    rw [if_neg (by rw [length_append, hivLength, hlength]; omega), take_left' hivLength,
      drop_left' hivLength, hfields.1, hfields.2, getBE_putBE_uint32, getBE_putBE_uint32,
      hinverse]
    rfl

theorem StaticKeyDataCodec.encode_spec (c : StaticKeyDataCodec) (hid : packetID ≠ 0)
    (random : (count : Nat) → List.Vector UInt8 count) (payload : Bytes) :
    ∃ packet, c.encode crypto random packetID payload = .ok packet ∧
      packet.length = c.encodedLength payload.length := by
  obtain ⟨protectedPayload, hprotect, hlength, -⟩ :=
    protectCBC_spec c.sendCipherBlock random (plainPayload packetID c.sendTimestamp payload)
  refine ⟨sealTLSMAC crypto c.hash c.sendHMACKey protectedPayload, ?_, ?_⟩
  · rw [encode, if_neg hid]
    simp only [hprotect, bind, Except.bind]
    rfl
  · rw [length_sealTLSMAC, hlength, encodedLength,
      (plainPayload_fields packetID c.sendTimestamp payload).1]

end Open

/-! ### Codecs built for opposite roles -/

section Mirrors

variable {crypto : DataPrimitives} {keyMaterial : Bytes} {server : Bool}
  {cipherName authName : String} {size peerSize : Nat} {time peerTime : Duration}

theorem bind_eq_ok_crossed {ε α β γ : Type} {left right : Except ε α} {f : α → α → Except ε β}
    {g : α → α → Except ε γ} {c : β} {peer : γ} (h : (left >>= fun a => right >>= f a) = .ok c)
    (h' : (right >>= fun b => left >>= g b) = .ok peer) :
    ∃ a b, left = .ok a ∧ f a b = .ok c ∧ g b a = .ok peer := by
  obtain ⟨a, hleft, hrest⟩ := bind_eq_ok.mp h
  obtain ⟨b, hright, hmade⟩ := bind_eq_ok.mp hrest
  rw [hleft, hright] at h'
  exact ⟨a, b, hleft, hmade, h'⟩

theorem tlsDataKeySlots_not (keySlots : Fin 2 → StaticKeySlot) (server : Bool) :
    tlsDataKeySlots keySlots (!server) = (tlsDataKeySlots keySlots server).swap := by
  cases server <;> rfl

variable {cipher : BlockCipher} {c peer : TLSGCMDataCodec} {peerTimestamp timestamp : UInt32}

theorem newTLSGCMDataCodec_mirrors
    (h : newTLSGCMDataCodec crypto keyMaterial server cipherName size time = .ok c)
    (h' : newTLSGCMDataCodec crypto keyMaterial (!server) cipherName peerSize peerTime = .ok peer) :
    peer.receiveAEAD = c.sendAEAD ∧ peer.receiveIVSuffix = c.sendIVSuffix ∧
      peer.replayWindow = newReplayWindow peerSize peerTime := by
  obtain ⟨keySlots, -, hrest, hrest'⟩ := bind_eq_ok_both h h'
  rw [tlsDataKeySlots_not] at hrest'
  obtain ⟨keySize, -, hafterSize, hafterSize'⟩ := bind_eq_ok_both hrest hrest'
  obtain ⟨_, _, -, hblocks, hblocks'⟩ := bind_eq_ok_crossed hafterSize hafterSize'
  obtain ⟨_, _, -, hresult, hresult'⟩ := bind_eq_ok_crossed hblocks hblocks'
  cases hresult
  cases hresult'
  exact ⟨rfl, rfl, rfl⟩

theorem newTLSChaCha20Poly1305DataCodec_mirrors
    (h : newTLSChaCha20Poly1305DataCodec crypto keyMaterial server size time = .ok c)
    (h' : newTLSChaCha20Poly1305DataCodec crypto keyMaterial (!server) peerSize peerTime =
      .ok peer) :
    peer.receiveAEAD = c.sendAEAD ∧ peer.receiveIVSuffix = c.sendIVSuffix ∧
      peer.replayWindow = newReplayWindow peerSize peerTime := by
  obtain ⟨keySlots, -, hrest, hrest'⟩ := bind_eq_ok_both h h'
  rw [tlsDataKeySlots_not] at hrest'
  obtain ⟨_, _, -, hresult, hresult'⟩ := bind_eq_ok_crossed hrest hrest'
  cases hresult
  cases hresult'
  exact ⟨rfl, rfl, rfl⟩

variable {primitives : CryptoPrimitives}

theorem newTLSCBCDataCodec_mirrors {c peer : TLSCBCDataCodec}
    (h : newTLSCBCDataCodec primitives keyMaterial server cipherName authName size time = .ok c)
    (h' : newTLSCBCDataCodec primitives keyMaterial (!server) cipherName authName peerSize
      peerTime = .ok peer) :
    peer.hash = c.hash ∧ peer.receiveHMACKey = c.sendHMACKey ∧
      peer.receiveCipher = c.sendCipherBlock ∧
      peer.replayWindow = newReplayWindow peerSize peerTime := by
  obtain ⟨keySlots, -, hrest, hrest'⟩ := bind_eq_ok_both h h'
  rw [tlsDataKeySlots_not] at hrest'
  obtain ⟨keySize, -, hafterSize, hafterSize'⟩ := bind_eq_ok_both hrest hrest'
  obtain ⟨hash, -, hafterHash, hafterHash'⟩ := bind_eq_ok_both hafterSize hafterSize'
  obtain ⟨_, _, -, hresult, hresult'⟩ := bind_eq_ok_crossed hafterHash hafterHash'
  cases hresult
  cases hresult'
  exact ⟨rfl, rfl, rfl, rfl⟩

theorem cipher_eq_ok {algorithm : BlockAlgorithm} {cipherKey : Bytes}
    (h : primitives.cipher algorithm cipherKey = .ok (some cipher)) :
    ∃ algorithm cipherKey, primitives.newCipher algorithm cipherKey = some cipher := by
  rw [CryptoPrimitives.cipher] at h
  split at h
  · next hnew =>
    cases h
    exact ⟨algorithm, cipherKey, hnew⟩
  · cases h

theorem newStaticCipherBlock_eq_ok {keySize : Nat}
    (h : newStaticCipherBlock primitives cipherName keyMaterial keySize = .ok (some cipher)) :
    ∃ algorithm cipherKey, primitives.newCipher algorithm cipherKey = some cipher := by
  rw [newStaticCipherBlock] at h
  by_cases hnone : cipherName = "NONE"
  · rw [if_pos hnone] at h
    cases h
  rw [if_neg hnone] at h
  by_cases hsize : keySize = 0 ∨ keyMaterial.length < keySize
  · rw [if_pos hsize] at h
    cases h
  rw [if_neg hsize] at h
  split at h
  all_goals first
    | exact cipher_eq_ok h
    | cases h

theorem newTLSStreamDataCodec_mirrors {c peer : TLSStreamDataCodec}
    (h : newTLSStreamDataCodec primitives keyMaterial server cipherName authName size time
      timestamp = .ok c)
    (h' : newTLSStreamDataCodec primitives keyMaterial (!server) cipherName authName peerSize
      peerTime peerTimestamp = .ok peer) :
    peer.hash = c.hash ∧ peer.receiveHMACKey = c.sendHMACKey ∧
      peer.receiveCipher = c.sendCipherBlock ∧ peer.mode = c.mode ∧
      (∃ algorithm cipherKey, primitives.newCipher algorithm cipherKey = some c.sendCipherBlock) ∧
      peer.replayWindow = newReplayWindow peerSize peerTime := by
  obtain ⟨keySlots, -, hrest, hrest'⟩ := bind_eq_ok_both h h'
  obtain ⟨spec, -, hafterSpec, hafterSpec'⟩ := bind_eq_ok_both hrest hrest'
  rw [tlsDataKeySlots_not] at hafterSpec'
  obtain ⟨hash, -, hafterHash, hafterHash'⟩ := bind_eq_ok_both hafterSpec hafterSpec'
  obtain ⟨sendCipher, receiveCipher, hsendCipher, hresult, hresult'⟩ :=
    bind_eq_ok_crossed hafterHash hafterHash'
  cases sendCipher with
  | none => cases hresult
  | some sendCipher =>
    cases receiveCipher with
    | none => cases hresult
    | some _ =>
      cases hresult
      cases hresult'
      exact ⟨rfl, rfl, rfl, rfl, newStaticCipherBlock_eq_ok hsendCipher, rfl⟩

theorem newStaticKeyDataCodec_mirrors {staticKeyMaterial : StaticKeyMaterial} {left right : Int}
    (hdirections : OppositeDirections left right) {c peer : StaticKeyDataCodec}
    (h : newStaticKeyDataCodec primitives staticKeyMaterial left cipherName authName size time
      timestamp = .ok c)
    (h' : newStaticKeyDataCodec primitives staticKeyMaterial right cipherName authName peerSize
      peerTime peerTimestamp = .ok peer) :
    peer.hash = c.hash ∧
      (∃ rest, peer.receiveCandidates = ⟨c.sendCipherBlock, c.sendHMACKey⟩ :: rest) ∧
      peer.replayWindow = newReplayWindow peerSize peerTime := by
  obtain ⟨slots, hslots⟩ := hdirections.receiveSlotIndexes
  obtain ⟨keySize, -, hafterSize, hafterSize'⟩ := bind_eq_ok_both h h'
  obtain ⟨hash, -, hafterHash, hafterHash'⟩ := bind_eq_ok_both hafterSize hafterSize'
  obtain ⟨sendCipher, hsendCipher, hafterSend⟩ := bind_eq_ok.mp hafterHash
  obtain ⟨_, -, hresult⟩ := bind_eq_ok.mp hafterSend
  obtain ⟨_, -, hafterSend'⟩ := bind_eq_ok.mp hafterHash'
  obtain ⟨candidates, hcandidates, hresult'⟩ := bind_eq_ok.mp hafterSend'
  rw [hslots, mapM_cons] at hcandidates
  obtain ⟨first, hfirst, htail⟩ := bind_eq_ok.mp hcandidates
  obtain ⟨others, -, hlist⟩ := bind_eq_ok.mp htail
  obtain ⟨receiveCipher, hreceiveCipher, hcandidate⟩ := bind_eq_ok.mp hfirst
  obtain rfl := Except.ok.inj (hsendCipher.symm.trans hreceiveCipher)
  cases hcandidate
  cases hlist
  cases hresult
  cases hresult'
  exact ⟨rfl, ⟨others, rfl⟩, rfl⟩

end Mirrors

end SingOpenVPN
