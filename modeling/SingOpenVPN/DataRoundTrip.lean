import SingOpenVPN.DataOpening
import SingOpenVPN.Reflection
import SingOpenVPN.ReplaySet
import SingOpenVPN.TransitionSystem

/-!
# Data packets, encoded and decoded (`data_codec_aead.go`, `data_codec_cbc.go`,
`data_codec_stream.go`, `data_codec_static.go`)

Two codecs are built from the same key material for opposite roles.  What the one
encodes has the length `EncodedLength` announces, and the other one opens it; what is
left is the replay check of its packet id.

The replay window does not hold every id that was never seen: an id that lies a window
size or more below the highest one, or below an id whose arrival has expired, is
refused as well.  `ReplayWindow.Holds` says which ids it still answers for, and
`Exact` that among those it refuses exactly the ones it was given before.
-/

namespace SingOpenVPN

open ByteCodec BlockModes TransitionSystem DataCodec StaticKeyDataCodec ReplayWindow

/-! ### The ids a replay window answers for -/

/-- The id lies inside the window: its timestamp is newer than the newest one, or is the
    newest one and the id is above the highest, or less than the window size below it and
    not below an expired id. -/
def ReplayWindow.Holds (w : ReplayWindow) (packetID timestamp : Nat) (now : Time) : Prop :=
  w.initialized = true → w.highestTimestamp < timestamp ∨
    (w.highestTimestamp = timestamp ∧ (w.highestID < packetID ∨
      (w.highestID < packetID + w.windowSize ∧ (w.reapLocked now).minimumID ≤ packetID)))

/-- The window was given exactly the pairs of timestamp and id in `seen`. -/
structure Exact (w : ReplayWindow) (seen : List (Nat × Nat)) : Prop where
  size : 0 < w.windowSize
  given : (w.initialized = false ∧ Sized w ∧ seen = []) ∨
    ∃ ids, Covers w ids ∧ (∀ id, id ∈ ids ↔ (w.highestTimestamp, id) ∈ seen) ∧
      ∀ pair ∈ seen, pair.1 ≤ w.highestTimestamp

theorem exact_newReplayWindow {windowSize : Nat} (h : 0 < windowSize) (timeWindow : Duration) :
    Exact (newReplayWindow windowSize timeWindow) [] :=
  ⟨h, .inl ⟨rfl, sized_newReplayWindow _ _, rfl⟩⟩

variable {seen : List (Nat × Nat)} {packetID : Nat} {w : ReplayWindow}

/-- A window that starts again with an id newer than everything it was given. -/
theorem exact_initializeLocked (hsized : Sized w) (hsize : 0 < w.windowSize) {timestamp : Nat}
    (hlt : packetID < 2 ^ 32) (hnewer : ∀ pair ∈ seen, pair.1 < timestamp) (arrival : Time) :
    Exact (w.initializeLocked packetID timestamp arrival) ((timestamp, packetID) :: seen) := by
  refine ⟨hsize, .inr ⟨[packetID], hsized.covers_initializeLocked hlt timestamp arrival, ?_, ?_⟩⟩
  · intro id
    change id ∈ [packetID] ↔ (timestamp, id) ∈ (timestamp, packetID) :: seen
    have hunseen : (timestamp, id) ∉ seen := fun hmem =>
      absurd (hnewer _ hmem) (lt_irrefl _)
    simp [hunseen]
  · intro pair hpair
    rcases List.mem_cons.mp hpair with rfl | hmem
    · exact le_refl _
    · exact (hnewer pair hmem).le

theorem Covers.acceptLocked_iff {ids : List Nat} (h : Covers w ids) (hsize : 0 < w.windowSize)
    (packetID : Nat) (now arrival : Time) :
    (w.acceptLocked packetID now arrival).1 = true ↔ packetID ∉ ids ∧ (w.highestID < packetID ∨
      (w.highestID < packetID + w.windowSize ∧ (w.reapLocked now).minimumID ≤ packetID)) := by
  generalize hcall : w.acceptLocked packetID now arrival = answer
  obtain ⟨accepted, w'⟩ := answer
  have hrefuses := @Covers.refusesInWindow_iff _ _ (h.reapLocked now) packetID
  simp only [reapLocked_highestID, reapLocked_windowSize] at hrefuses
  rcases acceptLocked_cases h.initialized hcall with
    ⟨hzero, -⟩ | ⟨hzero, -⟩ | ⟨-, hhigh, rfl, -⟩ | ⟨-, hle, hrefused, rfl, -⟩ |
      ⟨-, hle, hnot, rfl, -⟩
  · omega
  · omega
  · have habove : packetID ∉ ids := fun hmem =>
      absurd (h.le_highest packetID hmem) (Nat.not_le.mpr hhigh)
    simp [hhigh, habove]
  · rw [hrefuses hle] at hrefused
    simp only [Bool.false_eq_true, false_iff]
    rintro ⟨hunseen, hhigh | ⟨hin, hmin⟩⟩
    · omega
    · rcases hrefused with hlt | hout | hmem
      · omega
      · omega
      · exact hunseen hmem
  · rw [hrefuses hle] at hnot
    simp only [not_or, not_lt, not_le] at hnot
    simp [hnot]

theorem Exact.acceptLongForm (h : Exact w seen) (hid : packetID ≠ 0) (hlt : packetID < 2 ^ 32)
    (timestamp : Nat) (now arrival : Time) :
    let answer := w.acceptLongForm packetID timestamp now arrival
    (answer.1 = true ↔ (timestamp, packetID) ∉ seen ∧ w.Holds packetID timestamp now) ∧
    (answer.1 = true → answer.2.highestTimestamp = timestamp ∧
      Exact answer.2 ((timestamp, packetID) :: seen)) ∧
    (answer.1 = false → answer.2.highestTimestamp = w.highestTimestamp ∧ Exact answer.2 seen) := by
  have hzero : w.windowSize ≠ 0 := ne_of_gt h.size
  simp only [ReplayWindow.acceptLongForm, hid, if_false, hzero, false_and, ReplayWindow.Holds]
  rcases h.given with ⟨hinit, hsized, rfl⟩ | ⟨ids, hcovers, hids, hpast⟩
  · have hnewer : ∀ pair ∈ ([] : List (Nat × Nat)), pair.1 < timestamp := by simp
    have hstart := exact_initializeLocked hsized h.size hlt hnewer arrival
    simp only [hinit, if_true]
    exact ⟨by simp, fun _ => ⟨rfl, hstart⟩, by simp⟩
  · have hinit := hcovers.initialized
    rw [if_neg (by simp [hinit])]
    rcases Nat.lt_trichotomy timestamp w.highestTimestamp with hold | hsame | hnew
    · rw [if_pos hold]
      refine ⟨?_, by simp, fun _ => ⟨rfl, h⟩⟩
      simp only [Bool.false_eq_true, false_iff, hinit, true_implies]
      omega
    · subst hsame
      rw [if_neg (lt_irrefl _), if_neg (lt_irrefl _)]
      obtain ⟨hyes, hno⟩ := hcovers.acceptLocked hid hlt now arrival
      obtain ⟨hkept, hkeepSize, -⟩ := ReplayWindow.acceptLocked_kept hinit packetID now arrival
      have hsize : 0 < (w.acceptLocked packetID now arrival).2.windowSize := by
        rw [hkeepSize]
        exact h.size
      refine ⟨?_, ?_, ?_⟩
      · rw [hcovers.acceptLocked_iff h.size, hids]
        simp [hinit]
      · intro haccepted
        refine ⟨hkept, hsize, .inr ⟨packetID :: ids, (hyes haccepted).2, ?_, ?_⟩⟩
        · intro id
          rw [hkept]
          simp [hids]
        · intro pair hpair
          rw [hkept]
          rcases List.mem_cons.mp hpair with rfl | hmem
          · exact le_refl _
          · exact hpast pair hmem
      · intro hrefused
        refine ⟨hkept, hsize, .inr ⟨ids, hno hrefused, ?_, ?_⟩⟩
        · rw [hkept]
          exact hids
        · rw [hkept]
          exact hpast
    · have hnewer : ∀ pair ∈ seen, pair.1 < timestamp := fun pair hpair =>
        (hpast pair hpair).trans_lt hnew
      rw [if_neg (by omega), if_pos hnew]
      refine ⟨?_, fun _ => ⟨rfl, exact_initializeLocked hcovers.sized h.size hlt hnewer arrival⟩,
        by simp⟩
      simp only [true_iff, hnew, true_or, implies_true, and_true]
      intro hmem
      exact absurd (hnewer _ hmem) (lt_irrefl _)

/-- A window that was never given a timestamp accepts as if they were all zero. -/
theorem ReplayWindow.accept_eq_acceptLongForm (h : w.highestTimestamp = 0) (packetID : Nat)
    (now arrival : Time) :
    w.accept packetID now arrival = w.acceptLongForm packetID 0 now arrival := by
  rw [accept, acceptLongForm, acceptLocked, h]
  by_cases hinit : w.initialized = false
  · simp [hinit]
  · simp [hinit]

/-! ### All codecs -/

/-- `dataCodec`: the codec of a TLS session or of a static key. -/
inductive AnyDataCodec where
  | tls (codec : DataCodec)
  | staticKey (codec : StaticKeyDataCodec)

namespace AnyDataCodec

def encodedLength (c : AnyDataCodec) (payloadLength : Nat) : Nat :=
  match c with
  | tls codec => codec.encodedLength payloadLength
  | staticKey codec => codec.encodedLength payloadLength

def encode (c : AnyDataCodec) (crypto : DataPrimitives)
    (random : (count : Nat) → List.Vector UInt8 count) (packetID : UInt32)
    (aadPrefix payload : Bytes) : Except String Bytes :=
  match c with
  | tls codec => codec.encode crypto random packetID aadPrefix payload
  | staticKey codec => codec.encode crypto.toCryptoPrimitives random packetID payload

def decode (c : AnyDataCodec) (crypto : DataPrimitives) (aadPrefix payload : Bytes)
    (now arrival : Time) : Except String (Nat × Bytes) × AnyDataCodec :=
  match c with
  | tls codec =>
    let answer := codec.decode crypto aadPrefix payload now arrival
    (answer.1, tls answer.2)
  | staticKey codec =>
    let answer := codec.decode crypto.toCryptoPrimitives payload now arrival
    (answer.1, staticKey answer.2)

def replayWindow : AnyDataCodec → ReplayWindow
  | tls (.gcm codec) => codec.replayWindow
  | tls (.cbc codec) => codec.replayWindow
  | tls (.stream codec) => codec.replayWindow
  | staticKey codec => codec.replayWindow

def withReplayWindow (w : ReplayWindow) : AnyDataCodec → AnyDataCodec
  | tls (.gcm codec) => tls (.gcm { codec with replayWindow := w })
  | tls (.cbc codec) => tls (.cbc { codec with replayWindow := w })
  | tls (.stream codec) => tls (.stream { codec with replayWindow := w })
  | staticKey codec => staticKey { codec with replayWindow := w }

def sendTimestamp : AnyDataCodec → Nat
  | tls (.gcm _) => 0
  | tls (.cbc _) => 0
  | tls (.stream codec) => codec.sendTimestamp.toNat
  | staticKey codec => codec.sendTimestamp.toNat

def longForm : AnyDataCodec → Bool
  | tls (.gcm _) => false
  | tls (.cbc _) => false
  | tls (.stream _) => true
  | staticKey _ => true

/-- CFB or OFB, which refuse a packet without a payload. -/
def feedback : AnyDataCodec → Bool
  | tls (.stream _) => true
  | _ => false

end AnyDataCodec

/-- The packet as the first candidate that opens it reads it. -/
def StaticKeyDataCodec.openLoop (crypto : CryptoPrimitives) (c : StaticKeyDataCodec)
    (payload : Bytes) :
    String → List StaticKeyDecodeCandidate → Except String (Nat × Nat × Bytes)
  | decodeError, [] => .error decodeError
  | _, candidate :: candidates =>
    match c.decodeWithCandidate crypto payload candidate with
    | .ok opened => .ok opened
    | .error decodeError => openLoop crypto c payload decodeError candidates

variable {crypto : CryptoPrimitives}

theorem StaticKeyDataCodec.openLoop_withReplayWindow
    (c : StaticKeyDataCodec) (w : ReplayWindow) (payload : Bytes) (decodeError : String)
    (candidates : List StaticKeyDecodeCandidate) :
    { c with replayWindow := w }.openLoop crypto payload decodeError candidates =
      c.openLoop crypto payload decodeError candidates := by
  induction candidates generalizing decodeError with
  | nil => rfl
  | cons candidate candidates ih =>
    have hsame : { c with replayWindow := w }.decodeWithCandidate crypto payload candidate =
        c.decodeWithCandidate crypto payload candidate := rfl
    rw [openLoop, openLoop, hsame]
    cases c.decodeWithCandidate crypto payload candidate with
    | error err => exact ih err
    | ok opened => rfl

variable {candidates : List StaticKeyDecodeCandidate}

theorem StaticKeyDataCodec.decodeLoop_of_openLoop {c : StaticKeyDataCodec}
    {payload : Bytes} {decodeError : String}
    (now arrival : Time) :
    (∀ err, c.openLoop crypto payload decodeError candidates = .error err →
      c.decodeLoop crypto payload now arrival decodeError candidates = (.error err, c)) ∧
    (∀ opened, c.openLoop crypto payload decodeError candidates = .ok opened →
      c.decodeLoop crypto payload now arrival decodeError candidates =
        let answer := c.replayWindow.acceptLongForm opened.1 opened.2.1 now arrival
        (if answer.1 then .ok (opened.1, opened.2.2) else .error "replayed static key data packet",
          { c with replayWindow := answer.2 })) := by
  induction candidates generalizing decodeError with
  | nil =>
    constructor
    · intro err h
      cases h
      rfl
    · intro opened h
      cases h
  | cons candidate candidates ih =>
    rw [openLoop, decodeLoop]
    cases hopen : c.decodeWithCandidate crypto payload candidate with
    | error err => exact ih
    | ok opened =>
      constructor
      · intro err h
        cases h
      · intro opened' h
        cases h
        dsimp only
        split <;> rfl

namespace AnyDataCodec

variable {crypto : DataPrimitives}

def openPacket (c : AnyDataCodec) (crypto : DataPrimitives) (aadPrefix payload : Bytes) :
    Except String (Nat × Nat × Bytes) :=
  match c with
  | tls codec => codec.openPacket crypto aadPrefix payload
  | staticKey codec => codec.openLoop crypto.toCryptoPrimitives payload
      "invalid static key payload" codec.receiveCandidates

end AnyDataCodec

theorem DataCodec.decode_eq_decodeBuffer (crypto : DataPrimitives) (c : DataCodec)
    (aadPrefix payload : Bytes) (now arrival : Time) :
    c.decode crypto aadPrefix payload now arrival =
      c.decodeBuffer crypto aadPrefix payload now arrival := by
  cases c with
  | gcm codec =>
    simp only [decode, decodeBuffer, openPacket, codec.openCopy_eq]
    cases codec.openPacket aadPrefix payload <;> rfl
  | cbc codec => rfl
  | stream codec => rfl

/-- **The in-place paths of the AEAD codec equal the copying ones**, errors and replay window
included, for the prefixes their arrays have room for, whatever the arrays and the buffer
held before. -/
theorem gcm_buffers_equal_copies (crypto : DataPrimitives) (c : TLSGCMDataCodec)
    (sendArrays receiveArrays : AEADArrays) (packetID : UInt32) (aadPrefix : Bytes)
    (haad : aadPrefix.length ≤ 4) (payload : DataBuffer) (packet : Bytes) (now arrival : Time) :
    (∃ result arrays,
      c.encodeBuffer sendArrays packetID aadPrefix payload = some (result, arrays) ∧
        result.map DataBuffer.content = c.encode packetID aadPrefix payload.content) ∧
      ∃ arrays, DataCodec.decodeInPlace c receiveArrays aadPrefix packet now arrival =
        some ((DataCodec.gcm c).decode crypto aadPrefix packet now arrival, arrays) := by
  rw [DataCodec.decode_eq_decodeBuffer]
  exact ⟨c.encodeBuffer_spec sendArrays packetID haad payload,
    c.decodeInPlace_spec receiveArrays crypto haad packet now arrival⟩

namespace AnyDataCodec

variable {crypto : DataPrimitives} {c : AnyDataCodec} {aadPrefix payload : Bytes}

theorem openPacket_withReplayWindow (w : ReplayWindow) :
    (c.withReplayWindow w).openPacket crypto aadPrefix payload =
      c.openPacket crypto aadPrefix payload := by
  rcases c with (codec | codec | codec) | codec
  · rfl
  · rfl
  · rfl
  · exact codec.openLoop_withReplayWindow w payload _ _

theorem decode_of_error {err : String} (h : c.openPacket crypto aadPrefix payload = .error err)
    (now arrival : Time) : c.decode crypto aadPrefix payload now arrival = (.error err, c) := by
  cases c with
  | tls codec =>
    have hopen : codec.openPacket crypto aadPrefix payload = .error err := h
    simp only [decode, decode_eq_decodeBuffer, decodeBuffer, hopen]
  | staticKey codec =>
    have hloop := (StaticKeyDataCodec.decodeLoop_of_openLoop now arrival).1 err h
    simp only [decode, StaticKeyDataCodec.decode, hloop]

theorem decode_of_ok {packetID timestamp : Nat} {decoded : Bytes}
    (h : c.openPacket crypto aadPrefix payload = .ok (packetID, timestamp, decoded))
    (hshort : c.longForm = false → c.replayWindow.highestTimestamp = 0) (now arrival : Time) :
    ∃ err, c.decode crypto aadPrefix payload now arrival =
      let answer := c.replayWindow.acceptLongForm packetID timestamp now arrival
      (if answer.1 then .ok (packetID, decoded) else .error err, c.withReplayWindow answer.2) := by
  rcases c with (codec | codec | codec) | codec
  · obtain ⟨opened, hopen, heq⟩ := map_eq_ok.mp h
    cases heq
    have hwindow : codec.replayWindow.highestTimestamp = 0 := hshort rfl
    refine ⟨"replayed gcm packet", ?_⟩
    simp only [decode, DataCodec.decode_eq_decodeBuffer, DataCodec.decodeBuffer,
      DataCodec.openPacket, hopen, Except.map, DataCodec.checkReplay,
      accept_eq_acceptLongForm hwindow]
    rfl
  · obtain ⟨opened, hopen, heq⟩ := map_eq_ok.mp h
    cases heq
    have hwindow : codec.replayWindow.highestTimestamp = 0 := hshort rfl
    refine ⟨"replayed tls data packet", ?_⟩
    simp only [decode, DataCodec.decode_eq_decodeBuffer, DataCodec.decodeBuffer,
      DataCodec.openPacket, hopen, Except.map, DataCodec.checkReplay,
      accept_eq_acceptLongForm hwindow]
    rfl
  · refine ⟨"replayed tls stream data packet", ?_⟩
    have hopen : codec.openPacket crypto.toCryptoPrimitives payload =
        .ok (packetID, timestamp, decoded) := h
    simp only [decode, DataCodec.decode_eq_decodeBuffer, DataCodec.decodeBuffer,
      DataCodec.openPacket, hopen, DataCodec.checkReplay]
    rfl
  · have hloop := (StaticKeyDataCodec.decodeLoop_of_openLoop now arrival).2 _ h
    refine ⟨"replayed static key data packet", ?_⟩
    simp only [decode, StaticKeyDataCodec.decode, hloop]
    rfl

end AnyDataCodec

theorem getBE_take_four_lt (bytes : Bytes) : getBE (bytes.take 4) < 2 ^ 32 := by
  refine (getBE_lt _).trans_le ?_
  exact Nat.pow_le_pow_right (by decide) (List.length_take_le 4 bytes)

theorem StaticKeyDataCodec.openLoop_lt {c : StaticKeyDataCodec}
    {payload : Bytes} {decodeError : String}
    {opened : Nat × Nat × Bytes}
    (h : c.openLoop crypto payload decodeError candidates = .ok opened) : opened.1 < 2 ^ 32 := by
  induction candidates generalizing decodeError with
  | nil => cases h
  | cons candidate candidates ih =>
    rw [openLoop] at h
    cases hopen : c.decodeWithCandidate crypto payload candidate with
    | error err =>
      rw [hopen] at h
      exact ih h
    | ok opened' =>
      rw [hopen] at h
      cases h
      obtain ⟨_, -, hafterMAC⟩ := bind_eq_ok.mp hopen
      obtain ⟨plain, -, hafterCipher⟩ := bind_eq_ok.mp hafterMAC
      by_cases hlength : plain.length < 8
      · rw [if_pos hlength] at hafterCipher
        cases hafterCipher
      rw [if_neg hlength] at hafterCipher
      by_cases hzero : getBE (plain.take 4) = 0
      · rw [if_pos hzero] at hafterCipher
        cases hafterCipher
      rw [if_neg hzero] at hafterCipher
      cases hafterCipher
      exact getBE_take_four_lt plain

theorem AnyDataCodec.openPacket_lt {crypto : DataPrimitives} {c : AnyDataCodec}
    {aadPrefix payload decoded : Bytes} {packetID timestamp : Nat}
    (h : c.openPacket crypto aadPrefix payload = .ok (packetID, timestamp, decoded)) :
    packetID < 2 ^ 32 ∧ (c.longForm = false → timestamp = 0) := by
  rcases c with (codec | codec | codec) | codec
  · obtain ⟨opened, hopen, heq⟩ := map_eq_ok.mp h
    cases heq
    refine ⟨?_, fun _ => rfl⟩
    by_cases hlength : payload.length < 4 + tlsDataAEADTagSize
    · rw [TLSGCMDataCodec.openPacket, TLSGCMDataCodec.openMoved, if_pos hlength] at hopen
      cases hopen
    rw [TLSGCMDataCodec.openPacket, TLSGCMDataCodec.openMoved, if_neg hlength] at hopen
    obtain ⟨_, -, hresult⟩ := bind_eq_ok.mp hopen
    cases hresult
    exact getBE_take_four_lt payload
  · obtain ⟨opened, hopen, heq⟩ := map_eq_ok.mp h
    cases heq
    refine ⟨?_, fun _ => rfl⟩
    obtain ⟨_, -, hafterMAC⟩ := bind_eq_ok.mp hopen
    obtain ⟨plain, -, hafterCipher⟩ := bind_eq_ok.mp hafterMAC
    by_cases hlength : plain.length < 4
    · rw [if_pos hlength] at hafterCipher
      cases hafterCipher
    rw [if_neg hlength] at hafterCipher
    cases hafterCipher
    exact getBE_take_four_lt plain
  · refine ⟨?_, by simp [longForm]⟩
    obtain ⟨protectedPayload, -, hafterMAC⟩ := bind_eq_ok.mp h
    by_cases hlength : protectedPayload.length ≤ codec.receiveCipher.blockSize
    · rw [if_pos hlength] at hafterMAC
      cases hafterMAC
    rw [if_neg hlength] at hafterMAC
    cases hafterMAC
    exact getBE_take_four_lt _
  · exact ⟨openLoop_lt h, by simp [longForm]⟩

/-! ### Two codecs of one key -/

section RoundTrip

variable (crypto : DataPrimitives)

/-- Two codecs built from the same key material for opposite roles.  Their replay windows may
    differ. -/
inductive BuiltOpposite : AnyDataCodec → AnyDataCodec → Prop
  | tls {keyMaterial : Bytes} {server : Bool} {cipherName authName : String}
      {size peerSize : Nat} {time peerTime : Duration} {timestamp peerTimestamp : UInt32}
      {c peer : DataCodec} :
      newTLSDataCodec crypto keyMaterial server cipherName authName size time timestamp = .ok c →
      newTLSDataCodec crypto keyMaterial (!server) cipherName authName peerSize peerTime
        peerTimestamp = .ok peer →
      BuiltOpposite (.tls c) (.tls peer)
  | staticKey {staticKeyMaterial : StaticKeyMaterial} {left right : Int}
      {cipherName authName : String} {size peerSize : Nat} {time peerTime : Duration}
      {timestamp peerTimestamp : UInt32} {c peer : StaticKeyDataCodec} :
      OppositeDirections left right →
      newStaticKeyDataCodec crypto.toCryptoPrimitives staticKeyMaterial left cipherName authName
        (dataReplayWindowParameters size time).1 (dataReplayWindowParameters size time).2
        timestamp = .ok c →
      newStaticKeyDataCodec crypto.toCryptoPrimitives staticKeyMaterial right cipherName authName
        (dataReplayWindowParameters peerSize peerTime).1
        (dataReplayWindowParameters peerSize peerTime).2 peerTimestamp = .ok peer →
      BuiltOpposite (.staticKey c) (.staticKey peer)

/-- Blocks are long enough for a packet id and a timestamp, as those of all ciphers the
    codecs know are. -/
def BlocksHoldIDs : Prop :=
  ∀ algorithm cipherKey cipher, crypto.newCipher algorithm cipherKey = some cipher →
    8 ≤ cipher.blockSize

/-- What `c` encodes has the announced length and is opened by `peer`, up to the replay
    check. -/
def OpenedBy (c peer : AnyDataCodec) : Prop :=
  ∀ (random : (count : Nat) → List.Vector UInt8 count) (packetID : UInt32)
    (aadPrefix payload : Bytes), packetID ≠ 0 → (c.feedback = true → payload ≠ []) →
    ∃ packet, c.encode crypto random packetID aadPrefix payload = .ok packet ∧
      packet.length = c.encodedLength payload.length ∧
      peer.openPacket crypto aadPrefix packet = .ok (packetID.toNat, c.sendTimestamp, payload)

/-- A window as `dataReplayWindowParameters` sizes it, that was given nothing. -/
def FreshWindow (w : ReplayWindow) : Prop :=
  ∃ windowSize timeWindow, 0 < windowSize ∧ w = newReplayWindow windowSize timeWindow

variable {crypto}

theorem dataReplayWindowParameters_pos (size : Nat) (time : Duration) :
    0 < (dataReplayWindowParameters size time).1 := by
  by_cases hzero : size = 0
  · simp [dataReplayWindowParameters, hzero, defaultReplayWindowSize]
  · simp [dataReplayWindowParameters, hzero]
    omega

theorem openedBy_gcm {c peer : TLSGCMDataCodec} (haead : peer.receiveAEAD = c.sendAEAD)
    (hsuffix : peer.receiveIVSuffix = c.sendIVSuffix) :
    OpenedBy crypto (.tls (.gcm c)) (.tls (.gcm peer)) := by
  intro random packetID aadPrefix payload hid _
  obtain ⟨packet, hencode, hlength, hopen⟩ :=
    TLSGCMDataCodec.openPacket_encode haead hsuffix hid aadPrefix payload
  refine ⟨packet, hencode, hlength, ?_⟩
  simp only [AnyDataCodec.openPacket, openPacket, hopen]
  rfl

theorem openedBy_cbc {c peer : TLSCBCDataCodec} (hhash : peer.hash = c.hash)
    (hkey : peer.receiveHMACKey = c.sendHMACKey)
    (hcipher : peer.receiveCipher = c.sendCipherBlock) :
    OpenedBy crypto (.tls (.cbc c)) (.tls (.cbc peer)) := by
  intro random packetID aadPrefix payload hid _
  obtain ⟨packet, hencode, hlength, hopen⟩ :=
    @TLSCBCDataCodec.openPacket_encode crypto.toCryptoPrimitives _ _ _ hhash hkey hcipher hid random
      payload
  refine ⟨packet, hencode, hlength, ?_⟩
  simp only [AnyDataCodec.openPacket, openPacket, hopen]
  rfl

theorem openedBy_stream {c peer : TLSStreamDataCodec} (hhash : peer.hash = c.hash)
    (hkey : peer.receiveHMACKey = c.sendHMACKey)
    (hcipher : peer.receiveCipher = c.sendCipherBlock) (hmode : peer.mode = c.mode)
    (hblock : 8 ≤ c.sendCipherBlock.blockSize) :
    OpenedBy crypto (.tls (.stream c)) (.tls (.stream peer)) := by
  intro random packetID aadPrefix payload hid hpayload
  exact TLSStreamDataCodec.openPacket_encode hhash hkey hcipher hmode hblock hid (hpayload rfl)

theorem openedBy_staticKey {c peer : StaticKeyDataCodec} {rest : List StaticKeyDecodeCandidate}
    (hhash : peer.hash = c.hash)
    (hcandidates : peer.receiveCandidates = ⟨c.sendCipherBlock, c.sendHMACKey⟩ :: rest) :
    OpenedBy crypto (.staticKey c) (.staticKey peer) := by
  intro random packetID aadPrefix payload hid _
  obtain ⟨packet, hencode, hlength⟩ :=
    @encode_spec crypto.toCryptoPrimitives _ c hid random payload
  refine ⟨packet, hencode, hlength, ?_⟩
  have hopen := decodeWithCandidate_encode crypto.toCryptoPrimitives hhash hencode
  simp only [AnyDataCodec.openPacket, hcandidates, openLoop, hopen]
  rfl

section Constructed

variable {keyMaterial : Bytes} {server : Bool} {cipherName authName : String}
  {size peerSize : Nat} {time peerTime : Duration} {timestamp peerTimestamp : UInt32}
  {c peer : DataCodec}

theorem opposite_gcm (hpositive : 0 < peerSize)
    (h : (newTLSGCMDataCodec crypto keyMaterial server cipherName size time).map .gcm = .ok c)
    (h' : (newTLSGCMDataCodec crypto keyMaterial (!server) cipherName peerSize peerTime).map .gcm =
      .ok peer) :
    OpenedBy crypto (.tls c) (.tls peer) ∧ FreshWindow (AnyDataCodec.tls peer).replayWindow := by
  obtain ⟨codec, hnew, rfl⟩ := map_eq_ok.mp h
  obtain ⟨peerCodec, hnew', rfl⟩ := map_eq_ok.mp h'
  obtain ⟨haead, hsuffix, hwindow⟩ := newTLSGCMDataCodec_mirrors hnew hnew'
  exact ⟨openedBy_gcm haead hsuffix, peerSize, peerTime, hpositive, hwindow⟩

theorem opposite_chaCha20Poly1305 (hpositive : 0 < peerSize)
    (h : (newTLSChaCha20Poly1305DataCodec crypto keyMaterial server size time).map .gcm = .ok c)
    (h' : (newTLSChaCha20Poly1305DataCodec crypto keyMaterial (!server) peerSize peerTime).map
      .gcm = .ok peer) :
    OpenedBy crypto (.tls c) (.tls peer) ∧ FreshWindow (AnyDataCodec.tls peer).replayWindow := by
  obtain ⟨codec, hnew, rfl⟩ := map_eq_ok.mp h
  obtain ⟨peerCodec, hnew', rfl⟩ := map_eq_ok.mp h'
  obtain ⟨haead, hsuffix, hwindow⟩ := newTLSChaCha20Poly1305DataCodec_mirrors hnew hnew'
  exact ⟨openedBy_gcm haead hsuffix, peerSize, peerTime, hpositive, hwindow⟩

theorem opposite_cbc (hpositive : 0 < peerSize)
    (h : (newTLSCBCDataCodec crypto.toCryptoPrimitives keyMaterial server cipherName authName size
      time).map .cbc = .ok c)
    (h' : (newTLSCBCDataCodec crypto.toCryptoPrimitives keyMaterial (!server) cipherName authName
      peerSize peerTime).map .cbc = .ok peer) :
    OpenedBy crypto (.tls c) (.tls peer) ∧ FreshWindow (AnyDataCodec.tls peer).replayWindow := by
  obtain ⟨codec, hnew, rfl⟩ := map_eq_ok.mp h
  obtain ⟨peerCodec, hnew', rfl⟩ := map_eq_ok.mp h'
  obtain ⟨hhash, hkey, hcipher, hwindow⟩ := newTLSCBCDataCodec_mirrors hnew hnew'
  exact ⟨openedBy_cbc hhash hkey hcipher, peerSize, peerTime, hpositive, hwindow⟩

theorem opposite_stream (hblocks : BlocksHoldIDs crypto) (hpositive : 0 < peerSize)
    (h : (newTLSStreamDataCodec crypto.toCryptoPrimitives keyMaterial server cipherName authName
      size time timestamp).map .stream = .ok c)
    (h' : (newTLSStreamDataCodec crypto.toCryptoPrimitives keyMaterial (!server) cipherName authName
      peerSize peerTime peerTimestamp).map .stream = .ok peer) :
    OpenedBy crypto (.tls c) (.tls peer) ∧ FreshWindow (AnyDataCodec.tls peer).replayWindow := by
  obtain ⟨codec, hnew, rfl⟩ := map_eq_ok.mp h
  obtain ⟨peerCodec, hnew', rfl⟩ := map_eq_ok.mp h'
  obtain ⟨hhash, hkey, hcipher, hmode, ⟨algorithm, cipherKey, hblock⟩, hwindow⟩ :=
    newTLSStreamDataCodec_mirrors hnew hnew'
  exact ⟨openedBy_stream hhash hkey hcipher hmode (hblocks algorithm cipherKey _ hblock), peerSize,
    peerTime, hpositive, hwindow⟩

theorem opposite_tls (hblocks : BlocksHoldIDs crypto)
    (h : newTLSDataCodec crypto keyMaterial server cipherName authName size time timestamp = .ok c)
    (h' : newTLSDataCodec crypto keyMaterial (!server) cipherName authName peerSize peerTime
      peerTimestamp = .ok peer) :
    OpenedBy crypto (.tls c) (.tls peer) ∧ FreshWindow (AnyDataCodec.tls peer).replayWindow := by
  have hpositive := dataReplayWindowParameters_pos peerSize peerTime
  simp only [newTLSDataCodec] at h h'
  split at h
  · exact opposite_gcm hpositive h h'
  · exact opposite_gcm hpositive h h'
  · exact opposite_gcm hpositive h h'
  · exact opposite_chaCha20Poly1305 hpositive h h'
  · next hgcm128 hgcm192 hgcm256 hchacha =>
    split at h'
    · exact absurd rfl hgcm128
    · exact absurd rfl hgcm192
    · exact absurd rfl hgcm256
    · exact absurd rfl hchacha
    · cases hspec : tlsStreamCipherSpec cipherName with
      | ok spec =>
        rw [hspec] at h h'
        exact opposite_stream hblocks hpositive h h'
      | error err =>
        rw [hspec] at h h'
        exact opposite_cbc hpositive h h'

end Constructed

theorem BuiltOpposite.openedBy (hblocks : BlocksHoldIDs crypto) {c peer : AnyDataCodec}
    (h : BuiltOpposite crypto c peer) :
    OpenedBy crypto c peer ∧ FreshWindow peer.replayWindow := by
  cases h with
  | tls hnew hnew' => exact opposite_tls hblocks hnew hnew'
  | staticKey hdirections hnew hnew' =>
    obtain ⟨hhash, ⟨rest, hcandidates⟩, hwindow⟩ :=
      newStaticKeyDataCodec_mirrors hdirections hnew hnew'
    exact ⟨openedBy_staticKey hhash hcandidates, _, _, dataReplayWindowParameters_pos _ _, hwindow⟩

/-! ### Everything a codec may have received -/

/-- A codec and the pairs of timestamp and id it returned a payload for. -/
structure DataReceiver where
  codec : AnyDataCodec
  seen : List (Nat × Nat)

structure DataArrival where
  aadPrefix : Bytes
  payload : Bytes
  now : Time
  arrival : Time

/-- The list of what was seen after a packet; an accepted one leaves its timestamp in the
    window. -/
def seenAfter (answer : Except String (Nat × Bytes) × AnyDataCodec) (seen : List (Nat × Nat)) :
    List (Nat × Nat) :=
  match answer.1 with
  | .ok (packetID, _) => (answer.2.replayWindow.highestTimestamp, packetID) :: seen
  | .error _ => seen

/-- A codec that decodes whatever arrives, forged or not. -/
def dataReceiverSystem (crypto : DataPrimitives) (peer : AnyDataCodec) :
    System DataReceiver DataArrival where
  initial r := r = ⟨peer, []⟩
  step r a :=
    let answer := r.codec.decode crypto a.aadPrefix a.payload a.now a.arrival
    some ⟨answer.2, seenAfter answer r.seen⟩

/-- The codec differs from `peer` in its window only, and the window was given what was
    seen. -/
def Received (peer : AnyDataCodec) (r : DataReceiver) : Prop :=
  ∃ w, r.codec = peer.withReplayWindow w ∧ Exact w r.seen ∧
    (peer.longForm = false → w.highestTimestamp = 0)

variable (c : AnyDataCodec)

theorem AnyDataCodec.replayWindow_withReplayWindow (w : ReplayWindow) :
    (c.withReplayWindow w).replayWindow = w := by
  rcases c with (codec | codec | codec) | codec <;> rfl

theorem AnyDataCodec.withReplayWindow_withReplayWindow (w w' : ReplayWindow) :
    (c.withReplayWindow w).withReplayWindow w' = c.withReplayWindow w' := by
  rcases c with (codec | codec | codec) | codec <;> rfl

theorem AnyDataCodec.longForm_withReplayWindow (w : ReplayWindow) :
    (c.withReplayWindow w).longForm = c.longForm := by
  rcases c with (codec | codec | codec) | codec <;> rfl

theorem AnyDataCodec.withReplayWindow_self :
    c.withReplayWindow c.replayWindow = c := by
  rcases c with (codec | codec | codec) | codec <;> rfl

variable {r : DataReceiver}

theorem Received.step {peer : AnyDataCodec} (h : Received peer r) (a : DataArrival) :
    Received peer ⟨(r.codec.decode crypto a.aadPrefix a.payload a.now a.arrival).2,
      seenAfter (r.codec.decode crypto a.aadPrefix a.payload a.now a.arrival) r.seen⟩ := by
  obtain ⟨w, hcodec, hexact, hshort⟩ := h
  cases hopen : r.codec.openPacket crypto a.aadPrefix a.payload with
  | error err =>
    rw [AnyDataCodec.decode_of_error hopen]
    exact ⟨w, hcodec, hexact, hshort⟩
  | ok opened =>
    obtain ⟨packetID, timestamp, decoded⟩ := opened
    obtain ⟨hlt, hzero⟩ := AnyDataCodec.openPacket_lt hopen
    have hshort' : r.codec.longForm = false → r.codec.replayWindow.highestTimestamp = 0 := by
      rw [hcodec, AnyDataCodec.longForm_withReplayWindow,
        AnyDataCodec.replayWindow_withReplayWindow]
      exact hshort
    obtain ⟨err, hdecode⟩ := AnyDataCodec.decode_of_ok hopen hshort' a.now a.arrival
    rw [hdecode]
    dsimp only
    rw [hcodec, AnyDataCodec.replayWindow_withReplayWindow,
      AnyDataCodec.withReplayWindow_withReplayWindow]
    rw [hcodec, AnyDataCodec.longForm_withReplayWindow] at hzero
    by_cases hid : packetID = 0
    · have hrefused : w.acceptLongForm packetID timestamp a.now a.arrival = (false, w) := by
        rw [acceptLongForm, if_pos hid]
      rw [hrefused]
      exact ⟨w, rfl, hexact, hshort⟩
    obtain ⟨-, hyes, hno⟩ := hexact.acceptLongForm hid hlt timestamp a.now a.arrival
    rcases Bool.eq_false_or_eq_true (w.acceptLongForm packetID timestamp a.now a.arrival).1 with
      haccepted | hrefused
    · obtain ⟨htimestamp, hafter⟩ := hyes haccepted
      rw [if_pos haccepted]
      refine ⟨_, rfl, ?_, ?_⟩
      · simpa only [seenAfter, AnyDataCodec.replayWindow_withReplayWindow, htimestamp] using hafter
      · rw [htimestamp]
        exact hzero
    · obtain ⟨htimestamp, hafter⟩ := hno hrefused
      refine ⟨_, rfl, ?_, ?_⟩
      · simpa only [seenAfter, hrefused, Bool.false_eq_true, if_false] using hafter
      · rw [htimestamp]
        exact hshort

theorem received_of_reachable {peer : AnyDataCodec} (hfresh : FreshWindow peer.replayWindow)
    (h : Reachable (dataReceiverSystem crypto peer) r) : Received peer r := by
  refine h.invariant ?_ ?_
  · intro r hinitial
    obtain ⟨windowSize, timeWindow, hpositive, hwindow⟩ := hfresh
    rw [hinitial]
    refine ⟨peer.replayWindow, peer.withReplayWindow_self.symm, ?_, ?_⟩
    · rw [hwindow]
      exact exact_newReplayWindow hpositive timeWindow
    · rw [hwindow]
      exact fun _ => rfl
  · intro r a r' hreceived _ hstep
    cases hstep
    exact hreceived.step a

end RoundTrip

/-- **What one codec encodes has the length it announces, and its opposite returns the id and
    the payload exactly if it did not return that id before and its replay window still
    answers for it.**  The opposite may have received anything before. -/
theorem data_codec_round_trip (crypto : DataPrimitives) (hblocks : BlocksHoldIDs crypto)
    {c peer : AnyDataCodec} (hbuilt : BuiltOpposite crypto c peer)
    (random : (count : Nat) → List.Vector UInt8 count) {packetID : UInt32} (hid : packetID ≠ 0)
    (aadPrefix : Bytes) {payload : Bytes} (hpayload : c.feedback = true → payload ≠ []) :
    ∃ packet, c.encode crypto random packetID aadPrefix payload = .ok packet ∧
      packet.length = c.encodedLength payload.length ∧
      ∀ r, Reachable (dataReceiverSystem crypto peer) r → ∀ now arrival,
        ((r.codec.decode crypto aadPrefix packet now arrival).1 = .ok (packetID.toNat, payload) ↔
          (c.sendTimestamp, packetID.toNat) ∉ r.seen ∧
            r.codec.replayWindow.Holds packetID.toNat c.sendTimestamp now) := by
  obtain ⟨hopened, hfresh⟩ := hbuilt.openedBy hblocks
  obtain ⟨packet, hencode, hlength, hopen⟩ := hopened random packetID aadPrefix payload hid hpayload
  refine ⟨packet, hencode, hlength, ?_⟩
  intro r hreachable now arrival
  obtain ⟨w, hcodec, hexact, hshort⟩ := received_of_reachable hfresh hreachable
  have hnonzero : packetID.toNat ≠ 0 := fun heq => hid (UInt32.toNat_inj.mp heq)
  rw [hcodec]
  have hopen' : (peer.withReplayWindow w).openPacket crypto aadPrefix packet =
      .ok (packetID.toNat, c.sendTimestamp, payload) := by
    rw [AnyDataCodec.openPacket_withReplayWindow, hopen]
  have hshort' : (peer.withReplayWindow w).longForm = false →
      (peer.withReplayWindow w).replayWindow.highestTimestamp = 0 := by
    rw [AnyDataCodec.longForm_withReplayWindow, AnyDataCodec.replayWindow_withReplayWindow]
    exact hshort
  obtain ⟨err, hdecode⟩ := AnyDataCodec.decode_of_ok hopen' hshort' now arrival
  obtain ⟨haccepts, -⟩ :=
    hexact.acceptLongForm hnonzero packetID.toNat_lt c.sendTimestamp now arrival
  rw [hdecode, AnyDataCodec.replayWindow_withReplayWindow, ← haccepts]
  dsimp only
  split <;> simp_all

/-! ### An id that the window has left behind -/

section Example

def firstByteDataPrimitives : DataPrimitives where
  toCryptoPrimitives := firstBytePrimitives
  newGCM _ := .error "unsupported"
  newChaCha20Poly1305 _ := .error "unsupported"

def plainTag (nonce additionalData : Bytes) : Bytes :=
  (additionalData ++ nonce ++ List.replicate 16 0).take 16

theorem length_plainTag (nonce additionalData : Bytes) :
    (plainTag nonce additionalData).length = 16 :=
  List.length_take_of_le (by simp; omega)

/-- An AEAD cipher whose tag is additional data and nonce. -/
def plainTagAEAD : AEAD where
  sealPayload nonce plaintext additionalData := plaintext ++ plainTag nonce additionalData
  openSealed nonce ciphertext additionalData :=
    if ciphertext.drop (ciphertext.length - 16) = plainTag nonce additionalData then
      .ok (ciphertext.take (ciphertext.length - 16))
    else .error "message authentication failed"
  length_sealPayload nonce plaintext additionalData := by simp [length_plainTag]
  openSealed_sealPayload nonce plaintext additionalData := by simp [length_plainTag]

def plainTagCodec : TLSGCMDataCodec where
  sendAEAD := plainTagAEAD
  sendIVSuffix := List.replicate 8 9
  receiveAEAD := plainTagAEAD
  receiveIVSuffix := List.replicate 8 9
  replayWindow := newReplayWindow defaultReplayWindowSize defaultReplayWindowTime
  length_sendIVSuffix := rfl
  length_receiveIVSuffix := rfl

def staleArrays : AEADArrays :=
  ⟨List.replicate 32 255, List.replicate 8 255, by simp, by simp⟩

theorem gcm_buffers_equal_copies_stale :
    ∃ packet, plainTagCodec.encode 1 [72, 0, 0, 1] [1, 2, 3] = .ok packet ∧
      (∃ result arrays, plainTagCodec.encodeBuffer staleArrays 1 [72, 0, 0, 1]
          ⟨[], [1, 2, 3], []⟩ = some (result, arrays) ∧
        result.map DataBuffer.content = .ok packet) ∧
      ∃ arrays, DataCodec.decodeInPlace plainTagCodec staleArrays [72, 0, 0, 1] packet 0 0 =
        some ((DataCodec.gcm plainTagCodec).decode firstByteDataPrimitives [72, 0, 0, 1] packet 0 0,
          arrays) :=
  ⟨_, rfl, gcm_buffers_equal_copies firstByteDataPrimitives plainTagCodec staleArrays staleArrays 1
    [72, 0, 0, 1] (by decide) ⟨[], [1, 2, 3], []⟩ _ 0 0⟩

theorem blocksHoldIDs_firstByte : BlocksHoldIDs firstByteDataPrimitives := by
  intro algorithm cipherKey cipher h
  cases h
  decide

/-- One end of a static key that sends with slot `direction`. -/
def exampleStaticCodec (direction : Int) : Except String StaticKeyDataCodec :=
  newStaticKeyDataCodec firstBytePrimitives zeroOneKeyMaterial direction "AES-128-CBC" "SHA1"
    (dataReplayWindowParameters 0 0).1 (dataReplayWindowParameters 0 0).2 1

/-- A peer that has received packet 100 refuses packet 1, which it never saw: it lies more
    than the 64 ids of the window behind. -/
theorem unseen_id_refused :
    ∃ c peer packet r, BuiltOpposite firstByteDataPrimitives c peer ∧
      c.encode firstByteDataPrimitives (fun count => List.Vector.replicate count 0) 1 [] [7] =
        .ok packet ∧
      Reachable (dataReceiverSystem firstByteDataPrimitives peer) r ∧ r.seen = [(1, 100)] ∧
      (r.codec.decode firstByteDataPrimitives [] packet 0 0).1 =
        .error "replayed static key data packet" := by
  have hbuilt : ∃ c peer newest packet, exampleStaticCodec 0 = .ok c ∧
      exampleStaticCodec 1 = .ok peer ∧
      (AnyDataCodec.staticKey c).encode firstByteDataPrimitives
        (fun count => List.Vector.replicate count 0) 100 [] [7] = .ok newest ∧
      (AnyDataCodec.staticKey c).encode firstByteDataPrimitives
        (fun count => List.Vector.replicate count 0) 1 [] [7] = .ok packet ∧
      seenAfter ((AnyDataCodec.staticKey peer).decode firstByteDataPrimitives [] newest 0 0) [] =
        [(1, 100)] ∧
      (((AnyDataCodec.staticKey peer).decode firstByteDataPrimitives [] newest 0 0).2.decode
        firstByteDataPrimitives [] packet 0 0).1 = .error "replayed static key data packet" :=
    ⟨_, _, _, _, rfl, rfl, rfl, rfl, by decide +kernel, by decide +kernel⟩
  obtain ⟨c, peer, newest, packet, hc, hpeer, -, hpacket, hseen, hrefused⟩ := hbuilt
  refine ⟨.staticKey c, .staticKey peer, packet, ⟨_, _⟩, .staticKey (.inl ⟨rfl, rfl⟩) hc hpeer,
    hpacket, ?_, hseen, hrefused⟩
  exact .next (.start rfl) trivial
    (show (dataReceiverSystem firstByteDataPrimitives (.staticKey peer)).step
      ⟨.staticKey peer, []⟩ ⟨[], newest, 0, 0⟩ = _ from rfl)

/-- A fresh peer returns packet 100. -/
theorem data_codec_round_trip_staticKey :
    ∃ c peer packet, BuiltOpposite firstByteDataPrimitives c peer ∧
      c.encode firstByteDataPrimitives (fun count => List.Vector.replicate count 0) 100 [] [7] =
        .ok packet ∧
      packet.length = c.encodedLength 1 ∧
      (peer.decode firstByteDataPrimitives [] packet 0 0).1 = .ok (100, [7]) := by
  have hbuilt : ∃ c peer, exampleStaticCodec 0 = .ok c ∧ exampleStaticCodec 1 = .ok peer :=
    ⟨_, _, rfl, rfl⟩
  obtain ⟨c, peer, hc, hpeer⟩ := hbuilt
  have hopposite : BuiltOpposite firstByteDataPrimitives (.staticKey c) (.staticKey peer) :=
    .staticKey (.inl ⟨rfl, rfl⟩) hc hpeer
  have hid : (100 : UInt32) ≠ 0 := by decide
  have hpayload : (AnyDataCodec.staticKey c).feedback = true → ([7] : Bytes) ≠ [] := by simp
  obtain ⟨packet, hencode, hlength, hdecode⟩ := data_codec_round_trip firstByteDataPrimitives
    blocksHoldIDs_firstByte hopposite (fun count => List.Vector.replicate count 0) hid [] hpayload
  refine ⟨_, _, packet, hopposite, hencode, hlength, ?_⟩
  refine (hdecode ⟨.staticKey peer, []⟩ (.start rfl) 0 0).mpr ⟨List.not_mem_nil, ?_⟩
  intro hinit
  cases hpeer
  cases hinit

end Example

end SingOpenVPN
