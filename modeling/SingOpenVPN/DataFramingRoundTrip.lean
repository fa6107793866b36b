import SingOpenVPN.DataFraming

/-!
# Frames are read back (`data_channel_framing.go`, `data_channel_compression.go`)

The marker that a setting writes is the one its reader takes off, for every payload: one that
begins with a marker is escaped or moved behind it, and a compressed one decodes to itself.
Two ends with the same settings then stay in step: between two packets the receiver has
nothing buffered (`InStep`), so each packet that is fed piece by piece comes out with its last
piece.
-/

namespace SingOpenVPN

open Chunks TransitionSystem DataChannelFraming FragmentSend

/-! ### Markers -/

section Markers

variable (decoders : BlockDecoders) (payload : Bytes)

theorem unswapV1FrameHead_swapped (marker head : UInt8) (tail : Bytes) :
    unswapV1FrameHead (marker :: tail ++ [head]) = head :: tail := by
  have hlength : (marker :: tail ++ [head]).length - 1 = (marker :: tail).length := by simp
  rw [unswapV1FrameHead, if_neg (by simp), hlength, List.take_left', List.getD_eq_getElem?_getD,
    List.getElem?_append_right le_rfl, Nat.sub_self]
  · rfl
  · rfl

theorem unswapV1FrameHead_applyStub :
    unswapV1FrameHead (applyStubCompressionFrame payload true) = payload := by
  cases payload with
  | nil => rfl
  | cons head tail => exact unswapV1FrameHead_swapped _ head tail

theorem applyStubCompressionFrame_swap :
    ∃ rest, applyStubCompressionFrame payload true = openVPNNoCompressByteSwap :: rest := by
  cases payload with
  | nil => exact ⟨[], rfl⟩
  | cons head tail => exact ⟨tail ++ [head], rfl⟩

theorem unframeStubCompression_apply (swap : Bool) :
    unframeStubCompression (applyStubCompressionFrame payload swap) swap = .ok payload := by
  cases swap with
  | false => rfl
  | true =>
    obtain ⟨rest, hrest⟩ := applyStubCompressionFrame_swap payload
    have hunswap := unswapV1FrameHead_applyStub payload
    rw [hrest] at hunswap
    rw [hrest, unframeStubCompression, if_neg (by decide), if_neg (by decide), hunswap]

theorem decodeLZ4V1Frame_apply :
    decoders.decodeLZ4V1Frame (applyStubCompressionFrame payload true) = .ok payload := by
  obtain ⟨rest, hrest⟩ := applyStubCompressionFrame_swap payload
  have hunswap := unswapV1FrameHead_applyStub payload
  rw [hrest] at hunswap
  rw [hrest, BlockDecoders.decodeLZ4V1Frame, if_pos rfl, hunswap]

/-- Only a payload that begins with the indicator changes, and it is the one case in which
    the indicator is looked at. -/
theorem unwrapV2Compression_escape (algorithm : CompressionAlgorithm) :
    decoders.unwrapV2Compression algorithm (escapeV2StubCompression payload) = .ok payload := by
  cases payload with
  | nil => rfl
  | cons head tail =>
    rw [escapeV2StubCompression]
    by_cases hhead : head = openVPNCompressV2IndicatorByte
    · rw [if_neg (not_not.mpr hhead)]
      rfl
    · rw [if_pos hhead, BlockDecoders.unwrapV2Compression, if_pos (by simpa using hhead)]

theorem decompressLZOBlock_compress (hnonempty : payload ≠ [])
    (hlength : payload.length ≤ openVPNLZOMaxDecompressedSize) :
    decoders.decompressLZOBlock (compressLZOBlock payload) = .ok payload := by
  have hcompressed : (compressLZOBlock payload).length ≠ 0 := by
    rw [compressLZOBlock]
    simp
  rw [BlockDecoders.decompressLZOBlock, if_neg hcompressed,
    decoders.lzo_standard _ _ (decompress_compressLZOBlock hnonempty) hlength]
  exact if_neg fun hzero => hnonempty (List.length_eq_zero_iff.mp hzero)

end Markers

/-! ### Frames -/

namespace DataChannelFraming

variable (f : DataChannelFraming) (now : Time) (payload : Bytes)

def outside (f : DataChannelFraming) :
    CompressionSettings × Bool × Nat × Nat × FragmentReceiver :=
  (f.compression, f.compressOutbound, f.fragmentSize, f.outgoingSequence, f.receiver)

theorem outside_lzoCompressionEnabled : (f.lzoCompressionEnabled now).2.outside = f.outside := by
  rw [lzoCompressionEnabled]
  split_ifs <;> rfl

/-- An LZO frame is a marker and the payload, or a marker and what the compressor made of
    it, when that is shorter. -/
theorem encodeLZOFrame_spec :
    ((f.encodeLZOFrame now payload).1 = openVPNNoCompressByte :: payload ∨
      (f.encodeLZOFrame now payload).1 = openVPNLZOCompressByte :: compressLZOBlock payload ∧
        openVPNCompressionThreshold ≤ payload.length ∧
        (compressLZOBlock payload).length < payload.length) ∧
      (f.encodeLZOFrame now payload).2.outside = f.outside := by
  have hrecord : ∀ g : DataChannelFraming, g.outside = f.outside → ∀ total compressed,
      (if g.compression.adaptive then g.recordLZOCompression total compressed else g).outside =
        f.outside := by
    intro g hg total compressed
    split
    · exact hg
    · exact hg
  have henabled := f.outside_lzoCompressionEnabled now
  rw [encodeLZOFrame]
  split
  · exact ⟨.inl rfl, rfl⟩
  · next hlong =>
    rw [not_or] at hlong
    dsimp only
    split
    · exact ⟨.inl rfl, henabled⟩
    · split
      · exact ⟨.inl rfl, hrecord _ henabled _ _⟩
      · next hshorter =>
        exact ⟨.inr ⟨rfl, not_lt.mp hlong.2, not_le.mp hshorter⟩, hrecord _ henabled _ _⟩

theorem outside_frame : (f.frame now payload).2.outside = f.outside := by
  rw [frame]
  split <;> first | rfl | exact (f.encodeLZOFrame_spec now payload).2

theorem length_frame : (f.frame now payload).1.length ≤ payload.length + 2 := by
  have hstub : ∀ swap, (applyStubCompressionFrame payload swap).length = payload.length + 1 := by
    intro swap
    cases swap with
    | false => rfl
    | true =>
      cases payload with
      | nil => rfl
      | cons head tail => simp [applyStubCompressionFrame]
  have hescape : (escapeV2StubCompression payload).length ≤ payload.length + 2 := by
    cases payload with
    | nil => exact Nat.zero_le _
    | cons head tail =>
      rw [escapeV2StubCompression]
      split
      · exact Nat.le_add_right _ _
      · exact le_rfl
  rw [frame]
  split
  · exact Nat.le_add_right _ _
  · exact (hstub _).le.trans (Nat.le_succ _)
  · exact (hstub true).le.trans (Nat.le_succ _)
  · rcases (f.encodeLZOFrame_spec now payload).1 with heq | ⟨heq, -, hshorter⟩
    · rw [heq]
      exact Nat.le_succ _
    · rw [heq, List.length_cons]
      omega
  · exact hescape
  · exact hescape

theorem unframe_frame (decoders : BlockDecoders) {g : DataChannelFraming}
    (hcompression : g.compression = f.compression)
    (hlength : payload.length ≤ openVPNLZOMaxDecompressedSize) :
    g.unframe decoders (f.frame now payload).1 = .ok payload := by
  rw [unframe, frame, hcompression]
  cases f.compression.algorithm with
  | none => rfl
  | stub => exact unframeStubCompression_apply payload _
  | lz4 => exact decodeLZ4V1Frame_apply decoders payload
  | stubV2 | lz4V2 => exact unwrapV2Compression_escape decoders payload _
  | lzo =>
    rcases (f.encodeLZOFrame_spec now payload).1 with heq | ⟨heq, hthreshold, -⟩
    · rw [heq]
      rfl
    · rw [heq]
      refine decompressLZOBlock_compress decoders payload ?_ hlength
      rintro rfl
      exact absurd hthreshold (by decide)

end DataChannelFraming

/-! ### Two ends -/

/-- A call of `Encode`, and when each of the pieces is fed to the peer. -/
structure FramedSend where
  payload : Bytes
  fragmentSize : Int
  now : Time
  arrival : Nat → Time
  order : Nat → RangeOrder

structure FramingPair where
  sender : Option DataChannelFraming
  receiver : Option DataChannelFraming

section Pair

variable (decoders : BlockDecoders)

def feed (send : FramedSend) :
    Nat → Option DataChannelFraming → List Bytes →
      List (Except String (Option Bytes)) × Option DataChannelFraming
  | _, f, [] => ([], f)
  | index, f, piece :: pieces =>
    let (result, f) :=
      DataChannelFraming.decode decoders f (send.order index) (send.arrival index) piece
    let (results, f) := feed send (index + 1) f pieces
    (result :: results, f)

/-- A packet: the pieces of a successful encoding are fed to the peer. -/
def exchange (pair : FramingPair) (send : FramedSend) : FramingPair :=
  let (encoded, sender) :=
    DataChannelFraming.encode pair.sender send.now send.payload send.fragmentSize
  match encoded with
  | .error _ => { pair with sender := sender }
  | .ok pieces => { sender := sender, receiver := (feed decoders send 0 pair.receiver pieces).2 }

def framingSystem (compression : CompressionSettings) (fragment : Nat)
    (allowCompression : AllowCompressionPolicy) : System FramingPair FramedSend where
  initial pair := ∃ random random', pair =
    { sender := newDataChannelFraming compression fragment allowCompression random
      receiver := newDataChannelFraming compression fragment allowCompression random' }
  step pair send := some (exchange decoders pair send)

/-- The payload is not too long, and no piece keeps the next one waiting for longer than
    fragments are kept. -/
def FramedSend.Prompt (send : FramedSend) : Prop :=
  send.payload.length ≤ 65533 ∧
    ∀ index, send.arrival (index + 1) - send.arrival index < openVPNFragmentReassemblyTimeout

/-- The ends have the same settings, and the receiver has nothing buffered. -/
structure InStep (sender receiver : DataChannelFraming) : Prop where
  compression : receiver.compression = sender.compression
  fragmentSize : receiver.fragmentSize = sender.fragmentSize
  sequence : sender.outgoingSequence < 256
  idle : receiver.receiver.Idle

/-- Both ends are nil, or they are in step. -/
inductive FramingPair.Agree : FramingPair → Prop
  | none : Agree { sender := none, receiver := none }
  | some {sender receiver : DataChannelFraming} : InStep sender receiver →
      Agree { sender := some sender, receiver := some receiver }

variable {decoders} {send : FramedSend} {receiver : DataChannelFraming}

section Fragments

variable {order : RangeOrder} {now : Time} {piece : Bytes} (hfragment : receiver.fragmentSize ≠ 0)

include hfragment

theorem decodeFramed_part
    (h : (receiver.receiver.decodeFragment order now piece).1 = .ok none) :
    receiver.decodeFramed decoders order now piece =
      (.ok none,
        { receiver with
          receiver := (receiver.receiver.decodeFragment order now piece).2 }) := by
  rw [decodeFramed, if_neg hfragment]
  dsimp only
  rw [h]

theorem decodeFramed_complete {framed : Bytes}
    (h : (receiver.receiver.decodeFragment order now piece).1 = .ok (some framed)) :
    receiver.decodeFramed decoders order now piece =
      ((receiver.unframe decoders framed).map some,
        { receiver with
          receiver := (receiver.receiver.decodeFragment order now piece).2 }) := by
  rw [decodeFramed, if_neg hfragment]
  dsimp only
  rw [h]
  rfl

end Fragments

theorem feed_cons (index : Nat) (piece : Bytes) (pieces : List Bytes) :
    feed decoders send index (some receiver) (piece :: pieces) =
      let decoded :=
        receiver.decodeFramed decoders (send.order index) (send.arrival index) piece
      let rest := feed decoders send (index + 1) (some decoded.2) pieces
      (decoded.1 :: rest.1, rest.2) := rfl

/-- The fragment that comes next finds the ones before it. -/
def Expecting (fragmented : FragmentSend) (sequenceID : Nat) (send : FramedSend)
    (f : FragmentReceiver) (index : Nat) : Prop :=
  f.limits = newFragmentReceiver.limits ∧ ∃ g b,
    (f.arrived (send.order index) (send.arrival index) sequenceID).openBuffer
      (send.arrival index) sequenceID fragmented.size = (g, b) ∧
    fragmented.Holding sequenceID g b index

theorem feed_fragments {fragmented : FragmentSend} {sequenceID count : Nat}
    (hprompt : send.Prompt) (hfragment : receiver.fragmentSize ≠ 0) (hcut : fragmented.Consumes)
    (hlength : fragmented.payload.length ≤ 65535) (hsequence : sequenceID < 256)
    (hcount : count ≤ 32)
    (hindexes : ∀ index, index < count ↔ index * fragmented.size < fragmented.payload.length)
    (hunframe : receiver.unframe decoders fragmented.payload = .ok send.payload)
    {more index : Nat} (hmore : index + (more + 1) = count)
    (hexpecting : Expecting fragmented sequenceID send receiver.receiver index) :
    ∃ f : FragmentReceiver, f.Idle ∧
      feed decoders send index (some receiver)
          ((List.range' index (more + 1)).map (fragmented.fragment sequenceID)) =
        (List.replicate more (.ok none) ++ [.ok (some send.payload)],
          some { receiver with receiver := f }) := by
  have hsize : fragmented.size ≤ 65535 := hcut.size_lt.le.trans hlength
  have hfits : ∀ {f b now fed}, fed * fragmented.size < fragmented.payload.length →
      fragmented.Holding sequenceID f b fed → (fragmented.stored b now fed).bytes ≤ 65535 :=
    fun hindex hholding =>
      (hholding.parts.stored hcut hindex).bytes_le.trans (by exact_mod_cast hlength)
  induction more generalizing index receiver with
  | zero =>
    obtain ⟨hlimits, g, b, hopen, hholding⟩ := hexpecting
    have hindex := (hindexes index).mp (by omega)
    have hlast : fragmented.isLast index = true := by
      have hend := mt (hindexes (index + 1)).mpr (by omega)
      exact decide_eq_true (not_lt.mp hend)
    have hnext := decodeFragment_next (send.order index) hcut hsize hsequence
      (by omega) hindex hlimits hopen hholding (hfits hindex hholding)
    rw [hlast, if_pos rfl] at hnext
    obtain ⟨hresult, hidle⟩ := hnext
    refine ⟨_, hidle, ?_⟩
    rw [List.range'_one, List.map_singleton, feed_cons, decodeFramed_complete hfragment hresult,
      hunframe]
    rfl
  | succ more ih =>
    obtain ⟨hlimits, g, b, hopen, hholding⟩ := hexpecting
    have hindex := (hindexes index).mp (by omega)
    have hlast : fragmented.isLast index = false := by
      have hend := (hindexes (index + 1)).mp (by omega)
      exact decide_eq_false (not_le.mpr hend)
    have hnext := decodeFragment_next (send.order index) hcut hsize hsequence
      (by omega) hindex hlimits hopen hholding (hfits hindex hholding)
    rw [hlast, if_neg Bool.false_ne_true] at hnext
    obtain ⟨hresult, b', hholding', hupdated⟩ := hnext
    have hsoon : send.arrival (index + 1) - b'.updated < openVPNFragmentReassemblyTimeout := by
      rw [hupdated]
      exact hprompt.2 index
    obtain ⟨f, hidle, hfeed⟩ := @ih { receiver with receiver :=
        (receiver.receiver.decodeFragment (send.order index) (send.arrival index)
          (fragmented.fragment sequenceID index)).2 } hfragment hunframe (index + 1) (by omega)
      ⟨hholding'.limits, _, b', holding_next _ hholding' hsoon, hholding'⟩
    refine ⟨f, hidle, ?_⟩
    rw [List.range'_succ, List.map_cons, feed_cons, decodeFramed_part hfragment hresult]
    dsimp only
    rw [hfeed]
    rfl

variable {sender : DataChannelFraming}

theorem frame_outside (sender : DataChannelFraming) (now : Time) (payload : Bytes) :
    (sender.frame now payload).2.fragmentSize = sender.fragmentSize ∧
      (sender.frame now payload).2.outgoingSequence = sender.outgoingSequence ∧
      (sender.frame now payload).2.compression = sender.compression := by
  have houtside := sender.outside_frame now payload
  exact ⟨congrArg (·.2.2.1) houtside, congrArg (·.2.2.2.1) houtside, congrArg (·.1) houtside⟩

def framedFragments (sender : DataChannelFraming) (send : FramedSend) : FragmentSend where
  payload := (sender.frame send.now send.payload).1
  fragmentSize := send.fragmentSize

/-- The sender stays as it is, up to its counters. -/
theorem InStep.encoded (h : InStep sender receiver) (send : FramedSend) :
    InStep (sender.encodeFramed send.now send.payload send.fragmentSize).2 receiver := by
  obtain ⟨hfragment, hsequence, hcompression⟩ := frame_outside sender send.now send.payload
  rw [encodeFramed]
  dsimp only
  split
  · exact ⟨h.compression.trans hcompression.symm, h.fragmentSize.trans hfragment.symm,
      hsequence ▸ h.sequence, h.idle⟩
  · refine ⟨h.compression.trans hcompression.symm, h.fragmentSize.trans hfragment.symm, ?_, h.idle⟩
    change (encodeFragments (sender.frame send.now send.payload).2.outgoingSequence
      (framedFragments sender send).payload (framedFragments sender send).fragmentSize).2 < 256
    rw [hsequence, encodeFragments_snd]
    split
    · exact Nat.mod_lt _ (by decide)
    · exact h.sequence

theorem InStep.feed_encoded (h : InStep sender receiver) (hprompt : send.Prompt)
    {pieces : List Bytes}
    (hencode : (sender.encodeFramed send.now send.payload send.fragmentSize).1 = .ok pieces) :
    ∃ (silent : Nat) (f : FragmentReceiver), f.Idle ∧
      feed decoders send 0 (some receiver) pieces =
        (List.replicate silent (.ok none) ++ [.ok (some send.payload)],
          some { receiver with receiver := f }) := by
  obtain ⟨hfragment, hsequence, -⟩ := frame_outside sender send.now send.payload
  have hunframe : receiver.unframe decoders (sender.frame send.now send.payload).1 =
      .ok send.payload :=
    sender.unframe_frame send.now send.payload decoders h.compression
      (hprompt.1.trans (by decide))
  rw [encodeFramed] at hencode
  dsimp only at hencode
  rw [hfragment, hsequence] at hencode
  by_cases hwhole : sender.fragmentSize = 0
  · rw [if_pos hwhole] at hencode
    obtain rfl := Except.ok.inj hencode
    refine ⟨0, receiver.receiver, h.idle, ?_⟩
    rw [feed_cons, decodeFramed, if_pos (h.fragmentSize.trans hwhole), hunframe]
    rfl
  · rw [if_neg hwhole] at hencode
    have hreceiver : receiver.fragmentSize ≠ 0 := h.fragmentSize ▸ hwhole
    by_cases hcut : (framedFragments sender send).Consumes
    · obtain ⟨count, hcount, rfl, hindexes⟩ := encodeFragments_cut hcut hencode
      have hmany : 1 < count := (hindexes 1).mpr (by rw [one_mul]; exact hcut.size_lt)
      obtain ⟨more, rfl⟩ : ∃ more, count = more + 1 := ⟨count - 1, by omega⟩
      obtain ⟨f, hidle, hfeed⟩ := feed_fragments hprompt hreceiver hcut
        ((sender.length_frame send.now send.payload).trans (Nat.add_le_add_right hprompt.1 2))
        h.sequence hcount hindexes hunframe (zero_add _)
        ⟨h.idle.limits, holding_first _ h.idle⟩
      rw [List.range_eq_range']
      exact ⟨more, f, hidle, hfeed⟩
    · obtain rfl := encodeFragments_whole hcut hencode
      refine ⟨0, receiver.receiver, h.idle, ?_⟩
      have hdecode := decodeFragment_whole (send.order 0) receiver.receiver (send.arrival 0)
        (framedFragments sender send).payload
      rw [feed_cons, decodeFramed_complete hreceiver (congrArg Prod.fst hdecode), hdecode,
        show receiver.unframe decoders (framedFragments sender send).payload = _ from hunframe]
      rfl

theorem agree_exchange {pair : FramingPair} (h : pair.Agree) (hprompt : send.Prompt) :
    (exchange decoders pair send).Agree := by
  cases h with
  | none => exact .none
  | @some sender receiver hstep =>
    have hencoded := hstep.encoded send
    cases hresult : (sender.encodeFramed send.now send.payload send.fragmentSize).1 with
    | error message =>
      have heq : exchange decoders { sender := some sender, receiver := some receiver } send =
          { sender := some (sender.encodeFramed send.now send.payload send.fragmentSize).2
            receiver := some receiver } := by
        simp only [exchange, encode, hresult]
      rw [heq]
      exact .some hencoded
    | ok pieces =>
      obtain ⟨silent, f, hidle, hfeed⟩ := hstep.feed_encoded hprompt hresult
      have heq : exchange decoders { sender := some sender, receiver := some receiver } send =
          { sender := some (sender.encodeFramed send.now send.payload send.fragmentSize).2
            receiver := (feed decoders send 0 (some receiver) pieces).2 } := by
        simp only [exchange, encode, hresult]
      rw [heq, hfeed]
      exact .some ⟨hencoded.compression, hencoded.fragmentSize, hencoded.sequence, hidle⟩

theorem agree_initial {compression : CompressionSettings} {fragment : Nat}
    {allowCompression : AllowCompressionPolicy} {pair : FramingPair}
    (h : (framingSystem decoders compression fragment allowCompression).initial pair) :
    pair.Agree := by
  obtain ⟨random, random', rfl⟩ := h
  rw [newDataChannelFraming, newDataChannelFraming]
  split
  · exact .none
  · refine .some ⟨rfl, rfl, ?_, rfl, fun key => AList.lookup_empty key, rfl⟩
    exact lt_of_le_of_lt Nat.and_le_right (by decide)

/-- Data framing round trip: after any exchanges, the pieces of an encoding that are fed to
    the peer one soon after the other return the payload with the last one. -/
theorem data_framing_round_trip (decoders : BlockDecoders) (compression : CompressionSettings)
    (fragment : Nat) (allowCompression : AllowCompressionPolicy) {pair : FramingPair}
    (hreach : ReachableBy (framingSystem decoders compression fragment allowCompression)
      (fun _ send => send.Prompt) pair) {send : FramedSend} (hprompt : send.Prompt)
    {pieces : List Bytes}
    (hencode : (DataChannelFraming.encode pair.sender send.now send.payload
      send.fragmentSize).1 = .ok pieces) :
    ∃ silent, (feed decoders send 0 pair.receiver pieces).1 =
      List.replicate silent (.ok none) ++ [.ok (some send.payload)] := by
  have hagree : pair.Agree := by
    refine hreach.invariant (fun _ => agree_initial) fun pair send pair' hagree hsend hstep => ?_
    cases hstep
    exact agree_exchange hagree hsend
  cases hagree with
  | none =>
    obtain rfl := Except.ok.inj hencode
    exact ⟨0, rfl⟩
  | some hstep =>
    obtain ⟨silent, f, -, hfeed⟩ := hstep.feed_encoded hprompt hencode
    exact ⟨silent, congrArg Prod.fst hfeed⟩

end Pair

/-! ### A packet in two pieces -/

section Example

def standardDecoders : BlockDecoders where
  lzo := LZO1X.decompress
  lz4 _ := none
  lzo_standard _ _ h _ := h

def swappedStub : CompressionSettings where
  algorithm := .stub
  swap := true
  adaptive := false
  asymmetric := false

/-- A payload that begins with a marker, and its second piece after `delay`. -/
def exampleFramedSend (delay : Duration) : FramedSend where
  payload := [0xfb, 1, 2, 3, 4, 5]
  fragmentSize := 4
  now := 0
  arrival index := index * delay
  order _ := { range := fun keys => keys, perm := fun keys => List.Perm.refl keys }

def exampleFraming : Option DataChannelFraming := newDataChannelFraming swappedStub 68 .stubOnly 0

def examplePieces : List Bytes := [[0, 0, 0, 1, 0xfb, 1, 2, 3], [0, 0, 0x84, 2, 4, 5, 0xfb]]

theorem encode_exampleFramedSend (delay : Duration) :
    (encode exampleFraming (exampleFramedSend delay).now
      (exampleFramedSend delay).payload (exampleFramedSend delay).fragmentSize).1 =
        .ok examplePieces := by
  change (encode exampleFraming 0 [0xfb, 1, 2, 3, 4, 5] 4).1 = _
  decide +kernel

theorem data_framing_round_trip_two_pieces :
    ∃ silent, (feed standardDecoders (exampleFramedSend (10 ^ 9)) 0 exampleFraming
      examplePieces).1 = List.replicate silent (.ok none) ++
        [.ok (some [0xfb, 1, 2, 3, 4, 5])] := by
  have hprompt : (exampleFramedSend (10 ^ 9)).Prompt := by
    refine ⟨show 6 ≤ 65533 by decide, fun index => ?_⟩
    have hsecond : ((index + 1 : Nat) : Int) * 1000000000 - index * 1000000000 < 30000000000 := by
      omega
    exact hsecond
  exact data_framing_round_trip standardDecoders swappedStub 68 .stubOnly (.start ⟨0, 0, rfl⟩)
    hprompt (encode_exampleFramedSend _)

/-- A piece that comes thirty seconds after the one before finds nothing. -/
theorem late_piece_loses_payload :
    (DataChannelFraming.encode exampleFraming (exampleFramedSend (30 * 10 ^ 9)).now
        (exampleFramedSend (30 * 10 ^ 9)).payload
        (exampleFramedSend (30 * 10 ^ 9)).fragmentSize).1 = .ok examplePieces ∧
      (feed standardDecoders (exampleFramedSend (30 * 10 ^ 9)) 0 exampleFraming
        examplePieces).1 = [.ok none, .ok none] :=
  ⟨encode_exampleFramedSend _, by decide +kernel⟩

end Example

end SingOpenVPN
