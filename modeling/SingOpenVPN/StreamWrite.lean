import Mathlib.Data.List.TakeWhile
import SingOpenVPN.Basic
import SingOpenVPN.ByteCodec

/-!
# Writing packets to a stream link (`proto/connection.go`)

On a connection-oriented link every packet goes out behind its length.  A batch of
packets is handed to the socket as one or several buffers; when the socket takes only
part of the bytes, the number of packets that are wholly on the wire is recovered
from the byte count, and a link whose bytes end inside a frame is closed.

Packets longer than the length field can say end the batch, empty packets are
skipped.  Releasing buffers and the datagram links are not modelled.
-/

namespace SingOpenVPN

open ByteCodec List

def streamPacketLengthSize : Nat := 2

def maxUint16 : Nat := 65535

/-! ### The socket -/

/-- What one call returns; a count beyond what was offered means all of it. -/
structure WriteOutcome (ε : Type) where
  count : Nat
  err : Option ε

/-- How a connection takes several buffers (`net.Buffers.WriteTo`): a TCP connection with
    one `writev`, any other with one `Write` for each buffer, numbered here. -/
inductive WriteSocket (ε : Type) where
  | writev (outcome : Bytes → WriteOutcome ε)
  | writes (outcome : Nat → Bytes → WriteOutcome ε)

/-- What `WriteTo` returns, and the bytes that are on the wire then. -/
structure Written (ε : Type) where
  count : Nat
  err : Option ε
  wire : Bytes

namespace WriteSocket

variable {ε : Type}

def writeEach (outcome : Nat → Bytes → WriteOutcome ε) : Nat → List Bytes → Written ε
  | _, [] => ⟨0, none, []⟩
  | call, buffer :: buffers =>
    let written := min (outcome call buffer).count buffer.length
    match (outcome call buffer).err with
    | some err => ⟨written, some err, buffer.take written⟩
    | none =>
      let others := writeEach outcome (call + 1) buffers
      ⟨written + others.count, others.err, buffer.take written ++ others.wire⟩

def writeTo (socket : WriteSocket ε) (buffers : List Bytes) : Written ε :=
  match socket with
  | .writev outcome =>
    let written := min (outcome buffers.flatten).count buffers.flatten.length
    ⟨written, (outcome buffers.flatten).err, buffers.flatten.take written⟩
  | .writes outcome => writeEach outcome 0 buffers

/-- The contract of `io.Writer`: a write that takes less than it was offered returns an
    error. -/
def Lawful : WriteSocket ε → Prop
  | .writev _ => True
  | .writes outcome => ∀ call buffer, (outcome call buffer).err = none →
      buffer.length ≤ (outcome call buffer).count

theorem writeEach_spec {outcome : Nat → Bytes → WriteOutcome ε} (buffers : List Bytes) (call : Nat)
    (hlawful : ∀ call buffer, (outcome call buffer).err = none →
      buffer.length ≤ (outcome call buffer).count) :
    (writeEach outcome call buffers).count ≤ buffers.flatten.length ∧
    (writeEach outcome call buffers).wire =
      buffers.flatten.take (writeEach outcome call buffers).count := by
  induction buffers generalizing call with
  | nil => exact ⟨le_refl _, rfl⟩
  | cons buffer buffers ih =>
    rw [writeEach, flatten_cons]
    cases herr : (outcome call buffer).err with
    | some err =>
      rw [length_append, take_append_of_le_length (min_le_right _ _)]
      exact ⟨le_trans (min_le_right _ _) (Nat.le_add_right _ _), rfl⟩
    | none =>
      obtain ⟨hcount, hwire⟩ := ih (call + 1)
      dsimp only
      rw [min_eq_right (hlawful call buffer herr), length_append, take_length,
        take_length_add_append, hwire]
      exact ⟨Nat.add_le_add_left hcount _, rfl⟩

/-- What is on the wire are the first bytes of the buffers, as many as `WriteTo` says; with
    several buffers this needs the contract of `Write`. -/
theorem writeTo_spec (socket : WriteSocket ε) (buffers : List Bytes)
    (h : socket.Lawful ∨ buffers.length ≤ 1) :
    (socket.writeTo buffers).count ≤ buffers.flatten.length ∧
    (socket.writeTo buffers).wire = buffers.flatten.take (socket.writeTo buffers).count := by
  cases socket with
  | writev outcome => exact ⟨min_le_right _ _, rfl⟩
  | writes outcome =>
    rcases h with hlawful | hsingle
    · exact writeEach_spec buffers 0 hlawful
    · match buffers, hsingle with
      | [], _ => exact ⟨le_refl _, rfl⟩
      | [buffer], _ =>
        simp only [writeTo, writeEach, flatten_singleton]
        cases (outcome 0 buffer).err with
        | some err => exact ⟨min_le_right _ _, rfl⟩
        | none => simp

end WriteSocket

/-! ### The writers -/

inductive StreamWriteError (ε : Type) where
  /-- `packet too large` -/
  | packetTooLarge
  /-- `io.ErrShortWrite` -/
  | shortWrite
  | socket (err : ε)
deriving DecidableEq

/-- What a writer returns, the bytes it put on the wire and whether it closed the link.
    An empty list of errors is none.  `written` and `socketErr` are what the socket
    reported. -/
structure WriteResult (ε : Type) where
  count : Nat
  errs : List (StreamWriteError ε)
  wire : Bytes
  closed : Bool
  written : Nat
  socketErr : Option ε

def WriteResult.untouched {ε : Type} (count : Nat) (errs : List (StreamWriteError ε)) :
    WriteResult ε := ⟨count, errs, [], false, 0, none⟩

/-- `streamPacketConnection`, for writing; `closeErr` is what closing it returns. -/
structure StreamWriter (ε : Type) where
  socket : WriteSocket ε
  vectorisedWrites : Bool
  closeErr : Option ε

/-- `buf.Buffer`: the bytes before its start and its contents. -/
structure PacketBuffer where
  headroom : Bytes
  content : Bytes

/-- A packet behind its length; the length is cut to 16 bits. -/
def streamFrame (packet : Bytes) : Bytes := putBE streamPacketLengthSize packet.length ++ packet

/-- The non-empty packets of a batch as frames, with their indexes. -/
def packetFrames : Nat → List Bytes → List (Nat × Bytes)
  | _, [] => []
  | index, packet :: packets =>
    if packet.length = 0 then packetFrames (index + 1) packets
    else (index, streamFrame packet) :: packetFrames (index + 1) packets

/-- The frame of a packet buffer.  `ExtendHeader` gives the last bytes of the headroom to
    the contents; a buffer without that headroom is copied behind a new one. -/
def bufferFrame (buffer : PacketBuffer) : Bytes :=
  let buffer :=
    if buffer.headroom.length < streamPacketLengthSize then
      { headroom := List.replicate streamPacketLengthSize 0, content := buffer.content }
    else buffer
  let extended := buffer.headroom.drop (buffer.headroom.length - streamPacketLengthSize) ++
    buffer.content
  copyInto extended 0 (putBE streamPacketLengthSize buffer.content.length)

def packetBufferFrames : Nat → List PacketBuffer → List (Nat × Bytes)
  | _, [] => []
  | index, buffer :: buffers =>
    if buffer.content.length = 0 then packetBufferFrames (index + 1) buffers
    else (index, bufferFrame buffer) :: packetBufferFrames (index + 1) buffers

/-- The loop of `writeFramesLocked`: how many frames are wholly written, and their bytes. -/
def writtenFrames (writtenBytes : Nat) : Nat → List Nat → Nat × Nat
  | framedBytes, [] => (0, framedBytes)
  | framedBytes, frameLength :: frameLengths =>
    if writtenBytes < framedBytes + frameLength then (0, framedBytes)
    else
      let (frames, framedBytes) :=
        writtenFrames writtenBytes (framedBytes + frameLength) frameLengths
      (frames + 1, framedBytes)

namespace StreamWriter

variable {ε : Type}

def writeFramesLocked (c : StreamWriter ε) (frames : List Bytes) (frameLengths : List Nat)
    (framePacketIndexes : List Nat) (packetCount : Nat) : WriteResult ε :=
  let totalLength := frameLengths.sum
  let buffers := if c.vectorisedWrites = false ∧ 1 < frames.length then [frames.flatten] else frames
  let written := c.socket.writeTo buffers
  let writeErr :=
    match written.err with
    | some err => some (.socket err)
    | none => if written.count < totalLength then some .shortWrite else none
  match writeErr with
  | none => ⟨packetCount, [], written.wire, false, written.count, written.err⟩
  | some err =>
    let (frameCount, framedBytes) := writtenFrames written.count 0 frameLengths
    let closed : Bool := framedBytes < written.count
    { count :=
        if frameCount = frameLengths.length then packetCount
        else framePacketIndexes.getD frameCount packetCount
      errs := err :: if closed then (c.closeErr.map StreamWriteError.socket).toList else []
      wire := written.wire
      closed := closed
      written := written.count
      socketErr := written.err }

def validPackets (packets : List Bytes) : List Bytes :=
  packets.takeWhile (·.length ≤ maxUint16)

def validationErr (packets : List Bytes) : List (StreamWriteError ε) :=
  if (validPackets packets).length < packets.length then [.packetTooLarge] else []

/-- The common part of the two writers, on the frames of the valid packets. -/
def writeValid (c : StreamWriter ε) (packetCount : Nat) (validationErr : List (StreamWriteError ε))
    (frames : List (Nat × Bytes)) (buffers : List Bytes) : WriteResult ε :=
  if packetCount = 0 then .untouched 0 validationErr
  else if frames.length = 0 then .untouched packetCount validationErr
  else
    let result := c.writeFramesLocked buffers (frames.map fun frame => frame.2.length)
      (frames.map Prod.fst) packetCount
    if result.errs ≠ [] then result else { result with errs := validationErr }

def writePackets (c : StreamWriter ε) (packets : List Bytes) : WriteResult ε :=
  let valid := validPackets packets
  let frames := packetFrames 0 valid
  c.writeValid valid.length (validationErr packets) frames [(frames.map Prod.snd).flatten]

def writePacketBuffers (c : StreamWriter ε) (packetBuffers : List PacketBuffer) : WriteResult ε :=
  let packets := packetBuffers.map PacketBuffer.content
  let valid := validPackets packets
  let frames := packetBufferFrames 0 (packetBuffers.take valid.length)
  c.writeValid valid.length (validationErr packets) frames (frames.map Prod.snd)

end StreamWriter

/-! ### Frames and packets -/

/-- What a batch looks like on the wire if all of it gets there. -/
def wireBytes (packets : List Bytes) : Bytes :=
  (packets.filter fun packet => packet.length ≠ 0).flatMap streamFrame

@[simp] theorem length_streamFrame (packet : Bytes) :
    (streamFrame packet).length = streamPacketLengthSize + packet.length := by
  simp [streamFrame]

@[simp] theorem wireBytes_nil : wireBytes [] = [] := rfl

variable {packet : Bytes} {packets : List Bytes} {framed written : Nat}

theorem wireBytes_cons_of_empty (h : packet.length = 0) (packets : List Bytes) :
    wireBytes (packet :: packets) = wireBytes packets := by
  rw [wireBytes, filter_cons_of_neg (by simp [h]), wireBytes]

theorem wireBytes_cons_of_ne (h : packet.length ≠ 0) (packets : List Bytes) :
    wireBytes (packet :: packets) = streamFrame packet ++ wireBytes packets := by
  rw [wireBytes, filter_cons_of_pos (by simpa using h), flatMap_cons, wireBytes]

theorem wireBytes_append (left right : List Bytes) :
    wireBytes (left ++ right) = wireBytes left ++ wireBytes right := by
  simp [wireBytes]

variable (index : Nat)

theorem flatten_packetFrames (packets : List Bytes) :
    ((packetFrames index packets).map Prod.snd).flatten = wireBytes packets := by
  induction packets generalizing index with
  | nil => rfl
  | cons packet packets ih =>
    rw [packetFrames]
    by_cases hempty : packet.length = 0
    · rw [if_pos hempty, ih, wireBytes_cons_of_empty hempty]
    · rw [if_neg hempty, map_cons, flatten_cons, ih, wireBytes_cons_of_ne hempty]

theorem wireBytes_eq_nil_of_packetFrames {index : Nat}
    (h : (packetFrames index packets).length = 0) :
    wireBytes packets = [] := by
  rw [← flatten_packetFrames index packets, eq_nil_of_length_eq_zero h]
  rfl

theorem bufferFrame_eq (buffer : PacketBuffer) :
    bufferFrame buffer = streamFrame buffer.content := by
  have hcopy : ∀ header : Bytes, header.length = streamPacketLengthSize →
      copyInto (header ++ buffer.content) 0
        (putBE streamPacketLengthSize buffer.content.length) = streamFrame buffer.content := by
    intro header hheader
    exact copyInto_append [] buffer.content (by simp [hheader])
  unfold bufferFrame
  split
  · exact hcopy _ (by simp)
  · next hroom =>
    refine hcopy _ ?_
    rw [length_drop]
    omega

theorem packetBufferFrames_eq (buffers : List PacketBuffer) :
    packetBufferFrames index buffers = packetFrames index (buffers.map PacketBuffer.content) := by
  induction buffers generalizing index with
  | nil => rfl
  | cons buffer buffers ih =>
    rw [packetBufferFrames, map_cons, packetFrames, ih, bufferFrame_eq]

/-! ### Counting packets by bytes -/

/-- The index of the first packet that is not wholly among the first `written` bytes. -/
def wholePackets (written : Nat) : Nat → Nat → List Bytes → Nat
  | _, index, [] => index
  | framed, index, packet :: packets =>
    if packet.length = 0 then wholePackets written framed (index + 1) packets
    else if written < framed + (streamFrame packet).length then index
    else wholePackets written (framed + (streamFrame packet).length) (index + 1) packets

/-- The bytes of the whole frames among the first `written` bytes. -/
def framedBytes (written : Nat) : Nat → List Bytes → Nat
  | framed, [] => framed
  | framed, packet :: packets =>
    if packet.length = 0 then framedBytes written framed packets
    else if written < framed + (streamFrame packet).length then framed
    else framedBytes written (framed + (streamFrame packet).length) packets

/-- The loop over the frame lengths finds both, through the indexes of the frames. -/
theorem writtenFrames_packetFrames (written framed index last : Nat) (packets : List Bytes) :
    let frames := packetFrames index packets
    let result := writtenFrames written framed (frames.map fun frame => frame.2.length)
    (if result.1 = frames.length then index + packets.length
      else (frames.map Prod.fst).getD result.1 last) = wholePackets written framed index packets ∧
    result.2 = framedBytes written framed packets := by
  induction packets generalizing framed index with
  | nil => exact ⟨rfl, rfl⟩
  | cons packet packets ih =>
    by_cases hempty : packet.length = 0
    · simp only [packetFrames, wholePackets, framedBytes, if_pos hempty, length_cons]
      rw [show index + (packets.length + 1) = index + 1 + packets.length by omega]
      exact ih framed (index + 1)
    · simp only [packetFrames, wholePackets, framedBytes, if_neg hempty, map_cons,
        writtenFrames, length_cons]
      by_cases hcut : written < framed + (streamFrame packet).length
      · simp only [if_pos hcut]
        simp
      · simp only [if_neg hcut, Nat.add_right_cancel_iff, getD_cons_succ]
        rw [show index + (packets.length + 1) = index + 1 + packets.length by omega]
        exact ih (framed + (streamFrame packet).length) (index + 1)

theorem le_wholePackets (written framed index : Nat) (packets : List Bytes) :
    index ≤ wholePackets written framed index packets ∧
      wholePackets written framed index packets ≤ index + packets.length := by
  induction packets generalizing framed index with
  | nil => exact ⟨le_refl _, le_refl _⟩
  | cons packet packets ih =>
    rw [wholePackets, length_cons]
    split
    · obtain ⟨hlow, hhigh⟩ := ih framed (index + 1)
      omega
    · split
      · omega
      · obtain ⟨hlow, hhigh⟩ := ih (framed + (streamFrame packet).length) (index + 1)
        omega

/-- A packet is counted if and only if its frame ends within the written bytes. -/
theorem lt_wholePackets (written framed index : Nat) {position : Nat}
    (hpacket : packets[position]? = some packet) (hne : packet.length ≠ 0) :
    index + position < wholePackets written framed index packets ↔
      framed + (wireBytes (packets.take (position + 1))).length ≤ written := by
  induction packets generalizing framed index position with
  | nil => cases hpacket
  | cons first packets ih =>
    rw [wholePackets, take_succ_cons]
    by_cases hempty : first.length = 0
    · rw [if_pos hempty, wireBytes_cons_of_empty hempty]
      cases position with
      | zero =>
        cases hpacket
        exact absurd hempty hne
      | succ position =>
        rw [← ih framed (index + 1) hpacket]
        omega
    · rw [if_neg hempty, wireBytes_cons_of_ne hempty, length_append, ← add_assoc]
      by_cases hcut : written < framed + (streamFrame first).length
      · rw [if_pos hcut]
        omega
      · rw [if_neg hcut]
        cases position with
        | zero =>
          have hlow := (le_wholePackets written (framed + (streamFrame first).length) (index + 1)
            packets).1
          simp only [take_zero, wireBytes_nil, length_nil]
          omega
        | succ position =>
          rw [← ih (framed + (streamFrame first).length) (index + 1) hpacket]
          omega

theorem framedBytes_le (h : framed ≤ written) (packets : List Bytes) :
    framedBytes written framed packets ≤ written := by
  induction packets generalizing framed with
  | nil => exact h
  | cons packet packets ih =>
    rw [framedBytes]
    split
    · exact ih h
    · split
      · exact h
      · exact ih (by omega)

/-- The whole frames are everything that was written exactly when the bytes end with a
    packet. -/
theorem framedBytes_eq_iff (h : framed ≤ written) (packets : List Bytes) :
    framedBytes written framed packets = written ↔
      ∃ k, framed + (wireBytes (packets.take k)).length = written := by
  induction packets generalizing framed with
  | nil => simp [framedBytes]
  | cons packet packets ih =>
    rw [framedBytes]
    by_cases hempty : packet.length = 0
    · rw [if_pos hempty, ih h]
      constructor
      · rintro ⟨k, hk⟩
        exact ⟨k + 1, by rwa [take_succ_cons, wireBytes_cons_of_empty hempty]⟩
      · rintro ⟨k, hk⟩
        cases k with
        | zero => exact ⟨0, hk⟩
        | succ k =>
          rw [take_succ_cons, wireBytes_cons_of_empty hempty] at hk
          exact ⟨k, hk⟩
    · rw [if_neg hempty]
      have hstep : ∀ k, (wireBytes ((packet :: packets).take (k + 1))).length =
          (streamFrame packet).length + (wireBytes (packets.take k)).length := by
        intro k
        rw [take_succ_cons, wireBytes_cons_of_ne hempty, length_append]
      split
      · next hcut =>
        constructor
        · intro heq
          exact ⟨0, heq⟩
        · rintro ⟨k, hk⟩
          cases k with
          | zero => exact hk
          | succ k =>
            rw [hstep] at hk
            omega
      · next hcut =>
        rw [ih (by omega)]
        constructor
        · rintro ⟨k, hk⟩
          exact ⟨k + 1, by rw [hstep]; omega⟩
        · rintro ⟨k, hk⟩
          cases k with
          | zero =>
            simp only [take_zero, wireBytes_nil, length_nil] at hk
            simp only [length_streamFrame] at hcut
            omega
          | succ k =>
            rw [hstep] at hk
            exact ⟨k, by omega⟩

/-! ### The account of a write -/

/-- What a writer answers for the valid packets of its batch, in terms of the number of
    bytes the socket took. -/
structure Accounts {ε : Type} (valid : List Bytes) (result : WriteResult ε) : Prop where
  written : result.written ≤ (wireBytes valid).length
  wire : result.wire = (wireBytes valid).take result.written
  count : result.count = wholePackets result.written 0 0 valid
  closed : result.closed = decide (framedBytes result.written 0 valid < result.written)

theorem wholePackets_of_le (h : framed + (wireBytes packets).length ≤ written) :
    wholePackets written framed index packets = index + packets.length := by
  induction packets generalizing framed index with
  | nil => rfl
  | cons packet packets ih =>
    rw [wholePackets, length_cons]
    by_cases hempty : packet.length = 0
    · rw [wireBytes_cons_of_empty hempty] at h
      rw [if_pos hempty, ih (index + 1) h]
      omega
    · rw [wireBytes_cons_of_ne hempty, length_append] at h
      rw [if_neg hempty, if_neg (by omega), ih (index + 1) (by omega)]
      omega

theorem not_framedBytes_lt {k : Nat} (h : (wireBytes (packets.take k)).length = written) :
    decide (framedBytes written 0 packets < written) = false := by
  rw [decide_eq_false_iff_not, (framedBytes_eq_iff (Nat.zero_le _) packets).mpr ⟨k, by omega⟩]
  exact Nat.lt_irrefl _

theorem sum_map_length_packetFrames (packets : List Bytes) :
    ((packetFrames index packets).map fun frame => frame.2.length).sum =
    (wireBytes packets).length := by
  rw [← flatten_packetFrames index packets, length_flatten, map_map]
  rfl

namespace StreamWriter

variable {ε : Type} {c : StreamWriter ε} {valid : List Bytes}

/-- Several buffers stay several only on a connection that takes them. -/
theorem accounts_writeFramesLocked {frames : List Bytes}
    (hframes : frames.flatten = wireBytes valid)
    (h : (c.vectorisedWrites = true → c.socket.Lawful) ∨ frames.length = 1) :
    Accounts valid (c.writeFramesLocked frames
      ((packetFrames 0 valid).map fun frame => frame.2.length)
      ((packetFrames 0 valid).map Prod.fst) valid.length) := by
  obtain ⟨buffers, hbuffers, hflatten, hsocket⟩ : ∃ buffers,
      (if c.vectorisedWrites = false ∧ 1 < frames.length then [frames.flatten] else frames) =
        buffers ∧
      buffers.flatten = wireBytes valid ∧ (c.socket.Lawful ∨ buffers.length ≤ 1) := by
    split
    · exact ⟨_, rfl, by simp [hframes], .inr (le_refl 1)⟩
    · next hkept =>
      refine ⟨_, rfl, hframes, ?_⟩
      rcases h with hlawful | hsingle
      · cases hvectorised : c.vectorisedWrites with
        | true => exact .inl (hlawful hvectorised)
        | false => exact .inr (Nat.not_lt.mp fun hlt => hkept ⟨hvectorised, hlt⟩)
      · exact .inr (le_of_eq hsingle)
  obtain ⟨hcount, hwire⟩ := c.socket.writeTo_spec buffers hsocket
  rw [hflatten] at hcount hwire
  unfold writeFramesLocked
  dsimp only
  rw [hbuffers, sum_map_length_packetFrames]
  generalize c.socket.writeTo buffers = written at hcount hwire ⊢
  obtain ⟨hindex, hframed⟩ := writtenFrames_packetFrames written.count 0 0 valid.length valid
  split
  · next hnone =>
    have hall : (wireBytes valid).length = written.count := by
      cases herr : written.err with
      | some err =>
        rw [herr] at hnone
        cases hnone
      | none =>
        rw [herr] at hnone
        by_contra hshort
        rw [if_pos (by omega)] at hnone
        cases hnone
    refine ⟨hcount, hwire, ?_, ?_⟩
    · dsimp only
      rw [wholePackets_of_le 0 (by omega), zero_add]
    · exact (not_framedBytes_lt (k := valid.length) (by rw [take_length, hall])).symm
  · next err herr =>
    refine ⟨hcount, hwire, ?_, ?_⟩
    · rw [length_map, ← hindex, zero_add]
    · rw [hframed]

theorem accounts_untouched (hempty : (packetFrames 0 valid).length = 0)
    (errs : List (StreamWriteError ε)) : Accounts valid (.untouched valid.length errs) := by
  have hnone := wireBytes_eq_nil_of_packetFrames hempty
  refine ⟨Nat.zero_le _, by simp [WriteResult.untouched], ?_, rfl⟩
  dsimp only [WriteResult.untouched]
  rw [wholePackets_of_le 0 (by simp [hnone]), zero_add]

theorem accounts_writeValid (validationErr : List (StreamWriteError ε))
    {buffers : List Bytes} (hbuffers : buffers.flatten = wireBytes valid)
    (h : (c.vectorisedWrites = true → c.socket.Lawful) ∨ buffers.length = 1) :
    Accounts valid (c.writeValid valid.length validationErr (packetFrames 0 valid) buffers) := by
  unfold writeValid
  split
  · next hzero =>
    obtain rfl : valid = [] := eq_nil_of_length_eq_zero hzero
    exact accounts_untouched rfl validationErr
  split
  · next hempty => exact accounts_untouched hempty validationErr
  have haccounts := accounts_writeFramesLocked hbuffers h
  dsimp only
  split
  · exact haccounts
  · exact { haccounts with }

theorem accounts_writePackets (c : StreamWriter ε) (packets : List Bytes) :
    Accounts (validPackets packets) (c.writePackets packets) := by
  refine accounts_writeValid _ ?_ (.inr rfl)
  rw [flatten_singleton, flatten_packetFrames]

theorem sum_le_written_of_ok {frames : List Bytes} {frameLengths framePacketIndexes : List Nat}
    {packetCount : Nat}
    (h : (c.writeFramesLocked frames frameLengths framePacketIndexes packetCount).errs = []) :
    frameLengths.sum ≤
      (c.writeFramesLocked frames frameLengths framePacketIndexes packetCount).written := by
  unfold writeFramesLocked at h ⊢
  dsimp only at h ⊢
  generalize c.socket.writeTo _ = written at h ⊢
  cases herr : written.err with
  | some err =>
    rw [herr] at h
    cases h
  | none =>
    rw [herr] at h
    by_cases hshort : written.count < frameLengths.sum
    · rw [if_pos hshort] at h
      cases h
    · rw [if_neg hshort]
      exact Nat.not_lt.mp hshort

theorem written_writeValid_of_ok {validationErr : List (StreamWriteError ε)}
    {buffers : List Bytes}
    (h : (c.writeValid valid.length validationErr (packetFrames 0 valid) buffers).errs = []) :
    validationErr = [] ∧ (wireBytes valid).length ≤
      (c.writeValid valid.length validationErr (packetFrames 0 valid) buffers).written := by
  unfold writeValid at h ⊢
  dsimp only at h ⊢
  split at h
  · next hzero =>
    rw [if_pos hzero, eq_nil_of_length_eq_zero hzero]
    exact ⟨h, le_refl _⟩
  · next hzero =>
    rw [if_neg hzero]
    split at h
    · next hempty =>
      rw [if_pos hempty, wireBytes_eq_nil_of_packetFrames hempty]
      exact ⟨h, le_refl _⟩
    · next hempty =>
      rw [if_neg hempty]
      split at h
      · next herrs => exact absurd h herrs
      · next herrs =>
        rw [if_neg herrs]
        refine ⟨h, ?_⟩
        rw [← sum_map_length_packetFrames 0 valid]
        exact sum_le_written_of_ok (not_not.mp herrs)

theorem wire_writePackets_of_ok (c : StreamWriter ε) {packets : List Bytes}
    (h : (c.writePackets packets).errs = []) :
    (∀ packet ∈ packets, packet.length ≤ maxUint16) ∧
      (c.writePackets packets).wire = wireBytes packets := by
  have haccounts := c.accounts_writePackets packets
  obtain ⟨hvalidation, hwritten⟩ := written_writeValid_of_ok h
  change (wireBytes (validPackets packets)).length ≤ (c.writePackets packets).written at hwritten
  have hvalid : validPackets packets = packets := by
    refine (List.takeWhile_prefix _).eq_of_length_le ?_
    unfold validationErr at hvalidation
    split at hvalidation
    · cases hvalidation
    · next hlength => exact Nat.not_lt.mp hlength
  constructor
  · intro packet hpacket
    simpa using takeWhile_eq_self_iff.mp hvalid packet hpacket
  · rw [haccounts.wire, take_of_length_le hwritten, hvalid]

theorem packetBufferFrames_take (buffers : List PacketBuffer) :
    packetBufferFrames 0 (buffers.take (validPackets (buffers.map PacketBuffer.content)).length) =
      packetFrames 0 (validPackets (buffers.map PacketBuffer.content)) := by
  rw [packetBufferFrames_eq, map_take]
  exact congrArg _ (prefix_iff_eq_take.mp (List.takeWhile_prefix _)).symm

theorem accounts_writePacketBuffers (c : StreamWriter ε)
    (hlawful : c.vectorisedWrites = true → c.socket.Lawful)
    (buffers : List PacketBuffer) :
    Accounts (validPackets (buffers.map PacketBuffer.content)) (c.writePacketBuffers buffers) := by
  unfold writePacketBuffers
  dsimp only
  rw [packetBufferFrames_take]
  exact accounts_writeValid _ (flatten_packetFrames ..) (.inl hlawful)

end StreamWriter

/-- A result that says what is on the wire: the written bytes are the beginning of the
    batch; a non-empty packet is below the returned count exactly when its frame, and
    with it every frame before, is wholly written; and the link was closed exactly when the
    bytes end inside a frame. -/
structure WriteExact {ε : Type} (packets : List Bytes) (result : WriteResult ε) : Prop where
  wire : result.wire <+: wireBytes packets
  counted : ∀ index packet, packets[index]? = some packet → packet.length ≠ 0 →
    (index < result.count ↔ wireBytes (packets.take (index + 1)) <+: result.wire)
  closed : result.closed = true ↔ ∀ k, result.wire ≠ wireBytes (packets.take k)

section Exact

variable {ε : Type} {valid rest : List Bytes} {result : WriteResult ε}

theorem prefix_wireBytes_take (packets : List Bytes) (k : Nat) :
    wireBytes (packets.take k) <+: wireBytes packets := by
  refine ⟨wireBytes (packets.drop k), ?_⟩
  rw [← wireBytes_append, take_append_drop]

/-- The packet behind the valid ones is too large, hence not empty, and would add to what is
    on the wire. -/
theorem length_wireBytes_lt {k : Nat} (hlarge : ∀ first ∈ rest.head?, maxUint16 < first.length)
    (hk : valid.length < k) (hrest : rest ≠ []) :
    (wireBytes valid).length < (wireBytes ((valid ++ rest).take k)).length := by
  obtain ⟨first, others, rfl⟩ := exists_cons_of_ne_nil hrest
  obtain ⟨more, rfl⟩ : ∃ more, k = valid.length + (more + 1) := ⟨k - valid.length - 1, by omega⟩
  have hne : first.length ≠ 0 := by
    have := hlarge first rfl
    omega
  rw [take_length_add_append, wireBytes_append, take_succ_cons,
    wireBytes_cons_of_ne hne]
  simp only [length_append, length_streamFrame]
  omega

section

variable (h : Accounts valid result)

include h

theorem Accounts.count_le : result.count ≤ valid.length := by
  have hle := (le_wholePackets result.written 0 0 valid).2
  rwa [zero_add, ← h.count] at hle

theorem Accounts.length_wire : result.wire.length = result.written := by
  rw [h.wire, length_take, min_eq_left h.written]

/-- The beginnings of the batch that are on the wire are told by their length. -/
theorem Accounts.prefix_iff (k : Nat) :
    wireBytes (valid.take k) <+: result.wire ↔
      (wireBytes (valid.take k)).length ≤ result.written := by
  constructor
  · intro hbegin
    rw [← h.length_wire]
    exact hbegin.length_le
  · intro hle
    rw [h.wire]
    exact prefix_take_iff.mpr ⟨prefix_wireBytes_take valid k, hle⟩

theorem Accounts.wire_eq_iff (k : Nat) :
    result.wire = wireBytes (valid.take k) ↔
      (wireBytes (valid.take k)).length = result.written := by
  constructor
  · intro heq
    rw [← heq, h.length_wire]
  · intro heq
    rw [h.wire, ← heq]
    exact (prefix_iff_eq_take.mp (prefix_wireBytes_take valid k)).symm

theorem Accounts.closed_iff :
    result.closed = true ↔ ∀ k, result.wire ≠ wireBytes (valid.take k) := by
  have hiff := framedBytes_eq_iff (Nat.zero_le result.written) valid
  have hle := framedBytes_le (Nat.zero_le result.written) valid
  simp only [Nat.zero_add, ← h.wire_eq_iff] at hiff
  rw [h.closed, decide_eq_true_eq, ← not_exists, ← hiff]
  omega

end

theorem Accounts.writeExact (hlarge : ∀ first ∈ rest.head?, maxUint16 < first.length)
    (h : Accounts valid result) : WriteExact (valid ++ rest) result := by
  have hwritten := h.written
  have hlength := h.length_wire
  refine ⟨?_, ?_, ?_⟩
  · rw [h.wire, wireBytes_append]
    exact (List.take_prefix _ _).trans (prefix_append _ _)
  · intro index packet hpacket hne
    by_cases hindex : index < valid.length
    · rw [List.getElem?_append_left hindex] at hpacket
      rw [take_append_of_le_length hindex, h.prefix_iff, h.count]
      have hiff := lt_wholePackets result.written 0 0 hpacket hne
      simpa only [zero_add] using hiff
    · -- neither counted nor written: the writer stopped before this packet
      have hcount := h.count_le
      have hrest : rest ≠ [] := by
        rintro rfl
        rw [append_nil, List.getElem?_eq_none (by omega)] at hpacket
        cases hpacket
      have hlt := length_wireBytes_lt hlarge (show valid.length < index + 1 by omega) hrest
      constructor
      · intro hcounted
        omega
      · intro hbegin
        have := hbegin.length_le
        omega
  · rw [h.closed_iff]
    constructor
    · intro hvalid k heq
      by_cases hk : valid.length < k ∧ rest ≠ []
      · have hlt := length_wireBytes_lt hlarge hk.1 hk.2
        rw [← heq] at hlt
        omega
      · refine hvalid k ?_
        rw [heq]
        by_cases hrest : rest = []
        · rw [hrest, append_nil]
        · rw [take_append_of_le_length (Nat.not_lt.mp fun hlt => hk ⟨hlt, hrest⟩)]
    · intro hall k heq
      refine hall (min k valid.length) ?_
      rw [heq, take_append_of_le_length (min_le_right _ _), take_eq_take_min]

theorem writeExact_of_accounts {packets : List Bytes}
    (h : Accounts (StreamWriter.validPackets packets) result) : WriteExact packets result := by
  have hsplit : StreamWriter.validPackets packets ++ packets.dropWhile (·.length ≤ maxUint16) =
    packets := takeWhile_append_dropWhile
  have hexact : WriteExact
      (StreamWriter.validPackets packets ++ packets.dropWhile (·.length ≤ maxUint16)) result := by
    refine h.writeExact ?_
    intro first hfirst
    have hnot := List.head?_dropWhile_not (fun packet : Bytes => decide (packet.length ≤ maxUint16))
      packets
    rw [Option.mem_def.mp hfirst] at hnot
    simpa using hnot
  rwa [hsplit] at hexact

end Exact

namespace StreamWriter

variable {ε : Type}

theorem writeFramesLocked_flatten (c : StreamWriter ε) {frames : List Bytes} (hne : frames ≠ [])
    (h : c.vectorisedWrites = false ∨ ∃ outcome, c.socket = .writev outcome)
    (frameLengths framePacketIndexes : List Nat) (packetCount : Nat) :
    c.writeFramesLocked frames frameLengths framePacketIndexes packetCount =
      c.writeFramesLocked [frames.flatten] frameLengths framePacketIndexes packetCount := by
  have hwritten : c.socket.writeTo
        (if c.vectorisedWrites = false ∧ 1 < frames.length then [frames.flatten] else frames) =
      c.socket.writeTo [frames.flatten] := by
    rcases h with hcombined | ⟨outcome, houtcome⟩
    · by_cases hone : 1 < frames.length
      · rw [if_pos ⟨hcombined, hone⟩]
      · obtain ⟨frame, rfl⟩ : ∃ frame, frames = [frame] := by
          refine length_eq_one_iff.mp ?_
          have := length_pos_of_ne_nil hne
          omega
        simp
    · rw [houtcome]
      split
      · rfl
      · simp [WriteSocket.writeTo]
  have hsingle : ¬ (c.vectorisedWrites = false ∧ 1 < [frames.flatten].length) := by simp
  unfold writeFramesLocked
  dsimp only
  rw [hwritten, if_neg hsingle]

/-- Where the frames reach the socket as one run of bytes, the two writers are the same. -/
theorem writePacketBuffers_eq (c : StreamWriter ε) (buffers : List PacketBuffer)
    (h : c.vectorisedWrites = false ∨ ∃ outcome, c.socket = .writev outcome) :
    c.writePacketBuffers buffers = c.writePackets (buffers.map PacketBuffer.content) := by
  unfold writePacketBuffers writePackets writeValid
  dsimp only
  rw [packetBufferFrames_take]
  by_cases hempty : (packetFrames 0 (validPackets (buffers.map PacketBuffer.content))).length = 0
  · rw [if_pos hempty, if_pos hempty]
  · rw [writeFramesLocked_flatten c (by simpa using hempty) h]

end StreamWriter

/-- For every batch and everything the socket may answer, both writers account exactly for
    what is on the wire, and whenever the socket took as many bytes from both they put the
    same bytes on the wire, return the same count and close alike; so it is on every
    connection that is given the frames as one run of bytes.  Only buffers written one after
    another need the contract of `Write`. -/
theorem stream_writes_accounted {ε : Type} (slices buffered : StreamWriter ε)
    (hlawful : buffered.vectorisedWrites = true → buffered.socket.Lawful)
    (packetBuffers : List PacketBuffer) :
    let packets := packetBuffers.map PacketBuffer.content
    let result := slices.writePackets packets
    let result' := buffered.writePacketBuffers packetBuffers
    WriteExact packets result ∧ WriteExact packets result' ∧
      (result.written = result'.written → result.wire = result'.wire ∧
        result.count = result'.count ∧ result.closed = result'.closed) ∧
      (slices = buffered →
        (buffered.vectorisedWrites = false ∨ ∃ outcome, buffered.socket = .writev outcome) →
        result' = result) := by
  have haccounts := slices.accounts_writePackets (packetBuffers.map PacketBuffer.content)
  have haccounts' := buffered.accounts_writePacketBuffers hlawful packetBuffers
  refine ⟨writeExact_of_accounts haccounts, writeExact_of_accounts haccounts', ?_, ?_⟩
  · intro hwritten
    rw [haccounts.wire, haccounts'.wire, haccounts.count, haccounts'.count, haccounts.closed,
      haccounts'.closed, hwritten]
    exact ⟨rfl, rfl, rfl⟩
  · rintro rfl hone
    exact slices.writePacketBuffers_eq packetBuffers hone

/-- A connection whose second write fails after three bytes. -/
def failingWrites : StreamWriter Unit where
  socket := .writes fun call buffer => if call = 1 then ⟨3, some ()⟩ else ⟨buffer.length, none⟩
  vectorisedWrites := true
  closeErr := none

theorem failingWrites_lawful : failingWrites.socket.Lawful := by
  intro call buffer hnone
  dsimp only at hnone ⊢
  split at hnone
  · cases hnone
  · next hcall => rw [if_neg hcall]

/-- Two packets around an empty one: the link dies inside the second frame, the count
    stops at its packet, and the link is closed. -/
theorem stream_writes_accounted_partial :
    let buffers : List PacketBuffer := [⟨[], [1, 2]⟩, ⟨[], []⟩, ⟨[9, 9], [3, 4]⟩]
    let packets := buffers.map PacketBuffer.content
    let result := failingWrites.writePacketBuffers buffers
    WriteExact packets result ∧ result.wire = [0, 2, 1, 2, 0, 2, 3] ∧ result.count = 2 ∧
      result.closed = true := by
  refine ⟨?_, by decide, by decide, by decide⟩
  exact (stream_writes_accounted failingWrites failingWrites (fun _ => failingWrites_lawful) _).2.1

end SingOpenVPN
