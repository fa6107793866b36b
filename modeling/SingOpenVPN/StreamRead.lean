import SingOpenVPN.FrameCode
import SingOpenVPN.StreamWrite

/-!
# Reading packets from a stream link (`proto/connection.go`)

The reader keeps every byte it took from the socket in a buffer until a whole frame is
there, moves the rest to the front of the buffer before it reads again, and grows
the buffer when an announced frame would not fit.  An error that comes with bytes is kept
until the packets in front of it are handed out.

The socket is a script: how many bytes each read is offered at most and which error it
returns with them.  A call that needs more reads than the script has waits.  Everything
read is logged with the room that was offered for it.
-/

namespace SingOpenVPN

open ByteCodec List

def streamPacketMaxEmptyReads : Nat := 100

def packetConnectionBatchSize : Nat := 64

inductive StreamReadError (ε : Type) where
  /-- `bad encapsulated packet length from peer` -/
  | badEncapsulatedPacketLength
  /-- `io.ErrNoProgress` -/
  | noProgress
  | socket (err : ε)
deriving DecidableEq

/-! ### The socket -/

/-- What one `Read` does: take at most `count` bytes and return `err`. -/
structure ReadOutcome (ε : Type) where
  count : Nat
  err : Option ε

/-- A read that was made: the room it was offered, what it took and the error. -/
structure SocketRead (ε : Type) where
  room : Nat
  data : Bytes
  err : Option ε

def SocketRead.isEmpty {ε : Type} (read : SocketRead ε) : Bool :=
  read.data.isEmpty && read.err.isNone

/-- The reading side of the connection: the bytes still to be read and the reads made. -/
structure ReadSocket (ε : Type) where
  unread : Bytes
  log : List (SocketRead ε)

def ReadSocket.read {ε : Type} (socket : ReadSocket ε) (outcome : ReadOutcome ε) (room : Nat) :
    Bytes × ReadSocket ε :=
  let data := socket.unread.take (min outcome.count room)
  (data, ⟨socket.unread.drop (min outcome.count room), socket.log ++ [⟨room, data, outcome.err⟩]⟩)

variable {ε : Type}

theorem ReadSocket.length_read_le (socket : ReadSocket ε) (outcome : ReadOutcome ε)
    (room : Nat) : (socket.read outcome room).1.length ≤ room :=
  le_trans (length_take_le _ _) (min_le_right _ _)

/-! ### The reader -/

structure StreamReader (ε : Type) where
  readBuffer : Bytes
  readStart : Nat
  readEnd : Nat
  readErr : Option ε
  start_le_end : readStart ≤ readEnd
  end_le_length : readEnd ≤ readBuffer.length

namespace StreamReader

variable {ε : Type}

def initial : StreamReader ε := ⟨[], 0, 0, none, Nat.le_refl _, Nat.le_refl _⟩

variable (c : StreamReader ε)

def pending : Bytes := (c.readBuffer.take c.readEnd).drop c.readStart

@[simp] theorem length_pending : c.pending.length = c.readEnd - c.readStart := by
  rw [pending, length_drop, length_take_of_le c.end_le_length]

def announcedLength : Nat :=
  getBE ((c.readBuffer.drop c.readStart).take streamPacketLengthSize)

def bufferedPacketLocked :
    Except (StreamReadError ε) (Option Bytes) × StreamReader ε :=
  if c.readEnd - c.readStart < streamPacketLengthSize then (.ok none, c)
  else
    let packetLength := c.announcedLength
    if packetLength = 0 then (.error .badEncapsulatedPacketLength, c)
    else
      let packetEnd := c.readStart + streamPacketLengthSize + packetLength
      if h : c.readEnd < packetEnd then (.ok none, c)
      else
        let bufferedPacket :=
          (c.readBuffer.drop (c.readStart + streamPacketLengthSize)).take packetLength
        if packetEnd = c.readEnd then
          (.ok (some bufferedPacket),
            { c with
              readStart := 0, readEnd := 0
              start_le_end := Nat.le_refl 0, end_le_length := Nat.zero_le _ })
        else
          (.ok (some bufferedPacket),
            { c with readStart := packetEnd, start_le_end := Nat.not_lt.mp h })

/-- The pending bytes at the front of a buffer that holds them. -/
def moveTo (buffer : Bytes) (h : c.readEnd - c.readStart ≤ buffer.length) :
    StreamReader ε where
  readBuffer := copyInto buffer 0 c.pending
  readStart := 0
  readEnd := c.readEnd - c.readStart
  readErr := c.readErr
  start_le_end := Nat.zero_le _
  end_le_length := by rwa [length_copyInto (Nat.zero_le _)]

def requiredCapacity (size : Nat) (c : StreamReader ε) : Nat :=
  if streamPacketLengthSize ≤ c.readEnd - c.readStart then
    max size (streamPacketLengthSize + c.announcedLength)
  else size

/-- The room `fillLocked` makes before it reads; `size` is `streamPacketReadBufferSize`. -/
def makeRoom (size : Nat) (c : StreamReader ε) : StreamReader ε :=
  if h : c.readBuffer.length < c.requiredCapacity size then
    c.moveTo (List.replicate (c.requiredCapacity size) 0) (by
      have := c.end_le_length
      rw [List.length_replicate]
      omega)
  else if 0 < c.readStart then
    c.moveTo c.readBuffer (by
      have := c.end_le_length
      omega)
  else c

def store (data : Bytes) (err : Option ε)
    (h : data.length ≤ c.readBuffer.length - c.readEnd) : StreamReader ε where
  readBuffer := copyInto c.readBuffer c.readEnd data
  readStart := c.readStart
  readEnd := c.readEnd + data.length
  readErr := err
  start_le_end := Nat.le_trans c.start_le_end (Nat.le_add_right _ _)
  end_le_length := by
    have := c.end_le_length
    rw [length_copyInto c.end_le_length]
    omega

def fillLocked (size : Nat) (c : StreamReader ε) (socket : ReadSocket ε) (outcome : ReadOutcome ε) :
    Nat × StreamReader ε × ReadSocket ε :=
  let c := c.makeRoom size
  let room := c.readBuffer.length - c.readEnd
  let read := socket.read outcome room
  (read.1.length, c.store read.1 outcome.err (socket.length_read_le outcome room), read.2)

end StreamReader

/-- Both sides of a link that is being read, with the reads still to come. -/
structure ReadState (ε : Type) where
  reader : StreamReader ε
  socket : ReadSocket ε
  script : List (ReadOutcome ε)

namespace ReadState

variable {ε : Type}

/-- What a call gives: nothing while it waits for the socket. -/
abbrev Answer (ε α : Type) := Option (Except (StreamReadError ε) α)

def readPacketLoop (size : Nat) : List (ReadOutcome ε) → Nat → StreamReader ε → ReadSocket ε →
    Answer ε Bytes × ReadState ε
  | script, emptyReads, c, socket =>
    match c.bufferedPacketLocked with
    | (.error err, c) => (some (.error err), ⟨c, socket, script⟩)
    | (.ok (some packet), c) => (some (.ok packet), ⟨c, socket, script⟩)
    | (.ok none, c) =>
      match c.readErr with
      | some err => (some (.error (.socket err)), ⟨{ c with readErr := none }, socket, script⟩)
      | none =>
        match script with
        | [] => (none, ⟨c, socket, []⟩)
        | outcome :: script =>
          let (readBytes, c, socket) := c.fillLocked size socket outcome
          if 0 < readBytes ∨ c.readErr.isSome then readPacketLoop size script 0 c socket
          else if streamPacketMaxEmptyReads ≤ emptyReads + 1 then
            (some (.error .noProgress), ⟨c, socket, script⟩)
          else readPacketLoop size script (emptyReads + 1) c socket

def readPacketLocked (size : Nat) (s : ReadState ε) : Answer ε Bytes × ReadState ε :=
  readPacketLoop size s.script 0 s.reader s.socket

/-- The packets that are whole in the buffer, at most `count` of them, and the error that
    ended them: the loop of `ReadPackets`. -/
def bufferedPackets : Nat → StreamReader ε →
    (List Bytes × Option (StreamReadError ε)) × StreamReader ε
  | 0, c => (([], none), c)
  | count + 1, c =>
    match c.bufferedPacketLocked with
    | (.error err, c) => (([], some err), c)
    | (.ok none, c) => (([], none), c)
    | (.ok (some packet), c) =>
      let ((packets, err), c) := bufferedPackets count c
      ((packet :: packets, err), c)

inductive ReadCall where
  | readPacket
  | readPackets
deriving DecidableEq

/-- What a call returns: packets, and an error that ended them. -/
structure ReadReturn (ε : Type) where
  packets : List Bytes
  err : Option (StreamReadError ε)
deriving DecidableEq

def call (size : Nat) (s : ReadState ε) (which : ReadCall) : Option (ReadReturn ε) × ReadState ε :=
  match s.readPacketLocked size with
  | (none, s) => (none, s)
  | (some (.error err), s) => (some ⟨[], some err⟩, s)
  | (some (.ok packet), s) =>
    match which with
    | .readPacket => (some ⟨[packet], none⟩, s)
    | .readPackets =>
      let ((packets, err), reader) := bufferedPackets (packetConnectionBatchSize - 1) s.reader
      (some ⟨packet :: packets, err⟩, { s with reader := reader })

/-- Calls one after another, up to one that waits for the socket. -/
def calls (size : Nat) : List ReadCall → ReadState ε → List (ReadReturn ε) × ReadState ε
  | [], s => ([], s)
  | which :: others, s =>
    match s.call size which with
    | (none, s) => ([], s)
    | (some returned, s) =>
      let (returns, s) := calls size others s
      (returned :: returns, s)

def start (stream : Bytes) (script : List (ReadOutcome ε)) : ReadState ε :=
  ⟨.initial, ⟨stream, []⟩, script⟩

end ReadState

/-! ### Frames -/

def parseFrame {ε : Type} (bytes : Bytes) : Except (StreamReadError ε) (Option (Bytes × Bytes)) :=
  if bytes.length < streamPacketLengthSize then .ok none
  else
    let packetLength := getBE (bytes.take streamPacketLengthSize)
    if packetLength = 0 then .error .badEncapsulatedPacketLength
    else if bytes.length < streamPacketLengthSize + packetLength then .ok none
    else
      .ok (some ((bytes.drop streamPacketLengthSize).take packetLength,
        bytes.drop (streamPacketLengthSize + packetLength)))

variable {packet : Bytes}

theorem getBE_take_streamFrame (h : packet.length ≤ maxUint16) (rest : Bytes) :
    getBE ((streamFrame packet ++ rest).take streamPacketLengthSize) = packet.length := by
  have hlength := length_putBE streamPacketLengthSize packet.length
  rw [streamFrame, append_assoc]
  nth_rewrite 1 [← hlength]
  rw [take_left]
  refine getBE_putBE ?_
  simp only [streamPacketLengthSize, maxUint16] at h ⊢
  omega

theorem parseFrame_streamFrame (hne : packet.length ≠ 0)
    (hle : packet.length ≤ maxUint16) (rest : Bytes) :
    parseFrame (ε := ε) (streamFrame packet ++ rest) = .ok (some (packet, rest)) := by
  have hlength : (streamFrame packet ++ rest).length =
      streamPacketLengthSize + packet.length + rest.length := by simp
  have hdrop : (streamFrame packet ++ rest).drop streamPacketLengthSize = packet ++ rest := by
    exact drop_left' (length_putBE _ _)
  unfold parseFrame
  rw [getBE_take_streamFrame hle, if_neg (by omega), if_neg hne, if_neg (by omega), ← drop_drop,
    hdrop, take_left, drop_left]

theorem parseFrame_partial {front : Bytes} (hne : packet.length ≠ 0)
    (hle : packet.length ≤ maxUint16) (hfront : front <+: streamFrame packet)
    (hcut : front ≠ streamFrame packet) : parseFrame (ε := ε) front = .ok none := by
  have hlt : front.length < streamPacketLengthSize + packet.length := by
    have hle := hfront.length_le
    rw [length_streamFrame] at hle
    refine lt_of_le_of_ne hle fun heq => hcut (hfront.eq_of_length ?_)
    rw [length_streamFrame, heq]
  by_cases hshort : front.length < streamPacketLengthSize
  · exact if_pos hshort
  · have hannounced : getBE (front.take streamPacketLengthSize) = packet.length := by
      obtain ⟨rest, hrest⟩ := hfront
      rw [← getBE_take_streamFrame hle [], append_nil, ← hrest,
        take_append_of_le_length (Nat.not_lt.mp hshort)]
    unfold parseFrame
    rw [if_neg hshort, hannounced, if_neg hne, if_pos hlt]

def streamCode (ε : Type) : FrameCode Bytes UInt8 (StreamReadError ε) where
  Valid packet := packet.length ≠ 0 ∧ packet.length ≤ maxUint16
  encode := streamFrame
  parse := parseFrame
  parse_nil := rfl
  parse_encode := fun _ rest hvalid => parseFrame_streamFrame hvalid.1 hvalid.2 rest
  parse_partial := fun _ _ hvalid hfront hcut => parseFrame_partial hvalid.1 hvalid.2 hfront hcut

namespace StreamReader

variable {ε : Type} (c : StreamReader ε)

theorem pending_eq :
    c.pending = (c.readBuffer.drop c.readStart).take (c.readEnd - c.readStart) := drop_take

variable {c : StreamReader ε}

theorem announcedLength_eq
    (h : ¬ c.readEnd - c.readStart < streamPacketLengthSize) :
    c.announcedLength = getBE (c.pending.take streamPacketLengthSize) := by
  rw [announcedLength, pending_eq, take_take, min_eq_left (Nat.not_lt.mp h)]

/-- The indexes into the buffer take off what the pending bytes give. -/
theorem bufferedPacketLocked_spec :
    match parseFrame c.pending with
    | .error err => c.bufferedPacketLocked = (.error err, c)
    | .ok none => c.bufferedPacketLocked = (.ok none, c)
    | .ok (some (packet, rest)) => ∃ c', c.bufferedPacketLocked = (.ok (some packet), c') ∧
        c'.pending = rest ∧ c'.readErr = c.readErr := by
  unfold parseFrame bufferedPacketLocked
  rw [length_pending]
  by_cases hshort : c.readEnd - c.readStart < streamPacketLengthSize
  · rw [if_pos hshort, if_pos hshort]
  rw [if_neg hshort, if_neg hshort, ← announcedLength_eq hshort]
  by_cases hzero : c.announcedLength = 0
  · rw [if_pos hzero, if_pos hzero]
  rw [if_neg hzero, if_neg hzero]
  by_cases hpart : c.readEnd - c.readStart < streamPacketLengthSize + c.announcedLength
  · rw [if_pos hpart, dif_pos (by omega)]
  rw [if_neg hpart, dif_neg (by omega)]
  have hpacket : (c.readBuffer.drop (c.readStart + streamPacketLengthSize)).take c.announcedLength =
      (c.pending.drop streamPacketLengthSize).take c.announcedLength := by
    rw [pending_eq, drop_take, take_take, drop_drop, min_eq_left (by omega)]
  dsimp only
  rw [hpacket]
  split
  · next hall =>
    refine ⟨_, rfl, ?_, rfl⟩
    -- nothing is left, and the buffer is used from its front again
    rw [drop_of_length_le (by rw [length_pending]; omega)]
    rfl
  · refine ⟨_, rfl, ?_, rfl⟩
    rw [pending, pending, drop_drop]
    dsimp only
    rw [add_assoc]

theorem pending_moveTo (buffer : Bytes)
    (h : c.readEnd - c.readStart ≤ buffer.length) : (c.moveTo buffer h).pending = c.pending := by
  have htake : (copyInto buffer 0 c.pending).take (0 + c.pending.length) = _ :=
    take_copyInto (by rwa [length_pending, zero_add])
  rw [zero_add, length_pending] at htake
  exact htake

theorem pending_makeRoom (size : Nat) (c : StreamReader ε) :
    (c.makeRoom size).pending = c.pending := by
  unfold makeRoom
  split
  · exact pending_moveTo ..
  split
  · exact pending_moveTo ..
  · rfl

theorem pending_length_lt_requiredCapacity {size : Nat} (hsize : streamPacketLengthSize ≤ size)
    (h : parseFrame (ε := ε) c.pending = .ok none) :
    c.readEnd - c.readStart < c.requiredCapacity size := by
  unfold parseFrame at h
  rw [length_pending] at h
  unfold requiredCapacity
  by_cases hshort : c.readEnd - c.readStart < streamPacketLengthSize
  · rw [if_neg (Nat.not_le.mpr hshort)]
    omega
  · rw [if_neg hshort, ← announcedLength_eq hshort] at h
    rw [if_pos (Nat.not_lt.mp hshort)]
    dsimp only at h
    split at h
    · cases h
    split at h
    · omega
    · cases h

theorem readEnd_lt_makeRoom {size : Nat} (hsize : streamPacketLengthSize ≤ size)
    (h : parseFrame (ε := ε) c.pending = .ok none) :
    (c.makeRoom size).readEnd < (c.makeRoom size).readBuffer.length := by
  have hlt := pending_length_lt_requiredCapacity hsize h
  unfold makeRoom
  split
  · simp only [moveTo, length_copyInto (Nat.zero_le _), length_replicate]
    exact hlt
  split
  · simp only [moveTo, length_copyInto (Nat.zero_le _)]
    omega
  · omega

theorem pending_store {data : Bytes} (err : Option ε)
    (h : data.length ≤ c.readBuffer.length - c.readEnd) :
    (c.store data err h).pending = c.pending ++ data := by
  have hend := c.end_le_length
  have htake : (copyInto c.readBuffer c.readEnd data).take (c.readEnd + data.length) = _ :=
    take_copyInto (by omega)
  rw [pending, store]
  rw [htake, drop_append_of_le_length (by rw [length_take_of_le hend]; exact c.start_le_end),
    pending]

end StreamReader

/-! ### Reading a stream of frames -/

def EndsEmpty {ε : Type} (count : Nat) (log : List (SocketRead ε)) : Prop :=
  ∃ reads, reads <:+ log ∧ reads.length = count ∧ ∀ read ∈ reads, read.isEmpty = true

variable {ε : Type}

theorem EndsEmpty.concat {count : Nat} {log : List (SocketRead ε)} (h : EndsEmpty count log)
    {read : SocketRead ε} (hread : read.isEmpty = true) :
    EndsEmpty (count + 1) (log ++ [read]) := by
  obtain ⟨reads, ⟨front, rfl⟩, hcount, hall⟩ := h
  refine ⟨reads ++ [read], ⟨front, (append_assoc ..).symm⟩, by simp [hcount], ?_⟩
  intro other hother
  rcases mem_append.mp hother with hmem | hmem
  · exact hall other hmem
  · rwa [mem_singleton.mp hmem]

theorem EndsEmpty.zero (log : List (SocketRead ε)) : EndsEmpty 0 log :=
  ⟨[], nil_suffix, rfl, by simp⟩

/-- As many reads in a row brought nothing as the reader stands. -/
def Stalls {ε : Type} (log : List (SocketRead ε)) : Prop :=
  ∃ reads, reads <:+: log ∧ reads.length = streamPacketMaxEmptyReads ∧
    ∀ read ∈ reads, read.isEmpty = true

theorem EndsEmpty.stalls {log : List (SocketRead ε)} (h : EndsEmpty streamPacketMaxEmptyReads log) :
    Stalls log := by
  obtain ⟨reads, hsuffix, hreads⟩ := h
  exact ⟨reads, hsuffix.isInfix, hreads⟩

theorem Stalls.mono {log log' : List (SocketRead ε)} (h : Stalls log) (hlog : log <+: log') :
    Stalls log' := by
  obtain ⟨reads, hinfix, hreads⟩ := h
  exact ⟨reads, hinfix.trans hlog.isInfix, hreads⟩

/-- Of the packets of a stream, those in `returned` have been handed out and `errs` are the
    errors of the socket that have been: the bytes taken from the socket are the frames
    of these packets and the pending bytes, and what is pending or unread are the frames
    of the others.  No read was made without room. -/
structure Reads {ε : Type} (packets returned : List Bytes) (errs : List ε) (c : StreamReader ε)
    (socket : ReadSocket ε) : Prop where
  remaining : ∃ remaining, packets = returned ++ remaining ∧
    c.pending ++ socket.unread = (streamCode ε).encodeAll remaining
  bytes : socket.log.flatMap SocketRead.data = (streamCode ε).encodeAll returned ++ c.pending
  errs : errs ++ c.readErr.toList = socket.log.filterMap SocketRead.err
  rooms : ∀ read ∈ socket.log, 0 < read.room

namespace Reads

variable {ε : Type} {packets returned : List Bytes} {errs : List ε} {c : StreamReader ε}
  {socket : ReadSocket ε}

/-- Nothing is whole and more is to come if packets are, or the next packet is taken. -/
theorem buffered (hvalid : ∀ packet ∈ packets, (streamCode ε).Valid packet)
    (h : Reads packets returned errs c socket) :
    (parseFrame (ε := ε) c.pending = .ok none ∧ c.bufferedPacketLocked = (.ok none, c) ∧
      (packets ≠ returned → socket.unread ≠ [])) ∨
    ∃ packet c', c.bufferedPacketLocked = (.ok (some packet), c') ∧
      Reads packets (returned ++ [packet]) errs c' socket := by
  obtain ⟨remaining, hpackets, hstream⟩ := h.remaining
  have hspec := c.bufferedPacketLocked_spec
  have hremaining : ∀ packet ∈ remaining, (streamCode ε).Valid packet := by
    intro packet hpacket
    exact hvalid packet (by rw [hpackets]; exact mem_append_right _ hpacket)
  rcases FrameCode.parse_of_append hremaining hstream with
    ⟨hnone, hmore⟩ | ⟨packet, others, tail, rfl, hparse, hbuffer, htail⟩
  · left
    change parseFrame c.pending = _ at hnone
    rw [hnone] at hspec
    refine ⟨hnone, hspec, fun hne => hmore ?_⟩
    rintro rfl
    exact hne (by rw [hpackets, append_nil])
  · right
    change parseFrame c.pending = _ at hparse
    rw [hparse] at hspec
    obtain ⟨c', hc', hpending, herr⟩ := hspec
    refine ⟨packet, c', hc', ⟨others, ?_, ?_⟩, ?_, ?_, h.rooms⟩
    · rw [hpackets, append_assoc, singleton_append]
    · rw [hpending, htail]
    · rw [h.bytes, hbuffer, hpending, FrameCode.encodeAll_append, FrameCode.encodeAll_cons,
        FrameCode.encodeAll_nil, append_nil, append_assoc]
    · rw [herr, h.errs]

variable {size : Nat}

theorem fill (hsize : streamPacketLengthSize ≤ size) (h : Reads packets returned errs c socket)
    (hnone : parseFrame (ε := ε) c.pending = .ok none) (herr : c.readErr = none)
    (outcome : ReadOutcome ε) :
    Reads packets returned errs (c.fillLocked size socket outcome).2.1
      (c.fillLocked size socket outcome).2.2 := by
  have hroom := StreamReader.readEnd_lt_makeRoom hsize hnone
  obtain ⟨remaining, hpackets, hstream⟩ := h.remaining
  refine ⟨⟨remaining, hpackets, ?_⟩, ?_, ?_, ?_⟩
  · rw [← hstream]
    simp only [StreamReader.fillLocked, StreamReader.pending_store, StreamReader.pending_makeRoom,
      ReadSocket.read, append_assoc, take_append_drop]
  · simp only [StreamReader.fillLocked, StreamReader.pending_store, StreamReader.pending_makeRoom,
      ReadSocket.read, flatMap_append, h.bytes, append_assoc]
    simp
  · have herrs := h.errs
    rw [herr, Option.toList_none, append_nil] at herrs
    simp only [StreamReader.fillLocked, StreamReader.store, ReadSocket.read, filterMap_append,
      ← herrs]
    cases outcome.err with
    | none => rfl
    | some err => rfl
  · intro read hread
    rcases mem_append.mp hread with hmem | hmem
    · exact h.rooms read hmem
    · rw [mem_singleton.mp hmem]
      exact Nat.sub_pos_of_lt hroom

theorem takeErr (h : Reads packets returned errs c socket) {err : ε} (herr : c.readErr = some err) :
    Reads packets returned (errs ++ [err]) { c with readErr := none } socket := by
  refine ⟨h.remaining, h.bytes, ?_, h.rooms⟩
  rw [← h.errs, herr]
  simp

/-- What an answer of `readPacketLocked` means for a stream of which `returned` and `errs`
    have been handed out. -/
def Answers (packets returned : List Bytes) (errs : List ε) :
    ReadState.Answer ε Bytes → ReadState ε → Prop
  | none, s => Reads packets returned errs s.reader s.socket ∧ s.script = []
  | some (.ok packet), s => Reads packets (returned ++ [packet]) errs s.reader s.socket
  | some (.error (.socket err)), s => Reads packets returned (errs ++ [err]) s.reader s.socket
  | some (.error .noProgress), s => Reads packets returned errs s.reader s.socket ∧
      Stalls s.socket.log
  | some (.error .badEncapsulatedPacketLength), _ => False

theorem log_fillLocked (size : Nat) (c : StreamReader ε) (socket : ReadSocket ε)
    (outcome : ReadOutcome ε) :
    ∃ read, (c.fillLocked size socket outcome).2.2.log = socket.log ++ [read] ∧
      (c.fillLocked size socket outcome).1 = read.data.length ∧
      (c.fillLocked size socket outcome).2.1.readErr = read.err := ⟨_, rfl, rfl, rfl⟩

theorem readPacketLoop (hsize : streamPacketLengthSize ≤ size)
    (hvalid : ∀ packet ∈ packets, (streamCode ε).Valid packet)
    (h : Reads packets returned errs c socket) {emptyReads : Nat}
    (hempty : EndsEmpty emptyReads socket.log) (hlt : emptyReads < streamPacketMaxEmptyReads)
    (script : List (ReadOutcome ε)) :
    socket.log <+: (ReadState.readPacketLoop size script emptyReads c socket).2.socket.log ∧
    Answers packets returned errs (ReadState.readPacketLoop size script emptyReads c socket).1
      (ReadState.readPacketLoop size script emptyReads c socket).2 := by
  induction script generalizing c socket emptyReads with
  | nil =>
    unfold ReadState.readPacketLoop
    rcases h.buffered hvalid with ⟨-, hbuffered, -⟩ | ⟨packet, c', hbuffered, hreads⟩
    · rw [hbuffered]
      cases herr : c.readErr with
      | some err =>
        simp only [herr]
        exact ⟨prefix_rfl, h.takeErr herr⟩
      | none =>
        simp only [herr]
        exact ⟨prefix_rfl, h, rfl⟩
    · rw [hbuffered]
      exact ⟨prefix_rfl, hreads⟩
  | cons outcome script ih =>
    unfold ReadState.readPacketLoop
    rcases h.buffered hvalid with ⟨hnone, hbuffered, -⟩ | ⟨packet, c', hbuffered, hreads⟩
    · rw [hbuffered]
      cases herr : c.readErr with
      | some err =>
        simp only [herr]
        exact ⟨prefix_rfl, h.takeErr herr⟩
      | none =>
        have hfill := h.fill hsize hnone herr outcome
        obtain ⟨read, hlog, hdata, hreadErr⟩ := log_fillLocked size c socket outcome
        simp only [herr]
        generalize c.fillLocked size socket outcome = filled at hfill hlog hdata hreadErr ⊢
        obtain ⟨readBytes, c', socket'⟩ := filled
        have hgrows : socket.log <+: socket'.log := ⟨[read], hlog.symm⟩
        dsimp only at hfill hlog hdata hreadErr ⊢
        split
        · obtain ⟨hlogs, hanswers⟩ := ih hfill (EndsEmpty.zero _) (by decide)
          exact ⟨hgrows.trans hlogs, hanswers⟩
        · next hno =>
          have hread : read.isEmpty = true := by
            simp only [not_or, hdata, hreadErr] at hno
            simpa [SocketRead.isEmpty] using hno
          have hconcat : EndsEmpty (emptyReads + 1) socket'.log := by
            rw [hlog]
            exact hempty.concat hread
          split
          · next hlimit =>
            have hcount : emptyReads + 1 = streamPacketMaxEmptyReads := by omega
            rw [hcount] at hconcat
            exact ⟨hgrows, hfill, hconcat.stalls⟩
          · next hlimit =>
            obtain ⟨hlogs, hanswers⟩ := ih hfill hconcat (Nat.not_le.mp hlimit)
            exact ⟨hgrows.trans hlogs, hanswers⟩
    · rw [hbuffered]
      exact ⟨prefix_rfl, hreads⟩

theorem bufferedPackets (hvalid : ∀ packet ∈ packets, (streamCode ε).Valid packet)
    (h : Reads packets returned errs c socket) (count : Nat) :
    (ReadState.bufferedPackets count c).1.2 = none ∧
    Reads packets (returned ++ (ReadState.bufferedPackets count c).1.1) errs
      (ReadState.bufferedPackets count c).2 socket := by
  induction count generalizing c returned with
  | zero => exact ⟨rfl, by simpa [ReadState.bufferedPackets] using h⟩
  | succ count ih =>
    unfold ReadState.bufferedPackets
    rcases h.buffered hvalid with ⟨-, hbuffered, -⟩ | ⟨packet, c', hbuffered, hreads⟩
    · rw [hbuffered]
      exact ⟨rfl, by simpa using h⟩
    · obtain ⟨hnone, hothers⟩ := ih hreads
      rw [append_assoc, singleton_append] at hothers
      rw [hbuffered]
      exact ⟨hnone, hothers⟩

def socketErr : Option (StreamReadError ε) → Option ε
  | some (.socket err) => some err
  | _ => none

def Returns (packets returned : List Bytes) (errs : List ε) :
    Option (ReadState.ReadReturn ε) → ReadState ε → Prop
  | none, s => Reads packets returned errs s.reader s.socket ∧ s.script = []
  | some result, s =>
      Reads packets (returned ++ result.packets) (errs ++ (socketErr result.err).toList)
        s.reader s.socket ∧
      result.err ≠ some .badEncapsulatedPacketLength ∧
      (result.err = some .noProgress → Stalls s.socket.log)

section

variable (hsize : streamPacketLengthSize ≤ size)
  (hvalid : ∀ packet ∈ packets, (streamCode ε).Valid packet)
  {s : ReadState ε} (h : Reads packets returned errs s.reader s.socket)

include hsize hvalid h

theorem call (which : ReadState.ReadCall) :
    s.socket.log <+: (s.call size which).2.socket.log ∧
    Returns packets returned errs (s.call size which).1 (s.call size which).2 := by
  obtain ⟨hlog, hanswers⟩ := h.readPacketLoop hsize hvalid (EndsEmpty.zero _) (by decide) s.script
  change s.socket.log <+: (s.readPacketLocked size).2.socket.log at hlog
  change Answers packets returned errs (s.readPacketLocked size).1
    (s.readPacketLocked size).2 at hanswers
  unfold ReadState.call
  generalize s.readPacketLocked size = answer at hlog hanswers ⊢
  match answer, hlog, hanswers with
  | (none, s'), hlog, hanswers => exact ⟨hlog, hanswers⟩
  | (some (.error (.socket err)), s'), hlog, hanswers =>
    exact ⟨hlog, by simpa [socketErr, Answers] using hanswers, by simp, by simp⟩
  | (some (.error .noProgress), s'), hlog, hanswers =>
    exact ⟨hlog, by simpa [socketErr] using hanswers.1, by simp, fun _ => hanswers.2⟩
  | (some (.ok packet), s'), hlog, hanswers =>
    cases which with
    | readPacket => exact ⟨hlog, by simpa [socketErr, Answers] using hanswers, by simp, by simp⟩
    | readPackets =>
      obtain ⟨hnone, hothers⟩ := bufferedPackets hvalid hanswers (packetConnectionBatchSize - 1)
      refine ⟨hlog, ?_, ?_, ?_⟩
      · rw [hnone]
        simpa [socketErr] using hothers
      · rw [hnone]
        simp
      · rw [hnone]
        simp

/-- Whatever mix of calls is made, what they return together is accounted for. -/
theorem calls (mix : List ReadState.ReadCall) :
    let returns := (s.calls size mix).1
    let s' := (s.calls size mix).2
    Reads packets (returned ++ returns.flatMap ReadState.ReadReturn.packets)
      (errs ++ returns.filterMap fun result => socketErr result.err) s'.reader s'.socket ∧
    s.socket.log <+: s'.socket.log ∧
    (returns.length < mix.length → s'.script = []) ∧
    ∀ result ∈ returns, result.err ≠ some .badEncapsulatedPacketLength ∧
      (result.err = some .noProgress → Stalls s'.socket.log) := by
  induction mix generalizing s returned errs with
  | nil => exact ⟨by simpa [ReadState.calls] using h, prefix_rfl, nofun, by simp [ReadState.calls]⟩
  | cons which others ih =>
    obtain ⟨hlog, hreturns⟩ := h.call hsize hvalid which
    unfold ReadState.calls
    generalize s.call size which = answer at hlog hreturns ⊢
    match answer, hlog, hreturns with
    | (none, s'), hlog, hreturns =>
      exact ⟨by simpa using hreturns.1, hlog, fun _ => hreturns.2, by simp⟩
    | (some result, s'), hlog, ⟨hreads, hbad, hprogress⟩ =>
      obtain ⟨hall, hlogs, hwaits, hresults⟩ := ih hreads
      refine ⟨?_, hlog.trans hlogs, fun hfewer => hwaits (Nat.lt_of_succ_lt_succ hfewer), ?_⟩
      · cases hsocket : socketErr result.err with
        | none | some err => simpa [hsocket] using hall
      · intro other hother
        rcases mem_cons.mp hother with rfl | hmem
        · exact ⟨hbad, fun heq => (hprogress heq).mono hlogs⟩
        · exact hresults other hmem

end

theorem drain (size : Nat) (hvalid : ∀ packet ∈ packets, (streamCode ε).Valid packet)
    {s : ReadState ε} (h : Reads packets returned errs s.reader s.socket)
    (hunread : s.socket.unread = []) {rest : List Bytes} (hrest : packets = returned ++ rest) :
    (s.calls size (List.replicate rest.length .readPacket)).1 =
      rest.map fun packet => ⟨[packet], none⟩ := by
  induction rest generalizing s returned with
  | nil => rfl
  | cons packet rest ih =>
    rcases h.buffered hvalid with ⟨-, -, hmore⟩ | ⟨packet', c', hbuffered, hreads⟩
    · refine absurd hunread (hmore ?_)
      rw [hrest]
      simp
    · obtain ⟨others, hothers, -⟩ := hreads.remaining
      obtain ⟨rfl, rfl⟩ : packet' = packet ∧ others = rest := by
        rw [hrest, append_assoc, append_cancel_left_eq, singleton_append] at hothers
        exact ⟨(List.cons.inj hothers).1.symm, (List.cons.inj hothers).2.symm⟩
      have hcall : s.call size .readPacket = (some ⟨[packet'], none⟩, { s with reader := c' }) := by
        unfold ReadState.call ReadState.readPacketLocked ReadState.readPacketLoop
        rw [hbuffered]
      have hnext := ih (s := { s with reader := c' }) hreads hunread hothers
      rw [length_cons, replicate_succ, ReadState.calls, hcall, map_cons]
      dsimp only
      rw [hnext]

end Reads

/-! ### Round trip -/

/-- What batches written without an error are on the wire, as a stream of frames. -/
theorem wire_writes {ε ε' : Type} {writes : List (StreamWriter ε' × List Bytes)}
    (hwritten : ∀ write ∈ writes, (write.1.writePackets write.2).errs = []) :
    (∀ packet ∈ (writes.flatMap Prod.snd).filter fun packet => packet.length ≠ 0,
      (streamCode ε).Valid packet) ∧
    (writes.flatMap fun write => (write.1.writePackets write.2).wire) =
      (streamCode ε).encodeAll
        ((writes.flatMap Prod.snd).filter fun packet => packet.length ≠ 0) := by
  constructor
  · intro packet hpacket
    obtain ⟨hmem, hne⟩ := mem_filter.mp hpacket
    obtain ⟨write, hwrite, hmem⟩ := mem_flatMap.mp hmem
    have hsizes := (write.1.wire_writePackets_of_ok (hwritten write hwrite)).1
    exact ⟨of_decide_eq_true hne, hsizes packet hmem⟩
  · change _ = wireBytes (writes.flatMap Prod.snd)
    induction writes with
    | nil => rfl
    | cons write writes ih =>
      have hwire := (write.1.wire_writePackets_of_ok (hwritten write mem_cons_self)).2
      have hothers := ih fun other hother => hwritten other (mem_cons_of_mem _ hother)
      rw [flatMap_cons, flatMap_cons, wireBytes_append, hwire, hothers]

/-- Errors other than those of the socket have been excluded. -/
theorem filterMap_err {returns : List (ReadState.ReadReturn ε)}
    (h : ∀ result ∈ returns, result.err ≠ some .badEncapsulatedPacketLength ∧
      result.err ≠ some .noProgress) :
    returns.filterMap ReadState.ReadReturn.err =
      (returns.filterMap fun result => Reads.socketErr result.err).map .socket := by
  induction returns with
  | nil => rfl
  | cons result returns ih =>
    have hothers := ih fun other hother => h other (mem_cons_of_mem _ hother)
    obtain ⟨hbad, hprogress⟩ := h result mem_cons_self
    rw [filterMap_cons, filterMap_cons, hothers]
    match herr : result.err with
    | none => rfl
    | some (.socket err) => rfl
    | some .noProgress => exact absurd herr hprogress
    | some .badEncapsulatedPacketLength => exact absurd herr hbad

/-- Whatever was written to a stream link without an error, however the bytes are cut by the
    reads of the other side and whatever mix of calls is made there: the packets
    returned are the non-empty ones in order, the bytes taken from the socket are their frames
    and what is pending, and nothing is skipped; every read has room, and a call waits only
    when the socket has no more reads to give.  Unless the socket stalls, the only errors are
    those of the socket, each returned once; and when all has been read, the remaining packets
    are returned without another read. -/
theorem stream_round_trip {ε ε' : Type} {streamPacketReadBufferSize : Nat}
    (hsize : 2 ≤ streamPacketReadBufferSize) (writes : List (StreamWriter ε' × List Bytes))
    (hwritten : ∀ write ∈ writes, (write.1.writePackets write.2).errs = [])
    (script : List (ReadOutcome ε)) (mix : List ReadState.ReadCall) :
    let packets := (writes.flatMap Prod.snd).filter fun packet => packet.length ≠ 0
    let stream := writes.flatMap fun write => (write.1.writePackets write.2).wire
    let run := (ReadState.start stream script).calls streamPacketReadBufferSize mix
    let returned := run.1.flatMap ReadState.ReadReturn.packets
    let c := run.2.reader
    let socket := run.2.socket
    returned <+: packets ∧
    socket.log.flatMap SocketRead.data ++ socket.unread = stream ∧
    socket.log.flatMap SocketRead.data = returned.flatMap streamFrame ++ c.pending ∧
    (∀ read ∈ socket.log, 0 < read.room) ∧
    (run.1.length < mix.length → run.2.script = []) ∧
    (¬ Stalls socket.log → run.1.filterMap ReadState.ReadReturn.err ++
      c.readErr.toList.map .socket = (socket.log.filterMap SocketRead.err).map .socket) ∧
    (socket.unread = [] → ∃ rest, packets = returned ++ rest ∧
      (run.2.calls streamPacketReadBufferSize (List.replicate rest.length .readPacket)).1 =
        rest.map fun packet => ⟨[packet], none⟩) := by
  intro packets stream run returned c socket
  obtain ⟨hvalid, hstream⟩ := wire_writes (ε := ε) hwritten
  have hstart : Reads packets [] [] (ReadState.start stream script).reader
      (ReadState.start stream script).socket :=
    ⟨⟨packets, rfl, hstream⟩, rfl, rfl, by simp [ReadState.start]⟩
  obtain ⟨hreads, -, hwaits, hresults⟩ := hstart.calls hsize hvalid mix
  change Reads packets returned _ c socket at hreads
  obtain ⟨rest, hrest, hpending⟩ := hreads.remaining
  refine ⟨⟨rest, hrest.symm⟩, ?_, hreads.bytes, hreads.rooms, hwaits, ?_, ?_⟩
  · calc socket.log.flatMap SocketRead.data ++ socket.unread
        = (streamCode ε).encodeAll returned ++ (c.pending ++ socket.unread) := by
          rw [hreads.bytes, append_assoc]
      _ = (streamCode ε).encodeAll (returned ++ rest) := by
          rw [hpending, FrameCode.encodeAll_append]
      _ = stream := by rw [← hrest, ← hstream]
  · intro hstall
    rw [← hreads.errs, filterMap_err fun result hresult => ⟨(hresults result hresult).1,
      fun heq => hstall ((hresults result hresult).2 heq)⟩, ← map_append, nil_append]
  · intro hunread
    exact ⟨rest, hrest, hreads.drain streamPacketReadBufferSize hvalid hunread hrest⟩

def willingWriter : StreamWriter Unit where
  socket := .writev fun bytes => ⟨bytes.length, none⟩
  vectorisedWrites := true
  closeErr := none

/-- Two packets, cut inside the length and inside the body, with a timeout on the way: the
    first call fails with the timeout and the next ones return both packets. -/
theorem stream_round_trip_cut :
    let script : List (ReadOutcome Unit) := [⟨1, some ()⟩, ⟨3, none⟩, ⟨100, none⟩]
    let stream := (willingWriter.writePackets [[1, 2], [], [3]]).wire
    let run := (ReadState.start stream script).calls 16384 [.readPacket, .readPacket, .readPackets]
    run.1 = [⟨[], some (.socket ())⟩, ⟨[[1, 2]], none⟩, ⟨[[3]], none⟩] ∧
      ∀ read ∈ run.2.socket.log, 0 < read.room := by
  have htrip := stream_round_trip (show 2 ≤ 16384 by decide) [(willingWriter, [[1, 2], [], [3]])]
    (by decide) [⟨1, some ()⟩, ⟨3, none⟩, ⟨100, none⟩] [.readPacket, .readPacket, .readPackets]
  refine ⟨by decide +kernel, ?_⟩
  simpa using htrip.2.2.2.1

end SingOpenVPN
