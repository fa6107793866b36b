import SingOpenVPN.ControlDelivery

/-!
# What `Write` reports (`control_channel.go`)

A call of `Write` cuts its argument into control packets.  Each round of its loop
takes a slot of the reliable send buffer and then puts the packet on the link.
Between two rounds the other goroutines of the channel run, so a round comes with
what they do to the channel, with the clock's verdict on the deadline, with the
way a wait for a free slot ends and with the link's answer.

A packet that is in the send buffer is sent again until it is acknowledged
(`runSender` drops the error of the link), but `Write` counts a chunk only after
the link has taken it.
-/

namespace SingOpenVPN

/-! ### One call -/

structure ControlWriteRound where
  /-- what the other goroutines have done to the channel since the last round -/
  others : ControlChannel → ControlChannel
  deadlineExceeded : Bool
  pendingAcknowledgmentCount : Nat
  closedWhileWaiting : Bool
  reachesLink : Bool

/-- Why `Write` stops early: `os.ErrDeadlineExceeded`, an error of the session
    manager, `net.ErrClosed`, or an error of the link. -/
inductive ControlWriteError where
  | deadlineExceeded
  | session (err : SessionError)
  | closed
  | link
deriving DecidableEq

/-- The two values `Write` returns, and the packets it put into the send buffer. -/
structure ControlWriteResult where
  written : Nat
  err : Option ControlWriteError
  queued : List Packet
deriving DecidableEq

def ControlWriteResult.placed (r : ControlWriteResult) : Bytes := r.queued.flatMap Packet.payload

namespace ControlChannel

/-- The loop of `Write`; `none` while it has rounds to go. -/
def writeLoop (c : ControlChannel) (buffer : Bytes) (totalWritten : Nat) (queued : List Packet) :
    List ControlWriteRound → Option ControlWriteResult
  | [] => if buffer.length = 0 then some ⟨totalWritten, none, queued⟩ else none
  | round :: rounds =>
    if buffer.length = 0 then some ⟨totalWritten, none, queued⟩
    else if round.deadlineExceeded then some ⟨totalWritten, some .deadlineExceeded, queued⟩
    else
      let c := round.others c
      match c.newOutgoingControlPacket round.pendingAcknowledgmentCount buffer with
      | (.error err, _) => some ⟨totalWritten, some (.session err), queued⟩
      | (.ok none, c) =>
        if round.closedWhileWaiting then some ⟨totalWritten, some .closed, queued⟩
        else c.writeLoop buffer totalWritten queued rounds
      | (.ok (some packet), c') =>
        let chunkSize := c.outgoingChunkSize round.pendingAcknowledgmentCount buffer.length
        if round.reachesLink then
          c'.writeLoop (buffer.drop chunkSize) (totalWritten + chunkSize)
            (queued ++ [packet]) rounds
        else some ⟨totalWritten, some .link, queued ++ [packet]⟩

def write (c : ControlChannel) (buffer : Bytes) (rounds : List ControlWriteRound) :
    Option ControlWriteResult :=
  c.writeLoop buffer 0 [] rounds

/-- The link takes every packet of the call that carries a part of the buffer. -/
def linkTakesPayload (c : ControlChannel) (buffer : Bytes) : List ControlWriteRound → Bool
  | [] => true
  | round :: rounds =>
    if buffer.length = 0 || round.deadlineExceeded then true
    else
      let c := round.others c
      match c.newOutgoingControlPacket round.pendingAcknowledgmentCount buffer with
      | (.error _, _) => true
      | (.ok none, c) => round.closedWhileWaiting || c.linkTakesPayload buffer rounds
      | (.ok (some _), c') =>
        let chunkSize := c.outgoingChunkSize round.pendingAcknowledgmentCount buffer.length
        if round.reachesLink then c'.linkTakesPayload (buffer.drop chunkSize) rounds
        else chunkSize = 0

/-! ### What a round queues -/

theorem outgoingChunkSize_le (c : ControlChannel) (pendingAcknowledgmentCount bufferLength : Nat) :
    c.outgoingChunkSize pendingAcknowledgmentCount bufferLength ≤ bufferLength := by
  simp [outgoingChunkSize]

theorem newOutgoingControlPacket_eq_some {c c' : ControlChannel} {pendingAcknowledgmentCount : Nat}
    {buffer : Bytes} {packet : Packet}
    (h : c.newOutgoingControlPacket pendingAcknowledgmentCount buffer = (.ok (some packet), c')) :
    packet ∈ c'.outgoing.packets ∧
      packet.payload =
        buffer.take (c.outgoingChunkSize pendingAcknowledgmentCount buffer.length) := by
  rcases insertControlPacket_cases h with
    ⟨outgoing, hnone, -⟩ | ⟨outgoing, made, hmade, rfl, hflight, -, -, hpayload, -⟩
  · exact absurd rfl (hnone packet)
  · simp only [Except.ok.injEq, Option.some.injEq] at hmade
    subst hmade
    exact ⟨(OutgoingReliableState.mem_packets_insert hflight packet).mpr (.inr rfl), hpayload⟩

/-- How a call that has ended counts what it queued: the first `count` bytes of what was
    left of its buffer if the link took every packet with payload, and the chunk of the
    refused packet behind them if not. -/
def Counted (takes : Bool) (buffer : Bytes) (totalWritten : Nat) (queued : List Packet)
    (r : ControlWriteResult) : Prop :=
  ∃ (count : Nat) (made : List Packet), r.written = totalWritten + count ∧
    r.queued = queued ++ made ∧
    if takes then made.flatMap Packet.payload = buffer.take count
    else ∃ chunkSize, 0 < chunkSize ∧ count + chunkSize ≤ buffer.length ∧
      made.flatMap Packet.payload = buffer.take (count + chunkSize)

/-- A round that ends the call without a packet queues nothing. -/
theorem Counted.stop (buffer : Bytes) (totalWritten : Nat) (err : Option ControlWriteError)
    (queued : List Packet) : Counted true buffer totalWritten queued ⟨totalWritten, err, queued⟩ :=
  ⟨0, [], by simp⟩

theorem counted_of_writeLoop {c : ControlChannel} {buffer : Bytes} {totalWritten : Nat}
    {queued : List Packet} {rounds : List ControlWriteRound} {r : ControlWriteResult}
    (h : c.writeLoop buffer totalWritten queued rounds = some r) :
    Counted (c.linkTakesPayload buffer rounds) buffer totalWritten queued r := by
  induction rounds generalizing c buffer totalWritten queued with
  | nil =>
    rw [writeLoop] at h
    split at h
    · cases h
      exact Counted.stop _ _ _ _
    · cases h
  | cons round rounds ih =>
    have hstop : ∀ err, c.linkTakesPayload buffer (round :: rounds) = true →
        some ⟨totalWritten, err, queued⟩ = some r →
        Counted (c.linkTakesPayload buffer (round :: rounds)) buffer totalWritten queued r := by
      intro err htakes hr
      cases hr
      rw [htakes]
      exact Counted.stop _ _ _ _
    rw [writeLoop] at h
    by_cases hempty : buffer.length = 0
    · rw [if_pos hempty] at h
      exact hstop none (by simp [linkTakesPayload, hempty]) h
    by_cases hdeadline : round.deadlineExceeded = true
    · rw [if_neg hempty, if_pos hdeadline] at h
      exact hstop _ (by simp [linkTakesPayload, hdeadline]) h
    rw [if_neg hempty, if_neg hdeadline] at h
    dsimp only at h
    rcases hmade : (round.others c).newOutgoingControlPacket round.pendingAcknowledgmentCount buffer
      with ⟨err | (_ | packet), c'⟩
    · rw [hmade] at h
      exact hstop _ (by simp [linkTakesPayload, hempty, hdeadline, hmade]) h
    · rw [hmade] at h
      dsimp only at h
      by_cases hclosed : round.closedWhileWaiting = true
      · rw [if_pos hclosed] at h
        exact hstop _ (by simp [linkTakesPayload, hempty, hdeadline, hmade, hclosed]) h
      · rw [if_neg hclosed] at h
        have htakes : c.linkTakesPayload buffer (round :: rounds) =
            c'.linkTakesPayload buffer rounds := by
          simp [linkTakesPayload, hempty, hdeadline, hmade, hclosed]
        rw [htakes]
        exact ih h
    · rw [hmade] at h
      dsimp only at h
      obtain ⟨-, hpayload⟩ := newOutgoingControlPacket_eq_some hmade
      have hle :=
        (round.others c).outgoingChunkSize_le round.pendingAcknowledgmentCount buffer.length
      generalize hchunk : (round.others c).outgoingChunkSize round.pendingAcknowledgmentCount
        buffer.length = chunkSize at h hpayload hle
      by_cases hlink : round.reachesLink = true
      · rw [if_pos hlink] at h
        have htakes : c.linkTakesPayload buffer (round :: rounds) =
            c'.linkTakesPayload (buffer.drop chunkSize) rounds := by
          simp [linkTakesPayload, hempty, hdeadline, hmade, hlink, hchunk]
        obtain ⟨count, made, hwritten, hqueued, hbytes⟩ := ih h
        rw [htakes]
        refine ⟨chunkSize + count, packet :: made, by omega, by simp [hqueued], ?_⟩
        split at hbytes
        · next htook =>
          rw [if_pos htook, List.flatMap_cons, hpayload, hbytes, List.take_add]
        · next hnot =>
          obtain ⟨refused, hpos, hfits, hbytes⟩ := hbytes
          rw [List.length_drop] at hfits
          rw [if_neg hnot]
          refine ⟨refused, hpos, by omega, ?_⟩
          rw [List.flatMap_cons, hpayload, hbytes, add_assoc chunkSize]
          exact (List.take_add).symm
      · -- the packet stays in the send buffer, its chunk is not counted
        rw [if_neg hlink] at h
        cases h
        have htakes : c.linkTakesPayload buffer (round :: rounds) = decide (chunkSize = 0) := by
          simp [linkTakesPayload, hempty, hdeadline, hmade, hlink, hchunk]
        rw [htakes]
        refine ⟨0, [packet], by simp, rfl, ?_⟩
        by_cases hzero : chunkSize = 0
        · simp [hzero, hpayload]
        · rw [if_neg (by simpa using hzero)]
          exact ⟨chunkSize, Nat.pos_of_ne_zero hzero, by omega, by simp [hpayload]⟩

end ControlChannel

/-! ### The count -/

/-- **When `Write` reports what it queued.**  For every channel, buffer and script of
    deadlines, full send buffers, closings and link failures: the bytes a call that has
    returned put into the send buffer are the first `written` bytes of its argument
    exactly when the link refused none of its packets with payload. -/
theorem write_reports_queued_iff (c : ControlChannel) (buffer : Bytes)
    (rounds : List ControlWriteRound)
    (r : ControlWriteResult) (h : c.write buffer rounds = some r) :
    r.placed = buffer.take r.written ↔ c.linkTakesPayload buffer rounds = true := by
  obtain ⟨count, made, hwritten, hqueued, hbytes⟩ := ControlChannel.counted_of_writeLoop h
  rw [zero_add] at hwritten
  rw [ControlWriteResult.placed, hwritten, hqueued]
  constructor
  · intro hplaced
    by_contra hnot
    rw [if_neg hnot] at hbytes
    obtain ⟨chunkSize, hpos, hfits, hbytes⟩ := hbytes
    have hlength := congrArg List.length (hplaced.symm.trans hbytes)
    rw [List.length_take, List.length_take] at hlength
    omega
  · intro htakes
    rw [if_pos htakes] at hbytes
    exact hbytes

def freshWriteChannel : ControlChannel :=
  newTLSControlChannel
    { newSessionManagerWithLocalID (List.Vector.replicate 8 1) with
      remoteSessionID := some (List.Vector.replicate 8 2) }
    true [] 0 28

/-- A round without waits and deadlines. -/
def plainRound (reachesLink : Bool) : ControlWriteRound := ⟨id, false, 0, false, reachesLink⟩

theorem write_reports_queued_iff_accepted :
    (freshWriteChannel.write [1, 2, 3] [plainRound true, plainRound true]).map
        (fun r => (r.written, r.placed)) = some (3, [1, 2, 3]) ∧
      ∀ r, freshWriteChannel.write [1, 2, 3] [plainRound true, plainRound true] = some r →
        r.placed = [1, 2, 3].take r.written := by
  refine ⟨by decide, ?_⟩
  intro r h
  exact (write_reports_queued_iff _ _ _ r h).mpr (by decide)

/-- The link refuses the only packet of a call: nothing is reported, three bytes are
    queued. -/
theorem write_queues_unreported :
    ∃ r, freshWriteChannel.write [1, 2, 3] [plainRound false] = some r ∧ r.written = 0 ∧
      r.err = some .link ∧ r.placed = [1, 2, 3] ∧ r.placed ≠ [1, 2, 3].take r.written := by
  refine ⟨_, rfl, ?_⟩
  decide

end SingOpenVPN
