import SingOpenVPN.FragmentReassembly

/-!
# Fragments that arrive in order (`data_channel_fragmentation.go`)

A receiver without buffers that is fed the fragments of a packet one after the other, each
soon enough after the one before, returns the packet with the last of them and has no buffer
again.  In between it holds one buffer, with the fragments so far (`Holding`).
-/

namespace SingOpenVPN

open Chunks FragmentReceiver

namespace FragmentReceiver

variable (order : RangeOrder) {f : FragmentReceiver} {sequenceID : Nat}

theorem deleteWhere_eq_self {condition : Nat → IncomingFragmentBuffer → Bool}
    (h : ∀ key b, f.buffer key = some b → condition key b = false) :
    f.deleteWhere order condition = f := by
  have hround : ∀ key, f.deleteIf condition key = f := by
    intro key
    rw [deleteIf]
    split
    · rfl
    · next b hbuffer => rw [h key b hbuffer, if_neg Bool.false_ne_true]
  rw [deleteWhere]
  induction order.range f.incomingBySequence.keys with
  | nil => rfl
  | cons key keys ih => rw [List.foldl_cons, hround, ih]

theorem makeRoom_enough {additionalBytes limit : Int} (rounds : Nat)
    (h : f.incomingBytes + additionalBytes ≤ limit) :
    f.makeRoom order sequenceID additionalBytes limit rounds = (true, f) := by
  cases rounds with
  | zero => simp [makeRoom, h]
  | succ rounds => rw [makeRoom, if_pos h]

def Settled (f : FragmentReceiver) (sequenceID : Nat) : Prop :=
  f.incomingSequenceSet = true ∧
    -openVPNFragmentReceiveWindow < fragmentSequenceDifference sequenceID f.incomingSequence ∧
    fragmentSequenceDifference sequenceID f.incomingSequence ≤ 0

theorem sequenceDifference_self (sequenceID : Nat) :
    fragmentSequenceDifference sequenceID sequenceID = 0 := by
  simp [fragmentSequenceDifference]

structure Idle (f : FragmentReceiver) : Prop where
  limits : f.limits = newFragmentReceiver.limits
  empty : ∀ key, f.buffer key = none
  bytes : f.incomingBytes = 0

theorem Idle.deleteWhere (h : Idle f) (condition : Nat → IncomingFragmentBuffer → Bool) :
    f.deleteWhere order condition = f :=
  deleteWhere_eq_self order fun key b hbuffer => by
    rw [h.empty] at hbuffer
    cases hbuffer

theorem Idle.moved (h : Idle f) (incomingSequence : Nat) (incomingSequenceSet : Bool) :
    Idle { f with incomingSequence := incomingSequence
                  incomingSequenceSet := incomingSequenceSet } :=
  { h with }

theorem Idle.arrived (h : Idle f) (now : Time) (sequenceID : Nat) :
    Idle (f.arrived order now sequenceID) ∧
      (f.arrived order now sequenceID).Settled sequenceID := by
  have hzero := sequenceDifference_self sequenceID
  have hwindow : (0 : Int) < openVPNFragmentReceiveWindow := by decide
  have hsettled : ∀ g : FragmentReceiver, g.incomingSequenceSet = true →
      g.incomingSequence = sequenceID → g.Settled sequenceID := by
    intro g hset hsequence
    rw [Settled, hset, hsequence, hzero]
    exact ⟨rfl, by omega, le_rfl⟩
  rw [FragmentReceiver.arrived, expireIncomingFragments, h.deleteWhere order]
  rw [advanceIncomingFragmentWindow]
  split
  · exact ⟨h.moved _ _, hsettled _ rfl rfl⟩
  · next hset =>
    have hset : f.incomingSequenceSet = true := by simpa using hset
    dsimp only
    split
    · rw [clearIncomingFragments, h.deleteWhere order]
      exact ⟨h.moved _ _, hsettled _ hset rfl⟩
    · next hnear =>
      split
      · next hbehind => exact ⟨h, hset, by omega, hbehind⟩
      · rw [Idle.deleteWhere order (h.moved sequenceID f.incomingSequenceSet)]
        exact ⟨h.moved _ _, hsettled _ hset rfl⟩

end FragmentReceiver

namespace FragmentSend

variable (send : FragmentSend) (sequenceID : Nat)

/-- The one buffer there is holds the first fragments of a packet. -/
structure Holding (f : FragmentReceiver) (b : IncomingFragmentBuffer) (fed : Nat) : Prop where
  limits : f.limits = newFragmentReceiver.limits
  settled : f.Settled sequenceID
  only : ∀ key, f.buffer key = if key = sequenceID then some b else none
  bytes : f.incomingBytes = b.bytes
  parts : PartOf send b
  first : ∀ index, (∃ part, b.parts.lookup index = some part) ↔ index < fed

variable {send sequenceID} (order : RangeOrder) {f : FragmentReceiver} {b : IncomingFragmentBuffer}
  {now : Time} {fed : Nat}

theorem holding_first (h : f.Idle) :
    ∃ g b, (f.arrived order now sequenceID).openBuffer now sequenceID send.size = (g, b) ∧
      Holding send sequenceID g b 0 := by
  obtain ⟨hidle, hsettled⟩ := h.arrived order now sequenceID
  refine ⟨_, _, openBuffer_new _ now send.size (hidle.empty sequenceID),
    hidle.limits, hsettled, fun key => ?_, hidle.bytes, partOf_new send now, fun index => ?_⟩
  · rw [((f.arrived order now sequenceID).insert_spec sequenceID _).2, hidle.empty]
  · constructor
    · rintro ⟨part, hpart⟩
      cases hpart
    · intro hindex
      omega

theorem holding_kept (h : Holding send sequenceID f b fed)
    (hsoon : now - b.updated < openVPNFragmentReassemblyTimeout) :
    f.expireIncomingFragments order now = f ∧ f.arrived order now sequenceID = f := by
  have htimeout : f.timeout = openVPNFragmentReassemblyTimeout := by
    have hlimit : f.reassemblyTimeout = openVPNFragmentReassemblyTimeout := congrArg (·.1) h.limits
    rw [timeout, hlimit]
    exact ite_self _
  have hexpired : f.expireIncomingFragments order now = f := by
    refine deleteWhere_eq_self order fun key buffer hbuffer => ?_
    rw [h.only] at hbuffer
    split at hbuffer
    · cases hbuffer
      rw [htimeout, decide_eq_false_iff_not]
      exact not_le.mpr hsoon
    · cases hbuffer
  refine ⟨hexpired, ?_⟩
  rw [arrived, hexpired, advance_behind order h.settled.1 h.settled.2.1 h.settled.2.2]

theorem holding_next (h : Holding send sequenceID f b fed)
    (hsoon : now - b.updated < openVPNFragmentReassemblyTimeout) :
    (f.arrived order now sequenceID).openBuffer now sequenceID send.size = (f, b) := by
  rw [(holding_kept order h hsoon).2]
  exact f.openBuffer_same now ((h.only sequenceID).trans (if_pos rfl)) h.parts.maxSize

theorem Holding.first_stored (h : Holding send sequenceID f b fed) (index : Nat) :
    (∃ part, (send.stored b now fed).parts.lookup index = some part) ↔ index < fed + 1 := by
  rw [lookup_stored]
  split
  · next heq => exact ⟨fun _ => by omega, fun _ => ⟨_, rfl⟩⟩
  · next hne =>
    rw [h.first]
    omega

theorem Holding.join_last (h : Holding send sequenceID f b (fed + 1)) (hcut : send.Consumes)
    (hlast : send.isLast fed = true) : b.lastID.bind b.join = some send.payload := by
  refine ((h.parts.join hcut).resolve_right ?_).1
  rintro ⟨-, index, hindex, hmissing⟩
  have hlt : index < fed + 1 :=
    Nat.lt_of_mul_lt_mul_right (hindex.trans_le (of_decide_eq_true hlast))
  obtain ⟨part, hpart⟩ := (h.first index).mpr hlt
  rw [hmissing] at hpart
  cases hpart

/-- Without it the buffer does not know how many there are. -/
theorem Holding.join_more (h : Holding send sequenceID f b (fed + 1))
    (hlast : send.isLast fed = false) : b.lastID.bind b.join = none := by
  cases hlastID : b.lastID with
  | none => rfl
  | some last =>
    obtain ⟨hpart, hend⟩ := (h.parts.lastID last).mp hlastID
    have hlt := (h.first last).mp hpart
    have hlength : send.payload.length ≤ (last + 1) * send.size := of_decide_eq_true hend
    have hle : (last + 1) * send.size ≤ (fed + 1) * send.size := Nat.mul_le_mul_right _ (by omega)
    exact absurd (hlength.trans hle) (of_decide_eq_false hlast)

theorem Holding.idle (h : Holding send sequenceID f b fed) :
    (f.deleteIncomingFragmentBuffer sequenceID).Idle := by
  refine ⟨(limits_of_outside (f.outside_delete sequenceID)).trans h.limits,
    fun key => ?_, ?_⟩
  · rw [buffer_delete, h.only]
    split <;> rfl
  · have hbuffer : f.incomingBySequence.lookup sequenceID = some b :=
      (h.only sequenceID).trans (if_pos rfl)
    rw [deleteIncomingFragmentBuffer, hbuffer]
    change max (f.incomingBytes - b.bytes) 0 = 0
    rw [h.bytes, Int.sub_self]
    rfl

section Store

variable (hcut : send.Consumes) (hsize : send.size ≤ 65535) (hsequence : sequenceID < 256)

include hcut hsize hsequence

/-- The next fragment completes the packet or makes the buffer hold one more. -/
theorem decodeFragment_next {g : FragmentReceiver} (hid : fed < 32)
    (hindex : fed * send.size < send.payload.length)
    (hlimits : f.limits = newFragmentReceiver.limits)
    (hopen : (f.arrived order now sequenceID).openBuffer now sequenceID send.size = (g, b))
    (h : Holding send sequenceID g b fed) (hfits : (send.stored b now fed).bytes ≤ 65535) :
    let result := f.decodeFragment order now (send.fragment sequenceID fed)
    if send.isLast fed then result.1 = .ok (some send.payload) ∧ result.2.Idle
    else result.1 = .ok none ∧ ∃ b', Holding send sequenceID result.2 b' (fed + 1) ∧
      b'.updated = now := by
  have hstored : send.PartOf (send.stored b now fed) := h.parts.stored hcut hindex
  have hpackets : ∀ g : FragmentReceiver, g.limits = newFragmentReceiver.limits →
      g.maxPacketBytes = 65535 := fun g hg => by
    rw [maxPacketBytes_congr hg]
    rfl
  have hmemory : g.maxReassemblyBytes = openVPNFragmentReassemblyMaxBytes := by
    have hlimit : g.reassemblyMaxBytes = openVPNFragmentReassemblyMaxBytes :=
      congrArg (·.2.1) h.limits
    rw [maxReassemblyBytes, hlimit]
    exact ite_self _
  have hbytes : b.bytes + send.additionalBytes b fed ≤ 65535 := hfits
  have hroom : g.room order sequenceID b (send.additionalBytes b fed) = (true, g) := by
    rw [room, hpackets g h.limits, if_neg (not_lt.mpr hbytes)]
    refine makeRoom_enough order _ ?_
    rw [h.bytes, hmemory, openVPNFragmentReassemblyMaxBytes]
    omega
  have hchunk : ((chunk send.size send.payload fed).length : Int) ≤ f.maxPacketBytes := by
    rw [hpackets f hlimits, length_chunk]
    omega
  rw [← fragmentSize_eq fed hindex hcut] at hopen
  have hadditional : send.additionalBytes b fed = (chunk send.size send.payload fed).length -
      (((b.parts.lookup fed).getD []).length : Int) := rfl
  have hstore := store_eq order (send.isLast fed) hchunk hopen hadditional
  have hresult : f.decodeFragment order now (send.fragment sequenceID fed) =
      (.ok ((send.stored b now fed).lastID.bind (send.stored b now fed).join),
        if (send.stored b now fed).lastID.bind (send.stored b now fed).join = none then
          g.fill sequenceID (send.stored b now fed) (send.additionalBytes b fed)
        else (g.fill sequenceID (send.stored b now fed)
          (send.additionalBytes b fed)).deleteIncomingFragmentBuffer sequenceID) := by
    rw [decodeFragment_fragment hsize hsequence hid]
    rw [hpackets f hlimits, if_neg (not_lt.mpr hbytes), hroom, if_pos rfl] at hstore
    exact hstore
  have hfilled : Holding send sequenceID (g.fill sequenceID (send.stored b now fed)
      (send.additionalBytes b fed)) (send.stored b now fed) (fed + 1) := by
    refine ⟨h.limits, h.settled, fun key => ?_, ?_, hstored, h.first_stored⟩
    · rw [show (g.fill sequenceID (send.stored b now fed)
        (send.additionalBytes b fed)).buffer key = _ from
          (g.insert_spec sequenceID (send.stored b now fed)).2 key, h.only]
      split <;> rfl
    · change g.incomingBytes + send.additionalBytes b fed = _
      rw [h.bytes]
      rfl
  intro result
  have hresult : result = _ := hresult
  rw [hresult]
  cases hlast : send.isLast fed with
  | true =>
    rw [hfilled.join_last hcut hlast, if_pos rfl, if_neg (Option.some_ne_none _)]
    exact ⟨rfl, hfilled.idle⟩
  | false =>
    rw [hfilled.join_more hlast, if_neg Bool.false_ne_true, if_pos rfl]
    exact ⟨rfl, _, hfilled, rfl⟩

end Store

end FragmentSend

end SingOpenVPN
