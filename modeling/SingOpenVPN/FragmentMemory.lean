import SingOpenVPN.FragmentBuffers
import SingOpenVPN.TableSum

/-!
# The memory of reassembly (`data_channel_fragmentation.go`)

`bytes` of a buffer and `incomingBytes` of the receiver are counters kept beside the tables.
Whatever fragments arrive they are exact (`Counted`): the first is the length of the parts
stored in the buffer, the second that of the parts of all buffers.  Both stay within their
limits, and `incomingBytes` never has to be raised to zero: a receiver that subtracts without
`max(…, 0)`, with `id` for the clamp, does the same.
-/

namespace SingOpenVPN

open TableSum

def IncomingFragmentBuffer.storedBytes (b : IncomingFragmentBuffer) : Nat :=
  total List.length b.parts

namespace FragmentReceiver

def storedBytes (f : FragmentReceiver) : Nat :=
  total IncomingFragmentBuffer.storedBytes f.incomingBySequence

/-- One round of the loop that frees memory, `none` when it is left. -/
def evictOldest (order : RangeOrder) (sequenceID : Nat) (additionalBytes limit : Int)
    (f : FragmentReceiver) : Option FragmentReceiver :=
  if f.incomingBytes + additionalBytes ≤ limit then none
  else (f.oldestIncomingFragmentSequence order sequenceID).map f.deleteIncomingFragmentBuffer

/-! ### Exact counters -/

/-- The counters are exact and within the limits. -/
structure Counted (f : FragmentReceiver) : Prop where
  buffer : ∀ sequenceID b, f.buffer sequenceID = some b → b.bytes = b.storedBytes
  packet : ∀ sequenceID b, f.buffer sequenceID = some b → b.storedBytes ≤ f.maxPacketBytes
  counter : f.incomingBytes = f.storedBytes
  limit : f.incomingBytes ≤ f.maxReassemblyBytes

theorem maxReassemblyBytes_congr {f g : FragmentReceiver} (h : g.limits = f.limits) :
    g.maxReassemblyBytes = f.maxReassemblyBytes := by
  have hbytes : g.reassemblyMaxBytes = f.reassemblyMaxBytes := congrArg (·.2.1) h
  rw [maxReassemblyBytes, maxReassemblyBytes, hbytes]

theorem maxPacketBytes_pos (f : FragmentReceiver) : 0 < f.maxPacketBytes := by
  rw [maxPacketBytes]
  split
  · decide
  · next hpositive => exact not_le.mp hpositive

theorem maxReassemblyBytes_pos (f : FragmentReceiver) : 0 < f.maxReassemblyBytes := by
  rw [maxReassemblyBytes]
  split
  · decide
  · next hpositive => exact not_le.mp hpositive

variable {f : FragmentReceiver} (order : RangeOrder)

section

variable (h : f.Counted)

include h

theorem Counted.of_shrunk {f' : FragmentReceiver} (hshrunk : Shrunk f f')
    (hcounter : f'.incomingBytes = f'.storedBytes) (hle : f'.incomingBytes ≤ f.incomingBytes) :
    f'.Counted := by
  have hlimits := limits_of_outside hshrunk.outside
  refine ⟨fun sequenceID b hb => h.buffer sequenceID b (hshrunk.buffers sequenceID b hb), ?_,
    hcounter, ?_⟩
  · intro sequenceID b hb
    rw [maxPacketBytes_congr hlimits]
    exact h.packet sequenceID b (hshrunk.buffers sequenceID b hb)
  · rw [maxReassemblyBytes_congr hlimits]
    exact hle.trans h.limit

variable (sequenceID : Nat)

/-- The clamp of a deletion changes nothing, and what is subtracted was counted. -/
theorem Counted.delete :
    f.deleteIncomingFragmentBuffer sequenceID id = f.deleteIncomingFragmentBuffer sequenceID ∧
      (f.deleteIncomingFragmentBuffer sequenceID).Counted := by
  cases hlookup : f.incomingBySequence.lookup sequenceID with
  | none =>
    have heq : ∀ clamp, f.deleteIncomingFragmentBuffer sequenceID clamp = f := by
      intro clamp
      rw [deleteIncomingFragmentBuffer, hlookup]
    rw [heq, heq]
    exact ⟨rfl, h⟩
  | some b =>
    have hbytes : b.bytes = b.storedBytes := h.buffer sequenceID b hlookup
    have hcounter : f.incomingBytes = f.storedBytes := h.counter
    have hrest : b.storedBytes + total IncomingFragmentBuffer.storedBytes
        (f.incomingBySequence.erase sequenceID) = f.storedBytes := total_erase hlookup
    have hclamp : atLeastZero (f.incomingBytes - b.bytes) = f.incomingBytes - b.bytes :=
      max_eq_left (by omega)
    have heq : f.deleteIncomingFragmentBuffer sequenceID = { f with
        incomingBySequence := f.incomingBySequence.erase sequenceID
        incomingBytes := f.incomingBytes - b.bytes } := by
      rw [deleteIncomingFragmentBuffer, hlookup]
      dsimp only
      rw [hclamp]
    refine ⟨?_, h.of_shrunk (f.shrunk_delete sequenceID) ?_ ?_⟩
    · rw [heq, deleteIncomingFragmentBuffer, hlookup]
      rfl
    · rw [heq, storedBytes]
      dsimp only
      omega
    · rw [heq]
      dsimp only
      omega

variable (condition : Nat → IncomingFragmentBuffer → Bool)

theorem Counted.deleteIf (sequenceID : Nat) :
    f.deleteIf condition sequenceID id = f.deleteIf condition sequenceID ∧
      (f.deleteIf condition sequenceID).Counted := by
  rw [FragmentReceiver.deleteIf, FragmentReceiver.deleteIf]
  cases f.incomingBySequence.lookup sequenceID with
  | none => exact ⟨rfl, h⟩
  | some b =>
    cases hcondition : condition sequenceID b with
    | false => simp [hcondition, h]
    | true => simp [hcondition, h.delete sequenceID]

theorem Counted.deleteWhere :
    f.deleteWhere order condition id = f.deleteWhere order condition ∧
      (f.deleteWhere order condition).Counted := by
  rw [FragmentReceiver.deleteWhere, FragmentReceiver.deleteWhere]
  generalize order.range f.incomingBySequence.keys = keys
  induction keys generalizing f with
  | nil => exact ⟨rfl, h⟩
  | cons key keys ih =>
    obtain ⟨heq, hcounted⟩ := h.deleteIf condition key
    rw [List.foldl_cons, List.foldl_cons, heq]
    exact ih hcounted

theorem Counted.window (set : Bool) :
    ({ f with incomingSequence := sequenceID, incomingSequenceSet := set } :
      FragmentReceiver).Counted :=
  { h with }

theorem Counted.advance :
    f.advanceIncomingFragmentWindow order sequenceID id =
        f.advanceIncomingFragmentWindow order sequenceID ∧
      (f.advanceIncomingFragmentWindow order sequenceID).Counted := by
  rw [advanceIncomingFragmentWindow, advanceIncomingFragmentWindow]
  split
  · exact ⟨rfl, h.window sequenceID true⟩
  · dsimp only
    split
    · obtain ⟨heq, hcounted⟩ := h.deleteWhere order fun _ _ => true
      rw [clearIncomingFragments, heq, clearIncomingFragments]
      exact ⟨rfl, hcounted.window sequenceID _⟩
    · split
      · exact ⟨rfl, h⟩
      · exact (h.window sequenceID f.incomingSequenceSet).deleteWhere order _

theorem Counted.makeRoom (additionalBytes limit : Int) (rounds : Nat) :
    f.makeRoom order sequenceID additionalBytes limit rounds id =
        f.makeRoom order sequenceID additionalBytes limit rounds ∧
      (f.makeRoom order sequenceID additionalBytes limit rounds).2.Counted := by
  induction rounds generalizing f with
  | zero => exact ⟨rfl, h⟩
  | succ rounds ih =>
    rw [FragmentReceiver.makeRoom, FragmentReceiver.makeRoom]
    split
    · exact ⟨rfl, h⟩
    · cases f.oldestIncomingFragmentSequence order sequenceID with
      | none => exact ⟨rfl, h⟩
      | some oldestSequence =>
        obtain ⟨heq, hcounted⟩ := h.delete oldestSequence
        dsimp only
        rw [heq]
        exact ih hcounted

theorem Counted.insertNew {sequenceID : Nat} (now : Time) (fragmentSize : Nat)
    (hnone : f.buffer sequenceID = none) :
    (f.insertBuffer sequenceID (newBuffer now fragmentSize)).Counted := by
  obtain ⟨houtside, hbuffer⟩ := f.insert_spec sequenceID (newBuffer now fragmentSize)
  have hbuffers : ∀ other b,
      (f.insertBuffer sequenceID (newBuffer now fragmentSize)).buffer other = some b →
      b = newBuffer now fragmentSize ∨ f.buffer other = some b := by
    intro other b hb
    rw [hbuffer] at hb
    split at hb
    · exact .inl (Option.some.inj hb).symm
    · exact .inr hb
  refine ⟨?_, ?_, ?_, h.limit⟩
  · intro other b hb
    rcases hbuffers other b hb with rfl | hold
    · rfl
    · exact h.buffer other b hold
  · intro other b hb
    rcases hbuffers other b hb with rfl | hold
    · exact f.maxPacketBytes_pos.le
    · exact h.packet other b hold
  · have hstored : (f.insertBuffer sequenceID (newBuffer now fragmentSize)).storedBytes =
        (newBuffer now fragmentSize).storedBytes + f.storedBytes :=
      (total_insert _ _ _ _).trans (congrArg _ (total_erase_none hnone))
    have hempty : (newBuffer now fragmentSize).storedBytes = 0 := rfl
    have hcounter : f.incomingBytes = f.storedBytes := h.counter
    rw [hstored, hempty, zero_add, ← hcounter]
    rfl

theorem Counted.openBuffer (now : Time) (sequenceID fragmentSize : Nat) :
    f.openBuffer now sequenceID fragmentSize id = f.openBuffer now sequenceID fragmentSize ∧
      (f.openBuffer now sequenceID fragmentSize).1.Counted := by
  obtain ⟨heq, hcounted⟩ := h.delete sequenceID
  refine ⟨by rw [FragmentReceiver.openBuffer, heq]; rfl, ?_⟩
  cases hbuffer : f.buffer sequenceID with
  | none =>
    rw [f.openBuffer_new now fragmentSize hbuffer]
    exact h.insertNew now fragmentSize hbuffer
  | some b =>
    by_cases hsize : b.maxSize = fragmentSize
    · rw [f.openBuffer_same now hbuffer hsize]
      exact h
    · rw [f.openBuffer_other now hbuffer hsize]
      refine hcounted.insertNew now fragmentSize ?_
      rw [buffer_delete, if_pos rfl]

/-- Storing a part keeps the counters exact: both change by the difference in length. -/
theorem Counted.fill (now : Time) {sequenceID fragmentID : Nat} (maxFragmentSize : Nat)
    (last : Bool) {payload : Bytes} {b : IncomingFragmentBuffer} {additionalBytes : Int}
    (hbuffer : f.buffer sequenceID = some b) (hadditional : additionalBytes =
      payload.length - (((b.parts.lookup fragmentID).getD []).length : Int))
    (hpacket : b.bytes + additionalBytes ≤ f.maxPacketBytes)
    (hlimit : f.incomingBytes + additionalBytes ≤ f.maxReassemblyBytes) :
    (f.fill sequenceID (b.store now fragmentID maxFragmentSize last payload additionalBytes)
      additionalBytes).Counted := by
  have hbytes : b.bytes = b.storedBytes := h.buffer sequenceID b hbuffer
  have hcounter : f.incomingBytes = f.storedBytes := h.counter
  generalize hstored : b.store now fragmentID maxFragmentSize last payload additionalBytes = stored
  have hstoredBytes : (stored.storedBytes : Int) = b.storedBytes + additionalBytes := by
    have hparts := total_replace List.length b.parts fragmentID payload
    have hlength : ((b.parts.lookup fragmentID).map List.length).getD 0 =
        ((b.parts.lookup fragmentID).getD []).length := by
      cases b.parts.lookup fragmentID <;> rfl
    subst hstored
    rw [IncomingFragmentBuffer.storedBytes, IncomingFragmentBuffer.storedBytes,
      IncomingFragmentBuffer.store, hadditional]
    dsimp only
    omega
  have hexact : stored.bytes = stored.storedBytes := by
    have hadded : stored.bytes = b.bytes + additionalBytes := by
      subst hstored
      rfl
    omega
  have hbuffers : ∀ other c,
      (f.fill sequenceID stored additionalBytes).buffer other = some c →
      c = stored ∨ f.buffer other = some c := by
    intro other c hc
    rw [show (f.fill sequenceID stored additionalBytes).buffer other =
      if other = sequenceID then some stored else f.buffer other from
        (f.insert_spec sequenceID stored).2 other] at hc
    split at hc
    · exact .inl (Option.some.inj hc).symm
    · exact .inr hc
  refine ⟨?_, ?_, ?_, hlimit⟩
  · intro other c hc
    rcases hbuffers other c hc with rfl | hold
    · exact hexact
    · exact h.buffer other c hold
  · intro other c hc
    change (c.storedBytes : Int) ≤ f.maxPacketBytes
    rcases hbuffers other c hc with rfl | hold
    · omega
    · exact h.packet other c hold
  · have htotal := total_replace IncomingFragmentBuffer.storedBytes f.incomingBySequence
      sequenceID stored
    rw [show f.incomingBySequence.lookup sequenceID = some b from hbuffer] at htotal
    simp only [Option.map_some, Option.getD_some] at htotal
    change f.incomingBytes + additionalBytes =
      (total IncomingFragmentBuffer.storedBytes (f.incomingBySequence.insert sequenceID stored) :
        Int)
    change _ = _ + f.storedBytes at htotal
    omega

end

theorem makeRoom_fits {sequenceID : Nat} {additionalBytes limit : Int} {rounds : Nat}
    (h : (f.makeRoom order sequenceID additionalBytes limit rounds).1 = true) :
    (f.makeRoom order sequenceID additionalBytes limit rounds).2.incomingBytes + additionalBytes ≤
      limit := by
  induction rounds generalizing f with
  | zero => exact of_decide_eq_true h
  | succ rounds ih =>
    rw [FragmentReceiver.makeRoom] at h ⊢
    split
    · next hroom => exact hroom
    · next hroom =>
      rw [if_neg hroom] at h
      split at h
      · cases h
      · exact ih h

/-- The loop that frees memory is left: every round gives a buffer up. -/
theorem evictOldest_ends (f : FragmentReceiver) (sequenceID : Nat) (additionalBytes limit : Int) :
    ¬ ∃ rounds : Nat → FragmentReceiver, rounds 0 = f ∧ ∀ n,
      (rounds n).evictOldest order sequenceID additionalBytes limit = some (rounds (n + 1)) := by
  rintro ⟨rounds, -, hnext⟩
  have hshorter : ∀ n, (rounds n).incomingBySequence.keys.length + n =
      (rounds 0).incomingBySequence.keys.length := by
    intro n
    induction n with
    | zero => rfl
    | succ n ih =>
      have hround := hnext n
      rw [evictOldest] at hround
      split at hround
      · cases hround
      · obtain ⟨oldestSequence, holdest, hdelete⟩ := Option.map_eq_some_iff.mp hround
        obtain ⟨-, b, hbuffer⟩ := (rounds n).oldest_spec order holdest
        have hlength := (rounds n).length_keys_delete hbuffer
        rw [hdelete] at hlength
        omega
  have hlast := hshorter ((rounds 0).incomingBySequence.keys.length + 1)
  omega

/-! ### Runs -/

theorem Counted.store (h : f.Counted) (now : Time) (sequenceID fragmentID maxFragmentSize : Nat)
    (last : Bool) (payload : Bytes) :
    f.storeIncomingFragment order now sequenceID fragmentID maxFragmentSize last payload id =
        f.storeIncomingFragment order now sequenceID fragmentID maxFragmentSize last payload ∧
      (f.storeIncomingFragment order now sequenceID fragmentID maxFragmentSize last
        payload).2.Counted := by
  obtain ⟨hexpire, hexpired⟩ : f.expireIncomingFragments order now id =
      f.expireIncomingFragments order now ∧ (f.expireIncomingFragments order now).Counted :=
    h.deleteWhere order _
  rw [storeIncomingFragment, storeIncomingFragment, hexpire]
  dsimp only
  split
  · exact ⟨rfl, hexpired⟩
  · obtain ⟨hadvance, hadvanced⟩ := hexpired.advance order sequenceID
    rw [hadvance]
    generalize (f.expireIncomingFragments order now).advanceIncomingFragmentWindow order
      sequenceID = f at hadvanced ⊢
    generalize (if 0 < maxFragmentSize then maxFragmentSize else payload.length) = fragmentSize
    obtain ⟨hopen, hopened⟩ := hadvanced.openBuffer now sequenceID fragmentSize
    have hbuffer : (f.openBuffer now sequenceID fragmentSize).1.buffer sequenceID =
        some (f.openBuffer now sequenceID fragmentSize).2 := by
      rw [(f.openBuffer_spec now sequenceID fragmentSize).2.1, if_pos rfl]
    rw [hopen]
    generalize f.openBuffer now sequenceID fragmentSize = opened at hopened hbuffer ⊢
    obtain ⟨g, b⟩ := opened
    generalize hadditional : (payload.length : Int) -
      (((b.parts.lookup fragmentID).getD []).length : Int) = additionalBytes
    split
    · obtain ⟨hdelete, hdeleted⟩ := hopened.delete sequenceID
      exact ⟨by rw [hdelete], hdeleted⟩
    · next hpacket =>
      obtain ⟨hroom, hroomy⟩ := hopened.makeRoom order sequenceID additionalBytes
        g.maxReassemblyBytes g.incomingBySequence.keys.length
      obtain ⟨hshrunk, hkept⟩ := g.makeRoom_spec order sequenceID additionalBytes
        g.maxReassemblyBytes g.incomingBySequence.keys.length
      have henough := @makeRoom_fits g order sequenceID additionalBytes g.maxReassemblyBytes
        g.incomingBySequence.keys.length
      rw [hroom]
      generalize g.makeRoom order sequenceID additionalBytes g.maxReassemblyBytes
        g.incomingBySequence.keys.length = roomy at hroomy hshrunk hkept henough ⊢
      obtain ⟨enough, rest⟩ := roomy
      have hlimits := limits_of_outside hshrunk.outside
      cases enough with
      | false =>
        obtain ⟨hdelete, hdeleted⟩ := hroomy.delete sequenceID
        exact ⟨by dsimp only; rw [hdelete], hdeleted⟩
      | true =>
        have hfilled := hroomy.fill now maxFragmentSize last (hkept.trans hbuffer) hadditional.symm
          (by rw [maxPacketBytes_congr hlimits]; exact not_lt.mp hpacket)
          (by rw [maxReassemblyBytes_congr hlimits]; exact henough rfl)
        generalize b.store now fragmentID maxFragmentSize last payload additionalBytes = stored
          at hfilled ⊢
        obtain ⟨hdelete, hdeleted⟩ := hfilled.delete sequenceID
        cases stored.lastID.bind stored.join with
        | none => exact ⟨rfl, hfilled⟩
        | some reassembledPayload => exact ⟨congrArg (Prod.mk _) hdelete, hdeleted⟩

theorem Counted.decode (h : f.Counted) (now : Time) (payload : Bytes) :
    (f.decodeFragment order now payload).2.Counted := by
  rw [decodeFragment]
  dsimp only
  split_ifs
  · exact h
  · exact h
  · exact h
  · exact (h.store order now _ _ _ _ _).2
  · exact h

end FragmentReceiver

/-- A datagram with a fragment header arrives at a time; the map is ranged over in some order. -/
structure FragmentArrival where
  order : RangeOrder
  now : Time
  payload : Bytes

namespace FragmentReceiver

def emptyReceiver (timeout : Duration) (maxBytes maxPacketBytes : Int) : FragmentReceiver :=
  { newFragmentReceiver with
    reassemblyTimeout := timeout
    reassemblyMaxBytes := maxBytes
    reassemblyMaxPacketBytes := maxPacketBytes }

def afterArrivals (f : FragmentReceiver) (arrivals : List FragmentArrival) : FragmentReceiver :=
  arrivals.foldl (fun f arrival => (f.decodeFragment arrival.order arrival.now arrival.payload).2) f

theorem counted_empty (timeout : Duration) (maxBytes maxPacketBytes : Int) :
    (emptyReceiver timeout maxBytes maxPacketBytes).Counted := by
  have hnone : ∀ sequenceID b,
      (emptyReceiver timeout maxBytes maxPacketBytes).buffer sequenceID ≠ some b := by
    intro sequenceID b hb
    cases hb
  refine ⟨fun sequenceID b hb => absurd hb (hnone sequenceID b),
    fun sequenceID b hb => absurd hb (hnone sequenceID b), rfl, ?_⟩
  exact (emptyReceiver timeout maxBytes maxPacketBytes).maxReassemblyBytes_pos.le

theorem Counted.afterArrivals {f : FragmentReceiver} (h : f.Counted)
    (arrivals : List FragmentArrival) : (f.afterArrivals arrivals).Counted := by
  induction arrivals generalizing f with
  | nil => exact h
  | cons arrival arrivals ih => exact ih (h.decode arrival.order arrival.now arrival.payload)

end FragmentReceiver

open FragmentReceiver

/-- After any datagrams the counter of the receiver is the length of all stored parts and within
the reassembly limit, the counter of each buffer is the length of its parts and within the packet
limit, the loop that frees memory for a fragment is left after at most as many rounds as there are
buffers, and a receiver whose counter is not raised to zero answers the next fragment in the same
way and comes to the same state. -/
theorem reassembly_memory_counted (timeout : Duration) (maxBytes maxPacketBytes : Int)
    (arrivals : List FragmentArrival) :
    let f := (emptyReceiver timeout maxBytes maxPacketBytes).afterArrivals arrivals
    f.incomingBytes = f.storedBytes ∧ f.incomingBytes ≤ f.maxReassemblyBytes ∧
      (∀ sequenceID b, f.buffer sequenceID = some b →
        b.bytes = b.storedBytes ∧ b.bytes ≤ f.maxPacketBytes) ∧
      (∀ (order : RangeOrder) (sequenceID : Nat) (additionalBytes : Int) (g : FragmentReceiver),
        (¬ ∃ rounds : Nat → FragmentReceiver, rounds 0 = g ∧ ∀ n, (rounds n).evictOldest order
          sequenceID additionalBytes f.maxReassemblyBytes = some (rounds (n + 1))) ∧
        ∀ extra, g.makeRoom order sequenceID additionalBytes f.maxReassemblyBytes
            (g.incomingBySequence.keys.length + extra) =
          g.makeRoom order sequenceID additionalBytes f.maxReassemblyBytes
            g.incomingBySequence.keys.length) ∧
      ∀ (order : RangeOrder) (now : Time) (sequenceID fragmentID maxFragmentSize : Nat)
        (last : Bool) (payload : Bytes),
        f.storeIncomingFragment order now sequenceID fragmentID maxFragmentSize last payload id =
          f.storeIncomingFragment order now sequenceID fragmentID maxFragmentSize last payload := by
  intro f
  have hcounted : f.Counted :=
    (counted_empty timeout maxBytes maxPacketBytes).afterArrivals arrivals
  refine ⟨hcounted.counter, hcounted.limit, ?_, ?_, ?_⟩
  · intro sequenceID b hb
    rw [hcounted.buffer sequenceID b hb]
    exact ⟨rfl, hcounted.packet sequenceID b hb⟩
  · intro order sequenceID additionalBytes g
    refine ⟨evictOldest_ends order g sequenceID additionalBytes _, fun extra => ?_⟩
    induction extra with
    | zero => rfl
    | succ extra ih => exact (g.makeRoom_rounds order (Nat.le_add_right _ extra)).trans ih
  · intro order now sequenceID fragmentID maxFragmentSize last payload
    exact (hcounted.store order now sequenceID fragmentID maxFragmentSize last payload).1

end SingOpenVPN
