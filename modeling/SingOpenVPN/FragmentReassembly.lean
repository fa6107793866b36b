import Mathlib.Algebra.BigOperators.Ring.Finset
import Mathlib.Data.Nat.Count
import SingOpenVPN.Chunks
import SingOpenVPN.FragmentBuffers
import SingOpenVPN.TransitionSystem

/-!
# Reassembly of a stream of packets (`data_channel_fragmentation.go`)

An encoder sends packets without end, and the network loses, duplicates and reorders their
fragments.  A packet has a number among those that were cut, and its fragments carry that
number modulo 256.  The invariant says whose fragments a buffer of the receiver collects: a
packet among the last 25 up to the newest one that has arrived (`Owner`), which is the only
one of these with its sequence number.

The network respects the window (`InWindow`): a fragment is at most 24 packets older than
the newest one, and at most 231 packets newer.
-/

namespace SingOpenVPN

open ByteCodec Chunks TransitionSystem List Option FragmentReceiver

/-! ### Packets and their fragments -/

structure FragmentSend where
  payload : Bytes
  fragmentSize : Int

namespace FragmentSend

def size (send : FragmentSend) : Nat := (roundFragmentSize send.fragmentSize).toNat

/-- The packet is cut, and takes a sequence number. -/
def Consumes (send : FragmentSend) : Prop :=
  0 < roundFragmentSize send.fragmentSize ∧
    roundFragmentSize send.fragmentSize < send.payload.length

instance : DecidablePred Consumes := fun _ => instDecidableAnd

def isLast (send : FragmentSend) (index : Nat) : Bool :=
  send.payload.length ≤ (index + 1) * send.size

def fragment (send : FragmentSend) (sequenceID index : Nat) : Bytes :=
  prependFragmentHeader (chunk send.size send.payload index)
    (if send.isLast index then .last else .partialFragment) sequenceID index
    (if send.isLast index then send.size >>> openVPNFragmentSizeRoundShift else 0)

variable {send : FragmentSend}

theorem Consumes.size_pos (h : send.Consumes) : 0 < send.size := by
  have hpos := h.1
  rw [size]
  omega

theorem Consumes.size_lt (h : send.Consumes) : send.size < send.payload.length := by
  have hpos := h.1
  have hlt := h.2
  rw [size]
  omega

theorem four_mul_size (send : FragmentSend) :
    (send.size >>> openVPNFragmentSizeRoundShift) * 4 = send.size := by
  rw [size, roundFragmentSize, openVPNFragmentSizeRoundShift, Nat.shiftRight_eq_div_pow]
  omega

variable {pieces : List Bytes}

theorem fragmentLoop_eq_ok {sequenceID parts first : Nat}
    (h : fragmentLoop sequenceID send.size parts first (send.payload.drop (first * send.size)) =
      .ok pieces) :
    ∃ count ≤ parts, pieces = (List.range' first count).map (send.fragment sequenceID) ∧
      send.payload.length ≤ (first + count) * send.size ∧
      ∀ index, first ≤ index → index < first + count → index * send.size < send.payload.length := by
  induction parts generalizing first pieces with
  | zero =>
    cases hrest : send.payload.drop (first * send.size) with
    | nil =>
      rw [hrest, fragmentLoop] at h
      obtain rfl := Except.ok.inj h
      refine ⟨0, le_rfl, rfl, by simpa using drop_eq_nil_iff.mp hrest, ?_⟩
      intro index hle hlt
      omega
    | cons byte rest =>
      rw [hrest, fragmentLoop] at h
      cases h
  | succ parts ih =>
    by_cases hrest : send.payload.drop (first * send.size) = []
    · rw [hrest, fragmentLoop] at h
      obtain rfl := Except.ok.inj h
      refine ⟨0, Nat.zero_le _, rfl, by simpa using drop_eq_nil_iff.mp hrest, ?_⟩
      intro index hle hlt
      omega
    · have hfirst : first * send.size < send.payload.length := by
        rw [drop_eq_nil_iff] at hrest
        omega
      rw [fragmentLoop] at h
      · obtain ⟨rest, hloop, rfl⟩ := map_eq_ok.mp h
        rw [drop_drop, ← Nat.succ_mul] at hloop
        obtain ⟨count, hcount, rfl, hlast, hlt⟩ := ih hloop
        refine ⟨count + 1, by omega, ?_, by convert hlast using 2; omega, ?_⟩
        · congr 1
          have hfinished : ((send.payload.drop (first * send.size)).drop send.size = []) ↔
              send.isLast first = true := by
            rw [drop_drop, drop_eq_nil_iff, isLast, Nat.succ_mul]
            simp
          by_cases hlastPart : send.isLast first = true
          · rw [if_pos (hfinished.mpr hlastPart), fragment, if_pos hlastPart, if_pos hlastPart]
            rfl
          · rw [if_neg (mt hfinished.mp hlastPart), fragment, if_neg hlastPart, if_neg hlastPart]
            rfl
        · intro index hle hindex
          rcases lt_or_ge first index with hlater | hsame
          · exact hlt index hlater (by omega)
          · rwa [show index = first by omega]
      · exact hrest

theorem encodeFragments_snd (sequenceID : Nat) (send : FragmentSend) :
    (encodeFragments sequenceID send.payload send.fragmentSize).2 =
      if send.Consumes then (sequenceID + 1) % 256 else sequenceID := by
  have hmask : ∀ value : Nat, value &&& openVPNFragmentSequenceMask = value % 256 :=
    fun value => Nat.and_two_pow_sub_one_eq_mod value 8
  simp only [encodeFragments]
  by_cases hsize : roundFragmentSize send.fragmentSize ≤ 0
  · rw [if_pos hsize, if_neg fun hcut => absurd hcut.1 (not_lt.mpr hsize)]
  · rw [if_neg hsize]
    by_cases hwhole : (send.payload.length : Int) ≤ roundFragmentSize send.fragmentSize
    · rw [if_pos hwhole, if_neg fun hcut => absurd hcut.2 (not_lt.mpr hwhole)]
    · rw [if_neg hwhole, if_pos ⟨not_le.mp hsize, not_le.mp hwhole⟩]
      exact hmask _

variable {sequenceID : Nat}

theorem encodeFragments_whole (hfits : ¬send.Consumes)
    (h : (encodeFragments sequenceID send.payload send.fragmentSize).1 = .ok pieces) :
    pieces = [prependFragmentHeader send.payload .whole 0 0 0] := by
  rw [Consumes] at hfits
  simp only [encodeFragments] at h
  by_cases hsize : roundFragmentSize send.fragmentSize ≤ 0
  · rw [if_pos hsize] at h
    cases h
  · rw [if_neg hsize, if_pos (by omega)] at h
    exact (Except.ok.inj h).symm

theorem encodeFragments_cut (hcut : send.Consumes)
    (h : (encodeFragments sequenceID send.payload send.fragmentSize).1 = .ok pieces) :
    ∃ count ≤ openVPNFragmentMaxParts,
      pieces = (List.range count).map (send.fragment sequenceID) ∧
      ∀ index, index < count ↔ index * send.size < send.payload.length := by
  obtain ⟨hpos, hlt⟩ := hcut
  simp only [encodeFragments] at h
  rw [if_neg (by omega), if_neg (by omega)] at h
  have hloop : fragmentLoop sequenceID send.size openVPNFragmentMaxParts 0
      (send.payload.drop (0 * send.size)) = .ok pieces := by
    rw [zero_mul, drop_zero]
    exact h
  obtain ⟨count, hcount, hpieces, hlast, hall⟩ :=
    fragmentLoop_eq_ok hloop
  refine ⟨count, hcount, by rw [hpieces, range_eq_range'], fun index => ⟨fun hindex =>
    hall index (Nat.zero_le _) (by omega), fun hindex => ?_⟩⟩
  rw [zero_add] at hlast
  exact Nat.lt_of_mul_lt_mul_right (hindex.trans_le hlast)

/-- As many parts as are allowed suffice for a packet that is no longer than that. -/
theorem fragmentLoop_ok {sequenceID size parts : Nat} {payload : Bytes}
    (h : payload.length ≤ parts * size) (first : Nat) :
    ∃ pieces, fragmentLoop sequenceID size parts first payload = .ok pieces := by
  induction parts generalizing first payload with
  | zero =>
    obtain rfl : payload = [] := length_eq_zero_iff.mp (by omega)
    exact ⟨[], rfl⟩
  | succ parts ih =>
    cases payload with
    | nil => exact ⟨[], rfl⟩
    | cons byte rest =>
      have hrest : ((byte :: rest).drop size).length ≤ parts * size := by
        rw [length_drop]
        rw [Nat.succ_mul] at h
        omega
      obtain ⟨pieces, hpieces⟩ := ih hrest (first + 1)
      exact ⟨_, map_eq_ok.mpr ⟨pieces, hpieces, rfl⟩⟩

theorem encodeFragments_ok (hcut : send.Consumes)
    (h : send.payload.length ≤ openVPNFragmentMaxParts * send.size) :
    ∃ pieces, (encodeFragments sequenceID send.payload send.fragmentSize).1 = .ok pieces := by
  obtain ⟨hpos, hlt⟩ := hcut
  simp only [encodeFragments]
  rw [if_neg (by omega), if_neg (by omega)]
  exact fragmentLoop_ok h 0

/-! ### A buffer that collects a packet -/

structure PartOf (send : FragmentSend) (b : IncomingFragmentBuffer) : Prop where
  maxSize : b.maxSize = send.size
  parts : ∀ index part, b.parts.lookup index = some part →
    index * send.size < send.payload.length ∧ part = chunk send.size send.payload index
  lastID : ∀ index, b.lastID = some index ↔
    (∃ part, b.parts.lookup index = some part) ∧ send.isLast index = true
  bytes : b.bytes = ∑ index ∈ Finset.range send.payload.length,
    (((b.parts.lookup index).getD []).length : Int)

def Incomplete (send : FragmentSend) (b : IncomingFragmentBuffer) : Prop :=
  ∃ index, index * send.size < send.payload.length ∧ b.parts.lookup index = none

section Buffers

variable {b : IncomingFragmentBuffer} {index : Nat} {now : Time}

theorem partOf_new (send : FragmentSend) (now : Time) :
    PartOf send (newBuffer now send.size) := by
  have hnone : ∀ index, (newBuffer now send.size).parts.lookup index = none :=
    AList.lookup_empty
  refine ⟨rfl, fun index part h => ?_, fun index => ⟨(fun h => by cases h), ?_⟩, ?_⟩
  · rw [hnone] at h
    cases h
  · rintro ⟨⟨part, hpart⟩, -⟩
    cases hpart
  · simp [hnone]
    rfl

theorem PartOf.bytes_le (h : PartOf send b) : b.bytes ≤ send.payload.length := by
  rw [h.bytes]
  have hterms : ∀ index ∈ Finset.range send.payload.length,
      (((b.parts.lookup index).getD []).length : Int) ≤
        ((chunk send.size send.payload index).length : Int) := by
    intro index _
    cases hpart : b.parts.lookup index with
    | none => simp
    | some part =>
      rw [(h.parts index part hpart).2]
      rfl
  refine (Finset.sum_le_sum hterms).trans ?_
  exact_mod_cast (sum_length_chunks send.size send.payload _).trans_le (min_le_right _ _)

theorem PartOf.bytes_eq (h : PartOf send b) (hcut : send.Consumes)
    (hall : ∀ index, index * send.size < send.payload.length →
      ∃ part, b.parts.lookup index = some part) : b.bytes = send.payload.length := by
  have hterms : ∀ index, ((b.parts.lookup index).getD []).length =
      (chunk send.size send.payload index).length := by
    intro index
    cases hpart : b.parts.lookup index with
    | some part =>
      rw [(h.parts index part hpart).2]
      rfl
    | none =>
      have hbehind : send.payload.length ≤ index * send.size := by
        by_contra hwithin
        obtain ⟨part, hsome⟩ := hall index (not_le.mp hwithin)
        rw [hpart] at hsome
        cases hsome
      rw [length_chunk, Nat.sub_eq_zero_of_le hbehind]
      exact (Nat.min_zero _).symm
  have hsum := sum_length_chunks send.size send.payload send.payload.length
  rw [min_eq_right (Nat.le_mul_of_pos_right _ hcut.size_pos)] at hsum
  rw [h.bytes]
  simp only [hterms]
  exact_mod_cast hsum

def additionalBytes (send : FragmentSend) (b : IncomingFragmentBuffer) (index : Nat) : Int :=
  (chunk send.size send.payload index).length - (((b.parts.lookup index).getD []).length : Int)

def stored (send : FragmentSend) (b : IncomingFragmentBuffer) (now : Time) (index : Nat) :
    IncomingFragmentBuffer :=
  b.store now index (if send.isLast index then send.size else 0) (send.isLast index)
    (chunk send.size send.payload index) (send.additionalBytes b index)

theorem lookup_stored (other : Nat) :
    (send.stored b now index).parts.lookup other =
      if other = index then some (chunk send.size send.payload index)
      else b.parts.lookup other := by
  split
  · next heq =>
    rw [heq]
    exact AList.lookup_insert _
  · next hne => exact AList.lookup_insert_ne hne

theorem PartOf.stored (h : PartOf send b) (hcut : send.Consumes)
    (hindex : index * send.size < send.payload.length) : PartOf send (send.stored b now index) := by
  have hsize := hcut.size_pos
  refine ⟨?_, fun other part hpart => ?_, fun other => ?_, ?_⟩
  · change (if 0 < (if send.isLast index then send.size else 0) then
        (if send.isLast index then send.size else 0)
      else if b.maxSize = 0 then _ else b.maxSize) = send.size
    rw [h.maxSize]
    cases send.isLast index with
    | true => simp [hsize]
    | false => simp [hsize.ne']
  · rw [lookup_stored] at hpart
    split at hpart
    · next heq => exact ⟨heq ▸ hindex, by rw [heq, some.inj hpart]⟩
    · exact h.parts other part hpart
  · change (if send.isLast index then some index else b.lastID) = some other ↔ _
    rw [lookup_stored]
    cases hlast : send.isLast index with
    | true =>
      rw [if_pos rfl, some_inj]
      constructor
      · rintro rfl
        exact ⟨⟨_, if_pos rfl⟩, hlast⟩
      · rintro ⟨⟨part, hpart⟩, hother⟩
        by_contra hne
        rw [if_neg (Ne.symm hne)] at hpart
        exact hne (lastChunk_unique hindex (of_decide_eq_true hlast) (h.parts other part hpart).1
          (of_decide_eq_true hother))
    | false =>
      rw [if_neg (by decide), h.lastID]
      by_cases heq : other = index
      · subst heq
        simp [hlast]
      · rw [if_neg heq]
  · change b.bytes + send.additionalBytes b index = _
    have hmem : index ∈ Finset.range send.payload.length := by
      rw [Finset.mem_range]
      exact (Nat.le_mul_of_pos_right index hsize).trans_lt hindex
    rw [h.bytes, ← Finset.add_sum_erase _ _ hmem, ← Finset.add_sum_erase _ _ hmem,
      lookup_stored, if_pos rfl, additionalBytes]
    have hrest : ∑ other ∈ (Finset.range send.payload.length).erase index,
          ((((send.stored b now index).parts.lookup other).getD []).length : Int) =
        ∑ other ∈ (Finset.range send.payload.length).erase index,
          (((b.parts.lookup other).getD []).length : Int) := by
      refine Finset.sum_congr rfl fun other hother => ?_
      rw [lookup_stored, if_neg (Finset.ne_of_mem_erase hother)]
    simp only [getD_some]
    omega

/-- A buffer is joined to its packet, and to nothing as long as a fragment is missing. -/
theorem PartOf.join (h : PartOf send b) (hcut : send.Consumes) :
    b.lastID.bind b.join = some send.payload ∧ b.bytes = send.payload.length ∨
      b.lastID.bind b.join = none ∧ Incomplete send b := by
  cases hlastID : b.lastID with
  | none =>
    obtain ⟨last, hlast, hend⟩ := exists_lastChunk hcut.size_pos
      (hcut.size_pos.trans hcut.size_lt)
    refine .inr ⟨rfl, last, hlast, ?_⟩
    by_contra hpart
    obtain ⟨part, hpart⟩ := ne_none_iff_exists'.mp hpart
    have hset := (h.lastID last).mpr ⟨⟨part, hpart⟩, decide_eq_true hend⟩
    rw [hlastID] at hset
    cases hset
  | some last =>
    obtain ⟨⟨part, hpart⟩, hend⟩ := (h.lastID last).mp hlastID
    by_cases hall : ∀ index ≤ last, ∃ part, b.parts.lookup index = some part
    · have hlength : send.payload.length ≤ (last + 1) * send.size := of_decide_eq_true hend
      refine .inl ⟨joinChunks_complete (fun index hindex => ?_) hlength,
        h.bytes_eq hcut fun index hindex => hall index ?_⟩
      · obtain ⟨part, hpart⟩ := hall index hindex
        rw [hpart, (h.parts index part hpart).2]
      · exact Nat.lt_succ_iff.mp (Nat.lt_of_mul_lt_mul_right (hindex.trans_le hlength))
    · right
      constructor
      · rw [eq_none_iff_forall_ne_some]
        exact fun joined hjoined => hall (exists_of_joinChunks_eq_some hjoined)
      · push Not at hall
        obtain ⟨index, hindex, hnone⟩ := hall
        have hle : index * send.size ≤ last * send.size := Nat.mul_le_mul_right _ hindex
        exact ⟨index, hle.trans_lt (h.parts last part hpart).1,
          eq_none_iff_forall_ne_some.mpr hnone⟩

end Buffers

theorem fragmentSize_eq (index : Nat) (hindex : index * send.size < send.payload.length)
    (hcut : send.Consumes) :
    (if 0 < (if send.isLast index then send.size else 0) then
        (if send.isLast index then send.size else 0)
      else (chunk send.size send.payload index).length) = send.size := by
  cases hlast : send.isLast index with
  | true => simp [hcut.size_pos]
  | false =>
    have hmore : (index + 1) * send.size < send.payload.length := by
      simpa [isLast] using hlast
    rw [Nat.succ_mul] at hmore
    simp only [Bool.false_eq_true, if_false, lt_irrefl]
    rw [length_chunk]
    omega

section Fields

variable (hsize : send.size ≤ 65535)

include hsize

theorem size_field_lt : send.size >>> openVPNFragmentSizeRoundShift < 16384 := by
  have hfour := send.four_mul_size
  omega

variable {sequenceID index : Nat} (hsequence : sequenceID < 256) (hid : index < 32)

include hsequence hid

theorem readFragment_fragment :
    readFragment (send.fragment sequenceID index) =
      { code := if send.isLast index then FragmentType.last.code
          else FragmentType.partialFragment.code
        sequenceID := sequenceID
        fragmentID := index
        maxFragmentSize := if send.isLast index then send.size else 0
        payload := chunk send.size send.payload index } := by
  rw [fragment, readFragment_part _ _ hsequence hid (size_field_lt hsize),
    four_mul_size]

theorem decodeFragment_fragment (order : RangeOrder) (f : FragmentReceiver) (now : Time) :
    f.decodeFragment order now (send.fragment sequenceID index) =
      f.storeIncomingFragment order now sequenceID index
        (if send.isLast index then send.size else 0) (send.isLast index)
        (chunk send.size send.payload index) := by
  rw [fragment, decodeFragment_part _ _ _ _ _ hsequence hid
    (size_field_lt hsize), four_mul_size]

end Fields

end FragmentSend

/-! ### Numbers modulo 256 -/

theorem sequenceDifference_near {left right : Nat} (hlt : left < right + 128)
    (hgt : right < left + 128) :
    fragmentSequenceDifference (left % 256) (right % 256) = left - right := by
  simp only [fragmentSequenceDifference, openVPNFragmentSequenceMask]
  split_ifs <;> omega

theorem sequenceDifference_far {left right : Nat} (hfar : right + 25 ≤ left)
    (hjump : left ≤ right + 231) :
    openVPNFragmentReceiveWindow ≤ fragmentSequenceDifference (left % 256) (right % 256) ∨
      fragmentSequenceDifference (left % 256) (right % 256) ≤ -openVPNFragmentReceiveWindow := by
  simp only [fragmentSequenceDifference, openVPNFragmentSequenceMask, openVPNFragmentReceiveWindow]
  split_ifs <;> omega

/-! ### The stream -/

/-- The packets of an encoder, whose first sequence number is taken from a random word. -/
structure FragmentStream where
  random : Nat
  packet : Nat → FragmentSend

instance : CoeFun FragmentStream fun _ => Nat → FragmentSend := ⟨FragmentStream.packet⟩

section Stream

variable (sends : FragmentStream)

def outgoingSequence : Nat → Nat
  | 0 => sends.random &&& openVPNFragmentSequenceMask
  | send + 1 =>
    (encodeFragments (outgoingSequence send) (sends send).payload (sends send).fragmentSize).2

def encodedFragments (send : Nat) : Except String (List Bytes) :=
  (encodeFragments (outgoingSequence sends send) (sends send).payload (sends send).fragmentSize).1

/-- The number of a packet among those that take a sequence number, counted from the first
    sequence number on. -/
def packetNumber (send : Nat) : Nat :=
  sends.random % 256 + Nat.count (fun earlier => (sends earlier).Consumes) send

theorem outgoingSequence_eq (send : Nat) :
    outgoingSequence sends send = packetNumber sends send % 256 := by
  induction send with
  | zero =>
    rw [outgoingSequence, packetNumber, Nat.count_zero, add_zero, Nat.mod_mod]
    exact Nat.and_two_pow_sub_one_eq_mod sends.random 8
  | succ send ih =>
    rw [outgoingSequence, FragmentSend.encodeFragments_snd, ih, packetNumber, packetNumber,
      Nat.count_succ]
    split <;> omega

/-- The packet whose fragments a buffer collects. -/
structure Owner (newest sequenceID send : Nat) : Prop where
  cut : (sends send).Consumes
  le : packetNumber sends send ≤ newest
  near : newest ≤ packetNumber sends send + 24
  sequence : sequenceID = packetNumber sends send % 256

variable {sends}

theorem Owner.unique {newest sequenceID left right : Nat}
    (hleft : Owner sends newest sequenceID left)
    (hright : Owner sends newest sequenceID right) : left = right := by
  have hsequence := hleft.sequence.symm.trans hright.sequence
  have := hleft.le
  have := hleft.near
  have := hright.le
  have := hright.near
  have hnumber : packetNumber sends left = packetNumber sends right := by omega
  exact Nat.count_injective hleft.cut hright.cut (Nat.add_left_cancel hnumber)

end Stream

namespace FragmentReceiver

variable (order : RangeOrder) {f : FragmentReceiver} {now : Time} {sends : FragmentStream}

theorem arrived_first {sequenceID : Nat} (hset : f.incomingSequenceSet = false)
    (hempty : ∀ sequenceID, f.buffer sequenceID = none) :
    (f.arrived order now sequenceID).outside = (sequenceID, true, f.limits) ∧
      ∀ other, (f.arrived order now sequenceID).buffer other = none := by
  have houtside := f.outside_expire order now
  have hset' : (f.expireIncomingFragments order now).incomingSequenceSet = false :=
    (congrArg (·.2.1) houtside).trans hset
  rw [arrived, advance_first order hset']
  constructor
  · exact congrArg (fun o => (sequenceID, true, o.2.2)) houtside
  · intro other
    have hnone : (f.expireIncomingFragments order now).buffer other = none := by
      rw [buffer_expire, hempty]
      rfl
    exact hnone

/-- A buffer that survives the arrival of a fragment was there before, and its packet is
    still in the window. -/
theorem arrived_next {newest number : Nat} (hset : f.incomingSequenceSet = true)
    (hsequence : f.incomingSequence = newest % 256) (hold : newest ≤ number + 24)
    (hjump : number ≤ newest + 231) :
    (f.arrived order now (number % 256)).outside = (max newest number % 256, true, f.limits) ∧
      ∀ sequenceID b, (f.arrived order now (number % 256)).buffer sequenceID = some b →
        f.buffer sequenceID = some b ∧ ∀ send, Owner sends newest sequenceID send →
          Owner sends (max newest number) sequenceID send := by
  have houtside := f.outside_expire order now
  have hexpired := (f.shrunk_deleteWhere order fun _ fragmentBuffer =>
    f.timeout ≤ now - fragmentBuffer.updated).buffers
  have hset' : (f.expireIncomingFragments order now).incomingSequenceSet = true :=
    (congrArg (·.2.1) houtside).trans hset
  have hsequence' : (f.expireIncomingFragments order now).incomingSequence = newest % 256 :=
    (congrArg (·.1) houtside).trans hsequence
  have hlimits := limits_of_outside houtside
  rw [arrived]
  by_cases hfar : newest + 25 ≤ number
  · obtain ⟨houtside', hnone⟩ := advance_far order hset'
      (hsequence' ▸ sequenceDifference_far hfar hjump)
    rw [houtside', hlimits, max_eq_right (by omega)]
    refine ⟨rfl, fun sequenceID b h => ?_⟩
    rw [hnone] at h
    cases h
  · have hdifference : fragmentSequenceDifference (number % 256)
        (f.expireIncomingFragments order now).incomingSequence = number - newest := by
      rw [hsequence']
      exact sequenceDifference_near (by omega) (by omega)
    by_cases hbehind : number ≤ newest
    · rw [advance_behind order hset' (by rw [hdifference, openVPNFragmentReceiveWindow]; omega)
        (by omega), max_eq_left hbehind]
      exact ⟨houtside.trans (by rw [outside, hset, hsequence]),
        fun sequenceID b h => ⟨hexpired sequenceID b h, fun _ howner => howner⟩⟩
    · have hahead : 0 < fragmentSequenceDifference (number % 256)
          (f.expireIncomingFragments order now).incomingSequence := by omega
      obtain ⟨houtside', hbuffer⟩ := advance_ahead order hset' hahead
        (by rw [hdifference, openVPNFragmentReceiveWindow]; omega)
      rw [houtside', hlimits, max_eq_right (by omega)]
      refine ⟨rfl, fun sequenceID b h => ?_⟩
      rw [hbuffer] at h
      split at h
      · cases h
      · next hin =>
        refine ⟨hexpired sequenceID b h, fun send howner => ?_⟩
        obtain ⟨hcut, hle, hnear, rfl⟩ := howner
        rw [sequenceDifference_near (by omega) (by omega), openVPNFragmentReceiveWindow] at hin
        exact ⟨hcut, by omega, by omega, rfl⟩

end FragmentReceiver

/-! ### Deliveries -/

/-- The receiver and the number of the newest packet of which a fragment has arrived. -/
structure Reassembly where
  receiver : FragmentReceiver
  newest : Option Nat

structure FragmentDelivery where
  send : Nat
  piece : Bytes
  now : Time
  order : RangeOrder

section Deliveries

variable (sends : FragmentStream)

def Produced (delivery : FragmentDelivery) : Prop :=
  ∃ pieces, encodedFragments sends delivery.send = .ok pieces ∧ delivery.piece ∈ pieces

/-- A fragment is not too old, and the newest packet does not jump too far. -/
def InWindow (state : Reassembly) (delivery : FragmentDelivery) : Prop :=
  (sends delivery.send).Consumes → ∀ newest, state.newest = some newest →
    newest ≤ packetNumber sends delivery.send + 24 ∧
      packetNumber sends delivery.send ≤ newest + 231

def deliver (state : Reassembly) (delivery : FragmentDelivery) :
    Except String (Option Bytes) × Reassembly :=
  let (result, receiver) :=
    state.receiver.decodeFragment delivery.order delivery.now delivery.piece
  (result,
    { receiver := receiver
      newest :=
        if (sends delivery.send).Consumes then
          some (max (state.newest.getD 0) (packetNumber sends delivery.send))
        else state.newest })

def Allowed (state : Reassembly) (delivery : FragmentDelivery) : Prop :=
  Produced sends delivery ∧ InWindow sends state delivery

def reassembly : System Reassembly FragmentDelivery where
  initial state := state = { receiver := newFragmentReceiver, newest := none }
  step state delivery := some (deliver sends state delivery).2

/-- Whose fragments the buffers collect. -/
structure ReassemblyInvariant (state : Reassembly) : Prop where
  limits : state.receiver.limits = newFragmentReceiver.limits
  first : state.newest = none →
    state.receiver.incomingSequenceSet = false ∧
      ∀ sequenceID, state.receiver.buffer sequenceID = none
  window : ∀ newest, state.newest = some newest →
    state.receiver.incomingSequence = newest % 256 ∧ state.receiver.incomingSequenceSet = true ∧
      ∀ sequenceID b, state.receiver.buffer sequenceID = some b →
        ∃ send, Owner sends newest sequenceID send ∧ (sends send).PartOf b ∧
          (sends send).Incomplete b

variable {sends} {state : Reassembly} {delivery : FragmentDelivery}

theorem deliver_whole (hproduced : Produced sends delivery)
    (hfits : ¬(sends delivery.send).Consumes) :
    deliver sends state delivery = (.ok (some (sends delivery.send).payload), state) := by
  obtain ⟨pieces, hpieces, hmem⟩ := hproduced
  rw [FragmentSend.encodeFragments_whole hfits hpieces, mem_singleton] at hmem
  rw [deliver, hmem, decodeFragment_whole, if_neg hfits]

def newestAfter (sends : FragmentStream) (state : Reassembly) (delivery : FragmentDelivery) :
    Nat :=
  max (state.newest.getD 0) (packetNumber sends delivery.send)

theorem deliver_of_consumes (hcut : (sends delivery.send).Consumes) :
    deliver sends state delivery =
      ((state.receiver.decodeFragment delivery.order delivery.now delivery.piece).1,
        { receiver :=
            (state.receiver.decodeFragment delivery.order delivery.now delivery.piece).2
          newest := some (newestAfter sends state delivery) }) := by
  rw [deliver, if_pos hcut]
  rfl

def sequenceOf (sends : FragmentStream) (send : Nat) : Nat := packetNumber sends send % 256

def arrivedAt (sends : FragmentStream) (state : Reassembly) (delivery : FragmentDelivery) :
    FragmentReceiver :=
  state.receiver.arrived delivery.order delivery.now (sequenceOf sends delivery.send)

section Cut

variable (hinvariant : ReassemblyInvariant sends state) (hwindow : InWindow sends state delivery)
  (hcut : (sends delivery.send).Consumes)

include hinvariant hwindow hcut

omit hinvariant in
theorem owner_delivery :
    Owner sends (newestAfter sends state delivery) (sequenceOf sends delivery.send)
      delivery.send := by
  refine ⟨hcut, le_max_right _ _, ?_, rfl⟩
  cases hnewest : state.newest with
  | none => simp [newestAfter, hnewest]
  | some newest =>
    have hold := (hwindow hcut newest hnewest).1
    simp only [newestAfter, hnewest, getD_some]
    omega

theorem arrivedAt_spec :
    (arrivedAt sends state delivery).outside =
        (newestAfter sends state delivery % 256, true, newFragmentReceiver.limits) ∧
      ∀ sequenceID b, (arrivedAt sends state delivery).buffer sequenceID = some b →
        state.receiver.buffer sequenceID = some b ∧
          ∀ newest send, state.newest = some newest → Owner sends newest sequenceID send →
            Owner sends (newestAfter sends state delivery) sequenceID send := by
  cases hnewest : state.newest with
  | none =>
    obtain ⟨hset, hempty⟩ := hinvariant.first hnewest
    obtain ⟨houtside, hnone⟩ := arrived_first delivery.order hset hempty
    refine ⟨?_, fun sequenceID b h => ?_⟩
    · rw [arrivedAt, houtside, hinvariant.limits, newestAfter, hnewest, sequenceOf]
      simp
    · rw [arrivedAt, hnone] at h
      cases h
  | some newest =>
    obtain ⟨hsequence, hset, -⟩ := hinvariant.window newest hnewest
    obtain ⟨hold, hjump⟩ := hwindow hcut newest hnewest
    obtain ⟨houtside, hbuffers⟩ := arrived_next delivery.order hset hsequence
      hold hjump
    rw [newestAfter, hnewest]
    refine ⟨by rw [arrivedAt, sequenceOf, houtside, hinvariant.limits]; rfl,
      fun sequenceID b h => ?_⟩
    obtain ⟨hbuffer, howner⟩ := hbuffers sequenceID b h
    refine ⟨hbuffer, fun newest' send hnewest' => ?_⟩
    obtain rfl := some.inj hnewest'
    exact howner send

/-- The buffers that survive the arrival collect packets of the window. -/
theorem arrivedAt_owner {sequenceID : Nat} {b : IncomingFragmentBuffer}
    (h : (arrivedAt sends state delivery).buffer sequenceID = some b) :
    ∃ send, Owner sends (newestAfter sends state delivery) sequenceID send ∧
      (sends send).PartOf b ∧ (sends send).Incomplete b := by
  obtain ⟨hbuffer, hkept⟩ := (arrivedAt_spec hinvariant hwindow hcut).2 sequenceID b h
  cases hnewest : state.newest with
  | none =>
    rw [(hinvariant.first hnewest).2] at hbuffer
    cases hbuffer
  | some newest =>
    obtain ⟨send, howner, hparts⟩ := (hinvariant.window newest hnewest).2.2 sequenceID b hbuffer
    exact ⟨send, hkept newest send hnewest howner, hparts⟩

/-- The receiver with the buffer that a fragment goes to, and that buffer. -/
def openedAt (sends : FragmentStream) (state : Reassembly) (delivery : FragmentDelivery) :
    FragmentReceiver × IncomingFragmentBuffer :=
  (arrivedAt sends state delivery).openBuffer delivery.now (sequenceOf sends delivery.send)
    (sends delivery.send).size

/-- A fragment goes to a buffer that collects its packet. -/
theorem openedAt_spec :
    (sends delivery.send).PartOf (openedAt sends state delivery).2 ∧
      ∀ b, (arrivedAt sends state delivery).buffer (sequenceOf sends delivery.send) = some b →
        (openedAt sends state delivery).2 = b := by
  obtain ⟨-, -, hopened⟩ := (arrivedAt sends state delivery).openBuffer_spec delivery.now
    (sequenceOf sends delivery.send) (sends delivery.send).size
  change (openedAt sends state delivery).2 = _ at hopened
  rw [hopened]
  cases hbuffer : (arrivedAt sends state delivery).buffer (sequenceOf sends delivery.send) with
  | none => exact ⟨FragmentSend.partOf_new _ _, fun b h => by cases h⟩
  | some b =>
    obtain ⟨send, howner, hparts, -⟩ := arrivedAt_owner hinvariant hwindow hcut hbuffer
    obtain rfl := howner.unique (owner_delivery hwindow hcut)
    have hfilter : (some b).filter (fun b => b.maxSize = (sends delivery.send).size) = some b := by
      simp [hparts.maxSize]
    rw [hfilter]
    exact ⟨hparts, fun b' h => some.inj h⟩

end Cut

theorem exists_index (hproduced : Produced sends delivery)
    (hcut : (sends delivery.send).Consumes) :
    ∃ index < 32, index * (sends delivery.send).size < (sends delivery.send).payload.length ∧
      delivery.piece =
        (sends delivery.send).fragment (sequenceOf sends delivery.send) index := by
  obtain ⟨pieces, hpieces, hmem⟩ := hproduced
  rw [encodedFragments, outgoingSequence_eq] at hpieces
  obtain ⟨count, hcount, rfl, hindexes⟩ := FragmentSend.encodeFragments_cut hcut hpieces
  obtain ⟨index, hindex, hpiece⟩ := mem_map.mp hmem
  rw [mem_range] at hindex
  exact ⟨index, hindex.trans_le hcount, (hindexes index).mp hindex, hpiece.symm⟩

def roomAt (sends : FragmentStream) (state : Reassembly) (delivery : FragmentDelivery)
    (index : Nat) : Bool × FragmentReceiver :=
  (openedAt sends state delivery).1.room delivery.order (sequenceOf sends delivery.send)
    (openedAt sends state delivery).2
      ((sends delivery.send).additionalBytes (openedAt sends state delivery).2 index)

def storedAt (sends : FragmentStream) (state : Reassembly) (delivery : FragmentDelivery)
    (index : Nat) : IncomingFragmentBuffer :=
  (sends delivery.send).stored (openedAt sends state delivery).2 delivery.now index

section Step

variable (hsize : ∀ send, (sends send).Consumes → (sends send).size ≤ 65535)
  (hinvariant : ReassemblyInvariant sends state) (hwindow : InWindow sends state delivery)
  (hcut : (sends delivery.send).Consumes) {index : Nat} (hid : index < 32)
  (hindex : index * (sends delivery.send).size < (sends delivery.send).payload.length)
  (hpiece : delivery.piece =
    (sends delivery.send).fragment (sequenceOf sends delivery.send) index)

include hsize hinvariant hwindow hcut hid hindex hpiece

/-- What becomes of a fragment: without memory it is refused, and otherwise it completes its
    packet, is stored, or makes the packet too long. -/
theorem deliver_cut :
    (deliver sends state delivery).2.newest = some (newestAfter sends state delivery) ∧
      (deliver sends state delivery).2.receiver.outside =
        (newestAfter sends state delivery % 256, true, newFragmentReceiver.limits) ∧
      (∀ other, other ≠ sequenceOf sends delivery.send →
        (deliver sends state delivery).2.receiver.buffer other =
          (roomAt sends state delivery index).2.buffer other) ∧
      ((roomAt sends state delivery index).1 = false →
        (deliver sends state delivery).1 = .error "fragment reassembly memory limit exceeded" ∧
          (deliver sends state delivery).2.receiver.buffer (sequenceOf sends delivery.send) =
            none) ∧
      ((roomAt sends state delivery index).1 = true →
        ((deliver sends state delivery).1 = .ok (some (sends delivery.send).payload) ∧
              (sends delivery.send).payload.length ≤ 65535 ∨
            (deliver sends state delivery).1 =
                .error "fragmented packet exceeds maximum IP packet size" ∧
              65535 < (sends delivery.send).payload.length) ∧
            (deliver sends state delivery).2.receiver.buffer (sequenceOf sends delivery.send) =
              none ∨
          (deliver sends state delivery).1 = .ok none ∧
            (deliver sends state delivery).2.receiver.buffer (sequenceOf sends delivery.send) =
              some (storedAt sends state delivery index) ∧
            (sends delivery.send).Incomplete (storedAt sends state delivery index)) := by
  obtain ⟨hparts, -⟩ := openedAt_spec hinvariant hwindow hcut
  have hstored : (sends delivery.send).PartOf (storedAt sends state delivery index) :=
    hparts.stored hcut hindex
  have hmax : state.receiver.maxPacketBytes = 65535 := by
    rw [maxPacketBytes_congr hinvariant.limits]
    rfl
  have hsizeSend := hsize delivery.send hcut
  have hopen : (state.receiver.arrived delivery.order delivery.now
      (sequenceOf sends delivery.send)).openBuffer delivery.now (sequenceOf sends delivery.send)
      (if 0 < (if (sends delivery.send).isLast index then (sends delivery.send).size else 0) then
        (if (sends delivery.send).isLast index then (sends delivery.send).size else 0)
      else (chunk (sends delivery.send).size (sends delivery.send).payload index).length) =
        ((openedAt sends state delivery).1, (openedAt sends state delivery).2) := by
    rw [FragmentSend.fragmentSize_eq index hindex hcut]
    rfl
  have hchunk : ((chunk (sends delivery.send).size (sends delivery.send).payload index).length :
      Int) ≤ state.receiver.maxPacketBytes := by
    rw [hmax, length_chunk]
    omega
  have hbytes : (openedAt sends state delivery).2.bytes +
      (sends delivery.send).additionalBytes (openedAt sends state delivery).2 index =
        (storedAt sends state delivery index).bytes := rfl
  obtain ⟨houtside, hothers, hfull, hroom⟩ :=
    store_spec delivery.order ((sends delivery.send).isLast index) hchunk hopen rfl
  have hdecode := FragmentSend.decodeFragment_fragment hsizeSend
    (Nat.mod_lt (packetNumber sends delivery.send) (by decide)) hid delivery.order state.receiver
    delivery.now
  change state.receiver.decodeFragment delivery.order delivery.now
    ((sends delivery.send).fragment (sequenceOf sends delivery.send) index) = _ at hdecode
  rw [deliver_of_consumes hcut, hpiece, hdecode]
  refine ⟨rfl, houtside.trans (arrivedAt_spec hinvariant hwindow hcut).1, hothers, hfull,
    fun henough => ?_⟩
  have houtcome := hroom henough
  rw [FragmentSend.additionalBytes] at hbytes
  rw [hbytes, hmax] at houtcome
  split at houtcome
  · next hlong =>
    have hle := hstored.bytes_le
    exact .inl ⟨.inr ⟨houtcome.1, by omega⟩, houtcome.2⟩
  next hfits =>
  obtain ⟨hresult, hbuffer⟩ := houtcome
  change _ = Except.ok ((storedAt sends state delivery index).lastID.bind
    (storedAt sends state delivery index).join) at hresult
  change _ = if (storedAt sends state delivery index).lastID.bind
    (storedAt sends state delivery index).join = none
    then some (storedAt sends state delivery index) else none at hbuffer
  rcases hstored.join hcut with ⟨hcomplete, hlength⟩ | ⟨hincomplete, hmissing⟩
  · rw [hcomplete] at hresult hbuffer
    exact .inl ⟨.inl ⟨hresult, by omega⟩, hbuffer⟩
  · rw [hincomplete] at hresult hbuffer
    exact .inr ⟨hresult, hbuffer, hmissing⟩

end Step

/-- Freeing memory leaves the buffers of other packets as they are or gives them up. -/
theorem buffer_of_roomAt {index sequenceID : Nat} {b : IncomingFragmentBuffer}
    (hother : sequenceID ≠ sequenceOf sends delivery.send)
    (h : (roomAt sends state delivery index).2.buffer sequenceID = some b) :
    (arrivedAt sends state delivery).buffer sequenceID = some b := by
  obtain ⟨hshrunk, -⟩ := (openedAt sends state delivery).1.room_spec delivery.order
    (sequenceOf sends delivery.send) (openedAt sends state delivery).2
    ((sends delivery.send).additionalBytes (openedAt sends state delivery).2 index)
  have hopened := hshrunk.buffers sequenceID b h
  rwa [openedAt, ((arrivedAt sends state delivery).openBuffer_spec _ _ _).2.1, if_neg hother]
    at hopened

section

variable (hsize : ∀ send, (sends send).Consumes → (sends send).size ≤ 65535)

include hsize

theorem reassemblyInvariant_step (hinvariant : ReassemblyInvariant sends state)
    (hallowed : Allowed sends state delivery) :
    ReassemblyInvariant sends (deliver sends state delivery).2 := by
  obtain ⟨hproduced, hwindow⟩ := hallowed
  by_cases hcut : (sends delivery.send).Consumes
  · obtain ⟨index, hid, hindex, hpiece⟩ := exists_index hproduced hcut
    obtain ⟨hnewest, houtside, hothers, hfull, hroom⟩ :=
      deliver_cut hsize hinvariant hwindow hcut hid hindex hpiece
    refine ⟨congrArg (·.2.2) houtside, fun hnone => ?_, fun newest hsome => ?_⟩
    · rw [hnewest] at hnone
      cases hnone
    · obtain rfl := some.inj (hnewest.symm.trans hsome)
      refine ⟨congrArg (·.1) houtside, congrArg (·.2.1) houtside, fun sequenceID b hbuffer => ?_⟩
      by_cases hother : sequenceID = sequenceOf sends delivery.send
      · subst hother
        have hstored : (deliver sends state delivery).2.receiver.buffer
              (sequenceOf sends delivery.send) = some (storedAt sends state delivery index) ∧
            (sends delivery.send).Incomplete (storedAt sends state delivery index) := by
          cases henough : (roomAt sends state delivery index).1 with
          | false =>
            rw [(hfull henough).2] at hbuffer
            cases hbuffer
          | true =>
            rcases hroom henough with ⟨-, hnone⟩ | ⟨-, hstored⟩
            · rw [hnone] at hbuffer
              cases hbuffer
            · exact hstored
        obtain rfl := some.inj (hstored.1.symm.trans hbuffer)
        exact ⟨delivery.send, owner_delivery hwindow hcut,
          (openedAt_spec hinvariant hwindow hcut).1.stored hcut hindex, hstored.2⟩
      · rw [hothers sequenceID hother] at hbuffer
        exact arrivedAt_owner hinvariant hwindow hcut (buffer_of_roomAt hother hbuffer)
  · rwa [deliver_whole hproduced hcut]

theorem reassemblyInvariant_reachable
    (hreach : ReachableBy (reassembly sends) (Allowed sends) state) :
    ReassemblyInvariant sends state := by
  refine hreach.invariant ?_ fun state delivery state' hinvariant hallowed hstep => ?_
  · rintro state rfl
    refine ⟨rfl, fun _ => ⟨rfl, fun sequenceID => AList.lookup_empty _⟩, fun newest h => ?_⟩
    cases h
  · cases hstep
    exact reassemblyInvariant_step hsize hinvariant hallowed

/-- A payload that is returned is the one of the packet that a fragment arrived of, and not
    longer than an IP packet. -/
theorem deliver_result (hinvariant : ReassemblyInvariant sends state)
    (hallowed : Allowed sends state delivery) {payload : Bytes}
    (h : (deliver sends state delivery).1 = .ok (some payload)) :
    payload = (sends delivery.send).payload ∧
      ((sends delivery.send).Consumes → payload.length ≤ 65535) := by
  obtain ⟨hproduced, hwindow⟩ := hallowed
  by_cases hcut : (sends delivery.send).Consumes
  · obtain ⟨index, hid, hindex, hpiece⟩ := exists_index hproduced hcut
    obtain ⟨-, -, -, hfull, hroom⟩ :=
      deliver_cut hsize hinvariant hwindow hcut hid hindex hpiece
    cases henough : (roomAt sends state delivery index).1 with
    | false =>
      rw [(hfull henough).1] at h
      cases h
    | true =>
      rcases hroom henough with ⟨⟨hresult, hlength⟩ | ⟨hresult, -⟩, -⟩ | ⟨hresult, -⟩
      · rw [hresult] at h
        cases h
        exact ⟨rfl, fun _ => hlength⟩
      · rw [hresult] at h
        cases h
      · rw [hresult] at h
        cases h
  · rw [deliver_whole hproduced hcut] at h
    cases h
    exact ⟨rfl, fun hconsumes => absurd hconsumes hcut⟩

end

end Deliveries

end SingOpenVPN
