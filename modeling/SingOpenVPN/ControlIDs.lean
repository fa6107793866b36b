import SingOpenVPN.ControlWrap
import SingOpenVPN.ReplaySet
import SingOpenVPN.SessionManager

/-!
# The packet ids of wrapped control packets (`control_wrap.go`, `replay_window.go`)

The long-form packet id (timestamp and counter) of a sender grows from packet to packet
as long as the clock is ahead of the timestamp whenever the counter starts again.  A
replay window that is given such ids in order meets each new one as the newest, and each
repeated one as an id it has seen.
-/

namespace SingOpenVPN

open ByteCodec ReplayWindow

/-! ### Long-form ids in order -/

def LongFormBefore (left right : Nat × Nat) : Prop :=
  left.1 < right.1 ∨ (left.1 = right.1 ∧ left.2 < right.2)

theorem LongFormBefore.trans {first second third : Nat × Nat} (h : LongFormBefore first second)
    (h' : LongFormBefore second third) : LongFormBefore first third := by
  simp only [LongFormBefore] at *
  omega

/-- A window that was given the ids `pairs` in order, and some of them again. -/
structure InOrder (w : ReplayWindow) (pairs : List (Nat × Nat)) : Prop where
  seen : SeenLongForm w pairs
  size : 0 < w.windowSize
  newest : w.initialized = true → (w.highestTimestamp, w.highestID) ∈ pairs

theorem inOrder_defaultReplayWindow : InOrder defaultReplayWindow [] where
  seen := .inl ⟨rfl, sized_newReplayWindow _ _, rfl⟩
  size := by decide
  newest := by simp [defaultReplayWindow, newReplayWindow]

variable {w : ReplayWindow} {s : TLSPacketIDState}

/-- What an accepted id that is newer than everything seen, and a refused one, leave
    behind. -/
theorem ReplayWindow.acceptLongForm_fields (hsize : 0 < w.windowSize) (packetID timestamp : Nat)
    (now arrival : Time) (hid : packetID ≠ 0) :
    let answer := w.acceptLongForm packetID timestamp now arrival
    answer.2.windowSize = w.windowSize ∧
    (w.initialized = false ∨
      LongFormBefore (w.highestTimestamp, w.highestID) (timestamp, packetID) →
      answer.1 = true ∧ answer.2.initialized = true ∧ answer.2.highestTimestamp = timestamp ∧
        answer.2.highestID = packetID) ∧
    (answer.1 = false → answer.2.initialized = w.initialized ∧
      answer.2.highestTimestamp = w.highestTimestamp ∧ answer.2.highestID = w.highestID) := by
  have hstart : ∀ timestamp, (w.initializeLocked packetID timestamp arrival).initialized = true ∧
      (w.initializeLocked packetID timestamp arrival).windowSize = w.windowSize ∧
      (w.initializeLocked packetID timestamp arrival).highestTimestamp = timestamp ∧
      (w.initializeLocked packetID timestamp arrival).highestID = packetID := by
    intro timestamp
    exact ⟨rfl, rfl, rfl, rfl⟩
  have hzero : w.windowSize ≠ 0 := ne_of_gt hsize
  simp only [acceptLongForm, hid, if_false, hzero, false_and, LongFormBefore]
  by_cases hinit : w.initialized = false
  · simp [hinit, hstart timestamp]
  rcases Nat.lt_trichotomy timestamp w.highestTimestamp with hold | hsame | hnew
  · simp [hinit, hold]
    omega
  · rw [if_neg hinit, if_neg (by omega), if_neg (by omega)]
    rw [Bool.not_eq_false] at hinit
    generalize hcall : w.acceptLocked packetID now arrival = answer
    obtain ⟨accepted, w'⟩ := answer
    rcases acceptLocked_cases hinit hcall with
      ⟨h, -⟩ | ⟨h, -⟩ | ⟨-, hhigh, rfl, rfl⟩ | ⟨-, hle, -, rfl, rfl⟩ | ⟨-, hle, -, rfl, rfl⟩
    · omega
    · omega
    · simp [advance, hinit, hsame]
    · simp [hinit]
      omega
    · simp [mark, hinit]
      omega
  · rw [if_neg hinit, if_neg (by omega), if_pos hnew]
    simp [hstart timestamp]

/-- The long-form id of a send state, as the window compares it. -/
def TLSPacketIDState.pair (s : TLSPacketIDState) : Nat × Nat := (s.timestamp.toNat, s.nextID.toNat)

def ReplayWindow.acceptState (w : ReplayWindow) (s : TLSPacketIDState) (now arrival : Time) :
    Bool × ReplayWindow := w.acceptLongForm s.nextID.toNat s.timestamp.toNat now arrival

variable {pairs : List (Nat × Nat)} {sends : List ControlSend} {first wrapped : UInt32}

theorem InOrder.newer (h : InOrder w pairs) (hid : s.nextID.toNat ≠ 0)
    (hnewer : ∀ pair ∈ pairs, LongFormBefore pair s.pair) (now arrival : Time) :
    (w.acceptState s now arrival).1 = true ∧
      InOrder (w.acceptState s now arrival).2 (s.pair :: pairs) := by
  obtain ⟨hwindow, haccepts, -⟩ := acceptLongForm_fields h.size s.nextID.toNat
    s.timestamp.toNat now arrival hid
  have hbehind : w.initialized = false ∨
      LongFormBefore (w.highestTimestamp, w.highestID) s.pair := by
    rcases Bool.eq_false_or_eq_true w.initialized with hinit | hinit
    · exact .inr (hnewer _ (h.newest hinit))
    · exact .inl hinit
  obtain ⟨hanswer, -, htimestamp, hhighest⟩ := haccepts hbehind
  obtain ⟨hyes, -⟩ := h.seen.acceptLongFormCall ⟨s.nextID, s.timestamp, now, arrival⟩
  refine ⟨hanswer, (hyes hanswer).2, ?_, ?_⟩
  · rw [acceptState, hwindow]
    exact h.size
  · intro _
    rw [acceptState, htimestamp, hhighest]
    exact List.mem_cons_self

theorem InOrder.again (h : InOrder w pairs) (hid : s.nextID.toNat ≠ 0) (hseen : s.pair ∈ pairs)
    (now arrival : Time) :
    (w.acceptState s now arrival).1 = false ∧ InOrder (w.acceptState s now arrival).2 pairs := by
  obtain ⟨hwindow, -, hrefuses⟩ := acceptLongForm_fields h.size s.nextID.toNat
    s.timestamp.toNat now arrival hid
  obtain ⟨hyes, hno⟩ := h.seen.acceptLongFormCall ⟨s.nextID, s.timestamp, now, arrival⟩
  have hanswer : (w.acceptState s now arrival).1 = false := by
    by_contra hnot
    rw [Bool.not_eq_false] at hnot
    exact (hyes hnot).1 hseen
  obtain ⟨hinit, htimestamp, hhighest⟩ := hrefuses hanswer
  refine ⟨hanswer, hno hanswer, ?_, ?_⟩
  · rw [acceptState, hwindow]
    exact h.size
  · rw [acceptState, hinit, htimestamp, hhighest]
    exact h.newest

/-! ### The ids of a sender -/

/-- A packet on its way out, with the two readings of the clock in seconds that
    `tlsPacketIDState.next` may make for it. -/
structure ControlSend where
  rawPacket : Bytes
  first : UInt32
  wrapped : UInt32
deriving DecidableEq

def sendStates (s : TLSPacketIDState) : List ControlSend → List TLSPacketIDState
  | [] => []
  | send :: sends =>
    s.next send.first send.wrapped :: sendStates (s.next send.first send.wrapped) sends

/-- The clock is ahead of the timestamp whenever the counter starts again. -/
def ClockAhead (s : TLSPacketIDState) : List ControlSend → Prop
  | [] => True
  | send :: sends =>
    (s.nextID = 0xFFFFFFFF →
      (if s.timestamp = 0 then send.first else s.timestamp) < send.wrapped) ∧
    ClockAhead (s.next send.first send.wrapped) sends

theorem TLSPacketIDState.next_of_ne (h : s.nextID ≠ 0xFFFFFFFF) (first wrapped : UInt32) :
    (s.next first wrapped).nextID.toNat = s.nextID.toNat + 1 ∧
      s.timestamp.toNat ≤ (s.next first wrapped).timestamp.toNat := by
  have hlt := s.nextID.toNat_lt
  have hne : s.nextID.toNat ≠ 2 ^ 32 - 1 := by
    intro heq
    exact h (UInt32.toNat_inj.mp heq)
  have hsucc : (s.nextID + 1).toNat = s.nextID.toNat + 1 :=
    SessionManager.toNat_succ_of_lt (by omega)
  by_cases hzero : s.timestamp = 0
  · simp [next, hzero, h, hsucc]
  · simp [next, hzero, h, hsucc]

theorem TLSPacketIDState.next_of_wrap (h : s.nextID = 0xFFFFFFFF)
    (hahead : (if s.timestamp = 0 then first else s.timestamp) < wrapped) :
    (s.next first wrapped).nextID = 1 ∧
      s.timestamp.toNat < (s.next first wrapped).timestamp.toNat := by
  by_cases hzero : s.timestamp = 0
  · rw [if_pos hzero] at hahead
    have hlt : first.toNat < wrapped.toNat := UInt32.lt_iff_toNat_lt.mp hahead
    simp [next, hzero, h, hahead]
    omega
  · rw [if_neg hzero] at hahead
    simpa [next, hzero, h, hahead] using UInt32.lt_iff_toNat_lt.mp hahead

/-- The id of a packet lies behind that of the next one, and is never zero. -/
theorem TLSPacketIDState.before_next (hahead : s.nextID = 0xFFFFFFFF →
      (if s.timestamp = 0 then first else s.timestamp) < wrapped) :
    LongFormBefore s.pair (s.next first wrapped).pair ∧
      (s.next first wrapped).nextID.toNat ≠ 0 := by
  simp only [LongFormBefore, pair]
  by_cases hwrap : s.nextID = 0xFFFFFFFF
  · obtain ⟨hid, htimestamp⟩ := next_of_wrap hwrap (hahead hwrap)
    simp [hid, htimestamp]
  · obtain ⟨hid, htimestamp⟩ := next_of_ne hwrap first wrapped
    omega

/-- A counter that starts at zero does not start again within fewer than `2 ^ 32`
    packets. -/
theorem clockAhead_of_lt (h : s.nextID.toNat + sends.length < 2 ^ 32) :
    ClockAhead s sends := by
  induction sends generalizing s with
  | nil => trivial
  | cons send sends ih =>
    rw [List.length_cons] at h
    have hne : s.nextID ≠ 0xFFFFFFFF := by
      intro heq
      rw [heq] at h
      change 4294967295 + _ < _ at h
      omega
    obtain ⟨hid, -⟩ := TLSPacketIDState.next_of_ne hne send.first send.wrapped
    refine ⟨fun heq => absurd heq hne, ih ?_⟩
    omega

theorem sendStates_pairwise (h : ClockAhead s sends) :
    (sendStates s sends).Pairwise (fun left right => LongFormBefore left.pair right.pair) ∧
      ∀ state ∈ sendStates s sends, LongFormBefore s.pair state.pair ∧ state.nextID.toNat ≠ 0 := by
  induction sends generalizing s with
  | nil => simp [sendStates]
  | cons send sends ih =>
    obtain ⟨hahead, hrest⟩ := h
    obtain ⟨hbefore, hid⟩ := TLSPacketIDState.before_next hahead
    obtain ⟨hpairwise, hall⟩ := ih hrest
    constructor
    · exact List.pairwise_cons.mpr ⟨fun state hstate => (hall state hstate).1, hpairwise⟩
    · intro state hstate
      rcases List.mem_cons.mp hstate with rfl | hstate
      · exact ⟨hbefore, hid⟩
      · obtain ⟨hlater, hnonzero⟩ := hall state hstate
        exact ⟨hbefore.trans hlater, hnonzero⟩

end SingOpenVPN
