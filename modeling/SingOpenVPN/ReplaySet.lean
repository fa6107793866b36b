import SingOpenVPN.ReplayWindow
import SingOpenVPN.TransitionSystem

/-!
# The replay window refines a set of accepted ids

What the window is for, said without a bitmap: remember every id accepted since
the last timestamp reset together with its arrival time (`ReplaySet`), refuse an
id that was accepted, that lies a whole window below the highest one, or that
lies below an id whose arrival had expired at this or an earlier check.

Two relations connect the window to that set.

* `Covers w ids`: the bitmap of `w` is the set `ids` seen from the highest id
  down.  It alone gives that nothing is accepted twice, for every id.
* `Tracks w s`: in addition the arrival times and the minimum id agree with the
  set.  The minimum is `uint32` arithmetic on the highest id, which is where ids
  have to stay below `2^32 - 1`.
-/

namespace SingOpenVPN

open WordBitmap TransitionSystem List ReplayWindow

/-! ### The specification -/

/-- One call of `Accept` or `AcceptLongForm`, with its two clock readings. -/
structure ReplayCall where
  packetID : UInt32
  timestamp : UInt32
  now : Time
  arrival : Time

/-- The ids accepted since the last timestamp reset, with their arrival times,
    and those of them whose arrival had expired at some check. -/
structure ReplaySet where
  timestamp : Nat
  accepted : List (Nat × Time)
  expired : List Nat

namespace ReplaySet

variable (s : ReplaySet)

def ids : List Nat := s.accepted.map Prod.fst

def highest : Nat := s.ids.foldr max 0

def start (packetID timestamp : Nat) (arrival : Time) : ReplaySet :=
  ⟨timestamp, [(packetID, arrival)], []⟩

/-- The ids whose arrival lies more than the time window before `now`. -/
def expiredAt (timeWindow : Duration) (now : Time) : List Nat :=
  if timeWindow ≤ 0 then []
  else (s.accepted.filter fun entry => entry.2 < now - timeWindow).map Prod.fst

/-- A check at `now` notes which arrivals have expired. -/
def check (timeWindow : Duration) (now : Time) : ReplaySet :=
  { s with expired := s.expiredAt timeWindow now ++ s.expired }

/-- Why a set refuses an id: it was accepted, it lies below the window, or it
    lies below an expired id. -/
def Refuses (windowSize packetID : Nat) : Prop :=
  packetID ∈ s.ids ∨ packetID + windowSize ≤ s.highest ∨ ∃ expired ∈ s.expired, packetID < expired

instance (s : ReplaySet) (windowSize packetID : Nat) :
    Decidable (s.Refuses windowSize packetID) := by
  unfold Refuses
  infer_instance

def add (packetID : Nat) (arrival : Time) : ReplaySet :=
  { s with accepted := (packetID, arrival) :: s.accepted }

/-- The answer for an id under the current timestamp.  Window size zero accepts
    only the successor of the highest id. -/
def accept (windowSize : Nat) (timeWindow : Duration) (packetID : Nat)
    (now arrival : Time) : Bool × ReplaySet :=
  if windowSize = 0 then
    if packetID = s.highest + 1 then (true, s.add packetID arrival) else (false, s)
  else
    let s := s.check timeWindow now
    if s.Refuses windowSize packetID then (false, s) else (true, s.add packetID arrival)

end ReplaySet

/-- `Accept` on the set; `none` is the state before the first accepted id. -/
def setAccept (windowSize : Nat) (timeWindow : Duration) (s : Option ReplaySet)
    (packetID : Nat) (now arrival : Time) : Bool × Option ReplaySet :=
  if packetID = 0 then (false, s)
  else
    match s with
    | none => (true, some (ReplaySet.start packetID 0 arrival))
    | some s => Prod.map id some (s.accept windowSize timeWindow packetID now arrival)

/-- `AcceptLongForm` on the set.  Window size zero wants a new nonzero timestamp
    to start at id 1. -/
def setAcceptLongForm (windowSize : Nat) (timeWindow : Duration) (s : Option ReplaySet)
    (packetID timestamp : Nat) (now arrival : Time) : Bool × Option ReplaySet :=
  if packetID = 0 then (false, s)
  else
    match s with
    | none =>
      if windowSize = 0 ∧ 0 < timestamp ∧ packetID ≠ 1 then (false, none)
      else (true, some (ReplaySet.start packetID timestamp arrival))
    | some s =>
      if timestamp < s.timestamp then (false, some s)
      else if s.timestamp < timestamp then
        if windowSize = 0 ∧ packetID ≠ 1 then (false, some s)
        else (true, some (ReplaySet.start packetID timestamp arrival))
      else Prod.map id some (s.accept windowSize timeWindow packetID now arrival)

/-! ### The two interfaces as stateful tests -/

def ReplayWindow.acceptCall (w : ReplayWindow) (call : ReplayCall) : Bool × ReplayWindow :=
  w.accept call.packetID.toNat call.now call.arrival

def ReplayWindow.acceptLongFormCall (w : ReplayWindow) (call : ReplayCall) :
    Bool × ReplayWindow :=
  w.acceptLongForm call.packetID.toNat call.timestamp.toNat call.now call.arrival

def setAcceptCall (windowSize : Nat) (timeWindow : Duration) (s : Option ReplaySet)
    (call : ReplayCall) : Bool × Option ReplaySet :=
  setAccept windowSize timeWindow s call.packetID.toNat call.now call.arrival

def setAcceptLongFormCall (windowSize : Nat) (timeWindow : Duration) (s : Option ReplaySet)
    (call : ReplayCall) : Bool × Option ReplaySet :=
  setAcceptLongForm windowSize timeWindow s call.packetID.toNat call.timestamp.toNat
    call.now call.arrival

/-! ### The bitmap covers the accepted ids -/

/-- Slot `offset` of the window stands for an id of `ids`. -/
def SlotOf (highestID : Nat) (ids : List Nat) (offset : Nat) : Prop :=
  offset ≤ highestID ∧ highestID - offset ∈ ids

/-- The bitmap of `w` shows exactly `ids`, from the highest id down. -/
structure Covers (w : ReplayWindow) (ids : List Nat) : Prop where
  initialized : w.initialized = true
  highest_lt : w.highestID < 2 ^ 32
  words : w.windowSize ≤ 64 * w.bitmap.length
  slots : w.arrivalTimes.length = w.windowSize
  highest_mem : w.highestID ∈ ids
  le_highest : ∀ id ∈ ids, id ≤ w.highestID
  bits : ∀ offset < w.windowSize, bit w.bitmap offset = true ↔ SlotOf w.highestID ids offset

structure Sized (w : ReplayWindow) : Prop where
  words : w.windowSize ≤ 64 * w.bitmap.length
  slots : w.arrivalTimes.length = w.windowSize

theorem sized_newReplayWindow (windowSize : Nat) (timeWindow : Duration) :
    Sized (newReplayWindow windowSize timeWindow) := by
  constructor
  · simp only [newReplayWindow, length_replicate]
    omega
  · simp [newReplayWindow]

variable {ids : List Nat} {id packetID : Nat} {s : ReplaySet} {now : Time} {w : ReplayWindow}

theorem Covers.sized (h : Covers w ids) : Sized w :=
  ⟨h.words, h.slots⟩

theorem bit_set_zero_one {words : List (BitVec 64)} (hwords : 0 < words.length) (index : Nat) :
    bit ((List.replicate words.length (0 : BitVec 64)).set 0 1) index = decide (index = 0) := by
  have hset : (List.replicate words.length (0 : BitVec 64)).set 0 1 =
      setBit (List.replicate words.length 0) 0 := by
    simp [setBit, hwords]
  rw [hset, bit_setBit (by decide) (by simpa using hwords), bit_replicate_zero, Bool.or_false]

theorem Sized.covers_initializeLocked (h : Sized w) (hlt : packetID < 2 ^ 32)
    (timestamp : Nat) (arrival : Time) :
    Covers (w.initializeLocked packetID timestamp arrival) [packetID] := by
  have hwords := h.words
  refine ⟨rfl, hlt, ?_, ?_, mem_singleton.mpr rfl, ?_, ?_⟩
  · simp only [initializeLocked]
    split <;> simpa using hwords
  · simp only [initializeLocked]
    split <;> simp [h.slots]
  · intro id hid
    exact le_of_eq (mem_singleton.mp hid)
  · intro offset hoffset
    have hpos : 0 < w.windowSize := Nat.lt_of_le_of_lt (Nat.zero_le _) hoffset
    simp only [initializeLocked, if_pos hpos, SlotOf, mem_singleton]
    rw [bit_set_zero_one (by omega), decide_eq_true_iff]
    omega

/-- The window test on an id at or below the highest one refuses exactly the
    ids below the minimum, below the window, and in the set. -/
theorem Covers.refusesInWindow_iff {ids : List Nat} (h : Covers w ids)
    {packetID : Nat} (hle : packetID ≤ w.highestID) :
    w.refusesInWindow packetID ↔
      packetID < w.minimumID ∨ packetID + w.windowSize ≤ w.highestID ∨ packetID ∈ ids := by
  unfold refusesInWindow
  have hid : w.highestID - (w.highestID - packetID) = packetID := Nat.sub_sub_self hle
  by_cases hin : w.highestID - packetID < w.windowSize
  · rw [h.bits _ hin, SlotOf, hid]
    constructor
    · rintro (hmin | hoff | ⟨_, hmem⟩)
      · exact .inl hmin
      · omega
      · exact .inr (.inr hmem)
    · rintro (hmin | hoff | hmem)
      · exact .inl hmin
      · omega
      · exact .inr (.inr ⟨Nat.sub_le _ _, hmem⟩)
  · constructor
    · intro _
      exact .inr (.inl (by omega))
    · intro _
      exact .inr (.inl (Nat.not_lt.mp hin))

theorem Covers.reapLocked (h : Covers w ids) (now : Time) :
    Covers (w.reapLocked now) ids := by
  constructor <;> simp only [reapLocked_initialized, reapLocked_bitmap,
    reapLocked_windowSize, reapLocked_arrivalTimes,
    reapLocked_highestID]
  · exact h.initialized
  · exact h.highest_lt
  · exact h.words
  · exact h.slots
  · exact h.highest_mem
  · exact h.le_highest
  · exact h.bits

theorem length_shiftReplayTimes (arrivalTimes : List (Option Time)) (shift : Nat) :
    (shiftReplayTimes arrivalTimes shift).length = arrivalTimes.length := by
  unfold shiftReplayTimes
  split
  · rfl
  · split <;> simp
    omega

theorem Covers.advance (h : Covers w ids) (arrival : Time)
    (hpos : 0 < w.windowSize) (hhigh : w.highestID < packetID) (hlt : packetID < 2 ^ 32) :
    Covers (w.advance packetID arrival) (packetID :: ids) := by
  have hwords := h.words
  refine ⟨h.initialized, hlt, ?_, ?_, mem_cons_self, ?_, ?_⟩
  · simp only [ReplayWindow.advance, length_setBit]
    split <;> simpa [shiftReplayBitmap] using hwords
  · simp only [ReplayWindow.advance, length_set]
    split <;> simp [length_shiftReplayTimes, h.slots]
  · intro id hid
    rcases mem_cons.mp hid with rfl | hmem
    · exact le_refl _
    · exact le_of_lt (lt_of_le_of_lt (h.le_highest id hmem) hhigh)
  · intro offset hoffset
    change offset < w.windowSize at hoffset
    simp only [ReplayWindow.advance, SlotOf, mem_cons]
    by_cases hfar : w.windowSize ≤ packetID - w.highestID
    · -- the old window is left behind entirely
      rw [if_pos hfar, bit_setBit (by decide) (by simp; omega)]
      simp only [bit_replicate_zero, Bool.or_false, decide_eq_true_iff]
      constructor
      · rintro rfl
        exact ⟨Nat.zero_le _, .inl rfl⟩
      · rintro ⟨hle, heq | hmem⟩
        · omega
        · have := h.le_highest _ hmem
          omega
    · rw [if_neg hfar, bit_setBit (by decide) (by simp [shiftReplayBitmap]; omega),
        shiftReplayBitmap, bit_shiftUp (by decide) _ (by omega)]
      simp only [Bool.or_eq_true, Bool.and_eq_true, decide_eq_true_iff]
      constructor
      · rintro (rfl | ⟨hshift, hbit⟩)
        · exact ⟨Nat.zero_le _, .inl rfl⟩
        · obtain ⟨hle, hmem⟩ := (h.bits _ (by omega)).mp hbit
          have heq : packetID - offset = w.highestID - (offset - (packetID - w.highestID)) := by
            omega
          exact ⟨by omega, .inr (heq ▸ hmem)⟩
      · rintro ⟨hle, heq | hmem⟩
        · exact .inl (by omega)
        · have hbelow := h.le_highest _ hmem
          have heq : packetID - offset = w.highestID - (offset - (packetID - w.highestID)) := by
            omega
          exact .inr ⟨by omega, (h.bits _ (by omega)).mpr ⟨by omega, heq ▸ hmem⟩⟩

theorem Covers.mark (h : Covers w ids) (arrival : Time)
    (hle : packetID ≤ w.highestID) (hin : w.highestID - packetID < w.windowSize) :
    Covers (w.mark (w.highestID - packetID) arrival) (packetID :: ids) := by
  have hwords := h.words
  refine ⟨h.initialized, h.highest_lt, ?_, ?_, mem_cons_of_mem _ h.highest_mem, ?_, ?_⟩
  · simpa [ReplayWindow.mark] using hwords
  · simpa [ReplayWindow.mark] using h.slots
  · intro id hid
    rcases mem_cons.mp hid with rfl | hmem
    · exact hle
    · exact h.le_highest id hmem
  · intro offset hoffset
    simp only [ReplayWindow.mark, SlotOf, mem_cons]
    rw [bit_setBit (by decide) (by omega), Bool.or_eq_true, decide_eq_true_iff,
      h.bits offset hoffset, SlotOf]
    constructor
    · rintro (rfl | ⟨hoff, hmem⟩)
      · exact ⟨Nat.sub_le _ _, .inl (Nat.sub_sub_self hle)⟩
      · exact ⟨hoff, .inr hmem⟩
    · rintro ⟨hoff, heq | hmem⟩
      · exact .inl (by omega)
      · exact .inr ⟨hoff, hmem⟩

/-- Window size zero: the accepted successor is a real one, since id zero never
    gets this far. -/
theorem Covers.succ_eq (h : Covers w ids) (hid : packetID ≠ 0)
    (heq : packetID = add32 w.highestID 1) : packetID = w.highestID + 1 := by
  have hlt := h.highest_lt
  rcases lt_or_ge (w.highestID + 1) (2 ^ 32) with hin | hwrap
  · rw [heq, add32_eq_of_lt hin]
  · have hlast : w.highestID = 2 ^ 32 - 1 := by omega
    exact absurd (by rw [heq, hlast]; decide) hid

theorem Covers.succ (h : Covers w ids) (hsize : w.windowSize = 0)
    (heq : packetID = w.highestID + 1) (hlt : packetID < 2 ^ 32) :
    Covers { w with highestID := packetID } (packetID :: ids) := by
  refine ⟨h.initialized, hlt, h.words, h.slots, mem_cons_self, ?_, ?_⟩
  · intro id hid
    rcases mem_cons.mp hid with rfl | hmem
    · exact le_refl _
    · change id ≤ packetID
      exact le_trans (h.le_highest id hmem) (by omega)
  · intro offset hoffset
    exact absurd hoffset (by simp [hsize])

/-- One call on an initialized window: an accepted id was not in the set and
    joins it, a refused one changes nothing. -/
theorem Covers.acceptLocked (h : Covers w ids) (hid : packetID ≠ 0)
    (hlt : packetID < 2 ^ 32) (now arrival : Time) :
    ((w.acceptLocked packetID now arrival).1 = true → packetID ∉ ids ∧
      Covers (w.acceptLocked packetID now arrival).2 (packetID :: ids)) ∧
    ((w.acceptLocked packetID now arrival).1 = false →
      Covers (w.acceptLocked packetID now arrival).2 ids) := by
  have habove : w.highestID < packetID → packetID ∉ ids := fun hhigh hmem =>
    absurd (h.le_highest packetID hmem) (Nat.not_le.mpr hhigh)
  generalize hcall : w.acceptLocked packetID now arrival = result
  obtain ⟨answer, w'⟩ := result
  rcases acceptLocked_cases h.initialized hcall with
    ⟨_, _, rfl, rfl⟩ | ⟨hsize, heq, rfl, rfl⟩ | ⟨hpos, hhigh, rfl, rfl⟩ |
    ⟨_, _, _, rfl, rfl⟩ | ⟨hpos, hle, hopen, rfl, rfl⟩
  · exact ⟨nofun, fun _ => h⟩
  · have hsucc := h.succ_eq hid heq
    exact ⟨fun _ => ⟨habove (by omega), h.succ hsize hsucc hlt⟩, nofun⟩
  · have hreap := h.reapLocked now
    exact ⟨fun _ => ⟨habove hhigh, hreap.advance arrival (by simpa) (by simpa) hlt⟩, nofun⟩
  · exact ⟨nofun, fun _ => h.reapLocked now⟩
  · have hreap := h.reapLocked now
    rw [hreap.refusesInWindow_iff (by simpa)] at hopen
    simp only [not_or, reapLocked_highestID,
      reapLocked_windowSize] at hopen
    obtain ⟨_, hin, hfresh⟩ := hopen
    have hmark := hreap.mark arrival (by simpa) (by simp; omega)
    exact ⟨fun _ => ⟨hfresh, by simpa using hmark⟩, nofun⟩

/-! ### Nothing is accepted twice -/

def Seen (w : ReplayWindow) (ids : List Nat) : Prop :=
  (w.initialized = false ∧ Sized w ∧ ids = []) ∨ Covers w ids

theorem Seen.acceptCall (h : Seen w ids) (call : ReplayCall) :
    ((w.acceptCall call).1 = true → call.packetID.toNat ∉ ids ∧
      Seen (w.acceptCall call).2 (call.packetID.toNat :: ids)) ∧
    ((w.acceptCall call).1 = false → Seen (w.acceptCall call).2 ids) := by
  unfold ReplayWindow.acceptCall ReplayWindow.accept
  have hlt : call.packetID.toNat < 2 ^ 32 := call.packetID.toNat_lt
  by_cases hid : call.packetID.toNat = 0
  · rw [if_pos hid]
    exact ⟨nofun, fun _ => h⟩
  · rw [if_neg hid]
    rcases h with ⟨hinit, hsized, rfl⟩ | hcovers
    · rw [acceptLocked, if_pos hinit]
      exact ⟨fun _ => ⟨not_mem_nil, .inr (hsized.covers_initializeLocked hlt _ _)⟩, nofun⟩
    · obtain ⟨hyes, hno⟩ := hcovers.acceptLocked hid hlt call.now call.arrival
      exact ⟨fun hanswer => ⟨(hyes hanswer).1, .inr (hyes hanswer).2⟩,
        fun hanswer => .inr (hno hanswer)⟩

/-- The timestamp and id pairs `AcceptLongForm` said yes to so far: those of an
    older timestamp are behind, the others are in the window. -/
def SeenLongForm (w : ReplayWindow) (pairs : List (Nat × Nat)) : Prop :=
  (w.initialized = false ∧ Sized w ∧ pairs = []) ∨
  ∃ ids, Covers w ids ∧ ∀ pair ∈ pairs, pair.1 < w.highestTimestamp ∨
    (pair.1 = w.highestTimestamp ∧ pair.2 ∈ ids)

theorem ReplayWindow.acceptLocked_kept (hinit : w.initialized = true)
    (packetID : Nat) (now arrival : Time) :
    (w.acceptLocked packetID now arrival).2.highestTimestamp = w.highestTimestamp ∧
    (w.acceptLocked packetID now arrival).2.windowSize = w.windowSize ∧
    (w.acceptLocked packetID now arrival).2.timeWindow = w.timeWindow := by
  generalize hcall : w.acceptLocked packetID now arrival = result
  obtain ⟨answer, w'⟩ := result
  rcases acceptLocked_cases hinit hcall with
    ⟨_, _, rfl, rfl⟩ | ⟨_, _, rfl, rfl⟩ | ⟨_, _, rfl, rfl⟩ | ⟨_, _, _, rfl, rfl⟩ |
    ⟨_, _, _, rfl, rfl⟩
  all_goals simp [advance, mark]

theorem SeenLongForm.acceptLongFormCall {pairs : List (Nat × Nat)}
    (h : SeenLongForm w pairs) (call : ReplayCall) :
    ((w.acceptLongFormCall call).1 = true →
      (call.timestamp.toNat, call.packetID.toNat) ∉ pairs ∧
      SeenLongForm (w.acceptLongFormCall call).2
        ((call.timestamp.toNat, call.packetID.toNat) :: pairs)) ∧
    ((w.acceptLongFormCall call).1 = false →
      SeenLongForm (w.acceptLongFormCall call).2 pairs) := by
  unfold ReplayWindow.acceptLongFormCall ReplayWindow.acceptLongForm
  have hlt : call.packetID.toNat < 2 ^ 32 := call.packetID.toNat_lt
  generalize call.packetID.toNat = packetID at hlt ⊢
  generalize call.timestamp.toNat = timestamp
  by_cases hid : packetID = 0
  · rw [if_pos hid]
    exact ⟨nofun, fun _ => h⟩
  rw [if_neg hid]
  rcases h with ⟨hinit, hsized, rfl⟩ | ⟨ids, hcovers, hpairs⟩
  · rw [if_pos hinit]
    split
    · exact ⟨nofun, fun _ => .inl ⟨hinit, hsized, rfl⟩⟩
    · refine ⟨fun _ => ⟨not_mem_nil, .inr ⟨[packetID],
        hsized.covers_initializeLocked hlt _ _, ?_⟩⟩, nofun⟩
      intro pair hpair
      obtain rfl := mem_singleton.mp hpair
      exact .inr ⟨rfl, mem_singleton.mpr rfl⟩
  rw [if_neg (by simp [hcovers.initialized])]
  rcases Nat.lt_trichotomy timestamp w.highestTimestamp with hold | hsame | hnew
  · rw [if_pos hold]
    exact ⟨nofun, fun _ => .inr ⟨ids, hcovers, hpairs⟩⟩
  · -- the current timestamp: the window decides
    rw [if_neg (by omega), if_neg (by omega)]
    obtain ⟨hyes, hno⟩ := hcovers.acceptLocked hid hlt call.now call.arrival
    have hkeep := (acceptLocked_kept hcovers.initialized packetID call.now
      call.arrival).1
    constructor
    · intro hanswer
      obtain ⟨hfresh, hnext⟩ := hyes hanswer
      refine ⟨?_, .inr ⟨packetID :: ids, hnext, ?_⟩⟩
      · intro hmem
        rcases hpairs _ hmem with hbehind | ⟨_, hin⟩
        · exact absurd hbehind (by simp [hsame])
        · exact hfresh hin
      · rw [hkeep]
        intro pair hpair
        rcases mem_cons.mp hpair with rfl | hmem
        · exact .inr ⟨hsame, mem_cons_self⟩
        · exact (hpairs pair hmem).imp_right fun hin => ⟨hin.1, mem_cons_of_mem _ hin.2⟩
    · intro hanswer
      exact .inr ⟨ids, hno hanswer, by rwa [hkeep]⟩
  · -- a newer timestamp: everything accepted before is behind it
    rw [if_neg (by omega), if_pos hnew]
    have hbehind : ∀ pair ∈ pairs, pair.1 < timestamp := fun pair hpair =>
      (hpairs pair hpair).elim (fun hlt => lt_trans hlt hnew) fun hin => hin.1 ▸ hnew
    split
    · exact ⟨nofun, fun _ => .inr ⟨ids, hcovers, hpairs⟩⟩
    · refine ⟨fun _ => ⟨fun hmem => lt_irrefl _ (hbehind _ hmem), .inr ⟨[packetID],
        hcovers.sized.covers_initializeLocked hlt _ _, ?_⟩⟩, nofun⟩
      intro pair hpair
      rcases mem_cons.mp hpair with rfl | hmem
      · exact .inr ⟨rfl, mem_singleton.mpr rfl⟩
      · exact .inl (hbehind pair hmem)

/-! ### Arrival times and the minimum id -/

/-- The window agrees with the set: the bitmap covers the ids, the arrival times
    are those of the set, and the minimum id is what the expired ids of the set
    amount to inside the window. -/
structure Tracks (w : ReplayWindow) (s : ReplaySet) : Prop where
  covers : Covers w s.ids
  timestamp : w.highestTimestamp = s.timestamp
  highest_lt : w.highestID < 2 ^ 32 - 1
  times : ∀ offset < w.windowSize, ∀ time, w.arrivalTimes[offset]? = some (some time) ↔
    offset ≤ w.highestID ∧ (w.highestID - offset, time) ∈ s.accepted
  expired_mem : ∀ expired ∈ s.expired, expired ∈ s.ids
  minimum : w.minimumID = 0 ∨ ∃ expired ∈ s.expired, w.minimumID = expired + 1
  expired_lt : ∀ expired ∈ s.expired,
    expired < w.minimumID ∨ expired + w.windowSize ≤ w.highestID

theorem ReplaySet.mem_ids {time : Time} (h : (id, time) ∈ s.accepted) :
    id ∈ s.ids := mem_map.mpr ⟨(id, time), h, rfl⟩

theorem ReplaySet.mem_expiredAt {timeWindow : Duration} (hpos : ¬ timeWindow ≤ 0) :
    id ∈ s.expiredAt timeWindow now ↔ ∃ time, (id, time) ∈ s.accepted ∧
      time < now - timeWindow := by
  rw [ReplaySet.expiredAt, if_neg hpos, mem_map]
  constructor
  · rintro ⟨⟨_, time⟩, hmem, rfl⟩
    obtain ⟨hin, hlt⟩ := mem_filter.mp hmem
    exact ⟨time, hin, by simpa using hlt⟩
  · rintro ⟨time, hin, hlt⟩
    exact ⟨(id, time), mem_filter.mpr ⟨hin, by simpa using hlt⟩, rfl⟩

theorem foldr_max_eq {highest : Nat} (hmem : highest ∈ ids) (hle : ∀ id ∈ ids, id ≤ highest) :
    ids.foldr max 0 = highest := by
  apply le_antisymm
  · clear hmem
    induction ids with
    | nil => exact Nat.zero_le _
    | cons id ids ih =>
      exact Nat.max_le.mpr ⟨hle id mem_cons_self,
        ih fun other hother => hle other (mem_cons_of_mem _ hother)⟩
  · clear hle
    induction ids with
    | nil => exact absurd hmem not_mem_nil
    | cons id ids ih =>
      rcases mem_cons.mp hmem with rfl | hin
      · exact le_max_left _ _
      · exact le_trans (ih hin) (le_max_right _ _)

theorem Tracks.highest_eq (h : Tracks w s) :
    s.highest = w.highestID := foldr_max_eq h.covers.highest_mem h.covers.le_highest

theorem Tracks.arrivedBefore_iff (h : Tracks w s) {offset : Nat}
    (hoffset : offset < w.windowSize) (cutoff : Time) :
    (w.arrivalTimes[offset]?).any (arrivedBefore cutoff) = true ↔
      ∃ time, offset ≤ w.highestID ∧ (w.highestID - offset, time) ∈ s.accepted ∧ time < cutoff := by
  constructor
  · intro hany
    obtain ⟨slot, hslot, hbefore⟩ := (Option.any_eq_true _ _).mp hany
    cases slot with
    | none => cases hbefore
    | some time =>
      obtain ⟨hle, hmem⟩ := (h.times offset hoffset time).mp hslot
      exact ⟨time, hle, hmem, by simpa [arrivedBefore] using hbefore⟩
  · rintro ⟨time, hle, hmem, hlt⟩
    rw [(h.times offset hoffset time).mpr ⟨hle, hmem⟩]
    simpa [arrivedBefore] using hlt

/-- An id that expires at this check is below the window or has its slot. -/
theorem Tracks.expiredAt_slot (h : Tracks w s) (hpos : ¬ w.timeWindow ≤ 0)
    (hid : id ∈ s.expiredAt w.timeWindow now) :
    id + w.windowSize ≤ w.highestID ∨ (w.highestID - id < w.windowSize ∧
      (w.arrivalTimes[w.highestID - id]?).any
        (arrivedBefore (now - w.timeWindow)) = true) := by
  obtain ⟨time, hmem, hlt⟩ := (ReplaySet.mem_expiredAt hpos).mp hid
  have hle := h.covers.le_highest id (ReplaySet.mem_ids hmem)
  rcases lt_or_ge (w.highestID - id) w.windowSize with hin | hout
  · have heq : w.highestID - (w.highestID - id) = id := Nat.sub_sub_self hle
    refine .inr ⟨hin, (h.arrivedBefore_iff hin _).mpr ⟨time, Nat.sub_le _ _, ?_, hlt⟩⟩
    rwa [heq]
  · exact .inl (by omega)

theorem ReplaySet.mem_ids_of_expiredAt {timeWindow : Duration}
    (hid : id ∈ s.expiredAt timeWindow now) : id ∈ s.ids := by
  by_cases hpos : timeWindow ≤ 0
  · rw [ReplaySet.expiredAt, if_pos hpos] at hid
    exact absurd hid not_mem_nil
  · obtain ⟨time, hmem, _⟩ := (ReplaySet.mem_expiredAt hpos).mp hid
    exact ReplaySet.mem_ids hmem

/-- After reaping, the minimum id still comes from an expired id, and it lies
    above every id of the window that expired at this check. -/
theorem Tracks.reapLocked_minimumID (h : Tracks w s) (now : Time) :
    ((w.reapLocked now).minimumID = 0 ∨ ∃ expired ∈ (s.check w.timeWindow now).expired,
      (w.reapLocked now).minimumID = expired + 1) ∧
    ∀ expired ∈ s.expiredAt w.timeWindow now,
      expired < (w.reapLocked now).minimumID ∨ expired + w.windowSize ≤ w.highestID := by
  have hold : w.minimumID = 0 ∨ ∃ expired ∈ (s.check w.timeWindow now).expired,
      w.minimumID = expired + 1 := h.minimum.imp_right fun ⟨expired, hmem, heq⟩ =>
    ⟨expired, mem_append_right _ hmem, heq⟩
  unfold reapLocked
  by_cases hpos : w.timeWindow ≤ 0
  · rw [if_pos hpos]
    refine ⟨hold, ?_⟩
    intro expired hexpired
    rw [ReplaySet.expiredAt, if_pos hpos] at hexpired
    exact absurd hexpired not_mem_nil
  rw [if_neg hpos]
  cases hfind : w.arrivalTimes.findIdx? (arrivedBefore (now - w.timeWindow)) with
  | none =>
    refine ⟨hold, ?_⟩
    intro expired hexpired
    rcases h.expiredAt_slot hpos hexpired with hout | ⟨_, hslot⟩
    · exact .inr hout
    · obtain ⟨slot, hget, hbefore⟩ := (Option.any_eq_true _ _).mp hslot
      have hnone := List.findIdx?_eq_none_iff.mp hfind slot (mem_of_getElem? hget)
      exact absurd hbefore (by simp [hnone])
  | some offset =>
    obtain ⟨hlength, hbefore, hfirst⟩ := List.findIdx?_eq_some_iff_getElem.mp hfind
    have hoffset : offset < w.windowSize := h.covers.slots ▸ hlength
    have hslot : (w.arrivalTimes[offset]?).any
        (arrivedBefore (now - w.timeWindow)) = true := by
      rw [List.getElem?_eq_getElem hlength]
      exact hbefore
    obtain ⟨time, hle, hmem, hlt⟩ := (h.arrivedBefore_iff hoffset _).mp hslot
    have hnew : w.highestID - offset ∈ s.expiredAt w.timeWindow now :=
      (ReplaySet.mem_expiredAt hpos).mpr ⟨time, hmem, hlt⟩
    have hhigh := h.highest_lt
    have harith : add32 (sub32 w.highestID offset) 1 = w.highestID - offset + 1 := by
      rw [sub32_eq_of_le hle (by omega), add32_eq_of_lt (by omega)]
    -- the first expired slot belongs to the highest expired id of the window
    have htop : ∀ expired ∈ s.expiredAt w.timeWindow now,
        expired ≤ w.highestID - offset ∨ expired + w.windowSize ≤ w.highestID := by
      intro expired hexpired
      rcases h.expiredAt_slot hpos hexpired with hout | ⟨hin, hany⟩
      · exact .inr hout
      · left
        have hexpired_le := h.covers.le_highest expired (ReplaySet.mem_ids_of_expiredAt hexpired)
        by_contra hgt
        have hlength' : w.highestID - expired < w.arrivalTimes.length := by
          rw [h.covers.slots]; exact hin
        rw [List.getElem?_eq_getElem hlength'] at hany
        exact hfirst (w.highestID - expired) (by omega) hany
    simp only [harith]
    split
    · exact ⟨.inr ⟨_, mem_append_left _ hnew, rfl⟩,
        fun expired hexpired => (htop expired hexpired).imp_left Nat.lt_succ_of_le⟩
    · next hmin =>
      exact ⟨hold, fun expired hexpired => (htop expired hexpired).imp_left (by omega)⟩

theorem Tracks.reapLocked (h : Tracks w s) (now : Time) :
    Tracks (w.reapLocked now) (s.check w.timeWindow now) := by
  obtain ⟨hminimum, hbelow⟩ := h.reapLocked_minimumID now
  refine ⟨h.covers.reapLocked now, ?_, ?_, ?_, ?_, hminimum, ?_⟩
  · rw [reapLocked_highestTimestamp]
    exact h.timestamp
  · rw [reapLocked_highestID]
    exact h.highest_lt
  · rw [reapLocked_highestID, reapLocked_windowSize,
      reapLocked_arrivalTimes]
    exact h.times
  · intro expired hexpired
    rcases mem_append.mp hexpired with hnow | hbefore
    · exact ReplaySet.mem_ids_of_expiredAt hnow
    · exact h.expired_mem expired hbefore
  · intro expired hexpired
    rw [reapLocked_windowSize, reapLocked_highestID]
    rcases mem_append.mp hexpired with hnow | hbefore
    · exact hbelow expired hnow
    · -- the minimum id only grows
      obtain ⟨minimumID, heq, hgrow⟩ := w.reapLocked_eq now
      rw [heq]
      exact (h.expired_lt expired hbefore).imp_left fun hlt => lt_of_lt_of_le hlt hgrow

theorem getElem?_shiftReplayTimes {arrivalTimes : List (Option Time)} {shift offset : Nat}
    (hshift : shift < arrivalTimes.length) (hoffset : offset < arrivalTimes.length) (time : Time) :
    (shiftReplayTimes arrivalTimes shift)[offset]? = some (some time) ↔
      shift ≤ offset ∧ arrivalTimes[offset - shift]? = some (some time) := by
  unfold shiftReplayTimes
  by_cases hzero : shift = 0
  · subst hzero
    simp
  · rw [if_neg (by omega), if_neg (by omega)]
    rcases lt_or_ge offset shift with hlow | hhigh
    · rw [List.getElem?_append_left (by simpa using hlow)]
      simp [hlow, Nat.not_le.mpr hlow]
    · rw [List.getElem?_append_right (by simpa using hhigh), length_replicate,
        List.getElem?_take_of_lt (by omega)]
      simp [hhigh]

theorem Sized.tracks_initializeLocked (h : Sized w) (hlt : packetID < 2 ^ 32 - 1)
    (timestamp : Nat) (arrival : Time) :
    Tracks (w.initializeLocked packetID timestamp arrival)
      (ReplaySet.start packetID timestamp arrival) := by
  refine ⟨h.covers_initializeLocked (by omega) timestamp arrival, rfl, hlt, ?_, ?_, .inl rfl, ?_⟩
  · intro offset hoffset time
    have hpos : 0 < w.windowSize := Nat.lt_of_le_of_lt (Nat.zero_le _) hoffset
    simp only [initializeLocked, if_pos hpos, ReplaySet.start, mem_singleton,
      Prod.mk.injEq]
    rcases Nat.eq_zero_or_pos offset with rfl | hup
    · rw [List.getElem?_set_self (by simpa [h.slots] using hpos)]
      simp [eq_comm]
    · rw [List.getElem?_set_ne (by omega), List.getElem?_replicate]
      constructor
      · intro hget
        split at hget <;> simp at hget
      · rintro ⟨_, heq, _⟩
        omega
  · intro expired hexpired
    exact absurd hexpired not_mem_nil
  · intro expired hexpired
    exact absurd hexpired not_mem_nil

theorem Tracks.advance (h : Tracks w s) (arrival : Time)
    (hpos : 0 < w.windowSize) (hhigh : w.highestID < packetID) (hlt : packetID < 2 ^ 32 - 1) :
    Tracks (w.advance packetID arrival) (s.add packetID arrival) := by
  have hslots := h.covers.slots
  have hbelow : ∀ id time, (id, time) ∈ s.accepted → id ≤ w.highestID := fun id time hmem =>
    h.covers.le_highest id (ReplaySet.mem_ids hmem)
  refine ⟨h.covers.advance arrival hpos hhigh (by omega), h.timestamp, hlt, ?_, ?_, h.minimum, ?_⟩
  · intro offset hoffset time
    change offset < w.windowSize at hoffset
    simp only [ReplayWindow.advance, ReplaySet.add, mem_cons, Prod.mk.injEq]
    rcases Nat.eq_zero_or_pos offset with rfl | hup
    · rw [List.getElem?_set_self (by split <;> simp [length_shiftReplayTimes] <;> omega)]
      constructor
      · intro heq
        exact ⟨Nat.zero_le _, .inl ⟨rfl, by simpa [eq_comm] using heq⟩⟩
      · rintro ⟨_, ⟨_, rfl⟩ | hmem⟩
        · rfl
        · exact absurd (hbelow _ _ hmem) (by omega)
    · rw [List.getElem?_set_ne (by omega)]
      by_cases hfar : w.windowSize ≤ packetID - w.highestID
      · rw [if_pos hfar, List.getElem?_replicate]
        constructor
        · intro hget
          split at hget <;> simp at hget
        · rintro ⟨_, ⟨heq, _⟩ | hmem⟩
          · omega
          · exact absurd (hbelow _ _ hmem) (by omega)
      · rw [if_neg hfar, getElem?_shiftReplayTimes (by omega) (by omega)]
        constructor
        · rintro ⟨hshift, hget⟩
          obtain ⟨hle, hmem⟩ := (h.times _ (by omega) time).mp hget
          have heq : packetID - offset = w.highestID - (offset - (packetID - w.highestID)) := by
            omega
          exact ⟨by omega, .inr (heq ▸ hmem)⟩
        · rintro ⟨hle, ⟨heq, _⟩ | hmem⟩
          · omega
          · have hle' := hbelow _ _ hmem
            have heq : packetID - offset = w.highestID - (offset - (packetID - w.highestID)) := by
              omega
            exact ⟨by omega, (h.times _ (by omega) time).mpr ⟨by omega, heq ▸ hmem⟩⟩
  · intro expired hexpired
    exact mem_cons_of_mem _ (h.expired_mem expired hexpired)
  · intro expired hexpired
    exact (h.expired_lt expired hexpired).imp_right fun hout =>
      le_trans hout (le_of_lt hhigh)

theorem Tracks.mark (h : Tracks w s) (arrival : Time)
    (hle : packetID ≤ w.highestID) (hin : w.highestID - packetID < w.windowSize)
    (hfresh : packetID ∉ s.ids) :
    Tracks (w.mark (w.highestID - packetID) arrival) (s.add packetID arrival) := by
  have hslots := h.covers.slots
  refine ⟨h.covers.mark arrival hle hin, h.timestamp, h.highest_lt, ?_, ?_, h.minimum,
    h.expired_lt⟩
  · intro offset hoffset time
    simp only [ReplayWindow.mark, ReplaySet.add, mem_cons, Prod.mk.injEq]
    by_cases heq : offset = w.highestID - packetID
    · subst heq
      rw [List.getElem?_set_self (by omega), Nat.sub_sub_self hle]
      constructor
      · intro hsome
        exact ⟨Nat.sub_le _ _, .inl ⟨rfl, by simpa [eq_comm] using hsome⟩⟩
      · rintro ⟨_, ⟨_, rfl⟩ | hmem⟩
        · rfl
        · exact absurd (ReplaySet.mem_ids hmem) hfresh
    · rw [List.getElem?_set_ne (Ne.symm heq), h.times offset hoffset time]
      constructor
      · rintro ⟨hoff, hmem⟩
        exact ⟨hoff, .inr hmem⟩
      · rintro ⟨hoff, ⟨hid, _⟩ | hmem⟩
        · omega
        · exact ⟨hoff, hmem⟩
  · intro expired hexpired
    exact mem_cons_of_mem _ (h.expired_mem expired hexpired)

theorem Tracks.succ (h : Tracks w s) (arrival : Time) (hsize : w.windowSize = 0)
    (heq : packetID = w.highestID + 1) (hlt : packetID < 2 ^ 32 - 1) :
    Tracks { w with highestID := packetID } (s.add packetID arrival) := by
  refine ⟨h.covers.succ hsize heq (by omega), h.timestamp, hlt, ?_, ?_, h.minimum, ?_⟩
  · intro offset hoffset
    exact absurd hoffset (by simp [hsize])
  · intro expired hexpired
    exact mem_cons_of_mem _ (h.expired_mem expired hexpired)
  · intro expired hexpired
    refine (h.expired_lt expired hexpired).imp_right fun hout => le_trans hout ?_
    change w.highestID ≤ packetID
    omega

/-! ### Every answer is the answer of the set -/

/-- Inside the window the two tests refuse the same ids. -/
theorem Tracks.refusesInWindow_iff {s : ReplaySet} (h : Tracks w s)
    {packetID : Nat} (hle : packetID ≤ w.highestID) :
    w.refusesInWindow packetID ↔ s.Refuses w.windowSize packetID := by
  rw [h.covers.refusesInWindow_iff hle, ReplaySet.Refuses, h.highest_eq]
  constructor
  · rintro (hmin | hout | hmem)
    · rcases h.minimum with hzero | ⟨expired, hexpired, heq⟩
      · omega
      · -- the minimum is one above an expired id, which was itself accepted
        rcases lt_or_eq_of_le (show packetID ≤ expired by omega) with hlt | rfl
        · exact .inr (.inr ⟨expired, hexpired, hlt⟩)
        · exact .inl (h.expired_mem packetID hexpired)
    · exact .inr (.inl hout)
    · exact .inl hmem
  · rintro (hmem | hout | ⟨expired, hexpired, hlt⟩)
    · exact .inr (.inr hmem)
    · exact .inr (.inl hout)
    · rcases h.expired_lt expired hexpired with hmin | hout
      · exact .inl (lt_trans hlt hmin)
      · exact .inr (.inl (by omega))

theorem Tracks.not_refuses_above (h : Tracks w s) (hpos : 0 < w.windowSize)
    (hhigh : w.highestID < packetID) :
    ¬ s.Refuses w.windowSize packetID := by
  rw [ReplaySet.Refuses, h.highest_eq]
  rintro (hmem | hout | ⟨expired, hexpired, hlt⟩)
  · exact absurd (h.covers.le_highest packetID hmem) (by omega)
  · omega
  · exact absurd (h.covers.le_highest expired (h.expired_mem expired hexpired)) (by omega)

theorem Tracks.acceptLocked (h : Tracks w s) (hid : packetID ≠ 0)
    (hlt : packetID < 2 ^ 32 - 1) (now arrival : Time) :
    (w.acceptLocked packetID now arrival).1 =
      (s.accept w.windowSize w.timeWindow packetID now arrival).1 ∧
    Tracks (w.acceptLocked packetID now arrival).2
      (s.accept w.windowSize w.timeWindow packetID now arrival).2 := by
  have hreap := h.reapLocked now
  generalize hcall : w.acceptLocked packetID now arrival = result
  obtain ⟨answer, w'⟩ := result
  unfold ReplaySet.accept
  rcases acceptLocked_cases h.covers.initialized hcall with
    ⟨hsize, hne, rfl, rfl⟩ | ⟨hsize, heq, rfl, rfl⟩ | ⟨hpos, hhigh, rfl, rfl⟩ |
    ⟨hpos, hle, hrefuse, rfl, rfl⟩ | ⟨hpos, hle, hopen, rfl, rfl⟩
  · have hhigh := h.highest_lt
    rw [add32_eq_of_lt (by omega), ← h.highest_eq] at hne
    rw [if_pos hsize, if_neg hne]
    exact ⟨rfl, h⟩
  · have hsucc := h.covers.succ_eq hid heq
    rw [if_pos hsize, if_pos (by rw [hsucc, h.highest_eq])]
    exact ⟨rfl, h.succ arrival hsize hsucc hlt⟩
  · have hopen := hreap.not_refuses_above (by simpa) (by simpa)
    rw [reapLocked_windowSize] at hopen
    simp only [if_neg (ne_of_gt hpos), if_neg hopen]
    exact ⟨trivial, hreap.advance arrival (by simpa) (by simpa) hlt⟩
  · rw [hreap.refusesInWindow_iff (by simpa), reapLocked_windowSize] at hrefuse
    simp only [if_neg (ne_of_gt hpos), if_pos hrefuse]
    exact ⟨trivial, hreap⟩
  · rw [hreap.refusesInWindow_iff (by simpa), reapLocked_windowSize] at hopen
    simp only [if_neg (ne_of_gt hpos), if_neg hopen]
    rw [ReplaySet.Refuses, hreap.highest_eq, reapLocked_highestID] at hopen
    simp only [not_or] at hopen
    obtain ⟨hfresh, hin, _⟩ := hopen
    have hmark := hreap.mark arrival (by simpa) (by simp; omega) hfresh
    exact ⟨trivial, by simpa using hmark⟩

structure Agrees (windowSize : Nat) (timeWindow : Duration) (w : ReplayWindow)
    (s : Option ReplaySet) : Prop where
  windowSize : w.windowSize = windowSize
  timeWindow : w.timeWindow = timeWindow
  state : match s with
    | none => w.initialized = false ∧ Sized w
    | some s => Tracks w s

section Agreement

variable {windowSize : Nat} {timeWindow : Duration} {w : ReplayWindow}

theorem agrees_newReplayWindow (windowSize : Nat) (timeWindow : Duration) :
    Agrees windowSize timeWindow (newReplayWindow windowSize timeWindow) none :=
  ⟨rfl, rfl, rfl, sized_newReplayWindow windowSize timeWindow⟩

variable {s : Option ReplaySet}

theorem Agrees.initializeLocked (h : Agrees windowSize timeWindow w s) {packetID : Nat}
    (hlt : packetID < 2 ^ 32 - 1) (timestamp : Nat) (arrival : Time) :
    Agrees windowSize timeWindow (w.initializeLocked packetID timestamp arrival)
      (some (ReplaySet.start packetID timestamp arrival)) := by
  have hsized : Sized w := by
    cases s with
    | none => exact h.state.2
    | some s => exact h.state.covers.sized
  exact ⟨h.windowSize, h.timeWindow, hsized.tracks_initializeLocked hlt timestamp arrival⟩

theorem Agrees.acceptLocked {s : ReplaySet} (h : Agrees windowSize timeWindow w (some s))
    {packetID : Nat} (hid : packetID ≠ 0) (hlt : packetID < 2 ^ 32 - 1) (now arrival : Time) :
    (w.acceptLocked packetID now arrival).1 =
      (s.accept windowSize timeWindow packetID now arrival).1 ∧
    Agrees windowSize timeWindow (w.acceptLocked packetID now arrival).2
      (some (s.accept windowSize timeWindow packetID now arrival).2) := by
  obtain ⟨hsize, htime, htracks⟩ := h
  obtain ⟨-, hkeepSize, hkeepTime⟩ :=
    acceptLocked_kept htracks.covers.initialized packetID now arrival
  obtain ⟨hanswer, hnext⟩ := htracks.acceptLocked hid hlt now arrival
  rw [hsize, htime] at hanswer hnext
  exact ⟨hanswer, hkeepSize.trans hsize, hkeepTime.trans htime, hnext⟩

section

variable (h : Agrees windowSize timeWindow w s) (call : ReplayCall)
  (hlt : call.packetID.toNat < 2 ^ 32 - 1)

include h hlt

theorem Agrees.acceptCall :
    (w.acceptCall call).1 = (setAcceptCall windowSize timeWindow s call).1 ∧
    Agrees windowSize timeWindow (w.acceptCall call).2
      (setAcceptCall windowSize timeWindow s call).2 := by
  unfold ReplayWindow.acceptCall ReplayWindow.accept setAcceptCall setAccept
  by_cases hid : call.packetID.toNat = 0
  · rw [if_pos hid, if_pos hid]
    exact ⟨rfl, h⟩
  rw [if_neg hid, if_neg hid]
  cases s with
  | none =>
    rw [ReplayWindow.acceptLocked, if_pos h.state.1]
    exact ⟨rfl, h.initializeLocked hlt 0 call.arrival⟩
  | some s => exact h.acceptLocked hid hlt call.now call.arrival

theorem Agrees.acceptLongFormCall :
    (w.acceptLongFormCall call).1 = (setAcceptLongFormCall windowSize timeWindow s call).1 ∧
    Agrees windowSize timeWindow (w.acceptLongFormCall call).2
      (setAcceptLongFormCall windowSize timeWindow s call).2 := by
  unfold ReplayWindow.acceptLongFormCall ReplayWindow.acceptLongForm setAcceptLongFormCall
    setAcceptLongForm
  by_cases hid : call.packetID.toNat = 0
  · rw [if_pos hid, if_pos hid]
    exact ⟨rfl, h⟩
  rw [if_neg hid, if_neg hid, h.windowSize]
  cases s with
  | none =>
    rw [if_pos h.state.1]
    split
    · exact ⟨rfl, h⟩
    · exact ⟨rfl, h.initializeLocked hlt _ call.arrival⟩
  | some s =>
    have htracks : Tracks w s := h.state
    rw [if_neg (by simp [htracks.covers.initialized]), htracks.timestamp]
    dsimp only
    split
    · exact ⟨rfl, h⟩
    split
    · split
      · exact ⟨rfl, h⟩
      · exact ⟨rfl, h.initializeLocked hlt _ call.arrival⟩
    · exact h.acceptLocked hid hlt call.now call.arrival

end

end Agreement

/-! ### Whole runs -/

section Runs

variable (windowSize : Nat) (timeWindow : Duration) (calls : List ReplayCall)

theorem nodup_accept :
    ((acceptedInputs acceptCall (newReplayWindow windowSize timeWindow) calls).map
      ReplayCall.packetID).Nodup := by
  have hstart : Seen (newReplayWindow windowSize timeWindow) [] :=
    .inl ⟨rfl, sized_newReplayWindow windowSize timeWindow, rfl⟩
  obtain ⟨hnodup, _⟩ := nodup_acceptedInputs (fun _ _ call h => (h.acceptCall call).1)
    (fun _ _ call h => (h.acceptCall call).2) calls hstart
  apply List.Nodup.of_map UInt32.toNat
  rw [map_map]
  exact hnodup

theorem nodup_acceptLongForm :
    ((acceptedInputs acceptLongFormCall (newReplayWindow windowSize timeWindow)
      calls).map fun call => (call.timestamp, call.packetID)).Nodup := by
  have hstart : SeenLongForm (newReplayWindow windowSize timeWindow) [] :=
    .inl ⟨rfl, sized_newReplayWindow windowSize timeWindow, rfl⟩
  obtain ⟨hnodup, _⟩ := nodup_acceptedInputs (fun _ _ call h => (h.acceptLongFormCall call).1)
    (fun _ _ call h => (h.acceptLongFormCall call).2) calls hstart
  apply List.Nodup.of_map (Prod.map UInt32.toNat UInt32.toNat)
  rw [map_map]
  exact hnodup

/-- **The replay window.**  For every size and expiry time and every run of
    calls with any clock, no id is accepted twice (no timestamp and id pair for
    the long form); and while the ids stay below `2^32 - 1` every answer is that
    of the set of accepted ids. -/
theorem replayWindow_refines_replaySet :
    ((acceptedInputs ReplayWindow.acceptCall (newReplayWindow windowSize timeWindow) calls).map
      ReplayCall.packetID).Nodup ∧
    ((acceptedInputs ReplayWindow.acceptLongFormCall (newReplayWindow windowSize timeWindow)
      calls).map fun call => (call.timestamp, call.packetID)).Nodup ∧
    ((∀ call ∈ calls, call.packetID.toNat < 2 ^ 32 - 1) →
      answers ReplayWindow.acceptCall (newReplayWindow windowSize timeWindow) calls =
        answers (setAcceptCall windowSize timeWindow) none calls ∧
      answers ReplayWindow.acceptLongFormCall (newReplayWindow windowSize timeWindow) calls =
        answers (setAcceptLongFormCall windowSize timeWindow) none calls) := by
  refine ⟨nodup_accept windowSize timeWindow calls,
    nodup_acceptLongForm windowSize timeWindow calls, ?_⟩
  intro hids
  have hstart := agrees_newReplayWindow windowSize timeWindow
  constructor
  · exact answers_eq_of_related (fun _ _ call h hlt => h.acceptCall call hlt) calls hstart hids
  · exact answers_eq_of_related (fun _ _ call h hlt => h.acceptLongFormCall call hlt) calls
      hstart hids

end Runs

/-- Ids 5, 3, 5 and 9 in a window of four: the second 5 is refused as accepted,
    and 9 moves the window. -/
theorem replayWindow_refines_replaySet_four :
    answers ReplayWindow.acceptCall (newReplayWindow 4 0)
      [⟨5, 0, 0, 0⟩, ⟨3, 0, 1, 1⟩, ⟨5, 0, 2, 2⟩, ⟨9, 0, 3, 3⟩] = [true, true, false, true] ∧
    answers (setAcceptCall 4 0) none
      [⟨5, 0, 0, 0⟩, ⟨3, 0, 1, 1⟩, ⟨5, 0, 2, 2⟩, ⟨9, 0, 3, 3⟩] = [true, true, false, true] := by
  have h := ((replayWindow_refines_replaySet 4 0
    [⟨5, 0, 0, 0⟩, ⟨3, 0, 1, 1⟩, ⟨5, 0, 2, 2⟩, ⟨9, 0, 3, 3⟩]).2.2 (by decide)).1
  have hanswers : answers ReplayWindow.acceptCall (newReplayWindow 4 0)
      [⟨5, 0, 0, 0⟩, ⟨3, 0, 1, 1⟩, ⟨5, 0, 2, 2⟩, ⟨9, 0, 3, 3⟩] = [true, true, false, true] := by
    decide
  exact ⟨hanswers, h ▸ hanswers⟩

end SingOpenVPN
