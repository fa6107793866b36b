import SingOpenVPN.Basic
import SingOpenVPN.WordBitmap

/-!
# The replay window (`replay_window.go`)

A packet id is accepted once.  The window keeps the highest id seen, one bit
and one arrival time for each of the `windowSize` ids ending there, and a
minimum id below which everything is refused because a later id has been known
for longer than the time window.  Window size zero keeps only the highest id
and accepts only its successor.

`time.Now()` is read by `reapLocked` and again when an arrival is recorded, so
every operation takes the two readings `now` and `arrival`.
-/

namespace SingOpenVPN

open WordBitmap

/-! ### Definitions -/

/-- `replayWindow`.  The ids and timestamps are `uint32` values; an unused slot
    of `arrivalTimes` holds the zero `time.Time`, here `none`. -/
structure ReplayWindow where
  windowSize : Nat
  initialized : Bool
  highestID : Nat
  highestTimestamp : Nat
  bitmap : List (BitVec 64)
  arrivalTimes : List (Option Time)
  minimumID : Nat
  timeWindow : Duration
deriving DecidableEq

def newReplayWindow (windowSize : Nat) (timeWindow : Duration) : ReplayWindow where
  windowSize := windowSize
  initialized := false
  highestID := 0
  highestTimestamp := 0
  bitmap := List.replicate ((windowSize + 63) / 64) 0
  arrivalTimes := List.replicate windowSize none
  minimumID := 0
  timeWindow := timeWindow

/-- `shiftReplayBitmap`: the in-place loop from the last word down. -/
def shiftReplayBitmap (bitmap : List (BitVec 64)) (shift : Nat) : List (BitVec 64) :=
  shiftUp bitmap shift

/-- `shiftReplayTimes`: move every arrival time up by `shift` slots. -/
def shiftReplayTimes (arrivalTimes : List (Option Time)) (shift : Nat) : List (Option Time) :=
  if shift = 0 ∨ arrivalTimes.length = 0 then arrivalTimes
  else if arrivalTimes.length ≤ shift then List.replicate arrivalTimes.length none
  else List.replicate shift none ++ arrivalTimes.take (arrivalTimes.length - shift)

namespace ReplayWindow

variable (w : ReplayWindow)

def initializeLocked (packetID timestamp : Nat) (arrival : Time) :
    ReplayWindow :=
  let bitmap := List.replicate w.bitmap.length 0
  let arrivalTimes := List.replicate w.arrivalTimes.length none
  { w with
    initialized := true
    highestTimestamp := timestamp
    highestID := packetID
    minimumID := 0
    bitmap := if 0 < w.windowSize then bitmap.set 0 1 else bitmap
    arrivalTimes := if 0 < w.windowSize then arrivalTimes.set 0 (some arrival) else arrivalTimes }

/-- The arrival time of a slot lies before the cutoff; an empty slot never does. -/
def arrivedBefore (cutoff : Time) : Option Time → Bool
  | some arrivalTime => decide (arrivalTime < cutoff)
  | none => false

/-- `reapLocked`: the highest id whose arrival has expired raises the minimum
    above itself.  The addition is `uint32` arithmetic. -/
def reapLocked (now : Time) : ReplayWindow :=
  if w.timeWindow ≤ 0 then w
  else
    match w.arrivalTimes.findIdx? (arrivedBefore (now - w.timeWindow)) with
    | none => w
    | some offset =>
      let minimumID := add32 (sub32 w.highestID offset) 1
      if w.minimumID < minimumID then { w with minimumID := minimumID } else w

def advance (packetID : Nat) (arrival : Time) : ReplayWindow :=
  let shift := packetID - w.highestID
  let bitmap :=
    if w.windowSize ≤ shift then List.replicate w.bitmap.length 0
    else shiftReplayBitmap w.bitmap shift
  let arrivalTimes :=
    if w.windowSize ≤ shift then List.replicate w.arrivalTimes.length none
    else shiftReplayTimes w.arrivalTimes shift
  { w with
    bitmap := setBit bitmap 0
    arrivalTimes := arrivalTimes.set 0 (some arrival)
    highestID := packetID }

def mark (offset : Nat) (arrival : Time) : ReplayWindow :=
  { w with
    bitmap := setBit w.bitmap offset
    arrivalTimes := w.arrivalTimes.set offset (some arrival) }

def acceptLocked (packetID : Nat) (now arrival : Time) :
    Bool × ReplayWindow :=
  if w.initialized = false then (true, w.initializeLocked packetID 0 arrival)
  else if w.windowSize = 0 then
    if packetID ≠ add32 w.highestID 1 then (false, w)
    else (true, { w with highestID := packetID })
  else
    let w := w.reapLocked now
    if w.highestID < packetID then (true, w.advance packetID arrival)
    else if packetID < w.minimumID then (false, w)
    else
      let offset := w.highestID - packetID
      if w.windowSize ≤ offset then (false, w)
      else if hasBit w.bitmap offset then (false, w)
      else (true, w.mark offset arrival)

def accept (packetID : Nat) (now arrival : Time) : Bool × ReplayWindow :=
  if packetID = 0 then (false, w) else w.acceptLocked packetID now arrival

/-- `AcceptLongForm`: an older timestamp is refused, a newer one starts the
    window again. -/
def acceptLongForm (packetID timestamp : Nat) (now arrival : Time) :
    Bool × ReplayWindow :=
  if packetID = 0 then (false, w)
  else if w.initialized = false then
    if w.windowSize = 0 ∧ 0 < timestamp ∧ packetID ≠ 1 then (false, w)
    else (true, w.initializeLocked packetID timestamp arrival)
  else if timestamp < w.highestTimestamp then (false, w)
  else if w.highestTimestamp < timestamp then
    if w.windowSize = 0 ∧ packetID ≠ 1 then (false, w)
    else (true, w.initializeLocked packetID timestamp arrival)
  else w.acceptLocked packetID now arrival

/-! ### What each helper changes -/

section Fields

variable (w : ReplayWindow) (packetID timestamp offset : Nat) (now arrival : Time)

theorem reapLocked_eq :
    ∃ minimumID, w.reapLocked now = { w with minimumID := minimumID } ∧
      w.minimumID ≤ minimumID := by
  unfold reapLocked
  split
  · exact ⟨w.minimumID, rfl, le_refl _⟩
  · split
    · exact ⟨w.minimumID, rfl, le_refl _⟩
    · rename_i offset _
      by_cases hlt : w.minimumID < add32 (sub32 w.highestID offset) 1
      · exact ⟨_, by simp only [hlt, if_true], le_of_lt hlt⟩
      · exact ⟨w.minimumID, by simp only [hlt, if_false], le_refl _⟩

@[simp] theorem reapLocked_highestID : (w.reapLocked now).highestID = w.highestID := by
  obtain ⟨_, heq, _⟩ := w.reapLocked_eq now
  rw [heq]

@[simp] theorem reapLocked_highestTimestamp :
    (w.reapLocked now).highestTimestamp = w.highestTimestamp := by
  obtain ⟨_, heq, _⟩ := w.reapLocked_eq now
  rw [heq]

@[simp] theorem reapLocked_windowSize : (w.reapLocked now).windowSize = w.windowSize := by
  obtain ⟨_, heq, _⟩ := w.reapLocked_eq now
  rw [heq]

@[simp] theorem reapLocked_timeWindow : (w.reapLocked now).timeWindow = w.timeWindow := by
  obtain ⟨_, heq, _⟩ := w.reapLocked_eq now
  rw [heq]

@[simp] theorem reapLocked_initialized : (w.reapLocked now).initialized = w.initialized := by
  obtain ⟨_, heq, _⟩ := w.reapLocked_eq now
  rw [heq]

@[simp] theorem reapLocked_bitmap : (w.reapLocked now).bitmap = w.bitmap := by
  obtain ⟨_, heq, _⟩ := w.reapLocked_eq now
  rw [heq]

@[simp] theorem reapLocked_arrivalTimes :
    (w.reapLocked now).arrivalTimes = w.arrivalTimes := by
  obtain ⟨_, heq, _⟩ := w.reapLocked_eq now
  rw [heq]

end Fields

/-- What the window test answers on an id at or below the highest one. -/
def refusesInWindow (packetID : Nat) : Prop :=
  packetID < w.minimumID ∨ w.windowSize ≤ w.highestID - packetID ∨
    bit w.bitmap (w.highestID - packetID) = true

theorem acceptLocked_cases {w w' : ReplayWindow} {packetID : Nat} {now arrival : Time}
    {answer : Bool} (hinit : w.initialized = true)
    (h : w.acceptLocked packetID now arrival = (answer, w')) :
    (w.windowSize = 0 ∧ packetID ≠ add32 w.highestID 1 ∧ answer = false ∧ w' = w) ∨
    (w.windowSize = 0 ∧ packetID = add32 w.highestID 1 ∧ answer = true ∧
      w' = { w with highestID := packetID }) ∨
    (0 < w.windowSize ∧ w.highestID < packetID ∧ answer = true ∧
      w' = (w.reapLocked now).advance packetID arrival) ∨
    (0 < w.windowSize ∧ packetID ≤ w.highestID ∧ (w.reapLocked now).refusesInWindow packetID ∧
      answer = false ∧ w' = w.reapLocked now) ∨
    (0 < w.windowSize ∧ packetID ≤ w.highestID ∧ ¬ (w.reapLocked now).refusesInWindow packetID ∧
      answer = true ∧ w' = (w.reapLocked now).mark (w.highestID - packetID) arrival) := by
  unfold acceptLocked at h
  rw [if_neg (by simp [hinit])] at h
  by_cases hzero : w.windowSize = 0
  · rw [if_pos hzero] at h
    split at h
    · next hne =>
      obtain ⟨rfl, rfl⟩ := Prod.mk.inj h
      exact .inl ⟨hzero, hne, rfl, rfl⟩
    · next heq =>
      obtain ⟨rfl, rfl⟩ := Prod.mk.inj h
      exact .inr (.inl ⟨hzero, not_not.mp heq, rfl, rfl⟩)
  · have hpos : 0 < w.windowSize := Nat.pos_of_ne_zero hzero
    rw [if_neg hzero] at h
    simp only [reapLocked_highestID, reapLocked_windowSize] at h
    by_cases hhigh : w.highestID < packetID
    · rw [if_pos hhigh] at h
      obtain ⟨rfl, rfl⟩ := Prod.mk.inj h
      exact .inr (.inr (.inl ⟨hpos, hhigh, rfl, rfl⟩))
    · rw [if_neg hhigh] at h
      have hle : packetID ≤ w.highestID := Nat.not_lt.mp hhigh
      right; right; right
      -- the three refusals of the window test end in the same state
      rw [hasBit_eq_bit _ (by decide)] at h
      unfold refusesInWindow
      simp only [reapLocked_highestID, reapLocked_windowSize]
      by_cases hmin : packetID < (w.reapLocked now).minimumID
      · rw [if_pos hmin] at h
        obtain ⟨rfl, rfl⟩ := Prod.mk.inj h
        exact .inl ⟨hpos, hle, .inl hmin, rfl, rfl⟩
      · rw [if_neg hmin] at h
        by_cases hoff : w.windowSize ≤ w.highestID - packetID
        · rw [if_pos hoff] at h
          obtain ⟨rfl, rfl⟩ := Prod.mk.inj h
          exact .inl ⟨hpos, hle, .inr (.inl hoff), rfl, rfl⟩
        · rw [if_neg hoff] at h
          by_cases hbit : bit (w.reapLocked now).bitmap (w.highestID - packetID) = true
          · rw [if_pos hbit] at h
            obtain ⟨rfl, rfl⟩ := Prod.mk.inj h
            exact .inl ⟨hpos, hle, .inr (.inr hbit), rfl, rfl⟩
          · rw [if_neg hbit] at h
            obtain ⟨rfl, rfl⟩ := Prod.mk.inj h
            exact .inr ⟨hpos, hle, by tauto, rfl, rfl⟩

end ReplayWindow

end SingOpenVPN
