import SingOpenVPN.PacketQueue
import SingOpenVPN.TransitionSystem

/-!
# Waking the readers of a packet queue (`data_queue.go`)

The wake channel of a queue holds one token.  A push puts it there after the lock is
released, and only if the queue was empty; `Pop` does so if items remain.  A reader that
finds the queue empty waits for the token and pops again.

The readers of a client and of a server run side by side (`readDataPackets`); those of a
UDP peer connection take turns under `readAccess` (`waitIncomingPackets`), and only they
may give up between the token and the pop, once their deadline has passed.
-/

namespace SingOpenVPN

open TransitionSystem Function Option DataPacketQueue

/-- Where a reader is: not in a call, before its next `Pop`, behind a `Pop` that returned
items, or in its `select`. -/
inductive QueueReader where
  | outside
  | popping
  | returning (hasMore : Bool)
  | waiting
deriving DecidableEq

/-- A queue with its goroutines.  A pusher is in `signaling` between its lock and its signal. -/
structure SharedQueue (α : Type) (capacity : Nat) where
  queue : DataPacketQueue α capacity
  wake : Bool := false
  closed : Bool := false
  readAccess : Option Nat := none
  readers : Nat → QueueReader := fun _ => .outside
  signaling : Nat → Bool := fun _ => false

inductive SharedQueueEvent (α : Type) where
  | pushBatch (pusher : Nat) (items : List α)
  | pushBatchDropNew (pusher : Nat) (items : List α)
  | signal (pusher : Nat)
  | enter (reader : Nat)
  | pop (reader : Nat) (max : Int) (sameRun : Option (α → α → Bool))
  | finish (reader : Nat)
  | receiveWake (reader : Nat)
  | giveUp (reader : Nat)
  | close
  | drain

namespace SharedQueue

variable {α : Type} {capacity : Nat}

def setReader (s : SharedQueue α capacity) (reader : Nat) (phase : QueueReader) :
    SharedQueue α capacity :=
  { s with readers := Function.update s.readers reader phase }

def leave (s : SharedQueue α capacity) (reader : Nat) : SharedQueue α capacity :=
  { s.setReader reader .outside with readAccess := none }

/-- One step; `exclusive` is set for the readers of a UDP peer connection.  A context that is
done, a deadline or the closing ends a wait; before a `Pop` only a deadline or the closing does. -/
def step [NeZero capacity] [Inhabited α] (exclusive : Bool) (s : SharedQueue α capacity) :
    SharedQueueEvent α → Option (SharedQueue α capacity)
  | .pushBatch pusher items =>
    if s.signaling pusher = false ∧ items ≠ [] then
      some { s with
        queue := (s.queue.pushBatch items).2
        signaling := Function.update s.signaling pusher (s.queue.length = 0) }
    else none
  | .pushBatchDropNew pusher items =>
    if s.signaling pusher = false ∧ items ≠ [] then
      let acceptedCount := min items.length (capacity - s.queue.length)
      some { s with
        queue := (s.queue.pushBatchDropNew items).2
        signaling := Function.update s.signaling pusher
          (s.queue.length = 0 ∧ 0 < acceptedCount) }
    else none
  | .signal pusher =>
    if s.signaling pusher then
      some { s with wake := true, signaling := Function.update s.signaling pusher false }
    else none
  | .enter reader =>
    if s.readers reader = .outside ∧ (exclusive = true → s.readAccess = none) then
      some { s.setReader reader .popping with
        readAccess := if exclusive then some reader else none }
    else none
  | .pop reader max sameRun =>
    if s.readers reader = .popping then
      let popped := s.queue.pop max.toNat sameRun
      some { s.setReader reader
          (if popped.1 = [] then .waiting else .returning (0 < popped.2.length)) with
        queue := popped.2 }
    else none
  | .finish reader =>
    match s.readers reader with
    | .returning hasMore => some { s.leave reader with wake := s.wake || hasMore }
    | _ => none
  | .receiveWake reader =>
    if s.readers reader = .waiting ∧ s.wake then
      some { s.setReader reader .popping with wake := false }
    else none
  | .giveUp reader =>
    if s.readers reader = .waiting ∨
        s.readers reader = .popping ∧ (exclusive = true ∨ s.closed = true) then
      some (s.leave reader)
    else none
  | .close => some { s with closed := true }
  | .drain => some { s with queue := s.queue.drain.2 }

/-- A goroutine is about to signal, or to pop without a way to give up, or the token is there. -/
def WillWake (exclusive : Bool) (s : SharedQueue α capacity) : Prop :=
  s.wake = true ∨ (∃ pusher, s.signaling pusher = true) ∨
    ∃ reader, s.readers reader = .returning true ∨ exclusive = false ∧ s.readers reader = .popping

/-- Items are queued, a reader waits for the token and the queue has not been closed. -/
def Waited (s : SharedQueue α capacity) : Prop :=
  s.closed = false ∧ 0 < s.queue.length ∧ ∃ reader, s.readers reader = .waiting

structure WakeInvariant (exclusive : Bool) (s : SharedQueue α capacity) : Prop where
  alone : exclusive = true → ∀ reader, s.readers reader ≠ .outside → s.readAccess = some reader
  wakes : s.Waited → s.WillWake exclusive

section Steps

variable {exclusive : Bool} {s s' : SharedQueue α capacity} {reader : Nat}

theorem waiting_of_setReader {phase : QueueReader} {other : Nat}
    (h : (s.setReader reader phase).readers other = .waiting) (hphase : phase ≠ .waiting) :
    other ≠ reader ∧ s.readers other = .waiting := by
  by_cases heq : other = reader
  · subst heq
    exact absurd ((update_self ..).symm.trans h) hphase
  · exact ⟨heq, (update_of_ne heq ..).symm.trans h⟩

section

variable (h : WakeInvariant exclusive s)

include h

theorem WakeInvariant.eq_of_inside (hexclusive : exclusive = true) {other : Nat}
    (hreader : s.readers reader ≠ .outside) (hother : s.readers other ≠ .outside) :
    other = reader :=
  some.inj ((h.alone hexclusive other hother).symm.trans (h.alone hexclusive reader hreader))

theorem WakeInvariant.alone_setReader (hinside : s.readers reader ≠ .outside) {phase : QueueReader}
    (hexclusive : exclusive = true) (other : Nat)
    (hother : (s.setReader reader phase).readers other ≠ .outside) : s.readAccess = some other := by
  by_cases heq : other = reader
  · exact h.alone hexclusive other (heq ▸ hinside)
  · exact h.alone hexclusive other ((update_of_ne heq ..).symm.trans_ne hother)

/-- A push that makes an empty queue hold something is followed by a signal. -/
theorem WakeInvariant.push {queue : DataPacketQueue α capacity} {pusher : Nat} {signals : Bool}
    (hidle : s.signaling pusher = false) (hsignals : s.queue.length = 0 → signals = true) :
    WakeInvariant exclusive
      { s with queue, signaling := update s.signaling pusher signals } where
  alone := h.alone
  wakes := by
    rintro ⟨hopen, -, hwaiting⟩
    by_cases hzero : s.queue.length = 0
    · exact .inr (.inl ⟨pusher, (update_self ..).trans (hsignals hzero)⟩)
    · rcases h.wakes ⟨hopen, Nat.pos_of_ne_zero hzero, hwaiting⟩ with
        hwake | ⟨other, hother⟩ | hreader
      · exact .inl hwake
      · refine .inr (.inl ⟨other, (update_of_ne ?_ ..).trans hother⟩)
        rintro rfl
        cases hidle.symm.trans hother
      · exact .inr (.inr hreader)

/-- A reader that leaves without a signal was not one to rely on. -/
theorem WakeInvariant.leave (hinside : s.readers reader ≠ .outside) (wake : Bool)
    (hwake : s.wake = true → wake = true)
    (hcounted : exclusive = false → s.closed = false →
      s.readers reader = .returning true ∨ s.readers reader = .popping → wake = true) :
    WakeInvariant exclusive { s.leave reader with wake } where
  alone := by
    intro hexclusive other hother
    by_cases heq : other = reader
    · subst heq
      exact absurd (update_self ..) hother
    · have hother' : s.readers other ≠ .outside := (update_of_ne heq ..).symm.trans_ne hother
      exact absurd (h.eq_of_inside hexclusive hinside hother') heq
  wakes := by
    rintro ⟨hopen, hlength, other, hother⟩
    obtain ⟨hne, hwaiting⟩ := waiting_of_setReader hother nofun
    cases hexclusive : exclusive with
    | true => exact absurd (h.eq_of_inside hexclusive hinside (by simp [hwaiting])) hne
    | false =>
      rcases h.wakes ⟨hopen, hlength, other, hwaiting⟩ with hold | hpusher | ⟨third, hthird⟩
      · exact .inl (hwake hold)
      · exact .inr (.inl hpusher)
      · by_cases heq : third = reader
        · subst heq
          exact .inl (hcounted hexclusive hopen (hthird.imp_right And.right))
        · refine .inr (.inr ⟨third, ?_⟩)
          rw [hexclusive] at hthird
          simpa [SharedQueue.leave, setReader, update_of_ne heq] using hthird

theorem WakeInvariant.step [NeZero capacity] [Inhabited α] {event : SharedQueueEvent α}
    (hstep : s.step exclusive event = some s') : WakeInvariant exclusive s' := by
  cases event with
  | pushBatch pusher items =>
    obtain ⟨hguard, ⟨⟩⟩ := ite_none_right_eq_some.mp hstep
    exact h.push hguard.1 fun hzero => decide_eq_true hzero
  | pushBatchDropNew pusher items =>
    obtain ⟨hguard, ⟨⟩⟩ := ite_none_right_eq_some.mp hstep
    refine h.push hguard.1 fun hzero => decide_eq_true ⟨hzero, ?_⟩
    have hcapacity : 0 < capacity := Nat.pos_of_neZero capacity
    have hitems := List.length_pos_iff.mpr hguard.2
    omega
  | signal pusher =>
    obtain ⟨-, ⟨⟩⟩ := ite_none_right_eq_some.mp hstep
    exact ⟨h.alone, fun _ => .inl rfl⟩
  | enter reader =>
    obtain ⟨hguard, ⟨⟩⟩ := ite_none_right_eq_some.mp hstep
    -- a reader that takes its turn finds nobody in a call
    have hnobody : exclusive = true → ∀ other, s.readers other = .outside := by
      intro hexclusive other
      by_contra hother
      cases (hguard.2 hexclusive).symm.trans (h.alone hexclusive other hother)
    refine ⟨fun hexclusive other hother => ?_, fun ⟨_, _, other, hother⟩ => ?_⟩
    · by_cases heq : other = reader
      · exact (if_pos hexclusive).trans (congrArg some heq.symm)
      · exact absurd ((update_of_ne heq ..).trans (hnobody hexclusive other)) hother
    · cases hexclusive : exclusive with
      | true =>
        have hwaiting := (waiting_of_setReader hother nofun).2
        cases (hnobody hexclusive other).symm.trans hwaiting
      | false => exact .inr (.inr ⟨reader, .inr ⟨rfl, update_self ..⟩⟩)
  | pop reader max sameRun =>
    obtain ⟨hguard, ⟨⟩⟩ := ite_none_right_eq_some.mp hstep
    refine ⟨h.alone_setReader (by simp [hguard]), fun ⟨_, hlength, _⟩ =>
      .inr (.inr ⟨reader, .inl ?_⟩)⟩
    refine (update_self ..).trans ?_
    rw [if_neg, decide_eq_true hlength]
    intro hnone
    have htaken := congrArg List.length ((s.queue.pop_fst max.toNat sameRun).symm.trans hnone)
    rw [List.length_take, length_contents, List.length_nil] at htaken
    rw [length_pop] at hlength
    have hbounds := s.queue.popCount_bounds max.toNat sameRun
    omega
  | finish reader =>
    simp only [SharedQueue.step] at hstep
    split at hstep
    · next hasMore hphase =>
      cases hstep
      refine h.leave (by simp [hphase]) _ (by simp_all) fun _ _ hcounted => ?_
      simp_all
    · cases hstep
  | receiveWake reader =>
    obtain ⟨hguard, ⟨⟩⟩ := ite_none_right_eq_some.mp hstep
    refine ⟨h.alone_setReader (by simp [hguard.1]), fun ⟨_, _, other, hother⟩ => ?_⟩
    obtain ⟨hne, hwaiting⟩ := waiting_of_setReader hother nofun
    cases hexclusive : exclusive with
    | true => exact absurd (h.eq_of_inside hexclusive (by simp [hguard.1]) (by simp [hwaiting])) hne
    | false => exact .inr (.inr ⟨reader, .inr ⟨rfl, update_self ..⟩⟩)
  | giveUp reader =>
    obtain ⟨hguard, ⟨⟩⟩ := ite_none_right_eq_some.mp hstep
    refine h.leave ?_ s.wake id ?_
    · rcases hguard with hwaiting | ⟨hpopping, -⟩ <;> simp_all
    · intro hshared hopen hcounted
      simp_all
  | close =>
    cases hstep
    exact ⟨h.alone, fun hwaited => by cases hwaited.1⟩
  | drain =>
    cases hstep
    refine ⟨h.alone, fun hwaited => absurd hwaited.2.1 ?_⟩
    simp [drain, length_pop, popCount]

end

end Steps

end SharedQueue

def sharedQueues (α : Type) (capacity : Nat) [NeZero capacity] [Inhabited α] (exclusive : Bool) :
    System (SharedQueue α capacity) (SharedQueueEvent α) where
  initial s := s = { queue := .newDataPacketQueueWithCapacity α capacity }
  step := SharedQueue.step exclusive

/-- **No wakeup is lost.**  Whatever the goroutines do, there is no state in which items are queued
and a reader waits while nobody is about to signal or to pop and the token is gone. -/
theorem no_lost_wakeup {α : Type} {capacity : Nat} [NeZero capacity] [Inhabited α]
    (exclusive : Bool) {s : SharedQueue α capacity}
    (h : Reachable (sharedQueues α capacity exclusive) s) (hwaited : s.Waited) :
    s.WillWake exclusive := by
  refine (h.invariant (P := SharedQueue.WakeInvariant exclusive) ?_ ?_).wakes hwaited
  · rintro s rfl
    exact ⟨fun _ _ hinside => absurd rfl hinside, fun hwaited => absurd hwaited.2.1 (lt_irrefl 0)⟩
  · intro s event s' hs _ hstep
    exact hs.step hstep

/-- One reader waits, and a batch has been pushed whose signal is still to come. -/
theorem no_lost_wakeup_pushed : ∃ s : SharedQueue Nat 2,
    Reachable (sharedQueues Nat 2 false) s ∧ s.Waited ∧ s.wake = false ∧ s.WillWake false := by
  have h : Reachable (sharedQueues Nat 2 false) _ := reachableBy_of_runFrom (.start rfl)
    (rfl : runFrom _ _ _ [.enter 0, .pop 0 0 none, .pushBatch 1 [7]] = some _)
  suffices hwaited : SharedQueue.Waited _ from
    ⟨_, h, hwaited, rfl, no_lost_wakeup false h hwaited⟩
  exact ⟨rfl, Nat.one_pos, 0, rfl⟩

end SingOpenVPN
