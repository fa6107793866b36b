import SingOpenVPN.ControlStream

/-!
# Reading control records (`readControlChannelRecord`)

The reader of control messages takes a snapshot of the primary stream, blocks on
its TLS connection until a record arrives or the poll interval ends, and then asks
whether the stream is still current.  Soft resets begin, complete and fail in
between.  A record that is not current any more has left the TLS stream and is
dropped.

For the records of a key state, what was returned, what the reader holds and what is
still unread make up what the peer sent (`Conserved`).  A record of the primary key
state is dropped exactly when the reader asks while a handover is pending; then
the handover may still fail, and the key state stay primary.

Errors are left out: after a timeout the callers read again, after any other error
they stop.
-/

namespace SingOpenVPN

open TransitionSystem

inductive ReaderPhase where
  /-- before `snapshot` -/
  | idle
  /-- in `readTLSControlRecord`, on the connection of a channel -/
  | reading (channel : ObjectID) (sequence : Nat)
  /-- before `isCurrent`, with a record in hand -/
  | checking (sequence : Nat) (record : Bytes)
deriving DecidableEq

/-- A session with its reader.  `unread` is what waits in the TLS stream of a channel,
    `sent` everything the peer ever sent on it; `returned` is what the reader returned, with
    the sequence it came from. -/
structure ReaderSession where
  session : KeySession
  phase : ReaderPhase
  sent : ObjectID → List Bytes
  unread : ObjectID → List Bytes
  returned : List (Nat × Bytes)

inductive ReaderEvent where
  | key (event : KeyEvent)
  /-- a record of the peer arrives on a channel -/
  | arrive (channel : ObjectID) (record : Bytes)
  | snapshot
  /-- `readTLSControlRecord` returns a record -/
  | take
  /-- `readTLSControlRecord` runs into its deadline -/
  | timeout
  /-- `isCurrent`, and the return or the next round -/
  | check
deriving DecidableEq

variable (s : ReaderSession)

namespace ReaderSession

def step : ReaderEvent → Option ReaderSession
  | .key event => (s.session.step event).map fun session => { s with session := session }
  | .arrive channel record =>
    some { s with
      sent := Function.update s.sent channel (s.sent channel ++ [record])
      unread := Function.update s.unread channel (s.unread channel ++ [record]) }
  | .snapshot =>
    match s.phase with
    | .idle =>
      match s.session.controlStream.snapshot with
      | none => some s
      | some (channel, sequence) => some { s with phase := .reading channel sequence }
    | _ => none
  | .take =>
    match s.phase with
    | .reading channel sequence =>
      match s.unread channel with
      | [] => none
      | record :: rest =>
        some { s with
          phase := .checking sequence record
          unread := Function.update s.unread channel rest }
    | _ => none
  | .timeout =>
    match s.phase with
    | .reading _ _ => some { s with phase := .idle }
    | _ => none
  | .check =>
    match s.phase with
    | .checking sequence record =>
      if s.session.controlStream.isCurrent sequence then
        some { s with phase := .idle, returned := s.returned ++ [(sequence, record)] }
      else some { s with phase := .idle }
    | _ => none

/-- What the reader does next if nothing else happens: it takes a record if there is one. -/
def nextEvent : ReaderEvent :=
  match s.phase with
  | .idle => .snapshot
  | .reading channel _ => if s.unread channel = [] then .timeout else .take
  | .checking _ _ => .check

def readOn : ReaderSession := (s.step s.nextEvent).getD s

def returnedOn (sequence : Nat) : List Bytes :=
  s.returned.filterMap fun entry => if entry.1 = sequence then some entry.2 else none

/-- The record of a key state that the reader has taken and not yet judged. -/
def held (sequence : Nat) : List Bytes :=
  match s.phase with
  | .checking taken record => if taken = sequence then [record] else []
  | _ => []

end ReaderSession

def readerSystem : System ReaderSession ReaderEvent where
  initial s := ∃ session, keySystem.initial session ∧
    s = ⟨session, .idle, fun _ => [], fun _ => [], []⟩
  step := ReaderSession.step

namespace ReaderSession

/-! ### Conservation of records -/

/-- Every record sent on a key state was returned, is held or is unread, in that order. -/
def Conserved (sequence : Nat) : Prop :=
  s.returnedOn sequence ++ s.held sequence ++ s.unread sequence = s.sent sequence

/-- The reader never looks ahead of the promoted key state, and from that key state on
    no record is lost. -/
structure Invariant (s : ReaderSession) : Prop where
  consistent : s.session.Consistent
  fits : s.session.StreamFits
  reading : ∀ channel sequence, s.phase = .reading channel sequence →
    channel = sequence ∧ sequence ≤ s.session.promotedKeyStateSequence
  checking : ∀ sequence record, s.phase = .checking sequence record →
    sequence ≤ s.session.promotedKeyStateSequence
  conserved : ∀ sequence, s.session.promotedKeyStateSequence ≤ sequence → s.Conserved sequence

/-- The condition under which no record is lost: no handover is pending when the reader
    asks whether its record is current. -/
def ChecksWithoutHandover (event : ReaderEvent) : Prop :=
  event = .check → s.session.controlStream.handover = 0

instance (s : ReaderSession) (event : ReaderEvent) : Decidable (ChecksWithoutHandover s event) :=
  inferInstanceAs (Decidable (_ → _))

section Steps

variable {s s' : ReaderSession}

theorem held_of_phase {sequence : Nat} (hphase : ∀ taken record, s.phase ≠ .checking taken record) :
    s.held sequence = [] := by
  unfold held
  split
  · next taken record heq => exact absurd heq (hphase taken record)
  · rfl

section

variable (h : s.Invariant)

include h

theorem Invariant.key {event : KeyEvent} (hstep : s.step (.key event) = some s') :
    s'.Invariant := by
  obtain ⟨session, hsession, rfl⟩ := Option.map_eq_some_iff.mp hstep
  have hle := h.consistent.promoted_le_step hsession
  constructor
  · exact (h.consistent.step hsession).1
  · exact h.fits.step h.consistent hsession
  · intro channel sequence hphase
    obtain ⟨hsame, hbound⟩ := h.reading channel sequence hphase
    exact ⟨hsame, hbound.trans hle⟩
  · intro sequence record hphase
    exact (h.checking sequence record hphase).trans hle
  · intro sequence hsequence
    exact h.conserved sequence (hle.trans hsequence)

theorem Invariant.arrive {channel : ObjectID} {record : Bytes}
    (hstep : s.step (.arrive channel record) = some s') : s'.Invariant := by
  cases hstep
  refine ⟨h.consistent, h.fits, h.reading, h.checking, fun sequence hsequence => ?_⟩
  have hold := h.conserved sequence hsequence
  unfold Conserved at hold ⊢
  by_cases heq : sequence = channel
  · subst heq
    simp only [Function.update_self, ← hold, List.append_assoc]
    rfl
  · simp only [Function.update_of_ne heq, ← hold]
    rfl

theorem Invariant.snapshot (hstep : s.step .snapshot = some s') : s'.Invariant := by
  simp only [step] at hstep
  split at hstep
  next hidle =>
    split at hstep
    · cases hstep
      exact h
    · next channel sequence hsnapshot =>
      cases hstep
      have hnone : s.session.controlStream.handover = 0 := by
        by_contra hne
        rw [PrimaryControlStream.snapshot, if_pos (.inl hne)] at hsnapshot
        cases hsnapshot
      rw [h.fits.snapshot_eq hnone] at hsnapshot
      cases hsnapshot
      refine ⟨h.consistent, h.fits, ?_, ?_, fun sequence hsequence => ?_⟩
      · intro channel sequence hphase
        cases hphase
        exact ⟨rfl, le_refl _⟩
      · intro sequence record hphase
        cases hphase
      · have hold := h.conserved sequence hsequence
        unfold Conserved at hold ⊢
        rw [held_of_phase (by simp [hidle])] at hold
        exact hold
  · cases hstep

theorem Invariant.take (hstep : s.step .take = some s') : s'.Invariant := by
  simp only [step] at hstep
  split at hstep
  next channel sequence hreading =>
    split at hstep
    · cases hstep
    · next record rest hunread =>
      cases hstep
      obtain ⟨rfl, hbound⟩ := h.reading channel sequence hreading
      refine ⟨h.consistent, h.fits, nofun, ?_, fun other hother => ?_⟩
      · intro sequence record hphase
        cases hphase
        exact hbound
      · have hold := h.conserved other hother
        unfold Conserved at hold ⊢
        rw [held_of_phase (by simp [hreading]), List.append_nil] at hold
        rw [← hold]
        by_cases heq : other = channel
        · -- the record moves from the stream into the hands of the reader
          subst heq
          simp [held, returnedOn, hunread]
        · simp [held, returnedOn, heq, Ne.symm heq]
  · cases hstep

theorem Invariant.timeout (hstep : s.step .timeout = some s') : s'.Invariant := by
  simp only [step] at hstep
  split at hstep
  next channel sequence hreading =>
    cases hstep
    refine ⟨h.consistent, h.fits, nofun, nofun, fun other hother => ?_⟩
    have hold := h.conserved other hother
    unfold Conserved at hold ⊢
    rw [held_of_phase (by simp [hreading])] at hold
    exact hold
  · cases hstep

/-- Without a handover, the reader drops records of older key states only. -/
theorem Invariant.check (hnone : s.session.controlStream.handover = 0)
    (hstep : s.step .check = some s') : s'.Invariant := by
  simp only [step] at hstep
  split at hstep
  next taken record hchecking =>
    have hbound := h.checking taken record hchecking
    split at hstep
    · next hcurrent =>
      cases hstep
      refine ⟨h.consistent, h.fits, nofun, nofun, fun other hother => ?_⟩
      have hold := h.conserved other hother
      unfold Conserved at hold ⊢
      rw [← hold]
      by_cases heq : taken = other
      · simp [held, returnedOn, hchecking, heq]
      · simp [held, returnedOn, hchecking, heq]
    · next hstale =>
      cases hstep
      refine ⟨h.consistent, h.fits, nofun, nofun, fun other hother => ?_⟩
      have hold := h.conserved other hother
      have hne : taken ≠ other := by
        rintro rfl
        exact hstale ((h.fits.isCurrent_iff taken).mpr ⟨hnone, le_antisymm hother hbound⟩)
      unfold Conserved at hold ⊢
      rw [← hold]
      simp [held, returnedOn, hchecking, hne]
  · cases hstep

theorem Invariant.step {event : ReaderEvent} (hcondition : ChecksWithoutHandover s event)
    (hstep : s.step event = some s') : s'.Invariant := by
  cases event with
  | key event => exact h.key hstep
  | arrive channel record => exact h.arrive hstep
  | snapshot => exact h.snapshot hstep
  | take => exact h.take hstep
  | timeout => exact h.timeout hstep
  | check => exact h.check (hcondition rfl) hstep

end

end Steps

theorem invariant_of_reachableBy {s : ReaderSession}
    (h : ReachableBy readerSystem ChecksWithoutHandover s) : s.Invariant := by
  apply h.invariant
  · rintro state ⟨session, hinitial, rfl⟩
    have hstart : Reachable keySystem session := .start hinitial
    obtain ⟨hconsistent, hfits⟩ := KeySession.streamFits_of_reachable hstart
    refine ⟨hconsistent, hfits, ?_, ?_, fun sequence _ => rfl⟩
    · intro channel sequence hphase
      cases hphase
    · intro sequence record hphase
      cases hphase
  · intro state event state' hinvariant hcondition hnext
    exact hinvariant.step hcondition hnext

/-! ### The reader gets through -/

/-- The steps the reader needs, at most, to return what is left of a key state. -/
def remaining (primary : Nat) : Nat :=
  match s.phase with
  | .idle => 3 * (s.unread primary).length
  | .reading _ sequence =>
    if sequence = primary then 3 * (s.unread primary).length - 1
    else 3 * (s.unread primary).length + 2
  | .checking _ _ => 3 * (s.unread primary).length + 1

section Progress

variable {s : ReaderSession}

theorem Invariant.readOn (h : s.Invariant) (hnone : s.session.controlStream.handover = 0) :
    s.readOn.Invariant ∧ s.readOn.session = s.session ∧ s.readOn.sent = s.sent ∧
      s.readOn.remaining s.session.promotedKeyStateSequence ≤
        s.remaining s.session.promotedKeyStateSequence - 1 := by
  have hkept : s.readOn.Invariant := by
    unfold ReaderSession.readOn
    cases hstep : s.step s.nextEvent with
    | none => exact h
    | some s' => exact h.step (fun _ => hnone) hstep
  refine ⟨hkept, ?_⟩
  have hsnapshot := h.fits.snapshot_eq hnone
  cases hphase : s.phase with
  | idle =>
    simp only [ReaderSession.readOn, nextEvent, hphase, ReaderSession.step, hsnapshot,
      Option.getD_some, remaining]
    simp
  | reading channel sequence =>
    obtain ⟨rfl, -⟩ := h.reading channel sequence hphase
    cases hunread : s.unread channel with
    | nil =>
      simp only [ReaderSession.readOn, nextEvent, hphase, ReaderSession.step, hunread, if_true,
        Option.getD_some, remaining]
      refine ⟨trivial, trivial, ?_⟩
      split
      · next heq =>
        rw [← heq, hunread]
        simp
      · omega
    | cons record rest =>
      simp only [ReaderSession.readOn, nextEvent, hphase, ReaderSession.step, hunread,
        reduceCtorEq, if_false, Option.getD_some, remaining]
      refine ⟨trivial, trivial, ?_⟩
      split
      · next heq =>
        rw [← heq, Function.update_self, hunread, List.length_cons]
        omega
      · next hne =>
        rw [Function.update_of_ne (Ne.symm hne)]
        omega
  | checking sequence record =>
    simp only [ReaderSession.readOn, nextEvent, hphase, ReaderSession.step, remaining]
    split
    · simp
    · simp

/-- `remaining` bounds the number of steps; the run keeps session and history. -/
theorem Invariant.iterate_readOn (h : s.Invariant) (hnone : s.session.controlStream.handover = 0)
    (n : Nat) :
    (ReaderSession.readOn^[n] s).Invariant ∧ (ReaderSession.readOn^[n] s).session = s.session ∧
      (ReaderSession.readOn^[n] s).sent = s.sent ∧
      (ReaderSession.readOn^[n] s).remaining s.session.promotedKeyStateSequence ≤
        s.remaining s.session.promotedKeyStateSequence - n := by
  induction n with
  | zero => exact ⟨h, rfl, rfl, le_refl _⟩
  | succ n ih =>
    rw [Function.iterate_succ_apply']
    obtain ⟨hkept, hsession, hsent, hremaining⟩ := ih
    obtain ⟨hkept', hsession', hsent', hremaining'⟩ := hkept.readOn (by rw [hsession]; exact hnone)
    rw [hsession] at hremaining'
    exact ⟨hkept', hsession'.trans hsession, hsent'.trans hsent, by omega⟩

theorem remaining_le (primary : Nat) :
    s.remaining primary ≤ 3 * (s.unread primary).length + 2 := by
  unfold remaining
  split
  · omega
  · split
    · omega
    · omega
  · omega

theorem Invariant.returnedOn_eq (h : s.Invariant)
    (hdone : s.remaining s.session.promotedKeyStateSequence = 0) :
    s.returnedOn s.session.promotedKeyStateSequence =
      s.sent s.session.promotedKeyStateSequence := by
  have hconserved := h.conserved _ (le_refl _)
  unfold remaining at hdone
  split at hdone
  · next hphase =>
    have hempty : s.unread s.session.promotedKeyStateSequence = [] :=
      List.eq_nil_of_length_eq_zero (by omega)
    rw [Conserved, held_of_phase (by simp [hphase]), hempty] at hconserved
    simpa using hconserved
  · next channel sequence hphase =>
    split at hdone
    · have hempty : s.unread s.session.promotedKeyStateSequence = [] :=
        List.eq_nil_of_length_eq_zero (by omega)
      rw [Conserved, held_of_phase (by simp [hphase]), hempty] at hconserved
      simpa using hconserved
    · omega
  · omega

end Progress

end ReaderSession

open ReaderSession

/-- **Records of the primary key state.**  In a run in which no handover is pending when
    the reader asks whether its record is current, whatever soft resets begin, fail or
    complete in between: the records of the key state that is primary were returned in
    order and once each, up to those the reader holds and those unread; and as soon as no
    handover is pending, a reader that goes on returns them all. -/
theorem control_records_returned {s : ReaderSession}
    (h : ReachableBy readerSystem ChecksWithoutHandover s) :
    s.Conserved s.session.controlStream.sequence ∧
    (s.session.controlStream.handover = 0 →
      ∀ n ≥ 3 * (s.unread s.session.controlStream.sequence).length + 2,
        (ReaderSession.readOn^[n] s).returnedOn s.session.controlStream.sequence =
          s.sent s.session.controlStream.sequence) := by
  have hinvariant := invariant_of_reachableBy h
  rw [hinvariant.fits.sequence]
  refine ⟨hinvariant.conserved _ (le_refl _), fun hnone n hn => ?_⟩
  obtain ⟨hkept, hsession, hsent, hremaining⟩ := hinvariant.iterate_readOn hnone n
  have hbound := s.remaining_le s.session.promotedKeyStateSequence
  have hall := hkept.returnedOn_eq (by rw [hsession]; omega)
  rw [hsession, hsent] at hall
  exact hall

def zeroReaderSession : ReaderSession :=
  ⟨zeroServerSession, .idle, fun _ => [], fun _ => [], []⟩

theorem readerSystem_initial_zeroReaderSession : readerSystem.initial zeroReaderSession :=
  ⟨zeroServerSession, keySystem_initial_zeroServerSession, rfl⟩

/-- One record arrives before and one during the handover to a key state that then fails;
    the reader returns both afterwards. -/
theorem control_records_returned_after_failure :
    ∃ s, ReachableBy readerSystem ChecksWithoutHandover s ∧
      s.session.controlStream.sequence = 0 ∧ s.session.controlStream.handover = 0 ∧
      s.session.status 1 = some .failed ∧ s.sent 0 = [[1], [2]] ∧
      (ReaderSession.readOn^[8] s).returnedOn 0 = [[1], [2]] := by
  obtain ⟨s, hreachable, hsequence, hnone, hfailed, hsent, hunread⟩ :
      ∃ s, ReachableBy readerSystem ChecksWithoutHandover s ∧
        s.session.controlStream.sequence = 0 ∧ s.session.controlStream.handover = 0 ∧
        s.session.status 1 = some .failed ∧ s.sent 0 = [[1], [2]] ∧ (s.unread 0).length = 2 :=
    exists_reachableBy readerSystem_initial_zeroReaderSession
      [.key .installInitial, .arrive 0 [1], .key (.remoteBegin 1 0), .arrive 0 [2], .snapshot,
        .key (.finish 1 false none 0 0 0)] (by decide +kernel)
  refine ⟨s, hreachable, hsequence, hnone, hfailed, hsent, ?_⟩
  have hall := (control_records_returned hreachable).2 hnone 8
  rw [hsequence, hunread, hsent] at hall
  exact hall (by decide)

/-- A record arrives, a soft reset begins before the reader has asked whether the record
    is current, and the negotiation fails: the key state is still the primary one, nothing
    negotiates, and the record is neither returned nor to be read. -/
theorem control_record_lost :
    ∃ s, Reachable readerSystem s ∧ s.session.promotions = [] ∧
      s.session.controlStream.handover = 0 ∧ s.session.controlStream.sequence = 0 ∧
      s.session.renegotiationSequence = 1 ∧ s.session.status 1 = some .failed ∧
      s.sent 0 = [[1]] ∧ s.unread 0 = [] ∧ s.phase = .idle ∧ s.returned = [] :=
  exists_reachableBy readerSystem_initial_zeroReaderSession
    [.key .installInitial, .snapshot, .arrive 0 [1], .take, .key (.remoteBegin 1 0), .check,
      .key (.finish 1 false none 0 0 0)] (by decide +kernel)

end SingOpenVPN
