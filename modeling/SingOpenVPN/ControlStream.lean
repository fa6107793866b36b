import SingOpenVPN.KeyStateInvariant

/-!
# Handing the control stream over (`control_stream.go`)

Control messages travel on the TLS stream of the primary key state.  A soft reset
begins a handover to the key state it creates: until that key state is promoted
or given up, nobody reads or writes.  Negotiations overlap, so a handover may
be overridden by a newer one, skipped by an older promotion or aborted by the
shutdown of the session.

What keeps the stream from getting stuck is that the pending handover names a
tracked key state whose negotiation has not returned (`Pending`): whoever takes
such a key state out of the table also ends its handover.
-/

namespace SingOpenVPN

open TransitionSystem Option PrimaryControlStream

namespace PrimaryControlStream

variable (stream : PrimaryControlStream)

/-- `snapshot`: the channel to read and write and its sequence, if there is one now.
    An installed channel has its TLS connection. -/
def snapshot : Option (ObjectID × Nat) :=
  if stream.handover ≠ 0 ∨ stream.installed = false then none
  else stream.channel.map fun channel => (channel, stream.sequence)

def isCurrent (sequence : Nat) : Bool :=
  stream.handover = 0 ∧ stream.installed ∧ stream.sequence = sequence

theorem handover_beginHandover (sequence : Nat) :
    (stream.beginHandover sequence).handover = stream.handover ∨
      (stream.beginHandover sequence).handover = sequence := by
  unfold beginHandover
  split
  · exact .inl rfl
  · exact .inr rfl

theorem beginHandover_eq (sequence : Nat) :
    stream.beginHandover sequence =
      { stream with handover := (stream.beginHandover sequence).handover } := by
  unfold beginHandover
  split
  · rfl
  · rfl

variable {stream : PrimaryControlStream} {sequence : Nat}

theorem install_of_lt {channel : ObjectID} (hnewer : stream.sequence < sequence) :
    stream.install channel sequence = {
      channel := some channel
      sequence := sequence
      handover := if stream.handover ≤ sequence then 0 else stream.handover
      installed := true } := by
  unfold install
  rw [if_neg]
  rintro ⟨-, hlt⟩
  exact lt_asymm hnewer hlt

end PrimaryControlStream

namespace KeySession

/-! ### Pending negotiations -/

def Pending (s : KeySession) (id : Nat) : Prop :=
  ∃ state, s.states id = some state ∧ state.finished = false ∧
    s.renegotiations.lookup state.keyID = some id

/-- The control stream is the one of the promoted key state, and its handover is to a
    pending negotiation.  Only shutdown leaves key states to be failed. -/
structure StreamFits (s : KeySession) : Prop where
  channel : s.controlStream.channel = some s.promotedKeyStateSequence
  sequence : s.controlStream.sequence = s.promotedKeyStateSequence
  installed : s.controlStream.installed = true
  handover : s.controlStream.handover ≠ 0 → s.Pending s.controlStream.handover
  failing : s.failing ≠ [] → s.shutDown = true

/-- Nothing happens to the control stream and no pending negotiation ends. -/
structure StreamFrame (s s' : KeySession) : Prop where
  controlStream : s'.controlStream = s.controlStream
  promoted : s'.promotedKeyStateSequence = s.promotedKeyStateSequence
  pending : ∀ id, s.Pending id → s'.Pending id
  failing : s'.failing = s.failing
  shutDown : s'.shutDown = s.shutDown

theorem StreamFrame.refl (s : KeySession) : StreamFrame s s :=
  ⟨rfl, rfl, fun _ hpending => hpending, rfl, rfl⟩

theorem StreamFrame.trans {s s' s'' : KeySession} (h : StreamFrame s s') (h' : StreamFrame s' s'') :
    StreamFrame s s'' where
  controlStream := h'.controlStream.trans h.controlStream
  promoted := h'.promoted.trans h.promoted
  pending := fun id hpending => h'.pending id (h.pending id hpending)
  failing := h'.failing.trans h.failing
  shutDown := h'.shutDown.trans h.shutDown

section

variable {s s' : KeySession} (h : s.StreamFits)

include h

theorem StreamFits.withHandover
    (hstream : s'.controlStream =
      { s.controlStream with handover := s'.controlStream.handover })
    (hpromoted : s'.promotedKeyStateSequence = s.promotedKeyStateSequence)
    (hhandover : s'.controlStream.handover ≠ 0 → s'.Pending s'.controlStream.handover)
    (hfailing : s'.failing ≠ [] → s'.shutDown = true) : s'.StreamFits := by
  refine ⟨?_, ?_, ?_, hhandover, hfailing⟩
  · rw [hstream, hpromoted]
    exact h.channel
  · rw [hstream, hpromoted]
    exact h.sequence
  · rw [hstream]
    exact h.installed

theorem StreamFits.frame (hframe : StreamFrame s s') : s'.StreamFits := by
  refine h.withHandover (by rw [hframe.controlStream]) hframe.promoted ?_ ?_
  · rw [hframe.controlStream]
    exact fun hne => hframe.pending _ (h.handover hne)
  · rw [hframe.failing, hframe.shutDown]
    exact h.failing

end

section Operations

variable {s : KeySession} {id : Nat} {state : RenegotiationState}

theorem Pending.negotiating (h : s.Consistent) (hpending : s.Pending id) :
    s.status id = some .negotiating := by
  obtain ⟨state, hstate, hunfinished, -⟩ := hpending
  rw [status, hstate, map_some, (h.heap id state hstate).pending hunfinished]

theorem not_pending_of_status (h : s.Consistent) (hstatus : s.status id ≠ some .negotiating) :
    ¬ s.Pending id := by
  intro hpending
  exact hstatus (hpending.negotiating h)

/-- Writing a key state ends no other negotiation, and its own only if it says so. -/
theorem Pending.modifyState {change : RenegotiationState → RenegotiationState} {other : Nat}
    (hpending : s.Pending other)
    (hchange : other = id → ∀ state, (change state).finished = state.finished ∧
      (change state).keyID = state.keyID) :
    (s.modifyState id change).Pending other := by
  obtain ⟨state, hstate, hunfinished, hlookup⟩ := hpending
  by_cases heq : other = id
  · obtain ⟨hfinished, hkeyID⟩ := hchange heq state
    refine ⟨change state, ?_, hfinished.trans hunfinished, ?_⟩
    · rw [states_modifyState, if_pos heq, ← heq, hstate, map_some]
    · rw [hkeyID]
      exact hlookup
  · refine ⟨state, ?_, hunfinished, hlookup⟩
    rw [states_modifyState, if_neg heq, hstate]

theorem streamFrame_removeRenegotiationLocked (hnot : ¬ s.Pending id) :
    StreamFrame s (s.removeRenegotiationLocked id) := by
  unfold removeRenegotiationLocked
  split
  · exact .refl s
  next state hstate =>
  split
  · exact .refl s
  next htracked =>
  refine ⟨rfl, rfl, ?_, rfl, rfl⟩
  rintro other ⟨state', hstate', hunfinished, hlookup⟩
  refine ⟨state', hstate', hunfinished, ?_⟩
  rw [AList.lookup_erase_ne, hlookup]
  -- the entry that goes is the one of `id`
  intro hsame
  rw [hsame, not_not.mp htracked, Option.some.injEq] at hlookup
  subst hlookup
  exact hnot ⟨state', hstate', hunfinished, by rw [hsame]; exact not_not.mp htracked⟩

theorem streamFrame_foldl_removeRenegotiationLocked (s : KeySession) (ids : List Nat)
    (hfinished : ∀ id ∈ ids, ∀ state, s.states id = some state → state.finished = true) :
    StreamFrame s (ids.foldl removeRenegotiationLocked s) := by
  induction ids generalizing s with
  | nil => exact .refl s
  | cons id ids ih =>
    have hnot : ¬ s.Pending id := by
      rintro ⟨state, hstate, hunfinished, -⟩
      rw [hfinished id List.mem_cons_self state hstate] at hunfinished
      cases hunfinished
    refine (streamFrame_removeRenegotiationLocked hnot).trans (ih _ ?_)
    intro other hother state hstate
    apply hfinished other (List.mem_cons_of_mem _ hother) state
    rwa [states_removeRenegotiationLocked] at hstate

theorem streamFrame_pruneRenegotiationsLocked (h : s.Consistent) (now : Time) :
    StreamFrame s (s.pruneRenegotiationsLocked now) := by
  apply streamFrame_foldl_removeRenegotiationLocked
  intro id hid state hstate
  by_contra hunfinished
  have hnegotiating := (h.heap id state hstate).pending (by simpa using hunfinished)
  rcases List.mem_append.mp hid with hexpired | htaken
  · obtain ⟨state', hstate', hretired⟩ := exists_of_mem_filter_any hexpired
    obtain rfl : state = state' := Option.some.inj (hstate.symm.trans hstate')
    refine status_ne_negotiating_of_retiring hstate (of_decide_eq_true hretired).1 ?_
    rw [status, hstate, map_some, hnegotiating]
  · have hcompleted := (List.mem_insertionSort _).mp (List.mem_of_mem_take htaken)
    obtain ⟨state', hstate', hcollected⟩ := exists_of_mem_filter_any hcompleted
    obtain rfl : state = state' := Option.some.inj (hstate.symm.trans hstate')
    obtain ⟨-, hactive | hretiring⟩ := of_decide_eq_true hcollected
    · rw [hnegotiating] at hactive
      cases hactive
    · refine status_ne_negotiating_of_retiring hstate hretiring ?_
      rw [status, hstate, map_some, hnegotiating]

/-! ### What the operations do to the stream -/

/-- The key state a soft reset creates is pending, and the handover is to it unless the
    stream has moved further. -/
theorem StreamFits.createState (h : s.StreamFits) (hc : s.Consistent) {keyID : UInt8}
    (hfree : s.renegotiations.lookup keyID = none) (initiator : Bool) (now : Time) :
    (s.createState keyID initiator now).2.StreamFits := by
  have hchannel : (s.renegotiationChannels.lookup keyID).isSome = false := by
    rw [hc.channels, hfree]
    rfl
  unfold KeySession.createState
  simp only [hchannel, Bool.false_eq_true, if_false]
  rw [beginHandover_eq]
  refine ⟨h.channel, h.sequence, h.installed, fun hne => ?_, h.failing⟩
  rcases s.controlStream.handover_beginHandover (s.renegotiationSequence + 1) with hsame | hnew
  · rw [hsame] at hne ⊢
    obtain ⟨state, hstate, hunfinished, hlookup⟩ := h.handover hne
    refine ⟨state, ?_, hunfinished, ?_⟩
    · have hle := ((hc.created _).mp (isSome_of_eq_some hstate)).2
      dsimp only
      rw [Function.update_of_ne (by omega), hstate]
    · rw [AList.lookup_insert_ne, hlookup]
      rintro rfl
      rw [hfree] at hlookup
      cases hlookup
  · rw [hnew]
    refine ⟨s.newState keyID initiator now, Function.update_self .., rfl, ?_⟩
    exact AList.lookup_insert ..

theorem StreamFits.beginSoftReset (h : s.StreamFits) (hc : s.Consistent) (keyID : UInt8)
    (initiator : Bool) (now : Time) : (s.beginSoftReset keyID initiator now).2.StreamFits := by
  rcases beginSoftReset_cases hc keyID initiator now with heq | ⟨free, hfree, -, hlookup, -, heq⟩
  · rw [heq]
    exact h
  rw [heq]
  rcases hfree with rfl | ⟨existing, hne, hstatus, rfl⟩
  · exact h.createState hc hlookup initiator now
  · have hframe := streamFrame_removeRenegotiationLocked (not_pending_of_status hc hstatus)
    exact (h.frame hframe).createState (hc.removeRenegotiationLocked fun _ => hne) hlookup
      initiator now

theorem StreamFits.abort (h : s.StreamFits) (id : Nat) {s' : KeySession}
    (hstream : s'.controlStream = s.controlStream.abortHandover id)
    (hpromoted : s'.promotedKeyStateSequence = s.promotedKeyStateSequence)
    (hpending : ∀ other, other ≠ id → s.Pending other → s'.Pending other)
    (hfailing : s'.failing = s.failing) (hdown : s'.shutDown = s.shutDown) : s'.StreamFits := by
  refine h.withHandover (hstream ▸ abortHandover_eq ..) hpromoted (fun hne => ?_) ?_
  · rw [hstream] at hne ⊢
    obtain ⟨hsame, hother⟩ := handover_abortHandover hne
    rw [hsame] at hne ⊢
    exact hpending _ hother (h.handover hne)
  · rw [hfailing, hdown]
    exact h.failing

theorem StreamFits.failSoftReset (h : s.StreamFits) (hc : s.Consistent)
    (hstate : s.states id = some state) (err : SoftResetError) :
    (s.failSoftReset id state err).StreamFits := by
  have hfailed : (s.failedSession id state err).StreamFits := by
    refine h.abort id ?_ rfl (fun other hother hpending => ?_) rfl rfl
    · rw [KeySession.failedSession, (hc.heap id state hstate).sequence]
      rfl
    · obtain ⟨old, hold, hunfinished, hlookup⟩ := hpending
      exact Pending.modifyState (s := { s with keys := _, controlStream := _ })
        ⟨old, hold, hunfinished, hlookup⟩ fun heq => absurd heq hother
  rw [failSoftReset_eq]
  split
  · refine hfailed.frame (streamFrame_removeRenegotiationLocked ?_)
    rintro ⟨state', hstate', hunfinished, -⟩
    rw [failedSession, states_modifyState, if_pos rfl] at hstate'
    obtain ⟨old, -, rfl⟩ := map_eq_some_iff.mp hstate'
    cases hunfinished
  · exact hfailed

/-- A key state that completes leaves the stream to a newer one, or has it installed. -/
theorem StreamFits.completeSoftReset (h : s.StreamFits) (hc : s.Consistent)
    (hstate : s.states id = some state) (hunfinished : state.finished = false)
    (htracked : s.renegotiations.lookup state.keyID = some id) (now installNow pruneNow : Time) :
    (s.completeSoftReset id state id now installNow pruneNow).2.StreamFits := by
  rcases lt_or_ge s.promotedKeyStateSequence id with hnewer | holder
  · rw [completeSoftReset_of_lt hstate hnewer]
    have hkept := (hc.takeoverSession hstate htracked hnewer now installNow).1
    refine StreamFits.frame ?_ (streamFrame_pruneRenegotiationsLocked hkept pruneNow)
    obtain ⟨states, hretired, hstates⟩ := retireOthers_eq s id now
    unfold takeoverSession
    rw [install_of_lt (h.sequence ▸ hnewer), hretired]
    refine ⟨?_, rfl, rfl, fun hne => ?_, h.failing⟩
    · rw [(hc.heap id state hstate).channel]
    · split at hne
      · exact absurd rfl hne
      next hover =>
      rw [if_neg hover]
      obtain ⟨other, hother, hpending, hlookup⟩ := h.handover hne
      refine ⟨other, ?_, hpending, hlookup⟩
      have hnegotiating := (hc.heap _ other hother).pending hpending
      dsimp only
      rw [Function.update_of_ne (by omega), hstates, if_neg, hother]
      rintro ⟨-, -, hactive⟩
      rw [status, hother, map_some, hnegotiating] at hactive
      cases hactive
  · rw [completeSoftReset_of_le holder]
    have hkept := (hc.overtakenSession hstate hunfinished holder now installNow).1
    refine StreamFits.frame ?_ (streamFrame_pruneRenegotiationsLocked hkept pruneNow)
    refine h.abort id rfl rfl (fun other hother hpending => ?_) rfl rfl
    exact hpending.modifyState fun heq => absurd heq hother

theorem StreamFits.failAllRenegotiations (h : s.StreamFits) (hc : s.Consistent) :
    s.failAllRenegotiations.StreamFits := by
  have hdrained := drained_foldl_drainKeyState hc s.tracked
  refine h.withHandover hdrained.stream ?_ (fun hne => ?_) fun _ => rfl
  · rw [KeySession.failAllRenegotiations, hdrained.frame]
  · obtain ⟨heq, hnotMem⟩ := hdrained.handover hne
    obtain ⟨state, -, -, hlookup⟩ := h.handover (heq ▸ hne)
    exact absurd (mem_tracked.mpr ⟨_, hlookup⟩) hnotMem

/-- After shutdown the table is empty, so there is no handover that could lose its key
    state. -/
theorem StreamFits.failNext (h : s.StreamFits) (hc : s.Consistent) {rest : List Nat}
    (hfailing : s.failing = id :: rest) : ({ s with failing := rest }.failState id).StreamFits := by
  have hdown : s.shutDown = true := h.failing (by simp [hfailing])
  have hnone : s.controlStream.handover = 0 := by
    by_contra hne
    obtain ⟨state, -, -, hlookup⟩ := h.handover hne
    rw [(hc.closed hdown).2] at hlookup
    cases hlookup
  rcases failState_cases { s with failing := rest } id with heq | ⟨state, -, -, heq⟩
  · rw [heq]
    exact ⟨h.channel, h.sequence, h.installed, fun hne => absurd hnone hne, fun _ => hdown⟩
  · rw [heq]
    exact ⟨h.channel, h.sequence, h.installed, fun hne => absurd hnone hne, fun _ => hdown⟩

end Operations

/-! ### Runs -/

section Runs

variable {s s' : KeySession} {event : KeyEvent}

theorem streamFrame_of_eq (hstream : s'.controlStream = s.controlStream)
    (hpromoted : s'.promotedKeyStateSequence = s.promotedKeyStateSequence)
    (hstates : s'.states = s.states) (htable : s'.renegotiations = s.renegotiations)
    (hfailing : s'.failing = s.failing) (hdown : s'.shutDown = s.shutDown) :
    StreamFrame s s' := by
  refine ⟨hstream, hpromoted, fun id hpending => ?_, hfailing, hdown⟩
  rw [Pending, hstates, htable]
  exact hpending

theorem StreamFits.step (h : s.StreamFits) (hc : s.Consistent) (hstep : s.step event = some s') :
    s'.StreamFits := by
  obtain ⟨_, -, heffect⟩ := hc.effect hstep
  cases heffect with
  | kept => exact h
  | installs | resets | selects | closes =>
    exact h.frame (streamFrame_of_eq rfl rfl rfl rfl rfl rfl)
  | @begins localResets keyID initiator now hsending =>
    have hfits : StreamFits { s with localResets } :=
      h.frame (streamFrame_of_eq rfl rfl rfl rfl rfl rfl)
    exact hfits.beginSoftReset (hc.withLocalResets hsending _) keyID initiator now
  | stages =>
    unfold stageNegotiatedReceiveKey
    split
    · exact h
    · split
      · exact h
      · exact h.frame (streamFrame_of_eq rfl rfl rfl rfl rfl rfl)
  | fails err hstate => exact h.failSoftReset hc hstate err
  | completes now installNow pruneNow hstate hunfinished htracked =>
    exact h.completeSoftReset hc hstate hunfinished htracked now installNow pruneNow
  | confirms =>
    exact h.frame ⟨rfl, rfl, fun other hpending => hpending.modifyState fun _ _ => ⟨rfl, rfl⟩,
      rfl, rfl⟩
  | expires _ hstatus =>
    exact h.frame (streamFrame_removeRenegotiationLocked (not_pending_of_status hc hstatus))
  | failsAll => exact h.failAllRenegotiations hc
  | failsNext hfailing => exact h.failNext hc hfailing

theorem streamFits_of_reachable {allowed : KeySession → KeyEvent → Prop}
    (h : ReachableBy keySystem allowed s) : s.Consistent ∧ s.StreamFits := by
  apply h.invariant
  · rintro state ⟨role, handshakeWindow, sessionManager, hkeyID, rfl⟩
    refine ⟨consistent_newKeySession role handshakeWindow hkeyID, rfl, rfl, rfl, ?_, ?_⟩
    · exact fun hne => absurd rfl hne
    · exact fun hne => absurd rfl hne
  · rintro state event state' ⟨hconsistent, hfits⟩ - hnext
    exact ⟨(hconsistent.step hnext).1, hfits.step hconsistent hnext⟩

theorem Consistent.promoted_le_step (h : s.Consistent) (hstep : s.step event = some s') :
    s.promotedKeyStateSequence ≤ s'.promotedKeyStateSequence := by
  obtain ⟨hkept, -, ⟨-, hsame, -⟩ | ⟨id, state, -, -, hpromotes⟩⟩ := h.step hstep
  · rw [h.newest, hkept.newest, hsame]
  · rw [hpromotes.promoted]
    exact le_of_lt hpromotes.newer

theorem sequence_le_of_runFrom (hc : s.Consistent) (h : s.StreamFits) {events : List KeyEvent}
    (hrun : runFrom keySystem (fun _ _ => True) s events = some s') :
    s.controlStream.sequence ≤ s'.controlStream.sequence := by
  induction events generalizing s with
  | nil =>
    cases hrun
    exact le_refl _
  | cons event events ih =>
    obtain ⟨middle, hmiddle, hrest⟩ := bind_eq_some_iff.mp hrun
    have hkept := (hc.step hmiddle).1
    have hfits := h.step hc hmiddle
    calc s.controlStream.sequence
      _ = s.promotedKeyStateSequence := h.sequence
      _ ≤ middle.promotedKeyStateSequence := hc.promoted_le_step hmiddle
      _ = middle.controlStream.sequence := hfits.sequence.symm
      _ ≤ s'.controlStream.sequence := ih hkept hfits hrest

theorem StreamFits.snapshot_eq (h : s.StreamFits) (hnone : s.controlStream.handover = 0) :
    s.controlStream.snapshot = some (s.promotedKeyStateSequence, s.promotedKeyStateSequence) := by
  rw [snapshot, if_neg (by simp [hnone, h.installed]), h.channel,
    map_some, h.sequence]

theorem StreamFits.isCurrent_iff (h : s.StreamFits) (sequence : Nat) :
    s.controlStream.isCurrent sequence = true ↔
      s.controlStream.handover = 0 ∧ s.promotedKeyStateSequence = sequence := by
  simp [isCurrent, h.installed, h.sequence]

end Runs

end KeySession

open KeySession

/-- **The control stream is never stuck in a handover.**  In every state of every run a
    pending handover is to a key state that still negotiates; when none negotiates,
    readers and writers find the installed stream and it is current; its sequence is
    the highest promoted one, and no run lowers it. -/
theorem control_stream_never_stuck {s : KeySession} (h : Reachable keySystem s) :
    (s.controlStream.handover ≠ 0 → ∃ state, s.states s.controlStream.handover = some state ∧
      state.status = .negotiating) ∧
    ((∀ id state, s.states id = some state → state.status ≠ .negotiating) →
      ∃ channel, s.controlStream.snapshot = some (channel, s.controlStream.sequence) ∧
        s.controlStream.isCurrent s.controlStream.sequence = true) ∧
    (s.promotions = [] ∧ s.controlStream.sequence = 0 ∨
      s.controlStream.sequence ∈ s.promotions ∧
        ∀ promoted ∈ s.promotions, promoted ≤ s.controlStream.sequence) ∧
    (∀ events s', runFrom keySystem (fun _ _ => True) s events = some s' →
      s.controlStream.sequence ≤ s'.controlStream.sequence) := by
  obtain ⟨hconsistent, hfits⟩ := streamFits_of_reachable h
  have hnegotiating : s.controlStream.handover ≠ 0 →
      ∃ state, s.states s.controlStream.handover = some state ∧ state.status = .negotiating := by
    intro hne
    obtain ⟨state, hstate, hunfinished, -⟩ := hfits.handover hne
    exact ⟨state, hstate, (hconsistent.heap _ state hstate).pending hunfinished⟩
  refine ⟨hnegotiating, ?_, ?_, ?_⟩
  · intro hquiet
    have hnone : s.controlStream.handover = 0 := by
      by_contra hne
      obtain ⟨state, hstate, hstatus⟩ := hnegotiating hne
      exact hquiet _ state hstate hstatus
    refine ⟨s.promotedKeyStateSequence, ?_, ?_⟩
    · rw [hfits.snapshot_eq hnone, hfits.sequence]
    · exact (hfits.isCurrent_iff _).mpr ⟨hnone, hfits.sequence.symm⟩
  · rw [hfits.sequence]
    cases hhistory : s.promotions with
    | nil =>
      left
      rw [hconsistent.newest, hhistory]
      exact ⟨rfl, rfl⟩
    | cons newest older =>
      right
      refine ⟨?_, fun promoted hpromoted => hconsistent.le_promoted (hhistory ▸ hpromoted)⟩
      rw [hconsistent.newest, hhistory]
      exact List.mem_cons_self
  · intro events s' hrun
    exact sequence_le_of_runFrom hconsistent hfits hrun

/-- The older of two overlapping negotiations completes first: the handover to the newer
    one stays, and that key state still negotiates. -/
theorem control_stream_never_stuck_overlapping :
    ∃ s, Reachable keySystem s ∧ s.controlStream.handover = 2 ∧ s.controlStream.sequence = 1 ∧
      ∃ state, s.states 2 = some state ∧ state.status = .negotiating := by
  obtain ⟨s, hreachable, hhandover, hsequence⟩ : ∃ s, Reachable keySystem s ∧
      s.controlStream.handover = 2 ∧ s.controlStream.sequence = 1 :=
    exists_reachableBy keySystem_initial_zeroServerSession
      [.installInitial, .remoteBegin 1 0, .remoteBegin 2 0, .finish 1 true none 0 0 0]
      (by decide +kernel)
  refine ⟨s, hreachable, hhandover, hsequence, ?_⟩
  have hnegotiating := (control_stream_never_stuck hreachable).1
  rw [hhandover] at hnegotiating
  exact hnegotiating (by decide)

end SingOpenVPN
