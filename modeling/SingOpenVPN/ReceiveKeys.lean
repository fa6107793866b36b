import SingOpenVPN.KeyStateInvariant

/-!
# Receiving under the key that sends

The receive keys are cut to the three with the highest sequences.  A key that is
staged before its negotiation completes has a higher sequence than the key in use,
so three such keys push the key in use out of the list and the session can no
longer decrypt what its peer sends under it.

As long as a key is staged only while at most one other key ahead of the sending
one is held, the entry of the sending key stays, without an expiry time.
-/

namespace SingOpenVPN

open TransitionSystem List Option DataKeys

namespace KeySession

/-- The receive keys of a session that can be told apart and hold the sending key. -/
structure Receivable (s : KeySession) : Prop where
  bounded : ∀ entry ∈ s.keys.receiveCodecs, entry.sequence ≤ s.renegotiationSequence
  initial : ∀ entry ∈ s.keys.receiveCodecs, entry.sequence = 0 → entry.keyID = 0
  owner : ∀ entry ∈ s.keys.receiveCodecs, ∀ state, s.states entry.sequence = some state →
    state.keyID = entry.keyID
  keyIDs : (s.keys.receiveCodecs.map ReceiveCodec.keyID).Nodup
  sendEntry : s.keys.sendCodec ≠ none →
    ⟨s.keys.sendKeyID, s.promotedKeyStateSequence, none, s.promotedKeyStateSequence⟩ ∈
      s.keys.receiveCodecs
  ahead : s.keys.receiveCodecs.countP (fun entry => s.promotedKeyStateSequence < entry.sequence) ≤ 2

section Keep

variable {s s' : KeySession}

section

variable (h : s.Receivable)

include h

/-- The entries are told apart by their sequences as well. -/
theorem Receivable.eq_of_sequence_eq (hc : s.Consistent) {entry other : ReceiveCodec}
    (hentry : entry ∈ s.keys.receiveCodecs) (hother : other ∈ s.keys.receiveCodecs)
    (heq : entry.sequence = other.sequence) : entry = other := by
  have hkeyID : entry.keyID = other.keyID := by
    by_cases hzero : entry.sequence = 0
    · rw [h.initial entry hentry hzero, h.initial other hother (heq ▸ hzero)]
    · obtain ⟨state, hstate⟩ := isSome_iff_exists.mp
        ((hc.created entry.sequence).mpr ⟨Nat.pos_of_ne_zero hzero, h.bounded entry hentry⟩)
      rw [← h.owner entry hentry state hstate, ← h.owner other hother state (heq ▸ hstate)]
  exact inj_on_of_nodup_map h.keyIDs hentry hother hkeyID

theorem Receivable.frame (hframe : Frame s s') (hkeys : s'.keys = s.keys)
    (hpromoted : s'.promotedKeyStateSequence = s.promotedKeyStateSequence) : s'.Receivable where
  bounded := by
    intro entry hentry
    exact le_trans (h.bounded entry (hkeys ▸ hentry)) hframe.sequence
  initial := by
    rw [hkeys]
    exact h.initial
  owner := by
    intro entry hentry state' hstate'
    rw [hkeys] at hentry
    rcases hframe.keyIDs _ state' hstate' with ⟨state, hstate, hsame⟩ | hnew
    · rw [← hsame, h.owner entry hentry state hstate]
    · exact absurd (h.bounded entry hentry) (Nat.not_le.mpr hnew)
  keyIDs := by
    rw [hkeys]
    exact h.keyIDs
  sendEntry := by
    rw [hkeys, hpromoted]
    exact h.sendEntry
  ahead := by
    rw [hkeys, hpromoted]
    exact h.ahead

theorem Receivable.drop {keys : DataKeys} (hcodec : keys.sendCodec = s.keys.sendCodec)
    (hkeyID : keys.sendKeyID = s.keys.sendKeyID)
    (hsublist : keys.receiveCodecs.Sublist s.keys.receiveCodecs)
    (hkept : ⟨s.keys.sendKeyID, s.promotedKeyStateSequence, none, s.promotedKeyStateSequence⟩ ∈
        s.keys.receiveCodecs →
      ⟨s.keys.sendKeyID, s.promotedKeyStateSequence, none, s.promotedKeyStateSequence⟩ ∈
        keys.receiveCodecs) : Receivable { s with keys := keys } where
  bounded := fun entry hentry => h.bounded entry (hsublist.subset hentry)
  initial := fun entry hentry => h.initial entry (hsublist.subset hentry)
  owner := fun entry hentry => h.owner entry (hsublist.subset hentry)
  keyIDs := h.keyIDs.sublist (hsublist.map _)
  sendEntry := by
    intro hsome
    rw [hkeyID]
    exact hkept (h.sendEntry (hcodec ▸ hsome))
  ahead := le_trans hsublist.countP_le h.ahead

theorem Receivable.discard (keyID : UInt8) {sequence : Nat}
    (hne : sequence ≠ s.promotedKeyStateSequence) :
    Receivable { s with keys := s.keys.discardDataKeyState keyID sequence } := by
  refine h.drop rfl rfl filter_sublist fun hmem => ?_
  refine mem_filter.mpr ⟨hmem, ?_⟩
  simp [hne.symm]

theorem Receivable.select (keyID : UInt8) (now : Time) :
    Receivable { s with keys := (s.keys.selectReceiveCodec keyID now).2 } := by
  refine h.drop rfl rfl filter_sublist fun hmem => ?_
  exact mem_filter.mpr ⟨hmem, by simp [ReceiveCodec.expired]⟩

theorem Receivable.removeRenegotiationLocked (hc : s.Consistent) {id : Nat}
    (hid : id ≠ s.promotedKeyStateSequence) : (s.removeRenegotiationLocked id).Receivable := by
  rcases removeRenegotiationLocked_cases hc id with heq | ⟨state, -, -, heq⟩
  · rw [heq]
    exact h
  · rw [heq]
    exact (h.discard state.keyID hid).frame (.of_states_eq rfl rfl rfl) rfl rfl

theorem Receivable.foldl_removeRenegotiationLocked (hc : s.Consistent) (ids : List Nat)
    (hids : ∀ id ∈ ids, id ≠ s.promotedKeyStateSequence) :
    (ids.foldl KeySession.removeRenegotiationLocked s).Receivable := by
  induction ids generalizing s with
  | nil => exact h
  | cons id ids ih =>
    have hid := hids id mem_cons_self
    have hframe := unpromoted_removeRenegotiationLocked hc id
    refine ih (h.removeRenegotiationLocked hc hid) (hc.removeRenegotiationLocked fun _ => hid) ?_
    intro other hother
    rw [hframe.promoted]
    exact hids other (mem_cons_of_mem _ hother)

theorem Receivable.pruneRenegotiationsLocked (hc : s.Consistent) (now : Time) :
    (s.pruneRenegotiationsLocked now).Receivable :=
  h.foldl_removeRenegotiationLocked hc _ fun _ hid => hc.ne_promoted_of_pruned now hid

end

end Keep

/-! ### Installing a key -/

section Install

variable {s : KeySession} {id : Nat} {state : RenegotiationState}

/-- How many keys that a new one under `keyID` leaves in place are ahead of the
    sending key. -/
def keysAhead (s : KeySession) (keyID : UInt8) (now : Time) : Nat :=
  s.keys.receiveCodecs.countP fun entry =>
    entry.keyID ≠ keyID ∧ entry.expired now = false ∧ s.promotedKeyStateSequence < entry.sequence

variable {promote : Bool} {newEntry : ReceiveCodec} {now : Time} {keyID : UInt8}

theorem exists_of_mem_retained {retained : ReceiveCodec}
    (h : retained ∈ s.keys.receiveCodecs.filterMap
      (retainEntry s.keys.sendKeyID keyID promote now)) :
    ∃ entry ∈ s.keys.receiveCodecs, retained.keyID = entry.keyID ∧
      retained.sequence = entry.sequence ∧ retained.keyID ≠ keyID := by
  obtain ⟨entry, hentry, hretained⟩ := mem_filterMap.mp h
  obtain ⟨hkeyID, -, hsame, -, hsequence, -⟩ := retainEntry_eq_some hretained
  exact ⟨entry, hentry, hsame, hsequence, hsame ▸ hkeyID⟩

theorem nodup_install (h : s.Receivable) (hnew : newEntry.keyID = keyID) :
    ((keepNewest (s.keys.receiveCodecs.filterMap
      (retainEntry s.keys.sendKeyID keyID promote now) ++ [newEntry])).map
        ReceiveCodec.keyID).Nodup := by
  apply nodup_map_keepNewest
  rw [map_append, map_singleton, hnew]
  refine nodup_append.mpr ⟨h.keyIDs.sublist (map_keyID_retained_sublist ..),
    nodup_singleton _, ?_⟩
  rintro other hother _ hlast rfl
  obtain ⟨retained, hretained, rfl⟩ := mem_map.mp hother
  obtain ⟨-, -, -, -, hne⟩ := exists_of_mem_retained hretained
  exact hne (mem_singleton.mp hlast)

/-- The key of a key state is installed.  Which key sends is left open: its entry has to be the
    only one with its sequence and at most two may be ahead of it. -/
theorem Receivable.install (h : s.Receivable) (hc : s.Consistent)
    (hstate : s.states id = some state)
    {keys : DataKeys} {promoted : Nat} {retained : List ReceiveCodec}
    (hretained : s.keys.receiveCodecs.filterMap
      (retainEntry s.keys.sendKeyID state.keyID promote now) = retained)
    (hkeyID : newEntry.keyID = state.keyID) (hsequence : newEntry.sequence = id)
    (hkeys : keys.receiveCodecs = keepNewest (retained ++ [newEntry]))
    (hsend : keys.sendCodec ≠ none →
      ⟨keys.sendKeyID, promoted, none, promoted⟩ ∈ retained ++ [newEntry] ∧
      ∀ entry ∈ retained ++ [newEntry], entry.sequence = promoted →
        entry = ⟨keys.sendKeyID, promoted, none, promoted⟩)
    (hahead : (retained ++ [newEntry]).countP (fun entry => promoted < entry.sequence) ≤ 2) :
    Receivable { s with keys := keys, promotedKeyStateSequence := promoted } := by
  have hcreated := (hc.created id).mp (hstate ▸ rfl)
  have hlabels : ∀ entry ∈ keys.receiveCodecs, entry.sequence ≤ s.renegotiationSequence ∧
      (entry.sequence = 0 → entry.keyID = 0) ∧
      ∀ state, s.states entry.sequence = some state → state.keyID = entry.keyID := by
    intro entry hentry
    rw [hkeys] at hentry
    rcases mem_append.mp (mem_of_mem_keepNewest hentry) with hold | hlast
    · obtain ⟨old, hmem, hkeyID, hsequence, -⟩ := exists_of_mem_retained (hretained ▸ hold)
      rw [hkeyID, hsequence]
      exact ⟨h.bounded old hmem, h.initial old hmem, h.owner old hmem⟩
    · rw [mem_singleton.mp hlast, hkeyID, hsequence]
      refine ⟨hcreated.2, fun hzero => absurd hzero (Nat.pos_iff_ne_zero.mp hcreated.1), ?_⟩
      intro other hother
      rw [Option.some.inj (hstate.symm.trans hother)]
  exact {
    bounded := fun entry hentry => (hlabels entry hentry).1
    initial := fun entry hentry => (hlabels entry hentry).2.1
    owner := fun entry hentry => (hlabels entry hentry).2.2
    keyIDs := by
      rw [hkeys, ← hretained]
      exact nodup_install h hkeyID
    sendEntry := by
      intro hsome
      obtain ⟨hmem, honly⟩ := hsend hsome
      rw [hkeys]
      refine mem_keepNewest hmem (le_trans (countP_mono_left ?_) hahead)
      intro other hother hcounted
      simp only [decide_eq_true_eq] at hcounted ⊢
      exact lt_of_le_of_ne hcounted.2 fun heq => hcounted.1 (honly other hother heq.symm)
    ahead := by
      rw [hkeys]
      exact le_trans ((keepNewest_subperm _).countP_le _) hahead }

theorem Receivable.installUnpromoted (h : s.Receivable) (hc : s.Consistent)
    (hopen : s.shutDown = false) (hstate : s.states id = some state)
    (htracked : s.renegotiations.lookup state.keyID = some id)
    (hne : id ≠ s.promotedKeyStateSequence) (codec manager : Nat) (now : Time)
    (hroom : id ≤ s.promotedKeyStateSequence ∨ s.keysAhead state.keyID now ≤ 1) :
    Receivable { s with
      keys := s.keys.installDataKeyState codec state.keyID manager id false now } := by
  have hkeyID : s.keys.sendKeyID ≠ state.keyID := fun heq =>
    hne (hc.eq_promoted_of_sendKeyID hopen (heq ▸ htracked))
  -- the retained entries ahead of the sending key, with and without the new one
  have hretained : (s.keys.receiveCodecs.filterMap
      (retainEntry s.keys.sendKeyID state.keyID false now)).countP
        (fun entry => s.promotedKeyStateSequence < entry.sequence) ≤
        s.keysAhead state.keyID now := by
    refine countP_retained_le (fun entry retained hentry hahead => ?_) _
    obtain ⟨hother, hexpired, -, -, -, hsame⟩ := retainEntry_eq_some hentry
    rw [hsame rfl] at hexpired hahead
    simp only [decide_eq_true_eq] at hahead ⊢
    exact ⟨hother, hexpired, hahead⟩
  have hkeysAhead : s.keysAhead state.keyID now ≤ 2 :=
    le_trans (countP_mono_left fun entry _ hentry => by
      simp only [decide_eq_true_eq] at hentry ⊢
      exact hentry.2.2) h.ahead
  refine h.install hc hstate rfl rfl rfl rfl (fun hsome => ?_) ?_
  · have hmem := h.sendEntry hsome
    refine ⟨mem_append_left _ (mem_filterMap.mpr
      ⟨_, hmem, retainEntry_of_unexpiring hkeyID rfl⟩), fun other hother heq => ?_⟩
    rcases mem_append.mp hother with hold | hlast
    · obtain ⟨old, hmem', hsome'⟩ := mem_filterMap.mp hold
      obtain ⟨-, -, -, -, -, hsame⟩ := retainEntry_eq_some hsome'
      obtain rfl := hsame rfl
      exact h.eq_of_sequence_eq hc hmem' hmem heq
    · rw [mem_singleton.mp hlast] at heq
      exact absurd heq hne
  · rw [countP_append]
    rcases hroom with holder | hroom
    · rw [countP_singleton, if_neg (by simpa using holder)]
      omega
    · exact Nat.add_le_add (hretained.trans hroom) countP_le_length

/-- A key that takes over sending is the newest but for those staged ahead of it. -/
theorem Receivable.takeoverSession (h : s.Receivable) (hc : s.Consistent)
    (hstate : s.states id = some state) (htracked : s.renegotiations.lookup state.keyID = some id)
    (hnewer : s.promotedKeyStateSequence < id) (now installNow : Time) :
    (s.takeoverSession id state now installNow).Receivable := by
  obtain ⟨-, hpromotes⟩ := hc.takeoverSession hstate htracked hnewer now installNow
  have hretained : (s.keys.receiveCodecs.filterMap
      (retainEntry s.keys.sendKeyID state.keyID true installNow)).countP
        (fun entry => id < entry.sequence) ≤ 2 := by
    refine le_trans (countP_retained_le (fun entry retained hentry hahead => ?_) _) h.ahead
    obtain ⟨-, -, -, -, hsequence, -⟩ := retainEntry_eq_some hentry
    simp only [decide_eq_true_eq] at hahead ⊢
    omega
  have hinstalled : Receivable { s with
      keys := s.keys.installDataKeyState id state.keyID state.sessionManager id true installNow
      promotedKeyStateSequence := id } := by
    refine h.install hc hstate rfl rfl rfl rfl (fun _ => ⟨mem_append_right _ mem_cons_self, ?_⟩) ?_
    · -- an entry with this sequence has this key id and was not retained
      intro other hother heq
      rcases mem_append.mp hother with hold | hlast
      · obtain ⟨old, hmem, hkeyID, hsequence, hne⟩ := exists_of_mem_retained hold
        have hkeyID' := h.owner old hmem state (by rw [← hsequence, heq, hstate])
        exact absurd (hkeyID.trans hkeyID'.symm) hne
      · exact mem_singleton.mp hlast
    · rw [countP_append, countP_singleton, if_neg (by simp)]
      exact hretained
  exact hinstalled.frame { hpromotes.toFrame with } rfl rfl

end Install

/-! ### Runs -/

section Runs

variable {s s' : KeySession} {event : KeyEvent}

/-- A key is staged only while at most one other key ahead of the sending one would
    be held with it, unless it is itself not ahead. -/
def StagesWithRoom (s : KeySession) : KeyEvent → Prop
  | .stage id now => ∀ state ∈ s.states id, ∀ staged ∈ s.renegotiations.lookup state.keyID,
      staged ≤ s.promotedKeyStateSequence ∨ s.keysAhead state.keyID now ≤ 1
  | _ => True

instance (s : KeySession) : (event : KeyEvent) → Decidable (s.StagesWithRoom event)
  | .stage id now => inferInstanceAs (Decidable (∀ state ∈ s.states id,
      ∀ staged ∈ s.renegotiations.lookup state.keyID,
        staged ≤ s.promotedKeyStateSequence ∨ s.keysAhead state.keyID now ≤ 1))
  | .installInitial | .localScan | .localChoose _ | .localBegin _ _ | .remoteBegin _ _
  | .finish _ _ _ _ _ _ | .confirm _ _ _ _ | .expire _ _ | .select _ _ | .markClosing | .failAll
  | .failNext => inferInstanceAs (Decidable True)

section

variable (h : s.Receivable) (hc : s.Consistent)

include h hc

theorem Receivable.createState {keyID : UInt8} (hkeyID : keyID ≠ 0)
    (hfree : s.renegotiations.lookup keyID = none) (hopen : s.renegotiationsClosed = false)
    (hsending : s.keys.sendCodec ≠ none) (initiator : Bool) (now : Time) :
    (s.createState keyID initiator now).2.Receivable := by
  obtain ⟨-, hframe⟩ := hc.createState hkeyID hfree hopen hsending initiator now
  have hkeys : (s.createState keyID initiator now).2.keys = s.keys := by
    unfold KeySession.createState
    split
    · rfl
    · rfl
  exact h.frame hframe.toFrame hkeys hframe.promoted

theorem Receivable.beginSoftReset (hsending : s.keys.sendCodec ≠ none) (keyID : UInt8)
    (initiator : Bool) (now : Time) : (s.beginSoftReset keyID initiator now).2.Receivable := by
  rcases beginSoftReset_cases hc keyID initiator now with
    heq | ⟨free, hfree, hkeyID, hlookup, hopen, heq⟩
  · rw [heq]
    exact h
  rw [heq]
  rcases hfree with rfl | ⟨existing, hne, -, rfl⟩
  · exact h.createState hc hkeyID hlookup hopen hsending initiator now
  · have hframe := unpromoted_removeRenegotiationLocked hc existing
    exact (h.removeRenegotiationLocked hc hne).createState
      (hc.removeRenegotiationLocked fun _ => hne)
      hkeyID hlookup hopen (hframe.sendCodec ▸ hsending) initiator now

theorem Receivable.failSoftReset {id : Nat} {state : RenegotiationState}
    (hstate : s.states id = some state) (hunfinished : state.finished = false)
    (err : SoftResetError) : (s.failSoftReset id state err).Receivable := by
  have hfits := hc.heap id state hstate
  have hne := hfits.ne_promoted hunfinished
  obtain ⟨hfailed, -⟩ := hc.failedSession hstate hunfinished err
  have hdiscarded := h.discard state.keyID (hfits.sequence.trans_ne hne)
  have hreceivable : (s.failedSession id state err).Receivable :=
    hdiscarded.frame (.same rfl rfl (keyIDs_modifyState fun _ _ => rfl)) rfl rfl
  rw [failSoftReset_eq]
  split
  · exact hreceivable.removeRenegotiationLocked hfailed hne
  · exact hreceivable

/-- A negotiation that completes installs its key at the place of its sequence. -/
theorem Receivable.completeSoftReset (hopen : s.shutDown = false) {id : Nat}
    {state : RenegotiationState} (hstate : s.states id = some state)
    (hunfinished : state.finished = false)
    (htracked : s.renegotiations.lookup state.keyID = some id) (now installNow pruneNow : Time) :
    (s.completeSoftReset id state id now installNow pruneNow).2.Receivable := by
  rcases lt_or_ge s.promotedKeyStateSequence id with hnewer | holder
  · rw [completeSoftReset_of_lt hstate hnewer]
    exact (h.takeoverSession hc hstate htracked hnewer now installNow).pruneRenegotiationsLocked
      (hc.takeoverSession hstate htracked hnewer now installNow).1 pruneNow
  · have hne := (hc.heap id state hstate).ne_promoted hunfinished
    have hinstalled := h.installUnpromoted hc hopen hstate htracked hne id state.sessionManager
      installNow (.inl holder)
    have hreceivable : (s.overtakenSession id state now installNow).Receivable :=
      hinstalled.frame (.same rfl rfl (keyIDs_modifyState fun _ _ => rfl)) rfl rfl
    rw [completeSoftReset_of_le holder]
    exact hreceivable.pruneRenegotiationsLocked
      (hc.overtakenSession hstate hunfinished holder now installNow).1 pruneNow

theorem Receivable.stageNegotiatedReceiveKey (hopen : s.shutDown = false) (keyID : UInt8)
    (codec : Nat) (now : Time) (hroom : ∀ staged ∈ s.renegotiations.lookup keyID,
      staged ≤ s.promotedKeyStateSequence ∨ s.keysAhead keyID now ≤ 1) :
    (s.stageNegotiatedReceiveKey keyID codec now).2.Receivable := by
  unfold KeySession.stageNegotiatedReceiveKey
  split
  · exact h
  next state hfound =>
  split
  · exact h
  next hnegotiating =>
  obtain ⟨id, hid, hstate⟩ := bind_eq_some_iff.mp hfound
  obtain ⟨state', hstate', hkeyID⟩ := hc.table keyID id hid
  rw [hstate] at hstate'
  cases hstate'
  subst hkeyID
  have hfits := hc.heap id state hstate
  have hne : id ≠ s.promotedKeyStateSequence := by
    intro heq
    rw [hfits.active.mpr heq] at hnegotiating
    exact hnegotiating (by decide)
  rw [hfits.sequence]
  exact h.installUnpromoted hc hopen hstate hid hne codec state.sessionManager now (hroom id hid)

end

theorem receivable_installInitial (hc : s.Consistent) (hnone : s.keys.sendCodec = none)
    {manager : SessionManager} (hmanager : s.sessionManagers 0 = some manager) :
    Receivable { s with keys := installInitialDataCodec 0 manager.keyID 0 } := by
  have hzero : s.promotedKeyStateSequence = 0 :=
    Nat.le_zero.mp ((hc.unsent hnone).1 ▸ hc.promoted_le)
  have hroot := hc.rootKeyID manager hmanager
  have hstates : s.states 0 = none :=
    not_isSome_iff_eq_none.mp fun hsome => absurd ((hc.created 0).mp hsome).1 (by omega)
  constructor
  · simp [installInitialDataCodec]
  · simp [installInitialDataCodec, hroot]
  · simp [installInitialDataCodec, hstates]
  · simp [installInitialDataCodec]
  · simp [installInitialDataCodec, hzero]
  · simp [installInitialDataCodec]

/-- One step that stages with room keeps the sending key receivable. -/
theorem Receivable.step (h : s.Receivable) (hc : s.Consistent) (hroom : s.StagesWithRoom event)
    (hopen : s.shutDown = false) (hstep : s.step event = some s') (hopen' : s'.shutDown = false) :
    s'.Receivable := by
  obtain ⟨_, -, heffect⟩ := hc.effect hstep
  cases heffect with
  | kept => exact h
  | installs hnone hmanager => exact receivable_installInitial hc hnone hmanager
  | resets | closes => exact h.frame (.of_states_eq rfl rfl rfl) rfl rfl
  | @begins localResets keyID initiator now hsending =>
    have hwaiting : Receivable { s with localResets } :=
      h.frame (.of_states_eq rfl rfl rfl) rfl rfl
    exact hwaiting.beginSoftReset (hc.withLocalResets hsending _) hsending keyID initiator now
  | @stages id now state hevent hstate =>
    subst hevent
    exact h.stageNegotiatedReceiveKey hc hopen state.keyID id now (hroom state hstate)
  | fails err hstate hunfinished => exact h.failSoftReset hc hstate hunfinished err
  | completes now installNow pruneNow hstate hunfinished htracked =>
    exact h.completeSoftReset hc hopen hstate hunfinished htracked now installNow pruneNow
  | confirms => exact h.frame (frame_modifyState fun _ _ => rfl) rfl rfl
  | expires hne => exact h.removeRenegotiationLocked hc hne
  | selects keyID now => exact h.select keyID now
  | failsAll => cases hopen'
  | @failsNext id rest =>
    have hpopped : Receivable { s with failing := rest } :=
      h.frame (.of_states_eq rfl rfl rfl) rfl rfl
    rcases failState_cases { s with failing := rest } id with heq | ⟨state, -, -, heq⟩
    · rw [heq]
      exact hpopped
    · rw [heq]
      exact hpopped.frame (.same rfl rfl (keyIDs_modifyState fun _ _ => rfl)) rfl rfl

theorem Receivable.selects (h : s.Receivable) (hsome : s.keys.sendCodec ≠ none) (now : Time) :
    (s.keys.selectReceiveCodec s.keys.sendKeyID now).1 = some s.promotedKeyStateSequence := by
  have hmem := h.sendEntry hsome
  generalize hfound : (s.keys.receiveCodecs.filter fun entry => ¬ entry.expired now).filter
    (fun entry => entry.keyID = s.keys.sendKeyID) = found
  have hcontains : ⟨s.keys.sendKeyID, s.promotedKeyStateSequence, none,
      s.promotedKeyStateSequence⟩ ∈ found := by
    rw [← hfound]
    simp [hmem, ReceiveCodec.expired]
  obtain ⟨last, hlast⟩ := ne_none_iff_exists'.mp
    (mt List.getLast?_eq_none_iff.mp (ne_nil_of_mem hcontains))
  have hlastMem := mem_of_getLast? hlast
  rw [← hfound] at hlastMem
  simp only [mem_filter, decide_eq_true_eq] at hlastMem
  have heq := inj_on_of_nodup_map h.keyIDs hlastMem.1.1 hmem hlastMem.2
  unfold selectReceiveCodec
  dsimp only
  rw [hfound, hlast, map_some, heq]

/-- The receive keys hold the codec that sends under its key id, with no expiry time,
    and a packet of that key id is decoded with it at any time. -/
def SendKeyReceivable (s : KeySession) : Prop :=
  ∀ codec, s.keys.sendCodec = some codec →
    (∃ entry ∈ s.keys.receiveCodecs, entry.keyID = s.keys.sendKeyID ∧ entry.codec = codec ∧
      entry.expiry = none) ∧
    ∀ now, (s.keys.selectReceiveCodec s.keys.sendKeyID now).1 = some codec

theorem Receivable.sendKeyReceivable (h : s.Receivable) (hc : s.Consistent) :
    s.SendKeyReceivable := by
  intro codec hcodec
  have hsome : s.keys.sendCodec ≠ none := by
    rw [hcodec]
    exact some_ne_none codec
  obtain ⟨hsend, -⟩ := hc.sending.resolve_left hsome
  obtain rfl : codec = s.promotedKeyStateSequence := Option.some.inj (hcodec.symm.trans hsend)
  exact ⟨⟨_, h.sendEntry hsome, rfl, rfl, rfl⟩, h.selects hsome⟩

theorem receivable_of_reachable (h : ReachableBy keySystem StagesWithRoom s) :
    s.shutDown = false → s.Receivable := by
  suffices hboth : s.Consistent ∧ (s.shutDown = false → s.Receivable) from hboth.2
  apply h.invariant
  · rintro state ⟨role, handshakeWindow, sessionManager, hkeyID, rfl⟩
    refine ⟨consistent_newKeySession role handshakeWindow hkeyID, fun _ => ?_⟩
    exact {
      bounded := by simp [newKeySession, empty]
      initial := by simp [newKeySession, empty]
      owner := by simp [newKeySession, empty]
      keyIDs := nodup_nil
      sendEntry := fun hsome => absurd rfl hsome
      ahead := Nat.zero_le _ }
  · rintro state event state' ⟨hconsistent, hreceivable⟩ hroom hstep
    obtain ⟨hkept, -, hcases⟩ := hconsistent.step hstep
    refine ⟨hkept, fun hopen' => ?_⟩
    -- a session that is open after a step was open before it
    have hopen : state.shutDown = false := by
      rcases hcases with ⟨-, -, hstays⟩ | ⟨id, promoted, -, -, hpromotes⟩
      · by_contra hdown
        rw [hstays (Bool.not_eq_false _ ▸ hdown)] at hopen'
        cases hopen'
      · exact hpromotes.shutDown ▸ hopen'
    exact (hreceivable hopen).step hconsistent hroom hopen hstep hopen'

end Runs

end KeySession

open KeySession

/-- **The key used for sending is receivable** in every state before shutdown of a run
    in which keys are staged with room. -/
theorem sendKey_receivable {s : KeySession} (h : ReachableBy keySystem StagesWithRoom s)
    (hopen : s.shutDown = false) : s.SendKeyReceivable :=
  (receivable_of_reachable h hopen).sendKeyReceivable (consistent_of_reachable h)

/-- Two negotiations staged at once leave the initial key in place. -/
theorem sendKey_receivable_two_staged :
    ∃ s, ReachableBy keySystem StagesWithRoom s ∧ s.shutDown = false ∧
      s.keys.sendCodec = some 0 ∧ s.keys.receiveCodecs.length = 3 ∧ s.SendKeyReceivable := by
  obtain ⟨s, hreachable, hopen, hcodec, hlength⟩ : ∃ s, ReachableBy keySystem StagesWithRoom s ∧
      s.shutDown = false ∧ s.keys.sendCodec = some 0 ∧ s.keys.receiveCodecs.length = 3 :=
    exists_reachableBy keySystem_initial_zeroServerSession
      [.installInitial, .remoteBegin 1 0, .remoteBegin 2 0, .stage 1 0, .stage 2 0]
      (by decide +kernel)
  exact ⟨s, hreachable, hopen, hcodec, hlength, sendKey_receivable hreachable hopen⟩

/-- Three negotiations staged at once push the initial key out while it still sends. -/
theorem sendKey_evicted :
    ∃ s, Reachable keySystem s ∧ s.shutDown = false ∧ s.keys.sendCodec = some 0 ∧
      ¬ s.SendKeyReceivable := by
  obtain ⟨s, hreachable, hopen, hcodec, hcodecs⟩ : ∃ s, Reachable keySystem s ∧
      s.shutDown = false ∧ s.keys.sendCodec = some 0 ∧
        s.keys.receiveCodecs.map ReceiveCodec.codec = [1, 2, 3] :=
    exists_reachableBy keySystem_initial_zeroServerSession
      [.installInitial, .remoteBegin 1 0, .remoteBegin 2 0, .remoteBegin 3 0,
        .stage 1 0, .stage 2 0,
        .stage 3 0] (by decide +kernel)
  refine ⟨s, hreachable, hopen, hcodec, fun hreceivable => ?_⟩
  obtain ⟨⟨entry, hentry, -, hzero, -⟩, -⟩ := hreceivable 0 hcodec
  have hmem := mem_map_of_mem (f := ReceiveCodec.codec) hentry
  rw [hcodecs, hzero] at hmem
  exact absurd hmem (by decide)

end SingOpenVPN
