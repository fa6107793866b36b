import SingOpenVPN.KeyStates

/-!
# Which key state sends

The sequences order the key states by the soft reset that created them.  The
machine keeps one key state active, the one with the highest sequence ever
promoted, and that key state owns the send key; every other completed key state is
a lame duck with a lower sequence.  The table of tracked key states and the table
of channels registered for routing name the same objects.

`Fits` is what holds of a single key state, `Consistent` what holds of a session.
Removing a key state, writing a field of one and creating one keep `Consistent`;
the operations are put together from these three.
-/

namespace SingOpenVPN

open TransitionSystem List AList Function

namespace PrimaryControlStream

theorem abortHandover_eq (stream : PrimaryControlStream) (sequence : Nat) :
    stream.abortHandover sequence =
      { stream with handover := (stream.abortHandover sequence).handover } := by
  unfold abortHandover
  split
  · rfl
  · rfl

theorem handover_abortHandover {stream : PrimaryControlStream} {sequence : Nat}
    (hpending : (stream.abortHandover sequence).handover ≠ 0) :
    (stream.abortHandover sequence).handover = stream.handover ∧ stream.handover ≠ sequence := by
  unfold abortHandover at hpending ⊢
  split
  · next hne => exact ⟨rfl, hne⟩
  · next heq =>
    rw [if_neg heq] at hpending
    exact absurd rfl hpending

end PrimaryControlStream

namespace KeySession

/-- What a key state is, given the highest promoted sequence. -/
structure Fits (promoted : Nat) (id : Nat) (state : RenegotiationState) : Prop where
  sequence : state.sequence = id
  channel : state.channel = id
  sessionManager : state.sessionManager = id
  keyID : state.keyID ≠ 0
  pending : state.finished = false → state.status = .negotiating
  notAwaiting : state.status ≠ .awaitingData
  active : state.status = .active ↔ id = promoted
  lameDuck : state.status = .lameDuck → id < promoted

variable {state : RenegotiationState}

theorem Fits.ne_promoted {promoted id : Nat}
    (h : Fits promoted id state) (hunfinished : state.finished = false) : id ≠ promoted := by
  intro heq
  have hactive := h.active.mpr heq
  rw [h.pending hunfinished] at hactive
  cases hactive

theorem Fits.failed {promoted id : Nat} (h : Fits promoted id state)
    (hunfinished : state.finished = false) (err : SoftResetError) :
    Fits promoted id { state with status := .failed, resultErr := some err, finished := true } :=
  { h with
    pending := fun hnot => by cases hnot
    notAwaiting := by simp
    active := by simp [h.ne_promoted hunfinished]
    lameDuck := fun hlame => by cases hlame }

structure Consistent (s : KeySession) : Prop where
  heap : ∀ (id : Nat) state, s.states id = some state → Fits s.promotedKeyStateSequence id state
  created : ∀ id : Nat, (s.states id).isSome ↔ 0 < id ∧ id ≤ s.renegotiationSequence
  managers : ∀ id : Nat, (s.sessionManagers id).isSome ↔ id ≤ s.renegotiationSequence
  rootKeyID : ∀ manager, s.sessionManagers 0 = some manager → manager.keyID = 0
  table : ∀ keyID (id : Nat), s.renegotiations.lookup keyID = some id →
    ∃ state, s.states id = some state ∧ state.keyID = keyID
  channels : ∀ keyID, s.renegotiationChannels.lookup keyID = s.renegotiations.lookup keyID
  promotedState : s.promotedKeyStateSequence ≠ 0 →
    ∃ state, s.states s.promotedKeyStateSequence = some state ∧ state.keyID = s.keys.sendKeyID ∧
      (s.shutDown = false →
        s.renegotiations.lookup state.keyID = some s.promotedKeyStateSequence)
  initialKey : s.promotedKeyStateSequence = 0 → s.keys.sendKeyID = 0
  sending : s.keys.sendCodec = none ∨ (s.keys.sendCodec = some s.promotedKeyStateSequence ∧
    s.keys.sendSessionManager = some s.promotedKeyStateSequence)
  unsent : s.keys.sendCodec = none → s.renegotiationSequence = 0 ∧ s.localResets = []
  history : s.promotions.Pairwise (· > ·)
  newest : s.promotedKeyStateSequence = s.promotions.headD 0
  closed : s.shutDown = true → s.renegotiationsClosed = true ∧
    ∀ keyID, s.renegotiations.lookup keyID = none

/-- The objects of a session stay what they are; new ones have new sequences and
    fresh counters. -/
structure Frame (s s' : KeySession) : Prop where
  sequence : s.renegotiationSequence ≤ s'.renegotiationSequence
  managers : ∀ (id : Nat) manager, s'.sessionManagers id = some manager →
    s.sessionManagers id = some manager ∨
      (s.renegotiationSequence < id ∧ manager.localDataPacketID = 1)
  keyIDs : ∀ (id : Nat) state', s'.states id = some state' →
    (∃ state, s.states id = some state ∧ state.keyID = state'.keyID) ∨ s.renegotiationSequence < id

theorem exists_of_keyID {old new : Option RenegotiationState}
    (h : new.map RenegotiationState.keyID = old.map RenegotiationState.keyID)
    (hold : old = some state) :
    ∃ state', new = some state' ∧ state'.keyID = state.keyID :=
  Option.map_eq_some_iff.mp (h.trans (by rw [hold, Option.map_some]))

section

variable {s s' : KeySession} (hsequence : s'.renegotiationSequence = s.renegotiationSequence)
  (hmanagers : s'.sessionManagers = s.sessionManagers)

include hsequence hmanagers

theorem Frame.same (hkeyIDs : ∀ id, (s'.states id).map RenegotiationState.keyID =
      (s.states id).map RenegotiationState.keyID) : Frame s s' where
  sequence := le_of_eq hsequence.symm
  managers := fun _ _ hmanager => .inl (hmanagers ▸ hmanager)
  keyIDs := fun id _ hstate' => .inl (exists_of_keyID (hkeyIDs id).symm hstate')

theorem Frame.of_states_eq (hstates : s'.states = s.states) :
    Frame s s' :=
  .same hsequence hmanagers fun _ => by rw [hstates]

end

variable {s s' s'' : KeySession}

theorem Frame.trans (h : Frame s s') (h' : Frame s' s'') : Frame s s'' where
  sequence := le_trans h.sequence h'.sequence
  managers := by
    intro id manager hmanager
    rcases h'.managers id manager hmanager with hmiddle | ⟨hnew, hfresh⟩
    · exact h.managers id manager hmiddle
    · exact .inr ⟨lt_of_le_of_lt h.sequence hnew, hfresh⟩
  keyIDs := by
    intro id state'' hstate''
    rcases h'.keyIDs id state'' hstate'' with ⟨state', hstate', hsame'⟩ | hnew
    · rcases h.keyIDs id state' hstate' with ⟨state, hstate, hsame⟩ | hnew
      · exact .inl ⟨state, hstate, hsame.trans hsame'⟩
      · exact .inr hnew
    · exact .inr (lt_of_le_of_lt h.sequence hnew)

/-- A step that leaves the choice of the send key alone. -/
structure Unpromoted (s s' : KeySession) : Prop extends Frame s s' where
  promoted : s'.promotedKeyStateSequence = s.promotedKeyStateSequence
  promotions : s'.promotions = s.promotions
  sendCodec : s'.keys.sendCodec = s.keys.sendCodec
  sendKeyID : s'.keys.sendKeyID = s.keys.sendKeyID
  sendSessionManager : s'.keys.sendSessionManager = s.keys.sendSessionManager
  shutDown : s'.shutDown = s.shutDown

theorem Unpromoted.refl (s : KeySession) : Unpromoted s s :=
  ⟨.of_states_eq rfl rfl rfl, rfl, rfl, rfl, rfl, rfl, rfl⟩

theorem Unpromoted.trans (h : Unpromoted s s') (h' : Unpromoted s' s'') :
    Unpromoted s s'' where
  toFrame := h.toFrame.trans h'.toFrame
  promoted := h'.promoted.trans h.promoted
  promotions := h'.promotions.trans h.promotions
  sendCodec := h'.sendCodec.trans h.sendCodec
  sendKeyID := h'.sendKeyID.trans h.sendKeyID
  sendSessionManager := h'.sendSessionManager.trans h.sendSessionManager
  shutDown := h'.shutDown.trans h.shutDown

section Facts

variable {s : KeySession}

section

variable (h : s.Consistent)

include h

theorem Consistent.promoted_le : s.promotedKeyStateSequence ≤ s.renegotiationSequence := by
  by_cases hzero : s.promotedKeyStateSequence = 0
  · rw [hzero]
    exact Nat.zero_le _
  · obtain ⟨state, hstate, -⟩ := h.promotedState hzero
    exact ((h.created _).mp (hstate ▸ rfl)).2

theorem Consistent.pos {id : Nat} {state : RenegotiationState} (hstate : s.states id = some state) :
    0 < id :=
  ((h.created id).mp (hstate ▸ rfl)).1

theorem Consistent.le_promoted {sequence : Nat} (hmem : sequence ∈ s.promotions) :
    sequence ≤ s.promotedKeyStateSequence := by
  have hhistory := h.history
  have hnewest := h.newest
  cases hlist : s.promotions with
  | nil =>
    rw [hlist] at hmem
    cases hmem
  | cons newest older =>
    rw [hlist] at hmem hhistory hnewest
    rw [hnewest]
    rcases mem_cons.mp hmem with rfl | hold
    · exact le_refl _
    · exact le_of_lt ((pairwise_cons.mp hhistory).1 sequence hold)

/-- Before shutdown the key id of the send key is taken by the promoted key state,
    or it is the initial one, which no key state has. -/
theorem Consistent.eq_promoted_of_sendKeyID (hopen : s.shutDown = false) {id : Nat}
    (hid : s.renegotiations.lookup s.keys.sendKeyID = some id) :
    id = s.promotedKeyStateSequence := by
  by_cases hzero : s.promotedKeyStateSequence = 0
  · obtain ⟨state, hstate, hkeyID⟩ := h.table _ _ hid
    exact absurd (hkeyID.trans (h.initialKey hzero)) (h.heap _ _ hstate).keyID
  · obtain ⟨state, -, hkeyID, htracked⟩ := h.promotedState hzero
    rw [← hkeyID, htracked hopen] at hid
    exact (Option.some.inj hid).symm

theorem Consistent.ne_promoted_of_sendKeyID_ne {keyID : UInt8} {id : Nat}
    (hid : s.renegotiations.lookup keyID = some id) (hne : s.keys.sendKeyID ≠ keyID) :
    id ≠ s.promotedKeyStateSequence := by
  rintro rfl
  obtain ⟨state, hstate, hsame⟩ := h.table keyID _ hid
  obtain ⟨promoted, hpromoted, hsend, -⟩ := h.promotedState (Nat.pos_iff_ne_zero.mp (h.pos hstate))
  rw [hstate] at hpromoted
  cases hpromoted
  exact hne (hsend.symm.trans hsame)

theorem Consistent.withKeys (keys : DataKeys) (hcodec : keys.sendCodec = s.keys.sendCodec)
    (hkeyID : keys.sendKeyID = s.keys.sendKeyID)
    (hmanager : keys.sendSessionManager = s.keys.sendSessionManager) :
    Consistent { s with keys := keys } :=
  { h with
    promotedState := by simpa only [hkeyID] using h.promotedState
    initialKey := by simpa only [hkeyID] using h.initialKey
    sending := by simpa only [hcodec, hmanager] using h.sending
    unsent := by simpa only [hcodec] using h.unsent }

theorem Consistent.withManager {id : Nat} {manager manager' : SessionManager}
    (hmanager : s.sessionManagers id = some manager) (hkeyID : manager'.keyID = manager.keyID) :
    Consistent { s with
      sessionManagers := update s.sessionManagers id (some manager') } :=
  { h with
    managers := by
      intro other
      dsimp only
      rw [← h.managers, update_apply]
      split
      · next heq =>
        rw [heq, hmanager]
        rfl
      · rfl
    rootKeyID := by
      intro root hroot
      dsimp only at hroot
      rw [update_apply] at hroot
      split at hroot
      · next heq =>
        cases hroot
        rw [hkeyID]
        exact h.rootKeyID manager (heq ▸ hmanager)
      · exact h.rootKeyID root hroot }

section

variable {states : Nat → Option RenegotiationState}
  (hkeyIDs : ∀ id, (states id).map RenegotiationState.keyID =
    (s.states id).map RenegotiationState.keyID)

include hkeyIDs

theorem Consistent.created_of_keyIDs (id : Nat) :
    (states id).isSome ↔ 0 < id ∧ id ≤ s.renegotiationSequence := by
  rw [← h.created, ← Option.isSome_map, hkeyIDs, Option.isSome_map]

theorem Consistent.table_of_keyIDs (keyID : UInt8) (id : Nat)
    (hid : s.renegotiations.lookup keyID = some id) :
    ∃ state, states id = some state ∧ state.keyID = keyID := by
  obtain ⟨old, hold, rfl⟩ := h.table keyID id hid
  exact exists_of_keyID (hkeyIDs id) hold

theorem Consistent.withStates (hheap : ∀ (id : Nat) state, states id = some state →
      Fits s.promotedKeyStateSequence id state) : Consistent { s with states } :=
  { h with
    heap := hheap
    created := h.created_of_keyIDs hkeyIDs
    table := h.table_of_keyIDs hkeyIDs
    promotedState := by
      intro hzero
      obtain ⟨old, hold, hkeyID, htracked⟩ := h.promotedState hzero
      obtain ⟨state, hstate, hsame⟩ := exists_of_keyID (hkeyIDs _) hold
      rw [← hsame] at hkeyID htracked
      exact ⟨state, hstate, hkeyID, htracked⟩ }

end

/-- A local soft reset begins only after a data key was installed. -/
theorem Consistent.sending_of_localReset {index : Nat} {keyID : Option UInt8}
    (hreset : s.localResets[index]? = some keyID) : s.keys.sendCodec ≠ none := by
  intro hnone
  rw [(h.unsent hnone).2] at hreset
  cases hreset

theorem Consistent.withLocalResets (hsending : s.keys.sendCodec ≠ none)
    (localResets : List (Option UInt8)) : Consistent { s with localResets := localResets } :=
  { h with unsent := fun hnone => absurd hnone hsending }

end

end Facts

/-! ### Writing a key state -/

section Modify

variable {s : KeySession} {id : Nat} {change : RenegotiationState → RenegotiationState}

theorem states_modifyState (other : Nat) :
    (s.modifyState id change).states other =
      if other = id then (s.states id).map change else s.states other :=
  update_apply ..

variable (hchange : ∀ state, s.states id = some state → (change state).keyID = state.keyID)

include hchange

theorem keyIDs_modifyState (other : Nat) :
    ((s.modifyState id change).states other).map RenegotiationState.keyID =
      (s.states other).map RenegotiationState.keyID := by
  rw [states_modifyState]
  split
  · next heq =>
    rw [heq, Option.map_map]
    exact Option.map_congr hchange
  · rfl

theorem frame_modifyState : Frame s (s.modifyState id change) :=
  .same rfl rfl (keyIDs_modifyState hchange)

theorem unpromoted_modifyState : Unpromoted s (s.modifyState id change) :=
  ⟨frame_modifyState hchange, rfl, rfl, rfl, rfl, rfl, rfl⟩

omit hchange in
theorem Consistent.modifyState (h : s.Consistent)
    (hchange : ∀ state, s.states id = some state →
      Fits s.promotedKeyStateSequence id (change state) ∧ (change state).keyID = state.keyID) :
    Consistent (s.modifyState id change) := by
  refine h.withStates (keyIDs_modifyState fun state hstate => (hchange state hstate).2) ?_
  intro other state hstate
  rw [update_apply] at hstate
  split at hstate
  · next heq =>
    subst heq
    obtain ⟨old, hold, rfl⟩ := Option.map_eq_some_iff.mp hstate
    exact (hchange old hold).1
  · exact h.heap other state hstate

end Modify

/-! ### Removing key states -/

section Remove

variable {s : KeySession}

theorem removeRenegotiationLocked_cases (h : s.Consistent) (id : Nat) :
    s.removeRenegotiationLocked id = s ∨
    ∃ state, s.states id = some state ∧ s.renegotiations.lookup state.keyID = some id ∧
      s.removeRenegotiationLocked id = { s with
        renegotiations := s.renegotiations.erase state.keyID
        renegotiationChannels := s.renegotiationChannels.erase state.keyID
        keys := s.keys.discardDataKeyState state.keyID id } := by
  unfold removeRenegotiationLocked
  cases hstate : s.states id with
  | none => exact .inl rfl
  | some state =>
    by_cases hlookup : s.renegotiations.lookup state.keyID = some id
    · refine .inr ⟨state, rfl, hlookup, ?_⟩
      have hfits := h.heap id state hstate
      have hchannel : s.renegotiationChannels.lookup state.keyID = some state.channel := by
        rw [h.channels, hlookup, hfits.channel]
      simp only [ne_eq, hlookup, not_true, if_false, hchannel, if_true, hfits.sequence]
    · left
      simp only [ne_eq, hlookup, not_false_eq_true, if_true]

theorem unpromoted_removeRenegotiationLocked (h : s.Consistent) (id : Nat) :
    Unpromoted s (s.removeRenegotiationLocked id) := by
  rcases removeRenegotiationLocked_cases h id with heq | ⟨state, -, -, heq⟩
  · rw [heq]
    exact .refl s
  · rw [heq]
    exact ⟨.of_states_eq rfl rfl rfl, rfl, rfl, rfl, rfl, rfl, rfl⟩

theorem states_removeRenegotiationLocked (s : KeySession) (id : Nat) :
    (s.removeRenegotiationLocked id).states = s.states := by
  unfold removeRenegotiationLocked
  split
  · rfl
  · split
    · rfl
    · rfl

variable {id : Nat}

theorem lookup_erase_eq_some {table : KeyIDTable} {keyID other : UInt8}
    (h : (table.erase other).lookup keyID = some id) :
    keyID ≠ other ∧ table.lookup keyID = some id := by
  by_cases heq : keyID = other
  · subst heq
    rw [lookup_erase] at h
    cases h
  · rw [lookup_erase_ne heq] at h
    exact ⟨heq, h⟩

theorem Consistent.removeRenegotiationLocked (h : s.Consistent)
    (hid : s.shutDown = false → id ≠ s.promotedKeyStateSequence) :
    Consistent (s.removeRenegotiationLocked id) := by
  rcases removeRenegotiationLocked_cases h id with heq | ⟨state, hstate, hlookup, heq⟩
  · rw [heq]
    exact h
  rw [heq]
  exact { h with
    table := by
      intro keyID other hother
      exact h.table keyID other (lookup_erase_eq_some hother).2
    channels := by
      intro keyID
      by_cases hkeyID : keyID = state.keyID
      · subst hkeyID
        rw [lookup_erase, lookup_erase]
      · exact (lookup_erase_ne hkeyID).trans
          ((h.channels keyID).trans (lookup_erase_ne hkeyID).symm)
    promotedState := by
      intro hzero
      obtain ⟨promoted, hpromoted, hkeyID, htracked⟩ := h.promotedState hzero
      refine ⟨promoted, hpromoted, hkeyID, fun hopen => ?_⟩
      have hne : promoted.keyID ≠ state.keyID := by
        intro hsame
        have hboth := htracked hopen
        rw [hsame, hlookup] at hboth
        exact hid hopen (Option.some.inj hboth)
      exact (lookup_erase_ne hne).trans (htracked hopen)
    closed := by
      intro hdown
      refine ⟨(h.closed hdown).1, fun keyID => ?_⟩
      by_contra hsome
      obtain ⟨other, hother⟩ := Option.ne_none_iff_exists'.mp hsome
      have := (lookup_erase_eq_some hother).2
      rw [(h.closed hdown).2 keyID] at this
      cases this }

theorem Consistent.foldl_removeRenegotiationLocked (h : s.Consistent) (ids : List Nat)
    (hids : ∀ id ∈ ids, s.shutDown = false → id ≠ s.promotedKeyStateSequence) :
    Consistent (ids.foldl KeySession.removeRenegotiationLocked s) ∧
      Unpromoted s (ids.foldl KeySession.removeRenegotiationLocked s) := by
  induction ids generalizing s with
  | nil => exact ⟨h, .refl s⟩
  | cons id ids ih =>
    have hframe := unpromoted_removeRenegotiationLocked h id
    obtain ⟨hkept, hrest⟩ := ih (h.removeRenegotiationLocked (hids id mem_cons_self)) (by
      intro other hother
      rw [hframe.shutDown, hframe.promoted]
      exact hids other (mem_cons_of_mem _ hother))
    exact ⟨hkept, hframe.trans hrest⟩

/-! ### Pruning -/

theorem mem_tracked :
    id ∈ s.tracked ↔ ∃ keyID, s.renegotiations.lookup keyID = some id := by
  unfold tracked
  rw [mem_map]
  constructor
  · rintro ⟨entry, hentry, rfl⟩
    exact ⟨entry.1, mem_lookup_iff.mpr hentry⟩
  · rintro ⟨keyID, hlookup⟩
    exact ⟨⟨keyID, id⟩, mem_lookup_iff.mp hlookup, rfl⟩

theorem Consistent.nodup_tracked (h : s.Consistent) : s.tracked.Nodup := by
  refine List.Nodup.map_on ?_ s.renegotiations.nodupKeys.nodup
  rintro ⟨keyID, id⟩ hleft ⟨keyID', id'⟩ hright heq
  obtain rfl : id = id' := heq
  -- the key state of `id` knows its key id
  obtain ⟨state, hstate, hkeyID⟩ := h.table keyID id (mem_lookup_iff.mpr hleft)
  obtain ⟨state', hstate', hkeyID'⟩ := h.table keyID' id (mem_lookup_iff.mpr hright)
  rw [hstate] at hstate'
  cases hstate'
  rw [← hkeyID, ← hkeyID']

theorem notMem_take_of_le {l : List Nat} (hsorted : l.Pairwise (· ≤ ·)) (hnodup : l.Nodup)
    {greatest k : Nat} (hgreatest : ∀ x ∈ l, x ≤ greatest) (hk : 0 < k) :
    greatest ∉ l.take (l.length - k) := by
  intro hmem
  rw [← take_append_drop (l.length - k) l] at hsorted hnodup
  have hlength : 0 < l.length := length_pos_of_mem (mem_of_mem_take hmem)
  obtain ⟨last, hlast⟩ : ∃ last, last ∈ l.drop (l.length - k) := by
    apply exists_mem_of_length_pos
    rw [length_drop]
    omega
  have hle := (pairwise_append.mp hsorted).2.2 greatest hmem last hlast
  have heq : greatest = last :=
    le_antisymm hle (hgreatest last (mem_of_mem_drop hlast))
  exact (nodup_append.mp hnodup).2.2 greatest hmem last hlast heq

theorem retiring_ne_active {state : RenegotiationState} (h : retiring state = true) :
    state.status ≠ .active := by
  intro hactive
  rw [retiring, hactive] at h
  cases h

theorem status_ne_negotiating_of_retiring {state : RenegotiationState}
    (hstate : s.states id = some state) (h : retiring state = true) :
    s.status id ≠ some .negotiating := by
  intro hpending
  rw [status, hstate, Option.map_some, Option.some.injEq] at hpending
  rw [retiring, hpending] at h
  cases h

theorem exists_of_mem_filter_any {ids : List Nat} {p : RenegotiationState → Bool}
    (h : id ∈ ids.filter fun id => (s.states id).any p) :
    ∃ state, s.states id = some state ∧ p state = true := by
  have hany := (mem_filter.mp h).2
  cases hstate : s.states id with
  | none =>
    rw [hstate] at hany
    cases hany
  | some state =>
    rw [hstate] at hany
    exact ⟨state, rfl, hany⟩

/-- Pruning spares the promoted key state: it is the newest of the completed ones. -/
theorem Consistent.ne_promoted_of_pruned (h : s.Consistent) (now : Time)
    (hid : id ∈ s.pruneExpired now ++
      (s.pruneCompleted now).take ((s.pruneCompleted now).length - tlsKeyScanSize)) :
    id ≠ s.promotedKeyStateSequence := by
  rintro rfl
  rcases mem_append.mp hid with hexpired | htaken
  · obtain ⟨state, hstate, hretired⟩ := exists_of_mem_filter_any hexpired
    exact retiring_ne_active (of_decide_eq_true hretired).1 ((h.heap _ state hstate).active.mpr rfl)
  · refine notMem_take_of_le (pairwise_insertionSort _ _) ?_ ?_ (by decide) htaken
    · exact (perm_insertionSort _ _).nodup_iff.mpr (h.nodup_tracked.filter _)
    · intro other hother
      obtain ⟨state, hstate, hcompleted⟩ :=
        exists_of_mem_filter_any ((mem_insertionSort _).mp hother)
      have hfits := h.heap _ state hstate
      obtain ⟨-, hactive | hretiring⟩ := of_decide_eq_true hcompleted
      · exact le_of_eq (hfits.active.mp hactive)
      · rcases of_decide_eq_true hretiring with hlame | hawaiting
        · exact le_of_lt (hfits.lameDuck hlame)
        · exact absurd hawaiting hfits.notAwaiting

theorem Consistent.pruneRenegotiationsLocked (h : s.Consistent) (now : Time) :
    Consistent (s.pruneRenegotiationsLocked now) ∧
      Unpromoted s (s.pruneRenegotiationsLocked now) :=
  h.foldl_removeRenegotiationLocked _ fun _ hid _ => h.ne_promoted_of_pruned now hid

end Remove

/-! ### Creating a key state -/

section Create

variable {s : KeySession} {keyID : UInt8}

/-- Created under a free key id, a key state enters both tables. -/
theorem Consistent.createState (h : s.Consistent) (hkeyID : keyID ≠ 0)
    (hfree : s.renegotiations.lookup keyID = none) (hopen : s.renegotiationsClosed = false)
    (hsending : s.keys.sendCodec ≠ none) (initiator : Bool) (now : Time) :
    Consistent (s.createState keyID initiator now).2 ∧
      Unpromoted s (s.createState keyID initiator now).2 := by
  have hchannel : (s.renegotiationChannels.lookup keyID).isSome = false := by
    rw [h.channels, hfree]
    rfl
  have hpromoted := h.promoted_le
  have hnew : s.states (s.renegotiationSequence + 1) = none :=
    Option.not_isSome_iff_eq_none.mp fun hsome => absurd ((h.created _).mp hsome).2 (by omega)
  have hold : ∀ (id : Nat) state, s.states id = some state → id ≠ s.renegotiationSequence + 1 := by
    rintro id state hstate rfl
    rw [hnew] at hstate
    cases hstate
  unfold KeySession.createState
  simp only [hchannel, Bool.false_eq_true, if_false]
  refine ⟨{ h with
    heap := ?heap
    created := ?created
    managers := ?managers
    rootKeyID := ?rootKeyID
    table := ?table
    channels := ?channels
    promotedState := ?promotedState
    unsent := fun hnone => absurd hnone hsending
    closed := ?closed }, ⟨{
      sequence := Nat.le_succ _
      managers := ?newManager
      keyIDs := ?newKeyID }, rfl, rfl, rfl, rfl, rfl, rfl⟩⟩
  case heap =>
    intro id state hstate
    dsimp only at hstate ⊢
    rw [update_apply] at hstate
    split at hstate
    · next heq =>
      cases hstate
      exact {
        sequence := heq.symm
        channel := heq.symm
        sessionManager := heq.symm
        keyID := hkeyID
        pending := fun _ => rfl
        notAwaiting := by simp [newState]
        active := by
          simp only [newState, reduceCtorEq, false_iff]
          omega
        lameDuck := by simp [newState] }
    · exact h.heap id state hstate
  case created =>
    intro id
    dsimp only
    rw [update_apply]
    split
    · next heq =>
      simp only [Option.isSome_some, true_iff]
      omega
    · next hne =>
      rw [h.created]
      omega
  case managers =>
    intro id
    dsimp only
    rw [update_apply]
    split
    · next heq =>
      rw [Option.isSome_map, h.managers]
      omega
    · next hne =>
      rw [h.managers]
      omega
  case rootKeyID =>
    intro manager hmanager
    dsimp only at hmanager
    exact h.rootKeyID manager hmanager
  case table =>
    intro other id hlookup
    dsimp only at hlookup ⊢
    by_cases hother : other = keyID
    · subst hother
      rw [lookup_insert] at hlookup
      cases hlookup
      exact ⟨_, update_self .., rfl⟩
    · rw [lookup_insert_ne hother] at hlookup
      obtain ⟨state, hstate, hsame⟩ := h.table other id hlookup
      exact ⟨state, by rw [update_of_ne (hold id state hstate), hstate], hsame⟩
  case channels =>
    intro other
    by_cases hother : other = keyID
    · subst hother
      rw [lookup_insert, lookup_insert]
    · rw [lookup_insert_ne hother, lookup_insert_ne hother, h.channels]
  case promotedState =>
    intro hzero
    obtain ⟨state, hstate, hsame, htracked⟩ := h.promotedState hzero
    dsimp only
    refine ⟨state, by rw [update_of_ne (hold _ state hstate), hstate], hsame, fun hup => ?_⟩
    have hne : state.keyID ≠ keyID := by
      rintro rfl
      rw [htracked hup] at hfree
      cases hfree
    exact (lookup_insert_ne hne).trans (htracked hup)
  case closed =>
    intro hdown
    rw [(h.closed hdown).1] at hopen
    cases hopen
  case newManager =>
    intro id manager hmanager
    dsimp only at hmanager
    rw [update_apply] at hmanager
    split at hmanager
    · next heq =>
      obtain ⟨root, -, rfl⟩ := Option.map_eq_some_iff.mp hmanager
      exact .inr ⟨by omega, rfl⟩
    · exact .inl hmanager
  case newKeyID =>
    intro id state hstate
    dsimp only at hstate
    rw [update_apply] at hstate
    split at hstate
    · exact .inr (by omega)
    · exact .inl ⟨state, hstate, rfl⟩

/-- `beginSoftReset` does nothing, or creates a key state after removing one under
    its key id that neither negotiates nor sends. -/
theorem beginSoftReset_cases (h : s.Consistent) (keyID : UInt8) (initiator : Bool) (now : Time) :
    (s.beginSoftReset keyID initiator now).2 = s ∨
    ∃ free : KeySession, (free = s ∨ ∃ existing ≠ s.promotedKeyStateSequence,
        s.status existing ≠ some .negotiating ∧ free = s.removeRenegotiationLocked existing) ∧
      keyID ≠ 0 ∧ free.renegotiations.lookup keyID = none ∧ free.renegotiationsClosed = false ∧
      (s.beginSoftReset keyID initiator now).2 = (free.createState keyID initiator now).2 := by
  unfold beginSoftReset
  split
  · exact .inl rfl
  next hvalid =>
  split
  · exact .inl rfl
  next hclosed =>
  have hkeyID : keyID ≠ 0 := fun heq => hvalid (.inl heq)
  have hopen : s.renegotiationsClosed = false := by simpa using hclosed
  cases hlookup : s.renegotiations.lookup keyID with
  | none => exact .inr ⟨s, .inl rfl, hkeyID, hlookup, hopen, rfl⟩
  | some existing =>
    dsimp only
    split
    · exact .inl rfl
    · next hreplaced =>
      have hne := h.ne_promoted_of_sendKeyID_ne hlookup fun heq => hreplaced (.inr (.inr heq))
      refine .inr ⟨s.removeRenegotiationLocked existing,
        .inr ⟨existing, hne, fun hpending => hreplaced (.inl hpending), rfl⟩, hkeyID, ?_⟩
      obtain ⟨state, hstate, hsame⟩ := h.table keyID existing hlookup
      subst hsame
      unfold removeRenegotiationLocked
      simp only [hstate, hlookup, ne_eq, not_true, if_false]
      exact ⟨lookup_erase .., hopen, trivial⟩

theorem Consistent.beginSoftReset (h : s.Consistent) (hsending : s.keys.sendCodec ≠ none)
    (keyID : UInt8) (initiator : Bool) (now : Time) :
    Consistent (s.beginSoftReset keyID initiator now).2 ∧
      Unpromoted s (s.beginSoftReset keyID initiator now).2 := by
  rcases beginSoftReset_cases h keyID initiator now with
    heq | ⟨free, hfree, hkeyID, hlookup, hopen, heq⟩
  · rw [heq]
    exact ⟨h, .refl s⟩
  rw [heq]
  rcases hfree with rfl | ⟨existing, hne, -, rfl⟩
  · exact h.createState hkeyID hlookup hopen hsending initiator now
  · have hframe := unpromoted_removeRenegotiationLocked h existing
    obtain ⟨hkept, hunpromoted⟩ := (h.removeRenegotiationLocked fun _ => hne).createState hkeyID
      hlookup hopen (hframe.sendCodec ▸ hsending) initiator now
    exact ⟨hkept, hframe.trans hunpromoted⟩

end Create

/-! ### Completion -/

/-- A step that makes a key state the sending one. -/
structure Promotes (s : KeySession) (id : Nat) (state : RenegotiationState) (s' : KeySession) :
    Prop extends Frame s s' where
  newer : s.promotedKeyStateSequence < id
  promoted : s'.promotedKeyStateSequence = id
  promotions : s'.promotions = id :: s.promotions
  sendCodec : s'.keys.sendCodec = some id
  sendKeyID : s'.keys.sendKeyID = state.keyID
  sendSessionManager : s'.keys.sendSessionManager = some id
  shutDown : s'.shutDown = s.shutDown

theorem Promotes.unpromoted {id : Nat}
    (h : Promotes s id state s') (h' : Unpromoted s' s'') : Promotes s id state s'' where
  toFrame := h.toFrame.trans h'.toFrame
  newer := h.newer
  promoted := h'.promoted.trans h.promoted
  promotions := h'.promotions.trans h.promotions
  sendCodec := h'.sendCodec.trans h.sendCodec
  sendKeyID := h'.sendKeyID.trans h.sendKeyID
  sendSessionManager := h'.sendSessionManager.trans h.sendSessionManager
  shutDown := h'.shutDown.trans h.shutDown

section Complete

variable {s : KeySession} {id : Nat} {state : RenegotiationState}

theorem states_retireIfActive (s : KeySession) (now : Time) (id other : Nat) :
    (retireIfActive now s id).states other =
      if other = id ∧ s.status other = some .active then (s.states other).map (lameDuck now)
      else s.states other := by
  unfold retireIfActive makeLameDuckLocked
  by_cases hother : other = id
  · subst hother
    split
    · next hactive =>
      rw [states_modifyState, if_pos rfl, if_pos ⟨rfl, hactive⟩]
    · next hactive =>
      rw [if_neg fun hboth => hactive hboth.2]
  · simp only [hother, false_and, if_false]
    split
    · rw [states_modifyState, if_neg hother]
    · rfl

theorem status_lameDuck_ne_active (now : Time) (state : RenegotiationState) :
    (lameDuck now state).status ≠ .active := by
  simp [lameDuck]

/-- The loop touches nothing but key states, and of those it retires the active
    ones of the list. -/
theorem foldl_retireIfActive (s : KeySession) (now : Time) (ids : List Nat) :
    ids.foldl (retireIfActive now) s =
      { s with states := (ids.foldl (retireIfActive now) s).states } ∧
    ∀ other, (ids.foldl (retireIfActive now) s).states other =
      if other ∈ ids ∧ s.status other = some .active then (s.states other).map (lameDuck now)
      else s.states other := by
  induction ids generalizing s with
  | nil => exact ⟨rfl, fun other => by simp⟩
  | cons id ids ih =>
    rw [foldl_cons]
    obtain ⟨hframe, hstates⟩ := ih (retireIfActive now s id)
    have hone : retireIfActive now s id =
        { s with states := (retireIfActive now s id).states } := by
      unfold retireIfActive
      split
      · rfl
      · rfl
    refine ⟨?_, fun other => ?_⟩
    · rw [hframe, hone]
    · rw [hstates other]
      unfold status
      rw [states_retireIfActive]
      by_cases hactive : s.status other = some .active
      · obtain ⟨old, hold, hstatus⟩ := Option.map_eq_some_iff.mp hactive
        by_cases hother : other = id
        · simp [hother, hstatus, status_lameDuck_ne_active, hother ▸ hold, hother ▸ hactive]
        · simp [hother]
      · have hnot : Option.map RenegotiationState.status (s.states other) ≠ some .active := hactive
        simp [hnot, hactive]

theorem Consistent.overtaken (h : s.Consistent) (hstate : s.states id = some state)
    (hunfinished : state.finished = false) (holder : id ≤ s.promotedKeyStateSequence)
    (now : Time) :
    Consistent (s.modifyState id fun state =>
      { lameDuck now state with resultErr := none, finished := true }) := by
  have hfits := h.heap id state hstate
  have hne := hfits.ne_promoted hunfinished
  apply h.modifyState
  intro old hold
  rw [hstate] at hold
  cases hold
  exact ⟨{ hfits with
    pending := fun hnot => by cases hnot
    notAwaiting := by simp [lameDuck]
    active := by simp [lameDuck, hne]
    lameDuck := fun _ => by omega }, rfl⟩

theorem Consistent.takesOver (h : s.Consistent) (hstate : s.states id = some state)
    (htracked : s.renegotiations.lookup state.keyID = some id)
    (hnewer : s.promotedKeyStateSequence < id) (now : Time)
    {states : Nat → Option RenegotiationState}
    (hstates : ∀ other, states other =
      if other = id then some { state with status := .active, resultErr := none, finished := true }
      else if other ∈ s.tracked ∧ s.status other = some .active then
        (s.states other).map (lameDuck now)
      else s.states other)
    {keys : DataKeys} (hcodec : keys.sendCodec = some id) (hkeyID : keys.sendKeyID = state.keyID)
    (hmanager : keys.sendSessionManager = some id) (stream : PrimaryControlStream) :
    Consistent { s with
      states := states
      promotedKeyStateSequence := id
      keys := keys
      controlStream := stream
      promotions := id :: s.promotions } := by
  have hopen : s.shutDown = false := by
    by_contra hdown
    rw [(h.closed (Bool.not_eq_false _ ▸ hdown)).2] at htracked
    cases htracked
  have hfits := h.heap id state hstate
  have hself :
      states id = some { state with status := .active, resultErr := none, finished := true } := by
    rw [hstates, if_pos rfl]
  have hkeyIDs : ∀ other, (states other).map RenegotiationState.keyID =
      (s.states other).map RenegotiationState.keyID := by
    intro other
    rw [hstates]
    split_ifs with heq
    · rw [heq, hstate]
      rfl
    · exact Option.map_map ..
    · rfl
  exact { h with
    heap := by
      intro other new hnew
      dsimp only at hnew ⊢
      rw [hstates] at hnew
      split_ifs at hnew with heq hretired
      · cases hnew
        exact { hfits with
          sequence := hfits.sequence.trans heq.symm
          channel := hfits.channel.trans heq.symm
          sessionManager := hfits.sessionManager.trans heq.symm
          pending := fun hnot => by cases hnot
          notAwaiting := by simp
          active := by simp [heq]
          lameDuck := fun hlame => by cases hlame }
      · obtain ⟨old, hold, rfl⟩ := Option.map_eq_some_iff.mp hnew
        have hfits' := h.heap other old hold
        have hactive : old.status = .active := by
          have := hretired.2
          rw [status, hold] at this
          exact Option.some.inj this
        have hpromoted := hfits'.active.mp hactive
        refine { hfits' with
          pending := fun hnot => ?_
          notAwaiting := by simp [lameDuck]
          active := by simp [lameDuck, heq]
          lameDuck := fun _ => by omega }
        have hnegotiating := hfits'.pending hnot
        rw [hactive] at hnegotiating
        cases hnegotiating
      · have hfits' := h.heap other new hnew
        have hinactive : new.status ≠ .active := by
          intro hactive
          obtain ⟨promoted, hpromoted, -, hlookup⟩ :=
            h.promotedState (hfits'.active.mp hactive ▸ Nat.pos_iff_ne_zero.mp (h.pos hnew))
          rw [← hfits'.active.mp hactive] at hlookup
          exact hretired
            ⟨mem_tracked.mpr ⟨_, hlookup hopen⟩, by rw [status, hnew, Option.map_some, hactive]⟩
        refine { hfits' with
          active := by simp [hinactive, heq]
          lameDuck := fun hlame => ?_ }
        have := hfits'.lameDuck hlame
        omega
    created := h.created_of_keyIDs hkeyIDs
    table := h.table_of_keyIDs hkeyIDs
    promotedState := fun _ => ⟨_, hself, hkeyID.symm, fun _ => htracked⟩
    initialKey := fun hzero => absurd hzero (Nat.pos_iff_ne_zero.mp (h.pos hstate))
    sending := .inr ⟨hcodec, hmanager⟩
    unsent := by
      intro hnone
      rw [hcodec] at hnone
      cases hnone
    history := by
      refine pairwise_cons.mpr ⟨fun older holder => ?_, h.history⟩
      exact lt_of_le_of_lt (h.le_promoted holder) hnewer
    newest := rfl }

/-- The loop of `promoteKeyStateLocked` retires the other active key states. -/
theorem retireOthers_eq (s : KeySession) (id : Nat) (now : Time) :
    ∃ states, s.retireOthers id now = { s with states := states } ∧ ∀ other, states other =
      if other ∈ s.tracked ∧ other ≠ id ∧ s.status other = some .active then
        (s.states other).map (lameDuck now)
      else s.states other := by
  obtain ⟨hframe, hstates⟩ :=
    foldl_retireIfActive s now (s.tracked.filter fun other => other ≠ id)
  refine ⟨_, hframe, fun other => ?_⟩
  rw [hstates]
  simp only [mem_filter, decide_eq_true_eq, and_assoc]

def overtakenSession (s : KeySession) (id : Nat) (state : RenegotiationState)
    (now installNow : Time) :
    KeySession :=
  { s.modifyState id fun state =>
    { lameDuck now state with resultErr := none, finished := true } with
    keys := s.keys.installDataKeyState id state.keyID state.sessionManager id false installNow
    controlStream := s.controlStream.abortHandover id }

def takeoverSession (s : KeySession) (id : Nat) (state : RenegotiationState)
    (now installNow : Time) :
    KeySession :=
  { s with
    states := Function.update (s.retireOthers id now).states id
      (some { state with status := .active, resultErr := none, finished := true })
    promotedKeyStateSequence := id
    keys := s.keys.installDataKeyState id state.keyID state.sessionManager id true installNow
    controlStream := s.controlStream.install state.channel id
    promotions := id :: s.promotions }

def failedSession (s : KeySession) (id : Nat) (state : RenegotiationState) (err : SoftResetError) :
    KeySession :=
  { s with
    keys := s.keys.discardDataKeyState state.keyID state.sequence
    controlStream := s.controlStream.abortHandover state.sequence }.modifyState id fun state =>
      { state with status := .failed, resultErr := some err, finished := true }

theorem completeSoftReset_of_le (holder : id ≤ s.promotedKeyStateSequence)
    (now installNow pruneNow : Time) :
    s.completeSoftReset id state id now installNow pruneNow =
      (false, (s.overtakenSession id state now installNow).pruneRenegotiationsLocked pruneNow) := by
  unfold completeSoftReset promoteKeyStateLocked overtakenSession
  simp only [if_pos holder, makeLameDuckLocked, modifyState, update_self,
    update_idem, Option.map_map]
  rfl

theorem completeSoftReset_of_lt (hstate : s.states id = some state)
    (hnewer : s.promotedKeyStateSequence < id) (now installNow pruneNow : Time) :
    s.completeSoftReset id state id now installNow pruneNow =
      (true, (s.takeoverSession id state now installNow).pruneRenegotiationsLocked pruneNow) := by
  obtain ⟨states, hretired, hstates⟩ := retireOthers_eq s id now
  have hself : states id = some state := by
    rw [hstates, if_neg (by simp), hstate]
  unfold completeSoftReset promoteKeyStateLocked takeoverSession
  simp only [if_neg (Nat.not_le.mpr hnewer), hretired, modifyState, update_self,
    update_idem, hself, Option.map_some]

section

variable (h : s.Consistent) (hstate : s.states id = some state)

include h hstate

theorem Consistent.overtakenSession (hunfinished : state.finished = false)
    (holder : id ≤ s.promotedKeyStateSequence) (now installNow : Time) :
    Consistent (s.overtakenSession id state now installNow) ∧
      Unpromoted s (s.overtakenSession id state now installNow) := by
  refine ⟨{ (h.overtaken hstate hunfinished holder now).withKeys
    (s.keys.installDataKeyState id state.keyID state.sessionManager id false installNow)
    rfl rfl rfl with }, ?_⟩
  exact ⟨.same rfl rfl (keyIDs_modifyState fun _ _ => rfl), rfl, rfl, rfl, rfl, rfl, rfl⟩

theorem Consistent.takeoverSession (htracked : s.renegotiations.lookup state.keyID = some id)
    (hnewer : s.promotedKeyStateSequence < id) (now installNow : Time) :
    Consistent (s.takeoverSession id state now installNow) ∧
      Promotes s id state (s.takeoverSession id state now installNow) := by
  obtain ⟨states, hretired, hstates⟩ := retireOthers_eq s id now
  have hmanager := (h.heap id state hstate).sessionManager
  unfold KeySession.takeoverSession
  rw [hretired]
  constructor
  · apply h.takesOver hstate htracked hnewer now
    · intro other
      dsimp only
      rw [update_apply, hstates]
      by_cases hne : other = id
      · simp only [if_pos hne]
      · simp only [ne_eq, hne, not_false_eq_true, true_and]
    · rfl
    · rfl
    · exact congrArg some hmanager
  · refine ⟨.same rfl rfl fun other => ?_, hnewer, rfl, rfl, rfl, rfl, congrArg some hmanager, rfl⟩
    dsimp only
    rw [update_apply, hstates]
    split_ifs with heq
    · rw [heq, hstate]
      rfl
    · exact Option.map_map ..
    · rfl

theorem Consistent.completeSoftReset (hunfinished : state.finished = false)
    (htracked : s.renegotiations.lookup state.keyID = some id) (now installNow pruneNow : Time) :
    let result := s.completeSoftReset id state id now installNow pruneNow
    Consistent result.2 ∧ ((result.1 = false ∧ Unpromoted s result.2) ∨
      (result.1 = true ∧ Promotes s id state result.2)) := by
  intro result
  rcases lt_or_ge s.promotedKeyStateSequence id with hnewer | holder
  · obtain ⟨hkept, hpromotes⟩ := h.takeoverSession hstate htracked hnewer now installNow
    obtain ⟨hpruned, hframe⟩ := hkept.pruneRenegotiationsLocked pruneNow
    rw [show result = _ from completeSoftReset_of_lt hstate hnewer now installNow pruneNow]
    exact ⟨hpruned, .inr ⟨rfl, hpromotes.unpromoted hframe⟩⟩
  · obtain ⟨hkept, hsame⟩ := h.overtakenSession hstate hunfinished holder now installNow
    obtain ⟨hpruned, hframe⟩ := hkept.pruneRenegotiationsLocked pruneNow
    rw [show result = _ from completeSoftReset_of_le holder now installNow pruneNow]
    exact ⟨hpruned, .inl ⟨rfl, hsame.trans hframe⟩⟩

end

theorem failSoftReset_eq (s : KeySession) (id : Nat) (state : RenegotiationState)
    (err : SoftResetError) :
    s.failSoftReset id state err =
      if s.renegotiations.lookup state.keyID = some id then
        (s.failedSession id state err).removeRenegotiationLocked id
      else s.failedSession id state err := rfl

section

variable (h : s.Consistent) (hstate : s.states id = some state)
  (hunfinished : state.finished = false) (err : SoftResetError)

include h hstate hunfinished

theorem Consistent.failedSession :
    Consistent (s.failedSession id state err) ∧ Unpromoted s (s.failedSession id state err) := by
  refine ⟨Consistent.modifyState { h.withKeys
    (s.keys.discardDataKeyState state.keyID state.sequence) rfl rfl rfl with } ?_, ?_⟩
  · intro old hold
    obtain rfl : state = old := Option.some.inj (hstate.symm.trans hold)
    exact ⟨(h.heap id state hstate).failed hunfinished err, rfl⟩
  · exact ⟨.same rfl rfl (keyIDs_modifyState fun _ _ => rfl), rfl, rfl, rfl, rfl, rfl, rfl⟩

/-- A key state that fails leaves the table; the promoted one is not pending. -/
theorem Consistent.failSoftReset :
    Consistent (s.failSoftReset id state err) ∧ Unpromoted s (s.failSoftReset id state err) := by
  obtain ⟨hfailed, hsame⟩ := h.failedSession hstate hunfinished err
  have hne := (h.heap id state hstate).ne_promoted hunfinished
  rw [failSoftReset_eq]
  split
  · exact ⟨hfailed.removeRenegotiationLocked fun _ => hne,
      hsame.trans (unpromoted_removeRenegotiationLocked hfailed id)⟩
  · exact ⟨hfailed, hsame⟩

end

/-- The outcomes of `finishSoftReset` for a negotiation that returns its own codec, if
    any. -/
theorem finishSoftReset_cases (hstate : s.states id = some state) (hasCodec : Bool)
    (err : Option SoftResetError) (now installNow pruneNow : Time) :
    let result :=
      s.finishSoftReset id (if hasCodec then some id else none) err now installNow pruneNow
    result = (false, s) ∨
      (state.finished = false ∧ ∃ err, result = (false, s.failSoftReset id state err)) ∨
      (state.finished = false ∧ s.renegotiations.lookup state.keyID = some id ∧
        result = s.completeSoftReset id state id now installNow pruneNow) := by
  unfold finishSoftReset
  simp only [hstate]
  split
  · exact .inl rfl
  next hfinished =>
  have hunfinished : state.finished = false := by simpa using hfinished
  cases err with
  | some err => exact .inr (.inl ⟨hunfinished, err, rfl⟩)
  | none =>
    cases hasCodec with
    | false => exact .inr (.inl ⟨hunfinished, .withoutCodec, rfl⟩)
    | true =>
      simp only [if_true]
      split
      · exact .inr (.inl ⟨hunfinished, .closed, rfl⟩)
      · next htracked => exact .inr (.inr ⟨hunfinished, not_not.mp htracked, rfl⟩)

/-- Whatever a negotiation returns, at most its own key state takes over, and only
    over older ones. -/
theorem Consistent.finishSoftReset (h : s.Consistent) (hstate : s.states id = some state)
    (hasCodec : Bool) (err : Option SoftResetError) (now installNow pruneNow : Time) :
    let result :=
      s.finishSoftReset id (if hasCodec then some id else none) err now installNow pruneNow
    result.2.Consistent ∧ ((result.1 = false ∧ Unpromoted s result.2) ∨
      (result.1 = true ∧ s.renegotiations.lookup state.keyID = some id ∧
        Promotes s id state result.2)) := by
  intro result
  rcases finishSoftReset_cases hstate hasCodec err now installNow pruneNow with
    heq | ⟨hunfinished, err, heq⟩ | ⟨hunfinished, htracked, heq⟩
  · rw [show result = _ from heq]
    exact ⟨h, .inl ⟨rfl, .refl s⟩⟩
  · rw [show result = _ from heq]
    obtain ⟨hkept, hframe⟩ := h.failSoftReset hstate hunfinished err
    exact ⟨hkept, .inl ⟨rfl, hframe⟩⟩
  · rw [show result = _ from heq]
    obtain ⟨hkept, hcases⟩ :=
      h.completeSoftReset hstate hunfinished htracked now installNow pruneNow
    exact ⟨hkept, hcases.imp_right fun ⟨hflag, hpromotes⟩ => ⟨hflag, htracked, hpromotes⟩⟩

end Complete

/-! ### The other operations -/

section Others

variable {s : KeySession}

theorem Consistent.stageNegotiatedReceiveKey (h : s.Consistent) (keyID : UInt8) (codec : Nat)
    (now : Time) :
    Consistent (s.stageNegotiatedReceiveKey keyID codec now).2 ∧
      Unpromoted s (s.stageNegotiatedReceiveKey keyID codec now).2 := by
  unfold KeySession.stageNegotiatedReceiveKey
  split
  · exact ⟨h, .refl s⟩
  · split
    · exact ⟨h, .refl s⟩
    · exact ⟨h.withKeys _ rfl rfl rfl, ⟨.of_states_eq rfl rfl rfl, rfl, rfl, rfl, rfl, rfl, rfl⟩⟩

/-- No key state waits for data, so a data packet never promotes one. -/
theorem confirmDataKey_cases (h : s.Consistent) (keyID : UInt8) (now installNow pruneNow : Time) :
    s.confirmDataKey keyID now installNow pruneNow = (false, s) ∨
    ∃ id, s.confirmDataKey keyID now installNow pruneNow =
      (false, s.modifyState id fun state => { state with peerDataConfirmed := true }) := by
  unfold confirmDataKey
  split
  · exact .inl rfl
  split
  · exact .inl rfl
  next id hlookup =>
  split
  · exact .inl rfl
  next state hstate =>
  split
  · exact .inr ⟨id, rfl⟩
  · next hawaiting => exact absurd hawaiting (h.heap id state hstate).notAwaiting
  · exact .inl rfl

theorem expireKeyState_cases (h : s.Consistent) (id : Nat) (now : Time) :
    s.expireKeyState id now = s ∨ (id ≠ s.promotedKeyStateSequence ∧
      s.status id ≠ some .negotiating ∧
        s.expireKeyState id now = s.removeRenegotiationLocked id) := by
  unfold expireKeyState
  split
  · exact .inl rfl
  next state hstate =>
  split
  · exact .inl rfl
  split
  · next hretired =>
    have hretiring := (of_decide_eq_true hretired).1
    refine .inr ⟨fun heq => ?_, fun hpending => ?_, rfl⟩
    · exact retiring_ne_active hretiring ((h.heap id state hstate).active.mpr heq)
    · exact status_ne_negotiating_of_retiring hstate hretiring hpending
  · exact .inl rfl

theorem failState_cases (s : KeySession) (id : Nat) :
    s.failState id = s ∨ ∃ state, s.states id = some state ∧ state.finished = false ∧
      s.failState id = s.modifyState id fun state =>
        { state with status := .failed, resultErr := some .closed, finished := true } := by
  unfold failState
  split
  · exact .inl rfl
  next state hstate =>
  split
  · exact .inl rfl
  · next hfinished => exact .inr ⟨state, hstate, by simpa using hfinished, rfl⟩

theorem Consistent.failState (h : s.Consistent) (id : Nat) :
    Consistent (s.failState id) ∧ Unpromoted s (s.failState id) := by
  rcases failState_cases s id with heq | ⟨state, hstate, hunfinished, heq⟩
  · rw [heq]
    exact ⟨h, .refl s⟩
  · rw [heq]
    refine ⟨h.modifyState fun old hold => ?_, unpromoted_modifyState fun _ _ => rfl⟩
    obtain rfl : state = old := Option.some.inj (hstate.symm.trans hold)
    exact ⟨(h.heap id state hstate).failed hunfinished .closed, rfl⟩

/-- The session while `failAllRenegotiations` takes key states out of both tables and aborts
    their handovers. -/
structure Drained (s : KeySession) (ids : List Nat) (s' : KeySession) : Prop where
  frame : s' = { s with
    renegotiations := s'.renegotiations
    renegotiationChannels := s'.renegotiationChannels
    keys := { s.keys with receiveCodecs := s'.keys.receiveCodecs }
    controlStream := s'.controlStream }
  channels : ∀ keyID, s'.renegotiationChannels.lookup keyID = s'.renegotiations.lookup keyID
  table : ∀ keyID id, s'.renegotiations.lookup keyID = some id →
    s.renegotiations.lookup keyID = some id ∧ id ∉ ids
  stream : s'.controlStream = { s.controlStream with handover := s'.controlStream.handover }
  handover : s'.controlStream.handover ≠ 0 →
    s'.controlStream.handover = s.controlStream.handover ∧ s.controlStream.handover ∉ ids

theorem Drained.drainKeyState {s' : KeySession} {ids : List Nat} (hs : s.Consistent)
    (h : Drained s ids s') (id : Nat) : Drained s (ids ++ [id]) (s'.drainKeyState id) := by
  have hstates : s'.states = s.states := by rw [h.frame]
  have hnotMem : ∀ keyID other, s'.renegotiations.lookup keyID = some other → other ≠ id →
      s.renegotiations.lookup keyID = some other ∧ other ∉ ids ++ [id] := by
    intro keyID other hother hne
    obtain ⟨hold, hnot⟩ := h.table keyID other hother
    exact ⟨hold, by simp [hnot, hne]⟩
  have hstream : s'.controlStream.abortHandover id =
      { s.controlStream with handover := (s'.controlStream.abortHandover id).handover } := by
    rw [PrimaryControlStream.abortHandover_eq, h.stream]
  have hhandover : (s'.controlStream.abortHandover id).handover ≠ 0 →
      (s'.controlStream.abortHandover id).handover = s.controlStream.handover ∧
        s.controlStream.handover ∉ ids ++ [id] := by
    intro hne
    obtain ⟨hsame, hother⟩ := PrimaryControlStream.handover_abortHandover hne
    obtain ⟨hfirst, hnot⟩ := h.handover (hsame ▸ hne)
    exact ⟨hsame.trans hfirst, by simp [hnot, hfirst ▸ hother]⟩
  -- the key id under which the table would hold `id`
  have hkeyID : ∀ keyID, s'.renegotiations.lookup keyID = some id →
      ∃ state, s.states id = some state ∧ state.keyID = keyID := fun keyID hid =>
    hs.table keyID id (h.table keyID id hid).1
  unfold KeySession.drainKeyState KeySession.removeRenegotiationLocked
  rw [hstates]
  cases hstate : s.states id with
  | none =>
    refine ⟨by rw [h.frame], h.channels, fun keyID other hother => hnotMem keyID other hother ?_,
      hstream, hhandover⟩
    rintro rfl
    obtain ⟨state, hsome, -⟩ := hkeyID keyID hother
    rw [hstate] at hsome
    cases hsome
  | some state =>
    have hsame : ∀ keyID, s'.renegotiations.lookup keyID = some id → state.keyID = keyID := by
      intro keyID hid
      obtain ⟨state', hstate', hkeyID'⟩ := hkeyID keyID hid
      rw [hstate] at hstate'
      cases hstate'
      exact hkeyID'
    by_cases hlookup : s'.renegotiations.lookup state.keyID = some id
    · have hchannel : s'.renegotiationChannels.lookup state.keyID = some state.channel := by
        rw [h.channels, hlookup, (hs.heap id state hstate).channel]
      simp only [ne_eq, hlookup, not_true, if_false, hchannel, if_true]
      refine ⟨by rw [h.frame]; rfl, ?_, ?_, hstream, hhandover⟩
      · intro keyID
        dsimp only
        by_cases heq : keyID = state.keyID
        · rw [heq, lookup_erase, lookup_erase]
        · rw [lookup_erase_ne heq, lookup_erase_ne heq, h.channels]
      · intro keyID other hother
        obtain ⟨hne, hold⟩ := lookup_erase_eq_some hother
        refine hnotMem keyID other hold ?_
        rintro rfl
        exact hne (hsame keyID hold).symm
    · simp only [ne_eq, hlookup, not_false_eq_true, if_true]
      refine ⟨by rw [h.frame], h.channels, fun keyID other hother => hnotMem keyID other hother ?_,
        hstream, hhandover⟩
      rintro rfl
      exact hlookup (hsame keyID hother ▸ hother)

theorem drained_foldl_drainKeyState (h : s.Consistent) (ids : List Nat) :
    Drained s ids (ids.foldl KeySession.drainKeyState s) := by
  induction ids using reverseRecOn with
  | nil =>
    exact ⟨rfl, h.channels, fun _ _ hid => ⟨hid, not_mem_nil⟩, rfl, fun _ => ⟨rfl, not_mem_nil⟩⟩
  | append_singleton ids id ih =>
    rw [foldl_append]
    exact ih.drainKeyState h id

theorem Consistent.failAllRenegotiations (h : s.Consistent) :
    Consistent s.failAllRenegotiations ∧ Frame s s.failAllRenegotiations ∧
      s.failAllRenegotiations.promotions = s.promotions := by
  obtain ⟨hframe, hchannels, htable, -, -⟩ := drained_foldl_drainKeyState h s.tracked
  have hempty : ∀ keyID, (s.tracked.foldl drainKeyState s).renegotiations.lookup keyID = none := by
    intro keyID
    by_contra hsome
    obtain ⟨id, hid⟩ := Option.ne_none_iff_exists'.mp hsome
    obtain ⟨hold, hnotMem⟩ := htable keyID id hid
    exact hnotMem (mem_tracked.mpr ⟨keyID, hold⟩)
  unfold KeySession.failAllRenegotiations
  rw [hframe]
  refine ⟨{ h with
    table := fun keyID id hid => ?_
    channels := hchannels
    promotedState := fun hzero => ?_
    closed := fun _ => ⟨rfl, hempty⟩ }, .of_states_eq rfl rfl rfl, rfl⟩
  · rw [hempty keyID] at hid
    cases hid
  · obtain ⟨state, hstate, hkeyID, -⟩ := h.promotedState hzero
    exact ⟨state, hstate, hkeyID, fun hopen => by cases hopen⟩

theorem Consistent.installInitial (h : s.Consistent) (hnone : s.keys.sendCodec = none)
    {manager : SessionManager} (hmanager : s.sessionManagers 0 = some manager) :
    Consistent { s with keys := DataKeys.installInitialDataCodec 0 manager.keyID 0 } := by
  obtain ⟨hsequence, -⟩ := h.unsent hnone
  have hzero : s.promotedKeyStateSequence = 0 := Nat.le_zero.mp (hsequence ▸ h.promoted_le)
  exact { h with
    promotedState := fun hne => absurd hzero hne
    initialKey := fun _ => h.rootKeyID manager hmanager
    sending := .inr ⟨congrArg some hzero.symm, congrArg some hzero.symm⟩
    unsent := fun hnot => by cases hnot }

end Others

/-! ### Runs -/

section Runs

variable {s s' : KeySession} {event : KeyEvent}

/-- What a step does to a consistent session, and which key state it promotes. -/
inductive Effect (s : KeySession) (event : KeyEvent) : Option (Nat × UInt8) → KeySession → Prop
  | kept : Effect s event none s
  | installs {manager : SessionManager} : s.keys.sendCodec = none →
      s.sessionManagers 0 = some manager →
      Effect s event none { s with keys := DataKeys.installInitialDataCodec 0 manager.keyID 0 }
  | resets {localResets : List (Option UInt8)} : s.keys.sendCodec ≠ none →
      Effect s event none { s with localResets }
  | begins {localResets : List (Option UInt8)} (keyID : UInt8) (initiator : Bool) (now : Time) :
      s.keys.sendCodec ≠ none →
      Effect s event none ({ s with localResets }.beginSoftReset keyID initiator now).2
  | stages {id : Nat} {now : Time} {state : RenegotiationState} : event = .stage id now →
      s.states id = some state →
      Effect s event none (s.stageNegotiatedReceiveKey state.keyID id now).2
  | fails {id : Nat} {state : RenegotiationState} (err : SoftResetError) :
      s.states id = some state → state.finished = false →
      Effect s event none (s.failSoftReset id state err)
  | completes {id : Nat} {state : RenegotiationState} (now installNow pruneNow : Time) :
      s.states id = some state → state.finished = false →
      s.renegotiations.lookup state.keyID = some id →
      Effect s event
        (if (s.completeSoftReset id state id now installNow pruneNow).1 then some (id, state.keyID)
          else none)
        (s.completeSoftReset id state id now installNow pruneNow).2
  | confirms (id : Nat) :
      Effect s event none (s.modifyState id fun state => { state with peerDataConfirmed := true })
  | expires {id : Nat} : id ≠ s.promotedKeyStateSequence → s.status id ≠ some .negotiating →
      Effect s event none (s.removeRenegotiationLocked id)
  | selects (keyID : UInt8) (now : Time) :
      Effect s event none { s with keys := (s.keys.selectReceiveCodec keyID now).2 }
  | closes : Effect s event none { s with renegotiationsClosed := true }
  | failsAll : Effect s event none s.failAllRenegotiations
  | failsNext {id : Nat} {rest : List Nat} : s.failing = id :: rest →
      Effect s event none ({ s with failing := rest }.failState id)

theorem Consistent.effect (h : s.Consistent) (hstep : s.step event = some s') :
    ∃ promotion, s.promotion event = promotion ∧ Effect s event promotion s' := by
  cases event <;> simp only [KeySession.step] at hstep
  case installInitial =>
    split at hstep
    · next hnone hmanager =>
      cases hstep
      exact ⟨none, rfl, .installs hnone hmanager⟩
    · cases hstep
  case localScan =>
    split_ifs at hstep with hguard
    cases hstep
    exact ⟨none, rfl, .resets (Option.isSome_iff_ne_none.mp hguard.1)⟩
  case localChoose index =>
    split_ifs at hstep with hreset
    cases hstep
    exact ⟨none, rfl, .resets (h.sending_of_localReset hreset)⟩
  case localBegin index now =>
    split at hstep
    · next keyID hreset =>
      cases hstep
      exact ⟨none, rfl, .begins keyID true now (h.sending_of_localReset hreset)⟩
    · cases hstep
  case remoteBegin keyID now =>
    split_ifs at hstep with hguard
    cases hstep
    exact ⟨none, rfl, .begins keyID false now (Option.isSome_iff_ne_none.mp hguard)⟩
  case stage id now =>
    split at hstep
    · next state hstate =>
      split_ifs at hstep
      cases hstep
      exact ⟨none, rfl, .stages rfl hstate⟩
    · cases hstep
  case finish id hasCodec err now installNow pruneNow =>
    split at hstep
    · next hsome =>
      cases hstep
      obtain ⟨state, hstate⟩ := Option.isSome_iff_exists.mp hsome
      refine ⟨_, rfl, ?_⟩
      simp only [promotion, hstate]
      rcases finishSoftReset_cases hstate hasCodec err now installNow pruneNow with
        heq | ⟨hunfinished, err, heq⟩ | ⟨hunfinished, htracked, heq⟩
      · rw [heq]
        exact .kept
      · rw [heq]
        exact .fails err hstate hunfinished
      · rw [heq]
        exact .completes now installNow pruneNow hstate hunfinished htracked
    · cases hstep
  case confirm keyID now installNow pruneNow =>
    cases hstep
    refine ⟨_, rfl, ?_⟩
    simp only [promotion]
    rcases confirmDataKey_cases h keyID now installNow pruneNow with heq | ⟨id, heq⟩
    · rw [heq]
      exact .kept
    · rw [heq]
      exact .confirms id
  case expire id now =>
    cases hstep
    rcases expireKeyState_cases h id now with heq | ⟨hne, hstatus, heq⟩
    · rw [heq]
      exact ⟨none, rfl, .kept⟩
    · rw [heq]
      exact ⟨none, rfl, .expires hne hstatus⟩
  case select keyID now =>
    cases hstep
    exact ⟨none, rfl, .selects keyID now⟩
  case markClosing =>
    cases hstep
    exact ⟨none, rfl, .closes⟩
  case failAll =>
    cases hstep
    exact ⟨none, rfl, .failsAll⟩
  case failNext =>
    split at hstep
    · cases hstep
    · next hfailing =>
      cases hstep
      exact ⟨none, rfl, .failsNext hfailing⟩

/-- What a step may do to the sending key: a completion may hand it to a newer key
    state of the table, and nothing else promotes. -/
theorem Consistent.step (h : s.Consistent) (hstep : s.step event = some s') :
    s'.Consistent ∧ Frame s s' ∧
      ((s.promotion event = none ∧ s'.promotions = s.promotions ∧
        (s.shutDown = true → s'.shutDown = true)) ∨
      ∃ id state, s.promotion event = some (id, state.keyID) ∧
        s.renegotiations.lookup state.keyID = some id ∧ Promotes s id state s') := by
  have hquiet : ∀ {s s' : KeySession}, s'.Consistent ∧ Unpromoted s s' →
      s'.Consistent ∧ Frame s s' ∧ s'.promotions = s.promotions ∧
        (s.shutDown = true → s'.shutDown = true) := fun ⟨hkept, hframe⟩ =>
    ⟨hkept, hframe.toFrame, hframe.promotions, fun hdown => hframe.shutDown.trans hdown⟩
  obtain ⟨promotion, hpromotion, heffect⟩ := h.effect hstep
  rw [hpromotion]
  cases heffect with
  | kept => exact ⟨h, .of_states_eq rfl rfl rfl, .inl ⟨rfl, rfl, id⟩⟩
  | installs hnone hmanager =>
    exact ⟨h.installInitial hnone hmanager, .of_states_eq rfl rfl rfl, .inl ⟨rfl, rfl, id⟩⟩
  | resets hsending =>
    exact ⟨h.withLocalResets hsending _, .of_states_eq rfl rfl rfl, .inl ⟨rfl, rfl, id⟩⟩
  | @begins localResets keyID initiator now hsending =>
    obtain ⟨hkept, hframe, hsame⟩ :=
      hquiet ((h.withLocalResets hsending localResets).beginSoftReset hsending keyID initiator now)
    exact ⟨hkept, { hframe with }, .inl ⟨rfl, hsame⟩⟩
  | @stages id now state hevent hstate =>
    obtain ⟨hkept, hframe, hsame⟩ := hquiet (h.stageNegotiatedReceiveKey state.keyID id now)
    exact ⟨hkept, hframe, .inl ⟨rfl, hsame⟩⟩
  | fails err hstate hunfinished =>
    obtain ⟨hkept, hframe, hsame⟩ := hquiet (h.failSoftReset hstate hunfinished err)
    exact ⟨hkept, hframe, .inl ⟨rfl, hsame⟩⟩
  | @completes id state now installNow pruneNow hstate hunfinished htracked =>
    obtain ⟨hkept, ⟨hflag, hunpromoted⟩ | ⟨hflag, hpromotes⟩⟩ :=
      h.completeSoftReset hstate hunfinished htracked now installNow pruneNow
    · obtain ⟨-, hframe, hsame⟩ := hquiet ⟨hkept, hunpromoted⟩
      exact ⟨hkept, hframe, .inl ⟨if_neg (by simp [hflag]), hsame⟩⟩
    · exact ⟨hkept, hpromotes.toFrame, .inr ⟨id, state, if_pos hflag, htracked, hpromotes⟩⟩
  | confirms id =>
    refine ⟨h.modifyState fun state hstate => ⟨{ h.heap id state hstate with }, rfl⟩, ?_,
      .inl ⟨rfl, rfl, fun hdown => hdown⟩⟩
    exact frame_modifyState fun _ _ => rfl
  | @expires id hne _ =>
    obtain ⟨hkept, hframe, hsame⟩ := hquiet
      ⟨h.removeRenegotiationLocked fun _ => hne, unpromoted_removeRenegotiationLocked h id⟩
    exact ⟨hkept, hframe, .inl ⟨rfl, hsame⟩⟩
  | selects keyID now =>
    exact ⟨h.withKeys _ rfl rfl rfl, .of_states_eq rfl rfl rfl, .inl ⟨rfl, rfl, id⟩⟩
  | closes =>
    exact ⟨{ h with closed := fun hdown => ⟨rfl, (h.closed hdown).2⟩ }, .of_states_eq rfl rfl rfl,
      .inl ⟨rfl, rfl, id⟩⟩
  | failsAll =>
    obtain ⟨hkept, hframe, hpromotions⟩ := h.failAllRenegotiations
    exact ⟨hkept, hframe, .inl ⟨rfl, hpromotions, fun _ => rfl⟩⟩
  | @failsNext id rest _ =>
    have hpopped : Consistent { s with failing := rest } := { h with }
    obtain ⟨hkept, hframe, hsame⟩ := hquiet (hpopped.failState id)
    exact ⟨hkept, { hframe with }, .inl ⟨rfl, hsame⟩⟩

theorem consistent_newKeySession (role : TLSRole) (handshakeWindow : Duration)
    {sessionManager : SessionManager} (hkeyID : sessionManager.keyID = 0) :
    (newKeySession role handshakeWindow sessionManager).Consistent where
  heap := fun id state hstate => by cases hstate
  created := fun id => by
    simp only [newKeySession, Option.isSome_none, Bool.false_eq_true, false_iff]
    omega
  managers := fun id => by
    by_cases hzero : id = 0
    · simp [newKeySession, hzero]
    · simp [newKeySession, hzero]
  rootKeyID := fun manager hmanager => by
    simp only [newKeySession, update_self, Option.some.injEq] at hmanager
    rw [← hmanager, hkeyID]
  table := fun keyID id hid => by cases hid
  channels := fun keyID => rfl
  promotedState := fun hne => absurd rfl hne
  initialKey := fun _ => rfl
  sending := .inl rfl
  unsent := fun _ => ⟨rfl, rfl⟩
  history := List.Pairwise.nil
  newest := rfl
  closed := fun hdown => by cases hdown

theorem consistent_of_reachable {allowed : KeySession → KeyEvent → Prop}
    (h : ReachableBy keySystem allowed s) : s.Consistent := by
  apply h.invariant
  · rintro state ⟨role, handshakeWindow, sessionManager, hkeyID, rfl⟩
    exact consistent_newKeySession role handshakeWindow hkeyID
  · intro state event state' hconsistent _ hnext
    exact (hconsistent.step hnext).1

/-- A step leaves the session managers there are alone. -/
theorem Consistent.sessionManagers_step (h : s.Consistent)
    (hstep : s.step event = some s') {id : Nat}
    {manager : SessionManager} (hmanager : s.sessionManagers id = some manager) :
    s'.sessionManagers id = some manager := by
  obtain ⟨hkept, hframe, -⟩ := h.step hstep
  have hle : id ≤ s.renegotiationSequence := (h.managers id).mp (hmanager ▸ rfl)
  obtain ⟨manager', hmanager'⟩ := Option.isSome_iff_exists.mp
    ((hkept.managers id).mpr (le_trans hle hframe.sequence))
  rcases hframe.managers id manager' hmanager' with hsame | ⟨hnew, -⟩
  · rw [hmanager', ← hsame, hmanager]
  · exact absurd hle (Nat.not_le.mpr hnew)

/-- After shutdown the table is empty, so no run promotes anything. -/
theorem promotions_eq_of_shutDown (h : s.Consistent) (hdown : s.shutDown = true)
    {events : List KeyEvent}
    (hrun : runFrom keySystem (fun _ _ => True) s events = some s') :
    s'.promotions = s.promotions := by
  induction events generalizing s with
  | nil =>
    cases hrun
    rfl
  | cons event events ih =>
    obtain ⟨middle, hmiddle, hrest⟩ := Option.bind_eq_some_iff.mp hrun
    obtain ⟨hkept, -, ⟨-, hsame, hstays⟩ | ⟨id, state, -, htracked, -⟩⟩ := h.step hmiddle
    · rw [ih hkept (hstays hdown) hrest, hsame]
    · rw [(h.closed hdown).2] at htracked
      cases htracked

end Runs

end KeySession

open KeySession

/-- **The key-state machine.**  In every state of every run: one key state at most is
    active; the active one has the send key id and the highest sequence ever
    promoted; a completion that follows the promotion of a newer key state leaves
    the send key as it is; nothing is promoted once the session has shut down; and
    the routing table holds exactly the channels of the tracked key states. -/
theorem keyState_invariant {s : KeySession} (h : Reachable keySystem s) :
    (∀ id id' state state', s.states id = some state → s.states id' = some state' →
      state.status = .active → state'.status = .active → id = id') ∧
    (∀ id state, s.states id = some state → state.status = .active →
      state.keyID = s.keys.sendKeyID ∧ state.sequence ∈ s.promotions ∧
        ∀ promoted ∈ s.promotions, promoted ≤ state.sequence) ∧
    (∀ id hasCodec err now installNow pruneNow s',
      s.step (.finish id hasCodec err now installNow pruneNow) = some s' →
      (∃ newer ∈ s.promotions, id < newer) →
      s'.keys.sendCodec = s.keys.sendCodec ∧ s'.keys.sendKeyID = s.keys.sendKeyID ∧
        s'.keys.sendSessionManager = s.keys.sendSessionManager) ∧
    (s.shutDown = true → ∀ events s',
      runFrom keySystem (fun _ _ => True) s events = some s' → s'.promotions = s.promotions) ∧
    (∀ keyID, s.renegotiationChannels.lookup keyID =
      ((s.renegotiations.lookup keyID).bind s.states).map RenegotiationState.channel) := by
  have hconsistent := consistent_of_reachable h
  refine ⟨?_, ?_, ?_, ?_, ?_⟩
  · intro id id' state state' hstate hstate' hactive hactive'
    rw [(hconsistent.heap id state hstate).active.mp hactive,
      (hconsistent.heap id' state' hstate').active.mp hactive']
  · intro id state hstate hactive
    have hfits := hconsistent.heap id state hstate
    have hid := hfits.active.mp hactive
    have hpositive := hconsistent.pos hstate
    obtain ⟨promoted, hpromoted, hkeyID, -⟩ := hconsistent.promotedState (by omega)
    rw [← hid, hstate] at hpromoted
    cases hpromoted
    refine ⟨hkeyID, ?_, fun sequence hsequence => ?_⟩
    · rw [hfits.sequence, hid, hconsistent.newest]
      cases hhistory : s.promotions with
      | nil =>
        rw [hconsistent.newest, hhistory] at hid
        exact absurd hid (Nat.pos_iff_ne_zero.mp hpositive)
      | cons newest older => exact mem_cons_self
    · rw [hfits.sequence, hid]
      exact hconsistent.le_promoted hsequence
  · rintro id hasCodec err now installNow pruneNow s' hstep ⟨newer, hnewer, hlt⟩
    simp only [KeySession.step] at hstep
    split at hstep
    · next hsome =>
      cases hstep
      obtain ⟨state, hstate⟩ := Option.isSome_iff_exists.mp hsome
      obtain ⟨-, ⟨-, hsame⟩ | ⟨-, -, hpromotes⟩⟩ :=
        hconsistent.finishSoftReset hstate hasCodec err now installNow pruneNow
      · exact ⟨hsame.sendCodec, hsame.sendKeyID, hsame.sendSessionManager⟩
      · have hle := hconsistent.le_promoted hnewer
        have hover := hpromotes.newer
        omega
    · cases hstep
  · intro hdown events s' hrun
    exact promotions_eq_of_shutDown hconsistent hdown hrun
  · intro keyID
    rw [hconsistent.channels]
    cases hlookup : s.renegotiations.lookup keyID with
    | none => rfl
    | some id =>
      obtain ⟨state, hstate, -⟩ := hconsistent.table keyID id hlookup
      rw [Option.bind_some, hstate, Option.map_some, (hconsistent.heap id state hstate).channel]

/-- Two overlapping negotiations: the newer one completes first and keeps the send
    key when the older one completes. -/
theorem keyState_invariant_overtaken :
    ∃ s, Reachable keySystem s ∧ s.promotions = [2] ∧
      ∀ s', s.step (.finish 1 true none 1 1 1) = some s' →
        s'.keys.sendKeyID = s.keys.sendKeyID := by
  obtain ⟨s, hreachable, hpromoted⟩ : ∃ s, Reachable keySystem s ∧ s.promotions = [2] :=
    exists_reachableBy keySystem_initial_zeroServerSession
      [.installInitial, .remoteBegin 1 0, .remoteBegin 2 0, .finish 2 true none 0 0 0]
      (by decide +kernel)
  refine ⟨s, hreachable, hpromoted, fun s' hstep => ?_⟩
  exact ((keyState_invariant hreachable).2.2.1 1 true none 1 1 1 s' hstep
    ⟨2, by rw [hpromoted]; exact mem_cons_self, by decide⟩).2.1

end SingOpenVPN
