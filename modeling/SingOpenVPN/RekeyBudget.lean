import SingOpenVPN.KeyStateInvariant

/-!
# The rekey budget (`dataRenegotiationBudget`)

The budget counts bytes, packets and cipher blocks under one key, the active one,
and asks for a soft reset when a limit is reached; packets under other keys are not
counted.  A promotion hands sending to a new key under `softResetAccess`; the budget
learns about it from the callback `onRenegotiated`, which the completing goroutine
makes after it has released that lock and which takes the lock of the budget.

So two promotions can be followed by their callbacks in the other order.  What has to
be shown about a run is that the newest promotion's callback is still to come or was
the last one.
-/

namespace SingOpenVPN

open TransitionSystem

/-! ### The budget -/

inductive RenegotiationDirection where
  | send
  | receive
deriving DecidableEq, Repr

structure DirectionUsage where
  highestPacketID : UInt32
  plaintextBlocks : UInt64
deriving DecidableEq

def DirectionUsage.zero : DirectionUsage := ⟨0, 0⟩

structure RenegotiationBudget where
  bytesLimit : UInt64
  packetsLimit : UInt64
  aeadUsageLimit : UInt64
  activeKeyID : UInt8
  bytesTransferred : UInt64
  packetsTransferred : UInt64
  sendUsage : DirectionUsage
  receiveUsage : DirectionUsage
deriving DecidableEq

def packetIDWrapTrigger : UInt32 := 0xFF000000

def sweet32CipherRenegotiationBytesClamp : UInt64 := 64 * 1024 * 1024

def sweet32VulnerableCipherNames : List String :=
  ["BF-CBC", "BF-CFB", "BF-OFB", "CAST5-CBC", "CAST5-CFB", "CAST5-OFB", "DES-CBC", "DES-CFB",
    "DES-OFB", "DES-EDE-CBC", "DES-EDE-CFB", "DES-EDE-OFB", "DES-EDE3-CBC", "DES-EDE3-CFB",
    "DES-EDE3-OFB", "RC2-CBC", "RC2-40-CBC", "RC2-64-CBC"]

def aesGCMUsageLimit : UInt64 := ((((1 : UInt64) <<< 36) - 1) / 8) * 7

/-- `newDataRenegotiationBudget`; the cipher name is trimmed and in upper case already. -/
def newDataRenegotiationBudget (normalizedCipherName : String)
    (configuredBytes configuredPackets : UInt64) (activeKeyID : UInt8) : RenegotiationBudget where
  bytesLimit :=
    if configuredBytes = 0 ∧ normalizedCipherName ∈ sweet32VulnerableCipherNames then
      sweet32CipherRenegotiationBytesClamp
    else configuredBytes
  packetsLimit := configuredPackets
  aeadUsageLimit :=
    if normalizedCipherName ∈ ["AES-128-GCM", "AES-192-GCM", "AES-256-GCM"] then aesGCMUsageLimit
    else 0
  activeKeyID := activeKeyID
  bytesTransferred := 0
  packetsTransferred := 0
  sendUsage := .zero
  receiveUsage := .zero

namespace RenegotiationBudget

variable (b : RenegotiationBudget)

def consumeTransfer (keyID : UInt8) (accountedBytes : Int) :
    Bool × RenegotiationBudget :=
  if keyID ≠ b.activeKeyID then (false, b)
  else
    let b := { b with
      bytesTransferred :=
        if 0 < accountedBytes then b.bytesTransferred + .ofNat accountedBytes.toNat
        else b.bytesTransferred
      packetsTransferred := b.packetsTransferred + 1 }
    ((0 < b.bytesLimit ∧ b.bytesLimit ≤ b.bytesTransferred) ∨
      (0 < b.packetsLimit ∧ b.packetsLimit ≤ b.packetsTransferred), b)

def usage : RenegotiationDirection → DirectionUsage
  | .send => b.sendUsage
  | .receive => b.receiveUsage

def setUsage (usage : DirectionUsage) :
    RenegotiationDirection → RenegotiationBudget
  | .send => { b with sendUsage := usage }
  | .receive => { b with receiveUsage := usage }

def consumeUsage (keyID : UInt8) (direction : RenegotiationDirection)
    (packetID : UInt32) (aeadBlockBytes : Int) : Bool × RenegotiationBudget :=
  if keyID ≠ b.activeKeyID then (false, b)
  else
    let old := b.usage direction
    let usage : DirectionUsage := {
      highestPacketID := if old.highestPacketID < packetID then packetID else old.highestPacketID
      plaintextBlocks :=
        if 0 < aeadBlockBytes then old.plaintextBlocks + (.ofNat aeadBlockBytes.toNat + 15) / 16
        else old.plaintextBlocks }
    ((direction = .send ∧ packetIDWrapTrigger ≤ packetID) ∨
      (0 < b.aeadUsageLimit ∧
        b.aeadUsageLimit < usage.plaintextBlocks + usage.highestPacketID.toUInt64),
      b.setUsage usage direction)

def reset (activeKeyID : UInt8) : RenegotiationBudget :=
  { b with
    activeKeyID := activeKeyID
    bytesTransferred := 0
    packetsTransferred := 0
    sendUsage := .zero
    receiveUsage := .zero }

variable (b : RenegotiationBudget)

@[simp]
theorem activeKeyID_consumeTransfer (keyID : UInt8) (accountedBytes : Int) :
    (b.consumeTransfer keyID accountedBytes).2.activeKeyID = b.activeKeyID := by
  unfold consumeTransfer
  split
  · rfl
  · rfl

@[simp]
theorem activeKeyID_consumeUsage (keyID : UInt8)
    (direction : RenegotiationDirection) (packetID : UInt32) (aeadBlockBytes : Int) :
    (b.consumeUsage keyID direction packetID aeadBlockBytes).2.activeKeyID = b.activeKeyID := by
  unfold consumeUsage
  split
  · rfl
  · cases direction with
    | send => rfl
    | receive => rfl

/-- What it means that the budget counts a key: every packet adds to its counters, and
    the packet ids near the wrap ask for a new key. -/
structure Counts (b : RenegotiationBudget) (keyID : UInt8) : Prop where
  packets : ∀ accountedBytes, (b.consumeTransfer keyID accountedBytes).2.packetsTransferred =
    b.packetsTransferred + 1
  bytes : ∀ accountedBytes : Int, 0 < accountedBytes →
    (b.consumeTransfer keyID accountedBytes).2.bytesTransferred =
      b.bytesTransferred + .ofNat accountedBytes.toNat
  blocks : ∀ direction packetID (aeadBlockBytes : Int), 0 < aeadBlockBytes →
    ((b.consumeUsage keyID direction packetID aeadBlockBytes).2.usage direction).plaintextBlocks =
      (b.usage direction).plaintextBlocks + (.ofNat aeadBlockBytes.toNat + 15) / 16
  wrap : ∀ packetID aeadBlockBytes, packetIDWrapTrigger ≤ packetID →
    (b.consumeUsage keyID .send packetID aeadBlockBytes).1 = true

theorem counts_activeKeyID : b.Counts b.activeKeyID where
  packets := by
    intro accountedBytes
    simp [consumeTransfer]
  bytes := by
    intro accountedBytes hpositive
    simp [consumeTransfer, hpositive]
  blocks := by
    intro direction packetID aeadBlockBytes hpositive
    cases direction with
    | send | receive => simp [consumeUsage, setUsage, usage, hpositive]
  wrap := by
    intro packetID aeadBlockBytes hwrap
    simp [consumeUsage, hwrap]

end RenegotiationBudget

/-! ### A session with its budget -/

/-- `callbacks` holds the promotions whose goroutine has not called `onRenegotiated` yet:
    sequence and key id. -/
structure MeteredSession where
  session : KeySession
  budget : RenegotiationBudget
  callbacks : List (Nat × UInt8)

inductive MeteredEvent where
  | key (event : KeyEvent)
  /-- `noteRenegotiated`, called back by one of the goroutines that promoted -/
  | noteRenegotiated (index : Nat)
  /-- `consumeOutboundRenegotiationBudget` -/
  | outbound (keyID : UInt8) (packetID : UInt32) (aeadBlockBytes accountedBytes : Int)
  /-- `consumeInboundRenegotiationCounter` -/
  | inboundCounter (keyID : UInt8) (accountedBytes : Int)
  /-- `consumeInboundRenegotiationUsage` -/
  | inboundUsage (keyID : UInt8) (packetID : UInt32) (aeadBlockBytes : Int)
deriving DecidableEq

namespace MeteredSession

/-- A soft reset that the budget asks for is an event of the key states like any other. -/
def step (s : MeteredSession) : MeteredEvent → Option MeteredSession
  | .key event =>
    (s.session.step event).map fun session =>
      { s with
        session := session
        callbacks := s.callbacks ++ (s.session.promotion event).toList }
  | .noteRenegotiated index =>
    match s.callbacks[index]? with
    | none => none
    | some (_, keyID) =>
      some { s with
        budget := s.budget.reset keyID
        callbacks := s.callbacks.eraseIdx index }
  | .outbound keyID packetID aeadBlockBytes accountedBytes =>
    some { s with
      budget := ((s.budget.consumeTransfer keyID accountedBytes).2.consumeUsage keyID .send packetID
        aeadBlockBytes).2 }
  | .inboundCounter keyID accountedBytes =>
    some { s with budget := (s.budget.consumeTransfer keyID accountedBytes).2 }
  | .inboundUsage keyID packetID aeadBlockBytes =>
    some { s with budget := (s.budget.consumeUsage keyID .receive packetID aeadBlockBytes).2 }

/-- The newest promotion still has its callback to make. -/
def NewestOutstanding (s : MeteredSession) : Prop :=
  ∃ callback ∈ s.callbacks, callback.1 = s.session.promotedKeyStateSequence

instance (s : MeteredSession) : Decidable s.NewestOutstanding :=
  inferInstanceAs (Decidable (∃ callback ∈ s.callbacks, _))

/-- The condition under which the budget follows the send key: a superseded promotion
    calls back only while the newest one has not. -/
def CallbacksInOrder (s : MeteredSession) : MeteredEvent → Prop
  | .noteRenegotiated _ => s.NewestOutstanding
  | _ => True

instance (s : MeteredSession) (event : MeteredEvent) : Decidable (s.CallbacksInOrder event) :=
  match event with
  | .noteRenegotiated _ => inferInstanceAs (Decidable s.NewestOutstanding)
  | .key _ | .outbound .. | .inboundCounter .. | .inboundUsage .. => .isTrue trivial

end MeteredSession

def meteredSystem : System MeteredSession MeteredEvent where
  initial s := ∃ session cipherName bytes packets, keySystem.initial session ∧
    s = ⟨session, newDataRenegotiationBudget cipherName bytes packets 0, []⟩
  step := MeteredSession.step

namespace KeySession

variable {s s' : KeySession} {event : KeyEvent}

theorem Consistent.sendKeyID_step (h : s.Consistent) (hstep : s.step event = some s') :
    (s.promotion event = none ∧ s'.promotedKeyStateSequence = s.promotedKeyStateSequence ∧
      s'.keys.sendKeyID = s.keys.sendKeyID) ∨
    ∃ id, s.promotion event = some (id, s'.keys.sendKeyID) ∧ s.promotedKeyStateSequence < id ∧
      s'.promotedKeyStateSequence = id := by
  obtain ⟨hkept, hframe, ⟨hnone, hsame, -⟩ | ⟨id, state, hpromotion, -, hpromotes⟩⟩ := h.step hstep
  · left
    have hpromoted : s'.promotedKeyStateSequence = s.promotedKeyStateSequence := by
      rw [h.newest, hkept.newest, hsame]
    refine ⟨hnone, hpromoted, ?_⟩
    by_cases hzero : s.promotedKeyStateSequence = 0
    · rw [h.initialKey hzero, hkept.initialKey (hpromoted.trans hzero)]
    · -- the promoted key state keeps its key id
      obtain ⟨state, hstate, hkeyID, -⟩ := h.promotedState hzero
      obtain ⟨state', hstate', hkeyID', -⟩ := hkept.promotedState (hpromoted ▸ hzero)
      rw [hpromoted] at hstate'
      rcases hframe.keyIDs _ state' hstate' with ⟨old, hold, hidentical⟩ | hnew
      · obtain rfl : state = old := Option.some.inj (hstate.symm.trans hold)
        rw [← hkeyID, ← hkeyID', hidentical]
      · exact absurd h.promoted_le (Nat.not_le.mpr hnew)
  · right
    refine ⟨id, ?_, hpromotes.newer, hpromotes.promoted⟩
    rw [hpromotion, hpromotes.sendKeyID]

end KeySession

namespace MeteredSession

/-! ### Which key the budget meters -/

structure Invariant (s : MeteredSession) : Prop where
  consistent : s.session.Consistent
  bounded : ∀ callback ∈ s.callbacks, callback.1 ≤ s.session.promotedKeyStateSequence
  newest : ∀ callback ∈ s.callbacks, callback.1 = s.session.promotedKeyStateSequence →
    callback.2 = s.session.keys.sendKeyID
  metered : s.NewestOutstanding ∨ s.budget.activeKeyID = s.session.keys.sendKeyID

variable {s s' : MeteredSession}

theorem Invariant.key (h : s.Invariant) {event : KeyEvent} (hstep : s.step (.key event) = some s') :
    s'.Invariant := by
  obtain ⟨session, hsession, rfl⟩ := Option.map_eq_some_iff.mp hstep
  have hkept := (h.consistent.step hsession).1
  rcases h.consistent.sendKeyID_step hsession with ⟨hnone, hsame, hkeyID⟩ | ⟨id, hsome, hnewer, hid⟩
  · rw [hnone, Option.toList_none, List.append_nil]
    refine ⟨hkept, ?_, ?_, ?_⟩
    · rw [hsame]
      exact h.bounded
    · rw [hsame, hkeyID]
      exact h.newest
    · rw [NewestOutstanding, hsame, hkeyID]
      exact h.metered
  · rw [hsome, Option.toList_some]
    have hold : ∀ callback ∈ s.callbacks, callback.1 < id := fun callback hcallback =>
      lt_of_le_of_lt (h.bounded callback hcallback) hnewer
    refine ⟨hkept, ?_, ?_, .inl ⟨(id, session.keys.sendKeyID), by simp, hid.symm⟩⟩
    · intro callback hcallback
      rw [hid]
      rcases List.mem_append.mp hcallback with hearlier | hthis
      · exact le_of_lt (hold callback hearlier)
      · rw [List.mem_singleton.mp hthis]
    · intro callback hcallback hnewest
      dsimp only at hnewest ⊢
      rcases List.mem_append.mp hcallback with hearlier | hthis
      · have hlt := hold callback hearlier
        omega
      · rw [List.mem_singleton.mp hthis]

/-- A callback that the newest promotion makes sets the budget to the send key; any other
    one is followed by that of the newest. -/
theorem Invariant.noteRenegotiated (h : s.Invariant) {index : Nat}
    (houtstanding : s.NewestOutstanding)
    (hstep : s.step (.noteRenegotiated index) = some s') : s'.Invariant := by
  simp only [step] at hstep
  split at hstep
  · cases hstep
  next sequence keyID hcallback =>
    cases hstep
    have hmem : (sequence, keyID) ∈ s.callbacks := List.mem_of_getElem? hcallback
    have hsub : ∀ callback ∈ s.callbacks.eraseIdx index, callback ∈ s.callbacks :=
      fun callback => List.mem_of_mem_eraseIdx
    refine ⟨h.consistent, fun callback hmem => h.bounded callback (hsub callback hmem),
      fun callback hmem => h.newest callback (hsub callback hmem), ?_⟩
    by_cases hthis : sequence = s.session.promotedKeyStateSequence
    · right
      exact h.newest (sequence, keyID) hmem hthis
    · left
      obtain ⟨newest, hnewest, heq⟩ := houtstanding
      refine ⟨newest, ?_, heq⟩
      obtain ⟨position, hposition⟩ := List.mem_iff_getElem?.mp hnewest
      refine List.mem_eraseIdx_iff_getElem?.mpr ⟨position, ?_, hposition⟩
      rintro rfl
      rw [hposition] at hcallback
      cases hcallback
      exact hthis heq

theorem Invariant.withBudget (h : s.Invariant) {budget : RenegotiationBudget}
    (hsame : budget.activeKeyID = s.budget.activeKeyID) :
    Invariant { s with budget := budget } :=
  { h with metered := h.metered.imp_right fun hactive => hsame.trans hactive }

theorem Invariant.step (h : s.Invariant) {event : MeteredEvent} (horder : s.CallbacksInOrder event)
    (hstep : s.step event = some s') : s'.Invariant := by
  cases event with
  | key event => exact h.key hstep
  | noteRenegotiated index => exact h.noteRenegotiated horder hstep
  | outbound keyID packetID aeadBlockBytes accountedBytes | inboundCounter keyID accountedBytes
  | inboundUsage keyID packetID aeadBlockBytes =>
    cases hstep
    exact h.withBudget (by simp)

theorem invariant_of_reachableBy (h : ReachableBy meteredSystem CallbacksInOrder s) :
    s.Invariant := by
  apply h.invariant
  · rintro state ⟨session, cipherName, bytes, packets, hinitial, rfl⟩
    have hstart : Reachable keySystem session := .start hinitial
    refine ⟨KeySession.consistent_of_reachable hstart, by simp, by simp, .inr ?_⟩
    obtain ⟨role, handshakeWindow, sessionManager, -, rfl⟩ := hinitial
    rfl
  · intro state event state' hinvariant horder hnext
    exact hinvariant.step horder hnext

end MeteredSession

open MeteredSession

/-- **The budget meters the key in use**, in every run in which a superseded promotion
    calls back only while the newest one has not: once every promotion has called back,
    the active key of the budget is the send key, and the budget counts it. -/
theorem budget_meters_send_key {s : MeteredSession}
    (h : ReachableBy meteredSystem CallbacksInOrder s) (hreturned : s.callbacks = []) :
    s.budget.activeKeyID = s.session.keys.sendKeyID ∧ s.budget.Counts s.session.keys.sendKeyID := by
  have hactive : s.budget.activeKeyID = s.session.keys.sendKeyID := by
    rcases (invariant_of_reachableBy h).metered with ⟨callback, hcallback, -⟩ | hactive
    · rw [hreturned] at hcallback
      cases hcallback
    · exact hactive
  exact ⟨hactive, hactive ▸ s.budget.counts_activeKeyID⟩

def zeroMeteredSession : MeteredSession :=
  ⟨zeroServerSession, newDataRenegotiationBudget "AES-256-GCM" 0 0 0, []⟩

theorem meteredSystem_initial_zeroMeteredSession : meteredSystem.initial zeroMeteredSession :=
  ⟨zeroServerSession, "AES-256-GCM", 0, 0, keySystem_initial_zeroServerSession, rfl⟩

/-- Two overlapping negotiations complete and call back in the order of their promotions. -/
theorem budget_meters_send_key_in_order :
    ∃ s, ReachableBy meteredSystem CallbacksInOrder s ∧ s.callbacks = [] ∧
      s.session.promotions = [2, 1] ∧ s.budget.activeKeyID = s.session.keys.sendKeyID := by
  obtain ⟨s, hreachable, hreturned, hpromotions⟩ :
      ∃ s, ReachableBy meteredSystem CallbacksInOrder s ∧ s.callbacks = [] ∧
        s.session.promotions = [2, 1] :=
    exists_reachableBy meteredSystem_initial_zeroMeteredSession
      [.key .installInitial, .key (.remoteBegin 1 0), .key (.remoteBegin 2 0),
        .key (.finish 1 true none 0 0 0), .key (.finish 2 true none 0 0 0), .noteRenegotiated 0,
        .noteRenegotiated 0] (by decide +kernel)
  exact ⟨s, hreachable, hreturned, hpromotions, (budget_meters_send_key hreachable hreturned).1⟩

/-- The second promotion calls back first.  Everything has returned, data is sent with
    key 2, and the budget counts key 1: even the last packet id of key 2 asks for no
    soft reset. -/
theorem budget_meters_retired_key :
    ∃ s, Reachable meteredSystem s ∧ s.callbacks = [] ∧ s.session.promotions = [2, 1] ∧
      s.session.keys.sendKeyID = 2 ∧ s.budget.activeKeyID = 1 ∧
      (s.budget.consumeUsage s.session.keys.sendKeyID .send 0xFFFFFFFF 1500).1 = false :=
  exists_reachableBy meteredSystem_initial_zeroMeteredSession
    [.key .installInitial, .key (.remoteBegin 1 0), .key (.remoteBegin 2 0),
      .key (.finish 1 true none 0 0 0), .key (.finish 2 true none 0 0 0), .noteRenegotiated 1,
      .noteRenegotiated 0] (by decide +kernel)

end SingOpenVPN
