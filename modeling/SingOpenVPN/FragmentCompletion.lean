import SingOpenVPN.FragmentInOrder

/-!
# A packet whose fragments all arrive is returned (`data_channel_fragmentation.go`)

A buffer is given up because it has not been filled for too long, because the window has
moved past it, or because its memory is needed; for the last reason a fragment may also be
refused together with the buffer it belongs to.  `Evicts` says so with the helpers of
`storeIncomingFragment`; that a packet is longer than an IP packet is no eviction.  Between
two evictions a buffer only grows (`Collecting`), and it leaves the table when it is complete.
-/

namespace SingOpenVPN

open ByteCodec Chunks TransitionSystem List Option FragmentSend FragmentReceiver

/-! ### Evictions -/

namespace FragmentReceiver

def GivesUp (before after : FragmentReceiver) (sequenceID : Nat) : Prop :=
  before.buffer sequenceID ≠ none ∧ after.buffer sequenceID = none

variable (order : RangeOrder) (f : FragmentReceiver) (now : Time)

def openedFor (fields : FragmentFields) : FragmentReceiver × IncomingFragmentBuffer :=
  (f.arrived order now fields.sequenceID).openBuffer now fields.sequenceID
    (if 0 < fields.maxFragmentSize then fields.maxFragmentSize else fields.payload.length)

def roomFor (fields : FragmentFields) : Bool × FragmentReceiver :=
  (f.openedFor order now fields).1.room order fields.sequenceID (f.openedFor order now fields).2
    (fields.payload.length -
      ((((f.openedFor order now fields).2.parts.lookup fields.fragmentID).getD []).length : Int))

def Refuses (piece : Bytes) : Prop := (f.roomFor order now (readFragment piece)).1 = false

/-- The buffer of `sequenceID` is given up when a piece arrives: for its age, for the
    window, for memory, or with the fragment itself. -/
def Evicts (piece : Bytes) (sequenceID : Nat) : Prop :=
  (readFragment piece).code ≠ FragmentType.whole.code ∧
    (GivesUp f (f.expireIncomingFragments order now) sequenceID ∨
      GivesUp (f.expireIncomingFragments order now)
        (f.arrived order now (readFragment piece).sequenceID) sequenceID ∨
      GivesUp (f.openedFor order now (readFragment piece)).1
        (f.roomFor order now (readFragment piece)).2 sequenceID ∨
      (readFragment piece).sequenceID = sequenceID ∧ f.Refuses order now piece)

variable {order f now}

theorem GivesUp.of_not {before after : FragmentReceiver} {sequenceID : Nat}
    (h : ¬GivesUp before after sequenceID) (hbefore : before.buffer sequenceID ≠ none) :
    after.buffer sequenceID ≠ none := fun hafter => h ⟨hbefore, hafter⟩

end FragmentReceiver

section Deliveries

variable (sends : FragmentStream)

/-! ### Runs -/

def AllowedRun : Reassembly → List FragmentDelivery → Prop
  | _, [] => True
  | state, delivery :: deliveries =>
    Allowed sends state delivery ∧ AllowedRun (deliver sends state delivery).2 deliveries

def results : Reassembly → List FragmentDelivery → List (Except String (Option Bytes))
  | _, [] => []
  | state, delivery :: deliveries =>
    (deliver sends state delivery).1 :: results (deliver sends state delivery).2 deliveries

def Undisturbed (sequenceID : Nat) : Reassembly → List FragmentDelivery → Prop
  | _, [] => True
  | state, delivery :: deliveries =>
    ¬state.receiver.Evicts delivery.order delivery.now delivery.piece sequenceID ∧
      Undisturbed sequenceID (deliver sends state delivery).2 deliveries

structure Carries (delivery : FragmentDelivery) (send index : Nat) : Prop where
  packet : delivery.send = send
  id : index < 32
  within : index * (sends send).size < (sends send).payload.length
  piece : delivery.piece = (sends send).fragment (sequenceOf sends send) index

/-- There is a buffer for a packet of the window, with at least these fragments. -/
structure Collecting (state : Reassembly) (send : Nat) (got : Nat → Prop) : Prop where
  owner : ∃ newest, state.newest = some newest ∧
    Owner sends newest (sequenceOf sends send) send
  present : state.receiver.buffer (sequenceOf sends send) ≠ none
  parts : ∀ b, state.receiver.buffer (sequenceOf sends send) = some b →
    ∀ index, got index → ∃ part, b.parts.lookup index = some part

variable {sends} {state : Reassembly} {delivery : FragmentDelivery} {send : Nat}
  {got more : Nat → Prop}

theorem Collecting.mono (h : Collecting sends state send got)
    (hmore : ∀ index, more index → got index) : Collecting sends state send more :=
  ⟨h.owner, h.present, fun b hb index hindex => h.parts b hb index (hmore index hindex)⟩

theorem Collecting.incomplete (hinvariant : ReassemblyInvariant sends state)
    (h : Collecting sends state send got) :
    ∃ index, index * (sends send).size < (sends send).payload.length ∧ ¬got index := by
  obtain ⟨newest, hnewest, howner⟩ := h.owner
  obtain ⟨b, hbuffer⟩ := ne_none_iff_exists'.mp h.present
  obtain ⟨owner, howner', -, index, hindex, hmissing⟩ :=
    (hinvariant.window newest hnewest).2.2 _ b hbuffer
  obtain rfl := howner.unique howner'
  refine ⟨index, hindex, fun hgot => ?_⟩
  obtain ⟨part, hpart⟩ := h.parts b hbuffer index hgot
  rw [hmissing] at hpart
  cases hpart

section Fragment

variable (hsize : ∀ send, (sends send).Consumes → (sends send).size ≤ 65535)
  (hcut : (sends delivery.send).Consumes) {index : Nat}
  (hcarries : Carries sends delivery delivery.send index)

include hsize hcut hcarries

theorem readFragment_delivery :
    readFragment delivery.piece =
      { code := if (sends delivery.send).isLast index then FragmentType.last.code
          else FragmentType.partialFragment.code
        sequenceID := sequenceOf sends delivery.send
        fragmentID := index
        maxFragmentSize :=
          if (sends delivery.send).isLast index then (sends delivery.send).size else 0
        payload := chunk (sends delivery.send).size (sends delivery.send).payload index } := by
  rw [hcarries.piece]
  exact readFragment_fragment (hsize _ hcut) (Nat.mod_lt _ (by decide)) hcarries.id

theorem openedFor_delivery :
    state.receiver.openedFor delivery.order delivery.now (readFragment delivery.piece) =
      openedAt sends state delivery := by
  rw [readFragment_delivery hsize hcut hcarries, openedFor]
  rw [fragmentSize_eq index hcarries.within hcut]
  rfl

theorem roomFor_delivery :
    state.receiver.roomFor delivery.order delivery.now (readFragment delivery.piece) =
      roomAt sends state delivery index := by
  rw [roomFor, openedFor_delivery hsize hcut hcarries, readFragment_delivery hsize hcut hcarries]
  rfl

/-- A fragment that is not refused completes its packet or goes into the buffer. -/
theorem collecting_of_stored (hlength : (sends delivery.send).payload.length ≤ 65535)
    (hinvariant : ReassemblyInvariant sends state) (hwindow : InWindow sends state delivery)
    (haccepted : ¬state.receiver.Refuses delivery.order delivery.now delivery.piece) :
    (deliver sends state delivery).1 = .ok (some (sends delivery.send).payload) ∨
      Collecting sends (deliver sends state delivery).2 delivery.send fun other =>
        Carries sends delivery delivery.send other ∨
          ∃ part, (openedAt sends state delivery).2.parts.lookup other = some part := by
  have hstep : ∀ other, Carries sends delivery delivery.send other →
      (deliver sends state delivery).1 = .ok (some (sends delivery.send).payload) ∨
        (deliver sends state delivery).2.receiver.buffer (sequenceOf sends delivery.send) =
          some (storedAt sends state delivery other) := by
    intro other hother
    have henough : (roomAt sends state delivery other).1 = true := by
      rw [FragmentReceiver.Refuses, roomFor_delivery hsize hcut hother] at haccepted
      simpa using haccepted
    obtain ⟨-, -, -, -, hroom⟩ := deliver_cut hsize hinvariant hwindow hcut hother.id
      hother.within hother.piece
    rcases hroom henough with ⟨⟨hresult, -⟩ | ⟨-, hlong⟩, -⟩ | ⟨-, hbuffer, -⟩
    · exact .inl hresult
    · exact absurd hlength (not_le.mpr hlong)
    · exact .inr hbuffer
  rcases hstep index hcarries with hresult | hbuffer
  · exact .inl hresult
  · by_cases hresult :
        (deliver sends state delivery).1 = .ok (some (sends delivery.send).payload)
    · exact .inl hresult
    · obtain ⟨hnewest, -⟩ := deliver_cut hsize hinvariant hwindow hcut hcarries.id
        hcarries.within hcarries.piece
      refine .inr ⟨⟨_, hnewest, owner_delivery hwindow hcut⟩, ?_, ?_⟩
      · rw [hbuffer]
        exact some_ne_none _
      · rintro b hb other (hother | ⟨part, hpart⟩)
        · have hbuffer' := (hstep other hother).resolve_left hresult
          obtain rfl := Option.some.inj (hbuffer'.symm.trans hb)
          exact ⟨_, (lookup_stored other).trans (if_pos rfl)⟩
        · obtain rfl := Option.some.inj (hbuffer.symm.trans hb)
          rw [storedAt, lookup_stored]
          split
          · exact ⟨_, rfl⟩
          · exact ⟨part, hpart⟩

end Fragment

section

variable (hsize : ∀ send, (sends send).Consumes → (sends send).size ≤ 65535)
  (hlength : (sends send).payload.length ≤ 65535) (hinvariant : ReassemblyInvariant sends state)

include hsize hlength hinvariant

/-- As long as the buffer of a packet is not evicted it keeps its fragments. -/
theorem Collecting.step (hallowed : Allowed sends state delivery)
    (hkept : ¬state.receiver.Evicts delivery.order delivery.now delivery.piece
      (sequenceOf sends send)) (h : Collecting sends state send got) :
    (deliver sends state delivery).1 = .ok (some (sends send).payload) ∨
      Collecting sends (deliver sends state delivery).2 send fun index =>
        got index ∨ Carries sends delivery send index := by
  obtain ⟨hproduced, hwindow⟩ := hallowed
  obtain ⟨newest, hnewest, howner⟩ := h.owner
  by_cases hcut : (sends delivery.send).Consumes
  · obtain ⟨index, hid, hindex, hpiece⟩ := exists_index hproduced hcut
    have hcarries : Carries sends delivery delivery.send index := ⟨rfl, hid, hindex, hpiece⟩
    have hread := readFragment_delivery hsize hcut hcarries
    have hcode : (readFragment delivery.piece).code ≠ FragmentType.whole.code := by
      rw [hread]
      dsimp only
      split <;> decide
    rw [FragmentReceiver.Evicts, not_and] at hkept
    obtain ⟨htime, hrest⟩ := not_or.mp (hkept hcode)
    obtain ⟨hmove, hrest⟩ := not_or.mp hrest
    obtain ⟨hmemory, hrefused⟩ := not_or.mp hrest
    have hread' : (readFragment delivery.piece).sequenceID = sequenceOf sends delivery.send := by
      rw [hread]
    rw [hread'] at hmove
    rw [openedFor_delivery hsize hcut hcarries, roomFor_delivery hsize hcut hcarries] at hmemory
    obtain ⟨b, hbuffer⟩ := ne_none_iff_exists'.mp
      (FragmentReceiver.GivesUp.of_not hmove (FragmentReceiver.GivesUp.of_not htime h.present))
    change (arrivedAt sends state delivery).buffer (sequenceOf sends send) = some b at hbuffer
    obtain ⟨hbefore, howners⟩ := (arrivedAt_spec hinvariant hwindow hcut).2 _ b hbuffer
    have howner' := howners newest send hnewest howner
    by_cases hown : sequenceOf sends delivery.send = sequenceOf sends send
    · -- The fragment belongs to the packet, since there is only one with its number.
      obtain rfl := (hown ▸ owner_delivery hwindow hcut :
        Owner sends _ (sequenceOf sends send) delivery.send).unique howner'
      have haccepted : ¬state.receiver.Refuses delivery.order delivery.now delivery.piece :=
        fun hrefuses => hrefused ⟨hread', hrefuses⟩
      obtain rfl := (openedAt_spec hinvariant hwindow hcut).2 b hbuffer
      refine (collecting_of_stored hsize hcut hcarries hlength hinvariant hwindow
        haccepted).imp_right
        fun hcollecting => hcollecting.mono ?_
      rintro other (hgot | hother)
      · exact .inr (h.parts _ hbefore other hgot)
      · exact .inl hother
    · obtain ⟨hnewest', -, hothers, -⟩ :=
        deliver_cut hsize hinvariant hwindow hcut hid hindex hpiece
      have hopened : (openedAt sends state delivery).1.buffer (sequenceOf sends send) = some b := by
        rw [openedAt, ((arrivedAt sends state delivery).openBuffer_spec _ _ _).2.1,
          if_neg (Ne.symm hown), hbuffer]
      obtain ⟨b', hroom⟩ := ne_none_iff_exists'.mp
        (FragmentReceiver.GivesUp.of_not hmemory (by rw [hopened]; exact some_ne_none b))
      obtain rfl := Option.some.inj
        ((buffer_of_roomAt (Ne.symm hown) hroom).symm.trans hbuffer)
      rw [← hothers _ (Ne.symm hown)] at hroom
      refine .inr ⟨⟨_, hnewest', howner'⟩, by rw [hroom]; exact some_ne_none _, ?_⟩
      rintro other hother index' (hgot | hcarries')
      · obtain rfl := Option.some.inj (hroom.symm.trans hother)
        exact h.parts _ hbefore index' hgot
      · exact absurd (congrArg (sequenceOf sends) hcarries'.packet) hown
  · rw [deliver_whole hproduced hcut]
    refine .inr (h.mono ?_)
    rintro index (hgot | hcarries)
    · exact hgot
    · exact absurd (hcarries.packet ▸ howner.cut) hcut

theorem Collecting.run {deliveries : List FragmentDelivery}
    (hallowed : AllowedRun sends state deliveries)
    (hkept : Undisturbed sends (sequenceOf sends send) state deliveries)
    (h : Collecting sends state send got)
    (hall : ∀ index, index * (sends send).size < (sends send).payload.length →
      got index ∨ ∃ delivery ∈ deliveries, Carries sends delivery send index) :
    .ok (some (sends send).payload) ∈ results sends state deliveries := by
  induction deliveries generalizing state got with
  | nil =>
    obtain ⟨index, hindex, hmissing⟩ := h.incomplete hinvariant
    rcases hall index hindex with hgot | ⟨delivery, hdelivery, -⟩
    · exact absurd hgot hmissing
    · cases hdelivery
  | cons delivery deliveries ih =>
    rcases h.step hsize hlength hinvariant hallowed.1 hkept.1 with hresult | hcollecting
    · rw [results, hresult]
      exact mem_cons_self
    · refine mem_cons_of_mem _ (ih (reassemblyInvariant_step hsize hinvariant hallowed.1)
        hallowed.2 hkept.2 hcollecting fun index hindex => ?_)
      rcases hall index hindex with hgot | ⟨carrier, hcarrier, hcarries⟩
      · exact .inl (.inl hgot)
      · rcases mem_cons.mp hcarrier with rfl | hlater
        · exact .inl (.inr hcarries)
        · exact .inr ⟨carrier, hlater, hcarries⟩

end

theorem carries_of_mem {pieces : List Bytes} (hpieces : encodedFragments sends send = .ok pieces)
    (hcut : (sends send).Consumes) {deliveries : List FragmentDelivery}
    (hall : ∀ piece ∈ pieces, ∃ delivery ∈ deliveries, delivery.send = send ∧
      delivery.piece = piece) (index : Nat)
    (hindex : index * (sends send).size < (sends send).payload.length) :
    ∃ delivery ∈ deliveries, Carries sends delivery send index := by
  rw [encodedFragments, outgoingSequence_eq] at hpieces
  obtain ⟨count, hcount, rfl, hindexes⟩ := encodeFragments_cut hcut hpieces
  have hlt := (hindexes index).mpr hindex
  obtain ⟨delivery, hdelivery, hsend, hpiece⟩ :=
    hall _ (mem_map_of_mem (mem_range.mpr hlt))
  exact ⟨delivery, hdelivery, hsend, hlt.trans_le hcount, hindex, hpiece⟩

/-- Packets whose fragments have at most 65535 bytes are never mixed, and one of at most 65535
    bytes whose fragments all arrive without an eviction from the first of them on is
    returned. -/
theorem fragments_reassembled
    (hsize : ∀ send, (sends send).Consumes → (sends send).size ≤ 65535)
    (hreach : ReachableBy (reassembly sends) (Allowed sends) state) :
    (∀ delivery payload, Allowed sends state delivery →
      (deliver sends state delivery).1 = .ok (some payload) →
        payload = (sends delivery.send).payload) ∧
    ∀ send pieces first rest, encodedFragments sends send = .ok pieces →
      AllowedRun sends state (first :: rest) → first.send = send →
      (∀ piece ∈ pieces, ∃ delivery ∈ first :: rest,
        delivery.send = send ∧ delivery.piece = piece) →
      ((sends send).Consumes → (sends send).payload.length ≤ 65535 ∧
        ¬state.receiver.Refuses first.order first.now first.piece ∧
          Undisturbed sends (sequenceOf sends send) (deliver sends state first).2 rest) →
      .ok (some (sends send).payload) ∈ results sends state (first :: rest) := by
  have hinvariant := reassemblyInvariant_reachable hsize hreach
  refine ⟨fun delivery payload hallowed h => (deliver_result hsize hinvariant hallowed h).1, ?_⟩
  rintro send pieces first rest hpieces ⟨hallowed, hrun⟩ rfl hall hkept
  by_cases hcut : (sends first.send).Consumes
  · obtain ⟨hlength, haccepted, hundisturbed⟩ := hkept hcut
    obtain ⟨index, hid, hindex, hpiece⟩ := exists_index hallowed.1 hcut
    rcases collecting_of_stored hsize hcut ⟨rfl, hid, hindex, hpiece⟩ hlength hinvariant
      hallowed.2 haccepted with hresult | hcollecting
    · rw [results, hresult]
      exact mem_cons_self
    · refine mem_cons_of_mem _ (hcollecting.run hsize hlength
        (reassemblyInvariant_step hsize hinvariant hallowed) hrun hundisturbed ?_)
      intro index hindex
      obtain ⟨carrier, hcarrier, hcarries⟩ := carries_of_mem hpieces hcut hall index hindex
      rcases mem_cons.mp hcarrier with rfl | hlater
      · exact .inl (.inl hcarries)
      · exact .inr ⟨carrier, hlater, hcarries⟩
  · rw [results, deliver_whole hallowed.1 hcut]
    exact mem_cons_self

end Deliveries

/-! ### A packet that is returned, and one that is too long -/

def keyOrder : RangeOrder where
  range keys := keys
  perm keys := List.Perm.refl keys

def newReassembly : Reassembly where
  receiver := newFragmentReceiver
  newest := none

section OnePacket

def exampleSends : FragmentStream where
  random := 0
  packet _ := { payload := [1, 2, 3, 4, 5, 6, 7], fragmentSize := 5 }

def exampleDelivery (index : Nat) : FragmentDelivery where
  send := 0
  piece := (exampleSends 0).fragment 0 index
  now := 0
  order := keyOrder

theorem exampleFragments :
    encodedFragments exampleSends 0 =
      .ok [(exampleSends 0).fragment 0 0, (exampleSends 0).fragment 0 1] := by
  decide +kernel

theorem exampleDelivery_allowed {state : Reassembly} {index : Nat} (hindex : index < 2)
    (hnewest : ∀ newest ∈ state.newest, newest = 0) :
    Allowed exampleSends state (exampleDelivery index) := by
  refine ⟨⟨_, exampleFragments, ?_⟩, fun _ newest hsome => ?_⟩
  · rcases Nat.lt_succ_iff_lt_or_eq.mp hindex with hzero | rfl
    · rw [Nat.lt_one_iff.mp hzero]
      exact mem_cons_self
    · exact mem_cons_of_mem _ mem_cons_self
  · rw [hnewest newest hsome]
    exact ⟨Nat.zero_le _, Nat.zero_le _⟩

/-- The fragments of a packet in reverse. -/
theorem fragments_reassembled_reversed :
    .ok (some [1, 2, 3, 4, 5, 6, 7]) ∈
      results exampleSends newReassembly [exampleDelivery 1, exampleDelivery 0] := by
  have hsize : ∀ send, (exampleSends send).Consumes → (exampleSends send).size ≤ 65535 :=
    fun _ _ => show 4 ≤ 65535 by decide
  refine (fragments_reassembled hsize (.start rfl)).2 0 _ _ _ exampleFragments
    ⟨exampleDelivery_allowed (by decide) (fun newest h => by cases h),
      exampleDelivery_allowed (by decide) (fun newest h => by cases h; rfl), trivial⟩ rfl ?_
    fun _ => ⟨show 7 ≤ 65535 by decide, ?_, ?_, trivial⟩
  · intro piece hpiece
    rcases mem_cons.mp hpiece with rfl | hpiece
    · exact ⟨exampleDelivery 0, by simp, rfl, rfl⟩
    · rw [mem_singleton.mp hpiece]
      exact ⟨exampleDelivery 1, by simp, rfl, rfl⟩
  · rw [FragmentReceiver.Refuses]
    decide +kernel
  · rintro ⟨-, ⟨-, hnone⟩ | ⟨-, hnone⟩ | ⟨-, hnone⟩ | ⟨-, hrefused⟩⟩
    · exact absurd (isNone_iff_eq_none.mpr hnone) (by decide +kernel)
    · exact absurd (isNone_iff_eq_none.mpr hnone) (by decide +kernel)
    · exact absurd (isNone_iff_eq_none.mpr hnone) (by decide +kernel)
    · rw [FragmentReceiver.Refuses] at hrefused
      exact absurd hrefused (by decide +kernel)

end OnePacket

section TooLong

/-- The two fragments of a packet arrive at a new receiver, one right after the other, and
    nothing is returned. -/
def LosesPacket (sends : FragmentStream) (send : Nat) : Prop :=
  ∃ first second : FragmentDelivery, first.now = 0 ∧ second.now = 0 ∧
    encodedFragments sends send = .ok [first.piece, second.piece] ∧
    AllowedRun sends newReassembly [first, second] ∧
    ∀ payload, .ok (some payload) ∉ results sends newReassembly [first, second]

def halfDelivery (sends : FragmentStream) (index : Nat) : FragmentDelivery where
  send := 0
  piece := (sends 0).fragment (sequenceOf sends 0) index
  now := 0
  order := keyOrder

variable {sends : FragmentStream} (hlength : ∀ send, (sends send).payload.length = 65536)
  (hsize : ∀ send, (sends send).size = 32768) (hcut : ∀ send, (sends send).Consumes)

include hlength hsize hcut

theorem encodedFragments_halves :
    encodedFragments sends 0 =
      .ok [(halfDelivery sends 0).piece, (halfDelivery sends 1).piece] := by
  have hlength := hlength 0
  have hsize := hsize 0
  obtain ⟨pieces, hpieces⟩ : ∃ pieces, encodedFragments sends 0 = .ok pieces :=
    encodeFragments_ok (hcut 0) (by rw [hlength, hsize]; decide)
  rw [hpieces]
  rw [encodedFragments, outgoingSequence_eq] at hpieces
  obtain ⟨count, -, rfl, hindexes⟩ := encodeFragments_cut (hcut 0) hpieces
  have hsecond := (hindexes 1).mpr (by omega)
  have hthird := mt (hindexes 2).mp (by omega)
  obtain rfl : count = 2 := by omega
  rfl

theorem losesPacket_halves : LosesPacket sends 0 := by
  have hsizes : ∀ send, (sends send).Consumes → (sends send).size ≤ 65535 :=
    fun send _ => (hsize send).trans_le (by decide)
  have hpieces := encodedFragments_halves hlength hsize hcut
  have hstart : ReassemblyInvariant sends newReassembly :=
    reassemblyInvariant_reachable hsizes (.start rfl)
  have hfirst : Allowed sends newReassembly (halfDelivery sends 0) :=
    ⟨⟨_, hpieces, mem_cons_self⟩, fun _ => nofun⟩
  have hwithin : 0 * (sends 0).size < (sends 0).payload.length := by
    rw [hlength]
    omega
  obtain ⟨hnewest, -⟩ := deliver_cut hsizes hstart hfirst.2 (hcut 0) (by decide) hwithin rfl
  have hsecond : Allowed sends (deliver sends newReassembly (halfDelivery sends 0)).2
      (halfDelivery sends 1) := by
    refine ⟨⟨_, hpieces, mem_cons_of_mem _ mem_cons_self⟩, fun _ newest hsome => ?_⟩
    obtain rfl := Option.some.inj (hnewest.symm.trans hsome)
    simp [newestAfter, newReassembly, halfDelivery]
  refine ⟨halfDelivery sends 0, halfDelivery sends 1, rfl, rfl, hpieces,
    ⟨hfirst, hsecond, trivial⟩, fun payload hmem => ?_⟩
  have hlong : ∀ {state index}, ReassemblyInvariant sends state →
      Allowed sends state (halfDelivery sends index) →
      (deliver sends state (halfDelivery sends index)).1 ≠ .ok (some payload) := by
    intro state index hinvariant hallowed hreturned
    obtain ⟨rfl, hshort⟩ := deliver_result hsizes hinvariant hallowed hreturned
    exact absurd (hshort (hcut 0)) (by rw [hlength]; decide)
  rw [results, results, results, mem_cons, mem_singleton] at hmem
  rcases hmem with hmem | hmem
  · exact hlong hstart hfirst hmem.symm
  · exact hlong (reassemblyInvariant_step hsizes hstart hfirst) hsecond hmem.symm

omit hlength hsize hcut

/-- Packets of 65536 bytes in fragments of 32768 are lost, though all fragments arrive. -/
theorem too_long_packet_lost :
    ∃ sends : FragmentStream, (∀ send, (sends send).size ≤ 65535) ∧ LosesPacket sends 0 := by
  have hlength : ∀ send : Nat, (List.replicate 65536 (0 : UInt8)).length = 65536 :=
    fun _ => length_replicate
  refine ⟨⟨0, fun _ => ⟨List.replicate 65536 0, 32768⟩⟩, fun _ => show 32768 ≤ 65535 by decide,
    losesPacket_halves hlength (fun _ => rfl) fun send => ⟨show 0 < (32768 : Int) by decide, ?_⟩⟩
  rw [hlength send]
  exact show (32768 : Int) < 65536 by decide

end TooLong

end SingOpenVPN
