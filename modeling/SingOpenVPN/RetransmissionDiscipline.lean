import SingOpenVPN.Retransmission

/-!
# When retransmissions are spaced

A packet goes out again too early for one of three reasons: `Write` has put it on the link
without setting its timer, so that the sender finds it due at its next tick; the count of
acknowledgments for later packets, which a retransmission does not reset, is still at three; or
the sender, which counts the interval from its reading of the clock, was slow to put the packet
on the link before and is quick now.  In the runs without these (`TimedSender.WellPaced`), two
consecutive transmissions of a packet are separated by its interval or by three acknowledgments
(`retransmissions_spaced`).
-/

namespace SingOpenVPN

open TransitionSystem List OutgoingReliableState TimedSender InFlightPacket SessionManager

/-! ### When the discipline holds -/

namespace TimedSender

/-- The control packets that are still to be put on the link. -/
def waiting (s : TimedSender) : List Departure :=
  s.outbox.filter (·.packet.opcode ≠ .acknowledgmentV1)

def lastSent (s : TimedSender) (id : PacketID) : Option Transmission :=
  s.transmissions.find? (·.id = id)

/-- A packet the sender finds due is its to send: nobody else is about to put it on the link,
    it has not been put there with its timer unset, and if its deadline is still to come, no
    acknowledgment had been counted when it was last sent. -/
def DueOnce (s : TimedSender) (reading : Time) (p : InFlightPacket) : Prop :=
  (∀ departure ∈ s.waiting, departure.packet.id ≠ p.packet.id) ∧
  match p.retransmissionDeadline with
  | none => s.lastSent p.packet.id = none
  | some deadline => reading < deadline → ∀ t ∈ s.lastSent p.packet.id, t.counted = 0

/-- The steps that keep the discipline: the sender picks only packets that are due once, and
    does not put one on the link sooner after its reading of the clock than the last time. -/
def WellPaced (s : TimedSender) (event : Time × SenderEvent) : Prop :=
  match event.2 with
  | .pick reading => ∀ p ∈ s.channel.outgoing.inFlightPackets,
      OutgoingReliableState.isReady reading p = true → s.DueOnce reading p
  | .link index true => ∀ departure ∈ s.outbox[index]?, ∀ reading ∈ departure.picked,
      ∀ t ∈ s.lastSent departure.packet.id, t.delay ≤ event.1 - reading
  | _ => True

instance (s : TimedSender) (reading : Time) (p : InFlightPacket) :
    Decidable (s.DueOnce reading p) := by
  unfold DueOnce
  cases p.retransmissionDeadline <;> infer_instance

instance (s : TimedSender) (event : Time × SenderEvent) : Decidable (s.WellPaced event) := by
  unfold WellPaced
  split <;> infer_instance

end TimedSender

/-! ### Lemmas on logs -/

theorem consecutive_cons {t : Transmission} {log : List Transmission} {earlier later : Transmission}
    (h : Consecutive (t :: log) earlier later) :
    Consecutive log earlier later ∨ (later = t ∧ log.find? (·.id = t.id) = some earlier) := by
  obtain ⟨newer, between, older, hlog, hid, hbetween⟩ := h
  cases newer with
  | nil =>
    obtain ⟨rfl, rfl⟩ := List.cons.inj hlog
    refine .inr ⟨rfl, ?_⟩
    have hnone : between.find? (·.id = t.id) = none := by
      simpa [List.find?_eq_none] using hbetween
    rw [List.find?_append, hnone]
    simp [hid]
  | cons head newer =>
    obtain ⟨-, htail⟩ := List.cons.inj hlog
    exact .inl ⟨newer, between, older, htail, hid, hbetween⟩

namespace Transmission

variable {t : Transmission} {reading : Time} {heard : List PacketID}

/-- The sender may find the packet due: its interval has passed since the sender read the clock
    for this transmission, or three acknowledgments for later packets have arrived. -/
def Due (t : Transmission) (reading : Time) (heard : List PacketID) : Prop :=
  t.time + t.interval ≤ reading + t.delay ∨
    fastRetransmissionACKThreshold ≤ t.laterAcknowledgments heard

theorem Due.later (h : t.Due reading heard) {later : Time} (hlater : reading ≤ later) :
    t.Due later heard := h.imp_left fun htime => htime.trans (Int.add_le_add_right hlater _)

theorem Due.released (h : t.Due reading heard) {now : Time} (hdelay : t.delay ≤ now - reading) :
    t.Released now heard := by
  refine h.imp_left fun htime => htime.trans ?_
  rw [Int.add_comm]
  exact Int.add_le_of_le_sub_right hdelay

theorem laterAcknowledgments_append (h : t.heard.length ≤ heard.length) (more : List PacketID) :
    t.laterAcknowledgments (heard ++ more) =
      t.laterAcknowledgments heard + more.countP (t.id < ·) := by
  rw [laterAcknowledgments, laterAcknowledgments, drop_append_of_le_length h,
    countP_append]

theorem Due.hear (h : t.Due reading heard) (hheard : t.heard.length ≤ heard.length)
    (more : List PacketID) : t.Due reading (heard ++ more) := by
  refine h.imp_right fun hcount => ?_
  rw [laterAcknowledgments_append hheard]
  exact hcount.trans (Nat.le_add_right _ _)

end Transmission

/-! ### What each operation does to the packets in flight -/

theorem sortInFlight_perm (packets : List InFlightPacket) :
    (sortInFlight packets).Perm packets := perm_insertionSort _ packets

variable {packets : List InFlightPacket}

theorem mem_sortInFlight {p : InFlightPacket} :
    p ∈ sortInFlight packets ↔ p ∈ packets := (sortInFlight_perm packets).mem_iff

variable {acknowledgmentIDs : List PacketID}

theorem mem_foldl_acknowledgeOne {p' : InFlightPacket}
    (h : p' ∈ acknowledgmentIDs.foldl acknowledgeOne packets) :
    ∃ p ∈ packets, p' = { p with
      higherPacketAcknowledges := p.higherPacketAcknowledges +
        acknowledgmentIDs.countP (p.packet.id < ·) } := by
  induction acknowledgmentIDs generalizing packets with
  | nil => exact ⟨p', h, by simp⟩
  | cons acknowledgedID others ih =>
    obtain ⟨middle, hmiddle, rfl⟩ := ih h
    obtain ⟨p, hp, rfl⟩ := mem_map.mp ((acknowledgeOne_perm _ _).mem_iff.mp hmiddle)
    refine ⟨p, (mem_filter.mp hp).1, ?_⟩
    rw [noteHigher_packet, countP_cons, noteHigher]
    by_cases hlater : p.packet.id < acknowledgedID
    · simp only [hlater, if_true, decide_true]
      rw [add_assoc, add_comm 1]
    · simp [hlater]

theorem nodup_foldl_acknowledgeOne
    (h : (packets.map (·.packet.id)).Nodup) :
    ((acknowledgmentIDs.foldl acknowledgeOne packets).map (·.packet.id)).Nodup := by
  have hperm := (foldl_acknowledgeOne_perm acknowledgmentIDs packets).map Packet.id
  have heq : ∀ packets : List InFlightPacket,
      packets.map (·.packet.id) = (packets.map packet).map Packet.id := by
    intro packets
    rw [map_map]
    rfl
  rw [heq, hperm.nodup_iff]
  rw [heq] at h
  exact h.sublist ((filter_sublist).map _)

/-! ### The invariant -/

namespace TimedSender

/-- The ids the channel has given out; zero is that of the soft reset. -/
def Issued (s : TimedSender) (id : PacketID) : Prop :=
  (0 < id.toNat ∧ id.toNat < s.channel.sessionManager.localControlPacketID.toNat) ∨
    (id.toNat = 0 ∧ s.softResetSent = true)

structure Disciplined (s : TimedSender) : Prop where
  next_pos : 0 < s.channel.sessionManager.localControlPacketID.toNat
  inFlight_issued : ∀ p ∈ s.channel.outgoing.inFlightPackets, s.Issued p.packet.id
  waiting_issued : ∀ departure ∈ s.waiting, s.Issued departure.packet.id
  sent_issued : ∀ t ∈ s.transmissions, s.Issued t.id
  inFlight_nodup : (s.channel.outgoing.inFlightPackets.map (·.packet.id)).Nodup
  waiting_nodup : (s.waiting.map (·.packet.id)).Nodup
  /-- What is put on the link again is due by the reading by which it was picked. -/
  waiting_due : ∀ departure ∈ s.waiting, ∀ t ∈ s.lastSent departure.packet.id,
    ∃ reading ∈ departure.picked, t.Due reading s.heard
  waiting_timed : ∀ departure ∈ s.waiting, ∀ p ∈ s.channel.outgoing.inFlightPackets,
    p.packet.id = departure.packet.id → p.retransmissionDeadline =
      departure.picked.map (· + retransmissionInterval p.retransmissionCount)
  heard_le : ∀ t ∈ s.transmissions, t.heard.length ≤ s.heard.length
  /-- A packet with a timer was sent when the timer was set, and has counted what arrived
      since, unless it may go out again anyway. -/
  paced : ∀ p ∈ s.channel.outgoing.inFlightPackets, ∀ deadline ∈ p.retransmissionDeadline,
    ∀ t ∈ s.lastSent p.packet.id, t.Due s.reading s.heard ∨
      (t.time + t.interval ≤ deadline + t.delay ∧
        p.higherPacketAcknowledges ≤ t.counted + t.laterAcknowledgments s.heard)
  released : ∀ earlier later, Consecutive s.transmissions earlier later →
    earlier.Released later.time later.heard

variable {id : PacketID} {t : Transmission}

theorem mem_transmissions_of_lastSent {s : TimedSender}
    (h : s.lastSent id = some t) : t ∈ s.transmissions ∧ t.id = id :=
  ⟨mem_of_find?_eq_some h, by simpa using List.find?_some h⟩

theorem lastSent_eq_none {s : TimedSender} :
    s.lastSent id = none ↔ ∀ t ∈ s.transmissions, t.id ≠ id := by
  simp [lastSent, List.find?_eq_none]

structure Quiet (s s' : TimedSender) : Prop where
  reading : s'.reading = s.reading
  heard : s'.heard = s.heard
  transmissions : s'.transmissions = s.transmissions
  issued : ∀ id, s.Issued id → s'.Issued id
  next_pos : 0 < s'.channel.sessionManager.localControlPacketID.toNat

variable {s s' : TimedSender}

theorem Quiet.lastSent_eq (hquiet : Quiet s s') (id : PacketID) :
    s'.lastSent id = s.lastSent id := by
  rw [lastSent, hquiet.transmissions, lastSent]

theorem Disciplined.keep (h : s.Disciplined) (hquiet : Quiet s s')
    (hflight : s'.channel.outgoing.inFlightPackets = s.channel.outgoing.inFlightPackets)
    (hwaiting : s'.waiting = s.waiting) : s'.Disciplined where
  next_pos := hquiet.next_pos
  inFlight_issued p hp := hquiet.issued _ (h.inFlight_issued p (hflight ▸ hp))
  waiting_issued departure hwaits :=
    hquiet.issued _ (h.waiting_issued departure (hwaiting ▸ hwaits))
  sent_issued t ht := hquiet.issued _ (h.sent_issued t (hquiet.transmissions ▸ ht))
  inFlight_nodup := by
    rw [hflight]
    exact h.inFlight_nodup
  waiting_nodup := by
    rw [hwaiting]
    exact h.waiting_nodup
  waiting_due departure hwaits t ht := by
    rw [hquiet.lastSent_eq] at ht
    rw [hquiet.heard]
    exact h.waiting_due departure (hwaiting ▸ hwaits) t ht
  waiting_timed departure hwaits p hp :=
    h.waiting_timed departure (hwaiting ▸ hwaits) p (hflight ▸ hp)
  heard_le := by
    rw [hquiet.transmissions, hquiet.heard]
    exact h.heard_le
  paced p hp deadline hdeadline t ht := by
    rw [hquiet.lastSent_eq] at ht
    rw [hquiet.reading, hquiet.heard]
    exact h.paced p (hflight ▸ hp) deadline hdeadline t ht
  released := by
    rw [hquiet.transmissions]
    exact h.released

variable {packet : Packet} {departure : Departure}

theorem Disciplined.insert (h : s.Disciplined) (hquiet : Quiet s s')
    (hnew : ¬ s.Issued packet.id) (hissued : s'.Issued packet.id)
    (hflight : s'.channel.outgoing.inFlightPackets =
      sortInFlight (s.channel.outgoing.inFlightPackets ++ [fresh packet]))
    (hwaiting : s'.waiting = s.waiting ++ [⟨packet, none⟩]) : s'.Disciplined := by
  have hmem : ∀ p ∈ s'.channel.outgoing.inFlightPackets,
      p ∈ s.channel.outgoing.inFlightPackets ∨ p = fresh packet := by
    intro p hp
    rw [hflight, mem_sortInFlight] at hp
    simpa using hp
  have hwaits : ∀ other ∈ s'.waiting, other ∈ s.waiting ∨ other = ⟨packet, none⟩ := by
    intro other hother
    rw [hwaiting] at hother
    simpa using hother
  have hunsent : s.lastSent packet.id = none := by
    rw [lastSent_eq_none]
    rintro t ht heq
    exact hnew (heq ▸ h.sent_issued t ht)
  refine ⟨hquiet.next_pos, ?_, ?_, ?_, ?_, ?_, ?_, ?_, ?_, ?_, ?_⟩
  · intro p hp
    rcases hmem p hp with hold | rfl
    · exact hquiet.issued _ (h.inFlight_issued p hold)
    · exact hissued
  · intro other hother
    rcases hwaits other hother with hold | rfl
    · exact hquiet.issued _ (h.waiting_issued other hold)
    · exact hissued
  · intro t ht
    rw [hquiet.transmissions] at ht
    exact hquiet.issued _ (h.sent_issued t ht)
  · rw [hflight, ((sortInFlight_perm _).map _).nodup_iff, map_append, nodup_append]
    refine ⟨h.inFlight_nodup, by simp, ?_⟩
    intro id hid other hother
    obtain ⟨p, hp, rfl⟩ := mem_map.mp hid
    obtain rfl : other = packet.id := by simpa [fresh] using hother
    rintro heq
    exact hnew (heq ▸ h.inFlight_issued p hp)
  · rw [hwaiting, map_append, nodup_append]
    refine ⟨h.waiting_nodup, by simp, ?_⟩
    intro id hid other hother
    obtain ⟨waits, hmemWaits, rfl⟩ := mem_map.mp hid
    obtain rfl : other = packet.id := by simpa using hother
    rintro heq
    exact hnew (heq ▸ h.waiting_issued waits hmemWaits)
  · intro other hother t ht
    rw [hquiet.lastSent_eq] at ht
    rw [hquiet.heard]
    rcases hwaits other hother with hold | rfl
    · exact h.waiting_due other hold t ht
    · rw [hunsent] at ht
      cases ht
  · intro other hother p hp hid
    rcases hmem p hp with hpold | rfl
    · rcases hwaits other hother with hold | rfl
      · exact h.waiting_timed other hold p hpold hid
      · exact absurd (hid ▸ h.inFlight_issued p hpold) hnew
    · rcases hwaits other hother with hold | rfl
      · exact absurd (hid ▸ h.waiting_issued other hold) hnew
      · rfl
  · rw [hquiet.transmissions, hquiet.heard]
    exact h.heard_le
  · intro p hp deadline hdeadline t ht
    rw [hquiet.lastSent_eq] at ht
    rw [hquiet.reading, hquiet.heard]
    rcases hmem p hp with hold | rfl
    · exact h.paced p hold deadline hdeadline t ht
    · exact absurd hdeadline (by simp [fresh])
  · rw [hquiet.transmissions]
    exact h.released

/-- The reliable layer takes a packet in: the packets that stay in flight have counted exactly
    the acknowledgments that now count as heard. -/
theorem Disciplined.record (h : s.Disciplined) (packet : Packet) :
    (s.record packet).Disciplined := by
  have hmem : ∀ p' ∈ (s.record packet).channel.outgoing.inFlightPackets,
      ∃ p ∈ s.channel.outgoing.inFlightPackets, p' = { p with
        higherPacketAcknowledges := p.higherPacketAcknowledges +
          packet.acknowledgmentIDs.countP (p.packet.id < ·) } := by
    intro p' hp'
    exact mem_foldl_acknowledgeOne (mem_sortInFlight.mp hp')
  refine ⟨h.next_pos, ?_, h.waiting_issued, h.sent_issued, ?_, h.waiting_nodup, ?_, ?_, ?_, ?_,
    h.released⟩
  · intro p' hp'
    obtain ⟨p, hp, rfl⟩ := hmem p' hp'
    exact h.inFlight_issued p hp
  · exact ((sortInFlight_perm _).map _).nodup_iff.mpr (nodup_foldl_acknowledgeOne h.inFlight_nodup)
  · intro waits hwaits t ht
    obtain ⟨reading, hpicked, hdue⟩ := h.waiting_due waits hwaits t ht
    exact ⟨reading, hpicked, hdue.hear (h.heard_le t (mem_transmissions_of_lastSent ht).1) _⟩
  · intro waits hwaits p' hp' hid
    obtain ⟨p, hp, rfl⟩ := hmem p' hp'
    exact h.waiting_timed waits hwaits p hp hid
  · intro t ht
    have hle := h.heard_le t ht
    simp only [TimedSender.record, length_append]
    omega
  · intro p' hp' deadline hdeadline t ht
    obtain ⟨p, hp, rfl⟩ := hmem p' hp'
    obtain ⟨hsent, hid⟩ := mem_transmissions_of_lastSent ht
    have hheard := h.heard_le t hsent
    rcases h.paced p hp deadline hdeadline t ht with hdue | ⟨htime, hcount⟩
    · exact .inl (hdue.hear hheard _)
    · refine .inr ⟨htime, ?_⟩
      rw [TimedSender.record, Transmission.laterAcknowledgments_append hheard, hid]
      simp only
      omega

theorem exists_eraseIdx {departures : List Departure} {index : Nat}
    (h : departures[index]? = some departure) :
    ∃ before after, departures = before ++ departure :: after ∧
      departures.eraseIdx index = before ++ after := by
  obtain ⟨hindex, rfl⟩ := List.getElem?_eq_some_iff.mp h
  refine ⟨departures.take index, departures.drop (index + 1), ?_, eraseIdx_eq_take_drop_succ _ _⟩
  rw [← drop_eq_getElem_cons hindex, take_append_drop]

theorem Disciplined.inFlight_eq (h : s.Disciplined) {p : InFlightPacket}
    (hp : p ∈ s.channel.outgoing.inFlightPackets) : s.inFlight p.packet.id = some p := by
  obtain ⟨found, hfound⟩ : ∃ found, s.inFlight p.packet.id = some found := by
    rw [← Option.isSome_iff_exists, inFlight, List.find?_isSome]
    exact ⟨p, hp, by simp⟩
  have hid : found.packet.id = p.packet.id := by simpa using List.find?_some hfound
  rw [hfound, inj_on_of_nodup_map h.inFlight_nodup (mem_of_find?_eq_some hfound) hp hid]

/-- A packet is put on the link.  If it was picked, its timer was set with it, and counts from
    the reading that the entry of the log is `delay` behind. -/
theorem Disciplined.send (h : s.Disciplined) {index : Nat}
    (hindex : s.outbox[index]? = some departure)
    (hopcode : departure.packet.opcode ≠ .acknowledgmentV1)
    (hdelay : ∀ reading ∈ departure.picked, ∀ t ∈ s.lastSent departure.packet.id,
      t.delay ≤ s.clock - reading) :
    { s with
      outbox := s.outbox.eraseIdx index
      transmissions := s.transmission departure :: s.transmissions }.Disciplined := by
  obtain ⟨before, after, houtbox, herase⟩ := exists_eraseIdx hindex
  have hwaiting : s.waiting = before.filter (·.packet.opcode ≠ .acknowledgmentV1) ++
      departure :: after.filter (·.packet.opcode ≠ .acknowledgmentV1) := by
    simp [waiting, houtbox, filter_append, hopcode]
  have hdeparture : departure ∈ s.waiting := by simp [hwaiting]
  have hsub : ∀ other ∈ (s.outbox.eraseIdx index).filter (·.packet.opcode ≠ .acknowledgmentV1),
      other ∈ s.waiting ∧ other.packet.id ≠ departure.packet.id := by
    intro other hother
    have hnodup := h.waiting_nodup
    rw [hwaiting, map_append, map_cons, nodup_middle, nodup_cons, ← map_append] at hnodup
    rw [herase, filter_append] at hother
    rw [hwaiting]
    refine ⟨?_, fun heq => hnodup.1 (mem_map.mpr ⟨other, hother, heq⟩)⟩
    rcases mem_append.mp hother with hmem | hmem
    · exact mem_append_left _ hmem
    · exact mem_append_right _ (mem_cons_of_mem _ hmem)
  have hfind : ∀ id, id ≠ departure.packet.id →
      (s.transmission departure :: s.transmissions).find? (·.id = id) = s.lastSent id := by
    intro id hne
    rw [List.find?_cons_of_neg (by simp [transmission, hne.symm])]
    rfl
  refine ⟨h.next_pos, h.inFlight_issued, ?_, ?_, h.inFlight_nodup, ?_, ?_, ?_, ?_, ?_, ?_⟩
  · intro other hother
    exact h.waiting_issued other (hsub other hother).1
  · intro other hother
    rcases mem_cons.mp hother with rfl | hold
    · exact h.waiting_issued departure hdeparture
    · exact h.sent_issued other hold
  · refine h.waiting_nodup.sublist (List.Sublist.map _ ?_)
    exact (eraseIdx_sublist _ _).filter _
  · intro other hother t ht
    obtain ⟨hmem, hne⟩ := hsub other hother
    exact h.waiting_due other hmem t ((hfind _ hne).symm.trans ht)
  · intro other hother
    exact h.waiting_timed other (hsub other hother).1
  · intro other hother
    rcases mem_cons.mp hother with rfl | hold
    · exact le_refl _
    · exact h.heard_le other hold
  · intro p hp deadline hdeadline last hlast
    by_cases heq : p.packet.id = departure.packet.id
    · obtain rfl : s.transmission departure = last := by
        simpa [lastSent, transmission, heq] using hlast
      rw [h.waiting_timed departure hdeparture p hp heq] at hdeadline
      obtain ⟨reading, hpicked, rfl⟩ := Option.mem_map.mp hdeadline
      have hflight := h.inFlight_eq hp
      rw [heq] at hflight
      simp only [transmission, hflight, Option.mem_def.mp hpicked, Option.elim_some]
      refine .inr ⟨Int.le_of_eq ?_, Nat.le_add_right _ _⟩
      rw [Int.add_right_comm, Int.add_comm reading, Int.sub_add_cancel]
    · exact h.paced p hp deadline hdeadline last ((hfind _ heq).symm.trans hlast)
  · intro earlier later hconsecutive
    rcases consecutive_cons hconsecutive with hold | ⟨rfl, hlast⟩
    · exact h.released earlier later hold
    · obtain ⟨reading, hpicked, hdue⟩ := h.waiting_due departure hdeparture earlier hlast
      exact hdue.released (hdelay reading hpicked earlier hlast)

theorem Disciplined.due_of_ready (h : s.Disciplined) {reading : Time} {p : InFlightPacket}
    (hreading : s.reading ≤ reading) (hp : p ∈ s.channel.outgoing.inFlightPackets)
    (hready : isReady reading p = true) (hdue : s.DueOnce reading p)
    (ht : s.lastSent p.packet.id = some t) : t.Due reading s.heard := by
  obtain ⟨-, hdue⟩ := hdue
  cases hdeadline : p.retransmissionDeadline with
  | none =>
    simp only [hdeadline, ht] at hdue
    cases hdue
  | some deadline =>
    simp only [hdeadline] at hdue
    rcases h.paced p hp deadline hdeadline t ht with hbefore | ⟨htime, hcount⟩
    · exact hbefore.later hreading
    · rcases Int.lt_or_le reading deadline with hearly | hlate
      · -- not by its timer: three acknowledgments were counted, all after the transmission
        have hfast : fastRetransmissionACKThreshold ≤ p.higherPacketAcknowledges := by
          simpa [isReady, hdeadline, Int.not_le.mpr hearly] using hready
        rw [hdue hearly t ht, zero_add] at hcount
        exact .inr (hfast.trans hcount)
      · exact .inl (htime.trans (Int.add_le_add_right hlate _))

theorem Disciplined.pick (h : s.Disciplined) {reading : Time} (hreading : s.reading ≤ reading)
    (hdue : ∀ p ∈ s.channel.outgoing.inFlightPackets,
      isReady reading p = true → s.DueOnce reading p) :
    (s.pick reading).Disciplined := by
  have hmem : ∀ p' ∈ (s.pick reading).channel.outgoing.inFlightPackets,
      ∃ p ∈ s.channel.outgoing.inFlightPackets, p' =
        if isReady reading p then p.scheduleForRetransmission reading else p := by
    intro p' hp'
    obtain ⟨p, hp, rfl⟩ := mem_map.mp hp'
    exact ⟨p, hp, rfl⟩
  have hid : ∀ p : InFlightPacket, (if isReady reading p then
      p.scheduleForRetransmission reading else p).packet = p.packet := by
    intro p
    split <;> rfl
  have hwaits : ∀ departure ∈ (s.pick reading).waiting, departure ∈ s.waiting ∨
      ∃ p ∈ s.channel.outgoing.inFlightPackets, isReady reading p = true ∧
        departure = ⟨p.packet, some reading⟩ := by
    intro departure hdeparture
    rw [waiting, TimedSender.pick, filter_append] at hdeparture
    refine (mem_append.mp hdeparture).imp_right fun hpicked => ?_
    obtain ⟨packet, hpacket, rfl⟩ := mem_map.mp (mem_filter.mp hpicked).1
    obtain ⟨p, hp, rfl⟩ := mem_map.mp hpacket
    exact ⟨p, (mem_filter.mp hp).1, (mem_filter.mp hp).2, rfl⟩
  refine ⟨h.next_pos, ?_, ?_, h.sent_issued, ?_, ?_, ?_, ?_, h.heard_le, ?_, h.released⟩
  · intro p' hp'
    obtain ⟨p, hp, rfl⟩ := hmem p' hp'
    rw [hid]
    exact h.inFlight_issued p hp
  · intro departure hdeparture
    rcases hwaits departure hdeparture with hold | ⟨p, hp, -, rfl⟩
    · exact h.waiting_issued departure hold
    · exact h.inFlight_issued p hp
  · have hids : (s.pick reading).channel.outgoing.inFlightPackets.map (·.packet.id) =
        s.channel.outgoing.inFlightPackets.map (·.packet.id) := by
      refine (map_map).trans (map_congr_left fun p _ => ?_)
      exact congrArg Packet.id (hid p)
    rw [hids]
    exact h.inFlight_nodup
  · rw [waiting, TimedSender.pick, filter_append, map_append, nodup_append]
    refine ⟨h.waiting_nodup, ?_, ?_⟩
    · refine Nodup.sublist (filter_sublist.map _) ?_
      rw [packetsReadyToSend, map_map, map_map]
      exact h.inFlight_nodup.sublist (filter_sublist.map _)
    · intro id hold other hnew
      obtain ⟨waits, hwaits, rfl⟩ := mem_map.mp hold
      obtain ⟨departure, hdeparture, rfl⟩ := mem_map.mp hnew
      obtain ⟨packet, hpacket, rfl⟩ := mem_map.mp (mem_filter.mp hdeparture).1
      obtain ⟨p, hp, rfl⟩ := mem_map.mp hpacket
      obtain ⟨hp, hready⟩ := mem_filter.mp hp
      exact (hdue p hp hready).1 waits hwaits
  · intro departure hdeparture t ht
    rcases hwaits departure hdeparture with hold | ⟨p, hp, hready, rfl⟩
    · exact h.waiting_due departure hold t ht
    · exact ⟨reading, rfl, h.due_of_ready hreading hp hready (hdue p hp hready) ht⟩
  · intro departure hdeparture p' hp' hsame
    obtain ⟨p, hp, rfl⟩ := hmem p' hp'
    rw [hid] at hsame
    rcases hwaits departure hdeparture with hold | ⟨q, hq, hready, rfl⟩
    · by_cases hready : isReady reading p = true
      · exact absurd hsame.symm ((hdue p hp hready).1 departure hold)
      · rw [if_neg hready]
        exact h.waiting_timed departure hold p hp hsame
    · obtain rfl : p = q := inj_on_of_nodup_map h.inFlight_nodup hp hq hsame
      rw [if_pos hready]
      rfl
  · intro p' hp' deadline hdeadline t ht
    obtain ⟨p, hp, rfl⟩ := hmem p' hp'
    rw [hid] at ht
    by_cases hready : isReady reading p = true
    · exact .inl (h.due_of_ready hreading hp hready (hdue p hp hready) ht)
    · rw [if_neg hready] at hdeadline ⊢
      exact (h.paced p hp deadline hdeadline t ht).imp_left fun hbefore => hbefore.later hreading

theorem quiet_of_next (hreading : s'.reading = s.reading) (hheard : s'.heard = s.heard)
    (htransmissions : s'.transmissions = s.transmissions)
    (hsoft : s.softResetSent = true → s'.softResetSent = true)
    (hpos : 0 < s.channel.sessionManager.localControlPacketID.toNat)
    (hnext : s.channel.sessionManager.localControlPacketID.toNat ≤
      s'.channel.sessionManager.localControlPacketID.toNat) : Quiet s s' where
  reading := hreading
  heard := hheard
  transmissions := htransmissions
  issued id hid := by
    rcases hid with ⟨hlow, hhigh⟩ | ⟨hzero, hsent⟩
    · exact .inl ⟨hlow, hhigh.trans_le hnext⟩
    · exact .inr ⟨hzero, hsoft hsent⟩
  next_pos := hpos.trans_le hnext

end TimedSender

theorem ControlChannel.softResetPacketWith_eq_ok {c : ControlChannel}
    {packet : Packet} {nothing : Unit}
    (h : c.softResetPacketWith acknowledgmentIDs = .ok (packet, nothing)) :
    packet.id.toNat = 0 ∧ packet.opcode = .controlSoftResetV1 := by
  obtain ⟨base, hbase, heq⟩ := map_eq_ok.mp h
  obtain ⟨rfl, -⟩ := Prod.mk.inj heq
  rw [newSoftResetPacket] at hbase
  cases hremote : c.sessionManager.remoteSessionID with
  | none =>
    rw [hremote] at hbase
    cases hbase
  | some remoteSessionID =>
    rw [hremote] at hbase
    cases hbase
    exact ⟨rfl, rfl⟩

namespace TimedSender

variable {s s' : TimedSender}

theorem waiting_append (outbox : List Departure) (packet : Packet)
    (h : packet.opcode ≠ .acknowledgmentV1) :
    (outbox ++ [Departure.mk packet none]).filter (·.packet.opcode ≠ .acknowledgmentV1) =
      outbox.filter (·.packet.opcode ≠ .acknowledgmentV1) ++ [⟨packet, none⟩] := by
  simp [filter_append, h]

section

variable (h : s.Disciplined)

include h

/-- A control packet is put into the send buffer, if there is room and a packet id left. -/
theorem Disciplined.insertControlPacket {maximum : Nat} {opcode : Opcode}
    (hopcode : opcode ≠ .acknowledgmentV1) {payload : Bytes}
    {result : Except SessionError (Option Packet)} {channel : ControlChannel}
    (hinsert : s.channel.insertControlPacket maximum opcode payload = (result, channel)) :
    match result with
    | .ok (some packet) =>
      { s with channel := channel, outbox := s.outbox ++ [Departure.mk packet none] }.Disciplined
    | _ => { s with channel := channel }.Disciplined := by
  rcases ControlChannel.insertControlPacket_cases hinsert with
    ⟨outgoing, hnone, rfl, hflight, -⟩ |
      ⟨outgoing, packet, rfl, rfl, hflight, -, rfl, -, -, hid, hlt⟩
  · have hkeep : { s with channel := { s.channel with outgoing := outgoing } }.Disciplined :=
      h.keep (quiet_of_next rfl rfl rfl (fun hsent => hsent) h.next_pos (le_refl _)) hflight rfl
    rcases result with err | _ | packet
    · exact hkeep
    · exact hkeep
    · exact absurd rfl (hnone packet)
  · have hnext := toNat_succ_of_lt hlt
    refine h.insert (quiet_of_next rfl rfl rfl (fun hsent => hsent) h.next_pos ?_) ?_ ?_ hflight
      (waiting_append _ _ hopcode)
    · simp only [hnext]
      omega
    · rintro (⟨-, hlt⟩ | ⟨hzero, -⟩)
      · rw [hid] at hlt
        omega
      · rw [hid] at hzero
        have hpos := h.next_pos
        omega
    · refine .inl ⟨?_, ?_⟩
      · rw [hid]
        exact h.next_pos
      · simp only [hid, hnext]
        omega

theorem Disciplined.write (pendingAcknowledgmentCount : Nat) (buffer : Bytes) :
    (s.write pendingAcknowledgmentCount buffer).Disciplined := by
  rw [TimedSender.write]
  generalize hinsert :
    s.channel.newOutgoingControlPacket pendingAcknowledgmentCount buffer = inserted
  obtain ⟨result, channel⟩ := inserted
  have hstep := h.insertControlPacket (by decide) hinsert
  rcases result with err | _ | packet <;> exact hstep

theorem Disciplined.withOutgoing (outgoing : OutgoingReliableState) (outbox : List Departure)
    (hflight : outgoing.inFlightPackets = s.channel.outgoing.inFlightPackets)
    (hwaiting : outbox.filter (·.packet.opcode ≠ .acknowledgmentV1) = s.waiting) :
    { s with channel := { s.channel with outgoing := outgoing }, outbox := outbox }.Disciplined :=
  h.keep (quiet_of_next rfl rfl rfl (fun hsent => hsent) h.next_pos (le_refl _)) hflight hwaiting

theorem Disciplined.acknowledge : s.acknowledge.Disciplined := by
  rw [TimedSender.acknowledge, ControlChannel.newAcknowledgmentPacket]
  by_cases hwrapped : s.channel.nextPacketCarriesWrappedClientKey = true
  · rw [if_pos hwrapped]
    generalize hinsert : s.channel.insertControlPacket acknowledgmentSetCapacity .controlWKCv1 [] =
      inserted
    obtain ⟨result, channel⟩ := inserted
    have hstep := h.insertControlPacket (by decide) hinsert
    rcases result with err | _ | packet <;> exact hstep
  · rw [if_neg hwrapped]
    dsimp only
    by_cases hnone : (s.channel.outgoing.takeAcknowledgmentIDsLocked
        acknowledgmentSetCapacity).1.length = 0
    · rw [if_pos hnone]
      exact h.withOutgoing _ s.outbox rfl rfl
    · rw [if_neg hnone]
      cases hpacket : s.channel.sessionManager.newAcknowledgmentPacket
          (s.channel.outgoing.takeAcknowledgmentIDsLocked acknowledgmentSetCapacity).1 with
      | error err =>
        exact h.withOutgoing _ s.outbox
          (inFlightPackets_returnAcknowledgmentIDsLocked _ _) rfl
      | ok packet =>
        obtain ⟨hopcode, -⟩ := newAcknowledgmentPacket_eq_ok hpacket
        exact h.withOutgoing (s.channel.outgoing.takeAcknowledgmentIDsLocked _).2
          (s.outbox ++ [⟨packet, none⟩]) rfl
          (by simp [waiting, filter_append, hopcode])

theorem Disciplined.softReset (hfirst : s.softResetSent = false) : s.softReset.Disciplined := by
  rw [TimedSender.softReset]
  generalize hinsert : s.channel.outgoing.insertOutgoingPacket maximumAcknowledgmentsPerPacket
    s.channel.softResetPacketWith = inserted
  obtain ⟨result, outgoing⟩ := inserted
  have hquiet : ∀ outbox, Quiet s { s with
      channel := { s.channel with outgoing := outgoing }, outbox := outbox,
      softResetSent := true } :=
    fun outbox => quiet_of_next rfl rfl rfl (fun _ => rfl) h.next_pos (le_refl _)
  rcases insertOutgoingPacket_cases hinsert with
    ⟨rfl, rfl⟩ | ⟨err, rfl, rfl⟩ | ⟨packet, _, rfl, hnew, rfl⟩
  · exact h.keep (hquiet _) rfl rfl
  · exact h.keep (hquiet _) (inFlightPackets_returnAcknowledgmentIDsLocked _ _) rfl
  · obtain ⟨hid, hopcode⟩ := ControlChannel.softResetPacketWith_eq_ok hnew
    refine h.insert (hquiet _) ?_ (.inr ⟨hid, rfl⟩) rfl
      (waiting_append _ _ (by rw [hopcode]; decide))
    rintro (⟨hpos, -⟩ | ⟨-, hsent⟩)
    · exact absurd hid (Nat.pos_iff_ne_zero.mp hpos)
    · rw [hfirst] at hsent
      cases hsent

theorem Disciplined.drop {outbox : List Departure}
    (hsub : (outbox.filter (·.packet.opcode ≠ .acknowledgmentV1)).Sublist s.waiting) :
    { s with outbox := outbox }.Disciplined :=
  { h with
    waiting_issued := fun departure hwaits => h.waiting_issued departure (hsub.subset hwaits)
    waiting_nodup := h.waiting_nodup.sublist (hsub.map _)
    waiting_due := fun departure hwaits => h.waiting_due departure (hsub.subset hwaits)
    waiting_timed := fun departure hwaits => h.waiting_timed departure (hsub.subset hwaits) }

theorem Disciplined.link {index : Nat} {reachesLink : Bool}
    (hpaced : s.WellPaced (s.clock, .link index reachesLink))
    (hlink : s.link index reachesLink = some s') : s'.Disciplined := by
  rw [TimedSender.link] at hlink
  cases hindex : s.outbox[index]? with
  | none =>
    rw [hindex] at hlink
    cases hlink
  | some departure =>
    rw [hindex] at hlink
    dsimp only at hlink
    obtain ⟨before, after, houtbox, herase⟩ := exists_eraseIdx hindex
    by_cases hopcode : departure.packet.opcode = .acknowledgmentV1
    · have hwaiting : (s.outbox.eraseIdx index).filter (·.packet.opcode ≠ .acknowledgmentV1) =
          s.waiting := by
        rw [herase, waiting, houtbox]
        simp [filter_append, hopcode]
      rw [if_pos hopcode] at hlink
      cases reachesLink with
      | true =>
        cases hlink
        exact h.withOutgoing _ _ rfl hwaiting
      | false =>
        cases hlink
        exact h.withOutgoing _ _
          (inFlightPackets_returnAcknowledgmentIDsLocked _ _) hwaiting
    · rw [if_neg hopcode] at hlink
      cases reachesLink with
      | true =>
        cases hlink
        exact h.send hindex hopcode (hpaced departure hindex)
      | false =>
        cases hlink
        exact h.drop ((eraseIdx_sublist _ _).filter _)

theorem Disciplined.receive (packet : Packet) : (s.receive packet).Disciplined := by
  rw [TimedSender.receive]
  cases s.channel.admitControlPacket packet with
  | dropped => exact h
  | softReset => exact h
  | recorded outgoing | inserting outgoing => exact h.record packet

theorem Disciplined.step {event : Time × SenderEvent} (hpaced : s.WellPaced event)
    (hstep : s.step event = some s') : s'.Disciplined := by
  obtain ⟨now, event⟩ := event
  rw [TimedSender.step] at hstep
  by_cases hback : now < s.clock
  · rw [if_pos hback] at hstep
    cases hstep
  rw [if_neg hback] at hstep
  have h : { s with clock := now }.Disciplined := { h with }
  cases event with
  | write pendingAcknowledgmentCount buffer =>
    rw [act] at hstep
    split_ifs at hstep
    cases hstep
    exact h.write pendingAcknowledgmentCount buffer
  | softReset =>
    rw [act] at hstep
    split_ifs at hstep with hsent
    cases hstep
    exact h.softReset (Bool.eq_false_iff.mpr hsent)
  | acknowledge =>
    cases hstep
    exact h.acknowledge
  | link index reachesLink => exact h.link hpaced hstep
  | pick reading =>
    rw [act] at hstep
    split_ifs at hstep with hround
    cases hstep
    exact h.pick hround.1 hpaced
  | seed packet =>
    cases hstep
    rw [seed]
    split_ifs
    · exact h
    · exact h.record packet
  | receive packet =>
    cases hstep
    exact h.receive packet

end

theorem disciplined_of_initial (h : senderSystem.initial s) : s.Disciplined := by
  obtain ⟨sessionManager, handlesSoftReset, wrappedClientKey, protectionOverhead, datagramOverhead,
    clock, hfirst, rfl⟩ := h
  have hempty : ∀ earlier later, ¬ Consecutive [] earlier later := by
    rintro earlier later ⟨newer, between, older, hlog, -⟩
    simp at hlog
  refine ⟨?_, ?_, ?_, ?_, ?_, ?_, ?_, ?_, ?_, ?_, ?_⟩
  · simp [newTLSControlChannel, hfirst]
  all_goals simp [newTLSControlChannel, newOutgoingReliableState, waiting, hempty]

end TimedSender

/-- In every run whose sender picks only packets that are due once and is not quicker to put one
on the link than the last time, between two consecutive transmissions of a packet its interval
has passed or three acknowledgments for later packets have arrived. -/
theorem retransmissions_spaced {s : TimedSender}
    (h : ReachableBy senderSystem TimedSender.WellPaced s) {earlier later : Transmission}
    (hconsecutive : Consecutive s.transmissions earlier later) :
    earlier.Released later.time later.heard := by
  have hdisciplined : s.Disciplined := h.invariant
    (fun _ hinitial => TimedSender.disciplined_of_initial hinitial)
    (fun _ _ _ hstate hpaced hstep => hstate.step hpaced hstep)
  exact hdisciplined.released earlier later hconsecutive

/-- The link refuses the first transmission; the sender makes it up, a tenth of a second after
it has picked the packet, and repeats it when two seconds are over. -/
theorem retransmissions_spaced_by_timer :
    ∃ s earlier later, ReachableBy senderSystem TimedSender.WellPaced s ∧
      Consecutive s.transmissions earlier later ∧ earlier.Released later.time later.heard := by
  obtain ⟨s, hreachable, htransmissions⟩ : ∃ s, ReachableBy senderSystem TimedSender.WellPaced s ∧
      s.transmissions = [⟨1, 22 * 10 ^ 8, 10 ^ 8, 4 * 10 ^ 9, 0, []⟩,
        ⟨1, 2 * 10 ^ 8, 10 ^ 8, 2 * 10 ^ 9, 0, []⟩] :=
    exists_reachableBy senderSystem_initial_freshSender
      [(0, .write 0 [7]), (0, .link 0 false), (10 ^ 8, .pick (10 ^ 8)), (2 * 10 ^ 8, .link 0 true),
        (21 * 10 ^ 8, .pick (21 * 10 ^ 8)), (22 * 10 ^ 8, .link 0 true)] (by decide +kernel)
  have hconsecutive : Consecutive s.transmissions ⟨1, 2 * 10 ^ 8, 10 ^ 8, 2 * 10 ^ 9, 0, []⟩
      ⟨1, 22 * 10 ^ 8, 10 ^ 8, 4 * 10 ^ 9, 0, []⟩ := by
    rw [htransmissions]
    exact ⟨[], [], [], rfl, rfl, by simp⟩
  exact ⟨s, _, _, hreachable, hconsecutive, retransmissions_spaced hreachable hconsecutive⟩

end SingOpenVPN
