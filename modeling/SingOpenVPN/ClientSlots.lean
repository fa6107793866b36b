import Mathlib.Algebra.BigOperators.Group.Finset.Piecewise
import Mathlib.Algebra.Order.Group.Multiset
import Mathlib.Tactic.Abel
import SingOpenVPN.RegistryConsistency
import SingOpenVPN.UDPAdmission

/-!
# Client slots (`server_resource_policy.go`)

A reservation of one of the `MaxClients` slots goes from the listener to a session, from a
displaced session to the one that is promoted over it, and back to the policy when a
session ends.  The session that is promoted holds none of its own until then, so nothing
is overwritten when it takes one over; one that finds nothing to take over
reserves a slot and stores it in a second step, in which it may be displaced itself.

Every reservation has a number.  The numbers that are out and the numbers that were
released are together those handed out, each once (`SlotInvariant.balance`).
-/

namespace SingOpenVPN

open TransitionSystem Multiset ServerRun SessionLife Function Multiset

/-- A reservation on its way into the field of the session. -/
def SessionStage.carried : SessionStage → Option Nat
  | .storing reservation _ => some reservation
  | _ => none

/-- The reservations a session holds: stored, about to be stored and about to be given back. -/
def SessionLife.held (life : SessionLife) : Multiset Nat :=
  life.reservation.toList + life.releasing.toList + life.stage.carried.toList

theorem SessionRegistry.initial_registerSession {text : NetAddr → String} {r r' : SessionRegistry}
    {running : Bool} {initialPeerAddress : String} {session : Nat} {udpAddress : Option NetAddr}
    (h : r.registerSession text running initialPeerAddress session udpAddress = .ok r') :
    r'.udpInitialSessionByAddress = r.udpInitialSessionByAddress := by
  unfold registerSession at h
  split at h
  · cases h
  split at h
  · cases h
  split at h
  · cases h
    rfl
  · split at h
    · split at h
      · cases h
      · cases h
        rfl
    · cases h
      rfl

namespace ServerRun

variable {setup : ServerSetup} {s s' : ServerRun} {session : Nat}

/-- The reservations that are held by a session or on their way to one. -/
def outstanding (s : ServerRun) : Multiset Nat :=
  s.onTheWay + ∑ session ∈ Finset.range s.registry.created, (s.lives session).held

/-! ### What a session holds -/

theorem outstanding_setLife (hcreated : session < s.registry.created) (life : SessionLife) :
    (s.setLife session life).outstanding + (s.lives session).held = s.outstanding + life.held := by
  have hmem := Finset.mem_range.mpr hcreated
  have hheld : ∀ other, ((s.setLife session life).lives other).held =
      update (fun other => (s.lives other).held) session life.held other :=
    fun other => apply_update (fun _ => held) s.lives session life other
  have hsum : ∑ other ∈ Finset.range s.registry.created,
      ((s.setLife session life).lives other).held =
        life.held + ∑ other ∈ (Finset.range s.registry.created).erase session,
          (s.lives other).held := by
    rw [Finset.sum_congr rfl fun other _ => hheld other, Finset.sum_update_of_mem hmem,
      Finset.sdiff_singleton_eq_erase]
  have hbefore := Finset.add_sum_erase (Finset.range s.registry.created)
    (fun other => (s.lives other).held) hmem
  calc (s.setLife session life).outstanding + (s.lives session).held
      = s.onTheWay + (life.held + ∑ other ∈ (Finset.range s.registry.created).erase session,
          (s.lives other).held) + (s.lives session).held := by rw [← hsum]; rfl
    _ = s.onTheWay + ((s.lives session).held +
          ∑ other ∈ (Finset.range s.registry.created).erase session, (s.lives other).held) +
          life.held := by abel
    _ = s.outstanding + life.held := by rw [hbefore]; rfl

variable {life : SessionLife}

/-- A change of stage moves no reservation, except around the storing of one. -/
theorem outstanding_setLife_of_held (hcreated : session < s.registry.created)
    (hheld : life.held = (s.lives session).held) :
    (s.setLife session life).outstanding = s.outstanding := by
  have hchange := outstanding_setLife hcreated life
  rw [hheld] at hchange
  exact add_right_cancel hchange

theorem held_setStage {stage : SessionStage} (hcarried : stage.carried = life.stage.carried) :
    { life with stage }.held = life.held := by
  unfold held
  rw [hcarried]

/-- The reservation in the field is one of those a session holds. -/
theorem held_eq (life : SessionLife) :
    life.held = life.reservation.toList + { life with reservation := none }.held := by
  simp [held]

theorem sum_held_newSession (s : ServerRun) (remoteSessionID : SessionID)
    (remoteAddress : Option NetAddr)
    (reservation : Option Nat) :
    ∑ other ∈ Finset.range (s.registry.created + 1),
      ((s.newSession remoteSessionID remoteAddress reservation).lives other).held =
        ∑ other ∈ Finset.range s.registry.created, (s.lives other).held + reservation.toList := by
  rw [Finset.sum_range_succ]
  congr 1
  · refine Finset.sum_congr rfl fun other hother => ?_
    rw [lives_newSession_of_ne _ _ _ (ne_of_lt (Finset.mem_range.mp hother))]
  · rw [lives_newSession_self]
    simp [held, SessionStage.carried]

/-! ### The invariant -/

/-- A session that may still take a reservation over, or is about to store one, has none. -/
structure ReservationFits (r : SessionRegistry) (session : Nat) (life : SessionLife) : Prop where
  initial : ∀ key, r.udpInitialSessionByAddress.lookup key = some session →
    life.reservation = none
  storing : ∀ reservation, life.stage.carried = some reservation → life.reservation = none

structure SlotInvariant (setup : ServerSetup) (s : ServerRun) : Prop where
  balance : s.outstanding + s.released = range s.issued
  counter : s.instances + s.released.length = s.issued
  bounded : s.instances ≤ setup.maxClients
  fits : ∀ session, ReservationFits s.registry session (s.lives session)

theorem slotInvariant_start : SlotInvariant setup start where
  balance := by simp [start, SessionRegistry.start, outstanding]
  counter := by simp [start]
  bounded := by simp [start]
  fits session := ⟨by simp [start], by simp [start]⟩

namespace SlotInvariant

variable {registrations : List (String × Nat)} {gone : List Nat} {reservation : Nat}
  {displaced : Option Nat} {registry : SessionRegistry}

section

variable (h : SlotInvariant setup s)

include h

theorem replaceRegistry (hcreated : registry.created = s.registry.created)
    (hinitial : ∀ key other, registry.udpInitialSessionByAddress.lookup key = some other →
      s.registry.udpInitialSessionByAddress.lookup key = some other ∨
        (s.lives other).reservation = none) :
    SlotInvariant setup { s with registry, registrations, gone } := by
  refine ⟨?_, h.counter, h.bounded, fun other => ⟨fun key hfound => ?_, (h.fits other).storing⟩⟩
  · have hsame : outstanding { s with registry, registrations, gone } = s.outstanding := by
      unfold outstanding
      rw [hcreated]
    rw [hsame]
    exact h.balance
  · rcases hinitial key other hfound with hbefore | hnone
    · exact (h.fits other).initial key hbefore
    · exact hnone

theorem locked {leaves binds moves : Option Nat}
    (heffect : s.registry.RegistryEffect registry none leaves binds moves) :
    SlotInvariant setup { s with registry, registrations, gone } :=
  h.replaceRegistry heffect.created fun key other hfound =>
    .inl ((heffect.initial key other hfound).resolve_right nofun)

theorem setLife (hcreated : session < s.registry.created) {life : SessionLife}
    (hheld : life.held = (s.lives session).held) (hfits : ReservationFits s.registry session life) :
    SlotInvariant setup (s.setLife session life) := by
  refine ⟨?_, h.counter, h.bounded, forall_lives_setLife hfits fun other _ => h.fits other⟩
  rw [outstanding_setLife_of_held hcreated hheld]
  exact h.balance

theorem setStage (hcreated : session < s.registry.created) {stage : SessionStage}
    (hbefore : (s.lives session).stage.carried = none) (hafter : stage.carried = none) :
    SlotInvariant setup (s.setStage session stage) := by
  refine h.setLife hcreated (held_setStage (hafter.trans hbefore.symm))
    ⟨(h.fits session).initial, fun reservation hcarried => ?_⟩
  rw [hafter] at hcarried
  cases hcarried

theorem issue (hfree : s.instances < setup.maxClients)
    (hout : s'.outstanding = s.issued ::ₘ s.outstanding) (hissued : s'.issued = s.issued + 1)
    (hinstances : s'.instances = s.instances + 1) (hreleased : s'.released = s.released)
    (hfits : ∀ session, ReservationFits s'.registry session (s'.lives session)) :
    SlotInvariant setup s' := by
  refine ⟨?_, ?_, ?_, hfits⟩
  · rw [hout, hreleased, hissued, cons_add, h.balance, range_succ]
  · rw [hinstances, hreleased, hissued]
    have := h.counter
    omega
  · omega

end

theorem giveBack (h : SlotInvariant setup s) {reservation : Nat}
    (hout : reservation ::ₘ s'.outstanding = s.outstanding) (hissued : s'.issued = s.issued)
    (hinstances : s'.instances = s.instances - 1)
    (hreleased : s'.released = reservation :: s.released)
    (hfits : ∀ session, ReservationFits s'.registry session (s'.lives session)) :
    SlotInvariant setup s' := by
  have hbounded := h.bounded
  refine ⟨?_, ?_, ?_, hfits⟩
  · rw [hreleased, hissued, ← h.balance, ← hout, ← cons_coe, add_cons,
      cons_add]
  · rw [hinstances, hreleased, hissued, List.length_cons]
    have := h.counter
    omega
  · omega

/-! ### The listener -/

section

variable (h : SlotInvariant setup s)

include h

theorem reserve : SlotInvariant setup (s.reserve setup) := by
  unfold ServerRun.reserve
  split
  · next hfree =>
    refine h.issue hfree ?_ rfl rfl rfl h.fits
    rw [outstanding, ← cons_coe, cons_add]
    rfl
  · exact h

theorem dropReservation (hmem : reservation ∈ s.onTheWay) :
    SlotInvariant setup
      { s.release reservation with onTheWay := s.onTheWay.erase reservation } := by
  refine h.giveBack ?_ rfl rfl rfl h.fits
  have herase : reservation ::ₘ ((s.onTheWay.erase reservation : List Nat) : Multiset Nat) =
      s.onTheWay := cons_erase (mem_coe.mpr hmem)
  unfold outstanding
  rw [← herase]
  exact (cons_add ..).symm

theorem newSession (hregistry : RegistryInvariant setup s) {onTheWay : List Nat}
    {reservation : Option Nat}
    (hgiven : (onTheWay : Multiset Nat) + reservation.toList = s.onTheWay)
    (remoteSessionID : SessionID) (remoteAddress : Option NetAddr) :
    SlotInvariant setup { s.newSession remoteSessionID remoteAddress reservation with
      onTheWay } := by
  have hout : outstanding { s.newSession remoteSessionID remoteAddress reservation with
      onTheWay } = s.outstanding := by
    calc outstanding { s.newSession remoteSessionID remoteAddress reservation with onTheWay }
        = onTheWay + ∑ other ∈ Finset.range (s.registry.created + 1),
            ((s.newSession remoteSessionID remoteAddress reservation).lives other).held := rfl
      _ = onTheWay + (∑ other ∈ Finset.range s.registry.created, (s.lives other).held +
            reservation.toList) := by rw [s.sum_held_newSession]
      _ = s.outstanding := by
        rw [outstanding, ← hgiven]
        abel
  refine ⟨hout ▸ h.balance, h.counter, h.bounded, fun other => ?_⟩
  dsimp only
  by_cases heq : other = s.registry.created
  · rw [heq, lives_newSession_self]
    refine ⟨fun key hfound => ?_, nofun⟩
    exact absurd (hregistry.agree.initial key _ hfound).1
      (hregistry.agree.absent_of_not_lt (le_refl _) _)
  · rw [lives_newSession_of_ne _ _ _ heq]
    exact { h.fits other with }

theorem accept (hregistry : RegistryInvariant setup s) (hmem : reservation ∈ s.onTheWay)
    (remoteSessionID : SessionID) (remoteAddress : Option NetAddr) (peerAddress : String) :
    SlotInvariant setup
      (s.accept setup reservation remoteSessionID remoteAddress peerAddress) := by
  have herase : ((s.onTheWay.erase reservation : List Nat) : Multiset Nat) +
      (some reservation).toList = s.onTheWay := by
    rw [add_comm]
    exact cons_erase (mem_coe.mpr hmem)
  have hmade := h.newSession hregistry herase remoteSessionID remoteAddress
  unfold ServerRun.accept
  dsimp only
  split
  · next registry hok =>
    have hslots := SessionRegistry.initial_registerSession hok
    refine hmade.replaceRegistry (hregistry.registerSession hok).2.created ?_
    intro key other hfound
    rw [hslots] at hfound
    exact .inl hfound
  · refine hmade.setStage (Nat.lt_succ_self _) ?_ rfl
    dsimp only
    rw [lives_newSession_self]
    rfl

theorem acceptInitial (hregistry : RegistryInvariant setup s) (remoteSessionID : SessionID)
    (remoteAddress : NetAddr) :
    SlotInvariant setup (s.acceptInitial setup remoteSessionID remoteAddress) := by
  have hgiven : (s.onTheWay : Multiset Nat) + (none : Option Nat).toList = s.onTheWay :=
    add_zero _
  have hmade := h.newSession hregistry hgiven remoteSessionID (some remoteAddress)
  unfold ServerRun.acceptInitial
  dsimp only
  split
  · next displaced registry hok =>
    obtain ⟨-, heffect, -⟩ := hregistry.registerInitialSession hok
    refine hmade.replaceRegistry heffect.created ?_
    intro key other hfound
    refine (heffect.initial key other hfound).imp_right ?_
    rintro ⟨⟩
    exact congrArg reservation (lives_newSession_self ..)
  · refine hmade.setStage (Nat.lt_succ_self _) ?_ rfl
    dsimp only
    rw [lives_newSession_self]
    rfl

/-! ### Promotion -/

/-- A reservation goes from one session to another that has none. -/
theorem transfer (hcreated : session < s.registry.created) {displaced : Nat}
    (hdisplaced : displaced < s.registry.created) (hne : session ≠ displaced)
    (hnone : (s.lives session).reservation = none)
    (hfree : ∀ key, s.registry.udpInitialSessionByAddress.lookup key ≠ some session)
    (stage : SessionStage) (hbefore : (s.lives session).stage.carried = none)
    (hafter : stage.carried = none) :
    SlotInvariant setup
      ((s.setLife displaced { s.lives displaced with reservation := none }).setLife
      session { s.lives session with
        stage, reservation := (s.lives displaced).reservation }) := by
  have hlife : (s.setLife displaced { s.lives displaced with reservation := none }).lives session =
      s.lives session := lives_setLife_of_ne s _ hne
  have hkept : ({ s.lives session with stage, reservation := none } : SessionLife).held =
      (s.lives session).held := by
    simp [held, hnone, hbefore, hafter]
  have hfits : ReservationFits s.registry session
      { s.lives session with stage, reservation := (s.lives displaced).reservation } := by
    refine ⟨fun key hfound => absurd hfound (hfree key), fun reservation hcarried => ?_⟩
    rw [hafter] at hcarried
    cases hcarried
  refine ⟨?_, h.counter, h.bounded, forall_lives_setLife hfits fun other _ => ?_⟩
  · have htaken := outstanding_setLife hdisplaced { s.lives displaced with reservation := none }
    rw [held_eq (s.lives displaced), ← add_assoc] at htaken
    have hstored := outstanding_setLife
      (s := s.setLife displaced { s.lives displaced with reservation := none }) hcreated
      { s.lives session with stage, reservation := (s.lives displaced).reservation }
    rw [hlife, held_eq { s.lives session with
      stage, reservation := (s.lives displaced).reservation }, hkept, ← add_assoc,
      add_right_cancel htaken] at hstored
    rw [add_right_cancel hstored]
    exact h.balance
  · exact forall_lives_setLife (P := ReservationFits s.registry)
      ⟨fun _ _ => rfl, fun _ _ => rfl⟩ (fun other _ => h.fits other) other

theorem promote (hregistry : RegistryInvariant setup s) (hcreated : session < s.registry.created)
    {address : NetAddr} (hstage : (s.lives session).stage = .promoting address) :
    SlotInvariant setup (s.promote setup session address) := by
  have haddress := (hregistry.fits session).promoting address hstage
  have hcarried : (s.lives session).stage.carried = none := by rw [hstage]; rfl
  unfold ServerRun.promote
  split
  · exact h.setStage hcreated hcarried rfl
  · next registry hsome =>
    obtain ⟨-, heffect, -⟩ := hregistry.agree.promoteFrom haddress hsome
    have hlocked : SlotInvariant setup { s with registry } := h.locked heffect
    exact hlocked.setStage (heffect.created ▸ hcreated) hcarried rfl
  · next displaced registry hsome =>
    obtain ⟨-, heffect, hfree⟩ := hregistry.agree.promoteFrom haddress hsome
    obtain ⟨hslot, hfound⟩ := SessionRegistry.promoteFrom_eq_some hsome
    have hne := (hfound displaced rfl).1.symm
    have hlocked : SlotInvariant setup { s with registry, gone := displaced :: s.gone } :=
      h.locked heffect
    have hmoved := hlocked.transfer (heffect.created ▸ hcreated)
      (heffect.created ▸ heffect.left displaced rfl) hne ((h.fits session).initial _ hslot) hfree
      (.reserving (some displaced)) hcarried rfl
    dsimp only
    rw [lives_setLife_of_ne s _ hne]
    exact hmoved

theorem reserveForPromotion (hcreated : session < s.registry.created)
    (hstage : (s.lives session).stage = .reserving displaced) :
    SlotInvariant setup (s.reserveForPromotion setup session displaced) := by
  have hcarried : (s.lives session).stage.carried = none := by rw [hstage]; rfl
  unfold ServerRun.reserveForPromotion
  split
  · next hnone =>
    split
    · next hfree =>
      have hheld : ({ s.lives session with stage := .storing s.issued displaced } :
          SessionLife).held = (s.lives session).held + {s.issued} := by
        simp [held, SessionStage.carried, hstage]
      have hfits : ReservationFits s.registry session
          { s.lives session with stage := .storing s.issued displaced } :=
        ⟨(h.fits session).initial, fun _ _ => hnone⟩
      refine h.issue hfree ?_ rfl rfl rfl (forall_lives_setLife hfits fun other _ => h.fits other)
      · have hstored : (s.countReservation.setStage session
            (.storing s.issued displaced)).outstanding + (s.lives session).held =
              s.outstanding + ((s.lives session).held + {s.issued}) :=
          hheld ▸ outstanding_setLife (s := s.countReservation) hcreated _
        rw [← singleton_add]
        apply add_right_cancel (b := (s.lives session).held)
        rw [hstored]
        abel
    · exact h.setStage hcreated hcarried rfl
  · apply h.setStage hcreated hcarried
    cases displaced with
    | none => rfl
    | some displaced => rfl

end

section

variable (h : SlotInvariant setup s) (hregistry : RegistryInvariant setup s)
  (hcreated : session < s.registry.created)

include h hregistry hcreated

/-- The reservation goes from the goroutine of the session into its field. -/
theorem storeReservation (hstage : (s.lives session).stage = .storing reservation displaced) :
    SlotInvariant setup (s.storeReservation session reservation displaced) := by
  have hcarried : (awaitDisplaced displaced).carried = none := by
    cases displaced with
    | none => rfl
    | some displaced => rfl
  have hnone := (h.fits session).storing reservation (by rw [hstage]; rfl)
  refine h.setLife hcreated ?_ ⟨fun key hfound => ?_, fun other hother => ?_⟩
  · rw [held, held, hnone, hcarried, hstage]
    simp [SessionStage.carried, add_comm]
  · have hbefore := ((hregistry.fits session).initial key hfound).2
    rw [hstage] at hbefore
    cases hbefore
  · rw [hcarried] at hother
    cases hother

/-! ### Every step -/

theorem enablePeerID (hcarried : (s.lives session).stage.carried = none) :
    SlotInvariant setup (s.enablePeerID setup session) := by
  unfold ServerRun.enablePeerID
  split
  · next registry hok => exact h.locked (hregistry.agree.enablePeerID hok).2
  · exact h.setStage hcreated hcarried rfl

theorem bindIdentity (hstage : (s.lives session).stage = .identifying) :
    SlotInvariant setup (s.bindIdentity setup session) := by
  have hcarried : (s.lives session).stage.carried = none := by rw [hstage]; rfl
  rcases s.bindIdentity_cases setup session with ⟨stage, hover, heq⟩ |
    ⟨existing, registry, stage, hne, hok, hnext, heq⟩
  · rw [heq]
    apply h.setStage hcreated hcarried
    rcases hover with rfl | rfl
    · rfl
    · rfl
  rw [heq]
  obtain ⟨-, heffect⟩ := hregistry.agree.bindAuthenticatedIdentity hne hok
  have hlocked : SlotInvariant setup { s with registry, registrations :=
      ((s.registry.sessions session).authenticatedIdentity, session) :: s.registrations } :=
    h.locked heffect
  apply hlocked.setStage (heffect.created ▸ hcreated) hcarried
  rcases hnext with ⟨-, rfl⟩ | ⟨other, -, rfl⟩
  · rfl
  · rfl

end

section

variable (h : SlotInvariant setup s)

include h

theorem float (hregistry : RegistryInvariant setup s) (hcodec : (s.lives session).codec = true)
    (sourceAddress : NetAddr) : SlotInvariant setup (s.float setup session sourceAddress) := by
  have hinitial := hregistry.not_initial_of_codec hcodec
  unfold ServerRun.float
  split
  · exact h
  · next displaced registry hfloats =>
    exact h.locked (hregistry.agree.floatUDPSessionToSource hinitial hfloats).2

theorem takeReservation (hcreated : session < s.registry.created)
    (hnone : (s.lives session).releasing = none) :
    SlotInvariant setup (s.setLife session { s.lives session with
      reservation := none, releasing := (s.lives session).reservation }) := by
  refine h.setLife hcreated ?_ ⟨fun _ _ => rfl, fun _ _ => rfl⟩
  simp [held, hnone]

theorem giveBackReservation (hcreated : session < s.registry.created)
    (hreleasing : (s.lives session).releasing = some reservation) :
    SlotInvariant setup ((s.release reservation).setLife session
      { s.lives session with releasing := none }) := by
  have hheld : (s.lives session).held =
      reservation ::ₘ ({ s.lives session with releasing := none } : SessionLife).held := by
    rw [← singleton_add, held, held, hreleasing]
    simp only [Option.toList_some, Option.toList_none, coe_singleton, coe_nil,
      add_zero]
    abel
  have hfits : ReservationFits s.registry session { s.lives session with releasing := none } :=
    { h.fits session with }
  refine h.giveBack ?_ rfl rfl rfl (forall_lives_setLife hfits fun other _ => h.fits other)
  · have hgiven : ((s.release reservation).setLife session
        { s.lives session with releasing := none }).outstanding + (s.lives session).held =
          s.outstanding + ({ s.lives session with releasing := none } : SessionLife).held :=
      outstanding_setLife (s := s.release reservation) hcreated _
    rw [hheld, add_cons, ← cons_add] at hgiven
    exact add_right_cancel hgiven

/-- **Every step of a session keeps the slots balanced.** -/
theorem sessionStep (hregistry : RegistryInvariant setup s)
    (hcreated : session < s.registry.created) {action : SessionAction}
    (hstep : s.SessionStep setup session action s') : SlotInvariant setup s' := by
  have hfits := h.fits session
  cases hstep with
  | lockCertificateIdentity =>
    exact h.locked (hregistry.agree.effect_setSession rfl rfl)
  | notUDP hstage haddress | startPromotion hstage haddress | displacedFinished hstage hfinished
  | existingFinished hstage hfinished => exact h.setStage hcreated (by rw [hstage]; rfl) rfl
  | promote hstage => exact h.promote hregistry hcreated hstage
  | reserveForPromotion hstage => exact h.reserveForPromotion hcreated hstage
  | storeReservation hstage => exact h.storeReservation hregistry hcreated hstage
  | enablePeerID hstage =>
    apply h.enablePeerID hregistry hcreated
    rcases hstage with hstage | hstage
    · rw [hstage]
      rfl
    · rw [hstage]
      rfl
  | installCodec hstage | finish hstage =>
    exact h.setLife hcreated rfl ⟨hfits.initial, hfits.storing⟩
  | @setIdentity identity hstage hcodec =>
    have hset : s.registry.RegistryEffect
        (s.registry.setAuthenticatedIdentity session identity) none none none none :=
      hregistry.agree.effect_setSession rfl rfl
    have hstaged : SlotInvariant setup (s.setStage session .identifying) :=
      h.setStage hcreated (by rw [hstage]; rfl) rfl
    exact hstaged.locked hset
  | bindIdentity hstage => exact h.bindIdentity hregistry hcreated hstage
  | confirmIdentity hstage =>
    unfold confirmIdentity
    dsimp only
    split
    · exact h.setStage hcreated (by rw [hstage]; rfl) rfl
    · exact h.setStage hcreated (by rw [hstage]; rfl) rfl
  | float hcodec => exact h.float hregistry hcodec _
  | returnRun hstage =>
    refine h.setStage hcreated ?_ rfl
    cases hcurrent : (s.lives session).stage with
    | storing reservation displaced =>
      rw [hcurrent] at hstage
      cases hstage
    | _ => rfl
  | unregister hstage => exact h.locked (hregistry.agree.effect_evict hcreated)
  | takeReservation hstage hreleasing => exact h.takeReservation hcreated hreleasing
  | giveBack hreleasing => exact h.giveBackReservation hcreated hreleasing

theorem step (hregistry : RegistryInvariant setup s) {event : Event}
    (hstep : s.step setup event = some s') : SlotInvariant setup s' := by
  cases eventStep_of_step hstep with
  | stop => exact { h with }
  | reserve => exact h.reserve
  | dropReservation hmem => exact h.dropReservation hmem
  | accept hmem => exact h.accept hregistry hmem ..
  | acceptInitial => exact h.acceptInitial hregistry ..
  | act hcreated hsession => exact h.sessionStep hregistry hcreated hsession

end

end SlotInvariant

/-! ### A session that has ended -/

variable {action : SessionAction}

/-- A session does nothing to another one but take its reservation. -/
theorem lives_of_sessionStep (hstep : s.SessionStep setup session action s') {other : Nat}
    (hne : other ≠ session) :
    s'.lives other = s.lives other ∨
      s'.lives other = { s.lives other with reservation := none } := by
  have hset : ∀ (t : ServerRun) (life : SessionLife), t.lives = s.lives →
      (t.setLife session life).lives other = s.lives other := by
    intro t life hlives
    rw [lives_setLife_of_ne t life hne, hlives]
  cases hstep with
  | lockCertificateIdentity => exact .inl rfl
  | promote hstage =>
    unfold promote
    split
    · exact .inl (hset _ _ rfl)
    · exact .inl (hset _ _ rfl)
    · next displaced registry hsome =>
      rw [lives_setLife_of_ne _ _ hne]
      by_cases heq : other = displaced
      · rw [heq, lives_setLife_self]
        exact .inr rfl
      · exact .inl (lives_setLife_of_ne _ _ heq)
  | reserveForPromotion hstage =>
    left
    unfold reserveForPromotion
    split
    · split
      · exact hset _ _ rfl
      · exact hset _ _ rfl
    · exact hset _ _ rfl
  | enablePeerID hstage =>
    left
    unfold enablePeerID
    split
    · rfl
    · exact hset _ _ rfl
  | bindIdentity hstage =>
    left
    rcases s.bindIdentity_cases setup session with ⟨stage, -, heq⟩ | ⟨_, _, stage, -, -, -, heq⟩
    · rw [heq]
      exact hset _ _ rfl
    · rw [heq]
      exact hset _ _ rfl
  | confirmIdentity hstage =>
    left
    unfold confirmIdentity
    dsimp only
    split
    · exact hset _ _ rfl
    · exact hset _ _ rfl
  | float hcodec =>
    left
    unfold float
    split
    · rfl
    · rfl
  | unregister hstage => exact .inl rfl
  | _ => exact .inl (hset _ _ rfl)

def Drained (s : ServerRun) (session : Nat) : Prop :=
  (s.lives session).stage = .returned ∧ (s.lives session).reservation = none ∧
    (s.lives session).releasing = none

theorem Drained.of_lives (h : s.Drained session) (hlives : s'.lives session = s.lives session) :
    s'.Drained session := by
  unfold Drained
  rw [hlives]
  exact h

theorem lives_accept (hcreated : session < s.registry.created) (reservation : Nat)
    (remoteSessionID : SessionID) (remoteAddress : Option NetAddr) (peerAddress : String) :
    (s.accept setup reservation remoteSessionID remoteAddress peerAddress).lives session =
      s.lives session := by
  have hne := ne_of_lt hcreated
  unfold accept
  dsimp only
  split
  · exact update_of_ne hne ..
  · rw [setStage, lives_setLife_of_ne _ _ hne]
    exact update_of_ne hne ..

theorem lives_acceptInitial (hcreated : session < s.registry.created) (remoteSessionID : SessionID)
    (remoteAddress : NetAddr) :
    (s.acceptInitial setup remoteSessionID remoteAddress).lives session = s.lives session := by
  have hne := ne_of_lt hcreated
  unfold acceptInitial
  dsimp only
  split
  · exact update_of_ne hne ..
  · rw [setStage, lives_setLife_of_ne _ _ hne]
    exact update_of_ne hne ..

/-- A session that is over takes only the steps that come after its run. -/
theorem Drained.sessionStep (h : s.Drained session)
    (hstep : s.SessionStep setup session action s') :
    s'.Drained session := by
  obtain ⟨hover, hreservation, hreleasing⟩ := h
  have hactive : ∀ {stage : SessionStage}, (s.lives session).stage = stage → stage ≠ .returned →
      s'.Drained session := fun hstage hne => absurd (hstage.symm.trans hover) hne
  cases hstep with
  | lockCertificateIdentity | unregister hstage => exact ⟨hover, hreservation, hreleasing⟩
  | enablePeerID hstage =>
    rcases hstage with hstage | hstage
    · exact hactive hstage nofun
    · exact hactive hstage nofun
  | float hcodec =>
    unfold float
    split
    · exact ⟨hover, hreservation, hreleasing⟩
    · exact ⟨hover, hreservation, hreleasing⟩
  | returnRun hstage =>
    rw [hover] at hstage
    cases hstage
  | finish hstage =>
    unfold Drained
    rw [lives_setLife_self]
    exact ⟨hover, hreservation, hreleasing⟩
  | takeReservation hstage hnone =>
    unfold Drained
    rw [lives_setLife_self]
    exact ⟨hover, rfl, hreservation⟩
  | giveBack hsome =>
    rw [hreleasing] at hsome
    cases hsome
  | notUDP hstage | startPromotion hstage | promote hstage | reserveForPromotion hstage
  | storeReservation hstage | displacedFinished hstage | installCodec hstage | setIdentity hstage
  | bindIdentity hstage | existingFinished hstage | confirmIdentity hstage =>
    exact hactive hstage nofun

/-- Nothing is stored in a session that has given its reservation back. -/
theorem Drained.step (h : s.Drained session) (hcreated : session < s.registry.created)
    {event : Event} (hstep : s.step setup event = some s') : s'.Drained session := by
  cases eventStep_of_step hstep with
  | stop => exact h
  | reserve =>
    unfold reserve
    split
    · exact h
    · exact h
  | dropReservation hmem => exact h
  | accept hmem => exact h.of_lives (lives_accept hcreated ..)
  | acceptInitial => exact h.of_lives (lives_acceptInitial hcreated ..)
  | @act actor action _ hactor hsession =>
    by_cases heq : session = actor
    · subst heq
      exact h.sessionStep hsession
    · rcases lives_of_sessionStep hsession heq with hsame | htaken
      · exact h.of_lives hsame
      · unfold Drained
        rw [htaken]
        exact ⟨h.1, rfl, h.2.2⟩

theorem slotInvariant_of_reachable (h : Reachable (serverSystem setup) s) :
    SlotInvariant setup s := by
  refine (ReachableBy.invariant (P := fun s => RegistryInvariant setup s ∧ SlotInvariant setup s)
    h ?_ ?_).2
  · rintro _ rfl
    exact ⟨registryInvariant_start, slotInvariant_start⟩
  · intro _ _ _ hinvariant _ hstep
    exact ⟨hinvariant.1.step hstep, hinvariant.2.step hinvariant.1 hstep⟩

end ServerRun

/-! ### Accounting -/

/-- **The client slots of a server are accounted for in every run.**  The counter is the number
    of reservations that are out, within its bounds; every reservation is out once or released
    once; a session that has given its own back at its end gets no other, and when all have,
    everything is released. -/
theorem client_slots_accounted {setup : ServerSetup} {s : ServerRun}
    (h : Reachable (serverSystem setup) s) :
    s.instances = s.outstanding.card ∧
    0 ≤ s.instances ∧ s.instances ≤ setup.maxClients ∧
    (∀ reservation < s.issued,
      s.outstanding.count reservation + s.released.count reservation = 1) ∧
    (∀ reservation ∈ s.released, reservation < s.issued) ∧
    (∀ event s', (serverSystem setup).step s event = some s' →
      ∀ session < s.registry.created, s.Drained session → s'.Drained session) ∧
    (s.onTheWay = [] → (∀ session < s.registry.created, s.Drained session) →
      s.instances = 0 ∧ ∀ reservation < s.issued, s.released.count reservation = 1) := by
  have hslots := ServerRun.slotInvariant_of_reachable h
  have hcard : s.instances = s.outstanding.card := by
    have hsum := congrArg card hslots.balance
    rw [card_add, card_range, coe_card] at hsum
    have hcounter := hslots.counter
    omega
  have honce : ∀ reservation < s.issued,
      s.outstanding.count reservation + s.released.count reservation = 1 := by
    intro reservation hissued
    have hcount := congrArg (count reservation) hslots.balance
    rw [count_add, coe_count] at hcount
    rw [hcount]
    exact count_eq_one_of_mem (nodup_range _) (mem_range.mpr hissued)
  refine ⟨hcard, by omega, hslots.bounded, honce, ?_, ?_, ?_⟩
  · intro reservation hreleased
    have hmem : reservation ∈ s.outstanding + (s.released : Multiset Nat) :=
      mem_add.mpr (.inr (mem_coe.mpr hreleased))
    rw [hslots.balance] at hmem
    exact mem_range.mp hmem
  · intro event s' hstep session hcreated hdrained
    exact hdrained.step hcreated hstep
  · intro hnone hdrained
    have hout : s.outstanding = 0 := by
      rw [ServerRun.outstanding, hnone, Finset.sum_eq_zero]
      · rfl
      · intro session hsession
        obtain ⟨hover, hreservation, hreleasing⟩ := hdrained session (Finset.mem_range.mp hsession)
        simp [SessionLife.held, SessionStage.carried, hover, hreservation, hreleasing]
    refine ⟨by rw [hcard, hout]; rfl, fun reservation hissued => ?_⟩
    have hcount := honce reservation hissued
    rwa [hout, count_zero, zero_add] at hcount

/-- The slot of a client goes from its first session to the second, which gives it back. -/
theorem client_slots_accounted_reconnect :
    ∃ s, Reachable (serverSystem smallSetup) s ∧ s.registry.created = 2 ∧ s.issued = 1 ∧
      s.released = [0] ∧ s.instances = s.outstanding.card ∧
      s.outstanding.count 0 + s.released.count 0 = 1 := by
  obtain ⟨s, hreachable, hcreated, hissued, hreleased⟩ :
    ∃ s, Reachable (serverSystem smallSetup) s ∧
      s.registry.created = 2 ∧ s.issued = 1 ∧ s.released = [0] :=
    exists_reachableBy rfl (reconnectEvents ++ [.act 0 .takeReservation, .act 1 .returnRun,
      .act 1 .finish, .act 1 .unregister, .act 1 .takeReservation, .act 1 .giveBack])
      (by decide +kernel)
  obtain ⟨hcounter, -, -, honce, -⟩ := client_slots_accounted hreachable
  exact ⟨s, hreachable, hcreated, hissued, hreleased, hcounter, honce 0 (by omega)⟩

end SingOpenVPN
