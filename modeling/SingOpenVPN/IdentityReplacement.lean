import SingOpenVPN.RegistryConsistency
import SingOpenVPN.ReplacementChain

/-!
# One session for each identity

Without duplicate identities a session that registers its identity takes it over from the
session that had it, closes that session and waits for its end.  A wait for the
direct predecessor covers all the earlier sessions only as long as no session stops
waiting early: the session in the middle of a chain may be closed by the next one, and
its wait then ends with its own context, while the oldest session still runs.

The sessions registered under an identity are a chain of holders; the steps that are
`orderly` keep it settled.
-/

namespace SingOpenVPN

open TransitionSystem ReplacementChain ServerRun Function

namespace ServerRun

variable {setup : ServerSetup} {s s' : ServerRun} {session : Nat}

def registeredUnder (s : ServerRun) (identity : String) : List Nat :=
  (s.registrations.filter fun registration => registration.1 = identity).map Prod.snd

theorem mem_registeredUnder {identity : String} :
    session ∈ s.registeredUnder identity ↔ (identity, session) ∈ s.registrations := by
  simp [registeredUnder]

/-- The run of the session has returned and its tunnel address is released. -/
def IsOver (s : ServerRun) (session : Nat) : Prop := (s.lives session).stage = .returned

def WaitsFor (s : ServerRun) (session existing : Nat) : Prop :=
  (s.lives session).stage = .displacing existing

def Active (s : ServerRun) (session : Nat) : Prop :=
  ¬ s.IsOver session ∧ ∀ existing, ¬ s.WaitsFor session existing

theorem active_of_stage {stage : SessionStage} (hstage : (s.lives session).stage = stage)
    (hactive : stage ≠ .returned) (hwaits : ∀ existing, stage ≠ .displacing existing) :
    s.Active session := by
  rw [← hstage] at hactive hwaits
  exact ⟨hactive, hwaits⟩

theorem not_waitsFor_of_isOver (holder previous : Nat) (h : s.IsOver holder) :
    ¬ s.WaitsFor holder previous := by
  unfold WaitsFor
  rw [h]
  nofun

/-! ### Orderly steps -/

def leavesNoIdentity (s : ServerRun) (session : Nat) : Bool :=
  decide ((s.lives session).stage = .returned) ||
    decide (s.registry.sessionByIdentity.lookup
      (s.registry.sessions session).authenticatedIdentity ≠ some session)

/-- No session gives up waiting for one that is not over, and no promotion and no float
    displaces a session that has its identity and is not over. -/
def orderly (setup : ServerSetup) (s : ServerRun) : Event → Bool
  | .act session .returnRun =>
    match (s.lives session).stage with
    | .displacing existing => decide ((s.lives existing).stage = .returned)
    | _ => true
  | .act session .promote =>
    match (s.lives session).stage with
    | .promoting remoteAddress =>
      ((s.registry.promoteFrom setup.text session remoteAddress).bind Prod.fst).all
        s.leavesNoIdentity
    | _ => true
  | .act session (.float sourceAddress) =>
    ((s.registry.floatUDPSessionToSource setup.text session sourceAddress).bind Prod.fst).all
      s.leavesNoIdentity
  | _ => true

/-! ### The invariant -/

structure IdentityInvariant (s : ServerRun) : Prop where
  finished : ∀ session, (s.lives session).finished = true → s.IsOver session
  created : ∀ identity session, (identity, session) ∈ s.registrations →
    session < s.registry.created
  settled : ∀ identity, Settled s.IsOver s.WaitsFor (s.registeredUnder identity)
  /-- An identity has the last session that registered it. -/
  latest : ∀ identity session, s.registry.sessionByIdentity.lookup identity = some session →
    (s.registeredUnder identity).head? = some session
  free : ∀ identity, s.registry.sessionByIdentity.lookup identity = none →
    ∀ session ∈ s.registeredUnder identity, s.IsOver session

theorem identityInvariant_start : IdentityInvariant start := by
  constructor <;> simp [start, SessionRegistry.start, registeredUnder, Settled]

namespace IdentityInvariant

variable {joins leaves moves : Option Nat} {registry : SessionRegistry} {stage : SessionStage}
  {identity : String}

section

variable (h : s.IdentityInvariant)

include h

/-- Everyone is over when the session that has the identity is. -/
theorem all_over (hfound : s.registry.sessionByIdentity.lookup identity = some session)
    (hover : s.IsOver session) : ∀ other ∈ s.registeredUnder identity, s.IsOver other := by
  obtain ⟨rest, hrest⟩ := List.head?_eq_some_iff.mp (h.latest identity session hfound)
  have hsettled := h.settled identity
  rw [hrest] at hsettled ⊢
  have hbelow := hsettled.earlier_over not_waitsFor_of_isOver fun previous hwaits =>
    absurd hwaits (not_waitsFor_of_isOver session previous hover)
  intro other hother
  rcases List.mem_cons.mp hother with rfl | hmem
  · exact hover
  · exact hbelow other hmem

theorem keep (hregistrations : s'.registrations = s.registrations)
    (heffect : s.registry.RegistryEffect s'.registry joins leaves none moves)
    (hleaves : ∀ identity other, leaves = some other →
      s.registry.sessionByIdentity.lookup identity = some other → s.IsOver other)
    (hover : ∀ other < s.registry.created, s.IsOver other → s'.IsOver other)
    (hwaits : ∀ other < s.registry.created, ∀ existing, s.WaitsFor other existing →
      s'.WaitsFor other existing ∨ s.IsOver existing)
    (hfinished : ∀ other, (s'.lives other).finished = true → s'.IsOver other) :
    s'.IdentityInvariant := by
  have hsame : ∀ identity, s'.registeredUnder identity = s.registeredUnder identity := by
    intro identity
    rw [registeredUnder, hregistrations, registeredUnder]
  have hcreated : ∀ identity, ∀ other ∈ s.registeredUnder identity, other < s.registry.created :=
    fun identity other hother => h.created identity other (mem_registeredUnder.mp hother)
  refine ⟨hfinished, ?_, ?_, ?_, ?_⟩
  · intro identity other hother
    rw [heffect.created]
    rw [hregistrations] at hother
    exact h.created identity other hother
  · intro identity
    rw [hsame]
    exact (h.settled identity).mono not_waitsFor_of_isOver
      (fun other hother => hover other (hcreated identity other hother))
      (fun other hother => hwaits other (hcreated identity other hother))
  · intro identity other hfound
    rw [hsame]
    exact h.latest identity other ((heffect.identity identity other hfound).resolve_right nofun)
  · intro identity hnone other hother
    rw [hsame] at hother
    refine hover other (hcreated identity other hother) ?_
    cases hbefore : s.registry.sessionByIdentity.lookup identity with
    | none => exact h.free identity hbefore other hother
    | some holder =>
      -- the holder can only have left
      have hleft : leaves = some holder := by
        by_contra hstays
        rw [heffect.kept identity holder hbefore hstays rfl] at hnone
        cases hnone
      exact h.all_over hbefore (hleaves identity holder hleft hbefore) other hother

theorem replaceRegistry (gone : List Nat)
    (heffect : s.registry.RegistryEffect registry joins leaves none moves)
    (hleaves : ∀ identity other, leaves = some other →
      s.registry.sessionByIdentity.lookup identity = some other → s.IsOver other) :
    IdentityInvariant { s with registry, gone } :=
  h.keep rfl heffect hleaves (fun _ _ => id) (fun _ _ _ => .inl) h.finished

theorem setLife {life : SessionLife} (hover : s.IsOver session → life.stage = .returned)
    (hwaits : ∀ existing, s.WaitsFor session existing →
      life.stage = .displacing existing ∨ s.IsOver existing)
    (hfinished : life.finished = true → life.stage = .returned) :
    (s.setLife session life).IdentityInvariant := by
  refine h.keep rfl SessionRegistry.TablesAgree.effect_refl nofun (fun other _ => ?_)
    (fun other _ => ?_) ?_
  · exact forall_lives_setLife (P := fun other life => s.IsOver other → life.stage = .returned)
      hover (fun _ _ => id) other
  · exact forall_lives_setLife (P := fun other life => ∀ existing, s.WaitsFor other existing →
      life.stage = .displacing existing ∨ s.IsOver existing) hwaits (fun _ _ _ => .inl) other
  · exact forall_lives_setLife (P := fun _ life => life.finished = true → life.stage = .returned)
      hfinished fun other _ => h.finished other

theorem setLife_of_active (hactive : s.Active session) {life : SessionLife}
    (hfinished : life.finished = (s.lives session).finished) :
    (s.setLife session life).IdentityInvariant :=
  h.setLife (fun hover => absurd hover hactive.1)
    (fun existing hwait => absurd hwait (hactive.2 existing))
    fun hnow => absurd (h.finished session (hfinished.symm.trans hnow)) hactive.1

theorem setStage (hactive : s.Active session) : (s.setStage session stage).IdentityInvariant :=
  h.setLife_of_active hactive rfl

/-- A session returns; if it waits, then for a session that is over. -/
theorem returned (hwaits : ∀ existing, s.WaitsFor session existing → s.IsOver existing) :
    (s.setStage session .returned).IdentityInvariant :=
  h.setLife (fun _ => rfl) (fun existing hwait => .inr (hwaits existing hwait)) fun _ => rfl

theorem newSession (remoteSessionID : SessionID) (remoteAddress : Option NetAddr)
    (reservation : Option Nat) :
    (s.newSession remoteSessionID remoteAddress reservation).IdentityInvariant := by
  have hold : ∀ identity, ∀ other ∈ s.registeredUnder identity,
      (s.newSession remoteSessionID remoteAddress reservation).lives other = s.lives other :=
    fun identity other hother => lives_newSession_of_ne _ _ _
      (ne_of_lt (h.created identity other (mem_registeredUnder.mp hother)))
  refine ⟨?_, ?_, ?_, h.latest, ?_⟩
  · intro other hfinished
    by_cases heq : other = s.registry.created
    · rw [heq, lives_newSession_self] at hfinished
      cases hfinished
    · rw [lives_newSession_of_ne _ _ _ heq] at hfinished
      rw [IsOver, lives_newSession_of_ne _ _ _ heq]
      exact h.finished other hfinished
  · intro identity other hother
    exact Nat.lt_succ_of_lt (h.created identity other hother)
  · intro identity
    refine (h.settled identity).mono not_waitsFor_of_isOver ?_ ?_
    · intro other hother hover
      rw [IsOver, hold identity other hother]
      exact hover
    · intro other hother existing hwaits
      rw [WaitsFor, hold identity other hother]
      exact .inl hwaits
  · intro identity hnone other hother
    rw [IsOver, hold identity other hother]
    exact h.free identity hnone other hother

theorem accept (hregistry : RegistryInvariant setup s) (reservation : Nat)
    (remoteSessionID : SessionID) (remoteAddress : Option NetAddr) (peerAddress : String) :
    (s.accept setup reservation remoteSessionID remoteAddress peerAddress).IdentityInvariant := by
  have hmade := h.newSession remoteSessionID remoteAddress (some reservation)
  unfold ServerRun.accept
  dsimp only
  split
  · next registry hok =>
    obtain ⟨-, heffect⟩ := hregistry.registerSession hok
    exact hmade.keep rfl heffect nofun (fun _ _ => id) (fun _ _ _ => .inl) hmade.finished
  · apply IdentityInvariant.returned
    · exact { hmade with }
    · intro existing hwaits
      unfold WaitsFor at hwaits
      rw [lives_newSession_self] at hwaits
      cases hwaits

theorem acceptInitial (hregistry : RegistryInvariant setup s) (remoteSessionID : SessionID)
    (remoteAddress : NetAddr) :
    (s.acceptInitial setup remoteSessionID remoteAddress).IdentityInvariant := by
  have hmade := h.newSession remoteSessionID (some remoteAddress) none
  unfold ServerRun.acceptInitial
  dsimp only
  split
  · next displaced registry hok =>
    obtain ⟨-, heffect, hslot⟩ := hregistry.registerInitialSession hok
    refine hmade.replaceRegistry _ heffect ?_
    intro identity other hleaves hfound
    obtain ⟨key, hkey⟩ := hslot other hleaves
    have hfits := hregistry.fits other
    have hcodec := (hfits.initial key hkey).1
    rw [(hfits.identity identity hfound).1] at hcodec
    cases hcodec
  · apply hmade.returned
    intro existing hwaits
    rw [WaitsFor, lives_newSession_self] at hwaits
    cases hwaits

end

/-- Whoever is displaced in an orderly step is over if it has an identity. -/
theorem over_of_leavesNoIdentity (hregistry : RegistryInvariant setup s) {displaced : Option Nat}
    (horderly : displaced.all s.leavesNoIdentity = true) (identity : String) (other : Nat)
    (hleaves : displaced = some other)
    (hfound : s.registry.sessionByIdentity.lookup identity = some other) : s.IsOver other := by
  rw [hleaves, Option.all_some, leavesNoIdentity, Bool.or_eq_true, decide_eq_true_eq,
    decide_eq_true_eq] at horderly
  refine horderly.resolve_right fun hlost => hlost ?_
  rw [(hregistry.agree.identity identity other hfound).2.1]
  exact hfound

theorem promote (h : s.IdentityInvariant) (hregistry : RegistryInvariant setup s)
    {address : NetAddr} (hstage : (s.lives session).stage = .promoting address)
    (horderly : s.orderly setup (.act session .promote) = true) :
    (s.promote setup session address).IdentityInvariant := by
  have haddress := (hregistry.fits session).promoting address hstage
  have hactive := active_of_stage hstage nofun nofun
  simp only [orderly, hstage] at horderly
  unfold ServerRun.promote
  split
  · exact h.setStage hactive
  · next registry hsome =>
    obtain ⟨-, heffect, -⟩ := hregistry.agree.promoteFrom haddress hsome
    have hpromoted := h.replaceRegistry s.gone heffect nofun
    exact hpromoted.setStage hactive
  · next displaced registry hsome =>
    obtain ⟨-, heffect, -⟩ := hregistry.agree.promoteFrom haddress hsome
    rw [hsome] at horderly
    have hpromoted := h.replaceRegistry (displaced :: s.gone) heffect
      (over_of_leavesNoIdentity hregistry horderly)
    have htaken : IdentityInvariant
        (({ s with registry, gone := displaced :: s.gone } : ServerRun).setLife displaced
          { s.lives displaced with reservation := none }) :=
      hpromoted.setLife id (fun _ => .inl) (h.finished displaced)
    have hsame := (s.stage_codec_withoutReservation displaced session).1
    exact htaken.setLife_of_active (active_of_stage (hsame.trans hstage) nofun nofun) rfl

/-- A new holder of an identity waits for the one before it. -/
theorem register (h : s.IdentityInvariant) (hcreated : session < s.registry.created)
    (hsame : registry.created = s.registry.created)
    (hlookup : ∀ other, registry.sessionByIdentity.lookup other =
      if other = identity then some session else s.registry.sessionByIdentity.lookup other)
    (hactive : s.Active session)
    (hstage : ∀ existing, s.registry.sessionByIdentity.lookup identity = some existing →
      stage = .displacing existing) :
    IdentityInvariant { s.setStage session stage with
      registry, registrations := (identity, session) :: s.registrations } := by
  have hstaged : (s.setStage session stage).IdentityInvariant := h.setStage hactive
  have hunder : ∀ other, registeredUnder { s.setStage session stage with
      registry, registrations := (identity, session) :: s.registrations } other =
        if other = identity then session :: s.registeredUnder other
        else s.registeredUnder other := by
    intro other
    unfold registeredUnder
    by_cases heq : identity = other
    · simp [heq]
    · simp [heq, Ne.symm heq]
  refine ⟨hstaged.finished, ?_, ?_, ?_, ?_⟩
  · intro other holder hholder
    rcases List.mem_cons.mp hholder with heq | hbefore
    · cases heq
      exact hsame ▸ hcreated
    · exact hsame ▸ h.created other holder hbefore
  · intro other
    rw [hunder]
    by_cases heq : other = identity
    · rw [if_pos heq, heq]
      refine ⟨?_, hstaged.settled identity⟩
      cases hfound : s.registry.sessionByIdentity.lookup identity with
      | none => exact .inl (hstaged.free identity hfound)
      | some existing =>
        refine .inr ⟨existing, h.latest identity existing hfound, ?_⟩
        unfold WaitsFor
        rw [ServerRun.setStage, lives_setLife_self]
        exact hstage existing hfound
    · rw [if_neg heq]
      exact hstaged.settled other
  · intro other holder hfound
    rw [hunder]
    rw [hlookup] at hfound
    by_cases heq : other = identity
    · rw [if_pos heq] at hfound ⊢
      exact hfound
    · rw [if_neg heq] at hfound ⊢
      exact h.latest other holder hfound
  · intro other hnone
    rw [hunder]
    rw [hlookup] at hnone
    by_cases heq : other = identity
    · rw [if_pos heq] at hnone
      cases hnone
    · rw [if_neg heq] at hnone ⊢
      exact hstaged.free other hnone

section

variable (h : s.IdentityInvariant) (hregistry : RegistryInvariant setup s)

include h hregistry

theorem bindIdentity (hcreated : session < s.registry.created)
    (hstage : (s.lives session).stage = .identifying) :
    (s.bindIdentity setup session).IdentityInvariant := by
  have hactive := active_of_stage hstage nofun nofun
  have hother : ∀ identity, s.registry.sessionByIdentity.lookup identity ≠ some session := by
    intro identity hfound
    have hafter := ((hregistry.fits session).identity identity hfound).2
    rw [hstage] at hafter
    cases hafter
  rcases s.bindIdentity_cases setup session with ⟨stage, -, heq⟩ |
    ⟨existing, registry, stage, hne, hok, hnext, heq⟩
  · rw [heq]
    exact h.setStage hactive
  rw [heq]
  obtain ⟨-, rfl, rfl⟩ := SessionRegistry.bindAuthenticatedIdentity_eq_ok hne hok
  refine h.register hcreated rfl ?_ hactive ?_
  · intro other
    by_cases heq : other = (s.registry.sessions session).authenticatedIdentity
    · rw [if_pos heq, heq]
      exact AList.lookup_insert _
    · rw [if_neg heq]
      exact AList.lookup_insert_ne heq
  · intro existing hfound
    have hkept : existing ≠ session := by
      rintro rfl
      exact hother _ hfound
    rw [hfound, Option.filter_some, if_pos (decide_eq_true hkept)] at hnext
    rcases hnext with ⟨hnone, -⟩ | ⟨other, hsome, rfl⟩
    · cases hnone
    · cases hsome
      rfl

theorem float (hcodec : (s.lives session).codec = true) {sourceAddress : NetAddr}
    (horderly : s.orderly setup (.act session (.float sourceAddress)) = true) :
    (s.float setup session sourceAddress).IdentityInvariant := by
  have hinitial := hregistry.not_initial_of_codec hcodec
  rw [orderly] at horderly
  unfold ServerRun.float
  split
  · exact h
  · next displaced registry hfloats =>
    obtain ⟨-, heffect⟩ := hregistry.agree.floatUDPSessionToSource hinitial hfloats
    rw [hfloats] at horderly
    exact h.replaceRegistry _ heffect (over_of_leavesNoIdentity hregistry horderly)

theorem unregister (hcreated : session < s.registry.created) (hover : s.IsOver session) :
    IdentityInvariant { s with
      registry := s.registry.evictSessionLocked session, gone := session :: s.gone } := by
  refine h.replaceRegistry _ (hregistry.agree.effect_evict hcreated) ?_
  rintro identity other ⟨⟩ -
  exact hover

/-- **Every orderly step of a session keeps the invariant.** -/
theorem sessionStep (hcreated : session < s.registry.created) {action : SessionAction}
    (horderly : s.orderly setup (.act session action) = true)
    (hstep : s.SessionStep setup session action s') : s'.IdentityInvariant := by
  cases hstep with
  | lockCertificateIdentity =>
    exact h.replaceRegistry s.gone (hregistry.agree.effect_setSession rfl rfl) nofun
  | notUDP hstage haddress | startPromotion hstage haddress | displacedFinished hstage hfinished =>
    exact h.setStage (active_of_stage hstage nofun nofun)
  | promote hstage => exact h.promote hregistry hstage horderly
  | reserveForPromotion hstage =>
    have hactive := active_of_stage hstage nofun nofun
    unfold reserveForPromotion
    split
    · split
      · have hcounted : s.countReservation.IdentityInvariant :=
          { h with }
        exact hcounted.setStage hactive
      · exact h.setStage hactive
    · exact h.setStage hactive
  | storeReservation hstage =>
    exact h.setLife_of_active (active_of_stage hstage nofun nofun) rfl
  | enablePeerID hstage =>
    unfold enablePeerID
    split
    · next registry hok =>
      exact h.replaceRegistry s.gone (hregistry.agree.enablePeerID hok).2 nofun
    · rcases hstage with hstage | hstage
      · exact h.setStage (active_of_stage hstage nofun nofun)
      · exact h.setStage (active_of_stage hstage nofun nofun)
  | installCodec hstage => exact h.setLife id (fun _ => .inl) (h.finished session)
  | @setIdentity identity hstage hcodec =>
    have hset : s.registry.RegistryEffect
        (s.registry.setAuthenticatedIdentity session identity) none none none none :=
      hregistry.agree.effect_setSession rfl rfl
    exact (h.replaceRegistry s.gone hset nofun).setStage (active_of_stage hstage nofun nofun)
  | bindIdentity hstage => exact h.bindIdentity hregistry hcreated hstage
  | @existingFinished existing hstage hfinished =>
    refine h.setLife ?_ ?_ ?_
    · intro hover
      cases hstage.symm.trans hover
    · intro other hwait
      cases hstage.symm.trans hwait
      exact .inr (h.finished existing hfinished)
    · intro hover
      cases hstage.symm.trans (h.finished session hover)
  | confirmIdentity hstage =>
    have hactive := active_of_stage hstage nofun nofun
    unfold confirmIdentity
    dsimp only
    split
    · exact h.setStage hactive
    · exact h.setStage hactive
  | float hcodec => exact h.float hregistry hcodec horderly
  | returnRun hstage =>
    apply h.returned
    intro existing hwait
    rw [orderly, hwait] at horderly
    rw [IsOver]
    exact of_decide_eq_true horderly
  | finish hstage | takeReservation hstage hreleasing =>
    exact h.setLife id (fun _ => .inl) fun _ => hstage
  | unregister hstage => exact h.unregister hregistry hcreated hstage
  | @giveBack reservation hreleasing =>
    have hreleased : (s.release reservation).IdentityInvariant :=
      { h with }
    exact hreleased.setLife id (fun _ => .inl) (h.finished session)

theorem step {event : Event} (horderly : s.orderly setup event = true)
    (hstep : s.step setup event = some s') : s'.IdentityInvariant := by
  cases eventStep_of_step hstep with
  | stop | dropReservation hmem => exact { h with }
  | reserve =>
    unfold reserve
    split
    · exact { h with }
    · exact h
  | accept hmem => exact h.accept hregistry ..
  | acceptInitial => exact h.acceptInitial hregistry ..
  | act hcreated hsession => exact h.sessionStep hregistry hcreated horderly hsession

end

end IdentityInvariant

theorem identityInvariant_of_reachable
    (h : ReachableBy (serverSystem setup) (fun s event => s.orderly setup event = true) s) :
    s.IdentityInvariant := by
  refine (ReachableBy.invariant (P := fun s => RegistryInvariant setup s ∧ s.IdentityInvariant)
    h ?_ ?_).2
  · rintro _ rfl
    exact ⟨registryInvariant_start, identityInvariant_start⟩
  · intro _ _ _ hinvariant horderly hstep
    exact ⟨hinvariant.1.step hstep, hinvariant.2.step hinvariant.1 horderly hstep⟩

end ServerRun

/-! ### Who is over when a session is served -/

/-- **In an orderly run a served session is the only one of its identity that is left**: all
    that registered the identity before it have returned and released their tunnel
    addresses. -/
theorem replaced_sessions_over {setup : ServerSetup} {s : ServerRun}
    (h : ReachableBy (serverSystem setup) (fun s event => s.orderly setup event = true) s)
    {identity : String} {session : Nat} {later earlier : List (String × Nat)}
    (hregistered : s.registrations = later ++ (identity, session) :: earlier)
    (hserving : (s.lives session).stage = .serving) :
    ∀ other, (identity, other) ∈ earlier → s.IsOver other := by
  intro other hother
  have hsettled := (ServerRun.identityInvariant_of_reachable h).settled identity
  have hunder : s.registeredUnder identity =
      (later.filter fun registration => registration.1 = identity).map Prod.snd ++
        session :: (earlier.filter fun registration => registration.1 = identity).map Prod.snd := by
    rw [ServerRun.registeredUnder, hregistered]
    simp
  rw [hunder] at hsettled
  refine hsettled.of_append.earlier_over ServerRun.not_waitsFor_of_isOver ?_ other ?_
  · intro previous hwaits
    rw [ServerRun.WaitsFor, hserving] at hwaits
    cases hwaits
  · simpa using hother

/-- A client connects over a stream and goes as far as the registration of its identity. -/
def connectEvents (session : Nat) (peerAddress : String) : List ServerRun.Event :=
  [.reserve, .acceptStream session (List.Vector.replicate 8 1) peerAddress,
    .act session .startPromotion, .act session .installCodec,
    .act session (.setIdentity "alice"), .act session .bindIdentity]

/-- A client replaces its old session, which ends before the new one is served. -/
theorem replaced_sessions_over_second :
    ∃ s, ReachableBy (serverSystem smallSetup)
        (fun s event => s.orderly smallSetup event = true) s ∧
      s.registrations = [("alice", 1), ("alice", 0)] ∧ (s.lives 1).stage = .serving ∧
      s.IsOver 0 := by
  obtain ⟨s, hreachable, hregistered, hserving⟩ : ∃ s, ReachableBy (serverSystem smallSetup)
      (fun s event => s.orderly smallSetup event = true) s ∧
      s.registrations = [("alice", 1), ("alice", 0)] ∧ (s.lives 1).stage = .serving :=
    exists_reachableBy rfl (connectEvents 0 "a" ++ [.act 0 .confirmIdentity] ++
      connectEvents 1 "b" ++ [.act 0 .returnRun, .act 0 .finish, .act 1 .existingFinished,
        .act 1 .confirmIdentity]) (by decide +kernel)
  have hsplit : s.registrations = [] ++ ("alice", 1) :: [("alice", 0)] := hregistered
  exact ⟨s, hreachable, hregistered, hserving,
    replaced_sessions_over hreachable hsplit hserving 0 List.mem_cons_self⟩

/-- In a chain of three the session in the middle is closed while it waits for the oldest.
    It ends, so the newest is served, and the oldest still has its tunnel address. -/
theorem middle_session_gives_up :
    ∃ s, Reachable (serverSystem { smallSetup with maxClients := 3 }) s ∧
      s.registrations = [("alice", 2), ("alice", 1), ("alice", 0)] ∧
      (s.lives 2).stage = .serving ∧ (s.lives 1).finished = true ∧ ¬ s.IsOver 0 := by
  unfold IsOver
  exact exists_reachableBy rfl (connectEvents 0 "a" ++ [.act 0 .confirmIdentity] ++
    connectEvents 1 "b" ++ connectEvents 2 "c" ++ [.act 1 .returnRun, .act 1 .finish,
      .act 2 .existingFinished, .act 2 .confirmIdentity]) (by decide +kernel)

end SingOpenVPN
