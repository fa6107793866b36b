import SingOpenVPN.RegistryInvariant

/-!
# The session registry in every run of a server

What the sections under the lock keep was shown one section at a time.  Here they run in
any order, with sessions that are displaced at any point of their handshake and callbacks
that come late.

Two facts about the goroutine of a session tie its stage to the tables.  While the session
is in an initial slot it has no data codec, so nothing floats it away from the address of
the slot, and the address that `promoteInitialSession` has read is still its own under
the lock.  And it gets an entry under its identity only after the identity was set.
-/

namespace SingOpenVPN

open TransitionSystem SessionRegistry

/-- The stages a session in an initial slot is in. -/
@[simp]
def SessionStage.beforePromotion : SessionStage → Bool
  | .negotiating | .promoting _ | .returned => true
  | _ => false

/-- The stages a session with a data codec is in. -/
@[simp]
def SessionStage.afterPromotion : SessionStage → Bool
  | .negotiating | .promoting _ | .reserving _ | .storing _ _ | .replacing _ => false
  | _ => true

/-- The stages a session with an entry under its identity is in. -/
@[simp]
def SessionStage.afterIdentity : SessionStage → Bool
  | .displacing _ | .confirming | .serving | .returned => true
  | _ => false

structure SessionFits (r : SessionRegistry) (session : Nat) (stage : SessionStage) (codec : Bool) :
    Prop where
  initial : ∀ key, r.udpInitialSessionByAddress.lookup key = some session →
    codec = false ∧ stage.beforePromotion = true
  promoting : ∀ address, stage = .promoting address →
    (r.sessions session).remoteAddress = some address
  decodes : codec = true → stage.afterPromotion = true
  identity : ∀ identity, r.sessionByIdentity.lookup identity = some session →
    codec = true ∧ stage.afterIdentity = true
  identifying : stage = .identifying → codec = true

namespace SessionFits

variable {r : SessionRegistry} {session : Nat} {stage stage' : SessionStage} {codec : Bool}

theorem move (h : SessionFits r session stage codec)
    (hbefore : stage.beforePromotion = true → stage'.beforePromotion = true)
    (hafter : stage.afterPromotion = true → stage'.afterPromotion = true)
    (hidentity : stage.afterIdentity = true → stage'.afterIdentity = true)
    (hpromoting : ∀ address, stage' ≠ .promoting address) (hidentifying : stage' ≠ .identifying) :
    SessionFits r session stage' codec where
  initial key hfound := (h.initial key hfound).imp_right hbefore
  promoting address heq := absurd heq (hpromoting address)
  decodes hcodec := hafter (h.decodes hcodec)
  identity identity hfound := (h.identity identity hfound).imp_right hidentity
  identifying heq := absurd heq hidentifying

theorem toReturned (h : SessionFits r session stage codec) :
    SessionFits r session .returned codec :=
  h.move (fun _ => rfl) (fun _ => rfl) (fun _ => rfl) nofun nofun

theorem of_effect {r' : SessionRegistry} {joins leaves binds moves : Option Nat}
    (h : SessionFits r session stage codec)
    (heffect : r.RegistryEffect r' joins leaves binds moves) (hjoins : joins ≠ some session)
    (hbinds : binds ≠ some session) (hmoves : moves ≠ some session) :
    SessionFits r' session stage codec :=
  { h with
    initial := fun key hfound =>
      h.initial key ((heffect.initial key session hfound).resolve_right hjoins)
    promoting := by
      rw [heffect.remoteAddress session hmoves]
      exact h.promoting
    identity := fun identity hfound =>
      h.identity identity ((heffect.identity identity session hfound).resolve_right hbinds) }

end SessionFits

namespace ServerRun

variable {setup : ServerSetup} {s s' : ServerRun} {session : Nat}

structure RegistryInvariant (setup : ServerSetup) (s : ServerRun) : Prop where
  agree : s.registry.TablesAgree setup.text
  fits : ∀ session, SessionFits s.registry session (s.lives session).stage (s.lives session).codec
  gone : ∀ session ∈ s.gone, session < s.registry.created ∧ ¬ s.registry.Registered session

theorem registryInvariant_start : RegistryInvariant setup start where
  agree := by constructor <;> simp [start, SessionRegistry.start, SessionRegistry.Registered]
  fits session := by constructor <;> simp [start, SessionRegistry.start]
  gone := by simp [start]

theorem session_newSession (s : ServerRun) (remoteSessionID : SessionID)
    (remoteAddress : Option NetAddr) (reservation : Option Nat) :
    ((s.newSession remoteSessionID remoteAddress reservation).registry.sessions
      s.registry.created).remoteAddress = remoteAddress ∧
    ((s.newSession remoteSessionID remoteAddress reservation).registry.sessions
      s.registry.created).serverPeerID = none := by
  simp [newSession, addSession]

namespace RegistryInvariant

variable {address : NetAddr} {leaves reservation : Option Nat} {remoteAddress : Option NetAddr}
  {peerAddress : String}

section

variable (h : RegistryInvariant setup s)

include h

theorem update (session : Nat) {joins binds moves : Option Nat}
    (hagree : s'.registry.TablesAgree setup.text)
    (heffect : s.registry.RegistryEffect s'.registry joins leaves binds moves)
    (hfits : SessionFits s'.registry session (s'.lives session).stage (s'.lives session).codec)
    (hothers : ∀ other, other ≠ session → (s'.lives other).stage = (s.lives other).stage ∧
      (s'.lives other).codec = (s.lives other).codec)
    (hjoins : ∀ other, joins = some other → other = session ∧ other ∉ s.gone)
    (hbinds : ∀ other, binds = some other → other = session)
    (hmoves : ∀ other, moves = some other → other = session)
    (hgone : s'.gone = leaves.toList ++ s.gone) : RegistryInvariant setup s' where
  agree := hagree
  fits other := by
    by_cases heq : other = session
    · rw [heq]
      exact hfits
    · obtain ⟨hstage, hcodec⟩ := hothers other heq
      rw [hstage, hcodec]
      exact (h.fits other).of_effect heffect (fun hjoined => heq (hjoins other hjoined).1)
        (fun hbound => heq (hbinds other hbound)) fun hmoved => heq (hmoves other hmoved)
  gone other hother := by
    rw [heffect.created]
    rw [hgone, List.mem_append, Option.mem_toList] at hother
    rcases hother with hleft | hbefore
    · exact ⟨heffect.left other hleft, fun hregistered =>
        (heffect.registered other hregistered).2 hleft⟩
    · refine ⟨(h.gone other hbefore).1, fun hregistered => ?_⟩
      rcases (heffect.registered other hregistered).1 with hold | hjoined
      · exact (h.gone other hbefore).2 hold
      · exact (hjoins other hjoined).2 hbefore

theorem setLife {life : SessionLife}
    (hfits : SessionFits s.registry session life.stage life.codec) :
    RegistryInvariant setup (s.setLife session life) where
  agree := h.agree
  fits := forall_lives_setLife (P := fun other life =>
    SessionFits s.registry other life.stage life.codec) hfits fun other _ => h.fits other
  gone := h.gone

theorem setStage {stage : SessionStage}
    (hfits : SessionFits s.registry session stage (s.lives session).codec) :
    RegistryInvariant setup (s.setStage session stage) :=
  h.setLife hfits

theorem returned (session : Nat) :
    RegistryInvariant setup (s.setStage session .returned) :=
  h.setStage (h.fits session).toReturned

theorem newSession (remoteSessionID : SessionID) (remoteAddress : Option NetAddr)
    (reservation : Option Nat) :
    RegistryInvariant setup (s.newSession remoteSessionID remoteAddress reservation) := by
  obtain ⟨hagree, hregistered⟩ := h.agree.addSession remoteSessionID remoteAddress
  have habsent : ¬ s.registry.Registered s.registry.created :=
    h.agree.absent_of_not_lt (le_refl _) _
  refine ⟨hagree, fun other => ?_, fun other hother => ?_⟩
  · by_cases heq : other = s.registry.created
    · subst heq
      rw [lives_newSession_self]
      refine ⟨fun key hfound => ⟨rfl, rfl⟩, nofun, nofun, fun identity hfound => ?_, nofun⟩
      exact absurd (h.agree.identity identity _ hfound).1 habsent
    · rw [lives_newSession_of_ne _ _ _ heq]
      refine { h.fits other with promoting := fun address hstage => ?_ }
      unfold ServerRun.newSession addSession
      dsimp only
      rw [Function.update_of_ne heq]
      exact (h.fits other).promoting address hstage
  · obtain ⟨hlt, hbefore⟩ := h.gone other hother
    exact ⟨Nat.lt_succ_of_lt hlt, fun hnow => hbefore ((hregistered other).mp hnow)⟩

end

variable {displaced : Option Nat} {remoteSessionID : SessionID} {registry : SessionRegistry}

section

variable (h : RegistryInvariant setup s)

include h

/-- The new session negotiates, whether it is registered alone or displaces another one. -/
theorem join (hregistry : s'.registry.TablesAgree setup.text)
    (heffect : (s.newSession remoteSessionID remoteAddress reservation).registry.RegistryEffect
      s'.registry (some s.registry.created) leaves none none)
    (hlives : s'.lives = (s.newSession remoteSessionID remoteAddress reservation).lives)
    (hgone : s'.gone = leaves.toList ++ s.gone) : RegistryInvariant setup s' := by
  have hmade := h.newSession remoteSessionID remoteAddress reservation
  have hfits := hmade.fits s.registry.created
  rw [lives_newSession_self] at hfits
  refine hmade.update s.registry.created hregistry heffect ?_ ?_ ?_ nofun nofun hgone
  · rw [hlives, lives_newSession_self]
    refine ⟨fun key hfound => ⟨rfl, rfl⟩, nofun, nofun, fun identity hfound => ?_, nofun⟩
    exact hfits.identity identity ((heffect.identity identity _ hfound).resolve_right nofun)
  · intro other _
    rw [hlives]
    exact ⟨rfl, rfl⟩
  · rintro _ ⟨⟩
    refine ⟨rfl, fun hbefore => ?_⟩
    exact lt_irrefl _ (h.gone _ hbefore).1

theorem registerSession
    (hok : (s.newSession remoteSessionID remoteAddress reservation).registry.registerSession
      setup.text s.running peerAddress s.registry.created remoteAddress = .ok registry) :
    registry.TablesAgree setup.text ∧
      (s.newSession remoteSessionID remoteAddress reservation).registry.RegistryEffect registry
        (some s.registry.created) none none none := by
  have hmade := h.newSession remoteSessionID remoteAddress reservation
  obtain ⟨hremote, hpeerID⟩ := s.session_newSession remoteSessionID remoteAddress reservation
  apply hmade.agree.registerSession (h.agree.absent_of_not_lt (le_refl _))
    (Nat.lt_succ_self _) hpeerID
  rw [hremote]
  exact hok

theorem registerInitialSession {remoteAddress : NetAddr}
    (hok : (s.newSession remoteSessionID (some remoteAddress) none).registry.registerInitialSession
      setup.text s.running peerAddress s.registry.created remoteAddress =
        .ok (displaced, registry)) :
    registry.TablesAgree setup.text ∧
      (s.newSession remoteSessionID (some remoteAddress) none).registry.RegistryEffect registry
        (some s.registry.created) displaced none none ∧
      ∀ existing, displaced = some existing →
        ∃ key, s.registry.udpInitialSessionByAddress.lookup key = some existing := by
  have hmade := h.newSession remoteSessionID (some remoteAddress) none
  obtain ⟨hremote, hpeerID⟩ := s.session_newSession remoteSessionID (some remoteAddress) none
  exact hmade.agree.registerInitialSession (h.agree.absent_of_not_lt (le_refl _))
    (Nat.lt_succ_self _) hpeerID hremote hok

theorem accept (reservation : Nat) (remoteSessionID : SessionID) (remoteAddress : Option NetAddr)
    (peerAddress : String) :
    RegistryInvariant setup (s.accept setup reservation remoteSessionID remoteAddress
      peerAddress) := by
  have hmade := h.newSession remoteSessionID remoteAddress (some reservation)
  unfold ServerRun.accept
  dsimp only
  split
  · next registry hok =>
    obtain ⟨hagree, heffect⟩ := h.registerSession hok
    exact h.join hagree heffect rfl rfl
  · apply RegistryInvariant.returned
    exact { hmade with }

theorem acceptInitial (remoteSessionID : SessionID) (remoteAddress : NetAddr) :
    RegistryInvariant setup (s.acceptInitial setup remoteSessionID remoteAddress) := by
  have hmade := h.newSession remoteSessionID (some remoteAddress) none
  unfold ServerRun.acceptInitial
  dsimp only
  split
  · next displaced registry hok =>
    obtain ⟨hagree, heffect, -⟩ := h.registerInitialSession hok
    exact h.join hagree heffect rfl rfl
  · exact hmade.returned _

/-- The address the session has read is still its own, so its slot is found if it has one. -/
theorem promote (hstage : (s.lives session).stage = .promoting address) :
    RegistryInvariant setup (s.promote setup session address) := by
  obtain ⟨hinitial, hpromoting, hafter, hidentity, hidentifying⟩ := h.fits session
  have haddress := hpromoting address hstage
  rw [hstage] at hafter hidentity
  have hcodec : (s.lives session).codec = false := by simpa using hafter
  have hnone : ∀ identity, s.registry.sessionByIdentity.lookup identity ≠ some session := by
    intro identity hfound
    simpa using (hidentity identity hfound).2
  have hpromoted : ∀ displaced registry,
      s.registry.promoteFrom setup.text session address = some (displaced, registry) →
      registry.TablesAgree setup.text ∧
        s.registry.RegistryEffect registry none displaced none none ∧
      SessionFits registry session (.reserving displaced) (s.lives session).codec := by
    intro displaced registry hsome
    obtain ⟨hagree, heffect, hfree⟩ := h.agree.promoteFrom haddress hsome
    refine ⟨hagree, heffect, ?_, nofun, ?_, ?_, nofun⟩
    · intro key hfound
      exact absurd hfound (hfree key)
    · rw [hcodec]
      nofun
    · intro identity hfound
      exact absurd ((heffect.identity identity session hfound).resolve_right nofun) (hnone identity)
  unfold ServerRun.promote
  split
  · next hmissing =>
    apply h.setStage
    refine ⟨fun key hfound => ?_, nofun, fun _ => rfl, fun identity hfound => ?_, nofun⟩
    · exfalso
      obtain ⟨-, address', haddress', rfl⟩ := h.agree.initial key session hfound
      rw [haddress] at haddress'
      cases haddress'
      unfold promoteFrom at hmissing
      rw [if_neg (by simpa using hfound)] at hmissing
      cases hmissing
    · exact absurd hfound (hnone identity)
  · next registry hsome =>
    obtain ⟨hagree, heffect, hfits⟩ := hpromoted none registry hsome
    refine h.update session hagree heffect ?_ ?_ nofun nofun nofun rfl
    · rw [ServerRun.setStage, lives_setLife_self]
      exact hfits
    · intro other hne
      rw [ServerRun.setStage, lives_setLife_of_ne s _ hne]
      exact ⟨rfl, rfl⟩
  · next displaced registry hsome =>
    obtain ⟨hagree, heffect, hfits⟩ := hpromoted (some displaced) registry hsome
    refine h.update session hagree heffect ?_ ?_ nofun nofun nofun rfl
    · rw [lives_setLife_self]
      rw [(s.stage_codec_withoutReservation displaced session).2]
      exact hfits
    · intro other hne
      rw [lives_setLife_of_ne _ _ hne]
      exact s.stage_codec_withoutReservation displaced other

theorem replaceRegistry (hagree : registry.TablesAgree setup.text)
    (heffect : s.registry.RegistryEffect registry none none none none) :
    RegistryInvariant setup { s with registry } :=
  h.update 0 hagree heffect ((h.fits 0).of_effect heffect nofun nofun nofun)
    (fun _ _ => ⟨rfl, rfl⟩) nofun nofun nofun rfl

theorem enablePeerID (session : Nat) : RegistryInvariant setup (s.enablePeerID setup session) := by
  unfold ServerRun.enablePeerID
  split
  · next registry hok =>
    obtain ⟨hagree, heffect⟩ := h.agree.enablePeerID hok
    exact h.replaceRegistry hagree heffect
  · exact h.returned session

theorem bindIdentity (hstage : (s.lives session).stage = .identifying) :
    RegistryInvariant setup (s.bindIdentity setup session) := by
  have hfits := h.fits session
  rw [hstage] at hfits
  have hcodec := hfits.identifying rfl
  rcases s.bindIdentity_cases setup session with ⟨stage, hover, heq⟩ |
    ⟨existing, registry, stage, hne, hok, hnext, heq⟩
  · rw [heq]
    apply h.setStage
    rcases hover with rfl | rfl
    · exact hfits.move (by simp) (by simp) (by simp) nofun nofun
    · exact hfits.toReturned
  rw [heq]
  obtain ⟨hagree, heffect⟩ := h.agree.bindAuthenticatedIdentity hne hok
  have hinitial : ∀ key, registry.udpInitialSessionByAddress.lookup key ≠ some session := by
    intro key hfound
    have hbefore := (heffect.initial key session hfound).resolve_right nofun
    simpa using (hfits.initial key hbefore).2
  refine h.update session hagree heffect ?_ ?_ nofun ?_ nofun rfl
  · rw [ServerRun.setStage, lives_setLife_self]
    rw [hcodec]
    rcases hnext with ⟨-, rfl⟩ | ⟨other, -, rfl⟩
    all_goals
      exact ⟨fun key hfound => absurd hfound (hinitial key), nofun, fun _ => rfl,
        fun _ _ => ⟨rfl, rfl⟩, nofun⟩
  · intro other hne
    rw [ServerRun.setStage, lives_setLife_of_ne s _ hne]
    exact ⟨rfl, rfl⟩
  · rintro other ⟨⟩
    rfl

theorem not_initial_of_codec (hcodec : (s.lives session).codec = true) (key : String) :
    s.registry.udpInitialSessionByAddress.lookup key ≠ some session := by
  intro hfound
  rw [((h.fits session).initial key hfound).1] at hcodec
  cases hcodec

theorem float (hcodec : (s.lives session).codec = true) (sourceAddress : NetAddr) :
    RegistryInvariant setup (s.float setup session sourceAddress) := by
  obtain ⟨hinitial, hpromoting, hafter, hidentity, hidentifying⟩ := h.fits session
  have hnone := h.not_initial_of_codec hcodec
  unfold ServerRun.float
  split
  · exact h
  next displaced registry hfloats =>
  obtain ⟨hagree, heffect⟩ := h.agree.floatUDPSessionToSource hnone hfloats
  refine h.update session hagree heffect ?_ (fun _ _ => ⟨rfl, rfl⟩) nofun nofun ?_ rfl
  · refine ⟨fun key hfound => ?_, fun address hstage => ?_, hafter, fun identity hfound => ?_,
    hidentifying⟩
    · exact absurd ((heffect.initial key session hfound).resolve_right nofun) (hnone key)
    · have hpassed := hafter hcodec
      rw [hstage] at hpassed
      cases hpassed
    · exact hidentity identity ((heffect.identity identity session hfound).resolve_right nofun)
  · rintro other ⟨⟩
    rfl

theorem unregister (hcreated : session < s.registry.created) :
    RegistryInvariant setup
      { s with registry := s.registry.evictSessionLocked session, gone := session :: s.gone } := by
  have heffect := h.agree.effect_evict hcreated
  exact h.update session (h.agree.evict session) heffect
    ((h.fits session).of_effect heffect nofun nofun nofun) (fun _ _ => ⟨rfl, rfl⟩) nofun nofun
    nofun rfl

/-- The address of a session in an initial slot is read before it is promoted. -/
theorem startPromotion (hstage : (s.lives session).stage = .negotiating)
    (haddress : (s.registry.sessions session).remoteAddress = some address) :
    RegistryInvariant setup (s.setStage session (.promoting address)) := by
  obtain ⟨hinitial, -, hafter, hidentity, -⟩ := h.fits session
  rw [hstage] at hinitial hafter hidentity
  apply h.setStage
  refine ⟨fun key hfound => ⟨(hinitial key hfound).1, rfl⟩, ?_, ?_, ?_, nofun⟩
  · rintro _ ⟨⟩
    exact haddress
  · intro hcodec
    simpa using hafter hcodec
  · intro identity hfound
    simpa using hidentity identity hfound

theorem notUDP (hstage : (s.lives session).stage = .negotiating)
    (haddress : (s.registry.sessions session).remoteAddress = none) :
    RegistryInvariant setup (s.setStage session .promoted) := by
  obtain ⟨-, -, -, hidentity, -⟩ := h.fits session
  rw [hstage] at hidentity
  apply h.setStage
  refine ⟨fun key hfound => ?_, nofun, fun _ => rfl, fun identity hfound => ?_, nofun⟩
  · obtain ⟨-, address, hfoundAddress, -⟩ := h.agree.initial key session hfound
    rw [haddress] at hfoundAddress
    cases hfoundAddress
  · simpa using hidentity identity hfound

theorem reserveForPromotion (hstage : (s.lives session).stage = .reserving displaced) :
    RegistryInvariant setup (s.reserveForPromotion setup session displaced) := by
  have hfits := h.fits session
  rw [hstage] at hfits
  unfold ServerRun.reserveForPromotion
  split
  · split
    · have hcounted : RegistryInvariant setup s.countReservation := { h with }
      apply hcounted.setStage
      exact hfits.move (by simp) (by simp) (by simp) nofun nofun
    · exact h.returned session
  · apply h.setStage
    cases displaced with
    | none | some displaced => exact hfits.move (by simp) (by simp) (by simp) nofun nofun

theorem storeReservation {reservation : Nat}
    (hstage : (s.lives session).stage = .storing reservation displaced) :
    RegistryInvariant setup (s.storeReservation session reservation displaced) := by
  have hfits := h.fits session
  rw [hstage] at hfits
  apply h.setLife
  cases displaced with
  | none | some displaced => exact hfits.move (by simp) (by simp) (by simp) nofun nofun

theorem installCodec (hstage : (s.lives session).stage = .promoted) :
    RegistryInvariant setup (s.setLife session { s.lives session with codec := true }) := by
  obtain ⟨hinitial, -, -, hidentity, -⟩ := h.fits session
  rw [hstage] at hinitial hidentity
  apply h.setLife
  rw [hstage]
  refine ⟨fun key hfound => ?_, nofun, fun _ => rfl, fun identity hfound => ?_, fun _ => rfl⟩
  · simpa using hinitial key hfound
  · simpa using hidentity identity hfound

end

theorem setIdentity (h : RegistryInvariant setup s) (hstage : (s.lives session).stage = .promoted)
    (hcodec : (s.lives session).codec = true) (identity : String) :
    RegistryInvariant setup { s.setStage session .identifying with
      registry := s.registry.setAuthenticatedIdentity session identity } := by
  obtain ⟨hinitial, -, -, hidentity, -⟩ := h.fits session
  rw [hstage] at hinitial hidentity
  have hnone : ∀ identity, s.registry.sessionByIdentity.lookup identity ≠ some session := by
    intro identity hfound
    simpa using (hidentity identity hfound).2
  have hstaged : RegistryInvariant setup (s.setStage session .identifying) := by
    apply h.setStage
    refine ⟨fun key hfound => ?_, nofun, fun _ => rfl, fun identity hfound => ?_, fun _ => hcodec⟩
    · simpa using (hinitial key hfound).2
    · exact absurd hfound (hnone identity)
  obtain ⟨hagree, heffect⟩ := h.agree.setAuthenticatedIdentity hnone identity
  exact hstaged.replaceRegistry hagree heffect

theorem confirmIdentity (h : RegistryInvariant setup s)
    (hstage : (s.lives session).stage = .confirming) :
    RegistryInvariant setup (s.confirmIdentity session) := by
  have hfits := h.fits session
  rw [hstage] at hfits
  unfold ServerRun.confirmIdentity
  dsimp only
  split
  · apply h.setStage
    exact hfits.move (by simp) (by simp) (by simp) nofun nofun
  · exact h.returned session

/-- **Every step of a session keeps the invariant.** -/
theorem sessionStep (h : RegistryInvariant setup s) (hcreated : session < s.registry.created)
    {action : SessionAction} (hstep : s.SessionStep setup session action s') :
    RegistryInvariant setup s' := by
  have hfits := h.fits session
  cases hstep with
  | lockCertificateIdentity =>
    exact h.replaceRegistry (h.agree.setSession (fun _ => rfl) (fun _ => rfl) (fun _ _ => rfl)
      fun _ _ => rfl) (h.agree.effect_setSession rfl rfl)
  | notUDP hstage haddress => exact h.notUDP hstage haddress
  | startPromotion hstage haddress => exact h.startPromotion hstage haddress
  | promote hstage => exact h.promote hstage
  | reserveForPromotion hstage => exact h.reserveForPromotion hstage
  | storeReservation hstage => exact h.storeReservation hstage
  | displacedFinished hstage hfinished | existingFinished hstage hfinished =>
    rw [hstage] at hfits
    apply h.setStage
    exact hfits.move (by simp) (by simp) (by simp) nofun nofun
  | enablePeerID hstage => exact h.enablePeerID session
  | installCodec hstage => exact h.installCodec hstage
  | setIdentity hstage hcodec => exact h.setIdentity hstage hcodec _
  | bindIdentity hstage => exact h.bindIdentity hstage
  | confirmIdentity hstage => exact h.confirmIdentity hstage
  | float hcodec => exact h.float hcodec _
  | returnRun hstage => exact h.returned session
  | finish hstage | takeReservation hstage hreleasing => exact h.setLife hfits
  | unregister hstage => exact h.unregister hcreated
  | @giveBack reservation hreleasing =>
    have hreleased : RegistryInvariant setup (s.release reservation) := { h with }
    exact hreleased.setLife hfits

theorem step (h : RegistryInvariant setup s) {event : Event}
    (hstep : s.step setup event = some s') : RegistryInvariant setup s' := by
  cases eventStep_of_step hstep with
  | stop | dropReservation hmem => exact { h with }
  | reserve =>
    unfold ServerRun.reserve
    split
    · exact { h with }
    · exact h
  | accept hmem => exact h.accept ..
  | acceptInitial => exact h.acceptInitial ..
  | act hcreated hsession => exact h.sessionStep hcreated hsession

end RegistryInvariant

theorem registryInvariant_of_reachable (h : Reachable (serverSystem setup) s) :
    RegistryInvariant setup s := by
  refine ReachableBy.invariant h ?_ ?_
  · rintro _ rfl
    exact registryInvariant_start
  · intro _ _ _ hinvariant _ hstep
    exact hinvariant.step hstep

end ServerRun

/-! ### Consistency -/

namespace SessionRegistry

def Absent (r : SessionRegistry) (session : Nat) : Prop :=
  (∀ name, r.sessionByPeer.lookup name ≠ some session) ∧
  (∀ peerID, r.sessionByPeerID.lookup peerID ≠ some session) ∧
  (∀ identity, r.sessionByIdentity.lookup identity ≠ some session) ∧
  (∀ key, r.udpSessionByAddress.lookup key ≠ some session) ∧
  ∀ key, r.udpInitialSessionByAddress.lookup key ≠ some session

/-- An address table has at most one key for a session, the text of its remote address. -/
def BoundToRemoteAddress (text : NetAddr → String) (r : SessionRegistry)
    (table : SessionTable String) : Prop :=
  (∀ key session, table.lookup key = some session →
    ∃ address, (r.sessions session).remoteAddress = some address ∧ key = text address) ∧
  ∀ key key' session, table.lookup key = some session → table.lookup key' = some session →
    key = key'

variable {text : NetAddr → String}

theorem boundToRemoteAddress {r : SessionRegistry} {table : SessionTable String}
    (h : ∀ key session, table.lookup key = some session →
      r.Registered session ∧ ∃ address, (r.sessions session).remoteAddress = some address ∧
        key = text address) : r.BoundToRemoteAddress text table := by
  refine ⟨fun key session hfound => (h key session hfound).2, ?_⟩
  intro key key' session hfound hfound'
  obtain ⟨-, address, haddress, rfl⟩ := h key session hfound
  obtain ⟨-, address', haddress', rfl⟩ := h key' session hfound'
  rw [haddress] at haddress'
  cases haddress'
  rfl

theorem TablesAgree.absent {r : SessionRegistry} {session : Nat} (h : r.TablesAgree text)
    (hsession : ¬ r.Registered session) : r.Absent session := by
  refine ⟨?_, ?_, ?_, ?_, ?_⟩
  · intro name hfound
    apply hsession
    rw [Registered, (h.peer name session hfound).1]
    exact hfound
  · exact fun peerID hfound => hsession (h.peerID peerID session hfound).1
  · exact fun identity hfound => hsession (h.identity identity session hfound).1
  · exact fun key hfound => hsession (h.address key session hfound).1
  · exact fun key hfound => hsession (h.initial key session hfound).1

end SessionRegistry

/-- **The tables of a server agree in every run**, whatever sessions are displaced at which
    point: they refer to registered sessions only, peer ids are not shared, an address table
    binds a session to its remote address, and who was displaced or unregistered is gone. -/
theorem session_registry_consistent {setup : ServerSetup} {s : ServerRun}
    (h : Reachable (serverSystem setup) s) :
    (∀ peerID session, s.registry.sessionByPeerID.lookup peerID = some session →
      s.registry.Registered session) ∧
    (∀ identity session, s.registry.sessionByIdentity.lookup identity = some session →
      s.registry.Registered session) ∧
    (∀ key session, s.registry.udpSessionByAddress.lookup key = some session →
      s.registry.Registered session) ∧
    (∀ key session, s.registry.udpInitialSessionByAddress.lookup key = some session →
      s.registry.Registered session) ∧
    (∀ session session' peerID, s.registry.Registered session → s.registry.Registered session' →
      (s.registry.sessions session).serverPeerID = some peerID →
      (s.registry.sessions session').serverPeerID = some peerID → session = session') ∧
    s.registry.BoundToRemoteAddress setup.text s.registry.udpSessionByAddress ∧
    s.registry.BoundToRemoteAddress setup.text s.registry.udpInitialSessionByAddress ∧
    ∀ session ∈ s.gone, s.registry.Absent session := by
  obtain ⟨hagree, -, hgone⟩ := ServerRun.registryInvariant_of_reachable h
  refine ⟨fun peerID session hfound => (hagree.peerID peerID session hfound).1,
    fun identity session hfound => (hagree.identity identity session hfound).1,
    fun key session hfound => (hagree.address key session hfound).1,
    fun key session hfound => (hagree.initial key session hfound).1, ?_,
    boundToRemoteAddress hagree.address,
    boundToRemoteAddress hagree.initial,
    fun session hsession => hagree.absent (hgone session hsession).2⟩
  intro session session' peerID hsession hsession' hpeerID hpeerID'
  have hfound := hagree.keepsPeerID peerID session hsession hpeerID
  have hfound' := hagree.keepsPeerID peerID session' hsession' hpeerID'
  rw [hfound] at hfound'
  exact Option.some.inj hfound'

def smallSetup : ServerSetup := { text := NetAddr.keyText, maxClients := 2, duplicateCN := false }

def officeAddress : NetAddr := .udp { ip := [192, 0, 2, 1], port := 1194, zone := [] }

def trainAddress : NetAddr := .udp { ip := [198, 51, 100, 7], port := 4500, zone := [] }

/-- What a session does from its registration to the end of its handshake. -/
def handshakeEvents (session : Nat) (identity : String) : List ServerRun.Event :=
  [.act session .startPromotion, .act session .promote, .act session .enablePeerID,
    .act session .installCodec, .act session (.setIdentity identity), .act session .bindIdentity,
    .act session .confirmIdentity]

/-- A client connects, starts over from the same address while the old session is still
    served, takes its address over, and moves to another one. -/
def reconnectEvents : List ServerRun.Event :=
  [.reserve, .acceptUDP 0 (List.Vector.replicate 8 1) officeAddress] ++
    handshakeEvents 0 "alice" ++
  [.acceptInitial (List.Vector.replicate 8 2) officeAddress,
    .act 1 .startPromotion, .act 1 .promote, .act 1 .reserveForPromotion,
    .act 0 .returnRun, .act 0 .finish, .act 1 .displacedFinished, .act 1 .enablePeerID,
    .act 1 .installCodec, .act 1 (.float trainAddress), .act 0 .unregister]

theorem session_registry_consistent_reconnect :
    ∃ s, Reachable (serverSystem smallSetup) s ∧ 0 ∈ s.gone ∧
      s.registry.udpSessionByAddress.lookup trainAddress.keyText = some 1 ∧
      s.registry.BoundToRemoteAddress NetAddr.keyText s.registry.udpSessionByAddress ∧
      s.registry.Registered 1 ∧ s.registry.Absent 0 := by
  obtain ⟨s, hreachable, hgone, hbound⟩ : ∃ s, Reachable (serverSystem smallSetup) s ∧ 0 ∈ s.gone ∧
      s.registry.udpSessionByAddress.lookup trainAddress.keyText = some 1 :=
    exists_reachableBy rfl reconnectEvents (by decide +kernel)
  obtain ⟨-, -, haddress, -, -, honce, -, habsent⟩ := session_registry_consistent hreachable
  exact ⟨s, hreachable, hgone, hbound, honce, haddress _ _ hbound, habsent 0 hgone⟩

/-- **A datagram reaches its own session only**, in every run: a registered one, whose peer id
    it carries or which is bound to the address it came from, and whose session id it carries
    if it is a control packet. -/
theorem datagram_reaches_own_session {setup : ServerSetup} {s : ServerRun}
    (h : Reachable (serverSystem setup) s) {rawPacket : Bytes} {peerAddress : String}
    {session : Nat}
    (hroute : s.registry.routeUDPPacketLocked rawPacket peerAddress = .deliver session) :
    s.registry.Registered session ∧ session ∉ s.gone ∧
      ((udpDataV2PeerID rawPacket).isSome ∧
          (s.registry.sessions session).serverPeerID = udpDataV2PeerID rawPacket ∨
        ∃ address, (s.registry.sessions session).remoteAddress = some address ∧
          peerAddress = setup.text address ∧
          ∀ header ∈ rawPacket.head?, (Opcode.ofCode (header >>> 3)).isControlOrAcknowledgment →
            (s.registry.sessions session).remoteSessionID.toList =
              clientSessionIDBytes rawPacket) := by
  obtain ⟨hagree, -, hgone⟩ := ServerRun.registryInvariant_of_reachable h
  have hlive : s.registry.Registered session → session ∉ s.gone :=
    fun hregistered hmem => (hgone session hmem).2 hregistered
  rcases route_eq_deliver hroute with ⟨peerID, hcarried, hlookup⟩ |
    ⟨hlookup | hlookup, hcarries⟩
  · obtain ⟨hregistered, hpeerID⟩ := hagree.peerID peerID session hlookup
    exact ⟨hregistered, hlive hregistered,
      .inl ⟨by rw [hcarried]; rfl, hpeerID.trans hcarried.symm⟩⟩
  · obtain ⟨hregistered, address, haddress, htext⟩ := hagree.address _ session hlookup
    exact ⟨hregistered, hlive hregistered, .inr ⟨address, haddress, htext, hcarries⟩⟩
  · obtain ⟨hregistered, address, haddress, htext⟩ := hagree.initial _ session hlookup
    exact ⟨hregistered, hlive hregistered, .inr ⟨address, haddress, htext, hcarries⟩⟩

theorem datagram_reaches_own_session_reconnect :
    ∃ s, Reachable (serverSystem smallSetup) s ∧ s.registry.Registered 1 := by
  obtain ⟨s, hreachable, hroute⟩ : ∃ s, Reachable (serverSystem smallSetup) s ∧
      s.registry.routeUDPPacketLocked [0x30] trainAddress.keyText = .deliver 1 :=
    exists_reachableBy rfl reconnectEvents (by decide +kernel)
  exact ⟨s, hreachable, (datagram_reaches_own_session hreachable hroute).1⟩

end SingOpenVPN
