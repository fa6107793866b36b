import SingOpenVPN.SessionRegistry
import SingOpenVPN.TransitionSystem

/-!
# The sessions of a server (`server_listener.go`, `server_session.go`, `server_tls.go`)

What the goroutines of a server do to its session registry and to its client slots.  The
listener reserves slots and makes sessions; every session then runs through its handshake,
takes over its UDP address when it was started in the initial slot, gets a peer
id, registers its identity, and ends at any point.  A step is one section under
a lock or one atomic access; sessions and the listener take turns in any order.

What the handshake exchanges, the timers and the closing of connections do not matter
here: a session may return from its run whenever it is not inside a locked section.  The
observer that floats a session is called for data packets that were decoded, which needs
the codec that is installed after the promotion; it may be called when the run is over.

`registrations` and `gone` record which sessions registered an identity, the latest
first, and which were unregistered or displaced.
-/

namespace SingOpenVPN

open TransitionSystem Option

/-! ### State -/

inductive SessionStage where
  /-- Registered, before `promoteInitialSession`. -/
  | negotiating
  /-- In `promoteInitialSession`, with the remote address that was read. -/
  | promoting (remoteAddress : NetAddr)
  /-- Behind its locked section, with the session it displaced. -/
  | reserving (displaced : Option Nat)
  /-- With a reservation that is not stored yet. -/
  | storing (reservation : Nat) (displaced : Option Nat)
  /-- Waiting for the displaced session. -/
  | replacing (displaced : Nat)
  | promoted
  /-- In `registerAuthenticatedIdentity`, with the identity set. -/
  | identifying
  /-- Waiting for the session that had the identity. -/
  | displacing (existing : Nat)
  /-- Before the last look at the table of identities. -/
  | confirming
  /-- `registerAuthenticatedIdentity` has returned without an error. -/
  | serving
  /-- The run has returned and the tunnel address is released. -/
  | returned
deriving DecidableEq

/-- Storing a reservation cannot be left. -/
def SessionStage.mayReturn : SessionStage → Bool
  | .storing _ _ | .returned => false
  | _ => true

structure SessionLife where
  stage : SessionStage
  /-- A data codec is installed. -/
  codec : Bool
  /-- `finishDone` is closed. -/
  finished : Bool
  /-- `resourceReservation` -/
  reservation : Option Nat
  /-- The reservation `releaseResourceReservation` has taken and not returned yet. -/
  releasing : Option Nat

structure ServerRun where
  running : Bool
  registry : SessionRegistry
  lives : Nat → SessionLife
  /-- `serverResourcePolicy.instances` -/
  instances : Int
  /-- The reservations made so far have the numbers below `issued`. -/
  issued : Nat
  /-- Reservations of the listener that no session has yet. -/
  onTheWay : List Nat
  /-- The calls of `release`, the latest first. -/
  released : List Nat
  registrations : List (String × Nat)
  gone : List Nat

structure ServerSetup where
  text : NetAddr → String
  maxClients : Nat
  duplicateCN : Bool

namespace SessionRegistry

variable {session : Nat} {r r' : SessionRegistry}

theorem promoteFrom_eq_some {text : NetAddr → String} {remoteAddress : NetAddr}
    {displaced : Option Nat} (h : r.promoteFrom text session remoteAddress = some (displaced, r')) :
    r.udpInitialSessionByAddress.lookup (text remoteAddress) = some session ∧
      ∀ existing, displaced = some existing → existing ≠ session ∧
        r.udpSessionByAddress.lookup (text remoteAddress) = some existing := by
  unfold promoteFrom at h
  dsimp only at h
  split at h
  · cases h
  next hslot =>
  obtain ⟨hdisplaced, -⟩ := Prod.mk.inj (Option.some.inj h)
  refine ⟨not_not.mp hslot, ?_⟩
  rintro existing rfl
  obtain ⟨hlookup, hother⟩ := mem_filter_iff.mp (mem_def.mpr hdisplaced)
  exact ⟨of_decide_eq_true hother, hlookup⟩

theorem bindAuthenticatedIdentity_eq_ok {running : Bool} {existing : Option Nat}
    (hne : (r.sessions session).authenticatedIdentity ≠ "")
    (h : r.bindAuthenticatedIdentity running false session = .ok (existing, r')) :
    r.sessionByPeer.lookup (r.sessions session).peerAddress = some session ∧
    existing = r.sessionByIdentity.lookup (r.sessions session).authenticatedIdentity ∧
    r' = { r with sessionByIdentity :=
      r.sessionByIdentity.insert (r.sessions session).authenticatedIdentity session } := by
  unfold bindAuthenticatedIdentity at h
  rw [if_neg (by simp [hne])] at h
  split at h
  · cases h
  split at h
  · cases h
  next hregistered =>
  obtain ⟨rfl, rfl⟩ := Prod.mk.inj (Except.ok.inj h)
  exact ⟨not_not.mp hregistered, rfl, rfl⟩

end SessionRegistry

namespace ServerRun

def start : ServerRun where
  running := true
  registry := .start
  lives := fun _ => ⟨.returned, false, false, none, none⟩
  instances := 0
  issued := 0
  onTheWay := []
  released := []
  registrations := []
  gone := []

def setLife (s : ServerRun) (session : Nat) (life : SessionLife) : ServerRun :=
  { s with lives := Function.update s.lives session life }

def setStage (s : ServerRun) (session : Nat) (stage : SessionStage) : ServerRun :=
  s.setLife session { s.lives session with stage }

theorem lives_setLife_self (s : ServerRun) (session : Nat) (life : SessionLife) :
    (s.setLife session life).lives session = life :=
  Function.update_self ..

variable {session : Nat} {s s' : ServerRun}

theorem lives_setLife_of_ne (s : ServerRun) {other : Nat} (life : SessionLife)
    (h : other ≠ session) :
    (s.setLife session life).lives other = s.lives other :=
  Function.update_of_ne h ..

theorem forall_lives_setLife {P : Nat → SessionLife → Prop} {life : SessionLife}
    (hself : P session life) (hothers : ∀ other, other ≠ session → P other (s.lives other)) :
    ∀ other, P other ((s.setLife session life).lives other) :=
  (Function.forall_update_iff s.lives P).mpr ⟨hself, hothers⟩

/-! ### The listener -/

def newSession (s : ServerRun) (remoteSessionID : SessionID) (remoteAddress : Option NetAddr)
    (reservation : Option Nat) : ServerRun :=
  { s with
    registry := s.registry.addSession remoteSessionID remoteAddress
    lives := Function.update s.lives s.registry.created
      ⟨.negotiating, false, false, reservation, none⟩ }

section

variable (remoteSessionID : SessionID) (remoteAddress : Option NetAddr) (reservation : Option Nat)

theorem lives_newSession_self :
    (s.newSession remoteSessionID remoteAddress reservation).lives s.registry.created =
      ⟨.negotiating, false, false, reservation, none⟩ :=
  Function.update_self ..

theorem lives_newSession_of_ne (h : session ≠ s.registry.created) :
    (s.newSession remoteSessionID remoteAddress reservation).lives session = s.lives session :=
  Function.update_of_ne h ..

end

def countReservation (s : ServerRun) : ServerRun :=
  { s with instances := s.instances + 1, issued := s.issued + 1 }

def release (s : ServerRun) (reservation : Nat) : ServerRun :=
  { s with instances := s.instances - 1, released := reservation :: s.released }

variable (setup : ServerSetup)

/-- `reserveInstance` of the listener; it goes on without a session if there is no slot. -/
def reserve (s : ServerRun) : ServerRun :=
  if s.instances < setup.maxClients then
    { s.countReservation with onTheWay := s.issued :: s.onTheWay }
  else s

/-- A session made from a reservation and registered; one that cannot be registered ends. -/
def accept (s : ServerRun) (reservation : Nat) (remoteSessionID : SessionID)
    (remoteAddress : Option NetAddr) (peerAddress : String) : ServerRun :=
  let session := s.registry.created
  let made := { s.newSession remoteSessionID remoteAddress (some reservation) with
    onTheWay := s.onTheWay.erase reservation }
  match made.registry.registerSession setup.text s.running peerAddress session remoteAddress with
  | .ok registry => { made with registry }
  | .error _ => made.setStage session .returned

/-- `acceptInitialUDPReset`: a session without a reservation, in the initial slot. -/
def acceptInitial (s : ServerRun) (remoteSessionID : SessionID) (remoteAddress : NetAddr) :
    ServerRun :=
  let session := s.registry.created
  let made := s.newSession remoteSessionID (some remoteAddress) none
  match made.registry.registerInitialSession setup.text s.running (setup.text remoteAddress) session
      remoteAddress with
  | .ok (displaced, registry) => { made with registry, gone := displaced.toList ++ s.gone }
  | .error _ => made.setStage session .returned

/-! ### Promotion -/

/-- The locked section of `promoteInitialSession`, which also moves the reservation of the
    displaced session. -/
def promote (s : ServerRun) (session : Nat) (remoteAddress : NetAddr) : ServerRun :=
  match s.registry.promoteFrom setup.text session remoteAddress with
  | none => s.setStage session .promoted
  | some (none, registry) => { s.setStage session (.reserving none) with registry }
  | some (some displaced, registry) =>
    let taken := s.setLife displaced { s.lives displaced with reservation := none }
    { taken.setLife session { taken.lives session with
        stage := .reserving (some displaced)
        reservation := (s.lives displaced).reservation } with
      registry
      gone := displaced :: s.gone }

/-- Losing its reservation changes nothing else of a session. -/
theorem stage_codec_withoutReservation (s : ServerRun) (displaced other : Nat) :
    ((s.setLife displaced { s.lives displaced with reservation := none }).lives other).stage =
      (s.lives other).stage ∧
    ((s.setLife displaced { s.lives displaced with reservation := none }).lives other).codec =
      (s.lives other).codec := by
  by_cases heq : other = displaced
  · rw [heq, lives_setLife_self]
    exact ⟨rfl, rfl⟩
  · rw [lives_setLife_of_ne s _ heq]
    exact ⟨rfl, rfl⟩

/-- Close the displaced session and wait for it, if there is one. -/
def awaitDisplaced : Option Nat → SessionStage
  | none => .promoted
  | some displaced => .replacing displaced

/-- The reservation a promoted session needs when it has taken none over. -/
def reserveForPromotion (s : ServerRun) (session : Nat) (displaced : Option Nat) : ServerRun :=
  if (s.lives session).reservation = none then
    if s.instances < setup.maxClients then
      s.countReservation.setStage session (.storing s.issued displaced)
    else s.setStage session .returned
  else s.setStage session (awaitDisplaced displaced)

def storeReservation (s : ServerRun) (session reservation : Nat) (displaced : Option Nat) :
    ServerRun :=
  s.setLife session { s.lives session with
    stage := awaitDisplaced displaced, reservation := some reservation }

/-! ### Peer ids and identities -/

def enablePeerID (s : ServerRun) (session : Nat) : ServerRun :=
  match s.registry.enablePeerID s.running setup.maxClients session with
  | .ok registry => { s with registry }
  | .error _ => s.setStage session .returned

/-- The locked section of `registerAuthenticatedIdentity`. -/
def bindIdentity (s : ServerRun) (session : Nat) : ServerRun :=
  let identity := (s.registry.sessions session).authenticatedIdentity
  if identity = "" ∨ setup.duplicateCN then s.setStage session .serving
  else match s.registry.bindAuthenticatedIdentity s.running setup.duplicateCN session with
    | .error _ => s.setStage session .returned
    | .ok (existing, registry) =>
      let stage := match existing.filter (· ≠ session) with
        | some existing => .displacing existing
        | none => .confirming
      { s.setStage session stage with
        registry
        registrations := (identity, session) :: s.registrations }

/-- The end of `registerAuthenticatedIdentity`. -/
def confirmIdentity (s : ServerRun) (session : Nat) : ServerRun :=
  let identity := (s.registry.sessions session).authenticatedIdentity
  if s.registry.sessionByIdentity.lookup identity = some session then s.setStage session .serving
  else s.setStage session .returned

def float (s : ServerRun) (session : Nat) (sourceAddress : NetAddr) : ServerRun :=
  match s.registry.floatUDPSessionToSource setup.text session sourceAddress with
  | none => s
  | some (displaced, registry) => { s with registry, gone := displaced.toList ++ s.gone }

/-! ### Steps -/

inductive SessionAction where
  | lockCertificateIdentity (identity : Option ClientCertificateIdentity)
  | startPromotion
  | promote
  | reserveForPromotion
  | storeReservation
  /-- The wait of `promoteInitialSession` ends with the end of the displaced session. -/
  | displacedFinished
  | enablePeerID
  /-- `installInitialDataCodec` -/
  | installCodec
  | setIdentity (identity : String)
  | bindIdentity
  /-- The wait of `registerAuthenticatedIdentity` ends with the end of the other session. -/
  | existingFinished
  | confirmIdentity
  | float (sourceAddress : NetAddr)
  /-- The run returns, for whatever reason. -/
  | returnRun
  | finish
  | unregister
  /-- The two halves of `releaseResourceReservation`. -/
  | takeReservation
  | giveBack

def whenStage (s : ServerRun) (session : Nat) (stage : SessionStage) (next : ServerRun) :
    Option ServerRun :=
  if (s.lives session).stage = stage then some next else none

def act (s : ServerRun) (session : Nat) : SessionAction → Option ServerRun
  | .lockCertificateIdentity identity =>
    let current := s.registry.sessions session
    some { s with
      registry := s.registry.setSession session
        { current with lockedCertificateIdentity := identity } }
  | .startPromotion =>
    s.whenStage session .negotiating <|
      match (s.registry.sessions session).remoteAddress with
      | none => s.setStage session .promoted
      | some remoteAddress => s.setStage session (.promoting remoteAddress)
  | .promote =>
    match (s.lives session).stage with
    | .promoting remoteAddress => some (s.promote setup session remoteAddress)
    | _ => none
  | .reserveForPromotion =>
    match (s.lives session).stage with
    | .reserving displaced => some (s.reserveForPromotion setup session displaced)
    | _ => none
  | .storeReservation =>
    match (s.lives session).stage with
    | .storing reservation displaced => some (s.storeReservation session reservation displaced)
    | _ => none
  | .displacedFinished =>
    match (s.lives session).stage with
    | .replacing displaced =>
      if (s.lives displaced).finished then some (s.setStage session .promoted) else none
    | _ => none
  | .enablePeerID =>
    -- without a promotion when the authentication has failed
    if (s.lives session).stage = .negotiating ∨ (s.lives session).stage = .promoted then
      some (s.enablePeerID setup session)
    else none
  | .installCodec =>
    s.whenStage session .promoted (s.setLife session { s.lives session with codec := true })
  | .setIdentity identity =>
    if (s.lives session).stage = .promoted ∧ (s.lives session).codec then
      some { s.setStage session .identifying with
        registry := s.registry.setAuthenticatedIdentity session identity }
    else none
  | .bindIdentity => s.whenStage session .identifying (s.bindIdentity setup session)
  | .existingFinished =>
    match (s.lives session).stage with
    | .displacing existing =>
      if (s.lives existing).finished then some (s.setStage session .confirming) else none
    | _ => none
  | .confirmIdentity => s.whenStage session .confirming (s.confirmIdentity session)
  | .float sourceAddress =>
    if (s.lives session).codec ∧ (s.registry.sessions session).remoteAddress.isSome then
      some (s.float setup session sourceAddress)
    else none
  | .returnRun =>
    if (s.lives session).stage.mayReturn then some (s.setStage session .returned) else none
  | .finish =>
    s.whenStage session .returned (s.setLife session { s.lives session with finished := true })
  | .unregister =>
    s.whenStage session .returned { s with
      registry := s.registry.evictSessionLocked session, gone := session :: s.gone }
  | .takeReservation =>
    if (s.lives session).stage = .returned ∧ (s.lives session).releasing = none then
      some (s.setLife session { s.lives session with
        reservation := none, releasing := (s.lives session).reservation })
    else none
  | .giveBack =>
    match (s.lives session).releasing with
    | some reservation =>
      some ((s.release reservation).setLife session { s.lives session with releasing := none })
    | none => none

inductive SessionStep (s : ServerRun) (session : Nat) : SessionAction → ServerRun → Prop
  | lockCertificateIdentity {identity : Option ClientCertificateIdentity} :
      SessionStep s session (.lockCertificateIdentity identity) { s with
        registry := s.registry.setSession session
          { s.registry.sessions session with lockedCertificateIdentity := identity } }
  | notUDP : (s.lives session).stage = .negotiating →
      (s.registry.sessions session).remoteAddress = none →
      SessionStep s session .startPromotion (s.setStage session .promoted)
  | startPromotion {remoteAddress : NetAddr} : (s.lives session).stage = .negotiating →
      (s.registry.sessions session).remoteAddress = some remoteAddress →
      SessionStep s session .startPromotion (s.setStage session (.promoting remoteAddress))
  | promote {remoteAddress : NetAddr} : (s.lives session).stage = .promoting remoteAddress →
      SessionStep s session .promote (s.promote setup session remoteAddress)
  | reserveForPromotion {displaced : Option Nat} : (s.lives session).stage = .reserving displaced →
      SessionStep s session .reserveForPromotion (s.reserveForPromotion setup session displaced)
  | storeReservation {reservation : Nat} {displaced : Option Nat} :
      (s.lives session).stage = .storing reservation displaced →
      SessionStep s session .storeReservation (s.storeReservation session reservation displaced)
  | displacedFinished {displaced : Nat} : (s.lives session).stage = .replacing displaced →
      (s.lives displaced).finished = true →
      SessionStep s session .displacedFinished (s.setStage session .promoted)
  | enablePeerID :
      (s.lives session).stage = .negotiating ∨ (s.lives session).stage = .promoted →
      SessionStep s session .enablePeerID (s.enablePeerID setup session)
  | installCodec : (s.lives session).stage = .promoted →
      SessionStep s session .installCodec
        (s.setLife session { s.lives session with codec := true })
  | setIdentity {identity : String} : (s.lives session).stage = .promoted →
      (s.lives session).codec = true →
      SessionStep s session (.setIdentity identity) { s.setStage session .identifying with
        registry := s.registry.setAuthenticatedIdentity session identity }
  | bindIdentity : (s.lives session).stage = .identifying →
      SessionStep s session .bindIdentity (s.bindIdentity setup session)
  | existingFinished {existing : Nat} : (s.lives session).stage = .displacing existing →
      (s.lives existing).finished = true →
      SessionStep s session .existingFinished (s.setStage session .confirming)
  | confirmIdentity : (s.lives session).stage = .confirming →
      SessionStep s session .confirmIdentity (s.confirmIdentity session)
  | float {sourceAddress : NetAddr} : (s.lives session).codec = true →
      SessionStep s session (.float sourceAddress) (s.float setup session sourceAddress)
  | returnRun : (s.lives session).stage.mayReturn = true →
      SessionStep s session .returnRun (s.setStage session .returned)
  | finish : (s.lives session).stage = .returned →
      SessionStep s session .finish (s.setLife session { s.lives session with finished := true })
  | unregister : (s.lives session).stage = .returned →
      SessionStep s session .unregister { s with
        registry := s.registry.evictSessionLocked session, gone := session :: s.gone }
  | takeReservation : (s.lives session).stage = .returned → (s.lives session).releasing = none →
      SessionStep s session .takeReservation (s.setLife session { s.lives session with
        reservation := none, releasing := (s.lives session).reservation })
  | giveBack {reservation : Nat} : (s.lives session).releasing = some reservation →
      SessionStep s session .giveBack
        ((s.release reservation).setLife session { s.lives session with releasing := none })

theorem whenStage_eq_some {next : ServerRun} {stage : SessionStage} :
    s.whenStage session stage next = some s' ↔ (s.lives session).stage = stage ∧ next = s' := by
  unfold whenStage
  split
  · next hstage => simp [hstage]
  · next hstage => simp [hstage]

variable {setup} in
/-- **What a session does in one step.** -/
theorem sessionStep_of_act {action : SessionAction} (h : s.act setup session action = some s') :
    s.SessionStep setup session action s' := by
  cases action with
  | lockCertificateIdentity identity =>
    cases h
    exact .lockCertificateIdentity
  | startPromotion =>
    obtain ⟨hstage, rfl⟩ := whenStage_eq_some.mp h
    cases haddress : (s.registry.sessions session).remoteAddress with
    | none => exact .notUDP hstage haddress
    | some remoteAddress => exact .startPromotion hstage haddress
  | promote =>
    rw [act] at h
    split at h
    · next hstage =>
      cases h
      exact .promote hstage
    · cases h
  | reserveForPromotion =>
    rw [act] at h
    split at h
    · next hstage =>
      cases h
      exact .reserveForPromotion hstage
    · cases h
  | storeReservation =>
    rw [act] at h
    split at h
    · next hstage =>
      cases h
      exact .storeReservation hstage
    · cases h
  | displacedFinished =>
    rw [act] at h
    split at h
    · next hstage =>
      obtain ⟨hfinished, heq⟩ := ite_none_right_eq_some.mp h
      cases heq
      exact .displacedFinished hstage hfinished
    · cases h
  | enablePeerID =>
    obtain ⟨hstage, heq⟩ := ite_none_right_eq_some.mp h
    cases heq
    exact .enablePeerID hstage
  | installCodec =>
    obtain ⟨hstage, rfl⟩ := whenStage_eq_some.mp h
    exact .installCodec hstage
  | setIdentity identity =>
    obtain ⟨⟨hstage, hcodec⟩, heq⟩ := ite_none_right_eq_some.mp h
    cases heq
    exact .setIdentity hstage hcodec
  | bindIdentity =>
    obtain ⟨hstage, rfl⟩ := whenStage_eq_some.mp h
    exact .bindIdentity hstage
  | existingFinished =>
    rw [act] at h
    split at h
    · next hstage =>
      obtain ⟨hfinished, heq⟩ := ite_none_right_eq_some.mp h
      cases heq
      exact .existingFinished hstage hfinished
    · cases h
  | confirmIdentity =>
    obtain ⟨hstage, rfl⟩ := whenStage_eq_some.mp h
    exact .confirmIdentity hstage
  | float sourceAddress =>
    obtain ⟨⟨hcodec, -⟩, heq⟩ := ite_none_right_eq_some.mp h
    cases heq
    exact .float hcodec
  | returnRun =>
    obtain ⟨hstage, heq⟩ := ite_none_right_eq_some.mp h
    cases heq
    exact .returnRun hstage
  | finish =>
    obtain ⟨hstage, rfl⟩ := whenStage_eq_some.mp h
    exact .finish hstage
  | unregister =>
    obtain ⟨hstage, rfl⟩ := whenStage_eq_some.mp h
    exact .unregister hstage
  | takeReservation =>
    obtain ⟨⟨hstage, hreleasing⟩, heq⟩ := ite_none_right_eq_some.mp h
    cases heq
    exact .takeReservation hstage hreleasing
  | giveBack =>
    rw [act] at h
    split at h
    · next hreleasing =>
      cases h
      exact .giveBack hreleasing
    · cases h

inductive Event where
  /-- The server stops running. -/
  | stop
  | reserve
  /-- The listener gives a reservation back that it cannot use. -/
  | dropReservation (reservation : Nat)
  | acceptStream (reservation : Nat) (remoteSessionID : SessionID) (peerAddress : String)
  | acceptUDP (reservation : Nat) (remoteSessionID : SessionID) (remoteAddress : NetAddr)
  | acceptInitial (remoteSessionID : SessionID) (remoteAddress : NetAddr)
  | act (session : Nat) (action : SessionAction)

def step (s : ServerRun) : Event → Option ServerRun
  | .stop => some { s with running := false }
  | .reserve => some (s.reserve setup)
  | .dropReservation reservation =>
    if reservation ∈ s.onTheWay then
      some { s.release reservation with onTheWay := s.onTheWay.erase reservation }
    else none
  | .acceptStream reservation remoteSessionID peerAddress =>
    if reservation ∈ s.onTheWay then
      some (s.accept setup reservation remoteSessionID none peerAddress)
    else none
  | .acceptUDP reservation remoteSessionID remoteAddress =>
    if reservation ∈ s.onTheWay then
      some (s.accept setup reservation remoteSessionID (some remoteAddress)
        (setup.text remoteAddress))
    else none
  | .acceptInitial remoteSessionID remoteAddress =>
    some (s.acceptInitial setup remoteSessionID remoteAddress)
  | .act session action => if session < s.registry.created then s.act setup session action else none

/-- When an event can happen and what comes of it; both ways of accepting a session with a
    reservation are one. -/
inductive EventStep (s : ServerRun) : Event → ServerRun → Prop
  | stop : EventStep s .stop { s with running := false }
  | reserve : EventStep s .reserve (s.reserve setup)
  | dropReservation {reservation : Nat} : reservation ∈ s.onTheWay →
      EventStep s (.dropReservation reservation)
        { s.release reservation with onTheWay := s.onTheWay.erase reservation }
  | accept {event : Event} {reservation : Nat} {remoteSessionID : SessionID}
      {remoteAddress : Option NetAddr} {peerAddress : String} : reservation ∈ s.onTheWay →
      EventStep s event (s.accept setup reservation remoteSessionID remoteAddress peerAddress)
  | acceptInitial {remoteSessionID : SessionID} {remoteAddress : NetAddr} :
      EventStep s (.acceptInitial remoteSessionID remoteAddress)
        (s.acceptInitial setup remoteSessionID remoteAddress)
  | act {session : Nat} {action : SessionAction} {s' : ServerRun} :
      session < s.registry.created → s.SessionStep setup session action s' →
      EventStep s (.act session action) s'

variable {setup} in
/-- **What happens to a server in one step.** -/
theorem eventStep_of_step {event : Event} (h : s.step setup event = some s') :
    s.EventStep setup event s' := by
  cases event with
  | stop =>
    cases h
    exact .stop
  | reserve =>
    cases h
    exact .reserve
  | dropReservation reservation =>
    obtain ⟨hmem, heq⟩ := ite_none_right_eq_some.mp h
    cases heq
    exact .dropReservation hmem
  | acceptStream reservation remoteSessionID peerAddress
  | acceptUDP reservation remoteSessionID remoteAddress =>
    obtain ⟨hmem, heq⟩ := ite_none_right_eq_some.mp h
    cases heq
    exact .accept hmem
  | acceptInitial remoteSessionID remoteAddress =>
    cases h
    exact .acceptInitial
  | act session action =>
    obtain ⟨hcreated, hact⟩ := ite_none_right_eq_some.mp h
    exact .act hcreated (sessionStep_of_act hact)

/-- The locked section of `registerAuthenticatedIdentity` is passed over, refused, or puts
    the session under its identity. -/
theorem bindIdentity_cases (s : ServerRun) (session : Nat) :
    (∃ stage, (stage = .serving ∨ stage = .returned) ∧
      s.bindIdentity setup session = s.setStage session stage) ∨
    ∃ existing registry stage, (s.registry.sessions session).authenticatedIdentity ≠ "" ∧
      s.registry.bindAuthenticatedIdentity s.running false session = .ok (existing, registry) ∧
      (existing.filter (· ≠ session) = none ∧ stage = .confirming ∨
        ∃ other, existing.filter (· ≠ session) = some other ∧ stage = .displacing other) ∧
      s.bindIdentity setup session = { s.setStage session stage with
        registry
        registrations :=
          ((s.registry.sessions session).authenticatedIdentity, session) :: s.registrations } := by
  unfold bindIdentity
  dsimp only
  split
  · exact .inl ⟨.serving, .inl rfl, rfl⟩
  next hregisters =>
  rw [not_or, Bool.not_eq_true] at hregisters
  rw [hregisters.2]
  split
  · exact .inl ⟨.returned, .inr rfl, rfl⟩
  next existing registry hok =>
  refine .inr ⟨existing, registry, _, hregisters.1, hok, ?_, rfl⟩
  cases existing.filter (· ≠ session) with
  | none => exact .inl ⟨rfl, rfl⟩
  | some other => exact .inr ⟨other, rfl, rfl⟩

end ServerRun

def serverSystem (setup : ServerSetup) : System ServerRun ServerRun.Event where
  initial s := s = ServerRun.start
  step s event := s.step setup event

end SingOpenVPN
