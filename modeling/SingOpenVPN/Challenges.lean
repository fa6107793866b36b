import SingOpenVPN.GoText
import SingOpenVPN.TransitionSystem

/-!
# Pending challenges (`challenge.go`, `control_directives.go`)

A client has one slot for a challenge that waits for an answer.  The supervisor publishes its
own there and blocks (`awaitChallengeResponse`); the control loop of a session publishes what
the server sends with `INFO_PRE`.  A session that ends clears the slot if the challenge is its
own, but its loop may still have a record in hand, and publishing does not look at the owner of
what it replaces (`awaited_challenge_replaced`).
-/

namespace SingOpenVPN

open TransitionSystem Option

/-- `pendingChallengeState`.  `published` tells the objects apart; the owner is a session, or the
client itself; a challenge without `complete` is not answerable. -/
structure PendingChallenge where
  published : Nat
  id : Nat
  owner : Option Nat
  answerable : Bool
  previousError : Text := []
deriving DecidableEq

/-- The client's `authentication` and the goroutines that use it: `closing` is the cancelled
context, `awaiting` what the supervisor is blocked on, `inHand` the loops with a record. -/
structure ChallengeClient where
  pendingChallenge : Option PendingChallenge := none
  previousAuthenticationError : Text := []
  closed : Bool := false
  closing : Bool := false
  awaiting : Option Nat := none
  publications : Nat := 0
  taken : List Nat := []
  sessions : Nat := 0
  inHand : Nat → Bool := fun _ => false

inductive ChallengeEvent where
  | newClientSession
  | awaitChallengeResponse (id : Nat)
  | responded
  | contextDone
  | readControlChannelRecord (session : Nat)
  | handleServerPushedInfo (session id : Nat) (answerable : Bool)
  | finish (session : Nat)
  | completeChallenge (challengeID : Nat)
  | cancelChallenge (challengeID : Nat)
  | notePreviousAuthFailure (reason : Text)
  | supervisorCancel
  | close

variable (c : ChallengeClient)

namespace ChallengeClient

def publishChallenge (state : PendingChallenge) : ChallengeClient :=
  if c.closed then c
  else
    { c with
      pendingChallenge := some { state with
        previousError :=
          if state.previousError = [] then c.previousAuthenticationError else state.previousError }
      previousAuthenticationError := [] }

def clearChallengeOwnedBy (owner : Option Nat) : ChallengeClient :=
  if c.pendingChallenge.any (·.owner = owner) then { c with pendingChallenge := none } else c

/-- `CompleteChallenge` needs an answerable challenge, `CancelChallenge` any. -/
def takeChallenge (challengeID : Nat) (completes : Bool) :
    Option ChallengeClient :=
  (c.pendingChallenge.filter fun pending =>
      pending.id = challengeID ∧ (completes → pending.answerable)).map fun pending =>
    { c with pendingChallenge := none, taken := pending.published :: c.taken }

def step : ChallengeEvent → Option ChallengeClient
  | .newClientSession =>
    if c.awaiting = none then some { c with sessions := c.sessions + 1 } else none
  | .awaitChallengeResponse id =>
    if c.awaiting = none then
      some { c.publishChallenge ⟨c.publications, id, none, true, []⟩ with
        awaiting := some c.publications, publications := c.publications + 1 }
    else none
  | .responded =>
    if c.awaiting.any (· ∈ c.taken) then some { c with awaiting := none } else none
  | .contextDone =>
    if c.awaiting.isSome ∧ c.closing then
      some { c.clearChallengeOwnedBy none with awaiting := none }
    else none
  | .readControlChannelRecord session =>
    if session < c.sessions then some { c with inHand := Function.update c.inHand session true }
    else none
  | .handleServerPushedInfo session id answerable =>
    if c.inHand session then
      some { c.publishChallenge ⟨c.publications, id, some session, answerable, []⟩ with
        inHand := Function.update c.inHand session false, publications := c.publications + 1 }
    else none
  | .finish session => some (c.clearChallengeOwnedBy (some session))
  | .completeChallenge challengeID => c.takeChallenge challengeID true
  | .cancelChallenge challengeID => c.takeChallenge challengeID false
  | .notePreviousAuthFailure reason => some { c with previousAuthenticationError := reason }
  | .supervisorCancel => some { c with closing := true }
  | .close =>
    if c.closing then some { c with pendingChallenge := none, closed := true } else none

/-- The challenge the supervisor is blocked on can be seen and answered, or was taken, or the
client is closing. -/
def AwaitedAnswerable : Prop :=
  ∀ published ∈ c.awaiting,
    (∃ pending ∈ c.pendingChallenge, pending.published = published ∧ pending.answerable) ∨
      published ∈ c.taken ∨ c.closing

instance (c : ChallengeClient) : Decidable c.AwaitedAnswerable :=
  inferInstanceAs (Decidable (∀ published ∈ c.awaiting, _))

end ChallengeClient

def challengeClients : System ChallengeClient ChallengeEvent where
  initial c := c = {}
  step := ChallengeClient.step

/-- **An awaited challenge is replaced.**  Session 0 reads `INFO_PRE` and is restarted; session 1
is refused with a challenge, and while the supervisor waits for the answer the loop of session 0
publishes its own. -/
theorem awaited_challenge_replaced :
    ∃ c, Reachable challengeClients c ∧ ¬ c.AwaitedAnswerable := by
  have h : Reachable challengeClients _ := reachableBy_of_runFrom (.start rfl)
    (rfl : runFrom _ _ _ [.newClientSession, .readControlChannelRecord 0, .finish 0,
      .newClientSession, .finish 1, .awaitChallengeResponse 5,
      .handleServerPushedInfo 0 6 false] = some _)
  exact ⟨_, h, by decide⟩

/-- No session publishes a challenge while the supervisor waits for an answer. -/
def SupervisorAlone (event : ChallengeEvent) : Prop :=
  event matches .handleServerPushedInfo _ _ _ → c.awaiting = none

instance (c : ChallengeClient) (event : ChallengeEvent) : Decidable (SupervisorAlone c event) :=
  inferInstanceAs (Decidable (_ → _))

namespace ChallengeClient

/-- The slot holds the awaited challenge, as the client's own. -/
structure ChallengeInvariant (c : ChallengeClient) : Prop where
  closing : c.closed = true → c.closing = true
  awaited : ∀ published, c.awaiting = some published →
    (∃ pending, c.pendingChallenge = some pending ∧ pending.published = published ∧
      pending.owner = none ∧ pending.answerable = true) ∨
      published ∈ c.taken ∨ c.closing = true

section Steps

variable {c c' : ChallengeClient} (h : c.ChallengeInvariant)

include h

theorem ChallengeInvariant.clear (session : Nat) :
    (c.clearChallengeOwnedBy (some session)).ChallengeInvariant := by
  unfold clearChallengeOwnedBy
  split
  · next hown =>
    refine ⟨h.closing, fun published hawaiting => ?_⟩
    refine (h.awaited published hawaiting).imp_left ?_
    rintro ⟨pending, hpending, -, howner, -⟩
    simp [hpending, howner] at hown
  · exact h

theorem ChallengeInvariant.take {challengeID : Nat} {completes : Bool}
    (htake : c.takeChallenge challengeID completes = some c') : c'.ChallengeInvariant := by
  obtain ⟨pending, hpending, rfl⟩ := map_eq_some_iff.mp htake
  obtain ⟨hpending, -⟩ := filter_eq_some_iff.mp hpending
  refine ⟨h.closing, fun published hawaiting => .inr ?_⟩
  rcases h.awaited published hawaiting with ⟨other, hother, rfl, -⟩ | htaken | hclosing
  · obtain rfl : pending = other := some.inj (hpending.symm.trans hother)
    exact .inl List.mem_cons_self
  · exact .inl (List.mem_cons_of_mem _ htaken)
  · exact .inr hclosing

theorem ChallengeInvariant.step {event : ChallengeEvent} (halone : SupervisorAlone c event)
    (hstep : c.step event = some c') : c'.ChallengeInvariant := by
  cases event with
  | newClientSession | readControlChannelRecord =>
    obtain ⟨-, ⟨⟩⟩ := ite_none_right_eq_some.mp hstep
    exact ⟨h.closing, h.awaited⟩
  | awaitChallengeResponse id =>
    obtain ⟨-, ⟨⟩⟩ := ite_none_right_eq_some.mp hstep
    unfold publishChallenge
    split
    · next hclosed => exact ⟨h.closing, fun _ _ => .inr (.inr (h.closing hclosed))⟩
    · refine ⟨h.closing, fun published hawaiting => .inl ⟨_, rfl, ?_, rfl, rfl⟩⟩
      exact some.inj hawaiting
  | responded =>
    obtain ⟨-, ⟨⟩⟩ := ite_none_right_eq_some.mp hstep
    exact ⟨h.closing, nofun⟩
  | contextDone =>
    obtain ⟨⟨-, hclosing⟩, ⟨⟩⟩ := ite_none_right_eq_some.mp hstep
    refine ⟨fun _ => ?_, nofun⟩
    unfold clearChallengeOwnedBy
    split
    · exact hclosing
    · exact hclosing
  | handleServerPushedInfo session id answerable =>
    obtain ⟨-, ⟨⟩⟩ := ite_none_right_eq_some.mp hstep
    have hnobody : c.awaiting = none := halone rfl
    unfold publishChallenge
    split
    · exact ⟨h.closing, h.awaited⟩
    · refine ⟨h.closing, fun published hawaiting => ?_⟩
      cases hnobody.symm.trans hawaiting
  | finish session =>
    cases hstep
    exact h.clear session
  | completeChallenge | cancelChallenge => exact h.take hstep
  | notePreviousAuthFailure reason =>
    cases hstep
    exact ⟨h.closing, h.awaited⟩
  | supervisorCancel =>
    cases hstep
    exact ⟨fun _ => rfl, fun _ _ => .inr (.inr rfl)⟩
  | close =>
    obtain ⟨hclosing, ⟨⟩⟩ := ite_none_right_eq_some.mp hstep
    exact ⟨fun _ => hclosing, fun _ _ => .inr (.inr hclosing)⟩

end Steps

end ChallengeClient

/-- **An awaited challenge can be answered** as long as no session publishes one meanwhile. -/
theorem awaited_challenge_answerable {c : ChallengeClient}
    (h : ReachableBy challengeClients SupervisorAlone c) : c.AwaitedAnswerable := by
  have hinvariant : c.ChallengeInvariant := by
    refine h.invariant ?_ fun c event c' hc halone hstep => hc.step halone hstep
    rintro c rfl
    exact ⟨nofun, nofun⟩
  intro published hawaiting
  refine (hinvariant.awaited published hawaiting).imp_left ?_
  rintro ⟨pending, hpending, hpublished, -, hanswerable⟩
  exact ⟨pending, hpending, hpublished, hanswerable⟩

theorem awaited_challenge_answerable_after_session : ∃ c,
    ReachableBy challengeClients SupervisorAlone c ∧ c.awaiting = some 1 ∧ c.AwaitedAnswerable := by
  have h : ReachableBy challengeClients SupervisorAlone _ := reachableBy_of_runFrom (.start rfl)
    (rfl : runFrom _ _ _ [.newClientSession, .readControlChannelRecord 0,
      .handleServerPushedInfo 0 6 false, .finish 0, .awaitChallengeResponse 5] = some _)
  exact ⟨_, h, rfl, awaited_challenge_answerable h⟩

end SingOpenVPN
