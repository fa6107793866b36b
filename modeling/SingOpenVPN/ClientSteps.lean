import Mathlib.Order.Nat
import SingOpenVPN.ClientLifecycle

/-!
# The steps of a client

What a step of the supervisor does is said once, in `supervise_spec`, and what a step of
the client does in `step_cases`; the invariants are derived from these.

A supervisor that waits for a session waits for one that is the current session, or that
`Close` has taken away and has still to close, or that has ended (`PhasesFit`).  Behind
`Close` no session becomes the current one, and every step brings the supervisor closer to
its end (`close_final`).
-/

namespace SingOpenVPN

open TransitionSystem

namespace ClientLifecycle

section Steps

variable {c c' : ClientLifecycle}

/-! ### Sessions -/

theorem sessionAt_setSession (c : ClientLifecycle) (session other : Nat) (state : ClientSession) :
    (c.setSession session state).sessionAt other =
      if session = other ∧ other < c.sessions.length then state else c.sessionAt other := by
  unfold sessionAt setSession
  by_cases hsame : session = other
  · subst hsame
    by_cases hlength : session < c.sessions.length
    · simp [hlength]
    · simp [hlength]
  · simp [hsame]

theorem sessionAt_makeSession (c : ClientLifecycle) (session : Nat) :
    c.makeSession.sessionAt session = c.sessionAt session := by
  unfold sessionAt makeSession
  rw [List.getD_eq_getElem?_getD, List.getD_eq_getElem?_getD]
  by_cases hlength : session < c.sessions.length
  · rw [List.getElem?_append_left hlength]
  · rw [List.getElem?_append_right (by omega), List.getElem?_eq_none (l := c.sessions) (by omega)]
    cases session - c.sessions.length with
    | zero => rfl
    | succ _ => rfl

variable {session : Nat}

theorem sessionReady_setSession {state : ClientSession}
    (hstate : state.ready = false) (h : (c.setSession session state).sessionReady = true) :
    c.sessionReady = true := by
  unfold sessionReady at h ⊢
  rw [Option.any_eq_true] at h ⊢
  obtain ⟨current, hcurrent, hready⟩ := h
  refine ⟨current, hcurrent, ?_⟩
  rw [sessionAt_setSession] at hready
  split at hready
  · rw [hstate] at hready
    cases hready
  · exact hready

theorem sessionReady_makeSession : c.makeSession.sessionReady = c.sessionReady := by
  unfold sessionReady
  simp only [sessionAt_makeSession]
  rfl

/-- Sessions are only added, and one that has ended stays so. -/
structure SessionsKept (sessions sessions' : List ClientSession) : Prop where
  length : sessions.length ≤ sessions'.length
  finished : ∀ session, (sessions.getD session {}).finished = true →
    (sessions'.getD session {}).finished = true
  closed : ∀ session, (sessions.getD session {}).closed = true →
    (sessions'.getD session {}).closed = true

theorem SessionsKept.refl (sessions : List ClientSession) : SessionsKept sessions sessions :=
  ⟨le_refl _, fun _ => id, fun _ => id⟩

theorem SessionsKept.trans {sessions sessions' sessions'' : List ClientSession}
    (h : SessionsKept sessions sessions') (h' : SessionsKept sessions' sessions'') :
    SessionsKept sessions sessions'' :=
  ⟨h.length.trans h'.length, fun session => h'.finished session ∘ h.finished session,
    fun session => h'.closed session ∘ h.closed session⟩

theorem SessionsKept.setSession {state : ClientSession}
    (hfinished : (c.sessionAt session).finished = true → state.finished = true)
    (hclosed : (c.sessionAt session).closed = true → state.closed = true) :
    SessionsKept c.sessions (c.setSession session state).sessions := by
  refine ⟨by simp [ClientLifecycle.setSession], fun other hold => ?_, fun other hold => ?_⟩
  · change ((c.setSession session state).sessionAt other).finished = true
    rw [sessionAt_setSession]
    split
    · next hsame => exact hfinished (hsame.1 ▸ hold)
    · exact hold
  · change ((c.setSession session state).sessionAt other).closed = true
    rw [sessionAt_setSession]
    split
    · next hsame => exact hclosed (hsame.1 ▸ hold)
    · exact hold

theorem SessionsKept.makeSession (c : ClientLifecycle) :
    SessionsKept c.sessions c.makeSession.sessions := by
  refine ⟨by simp [ClientLifecycle.makeSession], fun session hold => ?_, fun session hold => ?_⟩
  · exact (congrArg ClientSession.finished (sessionAt_makeSession c session)).trans hold
  · exact (congrArg ClientSession.closed (sessionAt_makeSession c session)).trans hold

/-- The session has a result, or its read loop is about to give it one. -/
def Ended (c : ClientLifecycle) (session : Nat) : Prop :=
  (c.sessionAt session).finished = true ∨ (c.sessionAt session).closed = true

theorem SessionsKept.ended (h : SessionsKept c.sessions c'.sessions) :
    c.Ended session → c'.Ended session :=
  Or.imp (h.finished session) (h.closed session)

theorem finished_finishSession (h : session < c.sessions.length) :
    ((c.finishSession session).sessionAt session).finished = true := by
  change ((c.setSession session _).sessionAt session).finished = true
  rw [sessionAt_setSession, if_pos ⟨rfl, h⟩]

theorem ended_endSession (h : session < c.sessions.length) :
    (c.endSession session).Ended session := by
  unfold endSession
  cases c.mode with
  | tls => exact .inl (finished_finishSession h)
  | staticKey =>
    right
    change ((c.setSession session _).sessionAt session).closed = true
    rw [sessionAt_setSession, if_pos ⟨rfl, h⟩]

/-- A step that changes neither what waiters see, apart from flags it clears, nor the
phase of the supervisor. -/
structure SameLook (c c' : ClientLifecycle) : Prop where
  started : c'.started = c.started
  closed : c'.closed = c.closed
  waiters : c'.waiters = c.waiters
  channel : c'.stateChanged = c.stateChanged
  failed : c'.terminalError = c.terminalError
  supervisor : c'.supervisor = c.supervisor
  current : c'.currentSession = c.currentSession
  canceled : c.canceled = true → c'.canceled = true
  sessions : SessionsKept c.sessions c'.sessions
  ready : c'.sessionReady = true → c.sessionReady = true
  signals : c.signals ≤ c'.signals

theorem SameLook.refl (c : ClientLifecycle) : SameLook c c :=
  ⟨rfl, rfl, rfl, rfl, rfl, rfl, rfl, id, .refl _, id, le_refl _⟩

theorem SameLook.trans {c'' : ClientLifecycle} (h : SameLook c c') (h' : SameLook c' c'') :
    SameLook c c'' :=
  ⟨h'.started.trans h.started, h'.closed.trans h.closed, h'.waiters.trans h.waiters,
    h'.channel.trans h.channel, h'.failed.trans h.failed, h'.supervisor.trans h.supervisor,
    h'.current.trans h.current, h'.canceled ∘ h.canceled, h.sessions.trans h'.sessions,
    h.ready ∘ h'.ready, h.signals.trans h'.signals⟩

theorem SameLook.suspend (c : ClientLifecycle) : SameLook c c.suspend := by
  unfold ClientLifecycle.suspend
  split
  · exact .refl c
  · exact { SameLook.refl c with }

theorem SameLook.resume (c : ClientLifecycle) : SameLook c c.resume := by
  unfold ClientLifecycle.resume
  split
  · exact { SameLook.refl c with }
  · exact .refl c

theorem SameLook.finishSession (c : ClientLifecycle) (session : Nat) :
    SameLook c (c.finishSession session) :=
  { SameLook.refl c with
    sessions := .setSession (fun _ => rfl) id
    ready := sessionReady_setSession rfl
    signals := Nat.le_succ _ }

theorem SameLook.endSession (c : ClientLifecycle) (session : Nat) :
    SameLook c (c.endSession session) := by
  unfold ClientLifecycle.endSession
  cases c.mode with
  | tls => exact .finishSession c session
  | staticKey =>
    exact { SameLook.refl c with
      sessions := .setSession id fun _ => rfl
      ready := sessionReady_setSession rfl }

theorem SameLook.makeSession (c : ClientLifecycle) : SameLook c c.makeSession :=
  { SameLook.refl c with
    sessions := .makeSession c
    ready := fun h => sessionReady_makeSession.symm.trans h }

@[simp]
theorem closeCalls_endSession (c : ClientLifecycle) (session : Nat) :
    (c.endSession session).closeCalls = c.closeCalls := by
  unfold endSession
  cases c.mode <;> rfl

@[simp]
theorem canceled_endSession (c : ClientLifecycle) (session : Nat) :
    (c.endSession session).canceled = c.canceled := by
  unfold endSession
  cases c.mode <;> rfl

/-! ### The supervisor's steps -/

def Live (c : ClientLifecycle) : Prop := c.supervisor ≠ .idle ∧ c.supervisor ≠ .done

def Announcing (c : ClientLifecycle) : Prop := ∃ session, c.supervisor = .announcing session

/-- How far the supervisor is from its end once it is stopped. -/
def rank : SupervisorPhase → Nat
  | .idle => 0
  | .done => 0
  | .returning => 1
  | .waiting => 2
  | .deciding => 3
  | .clearing _ => 4
  | .closing _ => 5
  | .established _ => 6
  | .dialing => 6
  | .announcing _ => 7
  | .paused _ => 7
  | .starting _ => 8
  | .resuming => 8

theorem rank_le (phase : SupervisorPhase) : rank phase ≤ 8 := by
  cases phase <;> simp [rank]

/-- The session the supervisor is busy with until it has a result. -/
def opened : SupervisorPhase → Option Nat
  | .starting session => some session
  | .announcing session => some session
  | .established session => some session
  | _ => none

structure SupervisorEffect (c c' : ClientLifecycle) : Prop where
  live : c.Live
  target : c'.supervisor ≠ .idle
  done : c'.supervisor = .done → c'.closed = true ∨ c'.terminalError.isSome = true
  started : c'.started = c.started
  waiters : c'.waiters = c.waiters
  canceled : c'.canceled = c.canceled
  closeCalls : c'.closeCalls = c.closeCalls
  sessions : SessionsKept c.sessions c'.sessions
  closed : c.closed = true → c'.closed = true
  closes : c'.closed = true → c.closed = true ∨ c'.currentSession = none ∧ c'.supervisor = .done
  opened : ∀ session ∈ opened c'.supervisor,
    c'.currentSession = some session ∧ session < c'.sessions.length ∨
      session ∈ opened c.supervisor ∧ c'.currentSession = c.currentSession
  current : c.stopped = true → c.currentSession = none → c'.currentSession = none
  falls : c.stopped = true → rank c'.supervisor < rank c.supervisor

/-- How it gives the waiters notice: it moves on quietly, or signals, or makes a session
ready. -/
inductive SupervisorMove (c : ClientLifecycle) (step : SupervisorStep) :
    ClientLifecycle → Prop
  | quiet {base : ClientLifecycle} {phase : SupervisorPhase} : SameLook c base →
      ¬ c.Announcing → phase ≠ .done → SupervisorMove c step { base with supervisor := phase }
  | signals {c' : ClientLifecycle} : c'.stateChanged = c.stateChanged + 1 → SupervisorMove c step c'
  | becomesReady {c' : ClientLifecycle} {session : Nat} : step = .startReady →
      c.supervisor = .starting session → c.startReady session = some c' → SupervisorMove c step c'

variable {step : SupervisorStep}

theorem quiet_of_phases {base : ClientLifecycle} {source target : SupervisorPhase}
    (hphase : c.supervisor = source) (hlook : SameLook c base)
    (hrank : c.stopped = true → rank target < rank source := by simp [rank])
    (hsource : source ≠ .idle ∧ source ≠ .done ∧ ∀ session, source ≠ .announcing session := by simp)
    (htarget : target ≠ .idle ∧ target ≠ .done ∧ opened target = none := by simp [opened])
    (hcanceled : base.canceled = c.canceled := by simp [makeSession])
    (hcalls : base.closeCalls = c.closeCalls := by simp [makeSession]) :
    SupervisorEffect c { base with supervisor := target } ∧
      SupervisorMove c step { base with supervisor := target } := by
  subst hphase
  refine ⟨⟨⟨hsource.1, hsource.2.1⟩, htarget.1, fun h => absurd h htarget.2.1, hlook.started,
    hlook.waiters, hcanceled, hcalls, hlook.sessions, fun h => hlook.closed.trans h,
    fun h => .inl (hlook.closed.symm.trans h), ?_, fun _ h => hlook.current.trans h, hrank⟩,
    .quiet hlook (fun ⟨session, h⟩ => hsource.2.2 session h) htarget.2.1⟩
  intro session hsession
  rw [htarget.2.2] at hsession
  cases hsession

theorem effect_setTerminalError (hphase : c.supervisor = .dialing ∨ c.supervisor = .deciding)
    (err : String) : SupervisorEffect c (c.setTerminalError err) := by
  have hlive : c.Live := by rcases hphase with h | h <;> simp [Live, h]
  refine ⟨hlive, by simp [setTerminalError], by simp [setTerminalError], rfl, rfl, rfl, rfl,
    .refl _, id, .inl, by simp [setTerminalError, opened], fun _ => id, fun _ => ?_⟩
  rcases hphase with h | h <;> simp [setTerminalError, rank, h]

theorem effect_clearCurrentSession (hphase : c.supervisor = .clearing session) :
    SupervisorEffect c (c.clearCurrentSession session) := by
  refine ⟨by simp [Live, hphase], by simp [clearCurrentSession], by simp [clearCurrentSession],
    rfl, rfl, rfl, rfl, .refl _, id, .inl, by simp [clearCurrentSession, opened], ?_,
    by simp [clearCurrentSession, rank, hphase]⟩
  intro _ hnone
  simp [clearCurrentSession, signalStateChanged, hnone]

theorem effect_announce (hphase : c.supervisor = .announcing session) :
    SupervisorEffect c { c.signalStateChanged with supervisor := .established session } := by
  refine ⟨by simp [Live, hphase], by simp, by simp, rfl, rfl, rfl, rfl, .refl _, id, .inl, ?_,
    fun _ => id, by simp [rank, hphase]⟩
  rw [hphase]
  exact fun other hother => .inr ⟨hother, rfl⟩

theorem effect_closeSupervisorReadableState (hphase : c.supervisor = .returning) :
    SupervisorEffect c c.closeSupervisorReadableState := by
  refine ⟨by simp [Live, hphase], by simp [closeSupervisorReadableState], fun _ => ?_, rfl, rfl,
    rfl, rfl, .refl _, fun h => by simp [closeSupervisorReadableState, h], fun hclosed => ?_,
    by simp [closeSupervisorReadableState, opened], fun _ hnone => ?_,
    by simp [closeSupervisorReadableState, rank, hphase]⟩
  · unfold closeSupervisorReadableState signalStateChanged
    cases c.closed <;> cases c.terminalError <;> simp
  · simp only [closeSupervisorReadableState, Bool.or_eq_true] at hclosed
    exact hclosed.imp_right fun hcloses => ⟨if_pos hcloses, rfl⟩
  · simp [closeSupervisorReadableState, signalStateChanged, hnone]

theorem effect_setCurrentSession (hphase : c.supervisor = .dialing) :
    SupervisorEffect c (c.makeSession.setCurrentSession c.nextSession) ∧
      SupervisorMove c step (c.makeSession.setCurrentSession c.nextSession) := by
  unfold setCurrentSession
  by_cases hstopped : c.makeSession.stopped = true
  · rw [if_pos hstopped]
    exact quiet_of_phases hphase ((SameLook.makeSession c).trans (.endSession _ _))
  · rw [if_neg hstopped]
    refine ⟨⟨by simp [Live, hphase], by simp, by simp, rfl, rfl, rfl, rfl, .makeSession c, id, .inl,
      ?_, fun h => absurd h hstopped, fun h => absurd h hstopped⟩, .signals rfl⟩
    rintro session ⟨⟩
    exact .inl ⟨rfl, by simp [makeSession, nextSession, signalStateChanged]⟩

theorem effect_startReady (hphase : c.supervisor = .starting session)
    (h : c.startReady session = some c') :
    SupervisorEffect c c' ∧ c'.stateChanged = c.stateChanged := by
  have hlive : c.Live := by simp [Live, hphase]
  unfold startReady at h
  split at h
  · cases h
    refine ⟨⟨hlive, by simp, by simp, rfl, rfl, rfl, rfl, .setSession id id, id, .inl, ?_,
      fun _ => id, by simp [rank, hphase]⟩, rfl⟩
    rw [hphase]
    exact fun other hother => .inr ⟨hother, rfl⟩
  · dsimp only at h
    split at h
    · cases h
    · cases h
      refine ⟨⟨hlive, by simp, by simp, rfl, rfl, rfl, rfl, .setSession id id, id, .inl, ?_,
        fun _ => id, by simp [rank, hphase]⟩, rfl⟩
      rw [hphase]
      exact fun other hother => .inr ⟨hother, rfl⟩

/-- **What a step of the supervisor does.** -/
theorem supervise_spec (hstep : c.supervise step = some c') :
    SupervisorEffect c c' ∧ SupervisorMove c step c' := by
  cases step with
  | proceed =>
    simp only [supervise] at hstep
    split_ifs at hstep with hphase hstopped <;> cases hstep
    · exact quiet_of_phases hphase (.refl c)
    · exact quiet_of_phases hphase (.refl c) fun hstop => absurd hstop hstopped
  | readSuspended | retry =>
    simp only [supervise] at hstep
    split_ifs at hstep with hphase <;> cases hstep
    all_goals exact quiet_of_phases hphase (.refl c)
  | resumed | waitCanceled | sessionDone =>
    simp only [supervise] at hstep
    split at hstep
    · next hphase =>
      split_ifs at hstep
      cases hstep
      exact quiet_of_phases hphase (.refl c)
    · cases hstep
  | sessionRefused =>
    simp only [supervise] at hstep
    split_ifs at hstep with hphase
    cases hstep
    exact quiet_of_phases hphase (.refl c)
  | initializeFailed =>
    simp only [supervise] at hstep
    split_ifs at hstep with hphase
    cases hstep
    exact quiet_of_phases hphase (.makeSession c)
  | openSession =>
    simp only [supervise] at hstep
    split_ifs at hstep with hphase
    cases hstep
    exact effect_setCurrentSession hphase
  | startReady =>
    simp only [supervise] at hstep
    split at hstep
    · next hphase => exact ⟨(effect_startReady hphase hstep).1, .becomesReady rfl hphase hstep⟩
    · cases hstep
  | startFailed =>
    simp only [supervise] at hstep
    split at hstep
    · next hphase =>
      cases hstep
      exact quiet_of_phases hphase (.refl c)
    · cases hstep
  | announce =>
    simp only [supervise] at hstep
    split at hstep
    · next hphase =>
      cases hstep
      exact ⟨effect_announce hphase, .signals rfl⟩
    · cases hstep
  | closeSession =>
    simp only [supervise] at hstep
    split at hstep
    · next hphase =>
      cases hstep
      exact quiet_of_phases hphase (.endSession c _)
    · cases hstep
  | clearSession =>
    simp only [supervise] at hstep
    split at hstep
    · next hphase =>
      cases hstep
      exact ⟨effect_clearCurrentSession hphase, .signals rfl⟩
    · cases hstep
  | fail err =>
    simp only [supervise] at hstep
    split_ifs at hstep with hphase
    cases hstep
    exact ⟨effect_setTerminalError hphase err, .signals rfl⟩
  | leave =>
    simp only [supervise] at hstep
    split_ifs at hstep with hphase
    cases hstep
    rcases hphase with hphase | ⟨hphase, -⟩
    all_goals exact quiet_of_phases hphase (.refl c)
  | closeReadableState =>
    simp only [supervise] at hstep
    split_ifs at hstep with hphase
    cases hstep
    exact ⟨effect_closeSupervisorReadableState hphase, .signals rfl⟩

/-! ### The steps of a client -/

inductive WaitersStep (c : ClientLifecycle) (event : LifecycleEvent) : List WaiterPhase → Prop
  | same : WaitersStep c event c.waiters
  | called : WaitersStep c event (c.waiters ++ [.checking])
  | checked {waiter : Nat} : event = .check waiter →
      WaitersStep c event (c.waiters.set waiter c.checkedPhase)
  | canceled {waiter : Nat} : WaitersStep c event (c.waiters.set waiter (.returned .contextDone))

/-- A session that `Close` had to close is closed, or still before it. -/
def CallsKept (c c' : ClientLifecycle) : Prop :=
  ∀ session ∈ c.closeCalls, session < c.sessions.length →
    session ∈ c'.closeCalls ∨ c'.Ended session

theorem CallsKept.of_eq (h : c'.closeCalls = c.closeCalls) : CallsKept c c' :=
  fun _ hcall _ => .inl (h ▸ hcall)

theorem CallsKept.callClose (c : ClientLifecycle) (session : Nat) :
    CallsKept c { c.endSession session with closeCalls := c.closeCalls.erase session } := by
  intro other hcall hlength
  by_cases hsame : other = session
  · subst hsame
    exact .inr (ended_endSession hlength)
  · exact .inl ((List.mem_erase_of_ne hsame).mpr hcall)

def ofSupervisor : LifecycleEvent → Bool
  | .supervise _ => true
  | _ => false

inductive StepCase (c : ClientLifecycle) : LifecycleEvent → ClientLifecycle → Prop
  | start {materialLoads : Bool} : c.started = false → c.closed = false →
      StepCase c (.start materialLoads) { c with started := true, supervisor := .waiting }
  | close : StepCase c .close c.close
  | look {event : LifecycleEvent} {c' : ClientLifecycle} : SameLook c c' → CallsKept c c' →
      ofSupervisor event = false → StepCase c event c'
  | signal : StepCase c .signal { c.signalStateChanged with signals := c.signals - 1 }
  | supervise {step : SupervisorStep} {c' : ClientLifecycle} : c.supervise step = some c' →
      StepCase c (.supervise step) c'
  | waiters {event : LifecycleEvent} {waiters : List WaiterPhase} :
      WaitersStep c event waiters → ofSupervisor event = false → StepCase c event { c with waiters }

variable {event : LifecycleEvent}

theorem step_cases (h : c.step event = some c') : StepCase c event c' := by
  cases event with
  | start materialLoads =>
    cases h
    unfold start
    split
    · exact .look (.refl c) (.of_eq rfl) rfl
    · next hrefused =>
      simp only [Bool.or_eq_true, not_or, Bool.not_eq_true] at hrefused
      exact .start hrefused.1.1 hrefused.1.2
  | close =>
    cases h
    exact .close
  | callClose session =>
    simp only [step] at h
    split_ifs at h
    cases h
    exact .look { SameLook.endSession c session with } (.callClose c session) rfl
  | suspend =>
    cases h
    refine .look (.suspend c) (.of_eq ?_) rfl
    unfold suspend
    split <;> rfl
  | resume =>
    cases h
    refine .look (.resume c) (.of_eq ?_) rfl
    unfold resume
    split <;> rfl
  | cancelContext =>
    cases h
    exact .look { SameLook.refl c with canceled := fun _ => rfl } (.of_eq rfl) rfl
  | finishSession session =>
    simp only [step] at h
    split_ifs at h
    cases h
    exact .look (.finishSession c session) (.of_eq rfl) rfl
  | endSession session =>
    simp only [step] at h
    split_ifs at h
    cases h
    exact .look (.endSession c session) (.of_eq (closeCalls_endSession c session)) rfl
  | signal =>
    simp only [step] at h
    split_ifs at h
    cases h
    exact .signal
  | supervise step => exact .supervise h
  | waitReady =>
    cases h
    exact .waiters .called rfl
  | check waiter =>
    simp only [step] at h
    split at h
    · split_ifs at h
      cases h
      exact .waiters (.checked rfl) rfl
    · cases h
  | waiterContextDone waiter =>
    simp only [step] at h
    split at h
    · cases h
      exact .waiters .canceled rfl
    · cases h

/-- What every step keeps; only its own steps move a supervisor that was started. -/
structure StepEffect (c : ClientLifecycle) (event : LifecycleEvent) (c' : ClientLifecycle) :
    Prop where
  channel : c.stateChanged ≤ c'.stateChanged
  closed : c.closed = true → c'.closed = true
  sessions : SessionsKept c.sessions c'.sessions
  supervisor : c.started = true → c'.supervisor = c.supervisor ∨ ofSupervisor event = true
  waiters : WaitersStep c event c'.waiters

theorem SupervisorMove.channel (h : SupervisorMove c step c') :
    c'.stateChanged = c.stateChanged + 1 ∨ c'.stateChanged = c.stateChanged ∧ ¬ c.Announcing := by
  cases h with
  | quiet hlook hquiet _ => exact .inr ⟨hlook.channel, hquiet⟩
  | signals hchannel => exact .inl hchannel
  | becomesReady _ hphase hready =>
    refine .inr ⟨(effect_startReady hphase hready).2, ?_⟩
    rintro ⟨session, hannouncing⟩
    rw [hphase] at hannouncing
    cases hannouncing

theorem stepEffect (h : c.step event = some c') : StepEffect c event c' := by
  cases step_cases h with
  | start hstarted _ =>
    exact ⟨le_refl _, id, .refl _, fun hold => by simp [hstarted] at hold, .same⟩
  | close => exact ⟨le_refl _, fun _ => rfl, .refl _, fun _ => .inl rfl, .same⟩
  | look hlook =>
    exact ⟨hlook.channel.ge, fun hclosed => hlook.closed.trans hclosed, hlook.sessions,
      fun _ => .inl hlook.supervisor, hlook.waiters ▸ .same⟩
  | signal => exact ⟨Nat.le_succ _, id, .refl _, fun _ => .inl rfl, .same⟩
  | supervise hsupervise =>
    obtain ⟨heffect, hmove⟩ := supervise_spec hsupervise
    refine ⟨?_, heffect.closed, heffect.sessions, fun _ => .inr rfl, heffect.waiters ▸ .same⟩
    rcases hmove.channel with hchannel | ⟨hchannel, -⟩ <;> omega
  | waiters hwaiters => exact ⟨le_refl _, id, .refl _, fun _ => .inl rfl, hwaiters⟩

/-- A waiter's phase changes only by its own steps. -/
theorem WaitersStep.at {waiters : List WaiterPhase} (h : WaitersStep c event waiters)
    {waiter : Nat} {phase : WaiterPhase} (hphase : c.waiters[waiter]? = some phase) :
    waiters[waiter]? = some phase ∨
      event = .check waiter ∧ waiters[waiter]? = some c.checkedPhase ∨
      waiters[waiter]? = some (.returned .contextDone) := by
  have hlength : waiter < c.waiters.length := (List.getElem?_eq_some_iff.mp hphase).1
  cases h with
  | same => exact .inl hphase
  | called => exact .inl ((List.getElem?_append_left hlength).trans hphase)
  | @checked other hevent =>
    by_cases hsame : other = waiter
    · subst hsame
      simp [hlength, hevent]
    · simp [hsame, hphase]
  | @canceled other =>
    by_cases hsame : other = waiter
    · simp [hsame, hlength]
    · simp [hsame, hphase]

/-! ### The supervisor and the rest of the client -/

/-- A session the supervisor is busy with is the current one, or `Close` has still to close
it, or it has ended. -/
structure PhasesFit (c : ClientLifecycle) : Prop where
  started : c.started = true ↔ c.supervisor ≠ .idle
  done : c.supervisor = .done → c.closed = true ∨ c.terminalError.isSome = true
  current : c.closed = true → c.currentSession = none
  canceled : c.closed = true → c.Live → c.canceled = true
  opened : ∀ session ∈ opened c.supervisor, session < c.sessions.length ∧
    (c.currentSession = some session ∨ session ∈ c.closeCalls ∨ c.Ended session)

namespace PhasesFit

variable (h : PhasesFit c)

include h

theorem of_sameLook (hlook : SameLook c c') (hcalls : CallsKept c c') : PhasesFit c' := by
  refine ⟨?_, ?_, ?_, ?_, ?_⟩
  · rw [hlook.started, hlook.supervisor]
    exact h.started
  · rw [hlook.supervisor, hlook.closed, hlook.failed]
    exact h.done
  · rw [hlook.closed, hlook.current]
    exact h.current
  · unfold Live
    rw [hlook.closed, hlook.supervisor]
    exact fun hclosed hlive => hlook.canceled (h.canceled hclosed hlive)
  · rw [hlook.supervisor, hlook.current]
    intro session hsession
    obtain ⟨hlength, hcurrent | hcall | hended⟩ := h.opened session hsession
    all_goals refine ⟨hlength.trans_le hlook.sessions.length, ?_⟩
    · exact .inl hcurrent
    · exact .inr (hcalls session hcall hlength)
    · exact .inr (.inr (hlook.sessions.ended hended))

theorem of_close : PhasesFit c.close := by
  refine ⟨h.started, fun _ => .inl rfl, fun _ => rfl, fun _ hlive => ?_, ?_⟩
  · simp [close, h.started.mpr hlive.1]
  · intro session hsession
    obtain ⟨hlength, hcurrent | hcall | hended⟩ := h.opened session hsession
    all_goals refine ⟨hlength, .inr ?_⟩
    · exact .inl (by simp [close, hcurrent])
    · exact .inl (by simp [close, hcall])
    · exact .inr hended

theorem of_supervise (hstep : c.supervise step = some c') : PhasesFit c' := by
  have heffect := (supervise_spec hstep).1
  refine ⟨?_, heffect.done, fun hclosed => ?_, fun hclosed hlive => ?_, fun session hsession => ?_⟩
  · rw [heffect.started]
    exact iff_of_true (h.started.mpr heffect.live.1) heffect.target
  · rcases heffect.closes hclosed with hold | ⟨hnone, -⟩
    · exact heffect.current (by simp [stopped, hold]) (h.current hold)
    · exact hnone
  · rw [heffect.canceled]
    rcases heffect.closes hclosed with hold | ⟨-, hdone⟩
    · exact h.canceled hold heffect.live
    · exact absurd hdone hlive.2
  · rcases heffect.opened session hsession with ⟨hcurrent, hlength⟩ | ⟨hopened, hcurrent⟩
    · exact ⟨hlength, .inl hcurrent⟩
    · obtain ⟨hlength, hheld⟩ := h.opened session hopened
      rw [hcurrent, heffect.closeCalls]
      exact ⟨hlength.trans_le heffect.sessions.length,
        hheld.imp_right (Or.imp_right heffect.sessions.ended)⟩

theorem of_step (hstep : c.step event = some c') : PhasesFit c' := by
  cases step_cases hstep with
  | start _ hclosed =>
    exact ⟨by simp, by simp, h.current, by simp [hclosed], by simp [ClientLifecycle.opened]⟩
  | close => exact h.of_close
  | look hlook hcalls => exact h.of_sameLook hlook hcalls
  | signal | waiters => exact ⟨h.started, h.done, h.current, h.canceled, h.opened⟩
  | supervise hsupervise => exact h.of_supervise hsupervise

end PhasesFit

theorem phasesFit_new (mode : ClientMode) : PhasesFit { mode } := by
  constructor <;> simp [opened]

end Steps

/-! ### After `Close` -/

theorem step_of_closed {c c' : ClientLifecycle} {event : LifecycleEvent}
    (hclosed : c.closed = true) (hsession : c.currentSession = none)
    (h : c.step event = some c') :
    c'.currentSession = none ∧
      rank c'.supervisor + (ofSupervisor event).toNat ≤ rank c.supervisor := by
  cases step_cases h with
  | start _ hopen => simp [hclosed] at hopen
  | close => exact ⟨rfl, le_refl _⟩
  | look hlook _ hother =>
    rw [hlook.current, hlook.supervisor, hother]
    exact ⟨hsession, le_refl _⟩
  | signal => exact ⟨hsession, le_refl _⟩
  | supervise hsupervise =>
    have heffect := (supervise_spec hsupervise).1
    have hstopped : c.stopped = true := by simp [stopped, hclosed]
    exact ⟨heffect.current hstopped hsession, heffect.falls hstopped⟩
  | waiters _ hother =>
    rw [hother]
    exact ⟨hsession, le_refl _⟩

theorem run_of_closed {mode : ClientMode} {c c' : ClientLifecycle} {events : List LifecycleEvent}
    (hclosed : c.closed = true) (hsession : c.currentSession = none)
    (h : runFrom (clientLifecycle mode) (fun _ _ => True) c events = some c') :
    c'.currentSession = none ∧
      rank c'.supervisor + events.countP ofSupervisor ≤ rank c.supervisor := by
  induction events generalizing c with
  | nil =>
    cases h
    exact ⟨hsession, le_refl _⟩
  | cons event events ih =>
    obtain ⟨next, hstep, hrest⟩ := Option.bind_eq_some_iff.mp h
    obtain ⟨hnone, hrank⟩ := step_of_closed hclosed hsession hstep
    obtain ⟨hlast, hsum⟩ := ih ((stepEffect hstep).closed hclosed) hnone hrest
    refine ⟨hlast, ?_⟩
    rw [List.countP_cons]
    cases hevent : ofSupervisor event <;> simp [hevent] at hrank ⊢ <;> omega

/-- **`Close` is final**: no session becomes the current one again, and each step of the
supervisor brings it closer to its end, whatever else happens; there are at most eight. -/
theorem close_final (mode : ClientMode) (c c' : ClientLifecycle) (events : List LifecycleEvent)
    (h : runFrom (clientLifecycle mode) (fun _ _ => True) c.close events = some c') :
    c'.currentSession = none ∧
      rank c'.supervisor + events.countP ofSupervisor ≤ rank c.supervisor ∧
      events.countP ofSupervisor ≤ 8 := by
  obtain ⟨hnone, hsum⟩ := run_of_closed (c := c.close) rfl rfl h
  have hrank : rank c.close.supervisor ≤ 8 := rank_le _
  exact ⟨hnone, hsum, by omega⟩

def dialingClient : ClientLifecycle := { mode := .tls, started := true, supervisor := .dialing }

/-- It is closed, and the session it opens is refused and closed. -/
theorem close_final_dialing :
    runFrom (clientLifecycle .tls) (fun _ _ => True) { mode := .tls }
      [.start true, .supervise .proceed, .supervise .readSuspended] = some dialingClient ∧
    ∃ c', runFrom (clientLifecycle .tls) (fun _ _ => True) dialingClient.close
      [.supervise .openSession, .signal, .supervise .closeReadableState] = some c' ∧
    c'.sessions = [{ finished := true }] ∧ c'.supervisor = .done ∧ c'.currentSession = none :=
  ⟨rfl, _, rfl, rfl, rfl, (close_final .tls dialingClient _
    [.supervise .openSession, .signal, .supervise .closeReadableState] rfl).1⟩

end ClientLifecycle

end SingOpenVPN
