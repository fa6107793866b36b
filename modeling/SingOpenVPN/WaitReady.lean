import SingOpenVPN.ClientSteps
import SingOpenVPN.InfiniteRuns

/-!
# Waiting until a client is ready

A call of `WaitReady` that finds the client not ready blocks on the channel it has read.
It must not stay blocked while the client is ready, closed or failed.

What could lose a wakeup is a change of the state without a signal behind it.  Two steps
of the source make one: the `Start` of a static-key session, which sets the flag and does
not signal, and `Close` on a client that was never started, where no supervisor is left
to signal.  `SignalsWaiters` is the condition that neither happens while a waiter is
blocked on the current channel.

Under it a signal is on its way whenever a waiter is blocked on the current channel of a
client that is ready or closed, and no waiter is if the client has failed
(`WakeInvariant`).  In a fair run the signal comes, and the waiter returns
(`waiter_returns`).
-/

namespace SingOpenVPN

open TransitionSystem

namespace ClientLifecycle

/-! ### A signal on its way -/

section Invariant

variable {c c' : ClientLifecycle} {event : LifecycleEvent}

def Waiting (c : ClientLifecycle) : Prop := .blocked c.stateChanged ∈ c.waiters

/-- A goroutine is between a change of readiness and its signal. -/
def Pending (c : ClientLifecycle) : Prop := 0 < c.signals ∨ c.Announcing

structure WakeInvariant (c : ClientLifecycle) : Prop where
  bounded : ∀ channel, .blocked channel ∈ c.waiters → channel ≤ c.stateChanged
  failed : c.terminalError.isSome = true → ¬ c.Waiting
  closed : c.closed = true → c.Waiting → c.Live
  ready : c.sessionReady = true → c.Waiting → c.Pending

/-- A step that does not signal must not make the client fail, and has to leave a signal
on its way if it makes the client ready or closed. -/
structure QuietStep (c c' : ClientLifecycle) : Prop where
  waiters : c'.waiters = c.waiters
  channel : c'.stateChanged = c.stateChanged
  failed : c'.terminalError = c.terminalError
  closed : c'.closed = true → c.closed = true ∨ c'.Live ∨ ¬ c.Waiting
  live : c.Live → c'.Live
  ready : c'.sessionReady = true → c.sessionReady = true ∨ c'.Pending ∨ ¬ c.Waiting
  pending : c.Pending → c'.Pending

/-- The step does not leave a waiter without a signal: a static-key session that becomes
ready has no waiter on the current channel, or some other signal is on its way; a client
that is closed before it was started has no waiter. -/
def SignalsWaiters (c : ClientLifecycle) : LifecycleEvent → Prop
  | .supervise .startReady => c.mode = .staticKey → 0 < c.signals ∨ ¬ c.Waiting
  | .close => c.started = false → ¬ c.Waiting
  | _ => True

/-! A waiter that reads the state blocks only if there is nothing to report. -/

theorem checkedPhase_eq_blocked {channel : Nat} (h : c.checkedPhase = .blocked channel) :
    channel = c.stateChanged ∧ c.terminalError.isSome = false ∧ c.closed = false ∧
      c.sessionReady = false := by
  unfold checkedPhase at h
  split at h
  · cases h
  · next hfailed =>
    split at h
    · cases h
    · next hclosed =>
      split at h
      · cases h
      · next hready =>
        cases h
        simp_all

theorem WaitersStep.blocked {waiters : List WaiterPhase} (h : WaitersStep c event waiters)
    {channel : Nat} (hblocked : .blocked channel ∈ waiters) :
    .blocked channel ∈ c.waiters ∨ c.checkedPhase = .blocked channel := by
  cases h with
  | same => exact .inl hblocked
  | called => exact .inl (by simpa using hblocked)
  | checked => exact (List.mem_or_eq_of_mem_set hblocked).imp_right Eq.symm
  | canceled => exact .inl ((List.mem_or_eq_of_mem_set hblocked).resolve_right (by simp))

namespace WakeInvariant

variable (h : WakeInvariant c)

include h

/-- Behind a signal no waiter is blocked on the current channel. -/
theorem of_signal (hwaiters : c'.waiters = c.waiters)
    (hchannel : c'.stateChanged = c.stateChanged + 1) : WakeInvariant c' := by
  have hnone : ¬ c'.Waiting := by
    intro hwaiting
    unfold Waiting at hwaiting
    rw [hwaiters, hchannel] at hwaiting
    exact absurd (h.bounded _ hwaiting) (Nat.not_succ_le_self _)
  refine ⟨?_, fun _ => hnone, fun _ hwaiting => absurd hwaiting hnone,
    fun _ hwaiting => absurd hwaiting hnone⟩
  intro channel hblocked
  rw [hwaiters] at hblocked
  rw [hchannel]
  exact (h.bounded channel hblocked).trans (Nat.le_succ _)

theorem of_quiet (hstep : QuietStep c c') : WakeInvariant c' := by
  have hwaiting : c'.Waiting ↔ c.Waiting := by
    unfold Waiting
    rw [hstep.waiters, hstep.channel]
  refine ⟨?_, ?_, ?_, ?_⟩
  · rw [hstep.waiters, hstep.channel]
    exact h.bounded
  · rw [hstep.failed, hwaiting]
    exact h.failed
  · rw [hwaiting]
    intro hclosed hblocked
    rcases hstep.closed hclosed with hold | hlive | hnone
    · exact hstep.live (h.closed hold hblocked)
    · exact hlive
    · exact absurd hblocked hnone
  · rw [hwaiting]
    intro hready hblocked
    rcases hstep.ready hready with hold | hpending | hnone
    · exact hstep.pending (h.ready hold hblocked)
    · exact hpending
    · exact absurd hblocked hnone

theorem of_sameLook (hlook : SameLook c c') : WakeInvariant c' := by
  refine h.of_quiet ⟨hlook.waiters, hlook.channel, hlook.failed, ?_, ?_,
    fun hready => .inl (hlook.ready hready), ?_⟩
  · rw [hlook.closed]
    exact .inl
  · unfold Live
    rw [hlook.supervisor]
    exact id
  · unfold Pending Announcing
    rw [hlook.supervisor]
    exact Or.imp_left fun hpositive => hpositive.trans_le hlook.signals

theorem of_move (hquiet : ¬ c.Announcing) {phase : SupervisorPhase} (hidle : phase ≠ .idle)
    (hdone : phase ≠ .done) : WakeInvariant { c with supervisor := phase } :=
  h.of_quiet ⟨rfl, rfl, rfl, .inl, fun _ => ⟨hidle, hdone⟩, .inl,
    fun hpending => .inl (hpending.resolve_right hquiet)⟩

theorem of_close (hphases : PhasesFit c) (hcondition : c.SignalsWaiters .close) :
    WakeInvariant c.close := by
  have hwoken : c.Live ∨ ¬ c.Waiting := by
    by_cases hstarted : c.started = true
    · by_cases hdone : c.supervisor = .done
      · right
        intro hwaiting
        rcases hphases.done hdone with hclosed | hfailed
        · exact (h.closed hclosed hwaiting).2 hdone
        · exact h.failed hfailed hwaiting
      · exact .inl ⟨hphases.started.mp hstarted, hdone⟩
    · exact .inr (hcondition (by simpa using hstarted))
  exact h.of_quiet ⟨rfl, rfl, rfl, fun _ => .inr hwoken, id, by simp [sessionReady, close], id⟩

theorem of_startReady {session : Nat} (hphase : c.supervisor = .starting session)
    (hcondition : c.SignalsWaiters (.supervise .startReady))
    (hstep : c.startReady session = some c') : WakeInvariant c' := by
  unfold startReady at hstep
  cases hmode : c.mode with
  | tls =>
    rw [hmode] at hstep
    cases hstep
    refine h.of_quiet ⟨rfl, rfl, rfl, .inl, fun _ => ⟨by simp, by simp⟩,
      fun _ => .inr (.inl ?_), fun _ => ?_⟩
    all_goals exact .inr ⟨session, rfl⟩
  | staticKey =>
    rw [hmode] at hstep
    dsimp only at hstep
    split at hstep
    · cases hstep
    · cases hstep
      refine h.of_quiet ⟨rfl, rfl, rfl, .inl, fun _ => ⟨by simp, by simp⟩,
        fun _ => .inr ((hcondition hmode).imp_left .inl), fun hpending => ?_⟩
      exact .inl (hpending.resolve_right (by simp [Announcing, hphase]))

theorem of_waiters {waiters : List WaiterPhase} (hwaiters : WaitersStep c event waiters) :
    WakeInvariant { c with waiters } := by
  have hwaiting : Waiting { c with waiters } →
      c.Waiting ∨ c.checkedPhase = .blocked c.stateChanged := hwaiters.blocked
  refine ⟨fun channel hblocked => ?_, fun hfailed hblocked => ?_, fun hclosed hblocked => ?_,
    fun hready hblocked => ?_⟩
  · rcases hwaiters.blocked hblocked with hold | hnew
    · exact h.bounded channel hold
    · exact (checkedPhase_eq_blocked hnew).1.le
  · rcases hwaiting hblocked with hold | hnew
    · exact h.failed hfailed hold
    · exact absurd hfailed (by simp [(checkedPhase_eq_blocked hnew).2.1])
  · rcases hwaiting hblocked with hold | hnew
    · exact h.closed hclosed hold
    · exact absurd hclosed (by simp [(checkedPhase_eq_blocked hnew).2.2.1])
  · rcases hwaiting hblocked with hold | hnew
    · exact h.ready hready hold
    · change c.sessionReady = true at hready
      exact absurd hready (by simp [(checkedPhase_eq_blocked hnew).2.2.2])

/-- **Every step that meets the condition keeps a signal on its way.** -/
theorem of_step (hphases : PhasesFit c) (hcondition : c.SignalsWaiters event)
    (hstep : c.step event = some c') : WakeInvariant c' := by
  cases step_cases hstep with
  | start hstarted _ =>
    have hidle : c.supervisor = .idle := by
      by_contra hphase
      simp [hphases.started.mpr hphase] at hstarted
    refine h.of_quiet ⟨rfl, rfl, rfl, .inl, fun _ => ⟨by simp, by simp⟩, .inl, fun hpending => ?_⟩
    exact .inl (hpending.resolve_right (by simp [Announcing, hidle]))
  | close => exact h.of_close hphases hcondition
  | look hlook => exact h.of_sameLook hlook
  | signal => exact h.of_signal rfl rfl
  | supervise hsupervise =>
    obtain ⟨heffect, hmove⟩ := supervise_spec hsupervise
    cases hmove with
    | quiet hlook hquiet hdone =>
      refine (h.of_sameLook hlook).of_move ?_ heffect.target hdone
      unfold Announcing
      rw [hlook.supervisor]
      exact hquiet
    | signals hchannel => exact h.of_signal heffect.waiters hchannel
    | becomesReady hready hphase hbecomes =>
      subst hready
      exact h.of_startReady hphase hcondition hbecomes
  | waiters hwaiters => exact h.of_waiters hwaiters

end WakeInvariant

theorem invariants_of_reachable {mode : ClientMode}
    (h : ReachableBy (clientLifecycle mode) SignalsWaiters c) : PhasesFit c ∧ WakeInvariant c := by
  apply h.invariant
  · rintro c rfl
    exact ⟨phasesFit_new mode, by constructor <;> simp [Waiting, sessionReady]⟩
  · rintro c event c' ⟨hphases, hwake⟩ hcondition hstep
    exact ⟨hphases.of_step hstep, hwake.of_step hphases hcondition hstep⟩

end Invariant

/-! ### Fair runs -/

section FairRuns

def Decided (c : ClientLifecycle) : Prop :=
  c.ready = true ∨ c.closed = true ∨ c.terminalError.isSome = true

/-- The supervisor owes a signal, or the client is closed and the supervisor has a step it
can take. -/
def MustMove (c : ClientLifecycle) : Prop :=
  c.Announcing ∨ c.closed = true ∧ ∃ step, (c.supervise step).isSome = true

/-- The supervisor waits for a session that was closed and has no result yet. -/
def MustFinish (session : Nat) (c : ClientLifecycle) : Prop :=
  c.supervisor = .established session ∧ (c.sessionAt session).closed = true ∧
    (c.sessionAt session).finished = false

/-- Every goroutine that can go on does so: one behind a flag it has set signals, the
supervisor of a closed client takes the step it can take, `Close` closes the session it
has taken away, the read loop of a session that was closed ends, a waiter whose channel
was closed reads the state. -/
structure FairRun {mode : ClientMode} (run : Run (clientLifecycle mode)) : Prop where
  signals : run.WeaklyFair (fun c => 0 < c.signals) (· = .signal)
  supervisor : run.WeaklyFair MustMove (ofSupervisor · = true)
  closes : ∀ session, run.WeaklyFair (session ∈ ·.closeCalls) (· = .callClose session)
  readLoops : ∀ session, run.WeaklyFair (MustFinish session) (· = .finishSession session)
  waiters : ∀ waiter, run.WeaklyFair
    (fun c => ∃ phase ∈ c.waiters[waiter]?, c.waiterRuns phase = true) (· = .check waiter)

theorem checkedPhase_of_decided {c : ClientLifecycle} (h : c.Decided) (channel : Nat) :
    c.checkedPhase ≠ .blocked channel := by
  intro hblocked
  obtain ⟨-, hfailed, hclosed, hready⟩ := checkedPhase_eq_blocked hblocked
  rcases h with h | h | h
  · simp [ready, hready] at h
  · simp [hclosed] at h
  · simp [hfailed] at h

variable {mode : ClientMode} {run : Run (clientLifecycle mode)} {waiter n : ℕ}

theorem check_step {c c' : ClientLifecycle} (h : c.step (.check waiter) = some c') :
    c'.waiters[waiter]? = some c.checkedPhase := by
  simp only [step] at h
  split at h
  · next phase hphase =>
    split_ifs at h
    cases h
    exact List.getElem?_set_self (List.getElem?_eq_some_iff.mp hphase).1
  · cases h

theorem finishSession_step {c c' : ClientLifecycle} {session : Nat}
    (h : c.step (.finishSession session) = some c') :
    (c'.sessionAt session).finished = true := by
  simp only [step] at h
  split_ifs at h with hlength
  cases h
  exact finished_finishSession hlength

theorem callClose_step {c c' : ClientLifecycle} {session : Nat}
    (h : c.step (.callClose session) = some c') (hlength : session < c.sessions.length) :
    c'.Ended session := by
  simp only [step] at h
  split_ifs at h
  cases h
  exact ended_endSession hlength

theorem stateChanged_mono {k m : ℕ} (hle : k ≤ m) :
    (run.states k).stateChanged ≤ (run.states m).stateChanged :=
  run.stays (P := fun c => (run.states k).stateChanged ≤ c.stateChanged)
    (fun _ _ _ _ hstep hold => hold.trans (stepEffect hstep).channel) hle (le_refl _)

theorem sessionsKept {k m : ℕ} (hle : k ≤ m) :
    SessionsKept (run.states k).sessions (run.states m).sessions :=
  run.stays (P := fun c => SessionsKept (run.states k).sessions c.sessions)
    (fun _ _ _ _ hstep hold => hold.trans (stepEffect hstep).sessions) hle (.refl _)

theorem closed_stays {k m : ℕ} (hle : k ≤ m) (h : (run.states k).closed = true) :
    (run.states m).closed = true :=
  run.stays (P := fun c => c.closed = true)
    (fun _ _ _ _ hstep hold => (stepEffect hstep).closed hold) hle h

theorem phasesFit_run (m : ℕ) : PhasesFit (run.states m) :=
  run.stays (P := PhasesFit) (fun _ _ _ _ hstep h => h.of_step hstep) (Nat.zero_le m)
    (run.start ▸ phasesFit_new mode)

/-! The supervisor of a closed client takes one step after another. -/

/-- The only place where it may have to wait is at a session without a result. -/
theorem supervise_enabled {c : ClientLifecycle} (hphases : PhasesFit c) (hclosed : c.closed = true)
    (hlive : c.Live)
    (hsession : ∀ session, c.supervisor = .established session →
      (c.sessionAt session).finished = true) : ∃ step, (c.supervise step).isSome = true := by
  have hcanceled := hphases.canceled hclosed hlive
  cases hphase : c.supervisor with
  | idle => exact absurd hphase hlive.1
  | done => exact absurd hphase hlive.2
  | waiting => exact ⟨.proceed, by simp [supervise, hphase, stopped, hclosed]⟩
  | resuming =>
    refine ⟨.readSuspended, ?_⟩
    cases hsuspended : c.suspended <;> simp [supervise, hphase, hsuspended]
  | paused channel => exact ⟨.waitCanceled, by simp [supervise, hphase, hcanceled]⟩
  | dialing => exact ⟨.openSession, by simp [supervise, hphase]⟩
  | starting session => exact ⟨.startFailed, by simp [supervise, hphase]⟩
  | announcing session => exact ⟨.announce, by simp [supervise, hphase]⟩
  | established session =>
    exact ⟨.sessionDone, by simp [supervise, hphase, hsession session hphase]⟩
  | closing session => exact ⟨.closeSession, by simp [supervise, hphase]⟩
  | clearing session => exact ⟨.clearSession, by simp [supervise, hphase]⟩
  | deciding => exact ⟨.leave, by simp [supervise, hphase]⟩
  | returning => exact ⟨.closeReadableState, by simp [supervise, hphase]⟩

theorem session_finishes (hfair : FairRun run) {m session : ℕ}
    (hclosed : (run.states m).closed = true)
    (hphase : ∀ i, m ≤ i → (run.states i).supervisor = .established session) :
    ∃ i, m ≤ i ∧ ((run.states i).sessionAt session).finished = true := by
  by_contra hnone
  have hunfinished : ∀ i, m ≤ i → ((run.states i).sessionAt session).finished = false :=
    fun i hi => by simpa using fun hfinished => hnone ⟨i, hi, hfinished⟩
  have hopened := fun i hi => (phasesFit_run i).opened session (by rw [hphase i hi]; rfl)
  -- the read loop of a closed session would give it a result
  have hunended : ∀ i, m ≤ i → ¬ (run.states i).Ended session := by
    rintro i hi (hfinished | hended)
    · simp [hunfinished i hi] at hfinished
    · obtain ⟨j, hj, event, hevent, rfl⟩ := hfair.readLoops session i fun j hj =>
        ⟨hphase j (hi.trans hj), (sessionsKept hj).closed session hended,
          hunfinished j (hi.trans hj)⟩
      have hfinished := finishSession_step (run.next_of_some hevent)
      simp [hunfinished (j + 1) (by omega)] at hfinished
  -- so `Close` has still to close the session, and does
  obtain ⟨j, hj, event, hevent, rfl⟩ := hfair.closes session m fun i hi => by
    rcases (hopened i hi).2 with hcurrent | hcall | hended
    · rw [(phasesFit_run i).current (closed_stays hi hclosed)] at hcurrent
      cases hcurrent
    · exact hcall
    · exact absurd hended (hunended i hi)
  exact hunended (j + 1) (by omega)
    (callClose_step (run.next_of_some hevent) (hopened j hj).1)

theorem supervisor_moves (hfair : FairRun run) {m : ℕ} (hclosed : (run.states m).closed = true)
    (hlive : ∀ i, m ≤ i → (run.states i).Live) :
    ∃ i, m ≤ i ∧ ∃ event ∈ run.events i, ofSupervisor event = true := by
  by_contra hnone
  have hsame : ∀ i, m ≤ i → (run.states i).supervisor = (run.states m).supervisor := by
    intro i hi
    refine run.stays (P := fun c => c.supervisor = (run.states m).supervisor) ?_ hi rfl
    intro j hj event hevent hstep hold
    have hstarted := (phasesFit_run j).started.mpr (hlive j hj).1
    rcases (stepEffect hstep).supervisor hstarted with hkept | hmoved
    · exact hkept.trans hold
    · exact absurd ⟨j, hj, event, hevent, hmoved⟩ hnone
  have hmust : ∀ i, m ≤ i → ¬ ∀ session, (run.states m).supervisor = .established session →
      ((run.states i).sessionAt session).finished = true := by
    intro i hi hfinished
    obtain ⟨j, hj, hevent⟩ := hfair.supervisor i fun j hj => by
      have hstill := closed_stays (hi.trans hj) hclosed
      refine .inr ⟨hstill, supervise_enabled (phasesFit_run j) hstill (hlive j (hi.trans hj)) ?_⟩
      intro session hphase
      rw [hsame j (hi.trans hj)] at hphase
      exact (sessionsKept hj).finished session (hfinished session hphase)
    exact hnone ⟨j, hi.trans hj, hevent⟩
  by_cases hsession : ∃ session, (run.states m).supervisor = .established session
  · obtain ⟨session, hphase⟩ := hsession
    obtain ⟨i, hi, hfinished⟩ := session_finishes hfair hclosed
      fun i hi => (hsame i hi).trans hphase
    apply hmust i hi
    intro other hother
    cases hphase.symm.trans hother
    exact hfinished
  · exact hmust m (le_refl m) fun session hphase => absurd ⟨session, hphase⟩ hsession

/-! A waiter that stays blocked although there is something to tell. -/

theorem channel_of_stays_blocked (hfair : FairRun run) (hcondition : run.Meets SignalsWaiters)
    (hblocked : ∀ m, n ≤ m → ∃ channel,
      (run.states m).waiters[waiter]? = some (.blocked channel))
    (hdecided : ∀ m, n ≤ m → (run.states m).Decided) :
    ∃ channel, ∀ m, n ≤ m → (run.states m).stateChanged = channel ∧ (run.states m).Waiting := by
  -- reading the state would make the waiter return
  have hunread : ∀ m, n ≤ m → run.events m ≠ some (.check waiter) := by
    intro m hm hevent
    obtain ⟨after, hafter⟩ := hblocked (m + 1) (hm.trans (Nat.le_succ m))
    rw [check_step (run.next_of_some hevent)] at hafter
    exact checkedPhase_of_decided (hdecided m hm) after (Option.some.inj hafter)
  obtain ⟨channel, hchannel⟩ := hblocked n (le_refl n)
  have hsame : ∀ m, n ≤ m → (run.states m).waiters[waiter]? = some (.blocked channel) := by
    intro m hm
    refine run.stays (P := fun c => c.waiters[waiter]? = some (.blocked channel)) ?_ hm hchannel
    intro m hm event hevent hstep ih
    obtain ⟨after, hafter⟩ := hblocked (m + 1) (hm.trans (Nat.le_succ m))
    rcases (stepEffect hstep).waiters.at ih with hkept | ⟨rfl, -⟩ | hreturned
    · exact hkept
    · exact absurd hevent (hunread m hm)
    · rw [hreturned] at hafter
      cases hafter
  have hcurrent : ∀ m, n ≤ m → ¬ channel < (run.states m).stateChanged := by
    intro k hk hclosed
    obtain ⟨m, hm, event, hevent, rfl⟩ := hfair.waiters waiter k fun m hm =>
      ⟨.blocked channel, hsame m (hk.trans hm), by
        simpa [waiterRuns] using hclosed.trans_le (stateChanged_mono hm)⟩
    exact hunread m (hk.trans hm) hevent
  refine ⟨channel, fun m hm => ?_⟩
  have hmem := List.mem_of_getElem? (hsame m hm)
  have hle := (invariants_of_reachable (Run.reachableBy hcondition m)).2.bounded channel hmem
  have heq : (run.states m).stateChanged = channel :=
    le_antisymm (Nat.not_lt.mp (hcurrent m hm)) hle
  refine ⟨heq, ?_⟩
  unfold Waiting
  rw [heq]
  exact hmem

/-! From some instant on no signal is given although a waiter waits. -/

section Silent

variable {channel : ℕ} (hfair : FairRun run) (hcondition : run.Meets SignalsWaiters)
  (hsilent : ∀ m, n ≤ m → (run.states m).stateChanged = channel ∧ (run.states m).Waiting)

include hsilent in
theorem no_signal {m : ℕ} (hm : n ≤ m) :
    (run.states (m + 1)).stateChanged ≠ (run.states m).stateChanged + 1 := by
  rw [(hsilent m hm).1, (hsilent (m + 1) (hm.trans (Nat.le_succ m))).1]
  omega

include hsilent in
theorem supervise_not_announcing {m : ℕ} (hm : n ≤ m) {event : LifecycleEvent}
    (hevent : ofSupervisor event = true)
    (hstep : (run.states m).step event = some (run.states (m + 1))) :
    ¬ (run.states m).Announcing := by
  cases event with
  | supervise step =>
    exact ((supervise_spec hstep).2.channel.resolve_left (no_signal hsilent hm)).2
  | _ => cases hevent

include hfair hsilent in
theorem not_announcing {k : ℕ} (hk : n ≤ k) : ¬ (run.states k).Announcing := by
  intro hannouncing
  have hstays : ∀ m, k ≤ m → (run.states m).Announcing := by
    intro m hm
    refine run.stays ?_ hm hannouncing
    intro m hm event hevent hstep ih
    have hstarted : (run.states m).started = true :=
      (phasesFit_run m).started.mpr (by obtain ⟨session, hphase⟩ := ih; simp [hphase])
    rcases (stepEffect hstep).supervisor hstarted with hsame | hmoved
    · unfold Announcing
      rw [hsame]
      exact ih
    · exact absurd ih (supervise_not_announcing hsilent (hk.trans hm) hmoved hstep)
  obtain ⟨m, hm, event, hevent, hmoved⟩ := hfair.supervisor k fun m hm => .inl (hstays m hm)
  exact supervise_not_announcing hsilent (hk.trans hm) hmoved (run.next_of_some hevent)
    (hstays m hm)

include hfair hcondition hsilent in
theorem not_ready_forever (hready : ∀ m, n ≤ m → (run.states m).sessionReady = true) : False := by
  have hpending : ∀ m, n ≤ m → 0 < (run.states m).signals := by
    intro m hm
    have hinvariant := (invariants_of_reachable (Run.reachableBy hcondition m)).2
    rcases hinvariant.ready (hready m hm) (hsilent m hm).2 with hpositive | hannouncing
    · exact hpositive
    · exact absurd hannouncing (not_announcing hfair hsilent hm)
  obtain ⟨m, hm, event, hevent, rfl⟩ := hfair.signals n hpending
  have hstep : (run.states m).step .signal = some (run.states (m + 1)) := run.next_of_some hevent
  simp only [step, if_pos (hpending m hm), Option.some.injEq] at hstep
  apply no_signal hsilent hm
  rw [← hstep]
  rfl

include hfair hcondition hsilent in
theorem not_closed {k : ℕ} (hk : n ≤ k) : (run.states k).closed = false := by
  by_contra hopen
  have hclosed : ∀ m, k ≤ m → (run.states m).closed = true := fun m hm =>
    closed_stays hm (by simpa using hopen)
  have hlive : ∀ m, k ≤ m → (run.states m).Live := fun m hm =>
    (invariants_of_reachable (Run.reachableBy hcondition m)).2.closed (hclosed m hm)
      (hsilent m (hk.trans hm)).2
  have hfalls : ∀ m, k ≤ m → ∀ event ∈ run.events m,
      rank (run.states (m + 1)).supervisor + (ofSupervisor event).toNat ≤
        rank (run.states m).supervisor := fun m hm event hevent =>
    (step_of_closed (hclosed m hm) ((phasesFit_run m).current (hclosed m hm))
      (run.next_of_some hevent)).2
  apply @Run.not_always_falling _ _ _ run (fun c => rank c.supervisor) k
  · intro m hm
    cases hevent : run.events m with
    | none => rw [run.next_of_none hevent]
    | some event => exact (Nat.le_add_right _ _).trans (hfalls m hm event hevent)
  · intro m hm
    obtain ⟨j, hj, event, hevent, hmoved⟩ := supervisor_moves hfair (hclosed m hm)
      fun i hi => hlive i (hm.trans hi)
    have hfall := hfalls j (hm.trans hj) event hevent
    rw [hmoved] at hfall
    exact ⟨j, hj, hfall⟩

end Silent

/-- **No call of `WaitReady` stays blocked while the client is ready, closed or failed**,
in a fair run of a client whose steps all signal the waiters. -/
theorem waiter_returns (mode : ClientMode) (run : Run (clientLifecycle mode)) (hfair : FairRun run)
    (hcondition : run.Meets SignalsWaiters) (waiter n : ℕ) :
    ¬ ∀ m, n ≤ m → (∃ channel, (run.states m).waiters[waiter]? = some (.blocked channel)) ∧
      (run.states m).Decided := by
  intro hstays
  obtain ⟨channel, hsilent⟩ := channel_of_stays_blocked hfair hcondition
    (fun m hm => (hstays m hm).1) fun m hm => (hstays m hm).2
  apply not_ready_forever hfair hcondition hsilent
  intro m hm
  rcases (hstays m hm).2 with hready | hclosed | hfailed
  · simp only [ready, Bool.and_eq_true] at hready
    exact hready.2
  · simp [not_closed hfair hcondition hsilent hm] at hclosed
  · have hinvariant := (invariants_of_reachable (Run.reachableBy hcondition m)).2
    exact absurd (hsilent m hm).2 (hinvariant.failed hfailed)

end FairRuns

/-! ### Three runs -/

instance (c : ClientLifecycle) : Decidable c.Waiting :=
  inferInstanceAs (Decidable (_ ∈ c.waiters))

instance (c : ClientLifecycle) (event : LifecycleEvent) : Decidable (c.SignalsWaiters event) := by
  unfold SignalsWaiters
  split <;> infer_instance

section Stops

variable {mode : ClientMode} {events : List LifecycleEvent} {last : ClientLifecycle}
  {hpossible : ∀ n (h : n < events.length),
    ((clientLifecycle mode).step (stateAfter (clientLifecycle mode) { mode } events n)
      events[n]).isSome}
  (hlast : stateAfter (clientLifecycle mode) { mode } events events.length = last)

include hlast

/-- A run that stops in a state where no goroutine can go on is fair. -/
theorem fairRun_of_stops (hsignals : last.signals = 0) (hmoves : ¬ last.MustMove)
    (hcalls : last.closeCalls = []) (hfinish : ∀ session, ¬ MustFinish session last)
    (hwaiters : ∀ phase ∈ last.waiters, last.waiterRuns phase = false) :
    FairRun (stoppingRun (clientLifecycle mode) { mode } events rfl hpossible) where
  signals := weaklyFair_stoppingRun (by simp [hlast, hsignals])
  supervisor := weaklyFair_stoppingRun (hlast ▸ hmoves)
  closes session := weaklyFair_stoppingRun (by simp [hlast, hcalls])
  readLoops session := weaklyFair_stoppingRun (hlast ▸ hfinish session)
  waiters waiter := by
    apply weaklyFair_stoppingRun
    rw [hlast]
    rintro ⟨phase, hphase, hruns⟩
    simp [hwaiters phase (List.mem_of_getElem? hphase)] at hruns

theorem states_of_stops {m : ℕ} (h : events.length ≤ m) :
    (stoppingRun (clientLifecycle mode) { mode } events rfl hpossible).states m = last :=
  (stateAfter_of_length_le _ events h).trans hlast

end Stops

/-- The waiter of a static-key client reads the state between `setCurrentSession` and the
session's `Start`. -/
def earlyWaiter : List LifecycleEvent :=
  [.start true, .supervise .proceed, .supervise .readSuspended, .supervise .openSession,
    .waitReady, .check 0, .supervise .startReady]

def closedUnstarted : List LifecycleEvent := [.waitReady, .check 0, .close]

/-- A waiter stays blocked for ever on a static-key client that is ready, and on a client
that was closed before it was started. -/
theorem waiter_stays_blocked :
    (∃ run : Run (clientLifecycle .staticKey), FairRun run ∧ ∃ n, ∀ m, n ≤ m →
      (run.states m).waiters[0]? = some (.blocked 1) ∧ (run.states m).ready = true) ∧
    (∃ run : Run (clientLifecycle .tls), FairRun run ∧ ∃ n, ∀ m, n ≤ m →
      (run.states m).waiters[0]? = some (.blocked 0) ∧ (run.states m).closed = true) := by
  constructor
  · have hlast : stateAfter (clientLifecycle .staticKey) { mode := .staticKey } earlyWaiter 7 =
        { mode := .staticKey, started := true, currentSession := some 0
          sessions := [{ ready := true }], stateChanged := 1, supervisor := .established 0
          waiters := [.blocked 1] } := by decide
    refine ⟨stoppingRun _ { mode := .staticKey } earlyWaiter rfl (by decide), ?_, 7, fun m hm => ?_⟩
    · refine fairRun_of_stops hlast rfl ?_ rfl ?_ (by decide)
      · simp [MustMove, Announcing]
      · rintro session ⟨⟨⟩, hclosed, -⟩
        cases hclosed
    · rw [states_of_stops hlast hm]
      decide
  · have hlast : stateAfter (clientLifecycle .tls) { mode := .tls } closedUnstarted 3 =
        { mode := .tls, closed := true, waiters := [.blocked 0] } := by decide
    refine ⟨stoppingRun _ { mode := .tls } closedUnstarted rfl (by decide), ?_, 3, fun m hm => ?_⟩
    · refine fairRun_of_stops hlast rfl ?_ rfl ?_ (by decide)
      · rintro (⟨session, ⟨⟩⟩ | ⟨-, step, hstep⟩)
        obtain ⟨c', hstep⟩ := Option.isSome_iff_exists.mp hstep
        exact (supervise_spec hstep).1.live.1 rfl
      · rintro session ⟨⟨⟩, -⟩
    · rw [states_of_stops hlast hm]
      decide

/-- The waiter of a static-key client blocks before the session is opened, and is woken by
the signal of `setCurrentSession`. -/
def wokenWaiter : List LifecycleEvent :=
  [.waitReady, .check 0, .start true, .supervise .proceed, .supervise .readSuspended,
    .supervise .openSession, .supervise .startReady, .check 0]

theorem waiter_returns_wokenWaiter :
    ∃ run : Run (clientLifecycle .staticKey), FairRun run ∧ run.Meets SignalsWaiters ∧
      (run.states 2).waiters = [.blocked 0] ∧
      ¬ ∀ m, 2 ≤ m → (∃ channel, (run.states m).waiters[0]? = some (.blocked channel)) ∧
        (run.states m).Decided := by
  have hlast : stateAfter (clientLifecycle .staticKey) { mode := .staticKey } wokenWaiter 8 =
      { mode := .staticKey, started := true, currentSession := some 0
        sessions := [{ ready := true }], stateChanged := 1, supervisor := .established 0
        waiters := [.returned .ready] } := by decide
  let run := stoppingRun (clientLifecycle .staticKey) { mode := .staticKey } wokenWaiter rfl
    (by decide)
  have hfair : FairRun run := by
    refine fairRun_of_stops hlast rfl ?_ rfl ?_ (by decide)
    · simp [MustMove, Announcing]
    · rintro session ⟨⟨⟩, hclosed, -⟩
      cases hclosed
  have hcondition : run.Meets SignalsWaiters := meets_stoppingRun (by decide)
  exact ⟨run, hfair, hcondition, by decide, waiter_returns .staticKey run hfair hcondition 0 2⟩

end ClientLifecycle

end SingOpenVPN
