import SingOpenVPN.TransitionSystem

/-!
# The life of a client (`client.go`, `client_supervisor.go`)

A client has one supervisor goroutine, which opens one session after another, and any
number of callers: `Start`, `Close`, `Suspend`, `Resume`, `RestartSession` and
`WaitReady`.  The goroutines share the state under a mutex; a step here is one critical
section.

Waiters are woken by a channel.  `signalStateChanged` closes the current channel and
makes a new one, so the channels are numbered and `stateChanged` is the number of the
current one; all smaller ones are closed.  `Suspend` makes a channel that `Resume`
closes; these are numbered too, and the first `resumes` of them are closed.

A TLS session becomes ready by `setReady`, which sets the flag under the session's lock
and signals in a second critical section; between the two the supervisor is
`announcing`.  A static-key session sets the flag itself in `Start`, and does not signal.
A session that ends calls `setReady(false)`; `signals` counts the goroutines that have
set the flag and have their signal before them.
-/

namespace SingOpenVPN

open TransitionSystem

inductive ClientMode where
  | tls
  | staticKey
deriving DecidableEq

/-- What the client reads of a session: `ready`, the static-key session's `closed`, and
whether its `done` channel has a result. -/
structure ClientSession where
  ready : Bool := false
  closed : Bool := false
  finished : Bool := false
deriving DecidableEq

inductive SupervisorPhase where
  /-- `Start` was not called. -/
  | idle
  /-- At the head of its loop. -/
  | waiting
  /-- In `waitResumed`, before it reads whether the client is suspended. -/
  | resuming
  /-- In the `select` of `waitResumed`, with the channel it has read. -/
  | paused (channel : Nat)
  /-- Getting credentials and connecting. -/
  | dialing
  /-- In the session's `Start`. -/
  | starting (session : Nat)
  /-- In `setReady(true)` of a TLS session, between the flag and the signal. -/
  | announcing (session : Nat)
  /-- Waiting for the session's `Done`. -/
  | established (session : Nat)
  /-- Before the session's `Close`. -/
  | closing (session : Nat)
  /-- Before `clearCurrentSession`. -/
  | clearing (session : Nat)
  /-- Behind a session, with its error to classify. -/
  | deciding
  /-- Behind the loop, before `closeSupervisorReadableState`. -/
  | returning
  | done
deriving DecidableEq

inductive WaitReadyResult where
  | ready
  | clientClosed
  | failed (terminalError : String)
  | contextDone
deriving DecidableEq

inductive WaiterPhase where
  /-- Before it reads the state. -/
  | checking
  /-- In its `select`, with the channel it has read. -/
  | blocked (channel : Nat)
  | returned (result : WaitReadyResult)
deriving DecidableEq

structure ClientLifecycle where
  mode : ClientMode
  started : Bool := false
  closed : Bool := false
  suspended : Bool := false
  resumes : Nat := 0
  /-- The supervisor's context is done. -/
  canceled : Bool := false
  terminalError : Option String := none
  currentSession : Option Nat := none
  /-- The sessions that calls of `Close` have taken away and not closed yet. -/
  closeCalls : List Nat := []
  sessions : List ClientSession := []
  stateChanged : Nat := 0
  signals : Nat := 0
  supervisor : SupervisorPhase := .idle
  waiters : List WaiterPhase := []
deriving DecidableEq

inductive SupervisorStep where
  | proceed
  | readSuspended
  | resumed
  | waitCanceled
  | sessionRefused
  | initializeFailed
  | openSession
  | startReady
  | startFailed
  | announce
  | sessionDone
  | closeSession
  | clearSession
  | retry
  | fail (err : String)
  | leave
  | closeReadableState
deriving DecidableEq

inductive LifecycleEvent where
  | start (materialLoads : Bool)
  | close
  /-- `Close`, behind its critical section, closes the session it has taken away. -/
  | callClose (session : Nat)
  | suspend
  | resume
  | cancelContext
  /-- Some goroutine finishes a session: `Fail` or one of the session's loops. -/
  | finishSession (session : Nat)
  /-- Some goroutine calls a session's `Close`. -/
  | endSession (session : Nat)
  /-- A goroutine behind a flag it has cleared calls `signalStateChanged`. -/
  | signal
  | supervise (step : SupervisorStep)
  | waitReady
  | check (waiter : Nat)
  | waiterContextDone (waiter : Nat)
deriving DecidableEq

namespace ClientLifecycle

section State

variable (c : ClientLifecycle)

def signalStateChanged : ClientLifecycle := { c with stateChanged := c.stateChanged + 1 }

def sessionAt (session : Nat) : ClientSession := c.sessions.getD session {}

def sessionReady : Bool := c.currentSession.any fun session => (c.sessionAt session).ready

def ready : Bool := !c.closed && c.terminalError.isNone && c.sessionReady

def setSession (session : Nat) (state : ClientSession) : ClientLifecycle :=
  { c with sessions := c.sessions.set session state }

/-- `finish`: `setReady(false)` up to its signal, and the result. -/
def finishSession (session : Nat) : ClientLifecycle :=
  { c.setSession session { c.sessionAt session with ready := false, finished := true } with
    signals := c.signals + 1 }

/-- The session's `Close`: a TLS session finishes, a static-key session clears its flag
without a signal. -/
def endSession (session : Nat) : ClientLifecycle :=
  match c.mode with
  | .tls => c.finishSession session
  | .staticKey =>
      c.setSession session { c.sessionAt session with ready := false, closed := true }

/-! ### The callers -/

def start (materialLoads : Bool) : ClientLifecycle :=
  if c.started || c.closed || !materialLoads then c
  else { c with started := true, supervisor := .waiting }

/-- The critical section of `Close`, which takes the current session away. -/
def close : ClientLifecycle :=
  { c with
    closed := true, canceled := c.canceled || c.started, currentSession := none
    closeCalls := c.currentSession.toList ++ c.closeCalls }

def suspend : ClientLifecycle :=
  if c.suspended || c.closed then c else { c with suspended := true }

def resume : ClientLifecycle :=
  if c.suspended then { c with suspended := false, resumes := c.resumes + 1 } else c

/-- What `WaitReady` does with the state it has read. -/
def checkedPhase : WaiterPhase :=
  match c.terminalError with
  | some err => .returned (.failed err)
  | none =>
      if c.closed then .returned .clientClosed
      else if c.sessionReady then .returned .ready
      else .blocked c.stateChanged

/-- A waiter runs if it has not read the state yet or its channel was closed. -/
def waiterRuns : WaiterPhase → Bool
  | .checking => true
  | .blocked channel => channel < c.stateChanged
  | .returned _ => false

/-! ### The supervisor -/

def nextSession : Nat := c.sessions.length

def makeSession : ClientLifecycle := { c with sessions := c.sessions ++ [{}] }

/-- `ctx.Err() != nil || c.isClosed()` -/
def stopped : Bool := c.canceled || c.closed

/-- `setTerminalError`, and the end of the loop. -/
def setTerminalError (err : String) : ClientLifecycle :=
  { c.signalStateChanged with terminalError := some err, supervisor := .returning }

/-- `setCurrentSession`, and the session's `Close` if it refuses. -/
def setCurrentSession (session : Nat) : ClientLifecycle :=
  if c.stopped then { c.endSession session with supervisor := .returning }
  else
    { c.signalStateChanged with
      currentSession := some session, supervisor := .starting session }

def clearCurrentSession (session : Nat) : ClientLifecycle :=
  { c.signalStateChanged with
    currentSession := if c.currentSession = some session then none else c.currentSession
    supervisor := .deciding }

def closeSupervisorReadableState : ClientLifecycle :=
  let closing := !c.closed && c.terminalError.isNone
  { c.signalStateChanged with
    closed := c.closed || closing
    currentSession := if closing then none else c.currentSession
    supervisor := .done }

/-- The part of the session's `Start` that makes it ready. -/
def startReady (session : Nat) : Option ClientLifecycle :=
  let state := c.sessionAt session
  match c.mode with
  | .tls =>
      some { c.setSession session { state with ready := true } with
        supervisor := .announcing session }
  | .staticKey =>
      if state.closed || c.canceled then none
      else some { c.setSession session { state with ready := true } with
        supervisor := .established session }

def supervise : SupervisorStep → Option ClientLifecycle
  | .proceed =>
      if c.supervisor = .waiting then
        if c.stopped then some { c with supervisor := .returning }
        else some { c with supervisor := .resuming }
      else none
  | .readSuspended =>
      if c.supervisor = .resuming then
        if c.suspended then some { c with supervisor := .paused c.resumes }
        else some { c with supervisor := .dialing }
      else none
  | .resumed =>
      match c.supervisor with
      | .paused channel =>
          if channel < c.resumes then some { c with supervisor := .dialing } else none
      | _ => none
  | .waitCanceled =>
      match c.supervisor with
      | .paused _ => if c.canceled then some { c with supervisor := .returning } else none
      | _ => none
  | .sessionRefused =>
      if c.supervisor = .dialing then some { c with supervisor := .deciding } else none
  | .initializeFailed =>
      if c.supervisor = .dialing then
        some { c.makeSession with supervisor := .closing c.nextSession }
      else none
  | .openSession =>
      if c.supervisor = .dialing then some (c.makeSession.setCurrentSession c.nextSession) else none
  | .startReady =>
      match c.supervisor with
      | .starting session => c.startReady session
      | _ => none
  | .startFailed =>
      match c.supervisor with
      | .starting session => some { c with supervisor := .closing session }
      | _ => none
  | .announce =>
      match c.supervisor with
      | .announcing session => some { c.signalStateChanged with supervisor := .established session }
      | _ => none
  | .sessionDone =>
      match c.supervisor with
      | .established session =>
          if (c.sessionAt session).finished then some { c with supervisor := .closing session }
          else none
      | _ => none
  | .closeSession =>
      match c.supervisor with
      | .closing session => some { c.endSession session with supervisor := .clearing session }
      | _ => none
  | .clearSession =>
      match c.supervisor with
      | .clearing session => some (c.clearCurrentSession session)
      | _ => none
  | .retry =>
      if c.supervisor = .deciding then
        if c.stopped then some { c with supervisor := .returning }
        else some { c with supervisor := .waiting }
      else none
  | .fail err =>
      if c.supervisor = .dialing ∨ c.supervisor = .deciding then some (c.setTerminalError err)
      else none
  | .leave =>
      if c.supervisor = .deciding ∨ (c.supervisor = .dialing ∧ c.stopped) then
        some { c with supervisor := .returning }
      else none
  | .closeReadableState =>
      if c.supervisor = .returning then some c.closeSupervisorReadableState else none

def step : LifecycleEvent → Option ClientLifecycle
  | .start materialLoads => some (c.start materialLoads)
  | .close => some c.close
  | .callClose session =>
      if session ∈ c.closeCalls then
        some { c.endSession session with closeCalls := c.closeCalls.erase session }
      else none
  | .suspend => some c.suspend
  | .resume => some c.resume
  | .cancelContext => some { c with canceled := true }
  | .finishSession session =>
      if session < c.sessions.length then some (c.finishSession session) else none
  | .endSession session =>
      if session < c.sessions.length then some (c.endSession session) else none
  | .signal =>
      if 0 < c.signals then some { c.signalStateChanged with signals := c.signals - 1 } else none
  | .supervise step => c.supervise step
  | .waitReady => some { c with waiters := c.waiters ++ [.checking] }
  | .check waiter =>
      match c.waiters[waiter]? with
      | some phase =>
          if c.waiterRuns phase then some { c with waiters := c.waiters.set waiter c.checkedPhase }
          else none
      | none => none
  | .waiterContextDone waiter =>
      match c.waiters[waiter]? with
      | some (.blocked _) =>
          some { c with waiters := c.waiters.set waiter (.returned .contextDone) }
      | _ => none

end State

end ClientLifecycle

def clientLifecycle (mode : ClientMode) : System ClientLifecycle LifecycleEvent where
  initial c := c = { mode }
  step := ClientLifecycle.step

end SingOpenVPN
