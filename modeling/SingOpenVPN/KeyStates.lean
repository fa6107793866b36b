import Mathlib.Data.List.AList
import SingOpenVPN.DataKeys
import SingOpenVPN.TransitionSystem

/-!
# The key-state machine (`renegotiation.go`)

A soft reset creates a key state: a negotiation with its own session manager and
control channel, tracked by its key id in `renegotiations` and registered for
routing in the control channel of the session.  When the negotiation completes,
the key state takes over sending unless a newer one already has; the key state it
replaces lives on as a lame duck.

Key states are objects shared by the table, the goroutine that negotiates and the
timers, so they are kept in a heap under their sequence, also after they have left
the table.  `softResetAccess` makes each operation atomic; what happens between
two of its critical sections is a step of its own.  The sequence is a `uint64`
that counts soft resets and is taken as a number.

Not modelled: waking readers of the control stream, the timers themselves (an
expiry may run at any moment), observers, and closing the channels that left the
table.
-/

namespace SingOpenVPN

open TransitionSystem

/-! ### Key states -/

inductive RenegotiationStatus where
  | negotiating
  | awaitingData
  | active
  | lameDuck
  | failed
deriving DecidableEq, Repr

inductive SoftResetError where
  /-- `net.ErrClosed` -/
  | closed
  /-- `tls mode: invalid soft-reset key-id: ` -/
  | invalidKeyID (keyID : UInt8)
  /-- `tls mode: duplicate soft-reset key-id: ` -/
  | duplicateKeyID (keyID : UInt8)
  /-- `tls mode: renegotiation completed without a data codec` -/
  | withoutCodec
  /-- an error of the negotiation itself -/
  | negotiation (message : String)
deriving DecidableEq

/-- `tlsRenegotiationState`.  `finished` says that `finishOnce` has run, after which
    `done` is closed. -/
structure RenegotiationState where
  keyID : UInt8
  sequence : Nat
  initiator : Bool
  mustNegotiate : Time
  sessionManager : ObjectID
  channel : ObjectID
  finished : Bool
  status : RenegotiationStatus
  resultErr : Option SoftResetError
  expiresAt : Option Time
  peerDataConfirmed : Bool
deriving DecidableEq

structure PrimaryControlStream where
  channel : Option ObjectID
  sequence : Nat
  handover : Nat
  installed : Bool
deriving DecidableEq

namespace PrimaryControlStream

def install (stream : PrimaryControlStream) (channel : ObjectID) (sequence : Nat) :
    PrimaryControlStream :=
  if stream.installed ∧ sequence < stream.sequence then stream
  else {
    channel := some channel
    sequence := sequence
    handover := if stream.handover ≤ sequence then 0 else stream.handover
    installed := true }

def beginHandover (stream : PrimaryControlStream) (sequence : Nat) : PrimaryControlStream :=
  if sequence ≤ stream.sequence ∨ sequence ≤ stream.handover then stream
  else { stream with handover := sequence }

def abortHandover (stream : PrimaryControlStream) (sequence : Nat) : PrimaryControlStream :=
  if stream.handover ≠ sequence then stream else { stream with handover := 0 }

end PrimaryControlStream

/-! ### The session -/

inductive TLSRole where
  | client
  | server
deriving DecidableEq, Repr

abbrev KeyIDTable := AList fun _ : UInt8 => Nat

/-- The part of `tlsPeerSession` that soft resets work on.

    `localResets` holds the callers of `beginLocalSoftReset` that found no pending
    negotiation, with the key id they then chose; `failing` holds the key states
    `failAllRenegotiations` has removed and not finished yet.  `promotions` is the
    history of promoted sequences, newest first, and `shutDown` says that
    `failAllRenegotiations` has run. -/
structure KeySession where
  role : TLSRole
  handshakeWindow : Duration
  keys : DataKeys
  sessionManagers : Nat → Option SessionManager
  controlStream : PrimaryControlStream
  renegotiationChannels : KeyIDTable
  states : Nat → Option RenegotiationState
  renegotiations : KeyIDTable
  renegotiationsClosed : Bool
  renegotiationSequence : Nat
  promotedKeyStateSequence : Nat
  localResets : List (Option UInt8)
  failing : List Nat
  promotions : List Nat
  shutDown : Bool

/-- A session after its first handshake on `sessionManager`, before its data key. -/
def newKeySession (role : TLSRole) (handshakeWindow : Duration) (sessionManager : SessionManager) :
    KeySession where
  role := role
  handshakeWindow := handshakeWindow
  keys := .empty
  sessionManagers := Function.update (fun _ => none) 0 (some sessionManager)
  controlStream := ⟨some 0, 0, 0, true⟩
  renegotiationChannels := ∅
  states := fun _ => none
  renegotiations := ∅
  renegotiationsClosed := false
  renegotiationSequence := 0
  promotedKeyStateSequence := 0
  localResets := []
  failing := []
  promotions := []
  shutDown := false

variable (s : KeySession)

namespace KeySession

def modifyState (id : Nat)
    (change : RenegotiationState → RenegotiationState) : KeySession :=
  { s with states := Function.update s.states id ((s.states id).map change) }

def status (id : Nat) : Option RenegotiationStatus :=
  (s.states id).map RenegotiationState.status

def tracked : List Nat := s.renegotiations.entries.map Sigma.snd

/-! ### Removing key states -/

/-- `removeRenegotiationLocked`; `unregisterRenegotiationChannel` leaves the channel
    of another key state alone. -/
def removeRenegotiationLocked (id : Nat) : KeySession :=
  match s.states id with
  | none => s
  | some state =>
    if s.renegotiations.lookup state.keyID ≠ some id then s
    else { s with
      renegotiations := s.renegotiations.erase state.keyID
      renegotiationChannels :=
        if s.renegotiationChannels.lookup state.keyID = some state.channel then
          s.renegotiationChannels.erase state.keyID
        else s.renegotiationChannels
      keys := s.keys.discardDataKeyState state.keyID state.sequence }

/-- `retiring` and its time in `pruneRenegotiationsLocked` and `expireKeyState`. -/
def retiring (state : RenegotiationState) : Bool :=
  state.status = .lameDuck ∨ state.status = .awaitingData

def retired (state : RenegotiationState) (now : Time) : Bool :=
  retiring state ∧ (∀ expiresAt ∈ state.expiresAt, expiresAt ≤ now)

/-- The key states that the first loop of `pruneRenegotiationsLocked` removes. -/
def pruneExpired (now : Time) : List Nat :=
  s.tracked.filter fun id => (s.states id).any fun state => retired state now

/-- The key states it collects, oldest first. -/
def pruneCompleted (now : Time) : List Nat :=
  (s.tracked.filter fun id => (s.states id).any fun state =>
    ¬ retired state now ∧ (state.status = .active ∨ retiring state)).insertionSort (· ≤ ·)

def pruneRenegotiationsLocked (now : Time) : KeySession :=
  let completed := s.pruneCompleted now
  let pruned := s.pruneExpired now ++ completed.take (completed.length - tlsKeyScanSize)
  pruned.foldl removeRenegotiationLocked s

/-! ### Beginning a soft reset -/

def newState (keyID : UInt8) (initiator : Bool) (now : Time) : RenegotiationState where
  keyID := keyID
  sequence := s.renegotiationSequence + 1
  initiator := initiator
  mustNegotiate := now + s.handshakeWindow
  sessionManager := s.renegotiationSequence + 1
  channel := s.renegotiationSequence + 1
  finished := false
  status := .negotiating
  resultErr := none
  expiresAt := none
  peerDataConfirmed := false

/-- `beginSoftReset` once the key id is known to be free. -/
def createState (keyID : UInt8) (initiator : Bool) (now : Time) :
    Except SoftResetError (Nat × Bool) × KeySession :=
  let id := s.renegotiationSequence + 1
  let created := { s with
    renegotiationSequence := id
    states := Function.update s.states id (some (s.newState keyID initiator now))
    sessionManagers := Function.update s.sessionManagers id
      ((s.sessionManagers 0).map fun manager => manager.newRenegotiationSessionManager keyID) }
  if (s.renegotiationChannels.lookup keyID).isSome then (.error (.duplicateKeyID keyID), created)
  else
    (.ok (id, true), { created with
      renegotiationChannels := s.renegotiationChannels.insert keyID id
      renegotiations := s.renegotiations.insert keyID id
      controlStream := s.controlStream.beginHandover id })

/-- `beginSoftReset`: the key state of the key id and whether it was created. -/
def beginSoftReset (keyID : UInt8) (initiator : Bool) (now : Time) :
    Except SoftResetError (Nat × Bool) × KeySession :=
  if keyID = 0 ∨ keyIDMaxValue < keyID then (.error (.invalidKeyID keyID), s)
  else if s.renegotiationsClosed then (.error .closed, s)
  else
    match s.renegotiations.lookup keyID with
    | none => s.createState keyID initiator now
    | some existing =>
      if s.status existing = some .negotiating ∨ s.status existing = some .awaitingData ∨
          s.keys.sendKeyID = keyID then
        (.ok (existing, false), s)
      else (s.removeRenegotiationLocked existing).createState keyID initiator now

/-- The first half of `beginLocalSoftReset`: the newest negotiation that is pending. -/
def newestPending : Option Nat :=
  (s.tracked.filter fun id =>
    s.status id = some .negotiating ∨ s.status id = some .awaitingData).max?

/-! ### Completion -/

def lameDuck (now : Time) (state : RenegotiationState) : RenegotiationState :=
  { state with status := .lameDuck, expiresAt := some (now + tlsTransitionWindow) }

def makeLameDuckLocked (id : Nat) (now : Time) : KeySession :=
  s.modifyState id (lameDuck now)

/-- The body of the loop of `promoteKeyStateLocked`. -/
def retireIfActive (now : Time) (s : KeySession) (other : Nat) : KeySession :=
  if s.status other = some .active then s.makeLameDuckLocked other now else s

/-- The loop of `promoteKeyStateLocked` over the other key states. -/
def retireOthers (id : Nat) (now : Time) : KeySession :=
  (s.tracked.filter fun other => other ≠ id).foldl (retireIfActive now) s

/-- `promoteKeyStateLocked` on a key state with content `state`; `now` is its own
    reading of the clock and `installNow` the one of `installDataKeyState`. -/
def promoteKeyStateLocked (id : Nat) (state : RenegotiationState)
    (codec : ObjectID) (now installNow : Time) : Bool × KeySession :=
  if id ≤ s.promotedKeyStateSequence then
    let s := s.makeLameDuckLocked id now
    (false, { s with
      keys := s.keys.installDataKeyState codec state.keyID state.sessionManager id false installNow
      controlStream := s.controlStream.abortHandover id })
  else
    let s := (s.retireOthers id now).modifyState id fun state => { state with status := .active }
    (true, { s with
      promotedKeyStateSequence := id
      keys := s.keys.installDataKeyState codec state.keyID state.sessionManager id true installNow
      controlStream := s.controlStream.install state.channel id
      promotions := id :: s.promotions })

/-- The branch of `finishSoftReset` for a key state that failed or was replaced. -/
def failSoftReset (id : Nat) (state : RenegotiationState)
    (err : SoftResetError) : KeySession :=
  let current := s.renegotiations.lookup state.keyID
  let s := { s with
    keys := s.keys.discardDataKeyState state.keyID state.sequence
    controlStream := s.controlStream.abortHandover state.sequence }
  let s := s.modifyState id fun state =>
    { state with status := .failed, resultErr := some err, finished := true }
  if current = some id then s.removeRenegotiationLocked id else s

/-- The branch for a key state that completed. -/
def completeSoftReset (id : Nat) (state : RenegotiationState)
    (codec : ObjectID) (now installNow pruneNow : Time) : Bool × KeySession :=
  let (promoted, s) := s.promoteKeyStateLocked id state codec now installNow
  let s := s.modifyState id fun state => { state with resultErr := none, finished := true }
  (promoted, s.pruneRenegotiationsLocked pruneNow)

/-- `finishSoftReset`: whether the key state was promoted. -/
def finishSoftReset (id : Nat) (codec : Option ObjectID)
    (err : Option SoftResetError) (now installNow pruneNow : Time) : Bool × KeySession :=
  match s.states id with
  | none => (false, s)
  | some state =>
    if state.finished then (false, s)
    else
      match err, codec with
      | some err, _ => (false, s.failSoftReset id state err)
      | none, none => (false, s.failSoftReset id state .withoutCodec)
      | none, some codec =>
        if s.renegotiations.lookup state.keyID ≠ some id then
          (false, s.failSoftReset id state .closed)
        else s.completeSoftReset id state codec now installNow pruneNow

/-! ### The other operations -/

def stageNegotiatedReceiveKey (keyID : UInt8) (codec : ObjectID) (now : Time) :
    Bool × KeySession :=
  match (s.renegotiations.lookup keyID).bind s.states with
  | none => (false, s)
  | some state =>
    if state.status ≠ .negotiating then (false, s)
    else (true, { s with
      keys := s.keys.installDataKeyState codec keyID state.sessionManager state.sequence false
        now })

def confirmDataKey (keyID : UInt8) (now installNow pruneNow : Time) :
    Bool × KeySession :=
  if s.role ≠ .server then (false, s)
  else
    match s.renegotiations.lookup keyID with
    | none => (false, s)
    | some id =>
      match s.states id with
      | none => (false, s)
      | some state =>
        match state.status with
        | .negotiating =>
          (false, s.modifyState id fun state => { state with peerDataConfirmed := true })
        | .awaitingData =>
          let s := s.modifyState id fun state => { state with peerDataConfirmed := true }
          match s.keys.receiveDataCodec keyID state.sequence with
          | none => (false, s)
          | some codec =>
            let (promoted, s) := s.promoteKeyStateLocked id state codec now installNow
            (promoted, s.pruneRenegotiationsLocked pruneNow)
        | _ => (false, s)

def expireKeyState (id : Nat) (now : Time) : KeySession :=
  match s.states id with
  | none => s
  | some state =>
    if s.renegotiations.lookup state.keyID ≠ some id then s
    else if retired state now then s.removeRenegotiationLocked id
    else s

/-- The body of the first loop of `failAllRenegotiations`. -/
def drainKeyState (id : Nat) : KeySession :=
  let s := s.removeRenegotiationLocked id
  { s with controlStream := s.controlStream.abortHandover id }

/-- The critical section of `failAllRenegotiations`. -/
def failAllRenegotiations : KeySession :=
  { s.tracked.foldl drainKeyState s with
    renegotiationsClosed := true
    failing := s.failing ++ s.tracked
    shutDown := true }

/-- The body of its second loop, after the lock is released. -/
def failState (id : Nat) : KeySession :=
  match s.states id with
  | none => s
  | some state =>
    if state.finished then s
    else s.modifyState id fun state =>
      { state with status := .failed, resultErr := some .closed, finished := true }

end KeySession

/-! ### Runs of a session -/

/-- What can happen to a session.  The readings of the clock are part of an event. -/
inductive KeyEvent where
  /-- the handshake installs the data key -/
  | installInitial
  /-- `beginLocalSoftReset` looks for a pending negotiation -/
  | localScan
  /-- a caller of it reads the send key id -/
  | localChoose (index : Nat)
  /-- a caller of it calls `beginSoftReset` -/
  | localBegin (index : Nat) (now : Time)
  /-- a soft reset packet of the peer -/
  | remoteBegin (keyID : UInt8) (now : Time)
  /-- the negotiation of a server stages its receive key -/
  | stage (id : Nat) (now : Time)
  /-- a negotiation returns, with or without a codec, with or without an error -/
  | finish (id : Nat) (hasCodec : Bool) (err : Option SoftResetError)
      (now installNow pruneNow : Time)
  /-- a data packet authenticated under a key -/
  | confirm (keyID : UInt8) (now installNow pruneNow : Time)
  /-- the timer of a key state fires -/
  | expire (id : Nat) (now : Time)
  /-- a receive key is looked up -/
  | select (keyID : UInt8) (now : Time)
  | markClosing
  | failAll
  /-- `failAllRenegotiations` finishes one of the key states it removed -/
  | failNext
deriving DecidableEq

namespace KeySession

/-- One step.  The codec a negotiation creates carries its sequence; key id and
    session manager of the initial key are those of the first handshake. -/
def step : KeyEvent → Option KeySession
  | .installInitial =>
    match s.keys.sendCodec, s.sessionManagers 0 with
    | none, some manager =>
      some { s with keys := DataKeys.installInitialDataCodec 0 manager.keyID 0 }
    | _, _ => none
  | .localScan =>
    if s.keys.sendCodec.isSome ∧ s.newestPending = none then
      some { s with localResets := s.localResets ++ [none] }
    else none
  | .localChoose index =>
    if s.localResets[index]? = some none then
      some { s with localResets := s.localResets.set index (some (nextKeyID s.keys.sendKeyID)) }
    else none
  | .localBegin index now =>
    match s.localResets[index]? with
    | some (some keyID) =>
      some ({ s with localResets := s.localResets.eraseIdx index }.beginSoftReset keyID true now).2
    | _ => none
  | .remoteBegin keyID now =>
    if s.keys.sendCodec.isSome then some (s.beginSoftReset keyID false now).2 else none
  | .stage id now =>
    match s.states id with
    | some state =>
      if s.role = .server ∧ state.finished = false then
        some (s.stageNegotiatedReceiveKey state.keyID id now).2
      else none
    | none => none
  | .finish id hasCodec err now installNow pruneNow =>
    if (s.states id).isSome then
      some (s.finishSoftReset id (if hasCodec then some id else none) err now installNow pruneNow).2
    else none
  | .confirm keyID now installNow pruneNow =>
    some (s.confirmDataKey keyID now installNow pruneNow).2
  | .expire id now => some (s.expireKeyState id now)
  | .select keyID now => some { s with keys := (s.keys.selectReceiveCodec keyID now).2 }
  | .markClosing => some { s with renegotiationsClosed := true }
  | .failAll => some s.failAllRenegotiations
  | .failNext =>
    match s.failing with
    | [] => none
    | id :: rest => some ({ s with failing := rest }.failState id)

/-- The key state that a step promotes, with its key id: what `onRenegotiated` is called
    with once the lock is released. -/
def promotion : KeyEvent → Option (Nat × UInt8)
  | .finish id hasCodec err now installNow pruneNow =>
    match s.states id with
    | none => none
    | some state =>
      if (s.finishSoftReset id (if hasCodec then some id else none)
        err now installNow pruneNow).1 then
        some (id, state.keyID)
      else none
  | .confirm keyID now installNow pruneNow =>
    if (s.confirmDataKey keyID now installNow pruneNow).1 then
      (s.renegotiations.lookup keyID).map fun id => (id, keyID)
    else none
  | _ => none

end KeySession

/-- A session of either role, from the end of its first handshake on. -/
def keySystem : System KeySession KeyEvent where
  initial s := ∃ role handshakeWindow sessionManager,
    sessionManager.keyID = 0 ∧ s = newKeySession role handshakeWindow sessionManager
  step := KeySession.step

/-- A server session whose ids are all zero, for runs that can be evaluated. -/
def zeroServerSession : KeySession :=
  newKeySession .server 0 (newSessionManagerWithLocalID unsetSessionID)

theorem keySystem_initial_zeroServerSession : keySystem.initial zeroServerSession :=
  ⟨.server, 0, newSessionManagerWithLocalID unsetSessionID, rfl, rfl⟩

end SingOpenVPN
