import SingOpenVPN.KeyStateInvariant

/-!
# Writing data packets (`peer_data.go`)

A packet id is the nonce of a data packet, so a codec must never see one twice.
`writeDataPacketsLocked` and `writeDataPacketBuffersLocked` take the codec and the
session manager of the send key together, draw a block of ids from that manager,
and encode.  `dataWriteAccess` lets one caller in at a time; rekeys go on between
any two of its steps.

What the outgoing hook makes of the payloads is arbitrary here: the list it returns
is part of the event.  The requests put to the codecs are recorded, and so is what
the calls returned.
-/

namespace SingOpenVPN

open TransitionSystem List Function

/-! ### Writers -/

structure EncodeRequest where
  codec : ObjectID
  packetID : PacketID
  aadPrefix : Bytes
  payload : Bytes
deriving DecidableEq

def EncodeRequest.nonce (request : EncodeRequest) : Nat × Nat :=
  (request.codec, request.packetID.toNat)

/-- `WriteDataPackets` or `WriteDataPacketBuffers`. -/
inductive WriteKind where
  | packets
  | buffers
deriving DecidableEq, Repr

inductive WriteError where
  /-- `ErrDataChannelNotReady` -/
  | dataChannelNotReady
  | packetIDs (err : SessionError)
  | encode
  | link
deriving DecidableEq, Repr

/-- Where the caller that holds `dataWriteAccess` is. -/
inductive Writer where
  /-- it has entered -/
  | locked (kind : WriteKind) (payloads : List Bytes)
  /-- it has read the send key -/
  | keyed (kind : WriteKind) (codec : Nat) (keyID : UInt8) (manager : Nat)
  /-- it has read the peer id -/
  | addressed (kind : WriteKind) (codec manager : Nat) (opcode : Opcode) (aadPrefix : Bytes)
  /-- it has its packet ids and encodes -/
  | encoding (kind : WriteKind) (codec : Nat) (aadPrefix : Bytes)
    (pending : List (PacketID × Bytes))
  /-- an encode failed and what was encoded before is to be written -/
  | broken
deriving DecidableEq

/-- The additional data of a packet: header byte and peer id under `DATA_V2`. -/
def aadPrefixFor (keyID : UInt8) : Option UInt32 → Bytes
  | none => []
  | some peerID =>
    let encodedPeerID := peerID &&& 0x00ffffff
    [(Opcode.dataV2.code <<< 3) ||| (keyID &&& 0x07), (encodedPeerID >>> 16).toUInt8,
      (encodedPeerID >>> 8).toUInt8, encodedPeerID.toUInt8]

def outgoingOpcode (peerID : Option UInt32) : Opcode :=
  if peerID.isSome then .dataV2 else .dataV1

/-- A session and the callers that write to it.  `requests` and `results` are
    histories, newest first. -/
structure DataChannel where
  session : KeySession
  peerID : Option UInt32
  writer : Option Writer
  requests : List EncodeRequest
  results : List (Option WriteError)

inductive DataEvent where
  | key (event : KeyEvent)
  | setPeerID (peerID : Option UInt32)
  /-- a caller gets `dataWriteAccess` -/
  | lock (kind : WriteKind) (payloads : List Bytes)
  /-- `currentSendKeyState` -/
  | readKey
  /-- `currentPeerID` -/
  | readPeerID
  /-- the hook returns and the packet ids are drawn -/
  | allocate (prepared : List (List Bytes))
  /-- the next packet is encoded -/
  | encode (failed : Bool)
  /-- the link takes the packets -/
  | write (failed : Bool)
deriving DecidableEq

namespace DataChannel

def returns (c : DataChannel) (result : Option WriteError) : DataChannel :=
  { c with writer := none, results := result :: c.results }

/-- One step.  Empty payloads are dropped before anything else happens; a failed encode
    ends the buffer variant at once, while the other one still writes what it has. -/
def step (c : DataChannel) : DataEvent → Option DataChannel
  | .key event => (c.session.step event).map fun session => { c with session := session }
  | .setPeerID peerID => some { c with peerID := peerID }
  | .lock kind payloads =>
    if c.writer = none ∧ payloads ≠ [] then some { c with writer := some (.locked kind payloads) }
    else none
  | .readKey =>
    match c.writer with
    | some (.locked kind payloads) =>
      if (payloads.filter fun payload => 0 < payload.length) = [] then some (c.returns none)
      else
        match c.session.keys.sendCodec with
        | none => some (c.returns (some .dataChannelNotReady))
        | some codec => some { c with writer := some (.keyed kind codec c.session.keys.sendKeyID
            (c.session.keys.sendSessionManager.getD 0)) }
    | _ => none
  | .readPeerID =>
    match c.writer with
    | some (.keyed kind codec keyID manager) =>
      some { c with writer := some (.addressed kind codec manager (outgoingOpcode c.peerID)
        (aadPrefixFor keyID c.peerID)) }
    | _ => none
  | .allocate prepared =>
    match c.writer with
    | some (.addressed kind codec manager opcode aadPrefix) =>
      if prepared.flatten.length = 0 then some (c.returns none)
      else
        match c.session.sessionManagers manager with
        | none => none
        | some sessionManager =>
          match sessionManager.newDataPacketIDs opcode prepared.flatten.length with
          | .error err => some (c.returns (some (.packetIDs err)))
          | .ok (dataPacketIDs, sessionManager) =>
            some { c with
              session := { c.session with
                sessionManagers :=
                  Function.update c.session.sessionManagers manager (some sessionManager) }
              writer := some (.encoding kind codec aadPrefix (dataPacketIDs.zip prepared.flatten)) }
    | _ => none
  | .encode failed =>
    match c.writer with
    | some (.encoding kind codec aadPrefix ((packetID, payload) :: pending)) =>
      let c := { c with requests := ⟨codec, packetID, aadPrefix, payload⟩ :: c.requests }
      if failed then
        match kind with
        | .packets => some { c with writer := some .broken }
        | .buffers => some (c.returns (some .encode))
      else some { c with writer := some (.encoding kind codec aadPrefix pending) }
    | _ => none
  | .write failed =>
    match c.writer with
    | some (.encoding _ _ _ []) => some (c.returns (if failed then some .link else none))
    | some .broken => some (c.returns (some (if failed then .link else .encode)))
    | _ => none

inductive ChannelStep (c : DataChannel) : DataChannel → Prop
  | key {event : KeyEvent} {session : KeySession} : c.session.step event = some session →
      ChannelStep c { c with session := session }
  | setPeerID (peerID : Option UInt32) : ChannelStep c { c with peerID := peerID }
  | lock (kind : WriteKind) (payloads : List Bytes) :
      ChannelStep c { c with writer := some (.locked kind payloads) }
  | returns (result : Option WriteError) : ChannelStep c (c.returns result)
  | readKey (kind : WriteKind) {codec : Nat} : c.session.keys.sendCodec = some codec →
      ChannelStep c { c with writer := some (.keyed kind codec c.session.keys.sendKeyID
        (c.session.keys.sendSessionManager.getD 0)) }
  | readPeerID {kind : WriteKind} {codec : Nat} {keyID : UInt8} {manager : Nat} :
      c.writer = some (.keyed kind codec keyID manager) →
      ChannelStep c { c with writer := some (.addressed kind codec manager
        (outgoingOpcode c.peerID) (aadPrefixFor keyID c.peerID)) }
  | allocate {kind : WriteKind} {codec manager : Nat} {opcode : Opcode} {aadPrefix : Bytes}
      {sessionManager sessionManager' : SessionManager} {payloads : List Bytes}
      {ids : List PacketID} : c.writer = some (.addressed kind codec manager opcode aadPrefix) →
      c.session.sessionManagers manager = some sessionManager → payloads.length ≠ 0 →
      sessionManager.newDataPacketIDs opcode payloads.length = .ok (ids, sessionManager') →
      ChannelStep c { c with
        session := { c.session with
          sessionManagers :=
            Function.update c.session.sessionManagers manager (some sessionManager') }
        writer := some (.encoding kind codec aadPrefix (ids.zip payloads)) }
  /-- The request is made; then the caller goes on, stops encoding or returns. -/
  | encode {kind : WriteKind} {codec : Nat} {aadPrefix : Bytes} {packetID : PacketID}
      {payload : Bytes} {pending : List (PacketID × Bytes)} {c' : DataChannel} :
      c.writer = some (.encoding kind codec aadPrefix ((packetID, payload) :: pending)) →
      (c' = { c with
          requests := ⟨codec, packetID, aadPrefix, payload⟩ :: c.requests
          writer := some (.encoding kind codec aadPrefix pending) } ∨
        c' = { c with
          requests := ⟨codec, packetID, aadPrefix, payload⟩ :: c.requests
          writer := some .broken } ∨
        c' = DataChannel.returns { c with
          requests := ⟨codec, packetID, aadPrefix, payload⟩ :: c.requests } (some .encode)) →
      ChannelStep c c'

theorem channelStep_of_step {c c' : DataChannel} {event : DataEvent}
    (h : c.step event = some c') : c.ChannelStep c' := by
  cases event with
  | key event =>
    obtain ⟨session, hsession, rfl⟩ := Option.map_eq_some_iff.mp h
    exact .key hsession
  | setPeerID peerID =>
    cases h
    exact .setPeerID peerID
  | lock kind payloads =>
    obtain ⟨-, heq⟩ := Option.ite_none_right_eq_some.mp h
    cases heq
    exact .lock kind payloads
  | readKey =>
    simp only [step] at h
    split at h
    · split at h
      · cases h
        exact .returns none
      · split at h
        · cases h
          exact .returns _
        · next kind _ _ codec hcodec =>
          cases h
          exact .readKey _ hcodec
    · cases h
  | readPeerID =>
    simp only [step] at h
    split at h
    · next hwriter =>
      cases h
      exact .readPeerID hwriter
    · cases h
  | allocate prepared =>
    simp only [step] at h
    split at h
    · next hwriter =>
      split at h
      · cases h
        exact .returns none
      · next hcount =>
        split at h
        · cases h
        · next hmanager =>
          split at h
          · cases h
            exact .returns _
          · next hids =>
            cases h
            exact .allocate hwriter hmanager hcount hids
    · cases h
  | encode failed =>
    simp only [step] at h
    split at h
    · next kind codec aadPrefix packetID payload pending hwriter =>
      refine .encode hwriter ?_
      split at h
      · cases kind with
        | packets =>
          cases h
          exact .inr (.inl rfl)
        | buffers =>
          cases h
          exact .inr (.inr rfl)
      · cases h
        exact .inl rfl
    · cases h
  | write failed =>
    simp only [step] at h
    split at h
    · cases h
      exact .returns _
    · cases h
      exact .returns _
    · cases h

end DataChannel

/-- A session whose managers have not given out data packet ids. -/
def dataSystem : System DataChannel DataEvent where
  initial c := ∃ role handshakeWindow sessionManager peerID,
    sessionManager.keyID = 0 ∧ sessionManager.localDataPacketID = 1 ∧
      c = ⟨newKeySession role handshakeWindow sessionManager, peerID, none, [], []⟩
  step := DataChannel.step

/-! ### Nonces in use -/

def Issued (s : KeySession) (nonce : Nat × Nat) : Prop :=
  0 < nonce.2 ∧ ∃ manager, s.sessionManagers nonce.1 = some manager ∧
    nonce.2 < manager.localDataPacketID.toNat

def Writer.nonces : Writer → List (Nat × Nat)
  | .encoding _ codec _ pending => pending.map fun entry => (codec, entry.1.toNat)
  | _ => []

namespace DataChannel

def nonces (c : DataChannel) : List (Nat × Nat) :=
  (c.writer.map Writer.nonces).getD [] ++ c.requests.map EncodeRequest.nonce

/-- The manager a writer draws from belongs to the codec it encodes with. -/
def Paired (s : KeySession) : Writer → Prop
  | .keyed _ codec _ manager => codec = manager ∧ (s.sessionManagers manager).isSome
  | .addressed _ codec manager opcode _ =>
      codec = manager ∧ (s.sessionManagers manager).isSome ∧ opcode.isData = true
  | _ => True

structure NonceInvariant (c : DataChannel) : Prop where
  consistent : c.session.Consistent
  counters : ∀ (id : Nat) manager, c.session.sessionManagers id = some manager →
    0 < manager.localDataPacketID.toNat
  unique : c.nonces.Nodup
  issued : ∀ nonce ∈ c.nonces, Issued c.session nonce
  paired : ∀ writer ∈ c.writer, Paired c.session writer

section Steps

variable {c c' : DataChannel}

theorem NonceInvariant.moveWriter (h : c.NonceInvariant) (writer : Option Writer)
    {results : List (Option WriteError)} (hnonces : (writer.map Writer.nonces).getD [] = [])
    (hpaired : ∀ w ∈ writer, Paired c.session w) :
    NonceInvariant { c with writer := writer, results := results } := by
  have hsublist : ({ c with writer := writer, results := results } : DataChannel).nonces.Sublist
      c.nonces := by
    unfold nonces
    rw [hnonces, nil_append]
    exact sublist_append_right _ _
  exact {
    consistent := h.consistent
    counters := h.counters
    unique := h.unique.sublist hsublist
    issued := fun nonce hnonce => h.issued nonce (hsublist.subset hnonce)
    paired := hpaired }

theorem NonceInvariant.returns (h : c.NonceInvariant) (result : Option WriteError) :
    (c.returns result).NonceInvariant :=
  h.moveWriter none rfl fun _ hnone => by cases hnone

theorem NonceInvariant.keyStep (h : c.NonceInvariant) {event : KeyEvent} {session : KeySession}
    (hstep : c.session.step event = some session) :
    NonceInvariant { c with session := session } := by
  have hkept : ∀ id manager, c.session.sessionManagers id = some manager →
      session.sessionManagers id = some manager := fun _ _ hmanager =>
    h.consistent.sessionManagers_step hstep hmanager
  have hsome : ∀ id : Nat, (c.session.sessionManagers id).isSome →
      (session.sessionManagers id).isSome := by
    intro id hid
    obtain ⟨manager, hmanager⟩ := Option.isSome_iff_exists.mp hid
    rw [hkept id manager hmanager]
    rfl
  obtain ⟨hconsistent, hframe, -⟩ := h.consistent.step hstep
  refine ⟨hconsistent, ?_, h.unique, ?_, ?_⟩
  · intro id manager hmanager
    rcases hframe.managers id manager hmanager with hold | ⟨-, hfresh⟩
    · exact h.counters id manager hold
    · rw [hfresh]
      decide
  · intro nonce hnonce
    obtain ⟨hpos, manager, hmanager, hlt⟩ := h.issued nonce hnonce
    exact ⟨hpos, manager, hkept _ manager hmanager, hlt⟩
  · intro writer hwriter
    have hpaired := h.paired writer hwriter
    cases writer with
    | keyed kind codec keyID manager => exact ⟨hpaired.1, hsome manager hpaired.2⟩
    | addressed kind codec manager opcode aadPrefix =>
      exact ⟨hpaired.1, hsome manager hpaired.2.1, hpaired.2.2⟩
    | locked _ _ | encoding _ _ _ _ | broken => trivial

/-- The block of ids a writer draws is new to its codec. -/
theorem NonceInvariant.allocate (h : c.NonceInvariant) {kind : WriteKind} {codec : Nat}
    {opcode : Opcode} {aadPrefix : Bytes}
    (hwriter : c.writer = some (.addressed kind codec codec opcode aadPrefix))
    {manager manager' : SessionManager} (hmanager : c.session.sessionManagers codec = some manager)
    {payloads : List Bytes} (hpayloads : payloads.length ≠ 0) {ids : List PacketID}
    (hids : manager.newDataPacketIDs opcode payloads.length = .ok (ids, manager')) :
    NonceInvariant { c with
      session := { c.session with
        sessionManagers := update c.session.sessionManagers codec (some manager') }
      writer := some (.encoding kind codec aadPrefix (ids.zip payloads)) } := by
  obtain ⟨hrange, hcounter, -, hsame⟩ :=
    SessionManager.newDataPacketIDs_eq_ok (Nat.pos_of_ne_zero hpayloads) hids
  have hlength : ids.length = payloads.length := by
    have := congrArg List.length hrange
    rwa [length_map, length_range'] at this
  have hbefore : c.nonces = c.requests.map EncodeRequest.nonce := by
    unfold nonces
    rw [hwriter]
    rfl
  -- the nonces the writer holds now
  have hpending : (Writer.encoding kind codec aadPrefix (ids.zip payloads)).nonces =
      (List.range' manager.localDataPacketID.toNat payloads.length).map fun id => (codec, id) := by
    have hfst : (ids.zip payloads).map Prod.fst = ids := map_fst_zip (le_of_eq hlength)
    calc (Writer.encoding kind codec aadPrefix (ids.zip payloads)).nonces
        = ((ids.zip payloads).map Prod.fst).map fun id => (codec, id.toNat) := by
          rw [map_map]
          rfl
      _ = (ids.map UInt32.toNat).map fun id => (codec, id) := by
          rw [hfst, map_map]
          rfl
      _ = _ := by rw [hrange]
  have hkept : ∀ nonce, Issued c.session nonce → Issued { c.session with
      sessionManagers := update c.session.sessionManagers codec (some manager') } nonce := by
    rintro nonce ⟨hpos, other, hother, hlt⟩
    refine ⟨hpos, ?_⟩
    dsimp only
    rw [update_apply]
    split
    · next heq =>
      rw [heq, hmanager] at hother
      cases hother
      exact ⟨manager', rfl, by omega⟩
    · exact ⟨other, hother, hlt⟩
  refine ⟨h.consistent.withManager hmanager (by rw [hsame]), ?_, ?_, ?_, ?_⟩
  · intro id other hother
    dsimp only at hother
    rw [update_apply] at hother
    split at hother
    · cases hother
      omega
    · exact h.counters id other hother
  · unfold nonces
    rw [Option.map_some, Option.getD_some, hpending]
    refine nodup_append.mpr ⟨?_, hbefore ▸ h.unique, ?_⟩
    · exact (nodup_range').map fun left right heq => (Prod.mk.inj heq).2
    · rintro _ hnew nonce hold rfl
      obtain ⟨id, hid, rfl⟩ := mem_map.mp hnew
      obtain ⟨-, other, hother, hlt⟩ := h.issued _ (hbefore ▸ hold)
      rw [hmanager] at hother
      cases hother
      exact absurd (mem_range'_1.mp hid).1 (Nat.not_le.mpr hlt)
  · intro nonce hnonce
    unfold nonces at hnonce
    rw [Option.map_some, Option.getD_some, hpending] at hnonce
    rcases mem_append.mp hnonce with hnew | hold
    · obtain ⟨id, hid, rfl⟩ := mem_map.mp hnew
      have hbounds := mem_range'_1.mp hid
      have hpos := h.counters codec manager hmanager
      exact ⟨by dsimp only; omega, manager', update_self .., by dsimp only; omega⟩
    · exact hkept nonce (h.issued nonce (hbefore ▸ hold))
  · intro writer hsome
    cases hsome
    trivial

theorem NonceInvariant.encode (h : c.NonceInvariant) {kind : WriteKind} {codec : Nat}
    {aadPrefix : Bytes} {packetID : PacketID} {payload : Bytes} {pending : List (PacketID × Bytes)}
    (hwriter : c.writer = some (.encoding kind codec aadPrefix ((packetID, payload) :: pending))) :
    NonceInvariant { c with
      requests := ⟨codec, packetID, aadPrefix, payload⟩ :: c.requests
      writer := some (.encoding kind codec aadPrefix pending) } := by
  have hperm : ({ c with
      requests := ⟨codec, packetID, aadPrefix, payload⟩ :: c.requests
      writer := some (.encoding kind codec aadPrefix pending) } : DataChannel).nonces.Perm
        c.nonces := by
    unfold nonces
    rw [hwriter]
    exact perm_middle
  exact {
    consistent := h.consistent
    counters := h.counters
    unique := hperm.nodup_iff.mpr h.unique
    issued := fun nonce hnonce => h.issued nonce (hperm.mem_iff.mp hnonce)
    paired := fun writer hsome => by
      cases hsome
      trivial }

theorem NonceInvariant.step (h : c.NonceInvariant) {event : DataEvent}
    (hstep : c.step event = some c') : c'.NonceInvariant := by
  cases channelStep_of_step hstep with
  | key hsession => exact h.keyStep hsession
  | setPeerID peerID => exact { h with }
  | lock kind payloads =>
    refine h.moveWriter _ rfl fun writer hwriter => ?_
    cases hwriter
    trivial
  | returns result => exact h.returns result
  | readKey kind hcodec =>
    -- codec and manager of the send key were installed together
    obtain ⟨hsend, hmanager⟩ := h.consistent.sending.resolve_left (by simp [hcodec])
    refine h.moveWriter _ rfl fun writer hwriter => ?_
    cases hwriter
    rw [hcodec] at hsend
    cases hsend
    rw [hmanager]
    exact ⟨rfl, (h.consistent.managers _).mpr h.consistent.promoted_le⟩
  | readPeerID hwriter =>
    have hpaired := h.paired _ hwriter
    refine h.moveWriter _ rfl fun writer hsome => ?_
    cases hsome
    refine ⟨hpaired.1, hpaired.2, ?_⟩
    unfold outgoingOpcode
    split
    · rfl
    · rfl
  | allocate hwriter hmanager hcount hids =>
    obtain rfl := (h.paired _ hwriter).1
    exact h.allocate hwriter hmanager hcount hids
  | encode hwriter hnext =>
    have hencoded := h.encode hwriter
    rcases hnext with rfl | rfl | rfl
    · exact hencoded
    · refine hencoded.moveWriter (some .broken) rfl fun writer hsome => ?_
      cases hsome
      trivial
    · exact hencoded.returns (some .encode)

section

variable (h : c.NonceInvariant) {id : Nat} {manager : SessionManager}
  (hmanager : c.session.sessionManagers id = some manager)
  (hend : manager.localDataPacketID.toNat = 2 ^ 32 - 1)

include h hmanager hend

/-- A manager at the end of its id space gives nothing out any more. -/
theorem NonceInvariant.exhausted_step {event : DataEvent} (hstep : c.step event = some c') :
    c'.session.sessionManagers id = some manager := by
  cases channelStep_of_step hstep with
  | key hsession => exact h.consistent.sessionManagers_step hsession hmanager
  | setPeerID peerID | lock kind payloads | returns result | readKey kind hcodec
  | readPeerID hwriter => exact hmanager
  | @allocate _ _ other _ _ _ _ _ _ hwriter hother hcount hids =>
    dsimp only
    by_cases heq : id = other
    · -- the manager itself would have refused
      rw [← heq, hmanager] at hother
      cases hother
      obtain ⟨-, -, hle, -⟩ :=
        SessionManager.newDataPacketIDs_eq_ok (Nat.pos_of_ne_zero hcount) hids
      omega
    · rw [update_of_ne heq]
      exact hmanager
  | encode hwriter hnext =>
    rcases hnext with rfl | rfl | rfl
    all_goals exact hmanager

theorem NonceInvariant.exhausted_run {events : List DataEvent}
    (hrun : runFrom dataSystem (fun _ _ => True) c events = some c') :
    c'.session.sessionManagers id = some manager := by
  induction events generalizing c with
  | nil =>
    cases hrun
    exact hmanager
  | cons event events ih =>
    obtain ⟨middle, hmiddle, hrest⟩ := Option.bind_eq_some_iff.mp hrun
    exact ih (h.step hmiddle) (h.exhausted_step hmanager hend hmiddle) hrest

end

theorem nonceInvariant_of_reachable (h : Reachable dataSystem c) : c.NonceInvariant := by
  apply h.invariant
  · rintro _ ⟨role, handshakeWindow, sessionManager, peerID, hkeyID, hfresh, rfl⟩
    refine ⟨KeySession.consistent_newKeySession role handshakeWindow hkeyID, ?_, nodup_nil, ?_, ?_⟩
    · intro id manager hmanager
      by_cases hzero : id = 0
      · subst hzero
        simp only [newKeySession, update_self, Option.some.injEq] at hmanager
        rw [← hmanager, hfresh]
        decide
      · simp only [newKeySession, update_of_ne hzero, reduceCtorEq] at hmanager
    · intro nonce hnonce
      cases hnonce
    · intro writer hwriter
      cases hwriter
  · intro state event state' hinvariant _ hstep
    exact hinvariant.step hstep

end Steps

end DataChannel

open DataChannel

/-- **No nonce is reused.**  In every state of every run no codec has been asked to
    encode two packets with the same packet id or one with id zero; and a manager at
    the end of its ids stays there in every continuation, while every write that
    would draw from it returns an error without a request. -/
theorem no_nonce_reuse {c : DataChannel} (h : Reachable dataSystem c) :
    (c.requests.map EncodeRequest.nonce).Nodup ∧
    (∀ request ∈ c.requests, request.packetID ≠ 0) ∧
    ∀ id manager, c.session.sessionManagers id = some manager →
      manager.localDataPacketID.toNat = 2 ^ 32 - 1 →
      (∀ events c', runFrom dataSystem (fun _ _ => True) c events = some c' →
        c'.session.sessionManagers id = some manager) ∧
      ∀ kind codec opcode aadPrefix prepared,
        c.writer = some (.addressed kind codec id opcode aadPrefix) → prepared.flatten ≠ [] →
        c.step (.allocate prepared) = some (c.returns (some (.packetIDs .packetIDExpired))) := by
  have hinvariant := nonceInvariant_of_reachable h
  refine ⟨?_, ?_, ?_⟩
  · exact hinvariant.unique.sublist (sublist_append_right _ _)
  · intro request hrequest hzero
    have hmem : request.nonce ∈ c.nonces :=
      mem_append_right _ (mem_map_of_mem hrequest)
    have hpos := (hinvariant.issued _ hmem).1
    rw [EncodeRequest.nonce, hzero] at hpos
    exact absurd hpos (lt_irrefl 0)
  · intro id manager hmanager hend
    refine ⟨fun events c' hrun => hinvariant.exhausted_run hmanager hend hrun, ?_⟩
    intro kind codec opcode aadPrefix prepared hwriter hprepared
    have hlength : prepared.flatten.length ≠ 0 := mt length_eq_zero_iff.mp hprepared
    obtain ⟨-, -, hopcode⟩ := hinvariant.paired _ hwriter
    have hrefused :=
      SessionManager.newDataPacketIDs_exhausted hopcode (Nat.pos_of_ne_zero hlength) hend
    simp only [DataChannel.step, hwriter, hlength, if_false, hmanager, hrefused]

/-- One packet before a rekey and two after it, the last of them failing to encode. -/
theorem no_nonce_reuse_rekeyed :
    ∃ c, Reachable dataSystem c ∧
      c.requests.map EncodeRequest.nonce = [(1, 2), (1, 1), (0, 1)] ∧
      (c.requests.map EncodeRequest.nonce).Nodup := by
  have hinitial : dataSystem.initial ⟨zeroServerSession, none, none, [], []⟩ :=
    ⟨.server, 0, newSessionManagerWithLocalID unsetSessionID, none, rfl, rfl, rfl⟩
  obtain ⟨c, hreachable, hnonces⟩ : ∃ c, Reachable dataSystem c ∧
      c.requests.map EncodeRequest.nonce = [(1, 2), (1, 1), (0, 1)] :=
    exists_reachableBy hinitial
      [.key .installInitial, .lock .packets [[7]], .readKey, .readPeerID, .allocate [[[7]]],
        .encode false, .key (.remoteBegin 1 0), .write false, .key (.finish 1 true none 0 0 0),
        .lock .buffers [[8], [9]], .readKey, .readPeerID, .allocate [[[8]], [[9]]], .encode false,
        .encode true] (by decide +kernel)
  exact ⟨c, hreachable, hnonces, (no_nonce_reuse hreachable).1⟩

end SingOpenVPN
