import Mathlib.Data.List.AList
import SingOpenVPN.SessionIDCookie

/-!
# The session registry of a server (`server_tls.go`)

Behind `sessionAccess` a server keeps which session serves a peer name, a peer
id, a client identity and a UDP address, and which session negotiates in the
initial slot of a UDP address.  Sessions are objects that Go passes by pointer;
they are numbered here in the order in which they are created.

The keys of the UDP tables are the texts of addresses (`net.Addr.String`), the
parameter `text`.  Reservations of resources and closing the sessions that are
displaced are not part of the registry.
-/

namespace SingOpenVPN

open AList

/-! ### Tables of sessions -/

abbrev SessionTable (κ : Type) := AList (fun _ : κ => Nat)

namespace SessionTable

variable {κ : Type} [DecidableEq κ]

def removeSession (table : SessionTable κ) (session : Nat) : SessionTable κ :=
  ⟨table.entries.filter fun entry => entry.2 ≠ session,
    table.nodupKeys.sublist List.filter_sublist⟩

def eraseIf (table : SessionTable κ) (key : κ) (session : Nat) : SessionTable κ :=
  if table.lookup key = some session then table.erase key else table

def removeOtherKeys (table : SessionTable κ) (session : Nat) (key : κ) : SessionTable κ :=
  ⟨table.entries.filter fun entry => ¬ (entry.2 = session ∧ entry.1 ≠ key),
    table.nodupKeys.sublist List.filter_sublist⟩

variable {session : Nat} {table : SessionTable κ}

/-- The lookups that survive a deletion by entry. -/
theorem lookup_filter {keep : (Σ _ : κ, Nat) → Bool} {key : κ} :
    lookup key (⟨table.entries.filter keep,
        table.nodupKeys.sublist List.filter_sublist⟩ : SessionTable κ) = some session ↔
      table.lookup key = some session ∧ keep ⟨key, session⟩ = true := by
  rw [← Option.mem_def, mem_lookup_iff, List.mem_filter, ← mem_lookup_iff,
    Option.mem_def]

variable {other : Nat}

theorem lookup_removeSession {key : κ} :
    (table.removeSession session).lookup key = some other ↔
      table.lookup key = some other ∧ other ≠ session := by
  rw [removeSession, lookup_filter, decide_eq_true_eq]

theorem lookup_removeOtherKeys {key kept : κ} :
    (table.removeOtherKeys session kept).lookup key = some other ↔
      table.lookup key = some other ∧ ¬ (other = session ∧ key ≠ kept) := by
  rw [removeOtherKeys, lookup_filter, decide_eq_true_eq]

end SessionTable

/-! ### Sessions and the registry -/

structure ClientCertificateIdentity where
  commonName : String
  hashes : List Bytes
deriving DecidableEq, Repr

/-- The fields of `tlsServerSession` the registry reads. -/
structure ServerSession where
  remoteSessionID : SessionID
  peerAddress : String := ""
  /-- The address its packet connection sends to. -/
  remoteAddress : Option NetAddr := none
  /-- `serverPeerID`, when it is assigned. -/
  serverPeerID : Option Nat := none
  authenticatedIdentity : String := ""
  lockedCertificateIdentity : Option ClientCertificateIdentity := none
deriving DecidableEq

structure SessionRegistry where
  /-- The sessions created so far have the numbers below `created`. -/
  created : Nat
  sessions : Nat → ServerSession
  sessionByPeer : SessionTable String
  sessionByPeerID : SessionTable Nat
  sessionByIdentity : SessionTable String
  udpSessionByAddress : SessionTable String
  udpInitialSessionByAddress : SessionTable String
  sessionCounter : Nat

namespace SessionRegistry

def start : SessionRegistry where
  created := 0
  sessions _ := { remoteSessionID := unsetSessionID }
  sessionByPeer := ∅
  sessionByPeerID := ∅
  sessionByIdentity := ∅
  udpSessionByAddress := ∅
  udpInitialSessionByAddress := ∅
  sessionCounter := 0

def setSession (r : SessionRegistry) (session : Nat) (value : ServerSession) : SessionRegistry :=
  { r with sessions := Function.update r.sessions session value }

/-- `newSession`: a session that is in no table yet. -/
def addSession (r : SessionRegistry) (remoteSessionID : SessionID)
    (remoteAddress : Option NetAddr) : SessionRegistry :=
  { r with
    created := r.created + 1
    sessions := Function.update r.sessions r.created { remoteSessionID, remoteAddress } }

def evictSessionLocked (r : SessionRegistry) (session : Nat) : SessionRegistry :=
  let current := r.sessions session
  { r with
    sessionByPeer := r.sessionByPeer.eraseIf current.peerAddress session
    sessionByPeerID := match current.serverPeerID with
      | some peerID => r.sessionByPeerID.eraseIf peerID session
      | none => r.sessionByPeerID
    sessionByIdentity :=
      if current.authenticatedIdentity ≠ "" then
        r.sessionByIdentity.eraseIf current.authenticatedIdentity session
      else r.sessionByIdentity
    udpSessionByAddress := r.udpSessionByAddress.removeSession session
    udpInitialSessionByAddress := r.udpInitialSessionByAddress.removeSession session }

def numberedPeerAddress (initialPeerAddress : String) (counter : Nat) : String :=
  initialPeerAddress ++ "#session=" ++ toString counter

/-- The first free numbered name from `counter` on.  One of the first names, as
many as there are entries and one more, is free. -/
def freePeerAddress (r : SessionRegistry) (initialPeerAddress : String) : Nat → Nat → String × Nat
  | 0, counter => (numberedPeerAddress initialPeerAddress counter, counter)
  | fuel + 1, counter =>
    if r.sessionByPeer.lookup (numberedPeerAddress initialPeerAddress counter) = none then
      (numberedPeerAddress initialPeerAddress counter, counter)
    else r.freePeerAddress initialPeerAddress fuel (counter + 1)

def bindPeerAddressLocked (r : SessionRegistry) (initialPeerAddress : String) (session : Nat) :
    SessionRegistry :=
  let taken := match r.sessionByPeer.lookup initialPeerAddress with
    | some existing => decide (existing ≠ session)
    | none => false
  let stable := if taken then
      r.freePeerAddress initialPeerAddress r.sessionByPeer.keys.length (r.sessionCounter + 1)
    else (initialPeerAddress, r.sessionCounter)
  { r.setSession session { r.sessions session with peerAddress := stable.1 } with
    sessionByPeer := r.sessionByPeer.insert stable.1 session
    sessionCounter := stable.2 }

inductive RegisterError where
  /-- `ErrPeerNotFound` -/
  | peerNotFound
  /-- `ErrServerClosed` -/
  | serverClosed
  /-- `ErrServerResourceLimit` -/
  | resourceLimit
deriving DecidableEq, Repr

variable (text : NetAddr → String)

def registerSession (r : SessionRegistry) (running : Bool) (initialPeerAddress : String)
    (session : Nat) (udpAddress : Option NetAddr) : Except RegisterError SessionRegistry :=
  if initialPeerAddress = "" then .error .peerNotFound
  else if !running then .error .serverClosed
  else match udpAddress with
    | none => .ok (r.bindPeerAddressLocked initialPeerAddress session)
    | some address =>
      match r.udpSessionByAddress.lookup (text address) with
      | some existing =>
        if existing ≠ session then .error .resourceLimit
        else
          let bound := r.bindPeerAddressLocked initialPeerAddress session
          .ok { bound with
            udpSessionByAddress := bound.udpSessionByAddress.insert (text address) session }
      | none =>
        let bound := r.bindPeerAddressLocked initialPeerAddress session
        .ok { bound with
          udpSessionByAddress := bound.udpSessionByAddress.insert (text address) session }

/-- `registerInitialSession`: the session it displaces, and the registry. -/
def registerInitialSession (r : SessionRegistry) (running : Bool) (initialPeerAddress : String)
    (session : Nat) (udpAddress : NetAddr) :
    Except RegisterError (Option Nat × SessionRegistry) :=
  if initialPeerAddress = "" then .error .peerNotFound
  else if !running then .error .serverClosed
  else
    let displaced := match r.udpInitialSessionByAddress.lookup (text udpAddress) with
      | some existing => if existing = session then none else some existing
      | none => none
    let evicted := match displaced with
      | some existing => r.evictSessionLocked existing
      | none => r
    let bound := evicted.bindPeerAddressLocked initialPeerAddress session
    .ok (displaced, { bound with
      udpInitialSessionByAddress :=
        bound.udpInitialSessionByAddress.insert (text udpAddress) session })

/-- The locked section of `promoteInitialSession`, for the address read before it: `none`
    when the session is not in the initial slot of that address. -/
def promoteFrom (r : SessionRegistry) (session : Nat) (remoteAddress : NetAddr) :
    Option (Option Nat × SessionRegistry) :=
  let address := text remoteAddress
  if r.udpInitialSessionByAddress.lookup address ≠ some session then none
  else
    let freed :=
      { r with udpInitialSessionByAddress := r.udpInitialSessionByAddress.erase address }
    let displaced := (freed.udpSessionByAddress.lookup address).filter (· ≠ session)
    let evicted := match displaced with
      | some existing => freed.evictSessionLocked existing
      | none => freed
    some (displaced, { evicted with
      udpSessionByAddress := evicted.udpSessionByAddress.insert address session })

def promoteInitialSession (r : SessionRegistry) (session : Nat) : Option Nat × SessionRegistry :=
  match (r.sessions session).remoteAddress with
  | none => (none, r)
  | some remoteAddress => (r.promoteFrom text session remoteAddress).getD (none, r)

/-- The first half of `registerAuthenticatedIdentity`; the key of the identity is a
parameter. -/
def setAuthenticatedIdentity (r : SessionRegistry) (session : Nat) (identity : String) :
    SessionRegistry :=
  r.setSession session { r.sessions session with authenticatedIdentity := identity }

/-- The second half: the session the identity had before, and the registry.  The
caller closes that session and waits for it. -/
def bindAuthenticatedIdentity (r : SessionRegistry) (running duplicateCN : Bool) (session : Nat) :
    Except RegisterError (Option Nat × SessionRegistry) :=
  let current := r.sessions session
  if current.authenticatedIdentity = "" ∨ duplicateCN then .ok (none, r)
  else if !running then .error .serverClosed
  else if r.sessionByPeer.lookup current.peerAddress ≠ some session then .error .peerNotFound
  else .ok (r.sessionByIdentity.lookup current.authenticatedIdentity, { r with
    sessionByIdentity := r.sessionByIdentity.insert current.authenticatedIdentity session })

def allocatePeerIDLocked (r : SessionRegistry) (maxClients : Nat) : Option Nat :=
  (List.range maxClients).find? fun candidate => r.sessionByPeerID.lookup candidate = none

def enablePeerID (r : SessionRegistry) (running : Bool) (maxClients session : Nat) :
    Except RegisterError SessionRegistry :=
  let current := r.sessions session
  if !running then .error .serverClosed
  else if r.sessionByPeer.lookup current.peerAddress ≠ some session then .error .peerNotFound
  else if current.serverPeerID.isSome then .ok r
  else match r.allocatePeerIDLocked maxClients with
    | none => .error .resourceLimit
    | some peerID =>
      .ok { r.setSession session { current with serverPeerID := some peerID } with
        sessionByPeerID := r.sessionByPeerID.insert peerID session }

/-! ### Floating to another address -/

def equalClientCertificateIdentity (left right : Option ClientCertificateIdentity) : Bool :=
  match left, right with
  | none, none => true
  | some left, some right => left.commonName == right.commonName && left.hashes == right.hashes
  | _, _ => false

/-- The session is still the one registered under its name and its peer id. -/
def registered (r : SessionRegistry) (session : Nat) : Bool :=
  decide (r.sessionByPeer.lookup (r.sessions session).peerAddress = some session) &&
    match (r.sessions session).serverPeerID with
    | some peerID => decide (r.sessionByPeerID.lookup peerID = some session)
    | none => true

/-- The end of `floatUDPSessionToSource`: the session moves to the address. -/
def bindSource (r : SessionRegistry) (session : Nat) (sourceAddress : NetAddr) : SessionRegistry :=
  let newAddress := text sourceAddress
  { r.setSession session { r.sessions session with remoteAddress := some sourceAddress } with
    udpSessionByAddress :=
      (r.udpSessionByAddress.removeOtherKeys session newAddress).insert newAddress session }

/-- `floatUDPSessionToSource`: the session it displaces and the registry, or `none`
where the float is refused. -/
def floatUDPSessionToSource (r : SessionRegistry) (session : Nat) (sourceAddress : NetAddr) :
    Option (Option Nat × SessionRegistry) :=
  if !r.registered session then none
  else match (r.udpSessionByAddress.lookup (text sourceAddress)).filter (· ≠ session) with
    | some existing =>
      if !equalClientCertificateIdentity (r.sessions existing).lockedCertificateIdentity
          (r.sessions session).lockedCertificateIdentity then none
      else some (some existing,
        (r.evictSessionLocked existing).bindSource text session sourceAddress)
    | none => some (none, r.bindSource text session sourceAddress)

variable {text}

structure FloatedTo (text : NetAddr → String) (r r' : SessionRegistry) (session : Nat)
    (sourceAddress : NetAddr) : Prop where
  created : r'.created = r.created
  remoteAddress : (r'.sessions session).remoteAddress = some sourceAddress
  others : ∀ other, other ≠ session →
    (r'.sessions other).remoteAddress = (r.sessions other).remoteAddress
  bound : ∀ key, r'.udpSessionByAddress.lookup key = some session ↔ key = text sourceAddress
  boundOthers : ∀ key other, other ≠ session →
    r'.udpSessionByAddress.lookup key = some other → r.udpSessionByAddress.lookup key = some other

theorem floatedTo_bindSource (r : SessionRegistry) (session : Nat) (sourceAddress : NetAddr) :
    FloatedTo text r (r.bindSource text session sourceAddress) session sourceAddress where
  created := rfl
  remoteAddress := by simp [bindSource, setSession]
  others other hother := by simp [bindSource, setSession, Function.update_of_ne hother]
  bound key := by
    unfold bindSource
    by_cases hkey : key = text sourceAddress
    · subst hkey
      rw [lookup_insert]
      exact iff_of_true rfl rfl
    · rw [lookup_insert_ne hkey, SessionTable.lookup_removeOtherKeys]
      constructor
      · rintro ⟨-, hkept⟩
        exact absurd ⟨rfl, hkey⟩ hkept
      · exact fun h => absurd h hkey
  boundOthers key other hother h := by
    unfold bindSource at h
    by_cases hkey : key = text sourceAddress
    · subst hkey
      rw [lookup_insert] at h
      exact absurd (Option.some.inj h).symm hother
    · rw [lookup_insert_ne hkey, SessionTable.lookup_removeOtherKeys] at h
      exact h.1

/-- **A float that is not refused binds the session to the address and to no other**,
possibly after another session was evicted. -/
theorem floatedTo_of_floatUDPSessionToSource {r r' : SessionRegistry} {session : Nat}
    {sourceAddress : NetAddr} {displaced : Option Nat}
    (h : r.floatUDPSessionToSource text session sourceAddress = some (displaced, r')) :
    FloatedTo text r r' session sourceAddress := by
  unfold floatUDPSessionToSource at h
  split at h
  · cases h
  split at h
  · next existing _ =>
    split at h
    · cases h
    obtain ⟨-, rfl⟩ := Prod.mk.inj (Option.some.inj h)
    have hbound : FloatedTo text _ _ session sourceAddress :=
      floatedTo_bindSource (r.evictSessionLocked existing) session sourceAddress
    exact { hbound with
      boundOthers := fun key other hother hkey =>
        (SessionTable.lookup_removeSession.mp (hbound.boundOthers key other hother hkey)).1 }
  · obtain ⟨-, rfl⟩ := Prod.mk.inj (Option.some.inj h)
    exact floatedTo_bindSource r session sourceAddress

/-! ### The operations of sessions -/

/-- What a session asks of the registry, apart from a float.  A UDP session registers
under the address it sends to. -/
inductive Operation where
  | register (session : Nat) (running : Bool)
  | registerInitial (session : Nat) (running : Bool)
  | promoteInitial (session : Nat)
  | lockCertificateIdentity (session : Nat) (identity : Option ClientCertificateIdentity)
  | setAuthenticatedIdentity (session : Nat) (identity : String)
  | bindAuthenticatedIdentity (session : Nat) (running duplicateCN : Bool)
  | enablePeerID (session : Nat) (running : Bool) (maxClients : Nat)
  /-- `unregisterSession` -/
  | unregister (session : Nat)

def Operation.session : Operation → Nat
  | register session _ | registerInitial session _ | promoteInitial session
  | lockCertificateIdentity session _ | setAuthenticatedIdentity session _
  | bindAuthenticatedIdentity session _ _ | enablePeerID session _ _ | unregister session => session

variable (text) in
/-- The registry after an operation; one that fails leaves it. -/
def operate (r : SessionRegistry) : Operation → SessionRegistry
  | .register session running =>
    match (r.sessions session).remoteAddress with
    | none => r
    | some address =>
      (r.registerSession text running (text address) session (some address)).toOption.getD r
  | .registerInitial session running =>
    match (r.sessions session).remoteAddress with
    | none => r
    | some address =>
      ((r.registerInitialSession text running (text address) session address).map
        Prod.snd).toOption.getD r
  | .promoteInitial session => (r.promoteInitialSession text session).2
  | .lockCertificateIdentity session identity =>
    r.setSession session { r.sessions session with lockedCertificateIdentity := identity }
  | .setAuthenticatedIdentity session identity => r.setAuthenticatedIdentity session identity
  | .bindAuthenticatedIdentity session running duplicateCN =>
    ((r.bindAuthenticatedIdentity running duplicateCN session).map Prod.snd).toOption.getD r
  | .enablePeerID session running maxClients =>
    (r.enablePeerID running maxClients session).toOption.getD r
  | .unregister session => r.evictSessionLocked session

/-! ### What the operations do to the addresses -/

/-- No session sends elsewhere, and a session is newly bound only to the address it
sends to. -/
structure KeepsAddresses (text : NetAddr → String) (r r' : SessionRegistry) : Prop where
  created : r'.created = r.created
  remoteAddress :
    ∀ session, (r'.sessions session).remoteAddress = (r.sessions session).remoteAddress
  bound : ∀ key session, r'.udpSessionByAddress.lookup key = some session →
    r.udpSessionByAddress.lookup key = some session ∨
      ∃ address, (r.sessions session).remoteAddress = some address ∧ key = text address

namespace KeepsAddresses

theorem refl (r : SessionRegistry) : KeepsAddresses text r r :=
  ⟨rfl, fun _ => rfl, fun _ _ => .inl⟩

variable {running : Bool} {session : Nat} {r r' : SessionRegistry}

theorem trans {r'' : SessionRegistry} (h : KeepsAddresses text r r')
    (h' : KeepsAddresses text r' r'') : KeepsAddresses text r r'' where
  created := h'.created.trans h.created
  remoteAddress session := (h'.remoteAddress session).trans (h.remoteAddress session)
  bound key session hbound := by
    rcases h'.bound key session hbound with hbefore | ⟨address, haddress, hkey⟩
    · exact h.bound key session hbefore
    · exact .inr ⟨address, (h.remoteAddress session).symm.trans haddress, hkey⟩

theorem of_eq (hcreated : r'.created = r.created) (hsessions : r'.sessions = r.sessions)
    (hbound : r'.udpSessionByAddress = r.udpSessionByAddress) : KeepsAddresses text r r' :=
  ⟨hcreated, fun session => congrArg (fun sessions => (sessions session).remoteAddress) hsessions,
    fun _ _ h => .inl (hbound ▸ h)⟩

theorem setSession {value : ServerSession}
    (h : value.remoteAddress = (r.sessions session).remoteAddress) :
    KeepsAddresses text r (r.setSession session value) where
  created := rfl
  remoteAddress other := by
    unfold SessionRegistry.setSession
    dsimp only
    by_cases hother : other = session
    · subst hother
      rw [Function.update_self, h]
    · rw [Function.update_of_ne hother]
  bound _ _ := .inl

theorem evictSessionLocked (r : SessionRegistry) (session : Nat) :
    KeepsAddresses text r (r.evictSessionLocked session) :=
  ⟨rfl, fun _ => rfl, fun _ _ h => .inl (SessionTable.lookup_removeSession.mp h).1⟩

theorem evictDisplaced (r : SessionRegistry) (displaced : Option Nat) :
    KeepsAddresses text r (match displaced with
      | some existing => r.evictSessionLocked existing
      | none => r) := by
  cases displaced with
  | none => exact refl r
  | some existing => exact evictSessionLocked r existing

theorem bindPeerAddressLocked (r : SessionRegistry) (initialPeerAddress : String) (session : Nat) :
    KeepsAddresses text r (r.bindPeerAddressLocked initialPeerAddress session) :=
  (setSession (by rfl)).trans (of_eq rfl rfl rfl)

theorem insert {r : SessionRegistry} {session : Nat} {address : NetAddr}
    (h : (r.sessions session).remoteAddress = some address) :
    KeepsAddresses text r { r with
      udpSessionByAddress := r.udpSessionByAddress.insert (text address) session } where
  created := rfl
  remoteAddress _ := rfl
  bound key other hbound := by
    by_cases hkey : key = text address
    · subst hkey
      rw [lookup_insert] at hbound
      cases hbound
      exact .inr ⟨address, h, rfl⟩
    · rw [lookup_insert_ne hkey] at hbound
      exact .inl hbound

variable {address : NetAddr} {displaced : Option Nat} {initialPeerAddress : String}

theorem registerSession (haddress : (r.sessions session).remoteAddress = some address)
    (h : r.registerSession text running initialPeerAddress session (some address) = .ok r') :
    KeepsAddresses text r r' := by
  have hbind : KeepsAddresses text r (r.bindPeerAddressLocked initialPeerAddress session) :=
    bindPeerAddressLocked r initialPeerAddress session
  have hbound := hbind.trans (insert ((hbind.remoteAddress session).trans haddress))
  unfold SessionRegistry.registerSession at h
  split at h
  · cases h
  split at h
  · cases h
  dsimp only at h
  split at h
  · split at h
    · cases h
    · cases h
      exact hbound
  · cases h
    exact hbound

theorem registerInitialSession
    (h : r.registerInitialSession text running initialPeerAddress session address =
      .ok (displaced, r')) : KeepsAddresses text r r' := by
  unfold SessionRegistry.registerInitialSession at h
  split at h
  · cases h
  split at h
  · cases h
  obtain ⟨hdisplaced, rfl⟩ := Prod.mk.inj (Except.ok.inj h)
  rw [hdisplaced]
  exact (evictDisplaced r displaced).trans
    ((bindPeerAddressLocked _ initialPeerAddress session).trans (of_eq rfl rfl rfl))

theorem promoteInitialSession (r : SessionRegistry) (session : Nat) :
    KeepsAddresses text r (r.promoteInitialSession text session).2 := by
  unfold SessionRegistry.promoteInitialSession
  split
  · exact refl r
  next remoteAddress hremote =>
  unfold promoteFrom
  dsimp only
  split
  · exact refl r
  have hfreed : KeepsAddresses text r { r with
      udpInitialSessionByAddress := r.udpInitialSessionByAddress.erase (text remoteAddress) } :=
    of_eq rfl rfl rfl
  have hevicted := hfreed.trans (evictDisplaced _
    ((r.udpSessionByAddress.lookup (text remoteAddress)).filter (· ≠ session)))
  exact hevicted.trans (insert ((hevicted.remoteAddress session).trans hremote))

theorem bindAuthenticatedIdentity {duplicateCN : Bool}
    (h : r.bindAuthenticatedIdentity running duplicateCN session = .ok (displaced, r')) :
    KeepsAddresses text r r' := by
  unfold SessionRegistry.bindAuthenticatedIdentity at h
  dsimp only at h
  split at h
  · cases h
    exact refl r
  split at h
  · cases h
  split at h
  · cases h
  cases h
  exact of_eq rfl rfl rfl

theorem enablePeerID {maxClients : Nat} (h : r.enablePeerID running maxClients session = .ok r') :
    KeepsAddresses text r r' := by
  unfold SessionRegistry.enablePeerID at h
  dsimp only at h
  split at h
  · cases h
  split at h
  · cases h
  split at h
  · cases h
    exact refl r
  split at h
  · cases h
  cases h
  exact (setSession (by rfl)).trans (of_eq rfl rfl rfl)

theorem getD {ε : Type} {result : Except ε SessionRegistry}
    (h : ∀ r', result = .ok r' → KeepsAddresses text r r') :
    KeepsAddresses text r (result.toOption.getD r) := by
  cases result with
  | error err => exact refl r
  | ok r' => exact h r' rfl

/-- **No operation of a session moves a session.** -/
theorem operate (r : SessionRegistry) (operation : Operation) :
    KeepsAddresses text r (r.operate text operation) := by
  cases operation with
  | register session running =>
    unfold SessionRegistry.operate
    dsimp only
    split
    · exact refl r
    · next address haddress => exact getD fun r' h => registerSession haddress h
  | registerInitial session running =>
    unfold SessionRegistry.operate
    dsimp only
    split
    · exact refl r
    · refine getD fun r' h => ?_
      obtain ⟨⟨displaced, _⟩, hregister, rfl⟩ := map_eq_ok.mp h
      exact registerInitialSession hregister
  | promoteInitial session => exact promoteInitialSession r session
  | lockCertificateIdentity session identity | setAuthenticatedIdentity session identity =>
    exact setSession rfl
  | bindAuthenticatedIdentity session running duplicateCN =>
    refine getD fun r' h => ?_
    obtain ⟨⟨displaced, _⟩, hbind, rfl⟩ := map_eq_ok.mp h
    exact bindAuthenticatedIdentity hbind
  | enablePeerID session running maxClients => exact getD fun r' h => enablePeerID h
  | unregister session => exact evictSessionLocked r session

end KeepsAddresses

/-! ### Routing a datagram -/

/-- `udpPacketVerdict`, with the session a datagram is delivered to. -/
inductive UDPPacketRoute where
  | deliver (session : Nat)
  | unbound
  | initialReset
  | drop
deriving DecidableEq, Repr

def udpDataV2PeerID (rawPacket : Bytes) : Option Nat :=
  match rawPacket with
  | header :: high :: middle :: low :: _ =>
    if Opcode.ofCode (header >>> 3) ≠ .dataV2 then none
    else
      let peerID := high.toNat * 2 ^ 16 + middle.toNat * 2 ^ 8 + low.toNat
      if peerID = peerIDMaxValue then none else some peerID
  | _ => none

def clientSessionIDBytes (rawPacket : Bytes) : Bytes := (rawPacket.drop 1).take 8

def routeUDPPacketLocked (r : SessionRegistry) (rawPacket : Bytes) (peerAddress : String) :
    UDPPacketRoute :=
  match rawPacket with
  | [] => .drop
  | header :: _ =>
    match udpDataV2PeerID rawPacket with
    | some peerID => match r.sessionByPeerID.lookup peerID with
      | none => .drop
      | some session => .deliver session
    | none =>
      let activeSession := r.udpSessionByAddress.lookup peerAddress
      let initialSession := r.udpInitialSessionByAddress.lookup peerAddress
      let opcode := Opcode.ofCode (header >>> 3)
      let carries := fun session =>
        (r.sessions session).remoteSessionID.toList = clientSessionIDBytes rawPacket
      if !opcode.isControlOrAcknowledgment then
        match activeSession with
        | none => .drop
        | some session => .deliver session
      else if rawPacket.length < 9 then .drop
      else match initialSession.filter (fun session => decide (carries session)),
          activeSession.filter (fun session => decide (carries session)) with
        | some session, _ => .deliver session
        | none, some session => .deliver session
        | none, none =>
          if activeSession = none ∧ initialSession = none then .unbound
          else if opcode = .controlHardResetClientV2 ∨ opcode = .controlHardResetClientV3 then
            .initialReset
          else .drop

/-- Only a datagram from an address some session is bound to may start a session
in the initial slot. -/
theorem route_ne_initialReset {r : SessionRegistry} (rawPacket : Bytes) {peerAddress : String}
    (hactive : r.udpSessionByAddress.lookup peerAddress = none)
    (hinitial : r.udpInitialSessionByAddress.lookup peerAddress = none) :
    r.routeUDPPacketLocked rawPacket peerAddress ≠ .initialReset := by
  unfold routeUDPPacketLocked
  split
  · simp
  · split
    · split <;> simp
    · rw [hactive, hinitial]
      dsimp only
      split
      · simp
      · split <;> simp

/-- A datagram reaches the session of its peer id, or one bound to its address, which a control
packet names by its session id. -/
theorem route_eq_deliver {r : SessionRegistry} {rawPacket : Bytes} {peerAddress : String}
    {session : Nat} (h : r.routeUDPPacketLocked rawPacket peerAddress = .deliver session) :
    (∃ peerID, udpDataV2PeerID rawPacket = some peerID ∧
      r.sessionByPeerID.lookup peerID = some session) ∨
    (r.udpSessionByAddress.lookup peerAddress = some session ∨
        r.udpInitialSessionByAddress.lookup peerAddress = some session) ∧
      ∀ header ∈ rawPacket.head?, (Opcode.ofCode (header >>> 3)).isControlOrAcknowledgment →
        (r.sessions session).remoteSessionID.toList = clientSessionIDBytes rawPacket := by
  cases rawPacket with
  | nil => cases h
  | cons header rest =>
    unfold routeUDPPacketLocked at h
    dsimp only at h
    split at h
    · next peerID hpeerID =>
      split at h
      · cases h
      · next hlookup =>
        cases h
        exact .inl ⟨peerID, hpeerID, hlookup⟩
    · right
      simp only [List.head?_cons, Option.mem_def, Option.some.injEq, forall_eq']
      split at h
      · next hdata =>
        split at h
        · cases h
        · next hactive =>
          cases h
          exact ⟨.inl hactive, fun hcontrol => by simp [hcontrol] at hdata⟩
      · split at h
        · cases h
        · split at h
          · next hinitial =>
            cases h
            obtain ⟨hlookup, hcarries⟩ := Option.filter_eq_some_iff.mp hinitial
            exact ⟨.inr hlookup, fun _ => of_decide_eq_true hcarries⟩
          · next hactive =>
            cases h
            obtain ⟨hlookup, hcarries⟩ := Option.filter_eq_some_iff.mp hactive
            exact ⟨.inl hlookup, fun _ => of_decide_eq_true hcarries⟩
          · split_ifs at h

end SessionRegistry

end SingOpenVPN
