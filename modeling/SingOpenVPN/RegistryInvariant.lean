import Mathlib.Data.List.Perm.Subperm
import SingOpenVPN.Numerals
import SingOpenVPN.ServerSessions

/-!
# Consistency of the session registry (`server_tls.go`)

The tables of a server name the same sessions: whoever has a peer id, an identity, a UDP
address or an initial slot is registered under its own peer name (`TablesAgree`).  Each
section under the lock is put together from a few changes of the tables, and each of these
keeps the agreement; what the sections need beyond it is where the sessions stand in
their runs (`RegistryInvariant`).
-/

namespace SingOpenVPN

open TransitionSystem SessionTable Option ServerSession

namespace SessionTable

variable {κ : Type} [DecidableEq κ] {other : Nat} {table : SessionTable κ}

theorem lookup_eraseIf {session : Nat} {key erased : κ} :
    (table.eraseIf erased session).lookup key = some other ↔
      table.lookup key = some other ∧ ¬ (key = erased ∧ other = session) := by
  unfold eraseIf
  by_cases hkey : key = erased
  · subst hkey
    split
    · next hfound =>
      rw [AList.lookup_erase, hfound]
      simp only [reduceCtorEq, some.injEq, true_and, false_iff, not_and, not_not]
      exact fun h => h.symm
    · next hother =>
      refine ⟨fun h => ⟨h, ?_⟩, fun h => h.1⟩
      rintro ⟨-, rfl⟩
      exact hother h
  · split
    · simp [hkey]
    · simp [hkey]

theorem lookup_insert {session : Nat} {key inserted : κ} :
    (table.insert inserted session).lookup key = some other ↔
      (key = inserted ∧ other = session) ∨ (key ≠ inserted ∧ table.lookup key = some other) := by
  by_cases hkey : key = inserted
  · subst hkey
    simp [eq_comm]
  · simp [hkey]

theorem lookup_erase {key erased : κ} :
    AList.lookup key (table.erase erased) = some other ↔
      key ≠ erased ∧ table.lookup key = some other := by
  by_cases hkey : key = erased
  · subst hkey
    simp
  · simp [hkey]

end SessionTable

namespace SessionRegistry

/-! ### Peer names -/

theorem numberedPeerAddress_inj {initialPeerAddress : String} {left right : Nat}
    (h : numberedPeerAddress initialPeerAddress left =
      numberedPeerAddress initialPeerAddress right) :
    left = right := by
  have hdigits : String.ofList (Nat.toDigits 10 left) = String.ofList (Nat.toDigits 10 right) :=
    (String.append_right_inj _).mp h
  exact toDigits_inj (by decide) (by decide) (String.ofList_injective hdigits)

variable (r : SessionRegistry) (initialPeerAddress : String)

theorem freePeerAddress_cases
    (fuel counter : Nat) :
    r.sessionByPeer.lookup (r.freePeerAddress initialPeerAddress fuel counter).1 = none ∨
      ∀ index ≤ fuel,
        numberedPeerAddress initialPeerAddress (counter + index) ∈ r.sessionByPeer := by
  induction fuel generalizing counter with
  | zero =>
    by_cases htaken : numberedPeerAddress initialPeerAddress counter ∈ r.sessionByPeer
    · right
      intro index hindex
      rwa [Nat.le_zero.mp hindex]
    · left
      exact AList.lookup_eq_none.mpr htaken
  | succ fuel ih =>
    rw [freePeerAddress]
    by_cases hfree :
        r.sessionByPeer.lookup (numberedPeerAddress initialPeerAddress counter) = none
    · rw [if_pos hfree]
      exact .inl hfree
    · rw [if_neg hfree]
      refine (ih (counter + 1)).imp_right ?_
      intro hall index hindex
      cases index with
      | zero =>
        rw [AList.lookup_eq_none, not_not] at hfree
        exact hfree
      | succ index =>
        have hmem := hall index (by omega)
        rwa [show counter + 1 + index = counter + (index + 1) by omega] at hmem

/-- There are more names to try than names that are taken. -/
theorem lookup_freePeerAddress (counter : Nat) :
    r.sessionByPeer.lookup
      (r.freePeerAddress initialPeerAddress r.sessionByPeer.keys.length counter).1 = none := by
  rcases r.freePeerAddress_cases initialPeerAddress r.sessionByPeer.keys.length counter with
    hfree | hall
  · exact hfree
  · exfalso
    have hnodup : ((List.range (r.sessionByPeer.keys.length + 1)).map fun index =>
        numberedPeerAddress initialPeerAddress (counter + index)).Nodup := by
      refine List.nodup_range.map ?_
      intro left right heq
      have := numberedPeerAddress_inj heq
      omega
    have hsubset : ((List.range (r.sessionByPeer.keys.length + 1)).map fun index =>
        numberedPeerAddress initialPeerAddress (counter + index)) ⊆ r.sessionByPeer.keys := by
      intro name hname
      obtain ⟨index, hindex, rfl⟩ := List.mem_map.mp hname
      exact hall index (by have := List.mem_range.mp hindex; omega)
    have hlength := (List.subperm_of_subset hnodup hsubset).length_le
    simp only [List.length_map, List.length_range] at hlength
    omega

theorem bindPeerAddressLocked_eq {session : Nat}
    (habsent : ∀ name, r.sessionByPeer.lookup name ≠ some session) :
    ∃ stable : String × Nat, r.sessionByPeer.lookup stable.1 = none ∧
      r.bindPeerAddressLocked initialPeerAddress session =
        { r.setSession session { r.sessions session with peerAddress := stable.1 } with
          sessionByPeer := r.sessionByPeer.insert stable.1 session
          sessionCounter := stable.2 } := by
  refine ⟨_, ?_, rfl⟩
  cases htaken : r.sessionByPeer.lookup initialPeerAddress with
  | none => exact htaken
  | some existing =>
    have hne : existing ≠ session := by
      rintro rfl
      exact habsent _ htaken
    rw [if_pos (decide_eq_true hne)]
    exact r.lookup_freePeerAddress initialPeerAddress _

/-! ### Agreement of the tables -/

/-- The session is the one under its own peer name. -/
def Registered (r : SessionRegistry) (session : Nat) : Prop :=
  r.sessionByPeer.lookup (r.sessions session).peerAddress = some session

structure TablesAgree (text : NetAddr → String) (r : SessionRegistry) : Prop where
  peer : ∀ name session, r.sessionByPeer.lookup name = some session →
    (r.sessions session).peerAddress = name ∧ session < r.created
  peerID : ∀ peerID session, r.sessionByPeerID.lookup peerID = some session →
    r.Registered session ∧ (r.sessions session).serverPeerID = some peerID
  /-- A registered session keeps its peer id. -/
  keepsPeerID : ∀ peerID session, r.Registered session →
    (r.sessions session).serverPeerID = some peerID →
    r.sessionByPeerID.lookup peerID = some session
  identity : ∀ identity session, r.sessionByIdentity.lookup identity = some session →
    r.Registered session ∧ (r.sessions session).authenticatedIdentity = identity ∧ identity ≠ ""
  address : ∀ key session, r.udpSessionByAddress.lookup key = some session →
    r.Registered session ∧ ∃ address, (r.sessions session).remoteAddress = some address ∧
      key = text address
  initial : ∀ key session, r.udpInitialSessionByAddress.lookup key = some session →
    r.Registered session ∧ ∃ address, (r.sessions session).remoteAddress = some address ∧
      key = text address

namespace TablesAgree

variable {text : NetAddr → String} {r : SessionRegistry} {session : Nat}

section Evict

variable (h : TablesAgree text r) (session : Nat)

include h

theorem lookup_peer_evict (name : String) (other : Nat) :
    (r.evictSessionLocked session).sessionByPeer.lookup name = some other ↔
      r.sessionByPeer.lookup name = some other ∧ other ≠ session := by
  rw [evictSessionLocked, lookup_eraseIf]
  refine and_congr_right fun hfound => not_congr ⟨And.right, ?_⟩
  rintro rfl
  exact ⟨(h.peer name other hfound).1.symm, rfl⟩

theorem lookup_peerID_evict (peerID other : Nat) :
    (r.evictSessionLocked session).sessionByPeerID.lookup peerID = some other ↔
      r.sessionByPeerID.lookup peerID = some other ∧ other ≠ session := by
  have hrow : r.sessionByPeerID.lookup peerID = some other → other = session →
      (r.sessions session).serverPeerID = some peerID := by
    rintro hfound rfl
    exact (h.peerID peerID other hfound).2
  unfold evictSessionLocked
  dsimp only
  cases hassigned : (r.sessions session).serverPeerID with
  | none =>
    refine ⟨fun hfound => ⟨hfound, fun heq => ?_⟩, And.left⟩
    rw [hassigned] at hrow
    cases hrow hfound heq
  | some assigned =>
    rw [lookup_eraseIf]
    refine and_congr_right fun hfound => not_congr ⟨And.right, fun heq => ⟨?_, heq⟩⟩
    rw [hassigned] at hrow
    exact (some.inj (hrow hfound heq)).symm

theorem lookup_identity_evict (identity : String) (other : Nat) :
    (r.evictSessionLocked session).sessionByIdentity.lookup identity = some other ↔
      r.sessionByIdentity.lookup identity = some other ∧ other ≠ session := by
  have hrow : r.sessionByIdentity.lookup identity = some other → other = session →
      (r.sessions session).authenticatedIdentity = identity ∧ identity ≠ "" := by
    rintro hfound rfl
    exact (h.identity identity other hfound).2
  unfold evictSessionLocked
  dsimp only
  split
  · rw [lookup_eraseIf]
    refine and_congr_right fun hfound => not_congr ⟨And.right, fun heq => ⟨?_, heq⟩⟩
    exact (hrow hfound heq).1.symm
  · next hempty =>
    refine ⟨fun hfound => ⟨hfound, fun heq => ?_⟩, And.left⟩
    obtain ⟨hsame, hne⟩ := hrow hfound heq
    rw [hsame] at hempty
    exact hempty hne

theorem registered_evict {other : Nat} :
    (r.evictSessionLocked session).Registered other ↔ r.Registered other ∧ other ≠ session :=
  h.lookup_peer_evict session (r.sessions other).peerAddress other

theorem stays_evict {other : Nat} (hne : other ≠ session) (hregistered : r.Registered other) :
    (r.evictSessionLocked session).Registered other :=
  (h.registered_evict session).mpr ⟨hregistered, hne⟩

/-- An evicted session is in no table, and the others stay where they are. -/
theorem evict : TablesAgree text (r.evictSessionLocked session) where
  peer name other hfound := h.peer name other ((h.lookup_peer_evict session name other).mp hfound).1
  peerID peerID other hfound := by
    obtain ⟨hbefore, hne⟩ := (h.lookup_peerID_evict session peerID other).mp hfound
    exact (h.peerID peerID other hbefore).imp_left (h.stays_evict session hne)
  keepsPeerID peerID other hregistered hassigned := by
    obtain ⟨hbefore, hne⟩ := (h.registered_evict session).mp hregistered
    exact (h.lookup_peerID_evict session peerID other).mpr
      ⟨h.keepsPeerID peerID other hbefore hassigned, hne⟩
  identity identity other hfound := by
    obtain ⟨hbefore, hne⟩ := (h.lookup_identity_evict session identity other).mp hfound
    exact (h.identity identity other hbefore).imp_left (h.stays_evict session hne)
  address key other hfound := by
    obtain ⟨hbefore, hne⟩ := lookup_removeSession.mp hfound
    exact (h.address key other hbefore).imp_left (h.stays_evict session hne)
  initial key other hfound := by
    obtain ⟨hbefore, hne⟩ := lookup_removeSession.mp hfound
    exact (h.initial key other hbefore).imp_left (h.stays_evict session hne)

end Evict

variable {value : ServerSession}

theorem sessions_setSession_self :
    (r.setSession session value).sessions session = value := Function.update_self ..

theorem sessions_setSession_of_ne {other : Nat} (h : other ≠ session) :
    (r.setSession session value).sessions other = r.sessions other := Function.update_of_ne h ..

theorem field_setSession {β : Type} (field : ServerSession → β) {other : Nat}
    (hfield : other = session → field value = field (r.sessions session)) :
    field ((r.setSession session value).sessions other) = field (r.sessions other) := by
  by_cases hother : other = session
  · rw [hother, sessions_setSession_self, hfield hother]
  · rw [sessions_setSession_of_ne hother]

section

variable (h : TablesAgree text r)

include h

theorem registered_setSession
    (hpeer : r.Registered session → value.peerAddress = (r.sessions session).peerAddress)
    {other : Nat} :
    (r.setSession session value).Registered other ↔ r.Registered other := by
  by_cases hother : other = session
  · unfold Registered at hpeer ⊢
    rw [hother, sessions_setSession_self]
    refine ⟨fun hfound => ?_, fun hfound => (hpeer hfound).symm ▸ hfound⟩
    rw [(h.peer _ _ hfound).1]
    exact hfound
  · unfold Registered
    rw [sessions_setSession_of_ne hother]
    rfl

/-- A session may change in what none of its entries is found by, and the table of peer ids
    with it. -/
theorem setSession_of_peerIDs {peerIDs : SessionTable Nat}
    (hpeer : r.Registered session → value.peerAddress = (r.sessions session).peerAddress)
    (hpeerIDs : ∀ peerID other, peerIDs.lookup peerID = some other ↔ r.Registered other ∧
      ((r.setSession session value).sessions other).serverPeerID = some peerID)
    (hidentity : ∀ identity, r.sessionByIdentity.lookup identity = some session →
      value.authenticatedIdentity = (r.sessions session).authenticatedIdentity)
    (hremote : ∀ key, r.udpSessionByAddress.lookup key = some session ∨
      r.udpInitialSessionByAddress.lookup key = some session →
      value.remoteAddress = (r.sessions session).remoteAddress) :
    TablesAgree text { r.setSession session value with sessionByPeerID := peerIDs } := by
  have hsame : ∀ other, Registered { r.setSession session value with sessionByPeerID := peerIDs }
      other ↔ r.Registered other := fun other => h.registered_setSession hpeer
  constructor
  case peer =>
    intro name other hfound
    obtain ⟨rfl, hlt⟩ := h.peer name other hfound
    exact ⟨field_setSession peerAddress fun heq => hpeer (heq ▸ hfound), hlt⟩
  case peerID =>
    intro peerID other hfound
    rw [hsame]
    exact (hpeerIDs peerID other).mp hfound
  case keepsPeerID =>
    intro peerID other hregistered hassigned
    rw [hsame] at hregistered
    exact (hpeerIDs peerID other).mpr ⟨hregistered, hassigned⟩
  case identity =>
    intro identity other hfound
    rw [hsame, field_setSession authenticatedIdentity fun heq =>
      hidentity identity (heq ▸ hfound)]
    exact h.identity identity other hfound
  case address =>
    intro key other hfound
    rw [hsame, field_setSession remoteAddress fun heq =>
      hremote key (heq ▸ .inl hfound)]
    exact h.address key other hfound
  case initial =>
    intro key other hfound
    rw [hsame, field_setSession remoteAddress fun heq =>
      hremote key (heq ▸ .inr hfound)]
    exact h.initial key other hfound

theorem peerID_iff (peerID other : Nat) : r.sessionByPeerID.lookup peerID = some other ↔
    r.Registered other ∧ (r.sessions other).serverPeerID = some peerID :=
  ⟨h.peerID peerID other, fun hother => h.keepsPeerID peerID other hother.1 hother.2⟩

theorem setSession
    (hpeer : r.Registered session → value.peerAddress = (r.sessions session).peerAddress)
    (hpeerID : r.Registered session → value.serverPeerID = (r.sessions session).serverPeerID)
    (hidentity : ∀ identity, r.sessionByIdentity.lookup identity = some session →
      value.authenticatedIdentity = (r.sessions session).authenticatedIdentity)
    (hremote : ∀ key, r.udpSessionByAddress.lookup key = some session ∨
      r.udpInitialSessionByAddress.lookup key = some session →
      value.remoteAddress = (r.sessions session).remoteAddress) :
    TablesAgree text (r.setSession session value) := by
  refine h.setSession_of_peerIDs hpeer (fun peerID other => ?_) hidentity hremote
  refine (h.peerID_iff peerID other).trans (and_congr_right fun hregistered => ?_)
  rw [field_setSession serverPeerID fun heq => hpeerID (heq ▸ hregistered)]

theorem setSession_of_absent (habsent : ∀ name, r.sessionByPeer.lookup name ≠ some session)
    (value : ServerSession) : TablesAgree text (r.setSession session value) := by
  have hunregistered : ¬ r.Registered session := habsent _
  refine h.setSession (fun hself => absurd hself hunregistered)
    (fun hself => absurd hself hunregistered) ?_ ?_
  · intro identity hfound
    exact absurd (h.identity identity session hfound).1 hunregistered
  · rintro key (hfound | hfound)
    · exact absurd (h.address key session hfound).1 hunregistered
    · exact absurd (h.initial key session hfound).1 hunregistered

theorem insertPeer {name : String} (hname : (r.sessions session).peerAddress = name)
    (hfree : r.sessionByPeer.lookup name = none) (hcreated : session < r.created)
    (hpeerID : (r.sessions session).serverPeerID = none) :
    TablesAgree text { r with sessionByPeer := r.sessionByPeer.insert name session } ∧
      ∀ other, Registered { r with sessionByPeer := r.sessionByPeer.insert name session } other ↔
        r.Registered other ∨ other = session := by
  have hregistered : ∀ other,
      Registered { r with sessionByPeer := r.sessionByPeer.insert name session } other ↔
        r.Registered other ∨ other = session := by
    intro other
    unfold Registered
    rw [lookup_insert]
    constructor
    · rintro (⟨-, rfl⟩ | ⟨-, hfound⟩)
      · exact .inr rfl
      · exact .inl hfound
    · rintro (hfound | rfl)
      · refine .inr ⟨fun heq => ?_, hfound⟩
        rw [heq, hfree] at hfound
        cases hfound
      · exact .inl ⟨hname, rfl⟩
  have hstays : ∀ other, r.Registered other →
      Registered { r with sessionByPeer := r.sessionByPeer.insert name session } other :=
    fun other hother => (hregistered other).mpr (.inl hother)
  refine ⟨⟨?_, ?_, ?_, ?_, ?_, ?_⟩, hregistered⟩
  · intro other found hfound
    rcases lookup_insert.mp hfound with ⟨rfl, rfl⟩ | ⟨-, hbefore⟩
    · exact ⟨hname, hcreated⟩
    · exact h.peer other found hbefore
  · intro peerID other hfound
    exact (h.peerID peerID other hfound).imp_left (hstays other)
  · intro peerID other hother hassigned
    rcases (hregistered other).mp hother with hbefore | rfl
    · exact h.keepsPeerID peerID other hbefore hassigned
    · rw [hpeerID] at hassigned
      cases hassigned
  · intro identity other hfound
    exact (h.identity identity other hfound).imp_left (hstays other)
  · intro key other hfound
    exact (h.address key other hfound).imp_left (hstays other)
  · intro key other hfound
    exact (h.initial key other hfound).imp_left (hstays other)

theorem insertPeerID (hregistered : r.Registered session) {peerID : Nat}
    (hfree : r.sessionByPeerID.lookup peerID = none)
    (hnone : (r.sessions session).serverPeerID = none) :
    TablesAgree text { r.setSession session { r.sessions session with
        serverPeerID := some peerID } with
      sessionByPeerID := r.sessionByPeerID.insert peerID session } := by
  refine h.setSession_of_peerIDs (fun _ => rfl) (fun other found => ?_) (fun _ _ => rfl)
    fun _ _ => rfl
  rw [lookup_insert, h.peerID_iff]
  by_cases heq : found = session
  · rw [heq, sessions_setSession_self, hnone]
    simp [hregistered, eq_comm]
  · rw [sessions_setSession_of_ne heq]
    refine ⟨fun hfound => (hfound.resolve_left fun hself => heq hself.2).2,
      fun hfound => .inr ⟨?_, hfound⟩⟩
    rintro rfl
    rw [(h.peerID_iff other found).mpr hfound] at hfree
    cases hfree

theorem insertIdentity (hregistered : r.Registered session) {identity : String}
    (hidentity : (r.sessions session).authenticatedIdentity = identity) (hne : identity ≠ "") :
    TablesAgree text { r with
      sessionByIdentity := r.sessionByIdentity.insert identity session } where
  __ := h
  identity other found hfound := by
    rcases lookup_insert.mp hfound with ⟨rfl, rfl⟩ | ⟨-, hbefore⟩
    · exact ⟨hregistered, hidentity, hne⟩
    · exact h.identity other found hbefore

theorem insertAddress (hregistered : r.Registered session) {address : NetAddr}
    (haddress : (r.sessions session).remoteAddress = some address) :
    TablesAgree text { r with
      udpSessionByAddress := r.udpSessionByAddress.insert (text address) session } where
  __ := h
  address key found hfound := by
    rcases lookup_insert.mp hfound with ⟨rfl, rfl⟩ | ⟨-, hbefore⟩
    · exact ⟨hregistered, address, haddress, rfl⟩
    · exact h.address key found hbefore

theorem insertInitial (hregistered : r.Registered session) {address : NetAddr}
    (haddress : (r.sessions session).remoteAddress = some address) :
    TablesAgree text { r with
      udpInitialSessionByAddress :=
        r.udpInitialSessionByAddress.insert (text address) session } where
  __ := h
  initial key found hfound := by
    rcases lookup_insert.mp hfound with ⟨rfl, rfl⟩ | ⟨-, hbefore⟩
    · exact ⟨hregistered, address, haddress, rfl⟩
    · exact h.initial key found hbefore

theorem eraseInitial (key : String) : TablesAgree text { r with
    udpInitialSessionByAddress := r.udpInitialSessionByAddress.erase key } where
  __ := h
  initial other found hfound := h.initial other found (lookup_erase.mp hfound).2

theorem absent_of_not_lt (hnew : r.created ≤ session) (name : String) :
    r.sessionByPeer.lookup name ≠ some session := by
  intro hfound
  have := (h.peer name session hfound).2
  omega

theorem addSession (remoteSessionID : SessionID) (remoteAddress : Option NetAddr) :
    TablesAgree text (r.addSession remoteSessionID remoteAddress) ∧
      ∀ other, (r.addSession remoteSessionID remoteAddress).Registered other ↔
        r.Registered other := by
  have habsent := h.absent_of_not_lt (le_refl _)
  have hagree := h.setSession_of_absent habsent { remoteSessionID, remoteAddress }
  refine ⟨{ hagree with peer := fun name other hfound => ?_ },
    fun other => h.registered_setSession fun hself => absurd hself (habsent _)⟩
  exact (hagree.peer name other hfound).imp_right Nat.lt_succ_of_lt

theorem bindPeerAddressLocked (habsent : ∀ name, r.sessionByPeer.lookup name ≠ some session)
    (hcreated : session < r.created) (hpeerID : (r.sessions session).serverPeerID = none)
    (initialPeerAddress : String) :
    TablesAgree text (r.bindPeerAddressLocked initialPeerAddress session) ∧
      ∀ other, (r.bindPeerAddressLocked initialPeerAddress session).Registered other ↔
        r.Registered other ∨ other = session := by
  obtain ⟨stable, hfree, heq⟩ := r.bindPeerAddressLocked_eq initialPeerAddress habsent
  rw [heq]
  have hset := h.setSession_of_absent habsent { r.sessions session with peerAddress := stable.1 }
  have hname : ((r.setSession session { r.sessions session with
      peerAddress := stable.1 }).sessions session).peerAddress = stable.1 := by
    rw [sessions_setSession_self]
  have hnone : ((r.setSession session { r.sessions session with
      peerAddress := stable.1 }).sessions session).serverPeerID = none := by
    rw [sessions_setSession_self]
    exact hpeerID
  obtain ⟨hagree, hregistered⟩ := hset.insertPeer hname hfree hcreated hnone
  refine ⟨{ hagree with }, fun other => (hregistered other).trans ?_⟩
  rw [h.registered_setSession fun hself => absurd hself (habsent _)]

end

end TablesAgree

/-! ### What the locked sections change -/

/-- Only `joins` may be registered or get an initial slot, `leaves` is not registered any
    more, only `binds` may get an identity and only `moves` another remote address.  An
    identity is lost by leaving or to the session that binds it. -/
structure RegistryEffect (r r' : SessionRegistry) (joins leaves binds moves : Option Nat) :
    Prop where
  created : r'.created = r.created
  registered : ∀ other, r'.Registered other →
    (r.Registered other ∨ joins = some other) ∧ leaves ≠ some other
  initial : ∀ key other, r'.udpInitialSessionByAddress.lookup key = some other →
    r.udpInitialSessionByAddress.lookup key = some other ∨ joins = some other
  identity : ∀ identity other, r'.sessionByIdentity.lookup identity = some other →
    r.sessionByIdentity.lookup identity = some other ∨ binds = some other
  remoteAddress : ∀ other, moves ≠ some other →
    (r'.sessions other).remoteAddress = (r.sessions other).remoteAddress
  left : ∀ other, leaves = some other → other < r.created
  kept : ∀ identity other, r.sessionByIdentity.lookup identity = some other →
    leaves ≠ some other → binds = none → r'.sessionByIdentity.lookup identity = some other

/-- A session leaves before another one joins, registers an identity or moves. -/
theorem RegistryEffect.trans {r middle r' : SessionRegistry} {joins leaves binds moves : Option Nat}
    (h : RegistryEffect r middle none leaves none none)
    (h' : RegistryEffect middle r' joins none binds moves)
    (hne : ∀ session, joins = some session → leaves ≠ some session) :
    RegistryEffect r r' joins leaves binds moves where
  created := h'.created.trans h.created
  registered other hother := by
    rcases (h'.registered other hother).1 with hbefore | hjoins
    · obtain ⟨hbefore, hleaves⟩ := h.registered other hbefore
      exact ⟨.inl (hbefore.resolve_right (by simp)), hleaves⟩
    · exact ⟨.inr hjoins, hne other hjoins⟩
  initial key other hfound :=
    (h'.initial key other hfound).imp_left fun hbefore =>
      (h.initial key other hbefore).resolve_right (by simp)
  identity identity other hfound :=
    (h'.identity identity other hfound).imp_left fun hbefore =>
      (h.identity identity other hbefore).resolve_right (by simp)
  remoteAddress other hmoves :=
    (h'.remoteAddress other hmoves).trans (h.remoteAddress other (by simp))
  left := h.left
  kept identity other hfound hleaves hbinds :=
    h'.kept identity other (h.kept identity other hfound hleaves rfl) nofun hbinds

namespace TablesAgree

variable {text : NetAddr → String} {r r' : SessionRegistry} {session : Nat}

theorem lt_created (h : TablesAgree text r) (hregistered : r.Registered session) :
    session < r.created :=
  (h.peer _ _ hregistered).2

theorem effect_evict (h : TablesAgree text r) (hcreated : session < r.created) :
    RegistryEffect r (r.evictSessionLocked session) none (some session) none none where
  created := rfl
  registered other hother := by
    obtain ⟨hbefore, hne⟩ := (h.registered_evict session).mp hother
    exact ⟨.inl hbefore, fun heq => hne (some.inj heq).symm⟩
  initial key other hfound := .inl (lookup_removeSession.mp hfound).1
  identity identity other hfound :=
    .inl ((h.lookup_identity_evict session identity other).mp hfound).1
  remoteAddress _ _ := rfl
  left other heq := some.inj heq ▸ hcreated
  kept identity other hfound hleaves _ := by
    rw [h.lookup_identity_evict]
    exact ⟨hfound, fun heq => hleaves (congrArg some heq.symm)⟩

theorem effect_refl : RegistryEffect r r none none none none where
  created := rfl
  registered _ hother := ⟨.inl hother, by simp⟩
  initial _ _ := .inl
  identity _ _ := .inl
  remoteAddress _ _ := rfl
  left := nofun
  kept _ _ hfound _ _ := hfound

theorem effect_setSession (h : TablesAgree text r) {value : ServerSession}
    (hpeer : value.peerAddress = (r.sessions session).peerAddress)
    (hremote : value.remoteAddress = (r.sessions session).remoteAddress) :
    RegistryEffect r (r.setSession session value) none none none none where
  __ := effect_refl
  registered other hother :=
    ⟨.inl ((h.registered_setSession fun _ => hpeer).mp hother), by simp⟩
  remoteAddress other _ := field_setSession remoteAddress fun _ => hremote

theorem effect_bindPeerAddressLocked (h : TablesAgree text r)
    (habsent : ∀ name, r.sessionByPeer.lookup name ≠ some session) (hcreated : session < r.created)
    (hpeerID : (r.sessions session).serverPeerID = none) (initialPeerAddress : String) :
    RegistryEffect r (r.bindPeerAddressLocked initialPeerAddress session) (some session) none none
      none where
  __ := effect_refl
  registered other hother := by
    have hbind := (h.bindPeerAddressLocked habsent hcreated hpeerID initialPeerAddress).2 other
    refine ⟨(hbind.mp hother).imp_right ?_, by simp⟩
    rintro rfl
    rfl
  initial _ _ := .inl
  remoteAddress other _ := by
    have hkeeps : KeepsAddresses text r (r.bindPeerAddressLocked initialPeerAddress session) :=
      .bindPeerAddressLocked r initialPeerAddress session
    exact hkeeps.remoteAddress other

variable {running : Bool} {address : NetAddr} {displaced : Option Nat}

theorem registerSession (h : TablesAgree text r)
    (habsent : ∀ name, r.sessionByPeer.lookup name ≠ some session) (hcreated : session < r.created)
    (hpeerID : (r.sessions session).serverPeerID = none) {initialPeerAddress : String}
    (hok : r.registerSession text running initialPeerAddress session
      (r.sessions session).remoteAddress = .ok r') :
    TablesAgree text r' ∧ RegistryEffect r r' (some session) none none none := by
  obtain ⟨hagree, hregistered⟩ :=
    h.bindPeerAddressLocked habsent hcreated hpeerID initialPeerAddress
  have heffect := h.effect_bindPeerAddressLocked habsent hcreated hpeerID initialPeerAddress
  have hself := (hregistered session).mpr (.inr rfl)
  have hinserted : ∀ address, (r.sessions session).remoteAddress = some address →
      TablesAgree text { r.bindPeerAddressLocked initialPeerAddress session with
        udpSessionByAddress := AList.insert (text address) session
          (r.bindPeerAddressLocked initialPeerAddress session).udpSessionByAddress } ∧
      RegistryEffect r { r.bindPeerAddressLocked initialPeerAddress session with
        udpSessionByAddress := AList.insert (text address) session
          (r.bindPeerAddressLocked initialPeerAddress session).udpSessionByAddress }
        (some session) none none none := by
    intro address haddress
    refine ⟨hagree.insertAddress hself ?_, { heffect with }⟩
    rw [heffect.remoteAddress session (by simp), haddress]
  unfold SessionRegistry.registerSession at hok
  split at hok
  · cases hok
  split at hok
  · cases hok
  split at hok
  · cases hok
    exact ⟨hagree, heffect⟩
  · next address haddress =>
    split at hok
    · split at hok
      · cases hok
      · cases hok
        exact hinserted address haddress
    · cases hok
      exact hinserted address haddress

theorem joinInitial {evicted : SessionRegistry} (hevicted : TablesAgree text evicted)
    (heffect : RegistryEffect r evicted none displaced none none)
    (habsent : ∀ name, evicted.sessionByPeer.lookup name ≠ some session)
    (hcreated : session < evicted.created)
    (hpeerID : (evicted.sessions session).serverPeerID = none)
    (haddress : (evicted.sessions session).remoteAddress = some address)
    (hne : displaced ≠ some session) (initialPeerAddress : String) :
    TablesAgree text { evicted.bindPeerAddressLocked initialPeerAddress session with
      udpInitialSessionByAddress := AList.insert (text address) session
        (evicted.bindPeerAddressLocked initialPeerAddress session).udpInitialSessionByAddress } ∧
    RegistryEffect r { evicted.bindPeerAddressLocked initialPeerAddress session with
      udpInitialSessionByAddress := AList.insert (text address) session
        (evicted.bindPeerAddressLocked initialPeerAddress session).udpInitialSessionByAddress }
      (some session) displaced none none := by
  obtain ⟨hagree, hregistered⟩ :=
    hevicted.bindPeerAddressLocked habsent hcreated hpeerID initialPeerAddress
  have hbind := hevicted.effect_bindPeerAddressLocked habsent hcreated hpeerID initialPeerAddress
  have hself := (hregistered session).mpr (.inr rfl)
  refine ⟨hagree.insertInitial hself (by rw [hbind.remoteAddress session (by simp), haddress]),
    heffect.trans { hbind with initial := ?_ } ?_⟩
  · intro key other hfound
    rcases lookup_insert.mp hfound with ⟨-, rfl⟩ | ⟨-, hbefore⟩
    · exact .inr rfl
    · exact .inl hbefore
  · rintro _ ⟨⟩
    exact hne

section

variable (h : TablesAgree text r)

include h

theorem registerInitialSession (habsent : ∀ name, r.sessionByPeer.lookup name ≠ some session)
    (hcreated : session < r.created) (hpeerID : (r.sessions session).serverPeerID = none)
    {initialPeerAddress : String} (haddress : (r.sessions session).remoteAddress = some address)
    (hok : r.registerInitialSession text running initialPeerAddress session address =
      .ok (displaced, r')) :
    TablesAgree text r' ∧ RegistryEffect r r' (some session) displaced none none ∧
      ∀ existing, displaced = some existing →
        ∃ key, r.udpInitialSessionByAddress.lookup key = some existing := by
  unfold SessionRegistry.registerInitialSession at hok
  split at hok
  · cases hok
  split at hok
  · cases hok
  obtain ⟨hdisplaced, rfl⟩ := Prod.mk.inj (Except.ok.inj hok)
  have hfound : ∀ existing, displaced = some existing → existing ≠ session ∧
      r.udpInitialSessionByAddress.lookup (text address) = some existing := by
    rintro existing rfl
    split at hdisplaced
    · next existing' hlookup =>
      split at hdisplaced
      · cases hdisplaced
      · next hother =>
        cases hdisplaced
        exact ⟨hother, hlookup⟩
    · cases hdisplaced
  have hne : displaced ≠ some session := fun heq => (hfound session heq).1 rfl
  rw [← and_assoc]
  refine ⟨?_, fun existing heq => ⟨text address, (hfound existing heq).2⟩⟩
  rw [hdisplaced]
  cases displaced with
  | none =>
    exact joinInitial h effect_refl habsent hcreated hpeerID haddress hne
      initialPeerAddress
  | some existing =>
    have hexisting := h.lt_created (h.initial _ _ (hfound existing rfl).2).1
    refine joinInitial (h.evict existing) (h.effect_evict hexisting) ?_ hcreated
      hpeerID haddress hne
      initialPeerAddress
    intro name hfound
    exact habsent name ((h.lookup_peer_evict existing name session).mp hfound).1

/-- A promotion leaves no entry of the session in the initial slots. -/
theorem promoteFrom (haddress : (r.sessions session).remoteAddress = some address)
    (hpromoted : r.promoteFrom text session address = some (displaced, r')) :
    TablesAgree text r' ∧ RegistryEffect r r' none displaced none none ∧
      ∀ key, r'.udpInitialSessionByAddress.lookup key ≠ some session := by
  obtain ⟨hslot, hfound⟩ := promoteFrom_eq_some hpromoted
  unfold SessionRegistry.promoteFrom at hpromoted
  rw [if_neg (not_not.mpr hslot)] at hpromoted
  obtain ⟨hdisplaced, rfl⟩ := Prod.mk.inj (some.inj hpromoted)
  have hfreed := h.eraseInitial (text address)
  have hself : r.Registered session := (h.initial _ session hslot).1
  have hrest : ∀ evicted : SessionRegistry, TablesAgree text evicted →
      RegistryEffect { r with udpInitialSessionByAddress :=
        r.udpInitialSessionByAddress.erase (text address) } evicted none displaced none none →
      evicted.Registered session →
      TablesAgree text { evicted with
        udpSessionByAddress := evicted.udpSessionByAddress.insert (text address) session } ∧
      RegistryEffect r { evicted with
        udpSessionByAddress := evicted.udpSessionByAddress.insert (text address) session }
        none displaced none none ∧
      ∀ key, evicted.udpInitialSessionByAddress.lookup key ≠ some session := by
    intro evicted hevicted heffect hregistered
    have hslots : ∀ key other, evicted.udpInitialSessionByAddress.lookup key = some other →
        key ≠ text address ∧ r.udpInitialSessionByAddress.lookup key = some other := by
      intro key other hfound
      exact lookup_erase.mp
        ((heffect.initial key other hfound).resolve_right (by simp))
    refine ⟨hevicted.insertAddress hregistered ?_, { heffect with initial := ?_ }, ?_⟩
    · rw [heffect.remoteAddress session (by simp)]
      exact haddress
    · intro key other hfound
      exact .inl (hslots key other hfound).2
    · intro key hfound
      obtain ⟨hkey, hbefore⟩ := hslots key session hfound
      obtain ⟨-, address', haddress', rfl⟩ := h.initial key session hbefore
      rw [haddress] at haddress'
      cases haddress'
      exact hkey rfl
  rw [hdisplaced]
  cases displaced with
  | none => exact hrest _ hfreed effect_refl hself
  | some existing =>
    obtain ⟨hother, hlookup⟩ := hfound existing rfl
    have hexisting := h.lt_created (h.address _ _ hlookup).1
    exact hrest _ (hfreed.evict existing) (hfreed.effect_evict hexisting)
      (hfreed.stays_evict existing hother.symm hself)

theorem enablePeerID {maxClients : Nat} (hok : r.enablePeerID running maxClients session = .ok r') :
    TablesAgree text r' ∧ RegistryEffect r r' none none none none := by
  unfold SessionRegistry.enablePeerID at hok
  dsimp only at hok
  split at hok
  · cases hok
  split at hok
  · cases hok
  next hregistered =>
  rw [not_not] at hregistered
  split at hok
  · cases hok
    exact ⟨h, effect_refl⟩
  next hnone =>
  rw [Bool.not_eq_true, isSome_eq_false_iff, isNone_iff_eq_none] at hnone
  split at hok
  · cases hok
  next peerID hallocated =>
  cases hok
  have hfree : r.sessionByPeerID.lookup peerID = none := by
    have hfound := List.find?_some hallocated
    exact of_decide_eq_true hfound
  have heffect : RegistryEffect r (r.setSession session
      { r.sessions session with serverPeerID := some peerID }) none none none none :=
    h.effect_setSession rfl rfl
  exact ⟨h.insertPeerID hregistered hfree hnone, { heffect with }⟩

theorem setAuthenticatedIdentity
    (hnone : ∀ identity, r.sessionByIdentity.lookup identity ≠ some session) (identity : String) :
    TablesAgree text (r.setAuthenticatedIdentity session identity) ∧
      RegistryEffect r (r.setAuthenticatedIdentity session identity) none none none none :=
  ⟨h.setSession (fun _ => rfl) (fun _ => rfl) (fun _ hfound => absurd hfound (hnone _))
    fun _ _ => rfl, h.effect_setSession rfl rfl⟩

theorem bindAuthenticatedIdentity {existing : Option Nat}
    (hne : (r.sessions session).authenticatedIdentity ≠ "")
    (hok : r.bindAuthenticatedIdentity running false session = .ok (existing, r')) :
    TablesAgree text r' ∧ RegistryEffect r r' none none (some session) none := by
  obtain ⟨hregistered, -, rfl⟩ := bindAuthenticatedIdentity_eq_ok hne hok
  refine ⟨h.insertIdentity hregistered rfl hne,
    { effect_refl with initial := fun _ _ => .inl, identity := ?_, kept := nofun }⟩
  intro identity other hfound
  rcases lookup_insert.mp hfound with ⟨-, rfl⟩ | ⟨-, hbefore⟩
  · exact .inr rfl
  · exact .inl hbefore

theorem bindSource (hregistered : r.Registered session)
    (hinitial : ∀ key, r.udpInitialSessionByAddress.lookup key ≠ some session)
    (sourceAddress : NetAddr) :
    TablesAgree text (r.bindSource text session sourceAddress) ∧
      RegistryEffect r (r.bindSource text session sourceAddress) none none none (some session) := by
  have hfloated : FloatedTo text r (r.bindSource text session sourceAddress) session
      sourceAddress := floatedTo_bindSource r session sourceAddress
  have hsame : ∀ other, (r.bindSource text session sourceAddress).Registered other ↔
      r.Registered other := by
    intro other
    apply h.registered_setSession
    exact fun _ => rfl
  -- without the table of addresses nothing is found by the address of the session
  have hrest : TablesAgree text { r with udpSessionByAddress := ∅ } := { h with address := nofun }
  have hset :
    TablesAgree text (SessionRegistry.setSession { r with udpSessionByAddress := ∅ } session
      { r.sessions session with remoteAddress := some sourceAddress }) :=
    hrest.setSession (fun _ => rfl) (fun _ => rfl) (fun _ _ => rfl) (by simp [hinitial])
  refine ⟨{ hset with address := ?_ },
    { effect_refl with registered := ?_, remoteAddress := ?_ }⟩
  · intro key other hfound
    rw [hsame]
    by_cases heq : other = session
    · subst heq
      exact ⟨hregistered, sourceAddress, hfloated.remoteAddress, (hfloated.bound key).mp hfound⟩
    · rw [hfloated.others other heq]
      exact h.address key other (hfloated.boundOthers key other heq hfound)
  · intro other hother
    exact ⟨.inl ((hsame other).mp hother), by simp⟩
  · intro other hmoves
    exact hfloated.others other fun heq => hmoves (congrArg some heq.symm)

/-- A session that floats is registered, and not in an initial slot any more. -/
theorem floatUDPSessionToSource
    (hinitial : ∀ key, r.udpInitialSessionByAddress.lookup key ≠ some session)
    {sourceAddress : NetAddr}
    (hfloats : r.floatUDPSessionToSource text session sourceAddress = some (displaced, r')) :
    TablesAgree text r' ∧ RegistryEffect r r' none displaced none (some session) := by
  unfold SessionRegistry.floatUDPSessionToSource at hfloats
  split at hfloats
  · cases hfloats
  next hregistered =>
  have hself : r.Registered session := by
    rw [Bool.not_eq_true', Bool.not_eq_false, registered, Bool.and_eq_true,
      decide_eq_true_eq] at hregistered
    exact hregistered.1
  split at hfloats
  · next existing hexisting =>
    split at hfloats
    · cases hfloats
    obtain ⟨rfl, rfl⟩ := Prod.mk.inj (some.inj hfloats)
    obtain ⟨hlookup, hother⟩ := mem_filter_iff.mp (mem_def.mpr hexisting)
    have hne : session ≠ existing := (of_decide_eq_true hother).symm
    have heffect := h.effect_evict (h.lt_created (h.address _ _ hlookup).1)
    obtain ⟨hagree, hbind⟩ := (h.evict existing).bindSource
      (h.stays_evict existing hne hself)
      (fun key hfound => hinitial key (lookup_removeSession.mp hfound).1) sourceAddress
    exact ⟨hagree, heffect.trans hbind (by simp)⟩
  · obtain ⟨rfl, rfl⟩ := Prod.mk.inj (some.inj hfloats)
    exact h.bindSource hself hinitial sourceAddress

end

end TablesAgree

end SessionRegistry

end SingOpenVPN
