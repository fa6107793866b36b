import SingOpenVPN.Packet

/-!
# Session ids and packet id counters (`proto/session.go`)

A session manager holds the two session ids of a key state and the counters the
control and the data packet ids come from.  Both counters stop one short of
`2^32 - 1` instead of wrapping.  The negotiation state is left out: nothing
modelled here reads it.
-/

namespace SingOpenVPN

/-- `SessionManager`.  `remoteSessionID` is `none` while `hasRemoteSessionID` is
    false. -/
structure SessionManager where
  keyID : UInt8
  localSessionID : SessionID
  remoteSessionID : Option SessionID
  localControlPacketID : PacketID
  localDataPacketID : PacketID
deriving DecidableEq

/-- `ErrMissingRemoteSessionID`, `ErrPacketIDExpired` and `ErrInvalidOpcode`. -/
inductive SessionError where
  | missingRemoteSessionID
  | packetIDExpired
  | invalidOpcode
deriving DecidableEq, Repr

def newSessionManagerWithLocalID (localSessionID : SessionID) : SessionManager where
  keyID := 0
  localSessionID := localSessionID
  remoteSessionID := none
  localControlPacketID := 1
  localDataPacketID := 1

def keyIDMaxValue : UInt8 := 7

/-- `NextKeyID`: key id zero belongs to the initial key alone. -/
def nextKeyID (keyID : UInt8) : UInt8 :=
  if keyIDMaxValue ≤ keyID then 1 else if keyID + 1 = 0 then 1 else keyID + 1

namespace SessionManager

variable (m : SessionManager)

def setRemoteSessionID (remoteSessionID : SessionID) : SessionManager :=
  { m with remoteSessionID := some remoteSessionID }

/-- `ValidateIncomingRemoteSessionID`: checked only when there are
    acknowledgments. -/
def validateIncomingRemoteSessionID (packet : Packet) : Bool :=
  if packet.acknowledgmentIDs.length = 0 then true
  else if packet.remoteSessionID = unsetSessionID then false
  else packet.remoteSessionID = m.localSessionID

def validateIncomingLocalSessionID (packet : Packet) : Bool :=
  match m.remoteSessionID with
  | none => false
  | some remoteSessionID => packet.localSessionID = remoteSessionID

/-- `NewRenegotiationSessionManager`: the same session ids, fresh counters. -/
def newRenegotiationSessionManager (keyID : UInt8) : SessionManager :=
  { newSessionManagerWithLocalID m.localSessionID with
    keyID := keyID
    remoteSessionID := m.remoteSessionID }

def newSoftResetPacket : Except SessionError Packet :=
  match m.remoteSessionID with
  | none => .error .missingRemoteSessionID
  | some remoteSessionID => .ok { newPacket .controlSoftResetV1 m.keyID [] with
      localSessionID := m.localSessionID
      remoteSessionID := remoteSessionID }

def newAcknowledgmentPacket (acknowledgmentIDs : List PacketID) :
    Except SessionError Packet :=
  match m.remoteSessionID with
  | none => .error .missingRemoteSessionID
  | some remoteSessionID => .ok { newPacket .acknowledgmentV1 m.keyID [] with
      localSessionID := m.localSessionID
      acknowledgmentIDs := acknowledgmentIDs
      remoteSessionID := remoteSessionID }

def newControlPacket (opcode : Opcode) (payload : Bytes) :
    Except SessionError (Packet × SessionManager) :=
  if opcode.isControl = false then .error .invalidOpcode
  else if m.localControlPacketID.toNat = 2 ^ 32 - 1 then .error .packetIDExpired
  else .ok
    ({ newPacket opcode m.keyID payload with
        localSessionID := m.localSessionID
        id := m.localControlPacketID
        remoteSessionID := m.remoteSessionID.getD unsetSessionID },
      { m with localControlPacketID := m.localControlPacketID + 1 })

/-- `NewDataPacketIDs`: `count` consecutive ids, or none at all. -/
def newDataPacketIDs (opcode : Opcode) (count : Int) :
    Except SessionError (List PacketID × SessionManager) :=
  if opcode.isData = false then .error .invalidOpcode
  else if count = 0 then .ok ([], m)
  else
    let availablePacketIDs : Nat := 2 ^ 32 - 1 - m.localDataPacketID.toNat
    if count < 0 ∨ availablePacketIDs < count.toNat then .error .packetIDExpired
    else .ok
      ((List.range count.toNat).map fun index => m.localDataPacketID + UInt32.ofNat index,
        { m with localDataPacketID := m.localDataPacketID + UInt32.ofNat count.toNat })

/-! ### What a fresh control packet looks like -/

variable {count : Nat} {opcode : Opcode} {packet : Packet} {m m' : SessionManager}

theorem newControlPacket_eq_ok {payload : Bytes}
    (h : m.newControlPacket opcode payload = .ok (packet, m')) :
    packet.opcode = opcode ∧ packet.payload = payload ∧ packet.id = m.localControlPacketID ∧
      packet.acknowledgmentIDs = [] ∧ m.localControlPacketID.toNat < 2 ^ 32 - 1 ∧
      m' = { m with localControlPacketID := m.localControlPacketID + 1 } := by
  unfold newControlPacket at h
  split at h
  · cases h
  · split at h
    · cases h
    · next hid =>
      cases h
      have hlt := m.localControlPacketID.toNat_lt
      exact ⟨rfl, rfl, rfl, rfl, by omega, rfl⟩

theorem newAcknowledgmentPacket_eq_ok {acknowledgmentIDs : List PacketID}
    (h : m.newAcknowledgmentPacket acknowledgmentIDs = .ok packet) :
    packet.opcode = .acknowledgmentV1 ∧ packet.acknowledgmentIDs = acknowledgmentIDs := by
  unfold newAcknowledgmentPacket at h
  split at h
  · cases h
  · cases h
    exact ⟨rfl, rfl⟩

/-- `count` consecutive ids from the counter on, which moves behind them without
    reaching the end of the id space. -/
theorem newDataPacketIDs_eq_ok {ids : List PacketID} (hcount : 0 < count)
    (h : m.newDataPacketIDs opcode count = .ok (ids, m')) :
    ids.map UInt32.toNat = List.range' m.localDataPacketID.toNat count ∧
      m'.localDataPacketID.toNat = m.localDataPacketID.toNat + count ∧
      m.localDataPacketID.toNat + count ≤ 2 ^ 32 - 1 ∧
      m' = { m with localDataPacketID := m'.localDataPacketID } := by
  unfold newDataPacketIDs at h
  split at h
  · cases h
  rw [if_neg (by omega)] at h
  dsimp only at h
  split at h
  · cases h
  next havailable =>
  cases h
  have hend : m.localDataPacketID.toNat + count ≤ 2 ^ 32 - 1 := by omega
  have hadd : ∀ index ≤ count, (m.localDataPacketID + UInt32.ofNat index).toNat =
      m.localDataPacketID.toNat + index := by
    intro index hindex
    rw [UInt32.toNat_add, UInt32.toNat_ofNat', Nat.mod_eq_of_lt (a := index) (by omega),
      Nat.mod_eq_of_lt (by omega)]
  refine ⟨?_, hadd count (le_refl _), hend, rfl⟩
  rw [List.map_map, List.range'_eq_map_range]
  refine List.map_congr_left fun index hindex => ?_
  exact hadd index (le_of_lt (List.mem_range.mp hindex))

theorem newDataPacketIDs_exhausted (hopcode : opcode.isData = true) (hcount : 0 < count)
    (h : m.localDataPacketID.toNat = 2 ^ 32 - 1) :
    m.newDataPacketIDs opcode count = .error .packetIDExpired := by
  unfold newDataPacketIDs
  rw [if_neg (by simp [hopcode]), if_neg (by omega)]
  rw [if_pos (.inr (by omega))]

theorem toNat_succ_of_lt {id : UInt32} (h : id.toNat < 2 ^ 32 - 1) :
    (id + 1).toNat = id.toNat + 1 := by
  exact Nat.mod_eq_of_lt (by simp; omega)

end SessionManager

end SingOpenVPN
