import SingOpenVPN.Packet
import SingOpenVPN.StaticKey

/-!
# Session-id cookies (`session_id_hmac.go`)

A UDP server answers an initial reset with a session id it derives from the
client's address and session id and the time, and keeps nothing.  The client
proves that it receives at its address by echoing that session id.

The derived id is a truncated HMAC.  Time enters as the number of a half
handshake window, a *bucket*; an echo is accepted for the current bucket, the two
before it and the one after it.  Here it is shown that the HMAC input determines
the bucket, the address and the client's session id, and which buckets are
accepted how long after the issue.
-/

namespace SingOpenVPN

open ByteCodec List

/-! ### Addresses -/

/-- `net.UDPAddr`.  An IP is a byte string, valid with four or sixteen bytes. -/
structure UDPAddr where
  ip : Bytes
  port : UInt16
  zone : Bytes
deriving DecidableEq, Repr

/-- A `net.Addr`: that of a UDP peer, or any other with its network and text. -/
inductive NetAddr where
  | udp (address : UDPAddr)
  | other (network address : Bytes)
deriving DecidableEq, Repr

/-- The twelve bytes in front of an IPv4 address that is written as an IPv6 one. -/
def v4InV6Prefix : Bytes := [0, 0, 0, 0, 0, 0, 0, 0, 0, 0, 0xff, 0xff]

def to4 (ip : Bytes) : Option Bytes :=
  if ip.length = 4 then some ip
  else if ip.length = 16 ∧ ip.take 12 = v4InV6Prefix then some (ip.drop 12)
  else none

def to16 (ip : Bytes) : Option Bytes :=
  if ip.length = 4 then some (v4InV6Prefix ++ ip)
  else if ip.length = 16 then some ip
  else none

def UDPAddr.Valid (address : UDPAddr) : Prop :=
  address.ip.length = 4 ∨ address.ip.length = 16

/-- The same IP address, written in four or in sixteen bytes, the same port and
the same zone. -/
structure UDPAddr.Same (address address' : UDPAddr) : Prop where
  ip : to16 address.ip = to16 address'.ip
  port : address.port = address'.port
  zone : address.zone = address'.zone

/-- The family byte and the IP bytes `sessionIDHMACAddress` writes. -/
def familyAndIP (ip : Bytes) : UInt8 × Bytes :=
  match to4 ip with
  | some ipv4Address => (4, ipv4Address)
  | none => (6, (to16 ip).getD [])

def sessionIDHMACAddress : Option NetAddr → Bytes
  | none => []
  | some (.other network address) =>
    putBE 2 network.length ++ network ++ putBE 2 address.length ++ address
  | some (.udp address) =>
    (familyAndIP address.ip).1 :: ((familyAndIP address.ip).2 ++ (putBE 2 address.port.toNat ++
      (putBE 2 address.zone.length ++ address.zone)))

/-! ### Deriving and validating -/

def defaultHandshakeWindowSeconds : Int := 60

structure SessionIDHMACSigner where
  hmacKey : Bytes
  handwindow : Int

/-- `newSessionIDHMACSigner` with the key it read. -/
def newSessionIDHMACSigner (hmacKey : Bytes) : SessionIDHMACSigner :=
  { hmacKey, handwindow := defaultHandshakeWindowSeconds }

variable (s : SessionIDHMACSigner)

namespace SessionIDHMACSigner

/-- The bucket of a time in seconds, in 32 bits.  Go's division truncates. -/
def bucketAt (currentTime offset : Int) : BitVec 32 :=
  BitVec.ofInt 32 (currentTime.tdiv ((s.handwindow + 1).tdiv 2)) + BitVec.ofInt 32 offset

def cookieInput (clientSessionID : SessionID)
    (peerAddress : Option NetAddr) (currentTime offset : Int) : Bytes :=
  putBE 4 (s.bucketAt currentTime offset).toNat ++
    (sessionIDHMACAddress peerAddress ++ clientSessionID.toList)

variable (crypto : CryptoPrimitives)

def truncatedHMAC (input : Bytes) : SessionID :=
  ⟨(crypto.hmac .sha256 s.hmacKey input).take 8, by
    rw [List.length_take, crypto.length_hmac]
    rfl⟩

def deriveSessionIDAt (clientSessionID : SessionID)
    (peerAddress : Option NetAddr) (currentTime offset : Int) : SessionID :=
  s.truncatedHMAC crypto (s.cookieInput clientSessionID peerAddress currentTime offset)

/-- From `sessionIDHMACPastBuckets` before to `sessionIDHMACFutureBuckets` after. -/
def validationOffsets : List Int := [-2, -1, 0, 1]

def validateAt (expectedClientSessionID : SessionID)
    (peerAddress : Option NetAddr) (serverSessionID : SessionID) (currentTime : Int) : Bool :=
  validationOffsets.any fun offset =>
    decide (s.deriveSessionIDAt crypto expectedClientSessionID peerAddress currentTime offset
      = serverSessionID)

end SessionIDHMACSigner

/-! ### The HMAC input determines what it is made of -/

theorem familyAndIP_length (ip : Bytes) (hip : ip.length = 4 ∨ ip.length = 16) :
    ((familyAndIP ip).1 = 4 ∧ (familyAndIP ip).2.length = 4) ∨
      ((familyAndIP ip).1 = 6 ∧ (familyAndIP ip).2.length = 16) := by
  unfold familyAndIP to4 to16
  rcases hip with hip | hip
  · simp [hip]
  · by_cases hmapped : ip.take 12 = v4InV6Prefix
    · simp [hip, hmapped]
    · simp [hip, hmapped]

theorem to16_eq_of_familyAndIP (ip : Bytes) (hip : ip.length = 4 ∨ ip.length = 16) :
    to16 ip = some (if (familyAndIP ip).1 = 4 then v4InV6Prefix ++ (familyAndIP ip).2
      else (familyAndIP ip).2) := by
  unfold familyAndIP to4 to16
  rcases hip with hip | hip
  · simp [hip]
  · by_cases hmapped : ip.take 12 = v4InV6Prefix
    · have hsplit : v4InV6Prefix ++ ip.drop 12 = ip := by
        rw [← hmapped, take_append_drop]
      simp [hip, hmapped, hsplit]
    · simp [hip, hmapped]

/-- **The encoding of a valid UDP address determines its IP, port and zone.** -/
theorem sessionIDHMACAddress_inj {address address' : UDPAddr} (hvalid : address.Valid)
    (hvalid' : address'.Valid)
    (h : sessionIDHMACAddress (some (.udp address)) = sessionIDHMACAddress (some (.udp address'))) :
    address.Same address' := by
  simp only [sessionIDHMACAddress, List.cons.injEq] at h
  obtain ⟨hfamily, h⟩ := h
  -- the family says how many bytes the IP takes
  have hlength : (familyAndIP address.ip).2.length = (familyAndIP address'.ip).2.length := by
    rcases familyAndIP_length _ hvalid with ⟨h1, h2⟩ | ⟨h1, h2⟩ <;>
      rcases familyAndIP_length _ hvalid' with ⟨h1', h2'⟩ | ⟨h1', h2'⟩ <;>
      simp_all
  obtain ⟨hip, h⟩ := append_inj h hlength
  obtain ⟨hport, h⟩ := append_inj h (by simp)
  obtain ⟨-, hzone⟩ := append_inj h (by simp)
  refine ⟨?_, ?_, hzone⟩
  · rw [to16_eq_of_familyAndIP _ hvalid, to16_eq_of_familyAndIP _ hvalid', hfamily, hip]
  · exact UInt16.toNat_inj.mp
      (putBE_inj (UInt16.toNat_lt address.port) (UInt16.toNat_lt address'.port) hport)

/-- The bytes the signer writes for an address as a key of the server's tables.  It tells
addresses apart, as the text of `net.UDPAddr.String` does. -/
def NetAddr.keyText (address : NetAddr) : String :=
  String.ofList ((sessionIDHMACAddress (some address)).map Char.ofUInt8)

theorem same_of_keyText_eq {address address' : UDPAddr} (hvalid : address.Valid)
    (hvalid' : address'.Valid)
    (h : (NetAddr.udp address).keyText = (NetAddr.udp address').keyText) :
    address.Same address' := by
  have hbytes : Function.Injective Char.ofUInt8 := fun _ _ hchar =>
    UInt8.toUInt32_inj.mp (congrArg Char.val hchar)
  exact sessionIDHMACAddress_inj hvalid hvalid'
    (map_injective_iff.mpr hbytes (String.ofList_injective h))

theorem familyAndIP_of_to16 {ip full : Bytes} (hfull : to16 ip = some full) :
    familyAndIP ip = if full.take 12 = v4InV6Prefix then (4, full.drop 12) else (6, full) := by
  unfold to16 at hfull
  split at hfull
  · rename_i hfour
    cases hfull
    have htake : (v4InV6Prefix ++ ip).take 12 = v4InV6Prefix := take_left' rfl
    have hdrop : (v4InV6Prefix ++ ip).drop 12 = ip := drop_left' rfl
    simp [familyAndIP, to4, hfour, htake, hdrop]
  · split at hfull
    · rename_i hsixteen
      cases hfull
      by_cases hmapped : ip.take 12 = v4InV6Prefix
      · simp [familyAndIP, to4, hsixteen, hmapped]
      · simp [familyAndIP, to4, to16, hsixteen, hmapped]
    · cases hfull

theorem UDPAddr.Same.encoding {address address' : UDPAddr} (h : address.Same address')
    (hvalid : address.Valid) :
    sessionIDHMACAddress (some (.udp address)) = sessionIDHMACAddress (some (.udp address')) := by
  obtain ⟨full, hfull⟩ : ∃ full, to16 address.ip = some full :=
    ⟨_, to16_eq_of_familyAndIP address.ip hvalid⟩
  have hfamily : familyAndIP address.ip = familyAndIP address'.ip := by
    rw [familyAndIP_of_to16 hfull, familyAndIP_of_to16 (h.ip ▸ hfull)]
  simp only [sessionIDHMACAddress, hfamily, h.port, h.zone]

namespace SessionIDHMACSigner

variable {s : SessionIDHMACSigner} {clientSessionID clientSessionID' : SessionID}
  {currentTime currentTime' offset offset' : Int}

theorem cookieInput_inj {address address' : UDPAddr} (hvalid : address.Valid)
    (hvalid' : address'.Valid)
    (h : s.cookieInput clientSessionID (some (.udp address)) currentTime offset
      = s.cookieInput clientSessionID' (some (.udp address')) currentTime' offset') :
    s.bucketAt currentTime offset = s.bucketAt currentTime' offset' ∧ address.Same address' ∧
      clientSessionID = clientSessionID' := by
  obtain ⟨hbucket, h⟩ := append_inj h (by simp)
  obtain ⟨haddress, hsessionID⟩ := append_inj' h (by simp)
  refine ⟨?_, sessionIDHMACAddress_inj hvalid hvalid' haddress, Subtype.ext hsessionID⟩
  exact BitVec.eq_of_toNat_eq
    (putBE_inj (s.bucketAt currentTime offset).isLt (s.bucketAt currentTime' offset').isLt hbucket)

/-! ### Buckets and seconds -/

def bucketNumber (currentTime : Int) : Int := currentTime.tdiv 30

theorem bucketAt_eq (hmacKey : Bytes) (currentTime offset : Int) :
    (newSessionIDHMACSigner hmacKey).bucketAt currentTime offset
      = BitVec.ofInt 32 (bucketNumber currentTime + offset) := by
  rw [BitVec.ofInt_add]
  rfl

/-- Two buckets are equal in 32 bits when they are a multiple of `2 ^ 32` apart. -/
theorem bucketAt_eq_iff (hmacKey : Bytes) (currentTime offset currentTime' offset' : Int) :
    (newSessionIDHMACSigner hmacKey).bucketAt currentTime offset
        = (newSessionIDHMACSigner hmacKey).bucketAt currentTime' offset' ↔
      (bucketNumber currentTime + offset - (bucketNumber currentTime' + offset')) % 2 ^ 32 = 0 := by
  rw [bucketAt_eq, bucketAt_eq, ← BitVec.toNat_inj, BitVec.toNat_ofInt, BitVec.toNat_ofInt]
  omega

theorem three_le_bucketNumber_sub {issued checked : Int} (hissued : 0 ≤ issued)
    (hlate : 90 < checked - issued) : 3 ≤ bucketNumber checked - bucketNumber issued := by
  unfold bucketNumber
  rw [Int.tdiv_eq_ediv_of_nonneg hissued, Int.tdiv_eq_ediv_of_nonneg (by omega)]
  omega

theorem bucketNumber_sub_le_two {issued checked : Int} (horder : issued ≤ checked)
    (hsoon : checked - issued ≤ 60) :
    0 ≤ bucketNumber checked - bucketNumber issued ∧
      bucketNumber checked - bucketNumber issued ≤ 2 := by
  unfold bucketNumber
  rw [Int.tdiv_eq_ediv, Int.tdiv_eq_ediv, show Int.sign 30 = 1 from rfl]
  split <;> split <;> omega

/-! ### What a cookie is good for -/

/-- The inputs compared when a cookie issued at one time is checked at another. -/
def comparedInputs (clientSessionID : SessionID) (address : UDPAddr)
    (issued : Int) (clientSessionID' : SessionID) (address' : UDPAddr) (checked : Int) :
    List Bytes :=
  s.cookieInput clientSessionID (some (.udp address)) issued 0 ::
    validationOffsets.map (s.cookieInput clientSessionID' (some (.udp address')) checked)

/-- No two different ones of the inputs have the same truncated HMAC. -/
def CollisionFree (crypto : CryptoPrimitives) (s : SessionIDHMACSigner) (inputs : List Bytes) :
    Prop :=
  ∀ input ∈ inputs, ∀ input' ∈ inputs,
    s.truncatedHMAC crypto input = s.truncatedHMAC crypto input' → input = input'

instance (crypto : CryptoPrimitives) (s : SessionIDHMACSigner) (inputs : List Bytes) :
    Decidable (CollisionFree crypto s inputs) :=
  inferInstanceAs (Decidable (∀ input ∈ inputs, ∀ input' ∈ inputs, _ → _))

variable {crypto : CryptoPrimitives} {hmacKey : Bytes} {address address' : UDPAddr}
  {issued checked : Int}

theorem validateAt_eq_true {peerAddress : Option NetAddr} {serverSessionID : SessionID} :
    s.validateAt crypto clientSessionID peerAddress serverSessionID checked = true ↔
      ∃ offset ∈ validationOffsets,
        s.deriveSessionIDAt crypto clientSessionID peerAddress checked offset
          = serverSessionID := by
  simp [validateAt]

/-- A cookie that validates was issued for the same address and client, in a
bucket that is a multiple of `2 ^ 32` away from an accepted one. -/
theorem bound_of_validateAt
    (hfree : CollisionFree crypto (newSessionIDHMACSigner hmacKey)
      ((newSessionIDHMACSigner hmacKey).comparedInputs clientSessionID address issued
        clientSessionID' address' checked))
    (hvalid : address.Valid) (hvalid' : address'.Valid)
    (h : (newSessionIDHMACSigner hmacKey).validateAt crypto clientSessionID' (some (.udp address'))
      ((newSessionIDHMACSigner hmacKey).deriveSessionIDAt crypto clientSessionID
        (some (.udp address)) issued 0) checked = true) :
    address.Same address' ∧ clientSessionID = clientSessionID' ∧
      ∃ offset ∈ validationOffsets,
        (bucketNumber checked - bucketNumber issued + offset) % 2 ^ 32 = 0 := by
  obtain ⟨offset, hoffset, hderived⟩ := validateAt_eq_true.mp h
  have hinput := hfree _ (mem_cons_of_mem _ (mem_map_of_mem hoffset)) _
    mem_cons_self hderived
  obtain ⟨hbucket, hsame, hclient⟩ := cookieInput_inj hvalid' hvalid hinput
  rw [bucketAt_eq_iff] at hbucket
  refine ⟨⟨hsame.ip.symm, hsame.port.symm, hsame.zone.symm⟩, hclient.symm, offset, hoffset, ?_⟩
  omega

theorem validateAt_of_soon (hsame : address.Same address') (hvalid : address.Valid)
    (horder : issued ≤ checked) (hsoon : checked - issued ≤ 60) :
    (newSessionIDHMACSigner hmacKey).validateAt crypto clientSessionID (some (.udp address'))
      ((newSessionIDHMACSigner hmacKey).deriveSessionIDAt crypto clientSessionID
        (some (.udp address)) issued 0) checked = true := by
  obtain ⟨hnonneg, htwo⟩ := bucketNumber_sub_le_two horder hsoon
  rw [validateAt_eq_true]
  refine ⟨bucketNumber issued - bucketNumber checked, ?_, ?_⟩
  · simp only [validationOffsets, mem_cons, not_mem_nil, or_false]
    omega
  · have hbucket : (newSessionIDHMACSigner hmacKey).bucketAt checked
        (bucketNumber issued - bucketNumber checked)
          = (newSessionIDHMACSigner hmacKey).bucketAt issued 0 := by
      rw [bucketAt_eq_iff]
      simp
    rw [deriveSessionIDAt, deriveSessionIDAt, cookieInput, cookieInput, hbucket,
      hsame.encoding hvalid]

/-- No bucket more than 90 seconds old is accepted, before the numbers wrap. -/
theorem not_accepted_of_late (hissued : 0 ≤ issued) (hlate : 90 < checked - issued)
    (hwrap : bucketNumber checked - bucketNumber issued < 2 ^ 32 - 1) {offset : Int}
    (hoffset : offset ∈ validationOffsets) :
    ¬ (bucketNumber checked - bucketNumber issued + offset) % 2 ^ 32 = 0 := by
  have hthree := three_le_bucketNumber_sub hissued hlate
  simp only [validationOffsets, mem_cons, not_mem_nil, or_false] at hoffset
  omega

end SessionIDHMACSigner

end SingOpenVPN
