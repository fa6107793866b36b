import SingOpenVPN.ByteCodec
import SingOpenVPN.GoText

/-!
# The key-method message (`key_method.go`)

Once TLS is up, each end sends one message with its share of the key material, its options
string, a user name and password and its peer info.  Every text is written with its length in
front and a NUL behind.

The parser takes numbers off the payload with `binary.Read`, which fails when bytes are
missing, and byte strings with `bytes.Reader.Read`, which does not: it reports what it
copied, the parser ignores the count, and what was not copied stays zero.  A short read uses
the payload up, so the next field fails — but the peer info has no next field.
`parseTLSKeyMethod2Payload_cut_fails_iff` says which cuts go unnoticed.
-/

namespace SingOpenVPN

open ByteCodec List

/-- A party's share of the key material; only the client has a pre-master secret. -/
structure TLSKeyMethodKeySource where
  preMaster : Bytes
  random1 : Bytes
  random2 : Bytes
deriving DecidableEq, Repr

structure TLSKeyMethodMessage where
  optionsString : Text
  username : Text
  password : Text
  peerInfo : Text
  keySource : TLSKeyMethodKeySource
deriving DecidableEq, Repr

inductive KeyMethodError where
  /-- "client key source pre-master must be 48 bytes" -/
  | preMasterSize
  /-- "key source random1 must be 32 bytes" -/
  | random1Size
  /-- "key source random2 must be 32 bytes" -/
  | random2Size
  /-- "length-prefixed string too long" -/
  | stringTooLong
  /-- "unsupported key-method" -/
  | unsupportedKeyMethod
  /-- `io.EOF` -/
  | endOfInput
  /-- `io.ErrUnexpectedEOF` -/
  | unexpectedEndOfInput
deriving DecidableEq, Repr

def tlsKeyMethod2 : UInt8 := 2

/-- The sizes `generateTLSKeyMethodKeySource` makes. -/
structure TLSKeyMethodKeySource.HasRequiredSizes (source : TLSKeyMethodKeySource)
    (server : Bool) : Prop where
  preMaster : source.preMaster.length = if server then 0 else 48
  random1 : source.random1.length = 32
  random2 : source.random2.length = 32

/-! ### Building -/

def writeLengthPrefixedString (value : Text) : Except KeyMethodError Bytes :=
  let stringBytes := value ++ [0]
  if 0xFFFF < stringBytes.length then .error .stringTooLong
  else .ok (putBE 2 stringBytes.length ++ stringBytes)

/-- A share of the key material, refused with `sizeError` unless it has the required size. -/
def writeKeySourcePart (size : Nat) (sizeError : KeyMethodError) (part : Bytes) :
    Except KeyMethodError Bytes :=
  if part.length ≠ size then .error sizeError else .ok part

/-- The server has no pre-master secret to send. -/
def writePreMaster (server : Bool) (source : TLSKeyMethodKeySource) :
    Except KeyMethodError Bytes :=
  if server then .ok [] else writeKeySourcePart 48 .preMasterSize source.preMaster

def buildTLSKeyMethod2Payload (server : Bool) (message : TLSKeyMethodMessage) :
    Except KeyMethodError Bytes := do
  let preMaster ← writePreMaster server message.keySource
  let random1 ← writeKeySourcePart 32 .random1Size message.keySource.random1
  let random2 ← writeKeySourcePart 32 .random2Size message.keySource.random2
  let optionsString ← writeLengthPrefixedString message.optionsString
  let username ← writeLengthPrefixedString message.username
  let password ← writeLengthPrefixedString message.password
  let peerInfo ← writeLengthPrefixedString message.peerInfo
  return putBE 4 0 ++ ([tlsKeyMethod2] ++ (preMaster ++ (random1 ++ (random2 ++
    (optionsString ++ (username ++ (password ++ peerInfo)))))))

/-! ### Parsing -/

def readNumber (width : Nat) (bytes : Bytes) : Except KeyMethodError (Nat × Bytes) :=
  match readFull width bytes with
  | some (number, rest) => .ok (getBE number, rest)
  | none => .error (if bytes = [] then .endOfInput else .unexpectedEndOfInput)

def readByte : Bytes → Except KeyMethodError (UInt8 × Bytes)
  | [] => .error .endOfInput
  | byte :: rest => .ok (byte, rest)

/-- `bytes.Reader.Read` into a fresh buffer of `count` bytes whose count of copied bytes the
caller ignores: an empty reader is at its end, and a short one leaves zeros behind. -/
def readBuffer (count : Nat) (bytes : Bytes) : Except KeyMethodError (Bytes × Bytes) :=
  if bytes = [] then .error .endOfInput
  else .ok ((bytes ++ List.replicate count 0).take count, bytes.drop count)

def readLengthPrefixedString (bytes : Bytes) : Except KeyMethodError (Text × Bytes) := do
  let (length, bytes) ← readNumber 2 bytes
  if length = 0 then .ok ([], bytes)
  else do
    let (stringBytes, bytes) ← readBuffer length bytes
    .ok (if stringBytes.getLast? = some 0 then stringBytes.dropLast else stringBytes, bytes)

/-- The high half of the key-method byte is ignored. -/
def readKeyMethod (bytes : Bytes) : Except KeyMethodError (UInt8 × Bytes) := do
  let (keyMethod, bytes) ← readByte bytes
  if keyMethod &&& 0x0F ≠ tlsKeyMethod2 then .error .unsupportedKeyMethod
  else .ok (keyMethod, bytes)

def readPreMaster (server : Bool) (bytes : Bytes) : Except KeyMethodError (Bytes × Bytes) :=
  if server then .ok ([], bytes) else readBuffer 48 bytes

def parseTLSKeyMethod2Payload (payload : Bytes) (server : Bool) :
    Except KeyMethodError TLSKeyMethodMessage := do
  let (_, reader) ← readNumber 4 payload
  let (_, reader) ← readKeyMethod reader
  let (preMaster, reader) ← readPreMaster server reader
  let (random1, reader) ← readBuffer 32 reader
  let (random2, reader) ← readBuffer 32 reader
  let (optionsString, reader) ← readLengthPrefixedString reader
  let (username, reader) ← readLengthPrefixedString reader
  let (password, reader) ← readLengthPrefixedString reader
  let (peerInfo, _) ← readLengthPrefixedString reader
  return {
    optionsString, username, password, peerInfo
    keySource := { preMaster, random1, random2 } }

/-! ### What each reader does with the bytes its writer wrote -/

variable {server : Bool} {written : Bytes} {count width : Nat} {value : Text} {β : Type}

variable {bytes field preMaster : Bytes} {cut number : Nat} {α : Type}

theorem readNumber_append (h : number < 256 ^ width) (rest : Bytes) :
    readNumber width (putBE width number ++ rest) = .ok (number, rest) := by
  rw [readNumber, readFull_append (length_putBE width number)]
  simp [getBE_putBE h]

theorem readBuffer_append {front : Bytes} (hlength : front.length = count) (hcount : 0 < count)
    (rest : Bytes) : readBuffer count (front ++ rest) = .ok (front, rest) := by
  subst hlength
  have hne : front ++ rest ≠ [] := by
    simp [ne_nil_of_length_pos hcount]
  simp [readBuffer, hne]

theorem writeLengthPrefixedString_eq_ok_iff :
    writeLengthPrefixedString value = .ok written ↔
      value.length < 0xFFFF ∧ written = putBE 2 (value.length + 1) ++ (value ++ [0]) := by
  rw [writeLengthPrefixedString]
  simp only [length_append, length_singleton]
  by_cases hlong : 0xFFFF < value.length + 1
  · rw [if_pos hlong]
    simp only [reduceCtorEq, false_iff, not_and]
    omega
  · rw [if_neg hlong, Except.ok.injEq, eq_comm (a := written)]
    exact ⟨fun h => ⟨by omega, h⟩, fun h => h.2⟩

theorem readLengthPrefixedString_append (h : writeLengthPrefixedString value = .ok written)
    (rest : Bytes) :
    readLengthPrefixedString (written ++ rest) = .ok (value, rest) := by
  obtain ⟨hlength, rfl⟩ := writeLengthPrefixedString_eq_ok_iff.mp h
  have hfits : value.length + 1 < 256 ^ 2 := by omega
  rw [readLengthPrefixedString, append_assoc, readNumber_append hfits]
  simp only [bind, Except.bind]
  rw [if_neg (Nat.succ_ne_zero _), readBuffer_append (by simp) (Nat.succ_pos _)]
  -- exactly one NUL was put behind the text, and exactly one is taken off
  simp

/-! ### The built payload, field by field -/

theorem writeKeySourcePart_eq_ok_iff {size : Nat} {sizeError : KeyMethodError} {part : Bytes} :
    writeKeySourcePart size sizeError part = .ok written ↔ part.length = size ∧ part = written := by
  rw [writeKeySourcePart]
  by_cases hsize : part.length = size
  · simp [hsize]
  · simp [hsize]

theorem writePreMaster_eq_ok {source : TLSKeyMethodKeySource}
    (h : writePreMaster server source = .ok written) :
    written.length = (if server then 0 else 48) ∧
      (server = false → written = source.preMaster) := by
  cases server with
  | true =>
    cases h
    simp
  | false =>
    obtain ⟨hsize, rfl⟩ := writeKeySourcePart_eq_ok_iff.mp h
    exact ⟨hsize, fun _ => rfl⟩

/-- A payload cut into the fields it was built from. -/
structure PayloadFields (server : Bool) (message : TLSKeyMethodMessage) (payload : Bytes) where
  preMaster : Bytes
  optionsString : Bytes
  username : Bytes
  password : Bytes
  peerInfo : Bytes
  preMaster_length : preMaster.length = if server then 0 else 48
  preMaster_eq : server = false → preMaster = message.keySource.preMaster
  random1_length : message.keySource.random1.length = 32
  random2_length : message.keySource.random2.length = 32
  optionsString_written : writeLengthPrefixedString message.optionsString = .ok optionsString
  username_written : writeLengthPrefixedString message.username = .ok username
  password_written : writeLengthPrefixedString message.password = .ok password
  peerInfo_written : writeLengthPrefixedString message.peerInfo = .ok peerInfo
  payload_eq : payload = putBE 4 0 ++ ([tlsKeyMethod2] ++ (preMaster ++
    (message.keySource.random1 ++ (message.keySource.random2 ++
      (optionsString ++ (username ++ (password ++ peerInfo)))))))

theorem payloadFields_of_build {message : TLSKeyMethodMessage} {payload : Bytes}
    (h : buildTLSKeyMethod2Payload server message = .ok payload) :
    Nonempty (PayloadFields server message payload) := by
  obtain ⟨preMaster, hpreMaster, h⟩ := bind_eq_ok.mp h
  obtain ⟨random1, hrandom1, h⟩ := bind_eq_ok.mp h
  obtain ⟨random2, hrandom2, h⟩ := bind_eq_ok.mp h
  obtain ⟨optionsString, hoptions, h⟩ := bind_eq_ok.mp h
  obtain ⟨username, husername, h⟩ := bind_eq_ok.mp h
  obtain ⟨password, hpassword, h⟩ := bind_eq_ok.mp h
  obtain ⟨peerInfo, hpeerInfo, h⟩ := bind_eq_ok.mp h
  cases h
  obtain ⟨hlength, hsent⟩ := writePreMaster_eq_ok hpreMaster
  obtain ⟨hsize1, rfl⟩ := writeKeySourcePart_eq_ok_iff.mp hrandom1
  obtain ⟨hsize2, rfl⟩ := writeKeySourcePart_eq_ok_iff.mp hrandom2
  exact ⟨{
    preMaster, optionsString, username, password, peerInfo
    preMaster_length := hlength
    preMaster_eq := hsent
    random1_length := hsize1
    random2_length := hsize2
    optionsString_written := hoptions
    username_written := husername
    password_written := hpassword
    peerInfo_written := hpeerInfo
    payload_eq := rfl }⟩

/-! ### Round trip -/

theorem readKeyMethod_append (rest : Bytes) :
    readKeyMethod ([tlsKeyMethod2] ++ rest) = .ok (tlsKeyMethod2, rest) := rfl

theorem readPreMaster_append (h : preMaster.length = if server then 0 else 48) (rest : Bytes) :
    readPreMaster server (preMaster ++ rest) = .ok (preMaster, rest) := by
  cases server with
  | true =>
    obtain rfl := eq_nil_of_length_eq_zero h
    rfl
  | false => exact readBuffer_append h (by decide) rest

/-- The parser returns the message of every payload the builder makes. -/
theorem parseTLSKeyMethod2Payload_build {server : Bool} {message : TLSKeyMethodMessage}
    {payload : Bytes} (hsizes : message.keySource.HasRequiredSizes server)
    (hbuild : buildTLSKeyMethod2Payload server message = .ok payload) :
    parseTLSKeyMethod2Payload payload server = .ok message := by
  obtain ⟨fields⟩ := payloadFields_of_build hbuild
  have hpreMaster : fields.preMaster = message.keySource.preMaster := by
    cases server with
    | true =>
      rw [eq_nil_of_length_eq_zero fields.preMaster_length,
        eq_nil_of_length_eq_zero hsizes.preMaster]
    | false => exact fields.preMaster_eq rfl
  have hpeerInfo := readLengthPrefixedString_append fields.peerInfo_written []
  rw [append_nil] at hpeerInfo
  rw [fields.payload_eq, hpreMaster, parseTLSKeyMethod2Payload]
  simp only [readNumber_append (show 0 < 256 ^ 4 by decide), readKeyMethod_append,
    readPreMaster_append hsizes.preMaster,
    readBuffer_append fields.random1_length (by decide),
    readBuffer_append fields.random2_length (by decide),
    readLengthPrefixedString_append fields.optionsString_written,
    readLengthPrefixedString_append fields.username_written,
    readLengthPrefixedString_append fields.password_written, hpeerInfo,
    bind, Except.bind, pure, Except.pure]

/-- A server's message with the peer info "IV" and a password that ends in a zero byte. -/
def shortServerMessage : TLSKeyMethodMessage where
  optionsString := ascii "V4"
  username := ascii "user"
  password := ascii "key" ++ [0]
  peerInfo := ascii "IV"
  keySource := {
    preMaster := []
    random1 := List.replicate 32 0
    random2 := List.replicate 32 0 }

theorem parseTLSKeyMethod2Payload_build_short :
    ∃ payload, buildTLSKeyMethod2Payload true shortServerMessage = .ok payload ∧
      parseTLSKeyMethod2Payload payload true = .ok shortServerMessage :=
  ⟨_, rfl, parseTLSKeyMethod2Payload_build ⟨rfl, rfl, rfl⟩ rfl⟩

/-! ### Cut payloads -/

def NeedsInput {α : Type} (reader : Bytes → Except KeyMethodError α) : Prop :=
  ∃ reason, reader [] = .error reason

/-- A reader that inverts a field and, given only a part of it, fails or uses it up. -/
structure ReadsField {α : Type} (reader : Bytes → Except KeyMethodError (α × Bytes))
    (field : Bytes) (value : α) : Prop where
  whole : ∀ rest, reader (field ++ rest) = .ok (value, rest)
  part : ∀ count < field.length, (∃ reason, reader (field.take count) = .error reason) ∨
    ∃ other, reader (field.take count) = .ok (other, [])

/-- A parser that reads a field first and then needs more input fails on a cut of the field
and its successors exactly if what follows fails on what is left of the successors. -/
theorem ReadsField.bind_fails_iff {reader : Bytes → Except KeyMethodError (α × Bytes)} {value : α}
    (h : ReadsField reader field value) {next : α × Bytes → Except KeyMethodError β}
    (hnext : ∀ other, NeedsInput fun rest => next (other, rest)) (rest : Bytes) (cut : Nat) :
    (∃ reason, (reader ((field ++ rest).take cut) >>= next) = .error reason) ↔
      ∃ reason, next (value, rest.take (cut - field.length)) = .error reason := by
  rcases lt_or_ge cut field.length with hcut | hcut
  · have hzero : cut - field.length = 0 := by omega
    rw [take_append_of_le_length hcut.le, hzero, take_zero]
    refine iff_of_true ?_ (hnext value)
    rcases h.part cut hcut with ⟨reason, hreason⟩ | ⟨other, hother⟩
    · exact ⟨reason, by rw [hreason]; rfl⟩
    · obtain ⟨reason, hreason⟩ := hnext other
      exact ⟨reason, by rw [hother]; exact hreason⟩
  · rw [take_append, take_of_length_le hcut, h.whole]
    rfl

theorem NeedsInput.bind {reader : Bytes → Except KeyMethodError α} (h : NeedsInput reader)
    (next : α → Except KeyMethodError β) :
    NeedsInput fun rest => reader rest >>= next := by
  obtain ⟨reason, hreason⟩ := h
  exact ⟨reason, by simp only [hreason]; rfl⟩

theorem readNumber_short (h : bytes.length < width) :
    ∃ reason, readNumber width bytes = .error reason := by
  have hnone : readFull width bytes = none := if_neg (Nat.not_le.mpr h)
  rw [readNumber, hnone]
  exact ⟨_, rfl⟩

theorem readBuffer_short (hpos : 0 < bytes.length) (h : bytes.length < count) :
    ∃ buffer, readBuffer count bytes = .ok (buffer, []) := by
  rw [readBuffer, if_neg (ne_nil_of_length_pos hpos), drop_of_length_le h.le]
  exact ⟨_, rfl⟩

theorem needsInput_readBuffer (count : Nat) : NeedsInput (readBuffer count) := ⟨_, rfl⟩

theorem needsInput_readLengthPrefixedString : NeedsInput readLengthPrefixedString := ⟨_, rfl⟩

theorem needsInput_keySource (server : Bool) (next : Bytes × Bytes → Except KeyMethodError β)
    (h : ∀ other, NeedsInput fun rest => next (other, rest)) :
    NeedsInput fun rest => readPreMaster server rest >>= next := by
  cases server with
  | true => exact h []
  | false => exact (needsInput_readBuffer 48).bind next

theorem readsField_readNumber (h : number < 256 ^ width) :
    ReadsField (readNumber width) (putBE width number) number where
  whole := readNumber_append h
  part count hcount := by
    rw [length_putBE] at hcount
    exact .inl (readNumber_short (by simp; omega))

theorem readsField_readKeyMethod : ReadsField readKeyMethod [tlsKeyMethod2] tlsKeyMethod2 where
  whole := readKeyMethod_append
  part count hcount := by
    obtain rfl : count = 0 := by simpa using hcount
    exact .inl ⟨_, rfl⟩

theorem readsField_readBuffer (hlength : field.length = count) (hcount : 0 < count) :
    ReadsField (readBuffer count) field field where
  whole := readBuffer_append hlength hcount
  part cut hcut := by
    rcases Nat.eq_zero_or_pos cut with rfl | hpos
    · exact .inl ⟨_, rfl⟩
    · exact .inr (readBuffer_short (by simp; omega) (by simp; omega))

theorem readsField_readPreMaster (h : preMaster.length = if server then 0 else 48) :
    ReadsField (readPreMaster server) preMaster preMaster := by
  cases server with
  | true =>
    obtain rfl := eq_nil_of_length_eq_zero h
    exact ⟨readPreMaster_append h, fun count hcount => absurd hcount (Nat.not_lt_zero count)⟩
  | false => exact readsField_readBuffer h (by decide)

section

variable (h : writeLengthPrefixedString value = .ok written)

include h

/-- A cut through a text: nothing of its bytes is missed until one of them is there. -/
theorem readLengthPrefixedString_cut (hcut : cut < written.length) :
    if cut ≤ 2 then ∃ reason, readLengthPrefixedString (written.take cut) = .error reason
    else ∃ other, readLengthPrefixedString (written.take cut) = .ok (other, []) := by
  obtain ⟨hlength, rfl⟩ := writeLengthPrefixedString_eq_ok_iff.mp h
  have hfits : value.length + 1 < 256 ^ 2 := by omega
  rcases lt_or_ge cut 2 with hlow | hhigh
  · rw [if_pos hlow.le]
    have hshort : ((putBE 2 (value.length + 1) ++ (value ++ [0])).take cut).length < 2 := by
      simp
      omega
    obtain ⟨reason, hreason⟩ := readNumber_short hshort
    exact ⟨reason, by rw [readLengthPrefixedString, hreason]; rfl⟩
  · rw [take_append, take_of_length_le (by simpa using hhigh), length_putBE]
    simp only [readLengthPrefixedString, readNumber_append hfits, bind, Except.bind,
      Nat.add_eq_zero_iff, Nat.one_ne_zero, and_false, if_false]
    rcases eq_or_lt_of_le hhigh with rfl | hbeyond
    · exact ⟨_, rfl⟩
    · have hpos : 0 < ((value ++ [0]).take (cut - 2)).length := by
        simp
        omega
      have hshort : ((value ++ [0]).take (cut - 2)).length < value.length + 1 := by
        simp at hcut ⊢
        omega
      obtain ⟨buffer, hbuffer⟩ := readBuffer_short hpos hshort
      rw [if_neg (Nat.not_le.mpr hbeyond), hbuffer]
      exact ⟨_, rfl⟩

theorem readsField_readLengthPrefixedString :
    ReadsField readLengthPrefixedString written value where
  whole := readLengthPrefixedString_append h
  part cut hcut := by
    have hcases := readLengthPrefixedString_cut h hcut
    split_ifs at hcases
    · exact .inl hcases
    · exact .inr hcases

theorem length_writeLengthPrefixedString : written.length = value.length + 3 := by
  obtain ⟨_, rfl⟩ := writeLengthPrefixedString_eq_ok_iff.mp h
  simp
  omega

/-- Nothing follows the last text, so a cut through its bytes is not noticed. -/
theorem lastText_fails_iff (next : Text × Bytes → β) (hcut : cut < written.length) :
    (∃ reason, (readLengthPrefixedString (written.take cut) >>= fun result => .ok (next result)) =
      .error reason) ↔ cut ≤ 2 := by
  have hcases := readLengthPrefixedString_cut h hcut
  split_ifs at hcases with hshort
  · obtain ⟨reason, hreason⟩ := hcases
    rw [hreason]
    exact iff_of_true ⟨reason, rfl⟩ hshort
  · obtain ⟨other, hother⟩ := hcases
    rw [hother]
    exact iff_of_false (by simp [bind, Except.bind]) hshort

end

/-- Parsing a proper part of a payload fails exactly if the cut is not behind the first byte
of the peer info, the last field. -/
theorem parseTLSKeyMethod2Payload_cut_fails_iff {server : Bool} {message : TLSKeyMethodMessage}
    {payload : Bytes} (hbuild : buildTLSKeyMethod2Payload server message = .ok payload)
    {cut : Nat} (hcut : cut < payload.length) :
    (∃ reason, parseTLSKeyMethod2Payload (payload.take cut) server = .error reason) ↔
      cut ≤ payload.length - (message.peerInfo.length + 1) := by
  obtain ⟨⟨preMaster, optionsString, username, password, peerInfo, hpreMaster, _, hrandom1,
    hrandom2, hoptionsString, husername, hpassword, hpeerInfo, rfl⟩⟩ :=
    payloadFields_of_build hbuild
  have hnumber : ReadsField (readNumber 4) (putBE 4 0) 0 := readsField_readNumber (by decide)
  have hbuffer1 := readsField_readBuffer hrandom1 (by decide)
  have hbuffer2 := readsField_readBuffer hrandom2 (by decide)
  -- one field after the other, each followed by a field that fails on nothing
  have hoptionsString := readsField_readLengthPrefixedString hoptionsString
  have husername := readsField_readLengthPrefixedString husername
  have hpassword := readsField_readLengthPrefixedString hpassword
  have hlast := length_writeLengthPrefixedString hpeerInfo
  refine (hnumber.bind_fails_iff (fun _ => ⟨_, rfl⟩) _ _).trans ?_
  refine (readsField_readKeyMethod.bind_fails_iff (fun _ => needsInput_keySource server _
    fun _ => (needsInput_readBuffer 32).bind _) _ _).trans ?_
  refine ((readsField_readPreMaster hpreMaster).bind_fails_iff
    (fun _ => (needsInput_readBuffer 32).bind _) _ _).trans ?_
  refine (hbuffer1.bind_fails_iff (fun _ => (needsInput_readBuffer 32).bind _) _ _).trans ?_
  refine (hbuffer2.bind_fails_iff (fun _ => needsInput_readLengthPrefixedString.bind _)
    _ _).trans ?_
  refine (hoptionsString.bind_fails_iff (fun _ => needsInput_readLengthPrefixedString.bind _)
    _ _).trans ?_
  refine (husername.bind_fails_iff (fun _ => needsInput_readLengthPrefixedString.bind _)
    _ _).trans ?_
  refine (hpassword.bind_fails_iff (fun _ => needsInput_readLengthPrefixedString.bind _)
    _ _).trans ?_
  refine (lastText_fails_iff hpeerInfo _ ?_).trans ?_
  · simp only [length_append] at hcut
    omega
  · simp only [length_append]
    omega

/-- Without its last two bytes the message is accepted with the peer info "I" and a zero. -/
theorem parseTLSKeyMethod2Payload_zero_filled :
    ∃ payload, buildTLSKeyMethod2Payload true shortServerMessage = .ok payload ∧
      payload.length - 2 < payload.length ∧
      parseTLSKeyMethod2Payload (payload.take (payload.length - 2)) true =
        .ok { shortServerMessage with peerInfo := ascii "I" ++ [0] } :=
  ⟨_, rfl, by decide +kernel⟩

/-- Without its last three bytes, the whole of the peer info, it is refused. -/
theorem parseTLSKeyMethod2Payload_cut_short :
    ∃ payload, buildTLSKeyMethod2Payload true shortServerMessage = .ok payload ∧
      ∃ reason, parseTLSKeyMethod2Payload (payload.take (payload.length - 3)) true =
        .error reason :=
  ⟨_, rfl, (@parseTLSKeyMethod2Payload_cut_fails_iff true shortServerMessage _ rfl _
    (by decide +kernel)).mpr (by decide +kernel)⟩

end SingOpenVPN
