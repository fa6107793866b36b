import SingOpenVPN.Basic

/-!
# Clamping the maximum segment size (`mss_clamp.go`)

A tunnel lowers the maximum segment size that TCP SYN segments advertise, in
place and with an incremental update of the TCP checksum.  Every slice access of
the source is checked here: an index out of range, where the program would
panic, is an `IndexError`.

The clamp rewrites bytes of the TCP segment only, so the IP header in front of it
stays as it was (`applyInPlace_ok`).
-/

namespace SingOpenVPN

/-! ### Checked access to bytes -/

inductive IndexError where
  | outOfRange
deriving DecidableEq, Repr

def byteAt (bytes : Bytes) (index : Nat) : Except IndexError UInt8 :=
  match bytes[index]? with
  | some byte => .ok byte
  | none => .error .outOfRange

def uint16At (bytes : Bytes) (offset : Nat) : Except IndexError UInt16 := do
  let high ← byteAt bytes offset
  let low ← byteAt bytes (offset + 1)
  return (high.toUInt16 <<< 8) ||| low.toUInt16

def putUint16At (bytes : Bytes) (offset : Nat) (value : UInt16) : Except IndexError Bytes :=
  if offset + 2 ≤ bytes.length then
    .ok ((bytes.set offset (value >>> 8).toUInt8).set (offset + 1) value.toUInt8)
  else .error .outOfRange

/-! ### The clamp -/

structure MSSClamp where
  enabled : Bool
  maximumSegmentSize : UInt16
deriving DecidableEq, Repr

def ipv4HeaderMinLength : Nat := 20

def ipv6HeaderLength : Nat := 40

def tcpHeaderMinLength : Nat := 20

def tcpChecksumOffset : Nat := 16

/-- The carries of a one's complement sum are added back until none is left. -/
def foldCarries (sum : Nat) : Nat :=
  if sum / 2 ^ 16 = 0 then sum else foldCarries (sum % 2 ^ 16 + sum / 2 ^ 16)
termination_by sum
decreasing_by omega

def incrementallyUpdateChecksum16 (currentChecksum oldWord newWord : UInt16) : UInt16 :=
  ~~~ UInt16.ofNat
    (foldCarries ((~~~ currentChecksum).toNat + (~~~ oldWord).toNat + newWord.toNat))

def reverseBytes16 (value : UInt16) : UInt16 := (value >>> 8) ||| (value <<< 8)

def updateTCPChecksumForFieldRewrite (tcpSegment : Bytes) (fieldOffset : Nat)
    (previousValue updatedValue : UInt16) : Except IndexError Bytes := do
  -- a field at an odd offset lies across two words of the checksum
  let odd := fieldOffset % 2 ≠ 0
  let previous := if odd then reverseBytes16 previousValue else previousValue
  let updated := if odd then reverseBytes16 updatedValue else updatedValue
  let currentChecksum ← uint16At tcpSegment tcpChecksumOffset
  putUint16At tcpSegment tcpChecksumOffset
    (incrementallyUpdateChecksum16 currentChecksum previous updated)

/-- The loop of `clampTCPSYNSegmentMSS` over the TCP options.  Every turn moves
on by at least one byte, so `dataOffset` turns are enough. -/
def clampOptions (maxSegmentSize : UInt16) (dataOffset : Nat) :
    Nat → Bytes → Nat → Bool → Except IndexError (Bytes × Bool)
  | 0, tcpSegment, _, clamped => .ok (tcpSegment, clamped)
  | fuel + 1, tcpSegment, optionOffset, clamped =>
    if dataOffset ≤ optionOffset then .ok (tcpSegment, clamped)
    else do
      let kind ← byteAt tcpSegment optionOffset
      if kind = 0 then .ok (tcpSegment, clamped)
      else if kind = 1 then
        clampOptions maxSegmentSize dataOffset fuel tcpSegment (optionOffset + 1) clamped
      else if dataOffset ≤ optionOffset + 1 then .ok (tcpSegment, clamped)
      else do
        let optionLength := (← byteAt tcpSegment (optionOffset + 1)).toNat
        if optionLength < 2 ∨ dataOffset < optionOffset + optionLength then
          .ok (tcpSegment, clamped)
        else if kind ≠ 2 ∨ optionLength ≠ 4 then
          clampOptions maxSegmentSize dataOffset fuel tcpSegment
            (optionOffset + optionLength) clamped
        else do
          let valueOffset := optionOffset + 2
          let advertisedMSS ← uint16At tcpSegment valueOffset
          if maxSegmentSize < advertisedMSS then do
            let rewritten ← putUint16At tcpSegment valueOffset maxSegmentSize
            let updated ← updateTCPChecksumForFieldRewrite rewritten valueOffset advertisedMSS
              maxSegmentSize
            clampOptions maxSegmentSize dataOffset fuel updated (optionOffset + optionLength) true
          else
            clampOptions maxSegmentSize dataOffset fuel tcpSegment (optionOffset + optionLength)
              clamped

def clampTCPSYNSegmentMSS (tcpSegment : Bytes) (maxSegmentSize : UInt16) :
    Except IndexError (Bytes × Bool) := do
  let dataOffset := ((← byteAt tcpSegment 12) >>> 4).toNat * 4
  if dataOffset < tcpHeaderMinLength ∨ tcpSegment.length < dataOffset then .ok (tcpSegment, false)
  else clampOptions maxSegmentSize dataOffset dataOffset tcpSegment tcpHeaderMinLength false

/-- The length of the header of an unfragmented, well-sized IPv4 packet that
carries TCP. -/
def ipv4TCPOffset (packet : Bytes) (first : UInt8) : Except IndexError (Option Nat) :=
  if packet.length < ipv4HeaderMinLength then .ok none
  else do
    let totalLength ← uint16At packet 2
    let fragment ← uint16At packet 6
    let ihl := (first &&& 0x0f).toNat * 4
    if totalLength.toNat ≠ packet.length ∨ fragment &&& 0x3fff ≠ 0 then .ok none
    else if ihl < ipv4HeaderMinLength ∨ packet.length < ihl then .ok none
    else do
      let protocol ← byteAt packet 9
      .ok (if protocol ≠ 6 then none else some ihl)

def ipv6TCPOffset (packet : Bytes) : Except IndexError (Option Nat) :=
  if packet.length < ipv6HeaderLength then .ok none
  else do
    let payloadLength ← uint16At packet 4
    if payloadLength.toNat + ipv6HeaderLength ≠ packet.length then .ok none
    else do
      let nextHeader ← byteAt packet 6
      .ok (if nextHeader ≠ 6 then none else some ipv6HeaderLength)

def tcpOffset (packet : Bytes) (first : UInt8) : Except IndexError (Option Nat) :=
  if first >>> 4 = 4 then ipv4TCPOffset packet first
  else if first >>> 4 = 6 then ipv6TCPOffset packet
  else .ok none

def locateTCPSYNSegment (packet : Bytes) : Except IndexError (Option Nat) :=
  if packet.length < 1 then .ok none
  else do
    let first ← byteAt packet 0
    match ← tcpOffset packet first with
    | none => .ok none
    | some ipHeaderLength =>
      let tcpSegment := packet.drop ipHeaderLength
      if tcpSegment.length < tcpHeaderMinLength then .ok none
      else do
        let flags ← byteAt tcpSegment 13
        .ok (if flags &&& 0x02 = 0 then none else some ipHeaderLength)

namespace MSSClamp

/-- `maximumSegmentSize` is that of IPv4; an IPv6 header is 20 bytes longer. -/
def effectiveMaxSegmentSize (clamp : MSSClamp) (packet : Bytes) : UInt16 :=
  match packet with
  | [] => clamp.maximumSegmentSize
  | first :: _ =>
    if first >>> 4 = 6 then clamp.maximumSegmentSize - 20 else clamp.maximumSegmentSize

/-- `ApplyInPlace`: the packet afterwards, and whether it was clamped. -/
def applyInPlace (clamp : MSSClamp) (packet : Bytes) : Except IndexError (Bytes × Bool) :=
  if !clamp.enabled then .ok (packet, false)
  else do
    match ← locateTCPSYNSegment packet with
    | none => .ok (packet, false)
    | some ipHeaderLength =>
      let result ← clampTCPSYNSegmentMSS (packet.drop ipHeaderLength)
        (clamp.effectiveMaxSegmentSize packet)
      .ok (packet.take ipHeaderLength ++ result.1, result.2)

def apply (clamp : MSSClamp) (packet : Bytes) : Except IndexError Bytes :=
  if !clamp.enabled then .ok packet
  else do
    let result ← clamp.applyInPlace packet
    .ok (if result.2 then result.1 else packet)

end MSSClamp

/-! ### What the clamp leaves alone -/

variable {bytes bytes' packet : Bytes} {result : Bytes × Bool} {offset : Nat}
  {maxSegmentSize : UInt16}

theorem length_putUint16At {value : UInt16} (h : putUint16At bytes offset value = .ok bytes') :
    bytes'.length = bytes.length := by
  unfold putUint16At at h
  split at h
  · cases h
    simp
  · cases h

theorem length_updateTCPChecksum {previous updated : UInt16}
    (h : updateTCPChecksumForFieldRewrite bytes offset previous updated = .ok bytes') :
    bytes'.length = bytes.length := by
  obtain ⟨checksum, -, hput⟩ := bind_eq_ok.mp h
  exact length_putUint16At hput

theorem length_clampOptions {dataOffset fuel optionOffset : Nat} {clamped : Bool}
    (h : clampOptions maxSegmentSize dataOffset fuel bytes optionOffset clamped = .ok result) :
    result.1.length = bytes.length := by
  induction fuel generalizing bytes optionOffset clamped with
  | zero =>
    cases h
    rfl
  | succ fuel ih =>
    rw [clampOptions] at h
    split at h
    · cases h
      rfl
    obtain ⟨kind, -, h⟩ := bind_eq_ok.mp h
    split at h
    · cases h
      rfl
    split at h
    · exact ih h
    split at h
    · cases h
      rfl
    obtain ⟨optionLength, -, h⟩ := bind_eq_ok.mp h
    dsimp only at h
    split at h
    · cases h
      rfl
    split at h
    · exact ih h
    obtain ⟨advertisedMSS, -, h⟩ := bind_eq_ok.mp h
    split at h
    · obtain ⟨rewritten, hrewritten, h⟩ := bind_eq_ok.mp h
      obtain ⟨updated, hupdated, h⟩ := bind_eq_ok.mp h
      rw [ih h, length_updateTCPChecksum hupdated, length_putUint16At hrewritten]
    · exact ih h

theorem length_clampTCPSYNSegmentMSS (h : clampTCPSYNSegmentMSS bytes maxSegmentSize = .ok result) :
    result.1.length = bytes.length := by
  obtain ⟨offset, -, h⟩ := bind_eq_ok.mp h
  dsimp only at h
  split at h
  · cases h
    rfl
  · exact length_clampOptions h

theorem ipv4TCPOffset_ok {first : UInt8} (h : ipv4TCPOffset packet first = .ok (some offset)) :
    20 ≤ offset ∧ offset ≤ packet.length := by
  unfold ipv4TCPOffset at h
  split at h
  · cases h
  obtain ⟨totalLength, -, h⟩ := bind_eq_ok.mp h
  obtain ⟨fragment, -, h⟩ := bind_eq_ok.mp h
  dsimp only at h
  split at h
  · cases h
  split at h
  · cases h
  rename_i hbounds
  obtain ⟨protocol, -, h⟩ := bind_eq_ok.mp h
  split at h
  · cases h
  · cases h
    rw [not_or, Nat.not_lt, Nat.not_lt] at hbounds
    exact hbounds

theorem ipv6TCPOffset_ok (h : ipv6TCPOffset packet = .ok (some offset)) :
    offset = 40 ∧ offset ≤ packet.length := by
  unfold ipv6TCPOffset at h
  split at h
  · cases h
  rename_i hlength
  obtain ⟨payloadLength, -, h⟩ := bind_eq_ok.mp h
  split at h
  · cases h
  obtain ⟨nextHeader, -, h⟩ := bind_eq_ok.mp h
  split at h
  · cases h
  · cases h
    exact ⟨rfl, Nat.not_lt.mp hlength⟩

/-- The TCP segment of an IPv4 packet starts after the 20 fixed bytes of its
header, that of an IPv6 packet after its 40 bytes. -/
theorem locateTCPSYNSegment_ok {ipHeaderLength : Nat}
    (h : locateTCPSYNSegment packet = .ok (some ipHeaderLength)) :
    20 ≤ ipHeaderLength ∧ ipHeaderLength ≤ packet.length ∧
      ∀ first ∈ packet.head?, first >>> 4 = 6 → 40 ≤ ipHeaderLength := by
  unfold locateTCPSYNSegment at h
  split at h
  · cases h
  obtain ⟨first, hfirst, h⟩ := bind_eq_ok.mp h
  obtain ⟨offset, hoffset, h⟩ := bind_eq_ok.mp h
  obtain rfl : offset = some ipHeaderLength := by
    split at h
    · cases h
    · dsimp only at h
      split at h
      · cases h
      obtain ⟨flags, -, h⟩ := bind_eq_ok.mp h
      split at h
      · cases h
      · cases h
        rfl
  have hhead : packet.head? = some first := by
    unfold byteAt at hfirst
    split at hfirst
    · cases hfirst
      rwa [List.head?_eq_getElem?]
    · cases hfirst
  rw [hhead]
  simp only [Option.mem_def, Option.some.injEq, forall_eq']
  unfold tcpOffset at hoffset
  split at hoffset
  · rename_i hversion
    have hbounds := ipv4TCPOffset_ok hoffset
    refine ⟨hbounds.1, hbounds.2, fun hversion' => ?_⟩
    rw [hversion] at hversion'
    cases hversion'
  split at hoffset
  · obtain ⟨rfl, hbound⟩ := ipv6TCPOffset_ok hoffset
    exact ⟨by decide, hbound, fun _ => Nat.le_refl _⟩
  · cases hoffset

/-- Two packets with the same length and the same IP header, as far as it has a
fixed size. -/
structure SameHeader (packet packet' : Bytes) : Prop where
  length : packet'.length = packet.length
  fixed : packet'.take 20 = packet.take 20
  fixed6 : ∀ first ∈ packet.head?, first >>> 4 = 6 → packet'.take 40 = packet.take 40

theorem SameHeader.refl (packet : Bytes) : SameHeader packet packet :=
  ⟨rfl, rfl, fun _ _ _ => rfl⟩

namespace MSSClamp

variable {packet : Bytes} {clamp : MSSClamp}

/-- **Clamping a packet keeps its length and its IP header.** -/
theorem applyInPlace_ok {result : Bytes × Bool} (h : clamp.applyInPlace packet = .ok result) :
    SameHeader packet result.1 := by
  unfold applyInPlace at h
  split at h
  · cases h
    exact .refl packet
  obtain ⟨located, hlocated, h⟩ := bind_eq_ok.mp h
  cases located with
  | none =>
    cases h
    exact .refl packet
  | some ipHeaderLength =>
    obtain ⟨segment, hsegment, h⟩ := bind_eq_ok.mp h
    cases h
    obtain ⟨hfixed, hbound, hfixed6⟩ := locateTCPSYNSegment_ok hlocated
    have hlength := length_clampTCPSYNSegmentMSS hsegment
    -- only bytes behind the header are rewritten
    have htake : ∀ count, count ≤ ipHeaderLength →
        (packet.take ipHeaderLength ++ segment.1).take count = packet.take count := by
      intro count hcount
      rw [List.take_append_of_le_length (by simp; omega), List.take_take, Nat.min_eq_left hcount]
    refine ⟨?_, htake 20 hfixed, fun first hfirst hversion =>
      htake 40 (hfixed6 first hfirst hversion)⟩
    simp [hlength, List.length_drop, List.length_take]
    omega

theorem apply_ok {packet' : Bytes} (h : clamp.apply packet = .ok packet') :
    SameHeader packet packet' := by
  unfold apply at h
  split at h
  · cases h
    exact .refl packet
  obtain ⟨result, hresult, h⟩ := bind_eq_ok.mp h
  cases h
  split
  · exact applyInPlace_ok hresult
  · exact .refl packet

end MSSClamp

end SingOpenVPN
