import Mathlib.Data.List.AList
import SingOpenVPN.Basic
import SingOpenVPN.ByteCodec

/-!
# Fragmentation of data packets (`data_channel_fragmentation.go`)

A payload that does not fit is cut into at most 32 fragments.  The header of a fragment
holds its type, the sequence number of its packet modulo 256, its own number and, in the
last fragment, the size the others have.  The receiver collects fragments in one buffer
for each sequence number, keeps buffers of the last 25 packets only, and gives buffers up
when they are too old or take too much memory.

Go visits the keys of a map in an order of its own; `RangeOrder` stands for it.  What a
deletion makes of a counter below zero is a parameter (`clamp`), in the source `max(…, 0)`.
-/

namespace SingOpenVPN

open ByteCodec

inductive FragmentType where
  | whole
  | partialFragment
  | last
deriving DecidableEq, Repr

def FragmentType.code : FragmentType → Nat
  | whole => 0
  | partialFragment => 1
  | last => 2

def openVPNFragmentTypeMask : Nat := 0x00000003
def openVPNFragmentSequenceMask : Nat := 0x000000ff
def openVPNFragmentSequenceShift : Nat := 2
def openVPNFragmentIDMask : Nat := 0x0000001f
def openVPNFragmentIDShift : Nat := 10
def openVPNFragmentSizeMask : Nat := 0x00003fff
def openVPNFragmentSizeShift : Nat := 15
def openVPNFragmentSizeRoundShift : Nat := 2
def openVPNFragmentMaxParts : Nat := 32
def openVPNFragmentReceiveWindow : Int := 25

def openVPNFragmentReassemblyTimeout : Duration := 30 * 10 ^ 9
def openVPNFragmentReassemblyMaxBytes : Int := 4 * 2 ^ 20
def openVPNFragmentReassemblyMaxPacketBytes : Int := 2 ^ 16 - 1

/-! ### The sender -/

def fragmentFlags (fragmentType : FragmentType) (sequenceID fragmentID maxFragmentSize : Nat) :
    Nat :=
  let flags := (fragmentType.code &&& openVPNFragmentTypeMask) |||
    (sequenceID &&& openVPNFragmentSequenceMask) <<< openVPNFragmentSequenceShift |||
    (fragmentID &&& openVPNFragmentIDMask) <<< openVPNFragmentIDShift
  if fragmentType = .last then
    flags ||| (maxFragmentSize &&& openVPNFragmentSizeMask) <<< openVPNFragmentSizeShift
  else flags

def prependFragmentHeader (payload : Bytes) (fragmentType : FragmentType)
    (sequenceID fragmentID maxFragmentSize : Nat) : Bytes :=
  putBE 4 (fragmentFlags fragmentType sequenceID fragmentID maxFragmentSize) ++ payload

/-- `fragmentSize &= ^3`: the size rounded down to a multiple of four. -/
def roundFragmentSize (fragmentSize : Int) : Int := fragmentSize / 4 * 4

/-- The loop of `encodeFragments`, with the rest of the payload.  `parts` counts down the
    fragments that are still allowed. -/
def fragmentLoop (sequenceID size : Nat) : Nat → Nat → Bytes → Except String (List Bytes)
  | _, _, [] => .ok []
  | 0, _, _ :: _ => .error "too many fragments"
  | parts + 1, fragmentID, payload =>
    let rest := payload.drop size
    let fragment :=
      if rest = [] then
        prependFragmentHeader (payload.take size) .last sequenceID fragmentID
          (size >>> openVPNFragmentSizeRoundShift)
      else prependFragmentHeader (payload.take size) .partialFragment sequenceID fragmentID 0
    (fragmentLoop sequenceID size parts (fragmentID + 1) rest).map (fragment :: ·)

/-- `encodeFragments`: the fragments and the next `outgoingSequence`. -/
def encodeFragments (outgoingSequence : Nat) (payload : Bytes) (fragmentSize : Int) :
    Except String (List Bytes) × Nat :=
  let size := roundFragmentSize fragmentSize
  if size ≤ 0 then
    (.error "fragment packet size is too small for data channel overhead", outgoingSequence)
  else if payload.length ≤ size then
    (.ok [prependFragmentHeader payload .whole 0 0 0], outgoingSequence)
  else
    (fragmentLoop outgoingSequence size.toNat openVPNFragmentMaxParts 0 payload,
      (outgoingSequence + 1) &&& openVPNFragmentSequenceMask)

/-! ### The receiver -/

/-- `incomingFragmentBuffer`; `lastID` is `none` for -1. -/
structure IncomingFragmentBuffer where
  maxSize : Nat
  lastID : Option Nat
  parts : AList (fun _ : Nat => Bytes)
  bytes : Int
  updated : Time

/-- The receiving half of `dataChannelFraming`. -/
structure FragmentReceiver where
  incomingBySequence : AList (fun _ : Nat => IncomingFragmentBuffer)
  incomingBytes : Int
  incomingSequence : Nat
  incomingSequenceSet : Bool
  reassemblyTimeout : Duration
  reassemblyMaxBytes : Int
  reassemblyMaxPacketBytes : Int

def newFragmentReceiver : FragmentReceiver where
  incomingBySequence := ∅
  incomingBytes := 0
  incomingSequence := 0
  incomingSequenceSet := false
  reassemblyTimeout := openVPNFragmentReassemblyTimeout
  reassemblyMaxBytes := openVPNFragmentReassemblyMaxBytes
  reassemblyMaxPacketBytes := openVPNFragmentReassemblyMaxPacketBytes

/-- The order in which a range over a map visits its keys. -/
structure RangeOrder where
  range : List Nat → List Nat
  perm : ∀ keys, (range keys).Perm keys

/-- `fragmentSequenceDifference`: the shorter way around the circle of 256 numbers. -/
def fragmentSequenceDifference (sequenceID referenceSequence : Nat) : Int :=
  let directDifference : Int := sequenceID - referenceSequence
  if directDifference = 0 then 0
  else
    let wrappedDifference :=
      if referenceSequence < sequenceID then directDifference - (openVPNFragmentSequenceMask + 1)
      else directDifference + (openVPNFragmentSequenceMask + 1)
    if directDifference < 0 then
      if -directDifference ≤ wrappedDifference then directDifference else wrappedDifference
    else if directDifference ≤ -wrappedDifference then directDifference
    else wrappedDifference

/-- What the last lines of `deleteIncomingFragmentBuffer` make of the counter. -/
abbrev atLeastZero (bytes : Int) : Int := max bytes 0

variable (f : FragmentReceiver)

namespace FragmentReceiver

variable (order : RangeOrder)

def deleteIncomingFragmentBuffer (sequenceID : Nat)
    (clamp : Int → Int := atLeastZero) : FragmentReceiver :=
  match f.incomingBySequence.lookup sequenceID with
  | none => f
  | some fragmentBuffer =>
    { f with
      incomingBySequence := f.incomingBySequence.erase sequenceID
      incomingBytes := clamp (f.incomingBytes - fragmentBuffer.bytes) }

/-- The body of a range over the buffers that deletes those that meet a condition. -/
def deleteIf (condition : Nat → IncomingFragmentBuffer → Bool) (f : FragmentReceiver)
    (sequenceID : Nat) (clamp : Int → Int := atLeastZero) : FragmentReceiver :=
  match f.incomingBySequence.lookup sequenceID with
  | none => f
  | some fragmentBuffer =>
    if condition sequenceID fragmentBuffer then f.deleteIncomingFragmentBuffer sequenceID clamp
    else f

def deleteWhere (condition : Nat → IncomingFragmentBuffer → Bool)
    (clamp : Int → Int := atLeastZero) : FragmentReceiver :=
  (order.range f.incomingBySequence.keys).foldl
    (fun f sequenceID => f.deleteIf condition sequenceID clamp) f

def clearIncomingFragments
    (clamp : Int → Int := atLeastZero) : FragmentReceiver :=
  f.deleteWhere order (fun _ _ => true) clamp

def timeout : Duration :=
  if f.reassemblyTimeout ≤ 0 then openVPNFragmentReassemblyTimeout else f.reassemblyTimeout

def expireIncomingFragments (now : Time)
    (clamp : Int → Int := atLeastZero) : FragmentReceiver :=
  f.deleteWhere order (fun _ fragmentBuffer => f.timeout ≤ now - fragmentBuffer.updated) clamp

def advanceIncomingFragmentWindow (sequenceID : Nat)
    (clamp : Int → Int := atLeastZero) : FragmentReceiver :=
  if f.incomingSequenceSet = false then
    { f with incomingSequence := sequenceID, incomingSequenceSet := true }
  else
    let difference := fragmentSequenceDifference sequenceID f.incomingSequence
    if openVPNFragmentReceiveWindow ≤ difference ∨ difference ≤ -openVPNFragmentReceiveWindow then
      { f.clearIncomingFragments order clamp with incomingSequence := sequenceID }
    else if difference ≤ 0 then f
    else
      { f with incomingSequence := sequenceID }.deleteWhere order (fun bufferedSequence _ =>
        let bufferedDifference := fragmentSequenceDifference bufferedSequence sequenceID
        bufferedDifference ≤ -openVPNFragmentReceiveWindow || 0 < bufferedDifference) clamp

/-- The body of the range of `oldestIncomingFragmentSequence`. -/
def olderOf (excludeSequence : Nat) (oldest : Option (Nat × Time))
    (sequenceID : Nat) : Option (Nat × Time) :=
  if sequenceID = excludeSequence then oldest
  else
    match f.incomingBySequence.lookup sequenceID with
    | none => oldest
    | some fragmentBuffer =>
      if oldest.all fun (_, oldestTime) => fragmentBuffer.updated < oldestTime then
        some (sequenceID, fragmentBuffer.updated)
      else oldest

def oldestIncomingFragmentSequence (excludeSequence : Nat) : Option Nat :=
  ((order.range f.incomingBySequence.keys).foldl (f.olderOf excludeSequence) none).map Prod.fst

/-- The loop that frees memory for a fragment; without another buffer to give up there is
    no room.  Each round deletes a buffer, so as many rounds as there are buffers suffice. -/
def makeRoom (sequenceID : Nat) (additionalBytes maxReassemblyBytes : Int) (rounds : Nat)
    (f : FragmentReceiver) (clamp : Int → Int := atLeastZero) :
    Bool × FragmentReceiver :=
  match rounds with
  | 0 => (f.incomingBytes + additionalBytes ≤ maxReassemblyBytes, f)
  | rounds + 1 =>
    if f.incomingBytes + additionalBytes ≤ maxReassemblyBytes then (true, f)
    else
      match f.oldestIncomingFragmentSequence order sequenceID with
      | none => (false, f)
      | some oldestSequence =>
        makeRoom sequenceID additionalBytes maxReassemblyBytes rounds
          (f.deleteIncomingFragmentBuffer oldestSequence clamp) clamp

def maxPacketBytes : Int :=
  if f.reassemblyMaxPacketBytes ≤ 0 then openVPNFragmentReassemblyMaxPacketBytes
  else f.reassemblyMaxPacketBytes

def maxReassemblyBytes : Int :=
  if f.reassemblyMaxBytes ≤ 0 then openVPNFragmentReassemblyMaxBytes else f.reassemblyMaxBytes

/-- The buffer a fragment goes to: one for fragments of another size is given up, and where
    there is none a new one is made. -/
def openBuffer (now : Time) (sequenceID fragmentSize : Nat)
    (clamp : Int → Int := atLeastZero) : FragmentReceiver × IncomingFragmentBuffer :=
  let f :=
    match f.incomingBySequence.lookup sequenceID with
    | some fragmentBuffer =>
      if fragmentBuffer.maxSize ≠ fragmentSize then f.deleteIncomingFragmentBuffer sequenceID clamp
      else f
    | none => f
  match f.incomingBySequence.lookup sequenceID with
  | some fragmentBuffer => (f, fragmentBuffer)
  | none =>
    let fragmentBuffer : IncomingFragmentBuffer :=
      { maxSize := fragmentSize, lastID := none, parts := ∅, bytes := 0, updated := now }
    ({ f with incomingBySequence := f.incomingBySequence.insert sequenceID fragmentBuffer },
      fragmentBuffer)

end FragmentReceiver

/-- The parts up to the last one in a row, if they are all there. -/
def IncomingFragmentBuffer.join (b : IncomingFragmentBuffer) (lastID : Nat) : Option Bytes :=
  ((List.range (lastID + 1)).mapM fun fragmentID => b.parts.lookup fragmentID).map List.flatten

def IncomingFragmentBuffer.store (b : IncomingFragmentBuffer) (now : Time)
    (fragmentID maxFragmentSize : Nat) (last : Bool) (payload : Bytes) (additionalBytes : Int) :
    IncomingFragmentBuffer where
  maxSize :=
    if 0 < maxFragmentSize then maxFragmentSize
    else if b.maxSize = 0 then payload.length
    else b.maxSize
  lastID := if last then some fragmentID else b.lastID
  parts := b.parts.insert fragmentID payload
  bytes := b.bytes + additionalBytes
  updated := now

namespace FragmentReceiver

variable (order : RangeOrder)

/-- `storeIncomingFragment`: the payload of a packet that is complete. -/
def storeIncomingFragment (now : Time)
    (sequenceID fragmentID maxFragmentSize : Nat) (last : Bool) (payload : Bytes)
    (clamp : Int → Int := atLeastZero) :
    Except String (Option Bytes) × FragmentReceiver :=
  let f := f.expireIncomingFragments order now clamp
  if f.maxPacketBytes < payload.length then
    (.error "fragment exceeds maximum reassembled packet size", f)
  else
    let f := f.advanceIncomingFragmentWindow order sequenceID clamp
    let fragmentSize := if 0 < maxFragmentSize then maxFragmentSize else payload.length
    let (f, fragmentBuffer) := f.openBuffer now sequenceID fragmentSize clamp
    let previousPart := (fragmentBuffer.parts.lookup fragmentID).getD []
    let additionalBytes : Int := payload.length - previousPart.length
    if f.maxPacketBytes < fragmentBuffer.bytes + additionalBytes then
      (.error "fragmented packet exceeds maximum IP packet size",
        f.deleteIncomingFragmentBuffer sequenceID clamp)
    else
      match f.makeRoom order sequenceID additionalBytes f.maxReassemblyBytes
          f.incomingBySequence.keys.length clamp with
      | (false, f) => (.error "fragment reassembly memory limit exceeded",
          f.deleteIncomingFragmentBuffer sequenceID clamp)
      | (true, f) =>
        let fragmentBuffer :=
          fragmentBuffer.store now fragmentID maxFragmentSize last payload additionalBytes
        let f := { f with
          incomingBySequence := f.incomingBySequence.insert sequenceID fragmentBuffer
          incomingBytes := f.incomingBytes + additionalBytes }
        match fragmentBuffer.lastID.bind fragmentBuffer.join with
        | none => (.ok none, f)
        | some reassembledPayload =>
          (.ok (some reassembledPayload), f.deleteIncomingFragmentBuffer sequenceID clamp)

def decodeFragment (now : Time) (payload : Bytes) :
    Except String (Option Bytes) × FragmentReceiver :=
  if payload.length < 4 then (.error "fragment header not found", f)
  else
    let flags := getBE (payload.take 4)
    let fragmentType := flags &&& openVPNFragmentTypeMask
    let fragmentPayload := payload.drop 4
    let sequenceID := (flags >>> openVPNFragmentSequenceShift) &&& openVPNFragmentSequenceMask
    let fragmentID := (flags >>> openVPNFragmentIDShift) &&& openVPNFragmentIDMask
    if fragmentType = FragmentType.whole.code then
      if sequenceID ≠ 0 ∨ fragmentID ≠ 0 then (.error "spurious fragment header flags", f)
      else (.ok (some fragmentPayload), f)
    else if fragmentType = FragmentType.partialFragment.code ∨
        fragmentType = FragmentType.last.code then
      f.storeIncomingFragment order now sequenceID fragmentID
        (((flags >>> openVPNFragmentSizeShift) &&& openVPNFragmentSizeMask) <<<
          openVPNFragmentSizeRoundShift)
        (fragmentType = FragmentType.last.code) fragmentPayload
    else (.error "unknown fragment type", f)

end FragmentReceiver

end SingOpenVPN
