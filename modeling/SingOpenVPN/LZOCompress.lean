import SingOpenVPN.Basic
import SingOpenVPN.LZOFormat

/-!
# The LZO compressor (`lzo_compress.go`)

The compressor looks for earlier places that begin with the same three bytes, in a
dictionary of positions that is indexed by a hash of four bytes, and writes a match for
each it finds and the literals in between.  Up to three literals after a match are counted
in the low bits of the byte before the last one, so they change what is already written.

An index outside the input does not happen; it would read zero here.
-/

namespace SingOpenVPN

def lzoMaxOffsetM2 : Nat := 0x0800
def lzoMaxOffsetM3 : Nat := 0x4000
def lzoMaxOffsetM4 : Nat := 0xbfff
def lzoMaxLengthM2 : Nat := 8
def lzoMaxLengthM4 : Nat := 9
def lzoMarkerM3 : Nat := 32
def lzoMarkerM4 : Nat := 16
def lzoDictBits : Nat := 14
def lzoDictMask : Nat := 1 <<< lzoDictBits - 1
def lzoDictHigh : Nat := (lzoDictMask >>> 1) + 1

/-- The loop of `appendLZOMultiple`; `rounds` bounds it. -/
def lzoMultiple : Nat → Nat → Bytes
  | 0, value => [UInt8.ofNat value]
  | rounds + 1, value =>
    if 255 < value then 0 :: lzoMultiple rounds (value - 255) else [UInt8.ofNat value]

def appendLZOMultiple (output : Bytes) (value : Nat) : Bytes := output ++ lzoMultiple value value

def appendLZOLiteral (output literal : Bytes) : Bytes :=
  let literalCount := literal.length
  if literalCount = 0 then output
  else
    let output :=
      if output.length = 0 ∧ literalCount ≤ 238 then output ++ [UInt8.ofNat (17 + literalCount)]
      else if literalCount ≤ 3 then
        output.modify (output.length - 2) (· ||| UInt8.ofNat literalCount)
      else if literalCount ≤ 18 then output ++ [UInt8.ofNat (literalCount - 3)]
      else appendLZOMultiple (output ++ [0]) (literalCount - 18)
    output ++ literal

/-- `findLZOCandidate`: the position and the offset of a candidate. -/
def findLZOCandidate (dictionary : Nat → Nat) (input : Bytes)
    (inputPosition dictionaryIndex : Nat) : Option (Nat × Nat) :=
  if dictionary dictionaryIndex = 0 then none
  else
    let matchPosition := dictionary dictionaryIndex - 1
    if inputPosition = matchPosition ∨ lzoMaxOffsetM4 < inputPosition - matchPosition then none
    else
      let matchOffset := inputPosition - matchPosition
      if matchOffset ≤ lzoMaxOffsetM2 ∨
          input.getD (matchPosition + 3) 0 = input.getD (inputPosition + 3) 0 then
        some (matchPosition, matchOffset)
      else none

def lzoMatches (input : Bytes) (inputPosition matchPosition matchOffset : Nat) : Bool :=
  (matchOffset ≤ lzoMaxOffsetM2 ∨
      input.getD (matchPosition + 3) 0 = input.getD (inputPosition + 3) 0) ∧
    input.getD matchPosition 0 = input.getD inputPosition 0 ∧
    input.getD (matchPosition + 1) 0 = input.getD (inputPosition + 1) 0 ∧
    input.getD (matchPosition + 2) 0 = input.getD (inputPosition + 2) 0

/-- The loop that compares the bytes four to nine; the result is the first that differs. -/
def lzoShortLength (input : Bytes) (inputPosition matchPosition : Nat) : Nat → Nat → Nat
  | 0, matchLength => matchLength
  | rounds + 1, matchLength =>
    if input.getD (matchPosition + matchLength) 0 ≠ input.getD (inputPosition + matchLength) 0 then
      matchLength
    else lzoShortLength input inputPosition matchPosition rounds (matchLength + 1)

/-- The loop that extends a match of nine bytes: the position after it. -/
def lzoExtend (input : Bytes) : Nat → Nat → Nat → Nat
  | 0, _, inputPosition => inputPosition
  | rounds + 1, matchPosition, inputPosition =>
    if inputPosition < input.length ∧
        input.getD matchPosition 0 = input.getD inputPosition 0 then
      lzoExtend input rounds (matchPosition + 1) (inputPosition + 1)
    else inputPosition

def appendLZOShortMatch (output : Bytes) (matchOffset matchLength : Nat) : Bytes :=
  if matchOffset ≤ lzoMaxOffsetM2 then
    let matchOffset := matchOffset - 1
    output ++ [UInt8.ofNat (((matchLength - 1) <<< 5) ||| ((matchOffset &&& 7) <<< 2)),
      UInt8.ofNat (matchOffset >>> 3)]
  else if matchOffset ≤ lzoMaxOffsetM3 then
    let matchOffset := matchOffset - 1
    output ++ [UInt8.ofNat (lzoMarkerM3 ||| (matchLength - 2)),
      UInt8.ofNat ((matchOffset &&& 63) <<< 2), UInt8.ofNat (matchOffset >>> 6)]
  else
    let matchOffset := matchOffset - 0x4000
    output ++ [UInt8.ofNat (lzoMarkerM4 ||| ((matchOffset &&& 0x4000) >>> 11) |||
        (matchLength - 2)),
      UInt8.ofNat ((matchOffset &&& 63) <<< 2), UInt8.ofNat (matchOffset >>> 6)]

def appendLZOLongMatch (output : Bytes) (matchOffset matchLength : Nat) : Bytes :=
  if matchOffset ≤ lzoMaxOffsetM3 then
    let matchOffset := matchOffset - 1
    let output :=
      if matchLength ≤ 33 then output ++ [UInt8.ofNat (lzoMarkerM3 ||| (matchLength - 2))]
      else appendLZOMultiple (output ++ [UInt8.ofNat lzoMarkerM3]) (matchLength - 33)
    output ++ [UInt8.ofNat ((matchOffset &&& 63) <<< 2), UInt8.ofNat (matchOffset >>> 6)]
  else
    let matchOffset := matchOffset - 0x4000
    let output :=
      if matchLength ≤ lzoMaxLengthM4 then
        output ++ [UInt8.ofNat (lzoMarkerM4 ||| ((matchOffset &&& 0x4000) >>> 11) |||
          (matchLength - 2))]
      else
        appendLZOMultiple
          (output ++ [UInt8.ofNat (lzoMarkerM4 ||| ((matchOffset &&& 0x4000) >>> 11))])
          (matchLength - lzoMaxLengthM4)
    output ++ [UInt8.ofNat ((matchOffset &&& 63) <<< 2), UInt8.ofNat (matchOffset >>> 6)]

structure LZOState where
  output : Bytes
  dictionary : Nat → Nat
  literalStart : Nat
  inputPosition : Nat

def lzoDictionaryIndex (input : Bytes) (inputPosition : Nat) : Nat :=
  let key := (input.getD (inputPosition + 3) 0).toNat
  let key := (key <<< 6) ^^^ (input.getD (inputPosition + 2) 0).toNat
  let key := (key <<< 5) ^^^ (input.getD (inputPosition + 1) 0).toNat
  let key := (key <<< 5) ^^^ (input.getD inputPosition 0).toNat
  ((0x21 * key) >>> 5) &&& lzoDictMask

def lzoSecondIndex (dictionaryIndex : Nat) : Nat :=
  (dictionaryIndex &&& (lzoDictMask &&& 0x7ff)) ^^^ (lzoDictHigh ||| 0x1f)

def LZOState.writeMatch (state : LZOState) (input : Bytes)
    (dictionaryIndex matchPosition matchOffset : Nat) : LZOState :=
  let start := state.inputPosition
  let output :=
    if start ≠ state.literalStart then
      appendLZOLiteral state.output ((input.take start).drop state.literalStart)
    else state.output
  let matchLength := lzoShortLength input start matchPosition 6 3
  let dictionary := Function.update state.dictionary dictionaryIndex (start + 1)
  if matchLength < 9 then
    { output := appendLZOShortMatch output matchOffset matchLength
      dictionary := dictionary
      literalStart := start + matchLength
      inputPosition := start + matchLength }
  else
    let inputPosition :=
      lzoExtend input input.length (matchPosition + (lzoMaxLengthM2 + 1)) (start + 9)
    { output := appendLZOLongMatch output matchOffset (inputPosition - start)
      dictionary := dictionary
      literalStart := inputPosition
      inputPosition := inputPosition }

/-- One attempt: the match at the candidate of an index. -/
def LZOState.attempt (state : LZOState) (input : Bytes) (dictionaryIndex : Nat) :
    Option LZOState :=
  (findLZOCandidate state.dictionary input state.inputPosition dictionaryIndex).bind
    fun (matchPosition, matchOffset) =>
      if lzoMatches input state.inputPosition matchPosition matchOffset then
        some (state.writeMatch input dictionaryIndex matchPosition matchOffset)
      else none

/-- Without a match the position is remembered, and the next one tried is the further away
    the longer there has been none. -/
def LZOState.skip (state : LZOState) (dictionaryIndex : Nat) : LZOState :=
  { state with
    dictionary := Function.update state.dictionary dictionaryIndex (state.inputPosition + 1)
    inputPosition :=
      state.inputPosition + (1 + (state.inputPosition - state.literalStart) >>> 5) }

def LZOState.round (state : LZOState) (input : Bytes) : LZOState :=
  let dictionaryIndex := lzoDictionaryIndex input state.inputPosition
  let second := lzoSecondIndex dictionaryIndex
  ((state.attempt input dictionaryIndex).or (state.attempt input second)).getD
    (state.skip second)

/-- The loop; the position grows in every round, so as many rounds as bytes suffice. -/
def compressLZORounds (input : Bytes) : Nat → LZOState → LZOState
  | 0, state => state
  | rounds + 1, state =>
    let state := state.round input
    if input.length - lzoMaxLengthM2 - 5 ≤ state.inputPosition then state
    else compressLZORounds input rounds state

def compressLZOBlockCore (input : Bytes) : Bytes × Nat :=
  let state := compressLZORounds input input.length
    { output := [], dictionary := fun _ => 0, literalStart := 0, inputPosition := 4 }
  (state.output, input.length - state.literalStart)

def compressLZOBlock (input : Bytes) : Bytes :=
  let (output, literalTailSize) :=
    if lzoMaxLengthM2 + 5 < input.length then compressLZOBlockCore input else ([], input.length)
  let output :=
    if 0 < literalTailSize then
      appendLZOLiteral output (input.drop (input.length - literalTailSize))
    else output
  output ++ [UInt8.ofNat (lzoMarkerM4 ||| 1), 0, 0]

end SingOpenVPN
