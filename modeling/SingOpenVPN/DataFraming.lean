import SingOpenVPN.FragmentInOrder
import SingOpenVPN.LZORoundTrip

/-!
# Framing of data packets (`data_channel_framing.go`, `data_channel_compression.go`)

A payload gets a compression marker and is then cut into fragments.  The marker is a byte in
front, replaces the first byte, which moves to the end, or is only there for payloads that
begin like one.  Only LZO compresses; with adaptive LZO the sender stops for a minute when it
did not save enough.

The libraries that decompress are part of `BlockDecoders`.  All that is used of them is that
an LZO block that follows the format is decompressed.
-/

namespace SingOpenVPN

open Chunks

/-! ### Settings (`compression_options.go`, `allow_compression.go`) -/

inductive CompressionAlgorithm where
  | none
  | stub
  | lzo
  | lz4
  | stubV2
  | lz4V2
deriving DecidableEq, Repr

inductive AllowCompressionPolicy where
  | stubOnly
  | asymmetric
  | yes
deriving DecidableEq, Repr

structure CompressionSettings where
  algorithm : CompressionAlgorithm
  swap : Bool
  adaptive : Bool
  asymmetric : Bool
deriving DecidableEq, Repr

namespace CompressionSettings

def framingEnabled (settings : CompressionSettings) : Bool := settings.algorithm ≠ .none

def compressesOutbound (settings : CompressionSettings)
    (allowCompression : AllowCompressionPolicy) : Bool :=
  settings.algorithm = .lzo ∧ ¬settings.asymmetric ∧ allowCompression = .yes

end CompressionSettings

/-! ### Markers -/

def openVPNLZOCompressByte : UInt8 := 0x66
def openVPNLZ4CompressByte : UInt8 := 0x69
def openVPNNoCompressByte : UInt8 := 0xfa
def openVPNNoCompressByteSwap : UInt8 := 0xfb

def openVPNCompressV2IndicatorByte : UInt8 := 0x50
def openVPNCompressV2SubTypeNone : UInt8 := 0x00
def openVPNCompressV2SubTypeLZ4 : UInt8 := 0x01

def openVPNLZOMaxDecompressedSize : Nat := 2 ^ 16
def openVPNCompressionThreshold : Nat := 100

def openVPNLZOAdaptiveSampleDuration : Duration := 2 * 10 ^ 9
def openVPNLZOAdaptiveOffDuration : Duration := 60 * 10 ^ 9
def openVPNLZOAdaptiveMinimumBytes : Nat := 1000
def openVPNLZOAdaptiveSavePercent : Nat := 5

def applyStubCompressionFrame (payload : Bytes) (swap : Bool) : Bytes :=
  if swap = false then openVPNNoCompressByte :: payload
  else
    match payload with
    | [] => [openVPNNoCompressByteSwap]
    | head :: tail => openVPNNoCompressByteSwap :: tail ++ [head]

def unswapV1FrameHead (framedPayload : Bytes) : Bytes :=
  if framedPayload.length ≤ 1 then []
  else
    framedPayload.getD (framedPayload.length - 1) 0 ::
      (framedPayload.take (framedPayload.length - 1)).drop 1

def unframeStubCompression (framedPayload : Bytes) (swap : Bool) : Except String Bytes :=
  match framedPayload with
  | [] => .error "missing compression marker"
  | marker :: payload =>
    if swap = false then
      if marker ≠ openVPNNoCompressByte then .error "invalid compression stub marker"
      else .ok payload
    else if marker ≠ openVPNNoCompressByteSwap then .error "invalid compression stub marker"
    else .ok (unswapV1FrameHead framedPayload)

def escapeV2StubCompression (payload : Bytes) : Bytes :=
  match payload with
  | [] => payload
  | head :: _ =>
    if head ≠ openVPNCompressV2IndicatorByte then payload
    else openVPNCompressV2IndicatorByte :: openVPNCompressV2SubTypeNone :: payload

/-! ### Decompression -/

/-- `lzo.Decompress` and `lz4.UncompressBlock` with their buffers of 64 kilobytes. -/
structure BlockDecoders where
  lzo : Bytes → Option Bytes
  lz4 : Bytes → Option Bytes
  lzo_standard : ∀ block output, LZO1X.decompress block = some output →
    output.length ≤ openVPNLZOMaxDecompressedSize → lzo block = some output

namespace BlockDecoders

variable (decoders : BlockDecoders)

def decompressLZOBlock (compressedBlock : Bytes) : Except String Bytes :=
  if compressedBlock.length = 0 then .error "empty lzo block"
  else
    match decoders.lzo compressedBlock with
    | none => .error "decompress lzo block"
    | some decompressed =>
      if decompressed.length = 0 then .error "lzo block decompression produced empty output"
      else .ok decompressed

def decompressLZ4Block (compressedBlock : Bytes) : Except String Bytes :=
  if compressedBlock.length = 0 then .error "empty lz4 block"
  else
    match decoders.lz4 compressedBlock with
    | none => .error "lz4 block decompression failed"
    | some decompressed =>
      if decompressed.length = 0 then .error "lz4 block decompression produced empty output"
      else .ok decompressed

def decompressLZ4V1Frame (framedPayload : Bytes) : Except String Bytes :=
  if framedPayload.length < 2 then .error "truncated lz4 v1 payload"
  else decoders.decompressLZ4Block (unswapV1FrameHead framedPayload)

def decodeLZOFrame (framedPayload : Bytes) : Except String Bytes :=
  match framedPayload with
  | [] => .error "missing compression marker"
  | marker :: payload =>
    if marker = openVPNNoCompressByte then .ok payload
    else if marker = openVPNLZOCompressByte then decoders.decompressLZOBlock payload
    else .error "invalid lzo compression marker"

def decodeLZ4V1Frame (framedPayload : Bytes) : Except String Bytes :=
  match framedPayload with
  | [] => .error "missing compression marker"
  | marker :: _ =>
    if marker = openVPNNoCompressByteSwap then .ok (unswapV1FrameHead framedPayload)
    else if marker = openVPNLZ4CompressByte then decoders.decompressLZ4V1Frame framedPayload
    else .error "invalid lz4 compression marker"

def unwrapV2Compression (algorithm : CompressionAlgorithm) (payload : Bytes) :
    Except String Bytes :=
  if payload.head? ≠ some openVPNCompressV2IndicatorByte then .ok payload
  else if payload.length < 2 then .error "truncated v2 compression header"
  else if payload.getD 1 0 = openVPNCompressV2SubTypeNone then .ok (payload.drop 2)
  else if payload.getD 1 0 = openVPNCompressV2SubTypeLZ4 then
    if algorithm ≠ .lz4V2 then .error "compressed lz4 v2 payload is not supported"
    else decoders.decompressLZ4Block (payload.drop 2)
  else .error "invalid v2 compression sub-type"

end BlockDecoders

/-! ### The framing of one end -/

structure DataChannelFraming where
  compression : CompressionSettings
  compressOutbound : Bool
  fragmentSize : Nat
  lzoAdaptiveDisabled : Bool
  lzoAdaptiveNext : Option Time
  lzoAdaptiveTotalBytes : Int
  lzoAdaptiveCompressedBytes : Int
  outgoingSequence : Nat
  receiver : FragmentReceiver

/-- `newDataChannelFraming`; `none` is a nil framing. -/
def newDataChannelFraming (compression : CompressionSettings) (fragment : Nat)
    (allowCompression : AllowCompressionPolicy) (random : Nat) : Option DataChannelFraming :=
  if compression.framingEnabled = false ∧ fragment = 0 then none
  else some {
    compression := compression
    compressOutbound := compression.compressesOutbound allowCompression
    fragmentSize := fragment
    lzoAdaptiveDisabled := false
    lzoAdaptiveNext := none
    lzoAdaptiveTotalBytes := 0
    lzoAdaptiveCompressedBytes := 0
    outgoingSequence := random &&& openVPNFragmentSequenceMask
    receiver := newFragmentReceiver }

namespace DataChannelFraming

variable (f : DataChannelFraming)

def lzoCompressionEnabled (now : Time) : Bool × DataChannelFraming :=
  if f.compression.adaptive = false then (true, f)
  else
    let f :=
      if f.lzoAdaptiveNext.all (· ≤ now) then
        let f :=
          if f.lzoAdaptiveDisabled then
            { f with lzoAdaptiveDisabled := false
                     lzoAdaptiveNext := some (now + openVPNLZOAdaptiveSampleDuration) }
          else if openVPNLZOAdaptiveMinimumBytes < f.lzoAdaptiveTotalBytes ∧
              f.lzoAdaptiveTotalBytes - f.lzoAdaptiveCompressedBytes <
                f.lzoAdaptiveTotalBytes / (100 / openVPNLZOAdaptiveSavePercent : Nat) then
            { f with lzoAdaptiveDisabled := true
                     lzoAdaptiveNext := some (now + openVPNLZOAdaptiveOffDuration) }
          else { f with lzoAdaptiveNext := some (now + openVPNLZOAdaptiveSampleDuration) }
        { f with lzoAdaptiveTotalBytes := 0, lzoAdaptiveCompressedBytes := 0 }
      else f
    (!f.lzoAdaptiveDisabled, f)

def recordLZOCompression (totalBytes compressedBytes : Nat) :
    DataChannelFraming :=
  { f with lzoAdaptiveTotalBytes := f.lzoAdaptiveTotalBytes + totalBytes
           lzoAdaptiveCompressedBytes := f.lzoAdaptiveCompressedBytes + compressedBytes }

def encodeLZOFrame (now : Time) (payload : Bytes) :
    Bytes × DataChannelFraming :=
  if f.compressOutbound = false ∨ payload.length < openVPNCompressionThreshold then
    (openVPNNoCompressByte :: payload, f)
  else
    let (enabled, f) := f.lzoCompressionEnabled now
    if enabled = false then (openVPNNoCompressByte :: payload, f)
    else
      let compressedPayload := compressLZOBlock payload
      let f :=
        if f.compression.adaptive then
          f.recordLZOCompression payload.length compressedPayload.length
        else f
      if payload.length ≤ compressedPayload.length then (openVPNNoCompressByte :: payload, f)
      else (openVPNLZOCompressByte :: compressedPayload, f)

/-- The first half of `Encode`: the marker. -/
def frame (now : Time) (payload : Bytes) : Bytes × DataChannelFraming :=
  match f.compression.algorithm with
  | .none => (payload, f)
  | .stub => (applyStubCompressionFrame payload f.compression.swap, f)
  | .lz4 => (applyStubCompressionFrame payload true, f)
  | .lzo => f.encodeLZOFrame now payload
  | .stubV2 | .lz4V2 => (escapeV2StubCompression payload, f)

/-- `Encode` of a framing that is not nil. -/
def encodeFramed (now : Time) (payload : Bytes) (fragmentSize : Int) :
    Except String (List Bytes) × DataChannelFraming :=
  let (framedPayload, f) := f.frame now payload
  if f.fragmentSize = 0 then (.ok [framedPayload], f)
  else
    let (fragments, outgoingSequence) :=
      encodeFragments f.outgoingSequence framedPayload fragmentSize
    (fragments, { f with outgoingSequence := outgoingSequence })

variable (decoders : BlockDecoders)

/-- The second half of `Decode`: the marker. -/
def unframe (framedPayload : Bytes) : Except String Bytes :=
  match f.compression.algorithm with
  | .none => .ok framedPayload
  | .stub => unframeStubCompression framedPayload f.compression.swap
  | .lzo => decoders.decodeLZOFrame framedPayload
  | .lz4 => decoders.decodeLZ4V1Frame framedPayload
  | .stubV2 | .lz4V2 => decoders.unwrapV2Compression f.compression.algorithm framedPayload

/-- `Decode` of a framing that is not nil; `none` is a packet that is not complete. -/
def decodeFramed (order : RangeOrder) (now : Time) (payload : Bytes) :
    Except String (Option Bytes) × DataChannelFraming :=
  if f.fragmentSize = 0 then ((f.unframe decoders payload).map some, f)
  else
    let (result, receiver) := f.receiver.decodeFragment order now payload
    let f := { f with receiver := receiver }
    match result with
    | .error message => (.error message, f)
    | .ok none => (.ok none, f)
    | .ok (some framedPayload) => ((f.unframe decoders framedPayload).map some, f)

def encode (f : Option DataChannelFraming) (now : Time) (payload : Bytes) (fragmentSize : Int) :
    Except String (List Bytes) × Option DataChannelFraming :=
  match f with
  | none => (.ok [payload], none)
  | some f =>
    ((f.encodeFramed now payload fragmentSize).1,
      some (f.encodeFramed now payload fragmentSize).2)

def decode (f : Option DataChannelFraming) (order : RangeOrder) (now : Time) (payload : Bytes) :
    Except String (Option Bytes) × Option DataChannelFraming :=
  match f with
  | none => (.ok (some payload), none)
  | some f =>
    ((f.decodeFramed decoders order now payload).1,
      some (f.decodeFramed decoders order now payload).2)

end DataChannelFraming

end SingOpenVPN
