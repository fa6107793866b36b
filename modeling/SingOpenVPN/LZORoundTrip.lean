import Mathlib.Data.Nat.Bitwise
import SingOpenVPN.ByteCodec
import SingOpenVPN.LZOCompress

/-!
# What the compressor writes decodes to its input (`lzo_compress.go`)

After a match the output is `LZOOpen`: the match has been written, and up to three literals can
still be counted in it.  After literals it is `LZOReady` for the next instruction.  The
compressor moves between the two, and what it has written always decodes to the input up to
`literalStart`.  Which matches it finds plays no part: a match is only ever written for
bytes that have been compared.
-/

namespace SingOpenVPN

open ByteCodec LZO1X List UInt8

/-! ### Bytes of instructions -/

theorem toNat_or_ofNat {byte : UInt8} {count : Nat} (hbyte : byte.toNat % 4 = 0)
    (hcount : count ≤ 3) : (byte ||| UInt8.ofNat count).toNat = byte.toNat + count := by
  have hbits : count ||| (byte.toNat / 4) <<< 2 = count + byte.toNat / 4 * 2 ^ 2 :=
    or_shiftLeft (by omega) _
  have hshift : (byte.toNat / 4) <<< 2 = byte.toNat := by
    omega
  rw [hshift] at hbits
  rw [UInt8.toNat_or, UInt8.toNat_ofNat', Nat.mod_eq_of_lt (by omega), Nat.or_comm, hbits]
  omega

theorem and_seven (value : Nat) : value &&& 7 = value % 8 := Nat.and_two_pow_sub_one_eq_mod value 3

theorem and_sixtyThree (value : Nat) : value &&& 63 = value % 64 :=
  Nat.and_two_pow_sub_one_eq_mod value 6

theorem toNat_headM2 {matchLength matchOffset : Nat} (hlength : matchLength ≤ 8) :
    (ofNat (((matchLength - 1) <<< 5) ||| ((matchOffset &&& 7) <<< 2))).toNat =
      (matchLength - 1) * 32 + matchOffset % 8 * 4 := by
  have hbits : (matchOffset % 8) <<< 2 ||| (matchLength - 1) <<< 5 =
      (matchOffset % 8) <<< 2 + (matchLength - 1) * 2 ^ 5 :=
    or_shiftLeft (by rw [Nat.shiftLeft_eq]; omega) _
  rw [and_seven, Nat.or_comm, hbits, toNat_ofNat', Nat.shiftLeft_eq, Nat.mod_eq_of_lt]
  · omega
  · omega

theorem toNat_low (matchOffset : Nat) :
    (ofNat ((matchOffset &&& 63) <<< 2)).toNat = matchOffset % 64 * 4 := by
  rw [and_sixtyThree, toNat_ofNat', Nat.shiftLeft_eq, Nat.mod_eq_of_lt (by omega)]

theorem toNat_headM3 {length : Nat} (hlength : length < 32) :
    (ofNat (lzoMarkerM3 ||| length)).toNat = 32 + length := by
  have hbits : length ||| 1 <<< 5 = length + 1 * 2 ^ 5 := or_shiftLeft (by omega) _
  rw [Nat.or_comm, show lzoMarkerM3 = 1 <<< 5 from rfl, hbits, toNat_ofNat',
    Nat.mod_eq_of_lt (by omega)]
  omega

theorem toNat_headM4 {length : Nat} (hlength : length < 8) (matchOffset : Nat) :
    (ofNat (lzoMarkerM4 ||| ((matchOffset &&& 0x4000) >>> 11) ||| length)).toNat =
      16 + matchOffset / 16384 % 2 * 8 + length := by
  have hhigh : (matchOffset &&& 0x4000) >>> 11 = (matchOffset / 16384 % 2) <<< 3 := by
    rw [show 0x4000 = 2 ^ 14 from rfl, Nat.and_two_pow, Nat.testBit_eq_decide_div_mod_eq,
      Nat.shiftRight_eq_div_pow, Nat.shiftLeft_eq]
    rcases Nat.mod_two_eq_zero_or_one (matchOffset / 16384) with h | h <;> simp [h]
  have hlow : length ||| (matchOffset / 16384 % 2) <<< 3 =
      length + matchOffset / 16384 % 2 * 2 ^ 3 := or_shiftLeft (by omega) _
  have hmarker : (length + matchOffset / 16384 % 2 * 2 ^ 3) ||| 1 <<< 4 =
      length + matchOffset / 16384 % 2 * 2 ^ 3 + 1 * 2 ^ 4 := or_shiftLeft (by omega) _
  rw [hhigh, show lzoMarkerM4 = 1 <<< 4 from rfl, Nat.or_assoc, Nat.or_comm, Nat.or_comm _ length,
    hlow, hmarker, toNat_ofNat', Nat.mod_eq_of_lt (by omega)]
  omega

theorem readMore_multiple {rounds value : Nat} (hpos : 0 < value) (hrounds : value ≤ rounds)
    (rest : Bytes) : readMore (lzoMultiple rounds value ++ rest) = some (value, rest) := by
  induction rounds generalizing value with
  | zero => omega
  | succ rounds ih =>
    rw [lzoMultiple]
    split
    · next hlarge =>
      rw [cons_append, readMore, if_pos rfl, ih (by omega) (by omega), Option.map_some]
      simp only [Option.some.injEq, Prod.mk.injEq, and_true]
      omega
    · next hsmall =>
      have hvalue : (ofNat value).toNat = value := by
        rw [toNat_ofNat', Nat.mod_eq_of_lt (by omega)]
      have hne : ofNat value ≠ 0 := by
        intro hzero
        rw [hzero] at hvalue
        exact hpos.ne hvalue
      rw [cons_append, nil_append, readMore, if_neg hne, hvalue]

theorem readLength_multiple (base : Nat) {value : Nat} (hvalue : 0 < value) (rest : Bytes) :
    readLength 0 base (lzoMultiple value value ++ rest) = some (base + value, rest) := by
  rw [readLength, if_pos rfl, readMore_multiple hvalue le_rfl]
  rfl

/-! ### Match instructions -/

/-- The bytes of a match, with the number of literals counted in the one before the last. -/
structure MatchInstruction where
  front : Bytes
  low : UInt8
  high : UInt8

namespace MatchInstruction

def bytes (instruction : MatchInstruction) (literals : Nat) : Bytes :=
  instruction.front ++ [instruction.low ||| UInt8.ofNat literals, instruction.high]

/-- The instruction copies a match, whatever was before, and then the literals. -/
structure Encodes (instruction : MatchInstruction) (distance length : Nat) : Prop where
  low : instruction.low.toNat % 4 = 0
  step : ∀ literals ≤ 3, ∀ before output rest,
    LZO1X.step { literals := before, output := output,
                 input := instruction.bytes literals ++ rest } =
      copyBoth distance length literals output rest

end MatchInstruction

theorem or_zero_byte (byte : UInt8) : byte ||| UInt8.ofNat 0 = byte := by
  rw [show UInt8.ofNat 0 = 0 from rfl, UInt8.or_zero]

/-- Matches of up to eight bytes in the last two kilobytes. -/
theorem encodes_M2 {matchOffset matchLength : Nat} (hoffset : matchOffset < 2048)
    (hmin : 3 ≤ matchLength) (hmax : matchLength ≤ 8) :
    MatchInstruction.Encodes
      { front := []
        low := ofNat (((matchLength - 1) <<< 5) ||| ((matchOffset &&& 7) <<< 2))
        high := ofNat (matchOffset >>> 3) } (matchOffset + 1) matchLength := by
  have hhead : (ofNat (((matchLength - 1) <<< 5) ||| ((matchOffset &&& 7) <<< 2))).toNat = _ :=
    toNat_headM2 hmax
  have hhigh : (ofNat (matchOffset >>> 3)).toNat = matchOffset / 8 := by
    rw [toNat_ofNat', Nat.shiftRight_eq_div_pow, Nat.mod_eq_of_lt (by omega)]
  refine ⟨by rw [hhead]; omega, fun literals hliterals before output rest => ?_⟩
  have hlow := toNat_or_ofNat (by rw [hhead]; omega) hliterals
  simp only [MatchInstruction.bytes, nil_append, cons_append, LZO1X.step, hlow, hhigh]
  rw [if_pos (by omega)]
  congr 1 <;> omega

/-- The distance bytes of the other matches. -/
theorem readDistance_bytes {matchOffset literals : Nat} (hliterals : literals ≤ 3) (rest : Bytes) :
    readDistance ((ofNat ((matchOffset &&& 63) <<< 2) ||| ofNat literals) ::
        ofNat (matchOffset >>> 6) :: rest) =
      some (matchOffset % 16384, literals, rest) := by
  have hlow : (ofNat ((matchOffset &&& 63) <<< 2) ||| ofNat literals).toNat = _ :=
    toNat_or_ofNat (by rw [toNat_low]; omega) hliterals
  rw [toNat_low] at hlow
  rw [readDistance, hlow, toNat_ofNat', Nat.shiftRight_eq_div_pow]
  simp only [Option.some.injEq, Prod.mk.injEq, and_true]
  omega

section Long

variable {matchOffset length : Nat} {front : Bytes} {head : UInt8} {tail : Bytes}

theorem encodes_M3 {field : Nat} (hoffset : matchOffset < 16384) (hfield : field < 32)
    (hhead : head.toNat = 32 + field)
    (hlength : ∀ rest, readLength field 31 (tail ++ rest) = some (length, rest)) :
    MatchInstruction.Encodes
      { front := head :: tail
        low := ofNat ((matchOffset &&& 63) <<< 2)
        high := ofNat (matchOffset >>> 6) } (matchOffset + 1) (length + 2) := by
  refine ⟨by rw [toNat_low]; omega, fun literals hliterals before output rest => ?_⟩
  simp only [MatchInstruction.bytes, cons_append, append_assoc, nil_append,
    LZO1X.step, hhead]
  rw [if_neg (by omega), if_pos (by omega), show (32 + field) % 32 = field by omega, hlength]
  simp only [Option.bind_eq_bind, Option.bind_some]
  rw [readDistance_bytes hliterals, Option.bind_some, Nat.mod_eq_of_lt hoffset]

theorem encodes_M4 {field : Nat} (hpos : 0 < matchOffset) (hoffset : matchOffset < 32768)
    (hfield : field < 8) (hhead : head.toNat = 16 + matchOffset / 16384 % 2 * 8 + field)
    (hlength : ∀ rest, readLength field 7 (tail ++ rest) = some (length, rest)) :
    MatchInstruction.Encodes
      { front := head :: tail
        low := ofNat ((matchOffset &&& 63) <<< 2)
        high := ofNat (matchOffset >>> 6) } (matchOffset + 16384) (length + 2) := by
  refine ⟨by rw [toNat_low]; omega, fun literals hliterals before output rest => ?_⟩
  simp only [MatchInstruction.bytes, cons_append, append_assoc, nil_append,
    LZO1X.step, hhead]
  rw [if_neg (by omega), if_neg (by omega), if_pos (by omega),
    show (16 + matchOffset / 16384 % 2 * 8 + field) % 8 = field by omega, hlength]
  simp only [Option.bind_eq_bind, Option.bind_some]
  rw [readDistance_bytes hliterals, Option.bind_some]
  have hdistance : matchOffset % 16384 +
      (16 + matchOffset / 16384 % 2 * 8 + field) / 8 % 2 * 16384 = matchOffset := by omega
  rw [hdistance, if_neg hpos.ne']

end Long

section Writers

variable (output : Bytes) {matchOffset matchLength : Nat}

theorem exists_M3 (hpos : 0 < matchOffset) (hnear : matchOffset ≤ lzoMaxOffsetM3)
    (hmin : 3 ≤ matchLength) (hmax : matchLength ≤ 33) :
    ∃ instruction : MatchInstruction, instruction.Encodes matchOffset matchLength ∧
      instruction.bytes 0 = [ofNat (lzoMarkerM3 ||| (matchLength - 2)),
        ofNat (((matchOffset - 1) &&& 63) <<< 2), ofNat ((matchOffset - 1) >>> 6)] := by
  rw [lzoMaxOffsetM3] at hnear
  have hencodes := encodes_M3 (show matchOffset - 1 < 16384 by omega)
    (show matchLength - 2 < 32 by omega) (toNat_headM3 (show matchLength - 2 < 32 by omega))
    fun rest => (if_neg (by omega) : readLength (matchLength - 2) 31 ([] ++ rest) = _)
  rw [Nat.sub_add_cancel hpos, Nat.sub_add_cancel (by omega)] at hencodes
  exact ⟨_, hencodes, by rw [MatchInstruction.bytes, or_zero_byte]; rfl⟩

theorem exists_M4 (hoffset : matchOffset ≤ lzoMaxOffsetM4) (hfar : lzoMaxOffsetM3 < matchOffset)
    (hmin : 3 ≤ matchLength) (hmax : matchLength ≤ 9) :
    ∃ instruction : MatchInstruction, instruction.Encodes matchOffset matchLength ∧
      instruction.bytes 0 = [ofNat (lzoMarkerM4 |||
          (((matchOffset - 0x4000) &&& 0x4000) >>> 11) ||| (matchLength - 2)),
        ofNat (((matchOffset - 0x4000) &&& 63) <<< 2),
        ofNat ((matchOffset - 0x4000) >>> 6)] := by
  rw [lzoMaxOffsetM3] at hfar
  rw [lzoMaxOffsetM4] at hoffset
  have hencodes := encodes_M4 (show 0 < matchOffset - 0x4000 by omega)
    (show matchOffset - 0x4000 < 32768 by omega) (show matchLength - 2 < 8 by omega)
    (toNat_headM4 (show matchLength - 2 < 8 by omega) (matchOffset - 0x4000))
    fun rest => (if_neg (by omega) : readLength (matchLength - 2) 7 ([] ++ rest) = _)
  rw [Nat.sub_add_cancel (by omega), Nat.sub_add_cancel (by omega)] at hencodes
  exact ⟨_, hencodes, by rw [MatchInstruction.bytes, or_zero_byte]; rfl⟩

theorem appendLZOShortMatch_spec (hpos : 0 < matchOffset)
    (hoffset : matchOffset ≤ lzoMaxOffsetM4) (hmin : 3 ≤ matchLength) (hmax : matchLength < 9) :
    ∃ instruction : MatchInstruction, instruction.Encodes matchOffset matchLength ∧
      appendLZOShortMatch output matchOffset matchLength = output ++ instruction.bytes 0 := by
  by_cases hnear : matchOffset ≤ lzoMaxOffsetM2
  · have hencodes := encodes_M2 (show matchOffset - 1 < 2048 by rw [lzoMaxOffsetM2] at hnear; omega)
      hmin (show matchLength ≤ 8 by omega)
    rw [Nat.sub_add_cancel hpos] at hencodes
    refine ⟨_, hencodes, ?_⟩
    rw [appendLZOShortMatch, if_pos hnear, MatchInstruction.bytes, or_zero_byte, nil_append]
  · by_cases hmiddle : matchOffset ≤ lzoMaxOffsetM3
    · obtain ⟨instruction, hencodes, hbytes⟩ :=
        exists_M3 hpos hmiddle hmin (show matchLength ≤ 33 by omega)
      refine ⟨instruction, hencodes, ?_⟩
      rw [appendLZOShortMatch, if_neg hnear, if_pos hmiddle, hbytes]
    · obtain ⟨instruction, hencodes, hbytes⟩ :=
        exists_M4 hoffset (not_le.mp hmiddle) hmin (show matchLength ≤ 9 by omega)
      refine ⟨instruction, hencodes, ?_⟩
      rw [appendLZOShortMatch, if_neg hnear, if_neg hmiddle, hbytes]

theorem appendLZOLongMatch_spec (hpos : 0 < matchOffset)
    (hoffset : matchOffset ≤ lzoMaxOffsetM4) (hmin : 9 ≤ matchLength) :
    ∃ instruction : MatchInstruction, instruction.Encodes matchOffset matchLength ∧
      appendLZOLongMatch output matchOffset matchLength = output ++ instruction.bytes 0 := by
  by_cases hnear : matchOffset ≤ lzoMaxOffsetM3
  · by_cases hfits : matchLength ≤ 33
    · obtain ⟨instruction, hencodes, hbytes⟩ :=
        exists_M3 hpos hnear (show 3 ≤ matchLength by omega) hfits
      refine ⟨instruction, hencodes, ?_⟩
      rw [appendLZOLongMatch, if_pos hnear, if_pos hfits, hbytes, append_assoc]
      rfl
    · have hencodes := encodes_M3
        (show matchOffset - 1 < 16384 by rw [lzoMaxOffsetM3] at hnear; omega) (by decide : 0 < 32)
        (toNat_headM3 (by decide : 0 < 32))
        (readLength_multiple 31 (show 0 < matchLength - 33 by omega))
      rw [Nat.sub_add_cancel hpos, show 31 + (matchLength - 33) + 2 = matchLength by omega]
        at hencodes
      refine ⟨_, hencodes, ?_⟩
      rw [appendLZOLongMatch, if_pos hnear, if_neg hfits, MatchInstruction.bytes, or_zero_byte,
        appendLZOMultiple, append_assoc, append_assoc]
      rfl
  · by_cases hfits : matchLength ≤ lzoMaxLengthM4
    · obtain ⟨instruction, hencodes, hbytes⟩ :=
        exists_M4 hoffset (not_le.mp hnear) (show 3 ≤ matchLength by omega) hfits
      refine ⟨instruction, hencodes, ?_⟩
      rw [appendLZOLongMatch, if_neg hnear]
      dsimp only
      rw [if_pos hfits, hbytes, append_assoc]
      rfl
    · rw [lzoMaxOffsetM4] at hoffset
      have hfar : 0x4000 < matchOffset := not_le.mp hnear
      have hlong : 9 < matchLength := not_le.mp hfits
      have hencodes := encodes_M4 (show 0 < matchOffset - 0x4000 by omega)
        (show matchOffset - 0x4000 < 32768 by omega) (by decide : 0 < 8)
        (toNat_headM4 (by decide : 0 < 8) (matchOffset - 0x4000))
        (readLength_multiple 7 (show 0 < matchLength - 9 by omega))
      rw [Nat.sub_add_cancel (by omega), show 7 + (matchLength - 9) + 2 = matchLength by omega]
        at hencodes
      refine ⟨_, hencodes, ?_⟩
      rw [appendLZOLongMatch, if_neg hnear]
      dsimp only
      rw [if_neg hfits, MatchInstruction.bytes, or_zero_byte, appendLZOMultiple,
        append_assoc, append_assoc, Nat.or_zero]
      rfl

end Writers

/-! ### Outputs that can be continued -/

/-- The output decodes to `decoded` and the next instruction follows. -/
def LZOReady (output decoded : Bytes) : Prop :=
  ∃ literals, ∀ rest, decompress (output ++ rest) =
    decode { literals := literals, output := decoded, input := rest }

/-- The output ends with a match in which literals can be counted. -/
structure LZOOpen (output decoded : Bytes) : Prop where
  exists_last : ∃ (front : Bytes) (low high : UInt8), output = front ++ [low, high] ∧
    ∀ literals rest : Bytes, literals.length ≤ 3 →
      decompress (front ++ [low ||| UInt8.ofNat literals.length, high] ++ (literals ++ rest)) =
        decode { literals := literals.length, output := decoded ++ literals, input := rest }

section Continue

variable {output decoded : Bytes}

theorem LZOOpen.output_ne_nil (h : LZOOpen output decoded) : output ≠ [] := by
  obtain ⟨front, low, high, rfl, -⟩ := h
  simp

theorem modify_before_last (front : Bytes) (low high : UInt8) (f : UInt8 → UInt8) :
    (front ++ [low, high]).modify ((front ++ [low, high]).length - 2) f =
      front ++ [f low, high] := by
  induction front with
  | nil => rfl
  | cons byte front ih => simpa using ih

theorem LZOOpen.ready (h : LZOOpen output decoded) : LZOReady output decoded := by
  obtain ⟨front, low, high, rfl, hliterals⟩ := h
  refine ⟨0, fun rest => ?_⟩
  have hnone := hliterals [] rest (Nat.zero_le _)
  rwa [length_nil, or_zero_byte, nil_append, append_nil] at hnone

theorem LZOReady.open {instruction : MatchInstruction} {distance length : Nat} {copied : Bytes}
    (h : LZOReady output decoded) (hencodes : instruction.Encodes distance length)
    (hcopy : copyMatch distance length decoded = some copied) :
    LZOOpen (output ++ instruction.bytes 0) copied := by
  obtain ⟨before, hready⟩ := h
  refine ⟨output ++ instruction.front, instruction.low, instruction.high, ?_,
    fun literals rest hliterals => ?_⟩
  · rw [MatchInstruction.bytes, or_zero_byte, append_assoc]
  · have hstep := hencodes.step literals.length hliterals before decoded (literals ++ rest)
    rw [copyBoth_eq hcopy hliterals] at hstep
    rw [← decode_next hstep, ← hready, MatchInstruction.bytes]
    simp only [append_assoc]

theorem LZOReady.finish (h : LZOReady output decoded) :
    decompress (output ++ [ofNat (lzoMarkerM4 ||| 1), 0, 0]) = some decoded := by
  obtain ⟨before, hready⟩ := h
  rw [hready]
  refine decode_finished ?_
  simp only [step, show (ofNat (lzoMarkerM4 ||| 1)).toNat = 17 from rfl]
  rfl

/-- A run of four or more literals where none came before. -/
theorem step_literals (decoded : Bytes) {literal : Bytes} (hcount : 3 < literal.length)
    (rest : Bytes) :
    step { literals := 0, output := decoded,
           input := (if literal.length ≤ 18 then [ofNat (literal.length - 3)]
             else 0 :: lzoMultiple (literal.length - 18) (literal.length - 18)) ++
               (literal ++ rest) } =
      some (.next { literals := 4, output := decoded ++ literal, input := rest }) := by
  have hcopy := copyLiterals_append literal rest decoded
  rw [min_eq_right (by omega)] at hcopy
  split
  · next hsmall =>
    have hbyte : (ofNat (literal.length - 3)).toNat = literal.length - 3 := by
      rw [toNat_ofNat', Nat.mod_eq_of_lt (by omega)]
    simp only [cons_append, nil_append, step, hbyte]
    rw [if_neg (by omega), if_neg (by omega), if_neg (by omega), if_pos trivial, readLength,
      if_neg (by omega)]
    simp only [Option.bind_eq_bind, Option.bind_some]
    rw [Nat.sub_add_cancel (by omega), hcopy]
    rfl
  · next hlarge =>
    simp only [cons_append, step, show (0 : UInt8).toNat = 0 from rfl]
    rw [if_neg (by decide), if_neg (by decide), if_neg (by decide), if_pos trivial,
      readLength_multiple 15 (by omega)]
    simp only [Option.bind_eq_bind, Option.bind_some]
    rw [show 15 + (literal.length - 18) + 3 = literal.length by omega, hcopy]
    rfl

/-- Before the first match there is nothing, and after a match the output is open. -/
def LZOWritten (output decoded : Bytes) : Prop :=
  output = [] ∧ decoded = [] ∨ LZOOpen output decoded

theorem LZOWritten.literal (h : LZOWritten output decoded) {literal : Bytes}
    (hliteral : literal ≠ []) :
    LZOReady (appendLZOLiteral output literal) (decoded ++ literal) := by
  have hpos : literal.length ≠ 0 := fun hzero => hliteral (length_eq_zero_iff.mp hzero)
  rw [appendLZOLiteral, if_neg hpos]
  rcases h with ⟨rfl, rfl⟩ | hopen
  · by_cases hfirst : literal.length ≤ 238
    · rw [if_pos ⟨rfl, hfirst⟩]
      refine ⟨min literal.length 4, fun rest => ?_⟩
      have hbyte : (ofNat (17 + literal.length)).toNat = 17 + literal.length := by
        rw [toNat_ofNat', Nat.mod_eq_of_lt (by omega)]
      rw [nil_append, append_assoc, singleton_append, decompress, start, hbyte,
        if_pos (by omega), Nat.add_sub_cancel_left, copyLiterals_append, Option.bind_some]
    · rw [if_neg fun hboth => hfirst hboth.2, if_neg (by omega), if_neg (by omega)]
      refine ⟨4, fun rest => ?_⟩
      have hstep := step_literals [] (show 3 < literal.length by omega) rest
      rw [if_neg (by omega)] at hstep
      rw [← decode_next hstep, appendLZOMultiple]
      simp only [nil_append, append_assoc, cons_append]
      rfl
  · rw [if_neg fun hboth => hopen.output_ne_nil (length_eq_zero_iff.mp hboth.1)]
    by_cases hfew : literal.length ≤ 3
    · obtain ⟨front, low, high, rfl, hliterals⟩ := hopen
      rw [if_pos hfew, modify_before_last]
      exact ⟨literal.length, fun rest => by
        rw [append_assoc]
        exact hliterals literal rest hfew⟩
    · obtain ⟨front, low, high, rfl, hliterals⟩ := hopen
      have hstate : ∀ rest, decompress (front ++ [low, high] ++ rest) =
          decode { literals := 0, output := decoded, input := rest } := by
        intro rest
        have hnone := hliterals [] rest (Nat.zero_le _)
        rwa [length_nil, or_zero_byte, nil_append, append_nil] at hnone
      rw [if_neg hfew]
      refine ⟨4, fun rest => ?_⟩
      rw [← decode_next (step_literals decoded (not_le.mp hfew) rest), ← hstate]
      split
      · simp only [append_assoc]
      · rw [appendLZOMultiple]
        simp only [append_assoc, nil_append, cons_append]

end Continue

/-! ### The loop -/

section Loop

variable {input : Bytes}

theorem lzoShortLength_spec {inputPosition matchPosition rounds matchLength : Nat}
    (hagree : ∀ index < matchLength,
      input.getD (matchPosition + index) 0 = input.getD (inputPosition + index) 0) :
    let length := lzoShortLength input inputPosition matchPosition rounds matchLength
    matchLength ≤ length ∧ length ≤ matchLength + rounds ∧ ∀ index < length,
      input.getD (matchPosition + index) 0 = input.getD (inputPosition + index) 0 := by
  induction rounds generalizing matchLength with
  | zero => exact ⟨le_rfl, le_rfl, hagree⟩
  | succ rounds ih =>
    simp only [lzoShortLength]
    split
    · exact ⟨le_rfl, by omega, hagree⟩
    · next hequal =>
      have hnext : ∀ index < matchLength + 1,
          input.getD (matchPosition + index) 0 = input.getD (inputPosition + index) 0 := by
        intro index hindex
        rcases Nat.lt_succ_iff_lt_or_eq.mp hindex with hlt | rfl
        · exact hagree index hlt
        · exact not_not.mp hequal
      obtain ⟨hle, hbound, hall⟩ := ih hnext
      exact ⟨by omega, by omega, hall⟩

theorem lzoExtend_spec {rounds matchPosition inputPosition : Nat}
    (hposition : inputPosition ≤ input.length) :
    let next := lzoExtend input rounds matchPosition inputPosition
    inputPosition ≤ next ∧ next ≤ input.length ∧ ∀ index < next - inputPosition,
      input.getD (matchPosition + index) 0 = input.getD (inputPosition + index) 0 := by
  induction rounds generalizing matchPosition inputPosition with
  | zero =>
    refine ⟨le_rfl, hposition, fun index hindex => ?_⟩
    rw [lzoExtend] at hindex
    omega
  | succ rounds ih =>
    simp only [lzoExtend]
    split
    · next hequal =>
      obtain ⟨hle, hbound, hall⟩ := @ih (matchPosition + 1) (inputPosition + 1) hequal.1
      refine ⟨by omega, hbound, fun index hindex => ?_⟩
      cases index with
      | zero => exact hequal.2
      | succ index =>
        have hnext := hall index (by omega)
        rwa [add_right_comm, add_right_comm inputPosition] at hnext
    · refine ⟨le_rfl, hposition, fun index hindex => ?_⟩
      omega

/-- What the loop keeps: the output decodes to the input up to `literalStart`, and the
    dictionary holds earlier positions. -/
structure LZOInvariant (input : Bytes) (state : LZOState) : Prop where
  written : LZOWritten state.output (input.take state.literalStart)
  literalStart_le : state.literalStart ≤ state.inputPosition
  within : state.literalStart ≤ input.length
  dictionary : ∀ index, state.dictionary index ≤ state.inputPosition

variable {state : LZOState}

section

variable (h : LZOInvariant input state)

include h

theorem LZOInvariant.ready (hpos : 0 < state.inputPosition)
    (hwithin : state.inputPosition ≤ input.length) :
    LZOReady (if state.inputPosition ≠ state.literalStart then
        appendLZOLiteral state.output ((input.take state.inputPosition).drop state.literalStart)
      else state.output) (input.take state.inputPosition) := by
  split
  · next hne =>
    have hle := h.literalStart_le
    have hliteral : (input.take state.inputPosition).drop state.literalStart ≠ [] := by
      intro hnil
      have hlength := congrArg List.length hnil
      rw [length_drop, length_take, length_nil] at hlength
      omega
    have hready := h.written.literal hliteral
    have hsplit : input.take state.literalStart ++
        (input.take state.inputPosition).drop state.literalStart =
          input.take state.inputPosition := by
      rw [← min_eq_left hle, ← take_take, min_eq_left hle, take_append_drop]
    rwa [hsplit] at hready
  · next heq =>
    rw [not_not.mp heq]
    rcases h.written with ⟨-, hnil⟩ | hopen
    · have hlength := congrArg List.length hnil
      rw [length_take, length_nil] at hlength
      omega
    · exact hopen.ready

variable {index matchPosition matchOffset : Nat}

theorem findLZOCandidate_spec
    (hcandidate : findLZOCandidate state.dictionary input state.inputPosition index =
      some (matchPosition, matchOffset)) :
    matchPosition + matchOffset = state.inputPosition ∧ 0 < matchOffset ∧
      matchOffset ≤ lzoMaxOffsetM4 ∧ state.dictionary index ≠ 0 := by
  rw [findLZOCandidate] at hcandidate
  split at hcandidate
  · cases hcandidate
  · next hfound =>
    dsimp only at hcandidate
    split at hcandidate
    · cases hcandidate
    · next hin =>
      split at hcandidate
      · obtain ⟨rfl, rfl⟩ := Prod.mk.inj (Option.some.inj hcandidate)
        have hle := h.dictionary index
        exact ⟨by omega, by omega, by omega, hfound⟩
      · cases hcandidate

theorem LZOInvariant.writeMatch
    (hposition : matchPosition + matchOffset = state.inputPosition) (hpos : 0 < matchOffset)
    (hoffset : matchOffset ≤ lzoMaxOffsetM4) (hroom : state.inputPosition + 13 < input.length)
    (hmatches : lzoMatches input state.inputPosition matchPosition matchOffset = true) :
    LZOInvariant input (state.writeMatch input index matchPosition matchOffset) ∧
      state.inputPosition <
        (state.writeMatch input index matchPosition matchOffset).inputPosition := by
  have hready := h.ready (by omega) (by omega)
  have hthree : ∀ index < 3, input.getD (matchPosition + index) 0 =
      input.getD (state.inputPosition + index) 0 := by
    obtain ⟨-, hzero, hone, htwo⟩ := of_decide_eq_true hmatches
    intro index hindex
    obtain rfl | rfl | rfl : index = 0 ∨ index = 1 ∨ index = 2 := by omega
    · exact hzero
    · exact hone
    · exact htwo
  obtain ⟨hmin, hmax, hshort⟩ := @lzoShortLength_spec _ _ _ 6 _ hthree
  -- A match of any length that agrees with the input ends in the same way.
  have hopen : ∀ {length : Nat} {instruction : MatchInstruction} {output : Bytes},
      LZOReady output (input.take state.inputPosition) →
      state.inputPosition + length ≤ input.length →
      (∀ index < length, input.getD (matchPosition + index) 0 =
        input.getD (state.inputPosition + index) 0) →
      instruction.Encodes matchOffset length →
      LZOOpen (output ++ instruction.bytes 0) (input.take (state.inputPosition + length)) := by
    intro length instruction output hready hlength hagree hencodes
    refine hready.open hencodes (copyMatch_take hpos (by omega) hlength fun index hindex => ?_)
    rw [← hagree index hindex]
    congr 1
    omega
  have hdictionary : ∀ other, Function.update state.dictionary index (state.inputPosition + 1)
      other ≤ state.inputPosition + 1 := by
    intro other
    rw [Function.update_apply]
    split
    · exact le_rfl
    · exact (h.dictionary other).trans (Nat.le_succ _)
  rw [LZOState.writeMatch]
  dsimp only
  split
  · next hless =>
    obtain ⟨instruction, hencodes, hbytes⟩ := appendLZOShortMatch_spec
      (if state.inputPosition ≠ state.literalStart then
        appendLZOLiteral state.output ((input.take state.inputPosition).drop state.literalStart)
      else state.output) hpos hoffset hmin hless
    refine ⟨⟨.inr ?_, le_rfl, ?_, fun other => ?_⟩, ?_⟩
    · rw [hbytes]
      exact hopen hready (by omega) hshort hencodes
    · dsimp only
      omega
    · exact (hdictionary other).trans (by dsimp only; omega)
    · dsimp only
      omega
  · next hnine =>
    obtain ⟨hle, hbound, hextended⟩ := @lzoExtend_spec input input.length
      (matchPosition + (lzoMaxLengthM2 + 1)) _
      (show state.inputPosition + 9 ≤ input.length by omega)
    generalize lzoExtend input input.length (matchPosition + (lzoMaxLengthM2 + 1))
      (state.inputPosition + 9) = next at *
    obtain ⟨length, rfl⟩ : ∃ length, next = state.inputPosition + length :=
      ⟨next - state.inputPosition, by omega⟩
    have hagree : ∀ index < length, input.getD (matchPosition + index) 0 =
        input.getD (state.inputPosition + index) 0 := by
      intro index hindex
      rcases lt_or_ge index 9 with hlow | hhigh
      · exact hshort index (by omega)
      · have hrest := hextended (index - 9) (by omega)
        rw [lzoMaxLengthM2] at hrest
        convert hrest using 2 <;> omega
    rw [Nat.add_sub_cancel_left]
    obtain ⟨instruction, hencodes, hbytes⟩ := appendLZOLongMatch_spec
      (if state.inputPosition ≠ state.literalStart then
        appendLZOLiteral state.output ((input.take state.inputPosition).drop state.literalStart)
      else state.output) hpos hoffset (show 9 ≤ length by omega)
    refine ⟨⟨.inr ?_, le_rfl, hbound, fun other => ?_⟩, ?_⟩
    · rw [hbytes]
      exact hopen hready hbound hagree hencodes
    · exact (hdictionary other).trans (by dsimp only; omega)
    · dsimp only
      omega

theorem LZOInvariant.attempt
    (hroom : (∀ index, state.dictionary index = 0) ∨ state.inputPosition + 13 < input.length)
    {index : Nat} {state' : LZOState} (hattempt : state.attempt input index = some state') :
    LZOInvariant input state' ∧ state.inputPosition < state'.inputPosition := by
  obtain ⟨⟨matchPosition, matchOffset⟩, hcandidate, hmatch⟩ :=
    Option.bind_eq_some_iff.mp hattempt
  obtain ⟨hposition, hpos, hoffset, hfound⟩ := findLZOCandidate_spec h hcandidate
  dsimp only at hmatch
  split at hmatch
  · next hmatches =>
    cases hmatch
    exact h.writeMatch hposition hpos hoffset
      (hroom.resolve_left fun hempty => hfound (hempty index)) hmatches
  · cases hmatch

theorem LZOInvariant.skip (index : Nat) :
    LZOInvariant input (state.skip index) ∧
      state.inputPosition < (state.skip index).inputPosition := by
  have hgrows : state.inputPosition < (state.skip index).inputPosition := by
    change state.inputPosition < state.inputPosition + (1 + _)
    omega
  refine ⟨⟨h.written, h.literalStart_le.trans hgrows.le, h.within, fun other => ?_⟩, hgrows⟩
  change Function.update state.dictionary index (state.inputPosition + 1) other ≤ _
  rw [Function.update_apply]
  split
  · exact hgrows
  · exact (h.dictionary other).trans hgrows.le

end

section

variable (h : LZOInvariant input state)
  (hroom : (∀ index, state.dictionary index = 0) ∨ state.inputPosition + 13 < input.length)

include h hroom

theorem LZOInvariant.round :
    LZOInvariant input (state.round input) ∧
      state.inputPosition < (state.round input).inputPosition := by
  rw [LZOState.round]
  cases hfirst : state.attempt input (lzoDictionaryIndex input state.inputPosition) with
  | some state' => exact h.attempt hroom hfirst
  | none =>
    cases hsecond : state.attempt input
        (lzoSecondIndex (lzoDictionaryIndex input state.inputPosition)) with
    | some state' => exact h.attempt hroom hsecond
    | none => exact h.skip _

theorem LZOInvariant.rounds (rounds : Nat) :
    LZOInvariant input (compressLZORounds input rounds state) := by
  induction rounds generalizing state with
  | zero => exact h
  | succ rounds ih =>
    obtain ⟨hround, -⟩ := h.round hroom
    rw [compressLZORounds]
    split
    · exact hround
    · next hmore =>
      rw [lzoMaxLengthM2] at hmore
      exact ih hround (.inr (by omega))

end

end Loop

theorem lzoInvariant_start (input : Bytes) :
    LZOInvariant input
      { output := [], dictionary := fun _ => 0, literalStart := 0, inputPosition := 4 } :=
  ⟨.inl ⟨rfl, rfl⟩, Nat.zero_le _, Nat.zero_le _, fun _ => Nat.zero_le _⟩

theorem LZOWritten.finish {input output : Bytes} {literalStart : Nat} (hinput : input ≠ [])
    (hwithin : literalStart ≤ input.length) (h : LZOWritten output (input.take literalStart)) :
    decompress ((if 0 < input.length - literalStart then
        appendLZOLiteral output (input.drop (input.length - (input.length - literalStart)))
      else output) ++ [ofNat (lzoMarkerM4 ||| 1), 0, 0]) = some input := by
  refine LZOReady.finish ?_
  split
  · next htail =>
    rw [Nat.sub_sub_self hwithin]
    have htail : input.drop literalStart ≠ [] := fun hnil => by
      rw [drop_eq_nil_iff] at hnil
      omega
    have hready := h.literal htail
    rwa [take_append_drop] at hready
  · next hnone =>
    have htake : input.take literalStart = input := take_of_length_le (by omega)
    rw [htake] at h
    rcases h with ⟨-, hnil⟩ | hopen
    · exact absurd hnil hinput
    · exact hopen.ready

theorem decompress_compressLZOBlock {input : Bytes} (hinput : input ≠ []) :
    decompress (compressLZOBlock input) = some input := by
  rw [compressLZOBlock]
  by_cases hlong : lzoMaxLengthM2 + 5 < input.length
  · rw [if_pos hlong, compressLZOBlockCore]
    have hinvariant := (lzoInvariant_start input).rounds (.inl fun _ => rfl) input.length
    exact hinvariant.written.finish hinput hinvariant.within
  · rw [if_neg hlong]
    exact LZOWritten.finish hinput (Nat.zero_le _) (.inl ⟨rfl, rfl⟩)

end SingOpenVPN
