import Mathlib.Data.List.Basic
import Mathlib.Order.Nat
import Mathlib.Tactic.Common

/-!
# The LZO1X format

A block is a row of instructions.  An instruction copies literals from the block, or a
match from a distance back in the output followed by up to three literals; what the
smallest instructions mean depends on the literals before them.  A match from distance
16384 that the instruction can not otherwise encode ends the block.

`step` executes one instruction, and `decode` all of them: every instruction takes at
least one byte, so the number of bytes bounds the number of steps.
-/

namespace SingOpenVPN.LZO1X

open Option

/-- A decoder between two instructions.  `literals` counts the literals at the end of the
    last one; 4 stands for any larger number. -/
structure Decoder where
  literals : Nat
  output : List UInt8
  input : List UInt8

inductive Outcome where
  | next (decoder : Decoder)
  | finished (output : List UInt8)

/-- The rest of a length: zeros stand for 255 each. -/
def readMore : List UInt8 → Option (Nat × List UInt8)
  | [] => none
  | byte :: rest =>
    if byte = 0 then (readMore rest).map fun more => (more.1 + 255, more.2)
    else some (byte.toNat, rest)

/-- The length in an instruction, which continues after it where the field is zero. -/
def readLength (field base : Nat) (input : List UInt8) : Option (Nat × List UInt8) :=
  if field = 0 then (readMore input).map fun more => (base + more.1, more.2)
  else some (field, input)

def copyLiterals (count : Nat) (output input : List UInt8) : Option Decoder :=
  if input.length < count then none
  else some { literals := min count 4, output := output ++ input.take count,
              input := input.drop count }

/-- A match may reach into itself. -/
def copyMatch (distance : Nat) : Nat → List UInt8 → Option (List UInt8)
  | 0, output => some output
  | count + 1, output =>
    if 0 < distance ∧ distance ≤ output.length then
      copyMatch distance count (output ++ [output.getD (output.length - distance) 0])
    else none

def copyBoth (distance length literals : Nat) (output input : List UInt8) : Option Outcome := do
  let output ← copyMatch distance length output
  let decoder ← copyLiterals literals output input
  return .next decoder

/-- Two bytes with a distance of 14 bits and the number of literals. -/
def readDistance : List UInt8 → Option (Nat × Nat × List UInt8)
  | low :: high :: rest => some (high.toNat * 64 + low.toNat / 4, low.toNat % 4, rest)
  | _ => none

def step (decoder : Decoder) : Option Outcome :=
  match decoder.input with
  | [] => none
  | byte :: rest =>
    let instruction := byte.toNat
    if 64 ≤ instruction then
      match rest with
      | [] => none
      | high :: rest =>
        copyBoth (high.toNat * 8 + instruction / 4 % 8 + 1) (instruction / 32 + 1)
          (instruction % 4) decoder.output rest
    else if 32 ≤ instruction then do
      let (length, rest) ← readLength (instruction % 32) 31 rest
      let (distance, literals, rest) ← readDistance rest
      copyBoth (distance + 1) (length + 2) literals decoder.output rest
    else if 16 ≤ instruction then do
      let (length, rest) ← readLength (instruction % 8) 7 rest
      let (distance, literals, rest) ← readDistance rest
      let distance := distance + instruction / 8 % 2 * 16384
      if distance = 0 then (if rest = [] then some (.finished decoder.output) else none)
      else copyBoth (distance + 16384) (length + 2) literals decoder.output rest
    else if decoder.literals = 0 then do
      let (count, rest) ← readLength instruction 15 rest
      let decoder ← copyLiterals (count + 3) decoder.output rest
      return .next decoder
    else
      match rest with
      | [] => none
      | high :: rest =>
        if decoder.literals = 4 then
          copyBoth (high.toNat * 4 + instruction / 4 + 2049) 3 (instruction % 4) decoder.output rest
        else copyBoth (high.toNat * 4 + instruction / 4 + 1) 2 (instruction % 4) decoder.output rest

def run : Nat → Decoder → Option (List UInt8)
  | 0, _ => none
  | steps + 1, decoder =>
    match step decoder with
    | none => none
    | some (.finished output) => some output
    | some (.next decoder) => run steps decoder

def decode (decoder : Decoder) : Option (List UInt8) := run (decoder.input.length + 1) decoder

/-- A block may begin with a byte for up to 238 literals. -/
def start : List UInt8 → Option Decoder
  | [] => none
  | byte :: rest =>
    if 17 < byte.toNat then copyLiterals (byte.toNat - 17) [] rest
    else some { literals := 0, output := [], input := byte :: rest }

def decompress (block : List UInt8) : Option (List UInt8) := (start block).bind decode

/-! ### Every step consumes a byte -/

variable {decoder : Decoder} {input output rest : List UInt8} {distance length : Nat}

theorem length_of_copyLiterals {count : Nat} (h : copyLiterals count output input = some decoder) :
    decoder.input.length ≤ input.length := by
  rw [copyLiterals] at h
  split at h
  · cases h
  · cases h
    simp

theorem length_of_copyBoth {literals : Nat}
    (h : copyBoth distance length literals output input = some (.next decoder)) :
    decoder.input.length ≤ input.length := by
  obtain ⟨copied, -, hrest⟩ := bind_eq_some_iff.mp h
  obtain ⟨decoder', hliterals, heq⟩ := bind_eq_some_iff.mp hrest
  obtain rfl := Outcome.next.inj (Option.some.inj heq)
  exact length_of_copyLiterals hliterals

theorem length_of_readMore {more : Nat} (h : readMore input = some (more, rest)) :
    rest.length ≤ input.length := by
  induction input generalizing more with
  | nil => cases h
  | cons byte input ih =>
    rw [readMore] at h
    split at h
    · obtain ⟨⟨more', rest'⟩, hmore, heq⟩ := map_eq_some_iff.mp h
      obtain ⟨-, rfl⟩ := Prod.mk.inj heq
      exact (ih hmore).trans (Nat.le_succ _)
    · obtain ⟨-, rfl⟩ := Prod.mk.inj (Option.some.inj h)
      exact Nat.le_succ _

theorem length_of_readLength {field base : Nat}
    (h : readLength field base input = some (length, rest)) : rest.length ≤ input.length := by
  rw [readLength] at h
  split at h
  · obtain ⟨⟨more, rest'⟩, hmore, heq⟩ := map_eq_some_iff.mp h
    obtain ⟨-, rfl⟩ := Prod.mk.inj heq
    exact length_of_readMore hmore
  · obtain ⟨-, rfl⟩ := Prod.mk.inj (Option.some.inj h)
    exact le_rfl

theorem length_of_readDistance {literals : Nat}
    (h : readDistance input = some (distance, literals, rest)) : rest.length ≤ input.length := by
  rw [readDistance.eq_def] at h
  split at h
  · cases h
    exact (Nat.le_succ _).trans (Nat.le_succ _)
  · cases h

theorem length_of_step {decoder' : Decoder} (h : step decoder = some (.next decoder')) :
    decoder'.input.length < decoder.input.length := by
  rw [step] at h
  cases hinput : decoder.input with
  | nil =>
    rw [hinput] at h
    cases h
  | cons byte rest =>
    rw [hinput] at h
    rw [List.length_cons, Nat.lt_succ_iff]
    dsimp only at h
    split_ifs at h with hm2 hm3 hm4 hliteral
    · cases rest with
      | nil => cases h
      | cons high rest => exact (length_of_copyBoth h).trans (Nat.le_succ _)
    · obtain ⟨⟨length, rest'⟩, hlength, h⟩ := bind_eq_some_iff.mp h
      obtain ⟨⟨distance, literals, rest''⟩, hdistance, h⟩ := bind_eq_some_iff.mp h
      exact (length_of_copyBoth h).trans
        ((length_of_readDistance hdistance).trans (length_of_readLength hlength))
    · obtain ⟨⟨length, rest'⟩, hlength, h⟩ := bind_eq_some_iff.mp h
      obtain ⟨⟨distance, literals, rest''⟩, hdistance, h⟩ := bind_eq_some_iff.mp h
      split_ifs at h
      · cases h
      · exact (length_of_copyBoth h).trans
          ((length_of_readDistance hdistance).trans (length_of_readLength hlength))
    · obtain ⟨⟨count, rest'⟩, hlength, h⟩ := bind_eq_some_iff.mp h
      obtain ⟨decoder'', hliterals, heq⟩ := bind_eq_some_iff.mp h
      obtain rfl := Outcome.next.inj (Option.some.inj heq)
      exact (length_of_copyLiterals hliterals).trans (length_of_readLength hlength)
    -- After literals the smallest instructions are matches, of either kind.
    all_goals
      cases rest with
      | nil => cases h
      | cons high rest => exact (length_of_copyBoth h).trans (Nat.le_succ _)

theorem run_congr {steps steps' : Nat} (h : decoder.input.length < steps)
    (h' : decoder.input.length < steps') : run steps decoder = run steps' decoder := by
  induction steps generalizing steps' decoder with
  | zero => omega
  | succ steps ih =>
    cases steps' with
    | zero => omega
    | succ steps' =>
      rw [run, run]
      cases hstep : step decoder with
      | none => rfl
      | some outcome =>
        cases outcome with
        | finished output => rfl
        | next decoder' =>
          have hlt := length_of_step hstep
          exact ih (by omega) (by omega)

theorem decode_next {decoder' : Decoder} (h : step decoder = some (.next decoder')) :
    decode decoder = decode decoder' := by
  rw [decode, run, h]
  exact run_congr (length_of_step h) (Nat.lt_succ_self _)

theorem decode_finished (h : step decoder = some (.finished output)) :
    decode decoder = some output := by
  rw [decode, run, h]

/-! ### What instructions do -/

theorem copyLiterals_append (literals rest output : List UInt8) :
    copyLiterals literals.length output (literals ++ rest) =
      some { literals := min literals.length 4, output := output ++ literals, input := rest } := by
  rw [copyLiterals, if_neg (by simp), List.take_left', List.drop_left'] <;> rfl

/-- A match whose bytes agree with the ones to come gives these bytes. -/
theorem copyMatch_take {position : Nat} (hpos : 0 < distance) (hdistance : distance ≤ position)
    (hlength : position + length ≤ input.length) (hagree : ∀ index < length,
      input.getD (position + index - distance) 0 = input.getD (position + index) 0) :
    copyMatch distance length (input.take position) = some (input.take (position + length)) := by
  induction length generalizing position with
  | zero => rfl
  | succ length ih =>
    have htake : (input.take position).length = position := by
      rw [List.length_take]
      omega
    rw [copyMatch, htake, if_pos ⟨hpos, hdistance⟩]
    have hnext : (input.take position).getD (position - distance) 0 = input.getD position 0 := by
      have hfirst := hagree 0 (Nat.zero_lt_succ _)
      rw [Nat.add_zero] at hfirst
      rw [← hfirst, List.getD_eq_getElem?_getD, List.getElem?_take_of_lt (by omega),
        List.getD_eq_getElem?_getD]
    have hone : input.take position ++ [input.getD position 0] = input.take (position + 1) := by
      rw [List.take_add_one, List.getD_eq_getElem?_getD,
        List.getElem?_eq_getElem (show position < input.length by omega)]
      rfl
    rw [hnext, hone, ih (by omega) (by omega), Nat.add_assoc, Nat.add_comm 1 length]
    intro index hindex
    have hagree' := hagree (index + 1) (by omega)
    rwa [← Nat.add_assoc, Nat.add_right_comm] at hagree'

theorem copyBoth_eq {copied literals : List UInt8}
    (hcopy : copyMatch distance length output = some copied) (hliterals : literals.length ≤ 3) :
    copyBoth distance length literals.length output (literals ++ rest) =
      some (.next
        { literals := literals.length, output := copied ++ literals, input := rest }) := by
  rw [copyBoth, hcopy]
  simp only [bind_eq_bind, bind_some]
  rw [copyLiterals_append, min_eq_left (by omega)]
  rfl

end SingOpenVPN.LZO1X
