import Mathlib.Data.List.Induction
import Mathlib.Data.List.Basic
import Mathlib.Data.Vector.Basic
import Mathlib.Tactic.Common

/-!
# Byte strings

Big-endian integers of a fixed width and reading a byte string front to back.

A reader either takes exactly the bytes it asks for or fails; `readFull_append`
is the rule by which a parser follows the writer it inverts, one field at a
time.
-/

namespace SingOpenVPN.ByteCodec

open List

/-! ### Big-endian integers -/

/-- The `width` low bytes of a number, most significant first. -/
def putBE : Nat → Nat → List UInt8
  | 0, _ => []
  | width + 1, value => putBE width (value / 256) ++ [UInt8.ofNat value]

/-- The number whose base-256 digits are the bytes, most significant first. -/
def getBE (bytes : List UInt8) : Nat := bytes.foldl (fun value byte => value * 256 + byte.toNat) 0

@[simp] theorem length_putBE (width value : Nat) : (putBE width value).length = width := by
  induction width generalizing value with
  | zero => rfl
  | succ width ih => simp [putBE, ih]

theorem or_shiftLeft {low bits : Nat} (h : low < 2 ^ bits) (high : Nat) :
    low ||| high <<< bits = low + high * 2 ^ bits := by
  rw [Nat.or_comm, ← Nat.shiftLeft_add_eq_or_of_lt h, Nat.shiftLeft_eq, add_comm]

variable (bytes : List UInt8)

theorem getBE_append_singleton (byte : UInt8) :
    getBE (bytes ++ [byte]) = getBE bytes * 256 + byte.toNat := by
  simp [getBE]

variable {destination source : List UInt8} {count offset width : Nat}

theorem getBE_putBE {value : Nat} (h : value < 256 ^ width) :
    getBE (putBE width value) = value := by
  induction width generalizing value with
  | zero =>
    obtain rfl : value = 0 := by simpa using h
    rfl
  | succ width ih =>
    have hhigh : value / 256 < 256 ^ width := by
      rw [Nat.div_lt_iff_lt_mul (by decide)]
      simpa [Nat.pow_succ] using h
    rw [putBE, getBE_append_singleton, ih hhigh, UInt8.toNat_ofNat']
    omega

@[simp] theorem getBE_putBE_uint32 (value : UInt32) : getBE (putBE 4 value.toNat) = value.toNat :=
  getBE_putBE value.toNat_lt

theorem getBE_lt : getBE bytes < 256 ^ bytes.length := by
  induction bytes using List.reverseRecOn with
  | nil => simp [getBE]
  | append_singleton bytes byte ih =>
    have hbyte : byte.toNat < 256 := byte.toNat_lt
    rw [getBE_append_singleton, length_append, length_singleton, Nat.pow_succ]
    omega

@[simp] theorem putBE_getBE : putBE bytes.length (getBE bytes) = bytes := by
  induction bytes using List.reverseRecOn with
  | nil => rfl
  | append_singleton bytes byte ih =>
    have hbyte : byte.toNat < 256 := byte.toNat_lt
    have hhigh : (getBE bytes * 256 + byte.toNat) / 256 = getBE bytes := by omega
    have hlow : UInt8.ofNat (getBE bytes * 256 + byte.toNat) = byte := by
      rw [← UInt8.toNat_inj, UInt8.toNat_ofNat']
      omega
    rw [getBE_append_singleton, length_append, length_singleton, putBE, hhigh, hlow, ih]

theorem putBE_inj {left right : Nat} (hleft : left < 256 ^ width) (hright : right < 256 ^ width)
    (h : putBE width left = putBE width right) : left = right := by
  rw [← getBE_putBE hleft, h, getBE_putBE hright]

/-! ### Reading front to back -/

def readFull (count : Nat) (bytes : List UInt8) : Option (List UInt8 × List UInt8) :=
  if count ≤ bytes.length then some (bytes.take count, bytes.drop count) else none

theorem readFull_append {front : List UInt8} (h : front.length = count) (rest : List UInt8) :
    readFull count (front ++ rest) = some (front, rest) := by
  subst h
  simp [readFull]

def readArray (count : Nat) (bytes : List UInt8) :
    Option (List.Vector UInt8 count × List UInt8) :=
  if h : count ≤ bytes.length then
    some (⟨bytes.take count, List.length_take_of_le h⟩, bytes.drop count)
  else none

theorem readArray_append (array : List.Vector UInt8 count) (rest : List UInt8) :
    readArray count (array.toList ++ rest) = some (array, rest) := by
  obtain ⟨front, rfl⟩ := array
  simp [readArray, List.Vector.toList]

theorem readArray_one (byte : UInt8) (rest : List UInt8) :
    readArray 1 (byte :: rest) = some (byte ::ᵥ List.Vector.nil, rest) :=
  readArray_append (byte ::ᵥ List.Vector.nil) rest

/-- Take `count` big-endian numbers of `width` bytes off the front. -/
def readNumbers (width : Nat) : Nat → List UInt8 → Option (List Nat × List UInt8)
  | 0, bytes => some ([], bytes)
  | count + 1, bytes => do
      let (first, bytes) ← readFull width bytes
      let (others, bytes) ← readNumbers width count bytes
      return (getBE first :: others, bytes)

theorem readNumbers_append {numbers : List Nat} (h : ∀ number ∈ numbers, number < 256 ^ width)
    (rest : List UInt8) :
    readNumbers width numbers.length (numbers.flatMap (putBE width) ++ rest) =
      some (numbers, rest) := by
  induction numbers with
  | nil => rfl
  | cons number numbers ih =>
    have hnumber := h number mem_cons_self
    have hothers := ih fun other hother => h other (mem_cons_of_mem _ hother)
    rw [length_cons, readNumbers, flatMap_cons, append_assoc,
      readFull_append (length_putBE width number)]
    simp only [Option.bind_eq_bind, Option.bind_some, hothers, getBE_putBE hnumber]
    rfl

/-! ### Writing in place -/

/-- Overwrite from `offset` on with `source`, as far as there is room (`copy`). -/
def copyInto (destination : List UInt8) (offset : Nat) (source : List UInt8) : List UInt8 :=
  destination.take offset ++ (source.take (destination.length - offset) ++
    destination.drop (offset + source.length))

theorem copyInto_append (front : List UInt8) {middle : List UInt8} (back : List UInt8)
    (h : source.length = middle.length) :
    copyInto (front ++ (middle ++ back)) front.length source = front ++ (source ++ back) := by
  rw [copyInto, take_left, ← drop_drop, drop_left, h, drop_left,
    take_of_length_le (by simp [h])]

theorem length_copyInto (h : offset ≤ destination.length) :
    (copyInto destination offset source).length = destination.length := by
  simp only [copyInto, length_append, length_take, length_drop]
  omega

theorem take_copyInto (h : offset + source.length ≤ destination.length) :
    (copyInto destination offset source).take (offset + source.length) =
      destination.take offset ++ source := by
  have hsource : source.take (destination.length - offset) = source :=
    take_of_length_le (by omega)
  have hlength : (destination.take offset ++ source).length = offset + source.length := by
    rw [length_append, length_take_of_le (by omega)]
  rw [copyInto, hsource, ← append_assoc, ← hlength, take_left]

theorem take_copyInto_zero (h : source.length ≤ destination.length) :
    (copyInto destination 0 source).take source.length = source := by
  have hfits : 0 + source.length ≤ destination.length := by rwa [Nat.zero_add]
  have htake := take_copyInto hfits
  rwa [Nat.zero_add, take_zero, nil_append] at htake

theorem take_copyInto_copyInto {first second : List UInt8}
    (h : first.length + second.length ≤ destination.length) :
    (copyInto (copyInto destination 0 first) first.length second).take
      (first.length + second.length) = first ++ second := by
  rw [take_copyInto (by rwa [length_copyInto (Nat.zero_le _)]), take_copyInto_zero (by omega)]

end SingOpenVPN.ByteCodec
