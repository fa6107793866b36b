import Mathlib.Data.BitVec
import SingOpenVPN.ByteCodec
import SingOpenVPN.Basic

/-!
# Addresses and prefixes (`net/netip`)

An address of the tunnel is a 32-bit or a 128-bit number; an IPv4-mapped IPv6
address is a 128-bit one, as it is for `netip`.  `netip.Addr{}`, the value that
is not valid, is `none` where a field may hold it.  Addresses that come from
prefixes and packets carry no zone.

A `Prefix` is a valid one: its length does not exceed the width of its address.
-/

namespace SingOpenVPN

open ByteCodec BitVec

abbrev IPv4 := BitVec 32

abbrev IPv6 := BitVec 128

/-- A valid `netip.Addr` without a zone. -/
inductive Addr where
  | v4 (value : IPv4)
  | v6 (value : IPv6)
deriving DecidableEq, Repr

section Width

variable {w : Nat}

/-- `Addr.Next`, which has no result past the last address. -/
def nextAddress (address : BitVec w) : Option (BitVec w) :=
  if address = BitVec.allOnes w then none else some (address + 1)

def prevAddress (address : BitVec w) : Option (BitVec w) :=
  if address = 0 then none else some (address - 1)

structure PrefixOf (w : Nat) where
  addr : BitVec w
  bits : Nat
  bits_le : bits ≤ w
deriving DecidableEq

def PrefixOf.masked (range : PrefixOf w) : PrefixOf w :=
  { range with addr := (range.addr >>> (w - range.bits)) <<< (w - range.bits) }

def PrefixOf.contains (range : PrefixOf w) (address : BitVec w) : Bool :=
  address >>> (w - range.bits) == range.addr >>> (w - range.bits)

theorem nextAddress_eq_some {address next : BitVec w} :
    nextAddress address = some next ↔ next.toNat = address.toNat + 1 := by
  unfold nextAddress
  split
  · next hlast =>
    have hall : address.toNat = 2 ^ w - 1 := by rw [hlast, toNat_allOnes]
    simp only [reduceCtorEq, false_iff]
    omega
  · next hlast =>
    have hne : address.toNat ≠ 2 ^ w - 1 := by
      intro heq
      exact hlast (eq_of_toNat_eq (by rw [heq, toNat_allOnes]))
    have hone : (1 : BitVec w).toNat = 1 := by
      simpa using Nat.mod_eq_of_lt (show 1 < 2 ^ w by omega)
    rw [Option.some.injEq, ← toNat_inj, toNat_add_of_lt (by omega), hone]
    exact eq_comm

theorem toNat_of_nextAddress_eq_none {address : BitVec w} (h : nextAddress address = none) :
    address.toNat + 1 = 2 ^ w := by
  unfold nextAddress at h
  split at h
  · next hlast =>
    have := Nat.two_pow_pos w
    rw [hlast, toNat_allOnes]
    omega
  · cases h

theorem prevAddress_eq_some {address previous : BitVec w} :
    prevAddress address = some previous ↔ previous.toNat + 1 = address.toNat := by
  unfold prevAddress
  split
  · next hzero =>
    simp [hzero]
  · next hne =>
    have hpos : address.toNat ≠ 0 := fun heq => hne (eq_of_toNat_eq (by simpa using heq))
    have hone : (1 : BitVec w).toNat = 1 := by
      simpa using Nat.mod_eq_of_lt (show 1 < 2 ^ w by omega)
    rw [Option.some.injEq, ← toNat_inj,
      toNat_sub_of_le (by rw [le_def, hone]; omega), hone]
    omega

theorem PrefixOf.contains_iff {range : PrefixOf w} {address : BitVec w} :
    range.contains address = true ↔
      address.toNat / 2 ^ (w - range.bits) = range.addr.toNat / 2 ^ (w - range.bits) := by
  rw [contains, beq_iff_eq, ← toNat_inj, toNat_ushiftRight, toNat_ushiftRight,
    Nat.shiftRight_eq_div_pow, Nat.shiftRight_eq_div_pow]

theorem PrefixOf.toNat_masked (range : PrefixOf w) :
    range.masked.addr.toNat =
      range.addr.toNat / 2 ^ (w - range.bits) * 2 ^ (w - range.bits) := by
  rw [masked, toNat_shiftLeft, toNat_ushiftRight, Nat.shiftRight_eq_div_pow,
    Nat.shiftLeft_eq, Nat.mod_eq_of_lt]
  exact lt_of_le_of_lt (Nat.div_mul_le_self _ _) range.addr.isLt

end Width

inductive Prefix where
  | v4 (range : PrefixOf 32)
  | v6 (range : PrefixOf 128)
deriving DecidableEq

def lastIPv4InPrefix (range : PrefixOf 32) : IPv4 :=
  let hostBits := 32 - range.bits
  if hostBits = 0 then range.addr
  else range.masked.addr ||| ((1#32 <<< hostBits) - 1)

def addIPv4 (address : IPv4) (offset : Int) : Option IPv4 :=
  let value := (address.toNat : Int) + offset
  if value < 0 ∨ value > 2 ^ 32 - 1 then none else some (BitVec.ofInt 32 value)

theorem addIPv4_eq_some {address sum : IPv4} {offset : Int} :
    addIPv4 address offset = some sum ↔ (sum.toNat : Int) = address.toNat + offset := by
  unfold addIPv4
  dsimp only
  split
  · simp only [reduceCtorEq, false_iff]
    omega
  · rw [Option.some.injEq, ← toNat_inj, toNat_ofInt]
    omega

theorem addIPv4_eq_none {address : IPv4} {offset : Int} (h : addIPv4 address offset = none) :
    (address.toNat : Int) + offset < 0 ∨ 2 ^ 32 ≤ (address.toNat : Int) + offset := by
  unfold addIPv4 at h
  dsimp only at h
  split at h
  · omega
  · cases h

theorem toNat_lastIPv4InPrefix {range : PrefixOf 32} (h : 0 < range.bits) :
    (lastIPv4InPrefix range).toNat =
      range.addr.toNat / 2 ^ (32 - range.bits) * 2 ^ (32 - range.bits) +
        (2 ^ (32 - range.bits) - 1) := by
  unfold lastIPv4InPrefix
  dsimp only
  split
  · next hzero => simp [hzero]
  · have hpow : 2 ^ (32 - range.bits) < 2 ^ 32 := Nat.pow_lt_pow_right (by decide) (by omega)
    have hpos := Nat.two_pow_pos (32 - range.bits)
    have hshift : (1#32 <<< (32 - range.bits)).toNat = 2 ^ (32 - range.bits) := by
      rw [toNat_shiftLeft, Nat.shiftLeft_eq, toNat_one (by decide), one_mul,
        Nat.mod_eq_of_lt hpow]
    have hones : ((1#32 <<< (32 - range.bits)) - 1).toNat = 2 ^ (32 - range.bits) - 1 := by
      rw [toNat_sub_of_le (by rw [le_def, hshift]; exact hpos), hshift]
      rfl
    rw [toNat_or, hones, PrefixOf.toNat_masked, ← Nat.shiftLeft_eq,
      Nat.shiftLeft_add_eq_or_of_lt (by omega)]

/-- `Addr.IsLinkLocalUnicast` of an IPv6 address: `fe80::/10`, or a mapped IPv4
address of `169.254.0.0/16`. -/
def isLinkLocalUnicast6 (address : IPv6) : Bool :=
  if address >>> 32 = 0xFFFF#128 then address >>> 16 == 0xFFFFA9FE#128
  else address >>> 118 == 0x3FA#128

def LinkLocal6 (address : IPv6) : Prop := address >>> 118 = 0x3FA#128

theorem isLinkLocalUnicast6_of_linkLocal6 {address : IPv6} (h : LinkLocal6 address) :
    isLinkLocalUnicast6 address = true := by
  unfold LinkLocal6 at h
  have hmapped : ¬ address >>> 32 = 0xFFFF#128 := by
    intro hmapped
    rw [show 118 = 32 + 86 from rfl, shiftRight_add, hmapped] at h
    exact absurd h (by decide)
  rw [isLinkLocalUnicast6, if_neg hmapped, h]
  rfl

def addrFrom4 (bytes : Bytes) : IPv4 := BitVec.ofNat 32 (getBE bytes)

def addrFrom16 (bytes : Bytes) : IPv6 := BitVec.ofNat 128 (getBE bytes)

end SingOpenVPN
