import Mathlib.Order.Nat
import SingOpenVPN.GoText

/-!
# Numbers as text (`strconv`)

The digits of a number in a base up to sixteen determine it.  The functions of `strconv` that
read decimal digits add a sign and the bounds of their result type.

`none` is an error of the conversion, in its form or in its range.
-/

namespace SingOpenVPN

/-! ### Digits -/

theorem digitChar_inj : ∀ left < 16, ∀ right < 16,
    Nat.digitChar left = Nat.digitChar right → left = right := by
  decide

theorem toDigits_inj {base left right : Nat} (hbase : 1 < base) (hhex : base ≤ 16)
    (h : Nat.toDigits base left = Nat.toDigits base right) : left = right := by
  induction left using Nat.strongRecOn generalizing right with
  | ind left ih =>
    have hlong : ∀ number, (Nat.toDigits base number).length ≠ 0 := fun number =>
      ne_of_gt Nat.length_toDigits_pos
    rw [Nat.toDigits_eq_if hbase, Nat.toDigits_eq_if (n := right) hbase] at h
    split at h
    · next hleft =>
      split at h
      · next hright =>
        exact digitChar_inj left (hleft.trans_le hhex) right (hright.trans_le hhex)
          (List.singleton_inj.mp h)
      · have hlength := congrArg List.length h
        simp [hlong] at hlength
    · next hleft =>
      split at h
      · have hlength := congrArg List.length h
        simp [hlong] at hlength
      · obtain ⟨hfront, hlast⟩ := List.append_inj' h rfl
        have hpos : 0 < base := by omega
        have hdiv := ih (left / base) (Nat.div_lt_self (by omega) hbase) hfront
        have hmod := digitChar_inj _ ((Nat.mod_lt left hpos).trans_le hhex) _
          ((Nat.mod_lt right hpos).trans_le hhex) (List.singleton_inj.mp hlast)
        rw [← Nat.div_add_mod left base, hdiv, hmod, Nat.div_add_mod]

/-! ### Reading -/

def decimalDigit (byte : UInt8) : Option Nat :=
  if 0x30 ≤ byte ∧ byte ≤ 0x39 then some (byte.toNat - 0x30) else none

/-- The value of digits behind a number that has been read already. -/
def digitsValueFrom (digit : UInt8 → Option Nat) (base : Nat) : Nat → Text → Option Nat
  | value, [] => some value
  | value, byte :: rest =>
      match digit byte with
      | none => none
      | some next => digitsValueFrom digit base (value * base + next) rest

def parseUint (bits : Nat) (text : Text) : Option Nat :=
  if text = [] then none
  else (digitsValueFrom decimalDigit 10 0 text).filter fun number => number < 2 ^ bits

/-- `strconv.ParseInt` in base ten for 64 bits, `strconv.Atoi` -/
def parseInt (text : Text) : Option Int :=
  let negative := text.head? = some 0x2D
  let digits := if negative ∨ text.head? = some 0x2B then text.tail else text
  (parseUint 64 digits).bind fun number =>
    if negative then if number ≤ 2 ^ 63 then some (-number) else none
    else if number < 2 ^ 63 then some number else none

example : parseInt (ascii "-12") = some (-12) ∧ parseInt (ascii "9223372036854775808") = none := by
  decide +kernel

end SingOpenVPN
