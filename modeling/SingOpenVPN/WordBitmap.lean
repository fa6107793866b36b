import Mathlib.Data.List.Basic
import Mathlib.Data.Nat.Basic
import Mathlib.Tactic.Common

/-!
# Bitmaps over machine words

A bitmap is a list of `w`-bit words; bit `i` is bit `i % w` of word `i / w`.
Two operations are enough for a sliding window: setting one bit, and moving
every bit up by an arbitrary amount.  The move is performed in place, from the
last word down, each word combining the two source words its bits come from.

`overwriteDown` is the in-place loop by itself, over any element type: a loop
whose body reads only the positions it has not overwritten yet computes the
same list as a pointwise map.
-/

namespace SingOpenVPN.WordBitmap

/-! ### In-place loops that run downwards -/

section OverwriteDown

variable {α : Type*}

/-- Overwrite positions `n - 1, ..., 0` in this order, each with the value the
    body computes from the current contents. -/
def overwriteDown (body : List α → Nat → α) : Nat → List α → List α
  | 0, values => values
  | index + 1, values => overwriteDown body index (values.set index (body values index))

@[simp] theorem length_overwriteDown (body : List α → Nat → α) (count : Nat)
    (values : List α) : (overwriteDown body count values).length = values.length := by
  induction count generalizing values with
  | zero => rfl
  | succ index ih => simp [overwriteDown, ih]

/-- The body reads only positions at or below the one it computes. -/
def ReadsBelow (body : List α → Nat → α) : Prop :=
  ∀ left right index, (∀ j ≤ index, left[j]? = right[j]?) → body left index = body right index

theorem getElem?_overwriteDown {body : List α → Nat → α} (hbody : ReadsBelow body)
    (count : Nat) (values : List α) (index : Nat) :
    (overwriteDown body count values)[index]? =
      if index < count ∧ index < values.length then some (body values index)
      else values[index]? := by
  induction count generalizing values with
  | zero => simp [overwriteDown]
  | succ count ih =>
    rw [overwriteDown, ih]
    by_cases hlt : index < count
    · -- written later: the positions it reads are still the original ones
      have hsame : body (values.set count (body values count)) index = body values index := by
        apply hbody
        intro j hj
        rw [List.getElem?_set_ne (by omega)]
      rw [hsame, List.getElem?_set_ne (by omega)]
      simp [hlt, Nat.lt_succ_of_lt hlt]
    · by_cases heq : index = count
      · subst heq
        by_cases hlen : index < values.length
        · simp [hlen]
        · simp [hlen]
      · have hgt : ¬ index < count + 1 := by omega
        simp [hlt, hgt, List.getElem?_set_ne (Ne.symm heq)]

end OverwriteDown

/-! ### Bits -/

variable {w : Nat}

def bit (words : List (BitVec w)) (index : Nat) : Bool :=
  (words.getD (index / w) 0).getLsbD (index % w)

def setBit (words : List (BitVec w)) (index : Nat) : List (BitVec w) :=
  words.set (index / w) (words.getD (index / w) 0 ||| (1#w <<< (index % w)))

variable (words : List (BitVec w))

@[simp] theorem length_setBit (index : Nat) :
    (setBit words index).length = words.length := by
  simp [setBit]

theorem getLsbD_one_shiftLeft {position other : Nat} (hlt : other < w) :
    (1#w <<< position).getLsbD other = decide (other = position) := by
  rw [← BitVec.twoPow_eq, BitVec.getLsbD_twoPow, Bool.eq_iff_iff]
  simp only [Bool.and_eq_true, decide_eq_true_eq]
  omega

theorem bit_setBit {words : List (BitVec w)} {index : Nat} (hw : 0 < w)
    (hindex : index / w < words.length) (other : Nat) :
    bit (setBit words index) other = (decide (other = index) || bit words other) := by
  unfold bit setBit
  by_cases hword : other / w = index / w
  · have hmod : other % w < w := Nat.mod_lt _ hw
    rw [hword]
    simp only [List.getD_eq_getElem?_getD, List.getElem?_set_self hindex, Option.getD_some]
    rw [BitVec.getLsbD_or, getLsbD_one_shiftLeft hmod]
    have hiff : (other % w = index % w) ↔ other = index := by
      constructor
      · intro h
        rw [← Nat.div_add_mod other w, ← Nat.div_add_mod index w, hword, h]
      · intro h
        rw [h]
    simp only [hiff, Bool.or_comm]
  · have hne : other ≠ index := fun h => hword (by rw [h])
    simp only [List.getD_eq_getElem?_getD, List.getElem?_set_ne (Ne.symm hword), hne,
      decide_false, Bool.false_or]

/-- Test bit `index` with a one-bit mask, the way word-level code does. -/
def hasBit (words : List (BitVec w)) (index : Nat) : Bool :=
  words.getD (index / w) 0 &&& (1#w <<< (index % w)) != 0

theorem hasBit_eq_bit (hw : 0 < w) (index : Nat) :
    hasBit words index = bit words index := by
  have hmod : index % w < w := Nat.mod_lt _ hw
  unfold hasBit bit
  cases hset : (words.getD (index / w) 0).getLsbD (index % w) with
  | true =>
    have hne : words.getD (index / w) 0 &&& (1#w <<< (index % w)) ≠ 0 := by
      intro hzero
      have hbit := congrArg (fun word => word.getLsbD (index % w)) hzero
      simp only [BitVec.getLsbD_and, getLsbD_one_shiftLeft hmod, hset] at hbit
      simp at hbit
    simpa using hne
  | false =>
    have hzero : words.getD (index / w) 0 &&& (1#w <<< (index % w)) = 0 := by
      apply BitVec.eq_of_getLsbD_eq
      intro other hother
      rw [BitVec.getLsbD_and, getLsbD_one_shiftLeft hother]
      by_cases heq : other = index % w
      · rw [heq, hset]
        simp
      · simp [heq]
    simpa using hzero

/-! ### Moving every bit up -/

/-- The word at `target` after every bit moved up by `wordShift * w + bitShift`:
    the high part of it comes from the word `wordShift` places below, the low
    part from the top bits of the word below that one. -/
def shiftedWord (wordShift bitShift : Nat) (words : List (BitVec w)) (target : Nat) : BitVec w :=
  if wordShift ≤ target then
    let source := target - wordShift
    let high := words.getD source 0 <<< bitShift
    if 0 < bitShift ∧ 1 ≤ source then
      high ||| (words.getD (source - 1) 0 >>> (w - bitShift))
    else high
  else 0

theorem readsBelow_shiftedWord (wordShift bitShift : Nat) :
    ReadsBelow (shiftedWord (w := w) wordShift bitShift) := by
  intro left right index hsame
  unfold shiftedWord
  simp only [List.getD_eq_getElem?_getD]
  rw [hsame (index - wordShift) (by omega), hsame (index - wordShift - 1) (by omega)]

def shiftUp (words : List (BitVec w)) (shift : Nat) : List (BitVec w) :=
  overwriteDown (shiftedWord (shift / w) (shift % w)) words.length words

@[simp] theorem length_shiftUp (shift : Nat) :
    (shiftUp words shift).length = words.length := by
  simp [shiftUp]

theorem getD_shiftUp (shift target : Nat)
    (htarget : target < words.length) :
    (shiftUp words shift).getD target 0 = shiftedWord (shift / w) (shift % w) words target := by
  rw [List.getD_eq_getElem?_getD, shiftUp,
    getElem?_overwriteDown (readsBelow_shiftedWord _ _), if_pos ⟨htarget, htarget⟩]
  rfl

theorem bit_word (source : Nat) {position : Nat} (hposition : position < w) :
    bit words (source * w + position) = (words.getD source 0).getLsbD position := by
  have hw : 0 < w := by omega
  rw [bit, Nat.mul_comm, Nat.mul_add_div hw, Nat.div_eq_of_lt hposition, Nat.add_zero,
    Nat.mul_add_mod, Nat.mod_eq_of_lt hposition]

theorem getLsbD_shiftedWord (wordShift target : Nat)
    {bitShift position : Nat} (hbit : bitShift < w) (hposition : position < w) :
    (shiftedWord wordShift bitShift words target).getLsbD position =
      (decide (wordShift * w + bitShift ≤ target * w + position) &&
        bit words (target * w + position - (wordShift * w + bitShift))) := by
  by_cases hle : wordShift ≤ target
  · obtain ⟨source, rfl⟩ := Nat.exists_eq_add_of_le hle
    unfold shiftedWord
    simp only [hle, if_true, Nat.add_sub_cancel_left]
    rw [Nat.add_mul]
    by_cases hpos : bitShift ≤ position
    · -- the bit stays inside the source word
      have hindex : wordShift * w + source * w + position - (wordShift * w + bitShift) =
          source * w + (position - bitShift) := by omega
      have hcmp : wordShift * w + bitShift ≤ wordShift * w + source * w + position := by omega
      have hlow : (words.getD (source - 1) 0 >>> (w - bitShift)).getLsbD position = false := by
        rw [BitVec.getLsbD_ushiftRight]
        exact BitVec.getLsbD_of_ge _ _ (by omega)
      have hhigh : (words.getD source 0 <<< bitShift).getLsbD position =
          (words.getD source 0).getLsbD (position - bitShift) := by
        rw [BitVec.getLsbD_shiftLeft]
        simp [hposition, Nat.not_lt.mpr hpos]
      rw [hindex, bit_word _ _ (by omega), decide_eq_true hcmp, Bool.true_and]
      split
      · rw [BitVec.getLsbD_or, hlow, hhigh, Bool.or_false]
      · exact hhigh
    · -- the bit crosses a word boundary: it is a top bit of the word below
      have hhigh : (words.getD source 0 <<< bitShift).getLsbD position = false := by
        simp [Nat.lt_of_not_le hpos]
      cases source with
      | zero =>
        have hcmp : ¬ wordShift * w + bitShift ≤ wordShift * w + 0 * w + position := by omega
        rw [if_neg (by omega), hhigh, decide_eq_false hcmp, Bool.false_and]
      | succ below =>
        rw [Nat.succ_mul]
        have hindex : wordShift * w + (below * w + w) + position - (wordShift * w + bitShift) =
            below * w + (w - bitShift + position) := by omega
        have hcmp : wordShift * w + bitShift ≤ wordShift * w + (below * w + w) + position := by
          omega
        rw [if_pos (by omega), BitVec.getLsbD_or, hhigh, BitVec.getLsbD_ushiftRight, hindex,
          bit_word _ _ (by omega), decide_eq_true hcmp]
        rfl
  · -- below the lowest moved word every bit is clear
    have hmul : (target + 1) * w ≤ wordShift * w := Nat.mul_le_mul_right w (by omega)
    have hcmp : ¬ wordShift * w + bitShift ≤ target * w + position := by
      rw [Nat.add_mul, Nat.one_mul] at hmul; omega
    unfold shiftedWord
    simp [hle, hcmp]

theorem bit_shiftUp {words : List (BitVec w)} (hw : 0 < w) (shift : Nat) {index : Nat}
    (hindex : index / w < words.length) :
    bit (shiftUp words shift) index =
      (decide (shift ≤ index) && bit words (index - shift)) := by
  have hposition : index % w < w := Nat.mod_lt _ hw
  have hsplit : index / w * w + index % w = index := Nat.div_add_mod' index w
  have hshift : shift / w * w + shift % w = shift := Nat.div_add_mod' shift w
  have hword := getLsbD_shiftedWord words (shift / w) (index / w) (Nat.mod_lt shift hw) hposition
  rw [hsplit, hshift] at hword
  rw [← hword]
  unfold bit
  rw [getD_shiftUp _ _ _ hindex]

@[simp] theorem bit_replicate_zero (count index : Nat) :
    bit (List.replicate count (0 : BitVec w)) index = false := by
  unfold bit
  rw [List.getD_eq_getElem?_getD, List.getElem?_replicate]
  split <;> simp

end SingOpenVPN.WordBitmap
