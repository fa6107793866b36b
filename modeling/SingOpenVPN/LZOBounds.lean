import SingOpenVPN.LZORoundTrip

/-!
# The LZO compressor stays inside its slices

The functions of `lzo_compress.go` once more, with the indexes into the input, the output and
the dictionary checked where they are used: `none` is an index outside, or a loop that is still
running.  Of several indexes into the input the greatest one is checked.
-/

namespace SingOpenVPN

open LZO1X List Option

def lzoEntry (dictionary : Nat → Nat) (index : Nat) : Option Nat :=
  if index < 1 <<< lzoDictBits then some (dictionary index) else none

/-- Only a count that goes into an earlier byte needs an index. -/
def appendLZOLiteralChecked (output literal : Bytes) : Option Bytes :=
  if literal.length = 0 ∨ (output.length = 0 ∧ literal.length ≤ 238) ∨ 3 < literal.length ∨
      2 ≤ output.length then
    some (appendLZOLiteral output literal)
  else none

def lzoExtendChecked (input : Bytes) : Nat → Nat → Nat → Option Nat
  | 0, _, _ => none
  | rounds + 1, matchPosition, inputPosition =>
    if inputPosition < input.length then do
      if (← input[matchPosition]?) = (← input[inputPosition]?) then
        lzoExtendChecked input rounds (matchPosition + 1) (inputPosition + 1)
      else return inputPosition
    else return inputPosition

namespace LZOState

def writeMatchChecked (state : LZOState) (input : Bytes)
    (dictionaryIndex matchPosition matchOffset : Nat) : Option LZOState := do
  let start := state.inputPosition
  let _ ← lzoEntry state.dictionary dictionaryIndex
  let _ ← if start = state.literalStart then some state.output
    else if state.literalStart ≤ start ∧ start ≤ input.length then
      appendLZOLiteralChecked state.output ((input.take start).drop state.literalStart)
    else none
  let _ ← input[matchPosition + 8]?
  let _ ← input[start + 8]?
  let _ ← if lzoShortLength input start matchPosition 6 3 < 9 then some start
    else lzoExtendChecked input input.length (matchPosition + (lzoMaxLengthM2 + 1)) (start + 9)
  return state.writeMatch input dictionaryIndex matchPosition matchOffset

/-- A candidate is compared up to its fourth byte. -/
def attemptChecked (state : LZOState) (input : Bytes) (dictionaryIndex : Nat) :
    Option (Option LZOState) := do
  let entry ← lzoEntry state.dictionary dictionaryIndex
  if entry = 0 then return none
  let _ ← input[entry - 1 + 3]?
  let _ ← input[state.inputPosition + 3]?
  match findLZOCandidate state.dictionary input state.inputPosition dictionaryIndex with
  | some (matchPosition, matchOffset) =>
    if lzoMatches input state.inputPosition matchPosition matchOffset then
      some <$> state.writeMatchChecked input dictionaryIndex matchPosition matchOffset
    else return none
  | none => return none

/-- The hash reads the byte at `inputPosition + 3` and those before it. -/
def roundChecked (state : LZOState) (input : Bytes) : Option LZOState := do
  let _ ← input[state.inputPosition + 3]?
  let dictionaryIndex := lzoDictionaryIndex input state.inputPosition
  let second := lzoSecondIndex dictionaryIndex
  match ← state.attemptChecked input dictionaryIndex with
  | some next => return next
  | none =>
    match ← state.attemptChecked input second with
    | some next => return next
    | none => (lzoEntry state.dictionary second).map fun _ => state.skip second

end LZOState

def compressLZORoundsChecked (input : Bytes) : Nat → LZOState → Option LZOState
  | 0, _ => none
  | rounds + 1, state => do
    let state ← state.roundChecked input
    if input.length - lzoMaxLengthM2 - 5 ≤ state.inputPosition then return state
    else compressLZORoundsChecked input rounds state

def compressLZOBlockChecked (input : Bytes) : Option Bytes := do
  let (output, literalStart) ←
    if lzoMaxLengthM2 + 5 < input.length then
      (fun state => (state.output, state.literalStart)) <$>
        compressLZORoundsChecked input input.length
          { output := [], dictionary := fun _ => 0, literalStart := 0, inputPosition := 4 }
    else some ([], 0)
  let _ ← if literalStart < input.length then
      appendLZOLiteralChecked output (input.drop literalStart)
    else some output
  return compressLZOBlock input

/-! ### No check fails -/

section Bounds

variable {input : Bytes} {state : LZOState}

theorem lzoDictionaryIndex_lt (input : Bytes) (inputPosition : Nat) :
    lzoDictionaryIndex input inputPosition < 1 <<< lzoDictBits :=
  lt_of_le_of_lt Nat.and_le_right (by decide)

theorem lzoSecondIndex_lt (dictionaryIndex : Nat) :
    lzoSecondIndex dictionaryIndex < 1 <<< lzoDictBits :=
  @Nat.xor_lt_two_pow _ _ 14 (lt_of_le_of_lt Nat.and_le_right (by decide)) (by decide)

theorem getElem?_eq_getD {i : Nat} (h : i < input.length) : input[i]? = some (input.getD i 0) := by
  rw [getElem?_eq_getElem h, getD_eq_getElem _ _ h]

theorem lzoMultiple_add (rounds value : Nat) :
    lzoMultiple (value + rounds) value = lzoMultiple value value := by
  suffices h : ∀ left right, value ≤ left → value ≤ right →
      lzoMultiple left value = lzoMultiple right value from h _ _ (Nat.le_add_right ..) le_rfl
  induction value using Nat.strongRecOn with
  | ind value ih =>
    intro left right hleft hright
    by_cases hmore : 255 < value
    · obtain ⟨left, rfl⟩ := Nat.exists_eq_add_of_lt (hmore.trans_le hleft)
      obtain ⟨right, rfl⟩ := Nat.exists_eq_add_of_lt (hmore.trans_le hright)
      rw [lzoMultiple, lzoMultiple, if_pos hmore, if_pos hmore,
        ih (value - 255) (by omega) _ (255 + right) (by omega) (by omega)]
    · cases left <;> cases right <;> simp [lzoMultiple, hmore]

theorem lzoExtendChecked_eq {rounds matchPosition inputPosition : Nat}
    (hbefore : matchPosition ≤ inputPosition) (hwithin : inputPosition ≤ input.length)
    (hrounds : input.length < inputPosition + rounds) :
    lzoExtendChecked input rounds matchPosition inputPosition =
      some (lzoExtend input rounds matchPosition inputPosition) := by
  induction rounds generalizing matchPosition inputPosition with
  | zero => omega
  | succ rounds ih =>
    rw [lzoExtendChecked, lzoExtend]
    by_cases hmore : inputPosition < input.length
    · rw [if_pos hmore, getElem?_eq_getD hmore, getElem?_eq_getD (hbefore.trans_lt hmore)]
      simp only [bind_eq_bind, bind_some, hmore, true_and]
      split
      · exact ih (Nat.succ_le_succ hbefore) hmore (by omega)
      · rfl
    · rw [if_neg hmore, if_neg fun hboth => hmore hboth.1]
      rfl

theorem appendLZOLiteralChecked_eq {output decoded : Bytes} (h : LZOWritten output decoded)
    (literal : Bytes) :
    appendLZOLiteralChecked output literal = some (appendLZOLiteral output literal) := by
  refine if_pos ?_
  rcases h with ⟨rfl, -⟩ | ⟨front, low, high, rfl, -⟩
  · rw [length_nil]
    omega
  · simp

section

variable (h : LZOInvariant input state)

include h

theorem LZOInvariant.writeMatchChecked_eq {index matchPosition matchOffset : Nat}
    (hindex : index < 1 <<< lzoDictBits) (hbefore : matchPosition ≤ state.inputPosition)
    (hroom : state.inputPosition + 13 < input.length) :
    state.writeMatchChecked input index matchPosition matchOffset =
      some (state.writeMatch input index matchPosition matchOffset) := by
  have hliteral := appendLZOLiteralChecked_eq h.written
    ((input.take state.inputPosition).drop state.literalStart)
  have hextend := @lzoExtendChecked_eq input input.length (matchPosition + (lzoMaxLengthM2 + 1))
    (state.inputPosition + 9) (Nat.add_le_add_right hbefore 9) (by omega) (by omega)
  have hslice : state.literalStart ≤ state.inputPosition ∧ state.inputPosition ≤ input.length :=
    ⟨h.literalStart_le, by omega⟩
  simp only [LZOState.writeMatchChecked, lzoEntry, if_pos hindex, hliteral, hextend, if_pos hslice,
    getElem?_eq_getD (show matchPosition + 8 < input.length by omega),
    getElem?_eq_getD (show state.inputPosition + 8 < input.length by omega),
    Option.bind_eq_bind, Option.bind_some, Option.pure_def, ite_self]

variable (hread : state.inputPosition + 3 < input.length)
  (hroom : (∀ index, state.dictionary index = 0) ∨ state.inputPosition + 13 < input.length)

include hread hroom

theorem LZOInvariant.attemptChecked_eq {index : Nat} (hindex : index < 1 <<< lzoDictBits) :
    state.attemptChecked input index = some (state.attempt input index) := by
  rw [LZOState.attemptChecked, LZOState.attempt, lzoEntry, if_pos hindex]
  by_cases hentry : state.dictionary index = 0
  · simp [hentry, findLZOCandidate]
  have hle := h.dictionary index
  have hroom := hroom.resolve_left fun hempty => hentry (hempty index)
  simp only [bind_eq_bind, bind_some, hentry, if_false, getElem?_eq_getD hread,
    getElem?_eq_getD (show state.dictionary index - 1 + 3 < input.length by omega)]
  cases hcandidate : findLZOCandidate state.dictionary input state.inputPosition index with
  | none => rfl
  | some candidate =>
    obtain ⟨matchPosition, matchOffset⟩ := candidate
    obtain ⟨hposition, -⟩ := findLZOCandidate_spec h hcandidate
    dsimp only [bind_some]
    rw [h.writeMatchChecked_eq hindex (by omega) hroom]
    split
    · rfl
    · rfl

theorem LZOInvariant.roundChecked_eq : state.roundChecked input = some (state.round input) := by
  have hfirst := h.attemptChecked_eq hread hroom (lzoDictionaryIndex_lt input state.inputPosition)
  have hsecond := h.attemptChecked_eq hread hroom
    (lzoSecondIndex_lt (lzoDictionaryIndex input state.inputPosition))
  simp only [LZOState.roundChecked, LZOState.round, getElem?_eq_getD hread, hfirst, hsecond,
    lzoEntry, if_pos (lzoSecondIndex_lt _), bind_eq_bind, bind_some]
  cases state.attempt input (lzoDictionaryIndex input state.inputPosition) with
  | some next => rfl
  | none =>
    cases state.attempt input (lzoSecondIndex (lzoDictionaryIndex input state.inputPosition)) with
    | some next => rfl
    | none => rfl

theorem compressLZORoundsChecked_eq {rounds : Nat}
    (hrounds : input.length ≤ state.inputPosition + rounds) (hpos : 0 < rounds) :
    compressLZORoundsChecked input rounds state = some (compressLZORounds input rounds state) := by
  induction rounds generalizing state with
  | zero => omega
  | succ rounds ih =>
    obtain ⟨hround, hgrows⟩ := h.round hroom
    rw [compressLZORoundsChecked, compressLZORounds, h.roundChecked_eq hread hroom]
    simp only [bind_eq_bind, bind_some]
    split
    · rfl
    · next hmore =>
      rw [lzoMaxLengthM2] at hmore
      exact ih hround (by omega) (.inr (by omega)) (by omega) (by omega)

end

end Bounds

/-- **The compressor is lossless** by the standard LZO1X rules, and it ends without an index
outside its slices. -/
theorem compressLZOBlock_lossless (input : Bytes) (hinput : input ≠ []) :
    compressLZOBlockChecked input = some (compressLZOBlock input) ∧
      (∀ rounds value, lzoMultiple (value + rounds) value = lzoMultiple value value) ∧
      decompress (compressLZOBlock input) = some input := by
  refine ⟨?_, lzoMultiple_add, decompress_compressLZOBlock hinput⟩
  rw [compressLZOBlockChecked]
  split
  · next hlong =>
    rw [lzoMaxLengthM2] at hlong
    have hstart := lzoInvariant_start input
    have hempty : ∀ index : Nat, (fun _ => 0 : Nat → Nat) index = 0 := fun _ => rfl
    have hwritten := (hstart.rounds (.inl hempty) input.length).written
    rw [compressLZORoundsChecked_eq hstart (show 4 + 3 < input.length by omega) (.inl hempty)
      (Nat.le_add_left _ _) (by omega)]
    simp [appendLZOLiteralChecked_eq hwritten]
  · have hwritten : LZOWritten [] [] := .inl ⟨rfl, rfl⟩
    simp [appendLZOLiteralChecked_eq hwritten]

/-- A run of zeros is compressed. -/
theorem compressLZOBlock_lossless_zeros :
    (compressLZOBlock (replicate 20 0)).length < 20 ∧
      decompress (compressLZOBlock (replicate 20 0)) = some (replicate 20 0) :=
  ⟨by decide +kernel, (compressLZOBlock_lossless (replicate 20 0) (by simp)).2.2⟩

end SingOpenVPN
