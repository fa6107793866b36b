import Mathlib.Data.List.DropRight
import Mathlib.Tactic.Common
import SingOpenVPN.Basic

/-!
# Go strings (`strings`, `unicode/utf8`)

A Go string is a string of bytes.  The functions that look at white space or at letter
case read it rune by rune: `runes` cuts a text where `range` does, a byte that does not
start a well-formed rune being a piece of its own.

White space is Unicode's, so a no-break space inside a text separates fields although
none of its bytes is an ASCII blank.

Letter case is only ever compared with ASCII names here.  `toLower`, `toUpper` and
`foldCase` therefore change the ASCII letters and the four other runes whose image is an
ASCII letter (dotted capital and dotless small I, long S, the Kelvin sign); every other
rune maps to one outside ASCII, and is left as it is.
-/

namespace SingOpenVPN

open List

abbrev Text := Bytes

def ascii (literal : String) : Text := literal.toList.map fun character => character.toNat.toUInt8

/-! ### Runes -/

/-- How many bytes continue a rune with this first byte, and the bounds of the first of
them; `none` for a byte that stands alone. -/
def runeForm (first : UInt8) : Option (Nat × UInt8 × UInt8) :=
  if first < 0xC2 then none
  else if first ≤ 0xDF then some (1, 0x80, 0xBF)
  else if first = 0xE0 then some (2, 0xA0, 0xBF)
  else if first = 0xED then some (2, 0x80, 0x9F)
  else if first ≤ 0xEF then some (2, 0x80, 0xBF)
  else if first = 0xF0 then some (3, 0x90, 0xBF)
  else if first ≤ 0xF3 then some (3, 0x80, 0xBF)
  else if first = 0xF4 then some (3, 0x80, 0x8F)
  else none

def continuesRune (byte : UInt8) : Bool := 0x80 ≤ byte && byte ≤ 0xBF

def runeWidth (first : UInt8) (rest : Bytes) : Nat :=
  match runeForm first with
  | none => 1
  | some (count, low, high) =>
      let following := rest.take count
      if following.length = count ∧ following.all continuesRune = true ∧
          following.head?.any (fun byte => low ≤ byte && byte ≤ high) = true then count + 1
      else 1

def runesWithin : Nat → Text → List Bytes
  | 0, _ => []
  | _ + 1, [] => []
  | fuel + 1, first :: rest =>
      let width := runeWidth first rest
      (first :: rest).take width :: runesWithin fuel ((first :: rest).drop width)

def runes (text : Text) : List Bytes := runesWithin text.length text

def isSpace (rune : Bytes) : Bool :=
  rune ∈ ([[0x09], [0x0A], [0x0B], [0x0C], [0x0D], [0x20], [0xC2, 0x85], [0xC2, 0xA0],
    [0xE1, 0x9A, 0x80], [0xE2, 0x80, 0x80], [0xE2, 0x80, 0x81], [0xE2, 0x80, 0x82],
    [0xE2, 0x80, 0x83], [0xE2, 0x80, 0x84], [0xE2, 0x80, 0x85], [0xE2, 0x80, 0x86],
    [0xE2, 0x80, 0x87], [0xE2, 0x80, 0x88], [0xE2, 0x80, 0x89], [0xE2, 0x80, 0x8A],
    [0xE2, 0x80, 0xA8], [0xE2, 0x80, 0xA9], [0xE2, 0x80, 0xAF], [0xE2, 0x81, 0x9F],
    [0xE3, 0x80, 0x80]] : List Bytes)

/-! ### White space -/

def trimSpace (text : Text) : Text :=
  (((runes text).dropWhile isSpace).rdropWhile isSpace).flatten

def fields (text : Text) : List Text :=
  (((runes text).splitOnP isSpace).filter (· ≠ [])).map List.flatten

def joinText (separator : Text) (texts : List Text) : Text := separator.intercalate texts

/-! ### Letter case -/

def lowerRune : Bytes → Bytes
  | [byte] => if 0x41 ≤ byte ∧ byte ≤ 0x5A then [byte + 0x20] else [byte]
  | [0xC4, 0xB0] => ascii "i"
  | [0xE2, 0x84, 0xAA] => ascii "k"
  | rune => rune

def upperRune : Bytes → Bytes
  | [byte] => if 0x61 ≤ byte ∧ byte ≤ 0x7A then [byte - 0x20] else [byte]
  | [0xC4, 0xB1] => ascii "I"
  | [0xC5, 0xBF] => ascii "S"
  | rune => rune

/-- The smallest rune of an orbit of `unicode.SimpleFold` that has an ASCII letter, in
lower case. -/
def foldRune : Bytes → Bytes
  | [byte] => if 0x41 ≤ byte ∧ byte ≤ 0x5A then [byte + 0x20] else [byte]
  | [0xC5, 0xBF] => ascii "s"
  | [0xE2, 0x84, 0xAA] => ascii "k"
  | rune => rune

def toLower (text : Text) : Text := (runes text).flatMap lowerRune

def toUpper (text : Text) : Text := (runes text).flatMap upperRune

def equalFold (left right : Text) : Bool := (runes left).map foldRune == (runes right).map foldRune

/-! ### Cutting a text into runes -/

theorem runeWidth_pos (first : UInt8) (rest : Bytes) : 0 < runeWidth first rest := by
  unfold runeWidth
  split
  · decide
  · dsimp only
    split <;> omega

theorem runesWithin_eq {fuel fuel' : Nat} {text : Text} (h : text.length ≤ fuel)
    (h' : text.length ≤ fuel') : runesWithin fuel text = runesWithin fuel' text := by
  induction fuel generalizing fuel' text with
  | zero =>
    rw [eq_nil_of_length_eq_zero (Nat.le_zero.mp h)]
    cases fuel' <;> rfl
  | succ fuel ih =>
    cases text with
    | nil => cases fuel' <;> rfl
    | cons first rest =>
      obtain ⟨fuel', rfl⟩ : ∃ n, fuel' = n + 1 := ⟨fuel' - 1, by simp at h'; omega⟩
      have hpos := runeWidth_pos first rest
      simp only [length_cons] at h h'
      simp only [runesWithin]
      rw [@ih fuel' _ (by simp; omega) (by simp; omega)]

theorem runes_cons (first : UInt8) (rest : Bytes) :
    runes (first :: rest) = (first :: rest).take (runeWidth first rest) ::
      runes ((first :: rest).drop (runeWidth first rest)) := by
  have hpos := runeWidth_pos first rest
  show runesWithin (rest.length + 1) (first :: rest) = _
  simp only [runesWithin]
  rw [runes, runesWithin_eq _ (le_refl _)]
  simp
  omega

theorem runes_induction {motive : Text → Prop} (nil : motive [])
    (cons : ∀ first rest, motive ((first :: rest).drop (runeWidth first rest)) →
      motive (first :: rest)) (text : Text) : motive text := by
  induction h : text.length using Nat.strongRecOn generalizing text with
  | ind length ih =>
    cases text with
    | nil => exact nil
    | cons first rest =>
      refine cons first rest (ih _ ?_ _ rfl)
      have := runeWidth_pos first rest
      simp only [length_drop, length_cons] at h ⊢
      omega

@[simp] theorem flatten_runes (text : Text) : (runes text).flatten = text := by
  induction text using runes_induction with
  | nil => rfl
  | cons first rest ih => rw [runes_cons, flatten_cons, ih, take_append_drop]

theorem runes_ne_nil {text : Text} (h : text ≠ []) : runes text ≠ [] := by
  intro hnil
  rw [← flatten_runes text, hnil] at h
  exact h rfl

variable {byte : UInt8}

theorem runeForm_ascii (h : byte < 0x80) : runeForm byte = none := by
  rw [runeForm, if_pos (show byte < 0xC2 from UInt8.lt_trans h (by decide))]

theorem runeWidth_ascii (h : byte < 0x80) (rest : Bytes) :
    runeWidth byte rest = 1 := by
  rw [runeWidth, runeForm_ascii h]

theorem continuesRune_ascii (h : byte < 0x80) : continuesRune byte = false := by
  have : ¬ (0x80 : UInt8) ≤ byte := UInt8.not_le.mpr h
  simp [continuesRune, this]

/-- An ASCII byte ends the rune in front of it, well formed or not. -/
theorem runeWidth_append_ascii (first : UInt8) (front back : Bytes)
    (h : byte < 0x80) : runeWidth first (front ++ byte :: back) = runeWidth first front := by
  unfold runeWidth
  split
  · rfl
  · next count low high _ =>
    by_cases hlong : count ≤ front.length
    · rw [take_append_of_le_length hlong]
    · have hshort : (front.take count).length ≠ count := by simp; omega
      have hbroken : ((front ++ byte :: back).take count).all continuesRune = false := by
        rw [take_append, take_of_length_le (by omega),
          show count - front.length = count - front.length - 1 + 1 by omega, take_succ_cons,
          all_append, all_cons, continuesRune_ascii h]
        simp
      rw [if_neg fun hall => by simp [hbroken] at hall, if_neg fun hall => hshort hall.1]

theorem runes_append_ascii (front back : Bytes) (h : byte < 0x80) :
    runes (front ++ byte :: back) = runes front ++ [byte] :: runes back := by
  induction front using runes_induction with
  | nil => rw [nil_append, runes_cons, runeWidth_ascii h]; rfl
  | cons first rest ih =>
    have hwidth : runeWidth first rest ≤ (first :: rest).length := by
      unfold runeWidth
      split
      · simp
      · dsimp only
        split
        · next hfits =>
          have := hfits.1
          simp only [length_take, length_cons] at this ⊢
          omega
        · simp
    rw [cons_append, runes_cons, runeWidth_append_ascii _ _ _ h, runes_cons first rest,
      ← cons_append, take_append_of_le_length hwidth,
      drop_append_of_le_length hwidth, ih]
    rfl

/-! ### Joined texts -/

@[simp] theorem joinText_singleton (separator text : Text) : joinText separator [text] = text := by
  simp [joinText, List.intercalate]

theorem joinText_cons_cons (separator text next : Text) (texts : List Text) :
    joinText separator (text :: next :: texts) =
      text ++ (separator ++ joinText separator (next :: texts)) := by
  simp [joinText, List.intercalate]

theorem joinText_append (separator : Text) {front back : List Text} (hfront : front ≠ [])
    (hback : back ≠ []) :
    joinText separator (front ++ back) =
      joinText separator front ++ (separator ++ joinText separator back) := by
  induction front with
  | nil => exact absurd rfl hfront
  | cons text front ih =>
    cases front with
    | nil =>
      obtain ⟨next, back, rfl⟩ := exists_cons_of_ne_nil hback
      rw [singleton_append, joinText_cons_cons, joinText_singleton]
    | cons next front =>
      rw [cons_append, cons_append, joinText_cons_cons, ← cons_append,
        ih (cons_ne_nil _ _), joinText_cons_cons]
      simp

theorem mem_intercalate {α : Type} {separator : List α} {texts : List (List α)} {a : α}
    (h : a ∈ separator.intercalate texts) : a ∈ separator ∨ ∃ text ∈ texts, a ∈ text := by
  induction texts with
  | nil => cases h
  | cons text texts ih =>
    cases texts with
    | nil => exact .inr ⟨text, by simp, by simpa using h⟩
    | cons next texts =>
      rw [intercalate_cons_cons, mem_append, mem_append] at h
      rcases h with (htext | hseparator) | hrest
      · exact .inr ⟨text, by simp, htext⟩
      · exact .inl hseparator
      · rcases ih hrest with hseparator | ⟨other, hother, hmem⟩
        · exact .inl hseparator
        · exact .inr ⟨other, mem_cons_of_mem _ hother, hmem⟩

theorem trimSpace_eq_self {text : Text} (hfirst : ∀ rune ∈ (runes text).head?, isSpace rune = false)
    (hlast : ∀ rune ∈ (runes text).getLast?, isSpace rune = false) : trimSpace text = text := by
  have hfront : (runes text).dropWhile isSpace = runes text := by
    cases hrunes : runes text with
    | nil => rfl
    | cons rune rest =>
      simpa using hfirst rune (by simp [hrunes])
  have hback : (runes text).rdropWhile isSpace = runes text := by
    rw [rdropWhile_eq_self_iff]
    intro hne
    simpa using hlast _ (List.getLast?_eq_getLast_of_ne_nil hne)
  rw [trimSpace, hfront, hback, flatten_runes]

example : fields (ascii " dns  server\t1 " ++ [0xC2, 0xA0] ++ ascii "x") =
    [ascii "dns", ascii "server", ascii "1", ascii "x"] := by
  decide +kernel

example : trimSpace (ascii "\r\n a b " ++ [0xE2, 0x80, 0x83]) = ascii "a b" := by decide +kernel

example : equalFold (ascii "SUBNET") ([0xC5, 0xBF] ++ ascii "ubnet") = true := by decide +kernel

end SingOpenVPN
