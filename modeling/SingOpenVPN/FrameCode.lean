import Mathlib.Data.List.Infix

/-!
# Codes that are read off a stream

A frame code turns items into non-empty words such that an item can be taken off the
front of a stream as soon as its word is there, and not before.  A receiver that keeps
the bytes it could not use yet and parses again when more have arrived gets back
exactly the items, however the stream is cut (`FrameCode.parse_of_append`).
-/

namespace SingOpenVPN

open List

/-- `parse` answers `none` as long as the front of the stream is not a whole word. -/
structure FrameCode (α β ε : Type) where
  Valid : α → Prop
  encode : α → List β
  parse : List β → Except ε (Option (α × List β))
  parse_nil : parse [] = .ok none
  parse_encode : ∀ item rest, Valid item → parse (encode item ++ rest) = .ok (some (item, rest))
  parse_partial : ∀ item front, Valid item → front <+: encode item → front ≠ encode item →
    parse front = .ok none

namespace FrameCode

variable {α β ε : Type} (code : FrameCode α β ε)

def encodeAll (items : List α) : List β := items.flatMap code.encode

@[simp] theorem encodeAll_nil : code.encodeAll [] = [] := rfl

@[simp] theorem encodeAll_cons (item : α) (items : List α) :
    code.encodeAll (item :: items) = code.encode item ++ code.encodeAll items := flatMap_cons

@[simp] theorem encodeAll_append (items items' : List α) :
    code.encodeAll (items ++ items') = code.encodeAll items ++ code.encodeAll items' :=
  flatMap_append

variable {code} {items : List α} {buffer rest : List β}

/-- A buffer that holds the beginning of a stream of words: nothing can be taken off it
    and something of the stream is still to come, or the first item can. -/
theorem parse_of_append (hvalid : ∀ item ∈ items, code.Valid item)
    (h : buffer ++ rest = code.encodeAll items) :
    (code.parse buffer = .ok none ∧ (items ≠ [] → rest ≠ [])) ∨
    ∃ item items' tail, items = item :: items' ∧ code.parse buffer = .ok (some (item, tail)) ∧
      buffer = code.encode item ++ tail ∧ tail ++ rest = code.encodeAll items' := by
  cases items with
  | nil =>
    left
    obtain ⟨rfl, -⟩ := append_eq_nil_iff.mp h
    exact ⟨code.parse_nil, fun hne => absurd rfl hne⟩
  | cons item items' =>
    have hitem := hvalid item mem_cons_self
    by_cases hwhole : code.encode item <+: buffer
    · right
      obtain ⟨tail, rfl⟩ := hwhole
      refine ⟨item, items', tail, rfl, code.parse_encode item tail hitem, rfl, ?_⟩
      rw [append_assoc] at h
      exact append_cancel_left h
    · left
      -- the buffer ends inside the first word
      have hfront : buffer <+: code.encode item :=
        (List.prefix_or_prefix_of_prefix ⟨rest, h⟩ (prefix_append _ _)).resolve_right hwhole
      have hne : buffer ≠ code.encode item := by
        rintro rfl
        exact hwhole prefix_rfl
      refine ⟨code.parse_partial item buffer hitem hfront hne, fun _ hnil => ?_⟩
      rw [hnil, append_nil] at h
      exact hwhole ⟨_, h.symm⟩

end FrameCode

end SingOpenVPN
