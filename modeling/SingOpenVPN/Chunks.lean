import Mathlib.Algebra.BigOperators.Group.Finset.Basic
import Mathlib.Algebra.Order.BigOperators.Group.Finset
import Mathlib.Data.List.Basic

/-!
# Cutting a list into chunks of one size

Chunk `index` of a list holds the elements from `index * size` on, `size` of them or as
many as there are left.  A table that holds some of the chunks is joined by looking up
one after the other (`joinChunks`): that succeeds when all of them are there, and gives
the list back.
-/

namespace SingOpenVPN.Chunks

open List

variable {α : Type*} (size : Nat) (list : List α)

def chunk (index : Nat) : List α := (list.drop (index * size)).take size

theorem length_chunk (index : Nat) :
    (chunk size list index).length = min size (list.length - index * size) := by
  simp [chunk]

theorem flatten_chunks (count : Nat) :
    ((List.range count).map (chunk size list)).flatten = list.take (count * size) := by
  induction count with
  | zero => simp
  | succ count ih =>
    rw [range_succ, map_append, flatten_append, ih, map_singleton,
      flatten_singleton, Nat.succ_mul, take_add]
    rfl

theorem sum_length_chunks (count : Nat) :
    ∑ index ∈ Finset.range count, (chunk size list index).length =
      min (count * size) list.length := by
  induction count with
  | zero => simp
  | succ count ih =>
    rw [Finset.sum_range_succ, ih, length_chunk, Nat.succ_mul]
    omega

theorem lastChunk_unique {size length left right : Nat}
    (hleft : left * size < length) (hleft' : length ≤ (left + 1) * size)
    (hright : right * size < length) (hright' : length ≤ (right + 1) * size) : left = right := by
  have hlt : left * size < (right + 1) * size := hleft.trans_le hright'
  have hgt : right * size < (left + 1) * size := hright.trans_le hleft'
  have := Nat.lt_of_mul_lt_mul_right hlt
  have := Nat.lt_of_mul_lt_mul_right hgt
  omega

theorem exists_lastChunk {size length : Nat} (hsize : 0 < size) (hlength : 0 < length) :
    ∃ last, last * size < length ∧ length ≤ (last + 1) * size := by
  refine ⟨(length - 1) / size, ?_, ?_⟩
  · have hle := Nat.div_mul_le_self (length - 1) size
    omega
  · have hlt : length - 1 < ((length - 1) / size + 1) * size :=
      Nat.lt_mul_of_div_lt (Nat.lt_succ_self _) hsize
    omega

section Join

variable {κ β : Type*} {f : κ → Option β}

theorem mapM_eq_some_map {g : κ → β} {keys : List κ} (h : ∀ key ∈ keys, f key = some (g key)) :
    keys.mapM f = some (keys.map g) := by
  induction keys with
  | nil => rfl
  | cons key keys ih =>
    rw [mapM_cons, h key mem_cons_self,
      ih fun other hother => h other (mem_cons_of_mem _ hother)]
    rfl

theorem exists_of_mapM_eq_some {keys : List κ} {values : List β} (h : keys.mapM f = some values) :
    ∀ key ∈ keys, ∃ value, f key = some value := by
  induction keys generalizing values with
  | nil => simp
  | cons key keys ih =>
    rw [mapM_cons] at h
    obtain ⟨value, hvalue, hrest⟩ := Option.bind_eq_some_iff.mp h
    obtain ⟨rest, hrest, -⟩ := Option.bind_eq_some_iff.mp hrest
    intro other hother
    rcases mem_cons.mp hother with rfl | hother
    · exact ⟨value, hvalue⟩
    · exact ih hrest other hother

end Join

/-- Look up the chunks up to the last one in a row. -/
def joinChunks (lookup : Nat → Option (List α)) (last : Nat) : Option (List α) :=
  ((List.range (last + 1)).mapM lookup).map List.flatten

variable {size list} {lookup : Nat → Option (List α)} {last : Nat}

theorem exists_of_joinChunks_eq_some {joined : List α} (h : joinChunks lookup last = some joined) :
    ∀ index ≤ last, ∃ part, lookup index = some part := by
  obtain ⟨parts, hparts, -⟩ := Option.map_eq_some_iff.mp h
  intro index hindex
  exact exists_of_mapM_eq_some hparts index (mem_range.mpr (Nat.lt_succ_of_le hindex))

theorem joinChunks_complete (hall : ∀ index ≤ last, lookup index = some (chunk size list index))
    (hlast : list.length ≤ (last + 1) * size) : joinChunks lookup last = some list := by
  rw [joinChunks, mapM_eq_some_map fun index hindex => hall index (by simpa [Nat.lt_succ_iff]
    using hindex), Option.map_some, flatten_chunks, take_of_length_le hlast]

end SingOpenVPN.Chunks
