import Mathlib.Algebra.GroupWithZero.Nat
import Mathlib.Data.List.Basic
import Mathlib.Tactic.Common

/-!
# Shared scalars

The Go types every module reads the same way: instants and durations in
nanoseconds, byte strings, and 32-bit unsigned arithmetic on `Nat`.

`time.Time{}` is Go's "no instant" value (`IsZero`).  A field that may hold it
is an `Option Time` here; a reading of `time.Now()` is always an instant.
-/

namespace SingOpenVPN

/-- An instant (`time.Time`), in nanoseconds from the Unix epoch. -/
abbrev Time := Int

/-- A span of time (`time.Duration`), in nanoseconds. -/
abbrev Duration := Int

/-- A byte string (`[]byte`). -/
abbrev Bytes := List UInt8

/-- The greatest peer id, which data packets use for "none". -/
def peerIDMaxValue : Nat := 0xFFFFFF

def add32 (left right : Nat) : Nat := (left + right) % 2 ^ 32

def sub32 (left right : Nat) : Nat := (left + 2 ^ 32 - right) % 2 ^ 32

theorem add32_eq_of_lt {left right : Nat} (h : left + right < 2 ^ 32) :
    add32 left right = left + right := Nat.mod_eq_of_lt h

theorem sub32_eq_of_le {left right : Nat} (hle : right ≤ left) (hlt : left < 2 ^ 32) :
    sub32 left right = left - right := by
  unfold sub32
  omega

variable {ε α β : Type}

theorem bind_eq_ok {x : Except ε α} {f : α → Except ε β} {b : β} :
    (x >>= f) = .ok b ↔ ∃ a, x = .ok a ∧ f a = .ok b := by
  cases x with
  | error err | ok a => simp [bind, Except.bind]

/-- Two computations that begin with the same step go on from the same result. -/
theorem bind_eq_ok_both {ε α β γ : Type} {x : Except ε α} {f : α → Except ε β}
    {g : α → Except ε γ} {b : β} {c : γ} (h : (x >>= f) = .ok b) (h' : (x >>= g) = .ok c) :
    ∃ a, x = .ok a ∧ f a = .ok b ∧ g a = .ok c := by
  obtain ⟨a, hfirst, hrest⟩ := bind_eq_ok.mp h
  obtain ⟨a', hfirst', hrest'⟩ := bind_eq_ok.mp h'
  obtain rfl := Except.ok.inj (hfirst.symm.trans hfirst')
  exact ⟨a, hfirst, hrest, hrest'⟩

theorem map_eq_ok {x : Except ε α} {f : α → β} {b : β} :
    x.map f = .ok b ↔ ∃ a, x = .ok a ∧ f a = b := by
  cases x with
  | error err => simp [Except.map]
  | ok a => simp [Except.map]

theorem mem_of_mapM_eq_ok {f : α → Except ε β} {inputs : List α} {results : List β}
    (h : inputs.mapM f = .ok results) {result : β} (hresult : result ∈ results) :
    ∃ input ∈ inputs, f input = .ok result := by
  induction inputs generalizing results with
  | nil =>
    cases h
    cases hresult
  | cons input inputs ih =>
    rw [List.mapM_cons] at h
    obtain ⟨first, hfirst, h⟩ := bind_eq_ok.mp h
    obtain ⟨rest, hrest, h⟩ := bind_eq_ok.mp h
    cases h
    rcases List.mem_cons.mp hresult with rfl | hmem
    · exact ⟨input, List.mem_cons_self, hfirst⟩
    · obtain ⟨other, hother, hok⟩ := ih hrest hmem
      exact ⟨other, List.mem_cons_of_mem _ hother, hok⟩

end SingOpenVPN
