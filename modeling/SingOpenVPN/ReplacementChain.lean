import Mathlib.Data.List.Basic
import Mathlib.Tactic.Common

/-!
# Holders that replace each other

A resource with one holder at a time: a newcomer takes it over from the holder before it,
which may take time to let go, so the newcomer waits.  While it waits, the next one may
replace it in turn.  `Settled` says of the holders, the latest first, that everyone
below a holder is over unless that holder still waits for the one before it; one wait
for the direct predecessor is then enough to know that all the earlier holders are over.

What a step may do to such a list is `Settled.mono`: who is over stays over, and nobody
gives up waiting for someone who is not over.
-/

namespace SingOpenVPN.ReplacementChain

variable {α : Type*} (ended : α → Prop) (waitsFor : α → α → Prop)

/-- Every holder waits for the one before it, or all the earlier ones are over. -/
def Settled : List α → Prop
  | [] => True
  | holder :: earlier =>
    ((∀ other ∈ earlier, ended other) ∨ ∃ previous, earlier.head? = some previous ∧
      waitsFor holder previous) ∧ Settled earlier

variable {ended waitsFor} {ended' : α → Prop} {waitsFor' : α → α → Prop}

theorem Settled.of_append {later earlier : List α} (h : Settled ended waitsFor (later ++ earlier)) :
    Settled ended waitsFor earlier := by
  induction later with
  | nil => exact h
  | cons holder later ih => exact ih h.2

/-- The wait of a holder is over when the one it waits for is. -/
theorem Settled.earlier_over {holder : α} {earlier : List α}
    (h : Settled ended waitsFor (holder :: earlier))
    (hactive : ∀ holder previous, ended holder → ¬ waitsFor holder previous)
    (hwait : ∀ previous, waitsFor holder previous → ended previous) :
    ∀ other ∈ earlier, ended other := by
  induction earlier generalizing holder with
  | nil => simp
  | cons previous earlier ih =>
    rcases h.1 with hall | ⟨waited, hwaited, hwaits⟩
    · exact hall
    · cases hwaited
      have hprevious := hwait previous hwaits
      have hrest := ih h.2 fun other hother => absurd hother (hactive previous other hprevious)
      intro other hother
      rcases List.mem_cons.mp hother with rfl | hbelow
      · exact hprevious
      · exact hrest other hbelow

/-- Who is over stays over, and a wait ends when the one it is for is over. -/
theorem Settled.mono {holders : List α} (h : Settled ended waitsFor holders)
    (hactive : ∀ holder previous, ended holder → ¬ waitsFor holder previous)
    (hover : ∀ holder ∈ holders, ended holder → ended' holder)
    (hwaits : ∀ holder ∈ holders, ∀ previous, waitsFor holder previous →
      waitsFor' holder previous ∨ ended previous) :
    Settled ended' waitsFor' holders := by
  induction holders with
  | nil => trivial
  | cons holder earlier ih =>
    have hbelow : ∀ other ∈ earlier, ended other → ended' other :=
      fun other hother => hover other (List.mem_cons_of_mem _ hother)
    refine ⟨?_, ih h.2 hbelow fun other hother => hwaits other (List.mem_cons_of_mem _ hother)⟩
    by_cases hkept : ∃ previous, earlier.head? = some previous ∧ waitsFor' holder previous
    · exact .inr hkept
    · refine .inl fun other hother => hbelow other hother ?_
      rcases h.1 with hall | ⟨previous, hprevious, hwaited⟩
      · exact hall other hother
      · rcases hwaits holder List.mem_cons_self previous hwaited with hstill | hdone
        · exact absurd ⟨previous, hprevious, hstill⟩ hkept
        · -- the wait was for the head, and everyone below an ended holder is over
          obtain ⟨rest, rfl⟩ := List.head?_eq_some_iff.mp hprevious
          have hrest := h.2.earlier_over hactive fun last hlast =>
            absurd hlast (hactive previous last hdone)
          rcases List.mem_cons.mp hother with rfl | hlow
          · exact hdone
          · exact hrest other hlow

end SingOpenVPN.ReplacementChain
