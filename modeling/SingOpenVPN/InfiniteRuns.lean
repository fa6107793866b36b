import Mathlib.Order.Nat
import SingOpenVPN.TransitionSystem

/-!
# Infinite runs and fairness

What a system does sooner or later is a property of its infinite runs.  A `Run` has a
state at every instant, and between two instants an event of the system or none.
`WeaklyFair` is the assumption under which progress is proved: an event that is due from
some instant on without interruption happens at some later instant.

Progress itself comes from a rank: no step of the run raises it, so steps that lower it
cannot happen again and again (`not_always_falling`).

A concrete run is a list of events followed by silence (`stoppingRun`); it is fair if
nothing is due when it stops.
-/

namespace SingOpenVPN.TransitionSystem

variable {σ α : Type*}

structure Run (system : System σ α) where
  states : ℕ → σ
  events : ℕ → Option α
  start : system.initial (states 0)
  next : ∀ n, (events n).elim (states (n + 1) = states n)
    fun event => system.step (states n) event = some (states (n + 1))

namespace Run

variable {system : System σ α} (run : Run system)

theorem next_of_none {n : ℕ} (h : run.events n = none) : run.states (n + 1) = run.states n := by
  have hnext := run.next n
  rwa [h] at hnext

theorem next_of_some {n : ℕ} {event : α} (h : run.events n = some event) :
    system.step (run.states n) event = some (run.states (n + 1)) := by
  have hnext := run.next n
  rwa [h] at hnext

def Meets (allowed : σ → α → Prop) : Prop :=
  ∀ n, ∀ event ∈ run.events n, allowed (run.states n) event

variable {run}

theorem reachableBy {allowed : σ → α → Prop} (h : run.Meets allowed) (n : ℕ) :
    ReachableBy system allowed (run.states n) := by
  induction n with
  | zero => exact .start run.start
  | succ n ih =>
    cases hevent : run.events n with
    | none =>
      rw [run.next_of_none hevent]
      exact ih
    | some event => exact .next ih (h n event hevent) (run.next_of_some hevent)

theorem stays {P : σ → Prop} {n m : ℕ} (hstep : ∀ m, n ≤ m → ∀ event ∈ run.events m,
      system.step (run.states m) event = some (run.states (m + 1)) →
      P (run.states m) → P (run.states (m + 1))) (hle : n ≤ m)
    (h : P (run.states n)) : P (run.states m) := by
  induction m, hle using Nat.le_induction with
  | base => exact h
  | succ m hle ih =>
    cases hevent : run.events m with
    | none =>
      rw [run.next_of_none hevent]
      exact ih
    | some event => exact hstep m hle event hevent (run.next_of_some hevent) ih

variable (run) in
/-- What is `due` from some instant on happens at a later instant. -/
def WeaklyFair (due : σ → Prop) (happens : α → Prop) : Prop :=
  ∀ n, (∀ m, n ≤ m → due (run.states m)) → ∃ m, n ≤ m ∧ ∃ event ∈ run.events m, happens event

theorem not_always_falling {rank : σ → ℕ} {n : ℕ}
    (hle : ∀ m, n ≤ m → rank (run.states (m + 1)) ≤ rank (run.states m))
    (hfalls : ∀ m, n ≤ m → ∃ k, m ≤ k ∧ rank (run.states (k + 1)) < rank (run.states k)) :
    False := by
  have hmono : ∀ m, n ≤ m → ∀ k, m ≤ k → rank (run.states k) ≤ rank (run.states m) := by
    intro m hm k hk
    induction k, hk using Nat.le_induction with
    | base => exact le_refl _
    | succ k hk ih => exact (hle k (hm.trans hk)).trans ih
  -- the rank at some later instant is smaller by any amount
  have hbelow : ∀ amount, ∃ m, n ≤ m ∧ rank (run.states m) + amount ≤ rank (run.states n) := by
    intro amount
    induction amount with
    | zero => exact ⟨n, le_refl n, le_refl _⟩
    | succ amount ih =>
      obtain ⟨m, hm, hsum⟩ := ih
      obtain ⟨k, hk, hfall⟩ := hfalls m hm
      have := hmono m hm k hk
      exact ⟨k + 1, (hm.trans hk).trans (Nat.le_succ k), by omega⟩
  obtain ⟨m, -, hsum⟩ := hbelow (rank (run.states n) + 1)
  omega

end Run

/-! ### Finite runs that stop -/

section Stopping

/-- The state after each event of a list, the last one for ever. -/
def stateAfter (system : System σ α) (state : σ) (events : List α) (n : ℕ) : σ :=
  (events.take n).foldl (fun state event => (system.step state event).getD state) state

variable {system : System σ α}

theorem stateAfter_succ (state : σ) (events : List α) {n : ℕ} (h : n < events.length) :
    stateAfter system state events (n + 1) =
      (system.step (stateAfter system state events n) events[n]).getD
        (stateAfter system state events n) := by
  unfold stateAfter
  rw [List.take_succ_eq_append_getElem h, List.foldl_append]
  rfl

theorem stateAfter_of_length_le (state : σ) (events : List α) {n : ℕ} (h : events.length ≤ n) :
    stateAfter system state events n = stateAfter system state events events.length := by
  unfold stateAfter
  rw [List.take_of_length_le h, List.take_length]

/-- The run that executes a list of events, all of them possible, and then stops. -/
def stoppingRun (system : System σ α) (state : σ) (events : List α) (hstart : system.initial state)
    (hpossible : ∀ n (h : n < events.length),
      (system.step (stateAfter system state events n) events[n]).isSome) : Run system where
  states := stateAfter system state events
  events n := events[n]?
  start := hstart
  next n := by
    by_cases hn : n < events.length
    · rw [List.getElem?_eq_getElem hn]
      obtain ⟨next, hnext⟩ := Option.isSome_iff_exists.mp (hpossible n hn)
      rw [Option.elim_some, stateAfter_succ state events hn, hnext]
      rfl
    · rw [List.getElem?_eq_none (by omega)]
      rw [Option.elim_none, stateAfter_of_length_le state events (by omega),
        stateAfter_of_length_le state events (n := n) (by omega)]

section Properties

variable {state : σ} {events : List α} {hstart : system.initial state}
  {hpossible : ∀ n (h : n < events.length),
    (system.step (stateAfter system state events n) events[n]).isSome}

theorem meets_stoppingRun {allowed : σ → α → Prop}
    (h : ∀ n (h : n < events.length), allowed (stateAfter system state events n) events[n]) :
    (stoppingRun system state events hstart hpossible).Meets allowed := by
  intro n event hevent
  obtain ⟨hn, rfl⟩ := List.getElem?_eq_some_iff.mp hevent
  exact h n hn

/-- A run that stops where nothing is due is fair. -/
theorem weaklyFair_stoppingRun {due : σ → Prop} {happens : α → Prop}
    (h : ¬ due (stateAfter system state events events.length)) :
    (stoppingRun system state events hstart hpossible).WeaklyFair due happens := by
  intro n hdue
  have hlast := hdue (n + events.length) (Nat.le_add_right n _)
  change due (stateAfter system state events (n + events.length)) at hlast
  rw [stateAfter_of_length_le state events (by omega)] at hlast
  exact absurd hlast h

end Properties

end Stopping

end SingOpenVPN.TransitionSystem
