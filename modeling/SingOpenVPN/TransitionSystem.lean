import Mathlib.Data.List.Basic
import Mathlib.Data.List.Nodup
import Mathlib.Tactic.Common

/-!
# Guarded transition systems and their runs

A component that reacts to one event at a time is a `System`: the states it may
start in and a partial step function, `none` where the event cannot happen.
What holds in every run is proved once per step and lifted here by induction.

`ReachableBy` restricts the runs to steps that meet a condition, so that a
property of every run and a property of the runs inside an assumption are
instances of one rule (`ReachableBy.invariant`).  `runFrom` executes a list of
events; a concrete run is evaluated with it and ends in a reachable state by
`reachableBy_of_runFrom` and `exists_reachableBy`.

The last part is about stateful tests, functions that answer yes or no and move
to a next state: when two of them answer alike, and when one never says yes
twice to the same key.
-/

namespace SingOpenVPN.TransitionSystem

/-! ### Systems and reachable states -/

structure System (σ α : Type*) where
  initial : σ → Prop
  step : σ → α → Option σ

section Systems

variable {σ α : Type*} (system : System σ α)

/-- The states reached from an initial one by steps that meet `allowed`. -/
inductive ReachableBy (allowed : σ → α → Prop) : σ → Prop
  | start {state : σ} : system.initial state → ReachableBy allowed state
  | next {state state' : σ} {event : α} : ReachableBy allowed state → allowed state event →
      system.step state event = some state' → ReachableBy allowed state'

def Reachable (state : σ) : Prop := ReachableBy system (fun _ _ => True) state

variable {system} {allowed : σ → α → Prop}

/-- What holds initially and is kept by every allowed step holds in every
    reachable state. -/
theorem ReachableBy.invariant {P : σ → Prop} {state : σ} (h : ReachableBy system allowed state)
    (hinitial : ∀ state, system.initial state → P state)
    (hstep : ∀ state event state', P state → allowed state event →
      system.step state event = some state' → P state') : P state := by
  induction h with
  | start hstart => exact hinitial _ hstart
  | next _ hallowed hnext ih => exact hstep _ _ _ ih hallowed hnext

/-- Execute a list of events, as far as they are allowed and possible. -/
def runFrom (system : System σ α) (allowed : σ → α → Prop)
    [∀ state event, Decidable (allowed state event)] : σ → List α → Option σ
  | state, [] => some state
  | state, event :: events =>
      if allowed state event then
        (system.step state event).bind fun state' => runFrom system allowed state' events
      else none

theorem reachableBy_of_runFrom [∀ state event, Decidable (allowed state event)]
    {events : List α} {state state' : σ} (hstart : ReachableBy system allowed state)
    (hrun : runFrom system allowed state events = some state') :
    ReachableBy system allowed state' := by
  induction events generalizing state with
  | nil =>
    obtain rfl : state = state' := Option.some.inj hrun
    exact hstart
  | cons event events ih =>
    rw [runFrom] at hrun
    split at hrun
    · next hallowed =>
      obtain ⟨middle, hmiddle, hrest⟩ := Option.bind_eq_some_iff.mp hrun
      exact ih (.next hstart hallowed hmiddle) hrest
    · cases hrun

theorem exists_reachableBy [∀ state event, Decidable (allowed state event)] {P : σ → Prop}
    [DecidablePred P] {state : σ} (hstart : system.initial state) (events : List α)
    (hrun : (runFrom system allowed state events).any (fun state => decide (P state)) = true) :
    ∃ state, ReachableBy system allowed state ∧ P state := by
  obtain ⟨last, hlast, hP⟩ := (Option.any_eq_true _ _).mp hrun
  exact ⟨last, reachableBy_of_runFrom (.start hstart) hlast, of_decide_eq_true hP⟩

end Systems

/-! ### Stateful tests -/

section StatefulTests

variable {σ τ α κ : Type*}

/-- The answers of a stateful test along a list of inputs. -/
def answers (test : σ → α → Bool × σ) : σ → List α → List Bool
  | _, [] => []
  | state, input :: inputs => (test state input).1 :: answers test (test state input).2 inputs

/-- The inputs of a run that were answered yes, in order. -/
def acceptedInputs (test : σ → α → Bool × σ) : σ → List α → List α
  | _, [] => []
  | state, input :: inputs =>
      if (test state input).1 then input :: acceptedInputs test (test state input).2 inputs
      else acceptedInputs test (test state input).2 inputs

/-- Two tests whose states stay related while they answer alike give the same
    answers on every run. -/
theorem answers_eq_of_related {left : σ → α → Bool × σ} {right : τ → α → Bool × τ}
    {R : σ → τ → Prop} {good : α → Prop}
    (hstep : ∀ state state' input, R state state' → good input →
      (left state input).1 = (right state' input).1 ∧
      R (left state input).2 (right state' input).2)
    (inputs : List α) {state : σ} {state' : τ} (hR : R state state')
    (hgood : ∀ input ∈ inputs, good input) :
    answers left state inputs = answers right state' inputs := by
  induction inputs generalizing state state' with
  | nil => rfl
  | cons input inputs ih =>
    obtain ⟨hanswer, hnext⟩ := hstep state state' input hR (hgood input List.mem_cons_self)
    rw [answers, answers, hanswer,
      ih hnext fun other hother => hgood other (List.mem_cons_of_mem _ hother)]

/-- A test that keeps track of the keys it said yes to, and says no to those,
    never says yes to the same key twice. -/
theorem nodup_acceptedInputs {test : σ → α → Bool × σ} {key : α → κ} {R : σ → List κ → Prop}
    (hyes : ∀ state seen input, R state seen → (test state input).1 = true →
      key input ∉ seen ∧ R (test state input).2 (key input :: seen))
    (hno : ∀ state seen input, R state seen → (test state input).1 = false →
      R (test state input).2 seen)
    (inputs : List α) {state : σ} {seen : List κ} (hR : R state seen) :
    ((acceptedInputs test state inputs).map key).Nodup ∧
      ∀ other ∈ (acceptedInputs test state inputs).map key, other ∉ seen := by
  induction inputs generalizing state seen with
  | nil => exact ⟨List.nodup_nil, by simp [acceptedInputs]⟩
  | cons input inputs ih =>
    cases hanswer : (test state input).1 with
    | false =>
      rw [acceptedInputs, hanswer]
      exact ih (hno state seen input hR hanswer)
    | true =>
      obtain ⟨hfresh, hnext⟩ := hyes state seen input hR hanswer
      obtain ⟨hnodup, hnew⟩ := ih hnext
      rw [acceptedInputs, hanswer, if_pos rfl, List.map_cons]
      refine ⟨List.nodup_cons.mpr ⟨?_, hnodup⟩, ?_⟩
      · intro hmem
        exact hnew _ hmem List.mem_cons_self
      · intro other hother
        rcases List.mem_cons.mp hother with rfl | hmem
        · exact hfresh
        · exact fun hseen => hnew other hmem (List.mem_cons_of_mem _ hseen)

end StatefulTests

end SingOpenVPN.TransitionSystem
