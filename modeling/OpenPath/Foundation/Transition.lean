/-
# Transition systems and invariants

A component that serves calls, or several parties that take turns, is a set of
initial states and a labelled step relation. The label carries everything that
is chosen outside the component: the arguments of a call, the party that moves,
the outcome of an operation that may fail. Reachability is relative to a
condition on the state before a step and the label of that step, so that one
notion covers all runs and the runs in which every step is well behaved.
-/

import Mathlib.Logic.Basic

namespace OpenPath.Foundation

/-- Initial states and a labelled step relation. -/
structure TransitionSystem (State Label : Type*) where
  init : State → Prop
  step : State → Label → State → Prop

namespace TransitionSystem

variable {State Label : Type*} (system : TransitionSystem State Label)

/-- The states of runs all of whose steps meet a condition. -/
inductive ReachableBy (condition : State → Label → Prop) : State → Prop
  | start {state : State} (hinit : system.init state) :
      ReachableBy condition state
  | step {source target : State} {label : Label}
      (prior : ReachableBy condition source) (meets : condition source label)
      (hstep : system.step source label target) :
      ReachableBy condition target

/-- The states of all runs. -/
def Reachable : State → Prop :=
  system.ReachableBy fun _ _ => True

variable {system} {state : State} {condition : State → Label → Prop} {inv : State → Prop}

/-- The invariant rule: what holds initially and is kept by every step that
meets the condition holds in every state of the runs that meet it. -/
theorem ReachableBy.invariant (hinit : ∀ state, system.init state → inv state)
    (hstep : ∀ source label target, inv source → condition source label →
      system.step source label target → inv target) (hreach : system.ReachableBy condition state) :
    inv state := by
  induction hreach with
  | start hstart => exact hinit _ hstart
  | step _ meets hmove ih => exact hstep _ _ _ ih meets hmove

/-- The invariant rule for all runs. -/
theorem Reachable.invariant (hinit : ∀ state, system.init state → inv state)
    (hstep : ∀ source label target, inv source → system.step source label target → inv target)
    (hreach : system.Reachable state) :
    inv state :=
  ReachableBy.invariant hinit
    (fun source label target hinv _ hmove =>
      hstep source label target hinv hmove)
    hreach

/-- A stronger condition reaches fewer states. -/
theorem ReachableBy.mono {strong weak : State → Label → Prop}
    (hle : ∀ source label, strong source label → weak source label)
    (hreach : system.ReachableBy strong state) :
    system.ReachableBy weak state := by
  induction hreach with
  | start hstart => exact .start hstart
  | step _ meets hmove ih => exact .step ih (hle _ _ meets) hmove

theorem ReachableBy.reachable (hreach : system.ReachableBy condition state) :
    system.Reachable state :=
  hreach.mono fun _ _ _ => trivial

/-! ## Runs that go on from a state -/

/-- The same system, started in a state that may be in the middle of a run. -/
def startingAt (system : TransitionSystem State Label) (state : State) :
    TransitionSystem State Label :=
  { system with init := (· = state) }

/-! ## Deterministic components -/

/-- The system of a component whose calls are functions of the state. -/
def ofFunction (init : State → Prop) (call : State → Label → State) :
    TransitionSystem State Label where
  init := init
  step source label target := call source label = target

variable {call : State → Label → State}

/-- Serving a list of calls one after another. -/
theorem reachableBy_foldl {init : State → Prop}
    (hreach : (ofFunction init call).ReachableBy condition state) (calls : List Label)
    (meets : ∀ before label after, calls = before ++ label :: after →
      condition (before.foldl call state) label) :
    (ofFunction init call).ReachableBy condition (calls.foldl call state) := by
  induction calls generalizing state with
  | nil => exact hreach
  | cons label calls ih =>
      refine ih (.step hreach (meets [] label calls rfl) rfl) ?_
      intro before next after equal
      exact meets (label :: before) next after (by simp [equal])

theorem reachable_foldl {init : State → Prop} (hreach : (ofFunction init call).Reachable state)
    (calls : List Label) :
    (ofFunction init call).Reachable (calls.foldl call state) :=
  reachableBy_foldl hreach calls fun _ _ _ _ => trivial

/-! ## Components that refuse calls -/

/-- The system of a component with a step that is not always possible. -/
def ofPartial (init : State → Prop) (step : State → Label → Option State) :
    TransitionSystem State Label where
  init := init
  step source label target := step source label = some target

/-- The state after a list of steps, each of which is possible and passes a test. -/
def runBy (test : State → Label → Bool) (step : State → Label → Option State) :
    State → List Label → Option State
  | state, [] => some state
  | state, label :: labels =>
      if test state label then (step state label).bind fun next => runBy test step next labels
      else none

theorem reachableBy_runBy {init : State → Prop} {step : State → Label → Option State}
    {test : State → Label → Bool} {later : State} (labels : List Label)
    (hreach : (ofPartial init step).ReachableBy (fun state label => test state label = true) state)
    (hrun : runBy test step state labels = some later) :
    (ofPartial init step).ReachableBy (fun state label => test state label = true) later := by
  induction labels generalizing state with
  | nil => exact Option.some.inj hrun ▸ hreach
  | cons label labels ih =>
      rw [runBy] at hrun
      split at hrun
      · rename_i hmeets
        obtain ⟨next, hstep, hrun⟩ := Option.bind_eq_some_iff.mp hrun
        exact ih (.step hreach hmeets hstep) hrun
      · cases hrun

end TransitionSystem

end OpenPath.Foundation
