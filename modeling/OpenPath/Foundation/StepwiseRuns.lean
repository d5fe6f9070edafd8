/-
# Runs and their steps

A component that takes a list of steps, some of which may not be possible, goes through
a list of states. A property of the states holds throughout a run exactly if every step
meets a condition, whenever this is so for one step: the condition says of a step that
it does not lead out of the property.
-/

import Mathlib.Logic.Basic

namespace OpenPath.Foundation

variable {State Label : Type*} (step : State → Label → Option State)

/-- The property holds of a state and of all states that the steps lead to. -/
def Throughout (holds : State → Prop) : State → List Label → Prop
  | state, [] => holds state
  | state, label :: labels =>
      holds state ∧ ∀ next, step state label = some next → Throughout holds next labels

/-- Every step that is taken meets the condition. -/
def EachStep (meets : State → Label → Prop) : State → List Label → Prop
  | _, [] => True
  | state, label :: labels =>
      ∀ next, step state label = some next →
        meets state label ∧ EachStep meets next labels

variable {step} {inv holds : State → Prop} {meets : State → Label → Prop} {state : State}
  {labels : List Label}

theorem Throughout.head (hrun : Throughout step holds state labels) : holds state := by
  cases labels with
  | nil => exact hrun
  | cons label labels => exact hrun.1

/-- The state that a run ends in is one of its states. -/
theorem Throughout.last {last : State} (hrun : Throughout step holds state labels)
    (hlast : labels.foldlM step state = some last) : holds last := by
  induction labels generalizing state with
  | nil => exact Option.some.inj hlast ▸ hrun
  | cons label labels ih =>
      rw [List.foldlM_cons, Option.bind_eq_bind, Option.bind_eq_some_iff] at hlast
      obtain ⟨next, hnext, hrest⟩ := hlast
      exact ih (hrun.2 next hnext) hrest

/-- The rule for a property that a step keeps exactly if it meets the condition. -/
theorem throughout_iff_eachStep
    (hinv : ∀ state label next, inv state → step state label = some next → inv next)
    (hstep : ∀ state label next, inv state → holds state → step state label = some next →
      (holds next ↔ meets state label)) (hstart : inv state) (hholds : holds state)
    (labels : List Label) :
    Throughout step holds state labels ↔ EachStep step meets state labels := by
  induction labels generalizing state with
  | nil => exact ⟨fun _ => trivial, fun _ => hholds⟩
  | cons label labels ih =>
      constructor
      · rintro ⟨-, hrest⟩ next hnext
        have hkept := hstep state label next hstart hholds hnext
        have hthere := (hrest next hnext).head
        exact ⟨hkept.mp hthere,
          (ih (hinv state label next hstart hnext) hthere).mp (hrest next hnext)⟩
      · intro hsteps
        refine ⟨hholds, fun next hnext => ?_⟩
        obtain ⟨hmeets, hothers⟩ := hsteps next hnext
        have hthere := (hstep state label next hstart hholds hnext).mpr hmeets
        exact (ih (hinv state label next hstart hnext) hthere).mpr hothers

/-- What a property of the state makes of a condition on the steps. -/
theorem EachStep.mono {weaker : State → Label → Prop} (hrun : Throughout step holds state labels)
    (hweaker : ∀ state label next, holds state → step state label = some next →
      meets state label → weaker state label) (hsteps : EachStep step meets state labels) :
    EachStep step weaker state labels := by
  induction labels generalizing state with
  | nil => trivial
  | cons label labels ih =>
      intro next hnext
      obtain ⟨hmeets, hothers⟩ := hsteps next hnext
      exact ⟨hweaker state label next hrun.1 hnext hmeets, ih (hrun.2 next hnext) hothers⟩

end OpenPath.Foundation
