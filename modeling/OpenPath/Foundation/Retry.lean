/-
# Retrying

A program that computes from what it has read and finds, before it writes, that the world
has moved on starts again, a bounded number of times. What a round keeps when it starts
again is the invariant of the loop.

What happens to a world beside a program may be restricted to some kinds of events. A run
in which no other events occur is a run under the restriction.
-/

import OpenPath.Foundation.Program

namespace OpenPath.Foundation

/-- How a round ends. -/
inductive Round (State Result : Type)
  | again (state : State)
  | ends (result : Result)

namespace Program

variable {World Call Error State Result Progress : Type}

/-- A bounded number of rounds; none of them may come to an end. -/
def retry (body : State → Program World Call Error (Round State Result)) :
    Nat → State → Program World Call Error (Option Result)
  | 0, _ => done none
  | rounds + 1, state =>
      (body state).bind fun round =>
        match round with
        | .again next => retry body rounds next
        | .ends result => done (some result)

variable {interface : Interface World Call Progress} {permitted : World → World → Prop}

/-- The rule for a round: what holds of the next state, of the end and of an error. -/
def RoundPost (inv : State → World → Prop) (post : Except Error (Option Result) → World → Prop) :
    Except Error (Round State Result) → World → Prop
  | .ok (.again next), after => inv next after
  | .ok (.ends result), after => post (.ok (some result)) after
  | .error error, after => post (.error error) after

/-- The result of a program that is done. -/
def result? : Program World Call Error Result → Option Result
  | done result => some result
  | _ => none

theorem eq_done_of_result? {program : Program World Call Error Result} {result : Result}
    (h : program.result? = some result) : program = done result := by
  cases program with
  | done other =>
      cases h
      rfl
  | throw error => cases h
  | look next => cases h
  | call request next failed => cases h

theorem eq_of_result? {run : World × Program World Call Error Result} {result : Result}
    (h : run.2.result? = some result) : run = (run.1, done result) :=
  Prod.ext rfl (eq_done_of_result? h)

theorem Wp.retry {body : State → Program World Call Error (Round State Result)}
    {inv : State → World → Prop} {post : Except Error (Option Result) → World → Prop}
    (round : ∀ state world, inv state world →
      (body state).Wp interface permitted world (RoundPost inv post))
    (busy : ∀ state world, inv state world → post (.ok none) world)
    (rounds : Nat) {state : State} {world : World} (start : inv state world) :
    (Program.retry body rounds state).Wp interface permitted world post := by
  induction rounds generalizing state world with
  | zero => exact busy state world start
  | succ rounds ih =>
      apply Wp.bind
      apply (round state world start).mono
      intro outcome after hafter
      cases outcome with
      | error error => exact hafter
      | ok round =>
          cases round with
          | again next => exact ih hafter
          | ends result => exact hafter

end Program

/-! ## Restricted events -/

/-- Other events than those that occur do nothing. -/
def Interface.restrict {World Call Progress : Type} (interface : Interface World Call Progress)
    (occurs : Progress → Bool) : Interface World Call Progress where
  perform := interface.perform
  advance request progress world :=
    if occurs progress then interface.advance request progress world else world

/-- Nothing happens but what occurs. -/
def Outcome.Within {Progress : Type} (occurs : Progress → Bool) : Outcome Progress → Prop
  | .advances progress => occurs progress = true
  | .succeeds | .fails => True

namespace Program

variable {World Call Error Result Progress : Type} {interface : Interface World Call Progress}
  {occurs : Progress → Bool}

theorem step_restrict {outcome : Outcome Progress} (h : Outcome.Within occurs outcome)
    (state : World × Program World Call Error Result) :
    step (interface.restrict occurs) state outcome = step interface state outcome := by
  simp only [step]
  generalize state.2.settle state.1 = program
  cases program with
  | done result => rfl
  | throw error => rfl
  | look next => rfl
  | call request next failed =>
      cases outcome with
      | succeeds => rfl
      | fails => rfl
      | advances progress =>
          have hoccurs : occurs progress = true := h
          simp only [Interface.restrict, hoccurs, if_true]

theorem run_restrict {outcomes : List (Outcome Progress)}
    (h : ∀ outcome ∈ outcomes, Outcome.Within occurs outcome)
    (state : World × Program World Call Error Result) :
    run (interface.restrict occurs) outcomes state = run interface outcomes state := by
  induction outcomes generalizing state with
  | nil => rfl
  | cons outcome outcomes ih =>
      obtain ⟨hfirst, hrest⟩ := List.forall_mem_cons.mp h
      rw [run, run, List.foldl_cons, List.foldl_cons, step_restrict hfirst]
      exact ih hrest _

end Program

end OpenPath.Foundation
