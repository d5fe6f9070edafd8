/-
# Interleaved calls over a shared state

Any number of calls run at the same time over a shared state. Each call is in a
phase of its own, which remembers what the call has read; a move of one call may
change the shared state and its own phase. A run interleaves the moves in any
order. The rule `interference_free` proves an invariant of the shared state
together with an assertion for each phase: every move establishes the assertion
of the phase it ends in and leaves those of the other calls standing.
-/

import OpenPath.Foundation.Transition
import Mathlib.Logic.Function.Basic

namespace OpenPath.Foundation

/-- The shared state and the phase of every call. -/
structure Interleaved (Shared Phase : Type*) where
  shared : Shared
  phase : Nat → Phase

/-- What one call can do: a labelled relation between the shared state with the
phase of the call, before and after. -/
abbrev Moves (Shared Phase Label : Type*) :=
  Label → Shared × Phase → Shared × Phase → Prop

namespace Interleaved

variable {Shared Phase Label : Type*}

/-- The state after a move of one call. -/
def after (state : Interleaved Shared Phase) (call : Nat) (outcome : Shared × Phase) :
    Interleaved Shared Phase where
  shared := outcome.1
  phase := Function.update state.phase call outcome.2

/-- All interleavings of calls that start in the given phase. A label names the
call that moves. -/
def system (init : Shared → Prop) (start : Phase) (moves : Moves Shared Phase Label) :
    TransitionSystem (Interleaved Shared Phase) (Nat × Label) where
  init state := init state.shared ∧ ∀ call, state.phase call = start
  step source label target :=
    ∃ outcome, moves label.2 (source.shared, source.phase label.1) outcome ∧
      target = source.after label.1 outcome

variable {init : Shared → Prop} {start : Phase} {moves : Moves Shared Phase Label}
  {condition : Shared → Phase → Label → Prop}

/-- A condition on the moves of single calls, as one on the steps of the
system. -/
def Meets (condition : Shared → Phase → Label → Prop) (state : Interleaved Shared Phase)
    (label : Nat × Label) : Prop :=
  condition state.shared (state.phase label.1) label.2

/-- Interference freedom, where the condition on a step may look at the phases of
all calls. -/
theorem interference_free_among {inv : Shared → Prop} {assertion : Shared → Phase → Prop}
    {among : Interleaved Shared Phase → Nat × Label → Prop}
    (hinit : ∀ shared, init shared → inv shared ∧ assertion shared start)
    (hmove : ∀ (state : Interleaved Shared Phase) call label outcome, inv state.shared →
      (∀ other, assertion state.shared (state.phase other)) → among state (call, label) →
        moves label (state.shared, state.phase call) outcome →
          inv outcome.1 ∧ assertion outcome.1 outcome.2 ∧
            ∀ other, other ≠ call → assertion outcome.1 (state.phase other))
    {state : Interleaved Shared Phase}
    (hreach : (system init start moves).ReachableBy among state) :
    inv state.shared ∧ ∀ call, assertion state.shared (state.phase call) := by
  induction hreach with
  | start hstart =>
      obtain ⟨hshared, hphase⟩ := hstart
      refine ⟨(hinit _ hshared).1, ?_⟩
      intro call
      rw [hphase call]
      exact (hinit _ hshared).2
  | @step source target label _ hmeets hstep ih =>
      obtain ⟨hinv, hassert⟩ := ih
      obtain ⟨outcome, hmoves, rfl⟩ := hstep
      obtain ⟨hafter, hown, hothers⟩ := hmove source label.1 label.2 outcome hinv hassert hmeets hmoves
      refine ⟨hafter, ?_⟩
      intro call
      by_cases hcall : call = label.1
      · subst hcall
        simpa [after] using hown
      · simpa [after, Function.update_of_ne hcall] using hothers call hcall

theorem interference_free {inv : Shared → Prop} {assertion : Shared → Phase → Prop}
    (hinit : ∀ shared, init shared → inv shared ∧ assertion shared start)
    (hmove : ∀ label shared phase outcome, inv shared → assertion shared phase →
      condition shared phase label → moves label (shared, phase) outcome →
        inv outcome.1 ∧ assertion outcome.1 outcome.2)
    (hstable : ∀ label shared phase outcome other, inv shared → assertion shared phase →
      assertion shared other → condition shared phase label →
        moves label (shared, phase) outcome → assertion outcome.1 other)
    {state : Interleaved Shared Phase}
    (hreach : (system init start moves).ReachableBy (Meets condition) state) :
    inv state.shared ∧ ∀ call, assertion state.shared (state.phase call) := by
  refine interference_free_among hinit ?_ hreach
  intro source call label outcome hinv hassert hmeets hmoves
  obtain ⟨hafter, hown⟩ := hmove _ _ _ _ hinv (hassert call) hmeets hmoves
  refine ⟨hafter, hown, ?_⟩
  intro other _
  exact hstable _ _ _ _ _ hinv (hassert call) (hassert other) hmeets hmoves

/-- Interference freedom with a relation between any two calls. A move has to keep
the assertion of every other call, its own relation to it, and the relation of any
two others. -/
theorem interference_free_apart {inv : Shared → Prop} {assertion : Shared → Phase → Prop}
    {apart : Shared → Phase → Phase → Prop} {among : Interleaved Shared Phase → Nat × Label → Prop}
    (hsymm : ∀ shared one other, apart shared one other → apart shared other one)
    (hinit : ∀ shared, init shared →
      inv shared ∧ assertion shared start ∧ apart shared start start)
    (hmove : ∀ (state : Interleaved Shared Phase) call label outcome, inv state.shared →
      (∀ other, assertion state.shared (state.phase other)) →
        (∀ one other, one ≠ other → apart state.shared (state.phase one) (state.phase other)) →
          among state (call, label) →
            moves label (state.shared, state.phase call) outcome →
              (inv outcome.1 ∧ assertion outcome.1 outcome.2) ∧
                (∀ other, other ≠ call → assertion outcome.1 (state.phase other) ∧
                  apart outcome.1 outcome.2 (state.phase other)) ∧
                ∀ one other, one ≠ call → other ≠ call → one ≠ other →
                  apart outcome.1 (state.phase one) (state.phase other))
    {state : Interleaved Shared Phase}
    (hreach : (system init start moves).ReachableBy among state) :
    inv state.shared ∧ (∀ call, assertion state.shared (state.phase call)) ∧
      ∀ one other, one ≠ other → apart state.shared (state.phase one) (state.phase other) := by
  induction hreach with
  | start hstart =>
      obtain ⟨hshared, hphase⟩ := hstart
      obtain ⟨hinv, hassert, hapart⟩ := hinit _ hshared
      refine ⟨hinv, ?_, ?_⟩
      · intro call
        rw [hphase call]
        exact hassert
      · intro one other _
        rw [hphase one, hphase other]
        exact hapart
  | @step source target label _ hmeets hstep ih =>
      obtain ⟨hinv, hassert, hapart⟩ := ih
      obtain ⟨outcome, hmoves, rfl⟩ := hstep
      obtain ⟨⟨hafter, hown⟩, hothers, hrest⟩ :=
        hmove source label.1 label.2 outcome hinv hassert hapart hmeets hmoves
      refine ⟨hafter, ?_, ?_⟩
      · intro call
        by_cases hcall : call = label.1
        · subst hcall
          simpa [after] using hown
        · simpa [after, Function.update_of_ne hcall] using (hothers call hcall).1
      · intro one other hne
        by_cases hone : one = label.1
        · subst hone
          have hother : other ≠ label.1 := fun h => hne h.symm
          simpa [after, Function.update_of_ne hother] using (hothers other hother).2
        · by_cases hother : other = label.1
          · subst hother
            refine hsymm _ _ _ ?_
            simpa [after, Function.update_of_ne hone] using (hothers one hone).2
          · simpa [after, Function.update_of_ne hone, Function.update_of_ne hother] using
              hrest one other hone hother hne

variable {inv : Shared → Prop}

/-- The rule for assertions about what a call remembers alone: no other call can
disturb them. -/
theorem invariant_and_remembered {remembered : Phase → Prop}
    (hinit : ∀ shared, init shared → inv shared) (hstart : remembered start)
    (hmove : ∀ label shared phase outcome, inv shared → remembered phase →
      condition shared phase label → moves label (shared, phase) outcome →
        inv outcome.1 ∧ remembered outcome.2) {state : Interleaved Shared Phase}
    (hreach : (system init start moves).ReachableBy (Meets condition) state) :
    inv state.shared ∧ ∀ call, remembered (state.phase call) :=
  @interference_free Shared Phase Label init start moves condition inv
    (fun _ phase => remembered phase) (fun shared hshared => ⟨hinit shared hshared, hstart⟩) hmove
    (fun _ _ _ _ _ _ _ hother _ _ => hother) state hreach

/-- The rule for an invariant that needs no assertions. -/
theorem invariant (hinit : ∀ shared, init shared → inv shared)
    (hmove : ∀ label shared phase outcome, inv shared → condition shared phase label →
      moves label (shared, phase) outcome → inv outcome.1) {state : Interleaved Shared Phase}
    (hreach : (system init start moves).ReachableBy (Meets condition) state) :
    inv state.shared := by
  refine (@interference_free Shared Phase Label init start moves condition inv
    (fun _ _ => True) (fun shared hshared => ⟨hinit shared hshared, trivial⟩) ?_
    (fun _ _ _ _ _ _ _ _ _ _ => trivial) state hreach).1
  intro label shared phase outcome hinv _ hmeets hmoves
  exact ⟨hmove label shared phase outcome hinv hmeets hmoves, trivial⟩

/-! ## Runs of executable moves -/

/-- The moves of a function that may be undefined. -/
def movesOf (move : Label → Shared × Phase → Option (Shared × Phase)) :
    Moves Shared Phase Label :=
  fun label source target => move label source = some target

/-- Execute a list of moves. -/
def run (move : Label → Shared × Phase → Option (Shared × Phase)) :
    Interleaved Shared Phase → List (Nat × Label) → Option (Interleaved Shared Phase)
  | state, [] => some state
  | state, (call, label) :: rest =>
      (move label (state.shared, state.phase call)).bind fun outcome =>
        run move (state.after call outcome) rest

variable {move : Label → Shared × Phase → Option (Shared × Phase)}
  {source target : Interleaved Shared Phase} {labels : List (Nat × Label)}

theorem phase_run {call : Nat} (hrun : run move source labels = some target)
    (hnot : ∀ label ∈ labels, label.1 ≠ call) :
    target.phase call = source.phase call := by
  induction labels generalizing source with
  | nil => rw [Option.some.inj hrun]
  | cons step rest ih =>
      obtain ⟨mover, label⟩ := step
      obtain ⟨outcome, -, hrest⟩ := Option.bind_eq_some_iff.mp hrun
      have hne : call ≠ mover := fun h => hnot _ List.mem_cons_self h.symm
      rw [ih hrest fun other hother => hnot other (List.mem_cons_of_mem _ hother)]
      exact Function.update_of_ne hne _ _

/-- One step of a run, where the move is possible. -/
def stepOf (move : Label → Shared × Phase → Option (Shared × Phase))
    (state : Interleaved Shared Phase) (label : Nat × Label) :
    Option (Interleaved Shared Phase) :=
  (move label.2 (state.shared, state.phase label.1)).map (state.after label.1)

variable {test : Interleaved Shared Phase → Nat × Label → Bool}

/-- A list of moves, each of which is possible and passes a test. -/
theorem reachableBy_runBy (labels : List (Nat × Label))
    (hreach : (system init start (movesOf move)).ReachableBy
      (fun state label => test state label = true) source)
    (hrun : TransitionSystem.runBy test (stepOf move) source labels = some target) :
    (system init start (movesOf move)).ReachableBy
      (fun state label => test state label = true) target := by
  induction labels generalizing source with
  | nil => exact Option.some.inj hrun ▸ hreach
  | cons label rest ih =>
      rw [TransitionSystem.runBy] at hrun
      split at hrun
      · next hmeets =>
        obtain ⟨next, hnext, hrest⟩ := Option.bind_eq_some_iff.mp hrun
        obtain ⟨outcome, hmove, rfl⟩ := Option.map_eq_some_iff.mp hnext
        have hstep : (system init start (movesOf move)).step source label
            (source.after label.1 outcome) := ⟨outcome, hmove, rfl⟩
        exact ih (hreach.step hmeets hstep) hrest
      · cases hrun

variable {among : Interleaved Shared Phase → Nat × Label → Prop}

/-- A run in which only the first calls move, for a condition that looks at all calls:
the test may rely on the others not having started. -/
theorem reachableBy_first (bound : Nat)
    (htest : ∀ state label, (∀ call, bound ≤ call → state.phase call = start) →
      test state label = true → label.1 < bound ∧ among state label) (labels : List (Nat × Label))
    (hreach : (system init start (movesOf move)).ReachableBy among source)
    (hrest : ∀ call, bound ≤ call → source.phase call = start)
    (hrun : TransitionSystem.runBy test (stepOf move) source labels = some target) :
    (system init start (movesOf move)).ReachableBy among target := by
  induction labels generalizing source with
  | nil => exact Option.some.inj hrun ▸ hreach
  | cons label labels ih =>
      rw [TransitionSystem.runBy] at hrun
      split at hrun
      · next hmeets =>
        obtain ⟨next, hnext, hrun⟩ := Option.bind_eq_some_iff.mp hrun
        obtain ⟨outcome, hmove, rfl⟩ := Option.map_eq_some_iff.mp hnext
        obtain ⟨hbound, hamong⟩ := htest source label hrest hmeets
        have hstep : (system init start (movesOf move)).step source label
            (source.after label.1 outcome) := ⟨outcome, hmove, rfl⟩
        refine ih (hreach.step hamong hstep) ?_ hrun
        intro call hcall
        have hne : call ≠ label.1 := fun h => Nat.lt_irrefl _ (Nat.lt_of_le_of_lt (h ▸ hcall) hbound)
        exact (Function.update_of_ne hne _ _).trans (hrest call hcall)
      · cases hrun

theorem reachableBy_move {label : Label} {outcome : Shared × Phase}
    (hreach : (system init start (movesOf move)).ReachableBy (Meets condition) source)
    (call : Nat) (hmeets : Meets condition source (call, label))
    (hmove : move label (source.shared, source.phase call) = some outcome) :
    (system init start (movesOf move)).ReachableBy (Meets condition)
      (source.after call outcome) := by
  have hstep : (system init start (movesOf move)).step source (call, label)
      (source.after call outcome) := ⟨outcome, hmove, rfl⟩
  exact hreach.step hmeets hstep

/-- A list of moves that meets a condition step by step. -/
theorem reachableBy_run_among
    (hreach : (system init start (movesOf move)).ReachableBy among source)
    (hmeets : ∀ state, ∀ label ∈ labels, among state label)
    (hrun : run move source labels = some target) :
    (system init start (movesOf move)).ReachableBy among target := by
  induction labels generalizing source with
  | nil =>
      obtain rfl := Option.some.inj hrun
      exact hreach
  | cons step rest ih =>
      obtain ⟨call, label⟩ := step
      obtain ⟨outcome, hmove, hrest⟩ := Option.bind_eq_some_iff.mp hrun
      have hstep : (system init start (movesOf move)).step source (call, label)
          (source.after call outcome) := ⟨outcome, hmove, rfl⟩
      have hfirst := hreach.step (hmeets source (call, label) List.mem_cons_self) hstep
      exact ih hfirst (fun state other hother => hmeets state other (List.mem_cons_of_mem _ hother))
        hrest

theorem reachable_run (hreach : (system init start (movesOf move)).Reachable source)
    (hrun : run move source labels = some target) :
    (system init start (movesOf move)).Reachable target :=
  reachableBy_run_among hreach (fun _ _ _ => trivial) hrun

end Interleaved

end OpenPath.Foundation
