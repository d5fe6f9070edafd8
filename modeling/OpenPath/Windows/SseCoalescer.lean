/-
# Coalescing the updates of the SSE listener on Windows

The listener reads one event after the other and calls `Invoke-SseCoalescerUpdate` for each.
A call updates at once, or, less than a cooldown after such an update, sleeps for the rest of
the cooldown and updates then; the events that arrive meanwhile wait in the stream. The mark
of a deferred update is a point of time by the clock and is not taken away when the update
has been made: while the clock shows a time before it, further events are dropped. A clock
that goes on leaves the mark behind with the sleep; one that is set back does not.

Times are counted in ticks of 100 ns from `[datetime]::MinValue`.
-/

import OpenPath.Foundation.StepwiseRuns
import Mathlib.Algebra.Order.Group.Int

namespace OpenPath.Windows.Sse

open Foundation (Throughout EachStep)

/-! ## The coalescer -/

def second : Nat := 10000000

/-- `Get-SseCoalescerDefaultCooldown` -/
def defaultCooldown : Nat := 10

structure CoalescerState where
  lastUpdateTime : Nat
  pendingUpdateDueAt : Nat
  deriving DecidableEq

/-- `New-SseCoalescerState` -/
def newState : CoalescerState := ⟨0, 0⟩

/-- What a call does: `UpdateAction`, `DeferAction` or nothing. -/
inductive Decision
  | update
  | queued
  | defer (delaySeconds : Nat)
  deriving DecidableEq

/-- `$CooldownSeconds`, in ticks. -/
def cooldownOf (cooldownSeconds : Int) : Nat :=
  (if cooldownSeconds < 0 then defaultCooldown else cooldownSeconds.toNat) * second

/-- `$elapsed`, in ticks. -/
def elapsed (cooldown now last : Nat) : Nat := if now < last then cooldown else now - last

/-- `$remaining`: at least a second, and rounded up to seconds. -/
def remaining (cooldown elapsed : Nat) : Nat := max 1 ((cooldown - elapsed + (second - 1)) / second)

/-- `Invoke-SseCoalescerUpdate` -/
def invokeUpdate (cooldown : Nat) (state : CoalescerState) (now : Nat) :
    CoalescerState × Decision :=
  let elapsed := elapsed cooldown now state.lastUpdateTime
  if cooldown ≤ elapsed then (⟨now, 0⟩, .update)
  else if now < state.pendingUpdateDueAt then (state, .queued)
  else
    ({ state with pendingUpdateDueAt := now + remaining cooldown elapsed * second },
      .defer (remaining cooldown elapsed))

/-! ## The listener -/

/-- What the one process of the listener is at. A sleep is counted in running time. -/
inductive Phase
  | idle
  | sleeping (left : Nat)
  | updating
  deriving DecidableEq

/-- The events are numbered in the order in which they arrive, which is the order in which
they are handled; `answered` counts those that had arrived when the last update started. -/
structure Listener where
  clock : Nat
  coalescer : CoalescerState
  phase : Phase
  arrived : Nat
  handled : Nat
  answered : Nat
  deriving DecidableEq

def Listener.start (clock : Nat) : Listener where
  clock := clock
  coalescer := newState
  phase := .idle
  arrived := 0
  handled := 0
  answered := 0

inductive Action
  /-- An event arrives in the stream. -/
  | arrive
  /-- `Invoke-DebouncedUpdate` is called for the next event. -/
  | handle
  /-- Running time passes, and the clock shows some time afterwards. -/
  | pass (ticks clock : Nat)
  /-- The sleep is over: `Start-OpenPathSseUpdateProcess` goes on. -/
  | wake
  /-- The update cycle returns or throws. -/
  | complete
  deriving DecidableEq

def Listener.decide (listener : Listener) : Decision → Listener
  | .update => { listener with phase := .updating, answered := listener.arrived }
  | .queued => listener
  | .defer delaySeconds => { listener with phase := .sleeping (delaySeconds * second) }

def step (cooldown : Nat) (listener : Listener) : Action → Option Listener
  | .arrive => some { listener with arrived := listener.arrived + 1 }
  | .handle =>
      if listener.phase = .idle ∧ listener.handled < listener.arrived then
        let called := invokeUpdate cooldown listener.coalescer listener.clock
        some (Listener.decide
          { listener with handled := listener.handled + 1, coalescer := called.1 } called.2)
      else none
  | .pass ticks clock =>
      match listener.phase with
      | .sleeping left =>
          if ticks ≤ left then some { listener with clock, phase := .sleeping (left - ticks) }
          else none
      | _ => some { listener with clock }
  | .wake =>
      if listener.phase = .sleeping 0 then
        some { listener with phase := .updating, answered := listener.arrived }
      else none
  | .complete =>
      if listener.phase = .updating then some { listener with phase := .idle } else none

/-! ## What is asked of a state -/

/-- A deferred update is on its way, and starts before the cooldown has passed. -/
def Deferred (cooldown : Nat) (listener : Listener) : Prop :=
  ∃ left, listener.phase = .sleeping left ∧ left ≤ cooldown

/-- Every event whose call is over was followed by the start of an update, or will be as
soon as the listener has slept. -/
def NoneLost (cooldown : Nat) (listener : Listener) : Prop :=
  ∀ event < listener.handled, event < listener.answered ∨ Deferred cooldown listener

/-- A mark that the clock has not reached is the one of an update that is on its way. -/
def MarkServed (cooldown : Nat) (listener : Listener) : Prop :=
  listener.clock < listener.coalescer.pendingUpdateDueAt → Deferred cooldown listener

/-- An event that no update has followed is not handled while the clock shows a time before
the mark, and less than a cooldown after the last update at once. -/
def NotDropped (cooldown : Nat) (listener : Listener) : Action → Prop
  | .handle =>
      listener.handled < listener.answered ∨
        listener.coalescer.pendingUpdateDueAt ≤ listener.clock ∨
        listener.clock < listener.coalescer.lastUpdateTime ∨
        listener.coalescer.lastUpdateTime + cooldown ≤ listener.clock
  | _ => True

/-- The clock has reached the mark when the listener wakes up, and is not set to a time
before the mark while it does not sleep. -/
def NotSetBack (listener : Listener) : Action → Prop
  | .pass _ clock =>
      (∃ left, listener.phase = .sleeping left) ∨ listener.coalescer.pendingUpdateDueAt ≤ clock
  | .wake => listener.coalescer.pendingUpdateDueAt ≤ listener.clock
  | _ => True

/-! ## Steps -/

variable {cooldown : Nat}

/-- A call that defers an update does so for no longer than the cooldown. -/
theorem remaining_le {cooldownSeconds : Int} {passed : Nat}
    (hpassed : passed < cooldownOf cooldownSeconds) :
    remaining (cooldownOf cooldownSeconds) passed * second ≤ cooldownOf cooldownSeconds := by
  obtain ⟨seconds, hseconds⟩ : ∃ seconds, cooldownOf cooldownSeconds = seconds * second :=
    ⟨_, rfl⟩
  rw [hseconds] at hpassed ⊢
  have hone : 1 ≤ seconds := by
    rw [second] at hpassed
    omega
  refine Nat.mul_le_mul_right second (max_le hone ?_)
  rw [second] at hpassed ⊢
  omega

/-- What the steps keep in any case. -/
structure Counted (cooldown : Nat) (listener : Listener) : Prop where
  handled : listener.handled ≤ listener.arrived
  sleep : ∀ left, listener.phase = .sleeping left → left ≤ cooldown

theorem counted_start (clock : Nat) : Counted cooldown (Listener.start clock) :=
  ⟨le_rfl, fun _ hphase => by cases hphase⟩

variable {listener next : Listener}

theorem handle_cases (hstep : step cooldown listener .handle = some next) :
    listener.phase = .idle ∧ listener.handled < listener.arrived ∧
      ((cooldown ≤ elapsed cooldown listener.clock listener.coalescer.lastUpdateTime ∧
          next = { listener with
            handled := listener.handled + 1
            coalescer := ⟨listener.clock, 0⟩
            phase := .updating
            answered := listener.arrived }) ∨
        (elapsed cooldown listener.clock listener.coalescer.lastUpdateTime < cooldown ∧
          listener.clock < listener.coalescer.pendingUpdateDueAt ∧
          next = { listener with handled := listener.handled + 1 }) ∨
        ∃ delay,
          delay = remaining cooldown
            (elapsed cooldown listener.clock listener.coalescer.lastUpdateTime) ∧
          elapsed cooldown listener.clock listener.coalescer.lastUpdateTime < cooldown ∧
          listener.coalescer.pendingUpdateDueAt ≤ listener.clock ∧
          next = { listener with
            handled := listener.handled + 1
            coalescer := ⟨listener.coalescer.lastUpdateTime, listener.clock + delay * second⟩
            phase := .sleeping (delay * second) }) := by
  simp only [step] at hstep
  split at hstep
  · rename_i hready
    refine ⟨hready.1, hready.2, ?_⟩
    unfold invokeUpdate at hstep
    dsimp only at hstep
    split at hstep
    · rename_i hpassed
      exact .inl ⟨hpassed, (Option.some.inj hstep).symm⟩
    · rename_i hwithin
      split at hstep
      · rename_i hmark
        exact .inr (.inl ⟨not_le.mp hwithin, hmark, (Option.some.inj hstep).symm⟩)
      · rename_i hmark
        exact .inr (.inr ⟨_, rfl, not_le.mp hwithin, not_lt.mp hmark, (Option.some.inj hstep).symm⟩)
  · cases hstep

theorem pass_cases {ticks clock : Nat}
    (hstep : step cooldown listener (.pass ticks clock) = some next) :
    (∃ left, listener.phase = .sleeping left ∧
        next = { listener with clock, phase := .sleeping (left - ticks) }) ∨
      (∀ left, listener.phase ≠ .sleeping left) ∧ next = { listener with clock } := by
  simp only [step] at hstep
  cases hphase : listener.phase with
  | sleeping left =>
      simp only [hphase] at hstep
      split at hstep
      · exact .inl ⟨left, rfl, (Option.some.inj hstep).symm⟩
      · cases hstep
  | idle =>
      simp only [hphase] at hstep
      exact .inr ⟨fun _ h => (by cases h), (Option.some.inj hstep).symm⟩
  | updating =>
      simp only [hphase] at hstep
      exact .inr ⟨fun _ h => (by cases h), (Option.some.inj hstep).symm⟩

section Steps

variable {cooldownSeconds : Int} {listener next : Listener} {action : Action}

theorem Counted.step (hcounted : Counted (cooldownOf cooldownSeconds) listener)
    (hstep : step (cooldownOf cooldownSeconds) listener action = some next) :
    Counted (cooldownOf cooldownSeconds) next := by
  obtain ⟨hhandled, hsleep⟩ := hcounted
  cases action with
  | arrive =>
      rw [← Option.some.inj hstep]
      exact ⟨hhandled.trans (Nat.le_succ _), hsleep⟩
  | handle =>
      obtain ⟨hidle, hready, ⟨-, rfl⟩ | ⟨-, -, rfl⟩ | ⟨delay, rfl, hwithin, -, rfl⟩⟩ :=
        handle_cases hstep
      · exact ⟨hready, fun _ h => by cases h⟩
      · exact ⟨hready, hsleep⟩
      · refine ⟨hready, fun left hleft => ?_⟩
        cases hleft
        exact remaining_le hwithin
  | pass ticks clock =>
      obtain ⟨left, hphase, rfl⟩ | ⟨-, rfl⟩ := pass_cases hstep
      · refine ⟨hhandled, fun other hother => ?_⟩
        cases hother
        exact (Nat.sub_le _ _).trans (hsleep left hphase)
      · exact ⟨hhandled, hsleep⟩
  | wake =>
      simp only [Sse.step] at hstep
      split at hstep
      · rw [← Option.some.inj hstep]
        exact ⟨hhandled, fun _ h => by cases h⟩
      · cases hstep
  | complete =>
      simp only [Sse.step] at hstep
      split at hstep
      · rw [← Option.some.inj hstep]
        exact ⟨hhandled, fun _ h => by cases h⟩
      · cases hstep

theorem deferred_iff (hcounted : Counted cooldown listener) :
    Deferred cooldown listener ↔ ∃ left, listener.phase = .sleeping left :=
  ⟨fun ⟨left, hphase, _⟩ => ⟨left, hphase⟩,
    fun ⟨left, hphase⟩ => ⟨left, hphase, hcounted.sleep left hphase⟩⟩

theorem not_deferred (hphase : ∀ left, listener.phase ≠ .sleeping left) :
    ¬ Deferred cooldown listener :=
  fun ⟨left, hsleeping, _⟩ => hphase left hsleeping

/-- A step loses no event if and only if it drops none. -/
theorem noneLost_step (hcounted : Counted (cooldownOf cooldownSeconds) listener)
    (hnone : NoneLost (cooldownOf cooldownSeconds) listener)
    (hstep : step (cooldownOf cooldownSeconds) listener action = some next) :
    NoneLost (cooldownOf cooldownSeconds) next ↔
      NotDropped (cooldownOf cooldownSeconds) listener action := by
  have hnext := hcounted.step hstep
  cases action with
  | arrive =>
      rw [← Option.some.inj hstep]
      exact ⟨fun _ => trivial, fun _ => hnone⟩
  | handle =>
      obtain ⟨hidle, hready, hcall⟩ := handle_cases hstep
      have hawake : ¬ Deferred (cooldownOf cooldownSeconds) listener :=
        not_deferred fun left hleft => by rw [hidle] at hleft; cases hleft
      have hanswered : ∀ event < listener.handled, event < listener.answered := fun event hevent =>
        (hnone event hevent).resolve_right hawake
      obtain ⟨hpassed, rfl⟩ | ⟨hwithin, hmark, rfl⟩ | ⟨delay, rfl, hwithin, hmark, rfl⟩ := hcall
      · refine iff_of_true (fun event hevent => .inl ?_) ?_
        · exact lt_of_lt_of_le hevent hready
        · rw [elapsed] at hpassed
          split at hpassed
          · rename_i hback
            exact .inr (.inr (.inl hback))
          · right; right; right
            omega
      · constructor
        · intro hkept
          exact .inl ((hkept listener.handled (Nat.lt_succ_self _)).resolve_right
            (not_deferred fun left hleft => by rw [hidle] at hleft; cases hleft))
        · intro hdropped event hevent
          have hlast : listener.handled < listener.answered := by
            rw [elapsed] at hwithin
            split at hwithin
            · exact absurd hwithin (lt_irrefl _)
            · obtain h | h | h | h := hdropped
              · exact h
              all_goals omega
          exact .inl (lt_of_lt_of_le hevent hlast)
      · refine iff_of_true (fun event _ => .inr ?_) ?_
        · exact (deferred_iff hnext).mpr ⟨_, rfl⟩
        · exact .inr (.inl hmark)
  | pass ticks clock =>
      refine iff_of_true (fun event hevent => ?_) trivial
      obtain ⟨left, hphase, rfl⟩ | ⟨hawake, rfl⟩ := pass_cases hstep
      · exact .inr ((deferred_iff hnext).mpr ⟨_, rfl⟩)
      · exact .inl ((hnone event hevent).resolve_right (not_deferred hawake))
  | wake =>
      simp only [Sse.step] at hstep
      split at hstep
      · rw [← Option.some.inj hstep]
        exact iff_of_true (fun event hevent => .inl (lt_of_lt_of_le hevent hcounted.handled)) trivial
      · cases hstep
  | complete =>
      simp only [Sse.step] at hstep
      split at hstep
      · rename_i hupdating
        rw [← Option.some.inj hstep]
        refine iff_of_true (fun event hevent => .inl ((hnone event hevent).resolve_right ?_)) trivial
        exact not_deferred fun left hleft => by rw [hupdating] at hleft; cases hleft
      · cases hstep

/-- A step leaves no mark behind if and only if the clock is not set back. -/
theorem markServed_step (hcounted : Counted (cooldownOf cooldownSeconds) listener)
    (hserved : MarkServed (cooldownOf cooldownSeconds) listener)
    (hstep : step (cooldownOf cooldownSeconds) listener action = some next) :
    MarkServed (cooldownOf cooldownSeconds) next ↔ NotSetBack listener action := by
  have hnext := hcounted.step hstep
  cases action with
  | arrive =>
      rw [← Option.some.inj hstep]
      exact iff_of_true hserved trivial
  | handle =>
      refine iff_of_true ?_ trivial
      obtain ⟨hidle, -, ⟨-, rfl⟩ | ⟨-, hmark, rfl⟩ | ⟨delay, rfl, -, -, rfl⟩⟩ := handle_cases hstep
      · exact fun hahead => absurd hahead (Nat.not_lt_zero _)
      · exact absurd (hserved hmark)
          (not_deferred fun left hleft => by rw [hidle] at hleft; cases hleft)
      · exact fun _ => (deferred_iff hnext).mpr ⟨_, rfl⟩
  | pass ticks clock =>
      obtain ⟨left, hphase, rfl⟩ | ⟨hawake, rfl⟩ := pass_cases hstep
      · exact iff_of_true (fun _ => (deferred_iff hnext).mpr ⟨_, rfl⟩) (.inl ⟨left, hphase⟩)
      · constructor
        · intro hkept
          right
          by_contra hahead
          exact not_deferred hawake (hkept (not_le.mp hahead))
        · rintro (⟨left, hphase⟩ | hreached) hahead
          · exact absurd hphase (hawake left)
          · exact absurd hahead (not_lt.mpr hreached)
  | wake =>
      simp only [Sse.step] at hstep
      split at hstep
      · rw [← Option.some.inj hstep]
        constructor
        · intro hkept
          by_contra hahead
          exact not_deferred (fun _ h => by cases h) (hkept (not_le.mp hahead))
        · exact fun hreached hahead => absurd hahead (not_lt.mpr hreached)
      · cases hstep
  | complete =>
      simp only [Sse.step] at hstep
      split at hstep
      · rename_i hupdating
        rw [← Option.some.inj hstep]
        refine iff_of_true (fun hahead => absurd (hserved hahead) ?_) trivial
        exact not_deferred fun left hleft => by rw [hupdating] at hleft; cases hleft
      · cases hstep

/-- Where a mark that is ahead belongs to a sleeping listener, no event is dropped. -/
theorem notDropped_of_markServed (hserved : MarkServed (cooldownOf cooldownSeconds) listener)
    (hstep : step (cooldownOf cooldownSeconds) listener action = some next) :
    NotDropped (cooldownOf cooldownSeconds) listener action := by
  cases action with
  | handle =>
      obtain ⟨hidle, -⟩ := handle_cases hstep
      refine .inr (.inl (not_lt.mp fun hahead => ?_))
      exact not_deferred (fun left hleft => by rw [hidle] at hleft; cases hleft) (hserved hahead)
  | _ => trivial

end Steps

/-! ## Runs -/

theorem throughout_noneLost_iff (cooldownSeconds : Int) (clock : Nat) (actions : List Action) :
    Throughout (step (cooldownOf cooldownSeconds)) (NoneLost (cooldownOf cooldownSeconds))
        (.start clock) actions ↔
      EachStep (step (cooldownOf cooldownSeconds)) (NotDropped (cooldownOf cooldownSeconds))
        (.start clock) actions := by
  have hnone : NoneLost (cooldownOf cooldownSeconds) (.start clock) := fun _ hevent =>
    absurd hevent (Nat.not_lt_zero _)
  exact Foundation.throughout_iff_eachStep
    (fun _ _ _ hcounted hstep => Counted.step hcounted hstep)
    (fun _ _ _ hcounted hkept hstep => noneLost_step hcounted hkept hstep)
    (counted_start clock) hnone actions

theorem throughout_markServed_iff (cooldownSeconds : Int) (clock : Nat) (actions : List Action) :
    Throughout (step (cooldownOf cooldownSeconds)) (MarkServed (cooldownOf cooldownSeconds))
        (.start clock) actions ↔
      EachStep (step (cooldownOf cooldownSeconds)) NotSetBack (.start clock) actions := by
  have hserved : MarkServed (cooldownOf cooldownSeconds) (.start clock) := fun hahead =>
    absurd hahead (Nat.not_lt_zero _)
  exact Foundation.throughout_iff_eachStep
    (fun _ _ _ hcounted hstep => Counted.step hcounted hstep)
    (fun _ _ _ hcounted hkept hstep => markServed_step hcounted hkept hstep)
    (counted_start clock) hserved actions

/-- For every cooldown, every clock to begin with and every sequence of steps: no event is
lost if and only if none is dropped, and no mark is left behind if and only if the clock is
not set back before one; where it is not set back, nothing is dropped either. -/
theorem noneLost_iff_notDropped (cooldownSeconds : Int) (clock : Nat) (actions : List Action) :
    (Throughout (step (cooldownOf cooldownSeconds)) (NoneLost (cooldownOf cooldownSeconds))
        (.start clock) actions ↔
      EachStep (step (cooldownOf cooldownSeconds)) (NotDropped (cooldownOf cooldownSeconds))
        (.start clock) actions) ∧
    (Throughout (step (cooldownOf cooldownSeconds)) (MarkServed (cooldownOf cooldownSeconds))
        (.start clock) actions ↔
      EachStep (step (cooldownOf cooldownSeconds)) NotSetBack (.start clock) actions) ∧
    (EachStep (step (cooldownOf cooldownSeconds)) NotSetBack (.start clock) actions →
      EachStep (step (cooldownOf cooldownSeconds)) (NotDropped (cooldownOf cooldownSeconds))
        (.start clock) actions) := by
  refine ⟨throughout_noneLost_iff cooldownSeconds clock actions,
    throughout_markServed_iff cooldownSeconds clock actions, fun hclock => ?_⟩
  have hmarks := (throughout_markServed_iff cooldownSeconds clock actions).mpr hclock
  exact hclock.mono hmarks fun _ _ _ hkept hstep _ => notDropped_of_markServed hkept hstep

/-- An event at noon updates at once, one two seconds later defers an update by eight
seconds. When this update has been made, the clock is set back by five seconds: the next
event finds the mark ahead of the clock. -/
def setBackActions : List Action :=
  [.arrive, .handle, .complete,
    .pass (2 * second) (43202 * second), .arrive, .handle,
    .pass (8 * second) (43210 * second), .wake, .complete,
    .pass 0 (43205 * second), .arrive, .handle]

/-- What is left: the last of the three events was dropped, and nothing is on its way. -/
def setBackListener : Listener where
  clock := 43205 * second
  coalescer := ⟨43200 * second, 43210 * second⟩
  phase := .idle
  arrived := 3
  handled := 3
  answered := 2

theorem noneLost_fails_setBack :
    ¬ Throughout (step (cooldownOf 10)) (NoneLost (cooldownOf 10)) (.start (43200 * second))
        setBackActions ∧
      ¬ Throughout (step (cooldownOf 10)) (MarkServed (cooldownOf 10)) (.start (43200 * second))
        setBackActions := by
  have hlast : setBackActions.foldlM (step (cooldownOf 10)) (.start (43200 * second)) =
      some setBackListener := by decide
  have hawake : ¬ Deferred (cooldownOf 10) setBackListener :=
    not_deferred fun _ h => by cases h
  constructor
  · intro hrun
    have hnone := hrun.last hlast
    exact absurd ((hnone 2 (by decide)).resolve_right hawake) (by decide)
  · intro hrun
    have hserved := hrun.last hlast
    exact hawake (hserved (by decide))

end OpenPath.Windows.Sse
