/-
# Calls served one after the other

A serial order of calls: each entry has the number of its call, the call and the
answer that it gets when it is served after those before it. A call that leaves the
state as it is may be put at any place at which it gets its answer, and every other
entry is served as before.
-/

import Mathlib.Data.List.Nodup

namespace OpenPath.Foundation

/-- A call with its number and its answer. -/
structure Entry (Call Answer : Type*) where
  number : Nat
  call : Call
  answer : Answer
  deriving DecidableEq

namespace SerialOrder

variable {Call Answer State : Type*} (serve : Call → State → Answer × State)

/-- Serving the entries in their order gives their answers, and leads to `finish`. -/
@[grind =]
def Serves : State → List (Entry Call Answer) → State → Prop
  | start, [], finish => start = finish
  | start, entry :: rest, finish =>
      (serve entry.call start).1 = entry.answer ∧
        Serves (serve entry.call start).2 rest finish

/-- The state before the entry of a number, or after all entries where there is none. -/
@[grind =]
def before : State → List (Entry Call Answer) → Nat → State
  | state, [], _ => state
  | state, entry :: rest, number =>
      if entry.number = number then state else before (serve entry.call state).2 rest number

/-- Put an entry before that of a number, or after all others where there is none. -/
@[grind =]
def insertBefore (new : Entry Call Answer) (number : Nat) :
    List (Entry Call Answer) → List (Entry Call Answer)
  | [] => [new]
  | entry :: rest =>
      if entry.number = number then new :: entry :: rest
      else entry :: insertBefore new number rest

theorem insertBefore_perm (new : Entry Call Answer) (number : Nat)
    (order : List (Entry Call Answer)) : (insertBefore new number order).Perm (new :: order) := by
  induction order with
  | nil => exact .refl _
  | cons entry rest ih =>
      rw [insertBefore]
      split
      · exact .refl _
      · exact (ih.cons entry).trans (.swap _ _ _)

variable {serve} {start finish : State} {order : List (Entry Call Answer)}
  {new : Entry Call Answer}

theorem Serves.concat (hserves : Serves serve start order finish)
    (hanswer : (serve new.call finish).1 = new.answer) :
    Serves serve start (order ++ [new]) (serve new.call finish).2 := by
  induction order generalizing start with
  | nil =>
      obtain rfl := hserves
      exact ⟨hanswer, rfl⟩
  | cons entry rest ih => exact ⟨hserves.1, ih hserves.2⟩

theorem serves_append {later : List (Entry Call Answer)} :
    Serves serve start (order ++ later) finish ↔
      ∃ middle, Serves serve start order middle ∧ Serves serve middle later finish := by
  induction order generalizing start with
  | nil => exact ⟨fun h => ⟨start, rfl, h⟩, fun ⟨_, hstart, h⟩ => hstart ▸ h⟩
  | cons entry rest ih =>
      rw [List.cons_append, Serves, ih]
      constructor
      · rintro ⟨hanswer, middle, hrest, hlater⟩
        exact ⟨middle, ⟨hanswer, hrest⟩, hlater⟩
      · rintro ⟨middle, ⟨hanswer, hrest⟩, hlater⟩
        exact ⟨hanswer, middle, hrest, hlater⟩

/-- Without an entry of the number, it is the state after all entries. -/
theorem before_of_notMem {number : Nat} (hserves : Serves serve start order finish)
    (hnot : number ∉ order.map (·.number)) : before serve start order number = finish := by
  induction order generalizing start with
  | nil => exact hserves
  | cons entry rest ih =>
      rw [List.map_cons, List.mem_cons, not_or] at hnot
      rw [before, if_neg fun h => hnot.1 h.symm]
      exact ih hserves.2 hnot.2

theorem before_append {number : Nat} (later : List (Entry Call Answer))
    (hmem : number ∈ order.map (·.number)) :
    before serve start (order ++ later) number = before serve start order number := by
  induction order generalizing start with
  | nil => cases hmem
  | cons entry rest ih =>
      rw [List.cons_append, before, before]
      split
      · rfl
      · rename_i hne
        rw [List.map_cons, List.mem_cons] at hmem
        exact ih (hmem.resolve_left fun h => hne h.symm)

/-- The state before an entry that comes after all others. -/
theorem before_concat (hserves : Serves serve start order finish)
    (hnot : new.number ∉ order.map (·.number)) :
    before serve start (order ++ [new]) new.number = finish := by
  induction order generalizing start with
  | nil =>
      rw [List.nil_append, before, if_pos rfl]
      exact hserves
  | cons entry rest ih =>
      rw [List.map_cons, List.mem_cons, not_or] at hnot
      rw [List.cons_append, before, if_neg fun h => hnot.1 h.symm]
      exact ih hserves.2 hnot.2

variable {inv : State → Prop}

/-- What holds at the start, and stays over every call, holds before every entry. -/
theorem before_invariant (hstart : inv start)
    (hserve : ∀ call state, inv state → inv (serve call state).2) (number : Nat) :
    inv (before serve start order number) := by
  induction order generalizing start with
  | nil => exact hstart
  | cons entry rest ih =>
      rw [before]
      split
      · exact hstart
      · exact ih (hserve entry.call start hstart)

theorem Serves.invariant (hserves : Serves serve start order finish) (hstart : inv start)
    (hserve : ∀ call state, inv state → inv (serve call state).2) :
    inv finish := by
  induction order generalizing start with
  | nil => exact hserves ▸ hstart
  | cons entry rest ih => exact ih hserves.2 (hserve entry.call start hstart)

/-- A call that changes nothing, at a place at which it gets its answer. -/
theorem Serves.insertBefore {number : Nat} (hserves : Serves serve start order finish)
    (hquiet : serve new.call (before serve start order number) =
      (new.answer, before serve start order number)) :
    Serves serve start (insertBefore new number order) finish := by
  induction order generalizing start with
  | nil =>
      obtain rfl := hserves
      rw [before] at hquiet
      rw [SerialOrder.insertBefore, Serves, hquiet]
      exact ⟨rfl, rfl⟩
  | cons entry rest ih =>
      rw [before] at hquiet
      rw [SerialOrder.insertBefore]
      split at hquiet
      · rw [if_pos ‹_›, Serves, hquiet]
        exact ⟨rfl, hserves⟩
      · rw [if_neg ‹_›]
        exact ⟨hserves.1, ih hserves.2 hquiet⟩

/-- The other entries are served in the same states then. -/
theorem before_insertBefore {number other : Nat}
    (hquiet : serve new.call (before serve start order number) =
      (new.answer, before serve start order number))
    (hother : other ≠ new.number) :
    before serve start (insertBefore new number order) other =
      before serve start order other := by
  have hne : new.number ≠ other := fun h => hother h.symm
  induction order generalizing start with
  | nil =>
      rw [before] at hquiet
      simp only [insertBefore, before, hne, if_false, hquiet]
  | cons entry rest ih =>
      rw [before] at hquiet
      rw [insertBefore]
      split at hquiet
      · rw [if_pos ‹_›, before, if_neg hne, hquiet]
      · rw [if_neg ‹_›, before, before]
        split
        · rfl
        · exact ih hquiet

end SerialOrder

end OpenPath.Foundation
