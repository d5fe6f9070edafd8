/-
# What a program ends with

When the fate of each call is known, a program has one execution. The rules below say
what holds where it stops, with a result, with an error or dead, part by part.
-/

import OpenPath.Foundation.Program

namespace OpenPath.Foundation.Program

variable {World Call Error Result Other Item Progress : Type}
  {interface : Interface World Call Progress} {fate : Call → Fate Progress} {request : Call}
  {inv : World → Prop}

/-! ## What a program leaves -/

/-- A result meets the first condition, an error the second, and the world in which the
program dies the third. -/
def Leaves (interface : Interface World Call Progress) (fate : Call → Fate Progress)
    (program : Program World Call Error Result) (world : World)
    (returns : Result → World → Prop) (throws : Error → World → Prop) (dies : World → Prop) :
    Prop :=
  match program.execute interface fate world with
  | (after, some (.ok result)) => returns result after
  | (after, some (.error error)) => throws error after
  | (after, none) => dies after

variable {program : Program World Call Error Result} {world after : World}
  {returns stronger : Result → World → Prop} {throws : Error → World → Prop} {dies : World → Prop}
  {result : Result}

theorem Leaves.done (h : returns result world) :
    Leaves interface fate (done result : Program World Call Error Result) world
      returns throws dies :=
  h

variable {error : Error}

theorem Leaves.throw (h : throws error world) :
    Leaves interface fate (throw error : Program World Call Error Result) world
      returns throws dies :=
  h

theorem Leaves.look {next : World → Program World Call Error Result}
    (h : Leaves interface fate (next world) world returns throws dies) :
    Leaves interface fate (look next) world returns throws dies :=
  h

variable {read : World → Result} {rest : Result → Program World Call Error Other}
  {finally_ : Other → World → Prop}

theorem Leaves.observe (h : Leaves interface fate (rest (read world)) world finally_ throws dies) :
    Leaves interface fate (Program.observe read >>= rest) world finally_ throws dies :=
  h

variable {weaker : Error → World → Prop} {deaths : World → Prop}

theorem Leaves.mono (h : Leaves interface fate program world stronger weaker deaths)
    (hreturns : ∀ result after, stronger result after → returns result after)
    (hthrows : ∀ error after, weaker error after → throws error after)
    (hdies : ∀ after, deaths after → dies after) :
    Leaves interface fate program world returns throws dies := by
  unfold Leaves at h ⊢
  split
  · next hexecute =>
    rw [hexecute] at h
    exact hreturns _ _ h
  · next hexecute =>
    rw [hexecute] at h
    exact hthrows _ _ h
  · next hexecute =>
    rw [hexecute] at h
    exact hdies _ h

/-- What holds of the world that is left, however the program stops. -/
theorem Leaves.of_forall (h : inv (program.execute interface fate world).1) :
    Leaves interface fate program world (fun _ => inv) (fun _ => inv) inv := by
  unfold Leaves
  split
  · next hexecute =>
    rw [hexecute] at h
    exact h
  · next hexecute =>
    rw [hexecute] at h
    exact h
  · next hexecute =>
    rw [hexecute] at h
    exact h

theorem Leaves.and {also : Result → World → Prop} {fails : Error → World → Prop}
    (h : Leaves interface fate program world returns throws dies)
    (hother : Leaves interface fate program world also fails deaths) :
    Leaves interface fate program world (fun result after => returns result after ∧ also result after)
      (fun error after => throws error after ∧ fails error after)
      fun after => dies after ∧ deaths after := by
  unfold Leaves at h hother ⊢
  split
  · next hexecute =>
    rw [hexecute] at h hother
    exact ⟨h, hother⟩
  · next hexecute =>
    rw [hexecute] at h hother
    exact ⟨h, hother⟩
  · next hexecute =>
    rw [hexecute] at h hother
    exact ⟨h, hother⟩

theorem Leaves.left (h : Leaves interface fate program world (fun _ => inv) (fun _ => inv) inv) :
    inv (program.execute interface fate world).1 := by
  unfold Leaves at h
  split at h
  · next hexecute =>
    rw [hexecute]
    exact h
  · next hexecute =>
    rw [hexecute]
    exact h
  · next hexecute =>
    rw [hexecute]
    exact h

/-- Where no call is fatal, the program ends. -/
theorem execute_ne_none (hlives : ∀ request parts, fate request ≠ .dies parts)
    (program : Program World Call Error Result) (world : World) :
    (program.execute interface fate world).2 ≠ none := by
  induction program generalizing world with
  | done result => exact Option.some_ne_none _
  | throw error => exact Option.some_ne_none _
  | look read ih => exact ih world world
  | call request success failure ihSuccess ihFailure =>
      rw [execute]
      cases hfate : fate request with
      | succeeds =>
          cases interface.perform request world with
          | none => exact ihFailure world
          | some after => exact ihSuccess after
      | fails parts => exact ihFailure _
      | dies parts => exact absurd hfate (hlives request parts)

/-- Where a program neither dies nor throws, it returns. -/
theorem Leaves.exists_ok (h : Leaves interface fate program world returns (fun _ _ => False) dies)
    (hlives : ∀ request parts, fate request ≠ .dies parts) :
    ∃ result after, program.execute interface fate world = (after, some (.ok result)) ∧
      returns result after := by
  have hended : (program.execute interface fate world).2 ≠ none :=
    execute_ne_none hlives program world
  unfold Leaves at h
  split at h
  · next after result hexecute => exact ⟨result, after, hexecute, h⟩
  · exact h.elim
  · next hexecute =>
    rw [hexecute] at hended
    exact absurd rfl hended

variable {next failed : Program World Call Error Result}

/-- A call is done, or it is refused, or it fails or the program dies in it after some
parts of it. -/
theorem Leaves.call
    (success : ∀ after, fate request = .succeeds → interface.perform request world = some after →
      Leaves interface fate next after returns throws dies)
    (refused : fate request = .succeeds → interface.perform request world = none →
      Leaves interface fate failed world returns throws dies)
    (failure : ∀ parts, fate request = .fails parts →
      Leaves interface fate failed (advanced interface request parts world) returns throws dies)
    (death : ∀ parts, fate request = .dies parts → dies (advanced interface request parts world)) :
    Leaves interface fate (call request next failed) world returns throws dies := by
  cases hfate : fate request with
  | succeeds =>
      cases hperform : interface.perform request world with
      | none =>
          simp only [Leaves, execute, hfate, hperform]
          exact refused hfate hperform
      | some after =>
          rw [Leaves, execute_succeeds hfate hperform]
          exact success after hfate hperform
  | fails parts =>
      rw [Leaves, execute_fails hfate]
      exact failure parts hfate
  | dies parts =>
      rw [Leaves, execute_dies hfate]
      exact death parts hfate

variable {reached : Unit → World → Prop}

theorem Leaves.perform
    (success : ∀ after, fate request = .succeeds → interface.perform request world = some after →
      reached () after)
    (refused : fate request = .succeeds → interface.perform request world = none →
      throws error world)
    (failure : ∀ parts, fate request = .fails parts →
      throws error (advanced interface request parts world))
    (death : ∀ parts, fate request = .dies parts → dies (advanced interface request parts world)) :
    Leaves interface fate (perform request error) world reached throws dies :=
  .call (fun after hfate hperform => .done (success after hfate hperform))
    (fun hfate hperform => .throw (refused hfate hperform))
    (fun parts hfate => .throw (failure parts hfate)) death

theorem Leaves.bind
    (h : Leaves interface fate program world
      (fun result after => Leaves interface fate (rest result) after finally_ throws dies)
      throws dies) :
    Leaves interface fate (program >>= rest) world finally_ throws dies := by
  induction program generalizing world with
  | done result => exact h
  | throw error => exact h
  | look read ih => exact ih world h
  | call request success failure ihSuccess ihFailure =>
      apply Leaves.call
      · intro after hfate hperform
        apply ihSuccess
        rw [Leaves, execute_succeeds hfate hperform] at h
        exact h
      · intro hfate hperform
        apply ihFailure
        simp only [Leaves, execute, hfate, hperform] at h
        exact h
      · intro parts hfate
        apply ihFailure
        rw [Leaves, execute_fails hfate] at h
        exact h
      · intro parts hfate
        rw [Leaves, execute_dies hfate] at h
        exact h

/-- The first part throws and dies as the whole may. -/
theorem Leaves.followedBy (h : Leaves interface fate program world returns throws dies)
    (hrest : ∀ result after, returns result after →
      Leaves interface fate (rest result) after finally_ throws dies) :
    Leaves interface fate (program >>= rest) world finally_ throws dies :=
  .bind (h.mono hrest (fun _ _ hthrown => hthrown) fun _ hdead => hdead)

theorem Leaves.thenRun (h : Leaves interface fate program world returns (fun _ _ => False) dies)
    (hrest : ∀ result after, returns result after →
      Leaves interface fate (rest result) after finally_ throws dies) :
    Leaves interface fate (program >>= rest) world finally_ throws dies :=
  .bind (h.mono hrest (fun _ _ himpossible => himpossible.elim) fun _ hdead => hdead)

theorem execute_attempt (program : Program World Call Error Result) (world : World) :
    program.attempt.execute interface fate world =
      ((program.execute interface fate world).1,
        (program.execute interface fate world).2.map .ok) := by
  induction program generalizing world with
  | done result => rfl
  | throw error => rfl
  | look read ih => exact ih world world
  | call request success failure ihSuccess ihFailure =>
      rw [attempt, execute, execute]
      cases fate request with
      | succeeds =>
          cases interface.perform request world with
          | none => exact ihFailure world
          | some after => exact ihSuccess after
      | fails parts => exact ihFailure _
      | dies parts => rfl

/-- The outcome of a program that is tried is its result or its error. -/
theorem Leaves.attempt {outcome : Except Error Result → World → Prop}
    (h : Leaves interface fate program world (fun result => outcome (.ok result))
      (fun error => outcome (.error error)) dies) :
    Leaves interface fate program.attempt world outcome throws dies := by
  rw [Leaves, execute_attempt]
  unfold Leaves at h
  split at h
  · next hexecute =>
    rw [hexecute]
    exact h
  · next hexecute =>
    rw [hexecute]
    exact h
  · next hexecute =>
    rw [hexecute]
    exact h

variable {handler : Error → Program World Call Error Result}

theorem Leaves.catching
    (h : Leaves interface fate program world returns
      (fun error after => Leaves interface fate (handler error) after returns throws dies) dies) :
    Leaves interface fate (program.catching handler) world returns throws dies :=
  .bind (.attempt h)

end OpenPath.Foundation.Program
