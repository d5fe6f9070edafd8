/-
# Programs that can stop at any call

A program looks at the world and makes calls that change it. A call may fail, and
the program goes on otherwise; what a call does may happen bit by bit, and the
program may stop at any moment, within a call or between two. A list of outcomes,
one for each thing that happens, says how far a program got; as the list is
arbitrary, what holds after every list holds wherever the program stops.

The weakest precondition of a program says that every change it makes to the
world, down to the parts of a call, is a permitted step, and that a condition
holds when it ends, with a result or with an error.
-/

import Mathlib.Logic.Relation

namespace OpenPath.Foundation

/-- A program over a world that it looks at, with the calls it makes. -/
inductive Program (World Call Error Result : Type)
  | done (result : Result)
  | throw (error : Error)
  | look (next : World → Program World Call Error Result)
  | call (request : Call) (next failed : Program World Call Error Result)

/-- What calls do: all at once where they can, or a part of it. -/
structure Interface (World Call Progress : Type) where
  perform : Call → World → Option World
  advance : Call → Progress → World → World

/-- What happens to a call. -/
inductive Outcome (Progress : Type)
  | advances (progress : Progress)
  | succeeds
  | fails

namespace Program

variable {World Call Error Result Other Item Progress : Type}

def bind : Program World Call Error Result → (Result → Program World Call Error Other) →
    Program World Call Error Other
  | done result, next => next result
  | throw error, _ => throw error
  | look read, next => look fun world => (read world).bind next
  | call request success failure, next => call request (success.bind next) (failure.bind next)

instance : Monad (Program World Call Error) where
  pure := done
  bind := bind

/-- A value that is read from the world. -/
def observe (read : World → Result) : Program World Call Error Result :=
  look fun world => done (read world)

/-- One call, which throws when it fails. -/
def perform (request : Call) (error : Error) : Program World Call Error Unit :=
  call request (done ()) (throw error)

/-- Runs a program to its end and keeps its error as a value. -/
def attempt : Program World Call Error Result →
    Program World Call Error (Except Error Result)
  | done result => done (.ok result)
  | throw error => done (.error error)
  | look read => look fun world => (read world).attempt
  | call request success failure => call request success.attempt failure.attempt

def ofExcept : Except Error Result → Program World Call Error Result
  | .ok result => done result
  | .error error => throw error

/-- `try { body } catch (error) { handler }` -/
def catching (body : Program World Call Error Result)
    (handler : Error → Program World Call Error Result) : Program World Call Error Result :=
  body.attempt.bind fun outcome =>
    match outcome with
    | .ok result => done result
    | .error error => handler error

/-- `try { body } finally { cleanup }` -/
def finallyDo (body : Program World Call Error Result) (cleanup : Program World Call Error Unit) :
    Program World Call Error Result :=
  body.attempt.bind fun outcome => cleanup.bind fun _ => ofExcept outcome

/-- `for (const item of items) { body }` -/
def forEach (items : List Item) (body : Item → Program World Call Error Unit) :
    Program World Call Error Unit :=
  match items with
  | [] => done ()
  | item :: items => (body item).bind fun _ => forEach items body

/-! ## Runs -/

/-- The next call, after all looks before it. -/
def settle (world : World) : Program World Call Error Result →
    Program World Call Error Result
  | look next => (next world).settle world
  | program => program

variable (interface : Interface World Call Progress)

/-- One outcome for the next call of a program; none is left at its end. -/
def step (state : World × Program World Call Error Result) (outcome : Outcome Progress) :
    World × Program World Call Error Result :=
  match state.2.settle state.1, outcome with
  | call request next failed, .advances progress =>
      (interface.advance request progress state.1, call request next failed)
  | call request next failed, .succeeds =>
      match interface.perform request state.1 with
      | none => (state.1, failed)
      | some world => (world, next)
  | call _ _ failed, .fails => (state.1, failed)
  | program, _ => (state.1, program)

/-- How far a program is after some outcomes. -/
def run (outcomes : List (Outcome Progress)) (state : World × Program World Call Error Result) :
    World × Program World Call Error Result :=
  outcomes.foldl (step interface) state

/-! ## What becomes of each call -/

/-- A call is done, or it fails or the program dies in it, after some parts of it. -/
inductive Fate (Progress : Type)
  | succeeds
  | fails (parts : List Progress)
  | dies (parts : List Progress)

def Fate.succeeded : Fate Progress → Bool
  | .succeeds => true
  | .fails _ | .dies _ => false

theorem Fate.eq_of_succeeded {fate : Fate Progress} (h : fate.succeeded = true) :
    fate = .succeeds := by
  cases fate with
  | succeeds => rfl
  | fails parts => exact Bool.noConfusion h
  | dies parts => exact Bool.noConfusion h

/-- A world after some parts of a call. -/
def advanced (request : Call) (parts : List Progress) (world : World) : World :=
  parts.foldl (fun now progress => interface.advance request progress now) world

/-- What a program leaves and how it ends when each call has its fate. A program that
dies has no outcome. -/
@[grind =]
def execute (fate : Call → Fate Progress) :
    Program World Call Error Result → World → World × Option (Except Error Result)
  | done result, world => (world, some (.ok result))
  | throw error, world => (world, some (.error error))
  | look next, world => (next world).execute fate world
  | call request next failed, world =>
      match fate request with
      | .succeeds =>
          match interface.perform request world with
          | none => failed.execute fate world
          | some after => next.execute fate after
      | .fails parts => failed.execute fate (advanced interface request parts world)
      | .dies parts => (advanced interface request parts world, none)

section Executing

variable {interface} {fate : Call → Fate Progress} {request : Call}
  {next failed : Program World Call Error Result} {world after : World} {parts : List Progress}

theorem execute_succeeds (h : fate request = .succeeds)
    (hperform : interface.perform request world = some after) :
    (call request next failed).execute interface fate world =
      next.execute interface fate after := by
  simp only [execute, h, hperform]

theorem execute_fails (h : fate request = .fails parts) :
    (call request next failed).execute interface fate world =
      failed.execute interface fate (advanced interface request parts world) := by
  simp only [execute, h]

theorem execute_dies (h : fate request = .dies parts) :
    (call request next failed).execute interface fate world =
      (advanced interface request parts world, none) := by
  simp only [execute, h]

variable {rest : Result → Program World Call Error Other}

/-- A part of a program that ends with a result goes before the rest. -/
theorem execute_bind_ok {program : Program World Call Error Result} {result : Result}
    (h : program.execute interface fate world = (after, some (.ok result))) :
    (program >>= rest).execute interface fate world =
      (rest result).execute interface fate after := by
  induction program generalizing world with
  | done value =>
      cases h
      rfl
  | throw error => cases h
  | look read ih => exact ih world h
  | call request success failure ihSuccess ihFailure =>
      change (call request (success >>= rest) (failure >>= rest)).execute interface fate world = _
      rw [execute] at h ⊢
      split at h
      · split at h
        · exact ihFailure h
        · exact ihSuccess h
      · exact ihFailure h
      · cases h

/-- A program whose first part does not end with a result stops there. -/
theorem execute_bind_stopped {program : Program World Call Error Result}
    (h : ∀ result, (program.execute interface fate world).2 ≠ some (.ok result)) :
    ((program >>= rest).execute interface fate world).1 =
        (program.execute interface fate world).1 ∧
      ∀ result, ((program >>= rest).execute interface fate world).2 ≠ some (.ok result) := by
  induction program generalizing world with
  | done value => exact absurd rfl (h value)
  | throw error => exact ⟨rfl, fun _ hok => by cases hok⟩
  | look read ih => exact ih world h
  | call request success failure ihSuccess ihFailure =>
      have hbind : call request success failure >>= rest =
          call request (success >>= rest) (failure >>= rest) := rfl
      rw [hbind]
      cases hfate : fate request with
      | succeeds =>
          cases hperform : interface.perform request world with
          | none =>
              simp only [execute, hfate, hperform] at h ⊢
              exact ihFailure h
          | some after =>
              rw [execute_succeeds hfate hperform] at h ⊢
              rw [execute_succeeds hfate hperform]
              exact ihSuccess h
      | fails parts =>
          rw [execute_fails hfate] at h ⊢
          rw [execute_fails hfate]
          exact ihFailure h
      | dies parts =>
          rw [execute_dies hfate, execute_dies hfate]
          exact ⟨rfl, fun _ => (Option.some_ne_none _).symm⟩

/-- From a state with the invariant on, the program does not end with a result. -/
def Stops (interface : Interface World Call Progress) (fate : Call → Fate Progress)
    (inv : World → Prop) (program : Program World Call Error Result) : Prop :=
  ∀ world, inv world → ∀ result, (program.execute interface fate world).2 ≠ some (.ok result)

variable {inv : World → Prop}

theorem Stops.dies (h : fate request = .dies parts) :
    Stops interface fate inv (call request next failed) := by
  intro world _ result
  rw [execute_dies h]
  exact (Option.some_ne_none _).symm

theorem Stops.look {read : World → Program World Call Error Result}
    (h : ∀ world, inv world → Stops interface fate inv (read world)) :
    Stops interface fate inv (look read) :=
  fun world holds => h world holds world holds

theorem Stops.bind {program : Program World Call Error Result}
    (h : Stops interface fate inv program) : Stops interface fate inv (program >>= rest) :=
  fun world holds => (execute_bind_stopped (h world holds)).2

theorem Stops.call
    (advances : ∀ world progress, inv world → inv (interface.advance request progress world))
    (performs : ∀ world after, inv world → interface.perform request world = some after →
      inv after)
    (success : Stops interface fate inv next) (failure : Stops interface fate inv failed) :
    Stops interface fate inv (call request next failed) := by
  intro world holds
  have reached : ∀ parts : List Progress, inv (advanced interface request parts world) := by
    intro parts
    induction parts generalizing world with
    | nil => exact holds
    | cons progress parts ih => exact ih _ (advances world progress holds)
  rw [execute]
  split
  · split
    · exact failure world holds
    · next after performed => exact success after (performs world after holds performed)
  · next parts _ => exact failure _ (reached parts)
  · exact fun _ => (Option.some_ne_none _).symm

end Executing

/-! ## Weakest preconditions -/

/-- What the parts of a call may have done so far. -/
def Advanced (request : Call) : World → World → Prop :=
  Relation.ReflTransGen fun before after =>
    ∃ progress, interface.advance request progress before = after

/-- Every change of the world is a permitted step, and the program ends in a state
with the condition. -/
@[grind =]
def Wp (permitted : World → World → Prop) : Program World Call Error Result → World →
    (Except Error Result → World → Prop) → Prop
  | done result, world, post => post (.ok result) world
  | throw error, world, post => post (.error error) world
  | look next, world, post => (next world).Wp permitted world post
  | call request next failed, start, post =>
      ∀ world, Advanced interface request start world →
        (∀ progress, permitted world (interface.advance request progress world)) ∧
        (∀ after, interface.perform request world = some after →
          permitted world after ∧ next.Wp permitted after post) ∧
        failed.Wp permitted world post

variable {interface} {permitted : World → World → Prop} {world : World}
  {post : Except Error Result → World → Prop}

theorem Wp.mono {program : Program World Call Error Result}
    {weaker : Except Error Result → World → Prop} (h : program.Wp interface permitted world post)
    (hle : ∀ outcome after, post outcome after → weaker outcome after) :
    program.Wp interface permitted world weaker := by
  induction program generalizing world with
  | done result => exact hle _ _ h
  | throw error => exact hle _ _ h
  | look next ih => exact ih world h
  | call request next failed ihNext ihFailed =>
      intro now reached
      obtain ⟨parts, success, failure⟩ := h now reached
      refine ⟨parts, ?_, ihFailed failure⟩
      intro after performed
      exact ⟨(success after performed).1, ihNext (success after performed).2⟩

theorem Wp.look {next : World → Program World Call Error Result}
    (h : (next world).Wp interface permitted world post) :
    (Program.look next).Wp interface permitted world post :=
  h

variable {next : Result → Program World Call Error Other}

/-- One program after another. -/
theorem Wp.bind {program : Program World Call Error Result}
    {post : Except Error Other → World → Prop}
    (h : program.Wp interface permitted world fun outcome after =>
      match outcome with
      | .ok result => (next result).Wp interface permitted after post
      | .error error => post (.error error) after) :
    (program.bind next).Wp interface permitted world post := by
  induction program generalizing world with
  | done result => exact h
  | throw error => exact h
  | look read ih => exact ih world h
  | call request success failure ihSuccess ihFailure =>
      intro now reached
      obtain ⟨parts, succeeds, fails⟩ := h now reached
      refine ⟨parts, ?_, ihFailure fails⟩
      intro after performed
      exact ⟨(succeeds after performed).1, ihSuccess (succeeds after performed).2⟩

theorem Wp.observe {read : World → Result} {post : Except Error Other → World → Prop}
    (h : (next (read world)).Wp interface permitted world post) :
    (Program.observe read >>= next).Wp interface permitted world post :=
  h

theorem Wp.attempt {program : Program World Call Error Result}
    {post : Except Error (Except Error Result) → World → Prop}
    (h : program.Wp interface permitted world fun outcome after => post (.ok outcome) after) :
    program.attempt.Wp interface permitted world post := by
  induction program generalizing world with
  | done result => exact h
  | throw error => exact h
  | look read ih => exact ih world h
  | call request success failure ihSuccess ihFailure =>
      intro now reached
      obtain ⟨parts, succeeds, fails⟩ := h now reached
      refine ⟨parts, ?_, ihFailure fails⟩
      intro after performed
      exact ⟨(succeeds after performed).1, ihSuccess (succeeds after performed).2⟩

variable {body : Program World Call Error Result}

theorem Wp.catching {handler : Error → Program World Call Error Result}
    (h : body.Wp interface permitted world fun outcome after =>
      match outcome with
      | .ok result => post (.ok result) after
      | .error error => (handler error).Wp interface permitted after post) :
    (body.catching handler).Wp interface permitted world post := by
  apply Wp.bind
  apply Wp.attempt
  apply h.mono
  rintro (error | result) after hafter
  · exact hafter
  · exact hafter

theorem Wp.finallyDo {cleanup : Program World Call Error Unit}
    (h : body.Wp interface permitted world fun outcome after =>
      cleanup.Wp interface permitted after fun cleaned later =>
        match cleaned with
        | .ok _ => post outcome later
        | .error error => post (.error error) later) :
    (body.finallyDo cleanup).Wp interface permitted world post := by
  apply Wp.bind
  apply Wp.attempt
  apply h.mono
  intro outcome after hcleanup
  apply Wp.bind
  apply hcleanup.mono
  rintro (error | _) later hlater
  · exact hlater
  · cases outcome with
    | ok result => exact hlater
    | error error => exact hlater

variable {inv : World → Prop}

/-- The rule for loops: what holds before each round holds after it. -/
theorem Wp.forEach {items : List Item} {body : Item → Program World Call Error Unit}
    (start : inv world)
    (round : ∀ item ∈ items, ∀ before, inv before →
      (body item).Wp interface permitted before fun _ after => inv after) :
    (forEach items body).Wp interface permitted world fun _ after => inv after := by
  induction items generalizing world with
  | nil => exact start
  | cons item items ih =>
      apply Wp.bind
      apply (round item (by simp) world start).mono
      rintro (error | _) after hafter
      · exact hafter
      · exact ih hafter fun later member => round later (by simp [member])

variable {request : Call} {next failed : Program World Call Error Result}

/-- The rule for a call, with what its parts keep. -/
theorem Wp.call (inv : World → Prop) (start : inv world)
    (parts : ∀ before progress, inv before →
      permitted before (interface.advance request progress before) ∧
        inv (interface.advance request progress before))
    (success : ∀ before after, inv before → interface.perform request before = some after →
      permitted before after ∧ next.Wp interface permitted after post)
    (failure : ∀ before, inv before → failed.Wp interface permitted before post) :
    (Program.call request next failed).Wp interface permitted world post := by
  intro now reached
  have here : inv now := by
    induction reached with
    | refl => exact start
    | tail _ moved ih =>
        obtain ⟨progress, rfl⟩ := moved
        exact (parts _ progress ih).2
  exact ⟨fun progress => (parts now progress here).1, fun after => success now after here,
    failure now here⟩

theorem Wp.weaken {weaker : World → World → Prop} {program : Program World Call Error Result}
    (h : program.Wp interface permitted world post)
    (hle : ∀ before after, permitted before after → weaker before after) :
    program.Wp interface weaker world post := by
  induction program generalizing world with
  | done result => exact h
  | throw error => exact h
  | look next ih => exact ih world h
  | call request next failed ihNext ihFailed =>
      intro now reached
      obtain ⟨parts, success, failure⟩ := h now reached
      refine ⟨fun progress => hle _ _ (parts progress), ?_, ihFailed failure⟩
      intro after performed
      exact ⟨hle _ _ (success after performed).1, ihNext (success after performed).2⟩

/-! ## Programs that keep an invariant -/

/-- From a state with the invariant on, every change is permitted and the program
ends with the invariant. -/
def Keeps (interface : Interface World Call Progress) (permitted : World → World → Prop)
    (inv : World → Prop) (program : Program World Call Error Result) : Prop :=
  ∀ world, inv world → program.Wp interface permitted world fun _ after => inv after

section Keeping

variable {inv : World → Prop}

theorem Keeps.done (result : Result) :
    Keeps interface permitted inv (done result : Program World Call Error Result) :=
  fun _ holds => holds

theorem Keeps.throw (error : Error) :
    Keeps interface permitted inv (throw error : Program World Call Error Result) :=
  fun _ holds => holds

theorem Keeps.look {next : World → Program World Call Error Result}
    (h : ∀ world, inv world → Keeps interface permitted inv (next world)) :
    Keeps interface permitted inv (look next) :=
  fun world holds => h world holds world holds

theorem Keeps.bind {program : Program World Call Error Result}
    {next : Result → Program World Call Error Other}
    (first : Keeps interface permitted inv program)
    (second : ∀ result, Keeps interface permitted inv (next result)) :
    Keeps interface permitted inv (program >>= next) := by
  intro world holds
  apply Wp.bind
  apply (first world holds).mono
  rintro (error | result) after hafter
  · exact hafter
  · exact second result after hafter

theorem Keeps.attempt {program : Program World Call Error Result}
    (h : Keeps interface permitted inv program) :
    Keeps interface permitted inv program.attempt :=
  fun world holds => Wp.attempt (h world holds)

variable {body : Program World Call Error Result}

theorem Keeps.catching {handler : Error → Program World Call Error Result}
    (first : Keeps interface permitted inv body)
    (second : ∀ error, Keeps interface permitted inv (handler error)) :
    Keeps interface permitted inv (body.catching handler) := by
  intro world holds
  apply Wp.catching
  apply (first world holds).mono
  rintro (error | result) after hafter
  · exact second error after hafter
  · exact hafter

theorem Keeps.finallyDo {cleanup : Program World Call Error Unit}
    (first : Keeps interface permitted inv body) (second : Keeps interface permitted inv cleanup) :
    Keeps interface permitted inv (body.finallyDo cleanup) := by
  intro world holds
  apply Wp.finallyDo
  apply (first world holds).mono
  intro outcome after hafter
  apply (second after hafter).mono
  rintro (error | _) later hlater
  · exact hlater
  · exact hlater

theorem Keeps.forEach {items : List Item} {body : Item → Program World Call Error Unit}
    (h : ∀ item ∈ items, Keeps interface permitted inv (body item)) :
    Keeps interface permitted inv (forEach items body) :=
  fun _ holds => Wp.forEach holds h

variable {request : Call}

theorem Keeps.call {next failed : Program World Call Error Result}
    (parts : ∀ world progress, inv world → inv (interface.advance request progress world))
    (whole : ∀ world after, inv world → interface.perform request world = some after → inv after)
    (success : Keeps interface (fun _ after => inv after) inv next)
    (failure : Keeps interface (fun _ after => inv after) inv failed) :
    Keeps interface (fun _ after => inv after) inv (call request next failed) := by
  intro world holds
  apply Wp.call inv holds
  · intro before progress hbefore
    exact ⟨parts before progress hbefore, parts before progress hbefore⟩
  · intro before after hbefore performed
    have reached := whole before after hbefore performed
    exact ⟨reached, success after reached⟩
  · exact failure

theorem Keeps.perform {error : Error}
    (stable : ∀ before after, inv before → permitted before after → inv after)
    (parts : ∀ world progress, inv world →
      permitted world (interface.advance request progress world))
    (whole : ∀ world after, inv world → interface.perform request world = some after →
      permitted world after) :
    Keeps interface permitted inv (perform request error) := by
  intro world holds
  apply Wp.call inv holds
  · intro before progress hbefore
    have step := parts before progress hbefore
    exact ⟨step, stable _ _ hbefore step⟩
  · intro before after hbefore performed
    have step := whole before after hbefore performed
    exact ⟨step, stable _ _ hbefore step⟩
  · exact fun _ hbefore => hbefore

end Keeping

/-! ## What every run keeps -/

theorem Wp.settle {program : Program World Call Error Result}
    (h : program.Wp interface permitted world post) :
    (program.settle world).Wp interface permitted world post := by
  induction program with
  | done result => exact h
  | throw error => exact h
  | look next ih => exact ih world h
  | call request next failed => exact h

/-- Whatever happens next, the world stays or takes a permitted step, and the rest
of the program is as good as the whole. -/
theorem Wp.step {program : Program World Call Error Result} {world : World}
    {post : Except Error Result → World → Prop}
    (h : program.Wp interface permitted world post) (outcome : Outcome Progress) :
    ((Program.step interface (world, program) outcome).1 = world ∨
      permitted world (Program.step interface (world, program) outcome).1) ∧
    (Program.step interface (world, program) outcome).2.Wp interface permitted
      (Program.step interface (world, program) outcome).1 post := by
  have settled := h.settle
  simp only [Program.step]
  generalize program.settle world = rest at settled
  cases rest with
  | done result => exact ⟨.inl rfl, settled⟩
  | throw error => exact ⟨.inl rfl, settled⟩
  | look next => exact ⟨.inl rfl, settled⟩
  | call request next failed =>
      obtain ⟨parts, success, failure⟩ := settled world .refl
      cases outcome with
      | advances progress =>
          refine ⟨.inr (parts progress), ?_⟩
          intro now reached
          exact settled now (.head ⟨progress, rfl⟩ reached)
      | succeeds =>
          cases performed : interface.perform request world with
          | none =>
              simp only [performed, true_or, true_and]
              exact failure
          | some after =>
              simp only [performed]
              exact ⟨.inr (success after performed).1, (success after performed).2⟩
      | fails => exact ⟨.inl rfl, failure⟩

/-- What permitted steps keep holds wherever the program stops. -/
theorem Wp.run {program : Program World Call Error Result}
    (h : program.Wp interface permitted world post)
    (keeps : ∀ before after, inv before → permitted before after → inv after) (start : inv world)
    (outcomes : List (Outcome Progress)) :
    inv (Program.run interface outcomes (world, program)).1 := by
  induction outcomes generalizing world program with
  | nil => exact start
  | cons outcome outcomes ih =>
      obtain ⟨moved, rest⟩ := h.step outcome
      have here : inv (Program.step interface (world, program) outcome).1 := by
        rcases moved with same | step
        · rw [same]
          exact start
        · exact keeps world _ start step
      exact ih rest here

section

variable (h : (Program.call request next failed).Wp interface permitted world post)
include h

theorem Wp.advanced (parts : List Progress) :
    (Program.call request next failed).Wp interface permitted
      (Program.advanced interface request parts world) post := by
  have reached : Advanced interface request world
      (Program.advanced interface request parts world) := by
    rw [Program.advanced]
    induction parts generalizing world with
    | nil => exact .refl
    | cons progress parts ih => exact .head ⟨progress, rfl⟩ (ih fun now moved =>
        h now (.head ⟨progress, rfl⟩ moved))
  exact fun now moved => h now (reached.trans moved)

theorem Wp.inv_advanced (keeps : ∀ before after, inv before → permitted before after → inv after)
    (start : inv world) (parts : List Progress) :
    inv (Program.advanced interface request parts world) := by
  induction parts generalizing world with
  | nil => exact start
  | cons progress parts ih =>
      exact ih (h.advanced [progress]) (keeps _ _ start ((h world .refl).1 progress))

end

/-- What permitted steps keep also holds where the program ends. -/
theorem Wp.invariant {program : Program World Call Error Result}
    (h : program.Wp interface permitted world post)
    (keeps : ∀ before after, inv before → permitted before after → inv after) (start : inv world) :
    program.Wp interface permitted world fun outcome after => post outcome after ∧ inv after := by
  induction program generalizing world with
  | done result => exact ⟨h, start⟩
  | throw error => exact ⟨h, start⟩
  | look next ih => exact ih world h start
  | call request next failed ihNext ihFailed =>
      intro now reached
      have here : inv now := by
        induction reached with
        | refl => exact start
        | tail earlier moved ih =>
            obtain ⟨progress, rfl⟩ := moved
            exact keeps _ _ ih ((h _ earlier).1 progress)
      obtain ⟨parts, success, failure⟩ := h now reached
      refine ⟨parts, ?_, ihFailed failure here⟩
      intro after performed
      obtain ⟨step, rest⟩ := success after performed
      exact ⟨step, ihNext rest (keeps now after here step)⟩

/-- What permitted steps keep holds of the world that a program leaves, also where it
dies. -/
theorem Wp.execute {program : Program World Call Error Result}
    (h : program.Wp interface permitted world post)
    (keeps : ∀ before after, inv before → permitted before after → inv after) (start : inv world)
    (fate : Call → Fate Progress) :
    inv (program.execute interface fate world).1 := by
  induction program generalizing world with
  | done result => exact start
  | throw error => exact start
  | look next ih => exact ih world h start
  | call request next failed ihNext ihFailed =>
      rw [Program.execute]
      split
      · obtain ⟨_, success, failure⟩ := h world .refl
        split
        · exact ihFailed failure start
        · next after performed =>
            obtain ⟨step, rest⟩ := success after performed
            exact ihNext rest (keeps world after start step)
      · next parts _ =>
          exact ihFailed (h.advanced parts _ .refl).2.2 (h.inv_advanced keeps start parts)
      · next parts _ => exact h.inv_advanced keeps start parts

/-- A program that keeps a condition leaves it, also where it dies. -/
theorem Keeps.execute {program : Program World Call Error Result}
    (h : Keeps interface (fun _ after => inv after) inv program) (start : inv world)
    (fate : Call → Fate Progress) :
    inv (program.execute interface fate world).1 :=
  (h world start).execute (fun _ _ _ kept => kept) start fate

/-- Wherever the program stops, the rest of it is as good as the whole. -/
theorem Wp.run_rest {program : Program World Call Error Result}
    (h : program.Wp interface permitted world post) (outcomes : List (Outcome Progress)) :
    (Program.run interface outcomes (world, program)).2.Wp interface permitted
      (Program.run interface outcomes (world, program)).1 post := by
  induction outcomes generalizing world program with
  | nil => exact h
  | cons outcome outcomes ih => exact ih (h.step outcome).2

end Program

end OpenPath.Foundation
