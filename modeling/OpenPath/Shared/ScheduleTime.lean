/-
# Schedule times

Times of day travel as text, `HH:MM` from a client and `HH:MM:SS` from the
database, and are stored as a time of day. Instants are milliseconds since the
epoch. Both are checked to fall on the schedule step of five minutes.
-/

import OpenPath.Text.Unicode

namespace OpenPath.ScheduleTime

/-- Granularity (in minutes) that schedule start and end times must align to. -/
def scheduleTimeStepMinutes : Nat := 5

structure TimeParts where
  hours : Nat
  minutes : Nat
  seconds : Nat
  deriving DecidableEq, Repr

/-- `\d` as a number. -/
def digit? (c : Char) : Option Nat :=
  if '0' ≤ c ∧ c ≤ '9' then some (c.toNat - '0'.toNat) else none

/-- Two digits that stand for a number below the bound. -/
def twoDigits? (bound : Nat) (tens units : Char) : Option Nat := do
  let high ← digit? tens
  let low ← digit? units
  if 10 * high + low < bound then some (10 * high + low) else none

/-- The groups of `^([01]\d|2[0-3]):([0-5]\d)(?::([0-5]\d))?$`; missing seconds
are zero. -/
def parseTimeParts : Text → Option TimeParts
  | [h₁, h₂, ':', m₁, m₂] => do
      let hours ← twoDigits? 24 h₁ h₂
      let minutes ← twoDigits? 60 m₁ m₂
      some { hours, minutes, seconds := 0 }
  | [h₁, h₂, ':', m₁, m₂, ':', s₁, s₂] => do
      let hours ← twoDigits? 24 h₁ h₂
      let minutes ← twoDigits? 60 m₁ m₂
      let seconds ← twoDigits? 60 s₁ s₂
      some { hours, minutes, seconds }
  | _ => none

/-- Minutes since midnight, of a text in one of the two formats. -/
def timeToMinutes (time : Text) : Option Nat :=
  (parseTimeParts time).map fun parts => 60 * parts.hours + parts.minutes

inductive TimeError
  | invalidFormat
  | includesSeconds
  | notOnStep
  | invalidDate
  deriving DecidableEq, Repr

def assertQuarterHourTime (time : Text) : Except TimeError Unit :=
  match parseTimeParts time with
  | none => .error .invalidFormat
  | some parts =>
      if parts.seconds ≠ 0 then .error .includesSeconds
      else if parts.minutes % scheduleTimeStepMinutes ≠ 0 then .error .notOnStep
      else .ok ()

/-! ## Times of day -/

/-- A value of a `time` column, in seconds since midnight. -/
@[ext]
structure TimeOfDay where
  seconds : Nat
  lt_day : seconds < 86400
  deriving DecidableEq, Repr

/-- The cast of a text that has one of the two formats. -/
def castTime (time : Text) : Option TimeOfDay :=
  match parseTimeParts time with
  | none => none
  | some parts =>
      let seconds := 3600 * parts.hours + 60 * parts.minutes + parts.seconds
      if h : seconds < 86400 then some ⟨seconds, h⟩ else none

def digitChar (n : Nat) : Char := Char.ofNat ('0'.toNat + n)

/-- `HH:MM:SS`, as the database renders a time. -/
def TimeOfDay.text (time : TimeOfDay) : Text :=
  let hours := time.seconds / 3600
  let minutes := time.seconds / 60 % 60
  let seconds := time.seconds % 60
  [digitChar (hours / 10), digitChar (hours % 10), ':',
   digitChar (minutes / 10), digitChar (minutes % 10), ':',
   digitChar (seconds / 10), digitChar (seconds % 10)]

theorem twoDigits?_lt {bound : Nat} {tens units : Char} {n : Nat}
    (hn : twoDigits? bound tens units = some n) : n < bound := by
  unfold twoDigits? at hn
  cases htens : digit? tens with
  | none => simp [htens] at hn
  | some high =>
      cases hunits : digit? units with
      | none => simp [htens, hunits] at hn
      | some low =>
          simp only [htens, hunits, Option.bind_eq_bind, Option.bind_some] at hn
          split at hn
          · obtain rfl := Option.some.inj hn
            assumption
          · cases hn

theorem twoDigits?_digitChar {bound n : Nat} (hbound : bound ≤ 60) (hn : n < bound) :
    twoDigits? bound (digitChar (n / 10)) (digitChar (n % 10)) = some n := by
  have hdigit : ∀ d < 10, digit? (digitChar d) = some d := by decide
  have hhigh := hdigit (n / 10) (by omega)
  have hlow := hdigit (n % 10) (by omega)
  have hsum : 10 * (n / 10) + n % 10 = n := by omega
  simp [twoDigits?, hhigh, hlow, hsum, hn]

theorem parseTimeParts_lt {time : Text} {parts : TimeParts}
    (hparts : parseTimeParts time = some parts) :
    parts.hours < 24 ∧ parts.minutes < 60 ∧ parts.seconds < 60 := by
  unfold parseTimeParts at hparts
  split at hparts
  · obtain ⟨hours, hhours, hparts⟩ := Option.bind_eq_some_iff.mp hparts
    obtain ⟨minutes, hminutes, hparts⟩ := Option.bind_eq_some_iff.mp hparts
    obtain rfl := Option.some.inj hparts
    exact ⟨twoDigits?_lt hhours, twoDigits?_lt hminutes, Nat.zero_lt_succ 59⟩
  · obtain ⟨hours, hhours, hparts⟩ := Option.bind_eq_some_iff.mp hparts
    obtain ⟨minutes, hminutes, hparts⟩ := Option.bind_eq_some_iff.mp hparts
    obtain ⟨seconds, hseconds, hparts⟩ := Option.bind_eq_some_iff.mp hparts
    obtain rfl := Option.some.inj hparts
    exact ⟨twoDigits?_lt hhours, twoDigits?_lt hminutes, twoDigits?_lt hseconds⟩
  · cases hparts

theorem parseTimeParts_text (time : TimeOfDay) :
    parseTimeParts time.text =
      some
        { hours := time.seconds / 3600
          minutes := time.seconds / 60 % 60
          seconds := time.seconds % 60 } := by
  have hlt := time.lt_day
  have hhours := twoDigits?_digitChar (by decide : 24 ≤ 60)
    (by omega : time.seconds / 3600 < 24)
  have hminutes := twoDigits?_digitChar (Nat.le_refl 60) (by omega : time.seconds / 60 % 60 < 60)
  have hseconds := twoDigits?_digitChar (Nat.le_refl 60) (by omega : time.seconds % 60 < 60)
  simp only [TimeOfDay.text, parseTimeParts, hhours, hminutes, hseconds, Option.bind_eq_bind,
    Option.bind_some]

theorem castTime_text (time : TimeOfDay) : castTime time.text = some time := by
  have hlt := time.lt_day
  have hsum : 3600 * (time.seconds / 3600) + 60 * (time.seconds / 60 % 60) +
      time.seconds % 60 = time.seconds := by omega
  simp [castTime, parseTimeParts_text, hsum, hlt]

/-- A time on the schedule step. -/
def TimeOfDay.OnStep (time : TimeOfDay) : Prop := time.seconds % 300 = 0

/-- A text that passes the check is a time on the step, and its minutes are the
minutes of that time. -/
theorem assertQuarterHourTime_eq_ok {time : Text} (hok : assertQuarterHourTime time = .ok ()) :
    ∃ stored, castTime time = some stored ∧ stored.OnStep ∧
      timeToMinutes time = some (stored.seconds / 60) := by
  unfold assertQuarterHourTime at hok
  split at hok
  · cases hok
  rename_i parts hparts
  obtain ⟨hhours, hminutes, -⟩ := parseTimeParts_lt hparts
  split at hok
  · cases hok
  rename_i hseconds
  split at hok
  · cases hok
  rename_i hstep
  have hzero : parts.seconds = 0 := not_not.mp hseconds
  have hfive : parts.minutes % 5 = 0 := not_not.mp hstep
  have hday : 3600 * parts.hours + 60 * parts.minutes + parts.seconds < 86400 := by omega
  refine ⟨⟨_, hday⟩, by simp [castTime, hparts, hday], ?_, ?_⟩
  · unfold TimeOfDay.OnStep
    simp only
    omega
  · have hdiv : (3600 * parts.hours + 60 * parts.minutes + parts.seconds) / 60 =
        60 * parts.hours + parts.minutes := by omega
    simp [timeToMinutes, hparts, hdiv]

theorem timeToMinutes_text (time : TimeOfDay) :
    timeToMinutes time.text = some (time.seconds / 60) := by
  have hdiv : 60 * (time.seconds / 3600) + time.seconds / 60 % 60 = time.seconds / 60 := by omega
  simp [timeToMinutes, parseTimeParts_text, hdiv]

/-- A stored time passes the check if it is on the step. -/
theorem assertQuarterHourTime_text {time : TimeOfDay} (hstep : time.OnStep) :
    assertQuarterHourTime time.text = .ok () := by
  have hstored : time.seconds % 300 = 0 := hstep
  have hseconds : time.seconds % 60 = 0 := by omega
  have hminutes : time.seconds / 60 % 60 % scheduleTimeStepMinutes = 0 := by
    unfold scheduleTimeStepMinutes
    omega
  simp [assertQuarterHourTime, parseTimeParts_text, hseconds, hminutes]

/-- The whole minute that a time falls in. -/
def TimeOfDay.minute (time : TimeOfDay) : TimeOfDay where
  seconds := time.seconds / 60 * 60
  lt_day := by
    have hlt := time.lt_day
    omega

/-- `HH:MM` names the minute. -/
theorem castTime_take_text (time : TimeOfDay) :
    castTime (time.text.take 5) = some time.minute := by
  have hlt := time.lt_day
  have hhours := twoDigits?_digitChar (by decide : 24 ≤ 60)
    (by omega : time.seconds / 3600 < 24)
  have hminutes := twoDigits?_digitChar (Nat.le_refl 60) (by omega : time.seconds / 60 % 60 < 60)
  have hsum : 3600 * (time.seconds / 3600) + 60 * (time.seconds / 60 % 60) =
      time.seconds / 60 * 60 := by omega
  have hday : time.seconds / 60 * 60 < 86400 := by omega
  have hparts : parseTimeParts (time.text.take 5) =
      some { hours := time.seconds / 3600, minutes := time.seconds / 60 % 60, seconds := 0 } := by
    simp only [TimeOfDay.text, List.take_succ_cons, List.take_zero, parseTimeParts, hhours,
      hminutes, Option.bind_eq_bind, Option.bind_some]
  simp [castTime, hparts, hsum, hday, TimeOfDay.minute]

/-! ## Instants -/

/-- A `Date`: milliseconds since the epoch, missing when it is invalid. -/
abbrev JsDate := Option Int

def assertQuarterHourInstant (date : JsDate) : Except TimeError Int :=
  match date with
  | none => .error .invalidDate
  | some time =>
      if time / 1000 % 60 ≠ 0 ∨ time % 1000 ≠ 0 then .error .includesSeconds
      else if time / 60000 % 60 % (scheduleTimeStepMinutes : Int) ≠ 0 then .error .notOnStep
      else .ok time

/-- An instant that passes the check falls on the schedule step. -/
theorem assertQuarterHourInstant_eq_ok {date : JsDate} {time : Int}
    (hok : assertQuarterHourInstant date = .ok time) :
    date = some time ∧ time % 300000 = 0 := by
  unfold assertQuarterHourInstant at hok
  split at hok
  · cases hok
  split at hok
  · cases hok
  rename_i hseconds
  split at hok
  · cases hok
  rename_i hstep
  obtain rfl := Except.ok.inj hok
  refine ⟨rfl, ?_⟩
  unfold scheduleTimeStepMinutes at hstep
  omega

end OpenPath.ScheduleTime
