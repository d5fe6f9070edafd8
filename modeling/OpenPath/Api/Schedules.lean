/-
# Schedules of classrooms

A schedule assigns a group to a classroom, every week on a weekday between two
times of day, or once between two instants. The module gives the rows of the
table, the validation of the values, the conflict queries, and the statements
with which a schedule is written.

What the conflict queries are for is stated on the rows themselves: two rows of
one classroom overlap if there is a time at which both are on.
-/

import OpenPath.Api.Database
import OpenPath.Foundation.Except
import OpenPath.Shared.ScheduleTime

namespace OpenPath.Api.Schedules

open Foundation ScheduleTime

/-- A value of a `uuid` column. -/
abbrev Uuid := BitVec 128

inductive Recurrence
  | weekly
  | oneOff
  deriving DecidableEq, Repr

/-- A row of `schedules`. The day and the times of day belong to weekly
schedules, the two instants to one-off schedules. -/
structure ScheduleRow where
  id : Uuid
  classroomId : Text
  teacherId : Text
  groupId : Text
  dayOfWeek : Option Int
  startTime : Option TimeOfDay
  endTime : Option TimeOfDay
  startAt : Option Int
  endAt : Option Int
  recurrence : Option Recurrence
  deriving DecidableEq

/-! ## When a schedule is on -/

/-- A row without a recurrence counts as weekly. -/
def weeklyRecurrence (row : ScheduleRow) : Bool :=
  row.recurrence = some .weekly || row.recurrence = none

/-- The times of a weekday, in seconds, at which a weekly schedule is on. -/
def ScheduleRow.weeklyTimes (row : ScheduleRow) (day : Int) : Set Nat :=
  {t | weeklyRecurrence row = true ∧ row.dayOfWeek = some day ∧
    ∃ start ∈ row.startTime, ∃ stop ∈ row.endTime, start.seconds ≤ t ∧ t < stop.seconds}

/-- The instants at which a one-off schedule is on. -/
def ScheduleRow.oneOffTimes (row : ScheduleRow) : Set Int :=
  {t | row.recurrence = some .oneOff ∧
    ∃ start ∈ row.startAt, ∃ stop ∈ row.endAt, start ≤ t ∧ t < stop}

/-- Two weekly schedules of a classroom are on at one time of one weekday, or
two one-off schedules of a classroom at one instant. -/
def Overlap (first second : ScheduleRow) : Prop :=
  first.classroomId = second.classroomId ∧
    ((∃ day, ∃ t, t ∈ first.weeklyTimes day ∧ t ∈ second.weeklyTimes day) ∨
      ∃ t, t ∈ first.oneOffTimes ∧ t ∈ second.oneOffTimes)

theorem Overlap.symm {first second : ScheduleRow} (h : Overlap first second) :
    Overlap second first := by
  obtain ⟨hroom, ⟨day, t, hfirst, hsecond⟩ | ⟨t, hfirst, hsecond⟩⟩ := h
  · exact ⟨hroom.symm, Or.inl ⟨day, t, hsecond, hfirst⟩⟩
  · exact ⟨hroom.symm, Or.inr ⟨t, hsecond, hfirst⟩⟩

/-- No two schedules of one classroom are on at the same time. -/
def NonOverlapping (rows : List ScheduleRow) : Prop :=
  rows.Pairwise fun first second => ¬ Overlap first second

/-! ## Validation -/

inductive ScheduleError
  | dayOutOfRange
  | time (error : TimeError)
  | startNotBeforeEnd
  | endNotAfterStart
  | conflict (row : ScheduleRow)
  | oneOffWithWeeklyUpdater
  | weeklyWithOneOffUpdater
  | weeklyMissingFields
  | oneOffMissingFields

def assertValidScheduleValues (dayOfWeek : Int) (startTime endTime : Text) :
    Except ScheduleError Unit := do
  if dayOfWeek < 1 ∨ 5 < dayOfWeek then
    .error .dayOutOfRange
  (assertQuarterHourTime startTime).mapError .time
  (assertQuarterHourTime endTime).mapError .time
  match timeToMinutes startTime, timeToMinutes endTime with
  | some start, some stop => if stop ≤ start then .error .startNotBeforeEnd else .ok ()
  | _, _ => .ok ()

/-- The two instants, if they are valid. -/
def assertValidOneOffScheduleValues (startAt endAt : JsDate) :
    Except ScheduleError (Int × Int) := do
  let start ← (assertQuarterHourInstant startAt).mapError .time
  let stop ← (assertQuarterHourInstant endAt).mapError .time
  if stop ≤ start then .error .endNotAfterStart else .ok (start, stop)

/-! ## Conflict queries -/

/-- The `OVERLAPS` of two pairs of times: endpoints in the wrong order are
exchanged, and pairs with the same start overlap. -/
def overlaps (first second : TimeOfDay × TimeOfDay) : Bool :=
  let start₁ := min first.1.seconds first.2.seconds
  let stop₁ := max first.1.seconds first.2.seconds
  let start₂ := min second.1.seconds second.2.seconds
  let stop₂ := max second.1.seconds second.2.seconds
  if start₂ < start₁ then start₁ < stop₂
  else if start₁ < start₂ then start₂ < stop₁
  else true

/-- Whether a row is one that `findConflict` selects. -/
def conflictsWeekly (classroomId : Text) (dayOfWeek : Int) (startTime endTime : TimeOfDay)
    (excludeId : Option Uuid) (row : ScheduleRow) : Bool :=
  row.classroomId = classroomId && weeklyRecurrence row && row.dayOfWeek = some dayOfWeek &&
    (match row.startTime, row.endTime with
      | some start, some stop => overlaps (startTime, endTime) (start, stop)
      | _, _ => false) &&
    excludeId ≠ some row.id

/-- A weekly schedule that stands in the way, if there is one. Which one of
several the database answers with does not matter to the callers. -/
def findConflict (rows : List ScheduleRow) (classroomId : Text) (dayOfWeek : Int)
    (startTime endTime : Text) (excludeId : Option Uuid) : Option ScheduleRow :=
  match castTime startTime, castTime endTime with
  | some start, some stop =>
      rows.find? (conflictsWeekly classroomId dayOfWeek start stop excludeId)
  | _, _ => none

/-- Whether a row is one that `findOneOffConflict` selects. -/
def conflictsOneOff (classroomId : Text) (startAt endAt : Int) (excludeId : Option Uuid)
    (row : ScheduleRow) : Bool :=
  row.classroomId = classroomId && row.recurrence = some .oneOff &&
    (match row.startAt, row.endAt with
      | some start, some stop => start < endAt && startAt < stop
      | _, _ => false) &&
    excludeId ≠ some row.id

def findOneOffConflict (rows : List ScheduleRow) (classroomId : Text) (startAt endAt : Int)
    (excludeId : Option Uuid) : Option ScheduleRow :=
  rows.find? (conflictsOneOff classroomId startAt endAt excludeId)

def getScheduleById (rows : List ScheduleRow) (id : Uuid) : Option ScheduleRow :=
  rows.find? (·.id = id)

/-! ## Creating -/

structure CreateScheduleInput where
  classroomId : Text
  teacherId : Text
  groupId : Text
  dayOfWeek : Int
  startTime : Text
  endTime : Text

structure CreateOneOffScheduleInput where
  classroomId : Text
  teacherId : Text
  groupId : Text
  startAt : JsDate
  endAt : JsDate

def noConflict : Option ScheduleRow → Except ScheduleError Unit
  | some row => .error (.conflict row)
  | none => .ok ()

/-- What `createSchedule` does before its insert. -/
def checkCreateSchedule (rows : List ScheduleRow) (input : CreateScheduleInput) :
    Except ScheduleError Unit := do
  assertValidScheduleValues input.dayOfWeek input.startTime input.endTime
  noConflict
    (findConflict rows input.classroomId input.dayOfWeek input.startTime input.endTime none)

/-- The row that `createSchedule` inserts. -/
def weeklyRow (id : Uuid) (input : CreateScheduleInput) : ScheduleRow where
  id := id
  classroomId := input.classroomId
  teacherId := input.teacherId
  groupId := input.groupId
  dayOfWeek := some input.dayOfWeek
  startTime := castTime input.startTime
  endTime := castTime input.endTime
  startAt := none
  endAt := none
  recurrence := some .weekly

/-- What `createOneOffSchedule` does before its insert. -/
def checkCreateOneOffSchedule (rows : List ScheduleRow) (input : CreateOneOffScheduleInput) :
    Except ScheduleError Unit := do
  let (startAt, endAt) ← assertValidOneOffScheduleValues input.startAt input.endAt
  noConflict (findOneOffConflict rows input.classroomId startAt endAt none)

/-- The row that `createOneOffSchedule` inserts. -/
def oneOffRow (id : Uuid) (input : CreateOneOffScheduleInput) : ScheduleRow where
  id := id
  classroomId := input.classroomId
  teacherId := input.teacherId
  groupId := input.groupId
  dayOfWeek := none
  startTime := none
  endTime := none
  startAt := input.startAt
  endAt := input.endAt
  recurrence := some .oneOff

/-- `INSERT INTO schedules` -/
def insertSchedule (row : ScheduleRow) (rows : List ScheduleRow) :
    Except DbError (List ScheduleRow) :=
  if rows.any (·.id = row.id) then .error .uniqueViolation else .ok (rows ++ [row])

/-! ## Updating -/

structure UpdateScheduleInput where
  dayOfWeek : Option Int
  startTime : Option Text
  endTime : Option Text
  groupId : Option Text

structure UpdateOneOffScheduleInput where
  startAt : Option JsDate
  endAt : Option JsDate
  groupId : Option Text

/-- What `updateSchedule` does between reading the schedule and its update:
values that are not supplied are those of the schedule that was read. -/
def checkUpdateSchedule (rows : List ScheduleRow) (schedule : ScheduleRow) (id : Uuid)
    (updates : UpdateScheduleInput) : Except ScheduleError Unit :=
  if schedule.recurrence = some .oneOff then .error .oneOffWithWeeklyUpdater
  else
    match schedule.dayOfWeek, schedule.startTime, schedule.endTime with
    | some baseDayOfWeek, some baseStartTime, some baseEndTime => do
        let newDayOfWeek := updates.dayOfWeek.getD baseDayOfWeek
        let newStartTime := updates.startTime.getD baseStartTime.text
        let newEndTime := updates.endTime.getD baseEndTime.text
        assertValidScheduleValues newDayOfWeek newStartTime newEndTime
        noConflict
          (findConflict rows schedule.classroomId newDayOfWeek newStartTime newEndTime
            (some id))
    | _, _, _ => .error .weeklyMissingFields

/-- The columns that `updateSchedule` sets: only those that are supplied. -/
def applyUpdates (updates : UpdateScheduleInput) (row : ScheduleRow) : ScheduleRow :=
  { row with
    dayOfWeek := updates.dayOfWeek.orElse fun _ => row.dayOfWeek
    startTime :=
      match updates.startTime with
      | some time => castTime time
      | none => row.startTime
    endTime :=
      match updates.endTime with
      | some time => castTime time
      | none => row.endTime
    groupId := updates.groupId.getD row.groupId }

/-- What `updateOneOffSchedule` does between reading the schedule and its
update. -/
def checkUpdateOneOffSchedule (rows : List ScheduleRow) (schedule : ScheduleRow) (id : Uuid)
    (updates : UpdateOneOffScheduleInput) : Except ScheduleError Unit :=
  if schedule.recurrence ≠ some .oneOff then .error .weeklyWithOneOffUpdater
  else
    match schedule.startAt, schedule.endAt with
    | some baseStartAt, some baseEndAt => do
        let (newStartAt, newEndAt) ← assertValidOneOffScheduleValues
          (updates.startAt.getD (some baseStartAt)) (updates.endAt.getD (some baseEndAt))
        noConflict
          (findOneOffConflict rows schedule.classroomId newStartAt newEndAt (some id))
    | _, _ => .error .oneOffMissingFields

def applyOneOffUpdates (updates : UpdateOneOffScheduleInput) (row : ScheduleRow) :
    ScheduleRow :=
  { row with
    startAt := updates.startAt.getD row.startAt
    endAt := updates.endAt.getD row.endAt
    groupId := updates.groupId.getD row.groupId }

/-- `UPDATE schedules ... WHERE id = ...` -/
def updateWhere (id : Uuid) (change : ScheduleRow → ScheduleRow) (rows : List ScheduleRow) :
    List ScheduleRow :=
  rows.map fun row => if row.id = id then change row else row

/-! ## Deleting -/

def deleteSchedule (id : Uuid) (rows : List ScheduleRow) : List ScheduleRow :=
  rows.filter (·.id ≠ id)

def deleteSchedulesByClassroom (classroomId : Text) (rows : List ScheduleRow) :
    List ScheduleRow :=
  rows.filter (·.classroomId ≠ classroomId)

/-! ## What the checks establish -/

theorem assertValidScheduleValues_eq_ok {day : Int} {startTime endTime : Text}
    (hok : assertValidScheduleValues day startTime endTime = .ok ()) :
    (1 ≤ day ∧ day ≤ 5) ∧ ∃ start stop,
      castTime startTime = some start ∧ castTime endTime = some stop ∧
        start.OnStep ∧ stop.OnStep ∧ start.seconds < stop.seconds := by
  unfold assertValidScheduleValues at hok
  dsimp only at hok
  split at hok
  · cases hok
  rename_i hday
  obtain ⟨⟨⟩, hstart, hok⟩ := bind_eq_ok.mp hok
  obtain ⟨⟨⟩, hstop, hok⟩ := bind_eq_ok.mp hok
  obtain ⟨start, hstartCast, hstartStep, hstartMinutes⟩ :=
    assertQuarterHourTime_eq_ok (mapError_eq_ok.mp hstart)
  obtain ⟨stop, hstopCast, hstopStep, hstopMinutes⟩ :=
    assertQuarterHourTime_eq_ok (mapError_eq_ok.mp hstop)
  rw [hstartMinutes, hstopMinutes] at hok
  dsimp only at hok
  split at hok
  · cases hok
  · exact ⟨by omega, start, stop, hstartCast, hstopCast, hstartStep, hstopStep, by omega⟩

theorem assertValidOneOffScheduleValues_eq_ok {startAt endAt : JsDate} {start stop : Int}
    (hok : assertValidOneOffScheduleValues startAt endAt = .ok (start, stop)) :
    startAt = some start ∧ endAt = some stop ∧
      start % 300000 = 0 ∧ stop % 300000 = 0 ∧ start < stop := by
  obtain ⟨first, hfirst, hok⟩ := bind_eq_ok.mp hok
  obtain ⟨second, hsecond, hok⟩ := bind_eq_ok.mp hok
  split at hok
  · cases hok
  rename_i hlt
  obtain ⟨rfl, rfl⟩ := Prod.mk.inj (Except.ok.inj hok)
  obtain ⟨hstart, hstartStep⟩ := assertQuarterHourInstant_eq_ok (mapError_eq_ok.mp hfirst)
  obtain ⟨hstop, hstopStep⟩ := assertQuarterHourInstant_eq_ok (mapError_eq_ok.mp hsecond)
  exact ⟨hstart, hstop, hstartStep, hstopStep, by omega⟩

theorem noConflict_eq_ok {found : Option ScheduleRow} (hok : noConflict found = .ok ()) :
    found = none := by
  cases found with
  | none => rfl
  | some row => cases hok

/-! ## What the conflict queries rule out -/

/-- Times that do not `OVERLAPS` have no time in common. -/
theorem not_common_of_not_overlaps {start₁ stop₁ start₂ stop₂ : TimeOfDay}
    (hoverlaps : overlaps (start₁, stop₁) (start₂, stop₂) = false) (t : Nat) :
    ¬ ((start₁.seconds ≤ t ∧ t < stop₁.seconds) ∧
      (start₂.seconds ≤ t ∧ t < stop₂.seconds)) := by
  rintro ⟨⟨hlo₁, hhi₁⟩, hlo₂, hhi₂⟩
  unfold overlaps at hoverlaps
  dsimp only at hoverlaps
  split at hoverlaps
  · simp only [decide_eq_false_iff_not] at hoverlaps
    omega
  split at hoverlaps
  · simp only [decide_eq_false_iff_not] at hoverlaps
    omega
  · cases hoverlaps

variable {excludeId : Option Uuid} {row : ScheduleRow}

/-- A row on weekly that the query does not select is not on together with the
times that were asked about. -/
theorem not_weeklyTimes_of_not_conflictsWeekly {classroomId : Text} {day : Int}
    {start stop : TimeOfDay}
    (hrow : conflictsWeekly classroomId day start stop excludeId row = false)
    (hroom : row.classroomId = classroomId) (hid : excludeId ≠ some row.id) {t : Nat}
    (htime : t ∈ row.weeklyTimes day) :
    ¬ (start.seconds ≤ t ∧ t < stop.seconds) := by
  obtain ⟨hweekly, hday, rowStart, hstart, rowStop, hstop, hlo, hhi⟩ := htime
  rw [Option.mem_def] at hstart hstop
  have hoverlaps : overlaps (start, stop) (rowStart, rowStop) = false := by
    simpa [conflictsWeekly, hroom, hweekly, hday, hstart, hstop, hid] using hrow
  intro hcommon
  exact not_common_of_not_overlaps hoverlaps t ⟨hcommon, hlo, hhi⟩

theorem not_oneOffTimes_of_not_conflictsOneOff {classroomId : Text} {startAt endAt : Int}
    (hrow : conflictsOneOff classroomId startAt endAt excludeId row = false)
    (hroom : row.classroomId = classroomId) (hid : excludeId ≠ some row.id) {t : Int}
    (htime : t ∈ row.oneOffTimes) : ¬ (startAt ≤ t ∧ t < endAt) := by
  obtain ⟨honeOff, rowStart, hstart, rowStop, hstop, hlo, hhi⟩ := htime
  rw [Option.mem_def] at hstart hstop
  rintro ⟨hfrom, hto⟩
  have hselected : rowStart < endAt ∧ startAt < rowStop := by omega
  simp [conflictsOneOff, hroom, honeOff, hstart, hstop, hid, hselected] at hrow

end OpenPath.Api.Schedules
