/-
# Schedule boundaries

Once a minute the server asks which classrooms have a schedule that starts or
ends in that minute, and announces a change to them. The current schedule of a
classroom is found by another query, with a precedence of one-off schedules. The
module relates the two: for stored schedules with valid values, from one minute
of the local clock to the next, the rows that are on change only in classrooms
with a boundary in the second minute.
-/

import OpenPath.Api.Schedules

namespace OpenPath.Api.ScheduleBoundary

open Foundation ScheduleTime Schedules

/-! ## Local time -/

/-- The minutes by which local time is ahead of UTC, at every instant. -/
abbrev Zone := Int → Int

/-- Minutes of the local clock since the midnight the epoch falls on. -/
def localMinute (zone : Zone) (date : Int) : Int := date / 60000 + zone date

/-- `Date.getDay`, from 0 on Sundays. The epoch is a Thursday. -/
def getDay (zone : Zone) (date : Int) : Int := (localMinute zone date / 1440 + 4) % 7

def localTime (zone : Zone) (date : Int) : TimeOfDay where
  seconds := (60 * (localMinute zone date % 1440) + date / 1000 % 60).toNat
  lt_day := by omega

/-- `date.toTimeString().slice(0, 5)` -/
def currentTime (zone : Zone) (date : Int) : Text := (localTime zone date).text.take 5

/-- `floored.setSeconds(0, 0)` -/
def floorToMinute (date : Int) : Int := date / 60000 * 60000

/-! ## The current schedule -/

def oneOffOn (classroomId : Text) (date : Int) (row : ScheduleRow) : Bool :=
  row.classroomId = classroomId && row.recurrence = some .oneOff &&
    (match row.startAt, row.endAt with
      | some start, some stop => start ≤ date && date < stop
      | _, _ => false)

def weeklyOn (classroomId : Text) (dayOfWeek : Int) (currentTime : Text) (row : ScheduleRow) :
    Bool :=
  row.classroomId = classroomId && weeklyRecurrence row && row.dayOfWeek = some dayOfWeek &&
    (match row.startTime, row.endTime, castTime currentTime with
      | some start, some stop, some now => start.seconds ≤ now.seconds && now.seconds < stop.seconds
      | _, _, _ => false)

/-- The rows that come first in the order of their start. -/
def earliest (rows : List ScheduleRow) : List ScheduleRow :=
  rows.filter fun row => rows.all fun other =>
    match row.startAt, other.startAt with
    | some start, some otherStart => start ≤ otherStart
    | _, _ => true

/-- The weekly rows that are on. There are none at a weekend. -/
def weeklyRowsOn (zone : Zone) (rows : List ScheduleRow) (classroomId : Text) (date : Int) :
    List ScheduleRow :=
  let dayOfWeek := getDay zone date
  if dayOfWeek = 0 ∨ dayOfWeek = 6 then []
  else rows.filter (weeklyOn classroomId dayOfWeek (currentTime zone date))

/-- `LIMIT 1` answers with any of the rows that stand first: which one is the
choice of the database. -/
def getCurrentSchedule (limitOne : List ScheduleRow → Option ScheduleRow) (zone : Zone)
    (rows : List ScheduleRow) (classroomId : Text) (date : Int) : Option ScheduleRow :=
  match limitOne (earliest (rows.filter (oneOffOn classroomId date))) with
  | some row => some row
  | none => limitOne (weeklyRowsOn zone rows classroomId date)

/-! ## Boundaries -/

def oneOffBoundary (floored : Int) (row : ScheduleRow) : Bool :=
  row.recurrence = some .oneOff && (row.startAt = some floored || row.endAt = some floored)

def weeklyBoundary (dayOfWeek : Int) (currentTime : Text) (row : ScheduleRow) : Bool :=
  weeklyRecurrence row && row.dayOfWeek = some dayOfWeek &&
    (match castTime currentTime with
      | some now => row.startTime = some now || row.endTime = some now
      | none => false)

def getClassroomIdsWithBoundaryAt (zone : Zone) (rows : List ScheduleRow) (date : Int) :
    List Text :=
  let oneOffRows := rows.filter (oneOffBoundary (floorToMinute date))
  let dayOfWeek := getDay zone date
  let weeklyRows :=
    if dayOfWeek ≠ 0 ∧ dayOfWeek ≠ 6 then
      rows.filter (weeklyBoundary dayOfWeek (currentTime zone date))
    else []
  ((oneOffRows ++ weeklyRows).map (·.classroomId)).eraseDups

/-! ## Delivery -/

def uniqueClassroomIds (classroomIds : List Text) : List Text :=
  (classroomIds.filter (· ≠ [])).eraseDups

structure ScheduleChangeDelivery where
  classroomIds : List Text
  boundaryClassroomIds : List Text
  expiredExemptionClassroomIds : List Text

/-- A failure of the exemption cleanup is logged and counts as no classrooms. -/
def resolveScheduleChangeDelivery (zone : Zone) (rows : List ScheduleRow)
    (exemptionCleanup : Except DbError (List Text)) (now : Int) : ScheduleChangeDelivery :=
  let boundaryClassroomIds :=
    uniqueClassroomIds (getClassroomIdsWithBoundaryAt zone rows now)
  let expiredExemptionClassroomIds :=
    match exemptionCleanup with
    | .ok classroomIds => uniqueClassroomIds classroomIds
    | .error _ => []
  { classroomIds := uniqueClassroomIds (boundaryClassroomIds ++ expiredExemptionClassroomIds)
    boundaryClassroomIds
    expiredExemptionClassroomIds }

/-! ## Valid rows -/

/-- A row whose values the validation accepts. -/
structure Valid (row : ScheduleRow) : Prop where
  weekly : weeklyRecurrence row = true →
    ∃ day, ∃ start stop : TimeOfDay, row.dayOfWeek = some day ∧ row.startTime = some start ∧
      row.endTime = some stop ∧ assertValidScheduleValues day start.text stop.text = .ok ()
  oneOff : row.recurrence = some .oneOff →
    ∃ start stop, row.startAt = some start ∧ row.endAt = some stop ∧
      assertValidOneOffScheduleValues (some start) (some stop) = .ok (start, stop)

variable {row : ScheduleRow}

theorem Valid.weekly_times (hvalid : Valid row) (hweekly : weeklyRecurrence row = true) :
    ∃ start stop : TimeOfDay, row.startTime = some start ∧ row.endTime = some stop ∧
      start.OnStep ∧ stop.OnStep := by
  obtain ⟨day, start, stop, -, hstart, hstop, hok⟩ := hvalid.weekly hweekly
  obtain ⟨-, start', stop', hstartCast, hstopCast, hstartStep, hstopStep, -⟩ :=
    assertValidScheduleValues_eq_ok hok
  obtain rfl := Option.some.inj ((castTime_text start).symm.trans hstartCast)
  obtain rfl := Option.some.inj ((castTime_text stop).symm.trans hstopCast)
  exact ⟨start, stop, hstart, hstop, hstartStep, hstopStep⟩

theorem Valid.oneOff_times (hvalid : Valid row) (honeOff : row.recurrence = some .oneOff) :
    ∃ start stop : Int, row.startAt = some start ∧ row.endAt = some stop ∧
      start % 300000 = 0 ∧ stop % 300000 = 0 := by
  obtain ⟨start, stop, hstart, hstop, hok⟩ := hvalid.oneOff honeOff
  obtain ⟨-, -, hstartStep, hstopStep, -⟩ := assertValidOneOffScheduleValues_eq_ok hok
  exact ⟨start, stop, hstart, hstop, hstartStep, hstopStep⟩

theorem assertValidScheduleValues_text {day : Int} {start stop : TimeOfDay}
    (hday : 1 ≤ day ∧ day ≤ 5) (hstart : start.OnStep) (hstop : stop.OnStep)
    (hlt : start.seconds < stop.seconds) :
    assertValidScheduleValues day start.text stop.text = .ok () := by
  have hin : ¬ (day < 1 ∨ 5 < day) := by omega
  have hminutes : ¬ stop.seconds / 60 ≤ start.seconds / 60 := by
    unfold TimeOfDay.OnStep at hstart hstop
    omega
  simp only [assertValidScheduleValues, if_neg hin, assertQuarterHourTime_text hstart,
    assertQuarterHourTime_text hstop, timeToMinutes_text, if_neg hminutes, Except.mapError]
  rfl

theorem valid_weeklyRow {rows : List ScheduleRow} {input : CreateScheduleInput}
    (hok : checkCreateSchedule rows input = .ok ()) (id : Uuid) : Valid (weeklyRow id input) := by
  obtain ⟨⟨⟩, hvalid, -⟩ := bind_eq_ok.mp hok
  obtain ⟨hday, start, stop, hstart, hstop, hstartStep, hstopStep, hlt⟩ :=
    assertValidScheduleValues_eq_ok hvalid
  refine ⟨fun _ => ⟨input.dayOfWeek, start, stop, rfl, hstart, hstop, ?_⟩, ?_⟩
  · exact assertValidScheduleValues_text hday hstartStep hstopStep hlt
  · intro honeOff
    cases honeOff

/-! ## From one minute to the next -/

/-- Two instants in successive minutes, with no change of the offset between. -/
structure NextMinute (zone : Zone) (before date : Int) : Prop where
  minute : date / 60000 = before / 60000 + 1
  offset : zone date = zone before

variable {zone : Zone} {rows : List ScheduleRow} {classroomId : Text} {before date : Int}

theorem NextMinute.localMinute_eq (hnext : NextMinute zone before date) :
    localMinute zone date = localMinute zone before + 1 := by
  have hminute := hnext.minute
  have hoffset := hnext.offset
  unfold localMinute
  omega

/-- The seconds since midnight at which the current minute starts. -/
theorem castTime_currentTime (zone : Zone) (date : Int) :
    ∃ now, castTime (currentTime zone date) = some now ∧
      (now.seconds : Int) = 60 * (localMinute zone date % 1440) := by
  refine ⟨(localTime zone date).minute, castTime_take_text _, ?_⟩
  simp only [TimeOfDay.minute, localTime]
  omega

theorem mem_of_oneOffBoundary (hrow : row ∈ rows)
    (hboundary : oneOffBoundary (floorToMinute date) row = true) :
    row.classroomId ∈ getClassroomIdsWithBoundaryAt zone rows date := by
  unfold getClassroomIdsWithBoundaryAt
  apply List.mem_eraseDups.mpr
  apply List.mem_map_of_mem
  exact List.mem_append_left _ (List.mem_filter.mpr ⟨hrow, hboundary⟩)

theorem mem_of_weeklyBoundary (hrow : row ∈ rows)
    (hday : getDay zone date ≠ 0 ∧ getDay zone date ≠ 6)
    (hboundary : weeklyBoundary (getDay zone date) (currentTime zone date) row = true) :
    row.classroomId ∈ getClassroomIdsWithBoundaryAt zone rows date := by
  unfold getClassroomIdsWithBoundaryAt
  apply List.mem_eraseDups.mpr
  apply List.mem_map_of_mem
  apply List.mem_append_right
  rw [if_pos hday]
  exact List.mem_filter.mpr ⟨hrow, hboundary⟩

/-- A one-off row that neither starts nor ends in the minute is on in it if it
was on before. -/
theorem oneOffOn_eq (hvalid : Valid row) (hnext : NextMinute zone before date)
    (hboundary : oneOffBoundary (floorToMinute date) row ≠ true) :
    oneOffOn classroomId before row = oneOffOn classroomId date row := by
  by_cases honeOff : row.recurrence = some .oneOff
  · obtain ⟨start, stop, hstart, hstop, hstartStep, hstopStep⟩ := hvalid.oneOff_times honeOff
    have hminute := hnext.minute
    have hends : start ≠ floorToMinute date ∧ stop ≠ floorToMinute date := by
      simpa [oneOffBoundary, honeOff, hstart, hstop] using hboundary
    unfold floorToMinute at hends
    have hstarted : start ≤ before ↔ start ≤ date := by omega
    have hgoing : before < stop ↔ date < stop := by omega
    simp [oneOffOn, hstart, hstop, hstarted, hgoing]
  · simp [oneOffOn, honeOff]

theorem weeklyOn_of_not {dayOfWeek : Int} {time : Text}
    (hnot : ¬ (weeklyRecurrence row = true ∧ row.dayOfWeek = some dayOfWeek)) :
    weeklyOn classroomId dayOfWeek time row = false := by
  by_cases hweekly : weeklyRecurrence row = true
  · have hday : row.dayOfWeek ≠ some dayOfWeek := fun h => hnot ⟨hweekly, h⟩
    simp [weeklyOn, hday]
  · simp [weeklyOn, hweekly]

/-- On the same day, a weekly row that neither starts nor ends in the minute is
on in it if it was on before. -/
theorem weeklyOn_eq (hvalid : Valid row) (hnext : NextMinute zone before date)
    (hmidnight : localMinute zone date % 1440 ≠ 0)
    (hboundary : weeklyBoundary (getDay zone date) (currentTime zone date) row ≠ true) :
    weeklyOn classroomId (getDay zone date) (currentTime zone before) row =
      weeklyOn classroomId (getDay zone date) (currentTime zone date) row := by
  by_cases hweekly : weeklyRecurrence row = true ∧ row.dayOfWeek = some (getDay zone date)
  · obtain ⟨hweekly, hday⟩ := hweekly
    obtain ⟨start, stop, hstart, hstop, hstartStep, hstopStep⟩ := hvalid.weekly_times hweekly
    obtain ⟨earlier, hearlier, hearlierSeconds⟩ := castTime_currentTime zone before
    obtain ⟨now, hnow, hnowSeconds⟩ := castTime_currentTime zone date
    have hlocal := hnext.localMinute_eq
    have hends : start ≠ now ∧ stop ≠ now := by
      simpa [weeklyBoundary, hweekly, hday, hnow, hstart, hstop] using hboundary
    have hstartNe : start.seconds ≠ now.seconds := fun h => hends.1 (TimeOfDay.ext h)
    have hstopNe : stop.seconds ≠ now.seconds := fun h => hends.2 (TimeOfDay.ext h)
    unfold TimeOfDay.OnStep at hstartStep hstopStep
    have hstarted : start.seconds ≤ earlier.seconds ↔ start.seconds ≤ now.seconds := by omega
    have hgoing : earlier.seconds < stop.seconds ↔ now.seconds < stop.seconds := by omega
    simp [weeklyOn, hearlier, hnow, hstart, hstop, hstarted, hgoing]
  · rw [weeklyOn_of_not hweekly, weeklyOn_of_not hweekly]

/-- No weekly row is on in the last minute of a day. -/
theorem weeklyOn_before_midnight (hvalid : Valid row) {dayOfWeek : Int}
    (hlast : localMinute zone date % 1440 = 1439) :
    weeklyOn classroomId dayOfWeek (currentTime zone date) row = false := by
  by_cases hweekly : weeklyRecurrence row = true
  · obtain ⟨start, stop, hstart, hstop, -, hstopStep⟩ := hvalid.weekly_times hweekly
    obtain ⟨now, hnow, hnowSeconds⟩ := castTime_currentTime zone date
    have hday := stop.lt_day
    unfold TimeOfDay.OnStep at hstopStep
    have hover : ¬ now.seconds < stop.seconds := by omega
    simp [weeklyOn, hnow, hstart, hstop, hover]
  · simp [weeklyOn, hweekly]

/-- A weekly row that does not start at midnight is off in the first minute of a
day. -/
theorem weeklyOn_midnight (hvalid : Valid row) (hfirst : localMinute zone date % 1440 = 0)
    (hboundary : weeklyBoundary (getDay zone date) (currentTime zone date) row ≠ true) :
    weeklyOn classroomId (getDay zone date) (currentTime zone date) row = false := by
  by_cases hweekly : weeklyRecurrence row = true ∧ row.dayOfWeek = some (getDay zone date)
  · obtain ⟨hweekly, hday⟩ := hweekly
    obtain ⟨start, stop, hstart, hstop, -⟩ := hvalid.weekly_times hweekly
    obtain ⟨now, hnow, hnowSeconds⟩ := castTime_currentTime zone date
    have hends : start ≠ now ∧ stop ≠ now := by
      simpa [weeklyBoundary, hweekly, hday, hnow, hstart, hstop] using hboundary
    have hstartNe : start.seconds ≠ now.seconds := fun h => hends.1 (TimeOfDay.ext h)
    have hlater : ¬ start.seconds ≤ now.seconds := by omega
    simp [weeklyOn, hnow, hstart, hstop, hlater]
  · exact weeklyOn_of_not hweekly

theorem oneOffRows_eq (hvalid : ∀ row ∈ rows, Valid row) (hnext : NextMinute zone before date)
    (hnone : classroomId ∉ getClassroomIdsWithBoundaryAt zone rows date) :
    rows.filter (oneOffOn classroomId before) = rows.filter (oneOffOn classroomId date) := by
  apply List.filter_congr
  intro row hrow
  by_cases hroom : row.classroomId = classroomId
  · apply oneOffOn_eq (hvalid row hrow) hnext
    intro hboundary
    exact hnone (hroom ▸ mem_of_oneOffBoundary hrow hboundary)
  · simp [oneOffOn, hroom]

theorem weeklyBoundary_of_not_mem
    (hnone : classroomId ∉ getClassroomIdsWithBoundaryAt zone rows date) (hrow : row ∈ rows)
    (hroom : row.classroomId = classroomId)
    (hday : ¬ (getDay zone date = 0 ∨ getDay zone date = 6)) :
    weeklyBoundary (getDay zone date) (currentTime zone date) row ≠ true := by
  intro hboundary
  exact hnone (hroom ▸ mem_of_weeklyBoundary hrow (not_or.mp hday) hboundary)

section

variable (hvalid : ∀ row ∈ rows, Valid row)
include hvalid

theorem weeklyRowsOn_before_midnight (hlast : localMinute zone date % 1440 = 1439) :
    weeklyRowsOn zone rows classroomId date = [] := by
  unfold weeklyRowsOn
  dsimp only
  split
  · rfl
  · apply List.filter_eq_nil_iff.mpr
    intro row hrow
    rw [weeklyOn_before_midnight (hvalid row hrow) hlast]
    exact Bool.false_ne_true

theorem weeklyRowsOn_midnight (hfirst : localMinute zone date % 1440 = 0)
    (hnone : classroomId ∉ getClassroomIdsWithBoundaryAt zone rows date) :
    weeklyRowsOn zone rows classroomId date = [] := by
  unfold weeklyRowsOn
  dsimp only
  split
  · rfl
  · rename_i hday
    apply List.filter_eq_nil_iff.mpr
    intro row hrow
    by_cases hroom : row.classroomId = classroomId
    · rw [weeklyOn_midnight (hvalid row hrow) hfirst
        (weeklyBoundary_of_not_mem hnone hrow hroom hday)]
      exact Bool.false_ne_true
    · simp [weeklyOn, hroom]

theorem weeklyRowsOn_eq (hnext : NextMinute zone before date)
    (hnone : classroomId ∉ getClassroomIdsWithBoundaryAt zone rows date) :
    weeklyRowsOn zone rows classroomId before = weeklyRowsOn zone rows classroomId date := by
  have hlocal := hnext.localMinute_eq
  by_cases hmidnight : localMinute zone date % 1440 = 0
  · -- The day changes: nothing is on before, and what is on after has just started.
    have hlast : localMinute zone before % 1440 = 1439 := by omega
    rw [weeklyRowsOn_before_midnight hvalid hlast, weeklyRowsOn_midnight hvalid hmidnight hnone]
  · have hsameDay : getDay zone before = getDay zone date := by
      unfold getDay
      omega
    unfold weeklyRowsOn
    rw [hsameDay]
    dsimp only
    split
    · rfl
    · rename_i hday
      apply List.filter_congr
      intro row hrow
      by_cases hroom : row.classroomId = classroomId
      · exact weeklyOn_eq (hvalid row hrow) hnext hmidnight
          (weeklyBoundary_of_not_mem hnone hrow hroom hday)
      · simp [weeklyOn, hroom]

end

theorem getCurrentSchedule_eq (limitOne : List ScheduleRow → Option ScheduleRow)
    (hvalid : ∀ row ∈ rows, Valid row) (hnext : NextMinute zone before date)
    (hnone : classroomId ∉ getClassroomIdsWithBoundaryAt zone rows date) :
    getCurrentSchedule limitOne zone rows classroomId before =
      getCurrentSchedule limitOne zone rows classroomId date := by
  unfold getCurrentSchedule
  rw [oneOffRows_eq hvalid hnext hnone, weeklyRowsOn_eq hvalid hnext hnone]

/-- A change of the current schedule from one minute to the next is at a
boundary. -/
theorem mem_boundary_of_change (limitOne : List ScheduleRow → Option ScheduleRow)
    (hvalid : ∀ row ∈ rows, Valid row) (hnext : NextMinute zone before date)
    (hchange : getCurrentSchedule limitOne zone rows classroomId before ≠
      getCurrentSchedule limitOne zone rows classroomId date) :
    classroomId ∈ getClassroomIdsWithBoundaryAt zone rows date := by
  by_contra hnone
  exact hchange (getCurrentSchedule_eq limitOne hvalid hnext hnone)

/-- A schedule for a Monday from nine to ten. -/
def mondayInput : CreateScheduleInput where
  classroomId := "room-1".toList
  teacherId := "teacher-1".toList
  groupId := "math".toList
  dayOfWeek := 1
  startTime := "09:00".toList
  endTime := "10:00".toList

/-- A schedule that starts at nine on a Monday, one millisecond before and at
nine: its classroom has a boundary. -/
theorem mem_boundary_of_change_monday :
    "room-1".toList ∈ getClassroomIdsWithBoundaryAt (fun _ => 0) [weeklyRow 1 mondayInput] 378000000 := by
  have hvalid : ∀ row ∈ [weeklyRow 1 mondayInput], Valid row := by
    intro row hrow
    rw [List.mem_singleton.mp hrow]
    have hok : checkCreateSchedule [] mondayInput = .ok () := by rfl
    exact valid_weeklyRow hok 1
  have hnext : NextMinute (fun _ => 0) 377999999 378000000 := ⟨by decide, rfl⟩
  have hbefore : getCurrentSchedule List.head? (fun _ => 0) [weeklyRow 1 mondayInput] "room-1".toList
      377999999 = none := by
    decide
  have hafter : getCurrentSchedule List.head? (fun _ => 0) [weeklyRow 1 mondayInput] "room-1".toList
      378000000 = some (weeklyRow 1 mondayInput) := by
    decide
  apply mem_boundary_of_change List.head? hvalid hnext
  rw [hbefore, hafter]
  exact (Option.some_ne_none _).symm

/-! ## The ticker -/

/-- `runTickOnce`: the classrooms that are told of a change. -/
def runTickOnce (zone : Zone) (rows : List ScheduleRow)
    (exemptionCleanup : Int → Except DbError (List Text)) (now : Int) : List Text :=
  uniqueClassroomIds (resolveScheduleChangeDelivery zone rows (exemptionCleanup now) now).classroomIds

theorem mem_uniqueClassroomIds {classroomIds : List Text} :
    classroomId ∈ uniqueClassroomIds classroomIds ↔ classroomId ∈ classroomIds ∧ classroomId ≠ [] := by
  simp [uniqueClassroomIds]

/-- When a classroom was last told, after ticks at the dates. -/
def lastTold (tick : Int → List Text) (classroomId : Text) : Int → List Int → Int :=
  List.foldl fun told date => if classroomId ∈ tick date then date else told

theorem apply_lastTold {α : Type} {current : Int → α} {tick : Int → List Text}
    (hsilent : ∀ before date, NextMinute zone before date → classroomId ∉ tick date →
      current before = current date) {start told : Int} {dates : List Int}
    (hrun : (start :: dates).IsChain (NextMinute zone)) (htold : current told = current start) :
    current (lastTold tick classroomId told dates) = current (dates.getLastD start) := by
  induction dates generalizing start told with
  | nil => exact htold
  | cons date dates ih =>
      obtain ⟨hnext, hrun⟩ := List.isChain_cons_cons.mp hrun
      rw [lastTold, List.foldl_cons, List.getLastD_cons]
      refine ih hrun ?_
      split
      · rfl
      · next hnot => exact htold.trans (hsilent start date hnext hnot)

/-- What a classroom was last told is its current schedule, after every run of ticks. -/
theorem getCurrentSchedule_lastTold (limitOne : List ScheduleRow → Option ScheduleRow)
    (exemptionCleanup : Int → Except DbError (List Text)) (hvalid : ∀ row ∈ rows, Valid row)
    (hroom : classroomId ≠ []) {start : Int} {dates : List Int}
    (hrun : (start :: dates).IsChain (NextMinute zone)) :
    getCurrentSchedule limitOne zone rows classroomId
        (lastTold (runTickOnce zone rows exemptionCleanup) classroomId start dates) =
      getCurrentSchedule limitOne zone rows classroomId (dates.getLastD start) := by
  refine apply_lastTold (fun before date hnext hsilent => ?_) hrun rfl
  refine getCurrentSchedule_eq limitOne hvalid hnext fun hboundary => hsilent ?_
  simp [runTickOnce, resolveScheduleChangeDelivery, mem_uniqueClassroomIds, hroom, hboundary]

/-- The cleanup of the exemptions fails at the second tick. -/
def failingCleanup (now : Int) : Except DbError (List Text) :=
  if now = 378060000 then .error .foreignKeyViolation else .ok []

theorem getCurrentSchedule_lastTold_monday :
    getCurrentSchedule List.head? (fun _ => 0) [weeklyRow 1 mondayInput] "room-1".toList
        (lastTold (runTickOnce (fun _ => 0) [weeklyRow 1 mondayInput] failingCleanup)
          "room-1".toList 377999999 [378000000, 378060000]) =
      getCurrentSchedule List.head? (fun _ => 0) [weeklyRow 1 mondayInput] "room-1".toList 378060000 :=
  have hok : checkCreateSchedule [] mondayInput = .ok () := by rfl
  getCurrentSchedule_lastTold List.head? failingCleanup
    (List.forall_mem_singleton.mpr (valid_weeklyRow hok 1)) (by decide)
    (List.isChain_cons_cons.mpr ⟨⟨by decide, rfl⟩,
      List.isChain_cons_cons.mpr ⟨⟨by decide, rfl⟩, .singleton _⟩⟩)

end OpenPath.Api.ScheduleBoundary
