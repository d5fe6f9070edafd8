/-
# Current schedules of several classrooms

The policy of one classroom is resolved by looking up its current schedule, and
the policies of many by one pair of queries for all of them, whose rows are
sorted by classroom and of which the first of each classroom is kept. If no two
schedules of a classroom are on at the same time, both lookups agree, in
whatever order the database answers either.
-/

import OpenPath.Api.Classrooms
import OpenPath.Api.ScheduleBoundary
import OpenPath.Foundation.Answers

namespace OpenPath.Api.ScheduleLookup

open Foundation ScheduleTime Schedules ScheduleBoundary

/-- The order that the database completes: of schedules, by texts. -/
abbrev ScheduleOrder := RowOrder ScheduleRow Text

/-- The order of a nullable column, with nulls last. -/
def columnLe {β : Type} (le : β → β → Bool) : Option β → Option β → Bool
  | some first, some second => le first second
  | _, none => true
  | none, some _ => false

/-- `ORDER BY classroom_id` and then by a column. -/
def byClassroom {β : Type} (order : ScheduleOrder) (column : ScheduleRow → Option β)
    (le : β → β → Bool) (first second : ScheduleRow) : Bool :=
  if first.classroomId = second.classroomId then columnLe le (column first) (column second)
  else order.keyLe first.classroomId second.classroomId

/-- The one-off schedules of the listed classrooms that are on. -/
def oneOffRows (order : ScheduleOrder) (rows : List ScheduleRow) (classroomIds : List Text)
    (date : Int) : List ScheduleRow :=
  order.orderBy (byClassroom order (·.startAt) fun first second => first ≤ second)
    (rows.filter fun row => classroomIds.contains row.classroomId &&
      oneOffOn row.classroomId date row)

/-- The weekly schedules of the listed classrooms that are on. -/
def weeklyRows (order : ScheduleOrder) (rows : List ScheduleRow) (classroomIds : List Text)
    (dayOfWeek : Int) (currentTime : Text) : List ScheduleRow :=
  order.orderBy (byClassroom order (·.startTime) fun first second =>
      first.seconds ≤ second.seconds)
    (rows.filter fun row => classroomIds.contains row.classroomId &&
      weeklyOn row.classroomId dayOfWeek currentTime row)

/-- A map from classrooms to schedules, as the list of its entries. -/
def getCurrentSchedulesByClassroomIds (order : ScheduleOrder) (zone : Zone)
    (rows : List ScheduleRow) (classroomIds : List Text) (date : Int) :
    List (Text × ScheduleRow) :=
  let normalizedClassroomIds := (classroomIds.filter (· ≠ [])).eraseDups
  if normalizedClassroomIds = [] then []
  else
    let result :=
      (oneOffRows order rows normalizedClassroomIds date).foldl (setIfAbsent (·.classroomId)) []
    let unresolvedClassroomIds :=
      normalizedClassroomIds.filter fun id => !(result.lookup id).isSome
    let dayOfWeek := getDay zone date
    if unresolvedClassroomIds = [] ∨ dayOfWeek = 0 ∨ dayOfWeek = 6 then result
    else
      (weeklyRows order rows unresolvedClassroomIds dayOfWeek (currentTime zone date)).foldl
        (setIfAbsent (·.classroomId)) result

/-! ## One schedule at a time -/

section NonOverlapping

variable {rows : List ScheduleRow} (hrows : NonOverlapping rows) (classroomId : Text)
include hrows

theorem oneOff_length_le_one (date : Int) :
    (rows.filter (oneOffOn classroomId date)).length ≤ 1 := by
  apply length_le_one_of_pairwise (hrows.filter _)
  intro first hfirst second hsecond
  have hon : ∀ row ∈ rows.filter (oneOffOn classroomId date),
      row.classroomId = classroomId ∧ date ∈ row.oneOffTimes := by
    intro row hrow
    have hselected := (List.mem_filter.mp hrow).2
    unfold oneOffOn at hselected
    cases hstart : row.startAt <;> cases hstop : row.endAt <;>
      simp_all [ScheduleRow.oneOffTimes]
  obtain ⟨hfirstRoom, hfirstOn⟩ := hon first hfirst
  obtain ⟨hsecondRoom, hsecondOn⟩ := hon second hsecond
  exact ⟨hfirstRoom.trans hsecondRoom.symm, Or.inr ⟨date, hfirstOn, hsecondOn⟩⟩

/-- At most one weekly schedule of a classroom is on. -/
theorem weekly_length_le_one (dayOfWeek : Int) (time : Text) :
    (rows.filter (weeklyOn classroomId dayOfWeek time)).length ≤ 1 := by
  apply length_le_one_of_pairwise (hrows.filter _)
  intro first hfirst second hsecond
  have hon : ∀ row ∈ rows.filter (weeklyOn classroomId dayOfWeek time),
      row.classroomId = classroomId ∧
        ∃ now ∈ castTime time, now.seconds ∈ row.weeklyTimes dayOfWeek := by
    intro row hrow
    have hselected := (List.mem_filter.mp hrow).2
    unfold weeklyOn at hselected
    cases hstart : row.startTime <;> cases hstop : row.endTime <;>
      cases hnow : castTime time <;> simp_all [ScheduleRow.weeklyTimes]
  obtain ⟨hfirstRoom, now, hnow, hfirstOn⟩ := hon first hfirst
  obtain ⟨hsecondRoom, now', hnow', hsecondOn⟩ := hon second hsecond
  obtain rfl : now = now' := Option.some.inj (hnow.symm.trans hnow')
  exact ⟨hfirstRoom.trans hsecondRoom.symm,
    Or.inl ⟨dayOfWeek, now.seconds, hfirstOn, hsecondOn⟩⟩

end NonOverlapping

variable {rows : List ScheduleRow}

theorem earliest_eq (hone : rows.length ≤ 1) : earliest rows = rows := by
  unfold earliest
  apply List.filter_eq_self.mpr
  intro row hrow
  apply List.all_eq_true.mpr
  intro other hother
  have hsame : other = row := by
    cases rows with
    | nil => cases hrow
    | cons first rest =>
        have hrest : rest = [] := List.eq_nil_of_length_eq_zero (by simpa using hone)
        rw [hrest] at hrow hother
        rw [List.mem_singleton.mp hother, List.mem_singleton.mp hrow]
  rw [hsame]
  cases row.startAt <;> simp

/-- The lookup for one classroom takes the only row that is on. -/
theorem getCurrentSchedule_eq_head (order : ScheduleOrder) (zone : Zone)
    (hrows : NonOverlapping rows) (classroomId : Text) (date : Int) :
    getCurrentSchedule order.limitOne zone rows classroomId date =
      (rows.filter (oneOffOn classroomId date)).head?.or
        (weeklyRowsOn zone rows classroomId date).head? := by
  have honeOff := oneOff_length_le_one hrows classroomId date
  have hweekly : (weeklyRowsOn zone rows classroomId date).length ≤ 1 := by
    unfold weeklyRowsOn
    dsimp only
    split
    · exact Nat.zero_le 1
    · exact weekly_length_le_one hrows classroomId _ _
  unfold getCurrentSchedule
  rw [earliest_eq honeOff, order.limitOne_eq honeOff, order.limitOne_eq hweekly]
  cases (rows.filter (oneOffOn classroomId date)).head? <;> rfl

/-! ## Many classrooms at once -/

section Selected

variable {rows : List ScheduleRow} {classroomIds : List Text} {classroomId : Text}

/-- Of the rows selected for a list of classrooms, those of one classroom are
the rows selected for it. -/
theorem filter_selected {selects : Text → ScheduleRow → Bool}
    (hselects : ∀ row, selects classroomId row = true → row.classroomId = classroomId)
    (hlisted : classroomId ∈ classroomIds) :
    (rows.filter fun row => classroomIds.contains row.classroomId &&
        selects row.classroomId row).filter (·.classroomId == classroomId) =
      rows.filter (selects classroomId) := by
  rw [List.filter_filter]
  apply List.filter_congr
  intro row _
  by_cases hroom : row.classroomId = classroomId
  · simp [hroom, hlisted]
  · have hnot : selects classroomId row = false :=
      Bool.eq_false_iff.mpr fun h => hroom (hselects row h)
    simp [hroom, hnot]

variable {le : ScheduleRow → ScheduleRow → Bool}

theorem find?_orderBy_selected (order : ScheduleOrder) (selects : Text → ScheduleRow → Bool)
    (hselects : ∀ row, selects classroomId row = true → row.classroomId = classroomId)
    (hone : (rows.filter (selects classroomId)).length ≤ 1) (hlisted : classroomId ∈ classroomIds) :
    (order.orderBy le (rows.filter fun row => classroomIds.contains row.classroomId &&
        selects row.classroomId row)).find? (·.classroomId == classroomId) =
      (rows.filter (selects classroomId)).head? := by
  rw [← filter_selected hselects hlisted] at hone ⊢
  exact find?_eq_of_perm (order.orderBy_perm le _) hone

theorem find?_orderBy_not_listed (order : ScheduleOrder) (selects : Text → ScheduleRow → Bool)
    (hlisted : classroomId ∉ classroomIds) :
    (order.orderBy le (rows.filter fun row => classroomIds.contains row.classroomId &&
        selects row.classroomId row)).find? (·.classroomId == classroomId) = none := by
  apply List.find?_eq_none.mpr
  intro row hrow
  have hselected := (List.mem_filter.mp ((order.orderBy_perm le _).mem_iff.mp hrow)).2
  have hroom : row.classroomId ∈ classroomIds := by
    simp only [Bool.and_eq_true, List.contains_iff_mem] at hselected
    exact hselected.1
  simp only [beq_iff_eq]
  rintro rfl
  exact hlisted hroom

end Selected

variable {row : ScheduleRow}

theorem classroomId_of_oneOffOn {classroomId : Text} {date : Int}
    (hon : oneOffOn classroomId date row = true) : row.classroomId = classroomId := by
  simp only [oneOffOn, Bool.and_eq_true, decide_eq_true_eq] at hon
  exact hon.1.1

theorem classroomId_of_weeklyOn {classroomId : Text} {dayOfWeek : Int} {time : Text}
    (hon : weeklyOn classroomId dayOfWeek time row = true) :
    row.classroomId = classroomId := by
  simp only [weeklyOn, Bool.and_eq_true, decide_eq_true_eq] at hon
  exact hon.1.1.1

section Lookup

variable {rows : List ScheduleRow} {classroomIds : List Text} {classroomId : Text}
variable (order : ScheduleOrder) (zone : Zone) (date : Int)

/-- The map holds the current schedule of every listed classroom with an
identifier, and nothing else. -/
theorem lookup_eq (hrows : NonOverlapping rows) :
    (getCurrentSchedulesByClassroomIds order zone rows classroomIds date).lookup classroomId =
      if classroomId ∈ classroomIds ∧ classroomId ≠ [] then
        (rows.filter (oneOffOn classroomId date)).head?.or
          (weeklyRowsOn zone rows classroomId date).head?
      else none := by
  have hmem : classroomId ∈ (classroomIds.filter (· ≠ [])).eraseDups ↔
      classroomId ∈ classroomIds ∧ classroomId ≠ [] := by
    simp [List.mem_eraseDups]
  unfold getCurrentSchedulesByClassroomIds
  dsimp only
  generalize (classroomIds.filter (· ≠ [])).eraseDups = normalized at hmem ⊢
  by_cases hempty : normalized = []
  · rw [if_pos hempty, if_neg (by simp [← hmem, hempty])]
    rfl
  rw [if_neg hempty]
  by_cases hlisted : classroomId ∈ normalized
  · rw [if_pos (hmem.mp hlisted)]
    have honeOff : ((oneOffRows order rows normalized date).foldl
        (setIfAbsent (·.classroomId)) []).lookup classroomId =
          (rows.filter (oneOffOn classroomId date)).head? := by
      rw [lookup_foldl_setIfAbsent, List.lookup_nil, Option.none_or]
      exact find?_orderBy_selected order (oneOffOn · date) (fun _ => classroomId_of_oneOffOn)
        (oneOff_length_le_one hrows classroomId date) hlisted
    generalize (oneOffRows order rows normalized date).foldl
      (setIfAbsent (·.classroomId)) [] = result at honeOff ⊢
    cases hhead : (rows.filter (oneOffOn classroomId date)).head? with
    | some row =>
        -- The one-off schedule is kept, whatever is added after it.
        rw [hhead] at honeOff
        rw [Option.some_or]
        split
        · exact honeOff
        · rw [lookup_foldl_setIfAbsent, honeOff, Option.some_or]
    | none =>
        rw [hhead] at honeOff
        rw [Option.none_or]
        have hunresolved : classroomId ∈
            normalized.filter fun id => !(result.lookup id).isSome :=
          List.mem_filter.mpr ⟨hlisted, by simp [honeOff]⟩
        unfold weeklyRowsOn
        dsimp only
        by_cases hweekend : getDay zone date = 0 ∨ getDay zone date = 6
        · rw [if_pos (Or.inr hweekend), if_pos hweekend, honeOff]
          rfl
        · have hgo : ¬ (normalized.filter (fun id => !(result.lookup id).isSome) = [] ∨
              getDay zone date = 0 ∨ getDay zone date = 6) := by
            rintro (hnil | hend)
            · rw [hnil] at hunresolved
              cases hunresolved
            · exact hweekend hend
          rw [if_neg hgo, if_neg hweekend, lookup_foldl_setIfAbsent, honeOff, Option.none_or]
          exact find?_orderBy_selected order
            (weeklyOn · (getDay zone date) (currentTime zone date))
            (fun _ => classroomId_of_weeklyOn)
            (weekly_length_le_one hrows classroomId _ _) hunresolved
  · rw [if_neg fun h => hlisted (hmem.mpr h)]
    have honeOff : ((oneOffRows order rows normalized date).foldl
        (setIfAbsent (·.classroomId)) []).lookup classroomId = none := by
      rw [lookup_foldl_setIfAbsent, List.lookup_nil, Option.none_or]
      exact find?_orderBy_not_listed order (oneOffOn · date) hlisted
    split
    · exact honeOff
    · rw [lookup_foldl_setIfAbsent, honeOff, Option.none_or]
      exact find?_orderBy_not_listed order
        (weeklyOn · (getDay zone date) (currentTime zone date))
        fun h => hlisted (List.mem_filter.mp h).1

end Lookup

theorem getCurrentSchedule_nil (limitOne : ScheduleOrder) (zone : Zone) (tables : PolicyTables)
    (hrows : NonOverlapping tables.schedules) (date : Int) :
    getCurrentSchedule limitOne.limitOne zone tables.schedules [] date = none := by
  have honeOff : tables.schedules.filter (oneOffOn [] date) = [] := by
    apply List.filter_eq_nil_iff.mpr
    intro row hrow hon
    exact tables.schedule_classroomId_ne_nil hrow (classroomId_of_oneOffOn hon)
  have hweekly : weeklyRowsOn zone tables.schedules [] date = [] := by
    unfold weeklyRowsOn
    dsimp only
    split
    · rfl
    · apply List.filter_eq_nil_iff.mpr
      intro row hrow hon
      exact tables.schedule_classroomId_ne_nil hrow (classroomId_of_weeklyOn hon)
  rw [getCurrentSchedule_eq_head limitOne zone hrows, honeOff, hweekly]
  rfl

/-- The two lookups agree on every listed classroom, and the second one answers
for no other. -/
theorem lookup_eq_getCurrentSchedule (single bulk : ScheduleOrder) (zone : Zone)
    (tables : PolicyTables) (hrows : NonOverlapping tables.schedules) (classroomIds : List Text)
    (classroomId : Text) (date : Int) :
    (getCurrentSchedulesByClassroomIds bulk zone tables.schedules classroomIds date).lookup
        classroomId =
      if classroomId ∈ classroomIds then
        getCurrentSchedule single.limitOne zone tables.schedules classroomId date
      else none := by
  rw [lookup_eq bulk zone date hrows]
  by_cases hlisted : classroomId ∈ classroomIds
  · by_cases hnil : classroomId = []
    · rw [hnil, if_neg (by simp), getCurrentSchedule_nil single zone tables hrows, ite_self]
    · rw [if_pos ⟨hlisted, hnil⟩, if_pos hlisted, getCurrentSchedule_eq_head single zone hrows]
  · rw [if_neg fun h => hlisted h.1, if_neg hlisted]

/-! ## Two classrooms -/

def roomA : ClassroomRow where
  id := "room_a".toList
  name := "a".toList
  displayName := "A".toList
  defaultGroupId := none
  activeGroupId := none

def roomB : ClassroomRow := { roomA with id := "room_b".toList, name := "b".toList }

/-- On Mondays from nine to ten. -/
def mondayRow : ScheduleRow where
  id := 1
  classroomId := "room_a".toList
  teacherId := "teacher".toList
  groupId := "math".toList
  dayOfWeek := some 1
  startTime := some ⟨32400, by decide⟩
  endTime := some ⟨36000, by decide⟩
  startAt := none
  endAt := none
  recurrence := none

/-- In the same hour of the Monday after the epoch, in the other room. -/
def oneOffRow : ScheduleRow :=
  { mondayRow with
    id := 2
    classroomId := "room_b".toList
    dayOfWeek := none
    startTime := none
    endTime := none
    startAt := some 378000000
    endAt := some 381600000
    recurrence := some .oneOff }

def twoRooms : PolicyTables where
  classrooms := [roomA, roomB]
  machines := []
  exemptions := []
  schedules := [mondayRow, oneOffRow]
  room_id := by
    intro classroom hclassroom
    rcases List.mem_pair.mp hclassroom with rfl | rfl <;> decide
  classroom_key := by decide
  machine_key := by decide
  hostname_key := by decide
  hostname_slug := by
    intro machine hmachine
    cases hmachine
  machine_classroom := by
    intro machine hmachine
    cases hmachine
  schedule_classroom := by
    intro schedule hschedule
    rcases List.mem_pair.mp hschedule with rfl | rfl
    · exact ⟨roomA, by simp, rfl⟩
    · exact ⟨roomB, by simp, rfl⟩
  exemption_machine := by
    intro exemption hexemption
    cases hexemption
  exemption_group := by
    intro exemption hexemption
    cases hexemption

/-- Rows in the order of the table, and texts in the order of code points. -/
def tableOrder : ScheduleOrder where
  arrange := id
  perm := List.Perm.refl
  keyLe := codePointLe

/-- At nine, for a list with a classroom twice and an unknown one. -/
theorem lookup_twoRooms :
    (getCurrentSchedulesByClassroomIds tableOrder (fun _ => 0) twoRooms.schedules
        ["room_b".toList, "room_a".toList, "room_b".toList, "room_c".toList] 378000000).lookup
          "room_a".toList = some mondayRow := by
  have hrows : NonOverlapping twoRooms.schedules := by
    have hrooms : mondayRow.classroomId ≠ oneOffRow.classroomId := by decide
    exact List.pairwise_pair.mpr fun hoverlap => hrooms hoverlap.1
  have hagree := lookup_eq_getCurrentSchedule tableOrder tableOrder (fun _ => 0) twoRooms hrows
    ["room_b".toList, "room_a".toList, "room_b".toList, "room_c".toList] "room_a".toList 378000000
  rw [hagree, if_pos (by decide)]
  decide

end OpenPath.Api.ScheduleLookup
