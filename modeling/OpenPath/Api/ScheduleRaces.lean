/-
# Concurrent schedule edits

Creating and updating a schedule look for conflicting schedules in one statement
and write in another, without a lock and without a constraint in the table that
would refuse an overlap. The module interleaves any number of such calls, and of
deletions, statement by statement.

Two calls that both look before either writes can store overlapping schedules.
Where every schedule that the written one overlaps was there for its check to
see, and an update writes the times that were checked, no two stored schedules
overlap.
-/

import OpenPath.Api.Schedules
import OpenPath.Foundation.Concurrency

namespace OpenPath.Api.ScheduleRaces

open Foundation ScheduleTime Schedules

/-- The updates of the two update calls. -/
inductive Updates
  | weekly (input : UpdateScheduleInput)
  | oneOff (input : UpdateOneOffScheduleInput)

namespace Updates

def check (rows : List ScheduleRow) (schedule : ScheduleRow) (id : Uuid) :
    Updates → Except ScheduleError Unit
  | weekly input => checkUpdateSchedule rows schedule id input
  | oneOff input => checkUpdateOneOffSchedule rows schedule id input

def apply (row : ScheduleRow) : Updates → ScheduleRow
  | weekly input => applyUpdates input row
  | oneOff input => applyOneOffUpdates input row

/-- No value is supplied: the call returns without an update. -/
def isEmpty : Updates → Bool
  | weekly input =>
      input.dayOfWeek.isNone && input.startTime.isNone && input.endTime.isNone &&
        input.groupId.isNone
  | oneOff input => input.startAt.isNone && input.endAt.isNone && input.groupId.isNone

end Updates

/-- How far a call has come. A call that has made its check remembers what it is
going to write, and the rows the check saw. -/
inductive Phase
  | idle
  | insertReady (row : ScheduleRow) (seen : List ScheduleRow)
  | updateRead (id : Uuid) (updates : Updates) (schedule : ScheduleRow)
  | updateReady (id : Uuid) (updates : Updates) (schedule : ScheduleRow)
      (seen : List ScheduleRow)
  | settled

/-- One statement of a call. The first statement of a creation or an update
carries its input, and the identifier that a creation draws. A write may be
aborted by the database. -/
inductive Statement
  | createSchedule (id : Uuid) (input : CreateScheduleInput)
  | createOneOffSchedule (id : Uuid) (input : CreateOneOffScheduleInput)
  | readSchedule (id : Uuid) (updates : Updates)
  | checkUpdate
  | write (aborted : Bool)
  | deleteSchedule (id : Uuid)
  | deleteSchedulesByClassroom (classroomId : Text)

def move : Statement → List ScheduleRow × Phase → Option (List ScheduleRow × Phase)
  | .createSchedule id input, (rows, .idle) =>
      match checkCreateSchedule rows input with
      | .error _ => some (rows, .settled)
      | .ok () => some (rows, .insertReady (weeklyRow id input) rows)
  | .createOneOffSchedule id input, (rows, .idle) =>
      match checkCreateOneOffSchedule rows input with
      | .error _ => some (rows, .settled)
      | .ok () => some (rows, .insertReady (oneOffRow id input) rows)
  | .readSchedule id updates, (rows, .idle) =>
      match getScheduleById rows id with
      | none => some (rows, .settled)
      | some schedule => some (rows, .updateRead id updates schedule)
  | .checkUpdate, (rows, .updateRead id updates schedule) =>
      match updates.check rows schedule id with
      | .error _ => some (rows, .settled)
      | .ok () =>
          if updates.isEmpty then some (rows, .settled)
          else some (rows, .updateReady id updates schedule rows)
  | .write true, (rows, .insertReady _ _) => some (rows, .settled)
  | .write false, (rows, .insertReady row _) =>
      match insertSchedule row rows with
      | .error _ => some (rows, .settled)
      | .ok rows => some (rows, .settled)
  | .write true, (rows, .updateReady _ _ _ _) => some (rows, .settled)
  | .write false, (rows, .updateReady id updates _ _) =>
      some (updateWhere id (fun row => updates.apply row) rows, .settled)
  | .deleteSchedule id, (rows, .idle) => some (Schedules.deleteSchedule id rows, .settled)
  | .deleteSchedulesByClassroom classroomId, (rows, .idle) =>
      some (Schedules.deleteSchedulesByClassroom classroomId rows, .settled)
  | _, _ => none

/-- All interleavings of the calls, from a table without schedules. -/
def editors : TransitionSystem (Interleaved (List ScheduleRow) Phase) (Nat × Statement) :=
  Interleaved.system (fun rows => rows = []) .idle (Interleaved.movesOf move)

/-- Two rows that are on at the same times. -/
structure SameTimes (first second : ScheduleRow) : Prop where
  classroomId : first.classroomId = second.classroomId
  dayOfWeek : first.dayOfWeek = second.dayOfWeek
  startTime : first.startTime = second.startTime
  endTime : first.endTime = second.endTime
  startAt : first.startAt = second.startAt
  endAt : first.endAt = second.endAt
  recurrence : first.recurrence = second.recurrence

/-- The condition on a write: every row that the written row overlaps is one that
its check has looked at, for the times that are written. -/
def NotOverlappedMeanwhile (rows : List ScheduleRow) : Phase → Statement → Prop
  | .insertReady row seen, .write false =>
      ∀ other ∈ rows, Overlap row other → other ∈ seen
  | .updateReady id updates schedule seen, .write false =>
      ∀ current ∈ rows, current.id = id → ∀ other ∈ rows, other.id ≠ id →
        Overlap (updates.apply current) other →
          other ∈ seen ∧ SameTimes (updates.apply current) (updates.apply schedule)
  | _, _ => True

/-! ## The checks -/

variable {other : ScheduleRow}

theorem SameTimes.overlap {first second : ScheduleRow} (hsame : SameTimes first second)
    (hoverlap : Overlap first other) : Overlap second other := by
  obtain ⟨hroom, htimes⟩ := hoverlap
  refine ⟨hsame.classroomId.symm.trans hroom, ?_⟩
  rcases htimes with ⟨day, t, ⟨hweekly, hday, hrange⟩, hother⟩ | ⟨t, ⟨honeOff, hrange⟩, hother⟩
  · refine Or.inl ⟨day, t, ⟨?_, ?_, ?_⟩, hother⟩
    · rw [← hweekly, weeklyRecurrence, weeklyRecurrence, hsame.recurrence]
    · rw [← hday, hsame.dayOfWeek]
    · rw [← hsame.startTime, ← hsame.endTime]
      exact hrange
  · refine Or.inr ⟨t, ⟨?_, ?_⟩, hother⟩
    · rw [← honeOff, hsame.recurrence]
    · rw [← hsame.startAt, ← hsame.endAt]
      exact hrange

variable {row : ScheduleRow} {excludeId : Option Uuid}

/-- A weekly row overlaps no row that the conflict query leaves out. -/
theorem not_overlap_of_not_conflictsWeekly {day : Int} {start stop : TimeOfDay}
    (hrecurrence : row.recurrence ≠ some .oneOff) (hday : row.dayOfWeek = some day)
    (hstart : row.startTime = some start) (hstop : row.endTime = some stop)
    (hquery : conflictsWeekly row.classroomId day start stop excludeId other = false)
    (hid : excludeId ≠ some other.id) : ¬ Overlap row other := by
  rintro ⟨hroom, ⟨otherDay, t, ⟨-, hrowDay, hrange⟩, hother⟩ | ⟨t, ⟨honeOff, -⟩, -⟩⟩
  · obtain rfl : day = otherDay := Option.some.inj (hday.symm.trans hrowDay)
    obtain ⟨rowStart, hrowStart, rowStop, hrowStop, hlo, hhi⟩ := hrange
    obtain rfl : start = rowStart := Option.some.inj (hstart.symm.trans hrowStart)
    obtain rfl : stop = rowStop := Option.some.inj (hstop.symm.trans hrowStop)
    exact not_weeklyTimes_of_not_conflictsWeekly hquery hroom.symm hid hother ⟨hlo, hhi⟩
  · exact hrecurrence honeOff

/-- A one-off row overlaps no row that the conflict query leaves out. -/
theorem not_overlap_of_not_conflictsOneOff {startAt endAt : Int}
    (hrecurrence : row.recurrence = some .oneOff) (hstart : row.startAt = some startAt)
    (hstop : row.endAt = some endAt)
    (hquery : conflictsOneOff row.classroomId startAt endAt excludeId other = false)
    (hid : excludeId ≠ some other.id) : ¬ Overlap row other := by
  rintro ⟨hroom, ⟨day, t, ⟨hweekly, -⟩, -⟩ | ⟨t, ⟨-, hrange⟩, hother⟩⟩
  · simp [weeklyRecurrence, hrecurrence] at hweekly
  · obtain ⟨rowStart, hrowStart, rowStop, hrowStop, hlo, hhi⟩ := hrange
    obtain rfl : startAt = rowStart := Option.some.inj (hstart.symm.trans hrowStart)
    obtain rfl : endAt = rowStop := Option.some.inj (hstop.symm.trans hrowStop)
    exact not_oneOffTimes_of_not_conflictsOneOff hquery hroom.symm hid hother ⟨hlo, hhi⟩

variable {rows : List ScheduleRow}

theorem not_overlap_of_checkCreateSchedule {input : CreateScheduleInput}
    (hok : checkCreateSchedule rows input = .ok ()) (id : Uuid) :
    ∀ other ∈ rows, ¬ Overlap (weeklyRow id input) other := by
  obtain ⟨⟨⟩, hvalid, hok⟩ := bind_eq_ok.mp hok
  obtain ⟨-, start, stop, hstart, hstop, -⟩ := assertValidScheduleValues_eq_ok hvalid
  have hnone := noConflict_eq_ok hok
  simp only [findConflict, hstart, hstop, List.find?_eq_none] at hnone
  intro other hother
  have hquery : conflictsWeekly input.classroomId input.dayOfWeek start stop none other = false :=
    Bool.eq_false_of_not_eq_true (hnone other hother)
  exact not_overlap_of_not_conflictsWeekly (by simp [weeklyRow]) rfl hstart hstop hquery (by simp)

theorem not_overlap_of_checkCreateOneOffSchedule {input : CreateOneOffScheduleInput}
    (hok : checkCreateOneOffSchedule rows input = .ok ()) (id : Uuid) :
    ∀ other ∈ rows, ¬ Overlap (oneOffRow id input) other := by
  obtain ⟨⟨start, stop⟩, hvalid, hok⟩ := bind_eq_ok.mp hok
  obtain ⟨hstart, hstop, -⟩ := assertValidOneOffScheduleValues_eq_ok hvalid
  have hnone := noConflict_eq_ok hok
  simp only [findOneOffConflict, List.find?_eq_none] at hnone
  intro other hother
  have hquery : conflictsOneOff input.classroomId start stop none other = false :=
    Bool.eq_false_of_not_eq_true (hnone other hother)
  exact not_overlap_of_not_conflictsOneOff rfl hstart hstop hquery (by simp)

variable {id : Uuid} {schedule : ScheduleRow}

theorem not_overlap_of_checkUpdateSchedule {updates : UpdateScheduleInput}
    (hok : checkUpdateSchedule rows schedule id updates = .ok ()) :
    ∀ other ∈ rows, other.id ≠ id → ¬ Overlap (applyUpdates updates schedule) other := by
  unfold checkUpdateSchedule at hok
  split at hok
  · cases hok
  rename_i hrecurrence
  split at hok
  · rename_i baseDay baseStart baseStop hday hbaseStart hbaseStop
    obtain ⟨⟨⟩, hvalid, hok⟩ := bind_eq_ok.mp hok
    obtain ⟨-, start, stop, hstart, hstop, -⟩ := assertValidScheduleValues_eq_ok hvalid
    have hnone := noConflict_eq_ok hok
    simp only [findConflict, hstart, hstop, List.find?_eq_none] at hnone
    have hwrittenStart : (applyUpdates updates schedule).startTime = some start := by
      cases htime : updates.startTime with
      | none => simpa [applyUpdates, htime, hbaseStart, castTime_text] using hstart
      | some time => simpa [applyUpdates, htime] using hstart
    have hwrittenStop : (applyUpdates updates schedule).endTime = some stop := by
      cases htime : updates.endTime with
      | none => simpa [applyUpdates, htime, hbaseStop, castTime_text] using hstop
      | some time => simpa [applyUpdates, htime] using hstop
    have hwrittenDay : (applyUpdates updates schedule).dayOfWeek =
        some (updates.dayOfWeek.getD baseDay) := by
      cases hnew : updates.dayOfWeek with
      | none => simp [applyUpdates, hnew, hday]
      | some day => simp [applyUpdates, hnew]
    intro other hother hid
    have hquery : conflictsWeekly schedule.classroomId (updates.dayOfWeek.getD baseDay) start stop
        (some id) other = false :=
      Bool.eq_false_of_not_eq_true (hnone other hother)
    refine not_overlap_of_not_conflictsWeekly hrecurrence hwrittenDay hwrittenStart hwrittenStop
      hquery ?_
    simpa using Ne.symm hid
  · cases hok

theorem not_overlap_of_checkUpdateOneOffSchedule {updates : UpdateOneOffScheduleInput}
    (hok : checkUpdateOneOffSchedule rows schedule id updates = .ok ()) :
    ∀ other ∈ rows, other.id ≠ id → ¬ Overlap (applyOneOffUpdates updates schedule) other := by
  unfold checkUpdateOneOffSchedule at hok
  split at hok
  · cases hok
  rename_i hrecurrence
  split at hok
  · rename_i baseStart baseStop hbaseStart hbaseStop
    obtain ⟨⟨start, stop⟩, hvalid, hok⟩ := bind_eq_ok.mp hok
    obtain ⟨hstart, hstop, -⟩ := assertValidOneOffScheduleValues_eq_ok hvalid
    have hnone := noConflict_eq_ok hok
    simp only [findOneOffConflict, List.find?_eq_none] at hnone
    rw [← hbaseStart] at hstart
    rw [← hbaseStop] at hstop
    intro other hother hid
    have hquery : conflictsOneOff schedule.classroomId start stop (some id) other = false :=
      Bool.eq_false_of_not_eq_true (hnone other hother)
    refine not_overlap_of_not_conflictsOneOff (not_not.mp hrecurrence) hstart hstop hquery ?_
    simpa using Ne.symm hid
  · cases hok

/-! ## The invariant -/

/-- What the table keeps: distinct identifiers, and no overlap. -/
structure TableInvariant (rows : List ScheduleRow) : Prop where
  distinct : (rows.map (·.id)).Nodup
  nonOverlapping : NonOverlapping rows

/-- What a call that has made its check knows about the rows it saw. -/
def Checked : Phase → Prop
  | .insertReady row seen => ∀ other ∈ seen, ¬ Overlap row other
  | .updateReady id updates schedule seen =>
      ∀ other ∈ seen, other.id ≠ id → ¬ Overlap (updates.apply schedule) other
  | _ => True

theorem TableInvariant.insert {rows' : List ScheduleRow} (hinv : TableInvariant rows)
    (hfree : ∀ other ∈ rows, ¬ Overlap row other) (hinsert : insertSchedule row rows = .ok rows') :
    TableInvariant rows' := by
  unfold insertSchedule at hinsert
  split at hinsert
  · cases hinsert
  rename_i hfresh
  obtain rfl := Except.ok.inj hinsert
  refine ⟨?_, ?_⟩
  · rw [List.map_append, List.nodup_append]
    refine ⟨hinv.distinct, by simp, ?_⟩
    intro a ha b hb
    obtain ⟨other, hother, rfl⟩ := List.mem_map.mp ha
    simp only [List.map_cons, List.map_nil, List.mem_singleton] at hb
    rintro rfl
    exact hfresh (List.any_eq_true.mpr ⟨other, hother, by simpa using hb⟩)
  · unfold NonOverlapping
    rw [List.pairwise_append]
    refine ⟨hinv.nonOverlapping, List.pairwise_singleton _ _, ?_⟩
    intro other hother new hnew hoverlap
    rw [List.mem_singleton] at hnew
    exact hfree other hother (hnew ▸ hoverlap.symm)

variable {change : ScheduleRow → ScheduleRow}

theorem updateWhere_map_id (id : Uuid) (hchange : ∀ row, (change row).id = row.id)
    (rows : List ScheduleRow) :
    (updateWhere id change rows).map (·.id) = rows.map (·.id) := by
  unfold Schedules.updateWhere
  rw [List.map_map]
  apply List.map_congr_left
  intro row _
  dsimp only [Function.comp]
  split
  · exact hchange row
  · rfl

/-- Changing the row with an identifier keeps the invariant if the changed row
overlaps no other row. -/
theorem TableInvariant.update (hinv : TableInvariant rows)
    (hchange : ∀ row, (change row).id = row.id)
    (hfree : ∀ row ∈ rows, row.id = id → ∀ other ∈ rows, other.id ≠ id →
      ¬ Overlap (change row) other) :
    TableInvariant (updateWhere id change rows) := by
  refine ⟨by rw [updateWhere_map_id id hchange]; exact hinv.distinct, ?_⟩
  have hids : rows.Pairwise fun first second => first.id ≠ second.id :=
    List.pairwise_map.mp hinv.distinct
  unfold NonOverlapping Schedules.updateWhere
  rw [List.pairwise_map]
  refine List.Pairwise.imp_of_mem ?_ (hids.and hinv.nonOverlapping)
  rintro first second hfirst hsecond ⟨hne, hnot⟩
  by_cases hfirstId : first.id = id
  · have hsecondId : second.id ≠ id := fun h => hne (hfirstId.trans h.symm)
    rw [if_pos hfirstId, if_neg hsecondId]
    exact hfree first hfirst hfirstId second hsecond hsecondId
  · by_cases hsecondId : second.id = id
    · rw [if_neg hfirstId, if_pos hsecondId]
      exact fun hoverlap => hfree second hsecond hsecondId first hfirst hfirstId hoverlap.symm
    · rw [if_neg hfirstId, if_neg hsecondId]
      exact hnot

theorem TableInvariant.filter (hinv : TableInvariant rows) (keep : ScheduleRow → Bool) :
    TableInvariant (rows.filter keep) where
  distinct := hinv.distinct.sublist (List.filter_sublist.map _)
  nonOverlapping := List.Pairwise.sublist List.filter_sublist hinv.nonOverlapping

theorem apply_id (updates : Updates) (row : ScheduleRow) : (updates.apply row).id = row.id := by
  cases updates with
  | weekly input => rfl
  | oneOff input => rfl

/-- Every statement keeps the table, under the condition, and a check that
succeeds knows what it saw. -/
theorem move_invariant {statement : Statement} {phase : Phase}
    {outcome : List ScheduleRow × Phase} (hinv : TableInvariant rows) (hchecked : Checked phase)
    (hmeets : NotOverlappedMeanwhile rows phase statement)
    (hmove : move statement (rows, phase) = some outcome) :
    TableInvariant outcome.1 ∧ Checked outcome.2 := by
  cases statement with
  | createSchedule id input =>
      cases phase with
      | idle =>
          unfold move at hmove
          dsimp only at hmove
          split at hmove
          · obtain rfl := Option.some.inj hmove
            exact ⟨hinv, trivial⟩
          · rename_i hok
            obtain rfl := Option.some.inj hmove
            exact ⟨hinv, not_overlap_of_checkCreateSchedule hok id⟩
      | _ => cases hmove
  | createOneOffSchedule id input =>
      cases phase with
      | idle =>
          unfold move at hmove
          dsimp only at hmove
          split at hmove
          · obtain rfl := Option.some.inj hmove
            exact ⟨hinv, trivial⟩
          · rename_i hok
            obtain rfl := Option.some.inj hmove
            exact ⟨hinv, not_overlap_of_checkCreateOneOffSchedule hok id⟩
      | _ => cases hmove
  | readSchedule id updates =>
      cases phase with
      | idle =>
          unfold move at hmove
          dsimp only at hmove
          split at hmove <;> obtain rfl := Option.some.inj hmove <;> exact ⟨hinv, trivial⟩
      | _ => cases hmove
  | checkUpdate =>
      cases phase with
      | updateRead id updates schedule =>
          unfold move at hmove
          dsimp only at hmove
          split at hmove
          · obtain rfl := Option.some.inj hmove
            exact ⟨hinv, trivial⟩
          rename_i hok
          split at hmove
          · obtain rfl := Option.some.inj hmove
            exact ⟨hinv, trivial⟩
          · obtain rfl := Option.some.inj hmove
            refine ⟨hinv, ?_⟩
            cases updates with
            | weekly input => exact not_overlap_of_checkUpdateSchedule hok
            | oneOff input => exact not_overlap_of_checkUpdateOneOffSchedule hok
      | _ => cases hmove
  | write aborted =>
      cases phase with
      | insertReady row seen =>
          cases aborted with
          | true =>
              obtain rfl := Option.some.inj hmove
              exact ⟨hinv, trivial⟩
          | false =>
              have hfree : ∀ other ∈ rows, ¬ Overlap row other := by
                intro other hother hoverlap
                exact hchecked other (hmeets other hother hoverlap) hoverlap
              unfold move at hmove
              dsimp only at hmove
              split at hmove
              · obtain rfl := Option.some.inj hmove
                exact ⟨hinv, trivial⟩
              · rename_i hinsert
                obtain rfl := Option.some.inj hmove
                exact ⟨hinv.insert hfree hinsert, trivial⟩
      | updateReady id updates schedule seen =>
          cases aborted with
          | true =>
              obtain rfl := Option.some.inj hmove
              exact ⟨hinv, trivial⟩
          | false =>
              obtain rfl := Option.some.inj hmove
              refine ⟨hinv.update (apply_id updates) ?_, trivial⟩
              intro row hrow hid other hother hne hoverlap
              obtain ⟨hseen, hsame⟩ := hmeets row hrow hid other hother hne hoverlap
              exact hchecked other hseen hne (hsame.overlap hoverlap)
      | _ => cases aborted <;> cases hmove
  | deleteSchedule id =>
      cases phase with
      | idle =>
          obtain rfl := Option.some.inj hmove
          exact ⟨hinv.filter _, trivial⟩
      | _ => cases hmove
  | deleteSchedulesByClassroom classroomId =>
      cases phase with
      | idle =>
          obtain rfl := Option.some.inj hmove
          exact ⟨hinv.filter _, trivial⟩
      | _ => cases hmove

/-- In every run whose writes meet the condition, no two stored schedules
overlap. -/
theorem nonOverlapping_of_notOverlappedMeanwhile
    {state : Interleaved (List ScheduleRow) Phase}
    (hreach : editors.ReachableBy (Interleaved.Meets NotOverlappedMeanwhile) state) :
    NonOverlapping state.shared := by
  have hinv : TableInvariant state.shared ∧ ∀ call, Checked (state.phase call) := by
    refine Interleaved.invariant_and_remembered ?_ trivial ?_ hreach
    · rintro rows rfl
      exact ⟨by simp, List.Pairwise.nil⟩
    · intro statement rows phase outcome hinv hchecked hmeets hmove
      exact move_invariant hinv hchecked hmeets hmove
  exact hinv.1.nonOverlapping

/-! ## Two creations that both look first -/

def noSchedules : Interleaved (List ScheduleRow) Phase where
  shared := []
  phase _ := .idle

theorem noSchedules_init : editors.init noSchedules := ⟨rfl, fun _ => rfl⟩

/-- A schedule for the second hour of Monday. -/
def mondayAtNine (groupId : Text) : CreateScheduleInput where
  classroomId := "room-1".toList
  teacherId := "teacher-1".toList
  groupId := groupId
  dayOfWeek := 1
  startTime := "09:00".toList
  endTime := "10:00".toList

def bothCheckFirst : List (Nat × Statement) :=
  [(0, .createSchedule 1 (mondayAtNine "math".toList)),
   (1, .createSchedule 2 (mondayAtNine "history".toList)),
   (0, .write false), (1, .write false)]

/-- Both creations pass their check, and both schedules are stored. -/
theorem overlapping_after_both_checks :
    ∃ state, editors.Reachable state ∧ ¬ NonOverlapping state.shared := by
  have hrun : (Interleaved.run move noSchedules bothCheckFirst).map (·.shared) =
      some [weeklyRow 1 (mondayAtNine "math".toList),
        weeklyRow 2 (mondayAtNine "history".toList)] := by
    decide
  obtain ⟨state, hstate, hrows⟩ := Option.map_eq_some_iff.mp hrun
  refine ⟨state, Interleaved.reachable_run (.start noSchedules_init) hstate, ?_⟩
  have hstart : castTime "09:00".toList = some ⟨32400, by decide⟩ := by decide
  have hstop : castTime "10:00".toList = some ⟨36000, by decide⟩ := by decide
  have hon : ∀ id groupId,
      32400 ∈ (weeklyRow id (mondayAtNine groupId)).weeklyTimes 1 := by
    intro id groupId
    exact ⟨rfl, rfl, _, hstart, _, hstop, Nat.le_refl _, by decide⟩
  intro hnone
  rw [hrows, NonOverlapping, List.pairwise_pair] at hnone
  exact hnone ⟨rfl, Or.inl ⟨1, 32400, hon 1 _, hon 2 _⟩⟩

/-- The second creation looks after the first has written, and is refused. -/
theorem nonOverlapping_inTurn :
    ∃ state : Interleaved (List ScheduleRow) Phase,
      state.shared = [weeklyRow 1 (mondayAtNine "math".toList)] ∧
      checkCreateSchedule state.shared (mondayAtNine "history".toList) ≠ .ok () ∧
      NonOverlapping state.shared := by
  have hcheck : move (.createSchedule 1 (mondayAtNine "math".toList)) ([], .idle) =
      some ([], .insertReady (weeklyRow 1 (mondayAtNine "math".toList)) []) := by
    rfl
  have hwrite : move (.write false)
      ([], .insertReady (weeklyRow 1 (mondayAtNine "math".toList)) []) =
        some ([weeklyRow 1 (mondayAtNine "math".toList)], .settled) := by
    rfl
  have hstart : editors.ReachableBy (Interleaved.Meets NotOverlappedMeanwhile) noSchedules :=
    .start noSchedules_init
  have hchecked := Interleaved.reachableBy_move hstart 0 trivial hcheck
  have hmeets : Interleaved.Meets NotOverlappedMeanwhile
      (noSchedules.after 0 ([], .insertReady (weeklyRow 1 (mondayAtNine "math".toList)) []))
      (0, .write false) :=
    fun _ hother _ => hother
  have hwritten := Interleaved.reachableBy_move hchecked 0 hmeets hwrite
  refine ⟨_, rfl, ?_, nonOverlapping_of_notOverlappedMeanwhile hwritten⟩
  intro hok
  cases hok

end OpenPath.Api.ScheduleRaces
