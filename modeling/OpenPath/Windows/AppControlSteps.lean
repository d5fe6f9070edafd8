/-
# What a run can do to the journals

Whatever fails and wherever the process dies, each call of a run leaves the journals
alone, rewrites the `state.json` of a journal that can be read along an allowed
transition, or works on the directory that the run creates. From this, a journal in a
terminal state keeps it, and a journal that the recovery cannot resolve stays one.
-/

import OpenPath.Windows.AppControlJournal

namespace OpenPath.Windows.AppControl

open Foundation Machine

variable {Xml Hash Form : Type}

/-! ## Looking up directories -/

variable {id : Guid}

theorem Machine.directory_edit (machine : Machine Xml Hash)
    {change : Directory Xml Hash → Directory Xml Hash}
    (hid : ∀ found, (change found).id = found.id) (other : Guid) :
    (machine.edit id change).directory other =
      if other = id then (machine.directory id).map change else machine.directory other := by
  simp only [directory, edit]
  induction machine.journals with
  | nil => simp
  | cons found journals ih =>
      rw [List.map_cons, List.find?_cons, List.find?_cons, List.find?_cons]
      by_cases hfound : found.id = id
      · subst hfound
        rw [if_pos rfl, hid]
        by_cases hother : other = found.id
        · subst hother
          simp
        · have hne : (found.id == other) = false := beq_eq_false_iff_ne.mpr (Ne.symm hother)
          rw [hne, ih, if_neg hother, if_neg hother]
      · rw [if_neg hfound]
        by_cases hother : other = id
        · subst hother
          have hne : (found.id == other) = false := beq_eq_false_iff_ne.mpr hfound
          rw [if_pos rfl, hne, ih, if_pos rfl]
        · rw [ih, if_neg hother, if_neg hother]

variable {machine : Machine Xml Hash}

theorem Machine.directory_create {other : Guid} (hne : other ≠ id) :
    directory { machine with journals := machine.journals ++ [.empty id] } other =
      machine.directory other := by
  have hempty : ((Directory.empty id : Directory Xml Hash).id == other) = false :=
    beq_eq_false_iff_ne.mpr (Ne.symm hne)
  rw [directory, List.find?_append, List.find?_cons, hempty]
  exact Option.or_none

theorem Machine.edit_edit {change : Directory Xml Hash → Directory Xml Hash}
    (hid : ∀ found, (change found).id = found.id)
    (htwice : ∀ found, change (change found) = change found) :
    (machine.edit id change).edit id change = machine.edit id change := by
  simp only [edit, List.map_map, mk.injEq, List.map_inj_left, true_and]
  intro found _
  by_cases hfound : found.id = id
  · simp [hfound, hid, htwice]
  · simp [hfound]

/-- What `state.json` of a journal says, whether the module accepts it or not. -/
def Machine.written (machine : Machine Xml Hash) (id : Guid) : Option (StateFile Hash) :=
  (machine.directory id).bind Directory.state

/-- `state.json` is replaced. -/
def Directory.write (content : StateFile Hash) (found : Directory Xml Hash) :
    Directory Xml Hash :=
  { found with state := some content }

/-- A later `state.json` of the same transaction, with the same files. -/
structure StateFile.Continues (current content : StateFile Hash) : Prop where
  schemaVersion : content.schemaVersion = current.schemaVersion
  transactionId : content.transactionId = current.transactionId
  stateFile : content.stateFile = current.stateFile
  beforeLocal : content.beforeLocal = current.beforeLocal
  beforeEffective : content.beforeEffective = current.beforeEffective
  candidate : content.candidate = current.candidate
  beforeLocalSha256 : content.beforeLocalSha256 = current.beforeLocalSha256
  beforeEffectiveSha256 : content.beforeEffectiveSha256 = current.beforeEffectiveSha256
  candidateSha256 : content.candidateSha256 = current.candidateSha256
  requireConfigCommit : content.configurationMetadata.requireConfigCommit =
    current.configurationMetadata.requireConfigCommit
  before : content.configurationMetadata.before = current.configurationMetadata.before

theorem StateFile.continues_move (current : StateFile Hash) (state : State)
    (reasonCodes : List ReasonCode) : current.Continues (current.move state reasonCodes) :=
  ⟨rfl, rfl, rfl, rfl, rfl, rfl, rfl, rfl, rfl, rfl, rfl⟩

theorem StateFile.continues_verified (current : StateFile Hash) :
    current.Continues current.verified :=
  ⟨rfl, rfl, rfl, rfl, rfl, rfl, rfl, rfl, rfl, rfl, rfl⟩

theorem StateFile.continues_rolledBack (current : StateFile Hash) :
    current.Continues { current with internalRollbackSucceeded := true } :=
  ⟨rfl, rfl, rfl, rfl, rfl, rfl, rfl, rfl, rfl, rfl, rfl⟩

theorem StateFile.Continues.trans {current content later : StateFile Hash}
    (h : current.Continues content) (hlater : content.Continues later) :
    current.Continues later where
  schemaVersion := hlater.schemaVersion.trans h.schemaVersion
  transactionId := hlater.transactionId.trans h.transactionId
  stateFile := hlater.stateFile.trans h.stateFile
  beforeLocal := hlater.beforeLocal.trans h.beforeLocal
  beforeEffective := hlater.beforeEffective.trans h.beforeEffective
  candidate := hlater.candidate.trans h.candidate
  beforeLocalSha256 := hlater.beforeLocalSha256.trans h.beforeLocalSha256
  beforeEffectiveSha256 := hlater.beforeEffectiveSha256.trans h.beforeEffectiveSha256
  candidateSha256 := hlater.candidateSha256.trans h.candidateSha256
  requireConfigCommit := hlater.requireConfigCommit.trans h.requireConfigCommit
  before := hlater.before.trans h.before

theorem Machine.edit_write_write (machine : Machine Xml Hash) (id : Guid)
    (first second : StateFile Hash) :
    (machine.edit id (Directory.write first)).edit id (Directory.write second) =
      machine.edit id (Directory.write second) := by
  simp only [edit, List.map_map, mk.injEq, List.map_inj_left, true_and]
  intro found _
  by_cases hfound : found.id = id
  · simp [hfound, Directory.write]
  · simp [hfound]

theorem Machine.directory_write (machine : Machine Xml Hash) (content : StateFile Hash)
    (id other : Guid) :
    (machine.edit id (Directory.write content)).directory other =
      if other = id then (machine.directory id).map (Directory.write content)
      else machine.directory other := by
  have hid : ∀ found : Directory Xml Hash, (found.write content).id = found.id := fun _ => rfl
  exact machine.directory_edit hid other

/-- The journal is in the state, whether the module accepts it or not. -/
def InState (id : Guid) (state : State) (machine : Machine Xml Hash) : Prop :=
  (machine.written id).map StateFile.state = some state

instance (id : Guid) (state : State) (machine : Machine Xml Hash) :
    Decidable (InState id state machine) :=
  inferInstanceAs (Decidable (_ = _))

/-! ## Steps -/

theorem testTransition_of_terminal {source : State} (h : source.isTerminal = true)
    (target : State) : testTransition source target = false := by
  cases source <;> first | rfl | exact absurd h (by decide)

/-- What a run may also do in the directory that it creates. -/
inductive Creates (own : Guid) (before : Machine Xml Hash) : Machine Xml Hash → Prop
  | create (absent : before.directory own = none) :
      Creates own before { before with journals := before.journals ++ [.empty own] }
  | change {change : Directory Xml Hash → Directory Xml Hash}
      (hid : ∀ found, (change found).id = found.id)
      (unfinished : ∀ current, before.written own = some current →
        current.state.isTerminal = false) :
      Creates own before (before.edit own change)

variable {after : Machine Xml Hash}

theorem Creates.terminal {own : Guid} {before : Machine Xml Hash} {state : State}
    (h : Creates own before after) (hterminal : state.isTerminal = true)
    (hin : InState id state before) : InState id state after := by
  cases h with
  | create absent =>
      have hne : id ≠ own := by
        rintro rfl
        simp [InState, written, absent] at hin
      rw [InState, written, directory_create hne]
      exact hin
  | change hid unfinished =>
      by_cases hown : id = own
      · subst hown
        obtain ⟨current, hcurrent, rfl⟩ := Option.map_eq_some_iff.mp hin
        rw [unfinished current hcurrent] at hterminal
        exact absurd hterminal Bool.false_ne_true
      · rw [InState, written, directory_edit before hid, if_neg hown]
        exact hin

theorem Creates.directory_eq_none {own : Guid} {before : Machine Xml Hash}
    (h : Creates own before after) (hne : id ≠ own) (hnew : before.directory id = none) :
    after.directory id = none := by
  cases h with
  | create absent => exact (directory_create hne).trans hnew
  | change hid unfinished =>
      rw [directory_edit before hid, if_neg hne]
      exact hnew

section Reading

variable [DecidableEq Hash] (cmdlets : Cmdlets Xml Hash Form) {found : Directory Xml Hash}
  {current : StateFile Hash}

theorem Directory.written_of_readState (h : found.readState cmdlets = some current) :
    found.state = some current :=
  (Option.filter_eq_some_iff.mp h).1

variable {id : Guid} {machine : Machine Xml Hash}

theorem Machine.written_of_readState (h : machine.readState cmdlets id = some current) :
    machine.written id = some current := by
  obtain ⟨found, hfound, hread⟩ := Option.bind_eq_some_iff.mp h
  rw [written, hfound]
  exact found.written_of_readState cmdlets hread

variable {content : StateFile Hash}

section

variable (h : found.readState cmdlets = some current)
include h

theorem Directory.candidateFits_of_readState : candidateFits cmdlets found current = true := by
  have haccepts := (Option.filter_eq_some_iff.mp h).2
  simp only [Bool.and_eq_true] at haccepts
  exact haccepts.2

theorem Directory.recorded_of_readState (hstate : current.state ≠ .prepared) :
    current.candidateSha256.isSome := by
  have hfits := found.candidateFits_of_readState cmdlets h
  rw [candidateFits] at hfits
  cases hhash : current.candidateSha256 with
  | some hash => rfl
  | none =>
      rw [hhash] at hfits
      simp [hstate] at hfits

/-- Once the candidate is recorded, the journal is accepted with any state. -/
theorem Directory.readState_write (hfiles : current.Continues content)
    (hrecorded : current.candidateSha256.isSome) :
    (found.write content).readState cmdlets = some content := by
  have haccepts := (Option.filter_eq_some_iff.mp h).2
  obtain ⟨hash, hhash⟩ := Option.isSome_iff_exists.mp hrecorded
  have hcontent : content.candidateSha256 = some hash := hfiles.candidateSha256.trans hhash
  simp only [candidateFits, hhash] at haccepts
  refine Option.filter_eq_some_iff.mpr ⟨rfl, ?_⟩
  simp only [candidateFits, hcontent, hfiles.schemaVersion, hfiles.stateFile, hfiles.beforeLocal,
    hfiles.beforeEffective, hfiles.candidate, hfiles.beforeLocalSha256,
    hfiles.beforeEffectiveSha256]
  exact haccepts

end

theorem Machine.readState_write (h : machine.readState cmdlets id = some current)
    (hfiles : current.Continues content) (hrecorded : current.candidateSha256.isSome) :
    (machine.edit id (Directory.write content)).readState cmdlets id = some content := by
  obtain ⟨found, hfound, hread⟩ := Option.bind_eq_some_iff.mp h
  rw [readState, directory_write, if_pos rfl, hfound]
  exact found.readState_write cmdlets hread hfiles hrecorded

/-- The journals stay, or a `state.json` that can be read is replaced along an allowed
transition. -/
inductive Moves (before : Machine Xml Hash) : Machine Xml Hash → Prop
  | same {after : Machine Xml Hash} (h : after.journals = before.journals) : Moves before after
  | write {id : Guid} {current content : StateFile Hash}
      (read : before.readState cmdlets id = some current)
      (allowed : testTransition current.state content.state = true ∨ content.state = current.state)
      (recorded : content.candidateSha256 = current.candidateSha256) :
      Moves before (before.edit id (Directory.write content))

def Steps (own : Guid) (before after : Machine Xml Hash) : Prop :=
  Moves cmdlets before after ∨ Creates own before after

variable {cmdlets} {before after : Machine Xml Hash}

theorem Moves.terminal {state : State} (h : Moves cmdlets before after)
    (hterminal : state.isTerminal = true) (hin : InState id state before) : InState id state after := by
  cases h with
  | same hsame =>
      rw [InState, written, directory] at hin ⊢
      rw [hsame]
      exact hin
  | @write moved current content read allowed recorded =>
      rw [InState, written, directory_write]
      by_cases hid : id = moved
      · subst hid
        have hwritten := before.written_of_readState cmdlets read
        rw [InState, hwritten] at hin
        obtain rfl : current.state = state := Option.some_inj.mp hin
        obtain ⟨found, hfound, _⟩ := Option.bind_eq_some_iff.mp read
        rw [if_pos rfl, hfound]
        rcases allowed with hallowed | hsame
        · rw [testTransition_of_terminal hterminal] at hallowed
          exact absurd hallowed Bool.false_ne_true
        · exact congrArg some hsame
      · rw [if_neg hid]
        exact hin

variable (cmdlets)

/-- The recovery cannot resolve a journal: it is not accepted, or it is given up, or it
would be aborted without a candidate and then not be accepted. -/
def Directory.Stuck (found : Directory Xml Hash) : Prop :=
  ∀ current, found.readState cmdlets = some current →
    current.state = .recoveryRequired ∨
      (current.state = .prepared ∧ current.candidateSha256 = none)

def Stuck (id : Guid) (machine : Machine Xml Hash) : Prop :=
  ∃ found, machine.directory id = some found ∧ found.Stuck cmdlets

variable {cmdlets}

theorem Directory.Stuck.write {found : Directory Xml Hash} {current content : StateFile Hash}
    (h : found.Stuck cmdlets) (hread : found.readState cmdlets = some current)
    (hallowed : testTransition current.state content.state = true ∨ content.state = current.state)
    (hrecorded : content.candidateSha256 = current.candidateSha256) :
    (found.write content).Stuck cmdlets := by
  intro later hlater
  obtain rfl : content = later :=
    Option.some_inj.mp ((found.write content).written_of_readState cmdlets hlater)
  rcases h current hread with hrequired | ⟨hprepared, hnone⟩
  · rcases hallowed with hallowed | hsame
    · rw [hrequired] at hallowed
      exact absurd hallowed Bool.false_ne_true
    · exact .inl (hsame.trans hrequired)
  · by_cases hstate : content.state = .prepared
    · exact .inr ⟨hstate, hrecorded.trans hnone⟩
    · have hsome := (found.write content).recorded_of_readState cmdlets hlater hstate
      rw [hrecorded, hnone] at hsome
      exact absurd hsome Bool.false_ne_true

theorem Moves.stuck (h : Moves cmdlets before after) (hstuck : Stuck cmdlets id before) :
    Stuck cmdlets id after := by
  obtain ⟨found, hfound, hopeless⟩ := hstuck
  cases h with
  | same hsame =>
      refine ⟨found, ?_, hopeless⟩
      rw [directory, hsame]
      exact hfound
  | @write moved current content read allowed recorded =>
      by_cases hid : id = moved
      · subst hid
        refine ⟨found.write content, ?_, ?_⟩
        · rw [directory_write, if_pos rfl, hfound]
          rfl
        · rw [readState, hfound] at read
          exact hopeless.write read allowed recorded
      · refine ⟨found, ?_, hopeless⟩
        rw [directory_write, if_neg hid]
        exact hfound

theorem Creates.stuck {own : Guid} (h : Creates own before after) (hne : id ≠ own)
    (hstuck : Stuck cmdlets id before) :
    Stuck cmdlets id after := by
  obtain ⟨found, hfound, hopeless⟩ := hstuck
  refine ⟨found, ?_, hopeless⟩
  cases h with
  | create absent => exact (directory_create hne).trans hfound
  | change hid unfinished =>
      rw [directory_edit before hid, if_neg hne]
      exact hfound

theorem Moves.refl (machine : Machine Xml Hash) : Moves cmdlets machine machine :=
  .same rfl

end Reading

/-! ## Calls -/

section Calls

variable (cmdlets : Cmdlets Xml Hash Form) {request : Call Xml Hash}

theorem perform_again {machine reached : Machine Xml Hash}
    (h : perform cmdlets request machine = some reached) :
    (perform cmdlets request reached).getD reached = reached := by
  cases request with
  | step point =>
      cases h
      rfl
  | createDirectory id =>
      have hthere : (reached.directory id).isSome := by
        simp only [perform] at h
        split at h
        · next hthere =>
          obtain rfl := Option.some_inj.mp h
          exact hthere
        · obtain rfl := Option.some_inj.mp h
          rw [directory, List.find?_append, Option.isSome_or]
          simp [Directory.empty]
      simp only [perform, if_pos hthere]
      rfl
  | createFile path content =>
      simp only [perform] at h ⊢
      split at h
      · cases h
      · obtain rfl := Option.some_inj.mp h
        have hid : ∀ found : Directory Xml Hash,
            (found.addFile path.name content).id = found.id := by
          intro found
          cases path.name <;> rfl
        have htwice : ∀ found : Directory Xml Hash,
            (found.addFile path.name content).addFile path.name content =
              found.addFile path.name content := by
          intro found
          cases path.name <;> rfl
        split
        · rfl
        · exact edit_edit hid htwice
  | writeState id content =>
      obtain rfl := Option.some_inj.mp h
      exact edit_edit (fun _ => rfl) (fun _ => rfl)
  | setPolicy point policy =>
      obtain ⟨form, hform, rfl⟩ := Option.map_eq_some_iff.mp h
      simp [perform, hform]
  | writeConfig point config =>
      obtain rfl := Option.some_inj.mp h
      rfl

/-- The parts of a call: nothing has happened, or all of it. -/
theorem advanced_stores (request : Call Xml Hash) (parts : List Unit) (machine : Machine Xml Hash) :
    Program.advanced (stores cmdlets) request parts machine =
      if parts = [] then machine else (perform cmdlets request machine).getD machine := by
  have hagain : (perform cmdlets request ((perform cmdlets request machine).getD machine)).getD
      ((perform cmdlets request machine).getD machine) =
        (perform cmdlets request machine).getD machine := by
    cases hperform : perform cmdlets request machine with
    | none => exact (congrArg (Option.getD · machine) hperform)
    | some reached => exact perform_again cmdlets hperform
  cases parts with
  | nil => rfl
  | cons part parts =>
      rw [if_neg (List.cons_ne_nil _ _)]
      have hrest : ∀ later : List Unit,
          Program.advanced (stores cmdlets) request later
            ((perform cmdlets request machine).getD machine) =
              (perform cmdlets request machine).getD machine := by
        intro later
        induction later with
        | nil => rfl
        | cons next later ih =>
            change Program.advanced (stores cmdlets) request later
              ((perform cmdlets request ((perform cmdlets request machine).getD machine)).getD
                ((perform cmdlets request machine).getD machine)) = _
            rw [hagain]
            exact ih
      exact hrest parts

variable {cmdlets} {permitted : Machine Xml Hash → Machine Xml Hash → Prop} {Result : Type}
  {machine : Machine Xml Hash} {post : Except Raised Result → Machine Xml Hash → Prop}

/-- The rule for a call: what follows it holds before its effect, where it fails, and
after it, where it is done or fails. -/
theorem wp_call {next failed : JournalProgram Xml Hash Result} (hrefl : ∀ now, permitted now now)
    (success : ∀ reached, perform cmdlets request machine = some reached →
      permitted machine reached ∧ next.Wp (stores cmdlets) permitted reached post ∧
        failed.Wp (stores cmdlets) permitted reached post)
    (failure : failed.Wp (stores cmdlets) permitted machine post) :
    (Program.call request next failed).Wp (stores cmdlets) permitted machine post := by
  have hwhere : ∀ now, Program.Advanced (stores cmdlets) request machine now →
      now = machine ∨ perform cmdlets request machine = some now := by
    intro now reached
    induction reached with
    | refl => exact .inl rfl
    | tail _ moved ih =>
        obtain ⟨_, rfl⟩ := moved
        rcases ih with rfl | hnow
        · cases hperform : perform cmdlets request _ with
          | none => exact .inl (congrArg (Option.getD · _) hperform)
          | some after => exact .inr (congrArg some (congrArg (Option.getD · _) hperform).symm)
        · exact .inr (hnow.trans (congrArg some (perform_again cmdlets hnow).symm))
  intro now reached
  rcases hwhere now reached with rfl | hnow
  · refine ⟨fun progress => ?_, fun after hafter => ?_, failure⟩
    · cases hperform : perform cmdlets request now with
      | none =>
          have hstays : (stores cmdlets).advance request progress now = now :=
            congrArg (Option.getD · now) hperform
          rw [hstays]
          exact hrefl now
      | some after =>
          have hmoves : (stores cmdlets).advance request progress now = after :=
            congrArg (Option.getD · now) hperform
          rw [hmoves]
          exact (success after hperform).1
    · obtain ⟨hstep, hnext, _⟩ := success after hafter
      exact ⟨hstep, hnext⟩
  · obtain ⟨_, hnext, hfailed⟩ := success now hnow
    have hagain := perform_again cmdlets hnow
    refine ⟨fun progress => ?_, fun after hafter => ?_, hfailed⟩
    · have hstays : (stores cmdlets).advance request progress now = now := hagain
      rw [hstays]
      exact hrefl now
    · have hsame : after = now := by
        have hperform : perform cmdlets request now = some after := hafter
        rw [hperform] at hagain
        exact hagain
      subst hsame
      exact ⟨hrefl after, hnext⟩

theorem wp_check {condition : Bool} {raised : Raised}
    {post : Except Raised Unit → Machine Xml Hash → Prop}
    (passed : condition = true → post (.ok ()) machine) (failed : post (.error raised) machine) :
    (check condition raised).Wp (stores cmdlets) permitted machine post := by
  rw [check]
  split
  · next hcondition => exact passed hcondition
  · exact failed

theorem wp_caught {body : JournalProgram Xml Hash Bool}
    (h : body.Wp (stores cmdlets) permitted machine fun _ _ => True) :
    (body.catching fun _ => .done false).Wp (stores cmdlets) permitted machine fun _ _ => True := by
  apply Program.Wp.catching
  apply h.mono
  rintro (error | result) after _ <;> trivial

end Calls

end OpenPath.Windows.AppControl
