/-
# Journals that agree with the policy and the configuration

Between two runs every journal but the last is in a terminal state and accepted. The last
one may be interrupted, and then the policy is the one before it or its candidate, as far
as its state says which. The configuration records a committed transaction, or the
interrupted one, which still can be undone.

The other possibility is that a journal is stuck. It stays so, and is reported for ever.
-/

import OpenPath.Windows.AppControlPrograms

namespace OpenPath.Windows.AppControl

open Foundation

variable {Xml Hash Form : Type}

/-! ## Policies -/

/-- Both texts are policies, with one canonical form. -/
def Cmdlets.Same (cmdlets : Cmdlets Xml Hash Form) (expected actual : Xml) : Prop :=
  ∃ form, cmdlets.canonical expected = some form ∧ cmdlets.canonical actual = some form

/-- `Set-AppLockerPolicy` sets the policy that it is given. -/
def Cmdlets.Works (cmdlets : Cmdlets Xml Hash Form) : Prop :=
  ∀ policy form, cmdlets.canonical policy = some form →
    cmdlets.canonical (cmdlets.stored policy) = some form

section Policies

variable {cmdlets : Cmdlets Xml Hash Form} {first second third : Xml}

theorem Cmdlets.compare_eq_true [DecidableEq Form] :
    cmdlets.compare first second = true ↔ cmdlets.Same first second := by
  rw [compare, Bool.and_eq_true, decide_eq_true_eq, Option.isSome_iff_exists]
  constructor
  · rintro ⟨⟨form, hform⟩, hsame⟩
    exact ⟨form, hform, hsame ▸ hform⟩
  · rintro ⟨form, hfirst, hsecond⟩
    exact ⟨⟨form, hfirst⟩, hfirst.trans hsecond.symm⟩

theorem Cmdlets.Same.symm (h : cmdlets.Same first second) : cmdlets.Same second first := by
  obtain ⟨form, hfirst, hsecond⟩ := h
  exact ⟨form, hsecond, hfirst⟩

theorem Cmdlets.Same.trans (h : cmdlets.Same first second) (hnext : cmdlets.Same second third) :
    cmdlets.Same first third := by
  obtain ⟨form, hfirst, hsecond⟩ := h
  obtain ⟨other, hsecond', hthird⟩ := hnext
  obtain rfl : form = other := Option.some_inj.mp (hsecond.symm.trans hsecond')
  exact ⟨form, hfirst, hthird⟩

theorem Cmdlets.Same.left (h : cmdlets.Same first second) : cmdlets.Same first first :=
  h.trans h.symm

theorem Cmdlets.Works.same_stored (hworks : cmdlets.Works) {form : Form}
    (h : cmdlets.canonical first = some form) : cmdlets.Same first (cmdlets.stored first) :=
  ⟨form, h, hworks first form h⟩

end Policies

/-! ## Journals -/

/-- The policy that a journal settles: the candidate of a committed transaction, and the
snapshot that a rolled-back one has restored. -/
def Directory.rule (found : Directory Xml Hash) : Option Xml :=
  match found.state.map StateFile.state with
  | some .committed => found.candidate
  | some .rolledBack => found.beforeLocal
  | _ => none

/-- The policy that the last such journal settles, or the first policy. -/
def ruling (initial : Xml) (journals : List (Directory Xml Hash)) : Xml :=
  journals.foldl (fun policy found => found.rule.getD policy) initial

theorem ruling_concat (initial : Xml) (old : List (Directory Xml Hash))
    (last : Directory Xml Hash) :
    ruling initial (old ++ [last]) = last.rule.getD (ruling initial old) := by
  rw [ruling, List.foldl_append]
  rfl

/-- The configuration records the transaction as committed. -/
def Security.Records (security : Security) (id : Guid) : Prop :=
  security.appControlCommitState = some .committed ∧ security.appControlTransactionId = some id

instance (security : Security) (id : Guid) : Decidable (security.Records id) :=
  inferInstanceAs (Decidable (_ ∧ _))

/-- The directories of the machine, whose last one has been created last. -/
structure Last (old : List (Directory Xml Hash)) (last : Directory Xml Hash)
    (machine : Machine Xml Hash) : Prop where
  journals : machine.journals = old ++ [last]
  fresh : ∀ found ∈ old, found.id ≠ last.id

section Journals

variable [DecidableEq Hash] (cmdlets : Cmdlets Xml Hash Form) (agrees : Prop) (initial : Xml)

/-- A journal that is accepted, in a terminal state and not reported. -/
def Directory.Settled (found : Directory Xml Hash) : Prop :=
  ∃ current, found.readState cmdlets = some current ∧ current.state.isTerminal = true ∧
    (current.state = .committed → current.configurationMetadata.isCommitted = true)

/-- What is recorded as committed is a committed transaction, where the configuration is to
agree with the journals. -/
def Vouches (journals : List (Directory Xml Hash)) (security : Security) : Prop :=
  agrees → ∀ id, security.Records id → ∃ found ∈ journals, found.id = id ∧
    ∃ current, found.readState cmdlets = some current ∧ current.state = .committed

def Vouched (journals : List (Directory Xml Hash)) (config : Option Config) : Prop :=
  ∀ found, config = some found → Vouches cmdlets agrees journals found.security

/-- All journals are settled, and the policy is the one that they settle. -/
structure Rests (journals : List (Directory Xml Hash)) (machine : Machine Xml Hash) : Prop where
  listed : machine.journals = journals
  ids : journals.Pairwise fun first second => first.id ≠ second.id
  settled : ∀ found ∈ journals, found.Settled cmdlets
  policy : cmdlets.Same (ruling initial journals) machine.policy

/-- The policy in a state: the one before the transaction, the candidate, or one of both. -/
def Fits (state : State) (before candidate policy : Xml) : Prop :=
  match state with
  | .prepared => cmdlets.Same before policy
  | .applied | .validated => cmdlets.Same candidate policy
  | _ => cmdlets.Same before policy ∨ cmdlets.Same candidate policy

/-- The last journal is under way, and all others are settled. -/
structure Interrupted (old : List (Directory Xml Hash)) (last : Directory Xml Hash)
    (current : StateFile Hash) (before candidate : Xml) (machine : Machine Xml Hash) : Prop where
  isLast : Last old last machine
  ids : old.Pairwise fun first second => first.id ≠ second.id
  settled : ∀ found ∈ old, found.Settled cmdlets
  read : last.readState cmdlets = some current
  transactionId : current.transactionId = last.id
  ongoing : current.state = .prepared ∨ current.state.isInterrupted = true
  beforeFile : last.beforeLocal = some before
  base : cmdlets.Same (ruling initial old) before
  candidateFile : last.candidate = some candidate
  recorded : current.candidateSha256.isSome
  policy : Fits cmdlets current.state before candidate machine.policy
  metadata : current.configurationMetadata.requireConfigCommit = some true →
    machine.config.isSome ∧ ∃ security, current.configurationMetadata.before = some security ∧
      Vouches cmdlets agrees old security

/-- The configuration already records the transaction, which can still be rolled back. -/
structure Claimed (last : Directory Xml Hash) (current : StateFile Hash) (config : Option Config) :
    Prop where
  state : current.state = .validated ∨ current.state = .rollbackAttempted
  required : current.configurationMetadata.requireConfigCommit = some true
  records : ∀ found, config = some found → found.security.Records last.id

/-- Nothing is under way, and the configuration records a committed transaction or none. -/
def Resolved (machine : Machine Xml Hash) : Prop :=
  Rests cmdlets initial machine.journals machine ∧
    Vouched cmdlets agrees machine.journals machine.config

/-- The last journal is under way, and the configuration does not say more than it may. -/
def Underway (machine : Machine Xml Hash) : Prop :=
  ∃ old last current before candidate,
    Interrupted cmdlets agrees initial old last current before candidate machine ∧
      (Vouched cmdlets agrees old machine.config ∨ Claimed last current machine.config)

def Good (machine : Machine Xml Hash) : Prop :=
  Resolved cmdlets agrees initial machine ∨ Underway cmdlets agrees initial machine

def Lost (machine : Machine Xml Hash) : Prop :=
  ∃ id, Stuck cmdlets id machine

end Journals

/-! ## Fates -/

/-- The points of a run that are neither in a rollback nor in the recovery. -/
def Point.isIncidental : Point → Bool
  | .recovery _ _ | .readBefore | .applyBefore | .verifyBefore => false
  | _ => true

/-- A call that may fail: the transaction has its candidate recorded by then, or has not
begun, and is not being rolled back. -/
def Call.isIncidental : Call Xml Hash → Bool
  | .step point | .setPolicy point _ | .writeConfig point _ => point.isIncidental
  | .createDirectory _ | .createFile _ _ => false
  | .writeState _ content => content.state ∈ [.applyAttempted, .applied, .validated, .committed]

/-- A process that dies in the call leaves a directory that is not accepted, or that is
not accepted once its transaction is aborted: from the creation of the directory until
`state.json` records the candidate. -/
def Call.cutsShort (request : Call Xml Hash) (parts : List Unit) : Bool :=
  match request with
  | .createDirectory _ => !parts.isEmpty
  | .createFile _ _ => true
  | .writeState _ content =>
      content.state = .prepared && (content.candidateSha256.isNone || parts.isEmpty)
  | _ => false

/-- No call fails but incidental ones, and the process does not die where it would leave
an unusable journal. -/
structure Harmless (fate : Call Xml Hash → Program.Fate Unit) : Prop where
  fails : ∀ request parts, fate request = .fails parts → request.isIncidental = true
  dies : ∀ request parts, fate request = .dies parts → request.cutsShort parts = false

section Faults

variable {fate : Call Xml Hash → Program.Fate Unit} {request : Call Xml Hash} {parts : List Unit}

theorem not_harmless_of_fails (h : fate request = .fails parts)
    (hrequest : request.isIncidental = false) :
    ¬ Harmless fate := by
  intro hharmless
  rw [hharmless.fails request parts h] at hrequest
  cases hrequest

theorem not_harmless_of_dies (h : fate request = .dies parts)
    (hrequest : request.cutsShort parts = true) :
    ¬ Harmless fate := by
  intro hharmless
  rw [hharmless.dies request parts h] at hrequest
  cases hrequest

end Faults

section Sound

variable [DecidableEq Hash] (cmdlets : Cmdlets Xml Hash Form) (agrees : Prop) (initial : Xml)
  (fate : Call Xml Hash → Program.Fate Unit)

/-- All is well, or a journal is stuck after a fault. -/
def Sound (machine : Machine Xml Hash) : Prop :=
  Good cmdlets agrees initial machine ∨ (Lost cmdlets machine ∧ ¬ Harmless fate)

variable {cmdlets agrees initial fate} {machine : Machine Xml Hash}

theorem Resolved.sound (h : Resolved cmdlets agrees initial machine) :
    Sound cmdlets agrees initial fate machine :=
  .inl (.inl h)

theorem Stuck.sound {id : Guid} (h : Stuck cmdlets id machine) (hharm : ¬ Harmless fate) :
    Sound cmdlets agrees initial fate machine :=
  .inr ⟨⟨id, h⟩, hharm⟩

theorem OnlyMoves.leaves_stuck {Result : Type} {program : JournalProgram Xml Hash Result}
    {id : Guid} (h : OnlyMoves cmdlets program) (hstuck : Stuck cmdlets id machine)
    (hharm : ¬ Harmless fate) :
    Program.Leaves (stores cmdlets) fate program machine
      (fun _ => Sound cmdlets agrees initial fate) (fun _ => Sound cmdlets agrees initial fate)
      (Sound cmdlets agrees initial fate) := by
  apply Program.Leaves.of_forall
  exact ((h machine trivial).execute (fun _ _ hbefore moves => moves.stuck hbefore) hstuck
    fate).sound hharm

end Sound

/-! ## The last journal -/

section LastJournal

variable {old : List (Directory Xml Hash)} {last : Directory Xml Hash} {machine : Machine Xml Hash}

theorem Last.directory (h : Last old last machine) : machine.directory last.id = some last := by
  have hold : old.find? (fun found => found.id == last.id) = none := by
    rw [List.find?_eq_none]
    intro found hfound
    simpa using h.fresh found hfound
  rw [Machine.directory, h.journals, List.find?_append, hold]
  simp

theorem Last.edit (h : Last old last machine)
    (change : Directory Xml Hash → Directory Xml Hash) :
    machine.edit last.id change = { machine with journals := old ++ [change last] } := by
  have hold : old.map (fun found => if found.id = last.id then change found else found) = old := by
    rw [List.map_congr_left fun found hfound => if_neg (h.fresh found hfound), List.map_id']
  rw [Machine.edit, h.journals, List.map_append, hold]
  simp

theorem Last.write (h : Last old last machine) (content : StateFile Hash) :
    Last old (last.write content)
      { machine with journals := old ++ [last.write content] } :=
  ⟨rfl, h.fresh⟩

theorem Claimed.write {current content : StateFile Hash} {config : Option Config}
    (h : Claimed last current config) (hcontinues : current.Continues content)
    (hstate : content.state = .validated ∨ content.state = .rollbackAttempted) :
    Claimed (last.write content) content config where
  state := hstate
  required := hcontinues.requireConfigCommit.trans h.required
  records := h.records

end LastJournal

/-! ## What becomes of an interrupted journal -/

section Moving

variable [DecidableEq Hash] {cmdlets : Cmdlets Xml Hash Form} {agrees : Prop} {initial : Xml}
  {old : List (Directory Xml Hash)} {last : Directory Xml Hash} {current content : StateFile Hash}
  {before candidate : Xml} {machine : Machine Xml Hash}

theorem Vouches.mono {security : Security} (h : Vouches cmdlets agrees old security)
    (more : List (Directory Xml Hash)) : Vouches cmdlets agrees (old ++ more) security := by
  intro hagrees id hrecords
  obtain ⟨found, hfound, hcommitted⟩ := h hagrees id hrecords
  exact ⟨found, List.mem_append_left more hfound, hcommitted⟩

theorem Vouched.mono {config : Option Config} (h : Vouched cmdlets agrees old config)
    (more : List (Directory Xml Hash)) : Vouched cmdlets agrees (old ++ more) config :=
  fun found hfound => (h found hfound).mono more

section

variable (h : Interrupted cmdlets agrees initial old last current before candidate machine)
include h

theorem Interrupted.readState : machine.readState cmdlets last.id = some current := by
  rw [Machine.readState, h.isLast.directory]
  exact h.read

theorem Interrupted.reread (hcontinues : current.Continues content) :
    (last.write content).readState cmdlets = some content :=
  last.readState_write cmdlets h.read hcontinues h.recorded

end

theorem Interrupted.write
    (h : Interrupted cmdlets agrees initial old last current before candidate machine)
    (hcontinues : current.Continues content)
    (hongoing : content.state = .prepared ∨ content.state.isInterrupted = true)
    (hfits : Fits cmdlets content.state before candidate machine.policy) :
    Interrupted cmdlets agrees initial old (last.write content) content before candidate
      (machine.edit last.id (Directory.write content)) where
  isLast := by
    rw [h.isLast.edit]
    exact h.isLast.write content
  ids := h.ids
  settled := h.settled
  read := h.reread hcontinues
  transactionId := hcontinues.transactionId.trans h.transactionId
  ongoing := hongoing
  beforeFile := h.beforeFile
  base := h.base
  candidateFile := h.candidateFile
  recorded := by
    rw [hcontinues.candidateSha256]
    exact h.recorded
  policy := hfits
  metadata := by
    rw [hcontinues.requireConfigCommit, hcontinues.before]
    exact h.metadata

section

variable (h : Interrupted cmdlets agrees initial old last current before candidate machine)
include h

section

variable (hcontinues : current.Continues content)
include hcontinues

theorem Interrupted.rests (hterminal : content.state.isTerminal = true)
    (hcommitted : content.state = .committed → content.configurationMetadata.isCommitted = true)
    (hpolicy : cmdlets.Same ((last.write content).rule.getD (ruling initial old)) machine.policy) :
    Rests cmdlets initial (old ++ [last.write content])
      (machine.edit last.id (Directory.write content)) where
  listed := by rw [h.isLast.edit]
  ids := by
    rw [List.pairwise_append]
    refine ⟨h.ids, List.pairwise_singleton _ _, ?_⟩
    intro found hfound other hother
    rw [List.mem_singleton.mp hother]
    exact h.isLast.fresh found hfound
  settled := by
    intro found hfound
    rcases List.mem_append.mp hfound with hold | hlast
    · exact h.settled found hold
    · rw [List.mem_singleton.mp hlast]
      exact ⟨content, h.reread hcontinues, hterminal, hcommitted⟩
  policy := by
    rw [ruling_concat]
    exact hpolicy

/-- A transaction that is aborted or rolled back with the policy before it. -/
theorem Interrupted.undone (hstate : content.state = .aborted ∨ content.state = .rolledBack)
    (hpolicy : cmdlets.Same before machine.policy) :
    Rests cmdlets initial (old ++ [last.write content])
      (machine.edit last.id (Directory.write content)) := by
  apply h.rests hcontinues
  · rcases hstate with hstate | hstate <;> rw [hstate] <;> rfl
  · intro hcommitted
    rcases hstate with hstate | hstate <;> rw [hstate] at hcommitted <;> cases hcommitted
  · have hwritten : (last.write content).state = some content := rfl
    rcases hstate with hstate | hstate
    · have hrule : (last.write content).rule = none := by
        rw [Directory.rule, hwritten, Option.map_some, hstate]
      rw [hrule]
      exact h.base.trans hpolicy
    · have hrule : (last.write content).rule = some before := by
        rw [Directory.rule, hwritten, Option.map_some, hstate]
        exact h.beforeFile
      rw [hrule]
      exact hpolicy

theorem Interrupted.committed (hstate : content.state = .committed)
    (hcommitted : content.configurationMetadata.isCommitted = true)
    (hpolicy : cmdlets.Same candidate machine.policy) :
    Rests cmdlets initial (old ++ [last.write content])
      (machine.edit last.id (Directory.write content)) := by
  apply h.rests hcontinues
  · rw [hstate]
    rfl
  · exact fun _ => hcommitted
  · have hwritten : (last.write content).state = some content := rfl
    have hrule : (last.write content).rule = some candidate := by
      rw [Directory.rule, hwritten, Option.map_some, hstate]
      exact h.candidateFile
    rw [hrule]
    exact hpolicy

end

theorem Interrupted.setPolicy {policy : Xml}
    (hfits : Fits cmdlets current.state before candidate policy) :
    Interrupted cmdlets agrees initial old last current before candidate
      { machine with policy := policy } where
  isLast := ⟨h.isLast.journals, h.isLast.fresh⟩
  ids := h.ids
  settled := h.settled
  read := h.read
  transactionId := h.transactionId
  ongoing := h.ongoing
  beforeFile := h.beforeFile
  base := h.base
  candidateFile := h.candidateFile
  recorded := h.recorded
  policy := hfits
  metadata := h.metadata

theorem Interrupted.setConfig (config : Config) :
    Interrupted cmdlets agrees initial old last current before candidate
      { machine with config := some config } where
  isLast := ⟨h.isLast.journals, h.isLast.fresh⟩
  ids := h.ids
  settled := h.settled
  read := h.read
  transactionId := h.transactionId
  ongoing := h.ongoing
  beforeFile := h.beforeFile
  base := h.base
  candidateFile := h.candidateFile
  recorded := h.recorded
  policy := h.policy
  metadata := fun hrequired => ⟨rfl, (h.metadata hrequired).2⟩

end

theorem Rests.resolved {journals : List (Directory Xml Hash)}
    (h : Rests cmdlets initial journals machine)
    (hvouched : Vouched cmdlets agrees journals machine.config) :
    Resolved cmdlets agrees initial machine := by
  obtain rfl := h.listed
  exact ⟨h, hvouched⟩

theorem stuck_of_recoveryRequired {id : Guid} {found : Directory Xml Hash}
    (hfound : machine.directory id = some found) (hstate : content.state = .recoveryRequired) :
    Stuck cmdlets id (machine.edit id (Directory.write content)) := by
  refine ⟨found.write content, ?_, ?_⟩
  · rw [Machine.directory_write, if_pos rfl, hfound]
    rfl
  · intro later hlater
    obtain rfl : content = later :=
      Option.some_inj.mp ((found.write content).written_of_readState cmdlets hlater)
    exact .inl hstate

end Moving

/-! ## What is pending -/

section Pending

variable [DecidableEq Hash] {cmdlets : Cmdlets Xml Hash Form} {agrees : Prop} {initial : Xml}
  {old : List (Directory Xml Hash)} {last : Directory Xml Hash} {current : StateFile Hash}
  {before candidate : Xml} {machine : Machine Xml Hash}

variable (cmdlets) in
theorem perm_pendingRecovery (machine : Machine Xml Hash) :
    (pendingRecovery cmdlets machine).Perm
      (machine.journals.filterMap (Directory.pendingState cmdlets) ++
        machine.journals.filterMap Directory.withoutState) := by
  have hsorted := List.perm_insertionSort
    (fun first second : Directory Xml Hash => first.id ≤ second.id) machine.journals
  exact (hsorted.filterMap _).append (hsorted.filterMap _)

variable {found : Directory Xml Hash}

theorem Directory.Settled.pendingState (h : found.Settled cmdlets) :
    found.pendingState cmdlets = none := by
  obtain ⟨current, hread, hterminal, hcommitted⟩ := h
  rw [Directory.pendingState, found.written_of_readState cmdlets hread, Option.bind_some, hread]
  by_cases hstate : current.state = .committed
  · simp [hstate, hcommitted hstate, State.isTerminal]
  · simp [hstate, hterminal]

theorem Directory.withoutState_of_readState (hread : found.readState cmdlets = some current) :
    found.withoutState = none := by
  rw [Directory.withoutState, found.written_of_readState cmdlets hread]
  rfl

theorem filterMap_settled {journals : List (Directory Xml Hash)}
    (h : ∀ found ∈ journals, found.Settled cmdlets) :
    journals.filterMap (Directory.pendingState cmdlets) = [] ∧
      journals.filterMap Directory.withoutState = [] := by
  constructor
  · rw [List.filterMap_eq_nil_iff]
    exact fun found hfound => (h found hfound).pendingState
  · rw [List.filterMap_eq_nil_iff]
    intro found hfound
    obtain ⟨current, hread, _⟩ := h found hfound
    exact Directory.withoutState_of_readState hread

theorem Rests.pendingRecovery {journals : List (Directory Xml Hash)}
    (h : Rests cmdlets initial journals machine) :
    pendingRecovery cmdlets machine = [] := by
  obtain ⟨hpending, hwithout⟩ := filterMap_settled h.settled
  have hperm := perm_pendingRecovery cmdlets machine
  rw [h.listed, hpending, hwithout] at hperm
  exact hperm.eq_nil

theorem Interrupted.pendingRecovery
    (h : Interrupted cmdlets agrees initial old last current before candidate machine) :
    pendingRecovery cmdlets machine = [.journal current] := by
  obtain ⟨hpending, hwithout⟩ := filterMap_settled h.settled
  have hterminal : current.state.isTerminal = false := by
    rcases h.ongoing with hprepared | hinterrupted
    · rw [hprepared]
      rfl
    · cases hstate : current.state <;> rw [hstate] at hinterrupted <;>
        first | rfl | exact absurd hinterrupted (by decide)
  have hstate : current.state ≠ .committed := by
    intro hcommitted
    rw [hcommitted] at hterminal
    cases hterminal
  have hlast : last.pendingState cmdlets = some (.journal current) := by
    rw [Directory.pendingState, last.written_of_readState cmdlets h.read, Option.bind_some, h.read]
    simp [hstate, hterminal]
  have hperm := perm_pendingRecovery cmdlets machine
  rw [h.isLast.journals, List.filterMap_append, List.filterMap_append, hpending, hwithout,
    List.filterMap_cons_some hlast,
    List.filterMap_cons_none (Directory.withoutState_of_readState h.read)] at hperm
  exact List.perm_singleton.mp hperm

/-- A stuck journal is reported. -/
theorem Lost.pendingRecovery (h : Lost cmdlets machine) : pendingRecovery cmdlets machine ≠ [] := by
  obtain ⟨id, found, hfound, hstuck⟩ := h
  have hmember : found ∈ machine.journals := List.mem_of_find?_eq_some hfound
  have hreported : (found.pendingState cmdlets).isSome ∨ found.withoutState.isSome := by
    cases hstate : found.state with
    | none => exact .inr (by simp [Directory.withoutState, hstate])
    | some content =>
        left
        rw [Directory.pendingState, hstate, Option.bind_some]
        cases hread : found.readState cmdlets with
        | none => rfl
        | some current =>
            rcases hstuck current hread with hrequired | ⟨hprepared, _⟩
            · simp [hrequired, State.isTerminal]
            · simp [hprepared, State.isTerminal]
  have hsome : ∃ item, item ∈ machine.journals.filterMap (Directory.pendingState cmdlets) ++
      machine.journals.filterMap Directory.withoutState := by
    rcases hreported with hpending | hwithout
    · obtain ⟨item, hitem⟩ := Option.isSome_iff_exists.mp hpending
      exact ⟨item, List.mem_append_left _ (List.mem_filterMap.mpr ⟨found, hmember, hitem⟩)⟩
    · obtain ⟨item, hitem⟩ := Option.isSome_iff_exists.mp hwithout
      exact ⟨item, List.mem_append_right _ (List.mem_filterMap.mpr ⟨found, hmember, hitem⟩)⟩
  obtain ⟨item, hitem⟩ := hsome
  intro hnone
  have hperm := perm_pendingRecovery cmdlets machine
  rw [hnone] at hperm
  rw [← hperm.mem_iff] at hitem
  exact List.not_mem_nil hitem

end Pending

end OpenPath.Windows.AppControl
