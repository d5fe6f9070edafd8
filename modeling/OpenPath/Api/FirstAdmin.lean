/-
# The first administrator

The setup call checks its input, asks whether there is an administrator and whether
the address is taken, and then creates the user, its role and the setup record in
one transaction. Any number of such calls run at the same time, statement by
statement.

Nothing in the transaction asks again for an administrator: two calls that have both
passed the check both create one, and the record is that of the later. Where each
commit still finds none, at most one call succeeds, and the record is its own.
-/

import OpenPath.Api.Accounts
import OpenPath.Foundation.Concurrency
import OpenPath.Foundation.ReadCommitted

namespace OpenPath.Api.FirstAdmin

open Accounts
open Foundation (Table Writes Interleaved TransitionSystem)

/-- The unique columns of `users` and of `roles`. -/
inductive UserKey
  | id (value : Text)
  | email (value : Text)
  deriving DecidableEq

inductive RoleKey
  | id (value : Text)
  | userId (value : Text)
  deriving DecidableEq

/-- A row of `settings`. -/
structure Setting where
  key : Text
  value : Text
  deriving DecidableEq

def userKeys (row : UserRow) : List UserKey := [.id row.id, .email row.email]
def roleKeys (row : RoleRow) : List RoleKey := [.id row.id, .userId row.userId]
def Setting.keys (row : Setting) : List Text := [row.key]

structure CreateFirstAdminInput where
  email : Text
  name : Text
  password : Text

structure SetupData where
  registrationToken : Text
  setupCompletedAt : Text
  setupByUserId : Text
  deriving DecidableEq

inductive SetupErrorCode
  | setupAlreadyCompleted
  | emailExists
  | invalidInput (field : Text)
  deriving DecidableEq

structure SetupServiceError where
  code : SetupErrorCode
  message : Text
  deriving DecidableEq

structure CreateFirstAdminResult where
  registrationToken : Text
  id : Text
  email : Text
  name : Text
  deriving DecidableEq

/-- The checks of the input, in their order. -/
def checkInput (input : CreateFirstAdminInput) : Except SetupServiceError Unit :=
  if ¬ JavaScript.includes input.email "@".toList then
    .error { code := .invalidInput "email".toList, message := "Invalid email address".toList }
  else if JavaScript.trim input.name = [] then
    .error { code := .invalidInput "name".toList, message := "Name is required".toList }
  else if JavaScript.length input.password < 8 then
    .error
      { code := .invalidInput "password".toList
        message := "Password must be at least 8 characters".toList }
  else .ok ()

def setupAlreadyCompleted : SetupServiceError where
  code := .setupAlreadyCompleted
  message := "Setup already completed".toList

def emailRegistered : SetupServiceError where
  code := .emailExists
  message := "Email already registered".toList

def hasAnyAdmins (roles : List RoleRow) : Bool :=
  roles.any fun row => adminAliases.contains row.role

def emailExists (users : List UserRow) (email : Text) : Bool :=
  users.any (·.email = normalizeEmail email)

/-- `crypto.randomBytes(32).toString('hex')`, of the bytes that were drawn. -/
def generateRegistrationToken (bytes : List UInt8) : Text :=
  bytes.flatMap fun byte => [Nat.digitChar (byte.toNat / 16), Nat.digitChar (byte.toNat % 16)]

/-- The user that the transaction inserts; the hash of the password is salted. -/
def newUser (hash : Text → Text → Text) (uuid salt : Text) (input : CreateFirstAdminInput) :
    UserRow where
  id := "user_".toList ++ uuid.take 8
  email := normalizeEmail input.email
  name := JavaScript.trim input.name
  passwordHash := some (hash salt input.password)
  isActive := true
  emailVerified := true

/-- The role that `assignRole` inserts for the user. -/
def newRole (uuid userId : Text) : RoleRow where
  id := "role_".toList ++ uuid.take 8
  userId := userId
  role := "admin".toList
  groupIds := some []
  createdBy := some userId

/-- The role that `assignRole` leaves where the user has one. -/
def changedRole (userId : Text) (existing : RoleRow) : RoleRow :=
  { existing with role := "admin".toList, groupIds := some [], createdBy := some userId }

/-- The rows of the setup record, in the order in which they are saved. -/
def settingsOf (data : SetupData) : List Setting :=
  [{ key := "registration_token".toList, value := data.registrationToken },
    { key := "setup_completed_at".toList, value := data.setupCompletedAt },
    { key := "setup_by_user_id".toList, value := data.setupByUserId }]

/-- The value of a key. -/
def settingValue (rows : List Setting) (key : Text) : Option Text :=
  (rows.find? (·.key = key)).map (·.value)

/-- `getSetupData`; the two last values have defaults. -/
def getSetupData (now : Text) (rows : List Setting) : Option SetupData :=
  match settingValue rows "registration_token".toList with
  | none => none
  | some registrationToken =>
      if registrationToken = [] then none
      else
        some
          { registrationToken
            setupCompletedAt := (settingValue rows "setup_completed_at".toList).getD now
            setupByUserId := (settingValue rows "setup_by_user_id".toList).getD "unknown".toList }

/-- What the transaction of a call has written in the three tables. -/
structure Own where
  users : Writes UserKey UserRow := {}
  roles : Writes RoleKey RoleRow := {}
  settings : Writes Text Setting := {}

/-- What a call ends with. -/
inductive Answer
  | created (result : CreateFirstAdminResult)
  | failed (error : SetupServiceError)
  | threw

/-- How far a call has come. -/
inductive Phase
  | idle
  | checkingAdmins (input : CreateFirstAdminInput)
  | checkingEmail (input : CreateFirstAdminInput)
  | creatingUser (input : CreateFirstAdminInput) (registrationToken : Text)
  | readingRole (registrationToken : Text) (user : UserRow) (own : Own)
  | writingRole (registrationToken : Text) (user : UserRow) (existing : Option RoleRow) (own : Own)
  | saving (user : UserRow) (data : SetupData) (saved remaining : List Setting) (own : Own)
  | settled (answer : Answer)

/-- A call that has succeeded: the administrator that it created and the record that
it saved. -/
structure Success where
  user : UserRow
  data : SetupData
  deriving DecidableEq

/-- The tables, and the calls that have succeeded. -/
structure Store where
  users : Table UserKey UserRow
  roles : Table RoleKey RoleRow
  settings : Table Text Setting
  log : List Success

/-- One step of a call. What is drawn, and the moment of the completion, come from
outside. -/
inductive Statement
  | createFirstAdmin (input : CreateFirstAdminInput)
  | selectAdmins
  | selectEmail (bytes : List UInt8)
  | insertUser (uuid salt : Text)
  | selectRole
  | writeRole (uuid completedAt : Text)
  | saveSetting
  | commit
  | abort

/-- A row is put in the place of another one, or is inserted where nothing stands in
the way; a statement that the database refuses is not possible, and its call aborts. -/
def put {Key Row : Type} [DecidableEq Key] [DecidableEq Row] (keys : Row → List Key)
    (table : Table Key Row) (own : Writes Key Row) (old : Option Row) (new : Row) :
    Option (Table Key Row × Writes Key Row) :=
  match old with
  | some row => table.write keys [row] [new] own
  | none =>
      if table.conflicts keys new own = [] then table.write keys [] [new] own else none

/-- The insertion of the user. -/
def insertUser (hash : Text → Text → Text) (uuid salt : Text) (store : Store)
    (input : CreateFirstAdminInput) (registrationToken : Text) : Option (Store × Phase) :=
  (put userKeys store.users {} none (newUser hash uuid salt input)).map fun outcome =>
    ({ store with users := outcome.1 },
      .readingRole registrationToken (newUser hash uuid salt input) { users := outcome.2 })

/-- The record that a call saves once its role is written. -/
def setupData (registrationToken completedAt : Text) (user : UserRow) : SetupData where
  registrationToken := registrationToken
  setupCompletedAt := completedAt
  setupByUserId := user.id

/-- The update of the role that was read, or the insertion of a new one. -/
def putRole (uuid : Text) (store : Store) (user : UserRow) (own : Own) :
    Option RoleRow → Option (Table RoleKey RoleRow × Writes RoleKey RoleRow)
  | none => put roleKeys store.roles own.roles none (newRole uuid user.id)
  | some existing =>
      ((store.roles.sees own.roles).find? (·.id = existing.id)).bind fun current =>
        put roleKeys store.roles own.roles (some current) (changedRole user.id current)

def writeRole (uuid completedAt : Text) (store : Store) (registrationToken : Text)
    (user : UserRow) (existing : Option RoleRow) (own : Own) : Option (Store × Phase) :=
  (putRole uuid store user own existing).map fun outcome =>
    ({ store with roles := outcome.1 },
      .saving user (setupData registrationToken completedAt user) []
        (settingsOf (setupData registrationToken completedAt user))
        { own with roles := outcome.2 })

/-- `insert … on conflict do update` -/
def saveSetting (store : Store) (user : UserRow) (data : SetupData) (saved : List Setting)
    (setting : Setting) (remaining : List Setting) (own : Own) : Option (Store × Phase) :=
  (put Setting.keys store.settings own.settings
    ((store.settings.sees own.settings).find? (·.key = setting.key)) setting).map fun outcome =>
    ({ store with settings := outcome.1 },
      .saving user data (saved ++ [setting]) remaining { own with settings := outcome.2 })

def Phase.own : Phase → Own
  | .readingRole _ _ own => own
  | .writingRole _ _ _ own => own
  | .saving _ _ _ _ own => own
  | _ => {}

/-- The commit of a call, which has succeeded then. -/
def Store.commit (store : Store) (user : UserRow) (data : SetupData) (own : Own) : Store where
  users := store.users.commit own.users
  roles := store.roles.commit own.roles
  settings := store.settings.commit own.settings
  log := store.log ++ [{ user, data }]

def result (user : UserRow) (data : SetupData) : CreateFirstAdminResult where
  registrationToken := data.registrationToken
  id := user.id
  email := user.email
  name := user.name

/-- One step of one call. -/
def step (hash : Text → Text → Text) : Statement → Store → Phase → Option (Store × Phase)
  | .createFirstAdmin input, store, .idle =>
      match checkInput input with
      | .error error => some (store, .settled (.failed error))
      | .ok () => some (store, .checkingAdmins input)
  | .selectAdmins, store, .checkingAdmins input =>
      if hasAnyAdmins store.roles.rows then
        some (store, .settled (.failed setupAlreadyCompleted))
      else some (store, .checkingEmail input)
  | .selectEmail bytes, store, .checkingEmail input =>
      if emailExists store.users.rows input.email then
        some (store, .settled (.failed emailRegistered))
      else if bytes.length = 32 then
        some (store, .creatingUser input (generateRegistrationToken bytes))
      else none
  | .insertUser uuid salt, store, .creatingUser input registrationToken =>
      insertUser hash uuid salt store input registrationToken
  | .selectRole, store, .readingRole registrationToken user own =>
      some (store, .writingRole registrationToken user
        ((store.roles.sees own.roles).find? (·.userId = user.id)) own)
  | .writeRole uuid completedAt, store, .writingRole registrationToken user existing own =>
      writeRole uuid completedAt store registrationToken user existing own
  | .saveSetting, store, .saving user data saved (setting :: remaining) own =>
      saveSetting store user data saved setting remaining own
  | .commit, store, .saving user data _ [] own =>
      some (store.commit user data own, .settled (.created (result user data)))
  | .abort, _, .idle => none
  | .abort, _, .settled _ => none
  | .abort, store, phase =>
      some
        ({ store with
            users := store.users.rollback phase.own.users
            roles := store.roles.rollback phase.own.roles
            settings := store.settings.rollback phase.own.settings },
          .settled .threw)
  | _, _, _ => none

/-- A step of one call, as a move of the interleaved system. -/
def move (hash : Text → Text → Text) (label : Statement) (source : Store × Phase) :
    Option (Store × Phase) :=
  step hash label source.1 source.2

/-- No administrator, and nothing done yet. -/
structure Fresh (store : Store) : Prop where
  users_unique : Table.Unique userKeys store.users.rows
  roles_unique : Table.Unique roleKeys store.roles.rows
  settings_unique : Table.Unique Setting.keys store.settings.rows
  users_held : store.users.held = []
  roles_held : store.roles.held = []
  settings_held : store.settings.held = []
  role_user : ∀ role ∈ store.roles.rows, ∃ user ∈ store.users.rows, user.id = role.userId
  no_admin : hasAnyAdmins store.roles.rows = false
  log : store.log = []

/-- All interleavings of the calls, with the hash of the passwords. -/
def setups (hash : Text → Text → Text) :
    TransitionSystem (Interleaved Store Phase) (Nat × Statement) :=
  Interleaved.system Fresh .idle (Interleaved.movesOf (move hash))

/-! ## Set up once -/

/-- The stored record is that of the success, and its administrator is there. -/
structure RecordOf (store : Store) (success : Success) : Prop where
  record : ∀ now, getSetupData now store.settings.rows = some success.data
  by_user : success.data.setupByUserId = success.user.id
  user : success.user ∈ store.users.rows
  admin : ∃ role ∈ store.roles.rows, role.userId = success.user.id ∧ role.role = "admin".toList

/-- At most one call has succeeded, and the stored record is its own. -/
structure SetUpOnce (store : Store) : Prop where
  once : store.log.length ≤ 1
  record : ∀ success ∈ store.log, RecordOf store success

/-- The condition on a step: a commit still finds no administrator. -/
def findsNoAdmin (store : Store) : Phase → Statement → Bool
  | .saving _ _ _ [] _, .commit => !hasAnyAdmins store.roles.rows
  | _, _ => true

/-! ## What a call has written -/

/-- The transaction has inserted its user, whose identifier it holds. -/
structure Created (user : UserRow) (own : Own) : Prop where
  removed : own.users.removed = []
  added : own.users.added = [user]
  held : UserKey.id user.id ∈ own.users.held

/-- The transaction has written its role, and the first rows of its record. -/
structure Saving (user : UserRow) (data : SetupData) (saved remaining : List Setting) (own : Own) :
    Prop where
  created : Created user own
  by_user : data.setupByUserId = user.id
  token : data.registrationToken ≠ []
  removed_roles : own.roles.removed = []
  added_roles : ∃ uuid, own.roles.added = [newRole uuid user.id]
  settings : settingsOf data = saved ++ remaining
  saved_added : ∀ setting ∈ saved, setting ∈ own.settings.added

/-- What a call knows: a user that is not committed yet has no role. -/
def Knows (store : Store) : Phase → Prop
  | .creatingUser _ registrationToken => registrationToken ≠ []
  | .readingRole registrationToken user own =>
      registrationToken ≠ [] ∧ Created user own ∧ own.roles = {} ∧
        ∀ role ∈ store.roles.rows, role.userId ≠ user.id
  | .writingRole registrationToken user existing own =>
      registrationToken ≠ [] ∧ Created user own ∧ own.roles = {} ∧ existing = none ∧
        ∀ role ∈ store.roles.rows, role.userId ≠ user.id
  | .saving user data saved remaining own => Saving user data saved remaining own
  | _ => True

section Put

variable {Key Row : Type} [DecidableEq Key] [DecidableEq Row] {keys : Row → List Key}
  {table after : Table Key Row} {own later : Writes Key Row} {old : Option Row} {new : Row}

theorem put_added (hput : put keys table own old new = some (after, later)) :
    new ∈ later.added ∧ ∀ row ∈ own.added, old ≠ some row → row ∈ later.added := by
  unfold put at hput
  split at hput
  · rename_i row
    have hadded := (Table.write_eq_some hput).2.2.2.2.1
    rw [hadded]
    refine ⟨List.mem_append_right _ List.mem_cons_self, ?_⟩
    intro other hother hne
    refine List.mem_append_left _ (List.mem_filter.mpr ⟨hother, ?_⟩)
    simpa using fun h => hne (congrArg some h.symm)
  · split at hput
    · have hadded := (Table.write_eq_some hput).2.2.2.2.1
      rw [hadded]
      exact ⟨List.mem_append_right _ List.mem_cons_self,
        fun other hother _ => List.mem_append_left _ (by simpa using hother)⟩
    · cases hput

theorem put_rows (hput : put keys table own old new = some (after, later)) :
    after.rows = table.rows := by
  unfold put at hput
  split at hput
  · exact (Table.write_eq_some hput).2.1
  · split at hput
    · exact (Table.write_eq_some hput).2.1
    · cases hput

/-- Putting a row in the place of the one with its values is a step of the
transaction. -/
theorem put_step (hunique : Table.Unique keys (table.sees own))
    (hold : ∀ row ∈ old, row ∈ table.sees own ∧ keys row = keys new)
    (hput : put keys table own old new = some (after, later)) :
    Table.Step keys table own after later := by
  unfold put at hput
  split at hput
  · rename_i row
    obtain ⟨hrow, hkeys⟩ := hold row rfl
    refine .write (List.pairwise_singleton _ _) ?_ hput
    intro seen hseen hstays other hother key hkey hsame
    rw [List.mem_singleton.mp hother, ← hkeys] at hsame
    exact hstays (List.mem_singleton.mpr (hunique.eq_of_mem hseen hrow hkey hsame))
  · split at hput
    · rename_i hnone
      refine .write (List.pairwise_singleton _ _) ?_ hput
      intro seen hseen _ other hother
      rw [List.mem_singleton.mp hother]
      exact Table.disjoint_of_conflicts hnone seen hseen
    · cases hput

end Put

/-! ## The steps -/

/-- Every role is that of a user. -/
def RolesOfUsers (store : Store) : Prop :=
  ∀ role ∈ store.roles.rows, ∃ user ∈ store.users.rows, user.id = role.userId

theorem generateRegistrationToken_ne_nil {bytes : List UInt8} (hlength : bytes.length = 32) :
    generateRegistrationToken bytes ≠ [] := by
  cases bytes with
  | nil => cases hlength
  | cons byte rest => exact List.cons_ne_nil _ _

section Steps

variable {hash : Text → Text → Text} {label : Statement} {store : Store} {phase : Phase}
  {outcome : Store × Phase} {uuid registrationToken : Text}

theorem insertUser_eq_some {salt : Text} {input : CreateFirstAdminInput}
    (hinsert : insertUser hash uuid salt store input registrationToken = some outcome) :
    ∃ users own, put userKeys store.users {} none (newUser hash uuid salt input) =
        some (users, own) ∧
      outcome = ({ store with users },
        .readingRole registrationToken (newUser hash uuid salt input) { users := own }) := by
  obtain ⟨⟨users, own⟩, hput, rfl⟩ := Option.map_eq_some_iff.mp hinsert
  exact ⟨users, own, hput, rfl⟩

theorem put_none_eq_some {Key Row : Type} [DecidableEq Key] [DecidableEq Row]
    {keys : Row → List Key} {table after : Table Key Row} {own later : Writes Key Row} {new : Row}
    (hput : put keys table own none new = some (after, later)) :
    table.conflicts keys new own = [] ∧
      table.write keys [] [new] own = some (after, later) := by
  simp only [put] at hput
  split at hput
  · rename_i hnone
    exact ⟨hnone, hput⟩
  · cases hput

variable {user : UserRow}

theorem created_of_put {users : Table UserKey UserRow} {own : Writes UserKey UserRow}
    (hput : put userKeys store.users {} none user = some (users, own)) :
    Created user { users := own } ∧ ∀ other ∈ store.users.rows, other.id ≠ user.id := by
  obtain ⟨hnone, hwrite⟩ := put_none_eq_some hput
  obtain ⟨-, -, -, hremoved, hadded, hheld⟩ := Table.write_eq_some hwrite
  refine ⟨⟨by simpa using hremoved, by simpa using hadded, ?_⟩, ?_⟩
  · dsimp only
    rw [hheld]
    simp [userKeys]
  · intro other hother hid
    have hdisjoint := Table.disjoint_of_conflicts hnone other (by simpa using hother)
    exact hdisjoint (List.mem_cons_self (a := UserKey.id other.id)) (by simp [userKeys, hid])

variable {own : Own} {completedAt : Text}

theorem writeRole_eq_some
    (hwrite : writeRole uuid completedAt store registrationToken user none own = some outcome) :
    ∃ roles written, put roleKeys store.roles own.roles none (newRole uuid user.id) =
        some (roles, written) ∧
      outcome = ({ store with roles },
        .saving user (setupData registrationToken completedAt user) []
          (settingsOf (setupData registrationToken completedAt user))
          { own with roles := written }) := by
  obtain ⟨⟨roles, written⟩, hput, rfl⟩ := Option.map_eq_some_iff.mp hwrite
  exact ⟨roles, written, hput, rfl⟩

/-- Whatever it writes, the users and the settings stay. -/
theorem writeRole_frame {existing : Option RoleRow}
    (hwrite : writeRole uuid completedAt store registrationToken user existing own = some outcome) :
    outcome.1.users = store.users ∧ outcome.1.settings = store.settings ∧
      outcome.1.log = store.log ∧ outcome.1.roles.rows = store.roles.rows ∧
      outcome.2.own.users = own.users ∧ outcome.2.own.settings = own.settings := by
  obtain ⟨⟨roles, written⟩, hput, rfl⟩ := Option.map_eq_some_iff.mp hwrite
  refine ⟨rfl, rfl, rfl, ?_, rfl, rfl⟩
  cases existing with
  | none =>
      rw [putRole] at hput
      exact put_rows hput
  | some row =>
      obtain ⟨current, -, hput⟩ := Option.bind_eq_some_iff.mp hput
      exact put_rows hput

variable {setting : Setting} {saved remaining : List Setting}

/-- The row of a setting that a call saves, in the place of the one with its key. -/
theorem saveSetting_eq_some {data : SetupData}
    (hsave : saveSetting store user data saved setting remaining own = some outcome) :
    ∃ settings written,
      put Setting.keys store.settings own.settings
          ((store.settings.sees own.settings).find? (·.key = setting.key)) setting =
        some (settings, written) ∧
      outcome = ({ store with settings },
        .saving user data (saved ++ [setting]) remaining { own with settings := written }) := by
  obtain ⟨⟨settings, written⟩, hput, rfl⟩ := Option.map_eq_some_iff.mp hsave
  exact ⟨settings, written, hput, rfl⟩

theorem step_users (hunique : Table.Unique userKeys store.users.rows)
    (hstep : step hash label store phase = some outcome) :
    Table.Step userKeys store.users phase.own.users outcome.1.users outcome.2.own.users := by
  revert hstep
  fun_cases step hash label store phase
  case case8 uuid salt input registrationToken =>
    intro hstep
    obtain ⟨users, own, hput, rfl⟩ := insertUser_eq_some hstep
    have hsees : Table.Unique userKeys (store.users.sees {}) := by
      rw [Table.sees_nil]
      exact hunique
    exact put_step hsees (by simp) hput
  case case10 uuid completedAt registrationToken user existing own =>
    intro hstep
    obtain ⟨husers, -, -, -, hown, -⟩ := writeRole_frame hstep
    rw [husers, hown]
    exact .same _ _
  case case11 user data saved setting remaining own =>
    intro hstep
    obtain ⟨settings, written, -, rfl⟩ := saveSetting_eq_some hstep
    exact .same _ _
  case case12 user data saved own =>
    rintro ⟨⟩
    exact .commit _ _
  case case15 hidle hsettled =>
    rintro ⟨⟩
    exact .rollback _ _
  all_goals rintro ⟨⟩
  all_goals exact .same _ _

theorem step_settings (howned : Table.Owned Setting.keys store.settings phase.own.settings)
    (hstep : step hash label store phase = some outcome) :
    Table.Step Setting.keys store.settings phase.own.settings outcome.1.settings
      outcome.2.own.settings := by
  revert hstep
  fun_cases step hash label store phase
  case case8 uuid salt input registrationToken =>
    intro hstep
    obtain ⟨users, own, -, rfl⟩ := insertUser_eq_some hstep
    exact .same _ _
  case case10 uuid completedAt registrationToken user existing own =>
    intro hstep
    obtain ⟨-, hsettings, -, -, -, hown⟩ := writeRole_frame hstep
    rw [hsettings, hown]
    exact .same _ _
  case case11 user data saved setting remaining own =>
    intro hstep
    obtain ⟨settings, written, hput, rfl⟩ := saveSetting_eq_some hstep
    refine put_step howned.unique ?_ hput
    intro row hrow
    have hkey : row.key = setting.key := by simpa using List.find?_some hrow
    exact ⟨List.mem_of_find?_eq_some hrow, congrArg (fun key => [key]) hkey⟩
  case case12 user data saved own =>
    rintro ⟨⟩
    exact .commit _ _
  case case15 hidle hsettled =>
    rintro ⟨⟩
    exact .rollback _ _
  all_goals rintro ⟨⟩
  all_goals exact .same _ _

/-- A step that leaves the committed rows and the successes. -/
structure Quiet (store after : Store) : Prop where
  users : after.users.rows = store.users.rows
  roles : after.roles.rows = store.roles.rows
  settings : after.settings.rows = store.settings.rows
  log : after.log = store.log

theorem step_rows (hstep : step hash label store phase = some outcome) :
    Quiet store outcome.1 ∨
      ∃ user data saved own, phase = .saving user data saved [] own ∧ label = .commit ∧
        outcome = (store.commit user data own, .settled (.created (result user data))) := by
  revert hstep
  fun_cases step hash label store phase
  case case8 uuid salt input registrationToken =>
    intro hstep
    obtain ⟨users, own, hput, rfl⟩ := insertUser_eq_some hstep
    exact Or.inl ⟨put_rows hput, rfl, rfl, rfl⟩
  case case10 uuid completedAt registrationToken user existing own =>
    intro hstep
    obtain ⟨husers, hsettings, hlog, hroles, -, -⟩ := writeRole_frame hstep
    exact Or.inl ⟨by rw [husers], hroles, by rw [hsettings], hlog⟩
  case case11 user data saved setting remaining own =>
    intro hstep
    obtain ⟨settings, written, hput, rfl⟩ := saveSetting_eq_some hstep
    exact Or.inl ⟨rfl, rfl, put_rows hput, rfl⟩
  case case12 user data saved own =>
    rintro ⟨⟩
    exact Or.inr ⟨user, data, saved, own, rfl, rfl, rfl⟩
  case case15 hidle hsettled =>
    rintro ⟨⟩
    exact Or.inl ⟨rfl, rfl, rfl, rfl⟩
  all_goals rintro ⟨⟩
  all_goals exact Or.inl ⟨rfl, rfl, rfl, rfl⟩

theorem find_role_none {own : Writes RoleKey RoleRow} (hown : own = {})
    (hnone : ∀ role ∈ store.roles.rows, role.userId ≠ user.id) :
    (store.roles.sees own).find? (·.userId = user.id) = none := by
  rw [hown, Table.sees_nil, List.find?_eq_none]
  intro role hrole
  simpa using hnone role hrole

/-- The rows that remain to be saved have other keys than those that are saved. -/
theorem settings_keys {data : SetupData}
    (hsettings : settingsOf data = saved ++ setting :: remaining) :
    ∀ row ∈ saved, row.key ≠ setting.key := by
  have hkeys : ((settingsOf data).map (·.key)).Nodup := by
    simp only [settingsOf, List.map_cons, List.map_nil]
    decide
  rw [hsettings, List.map_append, List.map_cons, List.nodup_append] at hkeys
  intro row hrow
  exact hkeys.2.2 _ (List.mem_map_of_mem hrow) _ List.mem_cons_self

theorem step_knows (hroles : RolesOfUsers store) (hknows : Knows store phase)
    (hstep : step hash label store phase = some outcome) : Knows outcome.1 outcome.2 := by
  revert hstep
  fun_cases step hash label store phase
  case case6 bytes input hlength hnew =>
    rintro ⟨⟩
    exact generateRegistrationToken_ne_nil hlength
  case case8 uuid salt input registrationToken =>
    intro hstep
    obtain ⟨users, own, hput, rfl⟩ := insertUser_eq_some hstep
    obtain ⟨hcreated, hfresh⟩ := created_of_put hput
    refine ⟨hknows, hcreated, rfl, ?_⟩
    intro role hrole hsame
    obtain ⟨user, huser, hid⟩ := hroles role hrole
    exact hfresh user huser (hid.trans hsame)
  case case9 registrationToken user own =>
    rintro ⟨⟩
    obtain ⟨htoken, hcreated, hown, hnone⟩ := hknows
    exact ⟨htoken, hcreated, hown, find_role_none hown hnone, hnone⟩
  case case10 uuid completedAt registrationToken user existing own =>
    intro hstep
    obtain ⟨htoken, hcreated, hown, rfl, -⟩ := hknows
    obtain ⟨roles, written, hput, rfl⟩ := writeRole_eq_some hstep
    obtain ⟨-, -, -, hremoved, hadded, -⟩ := Table.write_eq_some (put_none_eq_some hput).2
    refine ⟨⟨hcreated.removed, hcreated.added, hcreated.held⟩, rfl, htoken, ?_, ⟨uuid, ?_⟩, rfl, ?_⟩
    · simpa [hown] using hremoved
    · simpa [hown] using hadded
    · simp
  case case11 user data saved setting remaining own =>
    intro hstep
    obtain ⟨settings, written, hput, rfl⟩ := saveSetting_eq_some hstep
    obtain ⟨hnew, hkept⟩ := put_added hput
    refine
      { created := ⟨hknows.created.removed, hknows.created.added, hknows.created.held⟩
        by_user := hknows.by_user
        token := hknows.token
        removed_roles := hknows.removed_roles
        added_roles := hknows.added_roles
        settings := by rw [hknows.settings, List.append_assoc, List.singleton_append]
        saved_added := ?_ }
    intro row hrow
    rcases List.mem_append.mp hrow with hbefore | hlast
    · refine hkept row (hknows.saved_added row hbefore) ?_
      intro hfound
      exact settings_keys hknows.settings row hbefore (by simpa using List.find?_some hfound)
    · rw [List.mem_singleton.mp hlast]
      exact hnew
  all_goals rintro ⟨⟩
  all_goals trivial

end Steps

/-! ## The record -/

variable {rows : List Setting}

/-- Keys are unique, so the value of a key is that of its row. -/
theorem settingValue_eq {setting : Setting} (hunique : Table.Unique Setting.keys rows)
    (hmem : setting ∈ rows) :
    settingValue rows setting.key = some setting.value := by
  cases hfound : rows.find? (·.key = setting.key) with
  | none => simpa using List.find?_eq_none.mp hfound setting hmem
  | some row =>
      have hkey : row.key = setting.key := by simpa using List.find?_some hfound
      obtain rfl : row = setting := by
        refine hunique.eq_of_mem (List.mem_of_find?_eq_some hfound) hmem
          (List.mem_singleton_self row.key) ?_
        rw [hkey]
        exact List.mem_singleton_self _
      rw [settingValue, hfound, Option.map_some]

/-- The three rows of a record are read as the record. -/
theorem getSetupData_eq {data : SetupData} (hunique : Table.Unique Setting.keys rows)
    (hrows : ∀ row ∈ settingsOf data, row ∈ rows) (htoken : data.registrationToken ≠ [])
    (now : Text) : getSetupData now rows = some data := by
  have hregistration : settingValue rows "registration_token".toList =
      some data.registrationToken :=
    settingValue_eq hunique (hrows _ List.mem_cons_self)
  have hcompleted : settingValue rows "setup_completed_at".toList = some data.setupCompletedAt :=
    settingValue_eq hunique (hrows _ (List.mem_cons_of_mem _ List.mem_cons_self))
  have huser : settingValue rows "setup_by_user_id".toList = some data.setupByUserId :=
    settingValue_eq hunique
      (hrows _ (List.mem_cons_of_mem _ (List.mem_cons_of_mem _ List.mem_cons_self)))
  rw [getSetupData, hregistration, hcompleted, huser]
  exact if_neg htoken

section Commit

variable {store : Store} {user : UserRow} {data : SetupData} {saved : List Setting} {own : Own}

theorem commit_users (hcreated : Created user own) :
    (store.commit user data own).users.rows = store.users.rows ++ [user] := by
  simp [Store.commit, Table.sees, hcreated.removed, hcreated.added]

theorem commit_roles (hsaving : Saving user data saved [] own) :
    ∃ uuid, (store.commit user data own).roles.rows = store.roles.rows ++ [newRole uuid user.id] := by
  obtain ⟨uuid, hadded⟩ := hsaving.added_roles
  exact ⟨uuid, by simp [Store.commit, Table.sees, hsaving.removed_roles, hadded]⟩

theorem recordOf_commit (howned : Table.Owned Setting.keys store.settings own.settings)
    (hsaving : Saving user data saved [] own) :
    RecordOf (store.commit user data own) { user, data } where
  record := by
    refine getSetupData_eq howned.unique ?_ hsaving.token
    intro row hrow
    rw [hsaving.settings, List.append_nil] at hrow
    exact Table.mem_sees.mpr (Or.inr (hsaving.saved_added row hrow))
  by_user := hsaving.by_user
  user := by
    rw [commit_users hsaving.created]
    exact List.mem_append_right _ List.mem_cons_self
  admin := by
    obtain ⟨uuid, hroles⟩ := @commit_roles store user data saved own hsaving
    exact ⟨newRole uuid user.id, hroles ▸ List.mem_append_right _ List.mem_cons_self, rfl, rfl⟩

/-- An administrator that a call has created is found. -/
theorem hasAnyAdmins_of_recordOf {success : Success} (hrecord : RecordOf store success) :
    hasAnyAdmins store.roles.rows = true := by
  obtain ⟨role, hrole, -, hadmin⟩ := hrecord.admin
  refine List.any_eq_true.mpr ⟨role, hrole, ?_⟩
  rw [hadmin]
  decide

theorem log_of_findsNoAdmin (honce : SetUpOnce store)
    (hmeets : findsNoAdmin store (.saving user data saved [] own) .commit = true) :
    store.log = [] := by
  rw [List.eq_nil_iff_forall_not_mem]
  intro success hsuccess
  have hadmin := hasAnyAdmins_of_recordOf (honce.record success hsuccess)
  simp [findsNoAdmin, hadmin] at hmeets

end Commit

/-! ## Runs -/

/-- The tables in every state. -/
structure Sound (store : Store) : Prop where
  users : Table.Unique userKeys store.users.rows
  settings : Table.Unique Setting.keys store.settings.rows
  roles : RolesOfUsers store
  once : SetUpOnce store

/-- A call owns what it has written, and knows what it should. -/
structure Placed (store : Store) (phase : Phase) : Prop where
  users : Table.Owned userKeys store.users phase.own.users
  settings : Table.Owned Setting.keys store.settings phase.own.settings
  knows : Knows store phase

/-- Two calls hold different values. -/
structure Separate (one other : Phase) : Prop where
  users : Table.Apart one.own.users other.own.users
  settings : Table.Apart one.own.settings other.own.settings

theorem Separate.symm {one other : Phase} (hseparate : Separate one other) : Separate other one where
  users := List.disjoint_symm hseparate.users
  settings := List.disjoint_symm hseparate.settings

/-- What a call knows stays over steps that add roles of other users only. -/
theorem Knows.advances {store after : Store} {phase : Phase} (hknows : Knows store phase)
    (hroles : ∀ role ∈ after.roles.rows, role ∈ store.roles.rows ∨
      UserKey.id role.userId ∉ phase.own.users.held) : Knows after phase := by
  cases phase with
  | readingRole registrationToken user own =>
      obtain ⟨htoken, hcreated, hown, hnone⟩ := hknows
      refine ⟨htoken, hcreated, hown, ?_⟩
      intro role hrole hsame
      rcases hroles role hrole with hbefore | hother
      · exact hnone role hbefore hsame
      · exact hother (hsame ▸ hcreated.held)
  | writingRole registrationToken user existing own =>
      obtain ⟨htoken, hcreated, hown, hexisting, hnone⟩ := hknows
      refine ⟨htoken, hcreated, hown, hexisting, ?_⟩
      intro role hrole hsame
      rcases hroles role hrole with hbefore | hother
      · exact hnone role hbefore hsame
      · exact hother (hsame ▸ hcreated.held)
  | _ => exact hknows

section Moves

variable {hash : Text → Text → Text} {label : Statement} {store : Store} {phase other : Phase}
  {outcome : Store × Phase} {after : Store}

theorem Quiet.rolesOfUsers (hquiet : Quiet store after) (hroles : RolesOfUsers store) :
    RolesOfUsers after := by
  rw [RolesOfUsers, hquiet.roles, hquiet.users]
  exact hroles

theorem Quiet.setUpOnce (hquiet : Quiet store after) (honce : SetUpOnce store) :
    SetUpOnce after := by
  refine ⟨hquiet.log ▸ honce.once, ?_⟩
  intro success hsuccess
  have hrecord := honce.record success (hquiet.log ▸ hsuccess)
  refine ⟨?_, hrecord.by_user, ?_, ?_⟩
  · rw [hquiet.settings]
    exact hrecord.record
  · rw [hquiet.users]
    exact hrecord.user
  · rw [hquiet.roles]
    exact hrecord.admin

theorem step_sound (hsound : Sound store) (hplaced : Placed store phase)
    (hmeets : findsNoAdmin store phase label = true)
    (hstep : step hash label store phase = some outcome) :
    Sound outcome.1 ∧ Placed outcome.1 outcome.2 := by
  obtain ⟨husers, hownUsers⟩ := (step_users hsound.users hstep).owned hsound.users hplaced.users
  obtain ⟨hsettings, hownSettings⟩ :=
    (step_settings hplaced.settings hstep).owned hsound.settings hplaced.settings
  have hknows := step_knows hsound.roles hplaced.knows hstep
  refine ⟨⟨husers, hsettings, ?_, ?_⟩, hownUsers, hownSettings, hknows⟩
  · rcases step_rows hstep with hquiet | ⟨user, data, saved, own, rfl, rfl, rfl⟩
    · exact hquiet.rolesOfUsers hsound.roles
    · obtain ⟨uuid, hroles⟩ := @commit_roles store user data saved own hplaced.knows
      intro role hrole
      rw [commit_users hplaced.knows.created]
      rw [hroles] at hrole
      rcases List.mem_append.mp hrole with hbefore | hnew
      · obtain ⟨owner, howner, hid⟩ := hsound.roles role hbefore
        exact ⟨owner, List.mem_append_left _ howner, hid⟩
      · refine ⟨user, List.mem_append_right _ List.mem_cons_self, ?_⟩
        rw [List.mem_singleton.mp hnew]
        rfl
  · rcases step_rows hstep with hquiet | ⟨user, data, saved, own, rfl, rfl, rfl⟩
    · exact hquiet.setUpOnce hsound.once
    · have hlog : (store.commit user data own).log = [{ user, data }] := by
        rw [Store.commit, log_of_findsNoAdmin hsound.once hmeets, List.nil_append]
      refine ⟨by simp [hlog], ?_⟩
      intro success hsuccess
      rw [hlog] at hsuccess
      rw [List.mem_singleton.mp hsuccess]
      exact recordOf_commit hplaced.settings hplaced.knows

theorem step_other (hsound : Sound store) (hplaced : Placed store phase)
    (hother : Placed store other) (hseparate : Separate phase other)
    (hstep : step hash label store phase = some outcome) :
    Placed outcome.1 other ∧ Separate outcome.2 other := by
  obtain ⟨husers, hapartUsers⟩ := (step_users hsound.users hstep).other (by simp [userKeys])
    hsound.users hplaced.users hother.users hseparate.users
  obtain ⟨hsettings, hapartSettings⟩ := (step_settings hplaced.settings hstep).other
    (by simp [Setting.keys]) hsound.settings hplaced.settings hother.settings hseparate.settings
  refine ⟨⟨husers, hsettings, hother.knows.advances ?_⟩, hapartUsers, hapartSettings⟩
  intro role hrole
  rcases step_rows hstep with hquiet | ⟨user, data, saved, own, rfl, rfl, rfl⟩
  · exact Or.inl (hquiet.roles ▸ hrole)
  · obtain ⟨uuid, hroles⟩ := @commit_roles store user data saved own hplaced.knows
    rw [hroles] at hrole
    rcases List.mem_append.mp hrole with hbefore | hnew
    · exact Or.inl hbefore
    · refine Or.inr ?_
      rw [List.mem_singleton.mp hnew]
      exact fun hheld => hseparate.users hplaced.knows.created.held hheld

end Moves

/-- In every run in which each commit still finds no administrator, the setup happens
once. -/
theorem setUpOnce_of_findsNoAdmin {hash : Text → Text → Text} {state : Interleaved Store Phase}
    (hreach : (setups hash).ReachableBy
      (Interleaved.Meets fun store phase label => findsNoAdmin store phase label = true) state) :
    SetUpOnce state.shared := by
  have hsound : Sound state.shared := by
    refine (@Interleaved.interference_free_apart Store Phase Statement Fresh .idle _
      Sound Placed (fun _ => Separate) _ (fun _ _ _ h => h.symm) ?_ ?_ _ hreach).1
    · intro store hfresh
      have husers : Table.Owned userKeys store.users {} := .empty hfresh.users_unique
      have hsettings : Table.Owned Setting.keys store.settings {} := .empty hfresh.settings_unique
      refine ⟨⟨hfresh.users_unique, hfresh.settings_unique, hfresh.role_user, ?_, ?_⟩,
        ⟨husers, hsettings, trivial⟩, List.disjoint_nil_left _, List.disjoint_nil_left _⟩
      · simp [hfresh.log]
      · simp [hfresh.log]
    · intro before call label outcome hsound hplaced hseparate hmeets hmove
      refine ⟨step_sound hsound (hplaced call) hmeets hmove, ?_, ?_⟩
      · intro other hne
        exact step_other hsound (hplaced call) (hplaced other)
          (hseparate call other fun h => hne h.symm) hmove
      · intro one other _ _ hne
        exact hseparate one other hne
  exact hsound.once

/-! ## Two setups at the same time -/

/-- The hash of the one password of the example. -/
def exampleHash (_ _ : Text) : Text :=
  "$2b$12$Jb9VhT3yPq0sLr5uXwZcAeiHxwnKyvOl9a/AgqspcDMhtb1vgACtm".toList

def exampleInput (name : String) : CreateFirstAdminInput where
  email := (name ++ "@example.com").toList
  name := name.toList
  password := "correct horse".toList

/-- A store without users, roles and settings. -/
def noUsers : Interleaved Store Phase where
  shared :=
    { users := { rows := [], held := [] }
      roles := { rows := [], held := [] }
      settings := { rows := [], held := [] }
      log := [] }
  phase _ := .idle

theorem noUsers_init {hash : Text → Text → Text} : (setups hash).init noUsers :=
  ⟨⟨List.Pairwise.nil, List.Pairwise.nil, List.Pairwise.nil, rfl, rfl, rfl,
    List.forall_mem_nil _, rfl, rfl⟩, fun _ => rfl⟩

/-- A call up to its question for an administrator. -/
def askForAdmins (call : Nat) (name : String) : List (Nat × Statement) :=
  [(call, .createFirstAdmin (exampleInput name)), (call, .selectAdmins)]

/-- What the call does when there is none. -/
def createAdmin (call : Nat) (byte : UInt8) (uuid : String) : List (Nat × Statement) :=
  [(call, .selectEmail (List.replicate 32 byte)),
    (call, .insertUser uuid.toList "$2b$12$Jb9VhT3yPq0sLr5uXwZcAe".toList), (call, .selectRole),
    (call, .writeRole uuid.toList "2025-09-01T08:00:00.000Z".toList), (call, .saveSetting),
    (call, .saveSetting), (call, .saveSetting), (call, .commit)]

/-- Both calls have asked before either has created its administrator. -/
def twoSetups : List (Nat × Statement) :=
  askForAdmins 0 "ana" ++ askForAdmins 1 "eva" ++
    createAdmin 0 17 "3f0c8a52" ++ createAdmin 1 34 "9b1d7e64"

theorem twoSetups_log :
    ((Interleaved.run (move exampleHash) noUsers twoSetups).map (·.shared.log.length)) =
      some 2 := by
  decide +kernel

theorem two_administrators :
    ∃ state, (setups exampleHash).Reachable state ∧ ¬ SetUpOnce state.shared := by
  obtain ⟨state, hstate, hlog⟩ := Option.map_eq_some_iff.mp twoSetups_log
  refine ⟨state, Interleaved.reachable_run (.start noUsers_init) hstate, ?_⟩
  intro honce
  exact absurd honce.once (by simp [hlog])

/-- A setup, and a call that asks after it, which is refused. -/
def oneSetup : List (Nat × Statement) :=
  askForAdmins 0 "ana" ++ createAdmin 0 17 "3f0c8a52" ++ askForAdmins 1 "eva"

theorem setUpOnce_oneSetup :
    ∃ state, (setups exampleHash).Reachable state ∧ state.shared.log.length = 1 ∧
      SetUpOnce state.shared := by
  have hrun : ((TransitionSystem.runBy
      (fun state label => findsNoAdmin state.shared (state.phase label.1) label.2)
      (Interleaved.stepOf (move exampleHash)) noUsers oneSetup).map
        fun state => state.shared.log.length) = some 1 := by
    decide
  obtain ⟨state, hstate, hlength⟩ := Option.map_eq_some_iff.mp hrun
  have hreach := Interleaved.reachableBy_runBy _ (.start noUsers_init) hstate
  exact ⟨state, hreach.reachable, hlength, setUpOnce_of_findsNoAdmin hreach⟩

end OpenPath.Api.FirstAdmin
