/-
# One-time tokens

Password reset tokens and email verification tokens. Issuing a reset token is one
insertion; issuing a verification token deletes those of the user and inserts the
new one in a transaction. Using a token selects the live rows of the user, compares
their hashes, deletes all rows of the user and writes the user, in a transaction
whose statements interleave with those of other calls. A deletion takes its
snapshot when it starts and waits for the rows that other transactions hold.

The number of deleted rows is not looked at, and nothing orders two issues of one
user. Where a deletion finds the row that was compared, and neither an issue nor a
reset of the same user comes in between, each token is used once.
-/

import OpenPath.Api.Accounts
import OpenPath.Foundation.Concurrency
import OpenPath.Foundation.ReadCommitted

namespace OpenPath.Api.OneTimeTokens

open Accounts
open Foundation (Table Writes Interleaved TransitionSystem)

/-- The password hash, the comparison with it, and the calendar of the server. -/
structure Library where
  hash : Text → Text → Text
  compare : Text → Text → Bool
  addHours : Nat → Int → Int

/-- A row of `password_reset_tokens` or `email_verification_tokens`. The number of
the issue is not stored: it tells two tokens apart. -/
structure TokenRow where
  id : Text
  userId : Text
  tokenHash : Text
  expiresAt : Int
  issue : Nat
  deriving DecidableEq

/-- The unique values of the rows. -/
def TokenRow.keys (row : TokenRow) : List Text := [row.id]
def userKeys (row : UserRow) : List Text := [row.id]

inductive Request
  | generateResetToken (email : Text)
  | resetPassword (email token newPassword : Text)
  | generateEmailVerificationToken (email : Text)
  | verifyEmail (email token : Text)

/-- What the token of a call is used for. -/
inductive Purpose
  | reset (newPassword : Text)
  | verifyEmail

/-- What a call gives back: the data of a success, or the error that it reports. -/
inductive Answer
  | resetToken (token : Text)
  | verificationToken (email token : Text) (expiresAt : Int)
  | success
  | failed (error : AuthServiceError)

/-- A token that has been drawn for a user and is about to be stored. -/
structure Draft where
  user : UserRow
  id : Text
  token : Text
  tokenHash : Text
  expiresAt : Int

/-- What follows the deletion of the tokens of a user: the use of the one that was
compared, or the insertion of a new verification token. -/
inductive Continuation
  | consume (purpose : Purpose) (matched : TokenRow)
  | issue (draft : Draft)

/-- How far a call has come. -/
inductive Phase
  | idle
  | reading (request : Request)
  | drawingReset (user : UserRow)
  | drawingEmail (user : UserRow)
  | insertingReset (draft : Draft)
  | selecting (purpose : Purpose) (userId token : Text) (since : Int)
  | comparing (purpose : Purpose) (userId token : Text) (rows : List TokenRow)
  | deleting (userId : Text) (continuation : Continuation)
  | waiting (userId : Text) (continuation : Continuation) (snapshot : List TokenRow)
  | updating (purpose : Purpose) (userId : Text) (matched : TokenRow) (own : Writes Text TokenRow)
  | insertingEmail (draft : Draft) (own : Writes Text TokenRow)
  | committingUse (purpose : Purpose) (userId : Text) (matched : TokenRow)
      (own : Writes Text TokenRow) (ownUsers : Writes Text UserRow) (updated : Bool)
  | committingEmail (draft : Draft) (own : Writes Text TokenRow)
  | refusing (purpose : Purpose)
  | settled (answer : Answer)

/-- A reset token that was issued, a password that was changed with one, and a call
that reported an invalid token, with whether its transaction had written. -/
inductive Event
  | issued (userId : Text) (issue : Nat)
  | changed (userId : Text) (issue : Nat)
  | refused (wrote : Bool)
  deriving DecidableEq

/-- The tables, the clock in milliseconds, and what has happened. -/
structure Service where
  users : Table Text UserRow
  resetTokens : Table Text TokenRow
  emailTokens : Table Text TokenRow
  now : Int
  issues : Nat
  log : List Event

/-- One step of a call. The drawn identifiers, the salts, and the moment at which a
query was built come from outside. -/
inductive Statement
  | call (request : Request)
  | selectUser
  | draw (tokenUuid idUuid salt : Text)
  | insertToken
  | selectTokens (cutoff : Int)
  | compareTokens
  | beginDelete
  | finishDelete
  | updateUser (salt : Text)
  | commit
  | abort (message : Text)
  | tick (later : Int)

/-- The table of the tokens that a deletion clears. -/
def Continuation.resets : Continuation → Bool
  | .consume (.reset _) _ => true
  | _ => false

def Purpose.resets : Purpose → Bool
  | .reset _ => true
  | .verifyEmail => false

def Service.tokens (service : Service) (resets : Bool) : Table Text TokenRow :=
  if resets then service.resetTokens else service.emailTokens

def Service.setTokens (service : Service) (resets : Bool) (table : Table Text TokenRow) : Service :=
  if resets then { service with resetTokens := table } else { service with emailTokens := table }

/-- The token itself is 12 characters of a UUID without its dashes. -/
def drawnToken (uuid : Text) : Text := (uuid.filter (· ≠ '-')).take 12

def draftReset (library : Library) (now : Int) (user : UserRow) (tokenUuid idUuid salt : Text) :
    Draft where
  user := user
  id := "reset_".toList ++ idUuid.take 8
  token := drawnToken tokenUuid
  tokenHash := library.hash salt (drawnToken tokenUuid)
  expiresAt := library.addHours 1 now

def EMAIL_VERIFICATION_TTL_HOURS : Nat := 24

def draftEmail (library : Library) (now : Int) (user : UserRow) (tokenUuid idUuid salt : Text) :
    Draft where
  user := user
  id := "verify_".toList ++ idUuid.take 8
  token := drawnToken tokenUuid
  tokenHash := library.hash salt (drawnToken tokenUuid)
  expiresAt := library.addHours EMAIL_VERIFICATION_TTL_HOURS now

/-- The row of a draft, under the number of its issue. -/
def Draft.row (draft : Draft) (issue : Nat) : TokenRow where
  id := draft.id
  userId := draft.user.id
  tokenHash := draft.tokenHash
  expiresAt := draft.expiresAt
  issue := issue

def userNotFound : AuthServiceError where
  code := .notFound
  message := "User not found".toList

def alreadyVerified : AuthServiceError where
  code := .conflict
  message := "Email is already verified".toList

/-- The error of a token that does not do. -/
def invalidToken : Purpose → AuthServiceError
  | .reset _ => { code := .unauthorized, message := "Invalid or expired token".toList }
  | .verifyEmail =>
      { code := .badRequest, message := "Invalid or expired verification token".toList }

/-- Where a call goes on once it has read the user. -/
def dispatch (now : Int) : Request → Option UserRow → Phase
  | _, none => .settled (.failed userNotFound)
  | .generateResetToken _, some user => .drawingReset user
  | .resetPassword _ token newPassword, some user =>
      .selecting (.reset newPassword) user.id token now
  | .generateEmailVerificationToken _, some user =>
      if user.emailVerified then .settled (.failed alreadyVerified) else .drawingEmail user
  | .verifyEmail _ token, some user =>
      if user.emailVerified then .settled .success else .selecting .verifyEmail user.id token now

def Request.email : Request → Text
  | .generateResetToken email => email
  | .resetPassword email _ _ => email
  | .generateEmailVerificationToken email => email
  | .verifyEmail email _ => email

/-- The rows of the user that are live at the time that the query was built with. -/
def liveRows (rows : List TokenRow) (userId : Text) (cutoff : Int) : List TokenRow :=
  rows.filter fun row => row.userId = userId && cutoff < row.expiresAt

/-- The user as the update writes it. -/
def updatedUser (library : Library) (salt : Text) (user : UserRow) : Purpose → UserRow
  | .reset newPassword => { user with passwordHash := some (library.hash salt newPassword) }
  | .verifyEmail => { user with emailVerified := true }

/-- `createResetToken`: an insertion that is a transaction of its own. A statement
that the database refuses is not possible; its call aborts. -/
def insertReset (service : Service) (draft : Draft) : Option (Service × Phase) :=
  if service.resetTokens.conflicts TokenRow.keys (draft.row service.issues) {} = [] then
    (service.resetTokens.alone TokenRow.keys [] [draft.row service.issues]).map fun table =>
      ({ service with
          resetTokens := table
          issues := service.issues + 1
          log := service.log ++ [.issued draft.user.id service.issues] },
        .settled (.resetToken draft.token))
  else none

/-- The insertion of a verification token, within its transaction. -/
def insertEmail (service : Service) (draft : Draft) (own : Writes Text TokenRow) :
    Option (Service × Phase) :=
  if service.emailTokens.conflicts TokenRow.keys (draft.row service.issues) own = [] then
    (service.emailTokens.write TokenRow.keys [] [draft.row service.issues] own).map fun outcome =>
      ({ service with emailTokens := outcome.1, issues := service.issues + 1 },
        .committingEmail draft outcome.2)
  else none

/-- The end of a deletion. -/
def finishDelete (service : Service) (userId : Text) (continuation : Continuation)
    (snapshot : List TokenRow) : Option (Service × Phase) :=
  ((service.tokens continuation.resets).delete TokenRow.keys snapshot {}).map fun outcome =>
    (service.setTokens continuation.resets outcome.1,
      match continuation with
      | .consume purpose matched => .updating purpose userId matched outcome.2
      | .issue draft => .insertingEmail draft outcome.2)

/-- The update of the user; no row is updated where the user is gone. -/
def updateUser (library : Library) (salt : Text) (service : Service) (purpose : Purpose)
    (userId : Text) (matched : TokenRow) (own : Writes Text TokenRow) : Option (Service × Phase) :=
  match getUserById service.users.rows userId with
  | none => some (service, .committingUse purpose userId matched own {} false)
  | some user =>
      (service.users.write userKeys [user] [updatedUser library salt user purpose] {}).map
        fun outcome =>
          ({ service with users := outcome.1 },
            .committingUse purpose userId matched own outcome.2 true)

/-- The commit of a use. -/
def commitUse (service : Service) (purpose : Purpose) (userId : Text) (matched : TokenRow)
    (own : Writes Text TokenRow) (ownUsers : Writes Text UserRow) (updated : Bool) :
    Service × Phase :=
  let committed :=
    { service.setTokens purpose.resets ((service.tokens purpose.resets).commit own) with
      users := service.users.commit ownUsers }
  if updated then
    ({ committed with
        log := if purpose.resets then service.log ++ [.changed userId matched.issue]
          else service.log },
      .settled .success)
  else
    ({ committed with
        log := service.log ++ [.refused (!own.removed.isEmpty || !ownUsers.added.isEmpty)] },
      .settled (.failed (invalidToken purpose)))

/-- What a call has written in the three tables. -/
def Phase.ownUsers : Phase → Writes Text UserRow
  | .committingUse _ _ _ _ ownUsers _ => ownUsers
  | _ => {}

def Phase.ownReset : Phase → Writes Text TokenRow
  | .updating (.reset _) _ _ own => own
  | .committingUse (.reset _) _ _ own _ _ => own
  | _ => {}

def Phase.ownEmail : Phase → Writes Text TokenRow
  | .updating .verifyEmail _ _ own => own
  | .committingUse .verifyEmail _ _ own _ _ => own
  | .insertingEmail _ own => own
  | .committingEmail _ own => own
  | _ => {}

/-- A transaction is taken back, and the call reports the error. -/
def abortCall (service : Service) (phase : Phase) (message : Text) : Service × Phase :=
  ({ service with
      users := service.users.rollback phase.ownUsers
      resetTokens := service.resetTokens.rollback phase.ownReset
      emailTokens := service.emailTokens.rollback phase.ownEmail },
    .settled (.failed { code := .unauthorized, message }))

/-- One step of one call. -/
def step (library : Library) : Statement → Service → Phase → Option (Service × Phase)
  | .call request, service, .idle => some (service, .reading request)
  | .selectUser, service, .reading request =>
      some (service,
        dispatch service.now request (getUserByEmail service.users.rows request.email))
  | .draw tokenUuid idUuid salt, service, .drawingReset user =>
      some (service,
        .insertingReset (draftReset library service.now user tokenUuid idUuid salt))
  | .draw tokenUuid idUuid salt, service, .drawingEmail user =>
      some (service,
        .deleting user.id (.issue (draftEmail library service.now user tokenUuid idUuid salt)))
  | .insertToken, service, .insertingReset draft => insertReset service draft
  | .selectTokens cutoff, service, .selecting purpose userId token since =>
      if since ≤ cutoff ∧ cutoff ≤ service.now then
        some (service, .comparing purpose userId token
          (liveRows (service.tokens purpose.resets).rows userId cutoff))
      else none
  | .compareTokens, service, .comparing purpose userId token rows =>
      match rows.find? (library.compare token ·.tokenHash) with
      | none => some (service, .refusing purpose)
      | some matched => some (service, .deleting userId (.consume purpose matched))
  | .beginDelete, service, .deleting userId continuation =>
      some (service, .waiting userId continuation
        ((service.tokens continuation.resets).rows.filter (·.userId = userId)))
  | .finishDelete, service, .waiting userId continuation snapshot =>
      finishDelete service userId continuation snapshot
  | .updateUser salt, service, .updating purpose userId matched own =>
      updateUser library salt service purpose userId matched own
  | .insertToken, service, .insertingEmail draft own => insertEmail service draft own
  | .commit, service, .committingUse purpose userId matched own ownUsers updated =>
      some (commitUse service purpose userId matched own ownUsers updated)
  | .commit, service, .committingEmail draft own =>
      some ({ service with emailTokens := service.emailTokens.commit own },
        .settled (.verificationToken draft.user.email draft.token draft.expiresAt))
  | .commit, service, .refusing purpose =>
      some ({ service with log := service.log ++ [.refused false] },
        .settled (.failed (invalidToken purpose)))
  | .abort _, _, .idle => none
  | .abort _, _, .settled _ => none
  | .abort message, service, phase => some (abortCall service phase message)
  | .tick later, service, phase =>
      if service.now ≤ later then some ({ service with now := later }, phase) else none
  | _, _, _ => none

/-- A step of one call, as a move of the interleaved system. -/
def move (library : Library) (label : Statement) (source : Service × Phase) :
    Option (Service × Phase) :=
  step library label source.1 source.2

/-! ## Used once -/

/-- A reset of the password has been committed for the user of the issue, after the
issue. -/
def Superseded (log : List Event) (issue : Nat) : Prop :=
  ∃ pre userId used post,
    log = pre ++ .changed userId used :: post ∧ .issued userId issue ∈ pre

/-- The event changes a password with the token of the issue. -/
def changes (issue : Nat) : Event → Bool
  | .changed _ used => used = issue
  | _ => false

/-- A verification token is valid. -/
def Live (now : Int) (row : TokenRow) : Prop := now < row.expiresAt

/-- Each reset token changes the password at most once, and not after another one of
its user has changed it; a superseded token is not stored either. A user has at most
one valid verification token, and a call that reports an invalid token has written
nothing. -/
structure OneTime (service : Service) : Prop where
  once : ∀ issue, service.log.countP (changes issue) ≤ 1
  superseded : ∀ pre userId used post issue,
    service.log = pre ++ .changed userId used :: post → .issued userId issue ∈ pre →
      (∀ other, .changed other issue ∉ post) ∧
        ∀ row ∈ service.resetTokens.rows, row.issue ≠ issue
  one_verification : ∀ userId, (liveRows service.emailTokens.rows userId service.now).length ≤ 1
  refusals : ∀ wrote, .refused wrote ∈ service.log → wrote = false

/-- Distinct rows; the reset tokens that are stored were issued and are not
superseded; no user has two valid verification tokens. -/
structure Fresh (service : Service) : Prop where
  reset_unique : Table.Unique TokenRow.keys service.resetTokens.rows
  email_unique : Table.Unique TokenRow.keys service.emailTokens.rows
  users_held : service.users.held = []
  reset_held : service.resetTokens.held = []
  email_held : service.emailTokens.held = []
  log : service.log = service.resetTokens.rows.map fun row => .issued row.userId row.issue
  issues : (service.resetTokens.rows.map (·.issue)).Nodup
  issues_lt : ∀ row ∈ service.resetTokens.rows, row.issue < service.issues
  one_verification : ∀ row ∈ service.emailTokens.rows, ∀ other ∈ service.emailTokens.rows,
    Live service.now row → Live service.now other → row.userId = other.userId → row = other

/-- All interleavings of the calls. -/
def accounts (library : Library) :
    TransitionSystem (Interleaved Service Phase) (Nat × Statement) :=
  Interleaved.system Fresh .idle (Interleaved.movesOf (move library))

/-- A reset of the password of the user is between its deletion and its end. -/
def clears (userId : Text) : Phase → Bool
  | .waiting user (.consume (.reset _) _) _ => user = userId
  | .updating (.reset _) user _ _ => user = userId
  | .committingUse (.reset _) user _ _ _ _ => user = userId
  | _ => false

/-- A call is about to commit a valid verification token of the user. -/
def issuesEmail (userId : Text) (now : Int) (phase : Phase) : Bool :=
  !(liveRows phase.ownEmail.added userId now).isEmpty

/-- The condition on a step: the deletion of a reset finds the row that it has
compared, no reset token is inserted while a reset of its user is under way, and no
verification token while its user has another one. -/
def Orderly (state : Interleaved Service Phase) (label : Nat × Statement) : Prop :=
  match state.phase label.1, label.2 with
  | .waiting _ (.consume (.reset _) matched) _, .finishDelete =>
      matched ∈ state.shared.resetTokens.rows
  | .insertingReset draft, .insertToken =>
      ∀ other, other ≠ label.1 → clears draft.user.id (state.phase other) = false
  | .insertingEmail draft own, .insertToken =>
      liveRows (state.shared.emailTokens.sees own) draft.user.id state.shared.now = [] ∧
        ∀ other, other ≠ label.1 →
          issuesEmail draft.user.id state.shared.now (state.phase other) = false
  | _, _ => True

/-! ## The history of the reset tokens -/

section History

variable {log : List Event} {event : Event} {issue : Nat}

theorem append_singleton_eq_append_cons {α : Type*} {list pre post : List α} {last x : α} :
    list ++ [last] = pre ++ x :: post ↔
      (post = [] ∧ list = pre ∧ last = x) ∨
        ∃ rest, post = rest ++ [last] ∧ list = pre ++ x :: rest := by
  constructor
  · intro heq
    rcases List.eq_nil_or_concat post with rfl | ⟨rest, tail, rfl⟩
    · obtain ⟨rfl, hlast⟩ := List.append_inj' heq rfl
      exact Or.inl ⟨rfl, rfl, List.singleton_inj.mp hlast⟩
    · have heq' : list ++ [last] = (pre ++ x :: rest) ++ [tail] := by
        simpa [List.concat_eq_append] using heq
      obtain ⟨rfl, hlast⟩ := List.append_inj' heq' rfl
      obtain rfl := List.singleton_inj.mp hlast
      exact Or.inr ⟨rest, by simp [List.concat_eq_append], rfl⟩
  · rintro (⟨rfl, rfl, rfl⟩ | ⟨rest, rfl, rfl⟩)
    · rfl
    · simp

theorem superseded_append :
    Superseded (log ++ [event]) issue ↔
      Superseded log issue ∨
        ∃ userId used, event = .changed userId used ∧ .issued userId issue ∈ log := by
  constructor
  · rintro ⟨pre, userId, used, post, hsplit, hissued⟩
    rcases append_singleton_eq_append_cons.mp hsplit with ⟨-, rfl, rfl⟩ | ⟨rest, rfl, hlog⟩
    · exact Or.inr ⟨userId, used, rfl, hissued⟩
    · exact Or.inl ⟨pre, userId, used, rest, hlog, hissued⟩
  · rintro (⟨pre, userId, used, post, rfl, hissued⟩ | ⟨userId, used, rfl, hissued⟩)
    · exact ⟨pre, userId, used, post ++ [event], by simp, hissued⟩
    · exact ⟨log, userId, used, [], rfl, hissued⟩

/-- Every change was made with a token of the user that had been issued and was not
superseded. -/
def Honest (log : List Event) : Prop :=
  ∀ pre userId issue post, log = pre ++ .changed userId issue :: post →
    .issued userId issue ∈ pre ∧ ¬ Superseded pre issue

theorem Honest.append (hhonest : Honest log)
    (hevent : ∀ userId issue, event = .changed userId issue →
      .issued userId issue ∈ log ∧ ¬ Superseded log issue) : Honest (log ++ [event]) := by
  intro pre userId used post hsplit
  rcases append_singleton_eq_append_cons.mp hsplit with ⟨-, rfl, hchanged⟩ | ⟨rest, -, hlog⟩
  · exact hevent userId used hchanged
  · exact hhonest pre userId used rest hlog

theorem Honest.superseded {userId : Text} (hhonest : Honest log)
    (hchanged : .changed userId issue ∈ log) : Superseded log issue := by
  obtain ⟨pre, post, rfl⟩ := List.append_of_mem hchanged
  exact ⟨pre, userId, issue, post, rfl, (hhonest pre userId issue post rfl).1⟩

end History

/-- What the stored reset tokens and the history have to do with each other. -/
structure ResetSound (rows : List TokenRow) (log : List Event) (issues : Nat) : Prop where
  honest : Honest log
  once : ∀ issue, log.countP (changes issue) ≤ 1
  issued : ∀ row ∈ rows, .issued row.userId row.issue ∈ log
  alive : ∀ row ∈ rows, ¬ Superseded log row.issue
  issued_lt : ∀ userId issue, .issued userId issue ∈ log → issue < issues
  issued_user : ∀ userId other issue, .issued userId issue ∈ log → .issued other issue ∈ log →
    userId = other
  refusals : ∀ wrote, .refused wrote ∈ log → wrote = false

namespace ResetSound

variable {rows later : List TokenRow} {log : List Event} {issues : Nat}

section

variable (hsound : ResetSound rows log issues)
include hsound

theorem mono {more : Nat} (hrows : later ⊆ rows) (hle : issues ≤ more) : ResetSound later log more where
  honest := hsound.honest
  once := hsound.once
  issued row hrow := hsound.issued row (hrows hrow)
  alive row hrow := hsound.alive row (hrows hrow)
  issued_lt userId issue hissued := Nat.lt_of_lt_of_le (hsound.issued_lt userId issue hissued) hle
  issued_user := hsound.issued_user
  refusals := hsound.refusals

theorem issue {row : TokenRow} (hissue : row.issue = issues) (hrows : later ⊆ rows ++ [row]) :
    ResetSound later (log ++ [.issued row.userId issues]) (issues + 1) where
  honest := hsound.honest.append fun _ _ h => Event.noConfusion h
  once issue := by simpa [changes] using hsound.once issue
  issued := by
    intro other hother
    rcases List.mem_append.mp (hrows hother) with hold | hnew
    · exact List.mem_append_left _ (hsound.issued other hold)
    · rw [List.mem_singleton.mp hnew, hissue]
      exact List.mem_append_right _ List.mem_cons_self
  alive := by
    intro other hother hsuperseded
    rcases superseded_append.mp hsuperseded with hbefore | ⟨userId, used, hchanged, -⟩
    · rcases List.mem_append.mp (hrows hother) with hold | hnew
      · exact hsound.alive other hold hbefore
      · obtain ⟨pre, userId, used, post, rfl, hissued⟩ := hbefore
        rw [List.mem_singleton.mp hnew, hissue] at hissued
        exact Nat.lt_irrefl _ (hsound.issued_lt userId issues (List.mem_append_left _ hissued))
    · cases hchanged
  issued_lt := by
    intro userId issue hissued
    rcases List.mem_append.mp hissued with hold | hnew
    · exact Nat.lt_succ_of_lt (hsound.issued_lt userId issue hold)
    · obtain ⟨-, rfl⟩ := Event.issued.inj (List.mem_singleton.mp hnew)
      exact Nat.lt_succ_self _
  issued_user := by
    intro userId other issue hone hother
    rcases List.mem_append.mp hone with holdOne | hnewOne
    · rcases List.mem_append.mp hother with hold | hnew
      · exact hsound.issued_user userId other issue holdOne hold
      · obtain ⟨-, rfl⟩ := Event.issued.inj (List.mem_singleton.mp hnew)
        exact absurd (hsound.issued_lt userId _ holdOne) (Nat.lt_irrefl _)
    · obtain ⟨rfl, rfl⟩ := Event.issued.inj (List.mem_singleton.mp hnewOne)
      rcases List.mem_append.mp hother with hold | hnew
      · exact absurd (hsound.issued_lt other _ hold) (Nat.lt_irrefl _)
      · exact (Event.issued.inj (List.mem_singleton.mp hnew)).1.symm
  refusals wrote hrefused := by
    rcases List.mem_append.mp hrefused with hold | hnew
    · exact hsound.refusals wrote hold
    · cases List.mem_singleton.mp hnew

/-- A password is changed with a stored token, and no token of the user is left. -/
theorem change {matched : TokenRow} {userId : Text} (hmatched : matched ∈ rows)
    (huser : matched.userId = userId) (hrows : later ⊆ rows)
    (hcleared : ∀ row ∈ later, row.userId ≠ userId) :
    ResetSound later (log ++ [.changed userId matched.issue]) issues where
  honest := by
    refine hsound.honest.append ?_
    intro other issue hevent
    obtain ⟨rfl, rfl⟩ := Event.changed.inj hevent
    exact ⟨huser ▸ hsound.issued matched hmatched, hsound.alive matched hmatched⟩
  once := by
    intro issue
    rw [List.countP_append, List.countP_singleton]
    by_cases hsame : matched.issue = issue
    · have hnone : log.countP (changes issue) = 0 := by
        rw [List.countP_eq_zero]
        intro event hevent hchanges
        cases event with
        | changed other used =>
            have hused : used = issue := by simpa [changes] using hchanges
            rw [hused, ← hsame] at hevent
            exact hsound.alive matched hmatched (hsound.honest.superseded hevent)
        | issued other used => cases hchanges
        | refused wrote => cases hchanges
      simp [hnone, changes, hsame]
    · simpa [changes, hsame] using hsound.once issue
  issued row hrow := List.mem_append_left _ (hsound.issued row (hrows hrow))
  alive := by
    intro row hrow hsuperseded
    rcases superseded_append.mp hsuperseded with hbefore | ⟨other, used, hchanged, hissued⟩
    · exact hsound.alive row (hrows hrow) hbefore
    · obtain ⟨rfl, -⟩ := Event.changed.inj hchanged
      exact hcleared row hrow (hsound.issued_user _ _ _ (hsound.issued row (hrows hrow)) hissued)
  issued_lt other issue hissued := by
    rcases List.mem_append.mp hissued with hold | hnew
    · exact hsound.issued_lt other issue hold
    · cases List.mem_singleton.mp hnew
  issued_user one other issue hone hother := by
    rcases List.mem_append.mp hone with holdOne | hnewOne
    · rcases List.mem_append.mp hother with hold | hnew
      · exact hsound.issued_user one other issue holdOne hold
      · cases List.mem_singleton.mp hnew
    · cases List.mem_singleton.mp hnewOne
  refusals wrote hrefused := by
    rcases List.mem_append.mp hrefused with hold | hnew
    · exact hsound.refusals wrote hold
    · cases List.mem_singleton.mp hnew

/-- A call reports an invalid token, and has written nothing. -/
theorem refuse : ResetSound rows (log ++ [.refused false]) issues  where
  honest := hsound.honest.append fun _ _ h => Event.noConfusion h
  once issue := by simpa [changes] using hsound.once issue
  issued row hrow := List.mem_append_left _ (hsound.issued row hrow)
  alive row hrow hsuperseded := by
    rcases superseded_append.mp hsuperseded with hbefore | ⟨userId, used, hchanged, -⟩
    · exact hsound.alive row hrow hbefore
    · cases hchanged
  issued_lt userId issue hissued := by
    rcases List.mem_append.mp hissued with hold | hnew
    · exact hsound.issued_lt userId issue hold
    · cases List.mem_singleton.mp hnew
  issued_user userId other issue hone hother := by
    rcases List.mem_append.mp hone with holdOne | hnewOne
    · rcases List.mem_append.mp hother with hold | hnew
      · exact hsound.issued_user userId other issue holdOne hold
      · cases List.mem_singleton.mp hnew
    · cases List.mem_singleton.mp hnewOne
  refusals wrote hrefused := by
    rcases List.mem_append.mp hrefused with hold | hnew
    · exact hsound.refusals wrote hold
    · exact (Event.refused.inj (List.mem_singleton.mp hnew))

end

end ResetSound

end OpenPath.Api.OneTimeTokens
