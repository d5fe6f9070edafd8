/-
# Refresh tokens and their blacklist

A refresh verifies the token, blacklists it and issues a new pair; a logout
blacklists the tokens of a session in one transaction. The verification is a
select and a check of the signature, the blacklisting verifies the token again
and then inserts a row that may be there already. Any number of such calls run
at the same time, statement by statement, beside the cleanup of expired rows.

The result of the insertion is not looked at: two refreshes of one token that
have both verified it both issue a pair. Where every insertion takes effect, a
token is used once, and never after its logout.
-/

import OpenPath.Api.Accounts
import OpenPath.Foundation.Concurrency
import OpenPath.Foundation.ReadCommitted

namespace OpenPath.Api.RefreshTokens

open Accounts Auth
open Foundation (Table Writes Interleaved TransitionSystem)

inductive TokenType
  | access
  | refresh
  deriving DecidableEq

/-- What the verification and the blacklist read of a token. -/
structure TokenPayload where
  sub : Text
  type : Option TokenType
  exp : Option Int
  deriving DecidableEq

/-- `TokenPair`; the token type is always `Bearer`. -/
structure TokenPair where
  accessToken : Text
  refreshToken : Text
  expiresIn : Text
  deriving DecidableEq

/-- The signing library and the hash: the payload of a token whose signature and
issuer are right, the subject of a token whatever its signature, the digest, and
the signing of a new pair with fresh identifiers. -/
structure Signing where
  signed : Text → Option TokenPayload
  decodedSub : Text → Option Text
  sha256Hex : Text → Text
  generateTokens : UserRow → List RoleInfo → Text × Text → TokenPair

/-- `jwt.verify`: a token is expired in the second that it names. -/
def verify (signing : Signing) (now : Int) (token : Text) : Option TokenPayload :=
  (signing.signed token).filter fun payload => payload.exp.all fun exp => now / 1000 < exp

/-- A row of `tokens`. -/
structure TokenRow where
  id : Text
  userId : Text
  tokenHash : Text
  expiresAt : Int
  deriving DecidableEq

/-- The unique values of a row. -/
def TokenRow.keys (row : TokenRow) : List Text := [row.id]

/-- The first 32 characters of the digest. -/
def tokenId (signing : Signing) (token : Text) : Text :=
  (signing.sha256Hex token).take 32

/-- What a refresh or a logout ends with. -/
inductive Answer
  | refreshed (result : AuthResult TokenPair)
  | loggedOut
  | threw

/-- A refresh that issued a pair, with whether a logout of its token had completed
when it began, and a logout that completed. -/
inductive Event
  | rotated (token : Text) (late : Bool) (pair : TokenPair)
  | loggedOut (tokens : List Text)

/-- What a verification is for: the check of a refresh, the blacklisting by a
refresh, and the blacklisting by a logout that was given some tokens, has others
still to do and has written what it has. -/
inductive Purpose
  | check (late : Bool)
  | rotation (late : Bool) (user : UserRow)
  | logout (given rest : List Text) (own : Writes Text TokenRow)

/-- How far a call has come. -/
inductive Phase
  | idle
  | selecting (token : Text) (purpose : Purpose)
  | comparing (token : Text) (found : Option TokenRow) (purpose : Purpose)
  | verifying (token : Text) (purpose : Purpose)
  | loadingUser (late : Bool) (token sub : Text)
  | inserting (token : Text) (expiresAt : Int) (purpose : Purpose)
  | loadingRoles (late : Bool) (token : Text) (user : UserRow)
  | committing (given : List Text) (own : Writes Text TokenRow)
  | settled (answer : Answer)

/-- The tables, the clock in milliseconds, and what has happened. -/
structure Service where
  users : List UserRow
  roles : List RoleRow
  tokens : Table Text TokenRow
  now : Int
  log : List Event

/-- One step of a call. A query may fail, and a call may be cut off. -/
inductive Statement
  | refresh (token : Text)
  | logout (accessToken refreshToken : Option Text)
  | selectToken
  | selectFails
  | compare
  | verify
  | selectUser
  | insertToken
  | selectRoles (uuids : Text × Text)
  | commit
  | abort
  | cleanup (cutoff : Int)
  | tick (later : Int)

def invalidToken : AuthServiceError where
  code := .unauthorized
  message := "Invalid refresh token".toList

def EMAIL_VERIFICATION_REQUIRED_MESSAGE : Text :=
  "Email verification required before signing in".toList

/-- The user of a refresh has to be active and verified. -/
def checkUser : Option UserRow → AuthResult UserRow
  | none => .error { code := .unauthorized, message := "User not found or inactive".toList }
  | some user =>
      if user.isActive ∧ user.emailVerified then .ok user
      else
        .error
          { code := .unauthorized
            message :=
              if user.emailVerified then "User not found or inactive".toList
              else EMAIL_VERIFICATION_REQUIRED_MESSAGE }

/-- The time up to which `blacklistToken` of the authorization module keeps a
token out: that of the token, or a day where the token does not verify. -/
def blacklistUntil (now : Int) (decoded : Option TokenPayload) : Int :=
  match (decoded.bind (·.exp)).filter (· ≠ 0) with
  | some exp => exp * 1000
  | none => now + 24 * 60 * 60 * 1000

def isRefresh (payload : TokenPayload) : Bool := payload.type = some .refresh

/-- What follows a verification. -/
def resume (now : Int) (token : Text) (decoded : Option TokenPayload) : Purpose → Phase
  | .check late =>
      match decoded.filter isRefresh with
      | none => .settled (.refreshed (.error invalidToken))
      | some payload => .loadingUser late token payload.sub
  | purpose => .inserting token (blacklistUntil now decoded) purpose

/-- A logout turns to its next token. -/
def nextToken (given : List Text) (own : Writes Text TokenRow) : List Text → Phase
  | [] => .committing given own
  | token :: rest => .selecting token (.logout given rest own)

def tokenRow (signing : Signing) (token : Text) (expiresAt : Int) : TokenRow where
  id := tokenId signing token
  userId := (signing.decodedSub token).getD "unknown".toList
  tokenHash := signing.sha256Hex token
  expiresAt := expiresAt

/-- `insert … on conflict do nothing`: it waits for a transaction that inserts the
same identifier, and fails where the user is not there. -/
def insertRow (row : TokenRow) (service : Service) (own : Writes Text TokenRow) :
    Option (Except Unit (Table Text TokenRow × Writes Text TokenRow)) :=
  if ¬ service.tokens.Free own row.keys then none
  else if service.tokens.conflicts TokenRow.keys row own ≠ [] then
    some (.ok (service.tokens, own))
  else if service.users.all (·.id ≠ row.userId) then some (.error ())
  else (service.tokens.write TokenRow.keys [] [row] own).map .ok

/-- Some logout of the token has completed. -/
def loggedOut (token : Text) (log : List Event) : Bool :=
  log.any fun
    | .loggedOut tokens => tokens.contains token
    | .rotated _ _ _ => false

/-- The writes of the transaction that a call has open. -/
def Purpose.own : Purpose → Writes Text TokenRow
  | .logout _ _ own => own
  | _ => {}

def Phase.own : Phase → Writes Text TokenRow
  | .selecting _ purpose => purpose.own
  | .comparing _ _ purpose => purpose.own
  | .verifying _ purpose => purpose.own
  | .inserting _ _ purpose => purpose.own
  | .committing _ own => own
  | _ => {}

/-- The insertion of a refresh is a transaction of its own. -/
def insertAlone (signing : Signing) (service : Service) (late : Bool) (token : Text)
    (expiresAt : Int) (user : UserRow) : Option (Service × Phase) :=
  (insertRow (tokenRow signing token expiresAt) service {}).map fun
    | .error _ => (service, .settled .threw)
    | .ok (tokens, own) =>
        ({ service with tokens := tokens.commit own }, .loadingRoles late token user)

/-- The insertion of a logout; a failure takes the whole transaction back. -/
def insertWithin (signing : Signing) (service : Service) (token : Text) (expiresAt : Int)
    (given rest : List Text) (own : Writes Text TokenRow) : Option (Service × Phase) :=
  (insertRow (tokenRow signing token expiresAt) service own).map fun
    | .error _ => ({ service with tokens := service.tokens.rollback own }, .settled .threw)
    | .ok (tokens, later) => ({ service with tokens }, nextToken given later rest)

/-- The tokens that a logout was given; an empty one counts as none. -/
def givenTokens (accessToken refreshToken : Option Text) : List Text :=
  (accessToken.toList ++ refreshToken.toList).filter (· ≠ [])

/-- The end of a refresh: a new pair for the user and the roles of the moment. -/
def issuePair (signing : Signing) (uuids : Text × Text) (service : Service) (late : Bool)
    (token : Text) (user : UserRow) : Service × Phase :=
  let pair := signing.generateTokens user (mapRoleInfo (getUserRoles service.roles user.id)) uuids
  ({ service with log := service.log ++ [.rotated token late pair] },
    .settled (.refreshed (.ok pair)))

/-- One step of one call. -/
def step (signing : Signing) : Statement → Service → Phase → Option (Service × Phase)
  | .refresh token, service, .idle =>
      some (service, .selecting token (.check (loggedOut token service.log)))
  | .logout accessToken refreshToken, service, .idle =>
      some (service, nextToken (givenTokens accessToken refreshToken) {}
        (givenTokens accessToken refreshToken))
  | .selectToken, service, .selecting token purpose =>
      some (service,
        .comparing token (service.tokens.rows.find? (·.id = tokenId signing token)) purpose)
  | .selectFails, service, .selecting token purpose =>
      some (service, resume service.now token none purpose)
  | .compare, service, .comparing token found purpose =>
      if found.any (service.now < ·.expiresAt) then
        some (service, resume service.now token none purpose)
      else some (service, .verifying token purpose)
  | .verify, service, .verifying token purpose =>
      some (service, resume service.now token (verify signing service.now token) purpose)
  | .selectUser, service, .loadingUser late token sub =>
      match checkUser (getUserById service.users sub) with
      | .error error => some (service, .settled (.refreshed (.error error)))
      | .ok user => some (service, .selecting token (.rotation late user))
  | .insertToken, service, .inserting token expiresAt (.rotation late user) =>
      insertAlone signing service late token expiresAt user
  | .insertToken, service, .inserting token expiresAt (.logout given rest own) =>
      insertWithin signing service token expiresAt given rest own
  | .selectRoles uuids, service, .loadingRoles late token user =>
      some (issuePair signing uuids service late token user)
  | .commit, service, .committing given own =>
      some
        ({ service with
            tokens := service.tokens.commit own
            log := service.log ++ [.loggedOut given] },
          .settled .loggedOut)
  | .abort, _, .idle => none
  | .abort, _, .settled _ => none
  | .abort, service, phase =>
      some ({ service with tokens := service.tokens.rollback phase.own }, .settled .threw)
  | .cleanup cutoff, service, .idle =>
      if cutoff ≤ service.now then
        (service.tokens.alone TokenRow.keys
          (service.tokens.rows.filter (·.expiresAt < cutoff)) []).map
            fun tokens => ({ service with tokens }, .idle)
      else none
  | .tick later, service, phase =>
      if service.now ≤ later then some ({ service with now := later }, phase) else none
  | _, _, _ => none

/-- A step of one call, as a move of the interleaved system. -/
def move (signing : Signing) (label : Statement) (source : Service × Phase) :
    Option (Service × Phase) :=
  step signing label source.1 source.2

/-- No row is blacklisted twice, and nothing has happened. -/
def Fresh (service : Service) : Prop :=
  Table.Unique TokenRow.keys service.tokens.rows ∧ service.tokens.held = [] ∧ service.log = []

/-- All interleavings of the calls. -/
def sessions (signing : Signing) :
    TransitionSystem (Interleaved Service Phase) (Nat × Statement) :=
  Interleaved.system Fresh .idle (Interleaved.movesOf (move signing))

/-! ## Used once -/

def rotates (token : Text) : Event → Bool
  | .rotated used _ _ => used = token
  | .loggedOut _ => false

/-- Each token yields at most one pair, and none to a refresh that began after a
logout of the token had completed. -/
structure SingleUse (log : List Event) : Prop where
  once : ∀ token, log.countP (rotates token) ≤ 1
  not_after_logout : ∀ token late pair, .rotated token late pair ∈ log → late = false

/-- The token verifies as a refresh token. -/
def verifyRefresh (signing : Signing) (now : Int) (token : Text) : Option TokenPayload :=
  (verify signing now token).filter isRefresh

/-- A time at which the token has expired, if it is a refresh token. -/
def outlives (signing : Signing) (token : Text) (expiresAt : Int) : Bool :=
  ((signing.signed token).filter isRefresh).all fun payload =>
    payload.exp.any (· * 1000 ≤ expiresAt)

/-- The rows of a token that a transaction sees. -/
def rowsOf (signing : Signing) (token : Text) (table : Table Text TokenRow)
    (own : Writes Text TokenRow) : List TokenRow :=
  (table.sees own).filter (·.id = tokenId signing token)

/-- The condition on a step: an insertion leaves the token blacklisted for as long
as it would verify, and that of a refresh finds the token unused. -/
def takesEffect (signing : Signing) (service : Service) : Phase → Statement → Bool
  | .inserting token expiresAt (.rotation _ _), .insertToken =>
      rowsOf signing token service.tokens {} = [] &&
        ((verifyRefresh signing service.now token).isSome && outlives signing token expiresAt)
  | .inserting token expiresAt (.logout _ _ own), .insertToken =>
      (rowsOf signing token service.tokens own).all (outlives signing token ·.expiresAt) &&
        (rowsOf signing token service.tokens own ≠ [] || outlives signing token expiresAt)
  | _, _ => true

/-! ## What a step does to the table -/

theorem TokenRow.keys_ne_nil (row : TokenRow) : row.keys ≠ [] :=
  List.cons_ne_nil _ _

@[simp] theorem resume_own (now : Int) (token : Text) (decoded : Option TokenPayload)
    (purpose : Purpose) : (resume now token decoded purpose).own = purpose.own := by
  cases purpose with
  | check late =>
      simp only [resume]
      split <;> rfl
  | rotation late user => rfl
  | logout given rest own => rfl

@[simp] theorem nextToken_own (given : List Text) (own : Writes Text TokenRow)
    (rest : List Text) : (nextToken given own rest).own = own := by
  cases rest <;> rfl

variable {row : TokenRow} {service : Service} {own later : Writes Text TokenRow}
  {tokens : Table Text TokenRow}

/-- An insertion finds its row there, or puts it in where nothing stands in the way. -/
theorem insertRow_eq_some (hinsert : insertRow row service own = some (.ok (tokens, later))) :
    (service.tokens.conflicts TokenRow.keys row own ≠ [] ∧ tokens = service.tokens ∧ later = own) ∨
      (service.tokens.conflicts TokenRow.keys row own = [] ∧
        service.tokens.write TokenRow.keys [] [row] own = some (tokens, later)) := by
  unfold insertRow at hinsert
  split at hinsert
  · cases hinsert
  split at hinsert
  · rename_i hconflict
    obtain ⟨rfl, rfl⟩ := Prod.mk.inj (Except.ok.inj (Option.some.inj hinsert))
    exact Or.inl ⟨hconflict, rfl, rfl⟩
  rename_i hnone
  split at hinsert
  · cases hinsert
  obtain ⟨outcome, hwrite, hok⟩ := Option.map_eq_some_iff.mp hinsert
  obtain rfl := Except.ok.inj hok
  exact Or.inr ⟨not_not.mp hnone, hwrite⟩

theorem insertRow_step (hinsert : insertRow row service own = some (.ok (tokens, later))) :
    Table.Step TokenRow.keys service.tokens own tokens later := by
  rcases insertRow_eq_some hinsert with ⟨-, rfl, rfl⟩ | ⟨hnone, hwrite⟩
  · exact .same _ _
  · refine .write (List.pairwise_singleton _ _) ?_ hwrite
    intro other hother _ fresh hfresh
    rw [List.mem_singleton] at hfresh
    subst hfresh
    exact Table.disjoint_of_conflicts hnone other hother

variable {signing : Signing} {label : Statement} {phase : Phase} {outcome : Service × Phase}

theorem step_tokens (hstep : step signing label service phase = some outcome) :
    Table.Step TokenRow.keys service.tokens phase.own outcome.1.tokens outcome.2.own := by
  revert hstep
  fun_cases step signing label service phase
  case case10 token expiresAt late user =>
    intro hstep
    obtain ⟨result, hinsert, rfl⟩ := Option.map_eq_some_iff.mp hstep
    cases result with
    | error => exact .same _ _
    | ok inserted =>
        obtain ⟨tokens, own⟩ := inserted
        rcases insertRow_eq_some hinsert with ⟨-, rfl, rfl⟩ | ⟨hnone, hwrite⟩
        · exact .commit _ _
        · refine .alone (List.pairwise_singleton _ _) ?_ (Option.map_eq_some_iff.mpr ⟨_, hwrite, rfl⟩)
          intro other hother _ fresh hfresh
          rw [List.mem_singleton] at hfresh
          subst hfresh
          exact Table.disjoint_of_conflicts hnone other (by simpa using hother)
  case case11 token expiresAt given rest own =>
    intro hstep
    obtain ⟨result, hinsert, rfl⟩ := Option.map_eq_some_iff.mp hstep
    cases result with
    | error => exact .rollback _ _
    | ok inserted =>
        dsimp only
        rw [nextToken_own]
        exact insertRow_step hinsert
  case case17 cutoff hcutoff =>
    intro hstep
    obtain ⟨tokens, hcleanup, rfl⟩ := Option.map_eq_some_iff.mp hstep
    exact .alone List.Pairwise.nil (by simp) hcleanup
  case case13 given own =>
    rintro ⟨⟩
    exact .commit _ _
  case case16 _ _ =>
    rintro ⟨⟩
    exact .rollback _ _
  all_goals rintro ⟨⟩
  all_goals try simp only [resume_own, nextToken_own]
  all_goals exact .same _ _

/-! ## Tokens that stay blacklisted -/

/-- The token does not verify as a refresh token any more. -/
def Dead (signing : Signing) (now : Int) (token : Text) : Prop :=
  verifyRefresh signing now token = none

/-- A transaction sees a row that keeps the token out for as long as it would
verify. -/
def Entered (signing : Signing) (service : Service) (own : Writes Text TokenRow)
    (token : Text) : Prop :=
  Dead signing service.now token ∨
    ∃ row ∈ service.tokens.sees own,
      row.id = tokenId signing token ∧ outlives signing token row.expiresAt = true

/-- Time goes on, and rows go only when they have expired. -/
structure Advances (service after : Service) : Prop where
  now_le : service.now ≤ after.now
  rows : ∀ row ∈ service.tokens.rows, row ∈ after.tokens.rows ∨ row.expiresAt < after.now

theorem Advances.refl (service : Service) : Advances service service :=
  ⟨Int.le_refl _, fun _ hrow => Or.inl hrow⟩

variable {now : Int} {token : Text}

theorem verifyRefresh_eq_some {payload : TokenPayload}
    (hverify : verifyRefresh signing now token = some payload) :
    (signing.signed token).filter isRefresh = some payload ∧
      ∀ exp ∈ payload.exp, now / 1000 < exp := by
  obtain ⟨hvalid, hrefresh⟩ := Option.filter_eq_some_iff.mp hverify
  obtain ⟨hsigned, hexp⟩ := Option.filter_eq_some_iff.mp hvalid
  refine ⟨Option.filter_eq_some_iff.mpr ⟨hsigned, hrefresh⟩, ?_⟩
  intro exp hmem
  simpa [Option.mem_def.mp hmem] using hexp

theorem dead_of_outlives {time : Int} (houtlives : outlives signing token time = true)
    (htime : time ≤ now) :
    Dead signing now token := by
  refine Option.eq_none_iff_forall_ne_some.mpr ?_
  intro payload hverify
  obtain ⟨hsigned, hfuture⟩ := verifyRefresh_eq_some hverify
  simp only [outlives, hsigned, Option.all_some, Option.any_eq_true, decide_eq_true_eq]
    at houtlives
  obtain ⟨exp, hexp, hle⟩ := houtlives
  have hpast := hfuture exp (Option.mem_def.mpr hexp)
  omega

theorem Dead.mono {later : Int} (hdead : Dead signing now token) (hle : now ≤ later) :
    Dead signing later token := by
  refine Option.eq_none_iff_forall_ne_some.mpr ?_
  intro payload hverify
  obtain ⟨hsigned, hfuture⟩ := verifyRefresh_eq_some hverify
  obtain ⟨hpayload, hrefresh⟩ := Option.filter_eq_some_iff.mp hsigned
  have hnow : verifyRefresh signing now token = some payload := by
    refine Option.filter_eq_some_iff.mpr ⟨Option.filter_eq_some_iff.mpr ⟨hpayload, ?_⟩, hrefresh⟩
    cases hexp : payload.exp with
    | none => rfl
    | some exp =>
        have hlater := hfuture exp (Option.mem_def.mpr hexp)
        simp only [Option.all_some, decide_eq_true_eq]
        omega
  rw [hdead] at hnow
  cases hnow

variable {after : Service}

theorem Entered.advances (hentered : Entered signing service own token)
    (hadvances : Advances service after) : Entered signing after own token := by
  rcases hentered with hdead | ⟨row, hrow, hid, houtlives⟩
  · exact Or.inl (hdead.mono hadvances.now_le)
  rcases Table.mem_sees.mp hrow with ⟨hcommitted, hstays⟩ | hadded
  · rcases hadvances.rows row hcommitted with hrow' | hexpired
    · exact Or.inr ⟨row, Table.mem_sees.mpr (Or.inl ⟨hrow', hstays⟩), hid, houtlives⟩
    · exact Or.inl (dead_of_outlives houtlives (Int.le_of_lt hexpired))
  · exact Or.inr ⟨row, Table.mem_sees.mpr (Or.inr hadded), hid, houtlives⟩

/-! ## What a call knows -/

def Purpose.late : Purpose → Bool
  | .check late => late
  | _ => false

/-- A logout has entered the tokens before the one it is at, and removes no row. -/
def Carried (signing : Signing) (service : Service) (token : Text) : Purpose → Prop
  | .check _ => True
  | .rotation late _ => late = false
  | .logout given rest own =>
      own.removed = [] ∧
        ∀ other ∈ given, other = token ∨ other ∈ rest ∨ Entered signing service own other

/-- A refresh that began after the logout of its token is going to be refused, and
one that has inserted its row has entered its token. -/
def Assertion (signing : Signing) (service : Service) : Phase → Prop
  | .selecting token purpose =>
      Carried signing service token purpose ∧
        (purpose.late = true → Entered signing service {} token)
  | .comparing token found purpose =>
      Carried signing service token purpose ∧
        (purpose.late = true → Dead signing service.now token ∨
          ∃ row ∈ found, outlives signing token row.expiresAt = true)
  | .verifying token purpose =>
      Carried signing service token purpose ∧
        (purpose.late = true → Dead signing service.now token)
  | .loadingUser late _ _ => late = false
  | .inserting token _ purpose => Carried signing service token purpose
  | .loadingRoles late token _ => late = false ∧ Entered signing service {} token
  | .committing given own =>
      own.removed = [] ∧ ∀ token ∈ given, Entered signing service own token
  | _ => True

section Advances

variable {signing : Signing} {service after : Service}

theorem Carried.advances {token : Text} {purpose : Purpose}
    (hcarried : Carried signing service token purpose) (hadvances : Advances service after) :
    Carried signing after token purpose := by
  cases purpose with
  | check late => trivial
  | rotation late user => exact hcarried
  | logout given rest own =>
      refine ⟨hcarried.1, ?_⟩
      intro other hother
      rcases hcarried.2 other hother with hcurrent | hlater | hentered
      · exact Or.inl hcurrent
      · exact Or.inr (Or.inl hlater)
      · exact Or.inr (Or.inr (hentered.advances hadvances))

/-- No step of another call disturbs what a call knows. -/
theorem Assertion.advances {phase : Phase} (hassert : Assertion signing service phase)
    (hadvances : Advances service after) : Assertion signing after phase := by
  cases phase with
  | selecting token purpose =>
      exact ⟨hassert.1.advances hadvances, fun hlate => (hassert.2 hlate).advances hadvances⟩
  | comparing token found purpose =>
      refine ⟨hassert.1.advances hadvances, ?_⟩
      intro hlate
      exact (hassert.2 hlate).imp_left fun hdead => hdead.mono hadvances.now_le
  | verifying token purpose =>
      exact ⟨hassert.1.advances hadvances, fun hlate => (hassert.2 hlate).mono hadvances.now_le⟩
  | loadingUser late token sub => exact hassert
  | inserting token expiresAt purpose => exact Carried.advances hassert hadvances
  | loadingRoles late token user => exact ⟨hassert.1, hassert.2.advances hadvances⟩
  | committing given own =>
      exact ⟨hassert.1, fun token htoken => (hassert.2 token htoken).advances hadvances⟩
  | idle => trivial
  | settled answer => trivial

end Advances

/-- A verification that a late refresh does not pass leaves its call as it should
be. -/
theorem resume_assertion {decoded : Option TokenPayload} {purpose : Purpose}
    (hcarried : Carried signing service token purpose)
    (hlate : purpose.late = true → decoded.filter isRefresh = none) :
    Assertion signing service (resume service.now token decoded purpose) := by
  cases purpose with
  | check late =>
      simp only [resume]
      split
      · trivial
      · rename_i payload hpayload
        cases late with
        | false => exact rfl
        | true =>
            rw [hlate rfl] at hpayload
            cases hpayload
  | rotation late user => exact hcarried
  | logout given rest own => exact hcarried

variable {given rest : List Text}

/-- A logout that has entered all tokens but those to come. -/
theorem nextToken_assertion (hremoved : own.removed = [])
    (hgiven : ∀ token ∈ given, token ∈ rest ∨ Entered signing service own token) :
    Assertion signing service (nextToken given own rest) := by
  cases rest with
  | nil => exact ⟨hremoved, fun token htoken => by simpa using hgiven token htoken⟩
  | cons token rest =>
      refine ⟨⟨hremoved, ?_⟩, fun h => Bool.noConfusion h⟩
      intro other hother
      rcases hgiven other hother with hrest | hentered
      · rcases List.mem_cons.mp hrest with rfl | hlater
        · exact Or.inl rfl
        · exact Or.inr (Or.inl hlater)
      · exact Or.inr (Or.inr hentered)

variable {expiresAt : Int}

/-- An insertion of a logout that takes effect enters the token. -/
theorem entered_of_insertRow
    (hseen : ∀ row ∈ rowsOf signing token service.tokens own,
      outlives signing token row.expiresAt = true)
    (hfresh : rowsOf signing token service.tokens own = [] →
      outlives signing token expiresAt = true)
    (hinsert : insertRow (tokenRow signing token expiresAt) service own =
      some (.ok (tokens, later))) :
    ∃ row ∈ tokens.sees later,
      row.id = tokenId signing token ∧ outlives signing token row.expiresAt = true := by
  rcases insertRow_eq_some hinsert with ⟨hconflict, rfl, rfl⟩ | ⟨hnone, hwrite⟩
  · obtain ⟨row, hrow⟩ := List.exists_mem_of_ne_nil _ hconflict
    obtain ⟨hsees, hkey⟩ := List.mem_filter.mp hrow
    have hid : row.id = tokenId signing token := by
      simpa [TokenRow.keys, tokenRow] using hkey
    exact ⟨row, hsees, hid, hseen row (List.mem_filter.mpr ⟨hsees, by simpa using hid⟩)⟩
  · refine ⟨tokenRow signing token expiresAt, ?_, rfl, hfresh ?_⟩
    · rw [Table.sees_write hwrite]
      exact List.mem_append_right _ List.mem_cons_self
    · refine List.filter_eq_nil_iff.mpr ?_
      intro row hrow hid
      refine List.filter_eq_nil_iff.mp hnone row hrow ?_
      simpa [TokenRow.keys, tokenRow] using hid

theorem insertRow_rows (hinsert : insertRow row service own = some (.ok (tokens, later))) :
    tokens.rows = service.tokens.rows ∧ later.removed = own.removed ∧
      ∀ fresh ∈ own.added, fresh ∈ later.added := by
  rcases insertRow_eq_some hinsert with ⟨-, rfl, rfl⟩ | ⟨-, hwrite⟩
  · exact ⟨rfl, rfl, fun _ h => h⟩
  · obtain ⟨-, hrows, -, hremoved, hadded, -⟩ := Table.write_eq_some hwrite
    refine ⟨hrows, by simpa using hremoved, ?_⟩
    intro fresh hfresh
    rw [hadded]
    exact List.mem_append_left _ (by simpa using hfresh)

/-- Time goes on with every step, and rows go only when they have expired. -/
theorem step_advances (hassert : Assertion signing service phase)
    (hstep : step signing label service phase = some outcome) : Advances service outcome.1 := by
  revert hstep
  fun_cases step signing label service phase
  case case10 token expiresAt late user =>
    intro hstep
    obtain ⟨result, hinsert, rfl⟩ := Option.map_eq_some_iff.mp hstep
    cases result with
    | error => exact .refl service
    | ok inserted =>
        obtain ⟨hrows, hremoved, -⟩ := insertRow_rows hinsert
        refine ⟨Int.le_refl _, fun row hrow => Or.inl ?_⟩
        exact Table.mem_sees.mpr (Or.inl ⟨hrows ▸ hrow, by simp [hremoved]⟩)
  case case11 token expiresAt given rest own =>
    intro hstep
    obtain ⟨result, hinsert, rfl⟩ := Option.map_eq_some_iff.mp hstep
    cases result with
    | error => exact ⟨Int.le_refl _, fun row hrow => Or.inl hrow⟩
    | ok inserted =>
        exact ⟨Int.le_refl _, fun row hrow => Or.inl ((insertRow_rows hinsert).1 ▸ hrow)⟩
  case case13 given own =>
    rintro ⟨⟩
    refine ⟨Int.le_refl _, fun row hrow => Or.inl ?_⟩
    exact Table.mem_sees.mpr (Or.inl ⟨hrow, by simp [hassert.1]⟩)
  case case17 cutoff hcutoff =>
    intro hstep
    obtain ⟨tokens, hcleanup, rfl⟩ := Option.map_eq_some_iff.mp hstep
    refine ⟨Int.le_refl _, fun row hrow => ?_⟩
    dsimp only
    rw [Table.rows_alone hcleanup]
    by_cases hexpired : row.expiresAt < cutoff
    · exact Or.inr (Int.lt_of_lt_of_le hexpired hcutoff)
    · exact Or.inl (by simpa [hrow] using hexpired)
  case case19 later hlater =>
    rintro ⟨⟩
    exact ⟨hlater, fun row hrow => Or.inl hrow⟩
  case case16 _ _ =>
    rintro ⟨⟩
    exact ⟨Int.le_refl _, fun row hrow => Or.inl hrow⟩
  all_goals rintro ⟨⟩
  all_goals exact ⟨Int.le_refl _, fun row hrow => Or.inl hrow⟩

/-- What an event says still holds. -/
def Recorded (signing : Signing) (service : Service) : Event → Prop
  | .rotated token late _ => late = false ∧ Entered signing service {} token
  | .loggedOut tokens => ∀ token ∈ tokens, Entered signing service {} token

theorem Recorded.advances {event : Event} (hrecorded : Recorded signing service event)
    (hadvances : Advances service after) :
    Recorded signing after event := by
  cases event with
  | rotated token late pair => exact ⟨hrecorded.1, hrecorded.2.advances hadvances⟩
  | loggedOut tokens => exact fun token htoken => (hrecorded token htoken).advances hadvances

theorem entered_of_loggedOut (hlog : ∀ event ∈ service.log, Recorded signing service event)
    (hout : loggedOut token service.log = true) : Entered signing service {} token := by
  obtain ⟨event, hevent, hmatch⟩ := List.any_eq_true.mp hout
  cases event with
  | rotated used late pair => cases hmatch
  | loggedOut tokens => exact hlog _ hevent token (by simpa using hmatch)

/-- The row that the select finds is the one that keeps the token out. -/
theorem find_of_entered (hunique : Table.Unique TokenRow.keys service.tokens.rows)
    (hentered : Entered signing service {} token) :
    Dead signing service.now token ∨
      ∃ row ∈ service.tokens.rows.find? (·.id = tokenId signing token),
        outlives signing token row.expiresAt = true := by
  refine hentered.imp_right ?_
  rintro ⟨row, hrow, hid, houtlives⟩
  rw [Table.sees_nil] at hrow
  refine ⟨row, ?_, houtlives⟩
  cases hfound : service.tokens.rows.find? (·.id = tokenId signing token) with
  | none =>
      have hnone := List.find?_eq_none.mp hfound row hrow
      exact absurd hid (by simpa using hnone)
  | some found =>
      have hfoundId : found.id = tokenId signing token := by simpa using List.find?_some hfound
      have hsame : found = row :=
        hunique.eq_of_mem (List.mem_of_find?_eq_some hfound) hrow
          (List.mem_singleton.mpr hfoundId.symm) (List.mem_singleton.mpr hid.symm)
      rw [hsame]
      rfl

/-! ## What a step leaves behind -/

theorem takesEffect_rotation {late : Bool} {user : UserRow}
    (hmeets : takesEffect signing service (.inserting token expiresAt (.rotation late user))
      .insertToken = true) :
    rowsOf signing token service.tokens {} = [] ∧ ¬ Dead signing service.now token ∧
      outlives signing token expiresAt = true := by
  simp only [takesEffect, Bool.and_eq_true, decide_eq_true_eq] at hmeets
  refine ⟨hmeets.1, ?_, hmeets.2.2⟩
  intro hdead
  rw [Dead] at hdead
  simp [hdead] at hmeets

theorem takesEffect_logout
    (hmeets : takesEffect signing service (.inserting token expiresAt (.logout given rest own))
      .insertToken = true) :
    (∀ row ∈ rowsOf signing token service.tokens own,
      outlives signing token row.expiresAt = true) ∧
      (rowsOf signing token service.tokens own = [] → outlives signing token expiresAt = true) := by
  simp only [takesEffect, Bool.and_eq_true, List.all_eq_true, Bool.or_eq_true,
    decide_eq_true_eq] at hmeets
  exact ⟨hmeets.1, fun hnone => hmeets.2.resolve_left fun hne => hne hnone⟩

/-- A step that takes effect leaves its call with what it should know. -/
theorem step_assertion (hunique : Table.Unique TokenRow.keys service.tokens.rows)
    (hlog : ∀ event ∈ service.log, Recorded signing service event)
    (hassert : Assertion signing service phase)
    (hmeets : takesEffect signing service phase label = true)
    (hstep : step signing label service phase = some outcome) :
    Assertion signing outcome.1 outcome.2 := by
  have hadvances := step_advances hassert hstep
  revert hstep
  fun_cases step signing label service phase
  case case1 token =>
    rintro ⟨⟩
    exact ⟨trivial, fun hlate => entered_of_loggedOut hlog hlate⟩
  case case2 accessToken refreshToken =>
    rintro ⟨⟩
    exact nextToken_assertion rfl fun token htoken => Or.inl htoken
  case case3 token purpose =>
    rintro ⟨⟩
    exact ⟨hassert.1, fun hlate => find_of_entered hunique (hassert.2 hlate)⟩
  case case4 token purpose =>
    rintro ⟨⟩
    exact resume_assertion hassert.1 fun _ => Option.filter_none _
  case case5 token found purpose hfound =>
    rintro ⟨⟩
    exact resume_assertion hassert.1 fun _ => Option.filter_none _
  case case6 token found purpose hfound =>
    rintro ⟨⟩
    refine ⟨hassert.1, fun hlate => ?_⟩
    rcases hassert.2 hlate with hdead | ⟨row, hrow, houtlives⟩
    · exact hdead
    · rw [Option.mem_def.mp hrow] at hfound
      exact dead_of_outlives houtlives (by simpa using hfound)
  case case7 token purpose =>
    rintro ⟨⟩
    exact resume_assertion hassert.1 fun hlate => hassert.2 hlate
  case case9 late token sub user huser =>
    rintro ⟨⟩
    exact ⟨hassert, fun h => Bool.noConfusion h⟩
  case case10 token expiresAt late user =>
    intro hstep
    obtain ⟨result, hinsert, rfl⟩ := Option.map_eq_some_iff.mp hstep
    cases result with
    | error => trivial
    | ok inserted =>
        obtain ⟨hnone, -, houtlives⟩ := takesEffect_rotation hmeets
        refine ⟨hassert, Or.inr ?_⟩
        have hentered := entered_of_insertRow (by simp [hnone]) (fun _ => houtlives) hinsert
        simpa using hentered
  case case11 token expiresAt given rest own =>
    intro hstep
    obtain ⟨result, hinsert, rfl⟩ := Option.map_eq_some_iff.mp hstep
    cases result with
    | error => trivial
    | ok inserted =>
        obtain ⟨hseen, hfresh⟩ := takesEffect_logout hmeets
        obtain ⟨hrows, hremoved, hadded⟩ := insertRow_rows hinsert
        refine nextToken_assertion (hremoved.trans hassert.1) ?_
        intro other hother
        rcases hassert.2 other hother with rfl | hlater | hentered
        · exact Or.inr (Or.inr (entered_of_insertRow hseen hfresh hinsert))
        · exact Or.inl hlater
        · refine Or.inr ((hentered.advances hadvances).imp_right ?_)
          rintro ⟨row, hrow, hkeeps⟩
          refine ⟨row, Table.mem_sees.mpr ?_, hkeeps⟩
          rcases Table.mem_sees.mp hrow with ⟨hcommitted, hstays⟩ | hmine
          · exact Or.inl ⟨hcommitted, hremoved ▸ hstays⟩
          · exact Or.inr (hadded row hmine)
  case case19 later hlater =>
    rintro ⟨⟩
    exact hassert.advances hadvances
  case case17 cutoff hcutoff =>
    intro hstep
    obtain ⟨tokens, hcleanup, rfl⟩ := Option.map_eq_some_iff.mp hstep
    trivial
  all_goals rintro ⟨⟩
  all_goals trivial

/-- The token for which a call is about to issue a pair. -/
def Phase.issues : Phase → Option Text
  | .loadingRoles _ token _ => some token
  | _ => none

@[simp] theorem resume_issues (now : Int) (token : Text) (decoded : Option TokenPayload)
    (purpose : Purpose) : (resume now token decoded purpose).issues = none := by
  cases purpose with
  | check late =>
      simp only [resume]
      split <;> rfl
  | rotation late user => rfl
  | logout given rest own => rfl

@[simp] theorem nextToken_issues (given : List Text) (own : Writes Text TokenRow)
    (rest : List Text) : (nextToken given own rest).issues = none := by
  cases rest <;> rfl

/-- A call gets to issue a pair only for a token that has not been entered. -/
theorem step_issues (hmeets : takesEffect signing service phase label = true)
    (hstep : step signing label service phase = some outcome)
    (hissues : outcome.2.issues = some token) :
    phase.issues = some token ∨ ¬ Entered signing service {} token := by
  revert hstep
  fun_cases step signing label service phase
  case case10 current expiresAt late user =>
    intro hstep
    obtain ⟨result, hinsert, rfl⟩ := Option.map_eq_some_iff.mp hstep
    cases result with
    | error => cases hissues
    | ok inserted =>
        obtain rfl := Option.some.inj hissues
        obtain ⟨hnone, halive, -⟩ := takesEffect_rotation hmeets
        refine Or.inr ?_
        rintro (hdead | ⟨row, hrow, hid, -⟩)
        · exact halive hdead
        · exact List.filter_eq_nil_iff.mp hnone row hrow (by simpa using hid)
  case case11 current expiresAt given rest own =>
    intro hstep
    obtain ⟨result, hinsert, rfl⟩ := Option.map_eq_some_iff.mp hstep
    cases result with
    | error => cases hissues
    | ok inserted => simp at hissues
  case case17 cutoff hcutoff =>
    intro hstep
    obtain ⟨tokens, hcleanup, rfl⟩ := Option.map_eq_some_iff.mp hstep
    cases hissues
  case case19 later hlater =>
    rintro ⟨⟩
    exact Or.inl hissues
  all_goals rintro ⟨⟩
  all_goals try rw [resume_issues] at hissues
  all_goals try rw [nextToken_issues] at hissues
  all_goals cases hissues

/-- What a step adds to the log: the pair of a call that was about to issue it, or
a logout. -/
theorem step_log (hassert : Assertion signing service phase)
    (hstep : step signing label service phase = some outcome) :
    outcome.1.log = service.log ∨
      ∃ event, outcome.1.log = service.log ++ [event] ∧ Recorded signing outcome.1 event ∧
        outcome.2.issues = none ∧ ∀ token, rotates token event = true → phase.issues = some token := by
  revert hstep
  fun_cases step signing label service phase
  case case10 token expiresAt late user =>
    intro hstep
    obtain ⟨result, hinsert, rfl⟩ := Option.map_eq_some_iff.mp hstep
    cases result <;> exact Or.inl rfl
  case case11 token expiresAt given rest own =>
    intro hstep
    obtain ⟨result, hinsert, rfl⟩ := Option.map_eq_some_iff.mp hstep
    cases result <;> exact Or.inl rfl
  case case12 uuids late token user =>
    rintro ⟨⟩
    refine Or.inr ⟨_, rfl, ⟨hassert.1, hassert.2⟩, rfl, ?_⟩
    intro used hused
    simpa [rotates, Phase.issues] using hused
  case case13 given own =>
    rintro ⟨⟩
    refine Or.inr ⟨_, rfl, ?_, rfl, fun token h => Bool.noConfusion h⟩
    intro token htoken
    refine (hassert.2 token htoken).imp_right ?_
    rintro ⟨row, hrow, hkeeps⟩
    exact ⟨row, by simpa using hrow, hkeeps⟩
  case case17 cutoff hcutoff =>
    intro hstep
    obtain ⟨tokens, hcleanup, rfl⟩ := Option.map_eq_some_iff.mp hstep
    exact Or.inl rfl
  all_goals rintro ⟨⟩
  all_goals exact Or.inl rfl

/-! ## Runs -/

/-- The tables and the log in every state. -/
structure Sound (signing : Signing) (service : Service) : Prop where
  unique : Table.Unique TokenRow.keys service.tokens.rows
  recorded : ∀ event ∈ service.log, Recorded signing service event
  once : ∀ token, service.log.countP (rotates token) ≤ 1

/-- A call owns what it has written and knows what it should; the token for which
it is about to issue a pair has not been rotated. -/
structure Placed (signing : Signing) (service : Service) (phase : Phase) : Prop where
  owned : Table.Owned TokenRow.keys service.tokens phase.own
  assertion : Assertion signing service phase
  unspent : ∀ token, phase.issues = some token → ∀ event ∈ service.log, rotates token event = false

/-- Two calls hold different rows, and are not about to issue pairs for one token. -/
structure Separate (one other : Phase) : Prop where
  apart : Table.Apart one.own other.own
  issues : ∀ token, one.issues = some token → other.issues ≠ some token

theorem Separate.symm {one other : Phase} (hseparate : Separate one other) : Separate other one where
  apart := List.disjoint_symm hseparate.apart
  issues token hother hone := hseparate.issues token hone hother

section Moves

variable {signing : Signing} {label : Statement} {service : Service} {phase other : Phase}
  {outcome : Service × Phase}

/-- No event rotates a token that has not been entered. -/
theorem Sound.unrotated {token : Text} (hsound : Sound signing service)
    (hnot : ¬ Entered signing service {} token) :
    ∀ event ∈ service.log, rotates token event = false := by
  intro event hevent
  have hrecorded := hsound.recorded event hevent
  cases event with
  | rotated used late pair =>
      by_contra hrotates
      simp only [rotates, decide_eq_false_iff_not, not_not] at hrotates
      exact hnot (hrotates ▸ hrecorded.2)
  | loggedOut tokens => rfl

theorem step_sound (hsound : Sound signing service) (hplaced : Placed signing service phase)
    (hmeets : takesEffect signing service phase label = true)
    (hstep : step signing label service phase = some outcome) :
    Sound signing outcome.1 ∧ Placed signing outcome.1 outcome.2 := by
  have hadvances := step_advances hplaced.assertion hstep
  obtain ⟨hunique, howned⟩ := (step_tokens hstep).owned hsound.unique hplaced.owned
  have hassert := step_assertion hsound.unique hsound.recorded hplaced.assertion hmeets hstep
  have hkept : ∀ event ∈ service.log, Recorded signing outcome.1 event :=
    fun event hevent => (hsound.recorded event hevent).advances hadvances
  rcases step_log hplaced.assertion hstep with hlog | ⟨event, hlog, hrecorded, hdone, hrotates⟩
  · refine ⟨⟨hunique, hlog ▸ hkept, hlog ▸ hsound.once⟩, howned, hassert, ?_⟩
    intro token hissues
    rw [hlog]
    rcases step_issues hmeets hstep hissues with hbefore | hnot
    · exact hplaced.unspent token hbefore
    · exact hsound.unrotated hnot
  · refine ⟨⟨hunique, ?_, ?_⟩, howned, hassert, ?_⟩
    · rw [hlog]
      intro old hold
      rcases List.mem_append.mp hold with hbefore | hnew
      · exact hkept old hbefore
      · rw [List.mem_singleton.mp hnew]
        exact hrecorded
    · intro token
      rw [hlog, List.countP_append, List.countP_singleton]
      by_cases hused : rotates token event = true
      · have hnone : service.log.countP (rotates token) = 0 := by
          rw [List.countP_eq_zero]
          intro old hold
          simp [hplaced.unspent token (hrotates token hused) old hold]
        simp [hnone, hused]
      · simpa [hused] using hsound.once token
    · intro token hissues
      rw [hdone] at hissues
      cases hissues

theorem step_other (hsound : Sound signing service) (hplaced : Placed signing service phase)
    (hother : Placed signing service other) (hseparate : Separate phase other)
    (hmeets : takesEffect signing service phase label = true)
    (hstep : step signing label service phase = some outcome) :
    Placed signing outcome.1 other ∧ Separate outcome.2 other := by
  have hadvances := step_advances hplaced.assertion hstep
  obtain ⟨howned, hapart⟩ := (step_tokens hstep).other TokenRow.keys_ne_nil hsound.unique
    hplaced.owned hother.owned hseparate.apart
  refine ⟨⟨howned, hother.assertion.advances hadvances, ?_⟩, hapart, ?_⟩
  · intro token hissues
    rcases step_log hplaced.assertion hstep with hlog | ⟨event, hlog, -, -, hrotates⟩
    · rw [hlog]
      exact hother.unspent token hissues
    · rw [hlog]
      intro old hold
      rcases List.mem_append.mp hold with hbefore | hnew
      · exact hother.unspent token hissues old hbefore
      · rw [List.mem_singleton.mp hnew]
        by_contra hused
        exact hseparate.issues token (hrotates token (by simpa using hused)) hissues
  · intro token hissues hotherIssues
    rcases step_issues hmeets hstep hissues with hbefore | hnot
    · exact hseparate.issues token hbefore hotherIssues
    · obtain ⟨late, user, rfl⟩ : ∃ late user, other = .loadingRoles late token user := by
        cases other with
        | loadingRoles late current user =>
            obtain rfl := Option.some.inj hotherIssues
            exact ⟨late, user, rfl⟩
        | _ => cases hotherIssues
      exact hnot hother.assertion.2

end Moves

/-- In every run in which every insertion takes effect, each refresh token yields
at most one pair, and none after its logout. -/
theorem singleUse_of_takesEffect {signing : Signing} {state : Interleaved Service Phase}
    (hreach : (sessions signing).ReachableBy
      (Interleaved.Meets fun service phase label => takesEffect signing service phase label = true)
      state) : SingleUse state.shared.log := by
  have hsound : Sound signing state.shared := by
    refine (@Interleaved.interference_free_apart Service Phase Statement Fresh .idle _
      (Sound signing) (Placed signing) (fun _ => Separate) _ (fun _ _ _ h => h.symm) ?_ ?_ _
      hreach).1
    · rintro service ⟨hunique, -, hlog⟩
      have howned : Table.Owned TokenRow.keys service.tokens {} := .empty hunique
      refine ⟨⟨hunique, by simp [hlog], by simp [hlog]⟩, ⟨howned, trivial, ?_⟩, ?_, ?_⟩
      · intro token hissues
        cases hissues
      · exact List.disjoint_nil_left _
      · intro token hissues
        cases hissues
    · intro before call label outcome hsound hplaced hseparate hmeets hmove
      refine ⟨step_sound hsound (hplaced call) hmeets hmove, ?_, ?_⟩
      · intro other hne
        exact step_other hsound (hplaced call) (hplaced other)
          (hseparate call other fun h => hne h.symm) hmeets hmove
      · intro one other _ _ hne
        exact hseparate one other hne
  refine ⟨hsound.once, ?_⟩
  intro token late pair hevent
  exact (hsound.recorded _ hevent).1

/-! ## Two refreshes of one token -/

/-- A signed refresh token of `user_1` that expires at 1700604800. -/
def exampleToken : Text :=
  ("eyJhbGciOiJIUzI1NiIsInR5cCI6IkpXVCJ9.eyJzdWIiOiJ1c2VyXzEiLCJ0eXBlIjoicmVmcmVzaCIsImlhdC" ++
    "I6MTcwMDAwMDAwMCwiZXhwIjoxNzAwNjA0ODAwLCJpc3MiOiJvcGVucGF0aC1hcGkiLCJqdGkiOiI3YjBhM2I3" ++
    "ZS01YTBhLTRjMGEtOWQ0My0wYzJmN2I3ZjFhMTEifQ.W3FMY4537L7Uw5Ki0wxYV77VC16cajLbEXLRSpUQmOU"
  ).toList

def examplePair (uuids : Text × Text) : TokenPair where
  accessToken := uuids.1
  refreshToken := uuids.2
  expiresIn := "24h".toList

/-- The signing library, as it answers for that token. -/
def exampleSigning : Signing where
  signed _ := some { sub := "user_1".toList, type := some .refresh, exp := some 1700604800 }
  decodedSub _ := some "user_1".toList
  sha256Hex _ := "8d3009d5c4f843f0a285a9233e80395258feca650f305e973a379096383553fc".toList
  generateTokens _ _ uuids := examplePair uuids

/-- One active user, and no token blacklisted yet. -/
def oneUser : Interleaved Service Phase where
  shared :=
    { users :=
        [{ id := "user_1".toList, email := "ana@example.com".toList, name := "Ana".toList
           passwordHash := none, isActive := true, emailVerified := true }]
      roles := []
      tokens := { rows := [], held := [] }
      now := 1700000001000
      log := [] }
  phase _ := .idle

theorem oneUser_init : (sessions exampleSigning).init oneUser :=
  ⟨⟨List.Pairwise.nil, rfl, rfl⟩, fun _ => rfl⟩

/-- The steps of a refresh up to the blacklisting. -/
def checkToken (call : Nat) : List (Nat × Statement) :=
  [(call, .refresh exampleToken), (call, .selectToken), (call, .compare), (call, .verify),
    (call, .selectUser)]

def exampleUuids (call : Nat) : Text × Text :=
  (("access-" ++ toString call).toList, ("refresh-" ++ toString call).toList)

/-- Both refreshes verify the token before either blacklists it. The second one
finds it blacklisted then, and goes on. -/
def twoRefreshes : List (Nat × Statement) :=
  checkToken 0 ++ checkToken 1 ++
    [(0, .selectToken), (0, .compare), (0, .verify), (0, .insertToken),
      (0, .selectRoles (exampleUuids 0)), (1, .selectToken), (1, .compare), (1, .insertToken),
      (1, .selectRoles (exampleUuids 1))]

theorem twoRefreshes_log :
    (Interleaved.run (move exampleSigning) oneUser twoRefreshes).map (·.shared.log) =
      some
        [.rotated exampleToken false (examplePair (exampleUuids 0)),
          .rotated exampleToken false (examplePair (exampleUuids 1))] := by
  rfl

theorem token_rotated_twice :
    ∃ state, (sessions exampleSigning).Reachable state ∧ ¬ SingleUse state.shared.log := by
  obtain ⟨state, hstate, hlog⟩ := Option.map_eq_some_iff.mp twoRefreshes_log
  refine ⟨state, Interleaved.reachable_run (.start oneUser_init) hstate, ?_⟩
  intro huse
  have honce := huse.once exampleToken
  simp [hlog, rotates] at honce

/-- A refresh, and one of the same token after it, which is refused. -/
def oneAfterTheOther : List (Nat × Statement) :=
  checkToken 0 ++
    [(0, .selectToken), (0, .compare), (0, .verify), (0, .insertToken),
      (0, .selectRoles (exampleUuids 0)), (1, .refresh exampleToken), (1, .selectToken),
      (1, .compare)]

theorem singleUse_oneAfterTheOther :
    ∃ state, (sessions exampleSigning).Reachable state ∧ state.shared.log.length = 1 ∧
      SingleUse state.shared.log := by
  have hrun : ((TransitionSystem.runBy
      (fun state label => takesEffect exampleSigning state.shared (state.phase label.1) label.2)
      (Interleaved.stepOf (move exampleSigning)) oneUser oneAfterTheOther).map
        fun state => state.shared.log.length) = some 1 := by
    decide
  obtain ⟨state, hstate, hlength⟩ := Option.map_eq_some_iff.mp hrun
  have hreach := Interleaved.reachableBy_runBy _ (.start oneUser_init) hstate
  exact ⟨state, hreach.reachable, hlength, singleUse_of_takesEffect hreach⟩

end OpenPath.Api.RefreshTokens
