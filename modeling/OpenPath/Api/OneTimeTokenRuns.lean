/-
# Runs of the calls on one-time tokens

What each step does to the tables of the tokens and to the users, what a call knows
of the tokens of its user, and that no orderly step of another call disturbs it.
From this, by induction over the run, each token is used once. Two resets with one
token that have both compared it show why the order matters.
-/

import OpenPath.Api.OneTimeTokens
import Mathlib.Data.List.Nodup

namespace OpenPath.Api.OneTimeTokens

open Accounts
open Foundation (Table Writes Interleaved TransitionSystem)

/-! ## What a step does to the tables of the tokens -/

theorem TokenRow.keys_ne_nil (row : TokenRow) : row.keys ≠ [] :=
  List.cons_ne_nil _ _

/-- Nothing stands in the way of a row that is inserted. -/
theorem disjoint_singleton {table : Table Text TokenRow} {own : Writes Text TokenRow}
    {row : TokenRow} (hnone : table.conflicts TokenRow.keys row own = []) :
    ∀ seen ∈ table.sees own, ∀ other ∈ [row], List.Disjoint seen.keys other.keys := by
  intro seen hseen other hother
  rw [List.mem_singleton.mp hother]
  exact Table.disjoint_of_conflicts hnone seen hseen

/-- The table of the reset tokens, or that of the verification tokens. -/
def Phase.own (resets : Bool) (phase : Phase) : Writes Text TokenRow :=
  if resets then phase.ownReset else phase.ownEmail

variable {service : Service} {userId : Text} {outcome : Service × Phase}

/-- A deletion is a step of its transaction on one table, and leaves the other. -/
theorem finishDelete_tokens {continuation : Continuation} {snapshot : List TokenRow}
    (resets : Bool) (hfinish : finishDelete service userId continuation snapshot = some outcome) :
    Table.Step TokenRow.keys (service.tokens resets) {} (outcome.1.tokens resets)
      (outcome.2.own resets) := by
  obtain ⟨⟨table, own⟩, hdelete, rfl⟩ := Option.map_eq_some_iff.mp hfinish
  have hstep : Table.Step TokenRow.keys (service.tokens continuation.resets) {} table own :=
    .write List.Pairwise.nil (by simp) hdelete
  cases continuation with
  | consume purpose matched =>
      cases purpose with
      | reset newPassword =>
          cases resets with
          | true => exact hstep
          | false => exact .same _ _
      | verifyEmail =>
          cases resets with
          | true => exact .same _ _
          | false => exact hstep
  | issue draft =>
      cases resets with
      | true => exact .same _ _
      | false => exact hstep

theorem commitUse_tokens (service : Service) (purpose : Purpose) (userId : Text)
    (matched : TokenRow) (own : Writes Text TokenRow) (ownUsers : Writes Text UserRow)
    (updated resets : Bool) :
    Table.Step TokenRow.keys (service.tokens resets)
      ((Phase.committingUse purpose userId matched own ownUsers updated).own resets)
      ((commitUse service purpose userId matched own ownUsers updated).1.tokens resets)
      ((commitUse service purpose userId matched own ownUsers updated).2.own resets) := by
  cases purpose with
  | reset newPassword =>
      cases updated <;> cases resets
      · exact .same _ _
      · exact .commit _ _
      · exact .same _ _
      · exact .commit _ _
  | verifyEmail =>
      cases updated <;> cases resets
      · exact .commit _ _
      · exact .same _ _
      · exact .commit _ _
      · exact .same _ _

@[simp] theorem dispatch_own (resets : Bool) (now : Int) (request : Request)
    (user : Option UserRow) : (dispatch now request user).own resets = {} := by
  cases resets <;> fun_cases dispatch now request user <;> rfl

variable {library : Library} {salt : Text} {purpose : Purpose} {matched : TokenRow}

/-- The update of a user leaves what the call has written in the other tables. -/
theorem updateUser_eq_some {own : Writes Text TokenRow}
    (hupdate : updateUser library salt service purpose userId matched own = some outcome) :
    (getUserById service.users.rows userId = none ∧
        outcome = (service, .committingUse purpose userId matched own {} false)) ∨
      ∃ user users ownUsers, getUserById service.users.rows userId = some user ∧
        service.users.write userKeys [user] [updatedUser library salt user purpose] {} =
          some (users, ownUsers) ∧
        outcome = ({ service with users },
          .committingUse purpose userId matched own ownUsers true) := by
  unfold updateUser at hupdate
  split at hupdate
  · rename_i hnone
    exact Or.inl ⟨hnone, (Option.some.inj hupdate).symm⟩
  · rename_i user huser
    obtain ⟨⟨users, ownUsers⟩, hwrite, rfl⟩ := Option.map_eq_some_iff.mp hupdate
    exact Or.inr ⟨user, users, ownUsers, huser, hwrite, rfl⟩

theorem updateUser_tokens {own : Writes Text TokenRow} (resets : Bool)
    (hupdate : updateUser library salt service purpose userId matched own = some outcome) :
    outcome.1.tokens resets = service.tokens resets ∧
      outcome.2.own resets = (Phase.updating purpose userId matched own).own resets := by
  rcases updateUser_eq_some hupdate with ⟨-, rfl⟩ | ⟨user, users, ownUsers, -, -, rfl⟩
  · cases purpose <;> cases resets <;> exact ⟨rfl, rfl⟩
  · cases purpose <;> cases resets <;> exact ⟨rfl, rfl⟩

variable {draft : Draft}

theorem insertReset_eq_some (hinsert : insertReset service draft = some outcome) :
    service.resetTokens.conflicts TokenRow.keys (draft.row service.issues) {} = [] ∧
      ∃ table, service.resetTokens.alone TokenRow.keys [] [draft.row service.issues] = some table ∧
        outcome =
          ({ service with
              resetTokens := table
              issues := service.issues + 1
              log := service.log ++ [.issued draft.user.id service.issues] },
            .settled (.resetToken draft.token)) := by
  unfold insertReset at hinsert
  split at hinsert
  · rename_i hnone
    obtain ⟨table, halone, rfl⟩ := Option.map_eq_some_iff.mp hinsert
    exact ⟨hnone, table, halone, rfl⟩
  · cases hinsert

theorem insertEmail_eq_some {own : Writes Text TokenRow}
    (hinsert : insertEmail service draft own = some outcome) :
    service.emailTokens.conflicts TokenRow.keys (draft.row service.issues) own = [] ∧
      ∃ table later,
        service.emailTokens.write TokenRow.keys [] [draft.row service.issues] own =
          some (table, later) ∧
        outcome = ({ service with emailTokens := table, issues := service.issues + 1 },
          .committingEmail draft later) := by
  unfold insertEmail at hinsert
  split at hinsert
  · rename_i hnone
    obtain ⟨⟨table, later⟩, hwrite, rfl⟩ := Option.map_eq_some_iff.mp hinsert
    exact ⟨hnone, table, later, hwrite, rfl⟩
  · cases hinsert

theorem step_tokens {label : Statement} {phase : Phase} (resets : Bool)
    (hstep : step library label service phase = some outcome) :
    Table.Step TokenRow.keys (service.tokens resets) (phase.own resets)
      (outcome.1.tokens resets) (outcome.2.own resets) := by
  revert hstep
  fun_cases step library label service phase
  case case2 request =>
    rintro ⟨⟩
    rw [dispatch_own]
    cases resets <;> exact .same _ _
  case case5 draft =>
    intro hinsert
    obtain ⟨hnone, table, halone, rfl⟩ := insertReset_eq_some hinsert
    cases resets with
    | false => exact .same _ _
    | true =>
        refine .alone (List.pairwise_singleton _ _) ?_ halone
        intro row hrow _
        exact disjoint_singleton hnone row (Table.mem_sees.mpr (Or.inl ⟨hrow, List.not_mem_nil⟩))
  case case11 userId continuation snapshot =>
    intro hfinish
    cases resets <;> exact finishDelete_tokens _ hfinish
  case case12 salt purpose userId matched own =>
    intro hupdate
    obtain ⟨htable, hown⟩ := updateUser_tokens resets hupdate
    rw [htable, hown]
    exact .same _ _
  case case13 draft own =>
    intro hinsert
    obtain ⟨hnone, table, later, hwrite, rfl⟩ := insertEmail_eq_some hinsert
    cases resets with
    | true => exact .same _ _
    | false =>
        refine .write (List.pairwise_singleton _ _) ?_ hwrite
        intro row hrow _
        exact disjoint_singleton hnone row hrow
  case case14 purpose userId matched own ownUsers updated =>
    rintro ⟨⟩
    exact commitUse_tokens service purpose userId matched own ownUsers updated resets
  case case15 draft own =>
    rintro ⟨⟩
    cases resets with
    | true => exact .same _ _
    | false => exact .commit _ _
  case case19 message _ _ =>
    rintro ⟨⟩
    cases resets <;> exact .rollback _ _
  all_goals rintro ⟨⟩
  all_goals cases resets <;> exact .same _ _

/-! ## What the calls know -/

/-- At most one of the rows of a user is valid. -/
def OneLive (now : Int) (rows : List TokenRow) : Prop :=
  ∀ row ∈ rows, ∀ other ∈ rows, Live now row → Live now other → row.userId = other.userId →
    row = other

variable {now : Int} {rows : List TokenRow}

theorem OneLive.mono {later : Int} {fewer : List TokenRow} (hone : OneLive now rows)
    (hle : now ≤ later) (hrows : fewer ⊆ rows) : OneLive later fewer :=
  fun row hrow other hother hlive hotherLive =>
    hone row (hrows hrow) other (hrows hother) (Int.lt_of_le_of_lt hle hlive)
      (Int.lt_of_le_of_lt hle hotherLive)

/-- The user whose token a call is using. -/
def Phase.user : Phase → Option Text
  | .selecting _ userId _ _ => some userId
  | .comparing _ userId _ _ => some userId
  | .deleting userId (.consume _ _) => some userId
  | .waiting userId (.consume _ _) _ => some userId
  | .updating _ userId _ _ => some userId
  | _ => none

/-- All stored reset tokens of the user are among the rows. -/
def Covers (service : Service) (userId : Text) (rows : List TokenRow) : Prop :=
  ∀ row ∈ service.resetTokens.rows, row.userId = userId → row ∈ rows

/-- A reset that has deleted the tokens of its user has deleted the one that it
compared and all others. -/
structure Cleared (service : Service) (userId : Text) (matched : TokenRow)
    (own : Writes Text TokenRow) : Prop where
  user : matched.userId = userId
  removed : matched ∈ own.removed
  added : own.added = []
  covers : Covers service userId own.removed

/-- What a call knows of the reset tokens of its user. -/
def Knows (service : Service) : Phase → Prop
  | .comparing (.reset _) userId _ rows => ∀ row ∈ rows, row.userId = userId
  | .deleting userId (.consume (.reset _) matched) => matched.userId = userId
  | .waiting userId (.consume (.reset _) matched) snapshot =>
      matched.userId = userId ∧ Covers service userId snapshot
  | .updating (.reset _) userId matched own => Cleared service userId matched own
  | .committingUse (.reset _) userId matched own _ updated =>
      Cleared service userId matched own ∧ updated = true
  | .committingUse .verifyEmail _ _ _ _ updated => updated = true
  | _ => True

/-- The tables and the history in every state. -/
structure Sound (service : Service) : Prop where
  unique : ∀ resets, Table.Unique TokenRow.keys (service.tokens resets).rows
  reset : ResetSound service.resetTokens.rows service.log service.issues
  email : OneLive service.now service.emailTokens.rows

/-- A call owns what it has written, sees no user with two valid verification
tokens, works for a user who is there, and knows what it should. -/
structure Placed (service : Service) (phase : Phase) : Prop where
  owned : ∀ resets, Table.Owned TokenRow.keys (service.tokens resets) (phase.own resets)
  email : OneLive service.now (service.emailTokens.sees phase.ownEmail)
  user : ∀ userId, phase.user = some userId → ∃ row ∈ service.users.rows, row.id = userId
  replaced : ∀ row ∈ phase.ownUsers.removed, ∃ new ∈ phase.ownUsers.added, new.id = row.id
  knows : Knows service phase

/-- Two calls hold different rows, and do not both have a valid verification token of
one user to commit. -/
structure Separate (now : Int) (one other : Phase) : Prop where
  apart : ∀ resets, Table.Apart (one.own resets) (other.own resets)
  pending : ∀ row ∈ one.ownEmail.added, ∀ fresh ∈ other.ownEmail.added, Live now row →
    Live now fresh → row.userId ≠ fresh.userId

theorem Separate.symm {one other : Phase} (hseparate : Separate now one other) :
    Separate now other one where
  apart resets := List.disjoint_symm (hseparate.apart resets)
  pending row hrow fresh hfresh hlive hfreshLive huser :=
    hseparate.pending fresh hfresh row hrow hfreshLive hlive huser.symm

section Steps

variable {library : Library} {label : Statement} {service : Service} {phase : Phase}
  {outcome : Service × Phase} {userId : Text} {row : TokenRow}

section

variable (hplaced : Placed service phase) (hstep : step library label service phase = some outcome)
include hplaced hstep

/-- Users stay, since an update puts in a row for the one that it takes away. -/
theorem step_users (huser : ∃ row ∈ service.users.rows, row.id = userId) :
    ∃ row ∈ outcome.1.users.rows, row.id = userId := by
  revert hstep
  fun_cases step library label service phase
  case case5 draft =>
    intro hinsert
    obtain ⟨-, table, -, rfl⟩ := insertReset_eq_some hinsert
    exact huser
  case case11 user continuation snapshot =>
    intro hfinish
    obtain ⟨⟨table, own⟩, -, rfl⟩ := Option.map_eq_some_iff.mp hfinish
    unfold Service.setTokens
    split <;> exact huser
  case case12 salt purpose user matched own =>
    intro hupdate
    rcases updateUser_eq_some hupdate with ⟨-, rfl⟩ | ⟨found, users, ownUsers, -, hwrite, rfl⟩
    · exact huser
    · dsimp only
      rw [(Table.write_eq_some hwrite).2.1]
      exact huser
  case case13 draft own =>
    intro hinsert
    obtain ⟨-, table, later, -, rfl⟩ := insertEmail_eq_some hinsert
    exact huser
  case case14 purpose user matched own ownUsers updated =>
    rintro ⟨⟩
    obtain ⟨row, hrow, hid⟩ := huser
    have hseen : ∃ row ∈ service.users.sees ownUsers, row.id = userId := by
      by_cases hremoved : row ∈ ownUsers.removed
      · obtain ⟨new, hnew, hnewId⟩ := hplaced.replaced row hremoved
        exact ⟨new, Table.mem_sees.mpr (Or.inr hnew), hnewId.trans hid⟩
      · exact ⟨row, Table.mem_sees.mpr (Or.inl ⟨hrow, hremoved⟩), hid⟩
    cases updated <;> exact hseen
  case case19 message _ _ =>
    rintro ⟨⟩
    exact huser
  all_goals rintro ⟨⟩
  all_goals exact huser

/-- A step puts in no reset token but the one that it issues. -/
theorem step_reset_rows (hrow : row ∈ outcome.1.resetTokens.rows) :
    row ∈ service.resetTokens.rows ∨
      ∃ draft, phase = .insertingReset draft ∧ label = .insertToken ∧
        row = draft.row service.issues := by
  revert hstep
  fun_cases step library label service phase
  case case5 draft =>
    intro hinsert
    obtain ⟨-, table, halone, rfl⟩ := insertReset_eq_some hinsert
    dsimp only at hrow
    rw [Table.rows_alone halone] at hrow
    rcases List.mem_append.mp hrow with hold | hnew
    · exact Or.inl (List.mem_filter.mp hold).1
    · exact Or.inr ⟨draft, rfl, rfl, List.mem_singleton.mp hnew⟩
  case case11 user continuation snapshot =>
    intro hfinish
    obtain ⟨⟨table, own⟩, hdelete, rfl⟩ := Option.map_eq_some_iff.mp hfinish
    have hrows := (Table.write_eq_some hdelete).2.1
    refine Or.inl ?_
    cases hresets : continuation.resets with
    | false => simpa [Service.setTokens, hresets] using hrow
    | true => simpa [Service.setTokens, Service.tokens, hresets, hrows] using hrow
  case case12 salt purpose user matched own =>
    intro hupdate
    rcases updateUser_eq_some hupdate with ⟨-, rfl⟩ | ⟨found, users, ownUsers, -, -, rfl⟩
    · exact Or.inl hrow
    · exact Or.inl hrow
  case case13 draft own =>
    intro hinsert
    obtain ⟨-, table, later, -, rfl⟩ := insertEmail_eq_some hinsert
    exact Or.inl hrow
  case case14 purpose user matched own ownUsers updated =>
    rintro ⟨⟩
    refine Or.inl ?_
    cases purpose with
    | verifyEmail => cases updated <;> exact hrow
    | reset newPassword =>
        have hseen : row ∈ service.resetTokens.sees own := by
          cases updated <;> exact hrow
        rcases Table.mem_sees.mp hseen with ⟨hcommitted, -⟩ | hadded
        · exact hcommitted
        · rw [hplaced.knows.1.added] at hadded
          cases hadded
  case case19 message _ _ =>
    rintro ⟨⟩
    exact Or.inl hrow
  all_goals rintro ⟨⟩
  all_goals exact Or.inl hrow

end

/-- A step puts in no verification token but those that its call has inserted. -/
theorem step_email_rows (hstep : step library label service phase = some outcome)
    (hrow : row ∈ outcome.1.emailTokens.rows) :
    row ∈ service.emailTokens.rows ∨ row ∈ phase.ownEmail.added := by
  revert hstep
  fun_cases step library label service phase
  case case5 draft =>
    intro hinsert
    obtain ⟨-, table, -, rfl⟩ := insertReset_eq_some hinsert
    exact Or.inl hrow
  case case11 user continuation snapshot =>
    intro hfinish
    obtain ⟨⟨table, own⟩, hdelete, rfl⟩ := Option.map_eq_some_iff.mp hfinish
    have hrows := (Table.write_eq_some hdelete).2.1
    refine Or.inl ?_
    cases hresets : continuation.resets with
    | true => simpa [Service.setTokens, hresets] using hrow
    | false => simpa [Service.setTokens, Service.tokens, hresets, hrows] using hrow
  case case12 salt purpose user matched own =>
    intro hupdate
    rcases updateUser_eq_some hupdate with ⟨-, rfl⟩ | ⟨found, users, ownUsers, -, -, rfl⟩
    · exact Or.inl hrow
    · exact Or.inl hrow
  case case13 draft own =>
    intro hinsert
    obtain ⟨-, table, later, hwrite, rfl⟩ := insertEmail_eq_some hinsert
    exact Or.inl ((Table.write_eq_some hwrite).2.1 ▸ hrow)
  case case14 purpose user matched own ownUsers updated =>
    rintro ⟨⟩
    cases purpose with
    | reset newPassword => cases updated <;> exact Or.inl hrow
    | verifyEmail =>
        have hseen : row ∈ service.emailTokens.sees own := by
          cases updated <;> exact hrow
        exact (Table.mem_sees.mp hseen).imp_left And.left
  case case15 draft own =>
    rintro ⟨⟩
    exact (Table.mem_sees.mp hrow).imp_left And.left
  case case19 message _ _ =>
    rintro ⟨⟩
    exact Or.inl hrow
  all_goals rintro ⟨⟩
  all_goals exact Or.inl hrow

/-- The only verification token that a step adds to those of its call is the one
that it inserts. -/
theorem step_email_added (hstep : step library label service phase = some outcome)
    (hrow : row ∈ outcome.2.ownEmail.added) :
    row ∈ phase.ownEmail.added ∨
      ∃ draft own, phase = .insertingEmail draft own ∧ label = .insertToken ∧
        row = draft.row service.issues := by
  revert hstep
  fun_cases step library label service phase
  case case2 request =>
    rintro ⟨⟩
    have hown : (dispatch service.now request
        (getUserByEmail service.users.rows request.email)).ownEmail = {} :=
      dispatch_own false _ _ _
    rw [hown] at hrow
    cases hrow
  case case5 draft =>
    intro hinsert
    obtain ⟨-, table, -, rfl⟩ := insertReset_eq_some hinsert
    cases hrow
  case case11 user continuation snapshot =>
    intro hfinish
    obtain ⟨⟨table, own⟩, hdelete, rfl⟩ := Option.map_eq_some_iff.mp hfinish
    have hadded : own.added = [] := by
      simpa using (Table.write_eq_some hdelete).2.2.2.2.1
    cases continuation with
    | consume purpose matched =>
        cases purpose with
        | reset newPassword => cases hrow
        | verifyEmail =>
            have hnone : row ∈ own.added := hrow
            rw [hadded] at hnone
            cases hnone
    | issue draft =>
        have hnone : row ∈ own.added := hrow
        rw [hadded] at hnone
        cases hnone
  case case12 salt purpose user matched own =>
    intro hupdate
    have hown : outcome.2.ownEmail = (Phase.updating purpose user matched own).ownEmail :=
      (updateUser_tokens false hupdate).2
    exact Or.inl (hown ▸ hrow)
  case case13 draft own =>
    intro hinsert
    obtain ⟨-, table, later, hwrite, rfl⟩ := insertEmail_eq_some hinsert
    have hadded : row ∈ later.added := hrow
    rw [(Table.write_eq_some hwrite).2.2.2.2.1] at hadded
    rcases List.mem_append.mp hadded with hold | hnew
    · exact Or.inl (List.mem_filter.mp hold).1
    · exact Or.inr ⟨draft, own, rfl, rfl, List.mem_singleton.mp hnew⟩
  case case14 purpose user matched own ownUsers updated =>
    rintro ⟨⟩
    cases updated <;> cases hrow
  case case19 message _ _ =>
    rintro ⟨⟩
    cases hrow
  case case20 later hlater =>
    rintro ⟨⟩
    exact Or.inl hrow
  all_goals rintro ⟨⟩
  all_goals cases hrow

variable {after : Service} {rows : List TokenRow}

/-- What a call knows stays so while no reset token of its user is put in. -/
theorem Covers.of_rows (hcovers : Covers service userId rows)
    (hrows : ∀ row ∈ after.resetTokens.rows, row.userId = userId → row ∈ service.resetTokens.rows) :
    Covers after userId rows :=
  fun row hrow huser => hcovers row (hrows row hrow huser) huser

theorem Knows.of_rows (hknows : Knows service phase)
    (hrows : ∀ userId, clears userId phase = true → ∀ row ∈ after.resetTokens.rows,
      row.userId = userId → row ∈ service.resetTokens.rows) : Knows after phase := by
  unfold Knows at hknows ⊢
  split
  case h_1 => exact hknows
  case h_2 => exact hknows
  case h_3 userId newPassword matched snapshot =>
    exact ⟨hknows.1, hknows.2.of_rows (hrows userId (by simp [clears]))⟩
  case h_4 newPassword userId matched own =>
    exact { hknows with covers := hknows.covers.of_rows (hrows userId (by simp [clears])) }
  case h_5 newPassword userId matched own ownUsers updated =>
    exact ⟨{ hknows.1 with covers := hknows.1.covers.of_rows (hrows userId (by simp [clears])) },
      hknows.2⟩
  case h_6 => exact hknows
  case h_7 => trivial

variable {matched : TokenRow}

/-- The deletion of a reset that finds the compared row clears its user. -/
theorem cleared_of_delete {snapshot : List TokenRow} {table : Table Text TokenRow}
    {own : Writes Text TokenRow} (huser : matched.userId = userId)
    (hcovers : Covers service userId snapshot) (hfound : matched ∈ service.resetTokens.rows)
    (hdelete : service.resetTokens.delete TokenRow.keys snapshot {} = some (table, own))
    (hafter : after.resetTokens = table) : Cleared after userId matched own := by
  obtain ⟨-, hrows, -, hremoved, hadded, -⟩ := Table.write_eq_some hdelete
  have hin : ∀ row ∈ service.resetTokens.rows, row.userId = userId → row ∈ own.removed := by
    intro row hrow hrowUser
    rw [hremoved]
    simp [hrow, hcovers row hrow hrowUser]
  refine ⟨huser, hin matched hfound huser, by simpa using hadded, ?_⟩
  intro row hrow hrowUser
  rw [hafter, hrows] at hrow
  exact hin row hrow hrowUser

theorem getUserById_isSome (huser : ∃ row ∈ service.users.rows, row.id = userId) :
    getUserById service.users.rows userId ≠ none := by
  obtain ⟨row, hrow, hid⟩ := huser
  intro hnone
  exact absurd hid (by simpa using List.find?_eq_none.mp hnone row hrow)

@[simp] theorem dispatch_ownUsers (now : Int) (request : Request) (user : Option UserRow) :
    (dispatch now request user).ownUsers = {} := by
  fun_cases dispatch now request user <;> rfl

theorem dispatch_knows (now : Int) (request : Request) (user : Option UserRow) :
    Knows service (dispatch now request user) := by
  fun_cases dispatch now request user <;> trivial

/-- The deletion of a reset finds the row that the call has compared. -/
def FindsMatched (service : Service) (phase : Phase) (label : Statement) : Prop :=
  ∀ userId newPassword matched snapshot,
    phase = .waiting userId (.consume (.reset newPassword) matched) snapshot →
      label = .finishDelete → matched ∈ service.resetTokens.rows

theorem step_knows (hplaced : Placed service phase) (hfinds : FindsMatched service phase label)
    (hstep : step library label service phase = some outcome) : Knows outcome.1 outcome.2 := by
  have hknows := hplaced.knows
  revert hstep
  fun_cases step library label service phase
  case case2 request =>
    rintro ⟨⟩
    exact dispatch_knows _ _ _
  case case5 draft =>
    intro hinsert
    obtain ⟨-, table, -, rfl⟩ := insertReset_eq_some hinsert
    trivial
  case case6 cutoff purpose userId token since hcutoff =>
    rintro ⟨⟩
    cases purpose with
    | verifyEmail => trivial
    | reset newPassword =>
        intro row hrow
        simpa using (Bool.and_eq_true_iff.mp (List.mem_filter.mp hrow).2).1
  case case9 purpose userId token rows matched hmatched =>
    rintro ⟨⟩
    cases purpose with
    | verifyEmail => trivial
    | reset newPassword => exact hknows matched (List.mem_of_find?_eq_some hmatched)
  case case10 userId continuation =>
    rintro ⟨⟩
    cases continuation with
    | issue draft => trivial
    | consume purpose matched =>
        cases purpose with
        | verifyEmail => trivial
        | reset newPassword =>
            exact ⟨hknows, fun row hrow huser =>
              List.mem_filter.mpr ⟨hrow, by simpa using huser⟩⟩
  case case11 userId continuation snapshot =>
    intro hfinish
    obtain ⟨⟨table, own⟩, hdelete, rfl⟩ := Option.map_eq_some_iff.mp hfinish
    cases continuation with
    | issue draft => trivial
    | consume purpose matched =>
        cases purpose with
        | verifyEmail => trivial
        | reset newPassword =>
            exact cleared_of_delete hknows.1 hknows.2
              (hfinds userId newPassword matched snapshot rfl rfl) hdelete rfl
  case case12 salt purpose userId matched own =>
    intro hupdate
    rcases updateUser_eq_some hupdate with ⟨hnone, rfl⟩ | ⟨user, users, ownUsers, -, -, rfl⟩
    · exact absurd hnone (getUserById_isSome (hplaced.user userId rfl))
    · cases purpose with
      | verifyEmail => exact rfl
      | reset newPassword => exact ⟨⟨hknows.user, hknows.removed, hknows.added, hknows.covers⟩, rfl⟩
  case case13 draft own =>
    intro hinsert
    obtain ⟨-, table, later, -, rfl⟩ := insertEmail_eq_some hinsert
    trivial
  case case14 purpose userId matched own ownUsers updated =>
    rintro ⟨⟩
    cases updated <;> trivial
  case case20 later hlater =>
    rintro ⟨⟩
    exact hknows.of_rows fun _ _ _ hrow _ => hrow
  all_goals rintro ⟨⟩
  all_goals trivial

theorem step_user (hplaced : Placed service phase)
    (hstep : step library label service phase = some outcome) {userId : Text}
    (huser : outcome.2.user = some userId) : ∃ row ∈ service.users.rows, row.id = userId := by
  revert hstep
  fun_cases step library label service phase
  case case2 request =>
    rintro ⟨⟩
    dsimp only at huser
    cases hread : getUserByEmail service.users.rows request.email with
    | none =>
        rw [hread] at huser
        cases request <;> cases huser
    | some user =>
        refine ⟨user, List.mem_of_find?_eq_some hread, ?_⟩
        rw [hread] at huser
        cases request with
        | generateResetToken email => cases huser
        | resetPassword email token newPassword => exact Option.some.inj huser
        | generateEmailVerificationToken email =>
            simp only [dispatch] at huser
            split at huser <;> cases huser
        | verifyEmail email token =>
            simp only [dispatch] at huser
            split at huser
            · cases huser
            · exact Option.some.inj huser
  case case5 draft =>
    intro hinsert
    obtain ⟨-, table, -, rfl⟩ := insertReset_eq_some hinsert
    cases huser
  case case10 user continuation =>
    rintro ⟨⟩
    cases continuation with
    | issue draft => cases huser
    | consume purpose matched => exact hplaced.user userId huser
  case case11 user continuation snapshot =>
    intro hfinish
    obtain ⟨⟨table, own⟩, -, rfl⟩ := Option.map_eq_some_iff.mp hfinish
    cases continuation with
    | issue draft => cases huser
    | consume purpose matched => exact hplaced.user userId huser
  case case12 salt purpose user matched own =>
    intro hupdate
    rcases updateUser_eq_some hupdate with ⟨-, rfl⟩ | ⟨found, users, ownUsers, -, -, rfl⟩
    · cases huser
    · cases huser
  case case13 draft own =>
    intro hinsert
    obtain ⟨-, table, later, -, rfl⟩ := insertEmail_eq_some hinsert
    cases huser
  case case14 purpose user matched own ownUsers updated =>
    rintro ⟨⟩
    cases updated <;> cases huser
  case case6 | case9 | case20 =>
    rintro ⟨⟩
    exact hplaced.user userId huser
  all_goals rintro ⟨⟩
  all_goals cases huser

/-- An update puts in a row of the user that it takes away. -/
theorem step_replaced (hplaced : Placed service phase)
    (hstep : step library label service phase = some outcome) :
    ∀ row ∈ outcome.2.ownUsers.removed, ∃ new ∈ outcome.2.ownUsers.added, new.id = row.id := by
  revert hstep
  fun_cases step library label service phase
  case case2 request =>
    rintro ⟨⟩
    simp
  case case5 draft =>
    intro hinsert
    obtain ⟨-, table, -, rfl⟩ := insertReset_eq_some hinsert
    exact fun _ h => absurd h List.not_mem_nil
  case case11 user continuation snapshot =>
    intro hfinish
    obtain ⟨⟨table, own⟩, -, rfl⟩ := Option.map_eq_some_iff.mp hfinish
    cases continuation <;> exact fun _ h => absurd h List.not_mem_nil
  case case12 salt purpose user matched own =>
    intro hupdate
    rcases updateUser_eq_some hupdate with ⟨-, rfl⟩ | ⟨found, users, ownUsers, -, hwrite, rfl⟩
    · exact fun _ h => absurd h List.not_mem_nil
    · obtain ⟨-, -, -, hremoved, hadded, -⟩ := Table.write_eq_some hwrite
      intro row hrow
      have hold : row ∈ ownUsers.removed := hrow
      rw [hremoved] at hold
      have hfound : row = found := by simpa using (List.mem_filter.mp hold).1
      refine ⟨updatedUser library salt found purpose, ?_, ?_⟩
      · have hnew : updatedUser library salt found purpose ∈ ownUsers.added := by
          rw [hadded]
          exact List.mem_append_right _ List.mem_cons_self
        exact hnew
      · rw [hfound]
        cases purpose <;> rfl
  case case13 draft own =>
    intro hinsert
    obtain ⟨-, table, later, -, rfl⟩ := insertEmail_eq_some hinsert
    exact fun _ h => absurd h List.not_mem_nil
  case case14 purpose user matched own ownUsers updated =>
    rintro ⟨⟩
    cases updated <;> exact fun _ h => absurd h List.not_mem_nil
  case case20 later hlater =>
    rintro ⟨⟩
    exact hplaced.replaced
  all_goals rintro ⟨⟩
  all_goals exact fun _ h => absurd h List.not_mem_nil

/-- No valid verification token of the user stands beside the one that is inserted. -/
def FindsNone (service : Service) (phase : Phase) (label : Statement) : Prop :=
  ∀ draft own, phase = .insertingEmail draft own → label = .insertToken →
    liveRows (service.emailTokens.sees own) draft.user.id service.now = []

theorem not_live_of_liveRows {now : Int} (hnone : liveRows rows userId now = [])
    (hrow : row ∈ rows) (hlive : Live now row) :
    row.userId ≠ userId := by
  intro huser
  have hnot := List.filter_eq_nil_iff.mp hnone row hrow
  exact hnot (by simpa [huser, Live] using hlive)

/-- A step leaves each user with one valid verification token, in the table and for
the call. -/
theorem step_email (hsound : Sound service) (hplaced : Placed service phase)
    (hnone : FindsNone service phase label)
    (hstep : step library label service phase = some outcome) :
    OneLive outcome.1.now outcome.1.emailTokens.rows ∧
      OneLive outcome.1.now (outcome.1.emailTokens.sees outcome.2.ownEmail) := by
  have hrows := hsound.email
  have hsees := hplaced.email
  have hidle : OneLive service.now (service.emailTokens.sees {}) := by
    rw [Table.sees_nil]
    exact hrows
  revert hstep
  fun_cases step library label service phase
  case case2 request =>
    rintro ⟨⟩
    have hown : (dispatch service.now request
        (getUserByEmail service.users.rows request.email)).ownEmail = {} :=
      dispatch_own false _ _ _
    dsimp only
    rw [hown]
    exact ⟨hrows, hidle⟩
  case case5 draft =>
    intro hinsert
    obtain ⟨-, table, -, rfl⟩ := insertReset_eq_some hinsert
    exact ⟨hrows, hidle⟩
  case case11 user continuation snapshot =>
    intro hfinish
    obtain ⟨⟨table, own⟩, hdelete, rfl⟩ := Option.map_eq_some_iff.mp hfinish
    have hfewer : table.sees own ⊆ (service.tokens continuation.resets).rows := by
      rw [Table.sees_write hdelete, Table.sees_nil]
      simp
    have hkept := (Table.write_eq_some hdelete).2.1
    cases continuation with
    | issue draft =>
        exact ⟨hrows.mono (Int.le_refl _) (fun _ h => hkept ▸ h),
          hrows.mono (Int.le_refl _) hfewer⟩
    | consume purpose matched =>
        cases purpose with
        | reset newPassword => exact ⟨hrows, hidle⟩
        | verifyEmail =>
            exact ⟨hrows.mono (Int.le_refl _) (fun _ h => hkept ▸ h),
              hrows.mono (Int.le_refl _) hfewer⟩
  case case12 salt purpose user matched own =>
    intro hupdate
    have hown : outcome.2.ownEmail = (Phase.updating purpose user matched own).ownEmail :=
      (updateUser_tokens false hupdate).2
    rw [hown]
    rcases updateUser_eq_some hupdate with ⟨-, rfl⟩ | ⟨found, users, ownUsers, -, -, rfl⟩
    · exact ⟨hrows, hsees⟩
    · exact ⟨hrows, hsees⟩
  case case13 draft own =>
    intro hinsert
    obtain ⟨-, table, later, hwrite, rfl⟩ := insertEmail_eq_some hinsert
    refine ⟨hrows.mono (Int.le_refl _) (fun _ h => (Table.write_eq_some hwrite).2.1 ▸ h), ?_⟩
    have hothers := hnone draft own rfl rfl
    have hview : OneLive service.now (table.sees later) := by
      rw [Table.sees_write hwrite]
      intro row hrow other hother hlive hotherLive huser
      rcases List.mem_append.mp hrow with hold | hnew
      · rcases List.mem_append.mp hother with hotherOld | hotherNew
        · exact hsees row (List.mem_filter.mp hold).1 other (List.mem_filter.mp hotherOld).1
            hlive hotherLive huser
        · rw [List.mem_singleton.mp hotherNew] at huser
          exact absurd huser
            (not_live_of_liveRows hothers (List.mem_filter.mp hold).1 hlive)
      · rcases List.mem_append.mp hother with hotherOld | hotherNew
        · rw [List.mem_singleton.mp hnew] at huser
          exact absurd huser.symm
            (not_live_of_liveRows hothers (List.mem_filter.mp hotherOld).1 hotherLive)
        · rw [List.mem_singleton.mp hnew, List.mem_singleton.mp hotherNew]
    exact hview
  case case14 purpose user matched own ownUsers updated =>
    rintro ⟨⟩
    cases purpose with
    | reset newPassword => cases updated <;> exact ⟨hrows, hidle⟩
    | verifyEmail =>
        have hnil : OneLive service.now ((service.emailTokens.commit own).sees {}) := by
          rw [Table.sees_nil]
          exact hsees
        cases updated <;> exact ⟨hsees, hnil⟩
  case case15 draft own =>
    rintro ⟨⟩
    refine ⟨hsees, ?_⟩
    have hnil : OneLive service.now ((service.emailTokens.commit own).sees {}) := by
      rw [Table.sees_nil]
      exact hsees
    exact hnil
  case case19 message _ _ =>
    rintro ⟨⟩
    exact ⟨hrows, hidle⟩
  case case20 later hlater =>
    rintro ⟨⟩
    exact ⟨hrows.mono hlater (List.Subset.refl _), hsees.mono hlater (List.Subset.refl _)⟩
  all_goals rintro ⟨⟩
  all_goals exact ⟨hrows, hidle⟩

theorem ResetSound.commit {own : Writes Text TokenRow}
    (hreset : ResetSound service.resetTokens.rows service.log service.issues)
    (howned : Table.Owned TokenRow.keys service.resetTokens own)
    (hcleared : Cleared service userId matched own) :
    ResetSound (service.resetTokens.sees own) (service.log ++ [.changed userId matched.issue])
      service.issues := by
  have hkept : ∀ row ∈ service.resetTokens.sees own,
      row ∈ service.resetTokens.rows ∧ row ∉ own.removed := by
    intro row hrow
    refine (Table.mem_sees.mp hrow).resolve_right ?_
    rw [hcleared.added]
    exact List.not_mem_nil
  refine hreset.change (howned.removed_rows hcleared.removed) hcleared.user
    (fun row hrow => (hkept row hrow).1) ?_
  intro row hrow huser
  exact (hkept row hrow).2 (hcleared.covers row (hkept row hrow).1 huser)

theorem step_history (hsound : Sound service) (hplaced : Placed service phase)
    (hstep : step library label service phase = some outcome) :
    ResetSound outcome.1.resetTokens.rows outcome.1.log outcome.1.issues := by
  have hreset := hsound.reset
  have hkept : (∀ draft, phase ≠ .insertingReset draft) →
      outcome.1.resetTokens.rows ⊆ service.resetTokens.rows := by
    intro hnot row hrow
    refine (step_reset_rows hplaced hstep hrow).resolve_right ?_
    rintro ⟨draft, hphase, -⟩
    exact hnot draft hphase
  revert hstep
  fun_cases step library label service phase
  case case5 draft =>
    intro hinsert
    obtain ⟨-, table, halone, rfl⟩ := insertReset_eq_some hinsert
    have hlater : table.rows ⊆ service.resetTokens.rows ++ [draft.row service.issues] := by
      rw [Table.rows_alone halone]
      exact fun row hrow => by simpa using hrow
    exact hreset.issue (by rfl) hlater
  case case11 user continuation snapshot =>
    intro hfinish
    have hrows := hkept (by simp)
    obtain ⟨⟨table, own⟩, -, rfl⟩ := Option.map_eq_some_iff.mp hfinish
    have hsame : (service.setTokens continuation.resets table).log = service.log ∧
        (service.setTokens continuation.resets table).issues = service.issues := by
      unfold Service.setTokens
      split <;> exact ⟨rfl, rfl⟩
    dsimp only
    rw [hsame.1, hsame.2]
    exact hreset.mono hrows (Nat.le_refl _)
  case case12 salt purpose user matched own =>
    intro hupdate
    rcases updateUser_eq_some hupdate with ⟨-, rfl⟩ | ⟨found, users, ownUsers, -, -, rfl⟩
    · exact hreset
    · exact hreset
  case case13 draft own =>
    intro hinsert
    obtain ⟨-, table, later, -, rfl⟩ := insertEmail_eq_some hinsert
    exact hreset.mono (List.Subset.refl _) (Nat.le_succ _)
  case case14 purpose user matched own ownUsers updated =>
    rintro ⟨⟩
    cases purpose with
    | reset newPassword =>
        obtain ⟨hcleared, rfl⟩ := hplaced.knows
        exact hreset.commit (hplaced.owned true) hcleared
    | verifyEmail =>
        obtain rfl : updated = true := hplaced.knows
        exact hreset
  case case16 purpose =>
    rintro ⟨⟩
    exact hreset.refuse
  case case19 message _ _ =>
    rintro ⟨⟩
    exact hreset
  all_goals rintro ⟨⟩
  all_goals exact hreset

/-! ## Runs -/

theorem step_sound (hsound : Sound service) (hplaced : Placed service phase)
    (hfinds : FindsMatched service phase label) (hnone : FindsNone service phase label)
    (hstep : step library label service phase = some outcome) :
    Sound outcome.1 ∧ Placed outcome.1 outcome.2 := by
  have htables : ∀ resets, Table.Unique TokenRow.keys (outcome.1.tokens resets).rows ∧
      Table.Owned TokenRow.keys (outcome.1.tokens resets) (outcome.2.own resets) :=
    fun resets => (step_tokens resets hstep).owned (hsound.unique resets) (hplaced.owned resets)
  obtain ⟨hrows, hsees⟩ := step_email hsound hplaced hnone hstep
  refine ⟨⟨fun resets => (htables resets).1, step_history hsound hplaced hstep, hrows⟩,
    fun resets => (htables resets).2, hsees, ?_, step_replaced hplaced hstep,
    step_knows hplaced hfinds hstep⟩
  intro userId huser
  exact step_users hplaced hstep (step_user hplaced hstep huser)

theorem step_now (hstep : step library label service phase = some outcome) :
    service.now ≤ outcome.1.now := by
  revert hstep
  fun_cases step library label service phase
  case case5 draft =>
    intro hinsert
    obtain ⟨-, table, -, rfl⟩ := insertReset_eq_some hinsert
    exact Int.le_refl _
  case case11 user continuation snapshot =>
    intro hfinish
    obtain ⟨⟨table, own⟩, -, rfl⟩ := Option.map_eq_some_iff.mp hfinish
    unfold Service.setTokens
    split <;> exact Int.le_refl _
  case case12 salt purpose user matched own =>
    intro hupdate
    rcases updateUser_eq_some hupdate with ⟨-, rfl⟩ | ⟨found, users, ownUsers, -, -, rfl⟩
    · exact Int.le_refl _
    · exact Int.le_refl _
  case case13 draft own =>
    intro hinsert
    obtain ⟨-, table, later, -, rfl⟩ := insertEmail_eq_some hinsert
    exact Int.le_refl _
  case case14 purpose user matched own ownUsers updated =>
    rintro ⟨⟩
    cases updated <;> cases purpose <;> exact Int.le_refl _
  case case20 later hlater =>
    rintro ⟨⟩
    exact hlater
  all_goals rintro ⟨⟩
  all_goals exact Int.le_refl _

/-- A step leaves what another call knows, where it puts in no reset token of a user
whom that call clears, and no verification token of a user for whom that call has
one to commit. -/
theorem step_other {other : Phase} (hsound : Sound service) (hplaced : Placed service phase)
    (hother : Placed service other) (hseparate : Separate service.now phase other)
    (hafter : Sound outcome.1)
    (hclears : ∀ draft, phase = .insertingReset draft → label = .insertToken →
      clears draft.user.id other = false)
    (hissues : ∀ draft own, phase = .insertingEmail draft own → label = .insertToken →
      issuesEmail draft.user.id service.now other = false)
    (hstep : step library label service phase = some outcome) :
    Placed outcome.1 other ∧ Separate outcome.1.now outcome.2 other := by
  have htables : ∀ resets, Table.Owned TokenRow.keys (outcome.1.tokens resets) (other.own resets) ∧
      Table.Apart (outcome.2.own resets) (other.own resets) :=
    fun resets => (step_tokens resets hstep).other TokenRow.keys_ne_nil (hsound.unique resets)
      (hplaced.owned resets) (hother.owned resets) (hseparate.apart resets)
  have hnow := step_now hstep
  refine ⟨⟨fun resets => (htables resets).1, ?_, ?_, hother.replaced, ?_⟩,
    fun resets => (htables resets).2, ?_⟩
  · -- the verification tokens that the other call sees
    intro row hrow fresh hfresh hlive hfreshLive huser
    have hliveBefore : Live service.now row := Int.lt_of_le_of_lt hnow hlive
    have hfreshBefore : Live service.now fresh := Int.lt_of_le_of_lt hnow hfreshLive
    have hmixed : ∀ one two, one ∈ outcome.1.emailTokens.rows → one ∉ other.ownEmail.removed →
        two ∈ other.ownEmail.added → Live service.now one → Live service.now two →
        one.userId = two.userId → one = two := by
      intro one two hone hstays htwo honeLive htwoLive hsame
      rcases step_email_rows hstep hone with hbefore | hmine
      · exact hother.email one (Table.mem_sees.mpr (Or.inl ⟨hbefore, hstays⟩)) two
          (Table.mem_sees.mpr (Or.inr htwo)) honeLive htwoLive hsame
      · exact absurd hsame (hseparate.pending one hmine two htwo honeLive htwoLive)
    rcases Table.mem_sees.mp hrow with ⟨hrowIn, hrowStays⟩ | hrowMine
    · rcases Table.mem_sees.mp hfresh with ⟨hfreshIn, -⟩ | hfreshMine
      · exact hafter.email row hrowIn fresh hfreshIn hlive hfreshLive huser
      · exact hmixed row fresh hrowIn hrowStays hfreshMine hliveBefore hfreshBefore huser
    · rcases Table.mem_sees.mp hfresh with ⟨hfreshIn, hfreshStays⟩ | hfreshMine
      · exact (hmixed fresh row hfreshIn hfreshStays hrowMine hfreshBefore hliveBefore
          huser.symm).symm
      · exact hother.email row (Table.mem_sees.mpr (Or.inr hrowMine)) fresh
          (Table.mem_sees.mpr (Or.inr hfreshMine)) hliveBefore hfreshBefore huser
  · intro userId huser
    exact step_users hplaced hstep (hother.user userId huser)
  · refine hother.knows.of_rows ?_
    intro userId hclearing row hrow huser
    refine (step_reset_rows hplaced hstep hrow).resolve_right ?_
    rintro ⟨draft, hphase, hlabel, rfl⟩
    have hsame : draft.user.id = userId := huser
    have hnot := hclears draft hphase hlabel
    rw [hsame, hclearing] at hnot
    cases hnot
  · intro row hrow fresh hfresh hlive hfreshLive
    have hliveBefore : Live service.now row := Int.lt_of_le_of_lt hnow hlive
    have hfreshBefore : Live service.now fresh := Int.lt_of_le_of_lt hnow hfreshLive
    rcases step_email_added hstep hrow with hbefore | ⟨draft, own, hphase, hlabel, rfl⟩
    · exact hseparate.pending row hbefore fresh hfresh hliveBefore hfreshBefore
    · have hnot := hissues draft own hphase hlabel
      have hnone : liveRows other.ownEmail.added draft.user.id service.now = [] := by
        simpa [issuesEmail] using hnot
      exact fun huser => not_live_of_liveRows hnone hfresh hfreshBefore huser.symm

end Steps

/-- At most one valid row of a user. -/
theorem liveRows_length_le (hunique : Table.Unique TokenRow.keys rows) (hone : OneLive now rows) :
    (liveRows rows userId now).length ≤ 1 := by
  have hnone : (liveRows rows userId now).Pairwise fun _ _ => False := by
    refine List.Pairwise.imp_of_mem ?_ (hunique.filter _)
    intro row other hrow hother hdisjoint
    obtain ⟨hrowIn, hrowLive⟩ := List.mem_filter.mp hrow
    obtain ⟨hotherIn, hotherLive⟩ := List.mem_filter.mp hother
    simp only [Bool.and_eq_true, decide_eq_true_eq] at hrowLive hotherLive
    have hsame := hone row hrowIn other hotherIn hrowLive.2 hotherLive.2
      (hrowLive.1.trans hotherLive.1.symm)
    rw [hsame] at hdisjoint
    exact hdisjoint List.mem_cons_self List.mem_cons_self
  cases hrows : liveRows rows userId now with
  | nil => exact Nat.zero_le _
  | cons row rest =>
      rw [hrows] at hnone
      cases rest with
      | nil => exact Nat.le_refl _
      | cons other rest =>
          exact absurd ((List.pairwise_cons.mp hnone).1 other List.mem_cons_self) id

theorem Sound.oneTime (hsound : Sound service) : OneTime service where
  once := hsound.reset.once
  superseded := by
    intro pre userId used post issue hlog hissued
    constructor
    · intro other hchanged
      obtain ⟨front, rest, rfl⟩ := List.append_of_mem hchanged
      refine (hsound.reset.honest (pre ++ .changed userId used :: front) other issue rest
        (by simp [hlog])).2 ?_
      exact ⟨pre, userId, used, front, rfl, hissued⟩
    · rintro row hrow rfl
      exact hsound.reset.alive row hrow ⟨pre, userId, used, post, hlog, hissued⟩
  one_verification userId := liveRows_length_le (hsound.unique false) hsound.email
  refusals := hsound.reset.refusals

theorem not_superseded_of_issued {issue : Nat} :
    ¬ Superseded (rows.map fun row => .issued row.userId row.issue) issue := by
  rintro ⟨pre, userId, used, post, hlog, -⟩
  have hmember : Event.changed userId used ∈
      rows.map fun row => Event.issued row.userId row.issue := by
    rw [hlog]
    simp
  obtain ⟨row, -, hrow⟩ := List.mem_map.mp hmember
  cases hrow

theorem Fresh.sound (hfresh : Fresh service) : Sound service where
  unique resets := by
    cases resets with
    | false => exact hfresh.email_unique
    | true => exact hfresh.reset_unique
  email := hfresh.one_verification
  reset := by
    rw [hfresh.log]
    refine ⟨?_, ?_, ?_, fun _ _ => not_superseded_of_issued, ?_, ?_, ?_⟩
    · intro pre userId issue post hlog
      have hmember : Event.changed userId issue ∈
          service.resetTokens.rows.map fun row => Event.issued row.userId row.issue := by
        rw [hlog]
        simp
      obtain ⟨row, -, hrow⟩ := List.mem_map.mp hmember
      cases hrow
    · intro issue
      have hzero : (service.resetTokens.rows.map fun row =>
          Event.issued row.userId row.issue).countP (changes issue) = 0 := by
        rw [List.countP_eq_zero]
        intro event hevent
        obtain ⟨row, -, rfl⟩ := List.mem_map.mp hevent
        exact Bool.noConfusion
      rw [hzero]
      exact Nat.zero_le _
    · exact fun row hrow => List.mem_map.mpr ⟨row, hrow, rfl⟩
    · intro userId issue hissued
      obtain ⟨row, hrow, hevent⟩ := List.mem_map.mp hissued
      obtain ⟨-, rfl⟩ := Event.issued.inj hevent
      exact hfresh.issues_lt row hrow
    · intro userId other issue hone hother
      obtain ⟨row, hrow, hevent⟩ := List.mem_map.mp hone
      obtain ⟨second, hsecond, hsecondEvent⟩ := List.mem_map.mp hother
      obtain ⟨rfl, rfl⟩ := Event.issued.inj hevent
      obtain ⟨rfl, hissue⟩ := Event.issued.inj hsecondEvent
      rw [List.inj_on_of_nodup_map hfresh.issues hsecond hrow hissue]
    · intro wrote hrefused
      obtain ⟨row, -, hrow⟩ := List.mem_map.mp hrefused
      cases hrow

theorem idle_placed (hsound : Sound service) : Placed service .idle where
  owned resets := by
    cases resets with
    | false => exact .empty (hsound.unique false)
    | true => exact .empty (hsound.unique true)
  email := by
    have hidle : OneLive service.now (service.emailTokens.sees {}) := by
      rw [Table.sees_nil]
      exact hsound.email
    exact hidle
  user _ huser := by cases huser
  replaced _ hrow := absurd hrow List.not_mem_nil
  knows := trivial

/-- In every run in which every deletion of a reset finds the row that was compared,
and no token is inserted beside a reset or another issue of its user, each token is
used once. -/
theorem oneTime_of_orderly {library : Library} {state : Interleaved Service Phase}
    (hreach : (accounts library).ReachableBy Orderly state) : OneTime state.shared := by
  have hsound : Sound state.shared := by
    refine (@Interleaved.interference_free_apart Service Phase Statement Fresh .idle _ Sound Placed
      (fun service => Separate service.now) _ (fun _ _ _ h => h.symm) ?_ ?_ _ hreach).1
    · intro service hfresh
      refine ⟨hfresh.sound, idle_placed hfresh.sound, ⟨?_, ?_⟩⟩
      · intro resets
        cases resets <;> exact List.disjoint_nil_left _
      · intro row hrow
        cases hrow
    · intro before call label outcome hsound hplaced hseparate horderly hmove
      have hfinds : FindsMatched before.shared (before.phase call) label := by
        rintro userId newPassword matched snapshot hphase rfl
        simpa only [Orderly, hphase] using horderly
      have hnone : FindsNone before.shared (before.phase call) label := by
        rintro draft own hphase rfl
        simp only [Orderly, hphase] at horderly
        exact horderly.1
      have hafter := step_sound hsound (hplaced call) hfinds hnone hmove
      refine ⟨hafter, ?_, ?_⟩
      · intro other hne
        refine step_other hsound (hplaced call) (hplaced other)
          (hseparate call other fun h => hne h.symm) hafter.1 ?_ ?_ hmove
        · rintro draft hphase rfl
          simp only [Orderly, hphase] at horderly
          exact horderly other hne
        · rintro draft own hphase rfl
          simp only [Orderly, hphase] at horderly
          exact horderly.2 other hne
      · intro one other _ _ hne
        have hbefore := hseparate one other hne
        refine ⟨hbefore.apart, ?_⟩
        intro row hrow fresh hfresh hlive hfreshLive
        have hnow := step_now hmove
        exact hbefore.pending row hrow fresh hfresh (Int.lt_of_le_of_lt hnow hlive)
          (Int.lt_of_le_of_lt hnow hfreshLive)
  exact hsound.oneTime

/-! ## Two resets with one token -/

/-- A hash is the salt and the password; an hour has its milliseconds. -/
def exampleLibrary : Library where
  hash salt text := salt ++ '$' :: text
  compare text hash := (hash.dropWhile (· ≠ '$')).drop 1 = text
  addHours hours time := time + hours * 3600000

def exampleUser : UserRow where
  id := "user_1".toList
  email := "ana@example.com".toList
  name := "Ana".toList
  passwordHash := some "salt$old".toList
  isActive := true
  emailVerified := true

/-- A user with one live reset token. -/
def oneToken : Interleaved Service Phase where
  shared :=
    { users := { rows := [exampleUser], held := [] }
      resetTokens :=
        { rows :=
            [{ id := "reset_1".toList, userId := "user_1".toList
               tokenHash := "salt$4f1c9a02b7de".toList, expiresAt := 3600000, issue := 0 }]
          held := [] }
      emailTokens := { rows := [], held := [] }
      now := 1000
      issues := 1
      log := [.issued "user_1".toList 0] }
  phase _ := .idle

theorem oneToken_init : (accounts exampleLibrary).init oneToken := by
  refine ⟨⟨List.pairwise_singleton _ _, List.Pairwise.nil, rfl, rfl, rfl, rfl, ?_, ?_, ?_⟩,
    fun _ => rfl⟩
  · exact List.nodup_singleton _
  · exact List.forall_mem_singleton.mpr Nat.one_pos
  · exact fun _ h => absurd h List.not_mem_nil

/-- The steps of a reset up to the deletion. -/
def compareToken (call : Nat) : List (Nat × Statement) :=
  [(call, .call (.resetPassword "ana@example.com".toList "4f1c9a02b7de".toList "new".toList)),
    (call, .selectUser), (call, .selectTokens 1000), (call, .compareTokens)]

def useToken (call : Nat) : List (Nat × Statement) :=
  [(call, .beginDelete), (call, .finishDelete), (call, .updateUser "salt".toList), (call, .commit)]

/-- Both resets compare the token before either deletes it. -/
def twoResets : List (Nat × Statement) :=
  compareToken 0 ++ compareToken 1 ++ useToken 0 ++ useToken 1

theorem token_used_twice :
    ∃ state, (accounts exampleLibrary).Reachable state ∧ ¬ OneTime state.shared := by
  have hrun : ((Interleaved.run (move exampleLibrary) oneToken twoResets).map
      fun state => state.shared.log.countP (changes 0)) = some 2 := by
    decide
  obtain ⟨state, hstate, htwo⟩ := Option.map_eq_some_iff.mp hrun
  refine ⟨state, Interleaved.reachable_run (.start oneToken_init) hstate, ?_⟩
  intro hone
  have honce := hone.once 0
  rw [htwo] at honce
  exact absurd honce (by decide)

/-- The condition on a step of the first call, while no other call has started. -/
def orderlyAlone (state : Interleaved Service Phase) (label : Nat × Statement) : Bool :=
  label.1 = 0 &&
    match state.phase 0, label.2 with
    | .waiting _ (.consume (.reset _) matched) _, .finishDelete =>
        state.shared.resetTokens.rows.contains matched
    | .insertingEmail draft own, .insertToken =>
        liveRows (state.shared.emailTokens.sees own) draft.user.id state.shared.now = []
    | _, _ => true

theorem orderly_of_alone (state : Interleaved Service Phase) (label : Nat × Statement)
    (hrest : ∀ call, 1 ≤ call → state.phase call = .idle)
    (halone : orderlyAlone state label = true) : label.1 < 1 ∧ Orderly state label := by
  obtain ⟨call, statement⟩ := label
  obtain ⟨hcall, hcondition⟩ := Bool.and_eq_true_iff.mp halone
  obtain rfl : call = 0 := by simpa using hcall
  have hothers : ∀ other, other ≠ 0 → state.phase other = .idle :=
    fun other hne => hrest other (Nat.one_le_iff_ne_zero.mpr hne)
  refine ⟨Nat.one_pos, ?_⟩
  unfold Orderly
  dsimp only at hcondition ⊢
  split
  · simpa [*] using hcondition
  · intro other hne
    rw [hothers other hne]
    rfl
  · refine ⟨by simpa [*] using hcondition, ?_⟩
    intro other hne
    rw [hothers other hne]
    rfl
  · trivial

/-- One reset, which changes the password. -/
theorem oneTime_oneReset :
    ∃ state, (accounts exampleLibrary).Reachable state ∧
      state.shared.log.countP (changes 0) = 1 ∧ OneTime state.shared := by
  have hrun : ((TransitionSystem.runBy orderlyAlone (Interleaved.stepOf (move exampleLibrary))
      oneToken (compareToken 0 ++ useToken 0)).map
        fun state => state.shared.log.countP (changes 0)) = some 1 := by
    decide
  obtain ⟨state, hstate, hone⟩ := Option.map_eq_some_iff.mp hrun
  have hreach := Interleaved.reachableBy_first 1 orderly_of_alone _ (.start oneToken_init)
    (fun _ _ => rfl) hstate
  exact ⟨state, hreach.reachable, hone, oneTime_of_orderly hreach⟩

end OpenPath.Api.OneTimeTokens
