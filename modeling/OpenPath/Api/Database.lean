/-
# The database tables

The rows of the group, rule and request tables, and the errors with which the
database refuses a statement. A bounded text column is a structure that carries
its bound, so that no row with an oversized value, or with a NUL character, can
be built.
-/

import OpenPath.Shared.RulesValidation

namespace OpenPath.Api

open RulesValidation

/-- The ways in which the database refuses a statement. -/
inductive DbError
  | stringTooLong
  | invalidByteSequence
  | uniqueViolation
  | foreignKeyViolation
  deriving DecidableEq, Repr

/-- A stored text: the database has no NUL character. -/
structure DbText where
  text : Text
  no_nul : Char.ofNat 0 ∉ text
  deriving DecidableEq

/-- A value of a `varchar(n)` column. -/
structure VarChar (n : Nat) where
  text : Text
  length_le : text.length ≤ n
  no_nul : Char.ofNat 0 ∉ text
  deriving DecidableEq

def DbText.ofText (text : Text) : Except DbError DbText :=
  if hnul : Char.ofNat 0 ∈ text then .error .invalidByteSequence
  else .ok ⟨text, hnul⟩

/-- Storing a text in a `varchar(n)` column. A text that is too long is refused,
unless everything beyond the bound is blank, in which case it is cut. -/
def VarChar.ofText (n : Nat) (text : Text) : Except DbError (VarChar n) :=
  if hnul : Char.ofNat 0 ∈ text then .error .invalidByteSequence
  else if hlength : text.length ≤ n then .ok ⟨text, hlength, hnul⟩
  else if (text.drop n).all (· == ' ') then
    .ok ⟨text.take n, List.length_take_le n text, fun h => hnul (List.mem_of_mem_take h)⟩
  else .error .stringTooLong

/-- A text that does not end in a blank is stored as it is. -/
theorem VarChar.text_of_ofText {n : Nat} {text : Text} {value : VarChar n}
    (hlast : text.getLast? ≠ some ' ') (hvalue : VarChar.ofText n text = .ok value) :
    value.text = text := by
  unfold VarChar.ofText at hvalue
  split at hvalue
  · cases hvalue
  split at hvalue
  · cases hvalue
    rfl
  rename_i hlong
  split at hvalue
  · rename_i hblank
    exfalso
    have nonempty : text.drop n ≠ [] := by
      intro hnil
      rw [List.drop_eq_nil_iff] at hnil
      omega
    have hmember := List.getLast_mem nonempty
    have hspace : (text.drop n).getLast nonempty = ' ' := by
      simpa using List.all_eq_true.mp hblank _ hmember
    apply hlast
    calc
      text.getLast? = (text.take n ++ text.drop n).getLast? := by rw [List.take_append_drop]
      _ = (text.drop n).getLast? := List.getLast?_append_of_ne_nil _ nonempty
      _ = some ' ' := by rw [List.getLast?_eq_some_getLast nonempty, hspace]
  · cases hvalue

inductive GroupVisibility
  | priv
  | instancePublic
  deriving DecidableEq, Repr

/-- A row of `whitelist_groups`. -/
structure GroupRow where
  id : Text
  name : Text
  displayName : Text
  enabled : Bool
  visibility : GroupVisibility
  ownerUserId : Option Text
  updatedAt : Int
  deriving DecidableEq

/-- A row of `whitelist_rules`. -/
structure RuleRow where
  id : Text
  groupId : Text
  type : RuleType
  value : VarChar 500
  enabled : Bool
  comment : Option DbText
  createdAt : Int
  deriving DecidableEq

inductive RequestStatus
  | pending
  | approved
  | rejected
  deriving DecidableEq, Repr

/-- The columns of `requests` that the review commands read or write. -/
structure RequestRow where
  id : Text
  domain : VarChar 255
  groupId : Text
  status : RequestStatus
  resolvedBy : Option Text
  resolvedAt : Option Int
  resolutionNote : Text
  deriving DecidableEq

/-- The three tables. -/
structure Store where
  groups : List GroupRow
  rules : List RuleRow
  requests : List RequestRow

/-- What a call takes from outside the program: fresh identifiers, in the order
in which they are drawn, the clock, the order of the collation, and the text of
a driver error. -/
structure CallContext where
  uuid : Nat → Text
  now : Int
  localeLe : Text → Text → Bool
  driverMessage : DbError → String

end OpenPath.Api
