/-
# Accounts

The rows of the user and role tables, the queries that the session, recovery,
setup and role commands share, and the result type of the authentication calls.
-/

import OpenPath.Api.Auth
import OpenPath.Text.JavaScript

namespace OpenPath.Api.Accounts

open Auth

/-- A row of `users`. -/
structure UserRow where
  id : Text
  email : Text
  name : Text
  passwordHash : Option Text
  isActive : Bool
  emailVerified : Bool
  deriving DecidableEq

/-- A row of `roles`. -/
structure RoleRow where
  id : Text
  userId : Text
  role : Text
  groupIds : Option (List Text)
  createdBy : Option Text
  deriving DecidableEq

/-- `normalize.email` -/
def normalizeEmail (email : Text) : Text :=
  JavaScript.trim (JavaScript.toLowerCase email)

def getUserById (users : List UserRow) (id : Text) : Option UserRow :=
  users.find? (·.id = id)

def getUserByEmail (users : List UserRow) (email : Text) : Option UserRow :=
  users.find? (·.email = normalizeEmail email)

def getUserRoles (roles : List RoleRow) (userId : Text) : List RoleRow :=
  roles.filter (·.userId = userId)

/-- `getStoredRoleAliases('admin')` -/
def adminAliases : List Text := ["admin".toList, "openpath-admin".toList]

/-- `normalizeUserRoleString` of a string. -/
def normalizeUserRoleString (input : Text) : Option UserRole :=
  let role := JavaScript.toLowerCase (JavaScript.trim input)
  if role = "admin".toList ∨ role = "openpath-admin".toList then some .admin
  else if role = "teacher".toList then some .teacher
  else if role = "student".toList ∨ role = "user".toList ∨ role = "viewer".toList then
    some .student
  else none

def mapRoleInfo (roles : List RoleRow) : List RoleInfo :=
  roles.filterMap fun row =>
    (normalizeUserRoleString row.role).map fun role =>
      { role, groupIds := row.groupIds.getD [] }

inductive ErrorCode
  | conflict
  | unauthorized
  | forbidden
  | notFound
  | badRequest
  deriving DecidableEq

structure AuthServiceError where
  code : ErrorCode
  message : Text
  deriving DecidableEq

/-- `AuthResult`: the data of a call, or the error that it reports. -/
abbrev AuthResult (Data : Type) := Except AuthServiceError Data

end OpenPath.Api.Accounts
