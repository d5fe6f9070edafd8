/-
# Tokens and approval rights

The part of a decoded token that decides who may approve requests: an
administrator may approve for every group, a teacher for the groups of the
role.
-/

import OpenPath.Text.Unicode

namespace OpenPath.Auth

inductive UserRole
  | admin
  | teacher
  | student
  deriving DecidableEq, Repr

structure RoleInfo where
  role : UserRole
  groupIds : List Text
  deriving DecidableEq, Repr

structure JWTPayload where
  sub : Text
  name : Text
  roles : List RoleInfo
  deriving DecidableEq, Repr

def isAdminToken (decoded : JWTPayload) : Bool :=
  decoded.roles.any fun role => role.role = .admin

def canApproveGroup (decoded : JWTPayload) (groupId : Text) : Bool :=
  isAdminToken decoded ||
    decoded.roles.any fun role => role.role = .teacher && role.groupIds.contains groupId

end OpenPath.Auth
