import FlockOs.Base

/-!
# Branch-axis permission guard

The part of `permissions.py` that the registration and engagement endpoints call: the role
catalog, the port to the permission tables, and the branch-scope guard.
-/

namespace FlockOs.Permissions

/-- `ROLE_ORG_ADMIN`. -/
def roleOrgAdmin : String := "Flock Org Admin"
/-- `ROLE_BRANCH_ADMIN`. -/
def roleBranchAdmin : String := "Flock Branch Admin"
/-- `ROLE_GROUP_LEADER`. -/
def roleGroupLeader : String := "Flock Group Leader"
/-- `ROLE_AUDITOR`. -/
def roleAuditor : String := "Flock Auditor"

/-- `GLOBAL_BRANCH_ROLES`: the roles that see every branch. -/
def globalBranchRoles : List String := [roleOrgAdmin, roleAuditor]

/-- The reads of `PermissionGateway` that the branch axis needs. -/
structure PermissionGateway where
  /-- Roles of a user. -/
  getUserRoles : String → List String
  /-- Branches of a user's materialized User Permissions. -/
  listBranchUserPermissions : String → List String

/-- A non-empty intersection of two role sets. -/
def anyRole (roles wanted : List String) : Bool := roles.any fun role => wanted.contains role

/-- `can_access_branch`: global roles see every branch, an unset branch is not scoped, any
other branch must be allowed. -/
def canAccessBranch (branch : Option String) (allowedBranches roles : List String) : Bool :=
  if anyRole roles globalBranchRoles then true
  else match truthy branch with
    | none => true
    | some branch => allowedBranches.contains branch

/-- `assert_branch_scope`: raise unless the user has branch scope. -/
def assertBranchScope (docBranch : Option String) (user : String) (gateway : PermissionGateway) :
    Except Error Unit :=
  if canAccessBranch docBranch (gateway.listBranchUserPermissions user)
      (gateway.getUserRoles user) then
    .ok ()
  else .error (.permission
    s!"User {quoted user} lacks branch scope for {quotedOption docBranch} (not in their allowed branches).")

end FlockOs.Permissions
