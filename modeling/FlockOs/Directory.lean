import FlockOs.GroupScope
import FlockOs.Lib.Firsts
import FlockOs.Lib.Table

/-!
# The directory tables

The tables that the permission layer and the approval chain read: groups with their tree
columns, rosters, members, roles and branch User Permissions. Over them stand
`FrappePermissionGateway` and what the database makes of the fragment of the query hook.
-/

namespace FlockOs.Directory

open Lib Permissions

/-- A row of `tabFlock Group`. -/
structure Group where
  /-- Primary key. -/
  name : String
  /-- Branch anchor. -/
  branch : Option String := none
  /-- Parent in the tree. -/
  parentGroup : Option String := none
  /-- Accountable leader. -/
  leader : Option String := none
  /-- Left bound of the nested set. -/
  lft : Int
  /-- Right bound of the nested set. -/
  rgt : Int
  /-- The primary key is set. -/
  named : name ≠ ""
deriving DecidableEq, Repr

/-- Whether a roster edge is in force. -/
inductive GroupMemberStatus where
  /-- `Active`. -/
  | active
  /-- `Inactive`. -/
  | inactive
deriving DecidableEq, Repr

/-- A row of `tabFlock Group Member`; its links are mandatory. -/
structure GroupMember where
  /-- The group. -/
  group : String
  /-- The member. -/
  member : String
  /-- Copy of the group's branch. -/
  branch : Option String := none
  /-- Role on the roster. -/
  role : String := "Member"
  /-- Whether the edge is in force. -/
  status : GroupMemberStatus := .active
  /-- The group is set. -/
  grouped : group ≠ ""
  /-- The member is set. -/
  anchored : member ≠ ""
deriving DecidableEq, Repr

/-- A row of `tabFlock Member`. -/
structure Member where
  /-- Primary key. -/
  name : String
  /-- User of the member. -/
  linkedUser : Option String := none
  /-- The primary key is set. -/
  named : name ≠ ""
deriving DecidableEq, Repr

/-- The tables, each in the order in which the database returns its rows. -/
structure Tables where
  /-- `tabFlock Group`. -/
  groups : Table Group Group.name := .empty _
  /-- `tabFlock Group Member`. -/
  roster : List GroupMember := []
  /-- `tabFlock Member`. -/
  members : Table Member Member.name := .empty _
  /-- `tabHas Role` of the users, as user and role. -/
  hasRole : List (String × String) := []
  /-- `tabUser Permission` on `Flock Branch`, as user and value. -/
  branchPermissions : List (String × String) := []
  /-- `frappe.get_roles`. -/
  getRoles : String → List String

/-- `resolve_member_for_user`. -/
def Tables.resolveMemberForUser (tables : Tables) (user : String) : Option String :=
  if user = "" then none
  else (tables.members.rows.find? fun member => member.linkedUser = some user).map Member.name

/-- `fetch_group_bounds`. -/
def Tables.fetchGroupBounds (tables : Tables) (name : String) : Option GroupBounds :=
  if name = "" then none
  else (tables.groups.find? name).map fun group => ⟨name, group.lft, group.rgt⟩

/-- The groups whose accountable leader is the member. -/
def Tables.leaderRows (tables : Tables) (member : String) : List String :=
  (tables.groups.rows.filter fun group => group.leader = some member).map Group.name

/-- The groups on whose roster the member has one of the leading roles. -/
def Tables.rosterRows (tables : Tables) (member : String) : List String :=
  (tables.roster.filter fun row =>
    row.member = member && leaderRosterRoles.contains row.role).map GroupMember.group

/-- `fetch_led_group_bounds`. -/
def Tables.fetchLedGroupBounds (tables : Tables) (member : String) : List GroupBounds :=
  if member = "" then []
  else (firstPerKey id (tables.leaderRows member ++ tables.rosterRows member)).filterMap
    tables.fetchGroupBounds

/-- `fetch_joined_group_names`. -/
def Tables.fetchJoinedGroupNames (tables : Tables) (member : String) : List String :=
  if member = "" then []
  else firstPerKey id ((tables.roster.filter fun row => row.member = member).map GroupMember.group)

/-- `list_branch_user_permissions`. -/
def Tables.listBranchUserPermissions (tables : Tables) (user : String) : List String :=
  if user = "" then []
  else (tables.branchPermissions.filter fun row => row.1 = user).map Prod.snd

/-- `FrappePermissionGateway`. -/
def frappePermissionGateway (tables : Tables) : GroupGateway where
  getUserRoles := tables.getRoles
  listBranchUserPermissions := tables.listBranchUserPermissions
  resolveMemberForUser := tables.resolveMemberForUser
  fetchLedGroupBounds := tables.fetchLedGroupBounds
  fetchJoinedGroupNames := tables.fetchJoinedGroupNames
  fetchGroupBounds := tables.fetchGroupBounds

/-- A row of a scoped DocType: its primary key and its other columns, `none` for NULL. -/
structure Row where
  /-- Primary key. -/
  name : String
  /-- The other columns. -/
  column : String → Option String

/-- The value of a column. -/
def Row.value (row : Row) (column : String) : Option String :=
  if column = "name" then some row.name else row.column column

/-- A clause holds of a row. A comparison with NULL is not true. -/
def Tables.satisfies (tables : Tables) (row : Row) : Clause → Bool
  | .isNull column => (row.value column).isNone
  | .inSubtree column ledBounds =>
    match row.value column with
    | none => false
    | some value => tables.groups.rows.any fun group =>
        decide (group.name = value) && ledBounds.any fun led =>
          decide (led.lft ≤ group.lft) && decide (group.rgt ≤ led.rgt)
  | .equals column value => decide (row.value column = some value)
  | .inList column values =>
    match row.value column with
    | none => false
    | some value => values.contains value

/-- The `WHERE` fragment holds of a row; the empty fragment holds of every row. -/
def Tables.selects (tables : Tables) (fragment : Option (List Clause)) (row : Row) : Bool :=
  match fragment with
  | none => true
  | some clauses => clauses.any (tables.satisfies row)

/-- The group that a row hands to the guard: its own name for `Flock Group`. -/
def Row.docGroup (row : Row) (doctype : String) : Option String :=
  if doctype = groupDoctype then row.value "name" else row.value "group"

/-- The member that a row hands to the guard: its anchored column, if the DocType has one. -/
def Row.docMember (row : Row) (doctype : String) : Option String :=
  match memberAnchoredDoctypes.lookup doctype with
  | none => none
  | some memberColumn => row.value memberColumn

end FlockOs.Directory
