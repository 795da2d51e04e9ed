import FlockOs.Permissions

/-!
# Group-axis query hook and row guard

The group axis of `permissions.py`: the lists of scoped DocTypes, the scope of a user, the
`WHERE` fragment that the query hook appends for a list view, and the guard that the
endpoints call for one row. The fragment is kept as its alternatives; `Clause.sql` writes
the text that the source builds from them.
-/

namespace FlockOs.Permissions

/-- `BYPASS_ROLES`: the roles that the group axis does not narrow. -/
def bypassRoles : List String := [roleOrgAdmin, roleBranchAdmin, roleAuditor]

/-- `SCOPED_DOCTYPES`: the DocTypes that the query hook narrows. -/
def scopedDoctypes : List String :=
  ["Flock Group", "Flock Group Member", "Flock Gathering", "Flock Announcement",
    "Flock Event Approval", "Flock Engagement Session", "Flock Attendance Record",
    "Flock Event Registration", "Flock Event Invitation"]

/-- `MEMBER_ANCHORED_DOCTYPES`: the DocTypes about a person, with their member column. -/
def memberAnchoredDoctypes : List (String × String) :=
  [("Flock Group Member", "member"), ("Flock Event Registration", "registrant"),
    ("Flock Attendance Record", "member"), ("Flock Event Invitation", "invitee")]

/-- `BRANCH_DOCTYPE`. -/
def branchDoctype : String := "Flock Branch"

/-- `GROUP_DOCTYPE`. -/
def groupDoctype : String := "Flock Group"

/-- `LEADER_ROSTER_ROLES`: the roster roles that lead a group. -/
def leaderRosterRoles : List String := ["Leader", "Co-Leader"]

/-- `GroupBounds`: the nested-set bounds of a group. -/
structure GroupBounds where
  /-- The group. -/
  name : String
  /-- Left bound. -/
  lft : Int
  /-- Right bound. -/
  rgt : Int
deriving DecidableEq, Repr

/-- `LeaderScope`: what a user can see on the group axis. -/
structure LeaderScope where
  /-- Linked member. -/
  member : Option String
  /-- Bounds of the led groups. -/
  ledBounds : List GroupBounds := []
  /-- Groups that the user belongs to. -/
  joinedGroups : List String := []
deriving DecidableEq, Repr

/-- The reads of `PermissionGateway`, those of the group axis included. -/
structure GroupGateway extends PermissionGateway where
  /-- Member linked to a user. -/
  resolveMemberForUser : String → Option String
  /-- Bounds of the groups that a member leads. -/
  fetchLedGroupBounds : String → List GroupBounds
  /-- Groups on whose roster a member is. -/
  fetchJoinedGroupNames : String → List String
  /-- Bounds of one group. -/
  fetchGroupBounds : String → Option GroupBounds

/-- `is_bypass_user`. -/
def isBypassUser (roles : List String) : Bool := anyRole roles bypassRoles

/-- `resolve_leader_scope`. -/
def resolveLeaderScope (gateway : GroupGateway) (user : String) (roles : List String) :
    LeaderScope :=
  if isBypassUser roles then
    { member := gateway.resolveMemberForUser user }
  else match gateway.resolveMemberForUser user with
    | none => { member := none }
    | some member =>
      { member := some member
        ledBounds := gateway.fetchLedGroupBounds member
        joinedGroups := gateway.fetchJoinedGroupNames member }

/-- `not scope.member and not scope.led_bounds and not scope.joined_groups`. -/
def LeaderScope.unscoped (scope : LeaderScope) : Bool :=
  (truthy scope.member).isNone && scope.ledBounds.isEmpty && scope.joinedGroups.isEmpty

/-- An alternative of the fragment: a test on one column of the row. -/
inductive Clause where
  /-- `IS NULL`. -/
  | isNull (column : String)
  /-- `IN` the groups inside one of the given bounds. -/
  | inSubtree (column : String) (ledBounds : List GroupBounds)
  /-- `=` a value. -/
  | equals (column value : String)
  /-- `IN` a list of values. -/
  | inList (column : String) (values : List String)
deriving DecidableEq, Repr

/-- The clause on the member column, for a DocType that has one. -/
def memberClause (doctype : String) (scope : LeaderScope) : List Clause :=
  match truthy scope.member, memberAnchoredDoctypes.lookup doctype with
  | some member, some memberColumn => [.equals memberColumn member]
  | _, _ => []

/-- The clause on the groups that the user belongs to, when there are any. -/
def joinedClause (column : String) (scope : LeaderScope) : List Clause :=
  if scope.joinedGroups.isEmpty then [] else [.inList column scope.joinedGroups]

/-- `build_group_scope_sql`: the alternatives of the fragment, `none` for the empty one. -/
def buildGroupScopeSql (doctype : String) (scope : LeaderScope) : Option (List Clause) :=
  if scope.unscoped then none
  else if doctype = groupDoctype then
    some (.inSubtree "name" scope.ledBounds :: joinedClause "name" scope)
  else
    some (.isNull "group" :: .inSubtree "group" scope.ledBounds ::
      (memberClause doctype scope ++ joinedClause "group" scope))

/-- The `range_clause` of one led group. -/
def rangeClause (bounds : GroupBounds) : String :=
  s!"`tabFlock Group`.`lft` >= {bounds.lft} AND `tabFlock Group`.`rgt` <= {bounds.rgt}"

/-- `subtree_subselect`. -/
def subtreeSubselect (ledBounds : List GroupBounds) : String :=
  "SELECT name FROM `tabFlock Group` WHERE " ++
    if ledBounds.isEmpty then "0" else " OR ".intercalate (ledBounds.map rangeClause)

/-- `_in_list`. -/
def inListLiteral (escape : String → String) (values : List String) : String :=
  "(" ++ ", ".intercalate (values.map escape) ++ ")"

/-- The text of a clause on a DocType's table. -/
def Clause.sql (doctype : String) (escape : String → String) : Clause → String
  | .isNull column => s!"`tab{doctype}`.`{column}` IS NULL"
  | .inSubtree column ledBounds => s!"`tab{doctype}`.`{column}` IN ({subtreeSubselect ledBounds})"
  | .equals column value => s!"`tab{doctype}`.`{column}` = {escape value}"
  | .inList column values => s!"`tab{doctype}`.`{column}` IN {inListLiteral escape values}"

/-- The text of the fragment. -/
def fragmentSql (doctype : String) (escape : String → String) : Option (List Clause) → String
  | none => ""
  | some clauses => " AND (" ++ " OR ".intercalate (clauses.map (Clause.sql doctype escape)) ++ ")"

/-- `get_group_scoped_conditions`, for a session of `sessionUser`. -/
def getGroupScopedConditions (gateway : GroupGateway) (sessionUser : String)
    (user doctype : Option String) : Option (List Clause) :=
  match doctype with
  | none => none
  | some doctype =>
    if ¬ scopedDoctypes.contains doctype then none
    else if isBypassUser (gateway.getUserRoles ((truthy user).getD sessionUser)) then none
    else
      buildGroupScopeSql doctype (resolveLeaderScope gateway ((truthy user).getD sessionUser)
        (gateway.getUserRoles ((truthy user).getD sessionUser)))

/-- The row's member is the user's own member. -/
def LeaderScope.owns (scope : LeaderScope) (docMember : Option String) : Bool :=
  match truthy scope.member, truthy docMember with
  | some own, some member => member == own
  | _, _ => false

/-- The bounds of a group lie inside those of a led group. -/
def LeaderScope.leads (scope : LeaderScope) (docBounds : GroupBounds) : Bool :=
  scope.ledBounds.any fun led =>
    decide (led.lft ≤ docBounds.lft) && decide (docBounds.rgt ≤ led.rgt)

/-- The row's group is inside the led subtrees, or is a group the user belongs to. -/
def LeaderScope.covers (scope : LeaderScope) (gateway : GroupGateway) (docGroup : Option String) :
    Bool :=
  match truthy docGroup with
  | none => false
  | some group =>
    (match gateway.fetchGroupBounds group with
      | none => false
      | some docBounds => scope.leads docBounds) || scope.joinedGroups.contains group

/-- `assert_group_scope`: raise unless the user has group-axis scope over the row. -/
def assertGroupScope (docGroup docMember : Option String) (user : String)
    (gateway : GroupGateway) : Except Error Unit :=
  if isBypassUser (gateway.getUserRoles user) then .ok ()
  else if docGroup.isNone && docMember.isNone then .ok ()
  else if (resolveLeaderScope gateway user (gateway.getUserRoles user)).owns docMember then .ok ()
  else if (resolveLeaderScope gateway user (gateway.getUserRoles user)).covers gateway docGroup then
    .ok ()
  else .error (.permission
    s!"User {quoted user} lacks group-axis scope for group={quotedOption docGroup} member={quotedOption docMember}.")

end FlockOs.Permissions
