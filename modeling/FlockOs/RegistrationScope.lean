import FlockOs.EventRegistration
import FlockOs.Trees

/-!
# The reads behind a registration scope

`FrappeRegistrationScopeGateway` over the tables: home branches, active rosters, the subtrees of
the two trees, and the invitations that a member may show.
-/

namespace FlockOs.RegistrationScope

open Lib Directory Trees Registrations

/-- The options of `status`. -/
inductive InvitationStatus where
  /-- `INVITATION_SENT`. -/
  | sent
  /-- `INVITATION_ACCEPTED`. -/
  | accepted
  /-- `INVITATION_DECLINED`. -/
  | declined
  /-- `INVITATION_EXPIRED`. -/
  | expired
deriving DecidableEq, Repr

/-- The option's text. -/
def InvitationStatus.text : InvitationStatus → String
  | sent => "Sent"
  | accepted => "Accepted"
  | declined => "Declined"
  | expired => "Expired"

/-- A row of `tabFlock Event Invitation`. -/
structure Invitation where
  /-- Primary key. -/
  name : String
  /-- Tenant. -/
  organization : Option String := none
  /-- Branch anchor. -/
  branch : String
  /-- Group anchor. -/
  group : Option String := none
  /-- The event. -/
  gathering : String
  /-- The invited member. -/
  invitee : Option String := none
  /-- The invited group. -/
  inviteeGroup : Option String := none
  /-- Denormalized name of the member. -/
  inviteeName : Option String := none
  /-- Token of the link. -/
  inviteToken : Option String := none
  /-- Status. -/
  status : InvitationStatus := .sent
  /-- When the invitation lapses. -/
  expiresOn : Option Int := none
  /-- 2 for a cancelled document. -/
  docstatus : Nat := 0
deriving DecidableEq, Repr

/-- `expires_on`, as the column returns it. -/
def Invitation.expiry (row : Invitation) : Option Moment := row.expiresOn.map .datetime

/-- The filter on `status`. -/
def Invitation.stands (row : Invitation) : Bool :=
  row.status = .sent || row.status = .accepted

/-- The tables that the gateway reads, each in the order in which the database returns its
rows. -/
structure ScopeTables where
  /-- Groups and their rosters. -/
  directory : Directory.Tables
  /-- `tabFlock Branch`. -/
  branches : Table Branch Branch.name := .empty _
  /-- `Flock Member.branch`. -/
  homeBranch : String → Option String := fun _ => none
  /-- `tabFlock Event Invitation`. -/
  invitations : Table Invitation Invitation.name := .empty _

/-- `_SCOPE_MEMBER_ROLES`. -/
def scopeMemberRoles : List String := ["Leader", "Co-Leader", "Member"]

/-- A roster row that puts its member in scope. -/
def onActiveRoster (row : GroupMember) : Bool :=
  scopeMemberRoles.contains row.role && decide (row.status = .active)

namespace ScopeTables

/-- `Flock Branch.organization`. -/
def branchOrganization (tables : ScopeTables) (branch : String) : Option String :=
  (tables.branches.find? branch).map Branch.organization

/-- `member_branch`. -/
def memberBranch (tables : ScopeTables) (member : String) : Option String :=
  if member = "" then none else tables.homeBranch member

/-- `member_groups`. -/
def memberGroups (tables : ScopeTables) (member : String) : List String :=
  if member = "" then []
  else firstPerKey id ((tables.directory.roster.filter fun row =>
    row.member = member && onActiveRoster row).map GroupMember.group)

/-- `group_subtree`. -/
def groupSubtree (tables : ScopeTables) (group : String) : Except Error (List String) :=
  if group = "" then .ok []
  else (Trees.groupSubtree tables.directory group).map (List.map Group.name)

/-- `branch_subtree`. -/
def branchSubtree (tables : ScopeTables) (branch : String) : Except Error (List String) :=
  if branch = "" then .ok []
  else (Trees.branchSubtree tables.branches branch).map (List.map Branch.name)

/-- The row that answers for a member who is invited in person. -/
def directInvitation (tables : ScopeTables) (gathering member : String) : Option Invitation :=
  tables.invitations.rows.find? fun row =>
    row.gathering = gathering && row.invitee = some member && row.stands && row.docstatus < 2

/-- The groups that are invited to a gathering. -/
def inviteeGroups (tables : ScopeTables) (gathering : String) : List String :=
  (tables.invitations.rows.filter fun row =>
    row.gathering = gathering && row.stands && row.docstatus < 2).filterMap fun row =>
      truthy row.inviteeGroup

/-- The row that answers for a group that is invited. -/
def groupInvitation (tables : ScopeTables) (gathering group : String) : Option Invitation :=
  tables.invitations.rows.find? fun row =>
    row.gathering = gathering && row.inviteeGroup = some group && row.stands

/-- The row that answers is there and has not lapsed. -/
def answers (now : Int) (row : Option Invitation) : Except Error Bool :=
  match row with
  | none => .ok false
  | some row => do
    let lapsed ← isInvitationExpired row.expiry (.text now)
    .ok !lapsed

/-- The loop over the invited groups. -/
def invitedByGroup (tables : ScopeTables) (now : Int) (gathering : String)
    (memberGroups : List String) : List String → Except Error Bool
  | [] => .ok false
  | group :: rest => do
    let invitedSubtree ← tables.groupSubtree group
    if memberGroups.any invitedSubtree.contains then do
      let lapsed ← isInvitationExpired
        ((tables.groupInvitation gathering group).bind Invitation.expiry) (.text now)
      if ¬ lapsed then .ok true
      else invitedByGroup tables now gathering memberGroups rest
    else invitedByGroup tables now gathering memberGroups rest

/-- `has_valid_invitation` for a member who is not invited in person. -/
def hasGroupInvitation (tables : ScopeTables) (now : Int) (gathering member : String) :
    Except Error Bool :=
  if (tables.inviteeGroups gathering).isEmpty then .ok false
  else if (tables.memberGroups member).isEmpty then .ok false
  else tables.invitedByGroup now gathering (tables.memberGroups member)
    (firstPerKey id (tables.inviteeGroups gathering))

/-- `has_valid_invitation` at a time. -/
def hasValidInvitation (tables : ScopeTables) (now : Int) (gathering member : String) :
    Except Error Bool :=
  if gathering = "" ∨ member = "" then .ok false
  else do
    let direct ← answers now (tables.directInvitation gathering member)
    if direct then pure true
    else tables.hasGroupInvitation now gathering member

end ScopeTables

/-- A site whose gateway reads from the tables. -/
def siteOver (site : EventRegistration.Site) (tables : ScopeTables) : EventRegistration.Site :=
  { site with
    branchOrganization := tables.branchOrganization
    memberBranch := tables.memberBranch
    memberGroups := tables.memberGroups
    groupSubtree := tables.groupSubtree
    branchSubtree := tables.branchSubtree
    hasValidInvitation := tables.hasValidInvitation site.now }

end FlockOs.RegistrationScope
