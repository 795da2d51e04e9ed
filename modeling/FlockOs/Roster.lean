import FlockOs.Lib.Text
import FlockOs.ScopeAnchors

/-!
# Members and rosters

`rules.py` and the controllers of `Flock Member` and `Flock Group Member`: the names and options of
a person, the edges of a roster with the branch that they copy from their group, and the saves of
both beside the saves of groups.
-/

namespace FlockOs.Roster

open Lib ScopeAnchors Trees

/-- `MEMBER_STATUS_OPTIONS`. -/
def memberStatusOptions : List String := ["Member", "Pre-Member", "Visitor"]

/-- `GROUP_MEMBER_ROLE_OPTIONS`. -/
def groupMemberRoleOptions : List String := ["Leader", "Co-Leader", "Member", "Visitor"]

/-- `GROUP_MEMBER_STATUS_OPTIONS`. -/
def groupMemberStatusOptions : List String := ["Active", "Inactive"]

/-- `(text or "").strip()`. -/
def stripped (text : Option String) : String :=
  String.ofList (strip ((truthy text).getD "").toList)

/-- `compute_member_full_name`. -/
def computeMemberFullName (firstName lastName : Option String) : Except Error String :=
  let first := stripped firstName
  let last := stripped lastName
  if first = "" ∧ last = "" then
    .error (.value "Flock Member requires at least a first name or last name.")
  else .ok (" ".intercalate ([first, last].filter (· ≠ "")))

/-- The check of a field with options. -/
def validateOption (field value : String) (options : List String) : Except Error Unit :=
  let listed := ", ".intercalate (options.map quoted)
  if value ∈ options then .ok ()
  else .error (.value s!"{field} {quoted value} is not one of ({listed}).")

/-- `validate_member_status`. -/
def validateMemberStatus (status : String) : Except Error Unit :=
  validateOption "Flock Member.status" status memberStatusOptions

/-- `validate_group_member_role`. -/
def validateGroupMemberRole (role : String) : Except Error Unit :=
  validateOption "Flock Group Member.role" role groupMemberRoleOptions

/-- `validate_group_member_status`. -/
def validateGroupMemberStatus (status : String) : Except Error Unit :=
  validateOption "Flock Group Member.status" status groupMemberStatusOptions

/-- `denormalize_group_member_branch`. -/
def denormalizeGroupMemberBranch (groupBranch : String) : Except Error String :=
  if groupBranch = "" then .error (.value
    "Cannot denormalize Flock Group Member.branch: the linked group has no branch.")
  else .ok groupBranch

/-- `validate_group_member_branch_matches`. -/
def validateGroupMemberBranchMatches (memberBranch groupBranch : String) : Except Error Unit :=
  if memberBranch ≠ groupBranch then .error (.value
    s!"Flock Group Member.branch must equal its group's branch (member branch {quoted memberBranch} != group branch {quoted groupBranch}).")
  else .ok ()

/-- `is_duplicate_pair`. -/
def isDuplicatePair (key : String × String) (existing : List (String × String)) : Bool :=
  existing.contains key

/-- A row of `tabFlock Member`. -/
structure Member where
  /-- Primary key. -/
  name : String
  /-- First name. -/
  firstName : Option String := none
  /-- Last name. -/
  lastName : Option String := none
  /-- Full name. -/
  fullName : String := ""
  /-- Status. -/
  status : String := "Member"
  /-- Home branch. -/
  branch : String
  /-- Organization. -/
  organization : Option String := none
  /-- E-mail. -/
  email : Option String := none
deriving DecidableEq, Repr

/-- A row of `tabFlock Group Member`. -/
structure GroupMember where
  /-- Primary key. -/
  name : String
  /-- The group. -/
  group : String
  /-- The member. -/
  member : String
  /-- Copy of the group's branch. -/
  branch : Option String := none
  /-- Organization. -/
  organization : Option String := none
  /-- Role on the roster. -/
  role : String := "Member"
  /-- Whether the edge is in force. -/
  status : String := "Active"
deriving DecidableEq, Repr

/-- The groups of a site, its members and their rosters. -/
structure Roll where
  /-- Organizations, branches and groups. -/
  site : ScopeAnchors.Site
  /-- `tabFlock Member`. -/
  members : Table Member Member.name := .empty _
  /-- `tabFlock Group Member`. -/
  roster : Table GroupMember GroupMember.name := .empty _

variable (roll : Roll)

/-- The other members with the e-mail and the branch of a document. -/
def sameEmail (doc : Member) : List String :=
  (roll.members.rows.filter fun row =>
    row.email = doc.email && row.branch == doc.branch && row.name != doc.name).map Member.name

/-- `_validate_email_branch_uniqueness`. -/
def validateEmailBranchUniqueness (doc : Member) : Except Error Unit :=
  match truthy doc.email with
  | none => .ok ()
  | some email =>
    let pairs := List.replicate (sameEmail roll doc).length (email, doc.branch)
    if isDuplicatePair (email, doc.branch) pairs then .error (.validation
      s!"A Flock Member with email {quoted email} already exists in branch {quoted doc.branch}.")
    else .ok ()

/-- `FlockMember.validate`. -/
def validateMember (doc : Member) : Except Error Member := do
  let fullName ← computeMemberFullName doc.firstName doc.lastName
  let named := { doc with fullName }
  validateMemberStatus named.status
  let filled := { named with organization := tenantFloor roll.site named.organization named.branch }
  validateEmailBranchUniqueness roll filled
  pure filled

/-- Frappe's checks of a member around `validate`: its links, then its mandatory branch. -/
def checkMember (doc : Member) : Except Error Member := do
  validateLink "Branch" (roll.site.branches.rows.map Branch.name) (some doc.branch)
  validateLink "Organization" roll.site.organizations doc.organization
  let filled ← validateMember roll doc
  if filled.branch = "" then throw (.mandatory "branch") else pure filled

/-- `insert` of a member under the name that its series gives. -/
def insertMember (doc : Member) : Except Error Roll := do
  let filled ← checkMember roll doc
  if fresh : filled.name ∉ roll.members.rows.map Member.name then
    pure { roll with members := roll.members.add filled fresh }
  else throw .duplicateEntry

/-- `save` of a member that is stored. -/
def saveMember (doc : Member) : Except Error Roll :=
  match roll.members.find? doc.name with
  | none => .error (.doesNotExist doc.name)
  | some _ => do
    let filled ← checkMember roll doc
    pure { roll with members := roll.members.replace filled }

/-- `_denormalize_branch_and_org`. -/
def denormalizeBranchAndOrg (doc : GroupMember) : Except Error GroupMember :=
  match roll.site.groups.find? doc.group with
  | none => .error (.validation s!"Linked group {quoted doc.group} does not exist.")
  | some group => do
    let branch ← denormalizeGroupMemberBranch group.branch
    validateGroupMemberBranchMatches branch group.branch
    pure { doc with
      branch := some branch
      organization := (truthy group.organization).or doc.organization }

/-- The other edges between the group and the member of a document. -/
def samePlace (doc : GroupMember) : List String :=
  (roll.roster.rows.filter fun row =>
    row.group == doc.group && row.member == doc.member && row.name != doc.name).map
      GroupMember.name

/-- `_validate_group_member_uniqueness`. -/
def validateGroupMemberUniqueness (doc : GroupMember) : Except Error Unit :=
  let pairs := List.replicate (samePlace roll doc).length (doc.group, doc.member)
  if isDuplicatePair (doc.group, doc.member) pairs then .error (.validation
    s!"Member {quoted doc.member} is already a member of group {quoted doc.group}.")
  else .ok ()

/-- `FlockGroupMember.validate`. -/
def validateGroupMember (doc : GroupMember) : Except Error GroupMember := do
  validateGroupMemberRole doc.role
  validateGroupMemberStatus doc.status
  let filled ← denormalizeBranchAndOrg roll doc
  validateGroupMemberUniqueness roll filled
  pure filled

/-- Frappe's checks of an edge around `validate`: its links, then its mandatory links. -/
def checkGroupMember (doc : GroupMember) : Except Error GroupMember := do
  validateLink "Group" (roll.site.groups.rows.map Group.name) (some doc.group)
  validateLink "Member" (roll.members.rows.map Member.name) (some doc.member)
  validateLink "Branch" (roll.site.branches.rows.map Branch.name) doc.branch
  validateLink "Organization" roll.site.organizations doc.organization
  let filled ← validateGroupMember roll doc
  if filled.group = "" then throw (.mandatory "group")
  else if filled.member = "" then throw (.mandatory "member")
  else pure filled

/-- `insert` of an edge under the name that its series gives. -/
def insertGroupMember (doc : GroupMember) : Except Error Roll := do
  let filled ← checkGroupMember roll doc
  if fresh : filled.name ∉ roll.roster.rows.map GroupMember.name then
    pure { roll with roster := roll.roster.add filled fresh }
  else throw .duplicateEntry

/-- `save` of an edge that is stored. -/
def saveGroupMember (doc : GroupMember) : Except Error Roll :=
  match roll.roster.find? doc.name with
  | none => .error (.doesNotExist doc.name)
  | some _ => do
    let filled ← checkGroupMember roll doc
    pure { roll with roster := roll.roster.replace filled }

/-- The saves of groups and gatherings, of members, and of the edges of rosters. -/
inductive RollCall where
  /-- A save of a group or a gathering. -/
  | anchor (call : AnchorCall)
  /-- A new member. -/
  | insertMember (doc : Member)
  /-- An edit of the member with the name of the document. -/
  | saveMember (doc : Member)
  /-- A new edge. -/
  | insertGroupMember (doc : GroupMember)
  /-- An edit of the edge with the name of the document. -/
  | saveGroupMember (doc : GroupMember)
deriving DecidableEq, Repr

/-- The outcome of a save. -/
def Roll.perform : RollCall → Except Error Roll
  | .anchor call => (roll.site.perform call).map fun site => { roll with site }
  | .insertMember doc => Roster.insertMember roll doc
  | .saveMember doc => Roster.saveMember roll doc
  | .insertGroupMember doc => Roster.insertGroupMember roll doc
  | .saveGroupMember doc => Roster.saveGroupMember roll doc

/-- The roll after a save; one that raises is rolled back. -/
def Roll.step (call : RollCall) : Roll :=
  match roll.perform call with
  | .ok next => next
  | .error _ => roll

end FlockOs.Roster
