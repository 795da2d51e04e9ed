import FlockOs.Gatherings
import FlockOs.Trees

/-!
# Scope anchors

The branch and the organization of `Flock Group` and `Flock Gathering`: the `validate` hooks that
check and fill them, and the saves that run the hooks.
-/

namespace FlockOs.ScopeAnchors

open Lib Gatherings Trees

/-- A row of `tabFlock Group`. -/
structure Group where
  /-- Primary key. -/
  name : String
  /-- Name within the branch. -/
  groupName : String
  /-- Branch anchor. -/
  branch : String
  /-- Organization. -/
  organization : Option String := none
  /-- Parent in the tree. -/
  parentGroup : Option String := none
deriving DecidableEq, Repr

/-- A row of `tabFlock Gathering`. -/
structure Gathering where
  /-- Primary key. -/
  name : String
  /-- Branch anchor. -/
  branch : String
  /-- Group. -/
  group : String
  /-- Organization. -/
  organization : Option String := none
  /-- Reporting status. -/
  status : GatheringStatus := defaultStatus
  /-- Groups from the root to the group. -/
  groupPath : String := ""
deriving DecidableEq, Repr

/-- The tables. -/
structure Site where
  /-- Names of `tabFlock Organization`. -/
  organizations : List String
  /-- `tabFlock Branch`. -/
  branches : Table Branch Branch.name
  /-- `tabFlock Group`. -/
  groups : Table Group Group.name := .empty _
  /-- `tabFlock Gathering`. -/
  gatherings : Table Gathering Gathering.name := .empty _

variable (site : Site)

/-- `frappe.db.get_value("Flock Branch", branch, "organization")`. -/
def Site.branchOrganization (branch : String) : Option String :=
  (site.branches.find? branch).map Branch.organization

/-- `frappe.db.get_value("Flock Group", group, "branch")`. -/
def Site.groupBranch (group : String) : Option String :=
  (site.groups.find? group).map Group.branch

/-- `frappe.db.get_value("Flock Group", group, "parent_group")`. -/
def Site.parentGroup (group : String) : Option String :=
  (site.groups.find? group).bind Group.parentGroup

/-- Frappe's check of a link: one that is set names a row. -/
def validateLink (label : String) (names : List String) (link : Option String) :
    Except Error Unit :=
  match truthy link with
  | none => .ok ()
  | some name =>
    if name ∈ names then .ok () else .error (.validation s!"Could not find {label}: {name}")

/-- `frappe.throw` of what the domain module raised. -/
def thrown : Except Error Unit → Except Error Unit
  | .error (.value message) => .error (.validation message)
  | outcome => outcome

/-- The organization that is given, or else the one of the branch. -/
def tenantFloor (organization : Option String) (branch : String) : Option String :=
  if (truthy organization).isSome ∨ branch = "" then organization
  else (truthy (site.branchOrganization branch)).or organization

/-- `_branch_organization_default`. -/
def branchOrganizationDefault (doc : Group) : Group :=
  { doc with organization := tenantFloor site doc.organization doc.branch }

/-- `_validate_branch_binding`. -/
def validateBranchBinding (doc : Group) : Except Error Unit :=
  thrown (validateGroupBranchBinding ((truthy doc.parentGroup).bind site.groupBranch) doc.branch)

/-- `FlockGroup.validate`. -/
def validateGroup (doc : Group) : Except Error Group := do
  let filled := branchOrganizationDefault site doc
  validateBranchBinding site filled
  pure filled

/-- Frappe's checks of a group around `validate`: its links, then its mandatory fields. -/
def checkGroup (doc : Group) : Except Error Group := do
  validateLink "Branch" (site.branches.rows.map Branch.name) (some doc.branch)
  validateLink "Organization" site.organizations doc.organization
  validateLink "Parent Group" (site.groups.rows.map Group.name) doc.parentGroup
  let filled ← validateGroup site doc
  if filled.groupName = "" then throw (.mandatory "group_name")
  else if filled.branch = "" then throw (.mandatory "branch")
  else pure filled

/-- A new group, named `{branch}-{group_name}`. -/
def newGroup (groupName branch : String) (organization parentGroup : Option String) : Group where
  name := branch ++ "-" ++ groupName
  groupName := groupName
  branch := branch
  organization := organization
  parentGroup := parentGroup

/-- `insert` of a group. -/
def insertGroup (doc : Group) : Except Error Site := do
  let filled ← checkGroup site doc
  if fresh : filled.name ∉ site.groups.rows.map Group.name then
    pure { site with groups := site.groups.add filled fresh }
  else throw .duplicateEntry

/-- `save` of a group that is stored. -/
def saveGroup (doc : Group) : Except Error Site :=
  match site.groups.find? doc.name with
  | none => .error (.doesNotExist doc.name)
  | some _ => do
    let filled ← checkGroup site doc
    pure { site with groups := site.groups.replace filled }

/-- `_denormalize_tenant_floor`. -/
def denormalizeTenantFloor (doc : Gathering) : Gathering :=
  { doc with organization := tenantFloor site doc.organization doc.branch }

/-- `_validate_branch_group_binding`. -/
def validateBranchGroupBinding (doc : Gathering) : Except Error Unit :=
  thrown (validateGatheringBranchBinding
    ((truthy (some doc.group)).bind site.groupBranch) doc.branch)

/-- `_validate_status_transition`, from the status of the stored row. -/
def validateStatus (before : Option Gathering) (doc : Gathering) : Except Error Unit :=
  thrown (validateStatusTransition (before.map Gathering.status) doc.status)

/-- `_denormalize_group_path`. -/
def denormalizeGroupPath (doc : Gathering) : Gathering :=
  { doc with groupPath := buildGroupPath (groupPathToRoot site.parentGroup doc.group) }

/-- `FlockGathering.validate`. -/
def validateGathering (before : Option Gathering) (doc : Gathering) : Except Error Gathering := do
  let filled := denormalizeTenantFloor site doc
  validateBranchGroupBinding site filled
  validateStatus before filled
  pure (denormalizeGroupPath site filled)

/-- Frappe's check of the links of a gathering, then `validate`, which refuses a document without a
branch or a group. -/
def checkGathering (before : Option Gathering) (doc : Gathering) : Except Error Gathering := do
  validateLink "Organization" site.organizations doc.organization
  validateLink "Branch" (site.branches.rows.map Branch.name) (some doc.branch)
  validateLink "Group" (site.groups.rows.map Group.name) (some doc.group)
  validateGathering site before doc

/-- `insert` of a gathering under the name that its series gives. -/
def insertGathering (doc : Gathering) : Except Error Site := do
  let filled ← checkGathering site none doc
  if fresh : filled.name ∉ site.gatherings.rows.map Gathering.name then
    pure { site with gatherings := site.gatherings.add filled fresh }
  else throw .duplicateEntry

/-- `save` of a gathering that is stored. -/
def saveGathering (doc : Gathering) : Except Error Site :=
  match site.gatherings.find? doc.name with
  | none => .error (.doesNotExist doc.name)
  | some before => do
    let filled ← checkGathering site (some before) doc
    pure { site with gatherings := site.gatherings.replace filled }

/-- The saves of groups and gatherings. -/
inductive AnchorCall where
  /-- A new group. -/
  | insertGroup (groupName branch : String) (organization parentGroup : Option String)
  /-- An edit of the group with the name of the document. -/
  | saveGroup (doc : Group)
  /-- A new gathering. -/
  | insertGathering (doc : Gathering)
  /-- An edit of the gathering with the name of the document. -/
  | saveGathering (doc : Gathering)
deriving DecidableEq, Repr

/-- The outcome of a save. -/
def Site.perform : AnchorCall → Except Error Site
  | .insertGroup groupName branch organization parentGroup =>
    ScopeAnchors.insertGroup site (newGroup groupName branch organization parentGroup)
  | .saveGroup doc => ScopeAnchors.saveGroup site doc
  | .insertGathering doc => ScopeAnchors.insertGathering site doc
  | .saveGathering doc => ScopeAnchors.saveGathering site doc

/-- The site after a save; one that raises is rolled back. -/
def Site.step (call : AnchorCall) : Site :=
  match site.perform call with
  | .ok next => next
  | .error _ => site

end FlockOs.ScopeAnchors
