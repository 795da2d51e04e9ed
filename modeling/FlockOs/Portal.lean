import FlockOs.Scheduling

/-!
# The compose page

`portal.py` with the page `/announce`: what the picker of an announcement offers to an admin, the
guard on a picked target, and what the form of the page can send to the calls of `scheduling.py`.
-/

namespace FlockOs.Portal

open Lib Directory Notifications Permissions Scheduling Trees

/-- `CATEGORY_OPTIONS`. -/
def categoryOptions : List String :=
  ["General", "Urgent", "Event", "Pastoral", "Administrative", "Other"]

/-- `PRIORITY_OPTIONS`. -/
def priorityOptions : List String := ["Low", "Normal", "High", "Critical"]

/-- `AUDIENCE_ROLE_OPTIONS`. -/
def audienceRoleOptions : List String :=
  ["Everyone", "Leaders Only", "Admins Only", "Members Only"]

/-- `CHANNEL_OPTIONS`. -/
def channelOptions : List String := ["In-App", "Push", "Email", "SMS"]

/-- `ADMIN_COMPOSE_ROLES`. -/
def adminComposeRoles : List String := [roleOrgAdmin, roleBranchAdmin, roleGroupLeader]

/-- The calls that the page makes, by their keys. -/
def endpoints : List (String × String) :=
  [("preview_audience", "flock_os.scheduling.preview_audience"),
    ("publish_announcement", "flock_os.scheduling.publish_announcement"),
    ("schedule_announcement", "flock_os.scheduling.schedule_announcement"),
    ("insert", "frappe.client.insert")]

/-- A row of the group picker. -/
structure GroupRow where
  /-- `name`. -/
  name : String
  /-- `branch`. -/
  branch : String
  /-- `label`. -/
  label : Option String := none
deriving DecidableEq, Repr

/-- `ComposeGateway`. -/
structure ComposeGateway where
  /-- Roles of a user. -/
  getUserRoles : String → List String
  /-- Organization of a user. -/
  getUserOrganization : String → Option String
  /-- Branches that a user may address. -/
  targetableBranches : String → List String
  /-- `Flock Branch.organization`. -/
  branchOrganization : String → Option String
  /-- Label of a branch. -/
  branchLabel : String → Option String
  /-- Groups of some branches. -/
  groupsForBranches : List String → List GroupRow

/-- The tables that the page reads. -/
structure Site where
  /-- The directory. -/
  tables : Tables
  /-- `tabFlock Branch`. -/
  branches : Table Branch Branch.name
  /-- `Flock Member.organization`, by member. -/
  memberOrganization : String → Option String
  /-- `tabFlock Organization`, in the order of the database. -/
  organizations : List String
  /-- `Flock Branch.branch_name`. -/
  branchName : String → Option String
  /-- `Flock Group.group_name`. -/
  groupName : String → Option String

/-- `get_user_organization`: of the linked member, or else the first one there is. -/
def Site.getUserOrganization (site : Site) (user : String) : Option String :=
  if user = "" then none
  else
    let member := site.tables.members.rows.find? fun member => member.linkedUser = some user
    (truthy (member.bind fun row => site.memberOrganization row.name)).or site.organizations.head?

/-- `targetable_branches`. -/
def Site.targetableBranches (site : Site) (user : String) : List String :=
  if user = "" then []
  else if anyRole (site.tables.getRoles user) globalBranchRoles then
    match truthy (site.getUserOrganization user) with
    | none => []
    | some organization =>
      ((site.branches.rows.filter fun row => row.organization == organization).map
        Branch.name).mergeSort fun left right => decide (left ≤ right)
  else site.tables.listBranchUserPermissions user

/-- A row of `groups_for_branches`. -/
def Site.groupRow (site : Site) (branches : List String) (group : Group) : Option GroupRow :=
  match group.branch.filter branches.contains with
  | none => none
  | some branch => some
      { name := group.name, branch, label := (truthy (site.groupName group.name)).or group.name }

/-- `groups_for_branches`, by branch and group name. -/
def Site.groupsForBranches (site : Site) (branches : List String) : List GroupRow :=
  (site.tables.groups.rows.filterMap (site.groupRow branches)).mergeSort fun left right =>
    decide (left.branch < right.branch ∨
      left.branch = right.branch ∧ left.label.getD "" ≤ right.label.getD "")

/-- `FrappeComposeGateway`. -/
def frappeComposeGateway (site : Site) : ComposeGateway where
  getUserRoles user := if user = "" then [] else site.tables.getRoles user
  getUserOrganization := site.getUserOrganization
  targetableBranches := site.targetableBranches
  branchOrganization branch := if branch = "" then none
    else (site.branches.find? branch).map Branch.organization
  branchLabel branch := if branch = "" then none
    else (truthy (site.branchName branch)).or branch
  groupsForBranches := site.groupsForBranches

/-- A row of the branch picker. -/
structure BranchRow where
  /-- `name`. -/
  name : String
  /-- `label`. -/
  label : String
  /-- `organization`. -/
  organization : Option String
deriving DecidableEq, Repr

/-- What the page renders. -/
structure ComposeContext where
  /-- `user`. -/
  user : String
  /-- `roles`. -/
  roles : List String
  /-- `organization`. -/
  organization : Option String
  /-- `branches`. -/
  branches : List BranchRow
  /-- `groups`. -/
  groups : List GroupRow
  /-- `categories`. -/
  categories : List String := categoryOptions
  /-- `priorities`. -/
  priorities : List String := priorityOptions
  /-- `audience_roles`. -/
  audienceRoles : List String := audienceRoleOptions
  /-- `channels`. -/
  channels : List String := channelOptions
  /-- `endpoints`. -/
  endpoints : List (String × String) := Portal.endpoints
  /-- `is_admin`. -/
  isAdmin : Bool := true
deriving DecidableEq, Repr

/-- `is_compose_admin`. -/
def isComposeAdmin (roles : List String) : Bool := anyRole roles adminComposeRoles

/-- A row of the branch picker for a branch. -/
def branchRow (gateway : ComposeGateway) (branch : String) : BranchRow where
  name := branch
  label := (truthy (gateway.branchLabel branch)).getD branch
  organization := gateway.branchOrganization branch

/-- A row of the group picker, with its label. -/
def labelled (row : GroupRow) : GroupRow :=
  { row with label := (truthy row.label).or row.name }

/-- `build_compose_context`. -/
def buildComposeContext (user : String) (gateway : ComposeGateway) :
    Except Error ComposeContext :=
  let roles := gateway.getUserRoles user
  if ¬ isComposeAdmin roles then .error (.value
    s!"User {quoted user} lacks an announcement-compose role (needs one of ['Flock Branch Admin', 'Flock Group Leader', 'Flock Org Admin']).")
  else
    let branches := gateway.targetableBranches user
    .ok
      { user := user
        roles := roles
        organization := gateway.getUserOrganization user
        branches := branches.map (branchRow gateway)
        groups := ((gateway.groupsForBranches branches).filter fun row =>
          branches.contains row.branch).map labelled }

/-- `assert_target_in_context`. -/
def assertTargetInContext (branch group : Option String) (context : ComposeContext) :
    Except Error Unit :=
  match truthy branch with
  | none => .error (.value "A target branch is required.")
  | some branch =>
    if ¬ (context.branches.map BranchRow.name).contains branch then .error (.value
      s!"Branch {quoted branch} is outside your targetable scope (no cross-subtree leakage).")
    else match truthy group with
      | none => .ok ()
      | some group =>
        if ¬ (context.groups.map GroupRow.name).contains group then .error (.value
          s!"Group {quoted group} is outside your targetable scope (no cross-subtree leakage).")
        else .ok ()

/-- The groups that `filterGroups` leaves to be picked beside a branch. -/
def ComposeContext.groupsOf (context : ComposeContext) (branch : String) : List String :=
  (context.groups.filter fun row => row.branch == branch).map GroupRow.name

/-- The targets that the form sends: a branch, and no group or one beside it. Nothing is sent while
no branch is chosen. -/
def ComposeContext.picks (context : ComposeContext) : List (String × Option String) :=
  (context.branches.filter fun row => row.name != "").flatMap fun row =>
    (row.name, none) :: (context.groupsOf row.name).map fun group => (row.name, some group)

/-- `buildDoc`: the document that the form sends, with what is written in it besides the target. -/
def buildDoc (organization branch : String) (group : Option String) (content : Announcement) :
    Announcement :=
  { content with
    organization := some organization
    branch := some branch
    group := group
    status := some .draft }

/-- `_frappe_author_branch_scope` for a user. -/
def frappeAuthorBranchScope (tables : Tables) (user branch : String) : Except Error Unit :=
  if user = "" then .ok ()
  else assertBranchScope (some branch) user (frappePermissionGateway tables).toPermissionGateway

/-- What the calls of `scheduling.py` read for a user of the site, and what the framework checks of a
document that the user saves. -/
def Site.scheduling (site : Site) (user : String)
    (frameworkChecks : Announcement → Except Error Unit) (now : Int)
    (datetimeText : Int → String) : Scheduling.Site where
  gateway := frappeSchedulingGateway site.tables site.branches
  authorScopeGuard := frappeAuthorBranchScope site.tables user
  now := now
  datetimeText := datetimeText
  branchOrganization branch := (site.branches.find? branch).map Branch.organization
  frameworkChecks := frameworkChecks

/-- The functions that a request can run: those of `scheduling.py` under `@_whitelist()`, and the
framework's own. -/
def whitelisted : List String :=
  ["flock_os.scheduling.preview_audience", "flock_os.scheduling.publish_announcement",
    "frappe.client.insert"]

/-- `frappe.call` of an endpoint: the framework refuses a function that is not whitelisted. -/
def request {m : Type → Type} {α : Type} [MonadExceptOf Error m] (key : String) (call : m α) :
    m α :=
  if (endpoints.lookup key).any whitelisted.contains then call
  else throwThe Error (.permission "Function is not whitelisted.")

/-- The announcement that the page has inserted, and what the calls have left in the outbox. -/
structure Draft where
  /-- The stored announcement. -/
  stored : Option Announcement := none
  /-- Emissions and events. -/
  outbox : Outbox := {}
deriving DecidableEq, Repr

/-- `frappe.client.insert`, with the controller's `validate`. -/
def insert (calls : Scheduling.Site) (doc : Announcement) : Exec Error Draft Announcement := do
  let doc := branchOrganizationDefault calls doc
  Exec.ofExcept (validateAnnouncementScope doc calls.gateway)
  Exec.ofExcept (calls.frameworkChecks doc)
  modify fun draft => { draft with stored := some doc }
  pure doc

/-- A call by the name of the inserted announcement. -/
def onStored {α : Type} (doc : Announcement) (call : Exec Error Board α) : Exec Error Draft α :=
  fun draft =>
    match call ⟨doc, draft.outbox⟩ with
    | .ok value board => .ok value ⟨some board.announcement, board.outbox⟩
    | .error raised board => .error raised ⟨some board.announcement, board.outbox⟩

/-- `valid`, of texts without the blanks around them. -/
def valid (branch : String) (content : Announcement) : Bool :=
  content.subject ≠ "" && content.body ≠ "" && branch ≠ ""

section Buttons

variable (calls : Scheduling.Site) (organization branch : String) (group : Option String)
  (content : Announcement)

/-- `previewAudience`. -/
def preview : Except Error Preview :=
  request "preview_audience" (previewAudience calls organization branch group)

/-- `sendNow`; nothing is sent of a form that is not valid. -/
def sendNow : Exec Error Draft (Option PublishSummary) :=
  if valid branch content then do
    let doc ← request "insert" (insert calls (buildDoc organization branch group content))
    let summary ← request "publish_announcement" (onStored doc (publishAnnouncement calls))
    pure (some summary)
  else pure none

/-- `schedule`; nothing is sent of a form that is not valid or has no due time. -/
def schedule : Exec Error Draft (Option ScheduleSummary) :=
  if valid branch content && content.scheduledAt.isSome then do
    let doc ← request "insert" (insert calls (buildDoc organization branch group content))
    let summary ← request "schedule_announcement" (onStored doc (scheduleAnnouncement calls))
    pure (some summary)
  else pure none

end Buttons

end FlockOs.Portal
