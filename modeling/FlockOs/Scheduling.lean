import FlockOs.NotificationFanout

/-!
# Announcements

`scheduling.py`: the lifecycle of an announcement, the contract of its scope, the branches that a
preview shows, and the calls that schedule and publish. Around them stands what the controller of
`Flock Announcement` does when a document is saved.
-/

namespace FlockOs.Scheduling

open Lib Directory Notifications Trees

/-- `ANNOUNCEMENT_STATUSES`. -/
inductive AnnouncementStatus where
  /-- `STATUS_DRAFT`. -/
  | draft
  /-- `STATUS_SCHEDULED`. -/
  | scheduled
  /-- `STATUS_PUBLISHING`. -/
  | publishing
  /-- `STATUS_PUBLISHED`. -/
  | published
  /-- `STATUS_ARCHIVED`. -/
  | archived
deriving DecidableEq, Repr

/-- The text of a status. -/
def AnnouncementStatus.text : AnnouncementStatus → String
  | draft => "Draft"
  | scheduled => "Scheduled"
  | publishing => "Publishing"
  | published => "Published"
  | archived => "Archived"

/-- `ANNOUNCEMENT_TRANSITIONS`. -/
def announcementTransitions : AnnouncementStatus → List AnnouncementStatus
  | .draft => [.scheduled, .publishing, .published]
  | .scheduled => [.publishing, .published]
  | .publishing => [.published]
  | .published => [.archived]
  | .archived => []

/-- `validate_status_transition`. -/
def validateStatusTransition (current target : AnnouncementStatus) : Except Error Unit :=
  if target ∈ announcementTransitions current then .ok ()
  else .error (.value
    s!"Illegal announcement transition {quoted current.text} -> {quoted target.text}.")

/-- `Flock Announcement`. -/
structure Announcement where
  /-- Primary key. -/
  name : String
  /-- Subject. -/
  subject : String
  /-- Body. -/
  body : String := ""
  /-- Category. -/
  category : Option String := none
  /-- Tenant. -/
  organization : Option String := none
  /-- Branch anchor. -/
  branch : Option String := none
  /-- Group anchor. -/
  group : Option String := none
  /-- Audience role. -/
  audienceRole : Option String := none
  /-- Channels of the rows of the child table. -/
  channels : List (Option String) := []
  /-- Status. -/
  status : Option AnnouncementStatus := some .draft
  /-- When it is due. -/
  scheduledAt : Option Int := none
  /-- When it was published. -/
  publishedAt : Option Int := none
  /-- Back-link of the dispatch. -/
  notification : Option String := none
deriving DecidableEq, Repr

/-- `doc.status or STATUS_DRAFT`. -/
def Announcement.current (doc : Announcement) : AnnouncementStatus := doc.status.getD .draft

/-- `SchedulingGateway`. -/
structure SchedulingGateway where
  /-- Whether a branch exists in an organization. -/
  branchExists : String → String → Bool
  /-- Whether a group exists. -/
  groupExists : String → Bool
  /-- `Flock Group.branch`. -/
  groupBranch : String → Option String
  /-- Children of the branches. -/
  branchChildrenOf : ChildMap

/-- `FrappeSchedulingGateway`. -/
def frappeSchedulingGateway (tables : Tables) (branches : Table Branch Branch.name) :
    SchedulingGateway where
  branchExists := branchExists branches
  groupExists group := (tables.groups.find? group).isSome
  groupBranch group := (tables.groups.find? group).bind Group.branch
  branchChildrenOf := childMap branchTree branches.rows

/-- `validate_announcement_scope` of the group anchor, when there is one. -/
def validateAnnouncementGroup (group : Option String) (branch : String)
    (gateway : SchedulingGateway) : Except Error Unit :=
  match truthy group with
  | none => .ok ()
  | some group =>
    if ¬ gateway.groupExists group then .error (.value s!"Group {quoted group} does not exist.")
    else match truthy (gateway.groupBranch group) with
      | none => .error (.value s!"Group {quoted group} has no branch binding (ADR §4).")
      | some groupBranch =>
        if groupBranch ≠ branch then .error (.value
          s!"Group {quoted group} belongs to branch {quoted groupBranch}, not the announcement's branch {quoted branch} (group-branch-binding, ADR §4).")
        else .ok ()

/-- `validate_announcement_scope`. A status is always one of the lifecycle. -/
def validateAnnouncementScope (doc : Announcement) (gateway : SchedulingGateway) :
    Except Error Unit :=
  match truthy doc.organization with
  | none => .error (.value "Announcement organization is required (tenant floor).")
  | some organization =>
    match truthy doc.branch with
    | none => .error (.value "Announcement branch is required (audience scope anchor).")
    | some branch =>
      if ¬ gateway.branchExists branch organization then .error (.value
        s!"Branch {quoted branch} is not a member of organization {quoted organization}.")
      else do
        validateAnnouncementGroup doc.group branch gateway
        if doc.current = .scheduled ∧ doc.scheduledAt = none then
          .error (.value "A Scheduled announcement requires a scheduled_at datetime.")
        else .ok ()

/-- `resolve_audience_branches`. -/
def resolveAudienceBranches (branch : String) (gateway : SchedulingGateway) :
    Except Error (List String) :=
  if branch = "" then
    .error (.value "branch is required to resolve the audience subtree.")
  else computeBranchSubtree gateway.branchChildrenOf branch

/-- What a call reads besides the announcement. -/
structure Site where
  /-- `get_gateway`. -/
  gateway : SchedulingGateway
  /-- `_author_scope_guard`. -/
  authorScopeGuard : String → Except Error Unit
  /-- `frappe.utils.now`. -/
  now : Int
  /-- `str` of a datetime. -/
  datetimeText : Int → String
  /-- `Flock Branch.organization`. -/
  branchOrganization : String → Option String := fun _ => none
  /-- What the framework itself checks of a document that is saved. -/
  frameworkChecks : Announcement → Except Error Unit := fun _ => .ok ()

/-- The stored announcement, and what the calls have left in the outbox. -/
structure Board where
  /-- The announcement. -/
  announcement : Announcement
  /-- Emissions and events. -/
  outbox : Outbox := {}
deriving DecidableEq, Repr

/-- The answer of `preview_audience`; its `branch_count` is the length. -/
structure Preview where
  /-- `branches`. -/
  branches : List String
deriving DecidableEq, Repr

/-- `preview_audience`. -/
def previewAudience (site : Site) (organization branch : String) (group : Option String) :
    Except Error Preview := do
  let announcement : Announcement :=
    { name := "", subject := "", organization := some organization, branch := some branch,
      group := group }
  validateAnnouncementScope announcement site.gateway
  site.authorScopeGuard branch
  let branches ← resolveAudienceBranches branch site.gateway
  pure ⟨branches⟩

/-- `_branch_organization_default`. -/
def branchOrganizationDefault (site : Site) (doc : Announcement) : Announcement :=
  match truthy doc.organization, truthy doc.branch with
  | none, some branch =>
    match truthy (site.branchOrganization branch) with
    | some organization => { doc with organization := some organization }
    | none => doc
  | _, _ => doc

/-- A computation on the outbox of a board. -/
def onOutbox {α : Type} (computation : Exec Error Outbox α) : Exec Error Board α := fun board =>
  match computation board.outbox with
  | .ok value outbox => .ok value { board with outbox := outbox }
  | .error raised outbox => .error raised { board with outbox := outbox }

/-- `doc.save(ignore_permissions=True)`, with the controller's `validate`. -/
def save (site : Site) (doc : Announcement) : Exec Error Board Announcement := do
  let doc := branchOrganizationDefault site doc
  Exec.ofExcept (validateAnnouncementScope doc site.gateway)
  Exec.ofExcept (site.frameworkChecks doc)
  modify fun board => { board with announcement := doc }
  pure doc

/-- The anchors of an event of an announcement. -/
def anchorsOf (doc : Announcement) : List (String × Value) :=
  [("organization", .ofOption doc.organization), ("branch", .ofOption doc.branch),
    ("group", .ofOption doc.group)]

/-- The event of a published announcement. -/
def publishedEvent (doc : Announcement) (audienceBranches channels : List String) :
    DomainEvent where
  name := Events.announcementPublished
  payload := [("announcement", .str doc.name), ("branch", .ofOption doc.branch),
    ("group", .ofOption doc.group), ("organization", .ofOption doc.organization),
    ("audience_role", .ofOption doc.audienceRole), ("channels", .list channels),
    ("audience_branch_count", .int audienceBranches.length),
    ("notification_ref", .ofOption doc.notification)]
  scope := anchorsOf doc

/-- The answer of `publish_announcement`; its `audience_branch_count` is the length. -/
structure PublishSummary where
  /-- `name`. -/
  name : String
  /-- `status`. -/
  status : Option AnnouncementStatus
  /-- `audience_branches`. -/
  audienceBranches : List String
  /-- `notification_ref`. -/
  notificationRef : Option String
deriving DecidableEq, Repr

/-- The scope that a publish hands to the fan-out. -/
def scopeOf (doc : Announcement) : NotificationScope :=
  ⟨doc.organization.getD "", doc.branch, doc.group⟩

/-- What a publish has the fan-out say. -/
def pushOf (doc : Announcement) : Push where
  subject := doc.subject
  body := doc.body
  audienceRole := (truthy doc.audienceRole).getD defaultAudienceRole
  category := doc.category
  notificationRef := some doc.name

/-- `publish_announcement` behind its fan-out. -/
def finishPublish (site : Site) (doc : Announcement) (audienceBranches : List String)
    (result : NotificationFanoutResult) : Exec Error Board PublishSummary := do
  let doc := if result.push.notificationRef = none then { doc with notification := some doc.name }
    else doc
  onOutbox (emit (publishedEvent doc audienceBranches (doc.channels.filterMap truthy)))
  let doc ← save site doc
  pure ⟨doc.name, doc.status, audienceBranches, doc.notification⟩

/-- `publish_announcement`. The call of the fan-out gives neither `gateway` nor `publisher`. -/
def publishAnnouncement (site : Site) : Exec Error Board PublishSummary := do
  let board ← get
  Exec.ofExcept (validateAnnouncementScope board.announcement site.gateway)
  Exec.ofExcept (site.authorScopeGuard (board.announcement.branch.getD ""))
  Exec.ofExcept (validateStatusTransition board.announcement.current .publishing)
  Exec.ofExcept (validateStatusTransition .publishing .published)
  let doc := { board.announcement with status := some .published, publishedAt := some site.now }
  let audienceBranches ← Exec.ofExcept (resolveAudienceBranches (doc.branch.getD "") site.gateway)
  let result ← onOutbox (fanoutScopedNotification none none (scopeOf doc) (pushOf doc))
  finishPublish site doc audienceBranches result

/-- The event of a scheduled announcement. -/
def scheduledEvent (site : Site) (doc : Announcement) : DomainEvent where
  name := Events.announcementScheduled
  payload := [("announcement", .str doc.name), ("branch", .ofOption doc.branch),
    ("group", .ofOption doc.group), ("organization", .ofOption doc.organization),
    ("scheduled_at", .ofOption (doc.scheduledAt.map site.datetimeText))]
  scope := anchorsOf doc

/-- The answer of `schedule_announcement`. -/
structure ScheduleSummary where
  /-- `name`. -/
  name : String
  /-- `status`. -/
  status : Option AnnouncementStatus
  /-- `scheduled_at`. -/
  scheduledAt : String
deriving DecidableEq, Repr

/-- The announcement as `schedule_announcement` validates it. -/
def Announcement.schedule (doc : Announcement) : Announcement :=
  { doc with status := some .scheduled }

/-- `schedule_announcement`. The transition that it validates is that of a draft. -/
def scheduleAnnouncement (site : Site) : Exec Error Board ScheduleSummary := do
  let board ← get
  let doc := board.announcement.schedule
  Exec.ofExcept (validateAnnouncementScope doc site.gateway)
  Exec.ofExcept (site.authorScopeGuard (doc.branch.getD ""))
  Exec.ofExcept (validateStatusTransition .draft .scheduled)
  onOutbox (emit (scheduledEvent site doc))
  let doc ← save site doc
  pure ⟨doc.name, doc.status, ((doc.scheduledAt.map site.datetimeText).getD "None")⟩

/-- The calls on an announcement. -/
inductive Call where
  /-- `schedule_announcement`. -/
  | schedule (site : Site)
  /-- `publish_announcement`. -/
  | publish (site : Site)

/-- The board after a call; a document is stored only where it is saved. -/
def Board.perform (board : Board) : Call → Board
  | .schedule site => (scheduleAnnouncement site).after board
  | .publish site => (publishAnnouncement site).after board

end FlockOs.Scheduling
