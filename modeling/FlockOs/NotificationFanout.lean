import FlockOs.Lib.Exec
import FlockOs.Notifications
import FlockOs.Realtime
import FlockOs.Trees

/-!
# Scoped push

`notifications.py`: the scope of a push, the audience that a scope resolves to over the two trees,
the rooms of an audience, and the fan-out that publishes to them and emits the record of the push.
-/

namespace FlockOs.Notifications

open Lib Directory Realtime Trees

/-- `NOTIFY_ROOM_PREFIX`. -/
def notifyRoomPrefix : String := "flock_os:notify"
/-- `BRANCH_AXIS`. -/
def branchAxis : String := "branch"
/-- `GROUP_AXIS`. -/
def groupAxis : String := "group"

/-- The tree that a push walks. -/
inductive Axis where
  /-- `BRANCH_AXIS`. -/
  | branch
  /-- `GROUP_AXIS`. -/
  | group
deriving DecidableEq, Repr

/-- The text of an axis. -/
def Axis.text : Axis → String
  | branch => branchAxis
  | group => groupAxis

/-- The broadcast room of a node of an axis. -/
def notificationRoom (axis : Axis) (node : String) : String :=
  notifyRoomPrefix ++ ":" ++ axis.text ++ ":" ++ node ++ ":" ++ broadcastSegment

/-- `branch_notification_room`. -/
def branchNotificationRoom (branch : String) : String := notificationRoom .branch branch

/-- `group_notification_room`. -/
def groupNotificationRoom (group : String) : String := notificationRoom .group group

/-- `DEFAULT_AUDIENCE_ROLE`. -/
def defaultAudienceRole : String := "Leaders Only"

/-- `NotificationScope`. -/
structure NotificationScope where
  /-- Tenant. -/
  organization : String
  /-- Branch anchor. -/
  branch : Option String := none
  /-- Group anchor. -/
  group : Option String := none
deriving DecidableEq, Repr

/-- `ChildMap`: the children of each node, and how many nodes the map has. -/
structure ChildMap where
  /-- `children_of.get(node, ())`. -/
  childrenOf : String → List String
  /-- `len(children_of)`. -/
  size : Nat

/-- `subtree_of` over a child map. -/
def ChildMap.subtree (children : ChildMap) (node : String) : Except Error (List String) :=
  subtreeOf children.childrenOf (children.size + 1) node

/-- `compute_branch_subtree`. -/
def computeBranchSubtree (children : ChildMap) (branch : String) : Except Error (List String) :=
  if branch = "" then .error (.value "branch is required to compute its admin subtree.")
  else children.subtree branch

/-- The child map over the rows of a tree: only a node with a row has children. -/
def childMap {Row : Type} (tree : TreeDoctype Row) (rows : List Row) : ChildMap where
  childrenOf node := if (tree.rowByName rows node).isSome then tree.childrenOf rows node else []
  size := rows.length

/-- `NotificationFanoutGateway`. -/
structure NotificationFanoutGateway where
  /-- Whether a branch exists in an organization. -/
  branchExists : String → String → Bool
  /-- Whether a group exists. -/
  groupExists : String → Bool
  /-- `Flock Group.branch`. -/
  groupBranch : String → Option String
  /-- Children of the branches. -/
  branchChildrenOf : ChildMap
  /-- Children of the groups. -/
  groupChildrenOf : ChildMap
  /-- Leaders of the groups of some branches. -/
  leadersInBranches : List String → List String
  /-- Leaders of some groups. -/
  leadersInGroups : List String → List String

/-- `branch_exists` over the branch table. -/
def branchExists (branches : Table Branch Branch.name) (branch organization : String) : Bool :=
  match branches.find? branch with
  | none => false
  | some row => row.organization ≠ "" && row.organization == organization

/-- `FrappeNotificationFanoutGateway`. -/
def frappeNotificationFanoutGateway (tables : Tables) (branches : Table Branch Branch.name) :
    NotificationFanoutGateway where
  branchExists := branchExists branches
  groupExists group := (tables.groups.find? group).isSome
  groupBranch group := (tables.groups.find? group).bind Group.branch
  branchChildrenOf := childMap branchTree branches.rows
  groupChildrenOf := childMap groupTree tables.groups.rows
  leadersInBranches := leadersInBranches tables
  leadersInGroups := leadersInGroups tables

/-- `ScopedAudience`. -/
structure ScopedAudience where
  /-- The tree that was walked. -/
  axis : Axis
  /-- The nodes of the subtree. -/
  nodes : List String
  /-- The leaders, each once. -/
  leaders : List String
deriving DecidableEq, Repr

/-- `_validate_scope` for a group anchor. -/
def validateGroupAnchor (scope : NotificationScope) (group : String)
    (gateway : NotificationFanoutGateway) : Except Error Unit :=
  if ¬ gateway.groupExists group then
    .error (.value s!"Group {quoted group} does not exist.")
  else match truthy (gateway.groupBranch group) with
    | none => .error (.value s!"Group {quoted group} has no branch binding (ADR §4).")
    | some groupBranch =>
      if ¬ gateway.branchExists groupBranch scope.organization then
        .error (.value
          s!"Group {quoted group}'s branch {quoted groupBranch} is not a member of organization {quoted scope.organization}.")
      else if (truthy scope.branch).any (· ≠ groupBranch) then
        .error (.value
          s!"Group {quoted group} belongs to branch {quoted groupBranch}, not the scope's branch {quotedOption scope.branch} (group-branch-binding, ADR §4).")
      else .ok ()

/-- `_validate_scope`. -/
def validateScope (scope : NotificationScope) (gateway : NotificationFanoutGateway) :
    Except Error Unit :=
  if scope.organization = "" then
    .error (.value "Notification organization is required (tenant floor).")
  else match truthy scope.group, truthy scope.branch with
    | none, none => .error (.value "Notification scope requires a branch or group anchor.")
    | some group, _ => validateGroupAnchor scope group gateway
    | none, some branch =>
      if ¬ gateway.branchExists branch scope.organization then
        .error (.value
          s!"Branch {quoted branch} is not a member of organization {quoted scope.organization}.")
      else .ok ()

/-- `resolve_scoped_audience`. -/
def resolveScopedAudience (scope : NotificationScope) (gateway : NotificationFanoutGateway) :
    Except Error ScopedAudience := do
  validateScope scope gateway
  match truthy scope.group with
  | some group =>
    let nodes ← gateway.groupChildrenOf.subtree group
    pure ⟨.group, nodes, gateway.leadersInGroups nodes⟩
  | none =>
    let nodes ← computeBranchSubtree gateway.branchChildrenOf (scope.branch.getD "")
    pure ⟨.branch, nodes, gateway.leadersInBranches nodes⟩

/-- `rooms_for`. -/
def roomsFor (audience : ScopedAudience) : List String :=
  match audience.axis with
  | .group => audience.nodes.map groupNotificationRoom
  | .branch => audience.nodes.map branchNotificationRoom

/-- What a push leaves behind. -/
structure Outbox where
  /-- The emissions that the publisher was asked for. -/
  attempts : List RealtimeEmission := []
  /-- The emissions that it did not fail on. -/
  delivered : List RealtimeEmission := []
  /-- The emitted events. -/
  publishedEvents : List DomainEvent := []
deriving DecidableEq, Repr

/-- `RealtimePublisher.publish`: it may raise, whatever it was asked for before. -/
abbrev RealtimePublisher := List RealtimeEmission → RealtimeEmission → Except Error Unit

/-- `NullRealtimePublisher`. -/
def nullRealtimePublisher : RealtimePublisher := fun _ _ => .ok ()

/-- `publish`. -/
def publish (publisher : RealtimePublisher) (emission : RealtimeEmission) :
    Exec Error Outbox Unit := do
  let before ← get
  modify fun outbox => { outbox with attempts := outbox.attempts ++ [emission] }
  Exec.ofExcept (publisher before.attempts emission)
  modify fun outbox => { outbox with delivered := outbox.delivered ++ [emission] }

/-- A publish whose failure is passed over. -/
def publishBestEffort (publisher : RealtimePublisher) (emission : RealtimeEmission) :
    Exec Error Outbox Unit :=
  tryCatch (publish publisher emission) fun _ => pure ()

/-- `events.emit`. -/
def emit (event : DomainEvent) : Exec Error Outbox Unit :=
  modify fun outbox => { outbox with publishedEvents := outbox.publishedEvents ++ [event] }

/-- What a push says. -/
structure Push where
  /-- `subject`. -/
  subject : String
  /-- `body`. -/
  body : String := ""
  /-- `audience_role`. -/
  audienceRole : String := defaultAudienceRole
  /-- `category`. -/
  category : Option String := none
  /-- `notification_ref`. -/
  notificationRef : Option String := none
deriving DecidableEq, Repr

/-- `NotificationFanoutResult`. -/
structure NotificationFanoutResult where
  /-- The scope. -/
  scope : NotificationScope
  /-- The audience. -/
  audience : ScopedAudience
  /-- The rooms. -/
  rooms : List String
  /-- The event of the push. -/
  event : DomainEvent
  /-- What the push says. -/
  push : Push
deriving DecidableEq, Repr

/-- The entry of an optional text, when there is one. -/
def optionalEntry (key : String) (text : Option String) : List (String × Value) :=
  text.toList.map fun text => (key, .str text)

/-- The message to the browsers. -/
def message (scope : NotificationScope) (audience : ScopedAudience) (push : Push) :
    List (String × Value) :=
  [("subject", .str push.subject), ("body", .str push.body),
    ("audience_role", .str push.audienceRole), ("axis", .str audience.axis.text),
    ("nodes", .list audience.nodes), ("audience_size", .int audience.leaders.length),
    ("organization", .str scope.organization), ("branch", .ofOption scope.branch),
    ("group", .ofOption scope.group)] ++
    optionalEntry "category" push.category ++ optionalEntry "notification_ref" push.notificationRef

/-- The record of the push. -/
def sentEvent (scope : NotificationScope) (audience : ScopedAudience) (push : Push) :
    DomainEvent where
  name := Events.notificationSent
  payload := [("subject", .str push.subject), ("body", .str push.body),
    ("audience_role", .str push.audienceRole), ("axis", .str audience.axis.text),
    ("nodes", .list audience.nodes), ("audience_size", .int audience.leaders.length),
    ("category", .ofOption push.category), ("notification_ref", .ofOption push.notificationRef)]
  scope := [("organization", .str scope.organization), ("branch", .ofOption scope.branch),
    ("group", .ofOption scope.group)]

/-- The rooms that are published to: none without a leader. -/
def pushRooms (audience : ScopedAudience) : List String :=
  if 0 < audience.leaders.length then roomsFor audience else []

/-- `ScopedNotificationService.fanout`. -/
def fanout (gateway : NotificationFanoutGateway) (publisher : RealtimePublisher)
    (scope : NotificationScope) (push : Push) : Exec Error Outbox NotificationFanoutResult := do
  let audience ← Exec.ofExcept (resolveScopedAudience scope gateway)
  (pushRooms audience).forM fun room =>
    publishBestEffort publisher ⟨rtNotification, room, message scope audience push⟩
  emit (sentEvent scope audience push)
  pure ⟨scope, audience, pushRooms audience, sentEvent scope audience push, push⟩

/-- `fanout_scoped_notification`, where `gateway` must be given: a call without it raises before
anything runs. -/
def fanoutScopedNotification (gateway : Option NotificationFanoutGateway)
    (publisher : Option RealtimePublisher) (scope : NotificationScope) (push : Push) :
    Exec Error Outbox NotificationFanoutResult :=
  match gateway with
  | none => throw (.type
      "fanout_scoped_notification() missing 1 required keyword-only argument: 'gateway'")
  | some gateway => fanout gateway (publisher.getD nullRealtimePublisher) scope push

end FlockOs.Notifications
