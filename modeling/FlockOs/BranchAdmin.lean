import FlockOs.Realtime
import FlockOs.Trees
import Mathlib.Data.List.Dedup

/-!
# Branch admins

`Flock Branch Admin Scope` and the User Permissions that it materializes: the controller, the
syncer of `permissions.py`, and the hooks that lead from a change of the branch tree to a new sync.
-/

namespace FlockOs.BranchAdmin

open Lib Permissions Trees

/-- `Flock Branch Admin Scope`. -/
structure BranchAdminScope where
  /-- Primary key. -/
  name : String
  /-- User. -/
  user : String
  /-- Root of what the user administers. -/
  branch : String
  /-- Organization. -/
  organization : Option String := none
  /-- Whether it is in force. -/
  isActive : Bool := true
deriving DecidableEq, Repr

/-- The tables, with the jobs that wait. -/
structure Site where
  /-- `tabFlock Branch`. -/
  branches : Table Branch Branch.name
  /-- `tabFlock Branch Admin Scope`. -/
  scopes : Table BranchAdminScope BranchAdminScope.name
  /-- `tabUser Permission` on `Flock Branch`, as user and value. -/
  userPermissions : List (String × String)
  /-- Names of the scopes that wait for `_resync_branch_admin_scope`. -/
  queue : List String := []

/-- `_materialize_branch_adjacency`: the rows that `children_of` is read from, in tree order. -/
def materializeBranchAdjacency (branches : Table Branch Branch.name) : List Branch :=
  branches.rows.insertionSort fun first second => first.lft ≤ second.lft

/-- `compute_branch_subtree`. -/
def computeBranchSubtree (adjacency : List Branch) (branch : String) :
    Except Error (List String) :=
  if branch = "" then .error (.value "branch is required to compute its admin subtree.")
  else branchTree.subtreeOver adjacency branch

/-- `_resolve_subtree`. -/
def resolveSubtree (branches : Table Branch Branch.name) (branch : String) :
    Except Error (List String) :=
  if branch = "" then .ok []
  else computeBranchSubtree (materializeBranchAdjacency branches) branch

/-- `list_branch_user_permissions`. -/
def permitted (userPermissions : List (String × String)) (user : String) : List String :=
  (userPermissions.filter fun row => row.1 = user).map Prod.snd

/-- `sync_branch_scope`; in which order a set is gone through makes no difference. -/
def syncBranchScope (userPermissions : List (String × String)) (user : String)
    (branchSubtree : List String) : List (String × String) :=
  let target := branchSubtree.dedup
  let existing := permitted userPermissions user
  let added := (target.filter (· ∉ existing)).map fun branch => (user, branch)
  (userPermissions ++ added).filter fun row =>
    ¬ (row.1 = user ∧ row.2 ∈ existing ∧ row.2 ∉ target)

/-- `_withdraw_user_permissions`. -/
def withdrawUserPermissions (userPermissions : List (String × String)) (user : String) :
    List (String × String) :=
  userPermissions.filter fun row => row.1 ≠ user

/-- `validate`: `_sync_user_permissions`, whether the row is in force or not. -/
def validate (site : Site) (doc : BranchAdminScope) : Except Error Site := do
  let subtree ← resolveSubtree site.branches doc.branch
  pure { site with userPermissions := syncBranchScope site.userPermissions doc.user subtree }

/-- Frappe's mandatory-field check. -/
def validateMandatory (doc : BranchAdminScope) : Except Error Unit :=
  if doc.user = "" then .error (.mandatory "user")
  else if doc.branch = "" then .error (.mandatory "branch")
  else .ok ()

/-- A new row, named `{user}-{branch}`. -/
def newScope (user branch : String) (organization : Option String) (isActive : Bool) :
    BranchAdminScope where
  name := user ++ "-" ++ branch
  user := user
  branch := branch
  organization := organization
  isActive := isActive

/-- `insert` of a scope. -/
def insertScope (site : Site) (doc : BranchAdminScope) : Except Error Site := do
  let synced ← validate site doc
  validateMandatory doc
  if fresh : doc.name ∉ synced.scopes.rows.map BranchAdminScope.name then
    pure { synced with scopes := synced.scopes.add doc fresh }
  else throw .duplicateEntry

/-- `save` of a scope that is stored. -/
def saveScope (site : Site) (doc : BranchAdminScope) : Except Error Site :=
  match site.scopes.find? doc.name with
  | none => .error (.doesNotExist doc.name)
  | some _ => do
    let synced ← validate site doc
    validateMandatory doc
    pure { synced with scopes := synced.scopes.replace doc }

/-- `delete_doc` of a scope: `on_trash`, then the row goes. -/
def deleteScope (site : Site) (name : String) : Except Error Site :=
  match site.scopes.find? name with
  | none => .error (.doesNotExist name)
  | some doc => .ok { site with
      userPermissions := withdrawUserPermissions site.userPermissions doc.user
      scopes := site.scopes.remove name }

/-- The operations on scopes. -/
inductive ScopeCall where
  /-- A new scope. -/
  | insert (user branch : String) (organization : Option String) (isActive : Bool)
  /-- An edit of the scope with the name of the document. -/
  | save (doc : BranchAdminScope)
  /-- A deletion. -/
  | delete (name : String)
deriving DecidableEq, Repr

/-- The outcome of an operation. -/
def performScope (site : Site) : ScopeCall → Except Error Site
  | .insert user branch organization isActive =>
    insertScope site (newScope user branch organization isActive)
  | .save doc => saveScope site doc
  | .delete name => deleteScope site name

/-- What an outcome leaves: a request that raises is rolled back. -/
def settled (site : Site) : Except Error Site → Site
  | .ok next => next
  | .error _ => site

/-- `_FLOCK_DOC_EVENTS`. -/
def flockDocEvents : List ((String × String) × String) :=
  [(("Flock Branch", "after_insert"), "flock.branch.created"),
    (("Flock Group", "after_insert"), "flock.group.created"),
    (("Flock Group Member", "on_update"), "flock.group_member.added"),
    (("Flock Member", "after_insert"), "flock.member.created"),
    (("Flock Gathering", "after_insert"), "flock.gathering.created")]

/-- `doc_events`: the hooks that call `_dispatch_flock_doc_event`. -/
def docEvents : List (String × String) :=
  [("Flock Branch", "after_insert"), ("Flock Group", "after_insert"),
    ("Flock Group Member", "on_update"), ("Flock Member", "after_insert"),
    ("Flock Gathering", "after_insert")]

/-- `BRANCH_MOVED`. -/
def branchMoved : String := "flock.branch.moved"

/-- `_scope_from_doc` of a branch, which has an organization alone. -/
def scopeFromBranch (branch : Branch) : List (String × Value) :=
  ((truthy (some branch.organization)).map fun organization =>
    ("organization", Value.str organization)).toList

/-- `on_doc_event` of a branch. -/
def onDocEvent (branch : Branch) (eventName : String) : DomainEvent where
  name := eventName
  payload := [("doctype", .str "Flock Branch"), ("name", .str branch.name)]
  scope := scopeFromBranch branch

/-- The events that a hook of a branch emits, by way of `_dispatch_flock_doc_event`. -/
def dispatchFlockDocEvent (branch : Branch) (method : String) : List DomainEvent :=
  if ("Flock Branch", method) ∈ docEvents then
    ((flockDocEvents.lookup ("Flock Branch", method)).map (onDocEvent branch)).toList
  else []

/-- `_on_branch_moved`: a job for every scope in force. -/
def onBranchMoved (site : Site) (event : DomainEvent) : Site :=
  if Realtime.isTrue (Realtime.get event.payload "branch") then
    { site with queue := site.queue ++
        (site.scopes.rows.filter (·.isActive)).map BranchAdminScope.name }
  else site

/-- `emit` to the subscriber of the branch moves. -/
def emit (site : Site) (event : DomainEvent) : Site :=
  if event.name = branchMoved then onBranchMoved site event else site

/-- The hooks of a document that is inserted. -/
def insertHooks : List String :=
  ["before_insert", "validate", "before_save", "after_insert", "on_update", "on_change"]

/-- The hooks of a document that is saved again. -/
def saveHooks : List String := ["validate", "before_save", "on_update", "on_change"]

/-- The hooks of a branch one after another. -/
def runHooks (site : Site) (branch : Branch) (hooks : List String) : Site :=
  (hooks.flatMap (dispatchFlockDocEvent branch)).foldl emit site

/-- `_resync_branch_admin_scope`; a job that raises changes nothing. -/
def resyncBranchAdminScope (site : Site) (scopeName : String) : Site :=
  match site.scopes.find? scopeName with
  | none => site
  | some doc => settled site (saveScope site doc)

/-- The jobs that wait, one after another. -/
def runQueue (site : Site) : Site :=
  site.queue.foldl resyncBranchAdminScope { site with queue := [] }

/-- The bounds that the framework gives the rows after a change of the tree. -/
def renumbered (bounds : String → Int × Int) (branch : Branch) : Branch :=
  { branch with lft := (bounds branch.name).1, rgt := (bounds branch.name).2 }

/-- The changes of the tree, with the bounds that the framework gives the rows. -/
inductive TreeCall where
  /-- A new branch. -/
  | insert (branchName organization : String) (parentBranch : Option String)
    (bounds : String → Int × Int)
  /-- A save that sets the parent of a branch. -/
  | reparent (name : String) (parentBranch : Option String) (bounds : String → Int × Int)

/-- Frappe's mandatory-field check of a branch. -/
def validateBranchMandatory (branch : Branch) : Except Error Unit :=
  if branch.name = "" then .error (.mandatory "branch_name")
  else if branch.organization = "" then .error (.mandatory "organization")
  else .ok ()

/-- The tables with the bounds that the framework gives the rows. -/
def renumber (site : Site) (bounds : String → Int × Int) : Site :=
  { site with branches := site.branches.revise (renumbered bounds) fun _ => rfl }

/-- `insert` of a branch, which is named by its `branch_name`. -/
def insertBranch (site : Site) (branch : Branch) : Except Error Site := do
  validateBranchMandatory branch
  if fresh : branch.name ∉ site.branches.rows.map Branch.name then
    pure (runHooks { site with branches := site.branches.add branch fresh } branch insertHooks)
  else throw .duplicateEntry

/-- `save` of a branch with another parent. -/
def saveBranch (site : Site) (name : String) (parentBranch : Option String) : Except Error Site :=
  match site.branches.find? name with
  | none => .error (.doesNotExist name)
  | some stored =>
    let branch := { stored with parentBranch := parentBranch }
    .ok (runHooks { site with branches := site.branches.replace branch } branch saveHooks)

/-- The outcome of a change of the tree. -/
def performTree (site : Site) : TreeCall → Except Error Site
  | .insert branchName organization parentBranch bounds =>
    (insertBranch site ⟨branchName, organization, parentBranch, 0, 0⟩).map (renumber · bounds)
  | .reparent name parentBranch bounds =>
    (saveBranch site name parentBranch).map (renumber · bounds)

end FlockOs.BranchAdmin
