import FlockOs.Verif.BranchScopes
import FlockOs.Verif.Subtrees

/-!
# Scopes and moves of branches

No hook of a branch emits the event that the subscriber waits for, so that no scope is materialized
again when the tree changes. The permissions follow the tree throughout a run exactly where no
insertion and no move changes what lies below the branch of a scope in force.
-/

namespace FlockOs.BranchAdmin

open Lib Trees

section Links

variable {branches : Table Branch Branch.name}

/-- A branch is a child of another. -/
def Link (branches : Table Branch Branch.name) : String → String → Prop :=
  Levels.Child (branchTree.childrenOf branches.rows)

/-- A link comes from a row. -/
theorem link_iff {upper lower : String} : Link branches upper lower ↔
    ∃ row ∈ branches.rows, row.name = lower ∧ truthy row.parentBranch = some upper := by
  constructor
  · intro child
    obtain ⟨row, kept, named⟩ := List.mem_map.mp child
    obtain ⟨inside, parent⟩ := List.mem_filter.mp kept
    exact ⟨row, inside, named, of_decide_eq_true parent⟩
  · intro ⟨row, inside, named, parent⟩
    exact List.mem_map.mpr ⟨row, List.mem_filter.mpr ⟨inside, decide_eq_true parent⟩, named⟩

/-- In tree order the rows have the same links. -/
theorem child_materialized : Levels.Child
    (branchTree.childrenOf (materializeBranchAdjacency branches)) = Link branches := by
  funext upper lower
  refine propext (List.Perm.mem_iff ?_)
  exact ((List.perm_insertionSort _ branches.rows).filter _).map Branch.name

/-- A branch has a subtree exactly where it does not lie below itself; it is what is reached from
the branch. -/
theorem resolves_iff {branch : String} (set : branch ≠ "") {holds : String → Prop} :
    (∃ names, resolveSubtree branches branch = .ok names ∧ ∀ name, holds name ↔ name ∈ names) ↔
      Rooted (Link branches) branch ∧ ∀ name, holds name ↔ Reaches (Link branches) branch name := by
  have keyed : ((materializeBranchAdjacency branches).map branchTree.name).Nodup :=
    ((List.perm_insertionSort _ branches.rows).map Branch.name).nodup_iff.mpr branches.keyed
  have same : resolveSubtree branches branch =
      branchTree.subtreeOver (materializeBranchAdjacency branches) branch := by
    rw [resolveSubtree, if_neg set, computeBranchSubtree, if_neg set]
  rw [same, ← child_materialized]
  constructor
  · rintro ⟨names, walked, all⟩
    have rooted := rooted_of_subtreeOver walked
    obtain ⟨found, again, _, reached⟩ := subtreeOver_ok keyed rooted
    rw [walked] at again
    cases again
    exact ⟨rooted, fun name => (all name).trans (reached name)⟩
  · rintro ⟨rooted, all⟩
    obtain ⟨names, walked, _, reached⟩ := subtreeOver_ok keyed rooted
    exact ⟨names, walked, fun name => (all name).trans (reached name).symm⟩

/-- A branch that is written gets its parent. -/
theorem link_wrote {next : Table Branch Branch.name} {branch : Branch}
    (wrote : branches.Wrote next branch) :
    Link next = Moved (Link branches) branch.name (truthy branch.parentBranch) := by
  funext upper lower
  refine propext (link_iff.trans ⟨?_, ?_⟩)
  · intro ⟨row, inside, named, parent⟩
    cases (wrote row).mp inside with
    | inl old =>
      refine .inr ⟨fun same => old.2 (named.trans same), ?_⟩
      exact link_iff.mpr ⟨row, old.1, named, parent⟩
    | inr new =>
      rw [new] at named parent
      exact .inl ⟨named.symm, parent⟩
  · intro either
    cases either with
    | inl moved => exact ⟨branch, (wrote branch).mpr (.inr rfl), moved.1.symm, moved.2⟩
    | inr kept =>
      obtain ⟨row, inside, named, parent⟩ := link_iff.mp kept.2
      refine ⟨row, (wrote row).mpr (.inl ⟨inside, ?_⟩), named, parent⟩
      exact fun same => kept.1 (named.symm.trans same)

/-- New bounds are no new links. -/
theorem link_renumbered (bounds : String → Int × Int) :
    Link (branches.revise (renumbered bounds) fun _ => rfl) = Link branches := by
  funext upper lower
  refine propext (link_iff.trans (Iff.trans ⟨?_, ?_⟩ link_iff.symm))
  · intro ⟨row, inside, named, parent⟩
    obtain ⟨old, there, same⟩ := List.mem_map.mp inside
    rw [← same] at named parent
    exact ⟨old, there, named, parent⟩
  · intro ⟨row, inside, rest⟩
    exact ⟨renumbered bounds row, List.mem_map_of_mem inside, rest⟩

end Links

/-- No hook of a branch emits the event of a move. -/
theorem dispatch_ne_moved {branch : Branch} {method : String} {event : DomainEvent}
    (emitted : event ∈ dispatchFlockDocEvent branch method) : event.name ≠ branchMoved := by
  rw [dispatchFlockDocEvent] at emitted
  split at emitted
  · obtain ⟨name, found, same⟩ := Option.map_eq_some_iff.mp (Option.mem_toList.mp emitted)
    obtain ⟨before, rest, listed, _⟩ := List.lookup_eq_some_iff.mp found
    have inside : (("Flock Branch", method), name) ∈ flockDocEvents := by simp [listed]
    rw [← same]
    show name ≠ branchMoved
    intro moved
    rw [moved] at inside
    have unlisted : branchMoved ∉ flockDocEvents.map Prod.snd := by decide
    exact unlisted (List.mem_map_of_mem inside)
  · cases emitted

/-- The hooks of a branch change nothing and queue nothing. -/
theorem runHooks_eq (site : Site) (branch : Branch) (hooks : List String) :
    runHooks site branch hooks = site := by
  rw [runHooks]
  have silent : ∀ events : List DomainEvent, (∀ event ∈ events, event.name ≠ branchMoved) →
      events.foldl emit site = site := by
    intro events
    induction events with
    | nil => exact fun _ => rfl
    | cons event rest ih =>
      intro other
      rw [List.foldl_cons, emit, if_neg (other event List.mem_cons_self)]
      exact ih fun later there => other later (List.mem_cons_of_mem _ there)
  refine silent _ fun event there => ?_
  obtain ⟨_, _, emitted⟩ := List.mem_flatMap.mp there
  exact dispatch_ne_moved emitted

namespace Site

/-- A change of the tree, after which the jobs that wait run. -/
def changeTree (site : Site) (call : TreeCall) : Site :=
  runQueue (settled site (performTree site call))

/-- The branch that a change of the tree puts below a parent, where the change goes through. -/
def placed (site : Site) : TreeCall → Option (String × Option String)
  | .insert branchName organization parentBranch _ =>
    if branchName ≠ "" ∧ organization ≠ "" ∧ branchName ∉ site.branches.rows.map Branch.name then
      some (branchName, truthy parentBranch)
    else none
  | .reparent name parentBranch _ =>
    if name ∈ site.branches.rows.map Branch.name then some (name, truthy parentBranch) else none

/-- Every admin with a scope in force is permitted the subtree of its branch as it is now. -/
def InStep (site : Site) : Prop :=
  ∀ doc ∈ site.scopes.rows, doc.isActive = true →
    ∃ names, resolveSubtree site.branches doc.branch = .ok names ∧
      ∀ branch, (doc.user, branch) ∈ site.userPermissions ↔ branch ∈ names

/-- The branch that is placed stays outside of what lies below the branch of a scope in force, or
inside and not below itself. -/
def LeavesScopes (site : Site) (call : TreeCall) : Prop :=
  ∀ node target, site.placed call = some (node, target) → ∀ doc ∈ site.scopes.rows,
    doc.isActive = true → doc.branch ≠ "" →
      Undisturbed (Link site.branches) node target doc.branch

/-- A change of the tree changes the links and the bounds alone. -/
structure Changed (site next : Site) (placement : Option (String × Option String)) : Prop where
  /-- The links of the branch that is placed. -/
  links : Link next.branches = match placement with
    | none => Link site.branches
    | some (node, target) => Moved (Link site.branches) node target
  /-- The scopes are left. -/
  scopes : next.scopes = site.scopes
  /-- The permissions are left. -/
  userPermissions : next.userPermissions = site.userPermissions
  /-- No job waits. -/
  queue : next.queue = []

variable {site : Site}

/-- A rejected change leaves everything. -/
theorem Changed.self (idle : site.queue = []) : site.Changed site none := ⟨rfl, rfl, rfl, idle⟩

/-- A new branch. -/
theorem insert_changed (idle : site.queue = []) (branchName organization : String)
    (parentBranch : Option String) (bounds : String → Int × Int) :
    site.Changed
      (settled site (performTree site (.insert branchName organization parentBranch bounds)))
      (site.placed (.insert branchName organization parentBranch bounds)) := by
  rw [performTree, placed, insertBranch, validateBranchMandatory]
  by_cases named : branchName = ""
  · rw [if_pos named, if_neg fun all => all.1 named]
    exact .self idle
  by_cases organized : organization = ""
  · rw [if_neg named, if_pos organized, if_neg fun all => all.2.1 organized]
    exact .self idle
  rw [if_neg named, if_neg organized]
  by_cases fresh : branchName ∉ site.branches.rows.map Branch.name
  · rw [if_pos ⟨named, organized, fresh⟩]
    dsimp only [bind, Except.bind]
    rw [dif_pos fresh, runHooks_eq]
    exact ⟨(link_renumbered bounds).trans (link_wrote (Table.wrote_add fresh)), rfl, rfl, idle⟩
  · rw [if_neg fun all => fresh all.2.2]
    dsimp only [bind, Except.bind]
    rw [dif_neg fresh]
    exact .self idle

/-- A branch that is saved with a parent. -/
theorem reparent_changed (idle : site.queue = []) (name : String) (parentBranch : Option String)
    (bounds : String → Int × Int) :
    site.Changed (settled site (performTree site (.reparent name parentBranch bounds)))
      (site.placed (.reparent name parentBranch bounds)) := by
  rw [performTree, placed, saveBranch]
  cases stored : site.branches.find? name with
  | none =>
    have missing : name ∉ site.branches.rows.map Branch.name := by
      intro there
      obtain ⟨row, inside, same⟩ := List.mem_map.mp there
      exact site.branches.find?_eq_none.mp stored row inside same
    rw [if_neg missing]
    exact .self idle
  | some old =>
    obtain ⟨inside, same⟩ := site.branches.find?_eq_some.mp stored
    rw [← same] at stored ⊢
    rw [if_pos (List.mem_map_of_mem inside)]
    dsimp only [Except.map, settled]
    rw [runHooks_eq]
    have wrote : site.branches.Wrote
        (site.branches.replace { old with parentBranch := parentBranch })
        { old with parentBranch := parentBranch } := Table.wrote_replace stored
    exact ⟨(link_renumbered bounds).trans (link_wrote wrote), rfl, rfl, idle⟩

/-- What a change of the tree does, the jobs that wait included. -/
theorem changeTree_changed (idle : site.queue = []) (call : TreeCall) :
    site.Changed (site.changeTree call) (site.placed call) := by
  have changed : site.Changed (settled site (performTree site call)) (site.placed call) := by
    cases call with
    | insert branchName organization parentBranch bounds =>
      exact insert_changed idle branchName organization parentBranch bounds
    | reparent name parentBranch bounds => exact reparent_changed idle name parentBranch bounds
  rw [changeTree, runQueue, changed.queue]
  exact ⟨changed.links, changed.scopes, changed.userPermissions, rfl⟩

/-- Someone who is permitted the subtree of a branch is still permitted it exactly where the branch
that is placed leaves what lies below. -/
theorem resolves_moved_iff {branches next : Table Branch Branch.name} {branch node : String}
    {target : Option String} {holds : String → Prop} (set : branch ≠ "")
    (links : Link next = Moved (Link branches) node target)
    (before : ∃ names, resolveSubtree branches branch = .ok names ∧
      ∀ name, holds name ↔ name ∈ names) :
    (∃ names, resolveSubtree next branch = .ok names ∧ ∀ name, holds name ↔ name ∈ names) ↔
      Undisturbed (Link branches) node target branch := by
  obtain ⟨rooted, held⟩ := (resolves_iff set).mp before
  have single (upper other lower : String) (first : Link branches upper lower) :
      Link branches other lower → upper = other := by
    have keyed : (branches.rows.map branchTree.name).Nodup := branches.keyed
    exact (arboreal keyed).single upper other lower first
  rw [resolves_iff set, ← sameBelow_moved_iff single rooted, SameBelow, links]
  refine and_congr_right fun _ => forall_congr' fun name => ?_
  rw [held name]
  exact iff_comm

/-- A branch that is not set has the same subtree in every tree. -/
theorem resolveSubtree_unset {branch : String} (unset : branch = "")
    (branches next : Table Branch Branch.name) :
    resolveSubtree next branch = resolveSubtree branches branch := by
  rw [resolveSubtree, resolveSubtree, if_pos unset, if_pos unset]

/-- A change of the tree keeps the admins in step exactly where it leaves what lies below their
branches. -/
theorem changeTree_inStep_iff (site : Site) (call : TreeCall) (idle : site.queue = [])
    (held : site.InStep) : (site.changeTree call).InStep ↔ site.LeavesScopes call := by
  have changed := changeTree_changed idle call
  rw [InStep, changed.scopes, changed.userPermissions, LeavesScopes]
  cases placement : site.placed call with
  | none =>
    have same := changed.links
    rw [placement] at same
    refine iff_of_true (fun doc inside active => ?_) fun node target none => nomatch none
    by_cases set : doc.branch = ""
    · rw [resolveSubtree_unset set site.branches]
      exact held doc inside active
    · rw [resolves_iff set, same]
      exact (resolves_iff set).mp (held doc inside active)
  | some placing =>
    obtain ⟨node, target⟩ := placing
    have links := changed.links
    rw [placement] at links
    constructor
    · intro kept _ _ same doc inside active set
      cases same
      exact (resolves_moved_iff set links (held doc inside active)).mp (kept doc inside active)
    · intro leaves doc inside active
      by_cases set : doc.branch = ""
      · rw [resolveSubtree_unset set site.branches]
        exact held doc inside active
      · exact (resolves_moved_iff set links (held doc inside active)).mpr
          (leaves node target rfl doc inside active set)

end Site

/-- Throughout a run of changes of the tree, from a site whose admins are in step and where no job
waits, they are in step exactly where no change disturbs what lies below their branches. -/
theorem permissions_follow_iff (start : Site) (calls : List TreeCall) (idle : start.queue = [])
    (held : start.InStep) : EveryState Site.changeTree Site.InStep start calls ↔
      EveryCall Site.changeTree Site.LeavesScopes start calls :=
  everyState_iff_everyCall (fun site => site.queue = [])
    (fun _ call idle => (Site.changeTree_changed idle call).queue)
    (fun site call idle held => site.changeTree_inStep_iff call idle held) idle held

/-- A scope that is saved for a user without a scope in force leaves the admins in step. -/
theorem insertScope_inStep {site next : Site} {doc : BranchAdminScope} (held : site.InStep)
    (first : ∀ other ∈ site.scopes.rows, other.isActive = true → other.user ≠ doc.user)
    (saved : insertScope site doc = .ok next) : next.InStep := by
  obtain ⟨names, valid, fresh, same⟩ := insertScope_iff.mp saved
  rw [same]
  intro row inside active
  show ∃ found, resolveSubtree site.branches row.branch = .ok found ∧ ∀ branch,
    (row.user, branch) ∈ syncBranchScope site.userPermissions doc.user names ↔ branch ∈ found
  cases (Table.mem_add fresh).mp inside with
  | inl old =>
    obtain ⟨found, resolved, permits⟩ := held row old active
    refine ⟨found, resolved, fun branch => ?_⟩
    rw [mem_syncBranchScope, if_neg (first row old active)]
    exact permits branch
  | inr new =>
    rw [new]
    refine ⟨names, valid.resolved, fun branch => ?_⟩
    rw [mem_syncBranchScope, if_pos rfl]

/-- Two roots, and a hill below the first. -/
def hillBelowNorth : Table Branch Branch.name :=
  ⟨[⟨"North", "Flock", none, 1, 4⟩, ⟨"Hill", "Flock", some "North", 2, 3⟩,
    ⟨"South", "Flock", none, 5, 6⟩], by decide⟩

/-- Nobody administers a branch. -/
def withoutAdmins : Site := ⟨hillBelowNorth, Table.empty BranchAdminScope.name, [], []⟩

/-- The first root is given to ann. -/
def annOfNorth : Site :=
  settled withoutAdmins (insertScope withoutAdmins (newScope "ann" "North" none true))

/-- The bounds with the hill below the second root. -/
def hillBelowSouth : String → Int × Int
  | "North" => (1, 2)
  | "South" => (3, 6)
  | _ => (4, 5)

/-- A hill that moves below another root stays with the admin of the first. -/
theorem moved_hill_stays_permitted : ¬ EveryState Site.changeTree Site.InStep annOfNorth
    [.reparent "Hill" (some "South") hillBelowSouth] := by
  intro throughout
  have ⟨names, resolved, permits⟩ := throughout.last (newScope "ann" "North" none true)
    (by decide +kernel) rfl
  have alone : resolveSubtree (runAll Site.changeTree annOfNorth
      [.reparent "Hill" (some "South") hillBelowSouth]).branches "North" = .ok ["North"] := by
    decide +kernel
  cases resolved.symm.trans alone
  exact absurd ((permits "Hill").mp (by decide +kernel)) (by decide)

/-- The scope of ann follows the tree exactly where the hill stays below the first root. -/
theorem permissions_follow_iff_north :
    EveryState Site.changeTree Site.InStep annOfNorth
        [.reparent "Hill" (some "South") hillBelowSouth] ↔
      EveryCall Site.changeTree Site.LeavesScopes annOfNorth
        [.reparent "Hill" (some "South") hillBelowSouth] := by
  have saved : insertScope withoutAdmins (newScope "ann" "North" none true) = .ok annOfNorth := rfl
  refine permissions_follow_iff annOfNorth _ rfl (insertScope_inStep ?_ ?_ saved)
  · exact fun _ inside => nomatch inside
  · exact fun _ inside => nomatch inside

end FlockOs.BranchAdmin
