import FlockOs.Portal
import FlockOs.Verif.AudiencePreview

/-!
# The picker and the server agree

What the compose page lets an admin pick is what the calls behind it accept: in the organization
that the page sends, a target passes the checks of `scheduling.py` exactly when the form offers it.
A scoped admin is also offered the branches that the User Permissions name in other organizations,
and those are refused. Only the preview comes to an end: to schedule is no request that the
framework answers, a publish raises, and both leave the draft that was inserted for them.
-/

namespace FlockOs.Portal

open Lib Directory Notifications Permissions Scheduling Trees

section Offers

variable {site : Site} {user : String} {context : ComposeContext}

/-- A context is built of what the gateway returns, for an admin. -/
theorem context_eq {gateway : ComposeGateway}
    (built : buildComposeContext user gateway = .ok context) :
    isComposeAdmin (gateway.getUserRoles user) = true ∧
      context.organization = gateway.getUserOrganization user ∧
      context.branches = (gateway.targetableBranches user).map (branchRow gateway) ∧
      context.groups = ((gateway.groupsForBranches (gateway.targetableBranches user)).filter
        fun row => (gateway.targetableBranches user).contains row.branch).map labelled ∧
      context.roles = gateway.getUserRoles user := by
  unfold buildComposeContext at built
  dsimp only at built
  split at built
  · cases built
  · rename_i admin
    cases built
    exact ⟨not_not.mp admin, rfl, rfl, rfl, rfl⟩

/-- The page is not built for nobody. -/
theorem user_ne_empty (built : buildComposeContext user (frappeComposeGateway site) = .ok context) :
    user ≠ "" := by
  intro empty
  have admin := (context_eq built).1
  simp [frappeComposeGateway, empty, isComposeAdmin, anyRole] at admin

/-- The branches of the picker are the targetable ones. -/
theorem branch_names (built : buildComposeContext user (frappeComposeGateway site) = .ok context) :
    context.branches.map BranchRow.name = site.targetableBranches user := by
  rw [(context_eq built).2.2.1, List.map_map]
  exact List.map_id _

/-- The row of a group has its name and its branch, which is one of those asked for. -/
theorem groupRow_spec (branches : List String) (group : Group) (name branch : String) :
    (∃ row, site.groupRow branches group = some row ∧ row.name = name ∧ row.branch = branch) ↔
      group.name = name ∧ group.branch = some branch ∧ branch ∈ branches := by
  cases anchored : group.branch with
  | none => simp [Site.groupRow, anchored]
  | some own =>
    by_cases asked : own ∈ branches
    · simp only [Site.groupRow, anchored, Option.filter, List.contains_iff_mem, asked, if_true,
        Option.some.injEq, exists_eq_left']
      constructor
      · intro both
        exact ⟨both.1, both.2, both.2 ▸ asked⟩
      · intro all
        exact ⟨all.1, all.2.1⟩
    · simp only [Site.groupRow, anchored, Option.filter, List.contains_iff_mem, asked, if_false,
        reduceCtorEq, false_and, exists_false, Option.some.injEq, false_iff]
      intro all
      exact asked (all.2.1 ▸ all.2.2)

/-- A group is offered under the branch of its row, where that branch is targetable. -/
theorem group_offered (built : buildComposeContext user (frappeComposeGateway site) = .ok context)
    (name branch : String) :
    (∃ row ∈ context.groups, row.name = name ∧ row.branch = branch) ↔
      branch ∈ site.targetableBranches user ∧
        ∃ group ∈ site.tables.groups.rows, group.name = name ∧ group.branch = some branch := by
  rw [(context_eq built).2.2.2.1]
  simp only [frappeComposeGateway, Site.groupsForBranches, List.mem_map, List.mem_filter,
    List.mem_mergeSort, List.mem_filterMap]
  constructor
  · intro offered
    obtain ⟨_, ⟨row, ⟨⟨group, there, read⟩, _⟩, rfl⟩, named, anchored⟩ := offered
    have spec := (groupRow_spec _ group name branch).mp ⟨row, read, named, anchored⟩
    exact ⟨spec.2.2, group, there, spec.1, spec.2.1⟩
  · intro both
    obtain ⟨targetable, group, there, named, anchored⟩ := both
    obtain ⟨row, read, named', anchored'⟩ :=
      (groupRow_spec (site.targetableBranches user) group name branch).mpr
        ⟨named, anchored, targetable⟩
    have inside : (site.targetableBranches user).contains row.branch = true := by
      rw [anchored', List.contains_iff_mem]
      exact targetable
    exact ⟨labelled row, ⟨row, ⟨⟨group, there, read⟩, inside⟩, rfl⟩, named', anchored'⟩

/-- The form offers a targetable branch, alone or with a group of that branch. -/
theorem mem_picks (built : buildComposeContext user (frappeComposeGateway site) = .ok context)
    (branch : String) (group : Option String) :
    (branch, group) ∈ context.picks ↔ (branch ∈ site.targetableBranches user ∧ branch ≠ "") ∧
      ∀ name, group = some name →
        ∃ row ∈ site.tables.groups.rows, row.name = name ∧ row.branch = some branch := by
  have names := branch_names built
  have listed : branch ∈ site.targetableBranches user ∧ branch ≠ "" ↔
      ∃ row ∈ context.branches.filter (fun row => row.name != ""), row.name = branch := by
    simp only [← names, List.mem_map, List.mem_filter, bne_iff_ne]
    constructor
    · intro both
      obtain ⟨⟨row, there, same⟩, chosen⟩ := both
      exact ⟨row, ⟨there, same ▸ chosen⟩, same⟩
    · intro found
      obtain ⟨row, ⟨there, chosen⟩, same⟩ := found
      exact ⟨⟨row, there, same⟩, same ▸ chosen⟩
  have beside (name : String) : name ∈ context.groupsOf branch ↔
      ∃ row ∈ context.groups, row.name = name ∧ row.branch = branch := by
    simp only [ComposeContext.groupsOf, List.mem_map, List.mem_filter, beq_iff_eq]
    constructor
    · intro found
      obtain ⟨row, ⟨there, anchored⟩, named⟩ := found
      exact ⟨row, there, named, anchored⟩
    · intro found
      obtain ⟨row, there, named, anchored⟩ := found
      exact ⟨row, ⟨there, anchored⟩, named⟩
  have picked : (branch, group) ∈ context.picks ↔
      (∃ row ∈ context.branches.filter (fun row => row.name != ""), row.name = branch) ∧
        (group = none ∨ ∃ name ∈ context.groupsOf branch, group = some name) := by
    simp only [ComposeContext.picks, List.mem_flatMap, List.mem_cons, List.mem_map, Prod.mk.injEq]
    constructor
    · intro found
      obtain ⟨row, there, ⟨same, alone⟩ | ⟨name, near, same, named⟩⟩ := found
      · exact ⟨⟨row, there, same.symm⟩, .inl alone⟩
      · rw [← same]
        exact ⟨⟨row, there, rfl⟩, .inr ⟨name, near, named.symm⟩⟩
    · intro both
      obtain ⟨⟨row, there, same⟩, alone | ⟨name, near, named⟩⟩ := both
      · exact ⟨row, there, .inl ⟨same.symm, alone⟩⟩
      · rw [← same] at near
        exact ⟨row, there, .inr ⟨name, near, same, named.symm⟩⟩
  rw [picked, ← listed]
  constructor
  · intro both
    refine ⟨both.1, fun name given => ?_⟩
    cases both.2 with
    | inl alone =>
      rw [alone] at given
      cases given
    | inr found =>
      obtain ⟨other, near, named⟩ := found
      have same : other = name := Option.some.inj (named.symm.trans given)
      exact ((group_offered built name branch).mp ((beside name).mp (same ▸ near))).2
  · intro both
    refine ⟨both.1, ?_⟩
    cases given : group with
    | none => exact .inl rfl
    | some name =>
      have found := (group_offered built name branch).mpr ⟨both.1.1, both.2 name given⟩
      exact .inr ⟨name, (beside name).mpr found, rfl⟩

end Offers

section Calls

variable {site : Site} {user organization branch : String} {group : Option String}

/-- A branch that exists in an organization has a row there. -/
theorem row_of_branchExists (belongs : branchExists site.branches branch organization = true) :
    organization ≠ "" ∧
      ∃ row ∈ site.branches.rows, row.name = branch ∧ row.organization = organization := by
  rw [branchExists] at belongs
  split at belongs
  · cases belongs
  · rename_i row found
    obtain ⟨there, same⟩ := site.branches.find?_eq_some.mp found
    have own : row.organization ≠ "" ∧ row.organization = organization := by simpa using belongs
    exact ⟨own.2 ▸ own.1, row, there, same, own.2⟩

/-- The validation lets an admitted scope through. -/
theorem valid_of_admitted
    (admitted : Admitted site.tables site.branches organization branch group) :
    validateAnnouncementScope (previewed organization branch group)
      (frappeSchedulingGateway site.tables site.branches) = .ok () := by
  have tenant : truthy (previewed organization branch group).organization = some organization :=
    truthy_some admitted.tenant
  have anchor : truthy (previewed organization branch group).branch = some branch :=
    truthy_some admitted.anchored
  have checked : validateAnnouncementGroup group branch
      (frappeSchedulingGateway site.tables site.branches) = .ok () := by
    unfold validateAnnouncementGroup
    cases given : truthy group with
    | none => rfl
    | some name =>
      have own := admitted.bound name given
      obtain ⟨row, found, anchored⟩ := Option.bind_eq_some_iff.mp own
      simp [frappeSchedulingGateway, found, anchored, truthy_some admitted.anchored]
  have belongs : (frappeSchedulingGateway site.tables site.branches).branchExists branch
      organization = true := admitted.belongs
  unfold validateAnnouncementScope
  rw [tenant, anchor]
  dsimp only
  rw [if_neg (not_not_intro belongs)]
  have group' : (previewed organization branch group).group = group := rfl
  rw [group', checked]
  rfl

/-- A user passes the author guard with a global role, or with a permission for the branch. -/
theorem author_passes_iff (named : user ≠ "") (anchored : branch ≠ "") :
    frappeAuthorBranchScope site.tables user branch = .ok () ↔
      anyRole (site.tables.getRoles user) globalBranchRoles = true ∨
        branch ∈ site.tables.listBranchUserPermissions user := by
  unfold frappeAuthorBranchScope assertBranchScope canAccessBranch
  rw [if_neg named]
  by_cases everywhere : anyRole (site.tables.getRoles user) globalBranchRoles = true
  · simp [frappePermissionGateway, everywhere]
  · simp [frappePermissionGateway, everywhere, truthy_some anchored]

/-- Within the organization of the page, the targetable branches are those that the author guard
lets pass. -/
theorem targetable_iff (named : user ≠ "") (anchored : branch ≠ "")
    (known : site.getUserOrganization user = some organization)
    (belongs : branchExists site.branches branch organization = true) :
    branch ∈ site.targetableBranches user ↔
      frappeAuthorBranchScope site.tables user branch = .ok () := by
  rw [author_passes_iff named anchored, Site.targetableBranches, if_neg named]
  by_cases everywhere : anyRole (site.tables.getRoles user) globalBranchRoles = true
  · rw [if_pos everywhere]
    simp only [everywhere, true_or, iff_true]
    obtain ⟨tenant, row, there, same, own⟩ := row_of_branchExists belongs
    rw [known, truthy_some tenant]
    dsimp only
    rw [List.mem_mergeSort, List.mem_map]
    exact ⟨row, List.mem_filter.mpr ⟨there, by simpa using own⟩, same⟩
  · rw [if_neg everywhere]
    simp [everywhere]

/-- The two checks that stand at the head of the calls. -/
theorem admitted_iff_picked {context : ComposeContext}
    (built : buildComposeContext user (frappeComposeGateway site) = .ok context)
    (known : context.organization = some organization) :
    (validateAnnouncementScope (previewed organization branch group)
          (frappeSchedulingGateway site.tables site.branches) = .ok () ∧
        frappeAuthorBranchScope site.tables user branch = .ok ()) ↔
      (branch, truthy group) ∈ context.picks ∧
        branchExists site.branches branch organization = true := by
  have named := user_ne_empty built
  have known' : site.getUserOrganization user = some organization :=
    (context_eq built).2.1.symm.trans known
  rw [mem_picks built]
  constructor
  · intro both
    have admitted := admitted_of_valid both.1
    have targetable :=
      (targetable_iff named admitted.anchored known' admitted.belongs).mpr both.2
    refine ⟨⟨⟨targetable, admitted.anchored⟩, fun name given => ?_⟩, admitted.belongs⟩
    obtain ⟨row, found, anchored⟩ := Option.bind_eq_some_iff.mp (admitted.bound name given)
    obtain ⟨there, same⟩ := site.tables.groups.find?_eq_some.mp found
    exact ⟨row, there, same, anchored⟩
  · intro both
    obtain ⟨⟨⟨targetable, anchored⟩, bound⟩, belongs⟩ := both
    have admitted : Admitted site.tables site.branches organization branch group := by
      refine ⟨(row_of_branchExists belongs).1, anchored, belongs, fun name given => ?_⟩
      obtain ⟨row, there, same, own⟩ := bound name given
      rw [site.tables.groups.find?_eq_some.mpr ⟨there, same⟩]
      exact own
    exact ⟨valid_of_admitted admitted,
      (targetable_iff named anchored known' belongs).mp targetable⟩

/-- A document of the form is validated as its target is. -/
theorem buildDoc_valid (content : Announcement) (gateway : SchedulingGateway) :
    validateAnnouncementScope (buildDoc organization branch group content) gateway =
      validateAnnouncementScope (previewed organization branch group) gateway := by
  have undue : ∀ doc : Announcement, doc.current = .draft →
      ¬ (doc.current = .scheduled ∧ doc.scheduledAt = none) := by
    intro doc status due
    rw [status] at due
    cases due.1
  have form : (buildDoc organization branch group content).current = .draft := rfl
  have asked : (previewed organization branch group).current = .draft := rfl
  unfold validateAnnouncementScope
  simp only [if_neg (undue _ form), if_neg (undue _ asked)]
  rfl

end Calls

section Buttons

variable {calls : Scheduling.Site}

/-- The page after a button is pressed: the document is a draft where the framework lets it be
saved. -/
def Draft.left (draft : Draft) (calls : Scheduling.Site) (doc : Announcement) : Draft :=
  match calls.frameworkChecks doc with
  | .ok _ => { draft with stored := some doc }
  | .error _ => draft

/-- A valid document is inserted where the framework lets it be saved. -/
theorem insert_run {doc : Announcement}
    (checked : validateAnnouncementScope doc calls.gateway = .ok ()) (draft : Draft) :
    insert calls doc draft = .ok doc { draft with stored := some doc } ∧
        draft.left calls doc = { draft with stored := some doc } ∨
      ∃ raised, insert calls doc draft = .error raised draft ∧ draft.left calls doc = draft := by
  obtain ⟨_, named⟩ := organization_of_valid checked
  have ran : insert calls doc draft = (Exec.ofExcept (calls.frameworkChecks doc) >>= fun _ =>
      modify (fun draft => { draft with stored := some doc }) >>= fun _ => pure doc :
        Exec Error Draft Announcement) draft := by
    rw [insert, branchOrganizationDefault_eq calls named, checked]
    rfl
  rw [ran, Draft.left]
  cases calls.frameworkChecks doc with
  | ok _ => exact .inl ⟨rfl, rfl⟩
  | error raised => exact .inr ⟨raised, rfl, rfl⟩

/-- What is inserted is stored. -/
theorem stored_of_insert {doc value : Announcement} {draft next : Draft}
    (returned : insert calls doc draft = .ok value next) : next.stored = some value := by
  obtain ⟨_, _, _, returned⟩ := Exec.bind_ok returned
  obtain ⟨_, _, _, returned⟩ := Exec.bind_ok returned
  obtain ⟨_, _, modified, returned⟩ := Exec.bind_ok returned
  cases modified
  cases returned
  rfl

/-- A request that raises for whatever is stored, and leaves it. -/
def Fruitless {α : Type} (call : Announcement → Exec Error Draft α) : Prop :=
  ∀ (doc : Announcement) (draft : Draft), draft.stored = some doc →
    ∃ raised, call doc draft = .error raised draft

/-- A publish is fruitless. -/
theorem fruitless_publish (calls : Scheduling.Site) :
    Fruitless fun doc =>
      request "publish_announcement" (onStored doc (publishAnnouncement calls)) := by
  intro doc draft stored
  obtain ⟨raised, ran⟩ := publish_raises calls ⟨doc, draft.outbox⟩
  refine ⟨raised, ?_⟩
  show onStored doc (publishAnnouncement calls) draft = _
  rw [onStored, ran]
  exact congrArg (EStateM.Result.error raised) (by rw [← stored])

/-- A request to schedule is fruitless: the framework refuses it. -/
theorem fruitless_schedule (calls : Scheduling.Site) :
    Fruitless fun doc =>
      request "schedule_announcement" (onStored doc (scheduleAnnouncement calls)) :=
  fun _ _ _ => ⟨_, rfl⟩

variable {α : Type} {call : Announcement → Exec Error Draft α}

/-- A valid document is left as a draft by a button whose second request is fruitless. -/
theorem button_run (fruitless : Fruitless call) {doc : Announcement}
    (checked : validateAnnouncementScope doc calls.gateway = .ok ()) (draft : Draft) :
    ∃ raised, (request "insert" (insert calls doc) >>= fun doc => call doc >>= fun summary =>
      pure (some summary) : Exec Error Draft (Option α)) draft =
        .error raised (draft.left calls doc) := by
  rcases insert_run checked draft with ⟨inserted, left⟩ | ⟨raised, failed, left⟩
  · obtain ⟨raised, ran⟩ := fruitless doc { draft with stored := some doc } rfl
    refine ⟨raised, ?_⟩
    rw [left, ← Exec.bind_run_error ran fun summary => pure (some summary)]
    exact Exec.bind_run_ok inserted _
  · refine ⟨raised, ?_⟩
    rw [left]
    exact Exec.bind_run_error failed _

/-- A button whose second request is fruitless raises. -/
theorem button_never (fruitless : Fruitless call) (doc : Announcement) (draft : Draft) (result)
    (after : Draft) :
    (request "insert" (insert calls doc) >>= fun doc => call doc >>= fun summary =>
      pure (some summary) : Exec Error Draft (Option α)) draft ≠ .ok result after := by
  intro returned
  obtain ⟨value, next, inserted, returned⟩ := Exec.bind_ok returned
  obtain ⟨_, _, answered, -⟩ := Exec.bind_ok returned
  obtain ⟨raised, ran⟩ := fruitless value next (stored_of_insert inserted)
  rw [ran] at answered
  cases answered

end Buttons

/-- What a page and the calls behind it have to do with each other, for one target. -/
structure Agreement (site : Site) (context : ComposeContext) (organization branch : String)
    (group : Option String) (calls : Scheduling.Site) : Prop where
  /-- A preview is shown of what the form offers in the organization, where the subtree of the
  branch has no cycle. -/
  previewed : (∃ shown, preview calls organization branch group = .ok shown) ↔
    ((branch, truthy group) ∈ context.picks ∧
        branchExists site.branches branch organization = true) ∧
      ∃ branches, resolveAudienceBranches branch calls.gateway = .ok branches
  /-- Of what the form offers in the organization, either button leaves a draft where the framework
  lets it be saved, and raises. -/
  left : (branch, truthy group) ∈ context.picks →
    branchExists site.branches branch organization = true →
    ∀ content draft, valid branch content = true →
      (∃ raised, sendNow calls organization branch group content draft =
        .error raised (draft.left calls (buildDoc organization branch group content))) ∧
      (content.scheduledAt.isSome = true →
        ∃ raised, schedule calls organization branch group content draft =
          .error raised (draft.left calls (buildDoc organization branch group content)))
  /-- Whatever the target, nothing is ever published or scheduled. -/
  never : ∀ content draft,
    (∀ summary after,
      sendNow calls organization branch group content draft ≠ .ok (some summary) after) ∧
    ∀ summary after,
      schedule calls organization branch group content draft ≠ .ok (some summary) after
  /-- The guard of the page passes what the form offers. -/
  guarded : (branch, truthy group) ∈ context.picks →
    assertTargetInContext (some branch) group context = .ok ()
  /-- With a global role, whatever the form offers is of the organization. -/
  everywhere : anyRole context.roles globalBranchRoles = true →
    (branch, truthy group) ∈ context.picks →
      branchExists site.branches branch organization = true

section Page

variable {site : Site} {user : String} {context : ComposeContext} {organization : String}

/-- A preview is its two checks and the walk down the tree. -/
theorem preview_iff (calls : Scheduling.Site) (branch : String) (group : Option String) :
    (∃ preview, previewAudience calls organization branch group = .ok preview) ↔
      (validateAnnouncementScope (previewed organization branch group) calls.gateway = .ok () ∧
          calls.authorScopeGuard branch = .ok ()) ∧
        ∃ branches, resolveAudienceBranches branch calls.gateway = .ok branches := by
  have ran : previewAudience calls organization branch group =
      validateAnnouncementScope (previewed organization branch group) calls.gateway >>= fun _ =>
        calls.authorScopeGuard branch >>= fun _ =>
          resolveAudienceBranches branch calls.gateway >>= fun branches =>
            pure (Preview.mk branches) := rfl
  rw [ran]
  cases validateAnnouncementScope (previewed organization branch group) calls.gateway with
  | error raised => simp [bind, Except.bind]
  | ok _ =>
    cases calls.authorScopeGuard branch with
    | error raised => simp [bind, Except.bind]
    | ok _ =>
      cases resolveAudienceBranches branch calls.gateway with
      | error raised => simp [bind, Except.bind]
      | ok branches => simp [bind, Except.bind, pure, Except.pure]

/-- The guard of the page passes a branch of the picker with any group of the picker. -/
theorem guard_of_picked
    (built : buildComposeContext user (frappeComposeGateway site) = .ok context)
    {branch : String} {group : Option String}
    (picked : (branch, truthy group) ∈ context.picks) :
    assertTargetInContext (some branch) group context = .ok () := by
  obtain ⟨⟨targetable, chosen⟩, bound⟩ := (mem_picks built branch (truthy group)).mp picked
  have offered : (context.branches.map BranchRow.name).contains branch = true := by
    rw [branch_names built, List.contains_iff_mem]
    exact targetable
  unfold assertTargetInContext
  rw [truthy_some chosen]
  dsimp only
  rw [if_neg (not_not_intro offered)]
  cases given : truthy group with
  | none => rfl
  | some name =>
    obtain ⟨row, there, same, _⟩ :=
      (group_offered built name branch).mpr ⟨targetable, bound name given⟩
    have listed : (context.groups.map GroupRow.name).contains name = true := by
      rw [List.contains_iff_mem, List.mem_map]
      exact ⟨row, there, same⟩
    dsimp only
    rw [if_neg (not_not_intro listed)]

/-- With a global role the picker has the branches of the organization only. -/
theorem belongs_of_picked
    (built : buildComposeContext user (frappeComposeGateway site) = .ok context)
    (known : context.organization = some organization)
    (everywhere : anyRole context.roles globalBranchRoles = true)
    {branch : String} {group : Option String} (picked : (branch, group) ∈ context.picks) :
    branchExists site.branches branch organization = true := by
  obtain ⟨⟨targetable, -⟩, -⟩ := (mem_picks built branch group).mp picked
  have named := user_ne_empty built
  have parts := context_eq built
  have known' : site.getUserOrganization user = some organization := parts.2.1.symm.trans known
  have roles : context.roles = site.tables.getRoles user := by
    rw [parts.2.2.2.2]
    simp [frappeComposeGateway, named]
  rw [Site.targetableBranches, if_neg named, if_pos (roles ▸ everywhere), known'] at targetable
  by_cases tenant : organization = ""
  · simp [tenant] at targetable
  · rw [truthy_some tenant] at targetable
    dsimp only at targetable
    rw [List.mem_mergeSort, List.mem_map] at targetable
    obtain ⟨row, inside, same⟩ := targetable
    obtain ⟨there, own⟩ := List.mem_filter.mp inside
    have own' : row.organization = organization := by simpa using own
    rw [branchExists, site.branches.find?_eq_some.mpr ⟨there, same⟩]
    simp [own', tenant]

/-- A button of a form that is not valid sends nothing. -/
theorem ne_of_unsent {α : Type} (sent : Bool) {button : Exec Error Draft (Option α)} {draft : Draft}
    (never : ∀ result after, button draft ≠ .ok result after) (summary : α) (after : Draft) :
    (if sent = true then button else pure none) draft ≠ .ok (some summary) after := by
  cases sent with
  | false => exact fun returned => nomatch returned
  | true => exact never _ after

/-- The form of a page offers what the calls accept from its user, in the organization that the page
sends, and its other two buttons only ever leave drafts. -/
theorem form_agrees
    (built : buildComposeContext user (frappeComposeGateway site) = .ok context)
    (known : context.organization = some organization)
    (branch : String) (group : Option String)
    (frameworkChecks : Announcement → Except Error Unit) (now : Int)
    (datetimeText : Int → String) :
    Agreement site context organization branch group
      (site.scheduling user frameworkChecks now datetimeText) where
  previewed := by
    have routed : preview (site.scheduling user frameworkChecks now datetimeText) organization
        branch group = previewAudience (site.scheduling user frameworkChecks now datetimeText)
          organization branch group := rfl
    rw [routed, preview_iff]
    exact and_congr_left' (admitted_iff_picked built known)
  left := by
    intro picked belongs content draft sent
    have checked : validateAnnouncementScope (buildDoc organization branch group content)
        (frappeSchedulingGateway site.tables site.branches) = .ok () := by
      rw [buildDoc_valid]
      exact ((admitted_iff_picked built known).mpr ⟨picked, belongs⟩).1
    constructor
    · rw [sendNow, if_pos sent]
      exact button_run (fruitless_publish _) checked draft
    · intro due
      rw [schedule, if_pos (by rw [sent, due]; rfl)]
      exact button_run (fruitless_schedule _) checked draft
  never := fun content draft =>
    ⟨ne_of_unsent _ (button_never (fruitless_publish _) _ draft),
      ne_of_unsent _ (button_never (fruitless_schedule _) _ draft)⟩
  guarded := guard_of_picked built
  everywhere := fun global picked => belongs_of_picked built known global picked

end Page

/-- A branch of the tenant and one from abroad. -/
def chapelBranches : List Branch :=
  [{ name := "north", organization := "flock", lft := 1, rgt := 2 },
    { name := "abroad", organization := "herd", lft := 3, rgt := 4 }]

/-- No two of the branches have the same name. -/
theorem chapelBranches_keyed : (chapelBranches.map Branch.name).Nodup := by decide

/-- A site with an admin of both branches. -/
def chapel : Site where
  tables :=
    { getRoles := fun _ => [roleBranchAdmin]
      branchPermissions := [("admin", "north"), ("admin", "abroad")] }
  branches := ⟨chapelBranches, chapelBranches_keyed⟩
  memberOrganization := fun _ => none
  organizations := ["flock"]
  branchName := some
  groupName := some

theorem form_agrees_chapel :
    ∃ context, buildComposeContext "admin" (frappeComposeGateway chapel) = .ok context ∧
      context.organization = some "flock" ∧
      Agreement chapel context "flock" "north" none
        (chapel.scheduling "admin" (fun _ => .ok ()) 0 fun _ => "now") := by
  have built : ∃ context, buildComposeContext "admin" (frappeComposeGateway chapel) = .ok context ∧
      context.organization = some "flock" := ⟨_, rfl, rfl⟩
  obtain ⟨context, built, known⟩ := built
  exact ⟨context, built, known,
    form_agrees built known "north" none (fun _ => .ok ()) 0 fun _ => "now"⟩

end FlockOs.Portal
