import FlockOs.Lib.Keys
import FlockOs.Roster
import FlockOs.Verif.ScopeAnchors

/-!
# Rosters stay sound

Whatever groups, members and edges are saved one after another, a person is on a roster once, an
e-mail stands for one member of a branch, and every name and option is what the rules make of it.
The branch that an edge copies from its group stays right exactly as long as no group with a roster
is saved into another branch.
-/

namespace FlockOs.Roster

open Lib ScopeAnchors Trees

variable {roll next : Roll}

/-- The key `(email, branch)`, for a member with an e-mail. -/
def personKey (doc : Member) : Option (String × String) :=
  (truthy doc.email).map fun email => (email, doc.branch)

/-- The key `(group, member)`. -/
def placeKey (doc : GroupMember) : Option (String × String) := some (doc.group, doc.member)

/-- A key is a duplicate of its copies where there is one. -/
theorem isDuplicatePair_replicate (key : String × String) (count : Nat) :
    isDuplicatePair key (List.replicate count key) = true ↔ count ≠ 0 := by
  cases count with
  | zero => simp [isDuplicatePair]
  | succ count => simp [isDuplicatePair, List.replicate_succ]

/-- A member with an e-mail has the key of another exactly where it has its e-mail and branch. -/
theorem personKey_iff {doc other : Member} {email : String} (given : truthy doc.email = some email) :
    personKey other = some (email, doc.branch) ↔
      other.email = doc.email ∧ other.branch = doc.branch := by
  have own : doc.email = some email := truthy_eq_some given
  have set : truthy (some email) = some email := truthy_some (truthy_nonempty given)
  rw [personKey, own]
  constructor
  · intro same
    obtain ⟨found, had, pair⟩ := Option.map_eq_some_iff.mp same
    have parts := Prod.mk.inj pair
    exact ⟨by rw [truthy_eq_some had, parts.1], parts.2⟩
  · intro same
    rw [same.1, same.2, set]
    rfl

/-- The check of an e-mail lets through what no other member shares. -/
theorem email_unique_iff {doc : Member} : validateEmailBranchUniqueness roll doc = .ok () ↔
    roll.members.Unshared personKey doc := by
  unfold validateEmailBranchUniqueness Table.Unshared
  cases given : truthy doc.email with
  | none => simp [personKey, given]
  | some email =>
    have key : personKey doc = some (email, doc.branch) := by simp [personKey, given]
    have others : (sameEmail roll doc).length ≠ 0 ↔ ∃ other ∈ roll.members.rows,
        other.name ≠ doc.name ∧ personKey other = some (email, doc.branch) := by
      simp only [sameEmail, List.length_map, ne_eq, List.length_eq_zero_iff, List.filter_eq_nil_iff,
        personKey_iff given]
      simp only [Bool.and_eq_true, decide_eq_true_eq, beq_iff_eq, bne_iff_ne, ne_eq, not_forall,
        not_not, exists_prop]
      apply exists_congr
      intro other
      tauto
    dsimp only
    rw [key]
    by_cases shared : (sameEmail roll doc).length ≠ 0
    · rw [if_pos ((isDuplicatePair_replicate _ _).mpr shared)]
      obtain ⟨other, there, apart, same⟩ := others.mp shared
      simp only [reduceCtorEq, false_iff]
      intro unshared
      exact unshared _ rfl other there apart same
    · rw [if_neg (mt (isDuplicatePair_replicate _ _).mp shared)]
      simp only [true_iff]
      intro value same other there apart held
      rw [← same] at held
      exact shared (others.mpr ⟨other, there, apart, held⟩)

/-- The check of a place lets through what no other edge shares. -/
theorem place_unique_iff {doc : GroupMember} : validateGroupMemberUniqueness roll doc = .ok () ↔
    roll.roster.Unshared placeKey doc := by
  unfold validateGroupMemberUniqueness Table.Unshared
  have others : (samePlace roll doc).length ≠ 0 ↔ ∃ other ∈ roll.roster.rows,
      other.name ≠ doc.name ∧ placeKey other = placeKey doc := by
    simp only [samePlace, List.length_map, ne_eq, List.length_eq_zero_iff, List.filter_eq_nil_iff,
      placeKey, Option.some.injEq, Prod.mk.injEq]
    simp only [Bool.and_eq_true, beq_iff_eq, bne_iff_ne, ne_eq, not_forall, not_not, exists_prop]
    apply exists_congr
    intro other
    tauto
  dsimp only
  by_cases shared : (samePlace roll doc).length ≠ 0
  · rw [if_pos ((isDuplicatePair_replicate _ _).mpr shared)]
    obtain ⟨other, there, apart, same⟩ := others.mp shared
    simp only [reduceCtorEq, false_iff]
    intro unshared
    exact unshared _ rfl other there apart same
  · rw [if_neg (mt (isDuplicatePair_replicate _ _).mp shared)]
    simp only [true_iff]
    intro value same other there apart held
    exact shared (others.mpr ⟨other, there, apart, held.trans same.symm⟩)

/-- A field with options holds one of them. -/
theorem validateOption_iff {field value : String} {options : List String} :
    validateOption field value options = .ok () ↔ value ∈ options := by
  unfold validateOption
  by_cases inside : value ∈ options
  · simp [inside]
  · simp [inside]

/-- A member as the rules leave it. -/
structure MemberSound (doc : Member) : Prop where
  /-- The full name is made of the two names. -/
  named : computeMemberFullName doc.firstName doc.lastName = .ok doc.fullName
  /-- The status is an option. -/
  status : doc.status ∈ memberStatusOptions
  /-- The branch is set. -/
  anchored : doc.branch ≠ ""

/-- An edge as the rules leave it. -/
structure EdgeSound (roll : Roll) (edge : GroupMember) : Prop where
  /-- The role is an option. -/
  role : edge.role ∈ groupMemberRoleOptions
  /-- The status is an option. -/
  status : edge.status ∈ groupMemberStatusOptions
  /-- The member is one of the site. -/
  member : edge.member ∈ roll.members.rows.map Member.name

/-- An edge has the branch of its group. -/
def BoundEdge (roll : Roll) (edge : GroupMember) : Prop :=
  ∃ branch, edge.branch = some branch ∧ roll.site.groupBranch edge.group = some branch

/-- What the checks of a member let through is sound, under its name, and shares no e-mail. -/
theorem checkMember_ok {doc filled : Member} (checked : checkMember roll doc = .ok filled) :
    filled.name = doc.name ∧ MemberSound filled ∧ roll.members.Unshared personKey filled := by
  simp only [checkMember, validateMember, bind_eq_ok_iff] at checked
  obtain ⟨_, _, _, _, stored, ⟨fullName, named, _, status, _, unique, same⟩, rest⟩ := checked
  cases same
  split at rest
  · cases rest
  · next anchored =>
    cases rest
    have option : doc.status ∈ memberStatusOptions := validateOption_iff.mp status
    exact ⟨rfl, ⟨named, option, anchored⟩, email_unique_iff.mp unique⟩

/-- An edge takes the branch of its group, and keeps all else but the organization. -/
theorem denormalize_ok {doc filled : GroupMember}
    (denormalized : denormalizeBranchAndOrg roll doc = .ok filled) :
    BoundEdge roll filled ∧ filled.name = doc.name ∧ filled.group = doc.group ∧
      filled.member = doc.member ∧ filled.role = doc.role ∧ filled.status = doc.status := by
  unfold denormalizeBranchAndOrg at denormalized
  cases found : roll.site.groups.find? doc.group with
  | none =>
    rw [found] at denormalized
    cases denormalized
  | some group =>
    rw [found] at denormalized
    simp only [bind_eq_ok_iff] at denormalized
    obtain ⟨branch, copied, _, _, same⟩ := denormalized
    cases same
    unfold denormalizeGroupMemberBranch at copied
    split at copied
    · cases copied
    · cases copied
      have bound : roll.site.groupBranch doc.group = some group.branch := by
        rw [Site.groupBranch, found, Option.map_some]
      exact ⟨⟨group.branch, rfl, bound⟩, rfl, rfl, rfl, rfl, rfl⟩

/-- What the checks of an edge let through is sound, under its name, has the branch of its group,
and shares no place. -/
theorem checkGroupMember_ok {doc filled : GroupMember}
    (checked : checkGroupMember roll doc = .ok filled) :
    filled.name = doc.name ∧ EdgeSound roll filled ∧ BoundEdge roll filled ∧
      roll.roster.Unshared placeKey filled := by
  simp only [checkGroupMember, validateGroupMember, bind_eq_ok_iff] at checked
  obtain ⟨_, _, _, linked, _, _, _, _, stored, valid, rest⟩ := checked
  obtain ⟨_, role, _, status, edge, denormalized, _, unique, same⟩ := valid
  cases same
  obtain ⟨bound, named, _, member, sameRole, sameStatus⟩ := denormalize_ok denormalized
  split at rest
  · cases rest
  · split at rest
    · cases rest
    · next set =>
      cases rest
      have there : filled.member ∈ roll.members.rows.map Member.name := by
        have given : truthy (some doc.member) = some filled.member := by
          rw [member]
          exact truthy_some (member ▸ set)
        exact validateLink_iff.mp linked filled.member given
      have roleOption : filled.role ∈ groupMemberRoleOptions := by
        rw [sameRole]
        exact validateOption_iff.mp role
      have statusOption : filled.status ∈ groupMemberStatusOptions := by
        rw [sameStatus]
        exact validateOption_iff.mp status
      exact ⟨named, ⟨roleOption, statusOption, there⟩, bound, place_unique_iff.mp unique⟩

/-- A member is written, over its row or beside the others. -/
structure WroteMember (roll next : Roll) (doc : Member) : Prop where
  /-- The groups are left. -/
  site : next.site = roll.site
  /-- The rosters are left. -/
  roster : next.roster = roll.roster
  /-- The member is written. -/
  rows : roll.members.Wrote next.members doc

/-- An edge is written, over its row or beside the others. -/
structure WroteEdge (roll next : Roll) (edge : GroupMember) : Prop where
  /-- The groups are left. -/
  site : next.site = roll.site
  /-- The members are left. -/
  members : next.members = roll.members
  /-- The edge is written. -/
  rows : roll.roster.Wrote next.roster edge

/-- A new member is written as the checks leave it. -/
theorem insertMember_ok {doc : Member} (done : insertMember roll doc = .ok next) :
    ∃ filled, MemberSound filled ∧ roll.members.Unshared personKey filled ∧
      WroteMember roll next filled := by
  rw [insertMember, bind_eq_ok_iff] at done
  obtain ⟨filled, checked, rest⟩ := done
  obtain ⟨_, sound, unshared⟩ := checkMember_ok checked
  split at rest
  · next fresh =>
    cases rest
    exact ⟨filled, sound, unshared, rfl, rfl, Table.wrote_add fresh⟩
  · cases rest

/-- An edited member is written as the checks leave it. -/
theorem saveMember_ok {doc : Member} (done : saveMember roll doc = .ok next) :
    ∃ filled, MemberSound filled ∧ roll.members.Unshared personKey filled ∧
      WroteMember roll next filled := by
  unfold saveMember at done
  split at done
  · cases done
  · next old stored =>
    rw [bind_eq_ok_iff] at done
    obtain ⟨filled, checked, rest⟩ := done
    obtain ⟨named, sound, unshared⟩ := checkMember_ok checked
    cases rest
    rw [← named] at stored
    exact ⟨filled, sound, unshared, rfl, rfl, Table.wrote_replace stored⟩

/-- A new edge is written as the checks leave it. -/
theorem insertGroupMember_ok {doc : GroupMember} (done : insertGroupMember roll doc = .ok next) :
    ∃ filled, EdgeSound roll filled ∧ BoundEdge roll filled ∧
      roll.roster.Unshared placeKey filled ∧ WroteEdge roll next filled := by
  rw [insertGroupMember, bind_eq_ok_iff] at done
  obtain ⟨filled, checked, rest⟩ := done
  obtain ⟨_, sound, bound, unshared⟩ := checkGroupMember_ok checked
  split at rest
  · next fresh =>
    cases rest
    exact ⟨filled, sound, bound, unshared, rfl, rfl, Table.wrote_add fresh⟩
  · cases rest

/-- An edited edge is written as the checks leave it. -/
theorem saveGroupMember_ok {doc : GroupMember} (done : saveGroupMember roll doc = .ok next) :
    ∃ filled, EdgeSound roll filled ∧ BoundEdge roll filled ∧
      roll.roster.Unshared placeKey filled ∧ WroteEdge roll next filled := by
  unfold saveGroupMember at done
  split at done
  · cases done
  · next old stored =>
    rw [bind_eq_ok_iff] at done
    obtain ⟨filled, checked, rest⟩ := done
    obtain ⟨named, sound, bound, unshared⟩ := checkGroupMember_ok checked
    cases rest
    rw [← named] at stored
    exact ⟨filled, sound, bound, unshared, rfl, rfl, Table.wrote_replace stored⟩

/-- Rosters and people as the rules leave them. -/
structure Roll.Enrolled (roll : Roll) : Prop where
  /-- An e-mail stands for one member of a branch. -/
  person : roll.members.UniqueBy personKey
  /-- A person is on a roster once. -/
  place : roll.roster.UniqueBy placeKey
  /-- The members are sound. -/
  members : ∀ doc ∈ roll.members.rows, MemberSound doc
  /-- The edges are sound. -/
  edges : ∀ edge ∈ roll.roster.rows, EdgeSound roll edge

/-- The edges have the branches of their groups. -/
def Roll.Bound (roll : Roll) : Prop := ∀ edge ∈ roll.roster.rows, BoundEdge roll edge

/-- A group that is saved keeps its branch, or has nobody on its roster. -/
def Roll.KeepsRoster (roll : Roll) : RollCall → Prop
  | .anchor (.saveGroup doc) => GroupPasses roll.site doc →
      ∀ branch, roll.site.groupBranch doc.name = some branch →
        branch = doc.branch ∨ ∀ edge ∈ roll.roster.rows, edge.group ≠ doc.name
  | _ => True

/-- A written member leaves its name among the members. -/
theorem WroteMember.names {doc : Member} (wrote : WroteMember roll next doc) {name : String}
    (there : name ∈ roll.members.rows.map Member.name) :
    name ∈ next.members.rows.map Member.name := by
  obtain ⟨row, inside, named⟩ := List.mem_map.mp there
  by_cases same : row.name = doc.name
  · exact List.mem_map.mpr ⟨doc, (wrote.rows doc).mpr (.inr rfl), same ▸ named⟩
  · exact List.mem_map.mpr ⟨row, (wrote.rows row).mpr (.inl ⟨inside, same⟩), named⟩

/-- A written member leaves rosters and people sound. -/
theorem Roll.Enrolled.wroteMember {doc : Member} (held : roll.Enrolled) (sound : MemberSound doc)
    (unshared : roll.members.Unshared personKey doc) (wrote : WroteMember roll next doc) :
    next.Enrolled := by
  have edges : ∀ edge ∈ next.roster.rows, EdgeSound next edge := by
    intro edge there
    rw [wrote.roster] at there
    have before := held.edges edge there
    exact ⟨before.role, before.status, wrote.names before.member⟩
  have place : next.roster.UniqueBy placeKey := by
    rw [wrote.roster]
    exact held.place
  exact ⟨(held.person.wrote_iff wrote.rows).mpr unshared, place,
    wrote.rows.every held.members sound, edges⟩

/-- A written edge leaves rosters and people sound. -/
theorem Roll.Enrolled.wroteEdge {edge : GroupMember} (held : roll.Enrolled)
    (sound : EdgeSound roll edge) (unshared : roll.roster.Unshared placeKey edge)
    (wrote : WroteEdge roll next edge) : next.Enrolled := by
  have edges : ∀ other ∈ next.roster.rows, EdgeSound next other := by
    intro other there
    have before := wrote.rows.every held.edges sound other there
    have member := before.member
    rw [← wrote.members] at member
    exact ⟨before.role, before.status, member⟩
  have person : next.members.UniqueBy personKey := by
    rw [wrote.members]
    exact held.person
  have members : ∀ doc ∈ next.members.rows, MemberSound doc := by
    rw [wrote.members]
    exact held.members
  exact ⟨person, (held.place.wrote_iff wrote.rows).mpr unshared, members, edges⟩

/-- A save of a group or a gathering leaves rosters and people sound. -/
theorem Roll.Enrolled.anchor (held : roll.Enrolled) (site : ScopeAnchors.Site) :
    Roll.Enrolled { roll with site } := by
  have edges : ∀ edge ∈ roll.roster.rows, EdgeSound { roll with site } edge := by
    intro edge there
    have before := held.edges edge there
    exact ⟨before.role, before.status, before.member⟩
  exact ⟨held.person, held.place, held.members, edges⟩

/-- What a roll has, and every save that goes through leaves, a save leaves. -/
theorem step_kept {holds : Roll → Prop} {call : RollCall} (held : holds roll)
    (saved : ∀ next, roll.perform call = .ok next → holds next) : holds (roll.step call) := by
  rw [Roll.step]
  split
  · next after done => exact saved after done
  · exact held

/-- A save of a group or a gathering changes the site alone. -/
theorem step_anchor (roll : Roll) (call : AnchorCall) :
    roll.step (.anchor call) = { roll with site := roll.site.step call } := by
  rw [Roll.step, Roll.perform, Site.step]
  cases roll.site.perform call with
  | error raised => rfl
  | ok site => rfl

/-- Every save keeps rosters and people sound. -/
theorem Roll.Enrolled.step (held : roll.Enrolled) (call : RollCall) : (roll.step call).Enrolled := by
  cases call with
  | anchor call =>
    rw [step_anchor]
    exact held.anchor (roll.site.step call)
  | insertMember doc =>
    apply step_kept held
    intro next done
    obtain ⟨filled, sound, unshared, wrote⟩ := insertMember_ok done
    exact held.wroteMember sound unshared wrote
  | saveMember doc =>
    apply step_kept held
    intro next done
    obtain ⟨filled, sound, unshared, wrote⟩ := saveMember_ok done
    exact held.wroteMember sound unshared wrote
  | insertGroupMember doc =>
    apply step_kept held
    intro next done
    obtain ⟨filled, sound, bound, unshared, wrote⟩ := insertGroupMember_ok done
    exact held.wroteEdge sound unshared wrote
  | saveGroupMember doc =>
    apply step_kept held
    intro next done
    obtain ⟨filled, sound, bound, unshared, wrote⟩ := saveGroupMember_ok done
    exact held.wroteEdge sound unshared wrote

/-- A written member leaves the edges in the branches of their groups. -/
theorem Roll.Bound.wroteMember {doc : Member} (held : roll.Bound)
    (wrote : WroteMember roll next doc) : next.Bound := by
  intro edge there
  rw [wrote.roster] at there
  rw [BoundEdge, wrote.site]
  exact held edge there

/-- A written edge leaves the edges in the branches of their groups. -/
theorem Roll.Bound.wroteEdge {edge : GroupMember} (held : roll.Bound) (bound : BoundEdge roll edge)
    (wrote : WroteEdge roll next edge) : next.Bound := by
  intro other there
  have before := wrote.rows.every held bound other there
  rw [BoundEdge, wrote.site]
  exact before

/-- A site with the same groups has the same edges in the branches of their groups. -/
theorem Roll.Bound.sameGroups {site : ScopeAnchors.Site} (held : roll.Bound)
    (same : site.groups = roll.site.groups) : Roll.Bound { roll with site } := by
  intro edge there
  obtain ⟨branch, copied, bound⟩ := held edge there
  have after : site.groupBranch edge.group = some branch := by
    rw [Site.groupBranch, same]
    exact bound
  exact ⟨branch, copied, after⟩

/-- A written group leaves the edges in the branches of their groups exactly where it keeps its
branch or has nobody on its roster. -/
theorem Roll.Bound.wroteGroup_iff {site : ScopeAnchors.Site} {doc : Group} (held : roll.Bound)
    (wrote : roll.site.Wrote site doc) : Roll.Bound { roll with site } ↔
      ∀ branch, roll.site.groupBranch doc.name = some branch →
        branch = doc.branch ∨ ∀ edge ∈ roll.roster.rows, edge.group ≠ doc.name := by
  constructor
  · intro after branch before
    by_cases same : branch = doc.branch
    · exact .inl same
    · refine .inr fun edge there own => ?_
      obtain ⟨old, copied, bound⟩ := held edge there
      obtain ⟨new, kept, moved⟩ := after edge there
      have known : old = branch := Option.some.inj (bound.symm.trans (own ▸ before))
      have stays : new = old := Option.some.inj (kept.symm.trans copied)
      rw [stays] at moved
      have written := (wrote.bound_iff bound).mp moved own
      exact same (known.symm.trans written.symm)
  · intro keeps edge there
    obtain ⟨branch, copied, bound⟩ := held edge there
    refine ⟨branch, copied, (wrote.bound_iff bound).mpr fun own => ?_⟩
    cases keeps branch (own ▸ bound) with
    | inl same => exact same.symm
    | inr nobody => exact absurd own (nobody edge there)

/-- A new group leaves the edges in the branches of their groups. -/
theorem Roll.Bound.insertGroup {site : ScopeAnchors.Site} {doc : Group} (held : roll.Bound)
    (done : ScopeAnchors.insertGroup roll.site doc = .ok site) :
    Roll.Bound { roll with site } := by
  obtain ⟨passes, fresh, same⟩ := Site.insertGroup_iff.mp done
  rw [same]
  apply (held.wroteGroup_iff (Site.add_wrote fresh)).mpr
  intro branch before
  exact absurd (mem_of_groupBranch before) fresh

/-- The save of a group leaves the edges in the branches of their groups exactly where it keeps its
branch or has nobody on its roster. -/
theorem Roll.Bound.saveGroup_iff (held : roll.Bound) (doc : Group) :
    Roll.Bound { roll with site := roll.site.step (.saveGroup doc) } ↔
      roll.KeepsRoster (.anchor (.saveGroup doc)) := by
  rw [Roll.KeepsRoster]
  cases outcome : roll.site.perform (.saveGroup doc) with
  | error raised =>
    rw [Site.step_error outcome]
    apply iff_of_true held
    intro passes branch before
    obtain ⟨old, stored, _⟩ := Option.map_eq_some_iff.mp before
    have done := Site.saveGroup_iff.mpr ⟨passes, ⟨old, stored⟩, rfl⟩
    rw [Site.perform, done] at outcome
    cases outcome
  | ok site =>
    obtain ⟨passes, ⟨old, stored⟩, same⟩ := Site.saveGroup_iff.mp outcome
    rw [Site.step_ok outcome, same, held.wroteGroup_iff (Site.replace_wrote stored)]
    constructor
    · intro keeps _
      exact keeps
    · intro keeps
      exact keeps passes

/-- A save of a group or a gathering leaves the edges in the branches of their groups exactly where
it keeps the branch of a group with a roster. -/
theorem Roll.Bound.anchor_iff (held : roll.Bound) (call : AnchorCall) :
    (roll.step (.anchor call)).Bound ↔ roll.KeepsRoster (.anchor call) := by
  rw [step_anchor]
  cases call with
  | insertGroup groupName branch organization parentGroup =>
    apply iff_of_true _ trivial
    cases outcome : roll.site.perform (.insertGroup groupName branch organization parentGroup) with
    | error raised =>
      rw [Site.step_error outcome]
      exact held
    | ok site =>
      rw [Site.step_ok outcome]
      exact held.insertGroup outcome
  | saveGroup doc => exact held.saveGroup_iff doc
  | insertGathering doc =>
    apply iff_of_true _ trivial
    cases outcome : roll.site.perform (.insertGathering doc) with
    | error raised =>
      rw [Site.step_error outcome]
      exact held
    | ok site =>
      obtain ⟨_, _, same⟩ := Site.insertGathering_iff.mp outcome
      rw [Site.step_ok outcome, same]
      exact held.sameGroups rfl
  | saveGathering doc =>
    apply iff_of_true _ trivial
    cases outcome : roll.site.perform (.saveGathering doc) with
    | error raised =>
      rw [Site.step_error outcome]
      exact held
    | ok site =>
      obtain ⟨_, _, _, same⟩ := Site.saveGathering_iff.mp outcome
      rw [Site.step_ok outcome, same]
      exact held.sameGroups rfl

/-- A save leaves the edges in the branches of their groups exactly where it keeps the branch of a
group with a roster. -/
theorem Roll.Bound.step_iff (held : roll.Bound) (call : RollCall) :
    (roll.step call).Bound ↔ roll.KeepsRoster call := by
  cases call with
  | anchor call => exact held.anchor_iff call
  | insertMember doc =>
    apply iff_of_true _ trivial
    apply step_kept held
    intro next done
    obtain ⟨filled, sound, unshared, wrote⟩ := insertMember_ok done
    exact held.wroteMember wrote
  | saveMember doc =>
    apply iff_of_true _ trivial
    apply step_kept held
    intro next done
    obtain ⟨filled, sound, unshared, wrote⟩ := saveMember_ok done
    exact held.wroteMember wrote
  | insertGroupMember doc =>
    apply iff_of_true _ trivial
    apply step_kept held
    intro next done
    obtain ⟨filled, sound, bound, unshared, wrote⟩ := insertGroupMember_ok done
    exact held.wroteEdge bound wrote
  | saveGroupMember doc =>
    apply iff_of_true _ trivial
    apply step_kept held
    intro next done
    obtain ⟨filled, sound, bound, unshared, wrote⟩ := saveGroupMember_ok done
    exact held.wroteEdge bound wrote

/-- A site before anybody is a member. -/
def unenrolled (site : ScopeAnchors.Site) : Roll where
  site := site

/-- Throughout every run of saves from a site without members, an e-mail stands for one member of a
branch, a person is on a roster once, and names and options are what the rules make of them. The
edges have the branches of their groups throughout exactly where no group with a roster is saved
into another branch. -/
theorem rosters_sound (site : ScopeAnchors.Site) (calls : List RollCall) :
    EveryState Roll.step Roll.Enrolled (unenrolled site) calls ∧
      (EveryState Roll.step Roll.Bound (unenrolled site) calls ↔
        EveryCall Roll.step Roll.KeepsRoster (unenrolled site) calls) := by
  have enrolled : (unenrolled site).Enrolled :=
    ⟨Table.uniqueBy_empty, Table.uniqueBy_empty, by simp [unenrolled, Table.empty],
      by simp [unenrolled, Table.empty]⟩
  have bound : (unenrolled site).Bound := by simp [Roll.Bound, unenrolled, Table.empty]
  have all : EveryCall Roll.step (fun _ _ => True) (unenrolled site) calls :=
    everyCall_of_forall _ (by simp)
  constructor
  · exact everyState_of_everyCall Roll.Enrolled (fun _ call held _ => held.step call)
      (fun _ held => held) enrolled all
  · exact everyState_iff_everyCall (fun _ => True) (fun _ _ _ => trivial)
      (fun _ call _ held => held.step_iff call) trivial bound

end FlockOs.Roster
