import FlockOs.Lib.Text
import FlockOs.Verif.ForestTraversal
import FlockOs.Verif.ScopeAnchors

/-!
# Group paths

The path that a gathering keeps of its group, against `path_to_root`: the walk of the controller is
capped, so that it keeps the nearest names of a deep group only, and no deeper group stands below
another by its path.
-/

namespace FlockOs.ScopeAnchors

open Lib Gatherings Trees

/-- Along a chain that ends, the capped walk keeps the names behind it and as many more as it has
turns. -/
theorem climb_eq {parentGroup : String → Option String} {group : String} {chain : List String}
    (behind : Chains.Behind (fun name => truthy (parentGroup name)) group chain none) :
    ∀ (turns walked : Nat) {current : String}, (group :: chain)[walked]? = some current →
      climb parentGroup turns ((group :: chain).take (walked + 1)) current =
        (group :: chain).take (walked + 1 + turns)
  | 0, walked, current, _ => rfl
  | turns + 1, walked, current, stands => by
    have next : truthy (parentGroup current) = (group :: chain)[walked + 1]? := by
      rw [← behind.visit_eq, Chains.visit, behind.visit_eq, stands]
      rfl
    rw [climb, next]
    cases above : (group :: chain)[walked + 1]? with
    | none =>
      have ended := List.getElem?_eq_none_iff.mp above
      rw [List.take_of_length_le ended, List.take_of_length_le (by omega)]
    | some parent =>
      obtain ⟨inside, found⟩ := List.getElem?_eq_some_iff.mp above
      have whole : (group :: chain).take (walked + 1) ++ [parent] =
          (group :: chain).take (walked + 1 + 1) := by
        rw [← found, List.take_append_getElem]
      have fresh : parent ∉ (group :: chain).take (walked + 1) := by
        have once := List.Sublist.nodup (List.take_sublist (walked + 1 + 1) _) behind.distinct
        rw [← whole] at once
        exact fun there => List.disjoint_of_nodup_append once there List.mem_cons_self
      dsimp only
      rw [if_neg fresh, whole, climb_eq behind turns (walked + 1) above]
      congr 1
      omega

/-- The walk keeps the group and its nearest ancestors. -/
theorem groupPathToRoot_eq {parentGroup : String → Option String} {group : String}
    {chain : List String} (set : group ≠ "")
    (behind : Chains.Behind (fun name => truthy (parentGroup name)) group chain none) :
    groupPathToRoot parentGroup group = (group :: chain).take (groupPathMaxDepth + 1) := by
  rw [groupPathToRoot, if_neg set, Nat.add_comm]
  exact climb_eq behind groupPathMaxDepth 0 rfl

/-- A path is written with a slash before each name, from the root down. -/
theorem toList_buildGroupPath (path : List String) :
    (buildGroupPath path).toList = delimited '/' (path.reverse.map String.toList) := by
  have joined (names : List String) (some : names ≠ []) :
      ("/" ++ "/".intercalate names).toList = delimited '/' (names.map String.toList) := by
    induction names with
    | nil => exact absurd rfl some
    | cons name names ih =>
      cases names with
      | nil => simp [delimited]
      | cons next rest =>
        have further := ih (List.cons_ne_nil next rest)
        rw [String.intercalate_cons_cons, List.map_cons, delimited, List.flatMap_cons, ← delimited,
          ← further]
        simp
  rw [buildGroupPath]
  split
  next empty =>
    rw [empty]
    rfl
  next some => exact joined _ (List.reverse_ne_nil_iff.mpr some)

/-- Paths with clean names can be read back. -/
theorem buildGroupPath_inj {path path' : List String} (clean : ∀ name ∈ path, '/' ∉ name.toList)
    (clean' : ∀ name ∈ path', '/' ∉ name.toList)
    (same : buildGroupPath path = buildGroupPath path') : path = path' := by
  have fields {path : List String} (clean : ∀ name ∈ path, '/' ∉ name.toList) :
      ∀ field ∈ path.reverse.map String.toList, '/' ∉ field := by
    simpa only [List.forall_mem_map, List.mem_reverse] using clean
  have lists := congrArg String.toList same
  rw [toList_buildGroupPath, toList_buildGroupPath] at lists
  have names := delimited_inj (fields clean) (fields clean') lists
  exact List.reverse_injective
    (List.map_injective_iff.mpr (fun _ _ => String.toList_injective) names)

/-- A path with a slash behind it begins another exactly where it is the rest of it behind some
names. -/
theorem buildGroupPath_prefix_iff {path path' : List String}
    (clean : ∀ name ∈ path, '/' ∉ name.toList) (clean' : ∀ name ∈ path', '/' ∉ name.toList) :
    (buildGroupPath path ++ "/").toList <+: (buildGroupPath path').toList ↔
      ∃ below, below ≠ [] ∧ path' = below ++ path := by
  have fields {path : List String} (clean : ∀ name ∈ path, '/' ∉ name.toList) :
      ∀ field ∈ path.reverse.map String.toList, '/' ∉ field := by
    simpa only [List.forall_mem_map, List.mem_reverse] using clean
  have slash : (buildGroupPath path ++ "/").toList =
      delimited '/' (path.reverse.map String.toList) ++ ['/'] := by
    rw [String.toList_append, toList_buildGroupPath]
    rfl
  rw [slash, toList_buildGroupPath, delimited_prefix_iff (fields clean) (fields clean')]
  constructor
  · rintro ⟨next, rest, whole⟩
    obtain ⟨front, back, split, front', back'⟩ := List.map_eq_append_iff.mp whole
    have names := List.map_injective_iff.mpr (fun _ _ => String.toList_injective) front'
    refine ⟨back.reverse, ?_, ?_⟩
    · rintro empty
      rw [List.reverse_eq_nil_iff.mp empty] at back'
      cases back'
    · rw [names] at split
      rw [← List.reverse_reverse path', split, List.reverse_append, List.reverse_reverse]
  · rintro ⟨below, some, rfl⟩
    obtain ⟨last, rest, names⟩ := List.exists_cons_of_ne_nil (List.reverse_ne_nil_iff.mpr some)
    exact ⟨last.toList, rest.map String.toList, by
      rw [List.reverse_append, names, List.map_append, List.map_cons]⟩

variable {site : Site}

/-- `parent_of` over the groups. -/
def Site.parentMap (site : Site) : TreeMaps.ParentMap where
  keys := site.groups.rows.map Group.name
  get name := (site.groups.find? name).map fun group => truthy group.parentGroup
  get_eq_none name absent := by
    rw [Option.map_eq_none_iff]
    exact site.groups.find?_eq_none.mpr fun row inside same =>
      absent (List.mem_map.mpr ⟨row, inside, same⟩)

/-- A group is the parent of another. -/
def Site.Link (site : Site) (lower upper : String) : Prop :=
  truthy (site.parentGroup lower) = some upper

/-- No group is above itself. -/
def Site.Acyclic (site : Site) : Prop := ∀ group, ¬Relation.TransGen site.Link group group

/-- No name of a group has a slash. -/
def Site.Slashless (site : Site) : Prop :=
  ∀ group ∈ site.groups.rows, '/' ∉ group.name.toList ∧
    ∀ parent, truthy group.parentGroup = some parent → '/' ∉ parent.toList

/-- The parents of the map are those that the walk reads. -/
theorem parentOf_parentMap (site : Site) :
    site.parentMap.parentOf = fun name => truthy (site.parentGroup name) := by
  funext name
  show ((site.groups.find? name).map fun group => truthy group.parentGroup).join =
    truthy ((site.groups.find? name).bind Group.parentGroup)
  cases site.groups.find? name <;> rfl

/-- On an acyclic map the walk up from a group ends. -/
theorem ancestorsOf_ok (acyclic : site.Acyclic) (group : String) :
    ∃ chain, TreeMaps.ancestorsOf group site.parentMap = .ok chain ∧
      Chains.Behind (fun name => truthy (site.parentGroup name)) group chain none := by
  rcases TreeMaps.climb_cases group site.parentMap with
    ⟨_, _, _, revisits⟩ | ⟨chain, _, returned, _, behind⟩
  · rw [parentOf_parentMap] at revisits
    obtain ⟨name, around⟩ := revisits.cycle
    exact absurd around (acyclic name)
  · rw [parentOf_parentMap] at behind
    exact ⟨chain, returned, behind⟩

/-- What `validate` lets through has a group, and keeps the path of it. -/
theorem of_validateGathering {before : Option Gathering} {doc filled : Gathering}
    (validated : validateGathering site before doc = .ok filled) :
    doc.group ∈ site.groups.rows.map Group.name ∧ doc.group ≠ "" ∧
      filled.groupPath = buildGroupPath (groupPathToRoot site.parentGroup doc.group) := by
  simp only [validateGathering, validateBranchGroupBinding, bind_eq_ok_iff] at validated
  obtain ⟨_, bound, _, _, same⟩ := validated
  obtain ⟨_, found⟩ := validateGatheringBranchBinding_iff.mp (thrown_eq_ok.mp bound)
  obtain ⟨group, given, branch⟩ := Option.bind_eq_some_iff.mp found
  have grouped := truthy_nonempty given
  cases truthy_eq_some given
  rw [← Except.ok.inj same]
  exact ⟨mem_of_groupBranch branch, grouped, rfl⟩

/-- The names on the path of a group are clean. -/
theorem Site.Slashless.path (clean : site.Slashless) {group : String} {chain : List String}
    (stored : group ∈ site.groups.rows.map Group.name)
    (behind : Chains.Behind (fun name => truthy (site.parentGroup name)) group chain none) :
    ∀ name ∈ group :: chain, '/' ∉ name.toList := by
  intro name there
  rcases List.mem_cons.mp there with own | above
  · obtain ⟨row, inside, named⟩ := List.mem_map.mp stored
    rw [own, ← named]
    exact (clean row inside).1
  · obtain ⟨lower, _, link⟩ := Relation.TransGen.tail'_iff.mp (behind.mem_iff.mp above)
    obtain ⟨row, found, parent⟩ := Option.bind_eq_some_iff.mp (truthy_eq_some link)
    obtain ⟨inside, _⟩ := site.groups.find?_eq_some.mp found
    exact (clean row inside).2 name (by rw [parent]; exact truthy_some (truthy_nonempty link))

/-- The capped path of a group lies behind that of another exactly where the other is below it and
its whole path is kept. -/
theorem capped_path_iff {upper lower : String} {chain chain' : List String}
    (behind : Chains.Behind (fun name => truthy (site.parentGroup name)) upper chain none)
    (behind' : Chains.Behind (fun name => truthy (site.parentGroup name)) lower chain' none)
    (cap : Nat) :
    (∃ below, below ≠ [] ∧
        (lower :: chain').take (cap + 1) = below ++ (upper :: chain).take (cap + 1)) ↔
      Relation.TransGen site.Link lower upper ∧ chain'.length ≤ cap := by
  constructor
  · rintro ⟨below, some, whole⟩
    have lengths := congrArg List.length whole
    have positive := List.length_pos_iff.mpr some
    simp only [List.length_append, List.length_take, List.length_cons] at lengths
    have short : chain.length ≤ cap := by omega
    rw [List.take_of_length_le (l := upper :: chain) (Nat.succ_le_succ short)] at whole
    have visited : (lower :: chain')[below.length]? = Option.some upper := by
      have kept := congrArg (·[below.length]?) whole
      rw [List.getElem?_take_of_lt (by omega), List.getElem?_append_right (Nat.le_refl _)] at kept
      simpa using kept
    have reached : upper ∈ chain' := by
      obtain ⟨steps, same⟩ := Nat.exists_eq_succ_of_ne_zero (Nat.ne_of_gt positive)
      rw [same, List.getElem?_cons_succ] at visited
      exact List.mem_of_getElem? visited
    refine ⟨behind'.mem_iff.mp reached, ?_⟩
    rw [← behind'.visit_eq] at visited
    have rest := congrArg List.length (behind'.drop_eq behind visited)
    simp only [List.length_cons, List.length_drop] at rest
    omega
  · rintro ⟨links, short⟩
    obtain ⟨steps, visited⟩ := Chains.transGen_iff_visit.mp links
    have rest := behind'.drop_eq behind visited
    have lengths := congrArg List.length rest
    simp only [List.length_cons, List.length_drop] at lengths
    refine ⟨(lower :: chain').take (steps + 1), List.cons_ne_nil _ _, ?_⟩
    rw [List.take_of_length_le (l := lower :: chain') (by rw [List.length_cons]; omega),
      List.take_of_length_le (l := upper :: chain) (by rw [List.length_cons]; omega), rest,
      List.take_append_drop]

/-- A text is the capped path of a group with a chain above it. -/
structure Keeps (site : Site) (group : String) (chain : List String) (kept : String) : Prop where
  behind : Chains.Behind (fun name => truthy (site.parentGroup name)) group chain none
  clean : ∀ name ∈ group :: chain, '/' ∉ name.toList
  capped : kept = buildGroupPath ((group :: chain).take (groupPathMaxDepth + 1))

/-- What `validate` lets through keeps the capped path of its group. -/
theorem keeps_of_validateGathering (acyclic : site.Acyclic) (clean : site.Slashless)
    {before : Option Gathering} {doc filled : Gathering}
    (validated : validateGathering site before doc = .ok filled) :
    ∃ chain, TreeMaps.ancestorsOf doc.group site.parentMap = .ok chain ∧
      Keeps site doc.group chain filled.groupPath := by
  obtain ⟨stored, grouped, kept⟩ := of_validateGathering validated
  obtain ⟨chain, returned, behind⟩ := ancestorsOf_ok acyclic doc.group
  rw [groupPathToRoot_eq grouped behind] at kept
  exact ⟨chain, returned, behind, clean.path stored behind, kept⟩

/-- The path is kept as a whole where it is not longer than the cap. -/
theorem Keeps.whole_iff {group kept : String} {chain : List String}
    (keeps : Keeps site group chain kept) :
    kept = buildGroupPath (group :: chain) ↔ (group :: chain).length ≤ groupPathMaxDepth + 1 := by
  rw [keeps.capped, ← List.take_eq_self_iff]
  refine ⟨fun same => ?_, congrArg buildGroupPath⟩
  have among (name : String) (there : name ∈ (group :: chain).take (groupPathMaxDepth + 1)) :
      '/' ∉ name.toList := keeps.clean name (List.mem_of_mem_take there)
  exact buildGroupPath_inj among keeps.clean same

/-- One kept path begins another where the other group is below and not deeper than the cap. -/
theorem Keeps.prefix_iff {upper lower kept kept' : String} {chain chain' : List String}
    (keeps : Keeps site upper chain kept) (keeps' : Keeps site lower chain' kept') :
    (kept ++ "/").toList <+: kept'.toList ↔
      Relation.TransGen site.Link lower upper ∧ chain'.length ≤ groupPathMaxDepth := by
  have among (name : String) (there : name ∈ (upper :: chain).take (groupPathMaxDepth + 1)) :
      '/' ∉ name.toList := keeps.clean name (List.mem_of_mem_take there)
  have among' (name : String) (there : name ∈ (lower :: chain').take (groupPathMaxDepth + 1)) :
      '/' ∉ name.toList := keeps'.clean name (List.mem_of_mem_take there)
  rw [keeps.capped, keeps'.capped, buildGroupPath_prefix_iff among among']
  exact capped_path_iff keeps.behind keeps'.behind groupPathMaxDepth

/-- The name of a rung. -/
def rungName (number : Nat) : String := String.ofList (List.replicate (number + 1) 'g')

/-- A group below the one before it. -/
def rung (number : Nat) : Group where
  name := rungName number
  groupName := "Rung"
  branch := "North"
  parentGroup := match number with
    | 0 => none
    | above + 1 => some (rungName above)

/-- The length of a name tells the rung. -/
theorem length_rungName (number : Nat) : (rungName number).length = number + 1 := by
  rw [rungName, String.length_ofList, List.length_replicate]

/-- A site whose groups stand one below another. -/
def ladder (height : Nat) : Site where
  organizations := ["Flock"]
  branches := ⟨[⟨"North", "Flock", none, 1, 2⟩], by decide⟩
  groups := ⟨(List.range (height + 1)).map rung, by
    rw [List.map_map]
    refine List.nodup_range.map fun first second same => ?_
    have names : rungName first = rungName second := same
    have lengths := congrArg String.length names
    rw [length_rungName, length_rungName] at lengths
    exact Nat.succ.inj lengths⟩

/-- A gathering of the group on a rung. -/
def rungMeeting (number : Nat) : Gathering where
  name := "GTH-0001"
  branch := "North"
  group := rungName number

/-- A rung is found under its name. -/
theorem find?_rungName {height number : Nat} (within : number ≤ height) :
    (ladder height).groups.find? (rungName number) = some (rung number) := by
  refine (ladder height).groups.find?_eq_some.mpr ⟨?_, rfl⟩
  exact List.mem_map_of_mem (List.mem_range.mpr (Nat.lt_succ_of_le within))

/-- A link leads to the rung above. -/
theorem ladder_link {height : Nat} {lower upper : String} (link : (ladder height).Link lower upper) :
    ∃ number, lower = rungName (number + 1) ∧ upper = rungName number := by
  obtain ⟨row, found, parent⟩ := Option.bind_eq_some_iff.mp (truthy_eq_some link)
  obtain ⟨inside, named⟩ := (ladder height).groups.find?_eq_some.mp found
  obtain ⟨number, _, same⟩ := List.mem_map.mp inside
  rw [← same] at named parent
  cases number with
  | zero => cases parent
  | succ number => exact ⟨number, named.symm, (Option.some.inj parent).symm⟩

/-- A ladder leads nowhere back. -/
theorem ladder_acyclic (height : Nat) : (ladder height).Acyclic := by
  have down (lower upper : String) (link : (ladder height).Link lower upper) :
      upper.length < lower.length := by
    obtain ⟨number, below, above⟩ := ladder_link link
    rw [below, above, length_rungName, length_rungName]
    omega
  exact Forests.acyclic_of_rank down

/-- The names of rungs are clean. -/
theorem ladder_slashless (height : Nat) : (ladder height).Slashless := by
  have clean (number : Nat) : '/' ∉ (rungName number).toList := by
    rw [rungName, String.toList_ofList]
    intro there
    cases List.eq_of_mem_replicate there
  intro group inside
  obtain ⟨number, _, same⟩ := List.mem_map.mp inside
  rw [← same]
  refine ⟨clean number, fun parent link => ?_⟩
  cases number with
  | zero => cases link
  | succ above =>
    rw [← Option.some.inj (truthy_eq_some link)]
    exact clean above

/-- The name of a rung is set. -/
theorem rungName_nonempty (number : Nat) : rungName number ≠ "" := by
  intro empty
  have lengths := congrArg String.length empty
  rw [length_rungName] at lengths
  cases lengths

/-- A gathering on a rung passes `validate`. -/
theorem rungMeeting_validates {height number : Nat} (within : number ≤ height) :
    ∃ filled, validateGathering (ladder height) none (rungMeeting number) = .ok filled := by
  let doc := denormalizeTenantFloor (ladder height) (rungMeeting number)
  have bound : (truthy (Option.some doc.group)).bind (ladder height).groupBranch =
      Option.some doc.branch := by
    show (truthy (Option.some (rungName number))).bind _ = _
    rw [truthy_some (rungName_nonempty number), Option.bind_some, Site.groupBranch,
      find?_rungName within]
    rfl
  have set : doc.branch ≠ "" := by
    show "North" ≠ ""
    decide
  refine ⟨denormalizeGroupPath (ladder height) doc, ?_⟩
  simp only [validateGathering, validateBranchGroupBinding, bind_eq_ok_iff]
  exact ⟨(), thrown_eq_ok.mpr (validateGatheringBranchBinding_iff.mpr ⟨set, bound⟩), (), rfl, rfl⟩

/-- From a rung as many links lead up as there are rungs. -/
theorem visit_rung {height number : Nat} (within : number ≤ height) :
    ∀ steps ≤ number, Chains.visit (fun name => truthy ((ladder height).parentGroup name))
      (rungName number) steps = some (rungName (number - steps)) := by
  intro steps low
  induction steps with
  | zero => rfl
  | succ steps ih =>
    obtain ⟨above, same⟩ : ∃ above, number - steps = above + 1 := ⟨number - steps - 1, by omega⟩
    rw [Chains.visit, ih (by omega), Option.bind_some, Site.parentGroup,
      find?_rungName (by omega), same, Option.bind_some]
    show truthy (some (rungName above)) = _
    rw [truthy_some (rungName_nonempty above)]
    congr 2
    omega

/-- A gathering of a group that is deeper than the cap does not keep the path of its group, and the
path of a group above does not begin it. -/
theorem deep_group_path_cut :
    (ladder 65).Acyclic ∧ (ladder 65).Slashless ∧ ∃ filled filled' path,
      validateGathering (ladder 65) none (rungMeeting 0) = .ok filled ∧
      validateGathering (ladder 65) none (rungMeeting 65) = .ok filled' ∧
      TreeMaps.pathToRoot (rungName 65) (ladder 65).parentMap = .ok path ∧
      filled'.groupPath ≠ buildGroupPath path ∧
      Relation.TransGen (ladder 65).Link (rungName 65) (rungName 0) ∧
      ¬(filled.groupPath ++ "/").toList <+: filled'.groupPath.toList := by
  have acyclic := ladder_acyclic 65
  have clean := ladder_slashless 65
  have ⟨filled, validated⟩ := rungMeeting_validates (Nat.zero_le 65)
  have ⟨filled', validated'⟩ := rungMeeting_validates (Nat.le_refl 65)
  have ⟨chain, _, keeps⟩ := keeps_of_validateGathering acyclic clean validated
  have ⟨chain', returned, keeps'⟩ := keeps_of_validateGathering acyclic clean validated'
  have visited := visit_rung (Nat.le_refl 65) 65 (Nat.le_refl 65)
  have deep : groupPathMaxDepth < chain'.length := by
    have stands := keeps'.behind.visit_eq 65
    rw [rungMeeting, visited] at stands
    have ⟨inside, _⟩ := List.getElem?_eq_some_iff.mp stands.symm
    exact Nat.lt_of_succ_lt_succ inside
  refine ⟨acyclic, clean, filled, filled', rungName 65 :: chain', validated, validated', ?_, ?_,
    Chains.transGen_iff_visit.mpr ⟨64, visited⟩, ?_⟩
  · rw [rungMeeting] at returned
    rw [TreeMaps.pathToRoot, returned]
    rfl
  · intro whole
    have short := keeps'.whole_iff.mp whole
    rw [List.length_cons] at short
    omega
  · intro begins
    have short := (keeps.prefix_iff keeps').mp begins
    omega

/-- On an acyclic map with clean names a gathering keeps the path of the nearest names of its group,
all of them for a group that is not deeper than the cap. The path of a group with a slash behind it
begins that of another exactly where it is a proper ancestor of a group that is not deeper. -/
theorem group_path_encodes (site : Site) (acyclic : site.Acyclic) (clean : site.Slashless) :
    (∀ before doc filled, validateGathering site before doc = .ok filled →
      ∃ path, TreeMaps.pathToRoot doc.group site.parentMap = .ok path ∧
        filled.groupPath = buildGroupPath (path.take (groupPathMaxDepth + 1)) ∧
        (filled.groupPath = buildGroupPath path ↔ path.length ≤ groupPathMaxDepth + 1)) ∧
    ∀ before doc filled before' doc' filled', validateGathering site before doc = .ok filled →
      validateGathering site before' doc' = .ok filled' →
      ((filled.groupPath ++ "/").toList <+: filled'.groupPath.toList ↔
        Relation.TransGen site.Link doc'.group doc.group ∧
          ∃ depth ≤ groupPathMaxDepth, TreeMaps.depthOf doc'.group site.parentMap = .ok depth) := by
  constructor
  · intro before doc filled validated
    have ⟨chain, returned, keeps⟩ := keeps_of_validateGathering acyclic clean validated
    refine ⟨doc.group :: chain, ?_, keeps.capped, keeps.whole_iff⟩
    rw [TreeMaps.pathToRoot, returned]
    rfl
  · intro before doc filled before' doc' filled' validated validated'
    have ⟨chain, _, keeps⟩ := keeps_of_validateGathering acyclic clean validated
    have ⟨chain', returned, keeps'⟩ := keeps_of_validateGathering acyclic clean validated'
    have depth : TreeMaps.depthOf doc'.group site.parentMap = .ok chain'.length := by
      rw [TreeMaps.depthOf, returned]
      rfl
    rw [keeps.prefix_iff keeps', depth]
    refine and_congr_right fun _ => ⟨fun short => ⟨_, short, rfl⟩, ?_⟩
    rintro ⟨_, short, same⟩
    exact Except.ok.inj same ▸ short

/-- Of two gatherings on a ladder with two rungs the path of the upper one begins that of the lower
one where it is above. -/
theorem ladder_path_encodes :
    ∃ filled filled', validateGathering (ladder 1) none (rungMeeting 0) = .ok filled ∧
      validateGathering (ladder 1) none (rungMeeting 1) = .ok filled' ∧
      ((filled.groupPath ++ "/").toList <+: filled'.groupPath.toList ↔
        Relation.TransGen (ladder 1).Link (rungName 1) (rungName 0) ∧
          ∃ depth ≤ groupPathMaxDepth,
            TreeMaps.depthOf (rungName 1) (ladder 1).parentMap = .ok depth) := by
  have ⟨filled, validated⟩ := rungMeeting_validates (Nat.zero_le 1)
  have ⟨filled', validated'⟩ := rungMeeting_validates (Nat.le_refl 1)
  have encodes := group_path_encodes (ladder 1) (ladder_acyclic 1) (ladder_slashless 1)
  exact ⟨filled, filled', validated, validated', encodes.2 _ _ _ _ _ _ validated validated'⟩

end FlockOs.ScopeAnchors
