import FlockOs.BranchAdmin
import FlockOs.Lib.Runs

/-!
# Several scopes of one user

A save reconciles the whole set of a user to the subtree of the saved row, and a deletion empties
it, whatever other rows the user has. The set is the union over the rows in force in every state of
a run exactly where each operation happens to leave this union at what it writes.
-/

namespace FlockOs.BranchAdmin

open Lib

/-- The branches of a user are the values of the user's rows. -/
theorem mem_permitted {userPermissions : List (String × String)} {user branch : String} :
    branch ∈ permitted userPermissions user ↔ (user, branch) ∈ userPermissions := by
  rw [permitted, List.mem_map]
  constructor
  · intro ⟨row, kept, value⟩
    obtain ⟨inside, own⟩ := List.mem_filter.mp kept
    rw [← of_decide_eq_true own, ← value]
    exact inside
  · exact fun inside => ⟨_, List.mem_filter.mpr ⟨inside, decide_eq_true rfl⟩, rfl⟩

/-- A sync leaves the user with the subtree, and everyone else alone. -/
theorem mem_syncBranchScope {userPermissions : List (String × String)} {user other branch : String}
    {branchSubtree : List String} :
    (other, branch) ∈ syncBranchScope userPermissions user branchSubtree ↔
      if other = user then branch ∈ branchSubtree else (other, branch) ∈ userPermissions := by
  rw [syncBranchScope, List.mem_filter, List.mem_append, List.mem_map, decide_eq_true_iff]
  by_cases own : other = user
  · rw [if_pos own, own]
    dsimp only
    rw [mem_permitted, List.mem_dedup]
    constructor
    · intro ⟨either, kept⟩
      cases either with
      | inl held => exact Decidable.not_not.mp fun unwanted => kept ⟨rfl, held, unwanted⟩
      | inr added =>
        obtain ⟨_, missing, same⟩ := added
        cases same
        exact List.mem_dedup.mp (List.mem_filter.mp missing).1
    · intro wanted
      refine ⟨?_, fun stale => stale.2.2 wanted⟩
      by_cases held : (user, branch) ∈ userPermissions
      · exact .inl held
      · refine .inr ⟨branch, List.mem_filter.mpr ⟨List.mem_dedup.mpr wanted, ?_⟩, rfl⟩
        exact decide_eq_true fun inside => held (mem_permitted.mp inside)
  · rw [if_neg own]
    constructor
    · intro ⟨either, _⟩
      cases either with
      | inl held => exact held
      | inr added =>
        obtain ⟨_, _, same⟩ := added
        exact absurd (Prod.mk.inj same).1.symm own
    · exact fun held => ⟨.inl held, fun stale => own stale.1⟩

/-- A withdrawal leaves the user with nothing, and everyone else alone. -/
theorem mem_withdrawUserPermissions {userPermissions : List (String × String)}
    {user other branch : String} :
    (other, branch) ∈ withdrawUserPermissions userPermissions user ↔
      other ≠ user ∧ (other, branch) ∈ userPermissions := by
  rw [withdrawUserPermissions, List.mem_filter, decide_eq_true_iff, and_comm]

/-- The subtree of a branch holds the branch. -/
theorem mem_resolveSubtree {branches : Table Trees.Branch Trees.Branch.name} {branch : String}
    {names : List String} (resolved : resolveSubtree branches branch = .ok names)
    (set : branch ≠ "") : branch ∈ names := by
  rw [resolveSubtree, if_neg set, computeBranchSubtree, if_neg set, Trees.TreeDoctype.subtreeOver,
    Trees.subtreeOf] at resolved
  generalize Trees.descendantsOf _ _ branch = walked at resolved
  cases walked with
  | error raised => cases resolved
  | ok reached =>
    cases resolved
    exact List.mem_cons_self

/-- A save of a document that goes through. -/
structure Saved (site : Site) (doc : BranchAdminScope) (names : List String) : Prop where
  /-- The user is set. -/
  user : doc.user ≠ ""
  /-- The branch is set. -/
  branch : doc.branch ≠ ""
  /-- The branch has a subtree. -/
  resolved : resolveSubtree site.branches doc.branch = .ok names

/-- What a validation and the mandatory-field check let through. -/
theorem validated_iff {site synced : Site} {doc : BranchAdminScope} :
    (validate site doc = .ok synced ∧ validateMandatory doc = .ok ()) ↔
      ∃ names, Saved site doc names ∧ synced = { site with
        userPermissions := syncBranchScope site.userPermissions doc.user names } := by
  constructor
  · intro ⟨valid, mandatory⟩
    rw [validate] at valid
    cases resolved : resolveSubtree site.branches doc.branch with
    | error raised =>
      rw [resolved] at valid
      cases valid
    | ok names =>
      rw [resolved] at valid
      cases valid
      rw [validateMandatory] at mandatory
      split at mandatory
      · cases mandatory
      · next user =>
        split at mandatory
        · cases mandatory
        · next branch => exact ⟨names, ⟨user, branch, resolved⟩, rfl⟩
  · intro ⟨names, saved, same⟩
    rw [validate, saved.resolved, validateMandatory, if_neg saved.user, if_neg saved.branch, same]
    exact ⟨rfl, rfl⟩

/-- An insertion that goes through. -/
theorem insertScope_iff {site next : Site} {doc : BranchAdminScope} :
    insertScope site doc = .ok next ↔ ∃ names, Saved site doc names ∧
      ∃ fresh : doc.name ∉ site.scopes.rows.map BranchAdminScope.name, next = { site with
        userPermissions := syncBranchScope site.userPermissions doc.user names
        scopes := site.scopes.add doc fresh } := by
  constructor
  · intro inserted
    rw [insertScope] at inserted
    cases valid : validate site doc with
    | error raised =>
      rw [valid] at inserted
      cases inserted
    | ok synced =>
      cases mandatory : validateMandatory doc with
      | error raised =>
        rw [valid, mandatory] at inserted
        cases inserted
      | ok done =>
        rw [valid, mandatory] at inserted
        obtain ⟨names, saved, same⟩ := validated_iff.mp ⟨valid, mandatory⟩
        rw [same] at inserted
        dsimp only [bind, Except.bind] at inserted
        split at inserted
        · next fresh =>
          cases inserted
          exact ⟨names, saved, fresh, rfl⟩
        · cases inserted
  · intro ⟨names, saved, fresh, same⟩
    obtain ⟨valid, mandatory⟩ := validated_iff.mpr ⟨names, saved, rfl⟩
    rw [insertScope, valid, mandatory, same]
    exact dif_pos fresh

/-- A save that goes through. -/
theorem saveScope_iff {site next : Site} {doc : BranchAdminScope} :
    saveScope site doc = .ok next ↔ ∃ names, Saved site doc names ∧
      ∃ old, site.scopes.find? doc.name = some old ∧ next = { site with
        userPermissions := syncBranchScope site.userPermissions doc.user names
        scopes := site.scopes.replace doc } := by
  rw [saveScope]
  cases stored : site.scopes.find? doc.name with
  | none => exact ⟨fun saved => (nomatch saved), fun ⟨_, _, _, found, _⟩ => nomatch found⟩
  | some old =>
    dsimp only
    constructor
    · intro written
      cases valid : validate site doc with
      | error raised =>
        rw [valid] at written
        cases written
      | ok synced =>
        cases mandatory : validateMandatory doc with
        | error raised =>
          rw [valid, mandatory] at written
          cases written
        | ok done =>
          rw [valid, mandatory] at written
          obtain ⟨names, saved, same⟩ := validated_iff.mp ⟨valid, mandatory⟩
          rw [same] at written
          cases written
          exact ⟨names, saved, old, rfl, rfl⟩
    · intro ⟨names, saved, _, _, same⟩
      obtain ⟨valid, mandatory⟩ := validated_iff.mpr ⟨names, saved, rfl⟩
      rw [valid, mandatory, same]
      rfl

/-- A deletion that goes through. -/
theorem deleteScope_iff {site next : Site} {name : String} :
    deleteScope site name = .ok next ↔
      ∃ old, site.scopes.find? name = some old ∧ next = { site with
        userPermissions := withdrawUserPermissions site.userPermissions old.user
        scopes := site.scopes.remove name } := by
  rw [deleteScope]
  cases stored : site.scopes.find? name with
  | none => exact ⟨fun deleted => (nomatch deleted), fun ⟨_, found, _⟩ => nomatch found⟩
  | some old =>
    constructor
    · intro deleted
      cases deleted
      exact ⟨old, rfl, rfl⟩
    · intro ⟨_, found, same⟩
      cases found
      rw [same]

section Union

variable {branches : Table Trees.Branch Trees.Branch.name}

/-- A branch is covered by some of the rows of a user that are in force. -/
def Covered (branches : Table Trees.Branch Trees.Branch.name) (rows : List BranchAdminScope)
    (user branch : String) : Prop :=
  ∃ row ∈ rows, row.user = user ∧ row.isActive = true ∧
    ∃ names, resolveSubtree branches row.branch = .ok names ∧ branch ∈ names

/-- The subtree of a saved row is the union over the rows of the user: it holds what his other rows
cover, and they cover it where the row is not in force. -/
def SavesUnion (branches : Table Trees.Branch Trees.Branch.name) (others : List BranchAdminScope)
    (doc : BranchAdminScope) (names : List String) : Prop :=
  (∀ branch, Covered branches others doc.user branch → branch ∈ names) ∧
    (doc.isActive = false → ∀ branch ∈ names, Covered branches others doc.user branch)

/-- What the rows of a user cover when one of them was saved. -/
theorem covered_saved_iff {others rows : List BranchAdminScope} {doc : BranchAdminScope}
    {names : List String} (resolved : resolveSubtree branches doc.branch = .ok names)
    (whole : ∀ row, row ∈ rows ↔ row ∈ others ∨ row = doc) {user branch : String} :
    Covered branches rows user branch ↔ Covered branches others user branch ∨
      (doc.user = user ∧ doc.isActive = true ∧ branch ∈ names) := by
  constructor
  · intro ⟨row, inside, own, active, found, walked, there⟩
    cases (whole row).mp inside with
    | inl other => exact .inl ⟨row, other, own, active, found, walked, there⟩
    | inr same =>
      rw [same] at own active walked
      rw [resolved] at walked
      cases walked
      exact .inr ⟨own, active, there⟩
  · intro either
    cases either with
    | inl covered =>
      obtain ⟨row, other, rest⟩ := covered
      exact ⟨row, (whole row).mpr (.inl other), rest⟩
    | inr saved =>
      exact ⟨doc, (whole doc).mpr (.inr rfl), saved.1, saved.2.1, names, resolved, saved.2.2⟩

/-- The saved subtree is the new union of the user exactly where the save writes the union. -/
theorem savesUnion_iff {others rows : List BranchAdminScope} {doc : BranchAdminScope}
    {names : List String} (resolved : resolveSubtree branches doc.branch = .ok names)
    (whole : ∀ row, row ∈ rows ↔ row ∈ others ∨ row = doc) :
    (∀ branch, branch ∈ names ↔ Covered branches rows doc.user branch) ↔
      SavesUnion branches others doc names := by
  constructor
  · intro union
    refine ⟨fun branch covered => ?_, fun inactive branch there => ?_⟩
    · exact (union branch).mpr ((covered_saved_iff resolved whole).mpr (.inl covered))
    · cases (covered_saved_iff resolved whole).mp ((union branch).mp there) with
      | inl covered => exact covered
      | inr saved => exact absurd saved.2.1 (inactive ▸ Bool.false_ne_true)
  · intro ⟨inside, back⟩ branch
    rw [covered_saved_iff resolved whole]
    constructor
    · intro there
      cases active : doc.isActive with
      | true => exact .inr ⟨rfl, rfl, there⟩
      | false => exact .inl (back active branch there)
    · intro either
      cases either with
      | inl covered => exact inside branch covered
      | inr saved => exact saved.2.2

/-- Rows of other users cover nothing of a user. -/
theorem covered_congr {first second : List BranchAdminScope} {user branch : String}
    (same : ∀ row, row.user = user → (row ∈ first ↔ row ∈ second)) :
    Covered branches first user branch ↔ Covered branches second user branch := by
  constructor
  · intro ⟨row, inside, own, rest⟩
    exact ⟨row, (same row own).mp inside, own, rest⟩
  · intro ⟨row, inside, own, rest⟩
    exact ⟨row, (same row own).mpr inside, own, rest⟩

end Union

/-- A site with the users who have a scope or had one. -/
structure Followed where
  /-- The tables. -/
  site : Site
  /-- The users. -/
  holders : List String

namespace Followed

/-- A site without scopes. -/
def start (branches : Table Trees.Branch Trees.Branch.name)
    (userPermissions : List (String × String)) : Followed where
  site := ⟨branches, .empty _, userPermissions, []⟩
  holders := []

/-- The tables after an operation, with the users of the rows that are there now. -/
def after (state : Followed) (next : Site) : Followed :=
  ⟨next, state.holders ++ next.scopes.rows.map BranchAdminScope.user⟩

/-- An operation. -/
def step (state : Followed) (call : ScopeCall) : Followed :=
  state.after (settled state.site (performScope state.site call))

/-- What the user's rows in force cover. -/
def Covers (state : Followed) (user branch : String) : Prop :=
  Covered state.site.branches state.site.scopes.rows user branch

/-- Everyone who has a scope or had one is permitted what his rows in force cover. -/
def InStep (state : Followed) : Prop :=
  ∀ user ∈ state.holders, ∀ branch,
    (user, branch) ∈ state.site.userPermissions ↔ state.Covers user branch

/-- The rows other than that under a name. -/
def others (state : Followed) (name : String) : List BranchAdminScope :=
  state.site.scopes.rows.filter fun row => row.name ≠ name

/-- An operation leaves the union at what it writes. A new row or an edit writes the subtree of its
branch for its user; an edit that hands the row on takes nothing from the user before; a deletion
writes nothing, so that no other row of the user is in force. -/
def KeepsUnion (state : Followed) : ScopeCall → Prop
  | .insert user branch organization isActive => ∀ names,
      Saved state.site (newScope user branch organization isActive) names →
      user ++ "-" ++ branch ∉ state.site.scopes.rows.map BranchAdminScope.name →
      SavesUnion state.site.branches state.site.scopes.rows
        (newScope user branch organization isActive) names
  | .save doc => ∀ names old, Saved state.site doc names →
      old ∈ state.site.scopes.rows → old.name = doc.name →
      SavesUnion state.site.branches (state.others doc.name) doc names ∧
      (old.user ≠ doc.user → ∀ branch, state.Covers old.user branch →
        Covered state.site.branches (state.others doc.name) old.user branch)
  | .delete name => ∀ old ∈ state.site.scopes.rows, old.name = name →
      ∀ other ∈ state.others name, other.user = old.user → other.isActive = false

/-- The rows belong to users that are followed, and have the subtrees that they were saved with. -/
structure Sound (state : Followed) : Prop where
  /-- The users of the rows are followed. -/
  followed : ∀ row ∈ state.site.scopes.rows, row.user ∈ state.holders
  /-- Every row has a subtree with its branch in it. -/
  resolved : ∀ row ∈ state.site.scopes.rows, ∃ names,
    resolveSubtree state.site.branches row.branch = .ok names ∧ row.branch ∈ names

variable {state : Followed}

/-- The users that are followed after an operation that adds no row but one of a user. -/
theorem mem_after_holders (sound : state.Sound) {next : Site} {doc : BranchAdminScope}
    (among : ∀ row ∈ next.scopes.rows, row ∈ state.site.scopes.rows ∨ row = doc)
    {user : String} (there : user ∈ (state.after next).holders) :
    user ∈ state.holders ∨ user = doc.user := by
  cases List.mem_append.mp there with
  | inl before => exact .inl before
  | inr now =>
    obtain ⟨row, inside, same⟩ := List.mem_map.mp now
    rw [← same]
    cases among row inside with
    | inl old => exact .inl (sound.followed row old)
    | inr new => exact .inr (congrArg BranchAdminScope.user new)

/-- A refused operation changes nothing. -/
theorem after_self_inStep (sound : state.Sound) :
    (state.after state.site).InStep ↔ state.InStep := by
  constructor
  · exact fun kept user there => kept user (List.mem_append_left _ there)
  · intro kept user there
    cases List.mem_append.mp there with
    | inl before => exact kept user before
    | inr now =>
      obtain ⟨row, inside, same⟩ := List.mem_map.mp now
      exact kept user (same ▸ sound.followed row inside)

/-- A save keeps the rows sound. -/
theorem Sound.saved (sound : state.Sound) {next : Site} {doc : BranchAdminScope}
    {names : List String} (saved : Saved state.site doc names)
    (tree : next.branches = state.site.branches)
    (among : ∀ row ∈ next.scopes.rows, row ∈ state.site.scopes.rows ∨ row = doc) :
    (state.after next).Sound := by
  constructor
  · exact fun row inside => List.mem_append_right _ (List.mem_map_of_mem inside)
  · intro row inside
    show ∃ names, resolveSubtree next.branches row.branch = .ok names ∧ _
    rw [tree]
    cases among row inside with
    | inl old => exact sound.resolved row old
    | inr new =>
      rw [new]
      exact ⟨names, saved.resolved, mem_resolveSubtree saved.resolved saved.branch⟩

/-- After a save the users are in step exactly where it writes the union for the user of the row and
leaves the union of everyone else. -/
theorem saved_inStep_iff (sound : state.Sound) (held : state.InStep) {next : Site}
    {doc : BranchAdminScope} {names : List String} {others : List BranchAdminScope}
    (saved : Saved state.site doc names) (tree : next.branches = state.site.branches)
    (written : next.userPermissions =
      syncBranchScope state.site.userPermissions doc.user names)
    (whole : ∀ row, row ∈ next.scopes.rows ↔ row ∈ others ∨ row = doc)
    (among : ∀ row ∈ others, row ∈ state.site.scopes.rows) :
    (state.after next).InStep ↔ SavesUnion state.site.branches others doc names ∧
      ∀ user ∈ state.holders, user ≠ doc.user → ∀ branch,
        (state.Covers user branch ↔ Covered state.site.branches others user branch) := by
  have listed : ∀ row ∈ next.scopes.rows, row ∈ state.site.scopes.rows ∨ row = doc :=
    fun row inside => ((whole row).mp inside).imp_left (among row)
  have covers (user branch : String) : (state.after next).Covers user branch ↔
      Covered state.site.branches next.scopes.rows user branch := by
    show Covered next.branches next.scopes.rows user branch ↔ _
    rw [tree]
  have own (branch : String) :
      (doc.user, branch) ∈ next.userPermissions ↔ branch ∈ names := by
    rw [written, mem_syncBranchScope, if_pos rfl]
  have apart {user : String} (differs : user ≠ doc.user) (branch : String) :
      (user, branch) ∈ next.userPermissions ↔ (user, branch) ∈ state.site.userPermissions := by
    rw [written, mem_syncBranchScope, if_neg differs]
  have elsewhere {user : String} (differs : user ≠ doc.user) (branch : String) :
      Covered state.site.branches next.scopes.rows user branch ↔
        Covered state.site.branches others user branch := by
    refine (covered_saved_iff saved.resolved whole).trans (or_iff_left ?_)
    exact fun mine => differs mine.1.symm
  rw [← savesUnion_iff saved.resolved whole]
  constructor
  · intro kept
    have there : doc.user ∈ (state.after next).holders :=
      List.mem_append_right _ (List.mem_map_of_mem ((whole doc).mpr (.inr rfl)))
    refine ⟨fun branch => ?_, fun user followed differs branch => ?_⟩
    · rw [← covers, ← own]
      exact kept doc.user there branch
    · rw [← elsewhere differs, ← covers, ← held user followed branch, ← apart differs]
      exact kept user (List.mem_append_left _ followed) branch
  · intro ⟨union, rest⟩ user there branch
    by_cases same : user = doc.user
    · rw [same, covers]
      exact (own branch).trans (union branch)
    · have followed := (mem_after_holders sound listed there).resolve_right same
      rw [covers, elsewhere same, ← rest user followed same branch, ← held user followed branch]
      exact apart same branch

/-- The rows besides a stored one. -/
theorem mem_others {name : String} {row : BranchAdminScope} :
    row ∈ state.others name ↔ row ∈ state.site.scopes.rows ∧ row.name ≠ name := by
  rw [others, List.mem_filter, decide_eq_true_iff]

/-- A user who does not have the row under a name is covered by the others. -/
theorem covers_others_iff {old : BranchAdminScope} {name user : String}
    (stored : state.site.scopes.find? name = some old) (differs : user ≠ old.user)
    (branch : String) :
    state.Covers user branch ↔ Covered state.site.branches (state.others name) user branch := by
  refine covered_congr fun row own => ?_
  rw [mem_others, iff_self_and]
  intro inside same
  obtain ⟨there, named⟩ := state.site.scopes.find?_eq_some.mp stored
  rw [state.site.scopes.eq_of_key inside there (same.trans named.symm)] at own
  exact differs own.symm

/-- A new row. -/
theorem insert_inStep_iff (sound : state.Sound) (held : state.InStep) {doc : BranchAdminScope}
    {names : List String} (saved : Saved state.site doc names)
    (fresh : doc.name ∉ state.site.scopes.rows.map BranchAdminScope.name) :
    (state.after { state.site with
        userPermissions := syncBranchScope state.site.userPermissions doc.user names
        scopes := state.site.scopes.add doc fresh }).InStep ↔
      SavesUnion state.site.branches state.site.scopes.rows doc names := by
  refine Iff.trans (saved_inStep_iff sound held saved rfl rfl (fun row => Table.mem_add fresh)
    fun row inside => inside) ?_
  exact and_iff_left fun _ _ _ _ => Iff.rfl

/-- An edit. -/
theorem save_inStep_iff (sound : state.Sound) (held : state.InStep) {doc old : BranchAdminScope}
    {names : List String} (saved : Saved state.site doc names)
    (stored : state.site.scopes.find? doc.name = some old) :
    (state.after { state.site with
        userPermissions := syncBranchScope state.site.userPermissions doc.user names
        scopes := state.site.scopes.replace doc }).InStep ↔
      SavesUnion state.site.branches (state.others doc.name) doc names ∧
        (old.user ≠ doc.user → ∀ branch, state.Covers old.user branch →
          Covered state.site.branches (state.others doc.name) old.user branch) := by
  have whole (row : BranchAdminScope) : row ∈ (state.site.scopes.replace doc).rows ↔
      row ∈ state.others doc.name ∨ row = doc := by
    rw [Table.mem_replace stored, mem_others, or_comm]
  obtain ⟨inside, _⟩ := state.site.scopes.find?_eq_some.mp stored
  refine Iff.trans (saved_inStep_iff sound held saved rfl rfl whole
    fun row other => (mem_others.mp other).1) (and_congr_right fun _ => ?_)
  constructor
  · exact fun rest differs branch => (rest old.user (sound.followed old inside) differs branch).mp
  · intro handed user _ differs branch
    by_cases before : user = old.user
    · rw [before] at differs ⊢
      refine ⟨handed differs branch, fun ⟨row, other, covered⟩ => ?_⟩
      exact ⟨row, (mem_others.mp other).1, covered⟩
    · exact covers_others_iff stored before branch

/-- A deletion. -/
theorem delete_inStep_iff (sound : state.Sound) (held : state.InStep) {name : String}
    {old : BranchAdminScope} (stored : state.site.scopes.find? name = some old) :
    (state.after { state.site with
        userPermissions := withdrawUserPermissions state.site.userPermissions old.user
        scopes := state.site.scopes.remove name }).InStep ↔
      ∀ other ∈ state.others name, other.user = old.user → other.isActive = false := by
  obtain ⟨inside, _⟩ := state.site.scopes.find?_eq_some.mp stored
  have left (row : BranchAdminScope) :
      row ∈ (state.site.scopes.remove name).rows ↔ row ∈ state.others name := Iff.rfl
  constructor
  · intro kept other there same
    obtain ⟨stays, _⟩ := mem_others.mp there
    obtain ⟨names, resolved, within⟩ := sound.resolved other stays
    cases active : other.isActive with
    | false => rfl
    | true =>
      have followed := List.mem_append_left
        (((state.site.scopes.remove name).rows).map BranchAdminScope.user)
        (sound.followed old inside)
      have permitted := (kept old.user followed other.branch).mpr
        ⟨other, there, same, active, names, resolved, within⟩
      exact absurd rfl (mem_withdrawUserPermissions.mp permitted).1
  · intro idle user there branch
    have followed : user ∈ state.holders := by
      cases List.mem_append.mp there with
      | inl before => exact before
      | inr now =>
        obtain ⟨row, stays, same⟩ := List.mem_map.mp now
        exact same ▸ sound.followed row (mem_others.mp stays).1
    refine mem_withdrawUserPermissions.trans ?_
    by_cases same : user = old.user
    · constructor
      · exact fun both => absurd same both.1
      · intro ⟨row, stays, own, active, _⟩
        exact absurd active (idle row stays (own.trans same) ▸ Bool.false_ne_true)
    · rw [and_iff_right same, held user followed branch]
      exact covers_others_iff stored same branch

/-- An operation keeps everyone in step exactly where it keeps the union. -/
theorem step_inStep_iff (state : Followed) (call : ScopeCall) (sound : state.Sound)
    (held : state.InStep) : (state.step call).InStep ↔ state.KeepsUnion call := by
  cases call with
  | insert user branch organization isActive =>
    show (state.after (settled _ (insertScope _ (newScope user branch organization isActive)))).InStep
      ↔ _
    cases outcome : insertScope state.site (newScope user branch organization isActive) with
    | error raised =>
      refine iff_of_true ((after_self_inStep sound).mpr held) fun names saved fresh => ?_
      rw [insertScope_iff.mpr ⟨names, saved, fresh, rfl⟩] at outcome
      cases outcome
    | ok next =>
      obtain ⟨names, saved, fresh, same⟩ := insertScope_iff.mp outcome
      rw [settled, same, insert_inStep_iff sound held saved fresh]
      constructor
      · intro union found again _
        cases saved.resolved.symm.trans again.resolved
        exact union
      · exact fun union => union names saved fresh
  | save doc =>
    show (state.after (settled _ (saveScope _ doc))).InStep ↔ _
    cases outcome : saveScope state.site doc with
    | error raised =>
      refine iff_of_true ((after_self_inStep sound).mpr held) fun names old saved inside same => ?_
      rw [saveScope_iff.mpr ⟨names, saved, old,
        state.site.scopes.find?_eq_some.mpr ⟨inside, same⟩, rfl⟩] at outcome
      cases outcome
    | ok next =>
      obtain ⟨names, saved, old, stored, same⟩ := saveScope_iff.mp outcome
      obtain ⟨inside, named⟩ := state.site.scopes.find?_eq_some.mp stored
      rw [settled, same, save_inStep_iff sound held saved stored]
      constructor
      · intro union found other again there called
        cases saved.resolved.symm.trans again.resolved
        cases state.site.scopes.eq_of_key inside there (named.trans called.symm)
        exact union
      · exact fun union => union names old saved inside named
  | delete name =>
    show (state.after (settled _ (deleteScope _ name))).InStep ↔ _
    cases outcome : deleteScope state.site name with
    | error raised =>
      refine iff_of_true ((after_self_inStep sound).mpr held) fun old inside same => ?_
      rw [deleteScope_iff.mpr ⟨old, state.site.scopes.find?_eq_some.mpr ⟨inside, same⟩, rfl⟩]
        at outcome
      cases outcome
    | ok next =>
      obtain ⟨old, stored, same⟩ := deleteScope_iff.mp outcome
      obtain ⟨inside, named⟩ := state.site.scopes.find?_eq_some.mp stored
      rw [settled, same, delete_inStep_iff sound held stored]
      constructor
      · intro idle other there called
        cases state.site.scopes.eq_of_key inside there (named.trans called.symm)
        exact idle
      · exact fun idle => idle old inside named

/-- An operation keeps the rows sound. -/
theorem Sound.step (sound : state.Sound) (call : ScopeCall) : (state.step call).Sound := by
  have unchanged : (state.after state.site).Sound :=
    ⟨fun row inside => List.mem_append_left _ (sound.followed row inside), sound.resolved⟩
  cases call with
  | insert user branch organization isActive =>
    show (state.after (settled _ (insertScope _ (newScope user branch organization isActive)))).Sound
    cases outcome : insertScope state.site (newScope user branch organization isActive) with
    | error raised => exact unchanged
    | ok next =>
      obtain ⟨names, saved, fresh, same⟩ := insertScope_iff.mp outcome
      rw [settled, same]
      exact sound.saved saved rfl fun row => (Table.mem_add fresh).mp
  | save doc =>
    show (state.after (settled _ (saveScope _ doc))).Sound
    cases outcome : saveScope state.site doc with
    | error raised => exact unchanged
    | ok next =>
      obtain ⟨names, saved, old, stored, same⟩ := saveScope_iff.mp outcome
      rw [settled, same]
      refine sound.saved saved rfl fun row inside => ?_
      exact ((Table.mem_replace stored).mp inside).symm.imp_left And.left
  | delete name =>
    show (state.after (settled _ (deleteScope _ name))).Sound
    cases outcome : deleteScope state.site name with
    | error raised => exact unchanged
    | ok next =>
      obtain ⟨old, stored, same⟩ := deleteScope_iff.mp outcome
      rw [settled, same]
      refine ⟨fun row inside => List.mem_append_left _ (sound.followed row ?_),
        fun row inside => sound.resolved row ?_⟩
      · exact (Table.mem_remove.mp inside).1
      · exact (Table.mem_remove.mp inside).1

end Followed

/-- Throughout a run from a site without scopes, everyone who has a scope or had one is permitted
the union of the subtrees of his rows in force exactly where every operation leaves the union at
what it writes. -/
theorem scopes_union_iff (branches : Table Trees.Branch Trees.Branch.name)
    (userPermissions : List (String × String)) (calls : List ScopeCall) :
    EveryState Followed.step Followed.InStep (Followed.start branches userPermissions) calls ↔
      EveryCall Followed.step Followed.KeepsUnion (Followed.start branches userPermissions) calls :=
  everyState_iff_everyCall Followed.Sound (fun _ call sound => sound.step call)
    Followed.step_inStep_iff ⟨fun _ inside => (nomatch inside), fun _ inside => nomatch inside⟩
    fun _ there => nomatch there

/-- Two branches side by side. -/
def northAndSouth : Table Trees.Branch Trees.Branch.name :=
  ⟨[⟨"North", "Flock", none, 1, 2⟩, ⟨"South", "Flock", none, 3, 4⟩], by decide⟩

/-- The second scope of a user takes the branch of the first one from the user. -/
theorem second_scope_takes_the_first :
    ¬ EveryState Followed.step Followed.InStep (Followed.start northAndSouth [])
      [.insert "ann" "North" none true, .insert "ann" "South" none true] := by
  intro throughout
  have both := throughout.last "ann" (by decide +kernel) "North"
  have covers : Followed.Covers (runAll Followed.step (Followed.start northAndSouth [])
      [.insert "ann" "North" none true, .insert "ann" "South" none true]) "ann" "North" :=
    ⟨newScope "ann" "North" none true, by decide +kernel, rfl, rfl, ["North"], by decide +kernel,
      by decide⟩
  exact absurd (both.mpr covers) (by decide +kernel)

end FlockOs.BranchAdmin
