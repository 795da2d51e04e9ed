import FlockOs.Verif.RegistrationScope

/-!
# Valid invitations

Whether a member holds a valid invitation, against what `has_valid_invitation` answers. It looks
at one row that names the member, or else at one row of the first invited group that reaches the
member, and an expiry on that row cannot be compared with the time.
-/

namespace FlockOs.RegistrationScope

open Lib Directory Trees Registrations

/-- A group is the member's own or lies above one of its groups. -/
def ReachesMember (tables : ScopeTables) (member group : String) : Prop :=
  ∃ own, GroupBelow tables group own ∧ ActiveMemberOf tables.directory member own

/-- An invitation has lapsed. -/
def Lapsed (now : Int) (row : Invitation) : Prop :=
  ∃ expiresOn, row.expiresOn = some expiresOn ∧ expiresOn ≤ now

/-- A row is a valid invitation of a member to a gathering. -/
structure Invites (tables : ScopeTables) (now : Int) (gathering member : String)
    (row : Invitation) : Prop where
  /-- The row is stored. -/
  stored : row ∈ tables.invitations.rows
  /-- It is for the gathering. -/
  gathering : row.gathering = gathering
  /-- It is sent or accepted. -/
  stands : row.stands = true
  /-- It is not cancelled. -/
  submitted : row.docstatus < 2
  /-- It has not lapsed. -/
  current : ¬ Lapsed now row
  /-- It names the member, or a group that reaches it. -/
  addressed : row.invitee = some member ∨
    ∃ group, truthy row.inviteeGroup = some group ∧ ReachesMember tables member group

/-- The groups of all invitations exist. -/
def Linked (tables : ScopeTables) : Prop :=
  ∀ row ∈ tables.invitations.rows, ∀ group, truthy row.inviteeGroup = some group →
    ∃ stored ∈ tables.directory.groups.rows, stored.name = group

open Classical in
/-- The first of some groups that reaches the member. -/
noncomputable def firstReaching (tables : ScopeTables) (member : String) (groups : List String) :
    Option String :=
  groups.find? fun group => decide (ReachesMember tables member group)

/-- The row whose expiry is asked for: the first that names the member, and if none does, the
first of the first invited group that reaches the member. -/
def AskedFor (tables : ScopeTables) (gathering member : String) (row : Invitation) : Prop :=
  tables.directInvitation gathering member = some row ∨
    (tables.directInvitation gathering member = none ∧
      ∃ group, firstReaching tables member (firstPerKey id (tables.inviteeGroups gathering)) =
          some group ∧ tables.groupInvitation gathering group = some row)

section Lookups

variable {tables : ScopeTables} {now : Int} {gathering member : String}

/-- An invitation without an expiry has not lapsed. -/
theorem not_lapsed {row : Invitation} (endless : row.expiresOn = none) : ¬ Lapsed now row := by
  rintro ⟨expiresOn, set, _⟩
  rw [endless] at set
  cases set

/-- An expiry that is set cannot be compared with the time. -/
theorem expired_set {row : Invitation} {expiresOn : Int} (set : row.expiresOn = some expiresOn) :
    isInvitationExpired row.expiry (.text now) = .error (.type
      "'>=' not supported between instances of 'str' and 'datetime.datetime'") := by
  rw [Invitation.expiry, set]
  rfl

/-- Without an expiry nothing is compared. -/
theorem expired_endless {row : Invitation} (endless : row.expiresOn = none) :
    isInvitationExpired row.expiry (.text now) = .ok false := by
  rw [Invitation.expiry, endless]
  rfl

/-- The row that answers for a member names it. -/
theorem of_directInvitation {row : Invitation}
    (found : tables.directInvitation gathering member = some row) :
    row ∈ tables.invitations.rows ∧ row.gathering = gathering ∧ row.invitee = some member ∧
      row.stands = true ∧ row.docstatus < 2 := by
  have kept := List.find?_some found
  simp only [Bool.and_eq_true, decide_eq_true_eq] at kept
  obtain ⟨⟨⟨held, own⟩, stands⟩, submitted⟩ := kept
  exact ⟨List.mem_of_find?_eq_some found, held, own, stands, submitted⟩

/-- When no row answers for a member, none that stands names it. -/
theorem of_no_directInvitation (none : tables.directInvitation gathering member = none)
    {row : Invitation} (stored : row ∈ tables.invitations.rows) (held : row.gathering = gathering)
    (stands : row.stands = true) (submitted : row.docstatus < 2) :
    row.invitee ≠ some member := by
  intro own
  have passed := List.find?_eq_none.mp none row stored
  simp [held, own, stands, submitted] at passed

/-- The invited groups are those of the rows that stand. -/
theorem mem_inviteeGroups {group : String} :
    group ∈ tables.inviteeGroups gathering ↔ ∃ row ∈ tables.invitations.rows,
      row.gathering = gathering ∧ row.stands = true ∧ row.docstatus < 2 ∧
      truthy row.inviteeGroup = some group := by
  rw [ScopeTables.inviteeGroups, List.mem_filterMap]
  constructor
  · rintro ⟨row, kept, named⟩
    obtain ⟨stored, passed⟩ := List.mem_filter.mp kept
    simp only [Bool.and_eq_true, decide_eq_true_eq] at passed
    obtain ⟨⟨held, stands⟩, submitted⟩ := passed
    exact ⟨row, stored, held, stands, submitted, named⟩
  · rintro ⟨row, stored, held, stands, submitted, named⟩
    exact ⟨row, List.mem_filter.mpr ⟨stored, by simp [held, stands, submitted]⟩, named⟩

/-- The row that answers for an invited group. -/
theorem groupInvitation_some {group : String}
    (invited : group ∈ tables.inviteeGroups gathering) :
    ∃ row, tables.groupInvitation gathering group = some row ∧
      row ∈ tables.invitations.rows ∧ row.gathering = gathering ∧ row.stands = true ∧
      truthy row.inviteeGroup = some group := by
  obtain ⟨row, stored, held, stands, _, named⟩ := mem_inviteeGroups.mp invited
  have own := truthy_eq_some named
  cases found : tables.groupInvitation gathering group with
  | none =>
    have passed := List.find?_eq_none.mp found row stored
    simp [held, own, stands] at passed
  | some other =>
    have kept := List.find?_some found
    simp only [Bool.and_eq_true, decide_eq_true_eq] at kept
    obtain ⟨⟨held, own⟩, stands⟩ := kept
    refine ⟨other, rfl, List.mem_of_find?_eq_some found, held, stands, ?_⟩
    rw [own, truthy_some (truthy_nonempty named)]

end Lookups

section Answer

variable {tables : ScopeTables} {now : Int} {gathering member : String}

/-- An invited group reaches a member whose groups its subtree meets. -/
theorem reaches_iff_meets (named : member ≠ "") {group : String} {names : List String}
    (all : ∀ name, name ∈ names ↔ GroupBelow tables group name) :
    (tables.memberGroups member).any names.contains = true ↔
      ReachesMember tables member group := by
  rw [List.any_eq_true]
  constructor
  · rintro ⟨own, joined, within⟩
    exact ⟨own, (all own).mp (List.contains_iff_mem.mp within), (mem_memberGroups named).mp joined⟩
  · rintro ⟨own, below, roster⟩
    exact ⟨own, (mem_memberGroups named).mpr roster, List.contains_iff_mem.mpr ((all own).mpr below)⟩

open Classical in
/-- The first group that reaches a member is the head of the groups when it does. -/
theorem firstReaching_cons {group : String} {rest : List String}
    (reaching : ReachesMember tables member group) :
    firstReaching tables member (group :: rest) = some group := by
  rw [firstReaching]
  exact List.find?_cons_of_pos (decide_eq_true reaching)

open Classical in
/-- A head that does not reach the member is passed over. -/
theorem firstReaching_skip {group : String} {rest : List String}
    (apart : ¬ ReachesMember tables member group) :
    firstReaching tables member (group :: rest) = firstReaching tables member rest := by
  rw [firstReaching]
  exact List.find?_cons_of_neg fun holds => apart (of_decide_eq_true holds)

open Classical in
/-- No group reaches a member when none of them does. -/
theorem firstReaching_none {groups : List String} :
    firstReaching tables member groups = none ↔
      ∀ group ∈ groups, ¬ ReachesMember tables member group := by
  rw [firstReaching, List.find?_eq_none]
  simp only [decide_eq_true_eq]

/-- The answer about the row that is asked for. -/
def verdictOn (now : Int) : Option Invitation → Except Error Bool
  | none => .ok false
  | some row => (isInvitationExpired row.expiry (.text now)).bind fun _ => .ok true

/-- The loop over the invited groups asks for the row of the first that reaches the member. -/
theorem invitedByGroup_eq (named : member ≠ "") : ∀ (groups : List String),
    (∀ group ∈ groups, group ∈ tables.inviteeGroups gathering ∧
      ∃ names, tables.groupSubtree group = .ok names ∧
        ∀ name, name ∈ names ↔ GroupBelow tables group name) →
    tables.invitedByGroup now gathering (tables.memberGroups member) groups =
      verdictOn now ((firstReaching tables member groups).bind
        (tables.groupInvitation gathering))
  | [], _ => rfl
  | group :: rest, reads => by
    obtain ⟨invited, names, read, all⟩ := reads group List.mem_cons_self
    have later := invitedByGroup_eq named rest fun other inside =>
      reads other (List.mem_cons_of_mem group inside)
    rw [ScopeTables.invitedByGroup, read]
    show (if (tables.memberGroups member).any names.contains = true then _ else _) = _
    by_cases reaching : ReachesMember tables member group
    · obtain ⟨row, found, _⟩ := groupInvitation_some invited
      rw [if_pos ((reaches_iff_meets named all).mpr reaching), firstReaching_cons reaching,
        Option.bind_some, found, Option.bind_some, verdictOn]
      cases expiry : row.expiresOn with
      | none =>
        rw [expired_endless expiry]
        rfl
      | some expiresOn =>
        rw [expired_set expiry]
        rfl
    · rw [if_neg fun meets => reaching ((reaches_iff_meets named all).mp meets), later,
        firstReaching_skip reaching]

/-- The answer is that about the row that is asked for. -/
theorem hasValidInvitation_eq
    (nested : NestedOrder (tables.directory.groups.rows.map groupTree.nestedRow))
    (linked : Linked tables) (held : gathering ≠ "") (named : member ≠ "") :
    tables.hasValidInvitation now gathering member =
      verdictOn now ((tables.directInvitation gathering member).or
        ((firstReaching tables member (firstPerKey id (tables.inviteeGroups gathering))).bind
          (tables.groupInvitation gathering))) := by
  rw [ScopeTables.hasValidInvitation, if_neg (not_or.mpr ⟨held, named⟩)]
  cases direct : tables.directInvitation gathering member with
  | some row =>
    cases expiry : row.expiresOn with
    | none =>
      rw [Option.some_or, verdictOn, ScopeTables.answers, expired_endless expiry]
      rfl
    | some expiresOn =>
      rw [Option.some_or, verdictOn, ScopeTables.answers, expired_set expiry]
      rfl
  | none =>
    have reads : ∀ group ∈ firstPerKey id (tables.inviteeGroups gathering),
        group ∈ tables.inviteeGroups gathering ∧ ∃ names,
          tables.groupSubtree group = .ok names ∧
            ∀ name, name ∈ names ↔ GroupBelow tables group name := by
      intro group inside
      have invited := mem_firstPerKey_id.mp inside
      obtain ⟨row, stored, _, _, _, given⟩ := mem_inviteeGroups.mp invited
      obtain ⟨base, there, same⟩ := linked row stored group given
      obtain ⟨names, read, all⟩ := groupSubtree_ok nested there
      rw [same] at read all
      exact ⟨invited, names, read, all⟩
    rw [Option.none_or, ← invitedByGroup_eq named _ reads]
    show tables.hasGroupInvitation now gathering member = _
    rw [ScopeTables.hasGroupInvitation]
    split
    · next empty =>
      rw [List.isEmpty_iff.mp empty]
      rfl
    · split
      · next alone =>
        have apart : firstReaching tables member
            (firstPerKey id (tables.inviteeGroups gathering)) = none := by
          rw [firstReaching_none]
          rintro group _ ⟨own, _, roster⟩
          have joined := (mem_memberGroups named).mpr roster
          rw [List.isEmpty_iff.mp alone] at joined
          cases joined
        rw [invitedByGroup_eq named _ reads, apart]
        rfl
      · rfl

/-- The row that is asked for. -/
theorem askedFor_iff {row : Invitation} :
    AskedFor tables gathering member row ↔
      (tables.directInvitation gathering member).or
        ((firstReaching tables member (firstPerKey id (tables.inviteeGroups gathering))).bind
          (tables.groupInvitation gathering)) = some row := by
  rw [AskedFor]
  cases tables.directInvitation gathering member with
  | none =>
    rw [Option.none_or, Option.bind_eq_some_iff]
    exact ⟨fun either => either.elim nofun fun group => group.2, fun group => .inr ⟨rfl, group⟩⟩
  | some other =>
    rw [Option.some_or]
    exact ⟨fun either => either.elim id nofun, .inl⟩

open Classical in
/-- A group that is invited and reaches the member has a row that answers for it. -/
theorem exists_askedFor {row : Invitation} (invites : Invites tables now gathering member row) :
    ∃ asked, AskedFor tables gathering member asked := by
  cases direct : tables.directInvitation gathering member with
  | some other => exact ⟨other, .inl direct⟩
  | none =>
    rcases invites.addressed with own | ⟨group, given, reaching⟩
    · exact absurd own (of_no_directInvitation direct invites.stored invites.gathering
        invites.stands invites.submitted)
    · have invited : group ∈ firstPerKey id (tables.inviteeGroups gathering) :=
        mem_firstPerKey_id.mpr (mem_inviteeGroups.mpr
          ⟨row, invites.stored, invites.gathering, invites.stands, invites.submitted, given⟩)
      cases found : firstReaching tables member
          (firstPerKey id (tables.inviteeGroups gathering)) with
      | none => exact absurd reaching (firstReaching_none.mp found group invited)
      | some first =>
        rw [firstReaching] at found
        obtain ⟨asked, answers, _⟩ :=
          groupInvitation_some (mem_firstPerKey_id.mp (List.mem_of_find?_eq_some found))
        exact ⟨asked, .inr ⟨direct, first, found, answers⟩⟩

open Classical in
/-- The row that is asked for is a valid invitation unless it is cancelled or has an expiry. -/
theorem AskedFor.invites {row : Invitation} (asked : AskedFor tables gathering member row)
    (endless : row.expiresOn = none) (submitted : row.docstatus < 2) :
    Invites tables now gathering member row := by
  rcases asked with direct | ⟨_, group, first, found⟩
  · obtain ⟨stored, held, own, stands, _⟩ := of_directInvitation direct
    exact ⟨stored, held, stands, submitted, not_lapsed endless, .inl own⟩
  · rw [firstReaching] at first
    have passed := List.find?_some first
    have reaching : ReachesMember tables member group := of_decide_eq_true passed
    obtain ⟨other, again, stored, held, stands, given⟩ :=
      groupInvitation_some (mem_firstPerKey_id.mp (List.mem_of_find?_eq_some first))
    rw [found] at again
    cases again
    exact ⟨stored, held, stands, submitted, not_lapsed endless, .inr ⟨group, given, reaching⟩⟩

/-- The answer decides whether there is a valid invitation exactly when the row that is asked for
has no expiry and, being cancelled, is not alone. -/
theorem valid_invitation_decided_iff (tables : ScopeTables) (now : Int)
    (gathering member : String)
    (nested : NestedOrder (tables.directory.groups.rows.map groupTree.nestedRow))
    (linked : Linked tables) (held : gathering ≠ "") (named : member ≠ "") :
    (∃ answer, tables.hasValidInvitation now gathering member = .ok answer ∧
        (answer = true ↔ ∃ row, Invites tables now gathering member row)) ↔
      ∀ row, AskedFor tables gathering member row → row.expiresOn = none ∧
        (row.docstatus < 2 ∨ ∃ other, Invites tables now gathering member other) := by
  rw [hasValidInvitation_eq nested linked held named]
  simp only [askedFor_iff]
  cases asked : (tables.directInvitation gathering member).or
      ((firstReaching tables member (firstPerKey id (tables.inviteeGroups gathering))).bind
        (tables.groupInvitation gathering)) with
  | none =>
    refine iff_of_true ⟨false, rfl, iff_of_false Bool.false_ne_true ?_⟩ (by rintro _ ⟨⟩)
    rintro ⟨row, invites⟩
    obtain ⟨other, given⟩ := exists_askedFor invites
    rw [askedFor_iff, asked] at given
    cases given
  | some row =>
    cases expiry : row.expiresOn with
    | some expiresOn =>
      rw [verdictOn, expired_set expiry]
      refine iff_of_false (by rintro ⟨_, ⟨⟩, _⟩) fun holds => ?_
      rw [(holds row rfl).1] at expiry
      cases expiry
    | none =>
      rw [verdictOn, expired_endless expiry]
      have valid (submitted : row.docstatus < 2) : ∃ other,
          Invites tables now gathering member other :=
        ⟨row, (askedFor_iff.mpr asked).invites expiry submitted⟩
      constructor
      · rintro ⟨_, ⟨⟩, decided⟩ _ ⟨⟩
        exact ⟨expiry, .inr (decided.mp rfl)⟩
      · intro holds
        refine ⟨true, rfl, iff_of_true rfl ?_⟩
        exact (holds row rfl).2.elim valid id

end Answer

/-- The ministry is invited to a gathering. -/
def ministryInvited (expiresOn : Option Int) : ScopeTables :=
  { hillTables with
    invitations := ⟨[{
      name := "INV-00001"
      branch := "North"
      gathering := "GATH-00001"
      inviteeGroup := some "North-Ministry"
      inviteToken := some "token"
      expiresOn := expiresOn }], List.nodup_singleton _⟩ }

/-- The member of the group below the ministry may show its invitation. -/
example : (ministryInvited none).hasValidInvitation 5 "GATH-00001" "MEM-00001" = .ok true := rfl

/-- An invitation that lapses tomorrow is not found valid: its expiry cannot be compared. -/
theorem tomorrow_not_decided :
    (∃ row, Invites (ministryInvited (some 6)) 5 "GATH-00001" "MEM-00001" row) ∧
      (ministryInvited (some 6)).hasValidInvitation 5 "GATH-00001" "MEM-00001" = .error (.type
        "'>=' not supported between instances of 'str' and 'datetime.datetime'") := by
  have below : Levels.Child (groupTree.childrenOf ministryTables.groups.rows) "North-Ministry"
      "North-Teens" := List.mem_singleton.mpr rfl
  refine ⟨⟨_, List.mem_cons_self, rfl, rfl, Nat.zero_lt_two, ?_, .inr ⟨"North-Ministry", rfl,
    "North-Teens", .single below, _, List.mem_cons_self, rfl, rfl, rfl, by decide⟩⟩, rfl⟩
  rintro ⟨_, ⟨⟩, past⟩
  exact absurd past (by decide)

/-- The invited ministry exists. -/
theorem ministryInvited_linked : Linked (ministryInvited none) := by
  intro row stored group given
  cases List.mem_singleton.mp stored
  exact ⟨ministry, by decide, Option.some.inj given⟩

/-- Without an expiry the invitation of the ministry is decided. -/
theorem ministry_invitation_decided :
    (∃ answer, (ministryInvited none).hasValidInvitation 5 "GATH-00001" "MEM-00001" =
        .ok answer ∧
        (answer = true ↔ ∃ row, Invites (ministryInvited none) 5 "GATH-00001" "MEM-00001" row)) ↔
      ∀ row, AskedFor (ministryInvited none) "GATH-00001" "MEM-00001" row →
        row.expiresOn = none ∧ (row.docstatus < 2 ∨
          ∃ other, Invites (ministryInvited none) 5 "GATH-00001" "MEM-00001" other) :=
  valid_invitation_decided_iff (ministryInvited none) 5 "GATH-00001" "MEM-00001"
    ministryTables_nested ministryInvited_linked (by decide) (by decide)

end FlockOs.RegistrationScope
