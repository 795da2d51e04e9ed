import FlockOs.BulkRegistration
import FlockOs.EventInvitation
import FlockOs.RegistrationHints
import FlockOs.Verif.ValidInvitation

/-!
# Time gates

The window of a gathering and the expiry of an invitation against the chronological order of the
instants. A bound that is set is a datetime while the time is a text, so that the tests are those
of the instants, and the four endpoints that make them free of type errors, exactly where no bound
is compared.
-/

namespace FlockOs.TimeGates

open Lib Directory Trees Registrations EventRegistration RegistrationScope EventInvitation

/-- A call does not end in a type error. -/
def Untyped {α : Type} (result : Except Error α) : Prop :=
  ∀ message, result ≠ .error (.type message)

section Results

variable {α β : Type}

/-- What returns does not end in a type error. -/
theorem untyped_ok (value : α) : Untyped (.ok value : Except Error α) := nofun

/-- Two calls in a row do not end in a type error when neither does. -/
theorem Untyped.bind {first : Except Error α} {rest : α → Except Error β} (free : Untyped first)
    (later : ∀ value, first = .ok value → Untyped (rest value)) : Untyped (first >>= rest) := by
  cases ran : first with
  | error raised =>
    rintro message ⟨⟩
    exact free message ran
  | ok value => exact later value ran

/-- A result that is mapped does not end in a type error when it does not. -/
theorem Untyped.map {result : Except Error α} (free : Untyped result) (change : α → β) :
    Untyped (result.map change) := by
  cases ran : result with
  | error raised =>
    rintro message ⟨⟩
    exact free message ran
  | ok value => exact untyped_ok (change value)

/-- A check that passes or raises another error does not end in a type error. -/
theorem untyped_ite {holds : Prop} [Decidable holds] {left right : Except Error α}
    (first : holds → Untyped left) (second : ¬ holds → Untyped right) :
    Untyped (if holds then left else right) := by
  split
  · exact first ‹_›
  · exact second ‹_›

end Results

/-- The window is open at a time, the bounds taken as instants. -/
def OpenAt (window : RegistrationWindow) (now : Int) : Prop :=
  window.approvalStatus = "Approved" ∧ window.scope ∉ closedScopes ∧
    (∀ opensOn, window.opensOn = some opensOn → opensOn.instant ≤ now) ∧
    ∀ closesOn, window.closesOn = some closesOn → now ≤ closesOn.instant

/-- The window is open exactly when its instants say so. -/
def WindowChronological (window : RegistrationWindow) (now : Int) : Prop :=
  ∃ answer, isRegistrationWindowOpen window (.text now) = .ok answer ∧
    (answer = true ↔ OpenAt window now)

/-- An invitation is expired exactly when its instant says so. -/
def ExpiryChronological (row : Invitation) (now : Int) : Prop :=
  ∃ answer, isInvitationExpired row.expiry (.text now) = .ok answer ∧
    (answer = true ↔ Lapsed now row)

/-- No bound of a window is compared: it is closed anyway, or open on both sides. -/
def Uncompared (window : RegistrationWindow) : Prop :=
  window.scope ∈ closedScopes ∨ window.approvalStatus ≠ "Approved" ∨
    (window.opensOn = none ∧ window.closesOn = none)

section Gates

variable {db : Database} {gathering : String} {now : Int}

/-- The bounds of a window are datetimes. -/
theorem bounds_datetime {bound : Moment}
    (set : (registrationWindow db gathering).opensOn = some bound ∨
      (registrationWindow db gathering).closesOn = some bound) :
    ∃ instant, bound = .datetime instant := by
  rcases set with set | set
  · obtain ⟨instant, _, same⟩ := Option.map_eq_some_iff.mp set
    exact ⟨instant, same.symm⟩
  · obtain ⟨instant, _, same⟩ := Option.map_eq_some_iff.mp set
    exact ⟨instant, same.symm⟩

/-- A window whose bounds are not compared is judged by its instants. -/
theorem window_of_uncompared {window : RegistrationWindow} (free : Uncompared window) :
    WindowChronological window now := by
  rw [WindowChronological, isRegistrationWindowOpen]
  by_cases closed : window.scope ∈ closedScopes
  · rw [if_pos (List.contains_iff_mem.mpr closed)]
    exact ⟨false, rfl, iff_of_false Bool.false_ne_true fun open' => open'.2.1 closed⟩
  · rw [if_neg fun holds => closed (List.contains_iff_mem.mp holds)]
    by_cases approved : window.approvalStatus = "Approved"
    · rcases free with held | other | ⟨opens, closes⟩
      · exact absurd held closed
      · exact absurd approved other
      · rw [if_neg (not_not.mpr approved), opens, closes]
        refine ⟨true, rfl, iff_of_true rfl ⟨approved, closed, ?_, ?_⟩⟩
        · rw [opens]
          nofun
        · rw [closes]
          nofun
    · rw [if_pos approved]
      exact ⟨false, rfl, iff_of_false Bool.false_ne_true fun open' => approved open'.1⟩

/-- A window that is judged at all has no bound that is compared. -/
theorem uncompared_of_answer {answer : Bool}
    (judged : isRegistrationWindowOpen (registrationWindow db gathering) (.text now) =
      .ok answer) : Uncompared (registrationWindow db gathering) := by
  rw [isRegistrationWindowOpen] at judged
  by_cases closed : (registrationWindow db gathering).scope ∈ closedScopes
  · exact .inl closed
  · by_cases approved : (registrationWindow db gathering).approvalStatus = "Approved"
    · right
      right
      rw [if_neg fun holds => closed (List.contains_iff_mem.mp holds),
        if_neg (not_not.mpr approved)] at judged
      cases opens : (registrationWindow db gathering).opensOn with
      | some bound =>
        obtain ⟨instant, same⟩ := bounds_datetime (.inl opens)
        rw [opens, same] at judged
        cases judged
      | none =>
        cases closes : (registrationWindow db gathering).closesOn with
        | some bound =>
          obtain ⟨instant, same⟩ := bounds_datetime (.inr closes)
          rw [opens, closes, same] at judged
          cases judged
        | none => exact ⟨rfl, rfl⟩
    · exact .inr (.inl approved)

/-- The window of a gathering is judged by its instants exactly when no bound is compared. -/
theorem window_chronological_iff :
    WindowChronological (registrationWindow db gathering) now ↔
      Uncompared (registrationWindow db gathering) :=
  ⟨fun ⟨_, judged, _⟩ => uncompared_of_answer judged, window_of_uncompared⟩

/-- The expiry of an invitation is judged by its instant exactly when there is none. -/
theorem expiry_chronological_iff {row : Invitation} :
    ExpiryChronological row now ↔ row.expiresOn = none := by
  cases expiry : row.expiresOn with
  | none =>
    refine iff_of_true ⟨false, expired_endless expiry, ?_⟩ rfl
    exact iff_of_false Bool.false_ne_true (not_lapsed expiry)
  | some expiresOn =>
    refine iff_of_false ?_ nofun
    rintro ⟨answer, judged, _⟩
    rw [expired_set expiry] at judged
    cases judged

end Gates

section Calls

variable {site : Site} {db : Database} {gathering : String}

/-- The branch guard raises no type error. -/
theorem untyped_assertBranchScope (branch : Option String) (user : String)
    (gateway : Permissions.PermissionGateway) :
    Untyped (Permissions.assertBranchScope branch user gateway) := by
  rw [Permissions.assertBranchScope]
  split <;> exact nofun

/-- The checks of a registration raise no type error. -/
theorem untyped_validate (tables : EventRegistration.Tables) (doc : Registration) :
    Untyped (EventRegistration.validate site tables doc) := by
  rw [EventRegistration.validate]
  split
  · exact nofun
  · split
    · exact nofun
    · split <;> exact nofun

/-- The insertion of a registration raises no type error. -/
theorem untyped_insertRegistration (doc : Registration) :
    Untyped (insertRegistration site db doc) := by
  rw [insertRegistration]
  refine (untyped_validate _ _).bind fun doc _ => ?_
  refine Untyped.bind ?_ fun _ _ => ?_
  · rw [EventRegistration.validateMandatory]
    split <;> rintro _ ⟨⟩
  · split
    · split <;> rintro _ ⟨⟩
    · rintro _ ⟨⟩

/-- Claiming a seat raises no type error. -/
theorem untyped_claimSeat (plan : RegisterPlan) (anchors : GatheringScope) :
    Untyped (claimSeat site db plan anchors) := by
  rw [claimSeat]
  refine Untyped.bind ?_ fun status _ => ?_
  · rw [authoritativeRegistrationStatus]
    split <;> exact nofun
  · refine (untyped_insertRegistration _).bind fun inserted _ => ?_
    dsimp only
    split <;> exact nofun

/-- The writing part of `register_for_event` raises no type error. -/
theorem untyped_registerForEventWrite (plan : RegisterPlan) :
    Untyped (registerForEventWrite site db plan) := by
  rw [registerForEventWrite]
  split
  · exact nofun
  · split <;> exact nofun
  · next other _ raised =>
    rintro message ⟨⟩
    exact untyped_claimSeat plan _ message raised

/-- Reading a subtree raises no type error. -/
theorem untyped_subtree {Row : Type} (tree : TreeDoctype Row) (rows : List Row) (node : String) :
    Untyped (tree.subtree rows node) := by
  rw [TreeDoctype.subtree]
  split
  · rintro _ ⟨⟩
  · refine Untyped.map (Untyped.map ?_ _) _
    rw [descendantsOf]
    split <;> rintro _ ⟨⟩

/-- Reading the subtree of a group raises no type error. -/
theorem untyped_groupSubtree (tables : ScopeTables) (group : String) :
    Untyped (tables.groupSubtree group) := by
  rw [ScopeTables.groupSubtree]
  split
  · rintro _ ⟨⟩
  · exact (untyped_subtree groupTree _ group).map _

/-- Reading the subtree of a branch raises no type error. -/
theorem untyped_branchSubtree (tables : ScopeTables) (branch : String) :
    Untyped (tables.branchSubtree branch) := by
  rw [ScopeTables.branchSubtree]
  split
  · rintro _ ⟨⟩
  · exact (untyped_subtree branchTree _ branch).map _

end Calls

section Endpoints

variable {site : Site} {tables : ScopeTables} {db : Database} {gathering : String}
  (endless : ∀ row ∈ tables.invitations.rows, row.expiresOn = none)
include endless

/-- An expiry that is asked for raises no type error when no invitation has one. -/
theorem untyped_expired {now : Int} {row : Invitation} (stored : row ∈ tables.invitations.rows) :
    Untyped (isInvitationExpired row.expiry (.text now)) := by
  rw [expired_endless (endless row stored)]
  exact untyped_ok false

/-- The loop over the invited groups raises no type error. -/
theorem untyped_invitedByGroup (now : Int) (memberGroups : List String) :
    ∀ groups, Untyped (tables.invitedByGroup now gathering memberGroups groups)
  | [] => untyped_ok false
  | group :: rest => by
    have later := untyped_invitedByGroup now memberGroups rest
    rw [ScopeTables.invitedByGroup]
    refine (untyped_groupSubtree tables group).bind fun names _ => ?_
    split
    · refine Untyped.bind ?_ fun lapsed _ => ?_
      · cases found : tables.groupInvitation gathering group with
        | none => exact untyped_ok false
        | some row => exact untyped_expired endless (List.mem_of_find?_eq_some found)
      · split
        · exact untyped_ok true
        · exact later
    · exact later

/-- Looking for a valid invitation raises no type error. -/
theorem untyped_hasValidInvitation (now : Int) (member : String) :
    Untyped (tables.hasValidInvitation now gathering member) := by
  rw [ScopeTables.hasValidInvitation]
  split
  · rintro _ ⟨⟩
  · refine Untyped.bind ?_ fun direct _ => ?_
    · cases found : tables.directInvitation gathering member with
      | none => exact untyped_ok false
      | some row =>
        exact (untyped_expired endless (List.mem_of_find?_eq_some found)).bind
          fun lapsed _ => untyped_ok _
    · split
      · rintro _ ⟨⟩
      · rw [ScopeTables.hasGroupInvitation]
        split
        · rintro _ ⟨⟩
        · split
          · rintro _ ⟨⟩
          · exact untyped_invitedByGroup endless now _ _

/-- The scope gate raises no type error. -/
theorem untyped_isMemberInScope (member scope : String) :
    Untyped (isMemberInScope member gathering scope
      (gatewayOver site tables db.toTables)) := by
  rw [isMemberInScope]
  refine untyped_ite (fun _ => untyped_ok false) fun _ => ?_
  refine untyped_ite (fun _ => untyped_ok false) fun _ => ?_
  refine untyped_ite (fun _ => untyped_ok _) fun _ => ?_
  refine untyped_ite (fun _ => ?_) fun _ => ?_
  · split
    · exact untyped_ok false
    · exact (untyped_groupSubtree tables _).bind fun names _ => untyped_ok _
  refine untyped_ite (fun _ => untyped_ok _) fun _ => ?_
  refine untyped_ite (fun _ => ?_) fun _ => ?_
  · split
    · exact untyped_ok false
    · exact (untyped_branchSubtree tables _).bind fun names _ => untyped_ok _
  refine untyped_ite (fun _ => untyped_ok _) fun _ => ?_
  refine untyped_ite (fun _ => untyped_hasValidInvitation endless site.now member) fun _ => ?_
  rintro _ ⟨⟩

/-- The reason of an eligibility raises no type error. -/
theorem untyped_eligibilityReason (member scope : String) :
    Untyped (eligibilityReason member gathering scope
      (gatewayOver site tables db.toTables)) := by
  rw [eligibilityReason]
  refine untyped_ite (fun _ => untyped_ok _) fun _ => ?_
  refine untyped_ite (fun _ => ?_) fun _ => ?_
  · refine (untyped_isMemberInScope endless member scope).bind fun inScope _ => ?_
    split <;> exact untyped_ok _
  · refine (untyped_isMemberInScope endless member scope).bind fun inScope _ => ?_
    split <;> exact untyped_ok _

variable (free : Uncompared (registrationWindow db gathering))
include free

omit endless in
/-- The window gate raises no type error. -/
theorem untyped_window (now : Int) :
    Untyped (isRegistrationWindowOpen (registrationWindow db gathering) (.text now)) := by
  obtain ⟨answer, judged, _⟩ : WindowChronological (registrationWindow db gathering) now :=
    window_of_uncompared free
  rw [judged]
  exact untyped_ok answer

/-- `register_for_event` raises no type error. -/
theorem untyped_registerForEvent (member : Option String) (registeredVia : String) :
    Untyped (registerForEvent (siteOver site tables) db gathering member registeredVia) := by
  rw [registerForEvent]
  refine Untyped.bind ?_ fun plan _ => ?_
  · rw [registerForEventRead]
    refine untyped_ite (fun _ => nofun) fun _ => ?_
    split
    · exact nofun
    · refine untyped_ite (fun _ => nofun) fun _ => ?_
      refine untyped_ite
        (fun _ => (untyped_assertBranchScope _ _ _).bind fun _ _ => ?_) fun _ => ?_
      -- The gates are the same with and without the guard before them.
      all_goals
        refine (untyped_window free _).bind fun isOpen _ => ?_
        refine untyped_ite (fun _ => nofun) fun _ => ?_
        refine (untyped_isMemberInScope endless _ _).bind fun inScope _ => ?_
        refine untyped_ite (fun _ => nofun) fun _ => ?_
        split <;> exact untyped_ok _
  · split
    · exact untyped_ok _
    · exact untyped_registerForEventWrite _

/-- `get_registration_eligibility` raises no type error. -/
theorem untyped_getRegistrationEligibility (member : Option String) :
    Untyped (getRegistrationEligibility (siteOver site tables) db gathering member) := by
  rw [getRegistrationEligibility]
  refine untyped_ite (fun _ => nofun) fun _ => ?_
  split
  · exact untyped_ok _
  · refine Untyped.bind ?_ fun hint _ => untyped_ok _
    rw [eligibilityOf]
    refine (untyped_window free _).bind fun isOpen _ => ?_
    refine (untyped_isMemberInScope endless _ _).bind fun inScope _ => ?_
    exact (untyped_eligibilityReason endless _ _).bind fun reason _ => untyped_ok _

omit endless in
/-- `register_bulk` raises no type error when the decoder raises none. -/
theorem untyped_registerBulk (loads : String → Except Error (List String))
    (decodes : ∀ raw, Untyped (loads raw)) (random : String) (members : BulkMembers)
    (batchSize : Int) :
    Untyped (registerBulk site db loads random gathering members batchSize) := by
  rw [registerBulk]
  refine untyped_ite (fun _ => nofun) fun _ => ?_
  refine Untyped.bind ?_ fun names _ => ?_
  · rw [BulkMembers.read.eq_def]
    split
    · exact untyped_ok _
    · exact untyped_ite (fun _ => decodes _) fun _ => untyped_ok _
  · refine untyped_ite (fun _ => nofun) fun _ => ?_
    refine (untyped_window free _).bind fun isOpen _ => ?_
    refine untyped_ite (fun _ => nofun) fun _ => ?_
    refine (untyped_assertBranchScope _ _ _).bind fun _ _ => ?_
    refine Untyped.bind ?_ fun batches _ => untyped_ok _
    rw [chunkMembers]
    exact untyped_ite (fun _ => nofun) fun _ => untyped_ok _

end Endpoints

section Answers

variable {site : Site} {desk : Desk}

/-- Saving an invitation raises no type error. -/
theorem untyped_save (drawn : String) (doc : Invitation) :
    Untyped (EventInvitation.save site drawn desk doc) := by
  rw [EventInvitation.save]
  refine Untyped.bind ?_ fun saved _ => Untyped.bind ?_ fun _ _ => untyped_ok _
  · rw [EventInvitation.validate]
    refine Untyped.bind ?_ fun _ _ => Untyped.bind ?_ fun _ _ => untyped_ok _
    · rw [EventInvitation.validateBranchGroupBinding]
      refine untyped_ite (fun _ => nofun) fun _ => untyped_ite (fun _ => nofun) fun _ => ?_
      split
      · exact untyped_ite (fun _ => nofun) fun _ => untyped_ok _
      · exact untyped_ok _
    · rw [validateGatheringIsOneTime]
      split
      · exact untyped_ok _
      · exact untyped_ite (fun _ => nofun) fun _ => untyped_ok _
  · rw [EventInvitation.validateMandatory]
    exact untyped_ite (fun _ => nofun) fun _ => untyped_ite (fun _ => nofun) fun _ => untyped_ok _

/-- `rsvp_invitation` raises no type error when no invitation has an expiry. -/
theorem untyped_rsvpInvitation
    (endless : ∀ row ∈ desk.invitations.rows, row.expiresOn = none)
    (drawn inviteToken decision : String) :
    Untyped (rsvpInvitation site drawn desk inviteToken decision) := by
  rw [rsvpInvitation]
  split
  · exact nofun
  · split
    · exact nofun
    · next doc found =>
      rw [expired_endless (endless doc (List.mem_of_find?_eq_some found))]
      show Untyped (settle site drawn desk doc _)
      rw [settle]
      refine untyped_ite (fun _ => nofun) fun _ => ?_
      exact (untyped_save drawn _).bind fun saved _ => untyped_ok _

end Answers

/-- The gates of a gathering and of the invitations are chronological, and no call of the four
endpoints ends in a type error. -/
structure Chronological (tables : ScopeTables) (db : Database) (gathering : String) : Prop where
  /-- The window. -/
  window : ∀ now, WindowChronological (registrationWindow db gathering) now
  /-- The invitations. -/
  expiry : ∀ row ∈ tables.invitations.rows, ∀ now, ExpiryChronological row now
  /-- `register_for_event`. -/
  register : ∀ site member registeredVia,
    Untyped (registerForEvent (siteOver site tables) db gathering member registeredVia)
  /-- `get_registration_eligibility`. -/
  eligibility : ∀ site member,
    Untyped (getRegistrationEligibility (siteOver site tables) db gathering member)
  /-- `register_bulk`, whose decoder raises no type error. -/
  bulk : ∀ site loads random members batchSize, (∀ raw, Untyped (loads raw)) →
    Untyped (registerBulk (siteOver site tables) db loads random gathering members batchSize)
  /-- `rsvp_invitation`. -/
  rsvp : ∀ site drawn inviteToken decision, Untyped (rsvpInvitation (siteOver site tables) drawn
    ⟨db.toTables, tables.invitations, db.outbox⟩ inviteToken decision)

/-- The gates are chronological exactly when no bound of the window is compared and no invitation
has an expiry. -/
theorem chronological_iff (tables : ScopeTables) (db : Database) (gathering : String) :
    Chronological tables db gathering ↔
      Uncompared (registrationWindow db gathering) ∧
        ∀ row ∈ tables.invitations.rows, row.expiresOn = none := by
  constructor
  · intro gates
    exact ⟨window_chronological_iff.mp (gates.window 0), fun row stored =>
      expiry_chronological_iff.mp (gates.expiry row stored 0)⟩
  · rintro ⟨free, endless⟩
    exact {
      window := fun _ => window_chronological_iff.mpr free
      expiry := fun row stored _ => expiry_chronological_iff.mpr (endless row stored)
      register := fun _ => untyped_registerForEvent endless free
      eligibility := fun _ => untyped_getRegistrationEligibility endless free
      bulk := fun _ loads random members batchSize decodes =>
        untyped_registerBulk free loads decodes random members batchSize
      rsvp := fun _ => untyped_rsvpInvitation endless }

/-- The camp with a window that opened long ago. -/
def openedCamp : Database where
  gatherings name :=
    if name = "camp" then some { camp with registrationOpensOn := some 1 } else none
  registrations := .empty Registration.name

/-- The camp is open, and the invitation has a day left; yet registering for the one and answering
the other end in type errors. -/
theorem opened_camp_raises :
    OpenAt (registrationWindow openedCamp "camp") 5 ∧
      registerForEvent (siteOver (northSite 5) hillTables) openedCamp "camp" (some "MEM-00001")
        "Leader" = .error (.type
          "'<' not supported between instances of 'str' and 'datetime.datetime'") ∧
      (∀ row ∈ (ministryInvited (some 6)).invitations.rows, ¬ Lapsed 5 row) ∧
      rsvpInvitation (siteOver (northSite 5) hillTables) "drawn"
        ⟨openedCamp.toTables, (ministryInvited (some 6)).invitations, []⟩ "token" "Accepted" =
          .error (.type
            "'>=' not supported between instances of 'str' and 'datetime.datetime'") := by
  refine ⟨⟨rfl, by decide, ?_, nofun⟩, rfl, ?_, rfl⟩
  · rintro opensOn ⟨⟩
    decide
  · rintro row stored ⟨expiresOn, set, past⟩
    cases List.mem_singleton.mp stored
    cases set
    exact absurd past (by decide)

end FlockOs.TimeGates
