import FlockOs.RegistrationScope

/-!
# Invitations

`create_invitation` and `rsvp_invitation` of `flock_event_invitation.py`: the row of a new
invitation, and for an answer the row that a token names, its expiry, and the save of the decision;
each save with the checks of the document.
-/

namespace FlockOs.Events

/-- `INVITATION_SENT`. -/
def invitationSent : String := "flock.invitation.sent"
/-- `INVITATION_ACCEPTED`. -/
def invitationAccepted : String := "flock.invitation.accepted"
/-- `INVITATION_DECLINED`. -/
def invitationDeclined : String := "flock.invitation.declined"

end FlockOs.Events

namespace FlockOs.EventInvitation

open Lib Permissions Registrations RegistrationScope

/-- The tables that an answer reads and writes. -/
structure Desk where
  /-- The gatherings. -/
  events : EventRegistration.Tables
  /-- `tabFlock Event Invitation`. -/
  invitations : Table Invitation Invitation.name
  /-- The events emitted; the sink appends each to the outbox as best it can. -/
  emitted : List DomainEvent := []

/-- `_denormalize_tenant_floor`. -/
def denormalizeTenantFloor (site : EventRegistration.Site) (doc : Invitation) : Invitation :=
  match truthy doc.organization, truthy (some doc.branch) with
  | none, some branch =>
    match truthy (site.branchOrganization branch) with
    | some organization => { doc with organization := some organization }
    | none => doc
  | _, _ => doc

/-- `_denormalize_invitee_name`. -/
def denormalizeInviteeName (site : EventRegistration.Site) (doc : Invitation) : Invitation :=
  match truthy doc.invitee, truthy doc.inviteeName with
  | some invitee, none =>
    { doc with inviteeName := some ((truthy (site.fullName invitee)).getD "") }
  | _, _ => doc

/-- `_validate_branch_group_binding`. -/
def validateBranchGroupBinding (events : EventRegistration.Tables) (doc : Invitation) :
    Except Error Unit :=
  if doc.branch = "" then
    .error (.validation "Flock Event Invitation.branch is required (the row-level perm anchor).")
  else if (truthy (events.gatheringScope doc.gathering).branch).any (· ≠ doc.branch) then
    .error (.validation
      "An invitation's branch must match its gathering's branch (FLO-7 §3.6).")
  else match truthy doc.group, truthy (events.gatheringScope doc.gathering).group with
    | some group, some gatheringGroup =>
      if group ≠ gatheringGroup then .error (.validation
        "An invitation's group must match its gathering's group (FLO-7 §3.6).")
      else .ok ()
    | _, _ => .ok ()

/-- `_validate_gathering_is_one_time`. -/
def validateGatheringIsOneTime (events : EventRegistration.Tables) (doc : Invitation) :
    Except Error Unit :=
  match (events.gatherings doc.gathering).bind (truthy ·.eventCategory) with
  | none => .ok ()
  | some category =>
    if category ≠ "One-time" then .error (.validation
      "Invitations are only available for one-time events (FLO-7 §2).")
    else .ok ()

/-- `_ensure_invite_token`; the token that would be drawn is given. -/
def ensureInviteToken (drawn : String) (doc : Invitation) : Invitation :=
  match truthy doc.inviteToken with
  | none => { doc with inviteToken := some drawn }
  | some _ => doc

/-- `validate`. -/
def validate (site : EventRegistration.Site) (events : EventRegistration.Tables) (drawn : String)
    (doc : Invitation) : Except Error Invitation := do
  let filled := denormalizeInviteeName site (denormalizeTenantFloor site doc)
  validateBranchGroupBinding events filled
  validateGatheringIsOneTime events filled
  pure (ensureInviteToken drawn filled)

/-- Frappe's mandatory-field check. -/
def validateMandatory (doc : Invitation) : Except Error Unit :=
  if doc.branch = "" then .error (.mandatory "branch")
  else if doc.gathering = "" then .error (.mandatory "gathering")
  else .ok ()

/-- `doc.save(ignore_permissions=True)` of a row that was read in the same request. -/
def save (site : EventRegistration.Site) (drawn : String) (desk : Desk) (doc : Invitation) :
    Except Error (Invitation × Desk) := do
  let saved ← validate site desk.events drawn doc
  validateMandatory saved
  pure (saved, { desk with invitations := desk.invitations.replace saved })

/-- The answer of `rsvp_invitation`. -/
structure RsvpReceipt where
  /-- Row name. -/
  invitation : String
  /-- Its status. -/
  status : InvitationStatus
deriving DecidableEq, Repr

/-- `_scope_for_event` with `_resolve_branch_group_for_gathering`. -/
def scopeForEvent (events : EventRegistration.Tables) (gathering : String) :
    List (String × Value) :=
  let anchors := events.gatheringScope gathering
  [("branch", .str ((truthy anchors.branch).getD "")),
    ("group", .str ((truthy anchors.group).getD "")),
    ("organization", .ofOption anchors.organization)]

/-- The desk after the event of a decision. -/
def Desk.announce (desk : Desk) (doc : Invitation) : Desk :=
  { desk with
    emitted := desk.emitted ++ [⟨if doc.status = .accepted then Events.invitationAccepted
        else Events.invitationDeclined,
      [("invitation", .str doc.name), ("gathering", .str doc.gathering),
        ("invitee", .str ((truthy doc.invitee).getD ""))],
      scopeForEvent desk.events doc.gathering⟩] }

/-- The decisions that `rsvp_invitation` takes. -/
def decisionOf (decision : String) : Option InvitationStatus :=
  if decision = InvitationStatus.accepted.text then some .accepted
  else if decision = InvitationStatus.declined.text then some .declined
  else none

/-- A row that has lapsed is marked, which the error takes back. -/
def refuseExpired (site : EventRegistration.Site) (drawn : String) (desk : Desk)
    (doc : Invitation) : Except Error (RsvpReceipt × Desk) := do
  if doc.status ≠ .expired then
    let _ ← save site drawn desk { doc with status := .expired }
  .error (.validation "This invitation has expired.")

/-- The decision about a row that has not lapsed. -/
def settle (site : EventRegistration.Site) (drawn : String) (desk : Desk) (doc : Invitation)
    (decision : InvitationStatus) : Except Error (RsvpReceipt × Desk) :=
  if doc.status ≠ .sent then .error (.validation
    s!"Invitation is {quoted doc.status.text}; only a Sent invitation can be RSVP'd.")
  else do
    let (saved, stored) ← save site drawn desk { doc with status := decision }
    .ok (⟨saved.name, saved.status⟩, stored.announce saved)

/-- `rsvp_invitation`. -/
def rsvpInvitation (site : EventRegistration.Site) (drawn : String) (desk : Desk)
    (inviteToken decision : String) : Except Error (RsvpReceipt × Desk) :=
  match decisionOf decision with
  | none => .error (.validation "decision must be 'Accepted' or 'Declined'.")
  | some status =>
    match desk.invitations.rows.find? fun row => row.inviteToken = some inviteToken with
    | none => .error (.doesNotExist inviteToken)
    | some doc => do
      let lapsed ← isInvitationExpired doc.expiry (.text site.now)
      if lapsed then refuseExpired site drawn desk doc
      else settle site drawn desk doc status

/-- The arguments of `create_invitation`. -/
structure CreateArgs where
  /-- `gathering`. -/
  gathering : String
  /-- `invitee`. -/
  invitee : Option String := none
  /-- `invitee_group`. -/
  inviteeGroup : Option String := none
  /-- `expires_on`. -/
  expiresOn : Option Int := none
deriving DecidableEq, Repr

/-- What the framework gives a document that is inserted, and what it checks of its links. -/
structure Insertion where
  /-- The name of the naming series. -/
  name : String
  /-- `secrets.token_urlsafe`. -/
  drawn : String
  /-- The check of the links. -/
  links : Invitation → Except Error Unit
  /-- A token has characters. -/
  token : drawn ≠ ""

/-- The answer of `create_invitation`. -/
structure CreateReceipt where
  /-- Row name. -/
  invitation : String
  /-- Its status. -/
  status : InvitationStatus
  /-- Its token. -/
  inviteToken : Option String
deriving DecidableEq, Repr

/-- `doc.insert(ignore_permissions=True)`: the name and the token are unique keys. -/
def insert (site : EventRegistration.Site) (insertion : Insertion) (desk : Desk)
    (doc : Invitation) : Except Error (Invitation × Desk) := do
  insertion.links doc
  let saved ← validate site desk.events insertion.drawn doc
  validateMandatory saved
  if fresh : saved.name ∉ desk.invitations.rows.map Invitation.name then
    if saved.inviteToken ∈ desk.invitations.rows.map Invitation.inviteToken then
      throw .duplicateEntry
    else pure (saved, { desk with invitations := desk.invitations.add saved fresh })
  else throw .duplicateEntry

/-- The document that `create_invitation` inserts. -/
def newInvitation (events : EventRegistration.Tables) (name : String) (args : CreateArgs) :
    Invitation :=
  let anchors := events.gatheringScope args.gathering
  { name := name
    organization := anchors.organization
    branch := (truthy anchors.branch).getD ""
    group := some (((truthy anchors.group).or (truthy args.inviteeGroup)).getD "")
    gathering := args.gathering
    invitee := some ((truthy args.invitee).getD "")
    inviteeGroup := some ((truthy args.inviteeGroup).getD "")
    status := .sent
    expiresOn := args.expiresOn }

/-- The desk after the event of a new invitation. -/
def Desk.announceSent (desk : Desk) (name : String) (args : CreateArgs) : Desk :=
  { desk with
    emitted := desk.emitted ++ [⟨Events.invitationSent,
      [("invitation", .str name), ("gathering", .str args.gathering),
        ("invitee", .str ((truthy args.invitee).getD "")),
        ("invitee_group", .str ((truthy args.inviteeGroup).getD ""))],
      scopeForEvent desk.events args.gathering⟩] }

/-- `create_invitation`. -/
def createInvitation (site : EventRegistration.Site) (insertion : Insertion) (desk : Desk)
    (args : CreateArgs) : Except Error (CreateReceipt × Desk) :=
  if args.gathering = "" then .error (.validation "gathering is required")
  else if (truthy args.invitee).isNone ∧ (truthy args.inviteeGroup).isNone then
    .error (.validation
      "Either invitee (a person) or invitee_group (a group subtree) is required (FLO-7 §3.6).")
  else do
    assertBranchScope (desk.events.gatheringScope args.gathering).branch site.user
      site.permissionGateway
    let (saved, stored) ← insert site insertion desk
      (newInvitation desk.events insertion.name args)
    .ok (⟨saved.name, saved.status, saved.inviteToken⟩, stored.announceSent saved.name args)

/-- What happens at a desk. -/
inductive DeskCall where
  /-- `create_invitation`. -/
  | create (site : EventRegistration.Site) (insertion : Insertion) (args : CreateArgs)
  /-- `rsvp_invitation`. -/
  | rsvp (site : EventRegistration.Site) (drawn inviteToken decision : String)
  /-- The gatherings change. -/
  | gatherings (events : EventRegistration.Tables)

/-- The outcome of a call. -/
def Desk.perform (desk : Desk) : DeskCall → Except Error Desk
  | .create site insertion args => (createInvitation site insertion desk args).map Prod.snd
  | .rsvp site drawn inviteToken decision =>
    (rsvpInvitation site drawn desk inviteToken decision).map Prod.snd
  | .gatherings events => .ok { desk with events }

/-- The desk after a call; one that raises is rolled back. -/
def Desk.step (desk : Desk) (call : DeskCall) : Desk :=
  match desk.perform call with
  | .ok next => next
  | .error _ => desk

/-- The names of the events about an invitation, in order. -/
def Desk.history (desk : Desk) (invitation : String) : List String :=
  (desk.emitted.filter fun event =>
    event.payload.lookup "invitation" = some (.str invitation)).map DomainEvent.name

/-- The events in the life of an invitation up to a status; none is stored as expired. -/
def lifeOf : InvitationStatus → Option (List String)
  | .sent => some [Events.invitationSent]
  | .accepted => some [Events.invitationSent, Events.invitationAccepted]
  | .declined => some [Events.invitationSent, Events.invitationDeclined]
  | .expired => none

end FlockOs.EventInvitation
