import FlockOs.EventInvitation
import FlockOs.Verif.ValidInvitation

/-!
# The life of an invitation

Whatever is created and answered at a desk, and however its gatherings change meanwhile: an
invitation is announced once, answered at most once and only by its token, and never touched after
its answer. The events emitted tell exactly the life that the status of the row stands for.
-/

namespace FlockOs.EventInvitation

open Lib Permissions Registrations RegistrationScope

/-- What the checks of the document leave alone. -/
structure SameCard (doc saved : Invitation) : Prop where
  /-- The name. -/
  name : saved.name = doc.name
  /-- The status. -/
  status : saved.status = doc.status
  /-- The expiry. -/
  expiresOn : saved.expiresOn = doc.expiresOn

/-- `validate` keeps the name, the status and the expiry, and draws a token only where there is
none. -/
theorem validate_spec {site : EventRegistration.Site} {events : EventRegistration.Tables}
    {drawn : String} {doc saved : Invitation}
    (passed : validate site events drawn doc = .ok saved) :
    SameCard doc saved ∧
      saved.inviteToken = some ((truthy doc.inviteToken).getD drawn) := by
  obtain ⟨_, _, later⟩ := bind_eq_ok_iff.mp passed
  obtain ⟨_, _, filled⟩ := bind_eq_ok_iff.mp later
  cases filled
  have tenant : SameCard doc (denormalizeTenantFloor site doc) ∧
      (denormalizeTenantFloor site doc).inviteToken = doc.inviteToken := by
    unfold denormalizeTenantFloor
    split
    · split
      · exact ⟨⟨rfl, rfl, rfl⟩, rfl⟩
      · exact ⟨⟨rfl, rfl, rfl⟩, rfl⟩
    · exact ⟨⟨rfl, rfl, rfl⟩, rfl⟩
  have named (row : Invitation) : SameCard row (denormalizeInviteeName site row) ∧
      (denormalizeInviteeName site row).inviteToken = row.inviteToken := by
    unfold denormalizeInviteeName
    split
    · exact ⟨⟨rfl, rfl, rfl⟩, rfl⟩
    · exact ⟨⟨rfl, rfl, rfl⟩, rfl⟩
  have token (row : Invitation) : SameCard row (ensureInviteToken drawn row) ∧
      (ensureInviteToken drawn row).inviteToken = some ((truthy row.inviteToken).getD drawn) := by
    unfold ensureInviteToken
    cases given : truthy row.inviteToken with
    | none => exact ⟨⟨rfl, rfl, rfl⟩, rfl⟩
    | some text => exact ⟨⟨rfl, rfl, rfl⟩, truthy_eq_some given⟩
  have first := tenant
  have second := named (denormalizeTenantFloor site doc)
  have third := token (denormalizeInviteeName site (denormalizeTenantFloor site doc))
  constructor
  · constructor
    · rw [third.1.name, second.1.name, first.1.name]
    · rw [third.1.status, second.1.status, first.1.status]
    · rw [third.1.expiresOn, second.1.expiresOn, first.1.expiresOn]
  · rw [third.2, second.2, first.2]

/-- What a creation has done when it returns. -/
structure Created (insertion : Insertion) (args : CreateArgs) (desk next : Desk)
    (saved : Invitation) : Prop where
  /-- The new row is sent. -/
  status : saved.status = .sent
  /-- It lapses as asked. -/
  expiresOn : saved.expiresOn = args.expiresOn
  /-- It has the token that was drawn, which no other row has. -/
  token : saved.inviteToken = some insertion.drawn
  /-- The token is new. -/
  unused : saved.inviteToken ∉ desk.invitations.rows.map Invitation.inviteToken
  /-- The row is added, and its event is emitted. -/
  added : ∃ fresh, next =
    ({ desk with invitations := desk.invitations.add saved fresh }).announceSent saved.name args

/-- A creation that returns has added one row and emitted its event. -/
theorem created_of_ok {site : EventRegistration.Site} {insertion : Insertion} {args : CreateArgs}
    {desk next : Desk} {receipt : CreateReceipt}
    (returned : createInvitation site insertion desk args = .ok (receipt, next)) :
    ∃ saved, Created insertion args desk next saved := by
  unfold createInvitation at returned
  split at returned
  · cases returned
  · split at returned
    · cases returned
    · obtain ⟨_, _, inserts⟩ := bind_eq_ok_iff.mp returned
      obtain ⟨⟨saved, stored⟩, inserted, done⟩ := bind_eq_ok_iff.mp inserts
      unfold insert at inserted
      obtain ⟨_, _, validates⟩ := bind_eq_ok_iff.mp inserted
      obtain ⟨filled, passed, checks⟩ := bind_eq_ok_iff.mp validates
      obtain ⟨_, _, keyed⟩ := bind_eq_ok_iff.mp checks
      have card := validate_spec passed
      split at keyed
      · rename_i fresh
        split at keyed
        · cases keyed
        · rename_i unused
          cases keyed
          cases done
          have drawn : saved.inviteToken = some insertion.drawn := by
            rw [card.2]
            rfl
          exact ⟨saved, card.1.status, card.1.expiresOn, drawn, unused, fresh, rfl⟩
      · cases keyed

/-- What an answer has done when it returns. -/
structure Answered (inviteToken decision : String) (desk next : Desk) (doc saved : Invitation) :
    Prop where
  /-- The row was there. -/
  stored : doc ∈ desk.invitations.rows
  /-- The token was its own. -/
  token : doc.inviteToken = some inviteToken
  /-- It was sent, and not answered. -/
  sent : doc.status = .sent
  /-- It does not lapse. -/
  endless : doc.expiresOn = none
  /-- The decision is its new status. -/
  decided : decisionOf decision = some saved.status
  /-- It keeps its name. -/
  name : saved.name = doc.name
  /-- It does not lapse afterwards. -/
  expiresOn : saved.expiresOn = none
  /-- It keeps a token that has characters. -/
  kept : inviteToken ≠ "" → saved.inviteToken = doc.inviteToken
  /-- The row is replaced, and the event of the decision is emitted. -/
  replaced : next =
    ({ desk with invitations := desk.invitations.replace saved }).announce saved

/-- An answer that returns has settled the row of its token and emitted the decision. -/
theorem answered_of_ok {site : EventRegistration.Site} {drawn inviteToken decision : String}
    {desk next : Desk} {receipt : RsvpReceipt}
    (returned : rsvpInvitation site drawn desk inviteToken decision = .ok (receipt, next)) :
    ∃ doc saved, Answered inviteToken decision desk next doc saved := by
  unfold rsvpInvitation at returned
  cases decided : decisionOf decision with
  | none =>
    rw [decided] at returned
    cases returned
  | some status =>
    rw [decided] at returned
    dsimp only at returned
    split at returned
    · cases returned
    · rename_i doc found
      have there := List.mem_of_find?_eq_some found
      have own : doc.inviteToken = some inviteToken := by simpa using List.find?_some found
      obtain ⟨lapsed, compared, later⟩ := bind_eq_ok_iff.mp returned
      -- an expiry that is set cannot be compared, so that none is
      cases expiry : doc.expiresOn with
      | some expiresOn =>
        rw [expired_set expiry] at compared
        cases compared
      | none =>
        rw [expired_endless expiry] at compared
        cases compared
        have settled : settle site drawn desk doc status = .ok (receipt, next) := later
        unfold settle at settled
        split at settled
        · cases settled
        · rename_i waiting
          obtain ⟨⟨saved, stored⟩, saves, done⟩ := bind_eq_ok_iff.mp settled
          cases done
          unfold save at saves
          obtain ⟨filled, passed, checks⟩ := bind_eq_ok_iff.mp saves
          obtain ⟨_, _, put⟩ := bind_eq_ok_iff.mp checks
          cases put
          have card := validate_spec passed
          refine ⟨doc, saved, there, own, not_not.mp waiting, expiry, ?_, card.1.name, ?_, ?_, rfl⟩
          · rw [decided, card.1.status]
          · rw [card.1.expiresOn, expiry]
          · intro nonempty
            rw [card.2, own, truthy_some nonempty]
            rfl

section Outbox

variable (desk : Desk) (invitation : String)

/-- The event of a new invitation is about it. -/
theorem history_announceSent (name : String) (args : CreateArgs) :
    (desk.announceSent name args).history invitation =
      desk.history invitation ++ if name = invitation then [Events.invitationSent] else [] := by
  by_cases same : name = invitation
  · simp [Desk.history, Desk.announceSent, same]
  · simp [Desk.history, Desk.announceSent, same]

/-- The event of a decision is about its invitation. -/
theorem history_announce (doc : Invitation) :
    (desk.announce doc).history invitation = desk.history invitation ++
      if doc.name = invitation then
        [if doc.status = .accepted then Events.invitationAccepted
          else Events.invitationDeclined]
      else [] := by
  by_cases same : doc.name = invitation
  · simp [Desk.history, Desk.announce, same]
  · simp [Desk.history, Desk.announce, same]

end Outbox

/-- A decision is to accept or to decline. -/
theorem decided_cases {decision : String} {status : InvitationStatus}
    (decided : decisionOf decision = some status) : status = .accepted ∨ status = .declined := by
  unfold decisionOf at decided
  split at decided
  · exact .inl (Option.some.inj decided).symm
  · split at decided
    · exact .inr (Option.some.inj decided).symm
    · cases decided

/-- The life of a sent invitation goes on with its decision. -/
theorem lifeOf_decided {status : InvitationStatus} {events : List String}
    (life : lifeOf .sent = some events) (decided : status = .accepted ∨ status = .declined) :
    lifeOf status = some (events ++
      [if status = .accepted then Events.invitationAccepted else Events.invitationDeclined]) := by
  cases life
  cases decided with
  | inl accepts =>
    rw [accepts]
    rfl
  | inr declines =>
    rw [declines]
    rfl

/-- The rows and the events tell the same. -/
structure Accounted (desk : Desk) : Prop where
  /-- The events about a row are those of its status. -/
  life : ∀ row ∈ desk.invitations.rows, lifeOf row.status = some (desk.history row.name)
  /-- There is no event about anything else. -/
  strangers : ∀ name, name ∉ desk.invitations.rows.map Invitation.name → desk.history name = []
  /-- Every token has characters. -/
  tokens : ∀ row ∈ desk.invitations.rows, ∃ token, row.inviteToken = some token ∧ token ≠ ""
  /-- No two rows have the same token. -/
  unique : (desk.invitations.rows.map Invitation.inviteToken).Nodup
  /-- What was answered does not lapse. -/
  endless : ∀ row ∈ desk.invitations.rows, row.status ≠ .sent → row.expiresOn = none

section Steps

variable {desk next : Desk}

/-- A creation keeps the account. -/
theorem Accounted.create (accounted : Accounted desk) {insertion : Insertion} {args : CreateArgs}
    {saved : Invitation} (created : Created insertion args desk next saved) : Accounted next := by
  obtain ⟨fresh, rfl⟩ := created.added
  have rows (row : Invitation) :
      row ∈ (desk.invitations.add saved fresh).rows ↔ row ∈ desk.invitations.rows ∨ row = saved := by
    simp [Table.add]
  have news (name : String) : (({ desk with
      invitations := desk.invitations.add saved fresh } : Desk).announceSent saved.name args).history
        name = desk.history name ++ if saved.name = name then [Events.invitationSent] else [] :=
    history_announceSent _ name saved.name args
  constructor
  · intro row there
    rw [news]
    cases (rows row).mp there with
    | inl old =>
      have apart : saved.name ≠ row.name := by
        intro same
        exact fresh (List.mem_map.mpr ⟨row, old, same.symm⟩)
      rw [if_neg apart, List.append_nil]
      exact accounted.life row old
    | inr new =>
      rw [new, if_pos rfl, accounted.strangers saved.name fresh, created.status]
      rfl
  · intro name stranger
    have absent : name ∉ desk.invitations.rows.map Invitation.name := by
      intro there
      obtain ⟨row, old, same⟩ := List.mem_map.mp there
      exact stranger (List.mem_map.mpr ⟨row, (rows row).mpr (.inl old), same⟩)
    have apart : saved.name ≠ name := by
      intro same
      exact stranger (List.mem_map.mpr ⟨saved, (rows saved).mpr (.inr rfl), same⟩)
    rw [news, if_neg apart, List.append_nil, accounted.strangers name absent]
  · intro row there
    cases (rows row).mp there with
    | inl old => exact accounted.tokens row old
    | inr new => exact ⟨insertion.drawn, by rw [new, created.token], insertion.token⟩
  · have longer : (desk.invitations.add saved fresh).rows.map Invitation.inviteToken =
        desk.invitations.rows.map Invitation.inviteToken ++ [saved.inviteToken] := by
      simp [Table.add]
    show ((desk.invitations.add saved fresh).rows.map Invitation.inviteToken).Nodup
    rw [longer]
    exact List.nodup_append.mpr ⟨accounted.unique, List.nodup_singleton _, by
      intro old there new alone same
      rw [List.mem_singleton] at alone
      exact created.unused (alone ▸ same ▸ there)⟩
  · intro row there answered
    cases (rows row).mp there with
    | inl old => exact accounted.endless row old answered
    | inr new => exact absurd (new ▸ created.status) answered

section Answers

variable {inviteToken decision : String} {doc saved : Invitation}

/-- The row of an answer is found under the name of what is saved. -/
theorem Answered.found (answered : Answered inviteToken decision desk next doc saved) :
    desk.invitations.find? saved.name = some doc :=
  desk.invitations.find?_eq_some.mpr ⟨answered.stored, answered.name.symm⟩

/-- An answer leaves every token as it is. -/
theorem Answered.same_token (answered : Answered inviteToken decision desk next doc saved)
    (accounted : Accounted desk) : saved.inviteToken = doc.inviteToken := by
  obtain ⟨token, own, nonempty⟩ := accounted.tokens doc answered.stored
  have same : token = inviteToken := Option.some.inj (own.symm.trans answered.token)
  exact answered.kept (same ▸ nonempty)

/-- An answer keeps the account. -/
theorem Accounted.answer (accounted : Accounted desk)
    (answered : Answered inviteToken decision desk next doc saved) : Accounted next := by
  have rows (row : Invitation) : row ∈ (desk.invitations.replace saved).rows ↔
      row = saved ∨ row ∈ desk.invitations.rows ∧ row.name ≠ saved.name :=
    Table.mem_replace answered.found
  have kept := answered.same_token accounted
  have settled := decided_cases answered.decided
  have news (name : String) : next.history name = desk.history name ++
      if saved.name = name then
        [if saved.status = .accepted then Events.invitationAccepted
          else Events.invitationDeclined]
      else [] := by
    rw [answered.replaced]
    exact history_announce _ name saved
  have stored : next.invitations = desk.invitations.replace saved := by
    rw [answered.replaced]
    rfl
  constructor
  · intro row there
    rw [stored, rows] at there
    rw [news]
    cases there with
    | inl new =>
      have life := accounted.life doc answered.stored
      rw [answered.sent] at life
      rw [new, if_pos rfl, answered.name]
      exact lifeOf_decided life settled
    | inr old =>
      rw [if_neg (Ne.symm old.2), List.append_nil]
      exact accounted.life row old.1
  · intro name stranger
    have names : (desk.invitations.replace saved).rows.map Invitation.name =
        desk.invitations.rows.map Invitation.name := by
      simp only [Table.replace, List.map_map]
      apply List.map_congr_left
      intro row _
      simp only [Function.comp_apply]
      split
      · rename_i same
        exact same.symm
      · rfl
    rw [stored, names] at stranger
    have apart : saved.name ≠ name := by
      intro same
      exact stranger (List.mem_map.mpr ⟨doc, answered.stored, by rw [← answered.name, same]⟩)
    rw [news, if_neg apart, List.append_nil]
    exact accounted.strangers name stranger
  · intro row there
    rw [stored, rows] at there
    cases there with
    | inl new =>
      obtain ⟨token, own, nonempty⟩ := accounted.tokens doc answered.stored
      exact ⟨token, by rw [new, kept, own], nonempty⟩
    | inr old => exact accounted.tokens row old.1
  · have tokens : (desk.invitations.replace saved).rows.map Invitation.inviteToken =
        desk.invitations.rows.map Invitation.inviteToken := by
      simp only [Table.replace, List.map_map]
      apply List.map_congr_left
      intro row there
      simp only [Function.comp_apply]
      split
      · rename_i same
        have whole : row = doc :=
          desk.invitations.eq_of_key there answered.stored (same.trans answered.name)
        rw [whole, kept]
      · rfl
    rw [stored, tokens]
    exact accounted.unique
  · intro row there settledRow
    rw [stored, rows] at there
    cases there with
    | inl new => rw [new, answered.expiresOn]
    | inr old => exact accounted.endless row old.1 settledRow

end Answers

/-- A call creates an invitation, answers one, moves the gatherings, or does nothing. -/
theorem step_cases (desk : Desk) (call : DeskCall) :
    (∃ insertion args saved, Created insertion args desk (desk.step call) saved) ∨
      (∃ site drawn inviteToken decision doc saved,
        call = .rsvp site drawn inviteToken decision ∧
          Answered inviteToken decision desk (desk.step call) doc saved) ∨
      (desk.step call).invitations = desk.invitations ∧
        (desk.step call).emitted = desk.emitted := by
  have unchanged (raised : Error) (outcome : desk.perform call = .error raised) :
      desk.step call = desk := by
    rw [Desk.step, outcome]
  have changed (next : Desk) (outcome : desk.perform call = .ok next) : desk.step call = next := by
    rw [Desk.step, outcome]
  cases call with
  | create site insertion args =>
    cases returned : createInvitation site insertion desk args with
    | error raised =>
      have same := unchanged raised (by rw [Desk.perform, returned]; rfl)
      exact .inr (.inr ⟨by rw [same], by rw [same]⟩)
    | ok pair =>
      have same := changed pair.2 (by rw [Desk.perform, returned]; rfl)
      obtain ⟨saved, created⟩ := created_of_ok returned
      exact .inl ⟨insertion, args, saved, same ▸ created⟩
  | rsvp site drawn inviteToken decision =>
    cases returned : rsvpInvitation site drawn desk inviteToken decision with
    | error raised =>
      have same := unchanged raised (by rw [Desk.perform, returned]; rfl)
      exact .inr (.inr ⟨by rw [same], by rw [same]⟩)
    | ok pair =>
      have same := changed pair.2 (by rw [Desk.perform, returned]; rfl)
      obtain ⟨doc, saved, answered⟩ := answered_of_ok returned
      exact .inr (.inl ⟨site, drawn, inviteToken, decision, doc, saved, rfl, same ▸ answered⟩)
  | gatherings events => exact .inr (.inr ⟨rfl, rfl⟩)

/-- Every step keeps the account. -/
theorem Accounted.step (accounted : Accounted desk) (call : DeskCall) :
    Accounted (desk.step call) := by
  obtain ⟨insertion, args, saved, created⟩ |
    ⟨site, drawn, inviteToken, decision, doc, saved, -, answered⟩ | ⟨rows, emitted⟩ :=
      step_cases desk call
  · exact accounted.create created
  · exact accounted.answer answered
  · have history (name : String) : (desk.step call).history name = desk.history name := by
      rw [Desk.history, emitted]
      rfl
    constructor
    · intro row there
      rw [history]
      exact accounted.life row (rows ▸ there)
    · intro name stranger
      rw [history]
      exact accounted.strangers name (rows ▸ stranger)
    · intro row there
      exact accounted.tokens row (rows ▸ there)
    · rw [rows]
      exact accounted.unique
    · intro row there
      exact accounted.endless row (rows ▸ there)

/-- No step touches an invitation that was answered. -/
theorem settled_step (desk : Desk) (call : DeskCall) {row : Invitation}
    (there : row ∈ desk.invitations.rows) (settled : row.status ≠ .sent) :
    row ∈ (desk.step call).invitations.rows := by
  obtain ⟨insertion, args, saved, created⟩ |
    ⟨site, drawn, inviteToken, decision, doc, saved, -, answered⟩ | ⟨rows, -⟩ :=
      step_cases desk call
  · obtain ⟨fresh, same⟩ := created.added
    rw [same]
    show row ∈ (desk.invitations.add saved fresh).rows
    simp [Table.add, there]
  · have apart : row.name ≠ saved.name := by
      intro same
      have whole : row = doc :=
        desk.invitations.eq_of_key there answered.stored (same.trans answered.name)
      exact settled (whole ▸ answered.sent)
    rw [answered.replaced]
    exact Table.mem_replace_of_ne there apart
  · rw [rows]
    exact there

end Steps

/-- One of the calls answered a row with the row's own token, and decided what its status says. -/
def AnsweredBy (calls : List DeskCall) (row : Invitation) : Prop :=
  ∃ site drawn inviteToken decision, DeskCall.rsvp site drawn inviteToken decision ∈ calls ∧
    row.inviteToken = some inviteToken ∧ decisionOf decision = some row.status

/-- More calls take nothing back. -/
theorem AnsweredBy.more {calls : List DeskCall} {row : Invitation} (answered : AnsweredBy calls row)
    (call : DeskCall) : AnsweredBy (calls ++ [call]) row := by
  obtain ⟨site, drawn, inviteToken, decision, made, token, decided⟩ := answered
  exact ⟨site, drawn, inviteToken, decision, List.mem_append_left [call] made, token, decided⟩

/-- A desk without invitations and events. -/
def emptyDesk (events : EventRegistration.Tables) : Desk where
  events := events
  invitations := .empty Invitation.name

/-- After any run the account is kept, and whatever is answered was answered by its token. -/
theorem accounted_runAll (events : EventRegistration.Tables) (calls : List DeskCall) :
    Accounted (runAll Desk.step (emptyDesk events) calls) ∧
      ∀ row ∈ (runAll Desk.step (emptyDesk events) calls).invitations.rows,
        row.status ≠ .sent → AnsweredBy calls row := by
  apply runAll_recorded fun past desk => Accounted desk ∧
    ∀ row ∈ desk.invitations.rows, row.status ≠ .sent → AnsweredBy past row
  · constructor
    · constructor
      · simp [emptyDesk, Table.empty]
      · simp [emptyDesk, Desk.history]
      · simp [emptyDesk, Table.empty]
      · simp [emptyDesk, Table.empty]
      · simp [emptyDesk, Table.empty]
    · simp [emptyDesk, Table.empty]
  · intro past call before
    have accounted := before.1
    refine ⟨accounted.step call, fun row there settled => ?_⟩
    obtain ⟨insertion, args, saved, created⟩ |
      ⟨site, drawn, inviteToken, decision, doc, saved, made, answered⟩ | ⟨rows, -⟩ :=
        step_cases (runAll Desk.step (emptyDesk events) past) call
    · obtain ⟨fresh, same⟩ := created.added
      rw [same] at there
      have either : row ∈ (runAll Desk.step (emptyDesk events) past).invitations.rows ∨
          row = saved := by
        have inside : row ∈ (Table.add _ saved fresh).rows := there
        simpa [Table.add] using inside
      cases either with
      | inl old => exact (before.2 row old settled).more call
      | inr new => exact absurd (new ▸ created.status) settled
    · rw [answered.replaced] at there
      cases (Table.mem_replace answered.found).mp there with
      | inl new =>
        have token : row.inviteToken = some inviteToken := by
          rw [new, answered.same_token accounted, answered.token]
        exact ⟨site, drawn, inviteToken, decision, by simp [made], token,
          new ▸ answered.decided⟩
      | inr old => exact (before.2 row old.1 settled).more call
    · exact (before.2 row (rows ▸ there) settled).more call

/-- In every run of creations, answers and changes of gatherings: the events about an invitation are
exactly those of its status; one that was answered has no expiry, was answered by its own token, and
is the same row ever after; nothing else has events, and no two invitations share a token. -/
theorem invitations_settled (events : EventRegistration.Tables) (calls : List DeskCall) :
    let final := runAll Desk.step (emptyDesk events) calls
    (∀ row ∈ final.invitations.rows,
      lifeOf row.status = some (final.history row.name) ∧
        (row.status ≠ .sent → row.expiresOn = none ∧ AnsweredBy calls row ∧
          ∀ later, row ∈ (runAll Desk.step final later).invitations.rows)) ∧
      (∀ name, name ∉ final.invitations.rows.map Invitation.name → final.history name = []) ∧
      (final.invitations.rows.map Invitation.inviteToken).Nodup := by
  intro final
  have ends := accounted_runAll events calls
  have accounted := ends.1
  refine ⟨fun row there => ⟨accounted.life row there, fun settled => ?_⟩, accounted.strangers,
    accounted.unique⟩
  refine ⟨accounted.endless row there settled, ends.2 row there settled, fun later => ?_⟩
  have kept := runAll_invariant
    (fun desk : Desk => row ∈ desk.invitations.rows)
    (fun desk call inside => settled_step desk call inside settled) later final there
  exact kept

/-- The first row and its token. -/
def firstInsertion : Insertion where
  name := "INV-00001"
  drawn := "token-1"
  links _ := .ok ()
  token := by decide

/-- Ann is invited to the camp, accepts, and then declines. -/
def campCalls : List DeskCall :=
  [.create (EventRegistration.northSite 1) firstInsertion
      { gathering := "camp", invitee := some "ann" },
    .rsvp (EventRegistration.northSite 2) "token-2" "token-1" "Accepted",
    .rsvp (EventRegistration.northSite 3) "token-3" "token-1" "Declined"]

/-- Ann's first answer stands. -/
theorem invitations_settled_camp :
    let final := runAll Desk.step (emptyDesk EventRegistration.campDatabase.toTables) campCalls
    ∃ row ∈ final.invitations.rows, row.inviteToken = some "token-1" ∧ row.status = .accepted ∧
      final.history row.name = [Events.invitationSent, Events.invitationAccepted] := by
  intro final
  have answered : ∃ row ∈ final.invitations.rows,
      row.inviteToken = some "token-1" ∧ row.status = .accepted := by decide
  obtain ⟨row, there, token, accepted⟩ := answered
  have life := ((invitations_settled EventRegistration.campDatabase.toTables campCalls).1 row
    there).1
  rw [accepted] at life
  exact ⟨row, there, token, accepted, (Option.some.inj life).symm⟩

end FlockOs.EventInvitation
