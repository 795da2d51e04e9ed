import FlockOs.Verif.EngagementStep

/-!
# The session of a ticket

A ticket is signed over its own session and attendee key, and `participate` compares only the
attendee key with the request. So a ticket works on every live session of its secret; it was
issued on the session of the request exactly where the request names the ticket's session.
-/

namespace FlockOs.Engagement

open Lib

/-- The digests are hexadecimal. -/
def Crypto.Hexadecimal (crypto : Crypto) : Prop :=
  ∀ text, ∀ char ∈ (crypto.sha256Hex text).toList, char ∈ "0123456789abcdef".toList

/-- The text that a ticket is signed over. -/
def SessionTicket.payload (ticket : SessionTicket) : String :=
  canonicalTicketPayload ticket.sessionId ticket.attendeeKey ticket.issuedAt ticket.expiresAt

/-- The ticket presented is the one issued: same session, attendee key and signature. -/
structure SameSigned (issued presented : SessionTicket) : Prop where
  session : issued.sessionId = presented.sessionId
  key : issued.attendeeKey = presented.attendeeKey
  signature : issued.signature = presented.signature

/-- A join on the session issued the ticket. -/
def IssuedOn (trace : Trace) (sessionId : String) (ticket : SessionTicket) : Prop :=
  ∃ entry ∈ trace.issued, entry.1 = sessionId ∧ SameSigned entry.2 ticket

/-- `participate` returns an accepted receipt. -/
def accepts (settings : Settings) (time : Rat) (request : ParticipateRequest)
    (runtime : Runtime) : Bool :=
  match (memoryService settings time).participate time request runtime with
  | .ok receipt _ => receipt.accepted
  | .error _ _ => false

/-- The signature presented is one that was made: if it is the signature of the ticket, a
ticket with this payload was issued before. -/
def Unforged (settings : Settings) (trace : Trace) : Call → Prop
  | .participate _ request =>
    signTicket settings.crypto request.ticket.sessionId request.ticket.attendeeKey
        request.ticket.issuedAt request.ticket.expiresAt trace.runtime.store.secret =
      .ok request.ticket.signature →
    ∃ entry ∈ trace.issued, entry.2.payload = request.ticket.payload
  | _ => True

/-- An accepted request carries a ticket that a join on its session issued. -/
def TicketOfSession (settings : Settings) (trace : Trace) : Call → Prop
  | .participate time request =>
    accepts settings time request trace.runtime →
      IssuedOn trace request.sessionId request.ticket
  | _ => True

/-- A request that passes every check names the session that its ticket names, with an
attendee key that has no bar in it. -/
def NamesTicketSession (settings : Settings) (trace : Trace) : Call → Prop
  | .participate time request =>
    (∃ session, Admitted settings time request trace.runtime.store session) →
      request.sessionId = request.ticket.sessionId ∧ '|' ∉ request.attendeeKey.toList
  | _ => True

/-- A request is accepted exactly when it is admitted. -/
theorem accepts_iff {settings : Settings} {time : Rat} {request : ParticipateRequest}
    {runtime : Runtime} :
    accepts settings time request runtime = true ↔
      ∃ session, Admitted settings time request runtime.store session := by
  rw [accepts, participate_run]
  constructor
  · intro accepted
    cases passed : gate settings time request runtime.store with
    | error raised => simp [passed] at accepted
    | ok judged =>
      cases judged with
      | error reason => simp [passed, EngagementService.refused] at accepted
      | ok session =>
        simp only [passed] at accepted
        obtain ⟨free, fresh⟩ := settle_accepted.mp accepted
        exact ⟨session, passed, free, fresh⟩
  · rintro ⟨session, admitted⟩
    simp only [admitted.gate]
    exact settle_accepted.mpr ⟨admitted.allowed, admitted.fresh⟩

/-- Equal digests are equal texts. -/
theorem compareDigest_true {expected given : String}
    (same : compareDigest expected given = .ok true) : expected = given := by
  rw [compareDigest] at same
  split at same
  · simpa using same
  · cases same

/-- A ticket that is verified carries its signature and has not expired. -/
theorem verifyTicket_passes {crypto : Crypto} {ticket : SessionTicket} {secret : String}
    {time : Rat} (verified : verifyTicket crypto ticket secret time = .ok true) :
    signTicket crypto ticket.sessionId ticket.attendeeKey ticket.issuedAt ticket.expiresAt
      secret = .ok ticket.signature ∧ ticket.isExpired time = false := by
  rw [verifyTicket] at verified
  cases signed : signTicket crypto ticket.sessionId ticket.attendeeKey ticket.issuedAt
      ticket.expiresAt secret with
  | error raised =>
    rw [signed] at verified
    cases verified
  | ok expected =>
    rw [signed] at verified
    cases compared : compareDigest expected ticket.signature with
    | error raised => simp [bind, Except.bind, compared] at verified
    | ok same =>
      simp only [bind, Except.bind, compared, Except.ok.injEq, Bool.and_eq_true,
        Bool.not_eq_true'] at verified
      obtain ⟨equal, live⟩ := verified
      rw [equal] at compared
      exact ⟨by rw [compareDigest_true compared], live⟩

/-- What a request past the gate has passed. -/
theorem gate_ok {settings : Settings} {time : Rat} {request : ParticipateRequest}
    {store : InMemory} {session : EngagementSession}
    (passed : gate settings time request store = .ok (.ok session)) :
    store.sessions request.sessionId = some session ∧ session.status.isLive = true ∧
      verifyTicket settings.crypto request.ticket store.secret time = .ok true ∧
      request.ticket.attendeeKey = request.attendeeKey := by
  rw [gate] at passed
  cases found : store.sessions request.sessionId with
  | none => simp [found] at passed
  | some other =>
    cases live : other.status.isLive with
    | false => simp [found, live] at passed
    | true =>
      cases checked : verifyTicket settings.crypto request.ticket store.secret time with
      | error raised => simp [found, live, checked] at passed
      | ok verified =>
        cases verified with
        | false => simp [found, live, checked] at passed
        | true =>
          by_cases keys : request.ticket.attendeeKey = request.attendeeKey
          · simp only [found, live, checked, keys, ne_eq, not_true_eq_false, Bool.not_true,
              Bool.false_eq_true, ↓reduceIte, Except.ok.injEq] at passed
            subst passed
            exact ⟨rfl, live, rfl, keys⟩
          · simp [found, live, checked, keys] at passed

/-- Every ticket issued names the session joined and carries its signature. -/
structure SoundTickets (settings : Settings) (trace : Trace) : Prop where
  keyed : trace.runtime.store.Keyed
  session : ∀ entry ∈ trace.issued, entry.2.sessionId = entry.1
  signed : ∀ entry ∈ trace.issued, signTicket settings.crypto entry.2.sessionId
    entry.2.attendeeKey entry.2.issuedAt entry.2.expiresAt trace.runtime.store.secret =
      .ok entry.2.signature

/-- No ticket issued has a bar in its attendee key. -/
def CleanKeys (trace : Trace) : Prop :=
  ∀ entry ∈ trace.issued, '|' ∉ entry.2.attendeeKey.toList

/-- An attendee key is a digest. -/
theorem attendeeKey_ok {crypto : Crypto} {sessionId : String} {memberId : Option String}
    {deviceFingerprint key : String}
    (derived : attendeeKey crypto sessionId memberId deviceFingerprint = .ok key) :
    key = crypto.sha256Hex (sessionId ++ "|" ++ (truthy memberId).getD deviceFingerprint) := by
  rw [attendeeKey] at derived
  split at derived
  · cases derived
  · dsimp only at derived
    split at derived
    · cases derived
    · exact (Except.ok.inj derived).symm

/-- Every call keeps the tickets sound. -/
theorem SoundTickets.perform {settings : Settings} {trace : Trace}
    (sound : SoundTickets settings trace) (call : Call) :
    SoundTickets settings (call.perform settings trace) := by
  cases perform_step settings trace call with
  | quiet log issued accepted =>
    refine ⟨log.keyed sound.keyed, ?_, ?_⟩
    · rw [issued]
      exact sound.session
    · rw [issued, log.secret]
      exact sound.signed
  | issue ticket returned same =>
    have made := ticketFor_ok returned
    obtain ⟨session, found, named⟩ := made.session
    rw [same]
    refine ⟨sound.keyed, ?_, ?_⟩
    · intro entry member
      rcases List.mem_append.mp member with old | new
      · exact sound.session entry old
      · obtain rfl := List.mem_singleton.mp new
        exact named.trans (sound.keyed _ _ found)
    · intro entry member
      rcases List.mem_append.mp member with old | new
      · exact sound.signed entry old
      · obtain rfl := List.mem_singleton.mp new
        exact made.signed
  | accept session admitted same =>
    rw [same]
    exact ⟨sound.keyed, sound.session, sound.signed⟩

/-- Every call keeps the attendee keys clean. -/
theorem CleanKeys.perform {settings : Settings} (hex : settings.crypto.Hexadecimal)
    {trace : Trace} (clean : CleanKeys trace) (call : Call) :
    CleanKeys (call.perform settings trace) := by
  cases perform_step settings trace call with
  | quiet log issued accepted =>
    rw [CleanKeys, issued]
    exact clean
  | issue ticket returned same =>
    rw [same]
    intro entry member
    rcases List.mem_append.mp member with old | new
    · exact clean entry old
    · obtain rfl := List.mem_singleton.mp new
      intro bar
      rw [attendeeKey_ok (ticketFor_ok returned).key] at bar
      exact absurd (hex _ _ bar) (by decide)
  | accept session admitted same =>
    rw [same]
    exact clean

/-- A field of a ticket's times has no bar. -/
theorem fixed6_clean (value : Rat) : '|' ∉ (fixed6 value).toList := by
  intro member
  rcases mem_fixed6 member with sign | point | digit
  · exact absurd sign (by decide)
  · exact absurd point (by decide)
  · exact absurd digit (by decide)

/-- Tickets with one payload name one session and one attendee key, where the keys have no
bar. -/
theorem payload_inj {first second : SessionTicket} (same : first.payload = second.payload)
    (clean : '|' ∉ first.attendeeKey.toList) (clean' : '|' ∉ second.attendeeKey.toList) :
    first.sessionId = second.sessionId ∧ first.attendeeKey = second.attendeeKey := by
  obtain ⟨toIssued, _⟩ := joinLast_inj same (fixed6_clean _) (fixed6_clean _)
  obtain ⟨toKey, _⟩ := joinLast_inj toIssued (fixed6_clean _) (fixed6_clean _)
  exact joinLast_inj toKey clean clean'

/-- Tickets with one payload have one signature. -/
theorem signature_of_payload {crypto : Crypto} {secret : String} {first second : SessionTicket}
    (same : first.payload = second.payload)
    (signed : signTicket crypto first.sessionId first.attendeeKey first.issuedAt first.expiresAt
      secret = .ok first.signature)
    (signed' : signTicket crypto second.sessionId second.attendeeKey second.issuedAt
      second.expiresAt secret = .ok second.signature) : first.signature = second.signature := by
  have payloads : signTicket crypto first.sessionId first.attendeeKey first.issuedAt
      first.expiresAt secret = signTicket crypto second.sessionId second.attendeeKey
        second.issuedAt second.expiresAt secret := by
    rw [signTicket, signTicket]
    have texts : canonicalTicketPayload _ _ _ _ = canonicalTicketPayload _ _ _ _ := same
    rw [texts]
  rw [signed, signed'] at payloads
  exact Except.ok.inj payloads

/-- The ticket of an admitted request has the payload and the signature of one that was
issued. -/
theorem SoundTickets.issued_of_admitted {settings : Settings} {trace : Trace}
    (sound : SoundTickets settings trace) {time : Rat} {request : ParticipateRequest}
    {session : EngagementSession}
    (admitted : Admitted settings time request trace.runtime.store session)
    (unforged : Unforged settings trace (.participate time request)) :
    ∃ entry ∈ trace.issued, entry.2.payload = request.ticket.payload ∧
      entry.2.signature = request.ticket.signature := by
  have signed := (verifyTicket_passes (gate_ok admitted.gate).2.2.1).1
  obtain ⟨entry, member, payloads⟩ := unforged signed
  exact ⟨entry, member, payloads,
    signature_of_payload payloads (sound.signed entry member) signed⟩

/-- At one call the ticket of an accepted request was issued on its session exactly when the
request names the session of the ticket. -/
theorem ticketOfSession_iff {settings : Settings} {trace : Trace}
    (sound : SoundTickets settings trace) (cleanKeys : CleanKeys trace) {call : Call}
    (unforged : Unforged settings trace call) :
    TicketOfSession settings trace call ↔ NamesTicketSession settings trace call := by
  cases call with
  | participate time request =>
    rw [TicketOfSession, NamesTicketSession, accepts_iff]
    refine forall_congr' fun admission => ?_
    obtain ⟨session, admitted⟩ := admission
    have keys := (gate_ok admitted.gate).2.2.2
    constructor
    · rintro ⟨entry, member, onSession, same⟩
      constructor
      · rw [← onSession, ← same.session, sound.session entry member]
      · rw [← keys, ← same.key]
        exact cleanKeys entry member
    · rintro ⟨names, clean⟩
      obtain ⟨entry, member, payloads, signatures⟩ := sound.issued_of_admitted admitted unforged
      rw [← keys] at clean
      obtain ⟨sessions, attendees⟩ := payload_inj payloads (cleanKeys entry member) clean
      refine ⟨entry, member, ?_, sessions, attendees, signatures⟩
      rw [← sound.session entry member, sessions, names]
  | createSession session => exact Iff.rfl
  | openSession time sessionId now => exact Iff.rfl
  | closeSession time sessionId now => exact Iff.rfl
  | finalizeClose time sessionId => exact Iff.rfl
  | join time sessionId memberId deviceFingerprint => exact Iff.rfl

/-- In every run in which no signature is forged, every accepted request carries a ticket
issued by a join on its session exactly if every request that passes the checks names the
session that its ticket names. -/
theorem tickets_good_for_one_session_iff (settings : Settings)
    (hex : settings.crypto.Hexadecimal) (runtime : Runtime) (keyed : runtime.store.Keyed)
    (calls : List Call)
    (unforged : EveryCall (Call.perform settings) (Unforged settings) ⟨runtime, [], []⟩ calls) :
    EveryCall (Call.perform settings) (TicketOfSession settings) ⟨runtime, [], []⟩ calls ↔
      EveryCall (Call.perform settings) (NamesTicketSession settings) ⟨runtime, [], []⟩ calls := by
  have initial : SoundTickets settings ⟨runtime, [], []⟩ ∧ CleanKeys ⟨runtime, [], []⟩ :=
    ⟨⟨keyed, by simp, by simp⟩, by simp [CleanKeys]⟩
  refine everyCall_congr (fun trace => SoundTickets settings trace ∧ CleanKeys trace)
    ?_ ?_ initial unforged
  · rintro trace call ⟨sound, clean⟩
    exact ⟨sound.perform call, clean.perform hex call⟩
  · rintro trace call ⟨sound, clean⟩ assumption
    exact ticketOfSession_iff sound clean assumption

/-- The attendee key of Ann in the first session. -/
def annKey : String := "ef1d26d963e2cec3ed480e002bc2a3d779519cde748ab1cd3c6e0c37d49821ca"

/-- The ticket that Ann is issued in the first session. -/
def annTicket : SessionTicket where
  sessionId := "ENG-1"
  attendeeKey := annKey
  memberId := some "ann"
  deviceFingerprint := "phone"
  issuedAt := 100
  expiresAt := 3700
  signature := "697291ce73dca8d4b0e2be86fba3dc8cc68f2b4cdbda4c8c157af41635bb0e42"

/-- The digests of the texts of the sample; other texts have an empty one. -/
def sampleSettings : Settings where
  crypto :=
    { sha256Hex := fun text => if text = "ENG-1|ann" then annKey else ""
      hmacHex := fun _ payload => if payload = annTicket.payload then annTicket.signature else "" }

/-- An open session at the camp. -/
def campSession (sessionId : String) : EngagementSession where
  sessionId := sessionId
  gathering := "camp"
  branch := "north"
  organization := "flock"
  status := .open
  openAt := some 90

/-- Two open sessions of one organization. -/
def twoSessions : Runtime where
  store :=
    { sessions := fun sessionId =>
        if sessionId = "ENG-1" ∨ sessionId = "ENG-2" then some (campSession sessionId) else none }

/-- A request of Ann that names a session. -/
def annRequest (sessionId : String) : ParticipateRequest where
  sessionId := sessionId
  ticket := annTicket
  attendeeKey := annKey
  memberId := some "ann"
  attendeeDisplayName := "Ann"
  deviceFingerprint := "phone"
  nonce := "1"

/-- Ann joins the first session and takes part in the session named. -/
def annPlays (sessionId : String) : List Call :=
  [.join 100 "ENG-1" (some "ann") "phone", .participate 101 (annRequest sessionId)]

/-- The digests of the sample are hexadecimal. -/
theorem sampleSettings_hexadecimal : sampleSettings.crypto.Hexadecimal := by
  intro text char member
  simp only [sampleSettings] at member
  split at member
  · have digits : (annKey.toList.all fun char => "0123456789abcdef".toList.contains char) =
        true := by decide +kernel
    exact List.contains_iff_mem.mp (List.all_eq_true.mp digits char member)
  · cases member

/-- The sessions are stored under their ids. -/
theorem twoSessions_keyed : twoSessions.store.Keyed := by
  intro sessionId session found
  simp only [twoSessions, Option.ite_none_right_eq_some, Option.some.injEq] at found
  rw [← found.2]
  rfl

/-- The two sessions after Ann has joined the first. -/
def annJoined : Trace :=
  Call.perform sampleSettings ⟨twoSessions, [], []⟩ (.join 100 "ENG-1" (some "ann") "phone")

/-- The join returns the ticket. -/
theorem annJoined_issued : annJoined.issued = [("ENG-1", annTicket)] := by decide +kernel

/-- Ann's ticket is not forged. -/
theorem annTicket_unforged {time : Rat} {request : ParticipateRequest}
    (presented : request.ticket = annTicket) :
    Unforged sampleSettings annJoined (.participate time request) := by
  intro _
  refine ⟨("ENG-1", annTicket), ?_, ?_⟩
  · rw [annJoined_issued]
    exact List.mem_singleton_self _
  · rw [presented]

/-- Ann takes part in the session that she joined. -/
theorem tickets_good_for_one_session_iff_camp :
    EveryCall (Call.perform sampleSettings) (TicketOfSession sampleSettings)
        ⟨twoSessions, [], []⟩ (annPlays "ENG-1") ↔
      EveryCall (Call.perform sampleSettings) (NamesTicketSession sampleSettings)
        ⟨twoSessions, [], []⟩ (annPlays "ENG-1") :=
  tickets_good_for_one_session_iff sampleSettings sampleSettings_hexadecimal twoSessions
    twoSessions_keyed (annPlays "ENG-1") ⟨trivial, annTicket_unforged rfl, trivial⟩

/-- Ann's ticket is accepted in the second session, where nobody joined. -/
theorem annTicket_works_elsewhere :
    ¬ EveryCall (Call.perform sampleSettings) (TicketOfSession sampleSettings)
      ⟨twoSessions, [], []⟩ (annPlays "ENG-2") := by
  rintro ⟨_, issuedThere, _⟩
  have accepted : accepts sampleSettings 101 (annRequest "ENG-2") annJoined.runtime = true := by
    decide +kernel
  obtain ⟨entry, member, onSession, _⟩ := issuedThere accepted
  have issued : entry ∈ annJoined.issued := member
  rw [annJoined_issued] at issued
  rw [List.mem_singleton.mp issued] at onSession
  exact absurd onSession (by decide)

end FlockOs.Engagement
