import FlockOs.Verif.TicketSession

/-!
# The member of a ticket

The member credited at the close is the one named in the request, and no check compares it
with the member that the ticket was issued to. Where every request names the member of its
ticket and is told apart from the rows before it, every row leads back to a ticket of its
member.
-/

namespace FlockOs.Engagement

open Lib Reporting

/-- One of the tickets issued has the signature presented and was issued to the member (`none`
for a visitor). -/
def IssuedTo (issued : List (String × SessionTicket)) (ticket : SessionTicket)
    (member : Option String) : Prop :=
  ∃ entry ∈ issued, entry.2.signature = ticket.signature ∧ truthy entry.2.memberId = member

/-- The key of the row that a request makes. -/
def requestKey (request : ParticipateRequest) : String × String × String :=
  (request.sessionId, request.attendeeKey, request.nonce)

/-- The row was made under a ticket issued to the member. -/
def MadeUnder (trace : Trace) (row : Participation) (member : Option String) : Prop :=
  ∃ made ∈ trace.accepted, requestKey made.1 = InMemory.nonceKey row ∧
    IssuedTo made.2 made.1.ticket member

/-- The items submitted for a session credit the members that the tickets were issued to. -/
structure Credited (trace : Trace) (sessionId : String) (items : List AttendanceItem) : Prop where
  /-- An item with a member comes from a participation under a ticket of this member. -/
  sound : ∀ item ∈ items, ∀ member, truthy item.member = some member →
    ∃ row ∈ trace.runtime.store.participations sessionId,
      item = participationToAttendanceItem row ∧ MadeUnder trace row (some member)
  /-- A participation in the window under a ticket of a member is submitted with this member. -/
  complete : ∀ row ∈ trace.runtime.store.participations sessionId,
    row.statusFlags.outOfScope = false → ∀ member, MadeUnder trace row (some member) →
      ∃ item ∈ items, item.attendeeKey = some row.attendeeKey ∧
        truthy item.member = some member
  /-- No reference is submitted twice. -/
  distinct : (items.map (·.attendeeRef)).Nodup

/-- What a finalize submits is credited to the members of the tickets. -/
def CreditsTicketMembers (settings : Settings) (trace : Trace) : Call → Prop
  | .finalizeClose time sessionId => ∀ items,
    (((memoryService settings time).finalizeClose sessionId).after trace.runtime).submitted =
      trace.runtime.submitted ++ [items] → Credited trace sessionId items
  | _ => True

/-- The reference that an attendee is credited under. -/
def creditRef (attendeeKey : String) (memberId : Option String) : String :=
  (truthy memberId).getD attendeeKey

/-- Two attendees do not share an attendee key unless they are one member, nor a reference
unless they share the key. -/
def ToldApart (firstKey : String) (firstMember : Option String) (secondKey : String)
    (secondMember : Option String) : Prop :=
  (firstKey = secondKey → truthy firstMember = truthy secondMember) ∧
    (creditRef firstKey firstMember = creditRef secondKey secondMember → firstKey = secondKey)

/-- A request that passes every check and is in the window names the member that its ticket
was issued to, and is told apart from the rows in the window of its session. -/
def NamesTicketMember (settings : Settings) (trace : Trace) : Call → Prop
  | .participate time request =>
    ∀ session, Admitted settings time request trace.runtime.store session →
      validateSessionWindow session (effectiveTime time request) settings.graceSeconds = none →
        (∀ member, IssuedTo trace.issued request.ticket member →
          member = truthy request.memberId) ∧
        ∀ row ∈ trace.runtime.store.participations session.sessionId,
          row.statusFlags.outOfScope = false →
            ToldApart request.attendeeKey request.memberId row.attendeeKey row.memberId
  | _ => True

/-- Being told apart is symmetric. -/
theorem ToldApart.symm {firstKey secondKey : String} {firstMember secondMember : Option String}
    (apart : ToldApart firstKey firstMember secondKey secondMember) :
    ToldApart secondKey secondMember firstKey firstMember :=
  ⟨fun same => (apart.1 same.symm).symm, fun same => (apart.2 same.symm).symm⟩

/-- A row in the window was made under a ticket of its member, and of no other. -/
def LeadsBack (trace : Trace) (row : Participation) : Prop :=
  row.statusFlags.outOfScope = false →
    ∀ member, MadeUnder trace row member ↔ member = truthy row.memberId

/-- Rows and accepted requests have their nonces recorded, and the rows in the window lead back
to tickets and are told apart. -/
structure Attributed (settings : Settings) (trace : Trace) : Prop where
  tickets : SoundTickets settings trace
  rowsSeen : ∀ sessionId, ∀ row ∈ trace.runtime.store.participations sessionId,
    InMemory.nonceKey row ∈ trace.runtime.store.nonceSeen
  requestsSeen : ∀ made ∈ trace.accepted, requestKey made.1 ∈ trace.runtime.store.nonceSeen
  back : ∀ sessionId, ∀ row ∈ trace.runtime.store.participations sessionId, LeadsBack trace row
  apart : ∀ sessionId, ∀ first ∈ trace.runtime.store.participations sessionId,
    ∀ second ∈ trace.runtime.store.participations sessionId,
      first.statusFlags.outOfScope = false → second.statusFlags.outOfScope = false →
        ToldApart first.attendeeKey first.memberId second.attendeeKey second.memberId

/-- The row of a request that is recorded, or an earlier one. -/
theorem mem_recorded {settings : Settings} {time : Rat} {session : EngagementSession}
    {request : ParticipateRequest} {store : InMemory} {sessionId : String} {row : Participation}
    (member : row ∈ (recorded settings time session request store).participations sessionId) :
    row ∈ store.participations sessionId ∨
      (sessionId = session.sessionId ∧ row = rowOf settings time session request store) := by
  rw [recorded_participations] at member
  by_cases here : sessionId = session.sessionId
  · subst here
    rw [Function.update_self] at member
    rcases List.mem_append.mp member with old | new
    · exact .inl old
    · exact .inr ⟨rfl, List.mem_singleton.mp new⟩
  · rw [Function.update_of_ne here] at member
    exact .inl member

/-- A row whose key an accepted request does not have is made under the same tickets after
it. -/
theorem madeUnder_append {trace next : Trace} {row : Participation} {member : Option String}
    {made : ParticipateRequest × List (String × SessionTicket)}
    (grown : next.accepted = trace.accepted ++ [made])
    (other : requestKey made.1 ≠ InMemory.nonceKey row) :
    MadeUnder next row member ↔ MadeUnder trace row member := by
  rw [MadeUnder, grown]
  constructor
  · rintro ⟨used, accepted, sameKey, issued⟩
    rcases List.mem_append.mp accepted with old | new
    · exact ⟨used, old, sameKey, issued⟩
    · rw [List.mem_singleton.mp new] at sameKey
      exact absurd sameKey other
  · rintro ⟨used, accepted, sameKey, issued⟩
    exact ⟨used, List.mem_append_left _ accepted, sameKey, issued⟩

/-- A row in the window was judged in the window. -/
theorem window_of_row {settings : Settings} {time : Rat} {session : EngagementSession}
    {request : ParticipateRequest} {store : InMemory}
    (inWindow : (rowOf settings time session request store).statusFlags.outOfScope = false) :
    validateSessionWindow session (effectiveTime time request) settings.graceSeconds = none :=
  Option.isSome_eq_false_iff.mp inWindow |> Option.isNone_iff_eq_none.mp

/-- Every call that names the member of its ticket keeps the rows attributed. -/
theorem Attributed.perform {settings : Settings} {trace : Trace}
    (attributed : Attributed settings trace) {call : Call}
    (unforged : Unforged settings trace call) (names : NamesTicketMember settings trace call) :
    Attributed settings (call.perform settings trace) := by
  have tickets := attributed.tickets.perform call
  cases perform_step settings trace call with
  | quiet log issued accepted =>
    refine ⟨tickets, ?_, ?_, ?_, ?_⟩
    · rw [log.participations, log.nonceSeen]
      exact attributed.rowsSeen
    · rw [accepted, log.nonceSeen]
      exact attributed.requestsSeen
    · rw [log.participations]
      intro sessionId row member inWindow memberId
      rw [MadeUnder, accepted]
      exact attributed.back sessionId row member inWindow memberId
    · rw [log.participations]
      exact attributed.apart
  | issue ticket returned same =>
    rw [same] at tickets ⊢
    exact ⟨tickets, attributed.rowsSeen, attributed.requestsSeen, attributed.back,
      attributed.apart⟩
  | accept session admitted same =>
    rename_i time request
    rw [same] at tickets ⊢
    have sameKey : requestKey request =
        InMemory.nonceKey (rowOf settings time session request trace.runtime.store) := by
      rw [requestKey, ← attributed.tickets.keyed _ _ (gate_ok admitted.gate).1]
      rfl
    have fresh := admitted.fresh
    refine ⟨tickets, ?_, ?_, ?_, ?_⟩
    · intro sessionId row member
      rw [Runtime.withStore_store, recorded_nonceSeen, Finset.mem_insert]
      rcases mem_recorded member with old | ⟨_, rfl⟩
      · exact .inr (attributed.rowsSeen sessionId row old)
      · exact .inl rfl
    · intro made member
      rw [Runtime.withStore_store, recorded_nonceSeen, Finset.mem_insert]
      rcases List.mem_append.mp member with old | new
      · exact .inr (attributed.requestsSeen made old)
      · rw [List.mem_singleton.mp new]
        exact .inl sameKey
    · intro sessionId row member inWindow memberId
      rcases mem_recorded member with old | ⟨_, rfl⟩
      · have other : requestKey request ≠ InMemory.nonceKey row := by
          intro again
          rw [← sameKey, again] at fresh
          exact fresh (attributed.rowsSeen sessionId row old)
        rw [madeUnder_append rfl other]
        exact attributed.back sessionId row old inWindow memberId
      · have named := (names session admitted (window_of_row inWindow)).1
        constructor
        · rintro ⟨made, accepted, key, issuedTo⟩
          rcases List.mem_append.mp accepted with old | new
          · rw [← key] at fresh
            exact absurd (attributed.requestsSeen made old) fresh
          · rw [List.mem_singleton.mp new] at issuedTo
            exact named memberId issuedTo
        · rintro rfl
          obtain ⟨entry, member, _, signatures⟩ :=
            attributed.tickets.issued_of_admitted admitted unforged
          have issuedTo : IssuedTo trace.issued request.ticket (truthy entry.2.memberId) :=
            ⟨entry, member, signatures, rfl⟩
          rw [named _ issuedTo] at issuedTo
          exact ⟨(request, trace.issued), List.mem_append_right _ (List.mem_singleton_self _),
            sameKey, issuedTo⟩
    · intro sessionId first firstMember second secondMember firstIn secondIn
      rcases mem_recorded firstMember with oldFirst | ⟨here, rfl⟩
      · rcases mem_recorded secondMember with oldSecond | ⟨here, rfl⟩
        · exact attributed.apart sessionId first oldFirst second oldSecond firstIn secondIn
        · rw [here] at oldFirst
          exact ((names session admitted (window_of_row secondIn)).2 first oldFirst firstIn).symm
      · rcases mem_recorded secondMember with oldSecond | ⟨_, rfl⟩
        · rw [here] at oldSecond
          exact (names session admitted (window_of_row firstIn)).2 second oldSecond secondIn
        · exact ⟨fun _ => rfl, fun _ => rfl⟩

/-- While rows are attributed, the projection of a session credits the tickets. -/
theorem Attributed.credited {settings : Settings} {trace : Trace}
    (attributed : Attributed settings trace) (sessionId : String) :
    Credited trace sessionId (projection trace.runtime.store sessionId) := by
  have offered : ∀ row ∈ inWindowAttendees (trace.runtime.store.participations sessionId),
      row ∈ trace.runtime.store.participations sessionId ∧
        row.statusFlags.outOfScope = false := by
    intro row member
    have inWindow := List.mem_filter.mp (mem_of_mem_firstPerKey member)
    exact ⟨inWindow.1, by simpa using inWindow.2⟩
  refine ⟨?_, ?_, ?_⟩
  · intro item submitted memberId credited
    obtain ⟨row, member, rfl⟩ := List.mem_map.mp submitted
    obtain ⟨inLog, inWindow⟩ := offered row member
    have same : some memberId = truthy row.memberId := credited.symm
    exact ⟨row, inLog, rfl, (attributed.back sessionId row inLog inWindow _).mpr same⟩
  · intro row inLog inWindow memberId made
    have isOffered : row ∈ (trace.runtime.store.participations sessionId).filter
        fun row => !row.statusFlags.outOfScope := List.mem_filter.mpr ⟨inLog, by simp [inWindow]⟩
    obtain ⟨first, kept, sameKey⟩ := exists_mem_firstPerKey (·.attendeeKey) isOffered
    obtain ⟨firstLog, firstIn⟩ := offered first kept
    have oneMember := (attributed.apart sessionId first firstLog row inLog firstIn inWindow).1 sameKey
    have issuedTo := (attributed.back sessionId row inLog inWindow _).mp made
    refine ⟨participationToAttendanceItem first, List.mem_map_of_mem kept, ?_, ?_⟩
    · exact congrArg some sameKey
    · show truthy first.memberId = some memberId
      rw [oneMember, issuedTo]
  · rw [projection, List.map_map]
    have distinct := nodup_firstPerKey (·.attendeeKey)
      ((trace.runtime.store.participations sessionId).filter fun row =>
        !row.statusFlags.outOfScope)
    refine List.Nodup.map_on ?_ distinct.of_map
    intro first firstKept second secondKept sameRef
    obtain ⟨firstLog, firstIn⟩ := offered first firstKept
    obtain ⟨secondLog, secondIn⟩ := offered second secondKept
    have apart := attributed.apart sessionId first firstLog second secondLog firstIn secondIn
    exact List.inj_on_of_nodup_map distinct firstKept secondKept (apart.2 sameRef)

/-- In every run in which no signature is forged, and every request that takes part names the
member of its ticket and is told apart from the rows before it, every finalize credits the
members that the tickets were issued to. -/
theorem attendance_credits_ticket_members (settings : Settings) (runtime : Runtime)
    (keyed : runtime.store.Keyed)
    (empty : ∀ sessionId, runtime.store.participations sessionId = []) (calls : List Call)
    (unforged : EveryCall (Call.perform settings) (Unforged settings) ⟨runtime, [], []⟩ calls)
    (names : EveryCall (Call.perform settings) (NamesTicketMember settings) ⟨runtime, [], []⟩
      calls) :
    EveryCall (Call.perform settings) (CreditsTicketMembers settings) ⟨runtime, [], []⟩ calls := by
  have initial : Attributed settings ⟨runtime, [], []⟩ :=
    ⟨⟨keyed, by simp, by simp⟩, by simp [empty], by simp, by simp [empty], by simp [empty]⟩
  refine (unforged.and names).conclude (Attributed settings) ?_ ?_ initial
  · rintro trace call attributed ⟨genuine, named⟩
    exact attributed.perform genuine named
  · rintro trace call attributed _
    cases call with
    | finalizeClose time sessionId =>
      intro items submitted
      have outcome := finalizeClose_submitted settings time sessionId trace.runtime
        attributed.tickets.keyed
      rcases outcome with nothing | projected
      · rw [submitted] at nothing
        simp at nothing
      · rw [submitted, List.append_cancel_left_eq, List.singleton_inj] at projected
        rw [projected]
        exact attributed.credited sessionId
    | createSession session => trivial
    | openSession time sessionId now => trivial
    | closeSession time sessionId now => trivial
    | join time sessionId memberId deviceFingerprint => trivial
    | participate time request => trivial

/-- Ann joins a session and takes part under the member id given, and the session is closed. -/
def annCredits (memberId : String) : List Call :=
  [.join 100 "ENG-1" (some "ann") "phone",
    .participate 101 { annRequest "ENG-1" with memberId := some memberId },
    .closeSession 110 "ENG-1" none, .finalizeClose 150 "ENG-1"]

/-- Ann is the only one who takes part, under her own id. -/
theorem annNames : NamesTicketMember sampleSettings annJoined
    (.participate 101 { annRequest "ENG-1" with memberId := some "ann" }) := by
  intro session _ _
  constructor
  · rintro member ⟨entry, issued, _, issuedTo⟩
    rw [annJoined_issued] at issued
    rw [← issuedTo, List.mem_singleton.mp issued]
    rfl
  · intro row member
    have unchanged : annJoined.runtime.store.participations = fun _ => [] := by
      rw [annJoined, Call.perform, join_run]
      cases ticketFor sampleSettings 100 "ENG-1" (some "ann") "phone" twoSessions.store <;> rfl
    rw [unchanged] at member
    cases member

/-- Ann is credited with her own attendance. -/
theorem attendance_credits_ticket_members_camp :
    EveryCall (Call.perform sampleSettings) (CreditsTicketMembers sampleSettings)
      ⟨twoSessions, [], []⟩ (annCredits "ann") :=
  attendance_credits_ticket_members sampleSettings twoSessions twoSessions_keyed (fun _ => rfl)
    (annCredits "ann") ⟨trivial, annTicket_unforged rfl, trivial, trivial, trivial⟩
    ⟨trivial, annNames, trivial, trivial, trivial⟩

/-- Under Ben's id, the attendance is submitted for Ben. -/
theorem annTicket_credits_ben :
    ¬ EveryCall (Call.perform sampleSettings) (CreditsTicketMembers sampleSettings)
      ⟨twoSessions, [], []⟩ (annCredits "ben") := by
  rintro ⟨_, _, _, credits, _⟩
  let item : AttendanceItem :=
    ⟨"camp", "ben", "north", "Present", "engagement", some annKey, some "camp", some "ben",
      some "ENG-1", some annKey⟩
  have submitted := (credits [item] (by decide +kernel)).sound item (List.mem_singleton_self _)
  obtain ⟨row, _, _, made, accepted, _, entry, issued, _, issuedTo⟩ := submitted "ben" rfl
  have only : made = ({ annRequest "ENG-1" with memberId := some "ben" },
      [("ENG-1", annTicket)]) := by
    apply List.mem_singleton.mp
    have all : (runAll (Call.perform sampleSettings) ⟨twoSessions, [], []⟩
        ((annCredits "ben").take 3)).accepted =
        [({ annRequest "ENG-1" with memberId := some "ben" }, [("ENG-1", annTicket)])] := by
      decide +kernel
    rw [← all]
    exact accepted
  rw [only] at issued
  rw [List.mem_singleton.mp issued] at issuedTo
  exact absurd issuedTo (by decide)

end FlockOs.Engagement
