import FlockOs.EngagementApi
import FlockOs.Verif.TicketSession

/-!
# The time of a participation

Both player endpoints pass the client's `submitted_at` on, and the service judges the window
and the throttle at it. Two requests that differ in their times only are judged alike exactly
where the times that they are judged at agree, or do not come into it.
-/

namespace FlockOs.EngagementApi

open Lib Engagement

/-- The request without the times of the client. -/
def withoutTimes (request : ParticipateRequest) : ParticipateRequest :=
  { request with
    submittedAt := none
    clientSubmittedAt := none }

/-- The arguments of `participate` without the times of the client. -/
def ParticipatePayload.withoutTimes (payload : ParticipatePayload) : ParticipatePayload :=
  { payload with
    submittedAt := none
    clientSubmittedAt := none }

/-- An item without the times of the client. -/
def BulkItem.withoutTimes (item : BulkItem) : BulkItem :=
  { item with
    submittedAt := none
    clientSubmittedAt := none }

/-- A request to an endpoint without the times of the client. -/
def ApiRequest.withoutTimes : ApiRequest → ApiRequest
  | .participate payload => .participate payload.withoutTimes
  | .bulkAttendance sessionId items => .bulkAttendance sessionId (items.map (·.withoutTimes))

/-- The participations that an endpoint asks the service for. -/
def ApiRequest.requests (clientIp : Option String) :
    ApiRequest → Except Error (List ParticipateRequest)
  | .participate payload => (participateRequest clientIp payload).map fun request => [request]
  | .bulkAttendance sessionId items => requestsFromItems clientIp sessionId 0 items

/-- What a receipt says about the window, the recorded time and the throttle. -/
structure Decision where
  /-- The flag of the window, where the row was judged. -/
  outOfScope : Option Bool
  /-- The recorded time. -/
  submittedAt : Option Rat
  /-- The throttle refused. -/
  throttled : Bool
deriving DecidableEq, Repr

/-- The decisions of a receipt. -/
def decisionOf (receipt : ParticipationReceipt) : Decision where
  outOfScope := receipt.statusFlags.map (·.outOfScope)
  submittedAt := receipt.submittedAt
  throttled := decide (receipt.reason = some .throttled)

/-- The decisions on requests made one after the other, up to the first exception. -/
def decisions (settings : Settings) (time : Rat) :
    List ParticipateRequest → Runtime → List (Except Error Decision)
  | [], _ => []
  | request :: rest, runtime =>
    match (memoryService settings time).participate time request runtime with
    | .ok receipt next => .ok (decisionOf receipt) :: decisions settings time rest next
    | .error raised _ => [.error raised]

/-- The decisions on a request to an endpoint. -/
def ApiRequest.decisions (settings : Settings) (time : Rat) (clientIp : Option String)
    (request : ApiRequest) (runtime : Runtime) : List (Except Error Decision) :=
  match request.requests clientIp with
  | .error raised => [.error raised]
  | .ok requests => EngagementApi.decisions settings time requests runtime

/-- Item by item: an exception or a refusal comes before the window, or the throttle decides
alike, and where it allows the times judged agree. -/
def JudgedAlike (settings : Settings) (time : Rat) :
    List ParticipateRequest → List ParticipateRequest → InMemory → InMemory → Prop
  | first :: rest, second :: others, store, other =>
    match gate settings time first store with
    | .error _ => True
    | .ok (.error _) => JudgedAlike settings time rest others store other
    | .ok (.ok session) =>
      (throttled settings time first store = throttled settings time second other ∧
        (throttled settings time first store = false →
          effectiveTime time first = effectiveTime time second)) ∧
      JudgedAlike settings time rest others (settle settings time session first store).2
        (settle settings time session second other).2
  | _, _, _, _ => True

/-- Two requests to the endpoints are judged alike. -/
def ApiRequest.JudgedAlike (settings : Settings) (time : Rat) (clientIp : Option String)
    (first second : ApiRequest) (store : InMemory) : Prop :=
  ∀ requests others, first.requests clientIp = .ok requests →
    second.requests clientIp = .ok others →
      EngagementApi.JudgedAlike settings time requests others store store

/-- The reply of `participate` carries its decision. -/
theorem participate_decisions {settings : Settings} {time : Rat} {clientIp : Option String}
    {payload : ParticipatePayload} {runtime next : Runtime} {receipt : ParticipationReceipt}
    (replied : participate (memoryService settings time) time clientIp payload runtime =
      .ok receipt next) :
    (ApiRequest.participate payload).decisions settings time clientIp runtime =
      [.ok (decisionOf receipt)] := by
  rw [ApiRequest.decisions, ApiRequest.requests]
  rw [participate] at replied
  cases parsed : participateRequest clientIp payload with
  | error raised =>
    rw [parsed] at replied
    cases replied
  | ok request =>
    rw [parsed] at replied
    have returned : (memoryService settings time).participate time request runtime =
      .ok receipt next := replied
    simp only [Except.map, decisions, returned]

/-- A batch that is processed to its end has one decision for each receipt. -/
theorem bulkParticipate_decisions {settings : Settings} {time : Rat} :
    ∀ {requests : List ParticipateRequest} {runtime next : Runtime}
      {receipts : List ParticipationReceipt},
      (memoryService settings time).bulkParticipate time requests runtime = .ok receipts next →
      decisions settings time requests runtime =
        receipts.map fun receipt => .ok (decisionOf receipt)
  | [], _, _, _, returned => by
    cases returned
    rfl
  | request :: rest, runtime, next, receipts, returned => by
    rw [EngagementService.bulkParticipate, List.mapM_cons] at returned
    obtain ⟨receipt, between, first, later⟩ := Exec.bind_ok returned
    obtain ⟨others, last, second, final⟩ := Exec.bind_ok later
    cases final
    rw [decisions, first]
    exact congrArg _ (bulkParticipate_decisions second)

/-- The reply of `bulk_attendance` is made of receipts that carry its decisions. -/
theorem bulkAttendance_decisions {settings : Settings} {time : Rat} {clientIp : Option String}
    {sessionId : String} {items : List BulkItem} {runtime next : Runtime} {reply : BulkReply}
    (replied : bulkAttendance (memoryService settings time) time clientIp sessionId items runtime =
      .ok reply next) :
    ∃ receipts, reply = bulkReply receipts ∧
      (ApiRequest.bulkAttendance sessionId items).decisions settings time clientIp runtime =
        receipts.map fun receipt => .ok (decisionOf receipt) := by
  rw [bulkAttendance] at replied
  cases parsed : requestsFromItems clientIp sessionId 0 items with
  | error raised =>
    rw [parsed] at replied
    cases replied
  | ok requests =>
    rw [parsed] at replied
    obtain ⟨_, _, start, rest⟩ := Exec.bind_ok replied
    cases start
    obtain ⟨receipts, last, processed, final⟩ := Exec.bind_ok rest
    cases final
    refine ⟨receipts, rfl, ?_⟩
    rw [ApiRequest.decisions, ApiRequest.requests, parsed]
    exact bulkParticipate_decisions processed

/-- The parser of `participate` reads the times last. -/
theorem participateRequest_withoutTimes (clientIp : Option String) (payload : ParticipatePayload) :
    participateRequest clientIp payload.withoutTimes =
      (participateRequest clientIp payload).map withoutTimes := by
  simp only [participateRequest, ParticipatePayload.withoutTimes]
  cases ticketFromDict payload.ticket <;> rfl

/-- The parser of an item reads the times last. -/
theorem participateRequestFromPayload_withoutTimes (clientIp : Option String) (sessionId : String)
    (item : BulkItem) (index : Nat) :
    participateRequestFromPayload clientIp sessionId item.withoutTimes index =
      (participateRequestFromPayload clientIp sessionId item index).map withoutTimes := by
  simp only [participateRequestFromPayload, BulkItem.withoutTimes]
  cases item.attendeeKey with
  | none => rfl
  | some attendeeKey =>
    cases item.nonce with
    | none => rfl
    | some nonce => cases ticketFromDict item.ticket <;> rfl

/-- The parser of a batch reads the times last. -/
theorem requestsFromItems_withoutTimes (clientIp : Option String) (sessionId : String) :
    ∀ (items : List BulkItem) (index : Nat),
      requestsFromItems clientIp sessionId index (items.map (·.withoutTimes)) =
        (requestsFromItems clientIp sessionId index items).map (List.map withoutTimes)
  | [], _ => rfl
  | item :: rest, index => by
    rw [List.map_cons, requestsFromItems, requestsFromItems,
      participateRequestFromPayload_withoutTimes,
      requestsFromItems_withoutTimes clientIp sessionId rest (index + 1)]
    cases participateRequestFromPayload clientIp sessionId item index with
    | error raised => rfl
    | ok request => cases requestsFromItems clientIp sessionId (index + 1) rest <;> rfl

/-- The endpoints read the times last. -/
theorem requests_withoutTimes (clientIp : Option String) (request : ApiRequest) :
    request.withoutTimes.requests clientIp =
      (request.requests clientIp).map (List.map withoutTimes) := by
  cases request with
  | participate payload =>
    rw [ApiRequest.withoutTimes, ApiRequest.requests, ApiRequest.requests,
      participateRequest_withoutTimes]
    cases participateRequest clientIp payload <;> rfl
  | bulkAttendance sessionId items => exact requestsFromItems_withoutTimes clientIp sessionId items 0

/-- Two stores with the same sessions and secret. -/
def SameGate (store other : InMemory) : Prop :=
  store.sessions = other.sessions ∧ store.secret = other.secret

/-- The gate does not read the times. -/
theorem gate_congr {settings : Settings} {time : Rat} {first second : ParticipateRequest}
    {store other : InMemory} (agree : withoutTimes first = withoutTimes second)
    (same : SameGate store other) :
    gate settings time first store = gate settings time second other := by
  have untimed : gate settings time (withoutTimes first) store =
      gate settings time (withoutTimes second) other := by
    rw [agree, gate, gate, same.1, same.2]
  exact untimed

/-- Settling a request keeps sessions and secret. -/
theorem settle_sameGate (settings : Settings) (time : Rat) (session : EngagementSession)
    (request : ParticipateRequest) (store : InMemory) :
    SameGate (settle settings time session request store).2 store := by
  rw [settle]
  split
  · exact ⟨rfl, rfl⟩
  · split
    · exact ⟨rfl, rfl⟩
    · exact ⟨rfl, rfl⟩

/-- The decisions on a request past the gate. -/
theorem decisionOf_settle (settings : Settings) (time : Rat) (session : EngagementSession)
    (request : ParticipateRequest) (store : InMemory) :
    decisionOf (settle settings time session request store).1 =
      if throttled settings time request store then ⟨none, none, true⟩
      else ⟨some (validateSessionWindow session (effectiveTime time request)
        settings.graceSeconds).isSome, some (effectiveTime time request), false⟩ := by
  rw [settle]
  split
  · rfl
  · split
    · rfl
    · rfl

/-- Past the gate two requests are decided alike exactly when the throttle decides alike and,
where it allows, the times judged agree. -/
theorem decisionOf_settle_iff (settings : Settings) (time : Rat) (session : EngagementSession)
    (first second : ParticipateRequest) (store other : InMemory) :
    decisionOf (settle settings time session first store).1 =
        decisionOf (settle settings time session second other).1 ↔
      throttled settings time first store = throttled settings time second other ∧
        (throttled settings time first store = false →
          effectiveTime time first = effectiveTime time second) := by
  rw [decisionOf_settle, decisionOf_settle]
  cases throttled settings time first store <;> cases throttled settings time second other
  · constructor
    · intro same
      simp only [Bool.false_eq_true, ↓reduceIte, Decision.mk.injEq, Option.some.injEq] at same
      exact ⟨rfl, fun _ => same.2.1⟩
    · rintro ⟨_, agree⟩
      rw [agree rfl]
  · simp
  · simp
  · simp

/-- The decisions on a first request and the rest. -/
theorem decisions_cons (settings : Settings) (time : Rat) (request : ParticipateRequest)
    (rest : List ParticipateRequest) (runtime : Runtime) :
    decisions settings time (request :: rest) runtime =
      match gate settings time request runtime.store with
      | .error raised => [.error raised]
      | .ok (.error reason) =>
        .ok (decisionOf (EngagementService.refused request reason)) ::
          decisions settings time rest runtime
      | .ok (.ok session) =>
        .ok (decisionOf (settle settings time session request runtime.store).1) ::
          decisions settings time rest
            (runtime.withStore (settle settings time session request runtime.store).2) := by
  rw [decisions, participate_run]
  cases gate settings time request runtime.store with
  | error raised => rfl
  | ok judged => cases judged <;> rfl

/-- Requests that agree but for their times are decided alike exactly when they are judged
alike. -/
theorem decisions_iff {settings : Settings} {time : Rat}
    {requests others : List ParticipateRequest} {runtime other : Runtime}
    (agree : requests.map withoutTimes = others.map withoutTimes)
    (same : SameGate runtime.store other.store) :
    decisions settings time requests runtime = decisions settings time others other ↔
      JudgedAlike settings time requests others runtime.store other.store := by
  induction requests generalizing others runtime other with
  | nil =>
    cases others with
    | nil => exact ⟨fun _ => trivial, fun _ => rfl⟩
    | cons second others => cases agree
  | cons first rest shorter =>
    cases others with
    | nil => cases agree
    | cons second others =>
      obtain ⟨agreeFirst, agreeRest⟩ := List.cons.inj agree
      rw [decisions_cons, decisions_cons, JudgedAlike, ← gate_congr agreeFirst same]
      cases gate settings time first runtime.store with
      | error raised => exact ⟨fun _ => trivial, fun _ => rfl⟩
      | ok judged =>
        cases judged with
        | error reason =>
          have refusals : decisionOf (EngagementService.refused first reason) =
            decisionOf (EngagementService.refused second reason) := rfl
          dsimp only
          rw [List.cons.injEq, refusals]
          exact (and_iff_right rfl).trans (shorter agreeRest same)
        | ok session =>
          have left := settle_sameGate settings time session first runtime.store
          have right := settle_sameGate settings time session second other.store
          have later : SameGate (settle settings time session first runtime.store).2
              (settle settings time session second other.store).2 :=
            ⟨left.1.trans (same.1.trans right.1.symm), left.2.trans (same.2.trans right.2.symm)⟩
          dsimp only
          rw [List.cons.injEq, Except.ok.injEq, decisionOf_settle_iff]
          refine and_congr_right fun _ => ?_
          exact shorter agreeRest later

/-- Two requests to the endpoints that agree but for the times of the client are decided alike
exactly when they are judged alike. -/
theorem server_time_iff (settings : Settings) (time : Rat) (clientIp : Option String)
    (runtime : Runtime) (first second : ApiRequest)
    (agree : first.withoutTimes = second.withoutTimes) :
    first.decisions settings time clientIp runtime =
        second.decisions settings time clientIp runtime ↔
      first.JudgedAlike settings time clientIp second runtime.store := by
  have parsed := requests_withoutTimes clientIp first
  rw [agree, requests_withoutTimes] at parsed
  rw [ApiRequest.decisions, ApiRequest.decisions, ApiRequest.JudgedAlike]
  cases requested : first.requests clientIp with
  | error raised =>
    rw [requested] at parsed
    cases otherwise : second.requests clientIp with
    | error other =>
      rw [otherwise] at parsed
      cases parsed
      exact iff_of_true rfl fun _ _ impossible => by cases impossible
    | ok others =>
      rw [otherwise] at parsed
      cases parsed
  | ok requests =>
    rw [requested] at parsed
    cases otherwise : second.requests clientIp with
    | error other =>
      rw [otherwise] at parsed
      cases parsed
    | ok others =>
      rw [otherwise] at parsed
      have agreed : requests.map EngagementApi.withoutTimes =
        others.map EngagementApi.withoutTimes := (Except.ok.inj parsed).symm
      refine (decisions_iff agreed ⟨rfl, rfl⟩).trans ⟨?_, fun alike => alike _ _ rfl rfl⟩
      intro alike left right sameLeft sameRight
      rw [← Except.ok.inj sameLeft, ← Except.ok.inj sameRight]
      exact alike

/-- The requests of Ann on a session that closed at 100, with a time given. -/
def annLate (submittedAt : Option Rat) : ApiRequest :=
  .participate
    { sessionId := "ENG-1"
      ticket :=
        { sessionId := some "ENG-1"
          attendeeKey := some annKey
          memberId := some "ann"
          deviceFingerprint := some "phone"
          issuedAt := some 100
          expiresAt := some 3700
          signature := some annTicket.signature }
      attendeeKey := annKey
      nonce := "1"
      memberId := some "ann"
      deviceFingerprint := "phone"
      submittedAt := submittedAt }

/-- A session that stopped accepting credit at 130. -/
def closingSession : Runtime where
  store :=
    { sessions := fun sessionId =>
        if sessionId = "ENG-1" then
          some { campSession "ENG-1" with
            status := .closing
            closeAt := some 100 }
        else none }

/-- At 200 the request without a time is out of the window. -/
theorem server_time_iff_camp :
    (annLate none).decisions sampleSettings 200 none closingSession =
        (annLate (some 200)).decisions sampleSettings 200 none closingSession ↔
      (annLate none).JudgedAlike sampleSettings 200 none (annLate (some 200))
        closingSession.store :=
  server_time_iff sampleSettings 200 none closingSession (annLate none) (annLate (some 200)) rfl

/-- At 200 a request that says that it was submitted at 120 is in the window. -/
theorem annLate_chooses_her_time :
    (annLate none).withoutTimes = (annLate (some 120)).withoutTimes ∧
      (annLate none).decisions sampleSettings 200 none closingSession ≠
        (annLate (some 120)).decisions sampleSettings 200 none closingSession := by
  have late : (annLate none).decisions sampleSettings 200 none closingSession =
    [.ok ⟨some true, some 200, false⟩] := by decide +kernel
  have early : (annLate (some 120)).decisions sampleSettings 200 none closingSession =
    [.ok ⟨some false, some 120, false⟩] := by decide +kernel
  rw [late, early]
  exact ⟨rfl, by decide⟩

end FlockOs.EngagementApi
