import FlockOs.Verif.Seats

/-!
# The waitlist

Under a positive capacity nobody waits while a seat is free (`Fair`), because a seat that is
released while somebody waits is given on in the same step. A claim gives no seat while
somebody waits, and a promotion gives it to the senior waiting row; so no row overtakes a
more senior one that waits.
-/

namespace FlockOs.EventRegistration

open Lib Registrations Relation

/-- The count is right and, if somebody waits, every seat is taken. -/
structure Fair (gathering : String) (limit : Int) (tables : Tables) : Prop where
  /-- The count. -/
  counted : Counted gathering (some limit) tables
  /-- Nobody waits beside a free seat. -/
  full : ∀ row, Waiting gathering tables.registrations row →
    (tables.registrations.seated gathering : Int) = limit

/-- A row that waits beside a new version that does not waited before. -/
theorem waiting_of_replace {registrations : RegistrationTable} {gathering : String}
    {old new row : Registration} (found : registrations.find? new.name = some old)
    (idle : new.registrationStatus ≠ .waitlisted)
    (waiting : Waiting gathering (registrations.replace new) row) :
    Waiting gathering registrations row := by
  obtain ⟨member, event, waits⟩ := waiting
  rcases (Table.mem_replace found).mp member with rfl | ⟨kept, -⟩
  · exact absurd waits idle
  · exact ⟨kept, event, waits⟩

/-- A row that waits after a claim waited before, or was waitlisted by a decision. -/
theorem ClaimStep.waiting {tables next : Tables} {gathering : String} {row : Registration}
    (step : ClaimStep tables next) (waiting : Waiting gathering next.registrations row) :
    Waiting gathering tables.registrations row ∨
      ∃ event, tables.gatherings gathering = some event ∧
        (capacityDecision event.registrationCapacity event.registeredCount).status =
          .waitlisted := by
  obtain ⟨member, event, waits⟩ := waiting
  cases step with
  | seat new insertable other found status decided =>
    rcases (Table.mem_add insertable.fresh).mp member with old | rfl
    · exact .inl ⟨old, event, waits⟩
    · rw [status] at waits
      cases waits
  | wait new insertable other found status decided =>
    rcases (Table.mem_add insertable.fresh).mp member with old | rfl
    · exact .inl ⟨old, event, waits⟩
    · exact .inr ⟨other, event ▸ found, decided⟩

/-- A row that waits after a cancellation waited before. -/
theorem CancelStep.waiting {tables next : Tables} {gathering : String} {row : Registration}
    (step : CancelStep tables next) (waiting : Waiting gathering next.registrations row) :
    Waiting gathering tables.registrations row := by
  cases step with
  | withdraw old new resaved before after =>
    exact waiting_of_replace resaved.found (by simp [after]) waiting
  | release old new resaved before after drained =>
    exact waiting_of_replace resaved.found (by simp [after]) waiting
  | promote old new chosen resaved before after found ofEvent waited senior =>
    have inner := waiting_of_replace (promoted_found found) (by simp) waiting
    exact waiting_of_replace resaved.found (by simp [after]) inner

/-- A row that waits after a step waited before, or was waitlisted by a decision. -/
theorem SeatStep.waiting {tables next : Tables} {gathering : String} {row : Registration}
    (step : SeatStep tables next) (waiting : Waiting gathering next.registrations row) :
    Waiting gathering tables.registrations row ∨
      ∃ event, tables.gatherings gathering = some event ∧
        (capacityDecision event.registrationCapacity event.registeredCount).status =
          .waitlisted := by
  cases step with
  | claim claim => exact claim.waiting waiting
  | cancel cancel => exact .inl (cancel.waiting waiting)
  | checkIn old new resaved before after =>
    exact .inl (waiting_of_replace resaved.found (by simp [after]) waiting)

/-- Every elementary step keeps the waitlist fair. -/
theorem Fair.step {gathering : String} {limit : Int} (positive : 0 < limit)
    {tables next : Tables} (fair : Fair gathering limit tables) (step : SeatStep tables next) :
    Fair gathering limit next := by
  have counted := fair.counted.step step
  refine ⟨counted, fun row waiting => ?_⟩
  obtain ⟨event, present, capacity, count⟩ := fair.counted.counter
  obtain ⟨delta, -, seats, -, freed⟩ := step.change present (by omega)
  have most := counted.limited limit rfl positive
  have grown : 0 ≤ delta := by
    by_contra shrunk
    exact freed (by omega) row waiting
  rcases step.waiting waiting with before | ⟨other, found, decided⟩
  · have full := fair.full row before
    omega
  · -- The row was waitlisted now, so the counter had reached the capacity.
    obtain rfl := Option.some.inj (present.symm.trans found)
    rw [capacity] at decided
    obtain ⟨reached, same, -, used⟩ := capacityDecision_waitlisted decided
    obtain rfl := Option.some.inj same
    omega

/-- The row holds a seat that it did not hold before. -/
def Takes (gathering : String) (before after : RegistrationTable) (row : Registration) : Prop :=
  row ∈ after.rows ∧ row.seatedFor gathering = true ∧
    ∀ old ∈ before.rows, old.name = row.name → old.seatedFor gathering = false

/-- A row kept from before does not take a seat. -/
theorem Takes.new {gathering : String} {before after : RegistrationTable} {row : Registration}
    (takes : Takes gathering before after row) : row ∉ before.rows := by
  intro kept
  have held := takes.2.1
  rw [takes.2.2 row kept rfl] at held
  cases held

/-- No claim gives a seat while somebody waits. -/
theorem Fair.claim_idle {gathering : String} {limit : Int} (positive : 0 < limit)
    {tables next : Tables} (fair : Fair gathering limit tables) (step : ClaimStep tables next)
    {waiter : Registration} (waiting : Waiting gathering tables.registrations waiter)
    {row : Registration} (member : row ∈ next.registrations.rows)
    (seated : row.seatedFor gathering = true) : row ∈ tables.registrations.rows := by
  obtain ⟨event, present, capacity, count⟩ := fair.counted.counter
  have full := fair.full waiter waiting
  cases step with
  | seat new insertable other found status decided =>
    rcases (Table.mem_add insertable.fresh).mp member with old | rfl
    · exact old
    · have here : row.gathering = gathering := by
        simp only [Registration.seatedFor, Bool.and_eq_true, decide_eq_true_eq] at seated
        exact seated.1
      rw [here] at found
      obtain rfl := Option.some.inj (present.symm.trans found)
      rw [capacity, capacityDecision_registered positive] at decided
      omega
  | wait new insertable other found status decided =>
    rcases (Table.mem_add insertable.fresh).mp member with old | rfl
    · exact old
    · simp [Registration.seatedFor, RegistrationStatus.seated, status] at seated

/-- A claim leaves the waiting rows waiting. -/
theorem ClaimStep.waits {gathering : String} {tables next : Tables}
    (step : ClaimStep tables next) {waiter : Registration}
    (waiting : Waiting gathering tables.registrations waiter) :
    Waiting gathering next.registrations waiter := by
  obtain ⟨member, event, waits⟩ := waiting
  cases step with
  | seat new insertable other found status decided =>
    exact ⟨(Table.mem_add insertable.fresh).mpr (.inl member), event, waits⟩
  | wait new insertable other found status decided =>
    exact ⟨(Table.mem_add insertable.fresh).mpr (.inl member), event, waits⟩

/-- No chain of claims gives a seat while somebody waits. -/
theorem Fair.claims_idle {gathering : String} {limit : Int} (positive : 0 < limit)
    {tables last : Tables} (fair : Fair gathering limit tables)
    (claims : ReflTransGen ClaimStep tables last) {waiter : Registration}
    (waiting : Waiting gathering tables.registrations waiter) {row : Registration}
    (takes : Takes gathering tables.registrations last.registrations row) : False := by
  let idle (middle : Tables) : Prop := Fair gathering limit middle ∧
    Waiting gathering middle.registrations waiter ∧
    ∀ row ∈ middle.registrations.rows, row.seatedFor gathering = true →
      row ∈ tables.registrations.rows
  have kept : idle last := by
    refine claims_keep idle ?_ claims ⟨fair, waiting, fun _ member _ => member⟩
    rintro middle next ⟨middleFair, middleWaiting, kept⟩ claim
    refine ⟨middleFair.step positive (.claim claim), claim.waits middleWaiting, ?_⟩
    intro row member seated
    exact kept row (middleFair.claim_idle positive claim middleWaiting member seated) seated
  exact takes.new (kept.2.2 row takes.1 takes.2.1)

/-- An elementary step gives a seat, while somebody waits, to a row that is not junior. -/
theorem Fair.takes_senior {gathering : String} {limit : Int} (positive : 0 < limit)
    {tables next : Tables} (fair : Fair gathering limit tables) (step : SeatStep tables next)
    {waiter : Registration} (waiting : Waiting gathering tables.registrations waiter)
    {row : Registration} (takes : Takes gathering tables.registrations next.registrations row) :
    row.seniority ≤ waiter.seniority := by
  have new := takes.new
  obtain ⟨member, seated, unseated⟩ := takes
  cases step with
  | claim claim => exact absurd (fair.claim_idle positive claim waiting member seated) new
  | cancel cancel =>
    cases cancel with
    | withdraw old changed resaved before after =>
      rcases (Table.mem_replace resaved.found).mp member with rfl | ⟨kept, -⟩
      · simp [Registration.seatedFor, RegistrationStatus.seated, after] at seated
      · exact absurd kept new
    | release old changed resaved before after drained =>
      rcases (Table.mem_replace resaved.found).mp member with rfl | ⟨kept, -⟩
      · simp [Registration.seatedFor, RegistrationStatus.seated, after] at seated
      · exact absurd kept new
    | promote old changed chosen resaved before after found ofEvent waited senior =>
      rcases (Table.mem_replace (promoted_found found)).mp member with rfl | ⟨inner, -⟩
      · -- The promoted row is the senior one of its event, and the waiter is of that event.
        have here : chosen.gathering = gathering := by
          simp only [Registration.seatedFor, Bool.and_eq_true, decide_eq_true_eq] at seated
          exact seated.1
        exact senior waiter waiting.member (waiting.event.trans (here.symm.trans ofEvent))
          waiting.waits
      · rcases (Table.mem_replace resaved.found).mp inner with rfl | ⟨kept, -⟩
        · simp [Registration.seatedFor, RegistrationStatus.seated, after] at seated
        · exact absurd kept new
  | checkIn old changed resaved before after =>
    rcases (Table.mem_replace resaved.found).mp member with rfl | ⟨kept, -⟩
    · -- A checked-in registration held its seat before.
      obtain ⟨inside, named⟩ := tables.registrations.find?_eq_some.mp resaved.found
      have free := unseated old inside named
      have sameEvent := resaved.same.gathering
      rcases before with before | before <;>
        simp_all [Registration.seatedFor, RegistrationStatus.seated]
    · exact absurd kept new

/-- A whole request gives a seat, while somebody waits, to a row that is not junior. -/
theorem Fair.perform_senior {gathering : String} {limit : Int} (positive : 0 < limit)
    {db : Database} (fair : Fair gathering limit db.toTables) (call : Call)
    {waiter : Registration} (waiting : Waiting gathering db.registrations waiter)
    {row : Registration}
    (takes : Takes gathering db.registrations (call.perform db).registrations row) :
    row.seniority ≤ waiter.seniority := by
  rcases perform_steps db call with claims | step
  · exact (fair.claims_idle positive claims waiting takes).elim
  · exact fair.takes_senior positive step waiting takes

/-- A cancellation that promotes has promoted the senior waiting row of the event. -/
theorem cancelRegistration_promotes {site : Site} {db next : Database} {registrationId : String}
    {receipt : CancelReceipt} {choice : WaitlistCandidate}
    (done : cancelRegistration site db registrationId = .ok (receipt, next))
    (promoted : receipt.promoted = some choice) :
    ∃ row, Waiting choice.gathering db.registrations row ∧ row.name = choice.name ∧
      (∀ other, Waiting choice.gathering db.registrations other →
        row.seniority ≤ other.seniority) ∧
      next.registrations.find? row.name = some { row with registrationStatus := .registered } := by
  unfold cancelRegistration at done
  obtain ⟨doc, read, done⟩ := bind_eq_ok_iff.mp done
  obtain ⟨found, -, -⟩ := cancelRegistrationRead_ok read
  unfold cancelRegistrationWrite at done
  obtain ⟨⟨stored, saved⟩, save, done⟩ := bind_eq_ok_iff.mp done
  obtain ⟨-, resaved, status, rfl⟩ := saveRegistration_ok save found ⟨rfl, rfl, rfl, rfl, rfl, rfl⟩
  by_cases seated : doc.registrationStatus = .registered
  · simp only [seated, if_true] at done
    rcases promoteOldestWaitlisted_cases (bumpRegisteredCount { db with
        registrations := db.registrations.replace stored
        clock := db.clock + 1 } stored.gathering (-1)) stored.gathering with
      ⟨idle, -⟩ | ⟨chosen, waiting, event, waits, senior, result⟩
    · rw [idle] at done
      obtain ⟨rfl, -⟩ := Prod.mk.inj (Except.ok.inj done)
      cases promoted
    · rw [result] at done
      obtain ⟨rfl, rfl⟩ := Prod.mk.inj (Except.ok.inj done)
      obtain rfl := Option.some.inj promoted
      have later : Table.find? (db.registrations.replace stored) chosen.name = some chosen := by
        simpa [bumpRegisteredCount] using waiting
      obtain ⟨inside, -⟩ := (db.registrations.replace stored).find?_eq_some.mp later
      have earlier : chosen ∈ db.registrations.rows := by
        rcases (Table.mem_replace resaved.found).mp inside with rfl | ⟨kept, -⟩
        · rw [status] at waits
          cases waits
        · exact kept
      refine ⟨chosen, ⟨earlier, event, waits⟩, rfl, ?_, ?_⟩
      · rintro other ⟨member, otherEvent, otherWaits⟩
        refine senior other ?_ otherEvent otherWaits
        have differs : other.name ≠ stored.name := by
          intro same
          obtain ⟨docInside, docName⟩ := db.registrations.find?_eq_some.mp resaved.found
          rw [db.registrations.eq_of_key member docInside (same.trans docName.symm), seated]
            at otherWaits
          cases otherWaits
        simpa [bumpRegisteredCount] using Table.mem_replace_of_ne member differs
      · simp only [emitCancelled_toTables, bumpRegisteredCount, bumpGatheringCount_toTables]
        exact Table.find?_replace_self (promoted_found later)
  · simp only [seated, if_false] at done
    obtain ⟨rfl, -⟩ := Prod.mk.inj (Except.ok.inj done)
    cases promoted

/-- In every state that whole requests reach from a gathering without rows under a positive
capacity: while somebody waits every seat is taken, every promotion selects the waiting row
that is first by time and name, and no request gives a seat to a row that is junior to one
that waits. -/
theorem waitlist_first_come_first_served (gathering : String) (event : Gathering) (limit : Int)
    (db : Database) (present : db.gatherings gathering = some event)
    (capacity : event.registrationCapacity = some limit) (positive : 0 < limit)
    (empty : ∀ row ∈ db.registrations.rows, row.gathering ≠ gathering)
    (zero : event.registeredCount = 0) (calls : List Call) :
    let state := runAll Call.perform db calls
    (∀ row, Waiting gathering state.registrations row →
      (state.registrations.seated gathering : Int) = limit) ∧
    (∀ site registrationId receipt next choice,
      cancelRegistration site state registrationId = .ok (receipt, next) →
      receipt.promoted = some choice →
      ∃ row, Waiting choice.gathering state.registrations row ∧ row.name = choice.name ∧
        (∀ other, Waiting choice.gathering state.registrations other →
          row.seniority ≤ other.seniority) ∧
        next.registrations.find? row.name =
          some { row with registrationStatus := .registered }) ∧
    ∀ (call : Call) (waiter row : Registration),
      Waiting gathering state.registrations waiter →
      Takes gathering state.registrations (call.perform state).registrations row →
      row.seniority ≤ waiter.seniority := by
  have initial : Fair gathering limit db.toTables := by
    refine ⟨capacity ▸ Counted.initial present empty zero, ?_⟩
    rintro row ⟨member, ofEvent, -⟩
    exact absurd ofEvent (empty row member)
  have fair := runAll_perform_keeps (fun _ _ held step => Fair.step positive held step) calls db
    initial
  refine ⟨fair.full, ?_, ?_⟩
  · intro site registrationId receipt next choice done promoted
    exact cancelRegistration_promotes done promoted
  · intro call waiter row waiting takes
    exact fair.perform_senior positive call waiting takes

/-- At the camp with one seat, Ben waits while Ann holds it. -/
theorem waitlist_first_come_first_served_camp :
    let state := runAll Call.perform campDatabase [joinCamp 1 "ann", joinCamp 2 "ben"]
    (∀ row, Waiting "camp" state.registrations row →
      (state.registrations.seated "camp" : Int) = 1) ∧
    (∀ site registrationId receipt next choice,
      cancelRegistration site state registrationId = .ok (receipt, next) →
      receipt.promoted = some choice →
      ∃ row, Waiting choice.gathering state.registrations row ∧ row.name = choice.name ∧
        (∀ other, Waiting choice.gathering state.registrations other →
          row.seniority ≤ other.seniority) ∧
        next.registrations.find? row.name =
          some { row with registrationStatus := .registered }) ∧
    ∀ (call : Call) (waiter row : Registration),
      Waiting "camp" state.registrations waiter →
      Takes "camp" state.registrations (call.perform state).registrations row →
      row.seniority ≤ waiter.seniority :=
  waitlist_first_come_first_served "camp" camp 1 campDatabase (by decide) (by decide) (by decide)
    (by decide) (by decide) _

end FlockOs.EventRegistration
