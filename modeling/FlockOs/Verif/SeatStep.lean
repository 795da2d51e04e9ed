import FlockOs.EventRegistration
import FlockOs.Lib.Exec
import FlockOs.Lib.Runs
import Mathlib.Logic.Relation

/-!
# Elementary seat steps

What the registration endpoints can do to the two tables, as a relation with one constructor
for each kind of change: a member is seated or put on the waitlist, a registration without a
seat is cancelled, a seat is released with or without a promotion, a registration is checked
in. Every request is made of such steps (`perform_steps`), so an invariant of the tables is
proved once for each constructor and never looks into an endpoint again.
-/

namespace FlockOs.EventRegistration

open Lib Registrations Relation

/-- The gatherings with one counter of one gathering adjusted. -/
def bumped (gatherings : String → Option Gathering) (name : String) (field : CounterField)
    (delta : Int) : String → Option Gathering :=
  fun other => if other = name then (gatherings name).map (·.bump field delta)
    else gatherings other

/-- Two versions of one registration: a save may change the status, the denormalized texts
and the attendance link, but not who is registered for what and when. -/
structure SameEntry (old new : Registration) : Prop where
  /-- Same row. -/
  name : new.name = old.name
  /-- Same event. -/
  gathering : new.gathering = old.gathering
  /-- Same member. -/
  registrant : new.registrant = old.registrant
  /-- Same registration time. -/
  registeredAt : new.registeredAt = old.registeredAt
  /-- Same branch. -/
  branch : new.branch = old.branch
  /-- Same group. -/
  group : new.group = old.group

/-- A version of a registration is the same entry as itself. -/
theorem SameEntry.refl (row : Registration) : SameEntry row row :=
  ⟨rfl, rfl, rfl, rfl, rfl, rfl⟩

/-- A status change keeps the entry. -/
theorem SameEntry.withStatus (row : Registration) (status : RegistrationStatus) :
    SameEntry row { row with registrationStatus := status } :=
  ⟨rfl, rfl, rfl, rfl, rfl, rfl⟩

/-- The promoted row is found where the waiting row was. -/
theorem promoted_found {registrations : RegistrationTable}
    {chosen : Registration} (waiting : registrations.find? chosen.name = some chosen) :
    registrations.find? { chosen with registrationStatus := .registered : Registration }.name =
      some chosen :=
  waiting

/-- A row passes the checks of an insertion or a save. -/
structure Storable (tables : Tables) (row : Registration) : Prop where
  /-- The required fields are set. -/
  complete : missingFields row = []
  /-- The branch and the group are the gathering's own, when it has a branch. -/
  anchored : (truthy (tables.gatheringScope row.gathering).branch).isSome →
    (tables.gatheringScope row.gathering).branch = some row.branch ∧
      (tables.gatheringScope row.gathering).group = some row.group
  /-- The event is a one-time event, when its category is known. -/
  oneTime : ((tables.gatherings row.gathering).bind (truthy ·.eventCategory)).isSome →
    (tables.gatherings row.gathering).bind (truthy ·.eventCategory) = some "One-time"

/-- A row may be inserted: its name is new, its member has no row of its event, it passes the
checks, and it carries the next stamp. -/
structure Insertable (tables : Tables) (row : Registration) : Prop where
  /-- New name. -/
  fresh : row.name ∉ tables.registrations.rows.map Registration.name
  /-- New member of the event. -/
  apart : ∀ other ∈ tables.registrations.rows,
    ¬ (other.gathering = row.gathering ∧ other.registrant = row.registrant)
  /-- Passes the checks. -/
  storable : Storable tables row
  /-- The next stamp. -/
  stamp : row.modified = tables.clock

/-- A stored row may be saved in a new version with the next stamp. -/
structure Resaved (tables : Tables) (old new : Registration) : Prop where
  /-- The stored row. -/
  found : tables.registrations.find? new.name = some old
  /-- The same entry. -/
  same : SameEntry old new
  /-- The next stamp. -/
  stamp : new.modified = tables.clock

/-- A member claims a place of an event. -/
inductive ClaimStep : Tables → Tables → Prop where
  /-- A member is registered while a seat remains; the seat is counted. -/
  | seat {tables : Tables} (row : Registration) (insertable : Insertable tables row)
      (event : Gathering) (found : tables.gatherings row.gathering = some event)
      (status : row.registrationStatus = .registered)
      (decided : (capacityDecision event.registrationCapacity event.registeredCount).status =
        .registered) :
      ClaimStep tables ⟨bumped tables.gatherings row.gathering .registeredCount 1,
        tables.registrations.add row insertable.fresh, tables.clock + 1⟩
  /-- A member is waitlisted when no seat remains. -/
  | wait {tables : Tables} (row : Registration) (insertable : Insertable tables row)
      (event : Gathering) (found : tables.gatherings row.gathering = some event)
      (status : row.registrationStatus = .waitlisted)
      (decided : (capacityDecision event.registrationCapacity event.registeredCount).status =
        .waitlisted) :
      ClaimStep tables ⟨tables.gatherings, tables.registrations.add row insertable.fresh,
        tables.clock + 1⟩

/-- A registration is cancelled. -/
inductive CancelStep : Tables → Tables → Prop where
  /-- A registration without a seat is cancelled. -/
  | withdraw {tables : Tables} (old new : Registration) (resaved : Resaved tables old new)
      (before : old.registrationStatus = .waitlisted ∨ old.registrationStatus = .cancelled)
      (after : new.registrationStatus = .cancelled) :
      CancelStep tables ⟨tables.gatherings, tables.registrations.replace new, tables.clock + 1⟩
  /-- A seat is released and nobody waits for it. -/
  | release {tables : Tables} (old new : Registration) (resaved : Resaved tables old new)
      (before : old.registrationStatus = .registered)
      (after : new.registrationStatus = .cancelled)
      (drained : ∀ row ∈ tables.registrations.rows,
        ¬ (row.gathering = old.gathering ∧ row.registrationStatus = .waitlisted)) :
      CancelStep tables ⟨bumped tables.gatherings old.gathering .registeredCount (-1),
        tables.registrations.replace new, tables.clock + 1⟩
  /-- A seat is released and given to the senior waitlisted registration. -/
  | promote {tables : Tables} (old new chosen : Registration)
      (resaved : Resaved tables old new) (before : old.registrationStatus = .registered)
      (after : new.registrationStatus = .cancelled)
      (waiting : (tables.registrations.replace new).find? chosen.name = some chosen)
      (event : chosen.gathering = old.gathering)
      (waits : chosen.registrationStatus = .waitlisted)
      (senior : ∀ row ∈ tables.registrations.rows, row.gathering = old.gathering →
        row.registrationStatus = .waitlisted → chosen.seniority ≤ row.seniority) :
      CancelStep tables
        ⟨bumped (bumped tables.gatherings old.gathering .registeredCount (-1)) old.gathering
            .registeredCount 1,
          (tables.registrations.replace new).replace
            { chosen with registrationStatus := .registered },
          tables.clock + 1⟩

/-- One elementary change of the tables. -/
inductive SeatStep : Tables → Tables → Prop where
  /-- A member claims a place. -/
  | claim {tables next : Tables} (step : ClaimStep tables next) : SeatStep tables next
  /-- A registration is cancelled. -/
  | cancel {tables next : Tables} (step : CancelStep tables next) : SeatStep tables next
  /-- A registration is checked in, and the check-in counted. -/
  | checkIn {tables : Tables} (old new : Registration) (resaved : Resaved tables old new)
      (before : old.registrationStatus = .registered ∨ old.registrationStatus = .checkedIn)
      (after : new.registrationStatus = .checkedIn) :
      SeatStep tables ⟨bumped tables.gatherings old.gathering .checkedInCount 1,
        tables.registrations.replace new, tables.clock + 1⟩

@[simp] theorem emit_toTables (db : Database) (name : String)
    (payload scope : List (String × Value)) : (db.emit name payload scope).toTables = db.toTables :=
  rfl

/-- A bump changes one counter of one gathering and nothing else. -/
@[simp] theorem bumpGatheringCount_toTables (db : Database) (gathering : String)
    (field : CounterField) (delta : Int) :
    (bumpGatheringCount db gathering field delta).toTables =
      ⟨bumped db.gatherings gathering field delta, db.registrations, db.clock⟩ := by
  have unknown : db.gatherings gathering = none →
      bumped db.gatherings gathering field delta = db.gatherings := by
    intro missing
    funext other
    unfold bumped
    split
    · rename_i matched
      rw [matched, missing]
      rfl
    · rfl
  unfold bumpGatheringCount
  split
  · rename_i missing
    rw [unknown missing]
  · rename_i row found
    have same : Function.update db.gatherings gathering (some (row.bump field delta)) =
        bumped db.gatherings gathering field delta := by
      funext other
      unfold bumped
      by_cases matched : other = gathering
      · subst matched
        simp [found]
      · simp [matched]
    rw [← same]

@[simp] theorem emitClaimed_toTables (db : Database) (doc : Registration) :
    (emitClaimed db doc).toTables = db.toTables := by
  unfold emitClaimed
  split <;> rfl

@[simp] theorem emitCancelled_toTables (db : Database) (doc : Registration)
    (promoted : Option WaitlistCandidate) :
    (emitCancelled db doc promoted).toTables = db.toTables := by
  cases promoted <;> rfl

/-- Validation and the mandatory-field check let a document through with its texts filled in
and everything else kept, and what they let through passes the checks. -/
theorem validate_ok {site : Site} {tables : Tables} {doc checked : Registration} {done : Unit}
    (valid : validate site tables doc = .ok checked)
    (mandatory : validateMandatory checked = .ok done) :
    (∃ organization registrantName, checked =
      { doc with
        organization := organization
        registrantName := registrantName }) ∧
    Storable tables checked := by
  have complete : missingFields checked = [] := by
    unfold validateMandatory at mandatory
    split at mandatory
    · assumption
    · cases mandatory
  unfold validate at valid
  simp only at valid
  split at valid
  · cases valid
  · split at valid
    · cases valid
    · rename_i anchored
      split at valid
      · cases valid
      · rename_i oneTime
        obtain rfl := Except.ok.inj valid
        refine ⟨⟨_, _, rfl⟩, complete, fun known => ?_, fun known => ?_⟩
        · by_contra differs
          exact anchored ⟨known, by tauto⟩
        · by_contra differs
          exact oneTime ⟨known, differs⟩

/-- A document that passes the checks is let through. -/
theorem validate_succeeds (site : Site) {tables : Tables} {doc : Registration}
    (storable : Storable tables doc) :
    ∃ checked, validate site tables doc = .ok checked ∧
      validateMandatory checked = .ok () := by
  have branchSet : doc.branch ≠ "" := by
    intro empty
    have complete := storable.complete
    simp [missingFields, empty] at complete
  unfold validate
  simp only
  rw [if_neg branchSet, if_neg, if_neg]
  · refine ⟨_, rfl, ?_⟩
    have complete := storable.complete
    unfold validateMandatory
    split
    · rfl
    · rename_i field rest missing
      exact absurd (complete.symm.trans missing) (by simp)
  · rintro ⟨known, differs⟩
    exact differs (storable.oneTime known)
  · rintro ⟨known, differs⟩
    have agree := storable.anchored known
    tauto

/-- The checks look at the entry and at the gathering's anchors and category only. -/
theorem Storable.transfer {tables next : Tables} {old new : Registration}
    (storable : Storable tables old) (same : SameEntry old new)
    (anchors : next.gatheringScope old.gathering = tables.gatheringScope old.gathering)
    (category : (next.gatherings old.gathering).bind (truthy ·.eventCategory) =
      (tables.gatherings old.gathering).bind (truthy ·.eventCategory)) :
    Storable next new := by
  constructor
  · have complete := storable.complete
    unfold missingFields at complete ⊢
    rw [same.branch, same.group, same.gathering, same.registrant]
    exact complete
  · rw [same.gathering, same.branch, same.group, anchors]
    exact storable.anchored
  · rw [same.gathering, category]
    exact storable.oneTime

/-- A loaded document is the row under its name, which is the name asked for. -/
theorem getRegistration_ok {db : Database} {registrationId : String} {doc : Registration}
    (loaded : getRegistration db registrationId = .ok doc) :
    db.registrations.find? doc.name = some doc ∧ doc.name = registrationId := by
  unfold getRegistration at loaded
  split at loaded
  · cases loaded
  · rename_i row found
    obtain rfl := Except.ok.inj loaded
    have named := (db.registrations.find?_eq_some.mp found).2
    exact ⟨named ▸ found, named⟩

/-- The transition guard lets only valid transitions through. -/
theorem validateRegistrationTransition_ok {fromStatus toStatus : RegistrationStatus} {done : Unit}
    (valid : validateRegistrationTransition fromStatus toStatus = .ok done) :
    isValidRegistrationTransition fromStatus toStatus = true := by
  unfold validateRegistrationTransition at valid
  split at valid
  · assumption
  · cases valid

/-- A save replaces the row that is still the one read by a new version of it. -/
theorem saveRegistration_ok {site : Site} {db saved : Database}
    {doc stored current : Registration}
    (done : saveRegistration site db doc = .ok (stored, saved))
    (found : db.registrations.find? doc.name = some current) (same : SameEntry current doc) :
    current.modified = doc.modified ∧ Resaved db.toTables current stored ∧
      stored.registrationStatus = doc.registrationStatus ∧
      saved = { db with
        registrations := db.registrations.replace stored
        clock := db.clock + 1 } := by
  unfold saveRegistration at done
  simp only [getRegistration, found] at done
  obtain ⟨_, loaded, done⟩ := bind_eq_ok_iff.mp done
  obtain rfl := Except.ok.inj loaded
  split at done
  · cases done
  · rename_i unchanged
    obtain ⟨checked, valid, done⟩ := bind_eq_ok_iff.mp done
    obtain ⟨_, mandatory, done⟩ := bind_eq_ok_iff.mp done
    obtain ⟨⟨organization, registrantName, rfl⟩, -⟩ := validate_ok valid mandatory
    obtain ⟨rfl, rfl⟩ := Prod.mk.inj (Except.ok.inj done)
    exact ⟨not_not.mp unchanged,
      ⟨found, ⟨same.name, same.gathering, same.registrant, same.registeredAt, same.branch,
        same.group⟩, rfl⟩, rfl, rfl⟩

/-- A save of an unchanged row that passes the checks goes through. -/
theorem saveRegistration_succeeds (site : Site) {db : Database} {doc current : Registration}
    (found : db.registrations.find? doc.name = some current)
    (unchanged : current.modified = doc.modified) (storable : Storable db.toTables doc) :
    ∃ stored saved, saveRegistration site db doc = .ok (stored, saved) := by
  have stamped : Storable db.toTables { doc with modified := db.clock } :=
    storable.transfer ⟨rfl, rfl, rfl, rfl, rfl, rfl⟩ rfl rfl
  obtain ⟨checked, valid, mandatory⟩ := validate_succeeds site stamped
  refine ⟨checked, { db with
    registrations := db.registrations.replace checked
    clock := db.clock + 1 }, ?_⟩
  have loaded : getRegistration db doc.name = .ok current := by simp only [getRegistration, found]
  unfold saveRegistration
  rw [loaded]
  change (if current.modified ≠ doc.modified then _ else _) = _
  rw [if_neg (not_not.mpr unchanged), valid]
  change (validateMandatory checked >>= _) = _
  rw [mandatory]
  rfl

/-- An insertion adds the validated document under its new name. -/
theorem insertRegistration_ok {site : Site} {db next : Database} {doc stored : Registration}
    (done : insertRegistration site db doc = .ok (stored, next)) :
    stored.registrationStatus = doc.registrationStatus ∧ stored.gathering = doc.gathering ∧
    ∃ insertable : Insertable db.toTables stored,
      next = { db with
        registrations := db.registrations.add stored insertable.fresh
        clock := db.clock + 1 } := by
  unfold insertRegistration at done
  obtain ⟨checked, valid, done⟩ := bind_eq_ok_iff.mp done
  obtain ⟨_, mandatory, done⟩ := bind_eq_ok_iff.mp done
  obtain ⟨⟨organization, registrantName, rfl⟩, storable⟩ := validate_ok valid mandatory
  split at done
  · rename_i fresh
    split at done
    · cases done
    · rename_i apart
      obtain ⟨rfl, rfl⟩ := Prod.mk.inj (Except.ok.inj done)
      refine ⟨rfl, rfl, ⟨fresh, ?_, storable, rfl⟩, rfl⟩
      intro other member taken
      apply apart
      rw [List.any_eq_true]
      exact ⟨other, member, by simpa using taken⟩
  · cases done

/-- The critical section is one step that seats or waitlists the member. -/
theorem claimSeat_step {site : Site} {db next : Database} {plan : RegisterPlan}
    {anchors : GatheringScope} {doc : Registration}
    (done : claimSeat site db plan anchors = .ok (doc, next)) :
    ClaimStep db.toTables next.toTables := by
  unfold claimSeat at done
  obtain ⟨status, decided, done⟩ := bind_eq_ok_iff.mp done
  obtain ⟨⟨stored, inserted⟩, insertion, done⟩ := bind_eq_ok_iff.mp done
  obtain ⟨storedStatus, storedEvent, insertable, rfl⟩ := insertRegistration_ok insertion
  change stored.registrationStatus = status at storedStatus
  change stored.gathering = plan.gathering at storedEvent
  unfold authoritativeRegistrationStatus at decided
  split at decided
  · cases decided
  · rename_i event found
    have verdict := Except.ok.inj decided
    rw [← storedEvent] at found
    dsimp only at done
    split at done
    · rename_i seated
      obtain ⟨rfl, rfl⟩ := Prod.mk.inj (Except.ok.inj done)
      have step := ClaimStep.seat stored insertable event found (storedStatus.trans seated)
        (verdict.trans seated)
      simpa [bumpRegisteredCount, storedEvent] using step
    · rename_i unseated
      obtain ⟨rfl, rfl⟩ := Prod.mk.inj (Except.ok.inj done)
      have waits := (capacityDecision_status event.registrationCapacity
        event.registeredCount).resolve_left (fun seated => unseated (verdict.symm.trans seated))
      exact ClaimStep.wait stored insertable event found
        (storedStatus.trans (verdict.symm.trans waits)) waits

/-- The writing part of registering claims a place or changes nothing. -/
theorem registerForEventWrite_step {site : Site} {db next : Database} {plan : RegisterPlan}
    {receipt : RegisterReceipt}
    (done : registerForEventWrite site db plan = .ok (receipt, next)) :
    ReflGen ClaimStep db.toTables next.toTables := by
  unfold registerForEventWrite at done
  split at done
  · rename_i doc claimed claim
    obtain ⟨-, rfl⟩ := Prod.mk.inj (Except.ok.inj done)
    rw [emitClaimed_toTables]
    exact .single (claimSeat_step claim)
  · split at done
    · obtain ⟨-, rfl⟩ := Prod.mk.inj (Except.ok.inj done)
      exact .refl
    · cases done
  · cases done

/-- The promotion query finds nothing only when nobody waits. -/
theorem promotionCandidate_none {tables : Tables} {gathering : String}
    (none_found : promotionCandidate tables gathering = none) :
    ∀ row ∈ tables.registrations.rows,
      ¬ (row.gathering = gathering ∧ row.registrationStatus = .waitlisted) := by
  intro row member waits
  have waiting : row ∈ tables.waitlist gathering := by
    simpa [Tables.waitlist] using ⟨member, waits⟩
  cases first : (tables.waitlist gathering).argmin Registration.seniority with
  | none =>
    rw [List.argmin_eq_none.mp first] at waiting
    cases waiting
  | some chosen =>
    simp [promotionCandidate, first, selectWaitlistPromotionCandidate] at none_found

/-- The promotion query finds a senior waitlisted row of the gathering. -/
theorem promotionCandidate_some {tables : Tables} {gathering : String}
    {choice : WaitlistCandidate} (found : promotionCandidate tables gathering = some choice) :
    ∃ chosen ∈ tables.registrations.rows,
      choice = ⟨chosen.name, gathering, chosen.registrant, chosen.registeredAt⟩ ∧
      chosen.gathering = gathering ∧ chosen.registrationStatus = .waitlisted ∧
      ∀ row ∈ tables.registrations.rows, row.gathering = gathering →
        row.registrationStatus = .waitlisted → chosen.seniority ≤ row.seniority := by
  cases first : (tables.waitlist gathering).argmin Registration.seniority with
  | none => simp [promotionCandidate, first, selectWaitlistPromotionCandidate] at found
  | some chosen =>
    have listed : chosen ∈ tables.waitlist gathering := List.argmin_mem first
    obtain ⟨member, event, waits⟩ :
        chosen ∈ tables.registrations.rows ∧ chosen.gathering = gathering ∧
          chosen.registrationStatus = .waitlisted := by
      simpa [Tables.waitlist] using listed
    refine ⟨chosen, member, ?_, event, waits, fun row inside ofEvent waiting => ?_⟩
    · simpa [promotionCandidate, first, selectWaitlistPromotionCandidate] using found.symm
    · refine List.le_of_mem_argmin ?_ first
      simpa [Tables.waitlist] using ⟨inside, ofEvent, waiting⟩

/-- The promotion either finds nobody waiting, or registers a senior waitlisted row and counts
its seat. -/
theorem promoteOldestWaitlisted_cases (db : Database) (gathering : String) :
    (promoteOldestWaitlisted db gathering = (none, db) ∧
      ∀ row ∈ db.registrations.rows,
        ¬ (row.gathering = gathering ∧ row.registrationStatus = .waitlisted)) ∨
    ∃ chosen, db.registrations.find? chosen.name = some chosen ∧
      chosen.gathering = gathering ∧ chosen.registrationStatus = .waitlisted ∧
      (∀ row ∈ db.registrations.rows, row.gathering = gathering →
        row.registrationStatus = .waitlisted → chosen.seniority ≤ row.seniority) ∧
      promoteOldestWaitlisted db gathering =
        (some ⟨chosen.name, gathering, chosen.registrant, chosen.registeredAt⟩,
          bumpRegisteredCount { db with
            registrations := db.registrations.replace
              { chosen with registrationStatus := .registered } } gathering 1) := by
  unfold promoteOldestWaitlisted
  cases search : promotionCandidate db.toTables gathering with
  | none => exact .inl ⟨rfl, promotionCandidate_none search⟩
  | some choice =>
    obtain ⟨chosen, member, rfl, event, waits, senior⟩ := promotionCandidate_some search
    have found : db.registrations.find? chosen.name = some chosen :=
      db.registrations.find?_eq_some.mpr ⟨member, rfl⟩
    refine .inr ⟨chosen, found, event, waits, senior, ?_⟩
    simp [promoteRow, found, waits]

/-- Cancelling a document read without a seat changes its row only. -/
theorem cancelRegistrationWrite_unseated {site : Site} {db next : Database}
    {doc current : Registration} {receipt : CancelReceipt}
    (found : db.registrations.find? doc.name = some current) (same : SameEntry current doc)
    (unseated : doc.registrationStatus ≠ .registered)
    (done : cancelRegistrationWrite site db doc = .ok (receipt, next)) :
    ∃ stored, Resaved db.toTables current stored ∧ stored.registrationStatus = .cancelled ∧
      next.toTables = ⟨db.gatherings, db.registrations.replace stored, db.clock + 1⟩ := by
  unfold cancelRegistrationWrite at done
  obtain ⟨⟨stored, saved⟩, save, done⟩ := bind_eq_ok_iff.mp done
  obtain ⟨-, resaved, status, rfl⟩ := saveRegistration_ok save found
    ⟨same.name, same.gathering, same.registrant, same.registeredAt, same.branch, same.group⟩
  simp only [unseated, if_false] at done
  obtain ⟨-, rfl⟩ := Prod.mk.inj (Except.ok.inj done)
  exact ⟨stored, resaved, status, rfl⟩

/-- Cancelling a document read with a seat releases the seat, and promotes a senior
waitlisted row if there is one. -/
theorem cancelRegistrationWrite_seated {site : Site} {db next : Database}
    {doc current : Registration} {receipt : CancelReceipt}
    (found : db.registrations.find? doc.name = some current) (same : SameEntry current doc)
    (held : current.registrationStatus = .registered)
    (seated : doc.registrationStatus = .registered)
    (done : cancelRegistrationWrite site db doc = .ok (receipt, next)) :
    CancelStep db.toTables next.toTables := by
  unfold cancelRegistrationWrite at done
  obtain ⟨⟨stored, saved⟩, save, done⟩ := bind_eq_ok_iff.mp done
  obtain ⟨-, resaved, status, rfl⟩ := saveRegistration_ok save found
    ⟨same.name, same.gathering, same.registrant, same.registeredAt, same.branch, same.group⟩
  have storedEvent : stored.gathering = current.gathering := resaved.same.gathering
  have others : ∀ row ∈ db.registrations.rows, row.registrationStatus = .waitlisted →
      row ∈ (db.registrations.replace stored).rows := by
    intro row member waits
    refine (Table.mem_replace resaved.found).mpr (.inr ⟨member, fun matched => ?_⟩)
    obtain ⟨inside, named⟩ := db.registrations.find?_eq_some.mp resaved.found
    rw [db.registrations.eq_of_key member inside (matched.trans named.symm), held] at waits
    cases waits
  simp only [seated, if_true] at done
  rcases promoteOldestWaitlisted_cases (bumpRegisteredCount { db with
      registrations := db.registrations.replace stored
      clock := db.clock + 1 } stored.gathering (-1)) stored.gathering with
    ⟨idle, drained⟩ | ⟨chosen, waiting, event, waits, senior, promoted⟩
  · have step := CancelStep.release current stored resaved held status
      (fun row member waits => drained row
        (by simpa [bumpRegisteredCount] using others row member waits.2)
        ⟨waits.1.trans storedEvent.symm, waits.2⟩)
    rw [idle] at done
    obtain ⟨-, rfl⟩ := Prod.mk.inj (Except.ok.inj done)
    simpa [bumpRegisteredCount, storedEvent] using step
  · have step := CancelStep.promote current stored chosen resaved held status
      (by simpa [bumpRegisteredCount] using waiting) (event.trans storedEvent) waits
      (fun row member ofEvent waitsToo => senior row
        (by simpa [bumpRegisteredCount] using others row member waitsToo)
        (ofEvent.trans storedEvent.symm) waitsToo)
    rw [promoted] at done
    obtain ⟨-, rfl⟩ := Prod.mk.inj (Except.ok.inj done)
    simpa [bumpRegisteredCount, storedEvent] using step

/-- Cancelling a document whose row still has the status read is one step. -/
theorem cancelRegistrationWrite_step {site : Site} {db next : Database}
    {doc current : Registration} {receipt : CancelReceipt}
    (found : db.registrations.find? doc.name = some current) (same : SameEntry current doc)
    (agree : doc.registrationStatus = current.registrationStatus)
    (valid : isValidRegistrationTransition doc.registrationStatus .cancelled = true)
    (done : cancelRegistrationWrite site db doc = .ok (receipt, next)) :
    CancelStep db.toTables next.toTables := by
  by_cases seated : doc.registrationStatus = .registered
  · exact cancelRegistrationWrite_seated found same (agree.symm.trans seated) seated done
  · have before : current.registrationStatus = .waitlisted ∨
        current.registrationStatus = .cancelled := by
      rw [← agree]
      revert valid seated
      cases doc.registrationStatus <;> decide
    obtain ⟨stored, resaved, status, changed⟩ :=
      cancelRegistrationWrite_unseated found same seated done
    rw [changed]
    exact .withdraw current stored resaved before status

/-- Checking in a document changes its row and counts the check-in. -/
theorem checkInRegistrationWrite_ok {site : Site} {db next : Database}
    {doc current : Registration} {attendanceRef : Option String}
    {receipt : String × RegistrationStatus}
    (found : db.registrations.find? doc.name = some current) (same : SameEntry current doc)
    (done : checkInRegistrationWrite site db doc attendanceRef = .ok (receipt, next)) :
    ∃ stored, Resaved db.toTables current stored ∧ stored.registrationStatus = .checkedIn ∧
      next.toTables = ⟨bumped db.gatherings current.gathering .checkedInCount 1,
        db.registrations.replace stored, db.clock + 1⟩ := by
  unfold checkInRegistrationWrite at done
  obtain ⟨⟨stored, saved⟩, save, done⟩ := bind_eq_ok_iff.mp done
  obtain ⟨-, resaved, status, rfl⟩ := saveRegistration_ok save found
    ⟨same.name, same.gathering, same.registrant, same.registeredAt, same.branch, same.group⟩
  obtain ⟨-, rfl⟩ := Prod.mk.inj (Except.ok.inj done)
  exact ⟨stored, resaved, status, by simp [resaved.same.gathering]⟩

/-- Checking in a document whose row still has the status read is one step. -/
theorem checkInRegistrationWrite_step {site : Site} {db next : Database}
    {doc current : Registration} {attendanceRef : Option String}
    {receipt : String × RegistrationStatus}
    (found : db.registrations.find? doc.name = some current) (same : SameEntry current doc)
    (agree : doc.registrationStatus = current.registrationStatus)
    (valid : isValidRegistrationTransition doc.registrationStatus .checkedIn = true)
    (done : checkInRegistrationWrite site db doc attendanceRef = .ok (receipt, next)) :
    SeatStep db.toTables next.toTables := by
  obtain ⟨stored, resaved, status, changed⟩ := checkInRegistrationWrite_ok found same done
  have before : current.registrationStatus = .registered ∨
      current.registrationStatus = .checkedIn := by
    rw [← agree]
    revert valid
    cases doc.registrationStatus <;> decide
  rw [changed]
  exact .checkIn current stored resaved before status

/-- A document that the reading part of a cancellation returns is the row asked for, and its
status may move to cancelled. -/
theorem cancelRegistrationRead_ok {site : Site} {db : Database} {registrationId : String}
    {doc : Registration} (done : cancelRegistrationRead site db registrationId = .ok doc) :
    db.registrations.find? doc.name = some doc ∧ doc.name = registrationId ∧
      isValidRegistrationTransition doc.registrationStatus .cancelled = true := by
  unfold cancelRegistrationRead at done
  split at done
  · cases done
  · obtain ⟨loaded, load, done⟩ := bind_eq_ok_iff.mp done
    obtain ⟨_, valid, done⟩ := bind_eq_ok_iff.mp done
    obtain ⟨_, _, done⟩ := bind_eq_ok_iff.mp done
    obtain rfl := Except.ok.inj done
    obtain ⟨found, named⟩ := getRegistration_ok load
    exact ⟨found, named, validateRegistrationTransition_ok valid⟩

/-- The same for a check-in. -/
theorem checkInRegistrationRead_ok {site : Site} {db : Database} {registrationId : String}
    {doc : Registration} (done : checkInRegistrationRead site db registrationId = .ok doc) :
    db.registrations.find? doc.name = some doc ∧ doc.name = registrationId ∧
      isValidRegistrationTransition doc.registrationStatus .checkedIn = true := by
  unfold checkInRegistrationRead at done
  split at done
  · cases done
  · obtain ⟨loaded, load, done⟩ := bind_eq_ok_iff.mp done
    obtain ⟨_, valid, done⟩ := bind_eq_ok_iff.mp done
    obtain ⟨_, _, done⟩ := bind_eq_ok_iff.mp done
    obtain rfl := Except.ok.inj done
    obtain ⟨found, named⟩ := getRegistration_ok load
    exact ⟨found, named, validateRegistrationTransition_ok valid⟩

/-- One member of a batch claims a place, is passed over, or rolls the job back to its start. -/
theorem processBulkMember_steps {site : Site} {start : Database} {gathering via : String}
    {anchors : GatheringScope} {state next : BulkTally × Database} {member : String}
    (reached : ReflTransGen ClaimStep start.toTables state.2.toTables)
    (done : processBulkMember site start gathering via anchors state member = .ok next) :
    ReflTransGen ClaimStep start.toTables next.2.toTables := by
  obtain ⟨tally, db⟩ := state
  simp only [processBulkMember] at done
  split at done
  · obtain rfl := Except.ok.inj done
    exact reached
  · split at done
    · obtain rfl := Except.ok.inj done
      exact reached
    · split at done
      · rename_i doc claimed claim
        have step := claimSeat_step claim
        rw [← emitClaimed_toTables claimed doc] at step
        split at done
        · obtain rfl := Except.ok.inj done
          exact reached.tail step
        · obtain rfl := Except.ok.inj done
          exact reached.tail step
      · obtain rfl := Except.ok.inj done
        exact .refl
      · cases done

/-- The members of a batch, one after the other, claim places one after the other. -/
theorem processBulkMembers_steps {site : Site} {start : Database} {gathering via : String}
    {anchors : GatheringScope} :
    ∀ (members : List String) (state last : BulkTally × Database),
      ReflTransGen ClaimStep start.toTables state.2.toTables →
      members.foldlM (processBulkMember site start gathering via anchors) state = .ok last →
      ReflTransGen ClaimStep start.toTables last.2.toTables
  | [], state, last, reached, done => by
    obtain rfl := Except.ok.inj done
    exact reached
  | member :: rest, state, last, reached, done => by
    rw [List.foldlM_cons] at done
    obtain ⟨next, first, done⟩ := bind_eq_ok_iff.mp done
    exact processBulkMembers_steps rest next last (processBulkMember_steps reached first) done

/-- The whole batch claims places one after the other. -/
theorem processBulkBatch_steps {site : Site} {db next : Database} {gathering via jobId : String}
    {members : List String} {index total : Nat} {tally : BulkTally}
    (done : processBulkBatch site db gathering members via jobId index total =
      .ok (tally, next)) :
    ReflTransGen ClaimStep db.toTables next.toTables := by
  unfold processBulkBatch at done
  obtain ⟨⟨last, filled⟩, loop, done⟩ := bind_eq_ok_iff.mp done
  have steps : ReflTransGen ClaimStep db.toTables filled.toTables :=
    processBulkMembers_steps members ({}, db) (last, filled) .refl loop
  dsimp only at done
  split at done
  · obtain ⟨-, rfl⟩ := Prod.mk.inj (Except.ok.inj done)
    exact steps
  · obtain ⟨-, rfl⟩ := Prod.mk.inj (Except.ok.inj done)
    exact steps

/-- A request other than a check-in claims places one after the other, or cancels. -/
theorem perform_claims_or_cancels (db : Database) (call : Call)
    (other : ∀ site registrationId attendanceRef,
      call ≠ .checkIn site registrationId attendanceRef) :
    ReflTransGen ClaimStep db.toTables (call.perform db).toTables ∨
      CancelStep db.toTables (call.perform db).toTables := by
  unfold Call.perform committed
  cases call with
  | register site gathering member via =>
    left
    dsimp only
    split
    · rename_i receipt next done
      unfold registerForEvent at done
      obtain ⟨verdict, _, done⟩ := bind_eq_ok_iff.mp done
      cases verdict with
      | inl existing =>
        obtain ⟨-, rfl⟩ := Prod.mk.inj (Except.ok.inj done)
        exact .refl
      | inr plan => exact (registerForEventWrite_step done).to_reflTransGen
    · exact .refl
  | cancel site registrationId =>
    dsimp only
    split
    · rename_i receipt next done
      unfold cancelRegistration at done
      obtain ⟨doc, read, done⟩ := bind_eq_ok_iff.mp done
      obtain ⟨found, -, valid⟩ := cancelRegistrationRead_ok read
      exact .inr (cancelRegistrationWrite_step found (.refl doc) rfl valid done)
    · exact .inl .refl
  | checkIn site registrationId attendanceRef =>
    exact absurd rfl (other site registrationId attendanceRef)
  | bulk site gathering members via jobId index total =>
    left
    dsimp only
    split
    · rename_i tally next done
      exact processBulkBatch_steps done
    · exact .refl

/-- A check-in that goes through changes the row that it read and counts the check-in. -/
theorem checkInRegistration_ok {site : Site} {db next : Database} {registrationId : String}
    {attendanceRef : Option String} {receipt : String × RegistrationStatus}
    (done : checkInRegistration site db registrationId attendanceRef = .ok (receipt, next)) :
    ∃ doc stored, checkInRegistrationRead site db registrationId = .ok doc ∧
      Resaved db.toTables doc stored ∧ stored.registrationStatus = .checkedIn ∧
      next.toTables = ⟨bumped db.gatherings doc.gathering .checkedInCount 1,
        db.registrations.replace stored, db.clock + 1⟩ := by
  unfold checkInRegistration at done
  obtain ⟨doc, read, done⟩ := bind_eq_ok_iff.mp done
  obtain ⟨found, -, valid⟩ := checkInRegistrationRead_ok read
  obtain ⟨stored, resaved, status, changed⟩ := checkInRegistrationWrite_ok found (.refl doc) done
  exact ⟨doc, stored, read, resaved, status, changed⟩

/-- A request performed as a whole claims places one after the other, or makes one step. -/
theorem perform_steps (db : Database) (call : Call) :
    ReflTransGen ClaimStep db.toTables (call.perform db).toTables ∨
      SeatStep db.toTables (call.perform db).toTables := by
  by_cases other : ∀ site registrationId attendanceRef,
      call ≠ .checkIn site registrationId attendanceRef
  · rcases perform_claims_or_cancels db call other with claims | cancel
    · exact .inl claims
    · exact .inr (.cancel cancel)
  · simp only [not_forall, not_not] at other
    obtain ⟨site, registrationId, attendanceRef, rfl⟩ := other
    simp only [Call.perform, committed]
    split
    · rename_i receipt next done
      unfold checkInRegistration at done
      obtain ⟨doc, read, done⟩ := bind_eq_ok_iff.mp done
      obtain ⟨found, -, valid⟩ := checkInRegistrationRead_ok read
      exact .inr (checkInRegistrationWrite_step found (.refl doc) rfl valid done)
    · exact .inl .refl

/-- A property that every claim keeps is kept by a chain of claims. -/
theorem claims_keep (holds : Tables → Prop) {tables last : Tables}
    (kept : ∀ tables next, holds tables → ClaimStep tables next → holds next)
    (claims : ReflTransGen ClaimStep tables last) (initial : holds tables) : holds last := by
  induction claims with
  | refl => exact initial
  | tail _ claim ih => exact kept _ _ ih claim

/-- A property that every elementary step keeps is kept by every request. -/
theorem perform_keeps {holds : Tables → Prop}
    (kept : ∀ tables next, holds tables → SeatStep tables next → holds next) (db : Database)
    (call : Call) (initial : holds db.toTables) : holds (call.perform db).toTables := by
  rcases perform_steps db call with claims | step
  · exact claims_keep holds (fun _ _ held claim => kept _ _ held (.claim claim)) claims initial
  · exact kept _ _ initial step

/-- A property that every elementary step keeps holds after every sequence of requests. -/
theorem runAll_perform_keeps {holds : Tables → Prop}
    (kept : ∀ tables next, holds tables → SeatStep tables next → holds next)
    (calls : List Call) (db : Database) (initial : holds db.toTables) :
    holds (runAll Call.perform db calls).toTables :=
  runAll_invariant (fun db => holds db.toTables)
    (fun db call held => perform_keeps kept db call held) calls db initial

/-- The rows of a gathering pass the checks of a save. -/
def StorableRows (gathering : String) (tables : Tables) : Prop :=
  ∀ row ∈ tables.registrations.rows, row.gathering = gathering → Storable tables row

/-- A bump keeps the columns that the checks look at. -/
theorem bumped_storable {gatherings : String → Option Gathering}
    {registrations next : RegistrationTable} {clock later : Nat} {row : Registration}
    (name : String) (field : CounterField) (delta : Int)
    (storable : Storable ⟨gatherings, registrations, clock⟩ row) :
    Storable ⟨bumped gatherings name field delta, next, later⟩ row := by
  by_cases here : row.gathering = name
  · refine storable.transfer (.refl row) ?_ ?_ <;>
      simp only [Tables.gatheringScope, bumped, here, if_true] <;>
      cases gatherings name <;> cases field <;> rfl
  · refine storable.transfer (.refl row) ?_ ?_ <;>
      simp only [Tables.gatheringScope, bumped, here, if_false]

/-- Insertions keep the rows storable. -/
theorem StorableRows.add {gathering : String} {tables : Tables}
    (storable : StorableRows gathering tables) {row : Registration}
    (insertable : Insertable tables row) :
    StorableRows gathering ⟨tables.gatherings, tables.registrations.add row insertable.fresh,
      tables.clock + 1⟩ := by
  intro other member event
  rcases (Table.mem_add insertable.fresh).mp member with old | rfl
  · exact (storable other old event).transfer (.refl other) rfl rfl
  · exact insertable.storable.transfer (.refl other) rfl rfl

/-- Saves and promotions keep the rows storable. -/
theorem StorableRows.replace {gathering : String} {tables : Tables}
    (storable : StorableRows gathering tables) {old new : Registration} (clock : Nat)
    (found : tables.registrations.find? new.name = some old) (same : SameEntry old new) :
    StorableRows gathering ⟨tables.gatherings, tables.registrations.replace new, clock⟩ := by
  intro other member event
  rcases (Table.mem_replace found).mp member with rfl | ⟨kept, -⟩
  · have inside := (tables.registrations.find?_eq_some.mp found).1
    exact (storable old inside (same.gathering.symm.trans event)).transfer same rfl rfl
  · exact (storable other kept event).transfer (.refl other) rfl rfl

/-- Bumps keep the rows storable. -/
theorem StorableRows.bump {gathering : String} {gatherings : String → Option Gathering}
    {registrations : RegistrationTable} {clock : Nat}
    (storable : StorableRows gathering ⟨gatherings, registrations, clock⟩) (name : String)
    (field : CounterField) (delta : Int) :
    StorableRows gathering ⟨bumped gatherings name field delta, registrations, clock⟩ :=
  fun row member event => bumped_storable name field delta (storable row member event)

/-- Every elementary step keeps the rows storable. -/
theorem StorableRows.step {gathering : String} {tables next : Tables}
    (storable : StorableRows gathering tables) (step : SeatStep tables next) :
    StorableRows gathering next := by
  cases step with
  | claim claim =>
    cases claim with
    | seat row insertable event found status decided =>
      exact (storable.add insertable).bump _ _ _
    | wait row insertable event found status decided => exact storable.add insertable
  | cancel cancel =>
    cases cancel with
    | withdraw old new resaved before after =>
      exact storable.replace _ resaved.found resaved.same
    | release old new resaved before after drained =>
      exact (storable.replace _ resaved.found resaved.same).bump _ _ _
    | promote old new chosen resaved before after waiting event waits senior =>
      have cancelled := storable.replace (tables.clock + 1) resaved.found resaved.same
      have promoted := cancelled.replace (tables.clock + 1) (promoted_found waiting)
        (.withStatus chosen .registered)
      exact (promoted.bump _ _ _).bump _ _ _
  | checkIn old new resaved before after =>
    exact (storable.replace _ resaved.found resaved.same).bump _ _ _

end FlockOs.EventRegistration
