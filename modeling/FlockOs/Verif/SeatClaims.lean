import FlockOs.Verif.SeatStep
import Mathlib.Data.Fintype.EquivFin

/-!
# Claims of a seat

What the critical section stores for a member, and when it goes through: the row carries the event
and the member of the plan, with the status that the capacity decides.
-/

namespace FlockOs.EventRegistration

open Lib Registrations

/-- The verdict of the capacity of an event. -/
def Gathering.verdict (event : Gathering) : RegistrationStatus :=
  (capacityDecision event.registrationCapacity event.registeredCount).status

/-- What a claim that goes through stores. -/
structure Claimed (db : Database) (plan : RegisterPlan) (doc : Registration) (next : Database) :
    Prop where
  /-- The event of the plan. -/
  event : doc.gathering = plan.gathering
  /-- The member of the plan. -/
  member : doc.registrant = plan.registrant
  /-- The verdict of the event, and the new row. -/
  decided : ∃ event, ∃ insertable : Insertable db.toTables doc,
    db.gatherings plan.gathering = some event ∧ doc.registrationStatus = event.verdict ∧
    next.toTables = ⟨if event.verdict = .registered then
        bumped db.gatherings plan.gathering .registeredCount 1 else db.gatherings,
      db.registrations.add doc insertable.fresh, db.clock + 1⟩

/-- The verdict under the lock is the verdict of the event. -/
theorem authoritativeRegistrationStatus_ok {db : Database} {gathering : String}
    {status : RegistrationStatus} :
    authoritativeRegistrationStatus db gathering = .ok status ↔
      ∃ event, db.gatherings gathering = some event ∧ status = event.verdict := by
  unfold authoritativeRegistrationStatus
  cases found : db.gatherings gathering with
  | none => simp
  | some event =>
    constructor
    · intro same
      exact ⟨event, rfl, (Except.ok.inj same).symm⟩
    · intro ⟨other, same, decided⟩
      obtain rfl := Option.some.inj same
      rw [decided]
      rfl

/-- An inserted document keeps its member. -/
theorem insertRegistration_member {site : Site} {db next : Database} {doc stored : Registration}
    (done : insertRegistration site db doc = .ok (stored, next)) :
    stored.registrant = doc.registrant := by
  unfold insertRegistration at done
  obtain ⟨checked, valid, rest⟩ := bind_eq_ok_iff.mp done
  obtain ⟨_, mandatory, last⟩ := bind_eq_ok_iff.mp rest
  obtain ⟨⟨organization, registrantName, same⟩, _⟩ := validate_ok valid mandatory
  split at last
  · split at last
    · cases last
    · have drawn := (Prod.mk.inj (Except.ok.inj last)).1
      rw [← drawn, same]
  · cases last

/-- What the critical section stores. -/
theorem claimSeat_ok {site : Site} {db next : Database} {plan : RegisterPlan}
    {anchors : GatheringScope} {doc : Registration}
    (done : claimSeat site db plan anchors = .ok (doc, next)) : Claimed db plan doc next := by
  unfold claimSeat at done
  obtain ⟨status, decided, rest⟩ := bind_eq_ok_iff.mp done
  obtain ⟨⟨stored, inserted⟩, insertion, last⟩ := bind_eq_ok_iff.mp rest
  obtain ⟨storedStatus, storedEvent, insertable, written⟩ := insertRegistration_ok insertion
  have storedMember := insertRegistration_member insertion
  obtain ⟨event, found, verdict⟩ := authoritativeRegistrationStatus_ok.mp decided
  dsimp only at last
  by_cases seated : status = .registered
  · rw [if_pos seated] at last
    obtain ⟨drawn, after⟩ := Prod.mk.inj (Except.ok.inj last)
    rw [← drawn, ← after]
    refine ⟨storedEvent, storedMember, event, insertable, found, storedStatus.trans verdict, ?_⟩
    rw [if_pos (verdict.symm.trans seated), written]
    exact bumpGatheringCount_toTables _ _ _ _
  · rw [if_neg seated] at last
    obtain ⟨drawn, after⟩ := Prod.mk.inj (Except.ok.inj last)
    rw [← drawn, ← after]
    refine ⟨storedEvent, storedMember, event, insertable, found, storedStatus.trans verdict, ?_⟩
    rw [if_neg fun registered => seated (verdict.trans registered), written]

/-- A document that passes the checks is inserted under a new name, for a member without a row. -/
theorem insertRegistration_succeeds (site : Site) {db : Database} {doc : Registration}
    (storable : Storable db.toTables { doc with name := site.newName db, modified := db.clock })
    (fresh : site.newName db ∉ db.registrations.rows.map Registration.name)
    (apart : ∀ other ∈ db.registrations.rows,
      ¬ (other.gathering = doc.gathering ∧ other.registrant = doc.registrant)) :
    ∃ stored next, insertRegistration site db doc = .ok (stored, next) := by
  obtain ⟨checked, valid, mandatory⟩ := validate_succeeds site storable
  obtain ⟨⟨organization, registrantName, same⟩, _⟩ := validate_ok valid mandatory
  have unused : checked.name ∉ db.registrations.rows.map Registration.name := by
    rw [same]
    exact fresh
  have alone : (db.registrations.rows.any fun row =>
      decide (row.gathering = checked.gathering ∧ row.registrant = checked.registrant)) = false := by
    rw [List.any_eq_false]
    intro other member taken
    rw [same] at taken
    exact apart other member (of_decide_eq_true taken)
  refine ⟨checked, { db with
    registrations := db.registrations.add checked unused
    clock := db.clock + 1 }, ?_⟩
  unfold insertRegistration
  rw [valid]
  show (validateMandatory checked >>= _) = _
  rw [mandatory]
  show (if fresh : _ then _ else _ : Except Error (Registration × Database)) = _
  rw [dif_pos unused, if_neg (Bool.not_eq_true _ ▸ alone)]

/-- The critical section goes through for a member without a row whose document passes the
checks. -/
theorem claimSeat_succeeds (site : Site) {db : Database} {plan : RegisterPlan}
    {anchors : GatheringScope} {event : Gathering}
    (found : db.gatherings plan.gathering = some event)
    (storable : ∀ registrantName, Storable db.toTables
      { newRegistration plan anchors registrantName event.verdict with
        name := site.newName db
        modified := db.clock })
    (fresh : site.newName db ∉ db.registrations.rows.map Registration.name)
    (apart : ∀ other ∈ db.registrations.rows,
      ¬ (other.gathering = plan.gathering ∧ other.registrant = plan.registrant)) :
    ∃ doc next, claimSeat site db plan anchors = .ok (doc, next) := by
  have decided := authoritativeRegistrationStatus_ok.mpr ⟨event, found, rfl⟩
  obtain ⟨stored, inserted, insertion⟩ := insertRegistration_succeeds site
    (storable ((truthy (site.fullName plan.registrant)).getD "")) fresh apart
  unfold claimSeat
  rw [decided]
  show ∃ doc next, (insertRegistration site db _ >>= _) = Except.ok (doc, next)
  rw [insertion]
  show ∃ doc next, (if event.verdict = .registered then _ else _) = Except.ok (doc, next)
  split
  · exact ⟨_, _, rfl⟩
  · exact ⟨_, _, rfl⟩

/-- Who is let through the gates is answered with the row that is there, or planned for. -/
theorem gates_ok {site : Site} {db : Database} {gathering registrant registeredVia : String}
    {closed outside : Error} {verdict : RegisterReceipt ⊕ RegisterPlan}
    (read : (isRegistrationWindowOpen (registrationWindow db gathering) (.text site.now) >>=
      fun isOpen => if ¬ isOpen then .error closed else
        isMemberInScope registrant gathering (registrationWindow db gathering).scope
            (frappeRegistrationScopeGateway site db.toTables) >>=
          fun inScope => if ¬ inScope then .error outside else
            match existingRegistration db gathering registrant with
            | some existing => .ok (.inl ⟨existing.name, existing.registrationStatus, true⟩)
            | none => .ok (.inr ⟨gathering, registrant, registeredVia, site.now⟩)) =
      .ok verdict) :
    isRegistrationWindowOpen (registrationWindow db gathering) (.text site.now) = .ok true ∧
      isMemberInScope registrant gathering (registrationWindow db gathering).scope
        (frappeRegistrationScopeGateway site db.toTables) = .ok true ∧
      verdict = match existingRegistration db gathering registrant with
        | some existing => .inl ⟨existing.name, existing.registrationStatus, true⟩
        | none => .inr ⟨gathering, registrant, registeredVia, site.now⟩ := by
  obtain ⟨isOpen, window, afterWindow⟩ := bind_eq_ok_iff.mp read
  split at afterWindow
  · cases afterWindow
  · next opened =>
    obtain ⟨inScope, scope, afterScope⟩ := bind_eq_ok_iff.mp afterWindow
    split at afterScope
    · cases afterScope
    · next inside =>
      rw [not_not.mp opened] at window
      rw [not_not.mp inside] at scope
      refine ⟨window, scope, ?_⟩
      split at afterScope
      · exact (Except.ok.inj afterScope).symm
      · exact (Except.ok.inj afterScope).symm

/-- A request that is answered or planned for passed the gates with the member that it asks for. -/
theorem registerForEventRead_ok {site : Site} {db : Database} {gathering : String}
    {member : Option String} {registeredVia : String} {verdict : RegisterReceipt ⊕ RegisterPlan}
    (read : registerForEventRead site db gathering member registeredVia = .ok verdict) :
    ∃ registrant,
      ((truthy member).orElse fun _ => truthy (resolveRegistrantMember site)) = some registrant ∧
      isRegistrationWindowOpen (registrationWindow db gathering) (.text site.now) = .ok true ∧
      isMemberInScope registrant gathering (registrationWindow db gathering).scope
        (frappeRegistrationScopeGateway site db.toTables) = .ok true ∧
      verdict = match existingRegistration db gathering registrant with
        | some existing => .inl ⟨existing.name, existing.registrationStatus, true⟩
        | none => .inr ⟨gathering, registrant, registeredVia, site.now⟩ := by
  rw [registerForEventRead] at read
  split at read
  · cases read
  · split at read
    · cases read
    · next registrant resolved =>
      split at read
      · cases read
      · dsimp only at read
        split at read
        · obtain ⟨_, _, afterGuard⟩ := bind_eq_ok_iff.mp read
          exact ⟨registrant, resolved, gates_ok afterGuard⟩
        · exact ⟨registrant, resolved, gates_ok read⟩

/-- There is a text that is not empty and not one of the given ones. -/
theorem exists_fresh_text (texts : List String) : ∃ text, text ≠ "" ∧ text ∉ texts := by
  obtain ⟨text, new⟩ := Infinite.exists_notMem_finset (("" :: texts).toFinset)
  rw [List.mem_toFinset, List.mem_cons, not_or] at new
  exact ⟨text, new⟩

end FlockOs.EventRegistration
