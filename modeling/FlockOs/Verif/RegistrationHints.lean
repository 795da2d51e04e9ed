import FlockOs.RegistrationHints
import FlockOs.Verif.SeatClaims
import FlockOs.Verif.Seats

/-!
# The reader's answer and the seat

The eligibility and the dashboard look at the capacity of the gathering, the decision under the lock
at its registration capacity. What the reader is told is what registering does exactly where the two
columns lie on the same side of the seat counter.
-/

namespace FlockOs.EventRegistration

open Lib Registrations

section Hints

variable {site : Site} {db : Database} {gathering : String}

/-- Registration is open and the member is in its scope. -/
def PassesGates (site : Site) (db : Database) (gathering registrant : String) : Prop :=
  isRegistrationWindowOpen (registrationWindow db gathering) (.text site.now) = .ok true ∧
    isMemberInScope registrant gathering (registrationWindow db gathering).scope
      (frappeRegistrationScopeGateway site db.toTables) = .ok true

/-- Registration for the event has no limit. -/
def Uncapped (event : Gathering) : Prop :=
  ∀ limit, event.registrationCapacity = some limit → limit ≤ 0

/-- What the reader is told is what registering does. -/
structure Told (site : Site) (db : Database) (gathering : String) (event : Gathering)
    (hint : EligibilityHint) (board : RegistrationDashboard) : Prop where
  /-- Full when the member would be waitlisted. -/
  atCapacity : hint.atCapacity = true ↔ event.verdict = .waitlisted
  /-- Eligible when the member would be registered. -/
  eligible : hint.eligible = true ↔
    PassesGates site db gathering hint.member ∧ event.verdict = .registered
  /-- No seat remains when the member would be waitlisted. -/
  full : board.seatsRemaining = some 0 ↔ event.verdict = .waitlisted
  /-- No number of seats when there is no limit. -/
  unlimited : board.seatsRemaining = none ↔ Uncapped event

/-- Neither column limits the event, or both do and the seat counter has reached both or neither. -/
def Matched (event : Gathering) : Prop :=
  (event.capacity = none ∧ Uncapped event) ∨
    ∃ capacity limit, event.capacity = some capacity ∧
      event.registrationCapacity = some limit ∧ 0 < limit ∧
      ((limit ≤ event.registeredCount ∧ 0 < capacity ∧ capacity ≤ event.registeredCount) ∨
        (event.registeredCount < limit ∧ event.registeredCount < capacity))

/-- A member would be waitlisted when a limit is reached. -/
theorem verdict_waitlisted_iff {event : Gathering} : event.verdict = .waitlisted ↔
    ∃ limit, event.registrationCapacity = some limit ∧ 0 < limit ∧
      limit ≤ event.registeredCount := by
  rw [Gathering.verdict]
  constructor
  · exact capacityDecision_waitlisted
  · intro ⟨limit, capacity, positive, reached⟩
    rw [capacity, capacityDecision, if_neg (not_le.mpr positive), if_neg (not_lt.mpr reached)]

/-- A member would be registered when the member would not be waitlisted. -/
theorem verdict_registered_iff {event : Gathering} :
    event.verdict = .registered ↔ ¬ event.verdict = .waitlisted := by
  have decided := capacityDecision_status event.registrationCapacity event.registeredCount
  rw [← Gathering.verdict] at decided
  cases decided with
  | inl seated => simp [seated]
  | inr waits => simp [waits]

/-- The parts of an answer about a member. -/
theorem eligibilityOf_ok {registrant : String} {hint : EligibilityHint}
    (told : eligibilityOf site db gathering registrant = .ok hint) :
    ∃ windowOpen inScope,
      isRegistrationWindowOpen (registrationWindow db gathering) (.text site.now) =
        .ok windowOpen ∧
      isMemberInScope registrant gathering (registrationWindow db gathering).scope
        (frappeRegistrationScopeGateway site db.toTables) = .ok inScope ∧
      hint.member = registrant ∧
      hint.atCapacity = isCapacityFull (registrationWindow db gathering).capacity
        (registrationWindow db gathering).registeredCount ∧
      hint.eligible = (windowOpen && inScope && !hint.atCapacity) := by
  rw [eligibilityOf] at told
  obtain ⟨windowOpen, window, afterWindow⟩ := bind_eq_ok_iff.mp told
  obtain ⟨inScope, scope, afterScope⟩ := bind_eq_ok_iff.mp afterWindow
  obtain ⟨reason, _, answered⟩ := bind_eq_ok_iff.mp afterScope
  cases answered
  exact ⟨windowOpen, inScope, window, scope, rfl, rfl, rfl⟩

/-- The member that an answer is about. -/
theorem getRegistrationEligibility_ok {member : Option String} {hint : EligibilityHint}
    (told : getRegistrationEligibility site db gathering member = .ok (.verdict hint)) :
    ((truthy member).orElse fun _ => truthy (resolveRegistrantMember site)) = some hint.member ∧
      eligibilityOf site db gathering hint.member = .ok hint := by
  rw [getRegistrationEligibility] at told
  split at told
  · cases told
  · split at told
    · cases told
    · next registrant resolved =>
      obtain ⟨answer, found, same⟩ := bind_eq_ok_iff.mp told
      cases same
      obtain ⟨_, _, _, _, about, _⟩ := eligibilityOf_ok found
      rw [about]
      exact ⟨resolved, found⟩

/-- The seats that the dashboard shows. -/
theorem getRegistrationDashboard_ok {board : RegistrationDashboard} {event : Gathering}
    (found : db.gatherings gathering = some event)
    (shown : getRegistrationDashboard site db gathering = .ok board) :
    board.seatsRemaining =
      event.capacity.map fun capacity => max (capacity - event.registeredCount) 0 := by
  rw [getRegistrationDashboard] at shown
  split at shown
  · cases shown
  · obtain ⟨_, _, answered⟩ := bind_eq_ok_iff.mp shown
    cases answered
    rw [found]
    rfl

/-- A member without a row who is registered passed the gates, and has the status of the verdict. -/
theorem registerForEvent_fresh {member : Option String} {registrant via : String}
    {receipt : RegisterReceipt} {next : Database} {event : Gathering}
    (found : db.gatherings gathering = some event)
    (resolved : ((truthy member).orElse fun _ => truthy (resolveRegistrantMember site)) =
      some registrant)
    (unregistered : existingRegistration db gathering registrant = none)
    (done : registerForEvent site db gathering member via = .ok (receipt, next)) :
    PassesGates site db gathering registrant ∧ receipt.status = event.verdict ∧
      receipt.alreadyRegistered = false := by
  rw [registerForEvent] at done
  obtain ⟨verdict, read, written⟩ := bind_eq_ok_iff.mp done
  obtain ⟨other, asked, window, scope, planned⟩ := registerForEventRead_ok read
  obtain rfl := Option.some.inj (asked.symm.trans resolved)
  rw [unregistered] at planned
  rw [planned] at written
  dsimp only at written
  unfold registerForEventWrite at written
  dsimp only at written
  split at written
  · next doc claimed claim =>
    cases written
    obtain ⟨_, _, other, _, same, status, _⟩ := claimSeat_ok claim
    have own : other = event := Option.some.inj (same.symm.trans found)
    exact ⟨⟨window, scope⟩, own ▸ status, rfl⟩
  · rw [unregistered] at written
    cases written
  · cases written

/-- Both columns are reached together and set together exactly when they match. -/
theorem matched_iff {event : Gathering} :
    (((∃ capacity, event.capacity = some capacity ∧ 0 < capacity ∧
        capacity ≤ event.registeredCount) ↔ event.verdict = .waitlisted) ∧
      ((∃ capacity, event.capacity = some capacity ∧ capacity ≤ event.registeredCount) ↔
        event.verdict = .waitlisted) ∧
      (event.capacity = none ↔ Uncapped event)) ↔ Matched event := by
  rw [verdict_waitlisted_iff]
  constructor
  · intro ⟨same, shown, neither⟩
    cases capacity : event.capacity with
    | none => exact .inl ⟨capacity, neither.mp capacity⟩
    | some number =>
      have limited : ¬ Uncapped event := by
        intro uncapped
        rw [neither.mpr uncapped] at capacity
        cases capacity
      rw [Uncapped] at limited
      push Not at limited
      obtain ⟨limit, given, positive⟩ := limited
      simp only [capacity, given, Option.some.injEq, exists_eq_left'] at same shown
      refine .inr ⟨number, limit, capacity, given, positive, ?_⟩
      omega
  · intro matched
    cases matched with
    | inl neither =>
      obtain ⟨capacity, uncapped⟩ := neither
      have unlimited : ¬ ∃ limit, event.registrationCapacity = some limit ∧ 0 < limit ∧
          limit ≤ event.registeredCount := by
        intro ⟨limit, given, positive, _⟩
        have small := uncapped limit given
        omega
      simp only [capacity, iff_false_intro unlimited, iff_true_intro uncapped]
      simp
    | inr limited =>
      obtain ⟨number, limit, capacity, given, positive, sides⟩ := limited
      have capped : ¬ Uncapped event := by
        intro uncapped
        have small := uncapped limit given
        omega
      simp only [capacity, given, Option.some.injEq, exists_eq_left', iff_false_intro capped]
      simp
      omega

/-- What the reader is told about a member without a row is what registering does exactly when the
two capacities match; a call that registers the member is one that passes the gates and ends in the
verdict. -/
theorem told_iff_matched {viewer : Site} {member : Option String} {event : Gathering}
    {hint : EligibilityHint} {board : RegistrationDashboard}
    (found : db.gatherings gathering = some event)
    (told : getRegistrationEligibility site db gathering member = .ok (.verdict hint))
    (shown : getRegistrationDashboard viewer db gathering = .ok board)
    (unregistered : existingRegistration db gathering hint.member = none) :
    (∀ via receipt next, registerForEvent site db gathering member via = .ok (receipt, next) →
      PassesGates site db gathering hint.member ∧ receipt.status = event.verdict ∧
        receipt.alreadyRegistered = false) ∧
    (Told site db gathering event hint board ↔ Matched event) := by
  have ⟨resolved, about⟩ := getRegistrationEligibility_ok told
  refine ⟨fun via receipt next done => registerForEvent_fresh found resolved unregistered done, ?_⟩
  have ⟨windowOpen, inScope, window, scope, _, full, eligible⟩ := eligibilityOf_ok about
  have read : registrationWindow db gathering = { registrationWindow db gathering with
      capacity := event.capacity, registeredCount := event.registeredCount } := by
    rw [registrationWindow, found]
    rfl
  have capacityRead : hint.atCapacity = true ↔ ∃ capacity, event.capacity = some capacity ∧
      0 < capacity ∧ capacity ≤ event.registeredCount := by
    rw [full, read]
    have sized : Gathering.verdict { event with registrationCapacity := event.capacity } =
        .waitlisted ↔ _ := verdict_waitlisted_iff
    exact isCapacityFull_iff.trans sized
  have seats : board.seatsRemaining = some 0 ↔ ∃ capacity, event.capacity = some capacity ∧
      capacity ≤ event.registeredCount := by
    rw [getRegistrationDashboard_ok found shown, Option.map_eq_some_iff]
    exact exists_congr fun capacity => and_congr_right fun _ => by omega
  have unset : board.seatsRemaining = none ↔ event.capacity = none := by
    rw [getRegistrationDashboard_ok found shown, Option.map_eq_none_iff]
  have gates : PassesGates site db gathering hint.member ↔
      windowOpen = true ∧ inScope = true := by
    rw [PassesGates, window, scope]
    simp
  have seated : hint.eligible = true ↔
      (windowOpen = true ∧ inScope = true) ∧ ¬ hint.atCapacity = true := by
    rw [eligible]
    simp
  rw [← matched_iff, ← capacityRead, ← seats, ← unset]
  constructor
  · exact fun truth => ⟨truth.atCapacity, truth.full, truth.unlimited⟩
  · intro ⟨atCapacity, noSeat, unlimited⟩
    refine ⟨atCapacity, ?_, noSeat, unlimited⟩
    rw [seated, gates, verdict_registered_iff, atCapacity]

end Hints

/-- The camp with a capacity of its own. -/
def sizedCamp (capacity : Option Int) (registeredCount : Int) : Database where
  gatherings name := if name = "camp" then
      some { camp with capacity := capacity, registeredCount := registeredCount } else none
  registrations := .empty Registration.name

/-- What Ann is told about the camp. -/
def annsHint (inScope atCapacity : Bool) : EligibilityHint where
  gathering := "camp"
  member := "ann"
  eligible := inScope && !atCapacity
  windowOpen := true
  inScope := inScope
  atCapacity := atCapacity
  scope := scopeBranch
  reason := if atCapacity then "Event is at capacity — you will be waitlisted."
    else "Member is eligible (matches scope 'Branch')."

/-- What the dashboard shows of the camp. -/
def campBoard (capacity : Option Int) (registeredCount : Int) : RegistrationDashboard where
  gathering := "camp"
  registeredCount := registeredCount
  checkedInCount := 0
  waitlistedCount := 0
  capacity := capacity
  seatsRemaining := capacity.map fun capacity => max (capacity - registeredCount) 0
  registrationScope := scopeBranch
  approvalStatus := "Approved"
  registrationOpensOn := none
  registrationClosesOn := none

/-- Ann is told the truth about a camp with one place under both capacities. -/
theorem told_iff_matched_camp :
    (∀ via receipt next,
      registerForEvent (northSite 1) (sizedCamp (some 1) 0) "camp" (some "ann") via =
          .ok (receipt, next) →
        PassesGates (northSite 1) (sizedCamp (some 1) 0) "camp" "ann" ∧
          receipt.status =
            Gathering.verdict { camp with capacity := some 1, registeredCount := 0 } ∧
          receipt.alreadyRegistered = false) ∧
    (Told (northSite 1) (sizedCamp (some 1) 0) "camp"
        { camp with capacity := some 1, registeredCount := 0 } (annsHint true false)
        (campBoard (some 1) 0) ↔
      Matched { camp with capacity := some 1, registeredCount := 0 }) :=
  have found : (sizedCamp (some 1) 0).gatherings "camp" =
      some { camp with capacity := some 1, registeredCount := 0 } := rfl
  have told : getRegistrationEligibility (northSite 1) (sizedCamp (some 1) 0) "camp"
      (some "ann") = .ok (.verdict (annsHint true false)) := rfl
  have shown : getRegistrationDashboard (northSite 1) (sizedCamp (some 1) 0) "camp" =
      .ok (campBoard (some 1) 0) := rfl
  told_iff_matched found told shown rfl

/-- The camp is full and its capacity was never filled in: Ann is told that she is eligible, and is
waitlisted. -/
theorem ann_eligible_and_waitlisted :
    getRegistrationEligibility (northSite 1) (sizedCamp (some 0) 1) "camp" (some "ann") =
        .ok (.verdict (annsHint true false)) ∧
      (annsHint true false).eligible = true ∧
      ∃ receipt next, registerForEvent (northSite 1) (sizedCamp (some 0) 1) "camp" (some "ann")
          "Self" = .ok (receipt, next) ∧ receipt.status = .waitlisted :=
  ⟨rfl, rfl, _, _, rfl, rfl⟩

end FlockOs.EventRegistration
