import FlockOs.EventOpening
import FlockOs.Verif.ApprovalRun
import FlockOs.Verif.SeatClaims
import FlockOs.Verif.Seats

/-!
# How large an event without a chain becomes

The fast path compares its threshold with the capacity of the event, and registration fills the
event up to its registration capacity. The registered members stay below the threshold exactly where
the registration capacity, if registration is possible at all, leaves no room for more.
-/

namespace FlockOs.EventOpening

open Lib Registrations EventApproval EventRegistration Relation

/-- The number of rows of a gathering that are registered. -/
def registeredRows (registrations : RegistrationTable) (gathering : String) : Nat :=
  registrations.count fun row =>
    decide (row.gathering = gathering) && decide (row.registrationStatus = .registered)

/-- The category of the event lets members register. -/
def OneTime (event : Gathering) : Prop :=
  truthy event.eventCategory = none ∨ truthy event.eventCategory = some "One-time"

/-- With every seat that the capacity still gives, fewer rows than the threshold are registered. -/
def Capped (threshold : Int) (event : Gathering) (registered : Nat) : Prop :=
  ∃ limit, event.registrationCapacity = some limit ∧ 0 < limit ∧
    registered + max (limit - event.registeredCount) 0 < threshold

/-- Fewer rows than the threshold are registered, now and with every seat still to give. -/
def Fewer (threshold : Int) (gathering : String) (tables : Tables) : Prop :=
  ∃ event, tables.gatherings gathering = some event ∧
    (registeredRows tables.registrations gathering : Int) < threshold ∧
    (OneTime event → Capped threshold event (registeredRows tables.registrations gathering))

/-- The event after its seat counter, or that of another gathering, is bumped. -/
def withBump (name gathering : String) (delta : Int) (event : Gathering) : Gathering :=
  { event with
    registeredCount :=
      if name = gathering then adjustCounter event.registeredCount delta
      else event.registeredCount }

/-- A bump of a seat counter, seen at any gathering. -/
theorem bumped_eq {gatherings : String → Option Gathering} {gathering : String}
    {event : Gathering} (found : gatherings gathering = some event) (name : String)
    (delta : Int) :
    bumped gatherings name .registeredCount delta gathering =
      some (withBump name gathering delta event) := by
  rw [bumped, withBump]
  by_cases here : gathering = name
  · rw [if_pos here, if_pos here.symm, ← here, found]
    rfl
  · rw [if_neg here, if_neg (Ne.symm here)]
    exact found

/-- A row that is stored is of a category that lets members register. -/
theorem oneTime_of_storable {tables : Tables} {row : Registration} {event : Gathering}
    (storable : Storable tables row) (found : tables.gatherings row.gathering = some event) :
    OneTime event := by
  have known := storable.oneTime
  rw [found] at known
  rw [OneTime]
  cases category : truthy event.eventCategory with
  | none => exact .inl rfl
  | some text =>
    right
    have given : (some event).bind (truthy ·.eventCategory) = some text := category
    rw [given] at known
    exact known rfl

/-- The registered rows after an insertion. -/
theorem registeredRows_add (registrations : RegistrationTable) (row : Registration)
    (fresh : row.name ∉ registrations.rows.map Registration.name) (gathering : String) :
    registeredRows (registrations.add row fresh) gathering =
      registeredRows registrations gathering +
        if row.gathering = gathering ∧ row.registrationStatus = .registered then 1 else 0 := by
  rw [registeredRows, Table.count_add]
  simp only [Bool.and_eq_true, decide_eq_true_iff]
  rfl

/-- The registered rows after a replacement. -/
theorem registeredRows_replace {registrations : RegistrationTable} {old new : Registration}
    (found : registrations.find? new.name = some old) (gathering : String) :
    registeredRows (registrations.replace new) gathering +
        (if old.gathering = gathering ∧ old.registrationStatus = .registered then 1 else 0) =
      registeredRows registrations gathering +
        if new.gathering = gathering ∧ new.registrationStatus = .registered then 1 else 0 := by
  have counts := Table.count_replace (fun row : Registration =>
    decide (row.gathering = gathering) && decide (row.registrationStatus = .registered)) found
  simp only [Bool.and_eq_true, decide_eq_true_iff] at counts
  exact counts

/-- A claim leaves the registered rows below the threshold. -/
theorem Fewer.claim {threshold : Int} {gathering : String} {tables next : Tables}
    (fewer : Fewer threshold gathering tables) (step : ClaimStep tables next) :
    Fewer threshold gathering next := by
  obtain ⟨event, present, below, capped⟩ := fewer
  cases step with
  | seat row insertable other found status decided =>
    refine ⟨_, bumped_eq present row.gathering 1, ?_⟩
    dsimp only
    rw [registeredRows_add]
    by_cases here : row.gathering = gathering
    · have same : other = event := by
        rw [here] at found
        exact Option.some.inj (found.symm.trans present)
      have oneTime := oneTime_of_storable insertable.storable found
      rw [same] at oneTime decided
      obtain ⟨limit, capacity, positive, room⟩ := capped oneTime
      rw [capacity] at decided
      have free := (capacityDecision_registered positive _).mp decided
      rw [if_pos ⟨here, status⟩]
      have counted : (withBump row.gathering gathering 1 event).registeredCount =
          event.registeredCount + 1 := by
        rw [withBump, if_pos here]
        rfl
      refine ⟨by omega, fun _ => ⟨limit, capacity, positive, ?_⟩⟩
      rw [counted]
      omega
    · rw [if_neg fun both => here both.1, withBump, if_neg here]
      exact ⟨below, capped⟩
  | wait row insertable other found status decided =>
    refine ⟨event, present, ?_⟩
    dsimp only
    rw [registeredRows_add, if_neg]
    · exact ⟨below, capped⟩
    · rintro ⟨_, registered⟩
      rw [status] at registered
      cases registered

/-- A cancellation leaves the registered rows below the threshold. -/
theorem Fewer.cancel {threshold : Int} {gathering : String} {tables next : Tables}
    (fewer : Fewer threshold gathering tables) (step : CancelStep tables next) :
    Fewer threshold gathering next := by
  obtain ⟨event, present, below, capped⟩ := fewer
  cases step with
  | withdraw old new resaved before after =>
    refine ⟨event, present, ?_⟩
    have counts := registeredRows_replace resaved.found gathering
    have same : registeredRows (tables.registrations.replace new) gathering =
        registeredRows tables.registrations gathering := by
      rcases before with before | before <;> simp_all
    dsimp only
    rw [same]
    exact ⟨below, capped⟩
  | release old new resaved before after drained =>
    refine ⟨_, bumped_eq present old.gathering (-1), ?_⟩
    have counts := registeredRows_replace resaved.found gathering
    have sameEvent := resaved.same.gathering
    have unseated : ¬ (new.gathering = gathering ∧ new.registrationStatus = .registered) := by
      rintro ⟨_, registered⟩
      rw [after] at registered
      cases registered
    rw [if_neg unseated] at counts
    dsimp only
    by_cases here : old.gathering = gathering
    · rw [if_pos ⟨here, before⟩] at counts
      have counted : (withBump old.gathering gathering (-1) event).registeredCount =
          max (event.registeredCount - 1) 0 := by
        rw [withBump, if_pos here]
        rfl
      refine ⟨by omega, fun oneTime => ?_⟩
      obtain ⟨limit, capacity, positive, room⟩ := capped oneTime
      refine ⟨limit, capacity, positive, ?_⟩
      rw [counted]
      omega
    · rw [if_neg fun both => here both.1, Nat.add_zero] at counts
      rw [counts, withBump, if_neg here]
      exact ⟨below, capped⟩
  | promote old new chosen resaved before after waiting ofEvent waits senior =>
    refine ⟨_, bumped_eq (bumped_eq present old.gathering (-1)) old.gathering 1, ?_⟩
    have freed := registeredRows_replace resaved.found gathering
    have taken := registeredRows_replace (promoted_found waiting) gathering
    have sameEvent := resaved.same.gathering
    have same : registeredRows ((tables.registrations.replace new).replace
        { chosen with registrationStatus := .registered }) gathering =
        registeredRows tables.registrations gathering := by
      by_cases here : old.gathering = gathering <;> simp_all
    dsimp only
    rw [same]
    by_cases here : old.gathering = gathering
    · have counted : (withBump old.gathering gathering 1
          (withBump old.gathering gathering (-1) event)).registeredCount =
          max (event.registeredCount - 1) 0 + 1 := by
        rw [withBump, withBump, if_pos here, if_pos here]
        rfl
      refine ⟨below, fun oneTime => ?_⟩
      obtain ⟨limit, capacity, positive, room⟩ := capped oneTime
      refine ⟨limit, capacity, positive, ?_⟩
      rw [counted]
      omega
    · rw [withBump, withBump, if_neg here, if_neg here]
      exact ⟨below, capped⟩

/-- A request to register, to cancel or to process a batch. -/
def fills : Call → Bool
  | .checkIn .. => false
  | _ => true

/-- Every request but a check-in leaves the registered rows below the threshold. -/
theorem Fewer.perform {threshold : Int} {gathering : String} {db : Database} {call : Call}
    (fewer : Fewer threshold gathering db.toTables) (filling : fills call = true) :
    Fewer threshold gathering (call.perform db).toTables := by
  have other : ∀ site registrationId attendanceRef,
      call ≠ .checkIn site registrationId attendanceRef := by
    rintro site registrationId attendanceRef rfl
    cases filling
  cases perform_claims_or_cancels db call other with
  | inl claims =>
    exact claims_keep _ (fun _ _ held claim => held.claim claim) claims fewer
  | inr cancel => exact fewer.cancel cancel

/-- The required fields of a gathering are set. -/
structure RequiredFields (name : String) (event : Gathering) : Prop where
  /-- Primary key. -/
  named : name ≠ ""
  /-- Branch anchor. -/
  branched : (truthy event.branch).isSome = true
  /-- Originating group. -/
  grouped : (truthy event.group).isSome = true

/-- A document for a one-time event with its required fields passes the checks. -/
theorem newRegistration_storable {db : Database} {plan : RegisterPlan} {event : Gathering}
    (found : db.gatherings plan.gathering = some event)
    (required : RequiredFields plan.gathering event) (oneTime : OneTime event)
    (member : plan.registrant ≠ "") (site : Site) (registrantName : String) :
    Storable db.toTables
      { newRegistration plan (db.gatheringScope plan.gathering) registrantName event.verdict with
        name := site.newName db
        modified := db.clock } := by
  obtain ⟨named, branched, grouped⟩ := required
  obtain ⟨branch, branchSet⟩ := Option.isSome_iff_exists.mp branched
  obtain ⟨group, groupSet⟩ := Option.isSome_iff_exists.mp grouped
  have scope : db.gatheringScope plan.gathering =
      ⟨event.branch, event.group, event.organization⟩ := by
    rw [Tables.gatheringScope, found]
  constructor
  · simp [missingFields, newRegistration, scope, branchSet, groupSet, named, member,
      truthy_nonempty branchSet, truthy_nonempty groupSet]
  · intro _
    show (db.gatheringScope plan.gathering).branch = some _ ∧
      (db.gatheringScope plan.gathering).group = some _
    rw [scope]
    dsimp only [newRegistration]
    rw [branchSet, groupSet]
    exact ⟨truthy_eq_some branchSet, truthy_eq_some groupSet⟩
  · intro known
    have category : (db.gatherings plan.gathering).bind (truthy ·.eventCategory) =
        truthy event.eventCategory := by
      rw [found]
      rfl
    have set : (truthy event.eventCategory).isSome := category ▸ known
    show (db.gatherings plan.gathering).bind (truthy ·.eventCategory) = some "One-time"
    rw [category]
    cases oneTime with
    | inl unset =>
      rw [unset] at set
      cases set
    | inr oneTime => exact oneTime

/-- A batch of one member who has no row commits what the claim stores. -/
theorem bulk_one {site : Site} {db next : Database} {gathering member : String}
    {doc : Registration} (named : member ≠ "")
    (absent : existingRegistration db gathering member = none)
    (claimed : claimSeat site db ⟨gathering, member, "Bulk", site.now⟩
      (db.gatheringScope gathering) = .ok (doc, next)) :
    ((Call.bulk site gathering [member] "Bulk" "" 0 1).perform db).toTables = next.toTables := by
  have turn : processBulkMember site db gathering "Bulk" (db.gatheringScope gathering) ({}, db)
      member = .ok (if doc.registrationStatus = .registered then ⟨1, 0, 0⟩ else ⟨0, 1, 0⟩,
        emitClaimed next doc) := by
    rw [processBulkMember, if_neg named, if_neg (by rw [absent]; simp), claimed]
    dsimp only
    split <;> rfl
  show (committed db (processBulkBatch site db gathering [member] "Bulk" "" 0 1)).toTables = _
  unfold processBulkBatch
  simp only [List.foldlM_cons, turn]
  exact emitClaimed_toTables next doc

/-- A member can still be registered for an event whose verdict is a seat. -/
theorem takes_one {db : Database} {gathering : String} {event : Gathering}
    (found : db.gatherings gathering = some event) (required : RequiredFields gathering event)
    (oneTime : OneTime event) (seated : event.verdict = .registered) :
    ∃ call : Call, fills call = true ∧
      (call.perform db).gatherings gathering = some (withBump gathering gathering 1 event) ∧
      registeredRows (call.perform db).registrations gathering =
        registeredRows db.registrations gathering + 1 := by
  obtain ⟨name, _, unused⟩ := exists_fresh_text (db.registrations.rows.map Registration.name)
  obtain ⟨member, named, newcomer⟩ :=
    exists_fresh_text (db.registrations.rows.map Registration.registrant)
  let site : Site := { northSite 0 with newName := fun _ => name }
  let plan : RegisterPlan := ⟨gathering, member, "Bulk", site.now⟩
  have apart : ∀ other ∈ db.registrations.rows,
      ¬ (other.gathering = gathering ∧ other.registrant = member) := by
    rintro other inside ⟨_, same⟩
    exact newcomer (List.mem_map.mpr ⟨other, inside, same⟩)
  have absent : existingRegistration db gathering member = none := by
    rw [existingRegistration, List.find?_eq_none]
    intro other inside taken
    exact apart other inside (of_decide_eq_true taken)
  have here : db.gatherings plan.gathering = some event := found
  obtain ⟨doc, next, claimed⟩ := claimSeat_succeeds site here
    (newRegistration_storable here required oneTime named site) unused apart
  have performed := bulk_one named absent claimed
  obtain ⟨ofEvent, _, other, insertable, same, status, written⟩ := claimSeat_ok claimed
  have own : other = event := Option.some.inj (same.symm.trans found)
  rw [own] at status written
  rw [if_pos seated] at written
  refine ⟨.bulk site gathering [member] "Bulk" "" 0 1, rfl, ?_, ?_⟩
  · rw [performed, written]
    exact bumped_eq found gathering 1
  · rw [performed, written]
    dsimp only
    rw [registeredRows_add, if_pos ⟨ofEvent, status.trans seated⟩]

/-- As many members can be registered as the capacity leaves seats. -/
theorem takes_many {gathering : String} : ∀ (number : Nat) {db : Database} {event : Gathering},
    db.gatherings gathering = some event → RequiredFields gathering event → OneTime event →
    (∀ limit, event.registrationCapacity = some limit → 0 < limit →
      event.registeredCount + number ≤ limit) →
    ∃ calls : List Call, (∀ call ∈ calls, fills call = true) ∧
      registeredRows (runAll Call.perform db calls).registrations gathering =
        registeredRows db.registrations gathering + number
  | 0, db, _, _, _, _, _ => ⟨[], ⟨fun _ member => absurd member List.not_mem_nil, rfl⟩⟩
  | number + 1, db, event, found, required, oneTime, room => by
    have seated : event.verdict = .registered := by
      rw [Gathering.verdict]
      cases capacity : event.registrationCapacity with
      | none => rfl
      | some limit =>
        by_cases positive : 0 < limit
        · have enough := room limit capacity positive
          push_cast at enough
          exact (capacityDecision_registered positive _).mpr (by omega)
        · rw [capacityDecision, if_pos (by omega)]
    obtain ⟨call, filling, after, grown⟩ := takes_one found required oneTime seated
    obtain ⟨calls, every, total⟩ := takes_many number after
      ⟨required.named, required.branched, required.grouped⟩ oneTime (by
        intro limit capacity positive
        have enough := room limit capacity positive
        push_cast at enough
        have counted : (withBump gathering gathering 1 event).registeredCount =
            event.registeredCount + 1 := by
          rw [withBump, if_pos rfl]
          rfl
        rw [counted]
        omega)
    refine ⟨call :: calls, ?_, ?_⟩
    · intro other member
      cases List.mem_cons.mp member with
      | inl same => exact same ▸ filling
      | inr later => exact every other later
    · rw [runAll_cons, total, grown]
      omega

/-- An event that no run of such requests brings to the threshold has fewer rows than the threshold
with every seat still to give. -/
theorem fewer_of_runs {threshold : Int} {gathering : String} {db : Database} {event : Gathering}
    (found : db.gatherings gathering = some event) (required : RequiredFields gathering event)
    (stays : ∀ calls : List Call, (∀ call ∈ calls, fills call = true) →
      (registeredRows (runAll Call.perform db calls).registrations gathering : Int) < threshold) :
    Fewer threshold gathering db.toTables := by
  have below := stays [] fun _ member => absurd member List.not_mem_nil
  refine ⟨event, found, below, fun oneTime => ?_⟩
  have full (number : Nat) (room : ∀ limit, event.registrationCapacity = some limit → 0 < limit →
      event.registeredCount + number ≤ limit) :
      (registeredRows db.registrations gathering + number : Int) < threshold := by
    obtain ⟨calls, every, total⟩ := takes_many number found required oneTime room
    have reached := stays calls every
    omega
  by_cases limited : ∃ limit, event.registrationCapacity = some limit ∧ 0 < limit
  · obtain ⟨limit, capacity, positive⟩ := limited
    refine ⟨limit, capacity, positive, ?_⟩
    by_cases room : event.registeredCount ≤ limit
    · have reached := full (limit - event.registeredCount).toNat (by
        intro other same _
        have equal := Option.some.inj (capacity.symm.trans same)
        omega)
      omega
    · have stored : (registeredRows db.registrations gathering : Int) < threshold := below
      omega
  · have reached := full (threshold - registeredRows db.registrations gathering).toNat (by
      intro limit capacity positive
      exact absurd ⟨limit, capacity, positive⟩ limited)
    omega

/-- The write-back of an approval changes neither the rows nor what the capacity is read from. -/
theorem fewer_writeBack_iff {threshold : Int} {gathering : String} (desk : Desk) (db : Database) :
    Fewer threshold gathering (writeBack desk db).toTables ↔
      Fewer threshold gathering db.toTables := by
  have columns : (writeBack desk db).gatherings gathering = db.gatherings gathering ∨
      (writeBack desk db).gatherings gathering =
        (db.gatherings gathering).map (withCopy desk.gathering) := by
    by_cases own : gathering = desk.approval.gathering
    · right
      rw [own]
      exact Function.update_self ..
    · left
      exact Function.update_of_ne own ..
  rw [Fewer, Fewer]
  cases columns with
  | inl same =>
    rw [same]
    rfl
  | inr written =>
    rw [written]
    constructor
    · intro ⟨event, found, rest⟩
      obtain ⟨before, present, same⟩ := Option.map_eq_some_iff.mp found
      rw [← same] at rest
      exact ⟨before, present, rest⟩
    · intro ⟨before, present, rest⟩
      exact ⟨withCopy desk.gathering before, by rw [present]; rfl, rest⟩

/-- A submit that lands an approved request found an event on the fast path. -/
theorem event_of_submitted {session : Session} {approval : Approval} {db : Database}
    {status : Approvals.ApprovalStatus} {next : Desk}
    (submitted : submitOn session approval db = .ok status next)
    (approved : next.approval.status = .approved) :
    ∃ event, db.gatherings approval.gathering = some event := by
  have ends := submit_ends (reading session db) (deskOn approval db)
  rw [Ends, Action.body, show submitForApproval _ _ = _ from submitted] at ends
  obtain ⟨other, last, same, took⟩ : ∃ other last,
      (.ok status next : EStateM.Result Error Desk _) = .ok other last ∧
        Took (reading session db) (deskOn approval db) last .submit := by
    cases ends with
    | inl returned => exact returned
    | inr raised =>
      obtain ⟨_, _, same, _⟩ := raised
      cases same
  cases same
  cases took with
  | autoApproved requester small saved copied emitted =>
    cases found : db.gatherings approval.gathering with
    | some event => exact ⟨event, rfl⟩
    | none =>
      have unread : (reading session db).gatheringCapacity approval.gathering = none := by
        show (db.gatherings approval.gathering).bind _ = none
        rw [found]
        rfl
      rw [clearsFastPath, show (deskOn approval db).approval = approval from rfl, unread] at small
      unfold Approvals.isAutoApproved at small
      split at small
      · next capacity => cases capacity
      · cases small
  | routed requester large specs resolved saved copied scope emitted =>
    have pending := saved.status
    rw [approved] at pending
    cases pending

/-- After a submit that lands an approval on the fast path, the registered rows stay below the
threshold of the policy in every run exactly when they are below it and, where the category lets
members register, a positive registration capacity keeps them there. -/
theorem autoApproved_stays_below_iff {session : Session} {approval : Approval} {db : Database}
    {status : Approvals.ApprovalStatus} {next : Desk}
    (required : ∀ event, db.gatherings approval.gathering = some event →
      RequiredFields approval.gathering event)
    (submitted : submitOn session approval db = .ok status next)
    (approved : next.approval.status = .approved) :
    ∀ threshold, (approvalPolicyFromRow session approval.approvalPolicy).autoApproveBelowCapacity =
        some threshold →
      ((∀ calls : List Call, (∀ call ∈ calls, fills call = true) →
        (registeredRows (runAll Call.perform (writeBack next db) calls).registrations
          approval.gathering : Int) < threshold) ↔
      Fewer threshold approval.gathering db.toTables) := by
  intro threshold _
  have ⟨event, found⟩ := event_of_submitted submitted approved
  rw [← fewer_writeBack_iff next db]
  constructor
  · intro stays
    by_cases own : approval.gathering = next.approval.gathering
    · have written : (writeBack next db).gatherings approval.gathering =
          some (withCopy next.gathering event) := by
        rw [own] at found ⊢
        exact (Function.update_self ..).trans (by rw [found]; rfl)
      have ⟨named, branched, grouped⟩ := required event found
      exact fewer_of_runs written ⟨named, branched, grouped⟩ stays
    · have kept : (writeBack next db).gatherings approval.gathering = some event :=
        (Function.update_of_ne own ..).trans found
      exact fewer_of_runs kept (required event found) stays
  · intro fewer calls filling
    have allowed : EveryCall Call.perform (fun _ call => fills call = true) (writeBack next db)
        calls := everyCall_of_forall _ filling
    have ⟨_, _, below, _⟩ := runAll_guarded
      (fun db => Fewer threshold approval.gathering db.toTables)
      (fun _ _ held filling => held.perform filling) calls (writeBack next db) fewer allowed
    exact below

/-- Ann's session, with a policy that asks for no chain below two places. -/
def retreatSession : Session :=
  { campSession "ann@example.org" 1 with
    policies := fun _ => some { autoApproveBelowCapacity := some 2 } }

/-- Ann's request under the policy. -/
def retreatApproval : Approval := { campDesk.approval with approvalPolicy := some "Small events" }

/-- A retreat whose capacity was never filled in. -/
def retreat (registrationCapacity : Int) : Gathering where
  branch := some "North"
  group := some "North-Youth"
  eventCategory := some "One-time"
  capacity := some 0
  registrationCapacity := some registrationCapacity

/-- The database that holds the retreat. -/
def retreatDatabase (registrationCapacity : Int) : Database where
  gatherings name := if name = "GATH-00001" then some (retreat registrationCapacity) else none
  registrations := .empty Registration.name

/-- The retreat after Ann's submit. -/
def retreatDesk (registrationCapacity : Int) : Desk :=
  (submitForApproval (reading retreatSession (retreatDatabase registrationCapacity))).after
    (deskOn retreatApproval (retreatDatabase registrationCapacity))

/-- With one place to register for, the retreat stays below two members. -/
theorem retreat_stays_below :
    (∀ calls : List Call, (∀ call ∈ calls, fills call = true) →
      (registeredRows (runAll Call.perform (writeBack (retreatDesk 1) (retreatDatabase 1))
        calls).registrations "GATH-00001" : Int) < 2) ↔
    Fewer 2 "GATH-00001" (retreatDatabase 1).toTables :=
  have submitted : submitOn retreatSession retreatApproval (retreatDatabase 1) =
      .ok .approved (retreatDesk 1) := rfl
  have required : ∀ event, (retreatDatabase 1).gatherings retreatApproval.gathering = some event →
      RequiredFields retreatApproval.gathering event := by
    intro event found
    have same : retreat 1 = event := Option.some.inj found
    rw [← same]
    exact ⟨by decide, by decide, by decide⟩
  autoApproved_stays_below_iff required submitted rfl 2 rfl

/-- Without a registration capacity two members are registered for the retreat that was approved as
smaller than that. -/
theorem retreat_outgrows_policy :
    submitOn retreatSession retreatApproval (retreatDatabase 0) =
        .ok .approved (retreatDesk 0) ∧
      (retreatDesk 0).approval.autoApproved = true ∧
      (approvalPolicyFromRow retreatSession
        retreatApproval.approvalPolicy).autoApproveBelowCapacity = some 2 ∧
      ¬ (registeredRows (runAll Call.perform (writeBack (retreatDesk 0) (retreatDatabase 0))
        [.bulk (northSite 2) "GATH-00001" ["MEM-00003", "MEM-00004"] "Bulk" "" 0 1]).registrations
          "GATH-00001" : Int) < 2 := by
  refine ⟨rfl, rfl, rfl, ?_⟩
  decide

end FlockOs.EventOpening
