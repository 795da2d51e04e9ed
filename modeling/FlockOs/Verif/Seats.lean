import FlockOs.Verif.SeatStep

/-!
# The seat counter

The counter of a gathering and the number of its rows that hold a seat move together in
every elementary step (`SeatStep.change`), and only a decision that a seat remains moves them
upwards; so neither passes the capacity.
-/

namespace FlockOs.EventRegistration

open Lib Registrations Relation

/-- The row holds a seat of the gathering. -/
def Registration.seatedFor (gathering : String) (row : Registration) : Bool :=
  decide (row.gathering = gathering) && row.registrationStatus.seated

/-- The number of seats taken at a gathering. -/
def RegistrationTable.seated (registrations : RegistrationTable) (gathering : String) : Nat :=
  registrations.count (Registration.seatedFor gathering)

/-- The row waits for a seat of the gathering. -/
structure Waiting (gathering : String) (registrations : RegistrationTable)
    (row : Registration) : Prop where
  /-- A row of the table. -/
  member : row ∈ registrations.rows
  /-- Of the gathering. -/
  event : row.gathering = gathering
  /-- Waitlisted. -/
  waits : row.registrationStatus = .waitlisted

/-- Nobody waits for a seat of the gathering. -/
def Drained (gathering : String) (registrations : RegistrationTable) : Prop :=
  ∀ row, ¬ Waiting gathering registrations row

/-- A member has at most one row of the gathering. -/
def OneRowEach (gathering : String) (registrations : RegistrationTable) : Prop :=
  ∀ left ∈ registrations.rows, ∀ right ∈ registrations.rows,
    left.gathering = gathering → right.gathering = gathering →
      left.registrant = right.registrant → left = right

/-- The counter of a gathering exceeds the seats taken by `drift`. -/
def Drifted (gathering : String) (drift : Nat) (tables : Tables) : Prop :=
  ∃ event, tables.gatherings gathering = some event ∧
    event.registeredCount = tables.registrations.seated gathering + drift

/-- The counter of a gathering is the number of seats taken, a positive capacity bounds it,
and each member has one row. -/
structure Counted (gathering : String) (capacity : Option Int) (tables : Tables) : Prop where
  /-- The stored counter and the rows. -/
  counter : ∃ event, tables.gatherings gathering = some event ∧
    event.registrationCapacity = capacity ∧ event.registeredCount = tables.registrations.seated gathering
  /-- The capacity. -/
  limited : ∀ limit, capacity = some limit → 0 < limit →
    (tables.registrations.seated gathering : Int) ≤ limit
  /-- One row for each member. -/
  single : OneRowEach gathering tables.registrations

/-- The seats after an insertion. -/
theorem seated_add (registrations : RegistrationTable) (row : Registration)
    (fresh : row.name ∉ registrations.rows.map Registration.name) (gathering : String) :
    RegistrationTable.seated (registrations.add row fresh) gathering =
      registrations.seated gathering + if row.seatedFor gathering then 1 else 0 :=
  Table.count_add fresh _

/-- The seats after a replacement. -/
theorem seated_replace {registrations : RegistrationTable} {old new : Registration}
    (found : registrations.find? new.name = some old) (gathering : String) :
    RegistrationTable.seated (registrations.replace new) gathering +
        (if old.seatedFor gathering then 1 else 0) =
      registrations.seated gathering + if new.seatedFor gathering then 1 else 0 :=
  Table.count_replace _ found

/-- A row that holds a seat is counted. -/
theorem seated_pos {registrations : RegistrationTable} {row : Registration} (gathering : String)
    (member : row ∈ registrations.rows) (seated : row.seatedFor gathering = true) :
    0 < registrations.seated gathering :=
  (registrations.count_pos _).mpr ⟨row, member, seated⟩

/-- A bump of the seat counter of one gathering, seen at any gathering. -/
theorem bumped_registeredCount {gatherings : String → Option Gathering} {gathering : String}
    {event : Gathering} (found : gatherings gathering = some event) (name : String)
    (delta : Int) :
    ∃ after, bumped gatherings name .registeredCount delta gathering = some after ∧
      after.registrationCapacity = event.registrationCapacity ∧
      after.registeredCount = if name = gathering then
        adjustCounter event.registeredCount delta else event.registeredCount := by
  unfold bumped
  by_cases here : gathering = name
  · subst here
    exact ⟨event.bump .registeredCount delta, by simp [found], rfl, by simp [Gathering.bump]⟩
  · exact ⟨event, by simp [here, found], rfl, by simp [Ne.symm here]⟩

/-- A bump of the check-in counter leaves the seat counter alone. -/
theorem bumped_checkedInCount {gatherings : String → Option Gathering} {gathering : String}
    {event : Gathering} (found : gatherings gathering = some event) (name : String)
    (delta : Int) :
    ∃ after, bumped gatherings name .checkedInCount delta gathering = some after ∧
      after.registrationCapacity = event.registrationCapacity ∧
      after.registeredCount = event.registeredCount := by
  unfold bumped
  by_cases here : gathering = name
  · subst here
    exact ⟨event.bump .checkedInCount delta, by simp [found], rfl, rfl⟩
  · exact ⟨event, by simp [here, found], rfl, rfl⟩

/-- An insertable row keeps one row for each member. -/
theorem OneRowEach.add {tables : Tables} {gathering : String}
    (single : OneRowEach gathering tables.registrations) {row : Registration}
    (insertable : Insertable tables row) :
    OneRowEach gathering (tables.registrations.add row insertable.fresh) := by
  intro left leftMember right rightMember leftEvent rightEvent same
  rcases (Table.mem_add insertable.fresh).mp leftMember with leftOld | leftNew <;>
    rcases (Table.mem_add insertable.fresh).mp rightMember with rightOld | rightNew
  · exact single left leftOld right rightOld leftEvent rightEvent same
  · subst rightNew
    exact absurd ⟨leftEvent.trans rightEvent.symm, same⟩ (insertable.apart left leftOld)
  · subst leftNew
    exact absurd ⟨rightEvent.trans leftEvent.symm, same.symm⟩ (insertable.apart right rightOld)
  · exact leftNew.trans rightNew.symm

/-- A new version of a row keeps one row for each member. -/
theorem OneRowEach.replace {registrations : RegistrationTable} {gathering : String}
    (single : OneRowEach gathering registrations) {old new : Registration}
    (found : registrations.find? new.name = some old) (same : SameEntry old new) :
    OneRowEach gathering (registrations.replace new) := by
  obtain ⟨oldMember, oldName⟩ := registrations.find?_eq_some.mp found
  intro left leftMember right rightMember leftEvent rightEvent agree
  rcases (Table.mem_replace found).mp leftMember with rfl | ⟨leftOld, leftName⟩ <;>
    rcases (Table.mem_replace found).mp rightMember with rfl | ⟨rightOld, rightName⟩
  · rfl
  · have clash := single old oldMember right rightOld (same.gathering.symm.trans leftEvent)
      rightEvent (same.registrant.symm.trans agree)
    exact absurd (clash ▸ oldName) rightName
  · have clash := single left leftOld old oldMember leftEvent
      (same.gathering.symm.trans rightEvent) (agree.trans same.registrant)
    exact absurd (clash ▸ oldName) leftName
  · exact single left leftOld right rightOld leftEvent rightEvent agree

/-- Every elementary step keeps one row for each member. -/
theorem OneRowEach.step {tables next : Tables} {gathering : String}
    (single : OneRowEach gathering tables.registrations) (step : SeatStep tables next) :
    OneRowEach gathering next.registrations := by
  cases step with
  | claim claim =>
    cases claim with
    | seat row insertable event found status decided => exact single.add insertable
    | wait row insertable event found status decided => exact single.add insertable
  | cancel cancel =>
    cases cancel with
    | withdraw old new resaved before after => exact single.replace resaved.found resaved.same
    | release old new resaved before after drained =>
      exact single.replace resaved.found resaved.same
    | promote old new chosen resaved before after waiting event waits senior =>
      have cancelled := single.replace resaved.found resaved.same
      exact cancelled.replace (promoted_found waiting) (.withStatus chosen .registered)
  | checkIn old new resaved before after => exact single.replace resaved.found resaved.same

/-- What a step does to the numbers of a gathering: the counter and the seats taken change by
the same amount, upwards by one seat and only when the decision was to give it, downwards
only when nobody waits for the seat. -/
structure SeatChange (gathering : String) (event : Gathering) (tables next : Tables)
    (delta : Int) : Prop where
  /-- The counter, beside the fixed capacity. -/
  counter : ∃ after, next.gatherings gathering = some after ∧
    after.registrationCapacity = event.registrationCapacity ∧
    after.registeredCount = event.registeredCount + delta
  /-- The rows. -/
  seats : (next.registrations.seated gathering : Int) = tables.registrations.seated gathering + delta
  /-- The decision. -/
  room : 0 < delta → delta = 1 ∧
    (capacityDecision event.registrationCapacity event.registeredCount).status = .registered
  /-- The waitlist. -/
  freed : delta < 0 → Drained gathering next.registrations

/-- A claim changes the counter and the seats together. -/
theorem ClaimStep.change {tables next : Tables} {gathering : String} {event : Gathering}
    (step : ClaimStep tables next) (present : tables.gatherings gathering = some event) :
    ∃ delta, SeatChange gathering event tables next delta := by
  cases step with
  | seat row insertable other found status decided =>
    refine ⟨if row.gathering = gathering then 1 else 0, ?_, ?_, ?_, by split <;> omega⟩
    · obtain ⟨after, afterFound, capacity, count⟩ :=
        bumped_registeredCount present row.gathering 1
      refine ⟨after, afterFound, capacity, ?_⟩
      rw [count]
      split <;> simp [adjustCounter]
    · rw [seated_add]
      by_cases here : row.gathering = gathering <;>
        simp [RegistrationTable.seated, Registration.seatedFor, RegistrationStatus.seated, here, status]
    · intro grows
      split at grows
      · rename_i here
        obtain rfl := Option.some.inj (present.symm.trans (here ▸ found))
        exact ⟨if_pos here, decided⟩
      · omega
  | wait row insertable other found status decided =>
    refine ⟨0, ⟨event, present, rfl, by omega⟩, ?_, by omega, by omega⟩
    rw [seated_add]
    simp [RegistrationTable.seated, Registration.seatedFor, RegistrationStatus.seated, status]

/-- Releasing a counted seat takes one from its gathering's counter. -/
theorem bumped_release {tables : Tables} {gathering : String} {event : Gathering}
    {old : Registration} (present : tables.gatherings gathering = some event)
    (enough : (tables.registrations.seated gathering : Int) ≤ event.registeredCount)
    (member : old ∈ tables.registrations.rows) (held : old.registrationStatus = .registered) :
    ∃ after, bumped tables.gatherings old.gathering .registeredCount (-1) gathering =
        some after ∧
      after.registrationCapacity = event.registrationCapacity ∧
      after.registeredCount =
        event.registeredCount + if old.gathering = gathering then -1 else 0 := by
  obtain ⟨after, found, capacity, count⟩ :=
    bumped_registeredCount present old.gathering (-1)
  refine ⟨after, found, capacity, ?_⟩
  rw [count]
  split
  · rename_i here
    have positive := seated_pos gathering member
      (by simp [Registration.seatedFor, RegistrationStatus.seated, here, held])
    simp only [adjustCounter]
    omega
  · omega

/-- Every elementary step changes the counter and the seats together, if the counter is not
below the seats. -/
theorem SeatStep.change {tables next : Tables} {gathering : String} {event : Gathering}
    (step : SeatStep tables next) (present : tables.gatherings gathering = some event)
    (enough : (tables.registrations.seated gathering : Int) ≤ event.registeredCount) :
    ∃ delta, SeatChange gathering event tables next delta := by
  cases step with
  | claim claim => exact claim.change present
  | cancel cancel =>
    cases cancel with
    | withdraw old new resaved before after =>
      refine ⟨0, ⟨event, present, rfl, by omega⟩, ?_, by omega, by omega⟩
      have seats := seated_replace resaved.found gathering
      rcases before with before | before <;>
        simp_all [RegistrationTable.seated, Registration.seatedFor, RegistrationStatus.seated]
    | release old new resaved before after drained =>
      have member := (tables.registrations.find?_eq_some.mp resaved.found).1
      refine ⟨_, bumped_release present enough member before, ?_, by split <;> omega, ?_⟩
      · have seats := seated_replace resaved.found gathering
        have sameEvent := resaved.same.gathering
        by_cases here : old.gathering = gathering
        · simp_all [RegistrationTable.seated, Registration.seatedFor, RegistrationStatus.seated]
          omega
        · simp_all [RegistrationTable.seated, Registration.seatedFor]
      · split
        · rename_i here
          rintro _ row ⟨inside, event, waits⟩
          rcases (Table.mem_replace resaved.found).mp inside with rfl | ⟨kept, -⟩
          · rw [after] at waits
            cases waits
          · exact drained row kept ⟨event.trans here.symm, waits⟩
        · omega
    | promote old new chosen resaved before after waiting ofEvent waits senior =>
      have member := (tables.registrations.find?_eq_some.mp resaved.found).1
      refine ⟨0, ?_, ?_, by omega, by omega⟩
      · obtain ⟨freed, freedFound, freedCapacity, freedCount⟩ :=
          bumped_release present enough member before
        obtain ⟨taken, takenFound, takenCapacity, takenCount⟩ :=
          bumped_registeredCount freedFound old.gathering 1
        refine ⟨taken, takenFound, takenCapacity.trans freedCapacity, ?_⟩
        rw [takenCount, freedCount]
        simp only [adjustCounter]
        split <;> omega
      · have freed := seated_replace resaved.found gathering
        have taken := seated_replace (promoted_found waiting) gathering
        have sameEvent := resaved.same.gathering
        by_cases here : old.gathering = gathering <;>
          simp_all [RegistrationTable.seated, Registration.seatedFor, RegistrationStatus.seated]
  | checkIn old new resaved before after =>
    refine ⟨0, ?_, ?_, by omega, by omega⟩
    · obtain ⟨later, laterFound, capacity, count⟩ :=
        bumped_checkedInCount present old.gathering 1
      exact ⟨later, laterFound, capacity, by omega⟩
    · have seats := seated_replace resaved.found gathering
      have sameEvent := resaved.same.gathering
      rcases before with before | before <;>
        simp_all [RegistrationTable.seated, Registration.seatedFor, RegistrationStatus.seated]

/-- Every elementary step keeps the drift. -/
theorem Drifted.step {gathering : String} {drift : Nat} {tables next : Tables}
    (drifted : Drifted gathering drift tables) (step : SeatStep tables next) :
    Drifted gathering drift next := by
  obtain ⟨event, present, count⟩ := drifted
  obtain ⟨delta, ⟨after, found, -, afterCount⟩, seats, -, -⟩ := step.change present (by omega)
  exact ⟨after, found, by omega⟩

/-- Every elementary step keeps the count. -/
theorem Counted.step {gathering : String} {capacity : Option Int} {tables next : Tables}
    (counted : Counted gathering capacity tables) (step : SeatStep tables next) :
    Counted gathering capacity next := by
  obtain ⟨event, present, fixed, count⟩ := counted.counter
  obtain ⟨delta, ⟨after, found, kept, afterCount⟩, seats, room, -⟩ :=
    step.change present (by omega)
  refine ⟨⟨after, found, kept.trans fixed, by omega⟩, ?_, counted.single.step step⟩
  intro limit limitEq positive
  have before := counted.limited limit limitEq positive
  by_cases grows : 0 < delta
  · -- A seat was given, so one was left.
    obtain ⟨rfl, decided⟩ := room grows
    rw [fixed, limitEq, capacityDecision_registered positive] at decided
    omega
  · omega

/-- A gathering without rows whose counter is zero is counted. -/
theorem Counted.initial {tables : Tables} {gathering : String} {event : Gathering}
    (present : tables.gatherings gathering = some event)
    (empty : ∀ row ∈ tables.registrations.rows, row.gathering ≠ gathering)
    (zero : event.registeredCount = 0) :
    Counted gathering event.registrationCapacity tables := by
  have none_seated : tables.registrations.seated gathering = 0 := by
    apply (tables.registrations.count_eq_zero _).mpr
    intro row member
    simp [Registration.seatedFor, empty row member]
  refine ⟨⟨event, present, rfl, by simp [zero, none_seated]⟩, ?_, ?_⟩
  · intro limit _ positive
    simp [none_seated]
    omega
  · intro left member _ _ leftEvent
    exact absurd leftEvent (empty left member)

/-- After every sequence of whole requests the counter of a gathering that started empty is
the number of its seated rows, each member has at most one row, and a positive capacity is
never exceeded. -/
theorem registeredCount_eq_seated (gathering : String) (event : Gathering) (db : Database)
    (present : db.gatherings gathering = some event)
    (empty : ∀ row ∈ db.registrations.rows, row.gathering ≠ gathering)
    (zero : event.registeredCount = 0) (calls : List Call) :
    let last := runAll Call.perform db calls
    (∃ counted, last.gatherings gathering = some counted ∧
      counted.registrationCapacity = event.registrationCapacity ∧
      counted.registeredCount = last.registrations.seated gathering) ∧
    OneRowEach gathering last.registrations ∧
    ∀ limit, event.registrationCapacity = some limit → 0 < limit →
      (last.registrations.seated gathering : Int) ≤ limit := by
  have counted := runAll_perform_keeps (fun _ _ held step => Counted.step held step) calls db
    (Counted.initial present empty zero)
  exact ⟨counted.counter, counted.single, counted.limited⟩

/-- A site run by an administrator of every branch, on which every member belongs to branch
`north` and rows are named by the clock. -/
def northSite (now : Int) : Site where
  user := "admin"
  now := now
  roles _ := [Permissions.roleOrgAdmin]
  permissionGateway := ⟨fun _ => [Permissions.roleOrgAdmin], fun _ => []⟩
  linkedMember _ := none
  linkedUser _ := none
  fullName _ := none
  branchOrganization _ := none
  memberBranch _ := some "north"
  memberGroups _ := []
  groupSubtree _ := .ok []
  branchSubtree _ := .ok []
  hasValidInvitation _ _ := .ok false
  newName db := "REG-" ++ toString db.clock

/-- An approved one-time event of branch `north` with one seat. -/
def camp : Gathering where
  branch := some "north"
  group := some "youth"
  eventCategory := some "One-time"
  approvalStatus := some "Approved"
  registrationScope := some scopeBranch
  registrationCapacity := some 1

/-- The database that holds the camp and no registration. -/
def campDatabase : Database where
  gatherings name := if name = "camp" then some camp else none
  registrations := .empty Registration.name

/-- A member registers at a time. -/
def joinCamp (now : Int) (member : String) : Call :=
  .register (northSite now) "camp" (some member) "Self"

/-- The seat goes from the member who cancels to the one who waited. -/
theorem registeredCount_eq_seated_camp :
    let last := runAll Call.perform campDatabase
      [joinCamp 1 "ann", joinCamp 2 "ben", .cancel (northSite 3) "REG-0"]
    (∃ counted, last.gatherings "camp" = some counted ∧
      counted.registrationCapacity = camp.registrationCapacity ∧
      counted.registeredCount = last.registrations.seated "camp") ∧
    OneRowEach "camp" last.registrations ∧
    ∀ limit, camp.registrationCapacity = some limit → 0 < limit →
      (last.registrations.seated "camp" : Int) ≤ limit :=
  registeredCount_eq_seated "camp" camp campDatabase (by decide) (by decide) (by decide) _

end FlockOs.EventRegistration
