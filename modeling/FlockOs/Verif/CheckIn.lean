import FlockOs.Verif.Seats

/-!
# The check-in counter

A check-in bumps the counter of its gathering whatever the status of the row was, and the
transition guard lets a row that is checked in already through once more. So the counter
exceeds the checked-in rows by the number of repeated check-ins.
-/

namespace FlockOs.EventRegistration

open Lib Registrations

/-- The row is a checked-in registration of the gathering. -/
def Registration.checkedInFor (gathering : String) (row : Registration) : Bool :=
  decide (row.gathering = gathering) && decide (row.registrationStatus = .checkedIn)

/-- The number of checked-in registrations of a gathering. -/
def RegistrationTable.checkedIn (registrations : RegistrationTable) (gathering : String) : Nat :=
  registrations.count (Registration.checkedInFor gathering)

/-- The counter of a gathering exceeds its checked-in rows by `drift`. -/
def CheckInDrift (gathering : String) (drift : Nat) (tables : Tables) : Prop :=
  ∃ event, tables.gatherings gathering = some event ∧
    event.checkedInCount = tables.registrations.checkedIn gathering + drift

/-- The counter of a gathering is the number of its checked-in rows. -/
def CheckInsMatch (gathering : String) (tables : Tables) : Prop :=
  ∃ event, tables.gatherings gathering = some event ∧
    event.checkedInCount = tables.registrations.checkedIn gathering

/-- The request is a check-in that gets past its guards on a registration of the gathering that
is checked in already. -/
def repeatsCheckIn (gathering : String) (db : Database) : Call → Bool
  | .checkIn site registrationId _ =>
    match checkInRegistrationRead site db registrationId with
    | .ok doc => doc.checkedInFor gathering
    | .error _ => false
  | _ => false

/-- The check-ins after an insertion. -/
theorem checkedIn_add (registrations : RegistrationTable) (row : Registration)
    (fresh : row.name ∉ registrations.rows.map Registration.name) (gathering : String) :
    RegistrationTable.checkedIn (registrations.add row fresh) gathering =
      registrations.checkedIn gathering + if row.checkedInFor gathering then 1 else 0 :=
  Table.count_add fresh _

/-- The check-ins after a replacement. -/
theorem checkedIn_replace {registrations : RegistrationTable} {old new : Registration}
    (found : registrations.find? new.name = some old) (gathering : String) :
    RegistrationTable.checkedIn (registrations.replace new) gathering +
        (if old.checkedInFor gathering then 1 else 0) =
      registrations.checkedIn gathering + if new.checkedInFor gathering then 1 else 0 :=
  Table.count_replace _ found

/-- A row that is not checked in is not counted. -/
theorem checkedInFor_of_ne {row : Registration} (gathering : String)
    (status : row.registrationStatus ≠ .checkedIn) : row.checkedInFor gathering = false := by
  simp [Registration.checkedInFor, status]

/-- A replacement of a row that is not checked in by one that is not either is not counted. -/
theorem checkedIn_replace_same {registrations : RegistrationTable} {old new : Registration}
    (found : registrations.find? new.name = some old) (gathering : String)
    (before : old.registrationStatus ≠ .checkedIn) (after : new.registrationStatus ≠ .checkedIn) :
    RegistrationTable.checkedIn (registrations.replace new) gathering =
      registrations.checkedIn gathering := by
  have counted := checkedIn_replace found gathering
  rw [checkedInFor_of_ne gathering before, checkedInFor_of_ne gathering after] at counted
  simpa using counted

/-- A bump of the seat counter leaves the drift alone. -/
theorem CheckInDrift.bump {gathering : String} {drift : Nat}
    {gatherings : String → Option Gathering} {registrations : RegistrationTable} {clock : Nat}
    (drifted : CheckInDrift gathering drift ⟨gatherings, registrations, clock⟩) (name : String)
    (delta : Int) :
    CheckInDrift gathering drift
      ⟨bumped gatherings name .registeredCount delta, registrations, clock⟩ := by
  obtain ⟨event, present, count⟩ := drifted
  change gatherings gathering = some event at present
  by_cases here : gathering = name
  · subst here
    exact ⟨event.bump .registeredCount delta, by simp [bumped, present], count⟩
  · exact ⟨event, by simp [bumped, here, present], count⟩

/-- Registrations with the same check-ins drift the same. -/
theorem CheckInDrift.congr {gathering : String} {drift : Nat} {tables : Tables}
    (drifted : CheckInDrift gathering drift tables) {registrations : RegistrationTable}
    (clock : Nat)
    (same : registrations.checkedIn gathering = tables.registrations.checkedIn gathering) :
    CheckInDrift gathering drift ⟨tables.gatherings, registrations, clock⟩ := by
  obtain ⟨event, present, count⟩ := drifted
  exact ⟨event, present, by rw [same]; exact count⟩

/-- A claim keeps the drift. -/
theorem CheckInDrift.claim {gathering : String} {drift : Nat} {tables next : Tables}
    (drifted : CheckInDrift gathering drift tables) (step : ClaimStep tables next) :
    CheckInDrift gathering drift next := by
  have added : ∀ (row : Registration) (insertable : Insertable tables row),
      row.registrationStatus ≠ .checkedIn →
      RegistrationTable.checkedIn (tables.registrations.add row insertable.fresh) gathering =
        tables.registrations.checkedIn gathering := by
    intro row insertable status
    rw [checkedIn_add, checkedInFor_of_ne gathering status]
    simp
  cases step with
  | seat row insertable event found status decided =>
    exact (drifted.congr _ (added row insertable (by simp [status]))).bump _ _
  | wait row insertable event found status decided =>
    exact drifted.congr _ (added row insertable (by simp [status]))

/-- A cancellation keeps the drift. -/
theorem CheckInDrift.cancel {gathering : String} {drift : Nat} {tables next : Tables}
    (drifted : CheckInDrift gathering drift tables) (step : CancelStep tables next) :
    CheckInDrift gathering drift next := by
  cases step with
  | withdraw old new resaved before after =>
    have idle : old.registrationStatus ≠ .checkedIn := by
      rcases before with before | before <;> simp [before]
    exact drifted.congr _ (checkedIn_replace_same resaved.found gathering idle (by simp [after]))
  | release old new resaved before after drained =>
    have same := checkedIn_replace_same resaved.found gathering (by simp [before])
      (by simp [after])
    exact (drifted.congr _ same).bump _ _
  | promote old new chosen resaved before after waiting event waits senior =>
    have cancelled := checkedIn_replace_same resaved.found gathering (by simp [before])
      (by simp [after])
    have promoted := checkedIn_replace_same (promoted_found waiting) gathering (by simp [waits])
      (by simp)
    exact ((drifted.congr _ (promoted.trans cancelled)).bump _ _).bump _ _

/-- A check-in raises the drift by one if its row was checked in already. -/
theorem CheckInDrift.checkIn {gathering : String} {drift : Nat} {tables : Tables}
    (drifted : CheckInDrift gathering drift tables) {old new : Registration}
    (resaved : Resaved tables old new) (after : new.registrationStatus = .checkedIn) :
    CheckInDrift gathering (drift + if old.checkedInFor gathering then 1 else 0)
      ⟨bumped tables.gatherings old.gathering .checkedInCount 1,
        tables.registrations.replace new, tables.clock + 1⟩ := by
  obtain ⟨event, present, count⟩ := drifted
  have counted := checkedIn_replace resaved.found gathering
  have sameEvent := resaved.same.gathering
  by_cases here : old.gathering = gathering
  · have isNew : new.checkedInFor gathering = true := by
      simp [Registration.checkedInFor, after, sameEvent, here]
    rw [isNew] at counted
    refine ⟨event.bump .checkedInCount 1, by simp [bumped, here, present], ?_⟩
    simp only [Gathering.bump, adjustCounter, if_true, Int.zero_lt_one] at counted ⊢
    split at counted <;> simp_all <;> omega
  · have notOld : old.checkedInFor gathering = false := by
      simp [Registration.checkedInFor, here]
    have notNew : new.checkedInFor gathering = false := by
      simp [Registration.checkedInFor, sameEvent, here]
    rw [notOld, notNew] at counted
    refine ⟨event, by simp [bumped, Ne.symm here, present], ?_⟩
    rw [notOld]
    simp only [Bool.false_eq_true, if_false, Nat.add_zero] at counted ⊢
    rw [counted]
    exact count

/-- A check-in whose row passes the checks does not raise. -/
theorem checkInRegistrationWrite_ne_error (site : Site) {db : Database} {doc : Registration}
    (attendanceRef : Option String) (found : db.registrations.find? doc.name = some doc)
    (storable : Storable db.toTables doc) (raised : Error) :
    checkInRegistrationWrite site db doc attendanceRef ≠ .error raised := by
  intro failed
  have save : ∀ linked, ∃ stored saved, saveRegistration site db
      { doc with
        registrationStatus := .checkedIn
        checkedInAttendance := linked } = .ok (stored, saved) := by
    intro linked
    exact saveRegistration_succeeds site found rfl
      (storable.transfer ⟨rfl, rfl, rfl, rfl, rfl, rfl⟩ rfl rfl)
  unfold checkInRegistrationWrite at failed
  obtain ⟨stored, saved, done⟩ :=
    save ((truthy attendanceRef).orElse fun _ => doc.checkedInAttendance)
  simp only at failed
  rw [done] at failed
  cases failed

/-- A check-in raises the drift by one if it repeats one, and keeps it otherwise. -/
theorem CheckInDrift.performCheckIn {gathering : String} {drift : Nat} {db : Database}
    (site : Site) (registrationId : String) (attendanceRef : Option String)
    (drifted : CheckInDrift gathering drift db.toTables)
    (storable : StorableRows gathering db.toTables) :
    CheckInDrift gathering
      (drift + if repeatsCheckIn gathering db (.checkIn site registrationId attendanceRef)
        then 1 else 0)
      (Call.perform db (.checkIn site registrationId attendanceRef)).toTables := by
  cases done : checkInRegistration site db registrationId attendanceRef with
  | ok result =>
    obtain ⟨receipt, next⟩ := result
    obtain ⟨doc, stored, read, resaved, status, changed⟩ := checkInRegistration_ok done
    simp only [Call.perform, done, committed, changed, repeatsCheckIn, read]
    exact drifted.checkIn resaved status
  | error raised =>
    -- The guards refused the check-in, for a row of the gathering that passes the checks does
    -- not fail later.
    have first : repeatsCheckIn gathering db (.checkIn site registrationId attendanceRef) =
        false := by
      cases read : checkInRegistrationRead site db registrationId with
      | error refused => simp only [repeatsCheckIn, read]
      | ok doc =>
        simp only [repeatsCheckIn, read]
        by_contra again
        simp only [Registration.checkedInFor, Bool.not_eq_false, Bool.and_eq_true,
          decide_eq_true_eq] at again
        obtain ⟨found, -, -⟩ := checkInRegistrationRead_ok read
        have inside := (db.registrations.find?_eq_some.mp found).1
        simp only [checkInRegistration, read] at done
        exact checkInRegistrationWrite_ne_error site attendanceRef found
          (storable doc inside again.1) raised done
    simp only [Call.perform, done, committed, first]
    exact drifted

/-- Every request raises the drift by one if it repeats a check-in, and keeps it otherwise. -/
theorem CheckInDrift.perform {gathering : String} {drift : Nat} {db : Database} (call : Call)
    (drifted : CheckInDrift gathering drift db.toTables)
    (storable : StorableRows gathering db.toTables) :
    CheckInDrift gathering (drift + if repeatsCheckIn gathering db call then 1 else 0)
      (call.perform db).toTables := by
  by_cases other : ∀ site registrationId attendanceRef,
      call ≠ .checkIn site registrationId attendanceRef
  · have uncounted : repeatsCheckIn gathering db call = false := by
      cases call with
      | checkIn site registrationId attendanceRef => exact absurd rfl (other _ _ _)
      | register => rfl
      | cancel => rfl
      | bulk => rfl
    rw [uncounted]
    rcases perform_claims_or_cancels db call other with claims | cancel
    · exact claims_keep (CheckInDrift gathering drift) (fun _ _ held claim => held.claim claim)
        claims drifted
    · exact drifted.cancel cancel
  · simp only [not_forall, not_not] at other
    obtain ⟨site, registrationId, attendanceRef, rfl⟩ := other
    exact drifted.performCheckIn site registrationId attendanceRef storable

/-- The counter of a gathering that started without rows exceeds its checked-in rows by the
number of repeated check-ins. -/
theorem drift_eq_repeats {gathering : String} {event : Gathering} {db : Database}
    (present : db.gatherings gathering = some event)
    (empty : ∀ row ∈ db.registrations.rows, row.gathering ≠ gathering)
    (zero : event.checkedInCount = 0) (calls : List Call) :
    CheckInDrift gathering (callCount Call.perform (repeatsCheckIn gathering) db calls)
      (runAll Call.perform db calls).toTables := by
  have uncounted : db.registrations.checkedIn gathering = 0 := by
    apply (db.registrations.count_eq_zero _).mpr
    intro row member
    simp [Registration.checkedInFor, empty row member]
  let sound (drift : Nat) (db : Database) : Prop :=
    CheckInDrift gathering drift db.toTables ∧ StorableRows gathering db.toTables
  have kept : ∀ drift db call, sound drift db →
      sound (drift + if repeatsCheckIn gathering db call then 1 else 0) (call.perform db) := by
    rintro drift db call ⟨drifted, storable⟩
    exact ⟨drifted.perform call storable,
      perform_keeps (fun _ _ held step => StorableRows.step held step) db call storable⟩
  have initial : sound 0 db :=
    ⟨⟨event, present, by simp [zero, uncounted]⟩,
      fun row member ofEvent => absurd ofEvent (empty row member)⟩
  have last := (runAll_counted sound kept calls db 0 initial).1
  rwa [Nat.zero_add] at last

/-- After every sequence of whole requests the check-in counter of a gathering that started
empty is the number of its checked-in rows exactly if no check-in was let through on a row
that was checked in already. -/
theorem checkedInCount_iff (gathering : String) (event : Gathering) (db : Database)
    (present : db.gatherings gathering = some event)
    (empty : ∀ row ∈ db.registrations.rows, row.gathering ≠ gathering)
    (zero : event.checkedInCount = 0) (calls : List Call) :
    CheckInsMatch gathering (runAll Call.perform db calls).toTables ↔
      EveryCall Call.perform (fun db call => repeatsCheckIn gathering db call = false) db calls := by
  rw [← callCount_eq_zero]
  obtain ⟨counted, found, count⟩ := drift_eq_repeats present empty zero calls
  constructor
  · rintro ⟨other, same, agree⟩
    obtain rfl := Option.some.inj (found.symm.trans same)
    omega
  · intro never
    rw [never] at count
    exact ⟨counted, found, by simpa using count⟩

/-- Ann registers for the camp and is checked in twice. -/
def annTwice : List Call :=
  [joinCamp 1 "ann", .checkIn (northSite 2) "REG-0" none, .checkIn (northSite 3) "REG-0" none]

/-- The camp without rows is a gathering to start from. -/
theorem checkedInCount_iff_camp :
    CheckInsMatch "camp" (runAll Call.perform campDatabase annTwice).toTables ↔
      EveryCall Call.perform (fun db call => repeatsCheckIn "camp" db call = false) campDatabase
        annTwice :=
  checkedInCount_iff "camp" camp campDatabase (by decide) (by decide) (by decide) annTwice

/-- The counter shows two check-ins, and one row is checked in. -/
theorem annTwice_counts_twice :
    ¬ CheckInsMatch "camp" (runAll Call.perform campDatabase annTwice).toTables := by
  rintro ⟨event, found, count⟩
  have counter : (runAll Call.perform campDatabase annTwice).gatherings "camp" =
      some { camp with
        registeredCount := 1
        checkedInCount := 2 } := by decide
  have rows : (runAll Call.perform campDatabase annTwice).registrations.checkedIn "camp" = 1 := by
    decide
  obtain rfl := Option.some.inj (counter.symm.trans found)
  rw [rows] at count
  cases count

end FlockOs.EventRegistration
