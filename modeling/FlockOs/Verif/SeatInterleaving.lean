import FlockOs.Interleaving
import FlockOs.Verif.Seats

/-!
# The seat counter under interleaving

The document that a request in progress holds is out of date in one way only that its save
does not notice: a promotion has turned the waitlisted row into a registered one
(`Held.current`). A cancellation that commits on such a row releases no seat, and leaves the
counter one too high for good; every other commit is an elementary step or changes nothing.
So the counter exceeds the seats by the number of late cancellations.
-/

namespace FlockOs.EventRegistration

open Lib Registrations

/-- The row of a document read as waitlisted has been promoted, and not saved, since. -/
def promotedSince (gathering : String) (registrations : RegistrationTable)
    (doc : Registration) : Bool :=
  match registrations.find? doc.name with
  | none => false
  | some row => decide (row.gathering = gathering ∧ row.modified = doc.modified ∧
      doc.registrationStatus = .waitlisted ∧ row.registrationStatus = .registered)

/-- What a request holds is a cancellation of a registration of the gathering that was
waitlisted when it was read and has been promoted since. -/
def Pending.late (gathering : String) (registrations : RegistrationTable) : Pending → Bool
  | .cancel _ doc => promotedSince gathering registrations doc
  | _ => false

/-- The step commits such a cancellation. -/
def lateCancel (gathering : String) (state : Interleaved) : Action → Bool
  | .read _ _ => false
  | .commit id =>
    match state.pending id with
    | none => false
    | some pending => pending.late gathering state.db.registrations

/-- What a commit does to the tables. -/
inductive CommitStep : Tables → Tables → Prop where
  /-- Nothing. -/
  | refused {tables : Tables} : CommitStep tables tables
  /-- An elementary step. -/
  | step {tables next : Tables} (step : SeatStep tables next) : CommitStep tables next
  /-- A registered row is cancelled, and its seat is not released. -/
  | late {tables : Tables} (old new : Registration) (resaved : Resaved tables old new)
      (before : old.registrationStatus = .registered)
      (after : new.registrationStatus = .cancelled) :
      CommitStep tables ⟨tables.gatherings, tables.registrations.replace new, tables.clock + 1⟩

/-- What commits do to the rows and their stamps: a row is saved with a new stamp, or kept,
or promoted under its stamp. -/
structure Advance (tables next : Tables) : Prop where
  /-- The clock does not go back. -/
  clock : tables.clock ≤ next.clock
  /-- The rows. -/
  rows : ∀ row ∈ next.registrations.rows,
    (tables.clock ≤ row.modified ∧ row.modified < next.clock) ∨
    row ∈ tables.registrations.rows ∨
    ∃ waiting ∈ tables.registrations.rows, waiting.registrationStatus = .waitlisted ∧
      row = { waiting with registrationStatus := .registered }

/-- An inserted row carries a new stamp. -/
theorem Advance.add {tables : Tables} (gatherings : String → Option Gathering)
    {row : Registration} (insertable : Insertable tables row) :
    Advance tables ⟨gatherings, tables.registrations.add row insertable.fresh,
      tables.clock + 1⟩ := by
  refine ⟨Nat.le_succ _, fun other member => ?_⟩
  rcases (Table.mem_add insertable.fresh).mp member with old | rfl
  · exact .inr (.inl old)
  · exact .inl ⟨insertable.stamp.ge, insertable.stamp.trans_lt (Nat.lt_succ_self _)⟩

/-- A saved row carries a new stamp. -/
theorem Advance.replace {tables : Tables} (gatherings : String → Option Gathering)
    {old new : Registration} (resaved : Resaved tables old new) :
    Advance tables ⟨gatherings, tables.registrations.replace new, tables.clock + 1⟩ := by
  refine ⟨Nat.le_succ _, fun other member => ?_⟩
  rcases (Table.mem_replace resaved.found).mp member with rfl | ⟨kept, -⟩
  · exact .inl ⟨resaved.stamp.ge, resaved.stamp.trans_lt (Nat.lt_succ_self _)⟩
  · exact .inr (.inl kept)

/-- Every elementary step advances the stamps. -/
theorem SeatStep.advance {tables next : Tables} (step : SeatStep tables next) :
    Advance tables next := by
  cases step with
  | claim claim =>
    cases claim with
    | seat row insertable event found status decided => exact .add _ insertable
    | wait row insertable event found status decided => exact .add _ insertable
  | cancel cancel =>
    cases cancel with
    | withdraw old new resaved before after => exact .replace _ resaved
    | release old new resaved before after drained => exact .replace _ resaved
    | promote old new chosen resaved before after waiting event waits senior =>
      have cancelled := Advance.replace tables.gatherings resaved
      refine ⟨Nat.le_succ _, fun other member => ?_⟩
      rcases (Table.mem_replace (promoted_found waiting)).mp member with rfl | ⟨kept, -⟩
      · -- The promoted row keeps the stamp of the waiting row, which was not the one saved.
        have member := ((tables.registrations.replace new).find?_eq_some.mp waiting).1
        rcases (Table.mem_replace resaved.found).mp member with rfl | ⟨inside, -⟩
        · rw [after] at waits
          cases waits
        · exact .inr (.inr ⟨chosen, inside, waits, rfl⟩)
      · exact cancelled.rows other kept
  | checkIn old new resaved before after => exact .replace _ resaved

/-- Every commit advances the stamps. -/
theorem CommitStep.advance {tables next : Tables} (step : CommitStep tables next) :
    Advance tables next := by
  cases step with
  | refused => exact ⟨Nat.le_refl _, fun _ member => .inr (.inl member)⟩
  | step step => exact step.advance
  | late old new resaved before after => exact .replace _ resaved

/-- Stored stamps stay older than the next one. -/
theorem Advance.stamped {tables next : Tables} (advance : Advance tables next)
    (stamped : ∀ row ∈ tables.registrations.rows, row.modified < tables.clock) :
    ∀ row ∈ next.registrations.rows, row.modified < next.clock := by
  intro row member
  rcases advance.rows row member with ⟨-, recent⟩ | inside | ⟨waiting, inside, -, rfl⟩
  · exact recent
  · exact (stamped row inside).trans_le advance.clock
  · exact (stamped waiting inside).trans_le advance.clock

/-- A document read earlier: its stamp is old, and as long as its row carries that stamp the
row is the document, or the promoted version of a document read as waitlisted. -/
structure Held (tables : Tables) (doc : Registration) : Prop where
  /-- An old stamp. -/
  older : doc.modified < tables.clock
  /-- The row under the stamp. -/
  current : ∀ row, tables.registrations.find? doc.name = some row →
    row.modified = doc.modified → row = doc ∨
      (doc.registrationStatus = .waitlisted ∧
        row = { doc with registrationStatus := .registered })

/-- A held document stays held. -/
theorem Held.advance {tables next : Tables} {doc : Registration} (held : Held tables doc)
    (advance : Advance tables next) : Held next doc := by
  refine ⟨held.older.trans_le advance.clock, fun row found stamp => ?_⟩
  obtain ⟨member, named⟩ := next.registrations.find?_eq_some.mp found
  rcases advance.rows row member with ⟨recent, -⟩ | inside | ⟨waiting, inside, waits, rfl⟩
  · exact absurd (stamp ▸ recent) (Nat.not_le.mpr held.older)
  · exact held.current row (tables.registrations.find?_eq_some.mpr ⟨inside, named⟩) stamp
  · rcases held.current waiting (tables.registrations.find?_eq_some.mpr ⟨inside, named⟩) stamp
      with rfl | ⟨-, rfl⟩
    · exact .inr ⟨waits, rfl⟩
    · cases waits

/-- The row of a held document is the same entry while it carries the document's stamp. -/
theorem Held.same {tables : Tables} {doc row : Registration} (held : Held tables doc)
    (found : tables.registrations.find? doc.name = some row)
    (stamp : row.modified = doc.modified) : SameEntry row doc := by
  rcases held.current row found stamp with rfl | ⟨-, rfl⟩
  · exact .refl _
  · exact ⟨rfl, rfl, rfl, rfl, rfl, rfl⟩

/-- What a request in progress holds is in order. -/
def Pending.Valid (tables : Tables) : Pending → Prop
  | .register _ _ => True
  | .cancel _ doc => Held tables doc ∧
      isValidRegistrationTransition doc.registrationStatus .cancelled = true
  | .checkIn _ doc _ => Held tables doc ∧
      isValidRegistrationTransition doc.registrationStatus .checkedIn = true

/-- It stays in order. -/
theorem Pending.Valid.advance {tables next : Tables} {pending : Pending}
    (valid : pending.Valid tables) (advance : Advance tables next) : pending.Valid next := by
  cases pending with
  | register site plan => trivial
  | cancel site doc => exact ⟨valid.1.advance advance, valid.2⟩
  | checkIn site doc attendanceRef => exact ⟨valid.1.advance advance, valid.2⟩

/-- A row that was just read is held. -/
theorem Held.read {tables : Tables} {doc : Registration}
    (stamped : ∀ row ∈ tables.registrations.rows, row.modified < tables.clock)
    (found : tables.registrations.find? doc.name = some doc) : Held tables doc := by
  refine ⟨stamped doc (tables.registrations.find?_eq_some.mp found).1, fun row again _ => ?_⟩
  exact .inl (Option.some.inj (again.symm.trans found))

/-- What a request reads is in order. -/
theorem Request.read_valid {db : Database} {request : Request} {pending : Pending}
    (stamped : ∀ row ∈ db.registrations.rows, row.modified < db.clock)
    (read : request.read db = some pending) : pending.Valid db.toTables := by
  cases request with
  | register site gathering member via =>
    simp only [Request.read] at read
    split at read
    · obtain rfl := Option.some.inj read
      trivial
    · cases read
  | cancel site registrationId =>
    simp only [Request.read] at read
    split at read
    · rename_i doc done
      obtain rfl := Option.some.inj read
      obtain ⟨found, -, valid⟩ := cancelRegistrationRead_ok done
      exact ⟨.read stamped found, valid⟩
    · cases read
  | checkIn site registrationId attendanceRef =>
    simp only [Request.read] at read
    split at read
    · rename_i doc done
      obtain rfl := Option.some.inj read
      obtain ⟨found, -, valid⟩ := checkInRegistrationRead_ok done
      exact ⟨.read stamped found, valid⟩
    · cases read

/-- Every commit keeps the rows storable. -/
theorem CommitStep.storable {gathering : String} {tables next : Tables}
    (step : CommitStep tables next) (storable : StorableRows gathering tables) :
    StorableRows gathering next := by
  cases step with
  | refused => exact storable
  | step step => exact storable.step step
  | late old new resaved before after => exact storable.replace _ resaved.found resaved.same

/-- A late cancellation of a row of the gathering raises the drift by one. -/
theorem Drifted.late {gathering : String} {drift : Nat} {tables : Tables}
    {old new : Registration} (drifted : Drifted gathering drift tables)
    (resaved : Resaved tables old new) (before : old.registrationStatus = .registered)
    (after : new.registrationStatus = .cancelled) :
    Drifted gathering (drift + if old.gathering = gathering then 1 else 0)
      ⟨tables.gatherings, tables.registrations.replace new, tables.clock + 1⟩ := by
  obtain ⟨event, present, count⟩ := drifted
  refine ⟨event, present, ?_⟩
  have seats := seated_replace resaved.found gathering
  have sameEvent := resaved.same.gathering
  rw [count]
  by_cases here : old.gathering = gathering
  · simp [Registration.seatedFor, RegistrationStatus.seated, here, before, after] at seats
    simp only [here, if_true]
    omega
  · simp [Registration.seatedFor, here, sameEvent] at seats
    simp only [here, if_false]
    omega

/-- A save that goes through finds the row under the stamp that the document carries. -/
theorem saveRegistration_found {site : Site} {db saved : Database} {doc stored : Registration}
    (done : saveRegistration site db doc = .ok (stored, saved)) :
    ∃ current, db.registrations.find? doc.name = some current ∧
      current.modified = doc.modified := by
  unfold saveRegistration at done
  obtain ⟨current, loaded, done⟩ := bind_eq_ok_iff.mp done
  unfold getRegistration at loaded
  split at loaded
  · cases loaded
  · rename_i row found
    obtain rfl := Except.ok.inj loaded
    split at done
    · cases done
    · rename_i unchanged
      exact ⟨row, found, not_not.mp unchanged⟩

/-- A cancellation whose row passes the checks and carries the stamp does not raise. -/
theorem cancelRegistrationWrite_ne_error (site : Site) {db : Database}
    {doc current : Registration} (found : db.registrations.find? doc.name = some current)
    (same : SameEntry current doc) (unchanged : current.modified = doc.modified)
    (storable : Storable db.toTables current) (raised : Error) :
    cancelRegistrationWrite site db doc ≠ .error raised := by
  intro failed
  have cancelled : Storable db.toTables { doc with registrationStatus := .cancelled } :=
    storable.transfer ⟨same.name, same.gathering, same.registrant, same.registeredAt,
      same.branch, same.group⟩ rfl rfl
  have row : db.registrations.find?
      { doc with registrationStatus := .cancelled : Registration }.name = some current := found
  obtain ⟨stored, saved, save⟩ := saveRegistration_succeeds site row unchanged cancelled
  unfold cancelRegistrationWrite at failed
  rw [save] at failed
  cases failed

/-- A row found under the stamp of a document that has been promoted since. -/
theorem promotedSince_iff {gathering : String} {registrations : RegistrationTable}
    {doc row : Registration} (found : registrations.find? doc.name = some row) :
    promotedSince gathering registrations doc = true ↔
      row.gathering = gathering ∧ row.modified = doc.modified ∧
        doc.registrationStatus = .waitlisted ∧ row.registrationStatus = .registered := by
  simp [promotedSince, found]

/-- The commit of a cancellation is accounted for: late, it raises the drift; otherwise it is
an elementary step or nothing. -/
theorem cancel_commit {gathering : String} {drift : Nat} (site : Site) {db : Database}
    {doc : Registration} (held : Held db.toTables doc)
    (valid : isValidRegistrationTransition doc.registrationStatus .cancelled = true)
    (storable : StorableRows gathering db.toTables)
    (drifted : Drifted gathering drift db.toTables) :
    let next := committed db (cancelRegistrationWrite site db doc)
    CommitStep db.toTables next.toTables ∧
      Drifted gathering
        (drift + if promotedSince gathering db.registrations doc then 1 else 0)
        next.toTables := by
  intro next
  cases done : cancelRegistrationWrite site db doc with
  | error raised =>
    have unchanged : next = db := by simp only [next, done, committed]
    have onTime : promotedSince gathering db.registrations doc = false := by
      by_contra late
      rw [Bool.not_eq_false] at late
      cases found : db.registrations.find? doc.name with
      | none => simp [promotedSince, found] at late
      | some row =>
        obtain ⟨event, stamp, -, -⟩ := (promotedSince_iff found).mp late
        have inside := (db.registrations.find?_eq_some.mp found).1
        exact cancelRegistrationWrite_ne_error site found (held.same found stamp) stamp
          (storable row inside event) raised done
    rw [unchanged, onTime]
    exact ⟨.refused, drifted⟩
  | ok result =>
    obtain ⟨receipt, after⟩ := result
    have reached : next = after := by simp only [next, done, committed]
    rw [reached]
    have save := done
    unfold cancelRegistrationWrite at save
    obtain ⟨⟨stored, saved⟩, save, -⟩ := bind_eq_ok_iff.mp save
    obtain ⟨current, found, stamp⟩ := saveRegistration_found save
    change db.registrations.find? doc.name = some current at found
    change current.modified = doc.modified at stamp
    rcases held.current current found stamp with rfl | ⟨waited, rfl⟩
    · -- The row is still the document that was read.
      have step := SeatStep.cancel (cancelRegistrationWrite_step found (.refl current) rfl valid done)
      have onTime : promotedSince gathering db.registrations current = false := by
        rw [Bool.eq_false_iff]
        intro late
        obtain ⟨-, -, waits, holds⟩ := (promotedSince_iff found).mp late
        rw [waits] at holds
        cases holds
      rw [onTime]
      exact ⟨.step step, drifted.step step⟩
    · -- The row was promoted since it was read.
      obtain ⟨stored, resaved, status, changed⟩ := cancelRegistrationWrite_unseated found
        (held.same found stamp) (by simp [waited]) done
      have late := drifted.late resaved rfl status
      rw [changed]
      refine ⟨.late _ stored resaved rfl status, ?_⟩
      have counted : promotedSince gathering db.registrations doc =
          decide (doc.gathering = gathering) := by
        simp [promotedSince, found, waited]
      rw [counted]
      simpa using late

/-- Every commit is accounted for. -/
theorem commit_drift {gathering : String} {drift : Nat} {db : Database} {pending : Pending}
    (valid : pending.Valid db.toTables) (storable : StorableRows gathering db.toTables)
    (drifted : Drifted gathering drift db.toTables) :
    CommitStep db.toTables (pending.commit db).toTables ∧
      Drifted gathering (drift + if pending.late gathering db.registrations then 1 else 0)
        (pending.commit db).toTables := by
  cases pending with
  | register site plan =>
    simp only [Pending.commit, Pending.late, committed]
    split
    · rename_i receipt next done
      rcases (Relation.reflGen_iff _ _ _).mp (registerForEventWrite_step done) with same | claim
      · rw [same]
        exact ⟨.refused, drifted⟩
      · exact ⟨.step (.claim claim), drifted.step (.claim claim)⟩
    · exact ⟨.refused, drifted⟩
  | cancel site doc => exact cancel_commit site valid.1 valid.2 storable drifted
  | checkIn site doc attendanceRef =>
    simp only [Pending.commit, Pending.late, committed]
    split
    · rename_i receipt next done
      obtain ⟨held, allowed⟩ := valid
      have save := done
      unfold checkInRegistrationWrite at save
      obtain ⟨⟨stored, saved⟩, save, -⟩ := bind_eq_ok_iff.mp save
      obtain ⟨current, found, stamp⟩ := saveRegistration_found save
      change db.registrations.find? doc.name = some current at found
      change current.modified = doc.modified at stamp
      rcases held.current current found stamp with rfl | ⟨waited, rfl⟩
      · have step := checkInRegistrationWrite_step found (.refl current) rfl allowed done
        exact ⟨.step step, drifted.step step⟩
      · -- A waitlisted document does not pass the guard of a check-in.
        rw [waited] at allowed
        cases allowed
    · exact ⟨.refused, drifted⟩

/-- The state of a run: the counter exceeds the seats by the drift, the stamps are in order,
and so is what the requests in progress hold. -/
structure Sound (gathering : String) (drift : Nat) (state : Interleaved) : Prop where
  /-- The drift. -/
  drifted : Drifted gathering drift state.db.toTables
  /-- Stored stamps are older than the next one. -/
  stamped : ∀ row ∈ state.db.registrations.rows, row.modified < state.db.clock
  /-- The rows pass the checks. -/
  storable : StorableRows gathering state.db.toTables
  /-- The requests in progress. -/
  pending : ∀ id pending, state.pending id = some pending → pending.Valid state.db.toTables

/-- Every step of a request keeps the state sound, and raises the drift if it is a late
cancellation. -/
theorem Sound.step {gathering : String} (drift : Nat) (state : Interleaved) (action : Action)
    (sound : Sound gathering drift state) :
    Sound gathering (drift + if lateCancel gathering state action then 1 else 0)
      (state.step action) := by
  cases action with
  | read id request =>
    cases free : state.pending id with
    | some pending =>
      simp only [Interleaved.step, lateCancel, free]
      exact sound
    | none =>
      simp only [Interleaved.step, lateCancel, free]
      refine ⟨sound.drifted, sound.stamped, sound.storable, fun other pending found => ?_⟩
      dsimp only at found
      by_cases mine : other = id
      · subst mine
        rw [Function.update_self] at found
        exact Request.read_valid sound.stamped found
      · rw [Function.update_of_ne mine] at found
        exact sound.pending other pending found
  | commit id =>
    cases holds : state.pending id with
    | none =>
      simp only [Interleaved.step, lateCancel, holds]
      exact sound
    | some pending =>
      simp only [Interleaved.step, lateCancel, holds]
      obtain ⟨step, drifted⟩ :=
        commit_drift (sound.pending id pending holds) sound.storable sound.drifted
      have advance := step.advance
      refine ⟨drifted, advance.stamped sound.stamped, step.storable sound.storable,
        fun other pending found => ?_⟩
      by_cases mine : other = id
      · subst mine
        simp at found
      · simp only [Function.update_of_ne mine] at found
        exact (sound.pending other pending found).advance advance

/-- A database to start from: the counter of the gathering is right, the stamps are in order,
and the rows of the gathering pass the checks. -/
structure Consistent (gathering : String) (tables : Tables) : Prop where
  /-- The counter. -/
  counter : Drifted gathering 0 tables
  /-- The stamps. -/
  stamped : ∀ row ∈ tables.registrations.rows, row.modified < tables.clock
  /-- The rows. -/
  storable : StorableRows gathering tables

/-- A gathering without rows whose counter is zero is a gathering to start from. -/
theorem Consistent.initial {tables : Tables} {gathering : String} {event : Gathering}
    (present : tables.gatherings gathering = some event)
    (empty : ∀ row ∈ tables.registrations.rows, row.gathering ≠ gathering)
    (zero : event.registeredCount = 0)
    (stamped : ∀ row ∈ tables.registrations.rows, row.modified < tables.clock) :
    Consistent gathering tables := by
  refine ⟨?_, stamped, fun row member event => absurd event (empty row member)⟩
  obtain ⟨found, known, -, count⟩ := (Counted.initial present empty zero).counter
  exact ⟨found, known, by simpa using count⟩

/-- The counter of the gathering is the number of its rows that hold a seat. -/
def CounterMatches (gathering : String) (tables : Tables) : Prop :=
  ∃ event, tables.gatherings gathering = some event ∧
    event.registeredCount = tables.registrations.seated gathering

/-- Only a drift of zero matches. -/
theorem Drifted.matches_iff {gathering : String} {drift : Nat} {tables : Tables}
    (drifted : Drifted gathering drift tables) :
    CounterMatches gathering tables ↔ drift = 0 := by
  obtain ⟨event, present, count⟩ := drifted
  constructor
  · rintro ⟨other, found, agree⟩
    obtain rfl := Option.some.inj (present.symm.trans found)
    omega
  · rintro rfl
    exact ⟨event, present, by simpa using count⟩

/-- After every interleaving of requests, in progress or not, the counter exceeds the seats
by the number of late cancellations. -/
theorem drift_eq_lateCancels {gathering : String} {db : Database}
    (consistent : Consistent gathering db.toTables) (actions : List Action) :
    Drifted gathering (callCount Interleaved.step (lateCancel gathering) (.start db) actions)
      (runAll Interleaved.step (.start db) actions).db.toTables := by
  have initial : Sound gathering 0 (.start db) :=
    ⟨consistent.counter, consistent.stamped, consistent.storable, fun id held found => by
      cases found⟩
  have sound := runAll_counted (Sound gathering) Sound.step actions (.start db) 0 initial
  rw [Nat.zero_add] at sound
  exact sound.drifted

/-- After every interleaving of requests the counter is the number of seated rows exactly if
no cancellation read a registration as waitlisted and committed after its promotion. -/
theorem interleaved_counter_iff {gathering : String} {db : Database}
    (consistent : Consistent gathering db.toTables) (actions : List Action) :
    CounterMatches gathering (runAll Interleaved.step (.start db) actions).db.toTables ↔
      EveryCall Interleaved.step
        (fun state action => lateCancel gathering state action = false) (.start db) actions :=
  (drift_eq_lateCancels consistent actions).matches_iff.trans callCount_eq_zero

/-- A member registers for the camp at a time, without another request in between. -/
def joinCampAlone (now : Int) (member : String) : List Action :=
  [.read 0 (.register (northSite now) "camp" (some member) "Self"), .commit 0]

/-- Ann has the only seat and Ben waits. Ben's cancellation reads his waiting registration,
then Ann cancels and Ben is promoted, then Ben's cancellation commits. -/
def benCancelsLate : List Action :=
  joinCampAlone 1 "ann" ++ joinCampAlone 2 "ben" ++
    [.read 1 (.cancel (northSite 3) "REG-1"), .read 2 (.cancel (northSite 4) "REG-0"),
      .commit 2, .commit 1]

/-- The camp without rows is a gathering to start from. -/
theorem interleaved_counter_iff_camp :
    CounterMatches "camp"
        (runAll Interleaved.step (.start campDatabase) benCancelsLate).db.toTables ↔
      EveryCall Interleaved.step
        (fun state action => lateCancel "camp" state action = false) (.start campDatabase)
        benCancelsLate :=
  interleaved_counter_iff
    (.initial (show campDatabase.gatherings "camp" = some camp by decide) (by decide)
      (by decide) (by decide)) benCancelsLate

/-- Both have cancelled, no request is in progress, and the counter still shows a seat. -/
theorem benCancelsLate_keeps_a_seat :
    let last := runAll Interleaved.step (.start campDatabase) benCancelsLate
    last.Idle ∧ ¬ CounterMatches "camp" last.db.toTables := by
  refine ⟨?_, ?_⟩
  · intro id
    match id with
    | 0 => rfl
    | 1 => rfl
    | 2 => rfl
    | _ + 3 => rfl
  · rintro ⟨event, found, count⟩
    have counter : (runAll Interleaved.step (.start campDatabase) benCancelsLate).db.gatherings
        "camp" = some { camp with registeredCount := 1 } := by decide
    have seats : (runAll Interleaved.step (.start campDatabase)
        benCancelsLate).db.registrations.seated "camp" = 0 := by decide
    obtain rfl := Option.some.inj (counter.symm.trans found)
    rw [seats] at count
    cases count

end FlockOs.EventRegistration
