import FlockOs.PromotionRace
import FlockOs.Verif.Seats

/-!
# Concurrent promotions

A transaction chooses whom to promote from its snapshot and promotes on the latest committed
row. The waiting rows only become fewer while cancellations run, so the snapshot covers them
all (`Fewer`). When every promotion finds its choice still waiting, the choices are distinct;
a transaction whose choice was promoted since its snapshot promotes nobody, though others
wait.
-/

namespace FlockOs.EventRegistration

open Lib Registrations

variable {ι : Type} [DecidableEq ι]

/-- The promotion query looks at the registrations only. -/
theorem promotionCandidate_congr {left right : Tables}
    (same : left.registrations = right.registrations) (gathering : String) :
    promotionCandidate left gathering = promotionCandidate right gathering := by
  simp only [promotionCandidate, Tables.waitlist, same]

/-- A promotion that finds its choice waiting affects one row. -/
theorem promoteRow_waiting {db : Database} {row : Registration}
    (found : db.registrations.find? row.name = some row)
    (waits : row.registrationStatus = .waitlisted) :
    promoteRow db row.name = (1, { db with
      registrations := db.registrations.replace { row with registrationStatus := .registered } }) := by
  simp [promoteRow, found, waits]

/-- A cancellation whose transaction meets no other is the endpoint performed as a whole. -/
theorem race_alone (requests : ι → CancelRequest) (db : Database) (id : ι) :
    (runAll (Race.step requests) (.start db) [id, id, id, id, id]).latest =
      (Call.cancel (requests id).site (requests id).registrationId).perform db := by
  simp only [runAll_cons, runAll_nil, Call.perform, cancelRegistration]
  cases read : cancelRegistrationRead (requests id).site db (requests id).registrationId with
  | error raised => simp [Race.step, Race.start, Race.move, read, committed, bind, Except.bind]
  | ok doc =>
    cases save : saveRegistration (requests id).site db
        { doc with registrationStatus := .cancelled } with
    | error raised =>
      simp [Race.step, Race.start, Race.move, Race.unlock, heldByOther, read, save, committed,
        cancelRegistrationWrite, bind, Except.bind]
    | ok result =>
      obtain ⟨stored, saved⟩ := result
      obtain ⟨found, -⟩ := cancelRegistrationRead_ok read
      obtain ⟨-, resaved, status, rfl⟩ := saveRegistration_ok save found
        ⟨rfl, rfl, rfl, rfl, rfl, rfl⟩
      by_cases seated : doc.registrationStatus = .registered
      · let released := bumpRegisteredCount { db with
            registrations := db.registrations.replace stored
            clock := db.clock + 1 } stored.gathering (-1)
        let view := { db.toTables with registrations := db.registrations.replace stored }
        have same : promotionCandidate released.toTables stored.gathering =
            promotionCandidate view stored.gathering :=
          promotionCandidate_congr (by simp [released, view, bumpRegisteredCount]) _
        cases search : promotionCandidate view stored.gathering with
        | none =>
          have again := same.trans search
          simp [Race.step, Race.start, Race.move, Race.unlock, Race.lockRow, Race.lockGathering,
            heldByOther, read, save, committed, publish, cancelRegistrationWrite, bind,
            Except.bind, seated, promoteOldestWaitlisted, view, released, search, again]
        | some choice =>
          have again := same.trans search
          obtain ⟨chosen, member, rfl, event, waits, -⟩ := promotionCandidate_some search
          -- The choice is not the row that was saved, which no longer waits.
          have apart : chosen.name ≠ stored.name := by
            rcases (Table.mem_replace resaved.found).mp member with rfl | ⟨-, differs⟩
            · rw [status] at waits
              cases waits
            · exact differs
          have after : view.registrations.find? chosen.name = some chosen :=
            view.registrations.find?_eq_some.mpr ⟨member, rfl⟩
          have before : db.registrations.find? chosen.name = some chosen := by
            rw [← db.registrations.find?_replace_ne stored apart]
            exact after
          have promoted : (promoteRow { db with clock := db.clock + 1 } chosen.name).1 = 1 := by
            simp [promoteRow, before, waits]
          have promotedLater : (promoteRow released chosen.name).1 = 1 := by
            have kept : released.registrations = view.registrations := by
              simp [released, view, bumpRegisteredCount]
            simp [promoteRow, kept, after, waits]
          simp [Race.step, Race.start, Race.move, Race.unlock, Race.lockRow, Race.lockGathering,
            heldByOther, read, save, committed, publish, cancelRegistrationWrite, bind,
            Except.bind, seated, promoteOldestWaitlisted, view, released,
            search, again, promoted, promotedLater, apart]
      · simp [Race.step, Race.start, Race.move, Race.unlock, Race.lockRow, heldByOther, read,
          save, committed, publish, cancelRegistrationWrite, bind, Except.bind, seated]

/-- Every row that waits now was waiting earlier. -/
def Fewer (earlier now : RegistrationTable) : Prop :=
  ∀ gathering row, Waiting gathering now row → Waiting gathering earlier row

/-- A registration to cancel: a row of the gathering that holds a seat. -/
def Seated (gathering : String) (registrations : RegistrationTable) (name : String) : Prop :=
  ∃ row, registrations.find? name = some row ∧ row.gathering = gathering ∧
    row.registrationStatus = .registered

/-- Nobody waits under the name of a row that holds a seat. -/
theorem Seated.apart {gathering event name : String} {registrations : RegistrationTable}
    {row : Registration} (seated : Seated gathering registrations name)
    (waiting : Waiting event registrations row) : row.name ≠ name := by
  intro same
  obtain ⟨holder, found, -, status⟩ := seated
  obtain ⟨member, named⟩ := registrations.find?_eq_some.mp found
  have one := registrations.eq_of_key waiting.member member (same.trans named.symm)
  have waits := waiting.waits
  rw [one, status] at waits
  cases waits

/-- A saved cancellation that is not visible yet. -/
structure Cancelling (gathering name : String) (registrations : RegistrationTable)
    (stored : Registration) : Prop where
  /-- Under its name. -/
  named : stored.name = name
  /-- Cancelled. -/
  status : stored.registrationStatus = .cancelled
  /-- Still a seat to the others. -/
  row : ∃ old, registrations.find? name = some old ∧ SameEntry old stored ∧
    old.gathering = gathering ∧ old.registrationStatus = .registered

/-- The row to cancel holds a seat until the cancellation is visible. -/
theorem Cancelling.seated {gathering name : String} {registrations : RegistrationTable}
    {stored : Registration} (cancelling : Cancelling gathering name registrations stored) :
    Seated gathering registrations name := by
  obtain ⟨old, found, -, event, status⟩ := cancelling.row
  exact ⟨old, found, event, status⟩

/-- The cancelled registration is one of the gathering. -/
theorem Cancelling.gathering {gathering name : String} {registrations : RegistrationTable}
    {stored : Registration} (cancelling : Cancelling gathering name registrations stored) :
    stored.gathering = gathering := by
  obtain ⟨old, -, same, event, -⟩ := cancelling.row
  exact same.gathering.trans event

/-- Cancelling a seat lets nobody wait who did not. -/
theorem Cancelling.fewer {gathering name : String} {registrations : RegistrationTable}
    {stored : Registration} (cancelling : Cancelling gathering name registrations stored) :
    Fewer registrations (registrations.replace stored) := by
  obtain ⟨old, found, -⟩ := cancelling.row
  rw [← cancelling.named] at found
  rintro other row ⟨member, event, waits⟩
  rcases (Table.mem_replace found).mp member with rfl | ⟨kept, -⟩
  · rw [cancelling.status] at waits
    cases waits
  · exact ⟨kept, event, waits⟩

/-- Cancelling a seat lets everybody else wait on. -/
theorem Cancelling.still {gathering name : String} {registrations : RegistrationTable}
    {stored : Registration} (cancelling : Cancelling gathering name registrations stored) :
    Fewer (registrations.replace stored) registrations := by
  intro other row waiting
  have apart := cancelling.seated.apart waiting
  rw [← cancelling.named] at apart
  exact ⟨Table.mem_replace_of_ne waiting.member apart, waiting.event, waiting.waits⟩

/-- Cancelling a seat frees it. -/
theorem Cancelling.seats {gathering name : String} {registrations : RegistrationTable}
    {stored : Registration} (cancelling : Cancelling gathering name registrations stored) :
    RegistrationTable.seated (registrations.replace stored) gathering + 1 =
      registrations.seated gathering := by
  have event := cancelling.gathering
  obtain ⟨old, found, -, oldEvent, held⟩ := cancelling.row
  rw [← cancelling.named] at found
  have seats := seated_replace found gathering
  simpa [Registration.seatedFor, RegistrationStatus.seated, event, oldEvent, held,
    cancelling.status] using seats

/-- The registrations after a cancellation with its promotion is visible. -/
def published (registrations : RegistrationTable) (stored : Registration)
    (promoted : Option Registration) : RegistrationTable :=
  match promoted with
  | none => registrations.replace stored
  | some row => (registrations.replace stored).replace { row with registrationStatus := .registered }

section Published

variable {gathering name : String} {registrations : RegistrationTable} {stored : Registration}
  (cancelling : Cancelling gathering name registrations stored)

include cancelling

/-- The row to promote is found beside the cancelled one. -/
theorem Cancelling.waiting_found {row : Registration}
    (waiting : Waiting gathering registrations row) :
    Table.find? (registrations.replace stored) row.name = some row := by
  have still := cancelling.still _ row waiting
  exact (registrations.replace stored).find?_eq_some.mpr ⟨still.member, rfl⟩

/-- Only rows that waited before wait afterwards, and the promoted row does not. -/
theorem published_fewer {promoted : Option Registration}
    (waiting : ∀ row, promoted = some row → Waiting gathering registrations row) :
    Fewer registrations (published registrations stored promoted) := by
  cases promoted with
  | none => exact cancelling.fewer
  | some chosen =>
    rintro other row ⟨member, event, waits⟩
    have found := promoted_found (cancelling.waiting_found (waiting chosen rfl))
    rcases (Table.mem_replace found).mp member with rfl | ⟨kept, -⟩
    · cases waits
    · exact cancelling.fewer other row ⟨kept, event, waits⟩

/-- Rows other than the cancelled and the promoted one are left alone. -/
theorem published_find? {promoted : Option Registration} {other : String} (apart : other ≠ name)
    (unpromoted : ∀ row, promoted = some row → other ≠ row.name) :
    (published registrations stored promoted).find? other = registrations.find? other := by
  rw [← cancelling.named] at apart
  cases promoted with
  | none => exact registrations.find?_replace_ne stored apart
  | some chosen =>
    have differs : other ≠ { chosen with registrationStatus := .registered : Registration }.name :=
      unpromoted chosen rfl
    exact ((registrations.replace stored).find?_replace_ne _ differs).trans
      (registrations.find?_replace_ne stored apart)

/-- The promoted row is registered. -/
theorem published_promoted {chosen : Registration}
    (waiting : Waiting gathering registrations chosen) :
    (published registrations stored (some chosen)).find? chosen.name =
      some { chosen with registrationStatus := .registered } :=
  Table.find?_replace_self (promoted_found (cancelling.waiting_found waiting))

/-- A promotion takes the freed seat. -/
theorem published_seats {chosen : Registration}
    (waiting : Waiting gathering registrations chosen) :
    (published registrations stored (some chosen)).seated gathering =
      registrations.seated gathering := by
  have freed := cancelling.seats
  have taken := seated_replace
    (promoted_found (cancelling.waiting_found waiting)) gathering
  have before : chosen.seatedFor gathering = false := by
    simp [Registration.seatedFor, RegistrationStatus.seated, waiting.waits]
  have after : Registration.seatedFor gathering
      { chosen with registrationStatus := .registered } = true := by
    simp [Registration.seatedFor, RegistrationStatus.seated, waiting.event]
  rw [before, after] at taken
  simp only [Bool.false_eq_true, if_false, if_true] at taken
  simp only [published]
  omega

end Published

/-- What a stage says about the committed registrations, the snapshot it holds, the lock on the
gathering, and the registrations before the race. -/
def Stage.Sound (gathering name : String) (before latest : RegistrationTable) (locked : Prop) :
    Stage → Prop
  | .waiting => Seated gathering latest name
  | .read snapshot doc => doc.name = name ∧ latest.find? name = some doc ∧
      doc.gathering = gathering ∧ doc.registrationStatus = .registered ∧
      Fewer snapshot.registrations latest
  | .saved view wasSeated stored => wasSeated = true ∧ Cancelling gathering name latest stored ∧
      Fewer view.registrations latest
  | .released view stored => Cancelling gathering name latest stored ∧
      Fewer view.registrations latest ∧ locked
  | .updated wasSeated stored promoted => wasSeated = true ∧
      Cancelling gathering name latest stored ∧ locked ∧
      match promoted with
      | none => Drained gathering latest
      | some choice => ∃ row, Waiting gathering latest row ∧ row.name = choice.name
  | .committed promoted =>
      match promoted with
      | none => Drained gathering latest
      | some choice => ∃ row, Waiting gathering before row ∧ row.name = choice.name ∧
          latest.find? choice.name = some { row with registrationStatus := .registered }
  | .refused => True

/-- The state of a race: every stage is sound, the visible promotions are distinct, and as
long as somebody waits every seat is taken. -/
structure RaceSound (gathering : String) (requests : ι → CancelRequest)
    (before : RegistrationTable) (race : Race ι) : Prop where
  /-- The transactions. -/
  stages : ∀ id, (race.stage id).Sound gathering (requests id).registrationId before
    race.latest.registrations (race.gatheringLock gathering = some id)
  /-- The waiting rows. -/
  fewer : Fewer before race.latest.registrations
  /-- The promotions. -/
  distinct : ∀ first second left right, race.stage first = .committed (some left) →
    race.stage second = .committed (some right) → left.name = right.name → first = second
  /-- The seats. -/
  seats : ¬ Drained gathering race.latest.registrations →
    race.latest.registrations.seated gathering = before.seated gathering

/-- The transaction is about to promote, and the row it chose from its snapshot is not waiting
any more. -/
def promotionMisses (race : Race ι) (id : ι) : Bool :=
  match race.stage id with
  | .released view stored =>
    match promotionCandidate view stored.gathering with
    | none => false
    | some choice =>
      match race.latest.registrations.find? choice.name with
      | none => true
      | some row => row.registrationStatus ≠ .waitlisted
  | _ => false

/-- A transaction moves to a sound stage that promotes nobody visibly. -/
theorem RaceSound.move {gathering : String} {requests : ι → CancelRequest}
    {before : RegistrationTable} {race next : Race ι} {id : ι} {stage : Stage}
    (sound : RaceSound gathering requests before race)
    (moved : next.stage = Function.update race.stage id stage)
    (kept : next.latest.registrations = race.latest.registrations)
    (locks : ∀ other, other ≠ id → (race.gatheringLock gathering = some other →
      next.gatheringLock gathering = some other))
    (hidden : ∀ promoted, stage ≠ .committed promoted)
    (good : stage.Sound gathering (requests id).registrationId before race.latest.registrations
      (next.gatheringLock gathering = some id)) :
    RaceSound gathering requests before next := by
  refine ⟨fun other => ?_, kept ▸ sound.fewer, ?_, kept ▸ sound.seats⟩
  · rw [moved, kept]
    by_cases mine : other = id
    · subst mine
      rw [Function.update_self]
      exact good
    · rw [Function.update_of_ne mine]
      have old := sound.stages other
      revert old
      cases race.stage other <;> simp only [Stage.Sound] <;> have := locks other mine <;> tauto
  · intro first second left right leftStage rightStage same
    rw [moved] at leftStage rightStage
    have untouched : ∀ other choice,
        Function.update race.stage id stage other = .committed (some choice) →
        race.stage other = .committed (some choice) := by
      intro other choice reached
      by_cases mine : other = id
      · subst mine
        rw [Function.update_self] at reached
        exact absurd reached (hidden _)
      · rwa [Function.update_of_ne mine] at reached
    exact sound.distinct first second left right (untouched _ _ leftStage)
      (untouched _ _ rightStage) same

/-- A row that waits is not the row of a promotion that is visible. -/
theorem Waiting.apart_promoted {gathering name : String} {latest : RegistrationTable}
    {row promoted : Registration} (waits : Waiting gathering latest row)
    (found : latest.find? name = some { promoted with registrationStatus := .registered }) :
    row.name ≠ name := by
  intro same
  have again := latest.find?_eq_some.mpr ⟨waits.member, same⟩
  have status := waits.waits
  rw [Option.some.inj (again.symm.trans found)] at status
  cases status

/-- The row behind a promotion that is about to become visible; it waits. -/
theorem Stage.Sound.row {gathering name : String} {before latest : RegistrationTable}
    {locked : Prop} {wasSeated : Bool} {stored : Registration}
    {promoted : Option WaitlistCandidate}
    (sound : (Stage.updated wasSeated stored promoted).Sound gathering name before latest locked) :
    ∃ row : Option Registration, promoted.map (·.name) = row.map (·.name) ∧
      ∀ waiter, row = some waiter → Waiting gathering latest waiter := by
  obtain ⟨-, -, -, outcome⟩ := sound
  cases promoted with
  | none => exact ⟨none, rfl, fun _ absent => by cases absent⟩
  | some choice =>
    obtain ⟨row, waits, named⟩ := outcome
    refine ⟨some row, by simp [named], fun waiter same => ?_⟩
    obtain rfl := Option.some.inj same
    exact waits

/-- The registrations that a commit makes visible. -/
theorem publish_registrations {gathering name : String} {latest : Database} (wasSeated : Bool)
    {stored : Registration} (cancelling : Cancelling gathering name latest.registrations stored)
    {promoted : Option WaitlistCandidate} {row : Option Registration}
    (chosen : promoted.map (·.name) = row.map (·.name))
    (waiting : ∀ waiter, row = some waiter → Waiting gathering latest.registrations waiter) :
    (publish latest wasSeated stored promoted).registrations =
      published latest.registrations stored row := by
  have released : ∀ db : Database, (if wasSeated then
      bumpGatheringCount db stored.gathering .registeredCount (-1) else db).registrations =
        db.registrations := by
    intro db
    cases wasSeated <;> simp
  cases promoted with
  | none =>
    obtain rfl : row = none := by simpa using chosen.symm
    simp only [publish, emitCancelled_toTables, bumpRegisteredCount, released, published]
  | some choice =>
    cases row with
    | none => cases chosen
    | some waiter =>
      have named : choice.name = waiter.name := by simpa using chosen
      have found := cancelling.waiting_found (waiting waiter rfl)
      have waits := (waiting waiter rfl).waits
      simp only [publish, emitCancelled_toTables, named, bumpRegisteredCount,
        bumpGatheringCount_toTables, published]
      rw [promoteRow_waiting]
      · simp only [released]
      · simpa only [released] using found
      · exact waits

/-- A commit keeps the other transactions sound; none of them holds the gathering's lock. -/
theorem Stage.Sound.published {gathering name other : String} {before latest : RegistrationTable}
    {stored : Registration} {row : Option Registration} {stage : Stage}
    (target : Seated gathering before name)
    (cancelling : Cancelling gathering name latest stored)
    (waiting : ∀ waiter, row = some waiter → Waiting gathering latest waiter)
    (differs : other ≠ name) (sound : stage.Sound gathering other before latest False)
    (locked : Prop) :
    stage.Sound gathering other before (published latest stored row) locked := by
  have fewer := published_fewer cancelling waiting
  have still : Seated gathering latest other →
      (EventRegistration.published latest stored row).find? other = latest.find? other := by
    intro seated
    refine published_find? cancelling differs fun waiter chosen same => ?_
    exact seated.apart (waiting waiter chosen) same.symm
  cases stage with
  | waiting =>
    have seated : Seated gathering latest other := sound
    obtain ⟨holder, found, event, status⟩ := seated
    exact ⟨holder, (still sound).trans found, event, status⟩
  | read snapshot doc =>
    obtain ⟨named, found, event, status, covers⟩ := sound
    exact ⟨named, (still ⟨doc, found, event, status⟩).trans found, event, status,
      fun event waiter waits => covers event waiter (fewer event waiter waits)⟩
  | saved view wasSeated saved =>
    obtain ⟨seated, pending, covers⟩ := sound
    obtain ⟨old, found, rest⟩ := pending.row
    exact ⟨seated, ⟨pending.named, pending.status, old, (still pending.seated).trans found, rest⟩,
      fun event waiter waits => covers event waiter (fewer event waiter waits)⟩
  | released view saved => exact sound.2.2.elim
  | updated wasSeated saved promoted => exact sound.2.2.1.elim
  | committed promoted =>
    cases promoted with
    | none => exact fun waiter waits => sound waiter (fewer _ waiter waits)
    | some choice =>
      obtain ⟨waiter, early, named, found⟩ := sound
      refine ⟨waiter, early, named, (published_find? cancelling ?_ ?_).trans found⟩
      · rw [← named]
        exact target.apart early
      · -- The row that is promoted now still waited, so it is not the one promoted earlier.
        exact fun now chosen same => (waiting now chosen).apart_promoted found same.symm
  | refused => trivial

omit [DecidableEq ι] in
/-- A promotion that is about to become visible is none of those that are visible already. -/
theorem RaceSound.fresh {gathering : String} {requests : ι → CancelRequest}
    {before : RegistrationTable} {race : Race ι} {id other : ι} {stored : Registration}
    {wasSeated : Bool} {choice now : WaitlistCandidate}
    (sound : RaceSound gathering requests before race)
    (stage : race.stage id = .updated wasSeated stored (some now))
    (earlier : race.stage other = .committed (some choice)) : choice.name ≠ now.name := by
  have own := sound.stages id
  rw [stage] at own
  obtain ⟨-, -, -, row, waits, named⟩ := own
  have old := sound.stages other
  rw [earlier] at old
  obtain ⟨waiter, -, -, found⟩ := old
  exact fun same => waits.apart_promoted found (named.trans same.symm)

/-- A commit adds its row to the promoted ones, which stay apart. -/
theorem RaceSound.distinct_commit {gathering : String} {requests : ι → CancelRequest}
    {before : RegistrationTable} {race : Race ι} {id first second : ι} {stored : Registration}
    {promoted : Option WaitlistCandidate} {wasSeated : Bool} {left right : WaitlistCandidate}
    (sound : RaceSound gathering requests before race)
    (stage : race.stage id = .updated wasSeated stored promoted)
    (leftStage : Function.update race.stage id (.committed promoted) first =
      .committed (some left))
    (rightStage : Function.update race.stage id (.committed promoted) second =
      .committed (some right))
    (same : left.name = right.name) : first = second := by
  by_cases firstMine : first = id <;> by_cases secondMine : second = id
  · exact firstMine.trans secondMine.symm
  · subst firstMine
    rw [Function.update_self] at leftStage
    rw [Function.update_of_ne secondMine] at rightStage
    obtain rfl := Stage.committed.inj leftStage
    exact absurd same.symm (sound.fresh stage rightStage)
  · subst secondMine
    rw [Function.update_self] at rightStage
    rw [Function.update_of_ne firstMine] at leftStage
    obtain rfl := Stage.committed.inj rightStage
    exact absurd same (sound.fresh stage leftStage)
  · rw [Function.update_of_ne firstMine] at leftStage
    rw [Function.update_of_ne secondMine] at rightStage
    exact sound.distinct first second left right leftStage rightStage same

/-- A commit keeps the race sound. -/
theorem RaceSound.commit {gathering : String} {requests : ι → CancelRequest}
    {before : RegistrationTable} {race : Race ι} {id : ι} {stored : Registration}
    {promoted : Option WaitlistCandidate} {wasSeated : Bool}
    (targets : ∀ id, Seated gathering before (requests id).registrationId)
    (apart : Function.Injective fun id => (requests id).registrationId)
    (sound : RaceSound gathering requests before race)
    (stage : race.stage id = .updated wasSeated stored promoted) :
    RaceSound gathering requests before
      ((({ race with latest := publish race.latest wasSeated stored promoted }).unlock id).move id
        (.committed promoted)) := by
  have own := sound.stages id
  rw [stage] at own
  obtain ⟨row, chosen, waiting⟩ := own.row
  obtain ⟨-, cancelling, locked, outcome⟩ := own
  have registrations := publish_registrations wasSeated cancelling chosen waiting
  have fewer := published_fewer cancelling waiting
  refine ⟨fun other => ?_, ?_, ?_, ?_⟩
  · by_cases mine : other = id
    · subst mine
      simp only [Race.move, Race.unlock, Function.update_self, registrations]
      cases promoted with
      | none => exact fun waiter waits => outcome waiter (fewer _ waiter waits)
      | some choice =>
        cases row with
        | none => cases chosen
        | some waiter =>
          have named : choice.name = waiter.name := by simpa using chosen
          refine ⟨waiter, sound.fewer _ waiter (waiting waiter rfl), named.symm, ?_⟩
          rw [named]
          exact published_promoted cancelling (waiting waiter rfl)
    · simp only [Race.move, Race.unlock, Function.update_of_ne mine, registrations]
      have unlocked : (race.gatheringLock gathering = some other) = False := by
        simp [locked, Ne.symm mine]
      have old := sound.stages other
      rw [unlocked] at old
      exact old.published (targets id) cancelling waiting (fun same => mine (apart same)) _
  · simp only [Race.move, Race.unlock, registrations]
    exact fun event waiter waits => sound.fewer event waiter (fewer event waiter waits)
  · intro first second left right leftStage rightStage same
    simp only [Race.move, Race.unlock] at leftStage rightStage
    exact sound.distinct_commit stage leftStage rightStage same
  · simp only [Race.move, Race.unlock, registrations]
    intro somebody
    have earlier : ¬ Drained gathering race.latest.registrations := fun drained =>
      somebody fun waiter waits => drained waiter (fewer _ waiter waits)
    cases promoted with
    | none => exact absurd outcome earlier
    | some choice =>
      cases row with
      | none => cases chosen
      | some waiter =>
        rw [published_seats cancelling (waiting waiter rfl)]
        exact sound.seats earlier

/-- Saving the cancelled row keeps the race sound. -/
theorem RaceSound.save {gathering : String} {requests : ι → CancelRequest}
    {before : RegistrationTable} {race : Race ι} {id : ι} {snapshot : Tables}
    {doc : Registration} (sound : RaceSound gathering requests before race)
    (stage : race.stage id = .read snapshot doc) :
    RaceSound gathering requests before (race.step requests id) := by
  have own := sound.stages id
  rw [stage] at own
  obtain ⟨named, found, event, status, covers⟩ := own
  simp only [Race.step, stage]
  split
  · exact sound
  · split
    · refine sound.move rfl rfl (fun other differs held => ?_) (fun _ => by simp) trivial
      simp only [Race.unlock, Race.move, held]
      simp [differs]
    · rename_i stored saved save
      rw [← named] at found
      obtain ⟨-, resaved, storedStatus, rfl⟩ := saveRegistration_ok save found
        ⟨rfl, rfl, rfl, rfl, rfl, rfl⟩
      refine sound.move rfl rfl (fun _ _ held => held) (fun _ => by simp) ?_
      have cancelling : Cancelling gathering (requests id).registrationId
          race.latest.registrations stored :=
        ⟨resaved.same.name.trans named, storedStatus, doc, named ▸ found, resaved.same, event,
          status⟩
      refine ⟨by simp [status], cancelling, fun other waiter waits => ?_⟩
      have early := covers other waiter waits
      have differs : waiter.name ≠ stored.name := by
        rw [cancelling.named]
        exact cancelling.seated.apart waits
      exact ⟨Table.mem_replace_of_ne early.member differs, early.event, early.waits⟩

/-- Promoting the chosen row keeps the race sound, unless the row is not waiting any more. -/
theorem RaceSound.promote {gathering : String} {requests : ι → CancelRequest}
    {before : RegistrationTable} {race : Race ι} {id : ι} {view : Tables}
    {stored : Registration} (sound : RaceSound gathering requests before race)
    (stage : race.stage id = .released view stored)
    (hits : promotionMisses race id = false) :
    RaceSound gathering requests before (race.step requests id) := by
  have own := sound.stages id
  rw [stage] at own
  obtain ⟨cancelling, covers, locked⟩ := own
  simp only [Race.step, stage]
  cases search : promotionCandidate view stored.gathering with
  | none =>
    -- Nobody waits in the view, so nobody waits now.
    refine sound.move rfl rfl (fun _ _ held => held) (fun _ => by simp)
      ⟨rfl, cancelling, locked, fun waiter waits => ?_⟩
    have early := covers gathering waiter waits
    exact promotionCandidate_none search waiter early.member
      ⟨early.event.trans cancelling.gathering.symm, early.waits⟩
  | some choice =>
    simp only
    split
    · exact sound
    · obtain ⟨chosen, member, rfl, event, waits, -⟩ := promotionCandidate_some search
      simp only [promotionMisses, stage, search] at hits
      split at hits
      · cases hits
      · rename_i row found
        have still : row.registrationStatus = .waitlisted := by simpa using hits
        obtain ⟨inside, named⟩ := race.latest.registrations.find?_eq_some.mp found
        -- The row under the choice's name waits, so it is the row that was chosen.
        have early := covers row.gathering row ⟨inside, rfl, still⟩
        obtain rfl := view.registrations.eq_of_key early.member member named
        have waiting : Waiting gathering race.latest.registrations row :=
          ⟨inside, event.trans cancelling.gathering, still⟩
        have affected : (promoteRow race.latest row.name).1 ≠ 0 := by
          rw [promoteRow_waiting found still]
          exact one_ne_zero
        rw [if_neg affected]
        exact sound.move rfl rfl (fun _ _ held => held) (fun _ => by simp)
          ⟨rfl, cancelling, locked, row, waiting, rfl⟩

/-- Every statement keeps the race sound, unless it is a promotion that misses its choice. -/
theorem RaceSound.step {gathering : String} {requests : ι → CancelRequest}
    {before : RegistrationTable}
    (targets : ∀ id, Seated gathering before (requests id).registrationId)
    (apart : Function.Injective fun id => (requests id).registrationId) (race : Race ι) (id : ι)
    (sound : RaceSound gathering requests before race)
    (hits : promotionMisses race id = false) :
    RaceSound gathering requests before (race.step requests id) := by
  have own := sound.stages id
  cases stage : race.stage id with
  | waiting =>
    rw [stage] at own
    obtain ⟨row, found, event, status⟩ := own
    simp only [Race.step, stage]
    split
    · exact sound.move rfl rfl (fun _ _ held => held) (fun _ => by simp) trivial
    · rename_i doc read
      obtain ⟨docFound, named, -⟩ := cancelRegistrationRead_ok read
      rw [named] at docFound
      obtain rfl := Option.some.inj (docFound.symm.trans found)
      refine sound.move rfl rfl (fun _ _ held => held) (fun _ => by simp) ?_
      exact ⟨named, docFound, event, status, fun _ _ waits => waits⟩
  | read snapshot doc => exact sound.save stage
  | saved view wasSeated stored =>
    rw [stage] at own
    obtain ⟨rfl, cancelling, covers⟩ := own
    simp only [Race.step, stage, not_true_eq_false, if_false]
    split
    · exact sound
    · rename_i free
      rw [cancelling.gathering] at free ⊢
      refine sound.move rfl rfl (fun other differs held => ?_) (fun _ => by simp)
        ⟨cancelling, covers, by simp [Race.move, Race.lockGathering]⟩
      simp [heldByOther, held, differs] at free
  | released view stored => exact sound.promote stage hits
  | updated wasSeated stored promoted =>
    simp only [Race.step, stage]
    exact sound.commit targets apart stage
  | committed promoted =>
    simp only [Race.step, stage]
    exact sound
  | refused =>
    simp only [Race.step, stage]
    exact sound

omit [DecidableEq ι] in
/-- Before the first statement the race is sound. -/
theorem RaceSound.initial {gathering : String} {requests : ι → CancelRequest} {db : Database}
    (targets : ∀ id, Seated gathering db.registrations (requests id).registrationId) :
    RaceSound gathering requests db.registrations (.start db) where
  stages := targets
  fewer _ _ waits := waits
  distinct _ _ _ _ committed _ _ := by cases committed
  seats _ := rfl

/-- Requests cancel different seats of a gathering at once. If every promotion finds its
choice still waiting, then once all have committed nobody waits, or every request has
promoted a row of its own that was waiting, and as many seats are taken as before. -/
theorem promotions_distinct (gathering : String) (requests : ι → CancelRequest) (db : Database)
    (targets : ∀ id, Seated gathering db.registrations (requests id).registrationId)
    (apart : Function.Injective fun id => (requests id).registrationId) (turns : List ι)
    (hits : EveryCall (Race.step requests) (fun race id => promotionMisses race id = false)
      (.start db) turns)
    (finished : ∀ id, ∃ promoted,
      (runAll (Race.step requests) (.start db) turns).stage id = .committed promoted) :
    let last := runAll (Race.step requests) (.start db) turns
    Drained gathering last.latest.registrations ∨
      ∃ choice : ι → WaitlistCandidate,
        (∀ id, last.stage id = .committed (some (choice id)) ∧
          ∃ row, Waiting gathering db.registrations row ∧ row.name = (choice id).name ∧
            last.latest.registrations.find? row.name =
              some { row with registrationStatus := .registered }) ∧
        Function.Injective (fun id => (choice id).name) ∧
        last.latest.registrations.seated gathering = db.registrations.seated gathering := by
  intro last
  have sound : RaceSound gathering requests db.registrations last :=
    runAll_guarded (RaceSound gathering requests db.registrations)
      (fun race id sound hit => sound.step targets apart race id hit) turns (.start db)
      (.initial targets) hits
  by_cases drained : Drained gathering last.latest.registrations
  · exact .inl drained
  · right
    have promotes : ∀ id, ∃ choice, last.stage id = .committed (some choice) := by
      intro id
      obtain ⟨promoted, committed⟩ := finished id
      cases promoted with
      | some choice => exact ⟨choice, committed⟩
      | none =>
        have nobody := sound.stages id
        rw [committed] at nobody
        exact absurd nobody drained
    choose choice committed using promotes
    refine ⟨choice, fun id => ⟨committed id, ?_⟩, ?_, sound.seats drained⟩
    · have stage := sound.stages id
      rw [committed id] at stage
      obtain ⟨row, waiting, named, found⟩ := stage
      exact ⟨row, waiting, named, named ▸ found⟩
    · intro first second same
      exact sound.distinct first second _ _ (committed first) (committed second) same

/-- The camp with two seats, both taken, and two members who wait. -/
def fullCamp : Database :=
  runAll Call.perform
    { gatherings := fun name =>
        if name = "camp" then some { camp with registrationCapacity := some 2 } else none
      registrations := .empty Registration.name }
    [joinCamp 1 "ann", joinCamp 2 "ben", joinCamp 3 "cal", joinCamp 4 "dan"]

/-- Ann and Ben cancel. -/
def annAndBen (second : Bool) : CancelRequest :=
  ⟨northSite 5, if second then "REG-1" else "REG-0"⟩

/-- Both registrations hold a seat. -/
theorem annAndBen_seated (second : Bool) :
    Seated "camp" fullCamp.registrations (annAndBen second).registrationId := by
  cases second
  · exact ⟨_, rfl, by decide, by decide⟩
  · exact ⟨_, rfl, by decide, by decide⟩

/-- They are different registrations. -/
theorem annAndBen_apart : Function.Injective fun second => (annAndBen second).registrationId := by
  intro first second same
  cases first <;> cases second
  · rfl
  · exact absurd same (by decide)
  · exact absurd same (by decide)
  · rfl

/-- Ben's first read comes after Ann's commit, and both members who wait are promoted. -/
theorem promotions_distinct_camp :
    let last := runAll (Race.step annAndBen) (.start fullCamp)
      [false, false, false, false, false, true, true, true, true, true]
    Drained "camp" last.latest.registrations ∨
      ∃ choice : Bool → WaitlistCandidate,
        (∀ id, last.stage id = .committed (some (choice id)) ∧
          ∃ row, Waiting "camp" fullCamp.registrations row ∧ row.name = (choice id).name ∧
            last.latest.registrations.find? row.name =
              some { row with registrationStatus := .registered }) ∧
        Function.Injective (fun id => (choice id).name) ∧
        last.latest.registrations.seated "camp" = fullCamp.registrations.seated "camp" :=
  promotions_distinct "camp" annAndBen fullCamp annAndBen_seated annAndBen_apart _ (by decide)
    (fun | false => ⟨_, rfl⟩ | true => ⟨_, rfl⟩)

/-- Ben's first read comes before Ann's commit: both have committed, Ben's cancellation has
promoted nobody, Dan still waits, and a seat is free. -/
theorem benPromotesNobody :
    let last := runAll (Race.step annAndBen) (.start fullCamp)
      [false, true, false, false, false, false, true, true, true, true]
    (∀ id, ∃ promoted, last.stage id = .committed promoted) ∧
      last.stage true = .committed none ∧ ¬ Drained "camp" last.latest.registrations ∧
      last.latest.registrations.seated "camp" < fullCamp.registrations.seated "camp" := by
  intro last
  refine ⟨fun | false => ⟨_, rfl⟩ | true => ⟨_, rfl⟩, rfl, fun drained => ?_, by decide⟩
  have dan : ∃ row ∈ last.latest.registrations.rows,
      row.gathering = "camp" ∧ row.registrationStatus = .waitlisted := by decide
  obtain ⟨row, member, event, waits⟩ := dan
  exact drained row ⟨member, event, waits⟩

end FlockOs.EventRegistration
