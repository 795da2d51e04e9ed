import FlockOs.BulkRegistration
import FlockOs.Verif.SeatClaims
import FlockOs.Verif.Seats

/-!
# The accounts of a batch

A batch among other writers: what it has counted against the rows that it leaves. A row that
arrives between a member's check and its insertion rolls the job back, and the totals keep what
the rollback has undone; the accounts are right exactly when every such arrival finds nothing of
the job in the table.
-/

namespace FlockOs.EventRegistration

open Lib Registrations

/-- The naming series gives names that no row has. -/
def Named (site : Site) : Prop :=
  ∀ db : Database, site.newName db ∉ db.registrations.rows.map Registration.name

/-- The rows that the job has written and not undone. -/
def BatchState.ownRows (state : BatchState) : List Registration :=
  state.db.registrations.rows.filter fun row => row ∉ state.base.registrations.rows

/-- The rows of the job with a status. -/
def BatchState.left (state : BatchState) (status : RegistrationStatus) : Nat :=
  state.ownRows.countP fun row => row.registrationStatus = status

/-- `registered_count` of a gathering. -/
def Database.seatCount (db : Database) (gathering : String) : Int :=
  ((db.gatherings gathering).getD {}).registeredCount

/-- A member has a registration. -/
def Database.Holds (db : Database) (gathering member : String) : Prop :=
  ∃ row ∈ db.registrations.rows, row.gathering = gathering ∧ row.registrant = member

/-- The job accounts for everybody. -/
structure BatchState.Accounted (gathering : String) (members : List String) (state : BatchState) :
    Prop where
  /-- Every member has a row. -/
  present : ∀ member ∈ members, member ≠ "" → state.db.Holds gathering member
  /-- The rows registered. -/
  created : state.tally.created = state.left .registered
  /-- The rows waitlisted. -/
  waitlisted : state.tally.waitlisted = state.left .waitlisted
  /-- Each entry is counted once. -/
  total : state.tally.created + state.tally.waitlisted + state.tally.skipped =
    members.countP (· ≠ "")
  /-- The counter grew by the rows registered, over what others have made of it. -/
  counter : state.db.seatCount gathering =
    state.base.seatCount gathering + state.tally.created

/-- The member gets a row between its check and its insertion. -/
def BatchState.Collides (gathering : String) (state : BatchState) (turn : Turn) : Prop :=
  turn.member ≠ "" ∧ ¬ state.db.Holds gathering turn.member ∧
    (state.await turn).db.Holds gathering turn.member

/-- A collision finds nothing of the job in the table. -/
def BatchState.Harmless (gathering : String) (state : BatchState) (turn : Turn) : Prop :=
  state.Collides gathering turn → state.ownRows = []

/-- The condition holds of every turn at the state that it is taken in. -/
def EveryTurn (step : BatchState → Turn → Except Error BatchState)
    (allowed : BatchState → Turn → Prop) : BatchState → List Turn → Prop
  | _, [] => True
  | state, turn :: rest =>
    allowed state turn ∧ ∀ next, step state turn = .ok next → EveryTurn step allowed next rest

section Turns

variable {site : Site} {gathering via : String} {anchors : GatheringScope} {state : BatchState}
  {turn : Turn}

/-- A member has a registration exactly when one is found. -/
theorem holds_iff_existing {db : Database} {member : String} :
    db.Holds gathering member ↔ (existingRegistration db gathering member).isSome := by
  rw [existingRegistration, List.find?_isSome]
  simp only [decide_eq_true_eq]
  rfl

/-- How a turn ends. -/
inductive TurnEnds (gathering via : String) (anchors : GatheringScope) (now : Int)
    (state : BatchState) (turn : Turn) : BatchState → Prop where
  | empty (unnamed : turn.member = "") : TurnEnds gathering via anchors now state turn state
  | there (named : turn.member ≠ "") (holds : state.db.Holds gathering turn.member) :
      TurnEnds gathering via anchors now state turn state.skip
  | claimed (named : turn.member ≠ "") (absent : ¬ state.db.Holds gathering turn.member)
      (doc : Registration) (claimed : Database)
      (did : Claimed (state.await turn).db ⟨gathering, turn.member, via, now⟩ doc claimed) :
      TurnEnds gathering via anchors now state turn ((state.await turn).claim doc claimed)
  | collided (collides : state.Collides gathering turn) :
      TurnEnds gathering via anchors now state turn (state.await turn).rollback.skip

/-- The checks of a document do not refuse it as a duplicate. -/
theorem validate_not_duplicate (site : Site) (tables : Tables) (doc : Registration) :
    validate site tables doc ≠ .error .duplicateEntry := by
  rw [validate]
  split
  · exact nofun
  · split
    · exact nofun
    · split <;> exact nofun

/-- An insertion that is refused as a duplicate meets a row of the member. -/
theorem insertRegistration_duplicate (named : Named site) {db : Database} {doc : Registration}
    (refused : insertRegistration site db doc = .error .duplicateEntry) :
    db.Holds doc.gathering doc.registrant := by
  unfold insertRegistration at refused
  cases valid : validate site db.toTables
      { doc with name := site.newName db, modified := db.clock } with
  | error raised =>
    rw [valid] at refused
    cases refused
    exact absurd valid (validate_not_duplicate site _ _)
  | ok checked =>
    rw [valid] at refused
    change (validateMandatory checked >>= _) = _ at refused
    cases mandatory : validateMandatory checked with
    | error raised =>
      rw [mandatory] at refused
      rw [validateMandatory] at mandatory
      split at mandatory
      · cases mandatory
      · cases mandatory
        cases refused
    | ok _ =>
      rw [mandatory] at refused
      obtain ⟨⟨organization, registrantName, same⟩, _⟩ := validate_ok valid mandatory
      change (if fresh : _ then _ else _ : Except Error (Registration × Database)) = _ at refused
      have fresh : checked.name ∉ db.registrations.rows.map Registration.name := by
        rw [same]
        exact named db
      rw [dif_pos fresh] at refused
      split at refused
      · next taken =>
        obtain ⟨row, inside, pair⟩ := List.any_eq_true.mp taken
        rw [same] at pair
        exact ⟨row, inside, of_decide_eq_true pair⟩
      · cases refused

/-- A claim that is refused as a duplicate meets a row of the member. -/
theorem claimSeat_duplicate (named : Named site) {db : Database} {plan : RegisterPlan}
    (refused : claimSeat site db plan anchors = .error .duplicateEntry) :
    db.Holds plan.gathering plan.registrant := by
  unfold claimSeat at refused
  cases decided : authoritativeRegistrationStatus db plan.gathering with
  | error raised =>
    rw [decided] at refused
    rw [authoritativeRegistrationStatus] at decided
    split at decided
    · cases decided
      cases refused
    · cases decided
  | ok status =>
    rw [decided] at refused
    change (insertRegistration site db _ >>= _) = _ at refused
    cases insertion : insertRegistration site db (newRegistration plan anchors
        ((truthy (site.fullName plan.registrant)).getD "") status) with
    | error raised =>
      rw [insertion] at refused
      cases refused
      exact insertRegistration_duplicate named insertion
    | ok inserted =>
      rw [insertion] at refused
      change (if status = .registered then _ else _) = _ at refused
      split at refused <;> cases refused

/-- A turn that returns ends in one of these ways. -/
theorem turn_ends (named : Named site) {next : BatchState}
    (done : state.turn site gathering via anchors turn = .ok next) :
    TurnEnds gathering via anchors site.now state turn next := by
  rw [BatchState.turn] at done
  split at done
  · next unnamed =>
    cases done
    exact .empty unnamed
  · next given =>
    split at done
    · next found =>
      cases done
      exact .there given (holds_iff_existing.mpr found)
    · next missing =>
      have absent := fun holds => missing (holds_iff_existing.mp holds)
      split at done
      · next doc claimed claim =>
        cases done
        exact .claimed given absent doc claimed (claimSeat_ok claim)
      · next refused =>
        cases done
        exact .collided ⟨given, absent, claimSeat_duplicate named refused⟩
      · cases done

end Turns

section Arrivals

variable {gathering : String} {state : BatchState}

/-- A bump adds one to the counter of a gathering that exists. -/
theorem seatCount_bump (db : Database) (name gathering : String) :
    (bumpRegisteredCount db name 1).seatCount gathering = db.seatCount gathering +
      if name = gathering ∧ (db.gatherings gathering).isSome then 1 else 0 := by
  rw [Database.seatCount, Database.seatCount, bumpRegisteredCount, bumpGatheringCount]
  cases found : db.gatherings name with
  | none =>
    dsimp only
    rw [if_neg, Int.add_zero]
    rintro ⟨same, there⟩
    rw [← same, found] at there
    cases there
  | some event =>
    dsimp only
    by_cases same : name = gathering
    · rw [← same, Function.update_self, found, if_pos ⟨rfl, rfl⟩]
      rfl
    · rw [Function.update_of_ne (Ne.symm same), if_neg fun both => same both.1, Int.add_zero]

/-- A bump neither adds a gathering nor drops one. -/
theorem listed_bump (db : Database) (name gathering : String) :
    ((bumpRegisteredCount db name 1).gatherings gathering).isSome =
      (db.gatherings gathering).isSome := by
  rw [bumpRegisteredCount, bumpGatheringCount]
  cases found : db.gatherings name with
  | none => rfl
  | some event =>
    dsimp only
    by_cases same : name = gathering
    · rw [← same, Function.update_self, found]
      rfl
    · rw [Function.update_of_ne (Ne.symm same)]

/-- What a row that finds its name free leaves. -/
structure Received (db : Database) (arrival : Arrival) (gathering : String) (next : Database) :
    Prop where
  /-- The row is added. -/
  rows : next.registrations.rows = db.registrations.rows ++ [arrival.row]
  /-- The gatherings stay. -/
  listed : (next.gatherings gathering).isSome = (db.gatherings gathering).isSome
  /-- The seat is counted. -/
  counter : next.seatCount gathering = db.seatCount gathering +
    if arrival.counted ∧ arrival.row.gathering = gathering ∧
      (db.gatherings gathering).isSome then 1 else 0

/-- A row is received when its name is free. -/
theorem receive_received (db : Database) {arrival : Arrival}
    (fresh : arrival.row.name ∉ db.registrations.rows.map Registration.name) :
    Received db arrival gathering (db.receive arrival) := by
  rw [Database.receive, dif_pos fresh]
  by_cases counted : arrival.counted = true
  · rw [if_pos counted]
    refine ⟨?_, listed_bump _ _ _, ?_⟩
    · rw [bumpRegisteredCount, bumpGatheringCount]
      split <;> rfl
    · rw [seatCount_bump]
      simp only [counted, true_and]
      rfl
  · rw [if_neg counted]
    refine ⟨rfl, rfl, ?_⟩
    rw [if_neg fun both => counted both.1, Int.add_zero]
    rfl

/-- What every turn keeps: the job's rows stand over those of the others, and are counted. -/
structure BatchState.Coherent (gathering : String) (state : BatchState) : Prop where
  /-- The rows of the others are there. -/
  contained : state.base.registrations.rows ⊆ state.db.registrations.rows
  /-- A row of the job is registered or waitlisted. -/
  either : ∀ row ∈ state.ownRows,
    row.registrationStatus = .registered ∨ row.registrationStatus = .waitlisted
  /-- The rows registered are counted. -/
  created : state.left .registered ≤ state.tally.created
  /-- The rows waitlisted are counted. -/
  waitlisted : state.left .waitlisted ≤ state.tally.waitlisted
  /-- The others see the gathering too. -/
  listed : (state.db.gatherings gathering).isSome = (state.base.gatherings gathering).isSome
  /-- The counter is that of the others with the rows registered. -/
  counter : state.db.seatCount gathering =
    state.base.seatCount gathering + state.left .registered

/-- Rows that are added to both tables are not the job's. -/
theorem ownRows_append {rows base : List Registration} {row : Registration}
    (fresh : row.name ∉ rows.map Registration.name) :
    ((rows ++ [row]).filter fun own => own ∉ base ++ [row]) =
      rows.filter fun own => own ∉ base := by
  have last : [row].filter (fun own => decide (own ∉ base ++ [row])) = [] := by
    rw [List.filter_eq_nil_iff]
    intro own only
    rw [List.mem_singleton.mp only]
    simp
  rw [List.filter_append, last, List.append_nil]
  refine List.filter_congr fun own inside => ?_
  have other : own ≠ row := by
    rintro rfl
    exact fresh (List.mem_map_of_mem inside)
  simp [other]

/-- An arrival changes neither the rows of the job nor its totals. -/
theorem BatchState.Coherent.arrive (coherent : state.Coherent gathering) (arrival : Arrival) :
    (state.arrive arrival).Coherent gathering ∧
      (state.arrive arrival).ownRows = state.ownRows ∧
      (state.arrive arrival).tally = state.tally := by
  rw [BatchState.arrive]
  split
  · next admitted =>
    have fresh : arrival.row.name ∉ state.db.registrations.rows.map Registration.name :=
      of_decide_eq_true (Bool.and_eq_true_iff.mp admitted).1
    have freshBase : arrival.row.name ∉ state.base.registrations.rows.map Registration.name :=
      fun taken => fresh (List.map_subset _ coherent.contained taken)
    have above : Received state.db arrival gathering (state.db.receive arrival) :=
      receive_received state.db fresh
    have below : Received state.base arrival gathering (state.base.receive arrival) :=
      receive_received state.base freshBase
    have own : BatchState.ownRows ⟨state.base.receive arrival, state.db.receive arrival,
        state.tally⟩ = state.ownRows := by
      rw [BatchState.ownRows, above.rows, below.rows]
      exact ownRows_append fresh
    refine ⟨⟨?_, ?_, ?_, ?_, ?_, ?_⟩, own, rfl⟩
    · rw [above.rows, below.rows]
      intro row member
      rcases List.mem_append.mp member with old | new
      · exact List.mem_append_left _ (coherent.contained old)
      · exact List.mem_append_right _ new
    · rw [own]
      exact coherent.either
    · rw [BatchState.left, own]
      exact coherent.created
    · rw [BatchState.left, own]
      exact coherent.waitlisted
    · rw [above.listed, below.listed]
      exact coherent.listed
    · have counter := coherent.counter
      rw [BatchState.left] at counter
      rw [BatchState.left, own, above.counter, below.counter, coherent.listed, counter]
      omega
  · exact ⟨coherent, rfl, rfl⟩

/-- Waiting for the arrivals of a turn changes neither the rows of the job nor its totals. -/
theorem BatchState.Coherent.await (coherent : state.Coherent gathering) (turn : Turn) :
    (state.await turn).Coherent gathering ∧ (state.await turn).ownRows = state.ownRows ∧
      (state.await turn).tally = state.tally := by
  rw [BatchState.await]
  induction turn.arrivals generalizing state with
  | nil => exact ⟨coherent, rfl, rfl⟩
  | cons arrival rest ih =>
    obtain ⟨next, own, tally⟩ := coherent.arrive arrival
    obtain ⟨last, same, kept⟩ := ih next
    exact ⟨last, same.trans own, kept.trans tally⟩

end Arrivals

section Accounts

variable {gathering via : String} {anchors : GatheringScope} {now : Int}
  {state next : BatchState} {turn : Turn}

/-- The totals are those of the rows of the job. -/
def BatchState.Kept (state : BatchState) : Prop :=
  state.tally.created = state.left .registered ∧ state.tally.waitlisted = state.left .waitlisted

/-- The totals count rows that have been undone. -/
def BatchState.Lost (state : BatchState) : Prop :=
  state.left .registered + state.left .waitlisted < state.tally.created + state.tally.waitlisted

/-- The rows of the job are those registered and those waitlisted. -/
theorem BatchState.Coherent.own_eq (coherent : state.Coherent gathering) :
    state.ownRows.length = state.left .registered + state.left .waitlisted := by
  have either := coherent.either
  rw [BatchState.left, BatchState.left]
  generalize state.ownRows = own at either ⊢
  induction own with
  | nil => rfl
  | cons row rest ih =>
    have later := ih fun other inside => either other (List.mem_cons_of_mem row inside)
    rw [List.length_cons, later, List.countP_cons, List.countP_cons]
    rcases either row List.mem_cons_self with status | status <;> simp [status] <;> omega

/-- A job without rows has none of any status. -/
theorem BatchState.left_of_none (bare : state.ownRows = []) (status : RegistrationStatus) :
    state.left status = 0 := by
  rw [BatchState.left, bare, List.countP_nil]

/-- After a rollback no row is the job's. -/
theorem ownRows_rollback (state : BatchState) : state.rollback.skip.ownRows = [] := by
  rw [BatchState.ownRows, List.filter_eq_nil_iff]
  intro row inside
  show ¬ decide (row ∉ state.base.registrations.rows) = true
  rw [decide_eq_true_iff, not_not]
  exact inside

/-- What a claim adds to the job. -/
structure Added (gathering : String) (state : BatchState) (doc : Registration)
    (next : BatchState) : Prop where
  /-- The row. -/
  own : next.ownRows = state.ownRows ++ [doc]
  /-- The row is registered or waitlisted. -/
  either : doc.registrationStatus = .registered ∨ doc.registrationStatus = .waitlisted
  /-- The other rows stay. -/
  rows : next.db.registrations.rows = state.db.registrations.rows ++ [doc]
  /-- The others are not concerned. -/
  base : next.base = state.base
  /-- The gathering stays. -/
  listed : (next.db.gatherings gathering).isSome = (state.db.gatherings gathering).isSome
  /-- A seat is counted. -/
  counter : next.db.seatCount gathering = state.db.seatCount gathering +
    if doc.registrationStatus = .registered then 1 else 0
  /-- The row is counted. -/
  tally : next.tally = if doc.registrationStatus = .registered then
      { state.tally with created := state.tally.created + 1 }
    else { state.tally with waitlisted := state.tally.waitlisted + 1 }

/-- A claim adds its row. -/
theorem added_claim (coherent : state.Coherent gathering) {member : String} {doc : Registration}
    {claimed : Database} (did : Claimed state.db ⟨gathering, member, via, now⟩ doc claimed) :
    Added gathering state doc (state.claim doc claimed) := by
  obtain ⟨event, insertable, found, verdict, written⟩ := did.decided
  have tables : (emitClaimed claimed doc).toTables = _ :=
    (emitClaimed_toTables claimed doc).trans written
  have rows : (state.claim doc claimed).db.registrations.rows =
      state.db.registrations.rows ++ [doc] :=
    congrArg (fun tables : Tables => tables.registrations.rows) tables
  have gatherings : (state.claim doc claimed).db.gatherings =
      if event.verdict = .registered then
        bumped state.db.gatherings gathering .registeredCount 1 else state.db.gatherings :=
    congrArg (fun tables : Tables => tables.gatherings) tables
  have strange : doc ∉ state.base.registrations.rows := fun inside =>
    insertable.fresh (List.mem_map_of_mem (coherent.contained inside))
  obtain ⟨after, bumps, _, count⟩ := bumped_registeredCount found gathering 1
  refine ⟨?_, ?_, rows, rfl, ?_, ?_, rfl⟩
  · rw [BatchState.ownRows, rows, List.filter_append]
    exact congrArg _ (List.filter_eq_self.mpr fun own only => by
      rw [List.mem_singleton.mp only]
      exact decide_eq_true strange)
  · rw [verdict]
    exact capacityDecision_status event.registrationCapacity event.registeredCount
  · rw [gatherings]
    split
    · rw [bumps, found]
      rfl
    · rfl
  · rw [Database.seatCount, Database.seatCount, gatherings, verdict]
    split
    · rw [bumps, found]
      show after.registeredCount = event.registeredCount + 1
      rw [count, if_pos rfl]
      rfl
    · rw [Int.add_zero]

/-- A claim keeps the job coherent. -/
theorem Added.coherent {doc : Registration} (added : Added gathering state doc next)
    (coherent : state.Coherent gathering) : next.Coherent gathering := by
  have left (status : RegistrationStatus) : next.left status =
      state.left status + if doc.registrationStatus = status then 1 else 0 := by
    rw [BatchState.left, added.own, List.countP_append, List.countP_singleton, BatchState.left]
    simp
  have created := coherent.created
  have waitlisted := coherent.waitlisted
  refine ⟨?_, ?_, ?_, ?_, ?_, ?_⟩
  · rw [added.base, added.rows]
    exact fun row inside => List.mem_append_left _ (coherent.contained inside)
  · rw [added.own]
    intro row inside
    rcases List.mem_append.mp inside with old | new
    · exact coherent.either row old
    · rw [List.mem_singleton.mp new]
      exact added.either
  · rw [left, added.tally]
    rcases added.either with status | status <;> simp [status] <;> omega
  · rw [left, added.tally]
    rcases added.either with status | status <;> simp [status] <;> omega
  · rw [added.listed, added.base]
    exact coherent.listed
  · rw [added.counter, added.base, coherent.counter, left]
    split <;> omega

/-- A row that is there when a turn begins is there after the arrivals. -/
theorem await_holds {member : String} (holds : state.db.Holds gathering member) :
    (state.await turn).db.Holds gathering member := by
  rw [BatchState.await]
  induction turn.arrivals generalizing state with
  | nil => exact holds
  | cons arrival rest ih =>
    refine ih ?_
    have ⟨row, inside, pair⟩ := holds
    rw [BatchState.arrive]
    split
    · next admitted =>
      have received : Received state.db arrival gathering (state.db.receive arrival) :=
        receive_received state.db (of_decide_eq_true (Bool.and_eq_true_iff.mp admitted).1)
      refine ⟨row, ?_, pair⟩
      rw [received.rows]
      exact List.mem_append_left _ inside
    · exact holds

/-- What a turn does to a coherent job. -/
structure Turned (gathering : String) (state : BatchState) (turn : Turn) (next : BatchState) :
    Prop where
  /-- The job stays coherent. -/
  coherent : next.Coherent gathering
  /-- What is lost stays lost. -/
  lost : state.Lost → next.Lost
  /-- A harmless turn keeps the totals right. -/
  kept : state.Harmless gathering turn → state.Kept → next.Kept
  /-- Any other loses rows. -/
  harmful : ¬ state.Harmless gathering turn → next.Lost
  /-- A harmless turn keeps the members' rows. -/
  holds : state.Harmless gathering turn → ∀ member, state.db.Holds gathering member →
    next.db.Holds gathering member
  /-- The member has a row. -/
  present : turn.member ≠ "" → next.db.Holds gathering turn.member
  /-- The member is counted once. -/
  total : next.tally.created + next.tally.waitlisted + next.tally.skipped =
    state.tally.created + state.tally.waitlisted + state.tally.skipped +
      if turn.member ≠ "" then 1 else 0

/-- A turn without a collision is harmless. -/
theorem harmless_of_holds (holds : state.db.Holds gathering turn.member) :
    state.Harmless gathering turn := fun collides => absurd holds collides.2.1

/-- An empty entry changes nothing. -/
theorem turned_empty (coherent : state.Coherent gathering) (unnamed : turn.member = "") :
    Turned gathering state turn state where
  coherent := coherent
  lost lost := lost
  kept _ kept := kept
  harmful harmful := absurd (fun collides => absurd unnamed collides.1) harmful
  holds _ _ holds := holds
  present named := absurd unnamed named
  total := by rw [if_neg (not_not.mpr unnamed), Nat.add_zero]

/-- A member who has a row is passed over. -/
theorem turned_there (coherent : state.Coherent gathering) (named : turn.member ≠ "")
    (there : state.db.Holds gathering turn.member) :
    Turned gathering state turn state.skip where
  coherent := ⟨coherent.contained, coherent.either, coherent.created, coherent.waitlisted,
    coherent.listed, coherent.counter⟩
  lost lost := lost
  kept _ kept := kept
  harmful harmful := absurd (harmless_of_holds there) harmful
  holds _ _ holds := holds
  present _ := there
  total := by
    rw [if_pos named]
    rfl

/-- A claim goes on the accounts. -/
theorem turned_claimed (coherent : state.Coherent gathering) (named : turn.member ≠ "")
    {doc : Registration} {claimed : Database}
    (did : Claimed (state.await turn).db ⟨gathering, turn.member, via, now⟩ doc claimed) :
    Turned gathering state turn ((state.await turn).claim doc claimed) := by
  obtain ⟨waits, own, tally⟩ := coherent.await turn
  have added := added_claim waits did
  have left (status : RegistrationStatus) :
      ((state.await turn).claim doc claimed).left status =
        state.left status + if doc.registrationStatus = status then 1 else 0 := by
    rw [BatchState.left, added.own, own, List.countP_append, List.countP_singleton,
      BatchState.left]
    simp
  have counted := added.tally
  rw [tally] at counted
  have alone : ¬ (state.await turn).db.Holds gathering turn.member := by
    rintro ⟨row, inside, pair⟩
    obtain ⟨_, insertable, _⟩ := did.decided
    refine insertable.apart row inside ?_
    rw [did.event, did.member]
    exact pair
  refine ⟨added.coherent waits, ?_, ?_, ?_, ?_, ?_, ?_⟩
  · intro lost
    rw [BatchState.Lost] at lost ⊢
    rw [left, left, counted]
    rcases added.either with status | status <;> simp [status] <;> omega
  · rintro _ ⟨created, waitlisted⟩
    rw [BatchState.Kept, left, left, counted]
    rcases added.either with status | status <;> simp [status, created, waitlisted]
  · exact fun harmful => absurd (fun collides => absurd collides.2.2 alone) harmful
  · intro _ member holds
    obtain ⟨row, inside, pair⟩ : (state.await turn).db.Holds gathering member := await_holds holds
    refine ⟨row, ?_, pair⟩
    rw [added.rows]
    exact List.mem_append_left _ inside
  · intro _
    refine ⟨doc, ?_, did.event, did.member⟩
    rw [added.rows]
    exact List.mem_append_right _ (List.mem_singleton_self doc)
  · rw [counted, if_pos named]
    split <;> simp <;> omega

/-- A collision undoes the rows of the job. -/
theorem turned_collided (coherent : state.Coherent gathering)
    (collides : state.Collides gathering turn) :
    Turned gathering state turn (state.await turn).rollback.skip := by
  obtain ⟨waits, own, tally⟩ := coherent.await turn
  have bare := ownRows_rollback (state.await turn)
  have counted : (state.await turn).rollback.skip.tally =
      { state.tally with skipped := state.tally.skipped + 1 } := by
    rw [← tally]
    rfl
  have left := BatchState.left_of_none bare
  have spared (harmless : state.Harmless gathering turn) {member : String}
      (holds : (state.await turn).db.Holds gathering member) :
      (state.await turn).base.Holds gathering member := by
    obtain ⟨row, inside, pair⟩ := holds
    have none : (state.await turn).ownRows = [] := own.trans (harmless collides)
    rw [BatchState.ownRows, List.filter_eq_nil_iff] at none
    have others := none row inside
    rw [decide_eq_true_iff, not_not] at others
    exact ⟨row, others, pair⟩
  refine ⟨⟨?_, ?_, ?_, ?_, rfl, ?_⟩, ?_, ?_, ?_, ?_, ?_, ?_⟩
  · exact List.Subset.refl _
  · rw [bare]
    exact nofun
  · rw [left]
    exact Nat.zero_le _
  · rw [left]
    exact Nat.zero_le _
  · rw [left]
    exact (Int.add_zero _).symm
  · intro lost
    rw [BatchState.Lost] at lost ⊢
    rw [left, left, counted]
    exact Nat.lt_of_le_of_lt (Nat.zero_le _) lost
  · rintro harmless ⟨created, waitlisted⟩
    have none := BatchState.left_of_none (harmless collides)
    rw [none] at created waitlisted
    rw [BatchState.Kept, left, left, counted]
    exact ⟨created, waitlisted⟩
  · intro harmful
    have some : state.ownRows ≠ [] := fun none => harmful fun _ => none
    have rows := List.length_pos_of_ne_nil some
    rw [coherent.own_eq] at rows
    rw [BatchState.Lost, left, left, counted]
    exact Nat.lt_of_lt_of_le rows (Nat.add_le_add coherent.created coherent.waitlisted)
  · exact fun harmless member holds => spared harmless (await_holds holds)
  · intro _
    obtain ⟨row, inside, pair⟩ := collides.2.2
    refine ⟨row, ?_, pair⟩
    by_contra mine
    have written : row ∈ state.ownRows := by
      rw [← own]
      exact List.mem_filter.mpr ⟨inside, decide_eq_true mine⟩
    exact collides.2.1 ⟨row, List.mem_of_mem_filter written, pair⟩
  · rw [counted, if_pos collides.1]
    rfl

/-- A turn that returns does what a turn does. -/
theorem TurnEnds.turned (coherent : state.Coherent gathering)
    (ends : TurnEnds gathering via anchors now state turn next) :
    Turned gathering state turn next := by
  cases ends with
  | empty unnamed => exact turned_empty coherent unnamed
  | there named there => exact turned_there coherent named there
  | claimed named _ _ _ did => exact turned_claimed coherent named did
  | collided collides => exact turned_collided coherent collides

end Accounts

section Batch

variable {site : Site} {gathering via : String} {anchors : GatheringScope}

/-- What the turns of a batch do to a coherent job. -/
structure Filled (site : Site) (gathering via : String) (anchors : GatheringScope)
    (state : BatchState) (turns : List Turn) (last : BatchState) : Prop where
  /-- The job stays coherent. -/
  coherent : last.Coherent gathering
  /-- What is lost stays lost. -/
  lost : state.Lost → last.Lost
  /-- Harmless turns keep the totals right and leave everybody with a row. -/
  kept : EveryTurn (BatchState.turn site gathering via anchors) (BatchState.Harmless gathering)
      state turns → state.Kept → last.Kept ∧
    (∀ member, state.db.Holds gathering member → last.db.Holds gathering member) ∧
    ∀ turn ∈ turns, turn.member ≠ "" → last.db.Holds gathering turn.member
  /-- Any other turn loses rows. -/
  harmful : ¬ EveryTurn (BatchState.turn site gathering via anchors)
    (BatchState.Harmless gathering) state turns → last.Lost
  /-- Each entry is counted once. -/
  total : last.tally.created + last.tally.waitlisted + last.tally.skipped =
    state.tally.created + state.tally.waitlisted + state.tally.skipped +
      (turns.map Turn.member).countP (· ≠ "")

/-- The turns of a batch, one after the other. -/
theorem filled (named : Named site) : ∀ (turns : List Turn) (state last : BatchState),
    state.Coherent gathering →
    turns.foldlM (BatchState.turn site gathering via anchors) state = .ok last →
    Filled site gathering via anchors state turns last
  | [], state, last, coherent, done => by
    cases done
    exact ⟨coherent, id, fun _ kept => ⟨kept, fun _ => id, nofun⟩,
      fun harmful => absurd trivial harmful, rfl⟩
  | turn :: rest, state, last, coherent, done => by
    rw [List.foldlM_cons] at done
    obtain ⟨next, first, later⟩ := bind_eq_ok_iff.mp done
    have turned := (turn_ends named first).turned coherent
    have filling := filled named rest next last turned.coherent later
    refine ⟨filling.coherent, fun lost => filling.lost (turned.lost lost), ?_, ?_, ?_⟩
    · rintro ⟨harmless, others⟩ kept
      obtain ⟨right, stays, present⟩ := filling.kept (others next first) (turned.kept harmless kept)
      refine ⟨right, fun member holds => stays member (turned.holds harmless member holds), ?_⟩
      intro other inside given
      rcases List.mem_cons.mp inside with rfl | among
      · exact stays other.member (turned.present given)
      · exact present other among given
    · intro harmful
      by_cases harmless : state.Harmless gathering turn
      · refine filling.harmful fun others => harmful ⟨harmless, fun again same => ?_⟩
        rw [first] at same
        cases same
        exact others
      · exact filling.lost (turned.harmful harmless)
    · rw [filling.total, turned.total, List.map_cons, List.countP_cons]
      by_cases given : turn.member = ""
      · simp [given]
      · simp [given]
        omega

/-- The announcement of the end is not part of the accounts. -/
theorem accounted_announce {state : BatchState} {members : List String} {bulkJobId : String}
    {batchIndex totalBatches : Nat} :
    BatchState.Accounted gathering members
        { state with
          db := announceBulkCompleted state.db anchors gathering bulkJobId batchIndex
            totalBatches } ↔
      state.Accounted gathering members := by
  rw [announceBulkCompleted]
  split
  · exact ⟨fun accounts => ⟨accounts.present, accounts.created, accounts.waitlisted,
        accounts.total, accounts.counter⟩,
      fun accounts => ⟨accounts.present, accounts.created, accounts.waitlisted,
        accounts.total, accounts.counter⟩⟩
  · exact Iff.rfl

/-- A job that begins has written nothing. -/
theorem coherent_start (db : Database) (gathering : String) :
    BatchState.Coherent gathering ⟨db, db, {}⟩ ∧ BatchState.Kept ⟨db, db, {}⟩ := by
  have bare : BatchState.ownRows ⟨db, db, {}⟩ = [] := ownRows_rollback ⟨db, db, {}⟩
  have left := BatchState.left_of_none bare
  refine ⟨⟨List.Subset.refl _, ?_, ?_, ?_, rfl, ?_⟩, (left _).symm, (left _).symm⟩
  · rw [bare]
    exact nofun
  · exact Nat.le_of_eq (left _)
  · exact Nat.le_of_eq (left _)
  · rw [left]
    exact (Int.add_zero _).symm

/-- A batch accounts for everybody exactly when no row that arrives for a member finds rows of the
job in the table. -/
theorem batch_accounted_iff (site : Site) (db : Database) (gathering : String)
    (turns : List Turn) (via bulkJobId : String) (batchIndex totalBatches : Nat)
    (named : Named site) (last : BatchState)
    (returned : processBulkBatchAmong site db gathering turns via bulkJobId batchIndex
      totalBatches = .ok last) :
    last.Accounted gathering (turns.map Turn.member) ↔
      EveryTurn (BatchState.turn site gathering via (db.gatheringScope gathering))
        (BatchState.Harmless gathering) ⟨db, db, {}⟩ turns := by
  unfold processBulkBatchAmong at returned
  have ⟨state, loop, done⟩ := bind_eq_ok_iff.mp returned
  cases done
  have ⟨start, kept⟩ := coherent_start db gathering
  have filling := filled named turns _ state start loop
  rw [accounted_announce]
  constructor
  · intro accounts
    by_contra harmful
    have lost := filling.harmful harmful
    rw [BatchState.Lost, accounts.created, accounts.waitlisted] at lost
    exact Nat.lt_irrefl _ lost
  · intro harmless
    have ⟨right, _, present⟩ := filling.kept harmless kept
    refine ⟨?_, right.1, right.2, ?_, ?_⟩
    · intro member inside given
      have ⟨turn, among, same⟩ := List.mem_map.mp inside
      rw [← same] at given ⊢
      exact present turn among given
    · exact filling.total.trans (Nat.zero_add _)
    · rw [filling.coherent.counter, right.1]

end Batch

section Alone

variable {site : Site} {gathering via : String} {anchors : GatheringScope}

/-- A state of a batch that runs alone. -/
def aloneState (start : Database) (state : BulkTally × Database) : BatchState :=
  ⟨start, state.2, state.1⟩

/-- A turn without arrivals is a member of the batch. -/
theorem turn_alone (start : Database) (state : BulkTally × Database) (member : String) :
    (aloneState start state).turn site gathering via anchors ⟨member, []⟩ =
      (processBulkMember site start gathering via anchors state member).map
        (aloneState start) := by
  obtain ⟨tally, db⟩ := state
  rw [BatchState.turn, processBulkMember]
  have waited : (aloneState start (tally, db)).await ⟨member, []⟩ = ⟨start, db, tally⟩ := rfl
  rw [waited]
  dsimp only [aloneState]
  by_cases unnamed : member = ""
  · rw [if_pos unnamed, if_pos unnamed]
    rfl
  · rw [if_neg unnamed, if_neg unnamed]
    by_cases found : (existingRegistration db gathering member).isSome = true
    · refine (if_pos found).trans ?_
      rw [if_pos found]
      rfl
    · refine (if_neg found).trans ?_
      rw [if_neg found]
      cases claim : claimSeat site db ⟨gathering, member, via, site.now⟩ anchors with
      | error raised => cases raised <;> rfl
      | ok pair =>
        obtain ⟨doc, claimed⟩ := pair
        dsimp only
        rw [BatchState.claim]
        split <;> rfl

/-- Turns without arrivals are the members of the batch. -/
theorem turns_alone (start : Database) : ∀ (members : List String) (state : BulkTally × Database),
    (members.map fun member => (⟨member, []⟩ : Turn)).foldlM
        (BatchState.turn site gathering via anchors) (aloneState start state) =
      (members.foldlM (processBulkMember site start gathering via anchors) state).map
        (aloneState start)
  | [], _ => rfl
  | member :: rest, state => by
    rw [List.map_cons, List.foldlM_cons, List.foldlM_cons, turn_alone]
    cases processBulkMember site start gathering via anchors state member with
    | error raised => rfl
    | ok next => exact turns_alone start rest next

/-- Without arrivals the batch is the one that runs alone. -/
theorem batch_alone (site : Site) (db : Database) (gathering : String) (members : List String)
    (via bulkJobId : String) (batchIndex totalBatches : Nat) :
    processBulkBatchAmong site db gathering (members.map fun member => ⟨member, []⟩) via
        bulkJobId batchIndex totalBatches =
      (processBulkBatch site db gathering members via bulkJobId batchIndex totalBatches).map
        (aloneState db) := by
  have turns : (members.map fun member => (⟨member, []⟩ : Turn)).foldlM
      (BatchState.turn site gathering via (db.gatheringScope gathering)) ⟨db, db, {}⟩ = _ :=
    turns_alone db members ({}, db)
  rw [processBulkBatchAmong, processBulkBatch, turns]
  cases members.foldlM (processBulkMember site db gathering via (db.gatheringScope gathering))
      ({}, db) with
  | error raised => rfl
  | ok state =>
    obtain ⟨tally, filled⟩ := state
    show Except.ok _ = Except.map _ (if _ then _ else _)
    rw [announceBulkCompleted]
    split <;> rfl

end Alone

/-- A text longer than each of some texts. -/
def longName (texts : List String) : String := texts.foldr (· ++ ·) "+"

/-- Each of the texts is shorter. -/
theorem length_lt_longName {text : String} : ∀ {texts : List String}, text ∈ texts →
    text.length < (longName texts).length
  | head :: rest, member => by
    have split : longName (head :: rest) = head ++ longName rest := rfl
    rw [split, String.length_append]
    rcases List.mem_cons.mp member with rfl | later
    · have positive : 0 < (longName rest).length := by
        cases rest with
        | nil => decide
        | cons next others =>
          exact Nat.lt_of_le_of_lt (Nat.zero_le _) (length_lt_longName List.mem_cons_self)
      omega
    · have shorter := length_lt_longName later
      omega

/-- The site of the camp with a naming series. -/
def seriesSite (now : Int) : Site :=
  { northSite now with
    newName := fun db => longName (db.registrations.rows.map Registration.name) }

/-- The series gives names that no row has. -/
theorem seriesSite_named (now : Int) : Named (seriesSite now) :=
  fun _ taken => Nat.lt_irrefl _ (length_lt_longName taken)

/-- Bob registers himself. -/
def bobsArrival : Arrival where
  row := {
    name := "REG-BOB"
    branch := "north"
    group := "youth"
    gathering := "camp"
    registrant := "bob"
    registrationStatus := .registered
    registeredAt := 0
    registeredVia := "Self" }
  counted := true

/-- Bob's row arrives after Ann's has been written: Ann is counted, and has neither a row nor a
seat. -/
theorem ann_lost :
    ∃ last, processBulkBatchAmong (seriesSite 0) campDatabase "camp"
        [⟨"ann", []⟩, ⟨"bob", [bobsArrival]⟩] "Bulk" "JOB-1" 0 1 = .ok last ∧
      last.tally = ⟨1, 0, 1⟩ ∧ ¬ last.db.Holds "camp" "ann" ∧ last.left .registered = 0 ∧
      last.db.seatCount "camp" = last.base.seatCount "camp" := by
  refine ⟨_, rfl, rfl, ?_, rfl, rfl⟩
  rw [holds_iff_existing]
  decide

/-- Bob's row arrives before the job has written anything, and the accounts are right. -/
theorem camp_batch_accounted :
    ∃ last, processBulkBatchAmong (seriesSite 0) campDatabase "camp"
        [⟨"bob", [bobsArrival]⟩, ⟨"ann", []⟩] "Bulk" "JOB-1" 0 1 = .ok last ∧
      (last.Accounted "camp" ["bob", "ann"] ↔
        EveryTurn (BatchState.turn (seriesSite 0) "camp" "Bulk"
            (campDatabase.gatheringScope "camp"))
          (BatchState.Harmless "camp") ⟨campDatabase, campDatabase, {}⟩
          [⟨"bob", [bobsArrival]⟩, ⟨"ann", []⟩]) :=
  ⟨_, rfl, batch_accounted_iff (seriesSite 0) campDatabase "camp"
    [⟨"bob", [bobsArrival]⟩, ⟨"ann", []⟩] "Bulk" "JOB-1" 0 1 (seriesSite_named 0) _ rfl⟩

end FlockOs.EventRegistration
