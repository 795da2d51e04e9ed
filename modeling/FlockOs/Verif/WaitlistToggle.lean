import FlockOs.EventApproval
import FlockOs.Verif.SeatClaims
import FlockOs.Verif.Waitlist

/-!
# The waitlist toggle

The policy of an approval can turn the waitlist off, but no endpoint reads the toggle: who finds no
seat waits. Nobody waits at an event in the runs whose requests find a seat for every member that
they bring.
-/

namespace FlockOs.EventRegistration

open Lib Registrations EventApproval

/-- The members of a list, each once, that have no row of the gathering. -/
def newcomers (db : Database) (gathering : String) (members : List String) : List String :=
  (members.filter fun member =>
    decide (member ≠ "") && (existingRegistration db gathering member).isNone).dedup

/-- Under a positive capacity a seat is free for each newcomer. -/
def Room (gathering : String) (db : Database) (members : List String) : Prop :=
  ∀ event ∈ db.gatherings gathering, ∀ limit ∈ event.registrationCapacity, 0 < limit →
    newcomers db gathering members ≠ [] →
      event.registeredCount + (newcomers db gathering members).length ≤ limit

/-- Room can be tested. -/
instance (gathering : String) (db : Database) (members : List String) :
    Decidable (Room gathering db members) :=
  inferInstanceAs (Decidable (∀ event ∈ db.gatherings gathering,
    ∀ limit ∈ event.registrationCapacity, 0 < limit → newcomers db gathering members ≠ [] →
      event.registeredCount + (newcomers db gathering members).length ≤ limit))

/-- The members that a request brings past its gates to the seats of a gathering. -/
def Call.brings (gathering : String) (db : Database) : Call → List String
  | .register site name member registeredVia =>
    match registerForEventRead site db name member registeredVia with
    | .ok (.inr plan) => if plan.gathering = gathering then [plan.registrant] else []
    | _ => []
  | .bulk _ name members _ _ _ _ => if name = gathering then members else []
  | .cancel _ _ => []
  | .checkIn _ _ _ => []

/-- A request finds a seat for every newcomer that it brings to the gathering. -/
def SeatsAll (gathering : String) (db : Database) (call : Call) : Prop :=
  Room gathering db (call.brings gathering db)

/-- Whether a request finds its seats can be tested. -/
instance (gathering : String) (db : Database) (call : Call) :
    Decidable (SeatsAll gathering db call) :=
  inferInstanceAs (Decidable (Room gathering db (call.brings gathering db)))

/-- A member without a row, in terms of the rows. -/
theorem existingRegistration_isNone {db : Database} {gathering member : String} :
    (existingRegistration db gathering member).isNone = true ↔
      ∀ row ∈ db.registrations.rows, ¬ (row.gathering = gathering ∧ row.registrant = member) := by
  rw [existingRegistration, Option.isNone_iff_eq_none, List.find?_eq_none]
  simp only [decide_eq_true_eq]

/-- Who is a newcomer. -/
theorem mem_newcomers {db : Database} {gathering member : String} {members : List String} :
    member ∈ newcomers db gathering members ↔
      member ∈ members ∧ member ≠ "" ∧
        ∀ row ∈ db.registrations.rows,
          ¬ (row.gathering = gathering ∧ row.registrant = member) := by
  rw [newcomers, List.mem_dedup, List.mem_filter, Bool.and_eq_true, decide_eq_true_eq,
    existingRegistration_isNone]

/-- Newcomers are named once. -/
theorem newcomers_nodup (db : Database) (gathering : String) (members : List String) :
    (newcomers db gathering members).Nodup :=
  List.nodup_dedup _

/-- Room for a list is room for a part of it. -/
theorem Room.part {gathering : String} {db : Database} {members fewer : List String}
    (room : Room gathering db members) (part : ∀ member ∈ fewer, member ∈ members) :
    Room gathering db fewer := by
  intro event found limit capacity positive some
  have inside : newcomers db gathering fewer ⊆ newcomers db gathering members := by
    intro member new
    obtain ⟨listed, given, rowless⟩ := mem_newcomers.mp new
    exact mem_newcomers.mpr ⟨part member listed, given, rowless⟩
  have shorter : (newcomers db gathering fewer).length ≤ (newcomers db gathering members).length :=
    ((newcomers_nodup db gathering fewer).subperm inside).length_le
  have others : newcomers db gathering members ≠ [] := by
    intro nobody
    rw [nobody] at inside
    exact some (List.eq_nil_of_subset_nil inside)
  have fits := room event found limit capacity positive others
  omega

/-- Room is a matter of the tables. -/
theorem Room.congr {gathering : String} {db other : Database} {members : List String}
    (room : Room gathering db members) (same : other.toTables = db.toTables) :
    Room gathering other members := by
  have columns : other.gatherings = db.gatherings := congrArg Tables.gatherings same
  have rows : other.registrations = db.registrations := congrArg Tables.registrations same
  have new : newcomers other gathering members = newcomers db gathering members := by
    simp only [newcomers, existingRegistration, rows]
  rw [Room, columns, new]
  exact room

/-- A newcomer with room gets a seat. -/
theorem Room.verdict {gathering : String} {db : Database} {members : List String}
    (room : Room gathering db members) {member : String}
    (new : member ∈ newcomers db gathering members) {event : Gathering}
    (found : db.gatherings gathering = some event) : event.verdict = .registered := by
  rcases capacityDecision_status event.registrationCapacity event.registeredCount with
    seated | waits
  · exact seated
  · obtain ⟨limit, capacity, positive, reached⟩ := capacityDecision_waitlisted waits
    have fits := room event found limit capacity positive (List.ne_nil_of_mem new)
    have counted : 0 < (newcomers db gathering members).length := List.length_pos_of_mem new
    omega

/-- A claim that gets a seat, or is of another event, leaves nobody waiting. -/
theorem Claimed.drained {gathering : String} {db next : Database} {plan : RegisterPlan}
    {doc : Registration} (claimed : Claimed db plan doc next)
    (drained : Drained gathering db.registrations)
    (seated : plan.gathering = gathering → ∀ event, db.gatherings gathering = some event →
      event.verdict = .registered) :
    Drained gathering next.registrations := by
  obtain ⟨event, insertable, found, status, written⟩ := claimed.decided
  have rows : next.registrations = db.registrations.add doc insertable.fresh :=
    congrArg Tables.registrations written
  intro row waiting
  obtain ⟨member, ofEvent, waits⟩ := waiting
  rw [rows] at member
  rcases (Table.mem_add insertable.fresh).mp member with old | new
  · exact drained row ⟨old, ofEvent, waits⟩
  · have here : plan.gathering = gathering := by
      rw [← claimed.event, ← new]
      exact ofEvent
    rw [here] at found
    rw [new, status, seated here event found] at waits
    cases waits

/-- After a member was seated there is room for the rest of the list. -/
theorem Claimed.room {db next : Database} {plan : RegisterPlan} {doc : Registration}
    {rest : List String} (claimed : Claimed db plan doc next) (given : plan.registrant ≠ "")
    (room : Room plan.gathering db (plan.registrant :: rest)) :
    Room plan.gathering next rest := by
  obtain ⟨event, insertable, found, status, written⟩ := claimed.decided
  have rows : next.registrations = db.registrations.add doc insertable.fresh :=
    congrArg Tables.registrations written
  have fresh : plan.registrant ∈ newcomers db plan.gathering (plan.registrant :: rest) := by
    rw [mem_newcomers, ← claimed.event, ← claimed.member]
    exact ⟨List.mem_cons_self, claimed.member ▸ given, insertable.apart⟩
  have seated := room.verdict fresh found
  have taken : next.gatherings = bumped db.gatherings plan.gathering .registeredCount 1 := by
    have columns := congrArg Tables.gatherings written
    rw [if_pos seated] at columns
    exact columns
  -- The member and the newcomers that are left were newcomers before.
  have fewer : (newcomers next plan.gathering rest).length + 1 ≤
      (newcomers db plan.gathering (plan.registrant :: rest)).length := by
    have gone : plan.registrant ∉ newcomers next plan.gathering rest := by
      intro new
      obtain ⟨_, _, rowless⟩ := mem_newcomers.mp new
      refine rowless doc ?_ ⟨claimed.event, claimed.member⟩
      rw [rows]
      exact (Table.mem_add insertable.fresh).mpr (.inr rfl)
    have distinct : (plan.registrant :: newcomers next plan.gathering rest).Nodup :=
      List.nodup_cons.mpr ⟨gone, newcomers_nodup _ _ _⟩
    have inside : plan.registrant :: newcomers next plan.gathering rest ⊆
        newcomers db plan.gathering (plan.registrant :: rest) := by
      intro member one
      rcases List.mem_cons.mp one with same | new
      · rw [same]
        exact fresh
      · obtain ⟨listed, named, rowless⟩ := mem_newcomers.mp new
        refine mem_newcomers.mpr ⟨List.mem_cons_of_mem _ listed, named, ?_⟩
        intro row old
        apply rowless row
        rw [rows]
        exact (Table.mem_add insertable.fresh).mpr (.inl old)
    exact (distinct.subperm inside).length_le
  intro after present limit capacity positive _
  obtain ⟨other, same, sameCapacity, count⟩ := bumped_registeredCount found plan.gathering 1
  rw [taken, same] at present
  obtain rfl := Option.some.inj present
  rw [if_pos rfl] at count
  have fits := room event found limit (sameCapacity.symm.trans capacity) positive
    (List.ne_nil_of_mem fresh)
  rw [count]
  simp only [adjustCounter]
  omega

/-- One member of a batch leaves nobody waiting, and room for the rest. -/
theorem processBulkMember_drained {site : Site} {start : Database}
    {gathering name registeredVia : String} {anchors : GatheringScope}
    {state next : BulkTally × Database} {member : String} {members rest : List String}
    (initial : Drained gathering start.registrations)
    (ready : name = gathering → Room gathering start members)
    (part : ∀ other ∈ member :: rest, other ∈ members)
    (drained : Drained gathering state.2.registrations)
    (room : name = gathering → Room gathering state.2 (member :: rest))
    (done : processBulkMember site start name registeredVia anchors state member = .ok next) :
    Drained gathering next.2.registrations ∧ (name = gathering → Room gathering next.2 rest) := by
  have later : name = gathering → Room gathering state.2 rest := fun here =>
    (room here).part fun _ => List.mem_cons_of_mem member
  unfold processBulkMember at done
  dsimp only at done
  by_cases unnamed : member = ""
  · rw [if_pos unnamed] at done
    obtain rfl := Except.ok.inj done
    exact ⟨drained, later⟩
  rw [if_neg unnamed] at done
  split at done
  · obtain rfl := Except.ok.inj done
    exact ⟨drained, later⟩
  · split at done
    · rename_i doc claimed claim
      have stored := claimSeat_ok claim
      have kept : Drained gathering (emitClaimed claimed doc).registrations := by
        rw [emitClaimed_toTables]
        refine stored.drained drained fun here event found => ?_
        have fresh : member ∈ newcomers state.2 gathering (member :: rest) := by
          obtain ⟨_, insertable, _⟩ := stored.decided
          refine mem_newcomers.mpr ⟨List.mem_cons_self, unnamed, ?_⟩
          have apart := insertable.apart
          rw [stored.event, stored.member] at apart
          exact here ▸ apart
        exact (room here).verdict fresh found
      have left : name = gathering → Room gathering (emitClaimed claimed doc) rest := by
        intro here
        subst here
        exact (stored.room unnamed (room rfl)).congr (emitClaimed_toTables claimed doc)
      split at done <;> obtain rfl := Except.ok.inj done
      · exact ⟨kept, left⟩
      · exact ⟨kept, left⟩
    · -- The rollback returns to the start of the job, where there was room for all.
      obtain rfl := Except.ok.inj done
      exact ⟨initial, fun here => (ready here).part fun other listed =>
        part other (List.mem_cons_of_mem _ listed)⟩
    · cases done

/-- The members of a batch, one after the other, leave nobody waiting. -/
theorem processBulkMembers_drained {site : Site} {start : Database}
    {gathering name registeredVia : String} {anchors : GatheringScope} {members : List String}
    (initial : Drained gathering start.registrations)
    (ready : name = gathering → Room gathering start members) :
    ∀ (rest : List String) (state last : BulkTally × Database),
      (∀ other ∈ rest, other ∈ members) → Drained gathering state.2.registrations →
      (name = gathering → Room gathering state.2 rest) →
      rest.foldlM (processBulkMember site start name registeredVia anchors) state = .ok last →
      Drained gathering last.2.registrations
  | [], state, last, _, drained, _, done => by
    obtain rfl := Except.ok.inj done
    exact drained
  | member :: rest, state, last, part, drained, room, done => by
    rw [List.foldlM_cons] at done
    obtain ⟨next, first, loop⟩ := bind_eq_ok_iff.mp done
    obtain ⟨kept, left⟩ := processBulkMember_drained initial ready part drained room first
    exact processBulkMembers_drained initial ready rest next last
      (fun other listed => part other (List.mem_cons_of_mem _ listed)) kept left loop

/-- A batch that finds a seat for every newcomer leaves nobody waiting. -/
theorem processBulkBatch_drained {site : Site} {db next : Database} {gathering name : String}
    {members : List String} {registeredVia bulkJobId : String} {batchIndex totalBatches : Nat}
    {tally : BulkTally} (drained : Drained gathering db.registrations)
    (room : name = gathering → Room gathering db members)
    (done : processBulkBatch site db name members registeredVia bulkJobId batchIndex totalBatches =
      .ok (tally, next)) :
    Drained gathering next.registrations := by
  unfold processBulkBatch at done
  obtain ⟨⟨counted, filled⟩, loop, last⟩ := bind_eq_ok_iff.mp done
  have kept := processBulkMembers_drained drained room members ({}, db) (counted, filled)
    (fun _ listed => listed) drained room loop
  dsimp only at last
  split at last <;> obtain ⟨-, rfl⟩ := Prod.mk.inj (Except.ok.inj last)
  · exact kept
  · exact kept

/-- The member of a plan is named. -/
theorem registerForEventRead_registrant {site : Site} {db : Database} {name : String}
    {member : Option String} {registeredVia : String} {plan : RegisterPlan}
    (read : registerForEventRead site db name member registeredVia = .ok (.inr plan)) :
    plan.registrant ≠ "" := by
  obtain ⟨registrant, resolved, _, _, planned⟩ := registerForEventRead_ok read
  have given : registrant ≠ "" := by
    cases named : truthy member with
    | none =>
      rw [named] at resolved
      exact truthy_nonempty resolved
    | some text =>
      rw [named] at resolved
      obtain rfl := Option.some.inj resolved
      exact truthy_nonempty named
  have own : plan.registrant = registrant := by
    split at planned
    · cases planned
    · rw [Sum.inr.inj planned]
  rw [own]
  exact given

/-- A registration that finds a seat leaves nobody waiting. -/
theorem registerForEvent_drained {site : Site} {db next : Database} {gathering name : String}
    {member : Option String} {registeredVia : String} {receipt : RegisterReceipt}
    (drained : Drained gathering db.registrations)
    (seats : SeatsAll gathering db (.register site name member registeredVia))
    (done : registerForEvent site db name member registeredVia = .ok (receipt, next)) :
    Drained gathering next.registrations := by
  unfold registerForEvent at done
  obtain ⟨verdict, read, written⟩ := bind_eq_ok_iff.mp done
  cases verdict with
  | inl existing =>
    obtain ⟨-, rfl⟩ := Prod.mk.inj (Except.ok.inj written)
    exact drained
  | inr plan =>
    rw [SeatsAll, Call.brings, read] at seats
    dsimp only at seats written
    unfold registerForEventWrite at written
    split at written
    · rename_i doc claimed claim
      obtain ⟨-, rfl⟩ := Prod.mk.inj (Except.ok.inj written)
      have stored := claimSeat_ok claim
      rw [emitClaimed_toTables]
      refine stored.drained drained fun here event found => ?_
      rw [if_pos here] at seats
      obtain ⟨_, insertable, _⟩ := stored.decided
      have apart := insertable.apart
      rw [stored.event, stored.member, here] at apart
      have given := registerForEventRead_registrant read
      exact seats.verdict (mem_newcomers.mpr ⟨List.mem_cons_self, given, apart⟩) found
    · split at written
      · obtain ⟨-, rfl⟩ := Prod.mk.inj (Except.ok.inj written)
        exact drained
      · cases written
    · cases written

/-- A request that finds a seat for every newcomer leaves nobody waiting. -/
theorem perform_drained {db : Database} {gathering : String} {call : Call}
    (drained : Drained gathering db.registrations) (seats : SeatsAll gathering db call) :
    Drained gathering (call.perform db).registrations := by
  unfold Call.perform committed
  cases call with
  | register site name member registeredVia =>
    dsimp only
    split
    · next done => exact registerForEvent_drained drained seats done
    · exact drained
  | cancel site registrationId =>
    dsimp only
    split
    · next done =>
      unfold cancelRegistration at done
      obtain ⟨doc, read, written⟩ := bind_eq_ok_iff.mp done
      obtain ⟨found, _, valid⟩ := cancelRegistrationRead_ok read
      have step := cancelRegistrationWrite_step found (.refl doc) rfl valid written
      exact fun row waiting => drained row (step.waiting waiting)
    · exact drained
  | checkIn site registrationId attendanceRef =>
    dsimp only
    split
    · next done =>
      obtain ⟨_, _, _, resaved, status, written⟩ := checkInRegistration_ok done
      rw [written]
      exact fun row waiting =>
        drained row (waiting_of_replace resaved.found (by simp [status]) waiting)
    · exact drained
  | bulk site name members registeredVia bulkJobId batchIndex totalBatches =>
    dsimp only
    split
    · next done =>
      refine processBulkBatch_drained drained (fun here => ?_) done
      rw [SeatsAll, Call.brings, if_pos here] at seats
      exact seats
    · exact drained

/-- The policy of the approval of an event turns the waitlist off. -/
structure WaitlistOff (session : Session) (approval : Approval) (gathering : String) : Prop where
  /-- The approval is of the event. -/
  event : approval.gathering = gathering
  /-- Its policy has the toggle off. -/
  off : (approvalPolicyFromRow session approval.approvalPolicy).enableWaitlist = false

/-- With the waitlist turned off nobody ever waits at an event, in the runs whose requests find a
seat for every newcomer that they bring. -/
theorem drained_throughout {session : Session} {approval : Approval} {gathering : String}
    {db : Database} {calls : List Call} :
    WaitlistOff session approval gathering → Drained gathering db.registrations →
      EveryCall Call.perform (SeatsAll gathering) db calls →
      EveryState Call.perform (fun state => Drained gathering state.registrations) db calls := by
  intro _ drained seats
  exact everyState_of_everyCall (fun state => Drained gathering state.registrations)
    (fun _ _ held allowed => perform_drained held allowed) (fun _ held => held) drained seats

/-- A session whose policies turn the waitlist off. -/
def strictSession : Session where
  tables := { getRoles := fun _ => [Permissions.roleOrgAdmin] }
  policies _ := some { enableWaitlist := false }
  user := "admin"
  now := 1

/-- The approval of the camp. -/
def strictApproval : Approval where
  name := "EVAPPR-00001"
  gathering := "camp"
  approvalPolicy := some "No waitlist"

/-- Ben finds the seat that Ann gave up, and nobody waits. -/
theorem camp_drained :
    EveryState Call.perform (fun state => Drained "camp" state.registrations) campDatabase
      [joinCamp 1 "ann", .cancel (northSite 2) "REG-0", joinCamp 3 "ben"] :=
  have off : WaitlistOff strictSession strictApproval "camp" := ⟨rfl, rfl⟩
  drained_throughout off (fun _ waiting => List.not_mem_nil waiting.member) (by decide)

/-- Ben waits for the seat that Ann holds, though the policy has the waitlist turned off. -/
theorem ben_waits_at_camp :
    WaitlistOff strictSession strictApproval "camp" ∧
      Drained "camp" campDatabase.registrations ∧
      ¬ EveryState Call.perform (fun state => Drained "camp" state.registrations) campDatabase
        [joinCamp 1 "ann", joinCamp 2 "ben"] := by
  refine ⟨⟨rfl, rfl⟩, fun _ waiting => List.not_mem_nil waiting.member, fun throughout => ?_⟩
  have queued : ∃ row ∈ (runAll Call.perform campDatabase
      [joinCamp 1 "ann", joinCamp 2 "ben"]).registrations.rows,
      row.gathering = "camp" ∧ row.registrationStatus = .waitlisted := by decide
  have ⟨row, member, event, waits⟩ := queued
  exact throughout.last row ⟨member, event, waits⟩

end FlockOs.EventRegistration
