import FlockOs.Lib.Runs
import FlockOs.Verif.AdapterStep
import Mathlib.Data.Countable.Basic
import Mathlib.Data.Rat.Encodable
import Mathlib.Logic.Equiv.List
import Mathlib.Tactic.DeriveCountable

/-!
# The two engagement gateways over the same calls

The site keeps the log in the order of the times, stamps a bound only when a time is passed, and
joins an attendee and a nonce to one text. What each call must be like for both to go on alike.
-/

namespace FlockOs.EngagementAdapters

open Lib Engagement EngagementStage
open EngagementFrappe (nonceMember)

/-- A site and a reference with what they have answered. -/
structure Twin where
  /-- The site. -/
  cache : Cache := {}
  /-- The reference. -/
  reference : Reference := {}
  /-- The answers of the site. -/
  cacheAnswers : List Answer := []
  /-- The answers of the reference. -/
  referenceAnswers : List Answer := []

/-- The same sessions in both, and nothing else. -/
def Twin.start (zone : Rat → Rat) (rows : String → Option SessionRow) : Twin where
  cache := { sessions := rows }
  reference := { store :=
    { sessions := fun sessionId => (rows sessionId).map (Cache.sessionFromRow zone sessionId) } }

section Steps

variable (codec : Codec) (zone : Rat → Rat)

/-- The same call over both. -/
def Twin.step (twin : Twin) (call : GatewayCall) : Twin where
  cache := (twin.cache.perform codec zone call).2
  reference := (twin.reference.perform call).2
  cacheAnswers := twin.cacheAnswers ++ [(twin.cache.perform codec zone call).1]
  referenceAnswers := twin.referenceAnswers ++ [(twin.reference.perform call).1]

/-- Both read the same sessions and rows, and hold the same times. -/
structure SameState (cache : Cache) (reference : Reference) : Prop where
  /-- Sessions. -/
  sessions : ∀ sessionId, cache.getSession zone sessionId = reference.store.sessions sessionId
  /-- Rows, in order. -/
  logs : ∀ sessionId,
    cache.participations codec sessionId = reference.store.participations sessionId
  /-- Times, in any order. -/
  buckets : ∀ key, (cache.throttle key).members.Perm (reference.store.throttle key)

/-- Every call was answered the same, and what both hold is the same. -/
structure Alike (twin : Twin) : Prop where
  /-- Answers. -/
  answers : twin.cacheAnswers = twin.referenceAnswers
  /-- States. -/
  state : SameState codec zone twin.cache twin.reference

/-- A stamp reads back what the reference keeps for a bound. -/
def StampsAlike (bound now : Option Rat) : Prop :=
  match bound, now with
  | none, none => False
  | none, some now => (fromTimestamp now).map zone = .ok now
  | some _, none => True
  | some first, some now => (fromTimestamp now).map zone = .ok first

/-- The status moves a session that is there, and stamps the bound it stamps alike. -/
def StatusMeets (reference : Reference) (sessionId : String) (status : SessionStatus)
    (now : Option Rat) : Prop :=
  ∃ session, reference.store.sessions sessionId = some session ∧
    (∀ time, now = some time → ∃ stamp, fromTimestamp time = .ok stamp) ∧
    (status = .open → StampsAlike zone session.openAt now) ∧
    (status = .closing ∨ status = .closed → StampsAlike zone session.closeAt now)

/-- The row is a replay if its joined text is in the log; if it is new its role is set, and it
comes behind every row of the log. -/
def RecordMeets (cache : Cache) (reference : Reference) (row : Participation) : Prop :=
  ((∃ other ∈ reference.store.participations row.sessionId,
      nonceMember other = nonceMember row) →
    ∃ other ∈ reference.store.participations row.sessionId,
      InMemory.nonceKey other = InMemory.nonceKey row) ∧
  ((∀ other ∈ reference.store.participations row.sessionId,
      nonceMember other ≠ nonceMember row) →
    row.role ≠ "" ∧ ∀ entry ∈ (cache.log row.sessionId).entries,
      place entry < place (row.submittedAt, codec.dumps row))

/-- No time of the bucket is exactly the cutoff or before the epoch and older, the bucket of
a limit that allows nothing has a recent time, and an allowed time is new. -/
def ThrottleMeets (reference : Reference) (key : String) (now : Rat) (maxPerSecond : Int) :
    Prop :=
  (∀ time ∈ reference.store.throttle key,
    (time = cutoff now → time < 0) ∧ (time < cutoff now → 0 ≤ time)) ∧
  (reference.store.recent key now = [] → 0 < maxPerSecond) ∧
  ((reference.store.recent key now).length < maxPerSecond →
    now ∉ reference.store.recent key now)

/-- A call that leaves the two alike. -/
def Meets (twin : Twin) : GatewayCall → Prop
  | .setSessionStatus sessionId status now _ =>
    StatusMeets zone twin.reference sessionId status now
  | .recordParticipation row => RecordMeets codec twin.cache twin.reference row
  | .throttleAllows key now _ maxPerSecond => ThrottleMeets twin.reference key now maxPerSecond
  | .hasAttendee sessionId attendeeKey =>
    (∃ row ∈ twin.reference.store.participations sessionId, row.attendeeKey = attendeeKey) →
      ∃ row ∈ twin.reference.store.participations sessionId,
        row.statusFlags.outOfScope = false ∧ row.attendeeKey = attendeeKey
  | .attendees sessionId =>
    ∀ row ∈ twin.reference.store.participations sessionId,
      row.statusFlags.outOfScope = false → row.attendeeKey ≠ ""
  | .getSession _ | .participations _ | .sameIpAttendeeCount _ _ => True

end Steps

section Calls

variable {codec : Codec} {zone : Rat → Rat} {cache : Cache} {reference : Reference}

/-- A call goes on alike exactly when it is answered the same and leaves the same behind. -/
def GoesOn (codec : Codec) (zone : Rat → Rat) (cache : Cache) (reference : Reference)
    (call : GatewayCall) : Prop :=
  (cache.perform codec zone call).1 = (reference.perform call).1 ∧
    SameState codec zone (cache.perform codec zone call).2 (reference.perform call).2

/-- A stamp that is set reads back alike exactly when the row says what the reference keeps. -/
theorem stampsAlike_some {bound : Option Rat} {now stamp : Rat}
    (ran : fromTimestamp now = .ok stamp) :
    StampsAlike zone bound (some now) ↔ some (zone stamp) = bound.or (some now) := by
  have read (kept : Rat) :
      (fromTimestamp now).map zone = .ok kept ↔ some (zone stamp) = some kept := by
    rw [ran]
    constructor
    · intro same
      exact congrArg some (Except.ok.inj same)
    · intro same
      exact congrArg Except.ok (Option.some.inj same)
  cases bound with
  | none => exact read now
  | some first => exact read first

/-- No stamp reads back alike exactly when the bound is set. -/
theorem stampsAlike_none {bound : Option Rat} (clock : Rat) :
    StampsAlike zone bound none ↔ bound = bound.or (some clock) := by
  cases bound with
  | none => exact iff_of_false id nofun
  | some first => exact iff_of_true trivial rfl

/-- A session reads back what the reference stores exactly when the bound that its status stamps
does. -/
theorem sessionFromRow_eq_iff {sessionId : String} {row : SessionRow} {status : SessionStatus}
    {stamp : Option Rat} {ts : Rat} :
    Cache.sessionFromRow zone sessionId (row.withStatus status stamp) =
        InMemory.stamped (Cache.sessionFromRow zone sessionId row) status ts ↔
      (status = .open →
        (stamp.or row.openAt).map zone = (row.openAt.map zone).or (some ts)) ∧
      (status = .closing ∨ status = .closed →
        (stamp.or row.closeAt).map zone = (row.closeAt.map zone).or (some ts)) := by
  cases status <;>
    simp [Cache.sessionFromRow, InMemory.stamped, SessionRow.withStatus,
      EngagementStage.sessionFromRow]

/-- A time outside the calendar raises. -/
theorem fromTimestamp_error {now : Rat} {raised : Error} (ran : fromTimestamp now = .error raised) :
    raised = .value "year is out of range" := by
  rw [fromTimestamp] at ran
  split at ran
  · cases ran
  · exact (Except.error.inj ran).symm

/-- A row and a session set under one id are the same state exactly when the row reads as the
session. -/
theorem withStatus_sameState (same : SameState codec zone cache reference) {sessionId : String}
    {row : SessionRow} (there : cache.sessions sessionId = some row) (status : SessionStatus)
    (stamp : Option Rat) (session : EngagementSession) :
    SameState codec zone (cache.withStatus sessionId status stamp)
        { reference with store := reference.store.withSession sessionId session } ↔
      Cache.sessionFromRow zone sessionId (row.withStatus status stamp) = session := by
  have own : (cache.withStatus sessionId status stamp).getSession zone sessionId =
      some (Cache.sessionFromRow zone sessionId (row.withStatus status stamp)) := by
    simp [Cache.getSession, Cache.withStatus, there]
  have stored : (reference.store.withSession sessionId session).sessions sessionId = some session :=
    Function.update_self ..
  constructor
  · intro next
    have agrees := next.sessions sessionId
    rw [own, stored] at agrees
    exact Option.some.inj agrees
  · intro reads
    refine ⟨fun other => ?_, same.logs, same.buckets⟩
    by_cases this : other = sessionId
    · rw [this, own, stored, reads]
    · have left : (cache.withStatus sessionId status stamp).sessions other =
          cache.sessions other := Function.update_of_ne this ..
      have right : (reference.store.withSession sessionId session).sessions other =
          reference.store.sessions other := Function.update_of_ne this ..
      rw [Cache.getSession, left, right]
      exact same.sessions other

/-- A change of the status goes on alike exactly when the session is there and the bound that it
stamps reads back alike. -/
theorem goesOn_setSessionStatus (same : SameState codec zone cache reference) (sessionId : String)
    (status : SessionStatus) (now : Option Rat) (clock : Rat) :
    GoesOn codec zone cache reference (.setSessionStatus sessionId status now clock) ↔
      StatusMeets zone reference sessionId status now := by
  have agrees := same.sessions sessionId
  rw [GoesOn, StatusMeets, Cache.perform, Reference.perform, Reference.setSessionStatus,
    InMemory.setSessionStatus, ← agrees]
  cases there : cache.sessions sessionId with
  | none =>
    rw [Cache.getSession, there]
    refine iff_of_false (fun both => ?_) (by rintro ⟨_, found, _⟩; cases found)
    cases now with
    | none => cases both.1
    | some time =>
      rw [Cache.setSessionStatus] at both
      cases ran : fromTimestamp time with
      | ok stamp =>
        rw [ran] at both
        cases both.1
      | error raised =>
        rw [ran, fromTimestamp_error ran] at both
        cases both.1
  | some row =>
    have found : cache.getSession zone sessionId =
        some (Cache.sessionFromRow zone sessionId row) := by
      rw [Cache.getSession, there]
      rfl
    have stored (stamp : Option Rat) (ts : Rat) :=
      (withStatus_sameState same there status stamp
        (InMemory.stamped (Cache.sessionFromRow zone sessionId row) status ts)).trans
          sessionFromRow_eq_iff
    rw [found]
    simp only [Option.some.injEq, exists_eq_left']
    cases now with
    | none =>
      have bound (first : Option Rat) : StampsAlike zone (first.map zone) none ↔ _ :=
        stampsAlike_none clock
      simp only [reduceCtorEq, false_implies, implies_true, true_and]
      refine (and_iff_right rfl).trans ((stored none clock).trans ?_)
      exact and_congr (imp_congr_right fun _ => (bound row.openAt).symm)
        (imp_congr_right fun _ => (bound row.closeAt).symm)
    | some time =>
      rw [Cache.setSessionStatus]
      cases ran : fromTimestamp time with
      | error raised =>
        refine iff_of_false (fun both => by cases both.1) (fun meets => ?_)
        obtain ⟨stamp, reads⟩ := meets.1 time rfl
        rw [ran] at reads
        cases reads
      | ok stamp =>
        have bound (first : Option Rat) : StampsAlike zone (first.map zone) (some time) ↔ _ :=
          stampsAlike_some ran
        refine (and_iff_right rfl).trans ((stored (some stamp) time).trans ?_)
        refine Iff.trans ?_ (and_iff_right fun other same => ⟨stamp, ?_⟩).symm
        · exact and_congr (imp_congr_right fun _ => (bound row.openAt).symm)
            (imp_congr_right fun _ => (bound row.closeAt).symm)
        · rw [← Option.some.inj same, ran]

/-- The site has seen a nonce exactly if a row carries its joined text. -/
theorem mem_nonceSeen_iff (sound : CacheSound codec cache)
    (same : SameState codec zone cache reference) (sessionId member : String) :
    member ∈ cache.nonceSeen sessionId ↔
      ∃ row ∈ reference.store.participations sessionId, nonceMember row = member := by
  rw [sound.nonces, ← same.logs, Cache.participations]
  constructor
  · intro ⟨row, there, own⟩
    exact ⟨_, List.mem_map_of_mem there, own⟩
  · intro ⟨read, there, own⟩
    obtain ⟨row, stored, reads⟩ := List.mem_map.mp there
    refine ⟨row, stored, ?_⟩
    rw [← own, ← reads, nonceMember_fromPayload]

/-- Rows with one key have one joined text. -/
theorem nonceMember_of_nonceKey {row other : Participation}
    (same : InMemory.nonceKey other = InMemory.nonceKey row) :
    nonceMember other = nonceMember row := by
  obtain ⟨_, rest⟩ := Prod.mk.inj same
  obtain ⟨attendee, nonce⟩ := Prod.mk.inj rest
  rw [nonceMember, nonceMember, attendee, nonce]

/-- A new row is read behind the others exactly if its role is set and its place is behind
theirs. -/
theorem append_participations_iff (sound : CacheSound codec cache) {row : Participation}
    (fresh : nonceMember row ∉ cache.nonceSeen row.sessionId) :
    (cache.append codec row).participations codec row.sessionId =
        cache.participations codec row.sessionId ++ [row] ↔
      row.role ≠ "" ∧ ∀ entry ∈ (cache.log row.sessionId).entries,
        place entry < place (row.submittedAt, codec.dumps row) := by
  have unheld (other : Participation) (held : other ∈ cache.payloads codec row.sessionId) :
      nonceMember other ≠ nonceMember row :=
    fun own => fresh ((sound.nonces _ _).mpr ⟨other, held, own⟩)
  have new : codec.dumps row ∉ (cache.log row.sessionId).members := fun there =>
    unheld row ((mem_loads (sound.texts row.sessionId) row).mpr there) rfl
  obtain ⟨before, behind, whole, placed, last⟩ :=
    SortedSet.insertEntry_cut (row.submittedAt, codec.dumps row) (cache.log row.sessionId).entries
  have old : cache.payloads codec row.sessionId =
      (before.map Prod.snd).filterMap codec.loads ++ (behind.map Prod.snd).filterMap codec.loads := by
    rw [Cache.payloads, SortedSet.members, whole, List.map_append, List.filterMap_append]
  have next : (cache.append codec row).payloads codec row.sessionId =
      (before.map Prod.snd).filterMap codec.loads ++
        row :: (behind.map Prod.snd).filterMap codec.loads := by
    rw [Cache.payloads, append_log_self, SortedSet.members, SortedSet.add_fresh new, placed,
      List.map_append, List.filterMap_append, List.map_cons, List.filterMap_cons,
      codec.loads_dumps]
  rw [← last, ← fromPayload_eq_iff, Cache.participations, Cache.participations, next, old,
    List.map_append, List.map_append, List.append_assoc, List.append_cancel_left_eq, List.map_cons]
  cases behind with
  | nil => simp
  | cons entry rest =>
    have inside : entry.2 ∈ (cache.log row.sessionId).members := by
      rw [SortedSet.members, whole]
      simp
    obtain ⟨other, written⟩ := sound.texts row.sessionId entry.2 inside
    have held : other ∈ cache.payloads codec row.sessionId := by
      refine (mem_loads (sound.texts row.sessionId) other).mpr ?_
      rw [written]
      exact inside
    refine iff_of_false (fun moved => ?_) (fun both => by cases both.2)
    -- The head of the rows behind would be the new row, with its nonce.
    rw [List.map_cons, List.filterMap_cons, ← written, codec.loads_dumps, List.map_cons,
      List.cons_append] at moved
    have head := (List.cons.inj moved).1
    refine unheld other held ?_
    rw [← nonceMember_fromPayload other, ← head, nonceMember_fromPayload]

/-- A new row leaves the same state behind exactly if it is read behind the others. -/
theorem append_sameState (sound : CacheSound codec cache)
    (same : SameState codec zone cache reference) {row : Participation}
    (fresh : nonceMember row ∉ cache.nonceSeen row.sessionId) :
    SameState codec zone (cache.append codec row)
        { store := reference.store.append row
          attendees := reference.indexed row } ↔
      row.role ≠ "" ∧ ∀ entry ∈ (cache.log row.sessionId).entries,
        place entry < place (row.submittedAt, codec.dumps row) := by
  rw [← append_participations_iff sound fresh, same.logs, ← append_participations_self]
  constructor
  · intro next
    exact next.logs row.sessionId
  · intro agrees
    refine ⟨same.sessions, fun sessionId => ?_, same.buckets⟩
    by_cases own : sessionId = row.sessionId
    · rw [own]
      exact agrees
    · show (cache.append codec row).participations codec sessionId =
        (reference.store.append row).participations sessionId
      rw [append_participations_of_ne _ own, ← same.logs, Cache.participations, Cache.payloads,
        append_log_of_ne own]
      rfl

/-- A row goes on alike exactly if both know it for a replay, or neither and it is read behind
the others. -/
theorem goesOn_recordParticipation (sound : CacheSound codec cache)
    (known : ReferenceSound reference) (same : SameState codec zone cache reference)
    (row : Participation) :
    GoesOn codec zone cache reference (.recordParticipation row) ↔
      RecordMeets codec cache reference row := by
  have seen := mem_nonceSeen_iff sound same row.sessionId (nonceMember row)
  have keyed := known.nonces (InMemory.nonceKey row)
  rw [GoesOn, RecordMeets, Cache.perform, Reference.perform, Cache.recordParticipation,
    Reference.recordParticipation]
  by_cases replayed : nonceMember row ∈ cache.nonceSeen row.sessionId
  · rw [if_pos replayed]
    have carried := seen.mp replayed
    by_cases exactly : InMemory.nonceKey row ∈ reference.store.nonceSeen
    · rw [if_pos exactly]
      refine iff_of_true ⟨rfl, same⟩ ⟨fun _ => keyed.mp exactly, fun none => ?_⟩
      obtain ⟨other, there, own⟩ := carried
      exact absurd own (none other there)
    · rw [if_neg exactly]
      exact iff_of_false (fun both => by cases both.1)
        (fun meets => exactly (keyed.mpr (meets.1 carried)))
  · have unseen : ∀ other ∈ reference.store.participations row.sessionId,
        nonceMember other ≠ nonceMember row :=
      fun other there own => replayed (seen.mpr ⟨other, there, own⟩)
    have unkeyed : InMemory.nonceKey row ∉ reference.store.nonceSeen := by
      intro held
      obtain ⟨other, there, own⟩ := keyed.mp held
      exact unseen other there (nonceMember_of_nonceKey own)
    rw [if_neg replayed, if_neg unkeyed]
    have next := append_sameState sound same replayed
    constructor
    · intro both
      refine ⟨?_, fun _ => next.mp both.2⟩
      rintro ⟨other, there, own⟩
      exact absurd own (unseen other there)
    · intro meets
      exact ⟨rfl, next.mpr (meets.2 unseen)⟩

/-- The cutoff of a time is not after it. -/
theorem cutoff_le {now : Rat} (double : binary64.Represents now) : cutoff now ≤ now :=
  FloatFormat.round_le_of_le double (sub_le_self now zero_le_one)

/-- A time survives the clean-up of a bucket on a site. -/
def survives (now time : Rat) : Bool := !(decide (0 ≤ time) && decide (time ≤ cutoff now))

/-- The times left on a site are the times held that survive. -/
theorem recent_members (sound : CacheSound codec cache)
    (same : SameState codec zone cache reference) (key : String) (now : Rat) :
    (cache.recent key now).members.Perm ((reference.store.throttle key).filter (survives now)) := by
  have own : (cache.recent key now).entries =
      (cache.throttle key).entries.filter (survives now ∘ Prod.snd) := by
    show (cache.throttle key).entries.filter _ = _
    refine List.filter_congr fun entry there => ?_
    show survives now entry.1 = survives now entry.2
    rw [sound.buckets key entry there]
  rw [SortedSet.members, own, ← List.filter_map]
  exact (same.buckets key).filter _

/-- Both keep a time exactly when it is not one second old, unless before the epoch, and not older,
unless at or after it. -/
theorem survives_eq_iff (now time : Rat) :
    survives now time = decide (cutoff now ≤ time) ↔
      (time = cutoff now → time < 0) ∧ (time < cutoff now → 0 ≤ time) := by
  rw [survives, Bool.eq_iff_iff]
  simp only [Bool.not_eq_true', Bool.and_eq_false_iff, decide_eq_false_iff_not, decide_eq_true_iff,
    not_le]
  constructor
  · intro agrees
    refine ⟨fun last => ?_, fun older => ?_⟩
    · cases agrees.mpr last.ge with
      | inl before => exact before
      | inr recent => exact absurd last recent.ne'
    · exact not_lt.mp fun before => absurd (agrees.mp (.inl before)) older.not_ge
  · intro ⟨last, older⟩
    constructor
    · intro kept
      cases kept with
      | inl before => exact not_lt.mp fun old => absurd (older old) before.not_ge
      | inr recent => exact recent.le
    · intro recent
      cases recent.lt_or_eq with
      | inl later => exact .inr later
      | inr ends => exact .inl (last ends.symm)

/-- Buckets set under one key are the same state exactly if they hold the same times. -/
theorem setBucket_sameState (same : SameState codec zone cache reference) (key : String)
    (bucket : SortedSet Rat Rat) (times : List Rat) :
    SameState codec zone (cache.setBucket key bucket) (reference.setBucket key times) ↔
      bucket.members.Perm times := by
  have stored : (reference.setBucket key times).store.throttle key = times :=
    Function.update_self ..
  constructor
  · intro next
    have agrees := next.buckets key
    rw [setBucket_throttle_self, stored] at agrees
    exact agrees
  · intro agrees
    refine ⟨same.sessions, same.logs, fun other => ?_⟩
    by_cases this : other = key
    · rw [this, setBucket_throttle_self, stored]
      exact agrees
    · have kept : (reference.setBucket key times).store.throttle other =
          reference.store.throttle other := Function.update_of_ne this ..
      rw [setBucket_throttle_of_ne this, kept]
      exact same.buckets other

/-- The same times are left by both exactly if each time is kept by both or by neither. -/
theorem survivors_iff {times : List Rat} {now : Rat} :
    (times.filter (survives now)).Perm (times.filter fun ts => cutoff now ≤ ts) ↔
      ∀ time ∈ times, (time = cutoff now → time < 0) ∧ (time < cutoff now → 0 ≤ time) := by
  constructor
  · intro left time there
    refine (survives_eq_iff now time).mp (Bool.eq_iff_iff.mpr ?_)
    have agrees := left.mem_iff (a := time)
    rw [List.mem_filter, List.mem_filter, and_iff_right there, and_iff_right there] at agrees
    exact agrees
  · intro agrees
    have filters := List.filter_congr fun time there =>
      (survives_eq_iff now time).mpr (agrees time there)
    rw [filters]

/-- A set and a list that add a time hold the same ones exactly if they did and it was new. -/
theorem added_iff {recent : SortedSet Rat Rat} {times : List Rat} {now : Rat}
    (kept : now ∈ recent.members → now ∈ times) :
    (recent.add now now).members.Perm (times ++ [now]) ↔
      recent.members.Perm times ∧ now ∉ times := by
  constructor
  · intro both
    have distinct := both.nodup_iff.mp (recent.add now now).distinct
    have new : now ∉ times := fun held =>
      (List.nodup_append.mp distinct).2.2 now held now List.mem_cons_self rfl
    have added := (SortedSet.members_add_fresh (mt kept new)).symm.trans
      (both.trans (List.perm_append_singleton ..))
    exact ⟨added.cons_inv, new⟩
  · rintro ⟨agree, new⟩
    have fresh : now ∉ recent.members := fun held => new (agree.mem_iff.mp held)
    exact (SortedSet.members_add_fresh fresh).trans
      ((agree.cons now).trans (List.perm_append_singleton ..).symm)

/-- A throttled call goes on alike exactly if both keep the same times, a limit that allows
nothing meets a recent time, and a time that is allowed is new. -/
theorem goesOn_throttleAllows (sound : CacheSound codec cache)
    (same : SameState codec zone cache reference) (key : String) {now : Rat}
    (double : binary64.Represents now) (maxPerSecond : Int) :
    GoesOn codec zone cache reference (.throttleAllows key now double maxPerSecond) ↔
      ThrottleMeets reference key now maxPerSecond := by
  have left := recent_members sound same key now
  have agree : (cache.recent key now).members.Perm (reference.store.recent key now) ↔ _ :=
    (left.congr_left _).trans survivors_iff
  rw [GoesOn, ThrottleMeets, Cache.perform, Reference.perform, Cache.throttleAllows,
    Reference.throttleAllows, ← agree]
  by_cases full : maxPerSecond ≤ (reference.store.recent key now).length
  · have late : ¬ (reference.store.recent key now).length < maxPerSecond := not_lt.mpr full
    rw [if_pos full]
    by_cases refused : (cache.recent key now).members.length ≠ 0 ∧
        maxPerSecond ≤ (cache.recent key now).members.length
    · rw [if_pos refused]
      constructor
      · intro both
        have times := (setBucket_sameState same key _ _).mp both.2
        refine ⟨times, fun empty => ?_, fun early => absurd early late⟩
        rw [empty] at times
        exact absurd times.length_eq refused.1
      · intro meets
        exact ⟨rfl, (setBucket_sameState same key _ _).mpr meets.1⟩
    · rw [if_neg refused]
      refine iff_of_false (fun both => by cases both.1) (fun meets => refused ?_)
      have length := meets.1.length_eq
      rw [length]
      refine ⟨fun none => ?_, full⟩
      have allowed := meets.2.1 (List.eq_nil_of_length_eq_zero none)
      rw [none] at full
      omega
  · rw [if_neg full]
    have early := not_le.mp full
    by_cases refused : (cache.recent key now).members.length ≠ 0 ∧
        maxPerSecond ≤ (cache.recent key now).members.length
    · rw [if_pos refused]
      refine iff_of_false (fun both => by cases both.1) (fun meets => full ?_)
      rw [← meets.1.length_eq]
      exact refused.2
    · rw [if_neg refused]
      have positive : reference.store.recent key now = [] → 0 < maxPerSecond := by
        intro empty
        rw [empty] at early
        exact early
      have kept : now ∈ (cache.recent key now).members →
          now ∈ reference.store.recent key now := by
        intro held
        have there := (List.mem_filter.mp (left.mem_iff.mp held)).1
        exact List.mem_filter.mpr ⟨there, decide_eq_true (cutoff_le double)⟩
      constructor
      · intro both
        obtain ⟨times, new⟩ := (added_iff kept).mp ((setBucket_sameState same key _ _).mp both.2)
        exact ⟨times, positive, fun _ => new⟩
      · intro meets
        refine ⟨rfl, (setBucket_sameState same key _ _).mpr ?_⟩
        exact (added_iff kept).mpr ⟨meets.1, meets.2.2 early⟩

/-- Both know an attendee alike exactly if one with a row has a row in the window. -/
theorem goesOn_hasAttendee (known : ReferenceSound reference)
    (same : SameState codec zone cache reference) (sessionId attendeeKey : String) :
    GoesOn codec zone cache reference (.hasAttendee sessionId attendeeKey) ↔
      ((∃ row ∈ reference.store.participations sessionId, row.attendeeKey = attendeeKey) →
        ∃ row ∈ reference.store.participations sessionId,
          row.statusFlags.outOfScope = false ∧ row.attendeeKey = attendeeKey) := by
  have any : cache.hasAttendee codec sessionId attendeeKey = true ↔
      ∃ row ∈ reference.store.participations sessionId, row.attendeeKey = attendeeKey := by
    rw [Cache.hasAttendee, same.logs, List.any_eq_true]
    simp only [decide_eq_true_eq]
  have inside : reference.hasAttendee sessionId attendeeKey = true ↔
      ∃ row ∈ reference.store.participations sessionId,
        row.statusFlags.outOfScope = false ∧ row.attendeeKey = attendeeKey := by
    rw [Reference.hasAttendee, decide_eq_true_iff, known.attendees, mem_firstPerKey_id,
      List.mem_map]
    simp only [List.mem_filter, Bool.not_eq_true', and_assoc]
  have weaker : reference.hasAttendee sessionId attendeeKey = true →
      cache.hasAttendee codec sessionId attendeeKey = true := by
    intro held
    obtain ⟨row, there, _, own⟩ := inside.mp held
    exact any.mpr ⟨row, there, own⟩
  rw [← any, ← inside, GoesOn, Cache.perform, Reference.perform]
  constructor
  · intro both held
    have agrees := Answer.flag.inj both.1
    rw [← agrees]
    exact held
  · intro follows
    refine ⟨congrArg Answer.flag (Bool.eq_iff_iff.mpr ⟨follows, weaker⟩), same⟩

/-- Both list the same attendees exactly if no row in the window has an empty key. -/
theorem goesOn_attendees (known : ReferenceSound reference)
    (same : SameState codec zone cache reference) (sessionId : String) :
    GoesOn codec zone cache reference (.attendees sessionId) ↔
      ∀ row ∈ reference.store.participations sessionId,
        row.statusFlags.outOfScope = false → row.attendeeKey ≠ "" := by
  have site : cache.attendees codec sessionId = firstPerKey id
      ((((reference.store.participations sessionId).filter fun row =>
        !row.statusFlags.outOfScope).map (·.attendeeKey)).filter (· ≠ "")) := by
    have keys : (((cache.payloads codec sessionId).map participationFromPayload).filter fun row =>
        !row.statusFlags.outOfScope).map (·.attendeeKey) =
          ((cache.payloads codec sessionId).filter fun row =>
            !row.statusFlags.outOfScope).map (·.attendeeKey) := by
      rw [List.filter_map, List.map_map]
      rfl
    rw [Cache.attendees, ← same.logs, Cache.participations, keys, ← filterMap_truthy,
      List.filterMap_map]
    rfl
  rw [GoesOn, Cache.perform, Reference.perform, site, known.attendees]
  constructor
  · intro both row there inside empty
    have agrees := Answer.keys.inj both.1
    have listed : row.attendeeKey ∈ firstPerKey id
        (((reference.store.participations sessionId).filter fun row =>
          !row.statusFlags.outOfScope).map (·.attendeeKey)) := by
      refine mem_firstPerKey_id.mpr (List.mem_map_of_mem (List.mem_filter.mpr ⟨there, ?_⟩))
      rw [inside]
      rfl
    rw [← agrees, mem_firstPerKey_id, List.mem_filter, decide_eq_true_iff] at listed
    exact listed.2 empty
  · intro set
    refine ⟨congrArg Answer.keys ?_, same⟩
    rw [List.filter_eq_self.mpr]
    intro key offered
    obtain ⟨row, kept, own⟩ := List.mem_map.mp offered
    obtain ⟨there, inside⟩ := List.mem_filter.mp kept
    rw [← own]
    refine decide_eq_true (set row there ?_)
    rw [Bool.not_eq_true'] at inside
    exact inside

/-- The addresses are counted alike. -/
theorem goesOn_sameIpAttendeeCount (known : ReferenceSound reference)
    (same : SameState codec zone cache reference) (sessionId address : String) :
    GoesOn codec zone cache reference (.sameIpAttendeeCount sessionId address) := by
  refine ⟨congrArg Answer.count ?_, same⟩
  rw [Cache.sameIpAttendeeCount, InMemory.sameIpAttendeeCount, known.addresses, same.logs]
  split
  · rfl
  · rfl

/-- A call goes on alike exactly when it meets the condition. -/
theorem goesOn_iff_meets {twin : Twin} (sound : CacheSound codec twin.cache)
    (known : ReferenceSound twin.reference)
    (same : SameState codec zone twin.cache twin.reference) (call : GatewayCall) :
    GoesOn codec zone twin.cache twin.reference call ↔ Meets codec zone twin call := by
  cases call with
  | setSessionStatus sessionId status now clock =>
    exact goesOn_setSessionStatus same sessionId status now clock
  | getSession sessionId =>
    exact iff_of_true ⟨congrArg Answer.session (same.sessions sessionId), same⟩ trivial
  | recordParticipation row => exact goesOn_recordParticipation sound known same row
  | hasAttendee sessionId attendeeKey => exact goesOn_hasAttendee known same sessionId attendeeKey
  | attendees sessionId => exact goesOn_attendees known same sessionId
  | participations sessionId =>
    exact iff_of_true ⟨congrArg Answer.rows (same.logs sessionId), same⟩ trivial
  | throttleAllows key now double maxPerSecond =>
    exact goesOn_throttleAllows sound same key double maxPerSecond
  | sameIpAttendeeCount sessionId address =>
    exact iff_of_true (goesOn_sameIpAttendeeCount known same sessionId address) trivial

/-- The indexes of both describe what they hold. -/
structure Sound (codec : Codec) (twin : Twin) : Prop where
  /-- The site. -/
  cache : CacheSound codec twin.cache
  /-- The reference. -/
  reference : ReferenceSound twin.reference

/-- Both start in agreement. -/
theorem Alike.start (codec : Codec) (zone : Rat → Rat) (rows : String → Option SessionRow) :
    Alike codec zone (Twin.start zone rows) where
  answers := rfl
  state := ⟨fun _ => rfl, fun _ => rfl, fun _ => .nil⟩

/-- A call leaves both alike exactly when it meets the condition. -/
theorem Alike.step_iff {twin : Twin} (sound : Sound codec twin) (alike : Alike codec zone twin)
    (call : GatewayCall) :
    Alike codec zone (twin.step codec zone call) ↔ Meets codec zone twin call := by
  rw [← goesOn_iff_meets sound.cache sound.reference alike.state]
  constructor
  · intro next
    have answers : twin.cacheAnswers ++ _ = twin.referenceAnswers ++ _ := next.answers
    rw [alike.answers] at answers
    exact ⟨List.singleton_inj.mp (List.append_cancel_left answers), next.state⟩
  · intro both
    refine ⟨?_, both.2⟩
    show twin.cacheAnswers ++ _ = twin.referenceAnswers ++ _
    rw [alike.answers, both.1]

/-- From the same sessions, over every sequence of calls, the site answers as the reference does
and reads the same exactly if every call meets its condition. -/
theorem gateways_alike_iff (codec : Codec) (zone : Rat → Rat)
    (rows : String → Option SessionRow) (calls : List GatewayCall) :
    EveryState (Twin.step codec zone) (Alike codec zone) (Twin.start zone rows) calls ↔
      EveryCall (Twin.step codec zone) (Meets codec zone) (Twin.start zone rows) calls :=
  everyState_iff_everyCall (Sound codec)
    (fun _ call sound => ⟨sound.cache.perform zone call, sound.reference.perform call⟩)
    (fun _ call sound alike => alike.step_iff sound call)
    ⟨CacheSound.start rows, ReferenceSound.start _⟩ (Alike.start codec zone rows)

end Calls

instance countableChar : Countable Char :=
  Function.Injective.countable (f := Char.toNat) fun _ _ => Char.toNat_inj.mp

instance countableString : Countable String :=
  Function.Injective.countable (f := String.toList) fun _ _ => String.toList_inj.mp

deriving instance Countable for
  Value, EngagementType, EngagementKind, WindowReason, StatusFlags, Participation

/-- Payloads can be written so that they can be read back. -/
theorem Codec.exists_codec : Nonempty Codec := by
  obtain ⟨number, distinct⟩ := Countable.exists_injective_nat Participation
  have injective : Function.Injective fun row => String.ofList (List.replicate (number row) '.') := by
    intro left right same
    have lengths := congrArg List.length (String.ofList_injective same)
    rw [List.length_replicate, List.length_replicate] at lengths
    exact distinct lengths
  exact ⟨⟨_, Function.partialInv _, Function.partialInv_left injective⟩⟩

/-- A time within the calendar sets the row. -/
theorem perform_setSessionStatus {now stamp : Rat} (ran : fromTimestamp now = .ok stamp)
    (codec : Codec) (zone : Rat → Rat) (cache : Cache) (sessionId : String)
    (status : SessionStatus) (clock : Rat) :
    cache.perform codec zone (.setSessionStatus sessionId status (some now) clock) =
      (.nothing, cache.withStatus sessionId status (some stamp)) := by
  rw [Cache.perform, Cache.setSessionStatus, ran]
  rfl

/-- A session that is open. -/
def openRow : SessionRow where
  gathering := "Game night"
  branch := "North"
  organization := "Flock"
  kind := .tapBurst
  status := .open
  openAt := some 100

/-- The window of the session ends at 110, and the session is closed five seconds later. -/
def closingCalls : List GatewayCall :=
  [.setSessionStatus "ENG-1" .closing (some 110) 110, .setSessionStatus "ENG-1" .closed (some 115) 115,
    .getSession "ENG-1"]

/-- The reference keeps the end of the window that the first call set; the site moves it to the
time of the second. -/
theorem closed_moves_close_at :
    Nonempty Codec ∧ ∀ codec : Codec,
      (runAll (Twin.step codec id) (Twin.start id fun _ => some openRow) closingCalls).cacheAnswers ≠
        (runAll (Twin.step codec id) (Twin.start id fun _ => some openRow)
          closingCalls).referenceAnswers := by
  refine ⟨Codec.exists_codec, fun codec same => ?_⟩
  have last := congrArg (fun answers : List Answer => answers[2]?) same
  have site : (runAll (Twin.step codec id) (Twin.start id fun _ => some openRow)
      closingCalls).cacheAnswers[2]? = some (.session (some
        { EngagementStage.sessionFromRow "ENG-1" openRow with
          status := .closed
          closeAt := some 115 })) := by
    have begins : fromTimestamp 110 = .ok 110 := by decide +kernel
    have ends : fromTimestamp 115 = .ok 115 := by decide +kernel
    rw [closingCalls, runAll_cons, runAll_cons, Twin.step, Twin.step,
      perform_setSessionStatus ends, perform_setSessionStatus begins]
    rfl
  have reference : (runAll (Twin.step codec id) (Twin.start id fun _ => some openRow)
      closingCalls).referenceAnswers[2]? = some (.session (some
        { EngagementStage.sessionFromRow "ENG-1" openRow with
          status := .closed
          closeAt := some 110 })) := by rfl
  rw [site, reference] at last
  exact absurd last (by decide)

end FlockOs.EngagementAdapters
