import FlockOs.RoomProjector
import FlockOs.Verif.EventRooms

/-!
# Whom a projection reaches

A projection either raises where it converts a value of the payload, before it publishes anything,
or returns its emissions and has asked the publisher for every one of them, whatever the publisher
raised. The shards of references are computed, sorted and made distinct, so each of them receives
one emission and no other shard does.
-/

namespace FlockOs.RoomProjector

open Lib Realtime EventBus

/-- The rooms of two shards differ. -/
theorem shardChannel_injective (eventId : String) {shard other : Nat}
    (same : shardChannel eventId shard = shardChannel eventId other) : shard = other := by
  have text := congrArg String.toList same
  rw [toList_shardChannel, toList_shardChannel] at text
  have digits := List.append_cancel_left (List.append_cancel_left (List.append_cancel_left text))
  rw [← intOfDigits_toDigits shard, digits, intOfDigits_toDigits]

/-- With shards every reference has one. -/
theorem shardFor_positive {shardCount : Nat} (positive : 0 < shardCount) (attendeeRef : String) :
    ∃ shard < shardCount, shardFor attendeeRef shardCount = .ok shard := by
  have bounded := shardFor_yields shardCount attendeeRef
  rw [shardFor, if_neg (Nat.ne_of_gt positive)] at bounded ⊢
  exact ⟨_, bounded _ rfl, rfl⟩

/-- With shards the shards of some references are those of each, once. -/
theorem shardsFor_positive {shardCount : Nat} (positive : 0 < shardCount) (refs : List String) :
    ∃ shards, shardsFor refs shardCount = .ok shards ∧ shards.Nodup ∧
      ∀ shard, shard ∈ shards ↔ ∃ ref ∈ refs, shardFor ref shardCount = .ok shard := by
  have hashed : ∀ ref, shardFor ref shardCount =
      .ok ((Crc32.check crcPolynomial (utf8 ref)).toNat % shardCount) :=
    fun ref => if_neg (Nat.ne_of_gt positive)
  have numbers : refs.mapM (fun ref => shardFor ref shardCount) =
      .ok (refs.map fun ref => (Crc32.check crcPolynomial (utf8 ref)).toNat % shardCount) := by
    rw [funext hashed]
    exact List.mapM_pure
  refine ⟨_, by rw [shardsFor, numbers]; rfl, ?_, fun shard => ?_⟩
  · exact (List.perm_insertionSort _ _).nodup_iff.mpr (List.nodup_dedup _)
  · rw [sortedSet, List.mem_insertionSort, List.mem_dedup, List.mem_map]
    refine exists_congr fun ref => and_congr_right fun _ => ?_
    rw [hashed]
    exact ⟨fun same => congrArg Except.ok same, Except.ok.inj⟩

variable {Any : Type} {eventId : String}

/-- The number of emissions that a room receives. -/
def received (room : String) (emissions : List (RoomEmission Any)) : Nat :=
  emissions.countP fun emission => emission.room = room

/-- Emissions to some shards and one to the broadcast room. -/
def fanned (eventId : String) (presence : String × List (String × Any))
    (counted : String × List (String × Any)) (shards : List Nat) : List (RoomEmission Any) :=
  toShards presence.1 eventId presence.2 shards ++
    [⟨counted.1, broadcastChannel eventId, counted.2⟩]

variable (eventId) (presence counted : String × List (String × Any))

/-- The broadcast room receives one emission. -/
theorem received_broadcast (shards : List Nat) :
    received (broadcastChannel eventId) (fanned eventId presence counted shards) = 1 := by
  have apart : received (broadcastChannel eventId)
      (toShards presence.1 eventId presence.2 shards) = 0 := by
    refine List.countP_eq_zero.mpr fun emission member same => ?_
    obtain ⟨shard, _, rfl⟩ := List.mem_map.mp member
    exact broadcastChannel_ne_shardChannel eventId eventId shard (of_decide_eq_true same).symm
  rw [received, fanned, List.countP_append, ← received, apart, List.countP_singleton,
    if_pos (decide_eq_true rfl)]

/-- Each of some distinct shards receives one emission, and no other shard does. -/
theorem received_shard {shards : List Nat} (distinct : shards.Nodup) (shard : Nat) :
    received (shardChannel eventId shard) (fanned eventId presence counted shards) =
      if shard ∈ shards then 1 else 0 := by
  have apart : ¬decide (broadcastChannel eventId = shardChannel eventId shard) = true :=
    fun same => broadcastChannel_ne_shardChannel eventId eventId shard (of_decide_eq_true same)
  have own : received (shardChannel eventId shard)
      (toShards presence.1 eventId presence.2 shards) = shards.count shard := by
    rw [received, toShards, List.countP_map, List.count]
    refine List.countP_congr fun other _ => ?_
    rw [Function.comp_apply, decide_eq_true_iff, beq_iff_eq]
    exact ⟨shardChannel_injective eventId, fun same => same ▸ rfl⟩
  rw [received, fanned, List.countP_append, ← received, own, List.countP_singleton,
    if_neg apart, distinct.count]
  rfl

/-- All rooms are of the gathering. -/
theorem room_fanned {shardCount : Nat} {shards : List Nat}
    (bounded : ∀ shard ∈ shards, shard < shardCount) :
    ∀ emission ∈ fanned eventId presence counted shards,
      RoomOf eventId shardCount emission.room := by
  intro emission member
  rcases List.mem_append.mp member with member | member
  · obtain ⟨shard, listed, rfl⟩ := List.mem_map.mp member
    exact .inr ⟨shard, bounded shard listed, rfl⟩
  · rw [List.mem_singleton.mp member]
    exact .inl rfl

variable (py : Python Any) (shardCount : Nat) (event : EventBus.DomainEvent Any)

/-- The emissions reach everyone that an event of a gathering addresses, once: the broadcast room
receives one; of the shards of a batch, those of its references do, or all where it has none; of a
session, all do; of a check-in, that of its member does; and every room is of the gathering. -/
structure Reaches (eventId : String) (emissions : List (RoomEmission Any)) : Prop where
  /-- The broadcast room. -/
  broadcast : received (broadcastChannel eventId) emissions = 1
  /-- The shards of a batch. -/
  bulk : event.name = Events.attendanceBulkRecorded → ∃ refs, attendeeRefs py event = .ok refs ∧
    ∀ shard, received (shardChannel eventId shard) emissions =
      if shard < shardCount ∧ (refs = [] ∨ ∃ ref ∈ refs, shardFor ref shardCount = .ok shard)
      then 1 else 0
  /-- The shards of a session. -/
  lifecycle : event.name ∈ lifecycleEvents → ∀ shard,
    received (shardChannel eventId shard) emissions = if shard < shardCount then 1 else 0
  /-- The shard of a check-in. -/
  single : event.name = Events.attendanceRecorded → ∃ member, memberText py event = .ok member ∧
    ∀ shard, received (shardChannel eventId shard) emissions =
      if member ≠ "" ∧ shardFor member shardCount = .ok shard then 1 else 0
  /-- The rooms. -/
  rooms : ∀ emission ∈ emissions, RoomOf eventId shardCount emission.room

/-- The values that the route of an event converts can be converted. -/
structure Converts : Prop where
  /-- The member of a check-in has a text. -/
  member : event.name = Events.attendanceRecorded → ∀ value,
    (truthyGet py event.payload "member").or (truthyGet py event.payload "attendee_ref") =
      some value → ∃ text, py.str value = .ok text
  /-- The count of a batch is a number, where it is there. -/
  count : event.name = Events.attendanceBulkRecorded → ∀ value,
    truthyGet py event.payload "count" = some value → ∃ number, py.int value = .ok number
  /-- The references of a batch have texts. -/
  refs : event.name = Events.attendanceBulkRecorded →
    ∀ key ∈ ["attendees", "members", "players", "attendee_refs"], ∀ values,
      (event.payload.lookup key).bind py.items = some values → ∀ value ∈ values,
        py.truth value = true → ∃ text, py.str value = .ok text

/-- The shards that an event addresses. -/
structure Addressed (shards : List Nat) : Prop where
  distinct : shards.Nodup
  bounded : ∀ shard ∈ shards, shard < shardCount
  bulk : event.name = Events.attendanceBulkRecorded → ∃ refs, attendeeRefs py event = .ok refs ∧
    ∀ shard, shard ∈ shards ↔
      shard < shardCount ∧ (refs = [] ∨ ∃ ref ∈ refs, shardFor ref shardCount = .ok shard)
  lifecycle : event.name ∈ lifecycleEvents → ∀ shard, shard ∈ shards ↔ shard < shardCount
  single : event.name = Events.attendanceRecorded → ∃ member, memberText py event = .ok member ∧
    ∀ shard, shard ∈ shards ↔ member ≠ "" ∧ shardFor member shardCount = .ok shard

variable {py shardCount event}

/-- Emissions to the shards that an event addresses reach everyone. -/
theorem Addressed.reaches {shards : List Nat} (addressed : Addressed py shardCount event shards)
    (eventId : String) (presence counted : String × List (String × Any)) :
    Reaches py shardCount event eventId (fanned eventId presence counted shards) := by
  have shard := received_shard eventId presence counted addressed.distinct
  refine ⟨received_broadcast eventId presence counted shards, ?_, ?_, ?_,
    room_fanned eventId presence counted addressed.bounded⟩
  · intro bulk
    obtain ⟨refs, converted, listed⟩ := addressed.bulk bulk
    exact ⟨refs, converted, fun number => (shard number).trans (if_congr (listed number) rfl rfl)⟩
  · intro lifecycle number
    exact (shard number).trans (if_congr (addressed.lifecycle lifecycle number) rfl rfl)
  · intro single
    obtain ⟨member, converted, listed⟩ := addressed.single single
    exact ⟨member, converted, fun number => (shard number).trans (if_congr (listed number) rfl rfl)⟩

/-- The member of a check-in has a text exactly when its value can be converted. -/
theorem exists_memberText_iff : (∃ member, memberText py event = .ok member) ↔ ∀ value,
    (truthyGet py event.payload "member").or (truthyGet py event.payload "attendee_ref") =
      some value → ∃ text, py.str value = .ok text := by
  rw [memberText]
  cases (truthyGet py event.payload "member").or (truthyGet py event.payload "attendee_ref") with
  | none => exact iff_of_true ⟨"", rfl⟩ nofun
  | some value => exact ⟨fun text _ same => Option.some.inj same ▸ text, fun all => all value rfl⟩

/-- The count of a batch is had exactly when its value can be converted. -/
theorem exists_countNumber_iff : (∃ count, countNumber py event = .ok count) ↔ ∀ value,
    truthyGet py event.payload "count" = some value → ∃ number, py.int value = .ok number := by
  rw [countNumber]
  cases truthyGet py event.payload "count" with
  | none => exact iff_of_true ⟨0, rfl⟩ nofun
  | some value =>
    exact ⟨fun number _ same => Option.some.inj same ▸ number, fun all => all value rfl⟩

/-- The references of a batch are had exactly when their values can be converted. -/
theorem exists_attendeeRefs_iff : (∃ refs, attendeeRefs py event = .ok refs) ↔
    ∀ key ∈ ["attendees", "members", "players", "attendee_refs"], ∀ values,
      (event.payload.lookup key).bind py.items = some values → ∀ value ∈ values,
        py.truth value = true → ∃ text, py.str value = .ok text := by
  have had : (∃ refs, attendeeRefs py event = .ok refs) ↔ ∃ refs,
      ["attendees", "members", "players", "attendee_refs"].mapM (refsAt py event) = .ok refs := by
    constructor
    · rintro ⟨refs, flat⟩
      obtain ⟨lists, all, _⟩ := bind_eq_ok_iff.mp flat
      exact ⟨lists, all⟩
    · rintro ⟨lists, all⟩
      exact ⟨lists.flatten, bind_eq_ok_iff.mpr ⟨lists, all, rfl⟩⟩
  rw [had, exists_mapM_ok_iff]
  refine forall₂_congr fun key _ => ?_
  rw [refsAt]
  cases (event.payload.lookup key).bind py.items with
  | none => exact iff_of_true ⟨[], rfl⟩ nofun
  | some values =>
    rw [exists_mapM_ok_iff]
    constructor
    · rintro each _ ⟨⟩ value member kept
      exact each value (List.mem_filter.mpr ⟨member, kept⟩)
    · intro each value member
      obtain ⟨inside, kept⟩ := List.mem_filter.mp member
      exact each values rfl value inside kept

section Known

variable {eventId}
variable (known : gatheringId py event = .ok (some eventId)) (named : eventId ≠ "")
include known named

omit known in
/-- An event whose gathering has a name is routed by it. -/
theorem routed_named (routed : String → Except Error (List (RoomEmission Any))) :
    (match truthy (some eventId) with
      | none => pure []
      | some eventId => routed eventId) = routed eventId := by
  rw [truthy_some named]

/-- A check-in whose member has a text goes to the shard of its member. -/
theorem routeSingleAttendance_eq (positive : 0 < shardCount) {member : String}
    (text : memberText py event = .ok member) : ∃ presence counted shards,
      routeSingleAttendance py shardCount event = .ok (fanned eventId presence counted shards) ∧
      shards.Nodup ∧ ∀ shard, shard ∈ shards ↔
        member ≠ "" ∧ shardFor member shardCount = .ok shard := by
  rw [routeSingleAttendance, known, text]
  by_cases anonymous : member = ""
  · refine ⟨("", []), (rtAttendanceCount, presenceMessage py event 1), [], ?_, List.nodup_nil, ?_⟩
    · refine (routed_named named _).trans ?_
      rw [if_pos anonymous]
      rfl
    · exact fun shard => iff_of_false nofun fun both => both.1 anonymous
  · obtain ⟨shard, _, hashed⟩ := shardFor_positive positive member
    refine ⟨(rtAttendancePresence, merged [("gathering", py.ofString eventId),
      ("member", py.ofString member)] (extra event)),
      (rtAttendanceCount, presenceMessage py event 1), [shard], ?_, List.nodup_singleton _, ?_⟩
    · refine (routed_named named _).trans ?_
      rw [if_neg anonymous, hashed]
      rfl
    · intro other
      rw [List.mem_singleton, and_iff_right anonymous, hashed]
      exact ⟨fun same => same ▸ rfl, fun same => (Except.ok.inj same).symm⟩

/-- A batch whose values can be converted goes to the shards of its references, or to all. -/
theorem routeBulkAttendance_eq (positive : 0 < shardCount) {count : Int} {refs : List String}
    (number : countNumber py event = .ok count) (texts : attendeeRefs py event = .ok refs) :
    ∃ presence counted shards,
      routeBulkAttendance py shardCount event = .ok (fanned eventId presence counted shards) ∧
      shards.Nodup ∧ ∀ shard, shard ∈ shards ↔ shard < shardCount ∧
        (refs = [] ∨ ∃ ref ∈ refs, shardFor ref shardCount = .ok shard) := by
  have routed : routeBulkAttendance py shardCount event = (do
      let shards ← if refs = [] then pure (allShards shardCount) else shardsFor refs shardCount
      pure (toShards rtAttendancePresence eventId [("gathering", py.ofString eventId),
          ("batch_id", (event.payload.lookup "batch_id").getD py.none)] shards ++
        [⟨rtAttendanceCount, broadcastChannel eventId, presenceMessage py event count⟩])) := by
    rw [routeBulkAttendance, known]
    refine (routed_named named _).trans ?_
    rw [number, texts]
    rfl
  rw [routed]
  have published (shards : List Nat) : ∃ presence counted, fanned eventId presence counted shards =
      toShards rtAttendancePresence eventId [("gathering", py.ofString eventId),
        ("batch_id", (event.payload.lookup "batch_id").getD py.none)] shards ++
      [⟨rtAttendanceCount, broadcastChannel eventId, presenceMessage py event count⟩] :=
    ⟨(_, _), (_, _), rfl⟩
  by_cases none : refs = []
  · obtain ⟨presence, counted, same⟩ := published (allShards shardCount)
    refine ⟨presence, counted, allShards shardCount, ?_, List.nodup_range, fun shard => ?_⟩
    · rw [same, if_pos none]
      rfl
    · rw [allShards, List.mem_range, and_iff_left (.inl none)]
  · obtain ⟨shards, hashed, distinct, listed⟩ := shardsFor_positive positive refs
    obtain ⟨presence, counted, same⟩ := published shards
    refine ⟨presence, counted, shards, ?_, distinct, fun shard => ?_⟩
    · rw [same, if_neg none, hashed]
      rfl
    · rw [listed, or_iff_right none]
      refine (and_iff_right_of_imp ?_).symm
      rintro ⟨ref, _, own⟩
      exact shardFor_yields shardCount ref shard own

variable (shardCount) in
/-- A session goes to all shards. -/
theorem routeGameLifecycle_eq : ∃ presence counted,
    routeGameLifecycle py shardCount event =
      .ok (fanned eventId presence counted (allShards shardCount)) := by
  rw [routeGameLifecycle, known]
  exact ⟨(_, _), (_, _), routed_named named _⟩

/-- A notice goes to no shard. -/
theorem routeBroadcastOnly_eq (realtimeEvent : String) : ∃ presence counted,
    routeBroadcastOnly py event realtimeEvent = .ok (fanned eventId presence counted []) := by
  rw [routeBroadcastOnly, known]
  exact ⟨("", []), (_, _), routed_named named _⟩

omit named in
/-- What the route of an event converts when it returns. -/
theorem converts_of_route (named : eventId ≠ "") {emissions : List (RoomEmission Any)}
    (returned : route py shardCount event = .ok emissions) : Converts py event := by
  have bulk : event.name = Events.attendanceBulkRecorded →
      (∃ count, countNumber py event = .ok count) ∧ ∃ refs, attendeeRefs py event = .ok refs := by
    intro bulk
    have other : event.name ≠ Events.attendanceRecorded := by
      rw [bulk]
      decide
    rw [route, if_neg other, if_pos bulk, routeBulkAttendance, known] at returned
    obtain ⟨count, number, rest⟩ := bind_eq_ok_iff.mp ((routed_named named _).symm.trans returned)
    obtain ⟨refs, texts, _⟩ := bind_eq_ok_iff.mp rest
    exact ⟨⟨count, number⟩, refs, texts⟩
  constructor
  · intro single
    rw [route, if_pos single, routeSingleAttendance] at returned
    obtain ⟨_, _, rest⟩ := bind_eq_ok_iff.mp returned
    obtain ⟨member, text, _⟩ := bind_eq_ok_iff.mp rest
    exact exists_memberText_iff.mp ⟨member, text⟩
  · exact fun name => exists_countNumber_iff.mp (bulk name).1
  · exact fun name => exists_attendeeRefs_iff.mp (bulk name).2

/-- Where its values can be converted an event goes to the shards that it addresses. -/
theorem route_of_converts (positive : 0 < shardCount) (routed : event.name ∈ routedEvents)
    (converts : Converts py event) : ∃ presence counted shards,
      route py shardCount event = .ok (fanned eventId presence counted shards) ∧
      Addressed py shardCount event shards := by
  obtain ⟨members, counts, texts⟩ := converts
  rw [← exists_memberText_iff] at members
  rw [← exists_countNumber_iff] at counts
  rw [← exists_attendeeRefs_iff] at texts
  rw [route]
  split
  next single =>
    obtain ⟨member, text⟩ := members single
    obtain ⟨presence, counted, shards, returned, distinct, listed⟩ :=
      routeSingleAttendance_eq known named positive text
    refine ⟨presence, counted, shards, returned, distinct, ?_, ?_, ?_,
      fun _ => ⟨member, text, listed⟩⟩
    · exact fun shard member => shardFor_yields shardCount _ shard ((listed shard).mp member).2
    · exact fun bulk => absurd (single.symm.trans bulk) (by decide)
    · exact fun lifecycle => absurd (single ▸ lifecycle) (by decide)
  next other =>
    split
    next bulk =>
      obtain ⟨count, number⟩ := counts bulk
      obtain ⟨refs, converted⟩ := texts bulk
      obtain ⟨presence, counted, shards, returned, distinct, listed⟩ :=
        routeBulkAttendance_eq known named positive number converted
      refine ⟨presence, counted, shards, returned, distinct, ?_,
        fun _ => ⟨refs, converted, listed⟩, ?_, fun single => absurd single other⟩
      · exact fun shard member => ((listed shard).mp member).1
      · exact fun lifecycle => absurd (bulk ▸ lifecycle) (by decide)
    next notBulk =>
      split
      next lifecycle =>
        obtain ⟨presence, counted, returned⟩ := routeGameLifecycle_eq shardCount known named
        have all : ∀ shard, shard ∈ allShards shardCount ↔ shard < shardCount :=
          fun _ => List.mem_range
        exact ⟨presence, counted, _, returned, List.nodup_range, fun shard => (all shard).mp,
          fun bulk => absurd bulk notBulk, fun _ => all, fun single => absurd single other⟩
      next notLifecycle =>
        split
        next notice =>
          obtain ⟨presence, counted, returned⟩ := routeBroadcastOnly_eq known named rtNotification
          exact ⟨presence, counted, [], returned, List.nodup_nil, nofun,
            fun bulk => absurd bulk notBulk, fun lifecycle => absurd lifecycle notLifecycle,
            fun single => absurd single other⟩
        next unrouted =>
          rcases List.mem_append.mp routed with early | notice
          · rcases List.mem_append.mp early with first | lifecycle
            · rcases List.mem_pair.mp first with single | bulk
              · exact absurd single other
              · exact absurd bulk notBulk
            · exact absurd lifecycle notLifecycle
          · exact absurd notice unrouted

end Known

section Publishing

variable {World : Type} (publish : RoomEmission Any → Exec Error World Unit)

/-- An attempt returns, whatever the publisher raises. -/
theorem attempt_run (emission : RoomEmission Any) (publishing : Publishing Any World) :
    attempt publish emission publishing = .ok ()
      ⟨(publish emission).after publishing.world, publishing.attempts ++ [emission]⟩ := by
  rw [attempt, Exec.after]
  cases ends : publish emission publishing.world with
  | ok _ next =>
    have asked : ask publish emission publishing =
        .ok () ⟨next, publishing.attempts ++ [emission]⟩ := by
      rw [ask, ends]
    exact Exec.tryCatch_run_ok asked
  | error raised next =>
    have asked : ask publish emission publishing =
        .error raised ⟨next, publishing.attempts ++ [emission]⟩ := by
      rw [ask, ends]
    exact Exec.tryCatch_run_error asked

/-- All emissions are attempted, whatever the publisher raises. -/
theorem attempts_run (emissions : List (RoomEmission Any)) (publishing : Publishing Any World) :
    ∃ world, emissions.forM (attempt publish) publishing =
      .ok () ⟨world, publishing.attempts ++ emissions⟩ := by
  induction emissions generalizing publishing with
  | nil => exact ⟨publishing.world, by rw [List.append_nil]; rfl⟩
  | cons emission rest ih =>
    obtain ⟨world, attempted⟩ := ih ⟨(publish emission).after publishing.world,
      publishing.attempts ++ [emission]⟩
    refine ⟨world, ?_⟩
    show (attempt publish emission >>= fun _ => rest.forM (attempt publish)) publishing = _
    rw [Exec.bind_run_ok (attempt_run publish emission publishing), attempted, List.append_assoc]
    rfl

/-- A projection returns what the route returns, and has attempted it all. -/
theorem project_of_route {emissions : List (RoomEmission Any)}
    (routed : route py shardCount event = .ok emissions) (world : World) :
    ∃ after, project py shardCount publish event ⟨world, []⟩ = .ok emissions ⟨after, emissions⟩ := by
  obtain ⟨after, attempted⟩ := attempts_run publish emissions ⟨world, []⟩
  refine ⟨after, ?_⟩
  rw [project, routed]
  show ((emissions.forM (attempt publish)) >>= fun _ => pure emissions) _ = _
  rw [Exec.bind_run_ok attempted]
  rfl

/-- A projection returns nothing but what the route returns. -/
theorem route_of_project {emissions : List (RoomEmission Any)} {start after : Publishing Any World}
    (projected : project py shardCount publish event start = .ok emissions after) :
    route py shardCount event = .ok emissions := by
  rw [project] at projected
  cases routed : route py shardCount event with
  | error raised =>
    rw [routed] at projected
    cases projected
  | ok found =>
    rw [routed] at projected
    obtain ⟨_, _, first, rest⟩ := Exec.bind_ok projected
    obtain ⟨_, _, _, last⟩ := Exec.bind_ok rest
    cases first
    cases last
    rfl

end Publishing

/-- A projection reaches everyone once: whatever the publisher raises it returns the same
emissions, it has attempted them all, and they reach everyone that the event addresses. -/
def Projects (py : Python Any) (shardCount : Nat) (event : EventBus.DomainEvent Any)
    (eventId : String) : Prop :=
  ∃ emissions, Reaches py shardCount event eventId emissions ∧
    ∀ (World : Type) (publish : RoomEmission Any → Exec Error World Unit) (world : World),
      ∃ after, project py shardCount publish event ⟨world, []⟩ = .ok emissions ⟨after, emissions⟩

/-- A routed event of a gathering is projected to everyone exactly when the values that its route
converts can be converted. -/
theorem projects_iff (py : Python Any) (shardCount : Nat) (positive : 0 < shardCount)
    (event : EventBus.DomainEvent Any) (routed : event.name ∈ routedEvents) (eventId : String)
    (known : gatheringId py event = .ok (some eventId)) (named : eventId ≠ "") :
    Projects py shardCount event eventId ↔ Converts py event := by
  constructor
  · rintro ⟨emissions, _, projected⟩
    have ⟨_, returned⟩ := projected Unit (fun _ => pure ()) ()
    exact converts_of_route known named (route_of_project _ returned)
  · intro converts
    have ⟨presence, counted, shards, returned, addressed⟩ :=
      route_of_converts known named positive routed converts
    exact ⟨_, addressed.reaches eventId presence counted, fun World publish world =>
      project_of_route publish returned world⟩

/-- The values of an event as Python has them. -/
def values (floatText : Rat → String) : Python Value where
  truth := isTrue
  str value := .ok (textOf floatText value)
  int := intOf
  items
    | .list members => some (members.map .str)
    | _ => none
  none := .none
  ofString := .str
  ofInt := .int

/-- A batch of two references, one of them named twice. -/
def namedBatch : EventBus.DomainEvent Value :=
  { name := Events.attendanceBulkRecorded
    payload := [("gathering", .str "G-1"), ("count", .int 2),
      ("attendees", .list ["ann", "", "bob"]), ("members", .list ["ann"])]
    scope := [] }

/-- The batch is projected to the shards of its references. -/
theorem namedBatch_projects : Projects (values fun _ => "0.0") 10 namedBatch "G-1" ↔
    Converts (values fun _ => "0.0") namedBatch :=
  projects_iff (values fun _ => "0.0") 10 (by decide) namedBatch (by decide) "G-1" rfl (by decide)

/-- A batch whose count is a list. -/
def uncountedBatch : EventBus.DomainEvent Value :=
  { name := Events.attendanceBulkRecorded
    payload := [("gathering", .str "G-1"), ("count", .list ["ann", "bob"])]
    scope := [] }

/-- The batch whose count is a list raises, and no room hears of it. -/
theorem uncountedBatch_raises :
    (∃ message, project (values fun _ => "0.0") 10 (fun _ => pure ()) uncountedBatch ⟨(), []⟩ =
      .error (.type message) ⟨(), []⟩) ∧
    ¬Projects (values fun _ => "0.0") 10 uncountedBatch "G-1" := by
  refine ⟨⟨_, rfl⟩, ?_⟩
  rintro ⟨emissions, _, projected⟩
  have ⟨_, returned⟩ := projected Unit (fun _ => pure ()) ()
  cases returned

end FlockOs.RoomProjector
