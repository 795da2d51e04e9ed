import FlockOs.SessionRooms
import FlockOs.Verif.EventRooms

/-!
# Where players and projector meet

The client and the server hash a reference alike, but the client names its rooms by the id of the
session and the projector by the gathering. The rooms meet where these are one id that the names of
rooms can carry, and where there is a shard at all; the gate lets the branch of the session in where
the gathering resolves to it.
-/

namespace FlockOs.SessionRooms

open Lib Engagement Permissions Realtime

/-- An entry of the table is eight bits of its byte. -/
theorem crcTable_eq (byte : BitVec 8) :
    crcTable byte = Crc32.bitSteps crcPolynomial 8 (byte.setWidth 32) := by
  have word : BitVec.ofNat 32 byte.toFin.val = byte.setWidth 32 := BitVec.ofNat_toNat ..
  have entry : crcTable byte = Crc32.bitSteps crcPolynomial 8 (BitVec.ofNat 32 byte.toFin.val) :=
    Vector.getElem_ofFn byte.isLt
  rw [entry, word]

/-- The client's check is the check of `zlib`. -/
theorem crc32_eq (text : String) : crc32 text = Crc32.check crcPolynomial (utf8 text) := by
  have step : Crc32.tableStep crcTable = Crc32.byteStep crcPolynomial := by
    funext word byte
    exact Crc32.tableStep_eq crcPolynomial crcTable crcTable_eq word byte
  rw [crc32, step]
  rfl

/-- Client and server put a reference into one shard. -/
theorem shardFor_parity (attendeeRef : String) (shardCount : Nat) :
    shardFor attendeeRef shardCount = (Realtime.shardFor attendeeRef shardCount).toOption := by
  rw [shardFor, Realtime.shardFor, crc32_eq]
  split <;> rfl

/-- A player keeps a shard of the server. -/
theorem joinedShard_of_pos (attendeeRef : String) {shardCount : Nat} (positive : 0 < shardCount) :
    ∃ shard < shardCount, joinedShard attendeeRef (jsParityContract shardCount) = some shard := by
  have some' : shardCount ≠ 0 := Nat.ne_of_gt positive
  refine ⟨_, Nat.mod_lt (crc32 attendeeRef).toNat positive, ?_⟩
  show shardFor attendeeRef (if shardCount = 0 then 10 else shardCount) = _
  rw [if_neg some', shardFor, if_neg some']

/-- A player always keeps some shard. -/
theorem joinedShard_isSome (attendeeRef : String) (shardCount : Nat) :
    ∃ shard, joinedShard attendeeRef (jsParityContract shardCount) = some shard := by
  by_cases none : shardCount = 0
  · rw [none]
    exact ⟨_, rfl⟩
  · obtain ⟨shard, _, joined⟩ := joinedShard_of_pos attendeeRef (Nat.pos_of_ne_zero none)
    exact ⟨shard, joined⟩

/-- The events of the life of a session. -/
def LifeEvent (session : EngagementSession) (event : DomainEvent) : Prop :=
  event = openedEvent session ∨ ∃ count, event = closedEvent session count

section Life

variable {floatText : Rat → String} {shardCount : Nat} {session : EngagementSession}
  {event : DomainEvent}

/-- The entry of a key that an event of a session does not set. -/
theorem get_groupEntry (session : EngagementSession) {key : String} (other : key ≠ "group") :
    session.groupEntry.lookup key = none := by
  rw [EngagementSession.groupEntry]
  cases truthy session.group with
  | none => rfl
  | some group =>
    have differ : (key == "group") = false := beq_false_of_ne other
    show List.lookup key [("group", Value.str group)] = none
    rw [List.lookup_cons, differ]
    rfl

/-- What an event of a session says of its gathering. -/
theorem entries_life (life : LifeEvent session event) :
    get event.payload "gathering" = .str session.gathering ∧
      get event.scope "gathering" = .none ∧
      get event.payload "event" = .none ∧ get event.scope "event" = .none := by
  have unset : session.groupEntry.lookup "event" = none := get_groupEntry session (by decide)
  have plain : session.groupEntry.lookup "gathering" = none := get_groupEntry session (by decide)
  have scope {key : String} (other : session.groupEntry.lookup key = none)
      (first : (key == "branch") = false) (second : (key == "organization") = false) :
      get session.scope key = .none := by
    show ((("branch", Value.str session.branch) ::
      ("organization", Value.str session.organization) :: session.groupEntry).lookup key).getD .none
        = _
    rw [List.lookup_cons, first, List.lookup_cons, second, other]
    rfl
  have last : (session.groupEntry.lookup "event").getD .none = Value.none := by rw [unset]; rfl
  cases life with
  | inl opened =>
    rw [opened]
    exact ⟨rfl, scope plain rfl rfl, last, scope unset rfl rfl⟩
  | inr closed =>
    obtain ⟨count, same⟩ := closed
    rw [same]
    exact ⟨rfl, scope plain rfl rfl, last, scope unset rfl rfl⟩

/-- The gathering of the life of a session. -/
theorem gatheringId_life (life : LifeEvent session event) :
    gatheringId floatText event =
      if session.gathering = "" then none else some session.gathering := by
  obtain ⟨own, plain, unset, clear⟩ := entries_life life
  by_cases empty : session.gathering = ""
  · have silent : isTrue (orElse (.str session.gathering) .none) = false := by rw [empty]; rfl
    rw [gatheringId, if_pos empty, List.find?_cons_of_neg, List.find?_cons_of_neg]
    · rfl
    · rw [unset, clear]
      exact Bool.false_ne_true
    · rw [own, plain, silent]
      exact Bool.false_ne_true
  · have set : Realtime.isTrue (.str session.gathering) = true := decide_eq_true empty
    have kept : orElse (.str session.gathering) .none = .str session.gathering := if_pos set
    rw [gatheringId, if_neg empty, List.find?_cons_of_pos]
    · show some (textOf floatText (orElse (get event.payload "gathering")
        (get event.scope "gathering"))) = _
      rw [own, plain, kept]
      rfl
    · rw [own, plain, kept, set]

/-- The life of a session is routed to the whole room of its gathering. -/
theorem project_life (life : LifeEvent session event) :
    project floatText shardCount event = routeGameLifecycle floatText shardCount event := by
  cases life with
  | inl opened =>
    rw [opened]
    rfl
  | inr closed =>
    obtain ⟨count, same⟩ := closed
    rw [same]
    rfl

variable (floatText shardCount) in
/-- The rooms that the life of a session is published to. -/
theorem rooms_life (life : LifeEvent session event) :
    ∃ emissions, project floatText shardCount event = .ok emissions ∧
      emissions.map (·.room) = if session.gathering = "" then []
        else (allShards shardCount).map (Realtime.shardChannel session.gathering) ++
          [Realtime.broadcastChannel session.gathering] := by
  rw [project_life life, routeGameLifecycle, gatheringId_life life]
  by_cases empty : session.gathering = ""
  · rw [if_pos empty, if_pos empty]
    exact ⟨[], rfl, rfl⟩
  · rw [if_neg empty, if_neg empty]
    refine ⟨_, rfl, ?_⟩
    rw [List.map_append, toShards, List.map_map]
    rfl

end Life

/-- Every event of the life of a session is published to the rooms of a player, and the gate lets
everyone with scope over the branch of the session into them. -/
def Meet (floatText : Rat → String) (shardCount : Nat)
    (branchForGathering : String → Option String) (session : EngagementSession)
    (attendeeRef : String) : Prop :=
  ∀ room ∈ playerRooms session.sessionId attendeeRef (jsParityContract shardCount),
    (∀ event, LifeEvent session event → ∃ emissions,
      project floatText shardCount event = .ok emissions ∧ room ∈ emissions.map (·.room)) ∧
    ∀ user gateway, canAccessBranch (some session.branch)
        (gateway.listBranchUserPermissions user) (gateway.getUserRoles user) = true →
      eventRoomJoinAllowed room user gateway branchForGathering = true

section Meeting

variable {floatText : Rat → String} {shardCount : Nat}
  {branchForGathering : String → Option String} {session : EngagementSession}
  {attendeeRef : String}

/-- The life of a session is published to the rooms of its gathering, and to no others. -/
theorem published_iff {event : DomainEvent} {room : String} (life : LifeEvent session event) :
    (∃ emissions, project floatText shardCount event = .ok emissions ∧
        room ∈ emissions.map (·.room)) ↔
      session.gathering ≠ "" ∧ RoomOf session.gathering shardCount room := by
  obtain ⟨found, projected, rooms⟩ := rooms_life floatText shardCount life
  have listed : room ∈ found.map (·.room) ↔
      session.gathering ≠ "" ∧ RoomOf session.gathering shardCount room := by
    rw [rooms]
    by_cases empty : session.gathering = ""
    · rw [if_pos empty]
      exact ⟨fun there => absurd there List.not_mem_nil, fun both => absurd empty both.1⟩
    · rw [if_neg empty, List.mem_append, List.mem_map, List.mem_singleton]
      constructor
      · intro there
        refine ⟨empty, ?_⟩
        cases there with
        | inl numbered =>
          obtain ⟨shard, bound, same⟩ := numbered
          exact .inr ⟨shard, List.mem_range.mp bound, same.symm⟩
        | inr broadcast => exact .inl broadcast
      · intro ⟨_, there⟩
        cases there with
        | inl broadcast => exact .inr broadcast
        | inr numbered =>
          obtain ⟨shard, bound, same⟩ := numbered
          exact .inl ⟨shard, List.mem_range.mpr bound, same.symm⟩
  rw [← listed, projected]
  constructor
  · intro ⟨emissions, same, there⟩
    cases same
    exact there
  · exact fun there => ⟨found, rfl, there⟩

/-- A branch that everyone with scope over another one is let into. -/
theorem canAccessBranch_of_scope_iff {branch other : String} :
    (∀ user (gateway : PermissionGateway), canAccessBranch (some other)
        (gateway.listBranchUserPermissions user) (gateway.getUserRoles user) = true →
      canAccessBranch (some branch) (gateway.listBranchUserPermissions user)
        (gateway.getUserRoles user) = true) ↔ branch = "" ∨ branch = other := by
  constructor
  · intro admits
    by_cases empty : branch = ""
    · exact .inl empty
    · have holder : canAccessBranch (some other) [other] [] = true :=
        canAccessBranch_iff.mpr (.inr (.inr (List.mem_singleton.mpr rfl)))
      have admitted := canAccessBranch_iff.mp (admits "" ⟨fun _ => [], fun _ => [other]⟩ holder)
      rcases admitted with wide | unset | listed
      · exact absurd wide Bool.false_ne_true
      · exact absurd unset empty
      · exact .inr (List.mem_singleton.mp listed)
  · intro either user gateway holds
    cases either with
    | inl empty => exact canAccessBranch_iff.mpr (.inr (.inl empty))
    | inr same => rw [same]; exact holds

/-- A player's rooms are rooms of the gathering exactly where it is the session's own id and has a
shard. -/
theorem playerRooms_iff {gathering : String} :
    (∀ room ∈ playerRooms session.sessionId attendeeRef (jsParityContract shardCount),
        RoomOf gathering shardCount room) ↔
      session.sessionId = gathering ∧ 0 < shardCount := by
  obtain ⟨kept, joined⟩ := joinedShard_isSome attendeeRef shardCount
  have rooms : playerRooms session.sessionId attendeeRef (jsParityContract shardCount) =
      [Realtime.broadcastChannel session.sessionId,
        Realtime.shardChannel session.sessionId kept] := by
    rw [playerRooms, joined]
    rfl
  rw [rooms]
  constructor
  · intro all
    have broadcast := all _ List.mem_cons_self
    have numbered := all _ (List.mem_cons_of_mem _ List.mem_cons_self)
    constructor
    · cases broadcast with
      | inl same => exact broadcastChannel_injective same
      | inr other =>
        obtain ⟨shard, _, same⟩ := other
        exact absurd same (broadcastChannel_ne_shardChannel _ _ _)
    · cases numbered with
      | inl other => exact absurd other.symm (broadcastChannel_ne_shardChannel _ _ _)
      | inr same =>
        obtain ⟨shard, bound, _⟩ := same
        exact Nat.zero_lt_of_lt bound
  · intro ⟨same, positive⟩ room there
    rw [same] at there
    cases List.mem_cons.mp there with
    | inl broadcast => exact .inl broadcast
    | inr numbered =>
      obtain ⟨shard, bound, found⟩ := joinedShard_of_pos attendeeRef positive
      rw [joined] at found
      cases found
      exact .inr ⟨kept, bound, List.mem_singleton.mp numbered⟩

/-- The player meets the projector, in rooms that the gate opens to the branch of the session,
exactly where the session is named like its gathering, that name can be read back, there is a shard,
and the gathering is of the session's branch or of none. -/
theorem rooms_meet_iff (floatText : Rat → String) (shardCount : Nat)
    (branchForGathering : String → Option String) (session : EngagementSession)
    (attendeeRef : String) :
    Meet floatText shardCount branchForGathering session attendeeRef ↔
      session.sessionId = session.gathering ∧ Readable session.gathering ∧ 0 < shardCount ∧
        ∃ branch, branchForGathering session.gathering = some branch ∧
          (branch = "" ∨ branch = session.branch) := by
  constructor
  · intro meet
    have published : ∀ room ∈ playerRooms session.sessionId attendeeRef
        (jsParityContract shardCount),
        session.gathering ≠ "" ∧ RoomOf session.gathering shardCount room := fun room there =>
      (published_iff (.inl rfl)).mp ((meet room there).1 (openedEvent session) (.inl rfl))
    have ⟨named, positive⟩ := playerRooms_iff.mp fun room there => (published room there).2
    have first : Realtime.broadcastChannel session.gathering ∈
        playerRooms session.sessionId attendeeRef (jsParityContract shardCount) := by
      rw [named]
      exact List.mem_cons_self
    have admits := (meet _ first).2
    have filled := (published _ first).1
    have holder : canAccessBranch (some session.branch) [session.branch] [] = true :=
      canAccessBranch_iff.mpr (.inr (.inr (List.mem_singleton.mpr rfl)))
    have admitted := admits "" ⟨fun _ => [], fun _ => [session.branch]⟩ holder
    have line : '\n' ∉ session.gathering.toList := by
      intro inside
      rw [refused_of_unparsed (parse_broadcastChannel_newline inside)] at admitted
      cases admitted
    have read := parse_broadcastChannel filled line
    refine ⟨named, ⟨filled, line⟩, positive, ?_⟩
    cases known : branchForGathering session.gathering with
    | none =>
      rw [refused_of_unknown read known] at admitted
      cases admitted
    | some branch =>
      refine ⟨branch, rfl, canAccessBranch_of_scope_iff.mp fun user gateway holds => ?_⟩
      rw [← joinAllowed_of_known read known]
      exact admits user gateway holds
  · intro ⟨named, readable, positive, branch, known, either⟩ room there
    have inside := playerRooms_iff.mpr ⟨named, positive⟩ room there
    refine ⟨fun event life => (published_iff life).mpr ⟨readable.1, inside⟩, ?_⟩
    intro user gateway holds
    have ⟨ref, read, same⟩ := inside.eventId_eq readable
    rw [joinAllowed_of_known read (same ▸ known)]
    exact canAccessBranch_of_scope_iff.mpr either user gateway holds

end Meeting

/-- A session that is not named like its gathering. -/
def gameNight : EngagementSession where
  sessionId := "ENG-2026-00001"
  gathering := "GATH-00042"
  branch := "North"
  organization := "Flock"

/-- The player of a session with a name of its own waits in a room that nothing is published to. -/
theorem session_room_silent :
    ¬ Meet (fun _ => "") 10 (fun gathering => if gathering = "GATH-00042" then some "North" else none)
      gameNight "MEM-1" := by
  intro meet
  have ⟨emissions, projected, there⟩ := (meet "flock_os:event:ENG-2026-00001:broadcast"
    List.mem_cons_self).1 (openedEvent gameNight) (.inl rfl)
  cases projected
  exact absurd there (by decide)

end FlockOs.SessionRooms
