import FlockOs.Lib.Latches
import FlockOs.RoomSockets
import FlockOs.Verif.RoomParsers

/-!
# Who receives an event

A socket enters a room only by a scope check that the server granted, and stays until it leaves: so
whoever receives an event of a gathering had branch scope over it when the server decided, and a
socket is in a room exactly when a grant of it arrived that nothing has undone since.
-/

namespace FlockOs.RoomSockets

open Lib Permissions Realtime

/-- The site after some steps. -/
def siteAfter (server : Server) (steps : List Step) : Site :=
  runAll Site.step { server } steps

section Sockets

variable {socket : Socket} {room : String} {place : Nat}

/-- The rooms of a socket and those that a decision lets it into are granted. -/
structure Socket.Granted (granted : String → Prop) (socket : Socket) : Prop where
  rooms : ∀ room ∈ socket.rooms, granted room
  checks : ∀ check ∈ socket.checks, check.decision = some true → granted check.room

/-- What is granted stays granted. -/
theorem Socket.Granted.mono {granted wider : String → Prop} (sound : socket.Granted granted)
    (wide : ∀ room, granted room → wider room) : socket.Granted wider where
  rooms room there := wide room (sound.rooms room there)
  checks check there decided := wide check.room (sound.checks check there decided)

/-- The rooms after a room is joined. -/
theorem Socket.mem_join {other : String} :
    other ∈ (socket.join room).rooms ↔ other = room ∨ other ∈ socket.rooms := by
  rw [Socket.join]
  split
  · next there =>
    constructor
    · exact .inr
    · rintro (rfl | stays)
      · exact there
      · exact stays
  · simp only [List.mem_append, List.mem_singleton]
    exact or_comm

/-- Joining a room changes no check. -/
@[simp] theorem Socket.checks_join (socket : Socket) (room : String) :
    (socket.join room).checks = socket.checks := by
  rw [Socket.join]
  split <;> rfl

/-- Joining a room changes no credentials. -/
@[simp] theorem Socket.credentials_join (socket : Socket) (room : String) :
    (socket.join room).credentials = socket.credentials := by
  rw [Socket.join]
  split <;> rfl

/-- The rooms after a room is left. -/
theorem Socket.mem_leave {other : String} :
    other ∈ (socket.leave room).rooms ↔ other ∈ socket.rooms ∧ other ≠ room := by
  simp [Socket.leave]

variable {granted : String → Prop}

/-- A `join` asks for a check and enters nothing. -/
theorem Socket.Granted.onJoin (sound : socket.Granted granted) (data : Data) :
    (socket.onJoin data).Granted granted := by
  rw [Socket.onJoin]
  cases data.eventRoom with
  | none => exact sound
  | some room =>
    refine ⟨sound.rooms, fun check there decided => ?_⟩
    rw [List.mem_append, List.mem_singleton] at there
    cases there with
    | inl early => exact sound.checks check early decided
    | inr asked =>
      rw [asked] at decided
      cases decided

/-- A `leave` enters nothing. -/
theorem Socket.Granted.onLeave (sound : socket.Granted granted) (data : Data) :
    (socket.onLeave data).Granted granted := by
  rw [Socket.onLeave]
  cases data.eventRoom with
  | none => exact sound
  | some room => exact ⟨fun other there => sound.rooms other (Socket.mem_leave.mp there).1,
      sound.checks⟩

/-- A decision is for a check that had none, where the server allows its room, or was there. -/
theorem Check.decide_granted {check : Check} {server : Server} {credentials : String}
    (granted : (check.decide server credentials).decision = some true) :
    check.decision = some true ∨ server.canJoinEventRoom credentials check.room = .ok true := by
  rw [Check.decide] at granted
  cases decided : check.decision with
  | some answer =>
    rw [decided] at granted
    exact .inl (decided ▸ granted)
  | none =>
    rw [decided] at granted
    have allowed := Option.some.inj granted
    cases answer : server.canJoinEventRoom credentials check.room with
    | error raised =>
      rw [answer] at allowed
      cases allowed
    | ok value =>
      rw [answer] at allowed
      have yes : value = true := allowed
      rw [yes]
      exact .inr rfl

/-- A decision keeps the room of a check. -/
theorem Check.room_decide (check : Check) (server : Server) (credentials : String) :
    (check.decide server credentials).room = check.room := by
  rw [Check.decide]
  split <;> rfl

/-- A decision grants what the server allows then. -/
theorem Socket.Granted.onDecide (sound : socket.Granted granted) (server : Server)
    (allows : ∀ check, socket.checks[place]? = some check →
      server.canJoinEventRoom socket.credentials check.room = .ok true → granted check.room) :
    (socket.onDecide server place).Granted granted := by
  refine ⟨sound.rooms, fun check there decided => ?_⟩
  obtain ⟨spot, found⟩ := List.mem_iff_getElem?.mp there
  rw [Socket.onDecide, List.getElem?_modify] at found
  obtain ⟨before, stood, same⟩ := Option.map_eq_some_iff.mp found
  by_cases here : place = spot
  · rw [if_pos here] at same
    rw [← same] at decided ⊢
    rw [Check.room_decide]
    cases Check.decide_granted decided with
    | inl earlier => exact sound.checks before (List.mem_of_getElem? stood) earlier
    | inr allowed => exact allows before (here ▸ stood) allowed
  · rw [if_neg here] at same
    have unchanged : before = check := same
    rw [← unchanged] at decided ⊢
    exact sound.checks before (List.mem_of_getElem? stood) decided

/-- A grant of a room is on its way at some place. -/
def Socket.Granting (socket : Socket) (place : Nat) (room : String) : Prop :=
  ∃ check, socket.checks[place]? = some check ∧ check.room = room ∧ check.decision = some true

/-- The rooms after an answer: that of a grant that arrives is new. -/
theorem Socket.mem_onAnswer {arrives : Bool} {other : String} :
    other ∈ (socket.onAnswer place arrives).rooms ↔
      arrives = true ∧ socket.Granting place other ∨ other ∈ socket.rooms := by
  rw [Socket.onAnswer, Socket.Granting]
  cases socket.checks[place]? with
  | none => simp
  | some check =>
    dsimp only
    by_cases grants : arrives = true ∧ check.decision = some true
    · rw [if_pos (by simp [grants])]
      rw [Socket.mem_join]
      simp [grants, eq_comm]
    · rw [if_neg (by simpa using grants)]
      have nothing : ¬ (arrives = true ∧ ∃ found, some check = some found ∧
          found.room = other ∧ found.decision = some true) := by
        rintro ⟨arrived, found, same, _, decided⟩
        have here : check = found := Option.some.inj same
        exact grants ⟨arrived, here ▸ decided⟩
      exact (or_iff_right nothing).symm

/-- An answer takes a check away. -/
theorem Socket.checks_onAnswer {arrives : Bool} {check : Check}
    (there : check ∈ (socket.onAnswer place arrives).checks) : check ∈ socket.checks := by
  rw [Socket.onAnswer] at there
  cases found : socket.checks[place]? with
  | none =>
    rw [found] at there
    exact there
  | some answered =>
    rw [found] at there
    have left : check ∈ socket.checks.eraseIdx place := by
      dsimp only at there
      split at there
      · rwa [Socket.checks_join] at there
      · exact there
    exact List.mem_of_mem_eraseIdx left

/-- An answer enters only what is granted. -/
theorem Socket.Granted.onAnswer (sound : socket.Granted granted) (place : Nat) (arrives : Bool) :
    (socket.onAnswer place arrives).Granted granted where
  rooms room there := by
    cases Socket.mem_onAnswer.mp there with
    | inl enters =>
      obtain ⟨_, check, found, same, decided⟩ := enters
      rw [← same]
      exact sound.checks check (List.mem_of_getElem? found) decided
    | inr stays => exact sound.rooms room stays
  checks check there := sound.checks check (Socket.checks_onAnswer there)

end Sockets

section Sites

variable {server : Server} {steps : List Step} {id room credentials : String}

/-- The socket of an id after a step on an id. -/
theorem Site.sockets_change (site : Site) (id other : String) (change : Socket → Socket) :
    (site.change id change).sockets other =
      if other = id then (site.sockets id).map change else site.sockets other := rfl

/-- At an earlier moment the server decided a check of the room by the socket of this id and these
credentials, and allowed it. -/
def Decided (server : Server) (steps : List Step) (id credentials room : String) : Prop :=
  ∃ before place after socket check, steps = before ++ .decide id place :: after ∧
    (siteAfter server before).sockets id = some socket ∧ socket.credentials = credentials ∧
    socket.checks[place]? = some check ∧ check.room = room ∧
    (siteAfter server before).server.canJoinEventRoom credentials room = .ok true

/-- What was decided stays decided. -/
theorem Decided.concat (decided : Decided server steps id credentials room) (step : Step) :
    Decided server (steps ++ [step]) id credentials room := by
  obtain ⟨before, place, after, socket, check, same, rest⟩ := decided
  have longer : steps ++ [step] = before ++ .decide id place :: (after ++ [step]) := by
    rw [same]
    simp
  exact ⟨before, place, after ++ [step], socket, check, longer, rest⟩

/-- Every socket has only what was decided for it. -/
def Sound (server : Server) (steps : List Step) (site : Site) : Prop :=
  ∀ id socket, site.sockets id = some socket →
    socket.Granted (Decided server steps id socket.credentials)

/-- A change of one socket that keeps its credentials and what it is granted keeps the rest. -/
theorem Sound.change {site : Site} {next : List Step} (sound : Sound server steps site)
    (longer : ∀ id credentials room, Decided server steps id credentials room →
      Decided server next id credentials room) {change : Socket → Socket}
    (kept : ∀ socket, (change socket).credentials = socket.credentials)
    (granted : ∀ socket, site.sockets id = some socket →
      socket.Granted (Decided server next id socket.credentials) →
        (change socket).Granted (Decided server next id socket.credentials)) :
    Sound server next (site.change id change) := by
  intro other socket there
  rw [Site.sockets_change] at there
  by_cases here : other = id
  · rw [if_pos here] at there
    obtain ⟨before, stood, same⟩ := Option.map_eq_some_iff.mp there
    rw [← same, kept, here]
    exact granted before stood ((sound id before stood).mono fun room => longer id _ room)
  · rw [if_neg here] at there
    exact (sound other socket there).mono fun room => longer other _ room

/-- The steps keep every socket to what was decided for it. -/
theorem sound_step (sound : Sound server steps (siteAfter server steps)) (step : Step) :
    Sound server (steps ++ [step]) ((siteAfter server steps).step step) := by
  have longer : ∀ id credentials room, Decided server steps id credentials room →
      Decided server (steps ++ [step]) id credentials room := fun _ _ _ decided =>
    decided.concat step
  cases step with
  | tables other =>
    intro id socket there
    exact (sound id socket there).mono fun room => longer id _ room
  | connect id credentials =>
    intro other socket there
    by_cases here : other = id
    · have fresh : socket = { credentials } := by
        simpa [Site.step, Site.put, here, eq_comm] using there
      rw [fresh]
      exact ⟨by simp, by simp⟩
    · have stood : (siteAfter server steps).sockets other = some socket := by
        simpa [Site.step, Site.put, here] using there
      exact (sound other socket stood).mono fun room => longer other _ room
  | disconnect id =>
    intro other socket there
    by_cases here : other = id
    · simp [Site.step, Site.put, here] at there
    · have stood : (siteAfter server steps).sockets other = some socket := by
        simpa [Site.step, Site.put, here] using there
      exact (sound other socket stood).mono fun room => longer other _ room
  | join id data =>
    apply sound.change longer
    · intro socket
      rw [Socket.onJoin]
      split <;> rfl
    · intro socket _ granted
      exact granted.onJoin data
  | decide id place =>
    apply sound.change longer
    · intro socket
      rfl
    · intro socket there granted
      apply granted.onDecide
      intro check found allowed
      exact ⟨steps, place, [], socket, check, rfl, there, rfl, found, rfl, allowed⟩
  | answer id place arrives =>
    apply sound.change longer
    · intro socket
      rw [Socket.onAnswer]
      split
      · rfl
      · dsimp only
        split
        · rw [Socket.credentials_join]
        · rfl
    · intro socket _ granted
      exact granted.onAnswer place arrives
  | leave id data =>
    apply sound.change longer
    · intro socket
      rw [Socket.onLeave]
      split <;> rfl
    · intro socket _ granted
      exact granted.onLeave data

/-- After every run each socket has only what was decided for it. -/
theorem sound_run (server : Server) (steps : List Step) :
    Sound server steps (siteAfter server steps) := by
  apply runAll_recorded (fun steps site => Sound server steps site)
  · intro id socket there
    cases there
  · intro past step sound
    exact sound_step sound step

end Sites

/-- A room of a gathering that is spelled with an id is spelled with the id of the gathering. -/
theorem spelled_eventId {eventId room : String} {shardCount : Nat} {named line : List Char}
    {digits : Option (List Char)} (there : RoomOf eventId shardCount room)
    (spelled : RoomParsers.Spelled room named digits line) : named = eventId.toList := by
  obtain ⟨written, numbered, text⟩ : ∃ written, RoomParsers.Numbered written ∧
      room.toList = "flock_os:event:".toList ++ (eventId.toList ++ RoomParsers.segment written) := by
    cases there with
    | inl broadcast =>
      refine ⟨none, by simp [RoomParsers.Numbered], ?_⟩
      rw [broadcast, toList_broadcastChannel]
      rfl
    | inr sharded =>
      obtain ⟨shard, _, same⟩ := sharded
      refine ⟨some (Nat.toDigits 10 shard), ?_, ?_⟩
      · intro shown same
        rw [← Option.some.inj same]
        exact ⟨Nat.toDigits_ne_nil, fun char there => isDecimal_of_mem_toDigits there⟩
      · rw [same, toList_shardChannel]
        rfl
  have same := List.append_cancel_left (spelled.text.symm.trans text)
  rw [← List.append_assoc] at same
  cases of_decide_eq_true spelled.ends with
  | inl empty =>
    rw [empty, List.append_nil] at same
    exact (RoomParsers.segment_unique spelled.numbered numbered same).1
  | inr newline =>
    rw [newline] at same
    have away := RoomParsers.getLast?_segment_ne numbered eventId.toList
    rw [← same, List.getLast?_concat] at away
    exact absurd rfl away

/-- What the server reads a room as is spelled in it. -/
theorem spelled_of_parse {limit : Nat} {room : String} {ref : EventRoomRef}
    (read : RoomParsers.parseEventRoom limit room = .ok (some ref)) :
    ∃ digits line, RoomParsers.Spelled room ref.eventId.toList digits line := by
  rw [RoomParsers.parseEventRoom] at read
  cases matched : RoomParsers.matchEventRoom room with
  | none =>
    rw [matched] at read
    cases read
  | some groups =>
    obtain ⟨named, digits⟩ := groups
    obtain ⟨line, spelled⟩ := RoomParsers.of_matchEventRoom matched
    rw [matched] at read
    have same : ref.eventId = String.ofList named := by
      cases digits with
      | none =>
        cases read
        rfl
      | some shardRaw =>
        dsimp only at read
        cases number : RoomParsers.int limit shardRaw with
        | error raised =>
          rw [number] at read
          cases read
        | ok shard =>
          rw [number] at read
          cases read
          rfl
    rw [same, String.toList_ofList]
    exact ⟨digits, line, spelled⟩

/-- What the server allows: the branch of the gathering is within the user's reach. -/
theorem allowed_of_canJoin {server : Server} {credentials room eventId : String} {shardCount : Nat}
    (there : RoomOf eventId shardCount room)
    (allowed : server.canJoinEventRoom credentials room = .ok true) :
    ∃ branch, server.branchForGathering eventId = some branch ∧
      server.reaches credentials (some branch) = true := by
  rw [Server.canJoinEventRoom] at allowed
  cases read : RoomParsers.parseEventRoom server.digitLimit room with
  | error raised =>
    rw [read] at allowed
    cases allowed
  | ok found =>
    rw [read] at allowed
    cases found with
    | none => cases allowed
    | some ref =>
      obtain ⟨digits, line, spelled⟩ := spelled_of_parse read
      have same : ref.eventId = eventId := String.toList_inj.mp (spelled_eventId there spelled)
      have named : eventId ≠ "" := by
        intro empty
        apply spelled.named
        rw [same, empty]
        rfl
      have reached : server.reaches credentials (server.resolve eventId) = true := by
        rw [← same]
        exact Except.ok.inj allowed
      rw [Server.resolve, if_neg named] at reached
      cases known : server.branchForGathering eventId with
      | none =>
        rw [known] at reached
        cases reached
      | some branch =>
        rw [known] at reached
        exact ⟨branch, rfl, reached⟩

/-- Whoever receives what is published about a gathering asked for the room with the credentials
that it still has, and had branch scope over the gathering when the server decided. -/
theorem receivers_in_scope (server : Server) (steps : List Step) (floatText : Rat → String)
    (shardCount : Nat) (event : DomainEvent) (emissions : List RealtimeEmission)
    (projected : project floatText shardCount event = .ok emissions) (eventId : String)
    (about : gatheringId floatText event = some eventId) (emission : RealtimeEmission)
    (published : emission ∈ emissions) (id : String)
    (received : (siteAfter server steps).receives id emission.room = true) :
    ∃ socket before place after asked branch,
      (siteAfter server steps).sockets id = some socket ∧
      steps = before ++ .decide id place :: after ∧
      (siteAfter server before).sockets id = some asked ∧ asked.credentials = socket.credentials ∧
      asked.checks[place]?.map Check.room = some emission.room ∧
      (siteAfter server before).server.branchForGathering eventId = some branch ∧
      (siteAfter server before).server.reaches socket.credentials (some branch) = true := by
  have there : RoomOf eventId shardCount emission.room :=
    project_yields about emissions projected emission published
  rw [Site.receives, Option.any_eq_true] at received
  obtain ⟨socket, connected, inside⟩ := received
  have decided := (sound_run server steps id socket connected).rooms emission.room
    (List.contains_iff_mem.mp inside)
  obtain ⟨before, place, after, asked, check, same, stood, credentials, found, room, allowed⟩ :=
    decided
  obtain ⟨branch, known, reached⟩ := allowed_of_canJoin there allowed
  have checked : asked.checks[place]?.map Check.room = some emission.room := by
    rw [found, Option.map_some, room]
  exact ⟨socket, before, place, after, asked, branch, connected, same, stood, credentials, checked,
    known, reached⟩

/-- A server on which an usher has the branch of a gathering. -/
def usherServer : Server where
  sessionUser credentials := if credentials = "sid=1" then "usher" else "Guest"
  gateway :=
    ⟨fun _ => ["Flock Group Leader"], fun user => if user = "usher" then ["North"] else []⟩
  branchForGathering gathering := if gathering = "G" then some "North" else none
  digitLimit := 4300

/-- The usher joins a room; the tables lose the usher's permission before the answer arrives. -/
def usherSteps : List Step :=
  [.connect "s" "sid=1", .join "s" (.object (some "flock_os:event:G:shard:0")), .decide "s" 0,
    .tables { usherServer with gateway := ⟨fun _ => [], fun _ => []⟩ }, .answer "s" 0 true]

/-- The usher receives the opening of a session by a decision made while the permission stood. -/
theorem receivers_in_scope_usher : ∃ before branch,
    (siteAfter usherServer before).server.branchForGathering "G" = some branch ∧
      (siteAfter usherServer before).server.reaches "sid=1" (some branch) = true := by
  obtain ⟨socket, before, _, _, _, branch, connected, _, _, _, _, known, reached⟩ :=
    receivers_in_scope usherServer usherSteps (fun _ => "") 1
      ⟨Events.engagementSessionOpened, [("gathering", .str "G")], []⟩ _ rfl "G" (by decide)
      ⟨rtGameState, "flock_os:event:G:shard:0",
        [("gathering", .str "G"), ("state", .str "opened")]⟩ (by decide) "s" (by decide)
  have credentials : socket.credentials = "sid=1" := by
    cases connected
    rfl
  exact ⟨before, branch, known, credentials ▸ reached⟩

/-- A step that takes a socket out of a room. -/
def Step.Drops (id room : String) : Step → Prop
  | .connect other _ => other = id
  | .disconnect other => other = id
  | .leave other data => other = id ∧ data.eventRoom = some room
  | _ => False

/-- A step that brings the grant of a room to a socket. -/
def Site.Grants (site : Site) (id room : String) (step : Step) : Prop :=
  ∃ place socket, step = .answer id place true ∧ site.sockets id = some socket ∧
    socket.Granting place room

/-- A socket that receives what is published to a room is in it. -/
theorem Site.receives_iff (site : Site) (id room : String) :
    site.receives id room = true ↔
      ∃ socket, site.sockets id = some socket ∧ room ∈ socket.rooms := by
  rw [Site.receives, Option.any_eq_true]
  simp only [List.contains_iff_mem]

/-- Who is in a room after a change of one socket. -/
theorem Site.receives_change (site : Site) (id other room : String) (change : Socket → Socket) :
    (site.change id change).receives other room = true ↔
      ∃ socket, site.sockets other = some socket ∧
        if other = id then room ∈ (change socket).rooms else room ∈ socket.rooms := by
  rw [Site.receives_iff, Site.sockets_change]
  by_cases here : other = id
  · simp [here]
  · simp [here]

/-- A change that keeps the rooms of a socket keeps who is in a room. -/
theorem Site.receives_kept (site : Site) (id other room : String) {change : Socket → Socket}
    (kept : ∀ socket, (change socket).rooms = socket.rooms) :
    (site.change id change).receives other room = true ↔ site.receives other room = true := by
  rw [Site.receives_change, Site.receives_iff]
  simp only [kept, ite_self]

/-- Asking keeps the rooms. -/
theorem Socket.rooms_onJoin (socket : Socket) (data : Data) :
    (socket.onJoin data).rooms = socket.rooms := by
  rw [Socket.onJoin]
  split <;> rfl

/-- The rooms after a `leave`. -/
theorem Socket.mem_onLeave {socket : Socket} {data : Data} {room : String} :
    room ∈ (socket.onLeave data).rooms ↔ room ∈ socket.rooms ∧ data.eventRoom ≠ some room := by
  rw [Socket.onLeave]
  cases data.eventRoom with
  | none => simp
  | some left =>
    rw [Socket.mem_leave]
    simp [eq_comm]

/-- A step that neither grants nor drops keeps who is in a room. -/
theorem latch_kept {site next : Site} {id room : String} {step : Step}
    (grants : ¬ site.Grants id room step) (drops : ¬ step.Drops id room)
    (kept : next.receives id room = true ↔ site.receives id room = true) :
    next.receives id room = true ↔
      site.Grants id room step ∨ site.receives id room = true ∧ ¬ step.Drops id room := by
  rw [or_iff_right grants, kept, and_iff_left drops]

/-- A step enters a socket into a room when it brings the grant of it, and otherwise keeps it there
unless it takes it out. -/
theorem receives_step (site : Site) (id room : String) (step : Step) :
    (site.step step).receives id room = true ↔
      site.Grants id room step ∨ site.receives id room = true ∧ ¬ step.Drops id room := by
  cases step with
  | tables server =>
    apply latch_kept
    · rintro ⟨place, socket, ⟨⟩, _⟩
    · exact not_false
    · rfl
  | connect other credentials =>
    have grants : ¬ site.Grants id room (.connect other credentials) := by
      rintro ⟨place, socket, ⟨⟩, _⟩
    rw [or_iff_right grants, Site.receives_iff, Site.receives_iff]
    by_cases here : id = other
    · simp [Site.step, Site.put, Step.Drops, here]
    · simp [Site.step, Site.put, Step.Drops, here, Ne.symm here]
  | disconnect other =>
    have grants : ¬ site.Grants id room (.disconnect other) := by
      rintro ⟨place, socket, ⟨⟩, _⟩
    rw [or_iff_right grants, Site.receives_iff, Site.receives_iff]
    by_cases here : id = other
    · simp [Site.step, Site.put, Step.Drops, here]
    · simp [Site.step, Site.put, Step.Drops, here, Ne.symm here]
  | join other data =>
    apply latch_kept
    · rintro ⟨place, socket, ⟨⟩, _⟩
    · exact not_false
    · exact site.receives_kept other id room fun socket => socket.rooms_onJoin data
  | decide other place =>
    apply latch_kept
    · rintro ⟨place, socket, ⟨⟩, _⟩
    · exact not_false
    · exact site.receives_kept other id room fun socket => rfl
  | answer other place arrives =>
    have drops : ¬ Step.Drops id room (.answer other place arrives) := not_false
    rw [and_iff_left drops, Site.step, Site.receives_change, Site.receives_iff]
    simp only [Socket.mem_onAnswer]
    constructor
    · rintro ⟨socket, connected, inside⟩
      by_cases here : id = other
      · rw [if_pos here] at inside
        cases inside with
        | inl enters => exact .inl ⟨place, socket, by rw [enters.1, here], connected, enters.2⟩
        | inr stays => exact .inr ⟨socket, connected, stays⟩
      · rw [if_neg here] at inside
        exact .inr ⟨socket, connected, inside⟩
    · rintro (⟨spot, socket, same, connected, granting⟩ | ⟨socket, connected, stays⟩)
      · cases same
        exact ⟨socket, connected, by rw [if_pos rfl]; exact .inl ⟨rfl, granting⟩⟩
      · refine ⟨socket, connected, ?_⟩
        split
        · exact .inr stays
        · exact stays
  | leave other data =>
    have grants : ¬ site.Grants id room (.leave other data) := by
      rintro ⟨place, socket, ⟨⟩, _⟩
    rw [or_iff_right grants, Site.step, Site.receives_change, Site.receives_iff]
    simp only [Socket.mem_onLeave]
    by_cases here : id = other
    · simp only [here, if_true, Step.Drops, true_and]
      constructor
      · rintro ⟨socket, connected, stays, keeps⟩
        exact ⟨⟨socket, connected, stays⟩, keeps⟩
      · rintro ⟨⟨socket, connected, stays⟩, keeps⟩
        exact ⟨socket, connected, stays, keeps⟩
    · simp [here, Step.Drops, Ne.symm here]

/-- The place of a socket in a room. -/
def membership (id room : String) : Latch Site.step where
  holds site := site.receives id room = true
  sets site step := site.Grants id room step
  clears step := step.Drops id room
  stepped site step := receives_step site id room step

/-- A socket is in a room exactly when a grant of the room reached it, in whatever order the checks
were answered, and since then it has neither left the room nor been replaced: a `leave` that a grant
still on its way overtakes is undone by it. -/
theorem receives_iff_granted (server : Server) (steps : List Step) (id room : String) :
    (siteAfter server steps).receives id room = true ↔
      ∃ before step after, steps = before ++ step :: after ∧
        (siteAfter server before).Grants id room step ∧
        ∀ later ∈ after, ¬ later.Drops id room := by
  have unset : ¬ (membership id room).holds { server } := by simp [membership, Site.receives]
  exact Latch.holds_runAll_iff_setSince unset

end FlockOs.RoomSockets
