import FlockOs.Lib.Runs
import FlockOs.RoomParsers

/-!
# Sockets and their rooms

`flock_room_handlers.js` on the sockets of one site: a `join` asks the server for branch scope by a
request of its own and enters the room when the answer comes, a `leave` needs no answer. In between
the tables of the server may change, requests overtake each other, and events are published to the
rooms.
-/

namespace FlockOs.RoomSockets

open Lib Permissions Realtime

/-- What `can_join_event_room` reads when it is asked. -/
structure Server where
  /-- `frappe.session.user` of the credentials that a socket carries. -/
  sessionUser : String → String
  /-- The permission tables. -/
  gateway : PermissionGateway
  /-- `Flock Gathering.branch`. -/
  branchForGathering : String → Option String
  /-- `sys.get_int_max_str_digits()`. -/
  digitLimit : Nat

/-- `FrappeEventBranchResolver.branch_for_gathering`. -/
def Server.resolve (server : Server) (gathering : String) : Option String :=
  if gathering = "" then none else server.branchForGathering gathering

/-- `can_access_branch` of the session user; a gathering without a branch is out of reach. -/
def Server.reaches (server : Server) (credentials : String) : Option String → Bool
  | none => false
  | some branch =>
    let user := server.sessionUser credentials
    canAccessBranch (some branch) (server.gateway.listBranchUserPermissions user)
      (server.gateway.getUserRoles user)

/-- `can_join_event_room`. -/
def Server.canJoinEventRoom (server : Server) (credentials room : String) : Except Error Bool := do
  match ← RoomParsers.parseEventRoom server.digitLimit room with
  | none => pure false
  | some ref => pure (server.reaches credentials (server.resolve ref.eventId))

/-- What a client sends with `join` or `leave`. -/
inductive Data where
  /-- A string. -/
  | text (room : String)
  /-- An object, with its `room` where that is a string. -/
  | object (room : Option String)
  /-- Anything else. -/
  | other
deriving DecidableEq, Repr

/-- `typeof data === "string" ? data : data && data.room`, where it is a string. -/
def Data.room : Data → Option String
  | .text room => some room
  | .object room => room
  | .other => none

/-- The room of a message that passes `isFlockEventRoom`. -/
def Data.eventRoom (data : Data) : Option String := data.room.filter RoomParsers.isFlockEventRoom

/-- A scope check on its way: the server has yet to decide it, or the response is to arrive. -/
structure Check where
  /-- The room to be joined. -/
  room : String
  /-- What the server answered; an exception is an answer without a message. -/
  decision : Option Bool := none
deriving DecidableEq, Repr

/-- A connected socket. -/
structure Socket where
  /-- Its cookie or authorization header. -/
  credentials : String
  /-- The rooms that it is in. -/
  rooms : List String := []
  /-- The scope checks on their way. -/
  checks : List Check := []
deriving DecidableEq, Repr

/-- `socket.join`. -/
def Socket.join (socket : Socket) (room : String) : Socket :=
  if room ∈ socket.rooms then socket else { socket with rooms := socket.rooms ++ [room] }

/-- `socket.leave`. -/
def Socket.leave (socket : Socket) (room : String) : Socket :=
  { socket with rooms := socket.rooms.filter (· ≠ room) }

/-- `makeJoinListener`: a room that is none of the event rooms is not asked for. -/
def Socket.onJoin (socket : Socket) (data : Data) : Socket :=
  match data.eventRoom with
  | none => socket
  | some room => { socket with checks := socket.checks ++ [{ room }] }

/-- The listener of `leave`. -/
def Socket.onLeave (socket : Socket) (data : Data) : Socket :=
  match data.eventRoom with
  | none => socket
  | some room => socket.leave room

/-- The decision of the server on a check, once. -/
def Check.decide (check : Check) (server : Server) (credentials : String) : Check :=
  match check.decision with
  | some _ => check
  | none =>
    let granted := (server.canJoinEventRoom credentials check.room).toOption
    { check with decision := some (granted.getD false) }

/-- The server decides one of the checks of a socket. -/
def Socket.onDecide (socket : Socket) (server : Server) (place : Nat) : Socket :=
  { socket with
    checks := socket.checks.modify place fun check => check.decide server socket.credentials }

/-- `defaultAuthorize` is done with one of the checks: its response arrives, or it is lost. -/
def Socket.onAnswer (socket : Socket) (place : Nat) (arrives : Bool) : Socket :=
  match socket.checks[place]? with
  | none => socket
  | some check =>
    let answered := { socket with checks := socket.checks.eraseIdx place }
    if arrives && check.decision == some true then answered.join check.room else answered

/-- The sockets of a site, by their ids. -/
structure Site where
  server : Server
  sockets : String → Option Socket := fun _ => none

/-- What happens on a site. -/
inductive Step where
  /-- The tables of the server change. -/
  | tables (server : Server)
  /-- A socket connects. -/
  | connect (id credentials : String)
  /-- A socket is gone. -/
  | disconnect (id : String)
  /-- A socket sends `join`. -/
  | join (id : String) (data : Data)
  /-- The server decides one of the checks of a socket. -/
  | decide (id : String) (place : Nat)
  /-- One of the checks of a socket is answered. -/
  | answer (id : String) (place : Nat) (arrives : Bool)
  /-- A socket sends `leave`. -/
  | leave (id : String) (data : Data)

/-- The site with another socket under an id. -/
def Site.put (site : Site) (id : String) (socket : Option Socket) : Site :=
  { site with sockets := fun other => if other = id then socket else site.sockets other }

/-- The site after a change of one of its sockets. -/
def Site.change (site : Site) (id : String) (change : Socket → Socket) : Site :=
  site.put id ((site.sockets id).map change)

/-- The site after a step. -/
def Site.step (site : Site) : Step → Site
  | .tables server => { site with server }
  | .connect id credentials => site.put id (some { credentials })
  | .disconnect id => site.put id none
  | .join id data => site.change id (·.onJoin data)
  | .decide id place => site.change id (·.onDecide site.server place)
  | .answer id place arrives => site.change id (·.onAnswer place arrives)
  | .leave id data => site.change id (·.onLeave data)

/-- The socket of an id receives what is published to a room now. -/
def Site.receives (site : Site) (id room : String) : Bool :=
  (site.sockets id).any fun socket => socket.rooms.contains room

end FlockOs.RoomSockets
