import FlockOs.EngagementClient
import FlockOs.Lib.Json
import FlockOs.Lib.Runs

/-!
# Decisions of facilitators

The view `manual_override` keeps its trail in the `config` of a session: a request reads the column,
and writes it back later with one decision more. Requests overlap, either statement may fail, and
the answer is the same whatever became of the decision.
-/

namespace FlockOs.SessionOverrides

open Lib Engagement EngagementClient

/-- The arguments of the view `manual_override`. -/
structure OverrideArgs extends SessionRef where
  /-- Attendee. -/
  attendeeKey : Option String := none
  /-- `keep` or `revoke`. -/
  action : Option String := none
  /-- Reason. -/
  reason : Option String := none
deriving DecidableEq, Repr

/-- What a request raises. -/
inductive Raised where
  /-- An error of the application. -/
  | error (error : Error)
  /-- `KeyError`. -/
  | key (name : String)
deriving DecidableEq, Repr

/-- A text or `null`. -/
def nullable (text : Option String) : Json := text.elim .null .str

/-- The decision that the trail gets. -/
def overrideOf (user action : String) (args : OverrideArgs) : Json :=
  .obj
    [ ("attendee_key", nullable args.attendeeKey),
      ("action", .str action),
      ("reason", .str ((truthy args.reason).getD "Facilitator review")),
      ("by", .str user) ]

/-- `manual_override` up to the trail: the session and the decision. A room code is no reference
to a session here. -/
def manualOverride (user : String) (args : OverrideArgs) : Except Raised (String × Json) :=
  match resolveSessionRef args.toSessionRef with
  | .error error => .error (.error error)
  | .ok (.inr _) => .error (.key "session_id")
  | .ok (.inl sessionId) =>
    match args.action.filter ["keep", "revoke"].contains with
    | none => .error (.error (.validation "action must be 'keep' or 'revoke'"))
    | some action => .ok (sessionId, overrideOf user action args)

/-- The column `config` of a session. -/
inductive Column where
  /-- `NULL` or an empty text. -/
  | empty
  /-- A text, with what it reads as where it is JSON. -/
  | text (value : Option Json)
deriving Repr

/-- The fields of an object. -/
abbrev Fields := List (String × Json)

/-- `config.get` can be called on the column that was read; no row reads as an empty object. -/
def readConfig : Option Column → Option Fields
  | none => some []
  | some .empty => some []
  | some (.text (some (.obj fields))) => some fields
  | some (.text _) => none

/-- `list(config.get("overrides") or [])`. -/
def overridesOf (fields : Fields) : Option (List Json) :=
  match (fields.lookup "overrides").filter truth with
  | none => some []
  | some value => value.iterate

/-- `config[name] = value`. -/
def assign (name : String) (value : Json) : Fields → Fields
  | [] => [(name, value)]
  | field :: fields =>
    if field.1 = name then (name, value) :: fields else field :: assign name value fields

/-- A request that has read the column and has yet to write it. -/
structure Pending where
  /-- Session. -/
  sessionId : String
  /-- Decision. -/
  override : Json
  /-- `config`. -/
  fields : Fields
  /-- `overrides`, without the decision. -/
  overrides : List Json

/-- What is written: `as_json` sorts the names, an order that nothing reads. -/
def Pending.column (request : Pending) : Column :=
  .text (some (.obj
    (assign "overrides" (.arr (request.overrides ++ [request.override])) request.fields)))

/-- The sessions of a site and the requests under way. -/
structure Site where
  /-- `tabFlock Engagement Session.config`, by session. -/
  config : String → Option Column
  /-- The requests between their two statements. -/
  requests : Nat → Option Pending := fun _ => none
  /-- The answers, each of which says `recorded`. -/
  answers : List (String × Json) := []

/-- What happens on a site; `fails` is a statement that raises. -/
inductive Step where
  /-- A request arrives and reads the column. -/
  | arrive (id : Nat) (user : String) (args : OverrideArgs) (fails : Bool)
  /-- A request writes the column and is answered. -/
  | finish (id : Nat) (fails : Bool)

/-- The request up to its write; `none` where the read raises. -/
def Site.read (site : Site) (sessionId : String) (override : Json) : Option Pending := do
  let fields ← readConfig (site.config sessionId)
  let overrides ← overridesOf fields
  pure { sessionId, override, fields, overrides }

/-- The answer of `manual_override`. -/
def Site.answer (site : Site) (sessionId : String) (override : Json) : Site :=
  { site with answers := site.answers ++ [(sessionId, override)] }

/-- `set_value` on the session, where there is one. -/
def Site.store (site : Site) (request : Pending) : Site :=
  { site with
    config := Function.update site.config request.sessionId
      ((site.config request.sessionId).map fun _ => request.column) }

/-- The site with another request under an id. -/
def Site.hold (site : Site) (id : Nat) (request : Option Pending) : Site :=
  { site with requests := Function.update site.requests id request }

/-- A request arrives: what `_append_session_override` raises is logged and not told. -/
def Site.arrive (site : Site) (id : Nat) (user : String) (args : OverrideArgs) (fails : Bool) :
    Site :=
  match manualOverride user args with
  | .error _ => site
  | .ok (sessionId, override) =>
    match if fails then none else site.read sessionId override with
    | none => site.answer sessionId override
    | some request => site.hold id (some request)

/-- A request is done. -/
def Site.finish (site : Site) (request : Pending) (id : Nat) (fails : Bool) : Site :=
  ((if fails then site else site.store request).hold id none).answer request.sessionId
    request.override

/-- The site after a step; an id stands for one request at a time. -/
def Site.step (site : Site) : Step → Site
  | .arrive id user args fails =>
    match site.requests id with
    | none => site.arrive id user args fails
    | some _ => site
  | .finish id fails =>
    match site.requests id with
    | none => site
    | some request => site.finish request id fails

/-- The trail of a session. -/
def Site.trail (site : Site) (sessionId : String) : List Json :=
  ((readConfig (site.config sessionId)).bind overridesOf).getD []

/-- A field of the configuration of a session. -/
def Site.setting (site : Site) (sessionId name : String) : Option Json :=
  (readConfig (site.config sessionId)).bind fun fields => fields.lookup name

/-- The decisions that were answered for a session. -/
def Site.answered (site : Site) (sessionId : String) : List Json :=
  (site.answers.filter fun answer => answer.1 == sessionId).map (·.2)

/-- The step loses no decision about a session: what it reads is there and readable, what it writes
goes over the trail that it read, and no statement raises. -/
def Keeps (sessionId : String) (site : Site) : Step → Prop
  | .arrive id user args fails =>
    ∀ override, site.requests id = none → manualOverride user args = .ok (sessionId, override) →
      fails = false ∧ (site.read sessionId override).isSome = true
  | .finish id fails =>
    ∀ request, site.requests id = some request → request.sessionId = sessionId →
      fails = false ∧ (site.config sessionId).isSome = true ∧
        request.overrides = site.trail sessionId

end FlockOs.SessionOverrides
