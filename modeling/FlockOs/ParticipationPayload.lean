import FlockOs.Engagement
import FlockOs.Lib.DocumentEquality
import FlockOs.Lib.Json

/-!
# The entries of the participation log

`_participation_to_payload`, `_participation_from_payload` and the text of an entry of
`engagement_frappe.py`, and the row that `participate` makes of a session and a request, with
floating-point numbers and any answers. A dictionary is a list of fields in order.
-/

namespace FlockOs.ParticipationPayload

open Lib Engagement

variable {φ : Type}

/-- A `dict` whose keys are texts. -/
abbrev Dict (φ : Type) := List (String × Document (Number φ))

/-- The truth test of a number. -/
def numberTruth [Zero φ] [DecidableEq φ] : Number φ → Bool
  | .int value => value ≠ 0
  | .float value => value ≠ 0

instance [Zero φ] [DecidableEq φ] : Truth (Document (Number φ)) where
  truth
    | .null => false
    | .bool value => value
    | .num value => numberTruth value
    | .str text => text ≠ ""
    | .arr items => !items.isEmpty
    | .obj fields => !fields.isEmpty

/-- A text or `None`. -/
def ofText : Option String → Document (Number φ)
  | none => .null
  | some text => .str text

/-- A number or `None`. -/
def ofNumber : Option (Number φ) → Document (Number φ)
  | none => .null
  | some value => .num value

/-- `Participation`. -/
structure Participation (φ : Type) where
  sessionId : String
  attendeeKey : String
  memberId : Option String
  attendeeDisplayName : String
  deviceFingerprint : String
  role : String
  engagementType : String
  engagementKind : String
  score : Option (Number φ)
  submittedAt : φ
  clientSubmittedAt : Option (Number φ)
  branch : String
  organization : String
  group : Option String
  geoRegion : Option String
  nonce : String
  ipAddress : Option String
  gathering : String
  statusFlags : Dict φ
  feedback : Dict φ

/-- The fields of a row in order. -/
def Participation.values (p : Participation φ) : List (Document (Number φ)) :=
  [.str p.sessionId, .str p.attendeeKey, ofText p.memberId, .str p.attendeeDisplayName,
    .str p.deviceFingerprint, .str p.role, .str p.engagementType, .str p.engagementKind,
    ofNumber p.score, .num (.float p.submittedAt), ofNumber p.clientSubmittedAt, .str p.branch,
    .str p.organization, ofText p.group, ofText p.geoRegion, .str p.nonce, ofText p.ipAddress,
    .str p.gathering, .obj p.statusFlags, .obj p.feedback]

/-- `participation == other` of a `dataclass`: the tuples of their fields are equal. -/
def Participation.same [Zero φ] [LT φ] [DecidableEq φ] (order : FloatOrder φ)
    (p other : Participation φ) : Bool :=
  Document.sameItems order.equality p.values other.values

/-- Answers that JSON represents: no object in them has a name twice. -/
structure Feedback (φ : Type) where
  /-- The answers. -/
  fields : Dict φ
  /-- Names differ at every depth. -/
  distinct : (Document.obj fields).distinct = true

/-- What `participate` takes from a `ParticipateRequest` for the row; the score is what `float`
makes of it. -/
structure ParticipateRequest (φ : Type) where
  attendeeKey : String
  memberId : Option String
  attendeeDisplayName : String
  deviceFingerprint : String
  nonce : String
  role : Option String := none
  score : Option φ := none
  clientSubmittedAt : Option (Number φ) := none
  ipAddress : Option String := none
  geoRegion : Option String := none
  feedback : Feedback φ

/-- `ENGAGEMENT_TYPE_GAME` and `ENGAGEMENT_TYPE_QUESTIONNAIRE`. -/
def typeText : EngagementType → String
  | .game => "game"
  | .questionnaire => "questionnaire"

/-- The codes of `validate_session_window`. -/
def reasonText : WindowReason → String
  | .beforeOpen => "before_open"
  | .afterGrace => "after_grace"

/-- `status_flags_for`. -/
def flagsDict (flags : StatusFlags) : Dict φ :=
  [("out_of_scope", .bool flags.outOfScope),
    ("out_of_scope_reason", ofText (flags.outOfScopeReason.map reasonText)),
    ("suspect_pattern", .bool flags.suspectPattern),
    ("offline_replay", .bool flags.offlineReplay),
    ("facilitator_override", .bool flags.facilitatorOverride)]

section Row

variable [Zero φ] [OfNat φ 100] [LT φ] [DecidableLT φ]

/-- `min(first, second)`: the first unless the second is less. -/
def lesser (first second : φ) : φ := if second < first then second else first

/-- `max(first, second)`: the first unless the second is greater. -/
def greater (first second : φ) : φ := if first < second then second else first

/-- `normalize_score`. -/
def normalizeScore (kind : EngagementKind) : Option φ → Option φ
  | none => none
  | some raw =>
    match engagementTypeFor kind with
    | .questionnaire => none
    | .game => some (greater 0 (lesser 100 raw))

/-- The row of a request: identity, nonce and address are the client's, the rest the
session's. -/
def participationOf (session : EngagementSession) (request : ParticipateRequest φ)
    (submittedAt : φ) (flags : StatusFlags) : Participation φ where
  sessionId := session.sessionId
  attendeeKey := request.attendeeKey
  memberId := request.memberId
  attendeeDisplayName := request.attendeeDisplayName
  deviceFingerprint := request.deviceFingerprint
  role := (truthy request.role).getD "member"
  engagementType := typeText (engagementTypeFor session.kind)
  engagementKind := session.kind.text
  score := (normalizeScore session.kind request.score).map .float
  submittedAt := submittedAt
  clientSubmittedAt := request.clientSubmittedAt
  branch := session.branch
  organization := session.organization
  group := session.group
  geoRegion := request.geoRegion
  nonce := request.nonce
  ipAddress := request.ipAddress
  gathering := session.gathering
  statusFlags := flagsDict flags
  feedback := request.feedback.fields

end Row

/-- `_participation_to_payload`. -/
def participationToPayload (p : Participation φ) : Dict φ :=
  [("session_id", .str p.sessionId),
    ("attendee_key", .str p.attendeeKey),
    ("member", ofText p.memberId),
    ("attendee_display_name", .str p.attendeeDisplayName),
    ("device_fingerprint", .str p.deviceFingerprint),
    ("role", .str p.role),
    ("engagement_type", .str p.engagementType),
    ("engagement_kind", .str p.engagementKind),
    ("score", ofNumber p.score),
    ("submitted_at", .num (.float p.submittedAt)),
    ("client_submitted_at", ofNumber p.clientSubmittedAt),
    ("branch", .str p.branch),
    ("organization", .str p.organization),
    ("group", ofText p.group),
    ("geo_region", ofText p.geoRegion),
    ("nonce", .str p.nonce),
    ("ip_address", ofText p.ipAddress),
    ("gathering", .str p.gathering),
    ("status_flags", .obj p.statusFlags),
    ("feedback", .obj p.feedback)]

section Decoding

variable (format : FloatText φ) (payload : Dict φ)

/-- `payload.get(key)`. -/
def getField (key : String) : Document (Number φ) := (payload.lookup key).getD .null

/-- A field that is a text or `None`; nothing where it is of another kind. -/
def text? (key : String) : Option (Option String) :=
  match getField payload key with
  | .null => some none
  | .str text => some (some text)
  | _ => none

/-- A field that is a number or `None`; nothing where it is of another kind. -/
def number? (key : String) : Option (Option (Number φ)) :=
  match getField payload key with
  | .null => some none
  | .num value => some (some value)
  | _ => none

/-- `float` of a number. -/
def float : Number φ → Option φ
  | .int value => format.ofInt value
  | .float value => some value

variable [Zero φ] [DecidableEq φ]

/-- `payload.get(key) or default`; nothing where that is no text. -/
def textOr (key default : String) : Option String :=
  if truth (getField payload key) then (text? payload key).bind id else some default

/-- `float(payload.get(key) or 0.0)`; nothing where that is no number or overflows. -/
def floatOr (key : String) : Option φ :=
  if truth (getField payload key) then ((number? payload key).bind id).bind (float format)
  else some 0

/-- `payload.get(key)` or an empty `dict`; nothing where that is no dictionary. -/
def dictOr (key : String) : Option (Dict φ) :=
  match getField payload key with
  | .obj fields => some fields
  | value => if truth value then none else some []

/-- `_participation_from_payload`; nothing where a field is of another kind than the row's. -/
def participationFromPayload : Option (Participation φ) := do
  let sessionId ← textOr payload "session_id" ""
  let attendeeKey ← textOr payload "attendee_key" ""
  let memberId ← text? payload "member"
  let attendeeDisplayName ← textOr payload "attendee_display_name" ""
  let deviceFingerprint ← textOr payload "device_fingerprint" ""
  let role ← textOr payload "role" "member"
  let engagementType ← textOr payload "engagement_type" "game"
  let engagementKind ← textOr payload "engagement_kind" "tap_burst"
  let score ← number? payload "score"
  let submittedAt ← floatOr format payload "submitted_at"
  let clientSubmittedAt ← number? payload "client_submitted_at"
  let branch ← textOr payload "branch" ""
  let organization ← textOr payload "organization" ""
  let group ← text? payload "group"
  let geoRegion ← text? payload "geo_region"
  let nonce ← textOr payload "nonce" ""
  let ipAddress ← text? payload "ip_address"
  let gathering ← textOr payload "gathering" ""
  let statusFlags ← dictOr payload "status_flags"
  let feedback ← dictOr payload "feedback"
  pure ⟨sessionId, attendeeKey, memberId, attendeeDisplayName, deviceFingerprint, role,
    engagementType, engagementKind, score, submittedAt, clientSubmittedAt, branch, organization,
    group, geoRegion, nonce, ipAddress, gathering, statusFlags, feedback⟩

end Decoding

section Log

variable (format : FloatText φ)

/-- The member of the log that `record_participation` adds. -/
def member (participation : Participation φ) : String :=
  Document.dumps (JsonNumbers.numerals format) (.obj (participationToPayload participation))

/-- `_safe_json` of a text. -/
def safeJson (text : String) : Option (Document (Number φ)) :=
  if text = "" then none else Document.loads (JsonNumbers.numerals format) text

/-- What `participations` makes of a member of the log: a value that is true is a payload. -/
def participationOfMember [Zero φ] [DecidableEq φ] (raw : String) : Option (Participation φ) := do
  match ← (safeJson format raw).filter truth with
  | .obj payload => participationFromPayload format payload
  | _ => none

end Log

end FlockOs.ParticipationPayload
