import FlockOs.ParticipationPayload

/-!
# An entry of the participation log is the row that was recorded

The payload of a row is read back from the text of its entry, since no object in it has a name
twice, and each of its fields is the one that the row had: a default replaces only an empty text
by an empty text, a zero by a zero and an empty dictionary by one, and a row of `participate` has a
role, a type and a kind. Only a time or an answer that is no number keeps the copy from being equal
to the row.
-/

namespace FlockOs.ParticipationPayload

open Lib Engagement

variable {φ : Type}

section Fields

variable {payload : Dict φ} {key : String}

/-- A text or `None` is read as it is. -/
theorem text?_ofText {value : Option String} (field : getField payload key = ofText value) :
    text? payload key = some value := by
  rw [text?, field]
  cases value <;> rfl

/-- A number or `None` is read as it is. -/
theorem number?_ofNumber {value : Option (Number φ)}
    (field : getField payload key = ofNumber value) : number? payload key = some value := by
  rw [number?, field]
  cases value <;> rfl

/-- A dictionary is read as it is, an empty one by its default. -/
theorem dictOr_obj [Zero φ] [DecidableEq φ] {fields : Dict φ}
    (field : getField payload key = .obj fields) : dictOr payload key = some fields := by
  rw [dictOr, field]

/-- A text is read as it is, an empty one by its default. -/
theorem textOr_str [Zero φ] [DecidableEq φ] {text : String} (default : String)
    (field : getField payload key = .str text) :
    textOr payload key default = some ((truthy (some text)).getD default) := by
  have given : getField payload key = ofText (some text) := field
  have read : text? payload key = some (some text) := text?_ofText given
  rw [textOr, read, field]
  by_cases empty : text = ""
  · rw [empty]
    rfl
  · rw [truthy_some empty]
    exact if_pos (decide_eq_true empty)

/-- A text is read as it is where its default is the empty text. -/
theorem textOr_empty [Zero φ] [DecidableEq φ] {text : String}
    (field : getField payload key = .str text) : textOr payload key "" = some text := by
  rw [textOr_str "" field]
  by_cases empty : text = ""
  · rw [empty]
    rfl
  · rw [truthy_some empty]
    rfl

/-- A text that is not empty is read as it is. -/
theorem textOr_named [Zero φ] [DecidableEq φ] {text : String} (default : String)
    (field : getField payload key = .str text) (named : text ≠ "") :
    textOr payload key default = some text := by
  rw [textOr_str default field, truthy_some named]
  rfl

/-- A floating-point number is read as it is, zero by its default. -/
theorem floatOr_float [Zero φ] [DecidableEq φ] (format : FloatText φ) {value : φ}
    (field : getField payload key = .num (.float value)) :
    floatOr format payload key = some value := by
  have given : getField payload key = ofNumber (some (.float value)) := field
  have read : number? payload key = some (some (.float value)) := number?_ofNumber given
  rw [floatOr, read, field]
  by_cases zero : value = 0
  · rw [zero]
    exact ite_self _
  · exact if_pos (decide_eq_true zero)

end Fields

/-- A row with a type and a kind is read from its payload, an empty role as the default. -/
theorem participationFromPayload_toPayload [Zero φ] [DecidableEq φ] (format : FloatText φ)
    (p : Participation φ) (type : p.engagementType ≠ "") (kind : p.engagementKind ≠ "") :
    participationFromPayload format (participationToPayload p) =
      some { p with role := (truthy (some p.role)).getD "member" } := by
  have text : ∀ (key : String) {value : String},
      getField (participationToPayload p) key = .str value →
      textOr (participationToPayload p) key "" = some value := fun key value field =>
    textOr_empty field
  have optional : ∀ (key : String) {value : Option String},
      getField (participationToPayload p) key = ofText value →
      text? (participationToPayload p) key = some value := fun key value field => text?_ofText field
  rw [participationFromPayload, text "session_id" rfl, text "attendee_key" rfl,
    optional "member" rfl, text "attendee_display_name" rfl, text "device_fingerprint" rfl,
    textOr_str "member" (rfl : getField _ "role" = .str p.role),
    textOr_named "game" (rfl : getField _ "engagement_type" = .str p.engagementType) type,
    textOr_named "tap_burst" (rfl : getField _ "engagement_kind" = .str p.engagementKind) kind,
    number?_ofNumber (rfl : getField _ "score" = ofNumber p.score),
    floatOr_float format (rfl : getField _ "submitted_at" = .num (.float p.submittedAt)),
    number?_ofNumber (rfl : getField _ "client_submitted_at" = ofNumber p.clientSubmittedAt),
    text "branch" rfl, text "organization" rfl, optional "group" rfl, optional "geo_region" rfl,
    text "nonce" rfl, optional "ip_address" rfl, text "gathering" rfl,
    dictOr_obj (rfl : getField _ "status_flags" = .obj p.statusFlags),
    dictOr_obj (rfl : getField _ "feedback" = .obj p.feedback)]
  rfl

/-- A row with a role, a type and a kind is read from its payload as it is. -/
theorem participationFromPayload_named [Zero φ] [DecidableEq φ] (format : FloatText φ)
    (p : Participation φ) (role : p.role ≠ "") (type : p.engagementType ≠ "")
    (kind : p.engagementKind ≠ "") :
    participationFromPayload format (participationToPayload p) = some p := by
  rw [participationFromPayload_toPayload format p type kind, truthy_some role]
  rfl

/-- A text or `None` has no names. -/
theorem distinct_ofText (value : Option String) :
    (ofText value : Document (Number φ)).distinct = true := by
  cases value <;> rfl

/-- A number or `None` has no names. -/
theorem distinct_ofNumber (value : Option (Number φ)) : (ofNumber value).distinct = true := by
  cases value <;> rfl

/-- The flags have different names. -/
theorem distinct_flagsDict (flags : StatusFlags) :
    (Document.obj (flagsDict flags : Dict φ)).distinct = true := by
  rw [Document.distinct, Bool.and_eq_true]
  refine ⟨rfl, ?_⟩
  simp only [flagsDict, Document.distinctFields, Document.distinctField, Document.distinct,
    distinct_ofText, Bool.and_self]

/-- No object in a payload has a name twice where none in its flags and answers has. -/
theorem distinct_payload {p : Participation φ}
    (flags : (Document.obj p.statusFlags).distinct = true)
    (answers : (Document.obj p.feedback).distinct = true) :
    (Document.obj (participationToPayload p)).distinct = true := by
  rw [Document.distinct, Bool.and_eq_true]
  refine ⟨rfl, ?_⟩
  simp only [participationToPayload, Document.distinctFields, Document.distinctField, flags,
    answers, distinct_ofText, distinct_ofNumber, Bool.and_true]
  rfl

/-- No field of a row has a name twice where none in its flags and answers has. -/
theorem distinct_values {p : Participation φ}
    (flags : (Document.obj p.statusFlags).distinct = true)
    (answers : (Document.obj p.feedback).distinct = true) :
    Document.distinctItems p.values = true := by
  simp only [Participation.values, Document.distinctItems, flags, answers, distinct_ofText,
    distinct_ofNumber, Bool.and_true]
  rfl

section Log

variable (format : FloatText φ)

/-- The text of an entry has the payload of its row. -/
theorem loads_member {p : Participation φ} (flags : (Document.obj p.statusFlags).distinct = true)
    (answers : (Document.obj p.feedback).distinct = true) :
    Document.loads (JsonNumbers.numerals format) (member format p) =
      some (.obj (participationToPayload p)) :=
  Document.loads_dumps _ (distinct_payload flags answers)

/-- An entry is not empty. -/
theorem member_ne_empty (p : Participation φ) : member format p ≠ "" := by
  intro empty
  have chars := congrArg String.toList empty
  rw [member, Document.dumps, String.toList_ofList] at chars
  cases chars

/-- The log gives for an entry what its payload is read as. -/
theorem participationOfMember_member [Zero φ] [DecidableEq φ] {p read : Participation φ}
    (loaded : Document.loads (JsonNumbers.numerals format) (member format p) =
      some (.obj (participationToPayload p)))
    (decoded : participationFromPayload format (participationToPayload p) = some read) :
    participationOfMember format (member format p) = some read := by
  rw [participationOfMember, safeJson, if_neg (member_ne_empty format p), loaded]
  exact decoded

end Log

section Row

variable [Zero φ] [OfNat φ 100] [LT φ] [DecidableLT φ]

/-- A text that passed the truth test, or a default that is not empty. -/
theorem truthy_getD_ne_empty (text : Option String) {default : String} (named : default ≠ "") :
    (truthy text).getD default ≠ "" := by
  cases passed : truthy text with
  | none => exact named
  | some value =>
    rintro rfl
    rw [truthy_eq_some passed, truthy_empty] at passed
    cases passed

variable (session : EngagementSession) (request : ParticipateRequest φ) (submittedAt : φ)
  (flags : StatusFlags)

/-- A row of `participate` has a role, a type and a kind. -/
theorem participationOf_named :
    (participationOf session request submittedAt flags).role ≠ "" ∧
      (participationOf session request submittedAt flags).engagementType ≠ "" ∧
      (participationOf session request submittedAt flags).engagementKind ≠ "" := by
  refine ⟨truthy_getD_ne_empty request.role (by decide), ?_, ?_⟩
  · show typeText (engagementTypeFor session.kind) ≠ ""
    cases engagementTypeFor session.kind <;> decide
  · show session.kind.text ≠ ""
    cases session.kind <;> decide

/-- The JSON text of the payload of any row of `participate` is read as a payload that gives the
row, and the log gives the row for the entry. -/
theorem participationOf_decoded [DecidableEq φ] (format : FloatText φ) :
    (∃ payload,
      Document.loads (JsonNumbers.numerals format) (Document.dumps (JsonNumbers.numerals format)
          (.obj (participationToPayload (participationOf session request submittedAt flags)))) =
        some (.obj payload) ∧
      participationFromPayload format payload =
        some (participationOf session request submittedAt flags)) ∧
    participationOfMember format
        (member format (participationOf session request submittedAt flags)) =
      some (participationOf session request submittedAt flags) := by
  obtain ⟨role, type, kind⟩ := participationOf_named session request submittedAt flags
  have loaded := loads_member format (p := participationOf session request submittedAt flags)
    (distinct_flagsDict flags) request.feedback.distinct
  have decoded := participationFromPayload_named format _ role type kind
  exact ⟨⟨_, loaded, decoded⟩, participationOfMember_member format loaded decoded⟩

end Row

section Equal

variable [Zero φ] [LT φ] (order : FloatOrder φ)

/-- A number of a document is not one that is none. -/
def isNumber (value : Number φ) : Bool := !order.numberIsNan value

/-- No time of a request and no number in its answers is one that is none. -/
structure Numeric (request : ParticipateRequest φ) (submittedAt : φ) : Prop where
  /-- The time that the row gets. -/
  submitted : order.isNan submittedAt = false
  /-- The client's own time. -/
  client : ∀ value ∈ request.clientSubmittedAt, order.numberIsNan value = false
  /-- The answers. -/
  answers : (Document.obj request.feedback.fields).allNumbers (isNumber order) = true

/-- A text or `None` has no number. -/
theorem allNumbers_ofText (value : Option String) :
    (ofText value : Document (Number φ)).allNumbers (isNumber order) = true := by
  cases value <;> rfl

/-- A number or `None` has that number. -/
theorem allNumbers_ofNumber (value : Option (Number φ)) :
    (ofNumber value).allNumbers (isNumber order) = true ↔
      ∀ number ∈ value, order.numberIsNan number = false := by
  cases value with
  | none => exact ⟨fun _ _ there => (nomatch there), fun _ => rfl⟩
  | some number =>
    show (!order.numberIsNan number) = true ↔ _
    rw [Bool.not_eq_true']
    exact ⟨fun kept _ there => Option.some.inj there ▸ kept, fun kept => kept number rfl⟩

/-- The flags have no number. -/
theorem allNumbers_flagsDict (flags : StatusFlags) :
    (Document.obj (flagsDict flags)).allNumbers (isNumber order) = true := by
  simp only [flagsDict, Document.allNumbers, Document.allNumbersFields, Document.allNumbersField,
    allNumbers_ofText, Bool.and_self]

/-- The numbers of a row are its score, its times and those of its flags and answers. -/
theorem allNumbers_values (p : Participation φ) :
    Document.allNumbersItems (isNumber order) p.values = true ↔
      (∀ number ∈ p.score, order.numberIsNan number = false) ∧
      order.isNan p.submittedAt = false ∧
      (∀ number ∈ p.clientSubmittedAt, order.numberIsNan number = false) ∧
      (Document.obj p.statusFlags).allNumbers (isNumber order) = true ∧
      (Document.obj p.feedback).allNumbers (isNumber order) = true := by
  have text : ∀ value, (Document.str value).allNumbers (isNumber order) = true := fun _ => rfl
  have submitted : (Document.num (.float p.submittedAt)).allNumbers (isNumber order) =
      !order.isNan p.submittedAt := rfl
  simp only [Participation.values, Document.allNumbersItems, Bool.and_eq_true, text, submitted,
    allNumbers_ofText, allNumbers_ofNumber, Bool.not_eq_true', true_and, and_true]

variable [OfNat φ 100] [DecidableLT φ]

/-- A score is clamped to a number. -/
theorem isNan_normalizeScore (kind : EngagementKind) (raw : Option φ) :
    ∀ value ∈ normalizeScore kind raw, order.isNan value = false := by
  intro value there
  cases raw with
  | none => cases there
  | some raw =>
    simp only [normalizeScore] at there
    cases type : engagementTypeFor kind with
    | questionnaire =>
      rw [type] at there
      cases there
    | game =>
      rw [type] at there
      have clamped : greater 0 (lesser 100 raw) = value := Option.some.inj there
      rw [← clamped, greater]
      split_ifs with more
      · exact order.isNan_of_lt more
      · exact order.isNan_zero

variable [DecidableEq φ]

/-- A row of `participate` equals its copy exactly when its times and its answers have numbers
only. -/
theorem same_participationOf (session : EngagementSession) (request : ParticipateRequest φ)
    (submittedAt : φ) (flags : StatusFlags) :
    (participationOf session request submittedAt flags).same order
        (participationOf session request submittedAt flags) = true ↔
      Numeric order request submittedAt := by
  have apart := distinct_values (p := participationOf session request submittedAt flags)
    (distinct_flagsDict flags) request.feedback.distinct
  have self : (fun number => order.equality.same number number) = isNumber order :=
    funext order.same_self
  have score : ∀ number ∈ (normalizeScore session.kind request.score).map Number.float,
      order.numberIsNan number = false := by
    intro number there
    obtain ⟨value, clamped, rfl⟩ := Option.map_eq_some_iff.mp there
    exact isNan_normalizeScore order session.kind request.score value clamped
  rw [Participation.same, Document.sameItems_self _ apart, self, allNumbers_values]
  constructor
  · rintro ⟨-, time, client, -, answers⟩
    exact ⟨time, client, answers⟩
  · rintro ⟨time, client, answers⟩
    exact ⟨score, time, client, allNumbers_flagsDict order flags, answers⟩

end Equal

/-- A session without a group. -/
def groupless : EngagementSession where
  sessionId := "S1"
  gathering := "G1"
  branch := ""
  organization := "O1"

/-- A request with a score of zero and nested answers, among them a zero, an empty text and
`False`. -/
def zeroRequest : ParticipateRequest JsonNumbers.WholeFloat where
  attendeeKey := "a1"
  memberId := none
  attendeeDisplayName := "Zo\u00eb \"Z\""
  deviceFingerprint := ""
  nonce := "n1"
  score := some 0
  feedback :=
    ⟨[("answer", .obj [("text", .str ""), ("count", .num (.int 0))]), ("sure", .bool false)], rfl⟩

/-- The same request from a client whose clock gives no number. -/
def nanRequest : ParticipateRequest JsonNumbers.WholeFloat :=
  { zeroRequest with clientSubmittedAt := some (.float .nan) }

/-- A value of the service as one of a document. -/
def ofValue : Value → Document (Number Rat)
  | .none => .null
  | .bool value => .bool value
  | .int value => .num (.int value)
  | .float value => .num (.float value)
  | .str value => .str value
  | .list values => .arr (values.map .str)

/-- Answers of the service as fields of a document. -/
def ofAnswers (answers : List (String × Value)) : Dict Rat :=
  answers.map fun answer => (answer.1, ofValue answer.2)

/-- A row of the service. -/
def ofRow (row : Engagement.Participation) : Participation Rat where
  sessionId := row.sessionId
  attendeeKey := row.attendeeKey
  memberId := row.memberId
  attendeeDisplayName := row.attendeeDisplayName
  deviceFingerprint := row.deviceFingerprint
  role := row.role
  engagementType := typeText row.engagementType
  engagementKind := row.engagementKind.text
  score := row.score.map .float
  submittedAt := row.submittedAt
  clientSubmittedAt := row.clientSubmittedAt.map .float
  branch := row.branch
  organization := row.organization
  group := row.group
  geoRegion := row.geoRegion
  nonce := row.nonce
  ipAddress := row.ipAddress
  gathering := row.gathering
  statusFlags := flagsDict row.statusFlags
  feedback := ofAnswers row.feedback

/-- The items of a flat list have no names. -/
theorem distinctItems_str (values : List String) :
    Document.distinctItems (values.map (.str : String → Document (Number φ))) = true := by
  induction values with
  | nil => rfl
  | cons value values ih => exact ih

/-- A value of the service has no names. -/
theorem distinct_ofValue (value : Value) : (ofValue value).distinct = true := by
  cases value with
  | list values => exact distinctItems_str values
  | _ => rfl

/-- The values of answers have no names. -/
theorem distinctFields_ofAnswers (answers : List (String × Value)) :
    Document.distinctFields (ofAnswers answers) = true := by
  induction answers with
  | nil => rfl
  | cons answer answers ih => exact Bool.and_eq_true_iff.mpr ⟨distinct_ofValue answer.2, ih⟩

/-- Answers have their names. -/
theorem names_ofAnswers (answers : List (String × Value)) :
    (ofAnswers answers).map Prod.fst = answers.map Prod.fst := by
  rw [ofAnswers, List.map_map]
  rfl

/-- Answers with different names. -/
def answersOf (answers : List (String × Value)) (names : (answers.map Prod.fst).Nodup) :
    Feedback Rat where
  fields := ofAnswers answers
  distinct := by
    rw [Document.distinct, names_ofAnswers, decide_eq_true names, Bool.true_and,
      distinctFields_ofAnswers]

/-- A request of the service whose answers have different names. -/
def ofRequest (request : Engagement.ParticipateRequest)
    (names : (request.feedback.map Prod.fst).Nodup) : ParticipateRequest Rat where
  attendeeKey := request.attendeeKey
  memberId := request.memberId
  attendeeDisplayName := request.attendeeDisplayName
  deviceFingerprint := request.deviceFingerprint
  nonce := request.nonce
  role := request.role
  score := request.score
  clientSubmittedAt := request.clientSubmittedAt.map .float
  ipAddress := request.ipAddress
  geoRegion := request.geoRegion
  feedback := answersOf request.feedback names

/-- On rational numbers a score is clamped as the service does it. -/
theorem normalizeScore_rat (kind : EngagementKind) (raw : Option Rat) :
    normalizeScore kind raw = Engagement.normalizeScore kind raw := by
  have least : ∀ value : Rat, lesser 100 value = min 100 value := by
    intro value
    rw [lesser]
    split_ifs with less
    · exact (min_eq_right (le_of_lt less)).symm
    · exact (min_eq_left (not_lt.mp less)).symm
  have most : ∀ value : Rat, greater 0 value = max 0 value := by
    intro value
    rw [greater]
    split_ifs with more
    · exact (max_eq_right (le_of_lt more)).symm
    · exact (max_eq_left (not_lt.mp more)).symm
  cases raw with
  | none => rfl
  | some raw =>
    have clamped : greater 0 (lesser 100 raw) = max 0 (min 100 raw) := by rw [least, most]
    unfold normalizeScore Engagement.normalizeScore
    cases engagementTypeFor kind with
    | game => exact congrArg some clamped
    | questionnaire => rfl

/-- The row of a request is the row that the service makes of it. -/
theorem participationOf_ofRequest (session : EngagementSession)
    (request : Engagement.ParticipateRequest) (names : (request.feedback.map Prod.fst).Nodup)
    (submittedAt : Rat) (flags : StatusFlags) :
    participationOf session (ofRequest request names) submittedAt flags =
      ofRow (EngagementService.participationOf session request submittedAt flags) := by
  rw [participationOf, normalizeScore_rat]
  rfl

end FlockOs.ParticipationPayload
