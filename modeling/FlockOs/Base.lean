import Mathlib.Data.List.Basic

/-!
# Values, errors and domain events

What the modules of the application share: the Python values that travel in an event
payload, Python's truth test on optional text, the exceptions that the modelled code raises
or lets through, and the domain event with the names of the catalog.
-/

namespace FlockOs

/-- A Python value carried in an event payload or scope. -/
inductive Value where
  | none
  | bool (value : Bool)
  | int (value : Int)
  | float (value : Rat)
  | str (value : String)
  | list (values : List String)
deriving DecidableEq, Repr

/-- An optional text as a payload value. -/
def Value.ofOption : Option String → Value
  | .none => .none
  | .some text => .str text

/-- Pairs of texts are compared as they are. -/
instance lawfulTextPair : LawfulBEq (String × String) := inferInstance

/-- Python's truth test on `str | None`: the text when there is one and it is not empty.
`a or b` reads as `(truthy a).getD b`. -/
def truthy : Option String → Option String
  | none => none
  | some text => if text = "" then none else some text

@[simp] theorem truthy_none : truthy none = none := rfl

@[simp] theorem truthy_empty : truthy (some "") = none := rfl

/-- A text passes the truth test when it is not empty. -/
theorem truthy_some {text : String} (nonempty : text ≠ "") : truthy (some text) = some text :=
  if_neg nonempty

/-- A text that passed the truth test is the given one. -/
theorem truthy_eq_some {text : Option String} {passed : String}
    (truth : truthy text = some passed) : text = some passed := by
  cases text with
  | none => cases truth
  | some given =>
    rw [truthy] at truth
    split at truth
    · cases truth
    · exact truth

/-- A text that passed the truth test is not empty. -/
theorem truthy_nonempty {text : Option String} {passed : String}
    (truth : truthy text = some passed) : passed ≠ "" := by
  cases text with
  | none => cases truth
  | some given =>
    rw [truthy] at truth
    split at truth
    · cases truth
    · rw [← Option.some.inj truth]
      assumption

/-- The truth test changes nothing the second time. -/
theorem truthy_truthy (text : Option String) : truthy (truthy text) = truthy text := by
  cases truth : truthy text with
  | none => rfl
  | some passed => exact truthy_some (truthy_nonempty truth)

/-- The texts that count are those that are not empty. -/
theorem filterMap_truthy (texts : List String) :
    texts.filterMap (fun text => truthy (some text)) = texts.filter (· ≠ "") := by
  induction texts with
  | nil => rfl
  | cons text rest ih =>
    rw [List.filterMap_cons, List.filter_cons, ih]
    by_cases empty : text = ""
    · rw [empty, truthy_empty, if_neg (by simp)]
    · rw [truthy_some empty, if_pos (decide_eq_true empty)]

/-- `(a or b) or b` is `a or b`. -/
theorem truthy_getD_again (text : Option String) (other : String) :
    (truthy (some ((truthy text).getD other))).getD other = (truthy text).getD other := by
  cases truth : truthy text with
  | none =>
    by_cases empty : other = ""
    · rw [empty]
      rfl
    · rw [Option.getD_none, truthy_some empty]
      rfl
  | some passed =>
    rw [Option.getD_some, truthy_some (truthy_nonempty truth)]
    rfl

/-- Python's `repr` of a text without quotes or escapes in it. -/
def quoted (text : String) : String := "'" ++ text ++ "'"

/-- Python's `repr` of `str | None`. -/
def quotedOption : Option String → String
  | none => "None"
  | some text => quoted text

/-- The exceptions of the modelled code. -/
inductive Error where
  /-- `frappe.throw` and `frappe.ValidationError`. -/
  | validation (message : String)
  /-- `frappe.PermissionError` and `FlockPermissionError`. -/
  | permission (message : String)
  /-- `FlockRegistrationError`. -/
  | registration (message : String)
  /-- `FlockEngagementError`. -/
  | engagement (message : String)
  /-- `LeaderReportingError`. -/
  | leaderReporting (message : String)
  /-- `frappe.MandatoryError`: a required field of a document is not set. -/
  | mandatory (field : String)
  /-- `frappe.DuplicateEntryError` and `frappe.UniqueValidationError`. -/
  | duplicateEntry
  /-- `frappe.TimestampMismatchError`: the row was saved since it was read. -/
  | timestampMismatch
  /-- `frappe.DoesNotExistError`. -/
  | doesNotExist (name : String)
  /-- `ValueError`. -/
  | value (message : String)
  /-- `TypeError`, such as the comparison of a text with a `datetime`. -/
  | type (message : String)
  /-- `ZeroDivisionError`. -/
  | zeroDivision
  /-- A failure of the database, the cache or the message bus. -/
  | infrastructure
  /-- `frappe.QueryDeadlockError`. -/
  | queryDeadlock
  /-- `frappe.QueryTimeoutError`: a lock was waited for too long. -/
  | queryTimeout
deriving DecidableEq, Repr

/-- A moment as the code holds it: a `datetime` read from a column, or the text that
`frappe.utils.now()` returns. Both stand for an instant, counted in microseconds. -/
inductive Moment where
  | datetime (instant : Int)
  | text (instant : Int)
deriving DecidableEq, Repr

/-- A comparison of Python: two moments of one kind are compared by their instants (the texts
have a fixed width), a mixed pair raises `TypeError`. -/
def Moment.compare (sign : String) (holds : Int → Int → Bool) :
    Moment → Moment → Except Error Bool
  | .datetime left, .datetime right => .ok (holds left right)
  | .text left, .text right => .ok (holds left right)
  | .datetime _, .text _ => .error (.type
      s!"{quoted sign} not supported between instances of 'datetime.datetime' and 'str'")
  | .text _, .datetime _ => .error (.type
      s!"{quoted sign} not supported between instances of 'str' and 'datetime.datetime'")

/-- Python's `<`. -/
def Moment.lt : Moment → Moment → Except Error Bool :=
  compare "<" fun left right => decide (left < right)

/-- Python's `>`. -/
def Moment.gt : Moment → Moment → Except Error Bool :=
  compare ">" fun left right => decide (right < left)

/-- Python's `>=`. -/
def Moment.ge : Moment → Moment → Except Error Bool :=
  compare ">=" fun left right => decide (right ≤ left)

/-- The instant that a moment stands for. -/
def Moment.instant : Moment → Int
  | .datetime instant => instant
  | .text instant => instant

/-- `events.DomainEvent`: a named state change with its payload and scope anchors. -/
structure DomainEvent where
  /-- Catalog name. -/
  name : String
  /-- Event data. -/
  payload : List (String × Value) := []
  /-- Row-level anchors. -/
  scope : List (String × Value) := []
deriving DecidableEq, Repr

namespace Events

/-- `REGISTRATION_CREATED`. -/
def registrationCreated : String := "flock.registration.created"
/-- `REGISTRATION_WAITLISTED`. -/
def registrationWaitlisted : String := "flock.registration.waitlisted"
/-- `REGISTRATION_CANCELLED`. -/
def registrationCancelled : String := "flock.registration.cancelled"
/-- `REGISTRATION_CHECKED_IN`. -/
def registrationCheckedIn : String := "flock.registration.checked_in"
/-- `REGISTRATION_PROMOTED`. -/
def registrationPromoted : String := "flock.registration.promoted"
/-- `REGISTRATION_BULK_COMPLETED`. -/
def registrationBulkCompleted : String := "flock.registration.bulk_completed"
/-- `ATTENDANCE_RECORDED`. -/
def attendanceRecorded : String := "flock.attendance.recorded"
/-- `ATTENDANCE_BULK_RECORDED`. -/
def attendanceBulkRecorded : String := "flock.attendance.bulk_recorded"
/-- `ATTENDANCE_BATCH_REJECTED`. -/
def attendanceBatchRejected : String := "flock.attendance.batch_rejected"
/-- `ATTENDANCE_IMPORT_FAILED`. -/
def attendanceImportFailed : String := "flock.attendance.import_failed"
/-- `ATTENDANCE_REPORTED`. -/
def attendanceReported : String := "flock.attendance.reported"
/-- `ENGAGEMENT_SESSION_OPENED`. -/
def engagementSessionOpened : String := "flock.engagement.opened"
/-- `ENGAGEMENT_SESSION_CLOSED`. -/
def engagementSessionClosed : String := "flock.engagement.closed"
/-- `APPROVAL_REQUESTED`. -/
def approvalRequested : String := "flock.approval.requested"
/-- `APPROVAL_STEP_APPROVED`. -/
def approvalStepApproved : String := "flock.approval.step_approved"
/-- `APPROVAL_STEP_REJECTED`. -/
def approvalStepRejected : String := "flock.approval.step_rejected"
/-- `APPROVAL_APPROVED`. -/
def approvalApproved : String := "flock.approval.approved"
/-- `APPROVAL_REJECTED`. -/
def approvalRejected : String := "flock.approval.rejected"
/-- `REGISTRATION_OPENED`. -/
def registrationOpened : String := "flock.registration.opened"
/-- `GATHERING_APPROVED`. -/
def gatheringApproved : String := "flock.gathering.approved"
/-- `ANNOUNCEMENT_SCHEDULED`. -/
def announcementScheduled : String := "flock.announcement.scheduled"
/-- `ANNOUNCEMENT_PUBLISHED`. -/
def announcementPublished : String := "flock.announcement.published"
/-- `NOTIFICATION_SENT`. -/
def notificationSent : String := "flock.notification.sent"

end Events

end FlockOs
