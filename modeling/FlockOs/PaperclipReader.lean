import Mathlib.Data.List.MinMax
import FlockOs.Watchdog

/-!
# The reader of the watchdog

`PaperclipLivenessReader`: what a probe makes of the responses of the platform. `_get` is a
parameter, the decoded response for each path or the exception; so is the part of `_parse_iso8601`
that hands its text to `datetime.fromisoformat`.
-/

namespace FlockOs.Liveness

open Lib

/-- The type of a value, as an exception names it. -/
def typeName : Json → String
  | .null => "NoneType"
  | .bool _ => "bool"
  | .num _ text => if text.toList.all fun char => char.isDigit || char = '-' then "int" else "float"
  | .str _ => "str"
  | .arr _ => "list"
  | .obj _ => "dict"

/-- `TypeError`. -/
def typeError (message : String) : Fault := .other "TypeError" message

/-- The text that `_parse_iso8601` parses; none where it is empty. -/
def iso8601Text (text : String) : Option String :=
  let cleaned := (strip text.toList).flatMap fun char =>
    if char = 'Z' then ['+', '0', '0', ':', '0', '0'] else [char]
  if cleaned = [] then none else some (String.ofList cleaned)

/-- `_parse_iso8601`. -/
def parseIso8601 (fromisoformat : String → Option Rat) (value : Option Json) :
    Except Fault (Option Rat) :=
  match value.filter truth with
  | none => pure none
  | some (.str text) => pure ((iso8601Text text).bind fromisoformat)
  | some other =>
    throw (.other "AttributeError" s!"'{typeName other}' object has no attribute 'strip'")

/-- A character matches a lower-case letter of a pattern that ignores the case. -/
def matchesLetter (letter char : Char) : Bool :=
  char.toLower = letter || letter = 's' && char = 'ſ'

/-- What follows a literal of a pattern that ignores the case. -/
def afterLiteral : List Char → List Char → Option (List Char)
  | [], text => some text
  | _ :: _, [] => none
  | letter :: literal, char :: text =>
    if matchesLetter letter char then afterLiteral literal text else none

/-- A line ends at the character. -/
def endsLine (char : Char) : Bool := char = '\n' || char = '\r'

/-- The group of `_STARTED_AT_RE` where it matches at the front of the text. -/
def startedAtHere (text : List Char) : Option (List Char) :=
  (afterLiteral "started at:".toList text).bind fun rest =>
    match rest.dropWhile isWhitespace with
    | [] =>
      -- Only white space is left: the pattern gives it back up to its last character in a line.
      (rest.reverse.find? fun char => !endsLine char).map fun char => [char]
    | token => some (token.takeWhile fun char => !endsLine char)

/-- The group of the first match of `_STARTED_AT_RE`. -/
def startedAt : List Char → Option (List Char)
  | [] => none
  | char :: text => (startedAtHere (char :: text)).or (startedAt text)

/-- `_parse_started_at`. -/
def parseStartedAt (description : Option Json) : Except Fault (Option String) :=
  match description.filter truth with
  | none => pure none
  | some (.str text) => pure ((startedAt text.toList).map fun group => String.ofList (strip group))
  | some other => throw (typeError s!"expected string or bytes-like object, got '{typeName other}'")

/-- `PaperclipLivenessReader`, with an input for detection. -/
structure PaperclipLivenessReader where
  /-- `company_id`. -/
  companyId : String
  /-- `watched_routine_id`. -/
  watchedRoutineId : Option String := none
  /-- `watched_agent_name`. -/
  watchedAgentName : Option String := none
  /-- `run_limit`. -/
  runLimit : Int := 20
  /-- The constructor refuses a reader without either of the two. -/
  detects : watchedRoutineId.any truth ∨ watchedAgentName.any truth

/-- `_TERMINAL_ISSUE_STATUSES`. -/
def terminalIssueStatuses : List String := ["done", "cancelled"]

/-- `_STALE_RUN_ORIGIN_KIND`. -/
def staleRunOriginKind : String := "stale_active_run_evaluation"

/-- `str(value)`, where the value may be `None`. -/
def textOf (value : Option Json) : String := toString (value.getD .null)

/-- The records of a list, which are objects with an id. -/
def records (payload : Json) : List Json :=
  (payload.items?.getD []).filter fun record => record.isDict && (record.get "id").any truth

namespace PaperclipLivenessReader

variable (reader : PaperclipLivenessReader) (fromisoformat : String → Option Rat)
  (get : String → Except Fault Json)

/-- `_fetch_chain`. -/
def fetchChain : Except Fault (ChainOfCommand Json) := do
  let payload ← get s!"/api/companies/{reader.companyId}/agents"
  let nodes := (records payload).map fun record =>
    let id := (record.get "id").getD .null
    let name := orElse (record.get "name") (orElse (record.get "shortName") (some id))
    (⟨id, textOf name, record.get "reportsTo"⟩ : AgentNode Json)
  match nodes.find? fun node => !node.id.hashable with
  | some node => throw (typeError s!"unhashable type: '{typeName node.id}'")
  | none => pure ⟨nodes⟩

/-- The run of a record of `_fetch_runs`. -/
def readRun (record : Json) : Except Fault (HeartbeatRun Json) := do
  let triggered ← parseIso8601 fromisoformat (record.get "triggeredAt")
  let completed ← parseIso8601 fromisoformat (record.get "completedAt")
  let linked := (record.get "linkedIssue").filter Json.isDict
  pure {
    id := (record.get "id").getD .null
    status := textOf (orElse (record.get "status") (some (.str "unknown")))
    triggeredAtEpoch := triggered.getD 0
    completedAtEpoch := completed
    linkedIssueId := record.get "linkedIssueId"
    linkedIssueIdentifier := linked.bind (Json.get · "identifier")
    linkedIssueTitle := linked.bind (Json.get · "title")
    linkedIssueStatus := linked.bind (Json.get · "status")
    coalescedIntoRunId := record.get "coalescedIntoRunId"
    failureReason := record.get "failureReason" }

/-- The records that `_fetch_runs` reads. -/
def fetchRecords : Except Fault (List Json) := do
  let payload ← get
    s!"/api/routines/{shown reader.watchedRoutineId}/runs?limit={reader.runLimit}"
  pure (records payload)

/-- `_fetch_runs`. -/
def fetchRuns : Except Fault (List (HeartbeatRun Json)) := do
  (← reader.fetchRecords get).mapM (readRun fromisoformat)

/-- `_linked_flags`. -/
def linkedFlags (linkedIssueId : Option Json) : Except Fault (Bool × Bool) :=
  match linkedIssueId.filter truth with
  | none => pure (false, false)
  | some id => do
    let issue ← get s!"/api/issues/{id}"
    if issue.isDict then
      let action := ((issue.get "activeRecoveryAction").filter truth).getD (.obj [])
      pure (decide (textOf (issue.get "status") ∈ terminalIssueStatuses),
        action.get "kind" == some (.str "missing_disposition") &&
          action.get "cause" == some (.str "successful_run_missing_state"))
    else pure (false, false)

/-- The issue is an open review of a stale run. -/
def isOpenReview (issue : Json) : Bool :=
  issue.isDict && decide (textOf (issue.get "status") ∉ terminalIssueStatuses) &&
    issue.get "originKind" == some (.str staleRunOriginKind)

/-- `i.get("createdAt") or ""`. -/
def createdAt (issue : Json) : Json := ((issue.get "createdAt").filter truth).getD (.str "")

/-- `max` of an issue and others by their creation; the first of the latest. -/
def latestReview (best : Json) : List Json → Except Fault Json
  | [] => pure best
  | issue :: issues =>
    match (createdAt issue).greater (createdAt best) with
    | some true => latestReview issue issues
    | some false => latestReview best issues
    | none => throw (typeError ("'>' not supported between instances of " ++
        s!"'{typeName (createdAt issue)}' and '{typeName (createdAt best)}'"))

/-- The issues of a search. -/
def foundIssues (payload : Json) : Except Fault (List Json) :=
  if payload.isDict then
    let found := (orElse (payload.get "items") (orElse (payload.get "issues") none)).getD (.arr [])
    match found.iterate with
    | some issues => pure issues
    | none => throw (typeError s!"'{typeName found}' object is not iterable")
  else pure (payload.items?.getD [])

/-- The open review that `_fetch_stale_run_issue` reads. -/
def fetchReview : Except Fault (Option Json) := do
  let query := s!"Review silent active run for {shown reader.watchedAgentName}"
  let payload ← get s!"/api/companies/{reader.companyId}/issues?q={quote query}"
  let issues ← foundIssues payload
  match issues.filter isOpenReview with
  | [] => pure none
  | first :: others => some <$> latestReview first others

/-- The run of a review. -/
def readReview (review : Json) : Except Fault (HeartbeatRun Json) := do
  let runId := (orElse (review.get "originRunId") (review.get "originId")).filter truth
  let started ← parseStartedAt (review.get "description")
  let triggered ← parseIso8601 fromisoformat (started.map .str)
  pure {
    id := .str (textOf (runId.or (some (.str "unknown"))))
    status := "running"
    triggeredAtEpoch := triggered.getD 0
    completedAtEpoch := none
    linkedIssueId := review.get "parentId" }

/-- `_fetch_stale_run_issue`. -/
def fetchStaleRunIssue : Except Fault (Option (HeartbeatRun Json)) := do
  match ← reader.fetchReview get with
  | none => pure none
  | some review => some <$> readReview fromisoformat review

/-- The latest base run, and the runs it is compared with. -/
def detect : Except Fault (Option (HeartbeatRun Json) × List (HeartbeatRun Json)) :=
  if reader.watchedRoutineId.any truth then do
    let runs ← reader.fetchRuns fromisoformat get
    pure ((runs.filter HeartbeatRun.isBase).argmax HeartbeatRun.triggeredAtEpoch, runs)
  else do
    let latest ← reader.fetchStaleRunIssue fromisoformat get
    pure (latest, latest.toList)

/-- `probe`. -/
def probe : Except Fault (LivenessProbe Json) := do
  let chain ← reader.fetchChain get
  let (latest, runs) ← reader.detect fromisoformat get
  let (terminal, missing) ← linkedFlags get (latest.bind HeartbeatRun.linkedIssueId)
  pure ⟨latest, runs, chain, terminal, missing⟩

end PaperclipLivenessReader

/-- The exception that the classification of a probe raises: `_nodes` has no key that is a list or
an object. -/
def unclassifiable (watchedAgentId : Json) (probe : LivenessProbe Json) : Option Fault :=
  if probe.run.isSome then
    let manager := (probe.chain.get watchedAgentId).bind AgentNode.reportsTo
    (manager.filter fun id => !id.hashable).map fun id =>
      typeError s!"unhashable type: '{typeName id}'"
  else none

/-- The ports of a fire over a reader, with a response of the platform for each probe and path; an
exception of the classification is raised with the probe. -/
def PaperclipLivenessReader.over (reader : PaperclipLivenessReader)
    (fromisoformat : String → Option Rat) (watchedAgentId : Json)
    (get : Nat → String → Except Fault Json) (ports : Ports Json) : Ports Json :=
  { ports with
    probe := fun number => do
      let probe ← reader.probe fromisoformat (get number)
      match unclassifiable watchedAgentId probe with
      | some raised => throw raised
      | none => pure probe }

end FlockOs.Liveness
