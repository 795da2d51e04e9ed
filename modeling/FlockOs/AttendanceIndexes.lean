import FlockOs.Base
import FlockOs.Lib.Exec
import FlockOs.Lib.Relations

/-!
# Unique indexes for attendance

`patches/v0_1/add_attendance_indexes.py`: the migration that collapses the duplicate rows of the
attendance tables and adds the unique indexes that forbid them. The key of a row is what the key
columns hold, which are not null, up to the collation under which the database compares them.
-/

namespace FlockOs.AttendanceIndexes

open Lib

section Collapse

variable {Row Key Name : Type} [DecidableEq Key] [LinearOrder Name]

/-- `_collapse_keep_min_name`: the number it returns and the rows it leaves. -/
def collapseKeepMinName (key : Row → Key) (name : Row → Name) (table : List Row) :
    Nat × List Row :=
  let on (first second : Row) : Bool := key first = key second ∧ name first > name second
  let dupes := joinCount on table table
  (dupes, if dupes ≠ 0 then deleteJoined on table table else table)

/-- The columns of a table with totals. Setting the total of a row sets nothing else. -/
structure TotalColumns (Row Key Name : Type) where
  key : Row → Key
  name : Row → Name
  total : Row → Nat
  withTotal : Row → Nat → Row
  key_withTotal : ∀ row total, key (withTotal row total) = key row
  name_withTotal : ∀ row total, name (withTotal row total) = name row
  withTotal_total : ∀ row, withTotal row (total row) = row

/-- A row of the derived table of duplicate groups. -/
structure Group (Key Name : Type) where
  key : Key
  keepName : Name
  groupTotal : Nat
deriving DecidableEq, Repr

/-- The row of the derived table for a key, if several rows have it. -/
def duplicateGroup (columns : TotalColumns Row Key Name) (table : List Row) (key : Key) :
    Option (Group Key Name) :=
  let members := table.filter fun row => columns.key row = key
  if members.length > 1 then
    (members.map columns.name).min?.map fun keepName =>
      { key, keepName, groupTotal := (members.map columns.total).sum }
  else none

/-- `SELECT …, MIN(name) AS keep_name, SUM(total) AS group_total … HAVING COUNT(*) > 1`. -/
def duplicateGroups (columns : TotalColumns Row Key Name) (table : List Row) :
    List (Group Key Name) :=
  (table.map columns.key).eraseDups.filterMap (duplicateGroup columns table)

/-- `_collapse_sum_total`: the number it returns and the rows it leaves. -/
def collapseSumTotal (columns : TotalColumns Row Key Name) (table : List Row) : Nat × List Row :=
  let spurious (row : Row) (group : Group Key Name) : Bool :=
    columns.key row = group.key ∧ columns.name row ≠ group.keepName
  let survives (row : Row) (group : Group Key Name) : Bool := columns.name row = group.keepName
  let dupes := joinCount spurious table (duplicateGroups columns table)
  if dupes ≠ 0 then
    let summed := updateJoined survives (fun row group => columns.withTotal row group.groupTotal)
      table (duplicateGroups columns table)
    (dupes, deleteJoined spurious summed (duplicateGroups columns summed))
  else (dupes, table)

end Collapse

/-- A row of `tabFlock Attendance Record`. -/
structure AttendanceRecord (Text : Type) where
  name : Nat
  event : Text
  attendeeRef : Text
  clientReqId : Option Text
deriving DecidableEq, Repr

/-- A row of `tabEvent Attendance Summary`. -/
structure AttendanceSummary (Text : Type) where
  name : Nat
  branch : Text
  event : Text
  total : Nat
deriving DecidableEq, Repr

/-- The tables of a site, the unique indexes that they have, and the log of `flock_os`. -/
structure Tables (Text : Type) where
  records : List (AttendanceRecord Text)
  summaries : List (AttendanceSummary Text)
  indexes : List (String × String) := []
  log : List String := []
deriving DecidableEq, Repr

section Migration

variable {Text : Type} [DecidableEq Text]

/-- The key ``(`event`, `attendee_ref`)``. -/
def AttendanceRecord.attendance (record : AttendanceRecord Text) : Text × Text :=
  (record.event, record.attendeeRef)

/-- The key ``(`event`, `attendee_ref`, `client_req_id`)`` of a record that has a request; a unique
index takes any number of rows with a null. -/
def AttendanceRecord.request (record : AttendanceRecord Text) : Option (Text × Text × Text) :=
  record.clientReqId.map fun clientReqId => (record.event, record.attendeeRef, clientReqId)

/-- The key ``(`branch`, `event`)`` and the total. -/
def AttendanceSummary.columns : TotalColumns (AttendanceSummary Text) (Text × Text) Nat where
  key summary := (summary.branch, summary.event)
  name summary := summary.name
  total summary := summary.total
  withTotal summary total := { summary with total }
  key_withTotal _ _ := rfl
  name_withTotal _ _ := rfl
  withTotal_total _ := rfl

/-- An entry of `INDEXES`, with its strategy in `DEDUP` and what the index demands. -/
structure UniqueIndex (Text : Type) where
  doctype : String
  indexName : String
  collapse : Option (Tables Text → Nat × Tables Text)
  accepts : Tables Text → Bool

/-- `"keep_min_name"` for `unique_event_attendee_ref`. -/
def keepMinName (tables : Tables Text) : Nat × Tables Text :=
  let (dupes, records) :=
    collapseKeepMinName AttendanceRecord.attendance AttendanceRecord.name tables.records
  (dupes, { tables with records })

/-- `"sum_total"` for `unique_branch_event`. -/
def sumTotal (tables : Tables Text) : Nat × Tables Text :=
  let (dupes, summaries) := collapseSumTotal AttendanceSummary.columns tables.summaries
  (dupes, { tables with summaries })

/-- `unique_event_attendee_ref`. -/
def uniqueEventAttendeeRef : UniqueIndex Text where
  doctype := "Flock Attendance Record"
  indexName := "unique_event_attendee_ref"
  collapse := some keepMinName
  accepts tables := (tables.records.map (·.attendance)).Nodup

/-- `unique_event_attendee_req`, which has no strategy. -/
def uniqueEventAttendeeReq : UniqueIndex Text where
  doctype := "Flock Attendance Record"
  indexName := "unique_event_attendee_req"
  collapse := none
  accepts tables := (tables.records.filterMap (·.request)).Nodup

/-- `unique_branch_event`. -/
def uniqueBranchEvent : UniqueIndex Text where
  doctype := "Event Attendance Summary"
  indexName := "unique_branch_event"
  collapse := some sumTotal
  accepts tables := (tables.summaries.map AttendanceSummary.columns.key).Nodup

/-- `INDEXES`. -/
def indexes : List (UniqueIndex Text) :=
  [uniqueEventAttendeeRef, uniqueEventAttendeeReq, uniqueBranchEvent]

/-- The line that tells of collapsed rows. -/
def collapsedLine (collapsed : Nat) (table indexName : String) : String :=
  s!"flock_os add_attendance_indexes: collapsed {collapsed} duplicate row(s) on" ++
    s!" `{table}` before adding UNIQUE index `{indexName}` (FLO-457 dirty-DB recovery)"

/-- The table that an index is on, and its name. -/
def UniqueIndex.place (index : UniqueIndex Text) : String × String :=
  (s!"tab{index.doctype}", index.indexName)

/-- The collapse before an index is added. -/
def collapseDuplicates (index : UniqueIndex Text) : Exec Error (Tables Text) Unit := do
  if let some collapse := index.collapse then
    let (collapsed, tables) := collapse (← get)
    set tables
    if collapsed ≠ 0 then
      let line := collapsedLine collapsed index.place.1 index.indexName
      modify fun tables => { tables with log := tables.log ++ [line] }

/-- `ALTER TABLE … ADD UNIQUE INDEX …`: a table with duplicate keys does not take the index. -/
def alterTable (index : UniqueIndex Text) : Exec Error (Tables Text) Unit := do
  if index.accepts (← get) then
    modify fun tables => { tables with indexes := tables.indexes ++ [index.place] }
  else throw .duplicateEntry

/-- One turn of the loop of `execute`. -/
def addIndex (index : UniqueIndex Text) : Exec Error (Tables Text) Unit := do
  if index.place ∈ (← get).indexes then return
  collapseDuplicates index
  alterTable index

/-- `execute`. -/
def execute : Exec Error (Tables Text) Unit := indexes.forM addIndex

end Migration

end FlockOs.AttendanceIndexes
