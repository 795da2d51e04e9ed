import FlockOs.Verif.FinalizeRetry
import FlockOs.Verif.GroupScope
import Mathlib.Logic.Relation

/-!
# Attendance rows on the group axis

`bulk_insert` lists no `group` field, so every row it writes has a NULL group, and the query
hook lets it through for every user with a member. The rows stay inside the group axis exactly
when the user was entitled to all of them from the start.
-/

namespace FlockOs.Directory

open Lib Permissions Reporting EngagementFrappe

/-- The parent that a group names. -/
def ParentOf (tables : Tables) (child parent : String) : Prop :=
  ∃ group ∈ tables.groups.rows, group.name = child ∧ group.parentGroup = some parent

/-- A member leads a group, as its accountable leader or on its roster. -/
def LeaderOf (tables : Tables) (member group : String) : Prop :=
  (∃ row ∈ tables.groups.rows, row.name = group ∧ row.leader = some member) ∨
    ∃ row ∈ tables.roster,
      row.group = group ∧ row.member = member ∧ row.role ∈ leaderRosterRoles

/-- A member is entitled to a row: it leads the gathering's group or a group above it, is on
that group's roster, or is the row's member. -/
def Entitled (tables : Tables) (groupOf : String → String) (member : String)
    (item : AttendanceItem) : Prop :=
  (∃ above, Relation.ReflTransGen (ParentOf tables)
      (groupOf ((truthy item.gathering).getD item.event)) above ∧ LeaderOf tables member above) ∨
    (∃ row ∈ tables.roster, row.member = member ∧
      row.group = groupOf ((truthy item.gathering).getD item.event)) ∨
    item.member = some member

/-- A stored item as a row of `tabFlock Attendance Record`. -/
def attendanceRow (name : String) (item : AttendanceItem) : Row where
  name := name
  column column := ((insertedFields item).lookup column).join

/-- Persist batches one after the other. -/
def persistBatches (batches : List (List AttendanceItem)) : Request Unit :=
  batches.forM fun items => do
    let _ ← bulkInsert items
    pure ()

/-- A batch that is persisted adds its items to the table. -/
theorem bulkInsert_ok {items : List AttendanceItem} {start final : Planned Site} {written : Nat}
    (returned : bulkInsert items start = .ok written final) :
    final.state.working.attendance = start.state.working.attendance ++ items.map stored := by
  rw [bulkInsert] at returned
  split at returned
  · rename_i empty
    cases returned
    rw [List.isEmpty_iff.mp empty, List.map_nil, List.append_nil]
  · obtain ⟨_, next, inserted, rest⟩ := Exec.bind_ok returned
    cases rest
    rw [call, Exec.attempt] at inserted
    split at inserted
    · cases inserted
    · rcases insertStatement_run start.state (items.map stored) with ran | ⟨raised, ran⟩
      · rw [ran] at inserted
        cases inserted
        rfl
      · rw [ran] at inserted
        cases inserted

/-- The table after a sequence of persisted batches. -/
theorem persistBatches_ok : ∀ {batches : List (List AttendanceItem)} {start final : Planned Site},
    persistBatches batches start = .ok () final →
      final.state.working.attendance =
        start.state.working.attendance ++ batches.flatten.map stored
  | [], _, _, persisted => by
    cases persisted
    rw [List.flatten_nil, List.map_nil, List.append_nil]
  | items :: rest, start, final, persisted => by
    obtain ⟨_, middle, first, later⟩ := Exec.bind_ok persisted
    obtain ⟨_, next, inserted, done⟩ := Exec.bind_ok first
    cases done
    rw [persistBatches_ok later, bulkInsert_ok inserted, List.flatten_cons, List.map_append,
      List.append_assoc]

/-- Entitlement reads no column that is written differently from the item. -/
theorem entitled_stored {tables : Tables} {groupOf : String → String} {member : String}
    {item : AttendanceItem} :
    Entitled tables groupOf member (stored item) ↔ Entitled tables groupOf member item := Iff.rfl

/-- Every attendance row is selected for a user with a member. -/
theorem attendance_selected {tables : Tables} {session : String} {user : Option String}
    {own : String} (narrowed : isBypassUser (tables.getRoles ((truthy user).getD session)) = false)
    (linked : tables.resolveMemberForUser ((truthy user).getD session) = some own)
    (name : String) (item : AttendanceItem) :
    tables.selects (getGroupScopedConditions (frappePermissionGateway tables) session user
      (some "Flock Attendance Record")) (attendanceRow name item) = true := by
  have listed : "Flock Attendance Record" ∈ scopedDoctypes := by decide
  rw [hook_narrowed listed narrowed, resolve_linked narrowed linked,
    selects_linked (resolved_nonempty linked)]
  exact .inl rfl

/-- The persisted rows stay inside the group axis of a user exactly when the user's member is
entitled to every item of the batches. -/
theorem attendance_inside_iff (tables : Tables) (session : String) (user : Option String)
    (own : String) (groupOf : String → String) (batches : List (List AttendanceItem))
    (start final : Planned Site)
    (narrowed : isBypassUser (tables.getRoles ((truthy user).getD session)) = false)
    (linked : tables.resolveMemberForUser ((truthy user).getD session) = some own)
    (fresh : start.state.working.attendance = [])
    (persisted : persistBatches batches start = .ok () final) :
    (∀ row ∈ final.state.working.attendance, ∀ name,
      tables.selects (getGroupScopedConditions (frappePermissionGateway tables) session user
        (some "Flock Attendance Record")) (attendanceRow name row) = true →
      Entitled tables groupOf own row) ↔
    ∀ batch ∈ batches, ∀ item ∈ batch, Entitled tables groupOf own item := by
  rw [persistBatches_ok persisted, fresh, List.nil_append]
  constructor
  · intro inside batch given item member
    have written : stored item ∈ batches.flatten.map stored :=
      List.mem_map_of_mem (List.mem_flatten.mpr ⟨batch, given, member⟩)
    have seen := attendance_selected narrowed linked "" (stored item)
    exact entitled_stored.mp (inside _ written "" seen)
  · intro entitled row written name _
    have ⟨item, member, same⟩ := List.mem_map.mp written
    have ⟨batch, given, inBatch⟩ := List.mem_flatten.mp member
    rw [← same]
    exact entitled_stored.mpr (entitled batch given item inBatch)

/-- Ann's attendance at a gathering of the youth group. -/
def annsAttendance : AttendanceItem where
  event := "GATH-00001"
  attendeeRef := "MEM-00001"
  branch := "North"
  gathering := some "GATH-00001"
  member := some "MEM-00001"

/-- The site after Ann's batch. -/
def annsSite : Planned Site :=
  ⟨[], { working := { attendance := [stored annsAttendance] } }⟩

/-- Ann is entitled to her own row. -/
theorem ann_inside :
    (∀ row ∈ annsSite.state.working.attendance, ∀ name,
      northTables.selects (getGroupScopedConditions (frappePermissionGateway northTables) ""
        (some "ann@example.org") (some "Flock Attendance Record")) (attendanceRow name row) = true →
      Entitled northTables (fun _ => "North-Youth") "MEM-00001" row) ↔
    ∀ batch ∈ [[annsAttendance]], ∀ item ∈ batch,
      Entitled northTables (fun _ => "North-Youth") "MEM-00001" item :=
  attendance_inside_iff northTables "" (some "ann@example.org") "MEM-00001"
    (fun _ => "North-Youth") [[annsAttendance]] ⟨[], {}⟩ annsSite (by decide) (by decide) rfl rfl

/-- Bob, who leads another group, has Ann's row on his list. -/
theorem bob_lists_anns_attendance :
    persistBatches [[annsAttendance]] ⟨[], {}⟩ = .ok () annsSite ∧
      isBypassUser (northTables.getRoles "bob@example.org") = false ∧
      northTables.resolveMemberForUser "bob@example.org" = some "MEM-00002" ∧
      ∃ row ∈ annsSite.state.working.attendance,
        northTables.selects (getGroupScopedConditions (frappePermissionGateway northTables) ""
          (some "bob@example.org") (some "Flock Attendance Record")) (attendanceRow "1" row) =
            true ∧
        ¬Entitled northTables (fun _ => "North-Youth") "MEM-00002" row := by
  refine ⟨rfl, by decide, by decide, stored annsAttendance, List.mem_singleton_self _, by decide, ?_⟩
  have rootless : ∀ group ∈ northTables.groups.rows, group.parentGroup = none := by decide
  have notLed : ¬LeaderOf northTables "MEM-00002" "North-Youth" := by
    rw [LeaderOf]
    decide
  rintro (⟨above, path, leads⟩ | ⟨row, member, _⟩ | own)
  · rcases path.cases_head with same | ⟨parent, ⟨group, inside, _, named⟩, _⟩
    · subst same
      exact notLed leads
    · rw [rootless group inside] at named
      cases named
  · cases member
  · revert own
    decide

end FlockOs.Directory
