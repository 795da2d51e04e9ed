import FlockOs.Directory

/-!
# Leaders to notify

The reads of `FrappeNotificationFanoutGateway` that find the leaders of branches and groups.
-/

namespace FlockOs.Notifications

open Lib Permissions Directory

/-- The filters of a query on a column: a list that is empty does not filter. -/
def passes (filters : List String) (column : Option String) : Bool :=
  filters.isEmpty || column.any fun value => filters.contains value

/-- The accountable leaders of the groups that pass the filters, if there is one. -/
def accountableLeaders (tables : Tables) (filtersBranch filtersGroup : List String) :
    List String :=
  if filtersBranch.isEmpty && filtersGroup.isEmpty then []
  else (tables.groups.rows.filter fun group =>
    passes filtersBranch group.branch && passes filtersGroup (some group.name)).filterMap
      fun group => truthy group.leader

/-- The members with a leading role and an edge in force in the groups that pass the filters. -/
def activeRosterLeaders (tables : Tables) (filtersBranch filtersGroup : List String) :
    List String :=
  (tables.roster.filter fun row =>
    leaderRosterRoles.contains row.role && decide (row.status = .active) &&
      passes filtersBranch row.branch && passes filtersGroup (some row.group)).filterMap
        fun row => truthy (some row.member)

/-- `_leaders`. -/
def leaders (tables : Tables) (filtersBranch filtersGroup : List String) : List String :=
  firstPerKey id (accountableLeaders tables filtersBranch filtersGroup ++
    activeRosterLeaders tables filtersBranch filtersGroup)

/-- `leaders_in_branches`. -/
def leadersInBranches (tables : Tables) (branches : List String) : List String :=
  leaders tables branches []

/-- `leaders_in_groups`. -/
def leadersInGroups (tables : Tables) (groups : List String) : List String :=
  leaders tables [] groups

end FlockOs.Notifications
