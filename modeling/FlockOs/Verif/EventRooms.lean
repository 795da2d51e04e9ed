import FlockOs.Lib.Exec
import FlockOs.Lib.Text
import FlockOs.Realtime
import Mathlib.Data.List.Dedup
import Mathlib.Data.List.TakeWhile

/-!
# The rooms of a gathering

What the tail of the name of a room can be, and that no shorter id stands in front of a tail in the
name of a room: so the gate reads back the gathering that the projector wrote, whatever colons and
segments its id holds.
-/

namespace FlockOs.Realtime

open Lib Permissions

/-- A prefix is taken from a text that begins with it. -/
theorem isPrefixOf?_append (start rest : List Char) :
    start.isPrefixOf? (start ++ rest) = some rest :=
  List.isPrefixOf?_eq_some_iff_append_eq.mpr rfl

/-- What a tail that matches is. -/
theorem of_roomTail {text : List Char} {shard : Option Nat} (matched : roomTail text = some shard) :
    ∃ front digits last, atEnd last = true ∧ text = front ++ digits ++ last ∧
      (front = ":broadcast".toList ∧ digits = [] ∨
        front = ":shard:".toList ∧ ∀ char ∈ digits, isDecimal char = true) := by
  rw [roomTail] at matched
  split at matched
  · next rest found =>
    split at matched
    · next ends =>
      have whole := List.isPrefixOf?_eq_some_iff_append_eq.mp found
      refine ⟨_, [], rest, ends, ?_, .inl ⟨rfl, rfl⟩⟩
      rw [List.append_nil]
      exact whole.symm
    · cases matched
  · obtain ⟨number, found, _⟩ := Option.map_eq_some_iff.mp matched
    rw [shardTail] at found
    split at found
    · cases found
    · next rest front =>
      dsimp only at found
      split at found
      · next both =>
        have whole := List.isPrefixOf?_eq_some_iff_append_eq.mp front
        refine ⟨_, rest.takeWhile isDecimal, rest.dropWhile isDecimal, both.2, ?_,
          .inr ⟨rfl, fun char there => List.mem_takeWhile_imp there⟩⟩
        rw [List.append_assoc, List.takeWhile_append_dropWhile]
        exact whole.symm
      · cases found

/-- An end has no symbol but a newline. -/
theorem eq_newline_of_atEnd {text : List Char} {char : Char} (ends : atEnd text = true)
    (there : char ∈ text) : char = '\n' := by
  cases of_decide_eq_true ends with
  | inl empty => rw [empty] at there; cases there
  | inr line => rw [line] at there; exact List.mem_singleton.mp there

/-- The value of a digit. -/
theorem digitValue_of_isDigit {char : Char} (digit : char.isDigit = true) :
    digitValue char = some (char.toNat - '0'.toNat) := by
  have bounds : 0x30 ≤ char.toNat ∧ char.toNat < 0x30 + 10 := by
    obtain ⟨low, high⟩ := Char.isDigit_iff_toNat.mp digit
    exact ⟨low, Nat.lt_succ_of_le high⟩
  have first : decimalZeros.find? (fun digit => digit ≤ char.toNat ∧ char.toNat < digit + 10) =
      some 0x30 := List.find?_cons_of_pos (decide_eq_true bounds)
  rw [digitValue, first]
  rfl

/-- The digits of a number are decimal digits. -/
theorem isDecimal_of_mem_toDigits {number : Nat} {char : Char}
    (there : char ∈ Nat.toDigits 10 number) : isDecimal char = true := by
  rw [isDecimal, digitValue_of_isDigit (Nat.isDigit_of_mem_toDigits (by decide) (by decide) there)]
  rfl

/-- Digits are read as the number that they stand for. -/
theorem foldl_digits : ∀ (digits : List Char) (value : Nat),
    (∀ char ∈ digits, char.isDigit = true) →
      digits.foldl (fun value digit => 10 * value + (digitValue digit).getD 0) value =
        Nat.ofDigitChars 10 digits value
  | [], _, _ => Nat.ofDigitChars_nil.symm
  | digit :: rest, value, all => by
    rw [List.foldl_cons, digitValue_of_isDigit (all digit List.mem_cons_self),
      foldl_digits rest _ fun char there => all char (List.mem_cons_of_mem _ there),
      Nat.ofDigitChars_cons]
    rfl

/-- The digits of a number are read as the number. -/
theorem intOfDigits_toDigits (number : Nat) : intOfDigits (Nat.toDigits 10 number) = number := by
  have digits : ∀ char ∈ Nat.toDigits 10 number, char.isDigit = true := fun _ there =>
    Nat.isDigit_of_mem_toDigits (by decide) (by decide) there
  rw [intOfDigits, foldl_digits _ 0 digits, Nat.ofDigitChars_ten_toDigits]

/-- The tail of the broadcast room. -/
theorem roomTail_broadcast : roomTail ":broadcast".toList = some none := by decide

/-- The tail of the room of a shard. -/
theorem roomTail_shard (shard : Nat) :
    roomTail (":shard:".toList ++ Nat.toDigits 10 shard) = some (some shard) := by
  have other : (":" ++ broadcastSegment).toList.isPrefixOf?
      (":shard:".toList ++ Nat.toDigits 10 shard) = none := rfl
  have all : ∀ char ∈ Nat.toDigits 10 shard, isDecimal char = true := fun _ there =>
    isDecimal_of_mem_toDigits there
  have front : (":" ++ shardSegment ++ ":").toList.isPrefixOf?
      (":shard:".toList ++ Nat.toDigits 10 shard) = some (Nat.toDigits 10 shard) :=
    isPrefixOf?_append ..
  rw [roomTail, other, shardTail, front]
  dsimp only
  rw [List.takeWhile_eq_self_iff.mpr all, List.dropWhile_eq_nil_iff.mpr all, intOfDigits_toDigits,
    if_pos ⟨Nat.toDigits_ne_nil, rfl⟩]
  rfl

/-- The last symbol of a tail that matches, and the tail where it is no newline. -/
theorem last_of_roomTail {text : List Char} {shard : Option Nat} {char : Char}
    (matched : roomTail text = some shard) (last : text.getLast? = some char) :
    char = '\n' ∨ (char = 't' ∧ text = ":broadcast".toList) ∨
      ((isDecimal char = true ∨ char = ':') ∧ ∃ digits,
        (∀ digit ∈ digits, isDecimal digit = true) ∧ text = ":shard:".toList ++ digits) := by
  obtain ⟨front, digits, line, ends, whole, either⟩ := of_roomTail matched
  cases line with
  | cons head tail =>
    refine .inl (eq_newline_of_atEnd ends (List.mem_of_getLast? ?_))
    rw [whole, List.getLast?_append_of_ne_nil _ (List.cons_ne_nil head tail)] at last
    exact last
  | nil =>
    refine .inr ?_
    rw [List.append_nil] at whole
    cases either with
    | inl broadcast =>
      rw [broadcast.1, broadcast.2, List.append_nil] at whole
      refine .inl ⟨?_, whole⟩
      rw [whole] at last
      exact (Option.some.inj last).symm
    | inr numbered =>
      rw [numbered.1] at whole
      refine .inr ⟨?_, digits, numbered.2, whole⟩
      cases digits with
      | nil =>
        rw [whole] at last
        exact .inr (Option.some.inj last).symm
      | cons digit rest =>
        rw [whole, List.getLast?_append_of_ne_nil _ (List.cons_ne_nil digit rest)] at last
        exact .inl (numbered.2 char (List.mem_of_getLast? last))

/-- No tail begins before that of the broadcast room. -/
theorem roomTail_before_broadcast {behind : List Char} (nonempty : behind ≠ []) :
    roomTail (behind ++ ":broadcast".toList) = none := by
  cases matched : roomTail (behind ++ ":broadcast".toList) with
  | none => rfl
  | some shard =>
    have last : (behind ++ ":broadcast".toList).getLast? = some 't' :=
      List.getLast?_append_of_ne_nil _ (by decide)
    rcases last_of_roomTail matched last with line | ⟨_, whole⟩ | ⟨digit, _⟩
    · exact absurd line (by decide)
    · exact absurd (List.append_left_eq_self.mp whole) nonempty
    · exact absurd digit (by decide)

/-- No tail begins before that of the room of a shard. -/
theorem roomTail_before_shard {behind : List Char} (nonempty : behind ≠ []) (shard : Nat) :
    roomTail (behind ++ (":shard:".toList ++ Nat.toDigits 10 shard)) = none := by
  cases matched : roomTail (behind ++ (":shard:".toList ++ Nat.toDigits 10 shard)) with
  | none => rfl
  | some found =>
    obtain ⟨digit, ends⟩ : ∃ digit, (Nat.toDigits 10 shard).getLast? = some digit :=
      ⟨_, List.getLast?_eq_some_getLast Nat.toDigits_ne_nil⟩
    have decimal := isDecimal_of_mem_toDigits (List.mem_of_getLast? ends)
    have last : (behind ++ (":shard:".toList ++ Nat.toDigits 10 shard)).getLast? = some digit := by
      rw [← List.append_assoc, List.getLast?_append_of_ne_nil _ Nat.toDigits_ne_nil, ends]
    rcases last_of_roomTail matched last with line | ⟨letter, _⟩ | ⟨_, digits, all, whole⟩
    · rw [line] at decimal
      exact absurd decimal (by decide)
    · rw [letter] at decimal
      exact absurd decimal (by decide)
    · -- Both sides end in digits behind a colon, so the colons are the same one.
      have colon (some : List Char) (every : ∀ char ∈ some, isDecimal char = true) :
          ':' ∉ some := fun there => absurd (every ':' there) (by decide)
      have split : (behind ++ ":shard".toList) ++ ':' :: Nat.toDigits 10 shard =
          ":shard".toList ++ ':' :: digits := by
        rw [List.append_assoc]
        exact whole
      have same := (split_last split
        (colon _ fun _ there => isDecimal_of_mem_toDigits there) (colon _ all)).1
      exact absurd (List.append_left_eq_self.mp same) nonempty

/-- The text of a broadcast room. -/
theorem toList_broadcastChannel (eventId : String) :
    (broadcastChannel eventId).toList =
      (eventRoomPrefix ++ ":").toList ++ (eventId.toList ++ ":broadcast".toList) := by
  rw [broadcastChannel, String.append_assoc, String.toList_append, String.toList_append,
    List.append_assoc]
  rfl

/-- The text of the room of a shard. -/
theorem toList_shardChannel (eventId : String) (shard : Nat) :
    (shardChannel eventId shard).toList =
      (eventRoomPrefix ++ ":").toList ++
        (eventId.toList ++ (":shard:".toList ++ Nat.toDigits 10 shard)) := by
  have digits : (toString shard).toList = Nat.toDigits 10 shard := String.toList_ofList
  have segment : ":shard:".toList = ":".toList ++ shardSegment.toList ++ ":".toList := rfl
  simp only [shardChannel, String.toList_append, digits, segment, List.append_assoc]

/-- What the gate reads where the id in front of a tail is not empty, has no newline, and has no
tail begin inside it. -/
theorem parseEventRoom_of_tail {room eventId : String} {tail : List Char} {shard : Option Nat}
    (text : room.toList = (eventRoomPrefix ++ ":").toList ++ (eventId.toList ++ tail))
    (nonempty : eventId ≠ "") (line : '\n' ∉ eventId.toList)
    (matched : roomTail tail = some shard)
    (before : ∀ behind, behind ≠ [] → roomTail (behind ++ tail) = none) :
    parseEventRoom room = some (match shard with
      | none => ⟨eventId, true, none⟩
      | some shard => ⟨eventId, false, some shard⟩) := by
  have found : lazyMatch (fun char => char ≠ '\n') roomTail (eventId.toList ++ tail) =
      some (eventId.toList, shard) := by
    apply lazyMatch_append
    · exact fun empty => nonempty (String.toList_eq_nil_iff.mp empty)
    · exact fun char there => decide_eq_true fun newline => line (newline ▸ there)
    · exact matched
    · exact fun _ behind _ _ last => before behind last
  rw [parseEventRoom, text, isPrefixOf?_append]
  dsimp only
  rw [found]
  cases shard <;> simp only [Option.map_some, String.ofList_toList]

/-- The gate reads the gathering back from its broadcast room. -/
theorem parse_broadcastChannel {eventId : String} (nonempty : eventId ≠ "")
    (line : '\n' ∉ eventId.toList) :
    parseEventRoom (broadcastChannel eventId) = some ⟨eventId, true, none⟩ :=
  parseEventRoom_of_tail (toList_broadcastChannel eventId) nonempty line roomTail_broadcast
    fun _ => roomTail_before_broadcast

/-- The gate reads the gathering and the shard back from the room of a shard. -/
theorem parse_shardChannel {eventId : String} (nonempty : eventId ≠ "")
    (line : '\n' ∉ eventId.toList) (shard : Nat) :
    parseEventRoom (shardChannel eventId shard) = some ⟨eventId, false, some shard⟩ :=
  parseEventRoom_of_tail (toList_shardChannel eventId shard) nonempty line (roomTail_shard shard)
    fun _ last => roomTail_before_shard last shard

/-- The last symbol of the text of a broadcast room. -/
theorem getLast?_broadcastChannel (eventId : String) :
    (broadcastChannel eventId).toList.getLast? = some 't' := by
  rw [toList_broadcastChannel, ← List.append_assoc]
  exact List.getLast?_append_of_ne_nil _ (by decide)

/-- No gathering is read from a broadcast room whose id has a newline. -/
theorem parse_broadcastChannel_newline {eventId : String} (line : '\n' ∈ eventId.toList) :
    parseEventRoom (broadcastChannel eventId) = none := by
  have last := getLast?_broadcastChannel eventId
  rw [parseEventRoom, toList_broadcastChannel, isPrefixOf?_append]
  rw [toList_broadcastChannel] at last
  dsimp only
  cases found : lazyMatch (fun char => char ≠ '\n') roomTail
      (eventId.toList ++ ":broadcast".toList) with
  | none => rfl
  | some reading =>
    obtain ⟨_, allowed, rest, whole, matched⟩ :=
      of_lazyMatch (show _ = some (reading.1, reading.2) from found)
    have inside : '\n' ∈ reading.1 ++ rest := whole ▸ List.mem_append_left _ line
    have behind : '\n' ∈ rest := by
      cases List.mem_append.mp inside with
      | inl early => exact absurd rfl (of_decide_eq_true (allowed _ early))
      | inr late => exact late
    have ends : rest.getLast? = some 't' := by
      rw [whole, ← List.append_assoc, List.getLast?_append_of_ne_nil _ (List.ne_nil_of_mem behind)]
        at last
      exact last
    rcases last_of_roomTail matched ends with newline | ⟨_, broadcast⟩ | ⟨decimal, _⟩
    · exact absurd newline (by decide)
    · rw [broadcast] at behind
      exact absurd behind (by decide)
    · exact absurd decimal (by decide)

/-- Broadcast rooms of two ids differ. -/
theorem broadcastChannel_injective {eventId otherId : String}
    (same : broadcastChannel eventId = broadcastChannel otherId) : eventId = otherId := by
  have text := congrArg String.toList same
  rw [toList_broadcastChannel, toList_broadcastChannel] at text
  exact String.toList_inj.mp (List.append_cancel_right (List.append_cancel_left text))

/-- A broadcast room is not the room of a shard. -/
theorem broadcastChannel_ne_shardChannel (eventId otherId : String) (shard : Nat) :
    broadcastChannel eventId ≠ shardChannel otherId shard := by
  intro same
  have last := getLast?_broadcastChannel eventId
  rw [same, toList_shardChannel, ← List.append_assoc, ← List.append_assoc,
    List.getLast?_append_of_ne_nil _ Nat.toDigits_ne_nil] at last
  exact absurd (isDecimal_of_mem_toDigits (List.mem_of_getLast? last)) (by decide)

section Published

variable {floatText : Rat → String} {shardCount : Nat} {event : DomainEvent}
  {emissions : List RealtimeEmission} {emission : RealtimeEmission} {eventId : String}

/-- A room of a gathering with some number of shards. -/
def RoomOf (eventId : String) (shardCount : Nat) (room : String) : Prop :=
  room = broadcastChannel eventId ∨ ∃ shard < shardCount, room = shardChannel eventId shard

/-- A shard is one of the shards. -/
theorem shardFor_yields (shardCount : Nat) (attendeeRef : String) :
    Yields (· < shardCount) (shardFor attendeeRef shardCount) := by
  rw [shardFor]
  split
  · exact .error _
  · next positive => exact .ok (Nat.mod_lt _ (Nat.pos_of_ne_zero positive))

/-- The shards of some attendees are among the shards. -/
theorem shardsFor_yields (shardCount : Nat) (refs : List String) :
    Yields (fun shards => ∀ shard ∈ shards, shard < shardCount) (shardsFor refs shardCount) := by
  show Yields _ (Except.map sortedSet _)
  intro shards hashed shard there
  cases each : refs.mapM fun attendeeRef => shardFor attendeeRef shardCount with
  | error raised =>
    rw [each] at hashed
    cases hashed
  | ok numbers =>
    rw [each] at hashed
    cases hashed
    rw [sortedSet, List.mem_insertionSort, List.mem_dedup] at there
    exact Yields.mapM (shardFor_yields shardCount) refs numbers each shard there

/-- Every emission goes to a room of the gathering. -/
def InRooms (eventId : String) (shardCount : Nat) (emissions : List RealtimeEmission) : Prop :=
  ∀ emission ∈ emissions, RoomOf eventId shardCount emission.room

/-- An emission to the broadcast room. -/
theorem InRooms.broadcast (realtimeEvent eventId : String) (message : List (String × Value)) :
    InRooms eventId shardCount [⟨realtimeEvent, broadcastChannel eventId, message⟩] := by
  intro emission there
  rw [List.mem_singleton.mp there]
  exact .inl rfl

/-- Emissions to some of the shards. -/
theorem InRooms.toShards (realtimeEvent eventId : String) (message : List (String × Value))
    {shards : List Nat} (bounded : ∀ shard ∈ shards, shard < shardCount) :
    InRooms eventId shardCount (toShards realtimeEvent eventId message shards) := by
  intro emission there
  obtain ⟨shard, listed, same⟩ := List.mem_map.mp there
  rw [← same]
  exact .inr ⟨shard, bounded shard listed, rfl⟩

/-- Emissions after one another. -/
theorem InRooms.append {first second : List RealtimeEmission}
    (front : InRooms eventId shardCount first) (back : InRooms eventId shardCount second) :
    InRooms eventId shardCount (first ++ second) :=
  List.forall_mem_append.mpr ⟨front, back⟩

variable (known : gatheringId floatText event = some eventId)
include known

/-- A check-in goes to the shard of its member and to the broadcast room. -/
theorem routeSingleAttendance_yields :
    Yields (InRooms eventId shardCount) (routeSingleAttendance floatText shardCount event) := by
  rw [routeSingleAttendance, known]
  have counted : InRooms eventId shardCount
      [⟨rtAttendanceCount, broadcastChannel eventId, presenceMessage event 1⟩] :=
    InRooms.broadcast _ _ _
  dsimp only
  generalize orElse (get event.payload "member") (get event.payload "attendee_ref") = reference
  generalize (if isTrue reference then textOf floatText reference else "") = member
  split
  · exact .ok counted
  · refine (shardFor_yields shardCount member).bind fun shard bound =>
      .ok (InRooms.append (InRooms.toShards _ _ _ fun other there => ?_) counted)
    rw [List.mem_singleton.mp there]
    exact bound

/-- A batch goes to the shards of its attendees, or to all of them, and to the broadcast room. -/
theorem routeBulkAttendance_yields :
    Yields (InRooms eventId shardCount) (routeBulkAttendance floatText shardCount event) := by
  rw [routeBulkAttendance, known]
  refine .bind (fun _ _ => trivial : Yields (fun _ => True) _) fun count _ => ?_
  have published (shards : List Nat) (bounded : ∀ shard ∈ shards, shard < shardCount) :=
    InRooms.append (InRooms.toShards rtAttendancePresence eventId
      [("gathering", .str eventId), ("batch_id", get event.payload "batch_id")] bounded)
      (InRooms.broadcast rtAttendanceCount eventId (presenceMessage event count))
  dsimp only
  split
  · exact .ok (published _ fun shard there => List.mem_range.mp there)
  · exact (shardsFor_yields shardCount _).bind fun shards bounded => .ok (published shards bounded)

/-- The life of a session goes to every shard and to the broadcast room. -/
theorem routeGameLifecycle_yields :
    Yields (InRooms eventId shardCount) (routeGameLifecycle floatText shardCount event) := by
  rw [routeGameLifecycle, known]
  exact .ok (InRooms.append (InRooms.toShards _ _ _ fun _ there => List.mem_range.mp there)
    (InRooms.broadcast _ _ _))

/-- A notice goes to the broadcast room. -/
theorem routeBroadcastOnly_yields (realtimeEvent : String) :
    Yields (InRooms eventId shardCount) (routeBroadcastOnly floatText event realtimeEvent) := by
  rw [routeBroadcastOnly, known]
  exact .ok (InRooms.broadcast _ _ _)

/-- Whatever the projector publishes about a gathering goes to a room of it. -/
theorem project_yields :
    Yields (InRooms eventId shardCount) (project floatText shardCount event) := by
  rw [project]
  split
  · exact routeSingleAttendance_yields known
  split
  · exact routeBulkAttendance_yields known
  split
  · exact routeGameLifecycle_yields known
  split
  · exact routeBroadcastOnly_yields known _
  · exact .ok fun _ there => nomatch there

end Published

section Gate

variable {branchForGathering : String → Option String}

/-- Who may reach the rows of a branch. -/
theorem canAccessBranch_iff {branch : String} {allowed roles : List String} :
    canAccessBranch (some branch) allowed roles = true ↔
      anyRole roles globalBranchRoles = true ∨ branch = "" ∨ branch ∈ allowed := by
  rw [canAccessBranch]
  by_cases wide : anyRole roles globalBranchRoles = true
  · rw [if_pos wide]
    exact ⟨fun _ => .inl wide, fun _ => rfl⟩
  · rw [if_neg wide, or_iff_right wide]
    by_cases empty : branch = ""
    · rw [empty]
      exact ⟨fun _ => .inl rfl, fun _ => rfl⟩
    · rw [truthy_some empty, or_iff_right empty]
      exact List.contains_iff_mem

/-- A room that cannot be read is refused. -/
theorem refused_of_unparsed {room : String} (unread : parseEventRoom room = none) (user : String)
    (gateway : PermissionGateway) :
    eventRoomJoinAllowed room user gateway branchForGathering = false := by
  rw [eventRoomJoinAllowed, unread]

/-- A room of an unknown gathering is refused. -/
theorem refused_of_unknown {room : String} {ref : EventRoomRef}
    (read : parseEventRoom room = some ref) (unknown : branchForGathering ref.eventId = none)
    (user : String) (gateway : PermissionGateway) :
    eventRoomJoinAllowed room user gateway branchForGathering = false := by
  rw [eventRoomJoinAllowed, read]
  dsimp only
  rw [unknown]

/-- A room of a known gathering is gated by its branch. -/
theorem joinAllowed_of_known {room branch : String} {ref : EventRoomRef}
    (read : parseEventRoom room = some ref) (known : branchForGathering ref.eventId = some branch)
    (user : String) (gateway : PermissionGateway) :
    eventRoomJoinAllowed room user gateway branchForGathering =
      canAccessBranch (some branch) (gateway.listBranchUserPermissions user)
        (gateway.getUserRoles user) := by
  rw [eventRoomJoinAllowed, read]
  dsimp only
  rw [known]

/-- A user without a global role is let into a room of a gathering that has a branch of his. -/
theorem joinAllowed_iff {room user : String} {ref : EventRoomRef} {gateway : PermissionGateway}
    (filled : ∀ gathering, branchForGathering gathering ≠ some "")
    (plain : anyRole (gateway.getUserRoles user) globalBranchRoles = false)
    (read : parseEventRoom room = some ref) :
    eventRoomJoinAllowed room user gateway branchForGathering = true ↔
      ∃ branch, branchForGathering ref.eventId = some branch ∧
        branch ∈ gateway.listBranchUserPermissions user := by
  cases found : branchForGathering ref.eventId with
  | none =>
    rw [refused_of_unknown read found]
    constructor
    · exact fun allowed => (Bool.false_ne_true allowed).elim
    · exact fun ⟨_, known, _⟩ => nomatch known
  | some branch =>
    have set : branch ≠ "" := fun empty => filled ref.eventId (empty ▸ found)
    have narrow : ¬ anyRole (gateway.getUserRoles user) globalBranchRoles = true :=
      plain ▸ Bool.false_ne_true
    rw [joinAllowed_of_known read found, canAccessBranch_iff, or_iff_right narrow, or_iff_right set]
    constructor
    · exact fun allowed => ⟨branch, rfl, allowed⟩
    · intro ⟨other, same, allowed⟩
      cases same
      exact allowed

/-- An id that the names of rooms can carry. -/
def Readable (eventId : String) : Prop := eventId ≠ "" ∧ '\n' ∉ eventId.toList

/-- What the gate reads in a room of a gathering. -/
theorem RoomOf.parse {eventId room : String} {shardCount : Nat}
    (there : RoomOf eventId shardCount room) (readable : Readable eventId) :
    room = broadcastChannel eventId ∧ parseEventRoom room = some ⟨eventId, true, none⟩ ∨
      ∃ shard < shardCount, room = shardChannel eventId shard ∧
        parseEventRoom room = some ⟨eventId, false, some shard⟩ := by
  cases there with
  | inl same =>
    refine .inl ⟨same, ?_⟩
    rw [same]
    exact parse_broadcastChannel readable.1 readable.2
  | inr numbered =>
    obtain ⟨shard, bound, same⟩ := numbered
    refine .inr ⟨shard, bound, same, ?_⟩
    rw [same]
    exact parse_shardChannel readable.1 readable.2 shard

/-- The gate reads the gathering in a room of it. -/
theorem RoomOf.eventId_eq {eventId room : String} {shardCount : Nat}
    (there : RoomOf eventId shardCount room) (readable : Readable eventId) :
    ∃ ref, parseEventRoom room = some ref ∧ ref.eventId = eventId := by
  cases there.parse readable with
  | inl broadcast => exact ⟨_, broadcast.2, rfl⟩
  | inr numbered =>
    obtain ⟨_, _, _, read⟩ := numbered
    exact ⟨_, read, rfl⟩

/-- A room belongs to one gathering. -/
theorem RoomOf.unique {eventId otherId room : String} {shardCount otherCount : Nat}
    (there : RoomOf eventId shardCount room) (readable : Readable eventId)
    (other : RoomOf otherId otherCount room) (otherReadable : Readable otherId) :
    eventId = otherId := by
  obtain ⟨first, read, same⟩ := there.eventId_eq readable
  obtain ⟨second, again, twin⟩ := other.eventId_eq otherReadable
  rw [read] at again
  cases again
  exact same.symm.trans twin

end Gate

/-- The gate reads back each room that an event of a gathering is published to, gatherings share no
room, and a user without a global role is let in where the gathering has a branch of his; a room of
no known gathering is refused to everyone. -/
theorem published_rooms_gated (floatText : Rat → String)
    (branchForGathering : String → Option String)
    (filled : ∀ gathering, branchForGathering gathering ≠ some "") :
    (∀ event shardCount emissions eventId, gatheringId floatText event = some eventId →
      Readable eventId → project floatText shardCount event = .ok emissions →
      ∀ emission ∈ emissions, RoomOf eventId shardCount emission.room ∧
        (emission.room = broadcastChannel eventId ∧
            parseEventRoom emission.room = some ⟨eventId, true, none⟩ ∨
          ∃ shard < shardCount, emission.room = shardChannel eventId shard ∧
            parseEventRoom emission.room = some ⟨eventId, false, some shard⟩) ∧
        ∀ user gateway,
          anyRole (gateway.getUserRoles user) globalBranchRoles = false →
            (eventRoomJoinAllowed emission.room user gateway branchForGathering = true ↔
              ∃ branch, branchForGathering eventId = some branch ∧
                branch ∈ gateway.listBranchUserPermissions user)) ∧
    (∀ eventId otherId shardCount otherCount room other, Readable eventId → Readable otherId →
      eventId ≠ otherId → RoomOf eventId shardCount room → RoomOf otherId otherCount other →
        room ≠ other) ∧
    ∀ room user gateway,
      (∀ ref, parseEventRoom room = some ref → branchForGathering ref.eventId = none) →
        eventRoomJoinAllowed room user gateway branchForGathering = false := by
  refine ⟨?_, ?_, ?_⟩
  · intro event shardCount emissions eventId known readable projected emission there
    have inside := project_yields known emissions projected emission there
    refine ⟨inside, inside.parse readable, fun user gateway plain => ?_⟩
    have ⟨ref, read, same⟩ := inside.eventId_eq readable
    rw [joinAllowed_iff filled plain read, same]
  · intro eventId otherId shardCount otherCount room other readable otherReadable differ there
      elsewhere same
    rw [← same] at elsewhere
    exact differ (there.unique readable elsewhere otherReadable)
  · intro room user gateway unknown
    cases read : parseEventRoom room with
    | none => exact refused_of_unparsed read user gateway
    | some ref => exact refused_of_unknown read (unknown ref read) user gateway

/-- An id that reads like a room of its own is gated as itself. -/
theorem published_rooms_gated_segments :
    eventRoomJoinAllowed "flock_os:event:G:shard:1:shard:0" "admin"
      ⟨fun _ => ["Flock Branch Admin"], fun _ => ["North"]⟩
      (fun gathering => if gathering = "G:shard:1" then some "North" else none) = true :=
  ((published_rooms_gated (fun _ => "")
      (fun gathering => if gathering = "G:shard:1" then some "North" else none)
      (by intro gathering; split <;> decide)).1
    ⟨Events.engagementSessionOpened, [("gathering", .str "G:shard:1")], []⟩ 2 _ "G:shard:1"
    (by decide) ⟨by decide, by decide⟩ rfl
    ⟨rtGameState, "flock_os:event:G:shard:1:shard:0",
      [("gathering", .str "G:shard:1"), ("state", .str "opened")]⟩ (by decide)).2.2
    "admin" ⟨fun _ => ["Flock Branch Admin"], fun _ => ["North"]⟩ (by decide) |>.mpr
    ⟨"North", by decide, by decide⟩

end FlockOs.Realtime
