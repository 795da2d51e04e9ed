import FlockOs.RoomParsers
import FlockOs.Verif.EventRooms
import Mathlib.Data.List.Induction

/-!
# Where the parsers of rooms agree

A text is the name of a room in one way at most: an id, a segment with digits and an end. The
server takes any decimal digits and a newline at the end, the handler neither, and neither of the
two refuses a leading zero.
-/

namespace FlockOs.RoomParsers

open Lib Realtime

/-- The segment of a room: that of the broadcast room, or that of a shard with its digits. -/
def segment : Option (List Char) → List Char
  | none => ":broadcast".toList
  | some digits => ":shard:".toList ++ digits

/-- The segment of a shard. -/
theorem segment_some (digits : List Char) : segment (some digits) = ":shard:".toList ++ digits :=
  rfl

/-- The digits of a shard, of which there are some. -/
def Numbered (digits : Option (List Char)) : Prop :=
  ∀ shard, digits = some shard → shard ≠ [] ∧ ∀ char ∈ shard, isDecimal char = true

/-- A name of a room: an id, a segment, and at most a newline behind them. -/
structure Spelled (room : String) (eventId : List Char) (digits : Option (List Char))
    (line : List Char) : Prop where
  named : eventId ≠ []
  oneLine : '\n' ∉ eventId
  numbered : Numbered digits
  ends : atEnd line = true
  text : room.toList = "flock_os:event:".toList ++ (eventId ++ (segment digits ++ line))

/-- The symbols that a segment can end in. -/
def Closes : Option (List Char) → Char → Prop
  | none, last => last = 't'
  | some _, last => isDecimal last = true

/-- A segment ends in the last letter of the broadcast room or in a digit. -/
theorem getLast?_segment {digits : Option (List Char)} (numbered : Numbered digits) :
    ∃ last, (segment digits).getLast? = some last ∧ Closes digits last := by
  cases digits with
  | none => exact ⟨'t', by decide, rfl⟩
  | some shard =>
    obtain ⟨nonempty, all⟩ := numbered shard rfl
    refine ⟨shard.getLast nonempty, ?_, all _ (List.getLast_mem nonempty)⟩
    rw [segment_some, List.getLast?_append_of_ne_nil _ nonempty,
      List.getLast?_eq_some_getLast nonempty]

/-- No segment ends in a newline. -/
theorem getLast?_segment_ne {digits : Option (List Char)} (numbered : Numbered digits)
    (front : List Char) : (front ++ segment digits).getLast? ≠ some '\n' := by
  obtain ⟨last, found, closes⟩ := getLast?_segment numbered
  rw [List.getLast?_append, found, Option.some_or]
  rintro ⟨⟩
  cases digits with
  | none => exact absurd (show '\n' = 't' from closes) (by decide)
  | some shard => exact absurd (show isDecimal '\n' = true from closes) (by decide)

/-- Two ids with segments are one text only when they are the same. -/
theorem segment_unique {eventId eventId' : List Char} {digits digits' : Option (List Char)}
    (numbered : Numbered digits) (numbered' : Numbered digits')
    (same : eventId ++ segment digits = eventId' ++ segment digits') :
    eventId = eventId' ∧ digits = digits' := by
  obtain ⟨last, found, closes⟩ := getLast?_segment numbered
  obtain ⟨last', found', closes'⟩ := getLast?_segment numbered'
  have both := congrArg List.getLast? same
  rw [List.getLast?_append, List.getLast?_append, found, found'] at both
  cases Option.some.inj both
  cases digits with
  | none =>
    cases digits' with
    | none => exact ⟨List.append_cancel_right same, rfl⟩
    | some shard' =>
      cases (show last = 't' from closes)
      exact absurd (show isDecimal 't' = true from closes') (by decide)
  | some shard =>
    cases digits' with
    | none =>
      cases (show last = 't' from closes')
      exact absurd (show isDecimal 't' = true from closes) (by decide)
    | some shard' =>
      have colon {digits : List Char} (all : ∀ char ∈ digits, isDecimal char = true) :
          ':' ∉ digits := fun there => absurd (all ':' there) (by decide)
      have split : (eventId ++ ":shard".toList) ++ ':' :: shard =
          (eventId' ++ ":shard".toList) ++ ':' :: shard' := by
        rw [List.append_assoc, List.append_assoc]
        exact same
      obtain ⟨front, back⟩ := split_last split (colon (numbered shard rfl).2)
        (colon (numbered' shard' rfl).2)
      exact ⟨List.append_cancel_right front, congrArg some back⟩

/-- A room is spelled in one way. -/
theorem Spelled.unique {room : String} {eventId eventId' line line' : List Char}
    {digits digits' : Option (List Char)} (spelled : Spelled room eventId digits line)
    (spelled' : Spelled room eventId' digits' line') :
    eventId = eventId' ∧ digits = digits' ∧ line = line' := by
  have same := List.append_cancel_left (spelled.text.symm.trans spelled'.text)
  rw [← List.append_assoc, ← List.append_assoc] at same
  have away := getLast?_segment_ne spelled.numbered eventId
  have away' := getLast?_segment_ne spelled'.numbered eventId'
  rcases of_decide_eq_true spelled.ends with rfl | rfl <;>
    rcases of_decide_eq_true spelled'.ends with rfl | rfl
  · rw [List.append_nil, List.append_nil] at same
    obtain ⟨ids, segments⟩ := segment_unique spelled.numbered spelled'.numbered same
    exact ⟨ids, segments, rfl⟩
  · rw [List.append_nil] at same
    rw [same, List.getLast?_concat] at away
    exact absurd rfl away
  · rw [List.append_nil] at same
    rw [← same, List.getLast?_concat] at away'
    exact absurd rfl away'
  · obtain ⟨ids, segments⟩ := segment_unique spelled.numbered spelled'.numbered
      (List.append_cancel_right same)
    exact ⟨ids, segments, rfl⟩

/-- A text with an end behind it stops the digits. -/
theorem digits_atEnd {shard line : List Char} (all : ∀ char ∈ shard, isDecimal char = true)
    (ends : atEnd line = true) :
    (shard ++ line).takeWhile isDecimal = shard ∧ (shard ++ line).dropWhile isDecimal = line := by
  constructor
  · have stops : line.takeWhile isDecimal = [] := by
      rcases of_decide_eq_true ends with rfl | rfl <;> decide
    rw [List.takeWhile_append_of_pos all, stops, List.append_nil]
  · rw [List.dropWhile_append_of_pos all]
    rcases of_decide_eq_true ends with rfl | rfl <;> decide

/-- A shard matches its segment with an end behind it. -/
theorem shardGroup_eq_some_iff {text shard : List Char} :
    shardGroup text = some shard ↔
      Numbered (some shard) ∧ ∃ line, atEnd line = true ∧ text = segment (some shard) ++ line := by
  constructor
  · intro found
    rw [shardGroup] at found
    split at found
    next => cases found
    next rest front =>
      dsimp only at found
      split at found
      next both =>
        cases found
        have whole := List.isPrefixOf?_eq_some_iff_append_eq.mp front
        refine ⟨fun shard same => ?_, rest.dropWhile isDecimal, both.2, ?_⟩
        · cases same
          exact ⟨both.1, fun char there => List.mem_takeWhile_imp there⟩
        · rw [segment_some, List.append_assoc, List.takeWhile_append_dropWhile]
          exact whole.symm
      next => cases found
  · rintro ⟨numbered, line, ends, rfl⟩
    obtain ⟨nonempty, all⟩ := numbered shard rfl
    obtain ⟨taken, dropped⟩ := digits_atEnd all ends
    have front : (":" ++ shardSegment ++ ":").toList.isPrefixOf?
        (segment (some shard) ++ line) = some (shard ++ line) := by
      rw [segment_some, List.append_assoc]
      exact isPrefixOf?_append _ _
    rw [shardGroup, front]
    dsimp only
    rw [taken, dropped, if_pos ⟨nonempty, ends⟩]

/-- A tail matches a segment with an end behind it. -/
theorem tailGroup_eq_some_iff {text : List Char} {digits : Option (List Char)} :
    tailGroup text = some digits ↔
      Numbered digits ∧ ∃ line, atEnd line = true ∧ text = segment digits ++ line := by
  constructor
  · intro matched
    rw [tailGroup] at matched
    split at matched
    next rest found =>
      split at matched
      next ends =>
        cases matched
        have whole := List.isPrefixOf?_eq_some_iff_append_eq.mp found
        exact ⟨(fun _ absent => nomatch absent), rest, ends, whole.symm⟩
      next => cases matched
    next =>
      obtain ⟨shard, found, same⟩ := Option.map_eq_some_iff.mp matched
      cases same
      exact shardGroup_eq_some_iff.mp found
  · rintro ⟨numbered, line, ends, rfl⟩
    cases digits with
    | none =>
      have front : (":" ++ broadcastSegment).toList.isPrefixOf? (segment none ++ line) =
          some line := isPrefixOf?_append _ line
      rw [tailGroup, front]
      exact if_pos ends
    | some shard =>
      have other : (":" ++ broadcastSegment).toList.isPrefixOf? (segment (some shard) ++ line) =
          none := by
        rw [segment_some, List.append_assoc]
        rfl
      have matched := shardGroup_eq_some_iff.mpr ⟨numbered, line, ends, rfl⟩
      rw [tailGroup, other]
      dsimp only
      rw [matched]
      rfl

/-- What the pattern matches is spelled by its groups. -/
theorem of_matchEventRoom {room : String} {eventId : List Char} {digits : Option (List Char)}
    (matched : matchEventRoom room = some (eventId, digits)) :
    ∃ line, Spelled room eventId digits line := by
  rw [matchEventRoom] at matched
  split at matched
  next => cases matched
  next rest front =>
    obtain ⟨named, all, behind, whole, tail⟩ := of_lazyMatch matched
    obtain ⟨numbered, line, ends, text⟩ := tailGroup_eq_some_iff.mp tail
    have start := List.isPrefixOf?_eq_some_iff_append_eq.mp front
    refine ⟨line, named, fun there => ?_, numbered, ends, ?_⟩
    · exact absurd rfl (of_decide_eq_true (all '\n' there))
    · rw [← start, whole, text]
      rfl

/-- The pattern matches what is spelled, with its id and its digits. -/
theorem Spelled.matched {room : String} {eventId line : List Char} {digits : Option (List Char)}
    (spelled : Spelled room eventId digits line) : matchEventRoom room = some (eventId, digits) := by
  have tail : tailGroup (segment digits ++ line) = some digits :=
    tailGroup_eq_some_iff.mpr ⟨spelled.numbered, line, spelled.ends, rfl⟩
  have front : (eventRoomPrefix ++ ":").toList.isPrefixOf? room.toList =
      some (eventId ++ (segment digits ++ line)) := by
    rw [spelled.text]
    exact isPrefixOf?_append _ _
  have allowed (char : Char) (there : char ∈ eventId) : decide (char ≠ '\n') = true :=
    decide_eq_true fun same => spelled.oneLine (same ▸ there)
  have some : (matchEventRoom room).isSome = true := by
    rw [matchEventRoom, front]
    exact lazyMatch_isSome spelled.named allowed (by rw [tail]; rfl)
  obtain ⟨⟨eventId', digits'⟩, found⟩ := Option.isSome_iff_exists.mp some
  obtain ⟨line', spelled'⟩ := of_matchEventRoom found
  obtain ⟨ids, segments, _⟩ := spelled.unique spelled'
  rw [found, ids, segments]

/-- The number of a shard is read from its group. -/
theorem shardTail_eq (text : List Char) : shardTail text = (shardGroup text).map intOfDigits := by
  rw [shardTail, shardGroup]
  cases (":" ++ shardSegment ++ ":").toList.isPrefixOf? text with
  | none => rfl
  | some rest =>
    dsimp only
    split <;> rfl

/-- The value of a tail is read from its groups. -/
theorem roomTail_eq (text : List Char) :
    roomTail text = (tailGroup text).map (Option.map intOfDigits) := by
  rw [roomTail, tailGroup]
  cases (":" ++ broadcastSegment).toList.isPrefixOf? text with
  | none =>
    dsimp only
    rw [shardTail_eq, Option.map_map, Option.map_map]
    rfl
  | some rest =>
    dsimp only
    split <;> rfl

/-- Without a limit on digits the server reads a room as the gate does. -/
theorem parseEventRoom_unlimited (room : String) :
    parseEventRoom 0 room = .ok (Realtime.parseEventRoom room) := by
  rw [parseEventRoom, matchEventRoom, Realtime.parseEventRoom, funext roomTail_eq]
  cases (eventRoomPrefix ++ ":").toList.isPrefixOf? room.toList with
  | none => rfl
  | some rest =>
    dsimp only
    rw [lazyMatch_map]
    cases lazyMatch (fun char => decide (char ≠ '\n')) tailGroup rest with
    | none => rfl
    | some groups =>
      obtain ⟨eventId, digits⟩ := groups
      cases digits <;> rfl

/-- An id without line terminators. -/
def Clean (eventId : List Char) : Prop := ∀ char ∈ eventId, isLineTerminator char = false

/-- ASCII digits. -/
def Ascii (digits : Option (List Char)) : Prop :=
  ∀ shard, digits = some shard → ∀ char ∈ shard, char.isDigit = true

/-- An ASCII digit is a decimal digit. -/
theorem isDecimal_of_isDigit {char : Char} (digit : char.isDigit = true) :
    isDecimal char = true := by
  rw [isDecimal, digitValue_of_isDigit digit]
  rfl

/-- The handler's tail matches a segment with ASCII digits at the end of the text. -/
theorem handlerTail_eq_some_iff {text : List Char} :
    handlerTail text = some () ↔
      ∃ digits, Numbered digits ∧ Ascii digits ∧ text = segment digits := by
  constructor
  · intro matched
    rw [handlerTail] at matched
    split at matched
    next whole =>
      exact ⟨none, (fun _ absent => nomatch absent), (fun _ absent => nomatch absent), whole⟩
    next =>
      split at matched
      next => cases matched
      next digits front =>
        split at matched
        next both =>
          have whole := List.isPrefixOf?_eq_some_iff_append_eq.mp front
          have ascii := List.all_eq_true.mp both.2
          refine ⟨some digits, fun shard same => ?_, fun shard same => ?_, whole.symm⟩
          · cases same
            exact ⟨both.1, fun char there => isDecimal_of_isDigit (ascii char there)⟩
          · cases same
            exact ascii
        next => cases matched
  · rintro ⟨digits, numbered, ascii, rfl⟩
    cases digits with
    | none => exact if_pos rfl
    | some shard =>
      have other : ":shard:".toList ++ shard ≠ ":broadcast".toList := by
        intro same
        have second := congrArg (·[1]?) same
        cases second
      rw [handlerTail, segment_some, if_neg other, isPrefixOf?_append]
      exact if_pos ⟨(numbered shard rfl).1, List.all_eq_true.mpr (ascii shard rfl)⟩

/-- What the handler accepts is a name of a room without what its pattern does not match. -/
theorem isFlockEventRoom_iff {room : String} :
    isFlockEventRoom room = true ↔ ∃ eventId digits, Spelled room eventId digits [] ∧
      Clean eventId ∧ Ascii digits := by
  constructor
  · intro accepted
    rw [isFlockEventRoom] at accepted
    split at accepted
    next => cases accepted
    next rest front =>
      obtain ⟨⟨eventId, ⟨⟩⟩, found⟩ := Option.isSome_iff_exists.mp accepted
      obtain ⟨named, all, tail, whole, matched⟩ := of_lazyMatch found
      obtain ⟨digits, numbered, ascii, text⟩ := handlerTail_eq_some_iff.mp matched
      have start := List.isPrefixOf?_eq_some_iff_append_eq.mp front
      have clean : Clean eventId := fun char there =>
        Bool.not_eq_true' _ |>.mp (all char there)
      refine ⟨eventId, digits, ⟨named, fun there => ?_, numbered, by decide, ?_⟩, clean, ascii⟩
      · exact absurd (clean '\n' there) (by decide)
      · rw [← start, whole, text, List.append_nil]
  · rintro ⟨eventId, digits, spelled, clean, ascii⟩
    have front : "flock_os:event:".toList.isPrefixOf? room.toList =
        some (eventId ++ segment digits) := by
      rw [spelled.text, List.append_nil]
      exact isPrefixOf?_append _ _
    have matched : handlerTail (segment digits) = some () :=
      handlerTail_eq_some_iff.mpr ⟨digits, spelled.numbered, ascii, rfl⟩
    have allowed (char : Char) (there : char ∈ eventId) : (!isLineTerminator char) = true := by
      rw [clean char there]
      rfl
    rw [isFlockEventRoom, front]
    exact lazyMatch_isSome spelled.named allowed (by rw [matched]; rfl)

/-- Of a name of a room the handler looks at the end, the id and the digits. -/
theorem Spelled.accepted_iff {room : String} {eventId line : List Char}
    {digits : Option (List Char)} (spelled : Spelled room eventId digits line) :
    isFlockEventRoom room = true ↔ Clean eventId ∧ line = [] ∧ Ascii digits := by
  rw [isFlockEventRoom_iff]
  constructor
  · rintro ⟨eventId', digits', spelled', clean, ascii⟩
    obtain ⟨ids, segments, lines⟩ := spelled.unique spelled'
    rw [ids, segments]
    exact ⟨clean, lines, ascii⟩
  · rintro ⟨clean, rfl, ascii⟩
    exact ⟨eventId, digits, spelled, clean, ascii⟩

/-- Digits without a leading zero, as a number is written. -/
def Canonical (digits : List Char) : Prop :=
  (∀ char ∈ digits, char.isDigit = true) ∧ (digits.head? = some '0' → digits = ['0'])

/-- Only zero is written with a zero in front. -/
theorem toDigits_head {number : Nat} (zero : (Nat.toDigits 10 number).head? = some '0') :
    number = 0 := by
  induction number using Nat.strongRecOn with
  | ind number ih =>
    by_cases small : number < 10
    · rw [Nat.toDigits_of_lt_base small] at zero
      have each : ∀ digit < 10, Nat.digitChar digit = '0' → digit = 0 := by decide
      exact each number small (Option.some.inj zero)
    · rw [Nat.toDigits_of_base_le (by decide) (by omega),
        List.head?_append_of_ne_nil _ Nat.toDigits_ne_nil] at zero
      have tens := ih (number / 10) (by omega) zero
      omega

/-- The value of a digit is less than ten, and tells the digit. -/
theorem digit_bounds {char : Char} (digit : char.isDigit = true) :
    char.toNat - '0'.toNat < 10 ∧ 48 + (char.toNat - '0'.toNat) = char.toNat := by
  obtain ⟨low, high⟩ := Char.isDigit_iff_toNat.mp digit
  have nine : '9'.toNat = 57 := rfl
  have zero : '0'.toNat = 48 := rfl
  omega

/-- A digit is written as itself. -/
theorem toDigits_digit {char : Char} (digit : char.isDigit = true) :
    Nat.toDigits 10 (char.toNat - '0'.toNat) = [char] := by
  obtain ⟨small, back⟩ := digit_bounds digit
  have each : ∀ value < 10, Nat.digitChar value = Char.ofNat (48 + value) := by decide
  rw [Nat.toDigits_of_lt_base small, each _ small, back, Char.ofNat_toNat]

/-- Digits are those of the number that they are read as exactly where they are canonical. -/
theorem toDigits_intOfDigits_iff {digits : List Char} (nonempty : digits ≠ []) :
    Nat.toDigits 10 (intOfDigits digits) = digits ↔ Canonical digits := by
  constructor
  · intro same
    constructor
    · intro char there
      rw [← same] at there
      exact Nat.isDigit_of_mem_toDigits (by decide) (by decide) there
    · intro zero
      rw [← same] at zero
      have value := toDigits_head zero
      rw [← same, value]
      rfl
  · rintro ⟨all, leading⟩
    induction digits using List.reverseRecOn with
    | nil => exact absurd rfl nonempty
    | append_singleton front last ih =>
      have digit : last.isDigit = true := all last (by simp)
      have value : intOfDigits (front ++ [last]) =
          10 * intOfDigits front + (last.toNat - '0'.toNat) := by
        rw [intOfDigits, List.foldl_append, ← intOfDigits]
        show 10 * intOfDigits front + (digitValue last).getD 0 = _
        rw [digitValue_of_isDigit digit]
        rfl
      by_cases single : front = []
      · rw [value, single]
        exact (congrArg _ (Nat.zero_add _)).trans (toDigits_digit digit)
      · have head : (front ++ [last]).head? = front.head? :=
          List.head?_append_of_ne_nil _ single
        have unpadded : front.head? ≠ some '0' := by
          intro zero
          have short := congrArg List.length (leading (head.trans zero))
          rw [List.length_append] at short
          have long := List.length_pos_iff.mpr single
          simp only [List.length_singleton] at short
          omega
        have before := ih single (fun char there => all char (List.mem_append_left _ there))
          (fun zero => absurd zero unpadded)
        have positive : 0 < intOfDigits front := by
          refine Nat.pos_of_ne_zero fun zero => unpadded ?_
          rw [← before, zero]
          rfl
        rw [value, ← Nat.toDigits_append_toDigits (by decide) positive (digit_bounds digit).1,
          before, toDigits_digit digit]

/-- `int` reads the digits. -/
def Fit (limit : Nat) (digits : Option (List Char)) : Prop :=
  ∀ shard, digits = some shard → Fits limit shard

/-- Digits without a leading zero, where there are any. -/
def Plain (digits : Option (List Char)) : Prop :=
  ∀ shard, digits = some shard → Canonical shard

/-- The result for an id and the digits of a shard. -/
def reference (eventId : List Char) : Option (List Char) → EventRoomRef
  | none => ⟨String.ofList eventId, true, none⟩
  | some digits => ⟨String.ofList eventId, false, some (intOfDigits digits)⟩

/-- The digits that are written for the digits that were read. -/
def rewritten (digits : Option (List Char)) : Option (List Char) :=
  digits.map fun shard => Nat.toDigits 10 (intOfDigits shard)

/-- A name of a room is read when `int` reads its digits. -/
theorem Spelled.parse_iff {room : String} {eventId line : List Char}
    {digits : Option (List Char)} (spelled : Spelled room eventId digits line) (limit : Nat)
    (ref : EventRoomRef) : parseEventRoom limit room = .ok (some ref) ↔
      Fit limit digits ∧ ref = reference eventId digits := by
  rw [parseEventRoom, spelled.matched]
  cases digits with
  | none =>
    constructor
    · intro same
      cases same
      exact ⟨(fun _ absent => nomatch absent), rfl⟩
    · rintro ⟨_, rfl⟩
      rfl
  | some shard =>
    have fit : Fit limit (some shard) ↔ Fits limit shard :=
      ⟨fun all => all shard rfl, fun fits _ same => Option.some.inj same ▸ fits⟩
    rw [fit]
    dsimp only [bind, Except.bind]
    rw [int]
    by_cases fits : Fits limit shard
    · rw [if_pos fits]
      constructor
      · intro same
        cases same
        exact ⟨fits, rfl⟩
      · rintro ⟨_, rfl⟩
        rfl
    · rw [if_neg fits]
      constructor
      · intro same
        cases same
      · exact fun both => absurd both.1 fits

/-- The text of the channel of a result. -/
theorem toList_channel (eventId : List Char) (digits : Option (List Char)) :
    (channel (reference eventId digits)).toList =
      "flock_os:event:".toList ++ (eventId ++ (segment (rewritten digits) ++ [])) := by
  rw [List.append_nil]
  cases digits with
  | none =>
    have text := toList_broadcastChannel (String.ofList eventId)
    rw [String.toList_ofList] at text
    exact text
  | some shard =>
    have text := toList_shardChannel (String.ofList eventId) (intOfDigits shard)
    rw [String.toList_ofList] at text
    exact text

/-- What is rewritten has digits. -/
theorem numbered_rewritten (digits : Option (List Char)) : Numbered (rewritten digits) := by
  intro shard same
  obtain ⟨_, _, written⟩ := Option.map_eq_some_iff.mp same
  rw [← written]
  exact ⟨Nat.toDigits_ne_nil, fun char there => isDecimal_of_mem_toDigits there⟩

/-- The channel of a result is the room exactly where no newline stands behind it and its digits are
written as a number is. -/
theorem Spelled.channel_iff {room : String} {eventId line : List Char}
    {digits : Option (List Char)} (spelled : Spelled room eventId digits line) :
    channel (reference eventId digits) = room ↔ line = [] ∧ Plain digits := by
  have same : rewritten digits = digits ↔ Plain digits := by
    cases digits with
    | none => exact iff_of_true rfl fun _ absent => nomatch absent
    | some shard =>
      have written := toDigits_intOfDigits_iff (spelled.numbered shard rfl).1
      constructor
      · intro same shard' own
        cases own
        exact written.mp (Option.some.inj same)
      · exact fun plain => congrArg some (written.mpr (plain shard rfl))
  constructor
  · intro rebuilt
    have text := toList_channel eventId digits
    rw [rebuilt] at text
    have again : Spelled room eventId (rewritten digits) [] :=
      ⟨spelled.named, spelled.oneLine, numbered_rewritten digits, by decide, text⟩
    obtain ⟨_, segments, ends⟩ := spelled.unique again
    exact ⟨ends, same.mp segments.symm⟩
  · rintro ⟨rfl, plain⟩
    rw [← String.toList_inj, toList_channel, same.mpr plain]
    exact spelled.text.symm

/-- What is not a name of a room neither parser takes. -/
theorem refused_of_unspelled {room : String}
    (unspelled : ∀ eventId digits line, ¬Spelled room eventId digits line) (limit : Nat) :
    isFlockEventRoom room = false ∧ parseEventRoom limit room = .ok none := by
  constructor
  · rw [Bool.eq_false_iff]
    intro accepted
    obtain ⟨eventId, digits, spelled, _⟩ := isFlockEventRoom_iff.mp accepted
    exact unspelled eventId digits [] spelled
  · rw [parseEventRoom]
    cases matched : matchEventRoom room with
    | none => rfl
    | some groups =>
      obtain ⟨line, spelled⟩ := of_matchEventRoom (show _ = some (groups.1, groups.2) from matched)
      exact absurd spelled (unspelled _ _ _)

/-- The handler and the server agree on a text, and the server's result gives the text back,
exactly where the text is no name of a room, where its id has no line terminator, no newline stands
behind it and its digits are ASCII without a leading zero and not too many for `int`, or where they
are too many and the handler refuses the text for another reason. -/
theorem rooms_agree_iff (limit : Nat) (room : String) :
    ((isFlockEventRoom room = true ↔ ∃ ref, parseEventRoom limit room = .ok (some ref)) ∧
      ∀ ref, parseEventRoom limit room = .ok (some ref) → channel ref = room) ↔
    ∀ eventId digits line, Spelled room eventId digits line →
      Fit limit digits ∧ Clean eventId ∧ line = [] ∧ Plain digits ∨
      ¬Fit limit digits ∧ ¬(Clean eventId ∧ line = [] ∧ Ascii digits) := by
  by_cases spellable : ∃ eventId digits line, Spelled room eventId digits line
  · have ⟨eventId, digits, line, spelled⟩ := spellable
    have only {claim : List Char → Option (List Char) → List Char → Prop} :
        (∀ eventId digits line, Spelled room eventId digits line → claim eventId digits line) ↔
          claim eventId digits line := by
      constructor
      · exact fun all => all eventId digits line spelled
      · intro own eventId' digits' line' spelled'
        have ⟨ids, segments, lines⟩ := spelled.unique spelled'
        rw [← ids, ← segments, ← lines]
        exact own
    have ascii (plain : Plain digits) : Ascii digits := fun shard same => (plain shard same).1
    simp only [only, spelled.accepted_iff, spelled.parse_iff, exists_and_left, exists_eq,
      and_true, and_imp, forall_eq_apply_imp_iff, spelled.channel_iff]
    by_cases fit : Fit limit digits
    · constructor
      · intro ⟨agree, rebuilt⟩
        have ⟨clean, ends, _⟩ := agree.mpr fit
        exact Or.inl ⟨fit, clean, ends, (rebuilt fit).2⟩
      · rintro (⟨_, clean, ends, plain⟩ | ⟨long, _⟩)
        · exact ⟨iff_of_true ⟨clean, ends, ascii plain⟩ fit, fun _ => ⟨ends, plain⟩⟩
        · exact absurd fit long
    · constructor
      · exact fun ⟨agree, _⟩ => Or.inr ⟨fit, fun accepted => fit (agree.mp accepted)⟩
      · rintro (⟨short, _⟩ | ⟨_, refused⟩)
        · exact absurd short fit
        · exact ⟨iff_of_false refused fit, fun short => absurd short fit⟩
  · have unspelled (eventId : List Char) (digits : Option (List Char)) (line : List Char) :
        ¬Spelled room eventId digits line := fun spelled => spellable ⟨_, _, _, spelled⟩
    have ⟨refused, unread⟩ := refused_of_unspelled unspelled limit
    rw [refused, unread]
    refine iff_of_true ⟨iff_of_false Bool.false_ne_true ?_, ?_⟩ ?_
    · rintro ⟨_, ⟨⟩⟩
    · rintro _ ⟨⟩
    · exact fun eventId digits line spelled => absurd spelled (unspelled eventId digits line)

/-- `sys.int_info.default_max_str_digits`. -/
def defaultMaxStrDigits : Nat := 4300

/-- The server takes a broadcast room with a newline behind it, which the handler refuses and whose
channel is another text; both take a shard with a leading zero, whose channel is another text. -/
theorem second_spellings :
    (isFlockEventRoom "flock_os:event:G-1:broadcast\n" = false ∧
      parseEventRoom defaultMaxStrDigits "flock_os:event:G-1:broadcast\n" =
        .ok (some ⟨"G-1", true, none⟩) ∧
      channel ⟨"G-1", true, none⟩ ≠ "flock_os:event:G-1:broadcast\n") ∧
    isFlockEventRoom "flock_os:event:G-1:shard:07" = true ∧
      parseEventRoom defaultMaxStrDigits "flock_os:event:G-1:shard:07" =
        .ok (some ⟨"G-1", false, some 7⟩) ∧
      channel ⟨"G-1", false, some 7⟩ ≠ "flock_os:event:G-1:shard:07" := by
  decide +kernel

end FlockOs.RoomParsers
