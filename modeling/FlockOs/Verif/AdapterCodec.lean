import FlockOs.Verif.EngagementAdapters
import FlockOs.Verif.ParticipationPayload

/-!
# The texts of the log

The site writes the JSON text of the payload of a row, and reads of its log what the decoder of
payloads makes of the texts. Such codecs there are, since two rows with different answers for
different names have different texts.
-/

namespace FlockOs.EngagementAdapters

open Lib Engagement EngagementStage
open ParticipationPayload (Dict flagsDict member ofAnswers ofNumber ofRow ofText ofValue
  participationOfMember participationToPayload typeText)

/-- The answers of a row have different names, as those of a dictionary have. -/
def Named (row : Participation) : Prop := (row.feedback.map Prod.fst).Nodup

/-- The text of a row is the JSON text of its payload. -/
def Codec.WritesJson (codec : Codec) (format : FloatText Rat) : Prop :=
  ∀ row, Named row → codec.dumps row = member format (ofRow row)

section Injective

variable {φ : Type}

@[simp] theorem ofText_inj {text other : Option String} :
    (ofText text : Document (Number φ)) = ofText other ↔ text = other := by
  cases text <;> cases other <;> simp [ofText]

@[simp] theorem ofNumber_inj {number other : Option (Number φ)} :
    ofNumber number = ofNumber other ↔ number = other := by
  cases number <;> cases other <;> simp [ofNumber]

/-- Rows with one payload are one. -/
theorem participationToPayload_injective :
    Function.Injective
      (participationToPayload : ParticipationPayload.Participation φ → Dict φ) := by
  intro p other same
  cases p
  cases other
  simpa [participationToPayload] using same

/-- Flags with one dictionary are the same. -/
theorem flagsDict_injective : Function.Injective (flagsDict : StatusFlags → Dict φ) := by
  intro flags other same
  have reasons : Function.Injective ParticipationPayload.reasonText := by
    intro reason other same
    cases reason <;> cases other <;> simp_all [ParticipationPayload.reasonText]
  cases flags
  cases other
  simpa [flagsDict, (Option.map_injective reasons).eq_iff] using same

/-- Types with one text are the same. -/
theorem typeText_injective : Function.Injective typeText := by
  intro type other same
  cases type <;> cases other <;> simp_all [typeText]

/-- Kinds with one text are the same. -/
theorem kindText_injective : Function.Injective EngagementKind.text := by
  intro kind other same
  cases kind <;> cases other <;> simp_all [EngagementKind.text]

/-- Values with one document are the same. -/
theorem ofValue_injective : Function.Injective ofValue := by
  intro value other same
  have texts : Function.Injective (List.map (.str : String → Document (Number Rat))) :=
    List.map_injective_iff.mpr fun _ _ equal => Document.str.inj equal
  cases value <;> cases other <;> simp_all [ofValue, texts.eq_iff]

/-- Answers with the same fields are the same. -/
theorem ofAnswers_injective : Function.Injective ofAnswers := by
  refine List.map_injective_iff.mpr fun answer other same => ?_
  obtain ⟨names, values⟩ := Prod.mk.inj same
  exact Prod.ext names (ofValue_injective values)

/-- Rows with one row of the log are the same. -/
theorem ofRow_injective : Function.Injective ofRow := by
  intro row other same
  have floats : Function.Injective (Option.map (.float : Rat → Number Rat)) :=
    Option.map_injective fun _ _ equal => Number.float.inj equal
  cases row
  cases other
  simpa [ofRow, typeText_injective.eq_iff, kindText_injective.eq_iff, floats.eq_iff,
    flagsDict_injective.eq_iff, ofAnswers_injective.eq_iff] using same

end Injective

section Texts

variable (format : FloatText Rat) {row : Participation}

/-- No object in the row of the log has a name twice. -/
theorem Named.distinct (named : Named row) :
    (Document.obj (ofRow row).statusFlags).distinct = true ∧
      (Document.obj (ofRow row).feedback).distinct = true :=
  ⟨ParticipationPayload.distinct_flagsDict row.statusFlags,
    (ParticipationPayload.answersOf row.feedback named).distinct⟩

/-- The text of a row is read as its payload. -/
theorem Named.loads (named : Named row) :
    Document.loads (JsonNumbers.numerals format) (member format (ofRow row)) =
      some (.obj (participationToPayload (ofRow row))) :=
  ParticipationPayload.loads_member format named.distinct.1 named.distinct.2

/-- The log gives a row as the site reads its payload. -/
theorem Named.participationOfMember (named : Named row) :
    participationOfMember format (member format (ofRow row)) =
      some (ofRow (participationFromPayload row)) := by
  have type : typeText row.engagementType ≠ "" := by
    cases row.engagementType <;> decide
  have kind : row.engagementKind.text ≠ "" := by
    cases row.engagementKind <;> decide
  exact ParticipationPayload.participationOfMember_member format (named.loads format)
    (ParticipationPayload.participationFromPayload_toPayload format (ofRow row) type kind)

/-- Rows with one text are the same. -/
theorem Named.eq_of_member {other : Participation} (named : Named row) (named' : Named other)
    (same : member format (ofRow row) = member format (ofRow other)) : row = other := by
  have read := named.loads format
  rw [same, named'.loads format] at read
  exact (ofRow_injective (participationToPayload_injective
    (Document.obj.inj (Option.some.inj read)))).symm

/-- There is a codec that writes JSON texts: an answer that is given twice is in no dictionary, and
any other text stands for such a row. -/
theorem Codec.exists_writesJson : ∃ codec : Codec, codec.WritesJson format := by
  classical
  obtain ⟨spare⟩ := Codec.exists_codec
  let text (row : Participation) : String :=
    if Named row then member format (ofRow row) else "!" ++ spare.dumps row
  have apart (row other : Participation) :
      member format (ofRow row) ≠ "!" ++ spare.dumps other := by
    intro same
    have chars := congrArg String.toList same
    rw [member, Document.dumps, String.toList_ofList, String.toList_append] at chars
    cases (List.cons.inj chars).1
  have injective : Function.Injective text := by
    intro row other same
    by_cases named : Named row
    · by_cases named' : Named other
      · have texts : member format (ofRow row) = member format (ofRow other) := by
          rwa [show text row = _ from if_pos named, show text other = _ from if_pos named'] at same
        exact named.eq_of_member format named' texts
      · rw [show text row = _ from if_pos named, show text other = _ from if_neg named'] at same
        exact absurd same (apart row other)
    · by_cases named' : Named other
      · rw [show text row = _ from if_neg named, show text other = _ from if_pos named'] at same
        exact absurd same.symm (apart other row)
      · rw [show text row = _ from if_neg named, show text other = _ from if_neg named'] at same
        exact spare.dumps_injective (String.append_right_inj "!" |>.mp same)
  exact ⟨⟨text, Function.partialInv text, Function.partialInv_left injective⟩,
    fun row named => if_pos named⟩

end Texts

/-- Rational numbers can be written as floating-point numbers are, the denominator behind the
point. -/
theorem exists_floatText : Nonempty (FloatText Rat) := by
  have digit : ∀ (number : Nat), ∀ char ∈ Nat.toDigits 10 number, char.isDigit = true :=
    fun number char there => JsonNumbers.isDigit_toDigits there
  have text (value : Rat) : Nat.toDigits 10 value.num.natAbs ++ '.' :: Nat.toDigits 10 value.den =
      JsonNumbers.unsigned (JsonNumbers.intText value.num ++ '.' :: Nat.toDigits 10 value.den) :=
    (JsonNumbers.unsigned_intText value.num _).symm
  have point (rest : List Char) : ('.' :: rest).takeWhile (· != '.') = [] ∧
      ('.' :: rest).takeWhile Char.isDigit = [] := ⟨rfl, rfl⟩
  refine ⟨{
    repr := fun value => JsonNumbers.intText value.num ++ '.' :: Nat.toDigits 10 value.den
    read := fun token => mkRat ((JsonNumbers.readInt (token.takeWhile (· != '.'))).getD 0)
      ((JsonNumbers.readWhole ((token.dropWhile (· != '.')).drop 1)).getD 0)
    ofInt := fun value => some value
    token_repr := fun value => .inl ?_
    read_repr := fun value => ?_ }⟩
  · have fraction : JsonNumbers.isFraction ('.' :: Nat.toDigits 10 value.den) = true := by
      have all := digit value.den
      rw [JsonNumbers.isFraction, List.takeWhile_eq_self_iff.mpr all,
        List.dropWhile_eq_nil_iff.mpr all, JsonNumbers.isDigits, List.all_eq_true.mpr all,
        List.isEmpty_eq_false_iff.mpr Nat.toDigits_ne_nil]
      rfl
    rw [JsonNumbers.isFloat, ← text, List.takeWhile_append_of_pos (digit _),
      List.dropWhile_append_of_pos (digit _), (point _).2, List.append_nil,
      JsonNumbers.readWhole_toDigits]
    exact fraction
  · have whole := JsonNumbers.ne_point_of_mem_intText value.num
    have behind : ('.' :: Nat.toDigits 10 value.den).dropWhile (· != '.') =
        '.' :: Nat.toDigits 10 value.den := rfl
    rw [List.takeWhile_append_of_pos whole, List.dropWhile_append_of_pos whole, (point _).1,
      List.append_nil, behind, List.drop_one, List.tail_cons, JsonNumbers.readInt_intText,
      JsonNumbers.readWhole_toDigits, Option.getD_some, Option.getD_some]
    exact Rat.mkRat_self value

section Log

variable {codec : Codec} {format : FloatText Rat}

/-- Every text of the log is that of a row whose answers have different names. -/
def Logged (codec : Codec) (cache : Cache) : Prop :=
  ∀ sessionId, ∀ text ∈ (cache.log sessionId).members, ∃ row, Named row ∧ codec.dumps row = text

/-- What the site reads of its log is what the decoder of payloads makes of the texts. -/
theorem participations_eq (writes : codec.WritesJson format) {cache : Cache}
    (logged : Logged codec cache) (sessionId : String) :
    (cache.participations codec sessionId).map ofRow =
      (cache.log sessionId).members.filterMap (participationOfMember format) := by
  rw [Cache.participations, Cache.payloads, List.map_map, List.map_filterMap]
  refine List.filterMap_congr fun text there => ?_
  obtain ⟨row, named, written⟩ := logged sessionId text there
  rw [← written, codec.loads_dumps, Option.map_some, writes row named,
    named.participationOfMember format]
  rfl

/-- A call records only a row whose answers have different names. -/
def GatewayCall.Named : GatewayCall → Prop
  | .recordParticipation row => EngagementAdapters.Named row
  | _ => True

/-- A new row is logged with its text. -/
theorem Logged.append {cache : Cache} (logged : Logged codec cache) {row : Participation}
    (named : Named row) : Logged codec (cache.append codec row) := by
  intro sessionId text there
  by_cases own : sessionId = row.sessionId
  · rw [own, append_log_self, SortedSet.mem_members_add] at there
    rcases there with new | old
    · exact ⟨row, named, new.symm⟩
    · exact logged row.sessionId text old
  · rw [append_log_of_ne own] at there
    exact logged sessionId text there

/-- The state of a site after a call. -/
def Cache.after (codec : Codec) (zone : Rat → Rat) (cache : Cache) (call : GatewayCall) : Cache :=
  (cache.perform codec zone call).2

/-- A call keeps the log. -/
theorem Logged.after {cache : Cache} (logged : Logged codec cache) (zone : Rat → Rat)
    {call : GatewayCall} (named : call.Named) : Logged codec (cache.after codec zone call) := by
  unfold Cache.after
  cases call with
  | setSessionStatus sessionId status now clock =>
    cases now with
    | none => exact logged
    | some now =>
      rw [Cache.perform, Cache.setSessionStatus]
      cases fromTimestamp now with
      | error raised => exact logged
      | ok stamp => exact logged
  | recordParticipation row =>
    rw [Cache.perform, Cache.recordParticipation]
    split
    · exact logged
    · exact logged.append named
  | throttleAllows key now _ maxPerSecond =>
    rw [Cache.perform, Cache.throttleAllows]
    split
    · exact logged
    · exact logged
  | getSession | hasAttendee | attendees | participations | sameIpAttendeeCount => exact logged

/-- Over every sequence of calls the site with the JSON texts reads of its log what the decoder of
payloads makes of the texts there. -/
theorem participations_runAll (writes : codec.WritesJson format) (zone : Rat → Rat)
    (rows : String → Option SessionRow) (calls : List GatewayCall)
    (named : ∀ call ∈ calls, call.Named) (sessionId : String) :
    let last := runAll (Cache.after codec zone) { sessions := rows } calls
    (last.participations codec sessionId).map ofRow =
      (last.log sessionId).members.filterMap (participationOfMember format) := by
  intro last
  have start : Logged codec { sessions := rows } := by
    intro sessionId text there
    cases there
  have every : EveryCall (Cache.after codec zone) (fun _ call => GatewayCall.Named call)
      { sessions := rows } calls := everyCall_of_forall _ named
  have logged : Logged codec last := runAll_guarded (Logged codec)
    (fun _ _ logged named => logged.after zone named) calls _ start every
  exact participations_eq writes logged sessionId

end Log

end FlockOs.EngagementAdapters
