import FlockOs.Lib.LostUpdates
import FlockOs.SessionOverrides

/-!
# Which decisions the trail keeps

However the requests of `manual_override` overlap and whichever of their statements raise, the trail
of a session is its first one with some of the answered decisions after it. All of them are there
exactly when each request wrote over the trail that it had read. The other fields of the
configuration stay as they were.
-/

namespace FlockOs.SessionOverrides

open Lib Engagement EngagementClient

/-- An assigned field reads as what was assigned. -/
theorem lookup_assign (name : String) (value : Json) (fields : Fields) :
    (assign name value fields).lookup name = some value := by
  induction fields with
  | nil => simp [assign]
  | cons field fields ih =>
    by_cases same : field.1 = name
    · simp [assign, same]
    · have apart : (name == field.1) = false := by
        rw [beq_eq_false_iff_ne]
        exact fun equal => same equal.symm
      have rest : assign name value (field :: fields) = field :: assign name value fields := by
        simp [assign, same]
      rw [rest, List.lookup_cons, apart]
      exact ih

/-- Any other field reads as before. -/
theorem lookup_assign_of_ne {name other : String} (apart : other ≠ name) (value : Json)
    (fields : Fields) : (assign name value fields).lookup other = fields.lookup other := by
  have away : (other == name) = false := beq_eq_false_iff_ne.mpr apart
  induction fields with
  | nil => simp [assign, apart]
  | cons field fields ih =>
    by_cases same : field.1 = name
    · have first : (other == field.1) = false := by rw [same, away]
      have rest : assign name value (field :: fields) = (name, value) :: fields := by
        simp [assign, same]
      rw [rest, List.lookup_cons, List.lookup_cons, away, first]
    · have rest : assign name value (field :: fields) = field :: assign name value fields := by
        simp [assign, same]
      rw [rest, List.lookup_cons, List.lookup_cons, ih]

/-- A written column reads as its fields. -/
theorem readConfig_column (request : Pending) :
    readConfig (some request.column) = some (assign "overrides"
      (.arr (request.overrides ++ [request.override])) request.fields) := rfl

/-- A written column has the trail that was read and the decision. -/
theorem overridesOf_column (request : Pending) :
    (readConfig (some request.column)).bind overridesOf =
      some (request.overrides ++ [request.override]) := by
  rw [readConfig_column, Option.bind_some, overridesOf, lookup_assign]
  have filled : truth (Json.arr (request.overrides ++ [request.override])) = true := by
    simp [truth]
  simp only [Option.filter, filled, if_true]
  rfl

section Views

variable (site : Site) (sessionId : String)

@[simp] theorem trail_hold (id : Nat) (request : Option Pending) :
    (site.hold id request).trail sessionId = site.trail sessionId := rfl

@[simp] theorem trail_answer (other : String) (override : Json) :
    (site.answer other override).trail sessionId = site.trail sessionId := rfl

@[simp] theorem answered_hold (id : Nat) (request : Option Pending) :
    (site.hold id request).answered sessionId = site.answered sessionId := rfl

@[simp] theorem answered_store (request : Pending) :
    (site.store request).answered sessionId = site.answered sessionId := rfl

/-- An answer counts for its own session. -/
@[simp] theorem answered_answer (other : String) (override : Json) :
    (site.answer other override).answered sessionId =
      site.answered sessionId ++ if other = sessionId then [override] else [] := by
  by_cases same : other = sessionId
  · simp [Site.answered, Site.answer, same]
  · simp [Site.answered, Site.answer, same]

/-- A write changes the trail of its own session, where there is one. -/
theorem trail_store (request : Pending) :
    (site.store request).trail sessionId =
      if request.sessionId = sessionId ∧ (site.config sessionId).isSome = true then
        request.overrides ++ [request.override]
      else site.trail sessionId := by
  by_cases same : request.sessionId = sessionId
  · subst same
    cases there : site.config request.sessionId with
    | none => simp [Site.trail, Site.store, there]
    | some column =>
      have written : (site.store request).config request.sessionId = some request.column := by
        simp [Site.store, there]
      rw [Site.trail, written, overridesOf_column]
      simp
  · have apart : sessionId ≠ request.sessionId := fun equal => same equal.symm
    simp [Site.trail, Site.store, same, apart]

/-- The trail of a session with its open requests and its answers. -/
def Site.journal : Journal Nat Json where
  value := site.trail sessionId
  held id := ((site.requests id).filter (·.sessionId == sessionId)).map (·.overrides)
  reported := site.answered sessionId

/-- What is read is the trail, in the configuration as it is. -/
theorem overrides_read {override : Json} {request : Pending}
    (read : site.read sessionId override = some request) :
    request.sessionId = sessionId ∧ request.overrides = site.trail sessionId ∧
      readConfig (site.config sessionId) = some request.fields := by
  unfold Site.read at read
  cases fields : readConfig (site.config sessionId) with
  | none => simp [fields] at read
  | some fields' =>
    cases overrides : overridesOf fields' with
    | none => simp [fields, overrides] at read
    | some overrides' =>
      simp [fields, overrides] at read
      rw [← read]
      simp [Site.trail, fields, overrides]

/-- What a request under another id holds. -/
theorem held_hold (id other : Nat) (request : Option Pending) :
    ((site.hold id request).journal sessionId).held other =
      if other = id then (request.filter (·.sessionId == sessionId)).map (·.overrides)
      else (site.journal sessionId).held other := by
  by_cases same : other = id
  · subst same
    simp [Site.journal, Site.hold]
  · simp [Site.journal, Site.hold, same]

end Views

/-- A request that arrives raises, or is answered unread, or is put under its id with what it
read. -/
theorem arrive_cases (site : Site) (id : Nat) (user : String) (args : OverrideArgs)
    (fails : Bool) :
    (∃ raised, manualOverride user args = .error raised) ∧
        site.arrive id user args fails = site ∨
      ∃ sessionId override, manualOverride user args = .ok (sessionId, override) ∧
        (¬ (fails = false ∧ (site.read sessionId override).isSome = true) ∧
            site.arrive id user args fails = site.answer sessionId override ∨
          ∃ request, fails = false ∧ site.read sessionId override = some request ∧
            site.arrive id user args fails = site.hold id (some request)) := by
  cases decided : manualOverride user args with
  | error raised => exact .inl ⟨⟨raised, rfl⟩, by simp [Site.arrive, decided]⟩
  | ok decision =>
    obtain ⟨sessionId, override⟩ := decision
    apply Or.inr
    refine ⟨sessionId, override, rfl, ?_⟩
    cases fails with
    | true => exact .inl (by simp [Site.arrive, decided])
    | false =>
      cases read : site.read sessionId override with
      | none => exact .inl (by simp [Site.arrive, decided, read])
      | some request => exact .inr ⟨request, rfl, rfl, by simp [Site.arrive, decided, read]⟩

/-- A step lets a request arrive, lets one be done, or does nothing. -/
theorem step_cases (site : Site) (step : Step) :
    (∃ id user args fails, step = .arrive id user args fails ∧ site.requests id = none ∧
        site.step step = site.arrive id user args fails) ∨
      (∃ id fails request, step = .finish id fails ∧ site.requests id = some request ∧
        site.step step = site.finish request id fails) ∨
      site.step step = site ∧ ∀ sessionId, Keeps sessionId site step := by
  cases step with
  | arrive id user args fails =>
    cases waits : site.requests id with
    | none => exact .inl ⟨id, user, args, fails, rfl, waits, by simp [Site.step, waits]⟩
    | some request => exact .inr (.inr (by simp [Site.step, Keeps, waits]))
  | finish id fails =>
    cases waits : site.requests id with
    | none => exact .inr (.inr (by simp [Site.step, Keeps, waits]))
    | some request => exact .inr (.inl ⟨id, fails, request, rfl, waits, by simp [Site.step, waits]⟩)

/-- A request that arrives reads the trail, or its decision is lost at once. -/
theorem moves_arrive {site : Site} {id : Nat} (free : site.requests id = none) (user : String)
    (args : OverrideArgs) (fails : Bool) (sessionId : String) :
    Journal.Moves (Keeps sessionId site (.arrive id user args fails)) (site.journal sessionId)
      ((site.arrive id user args fails).journal sessionId) := by
  obtain ⟨⟨raised, decided⟩, after⟩ | ⟨other, override, decided, rest⟩ :=
    arrive_cases site id user args fails
  · rw [after]
    exact .quiet (by simp [Keeps, decided]) rfl rfl fun _ _ held => .inl held
  · have only (override' : Json)
        (decided' : manualOverride user args = .ok (sessionId, override')) :
        other = sessionId ∧ override = override' := by
      rw [decided] at decided'
      simpa using decided'
    obtain ⟨unread, after⟩ | ⟨request, calm, read, after⟩ := rest
    · rw [after]
      by_cases same : other = sessionId
      · subst same
        have lost : ¬ Keeps other site (.arrive id user args fails) :=
          fun keeps => unread (keeps override free decided)
        exact .dropped override lost rfl (by simp [Site.journal]) fun _ _ held => held
      · have away : Keeps sessionId site (.arrive id user args fails) :=
          fun override' _ decided' => absurd (only override' decided').1 same
        exact .quiet away rfl (by simp [Site.journal, same]) fun _ _ held => .inl held
    · have found := overrides_read site other read
      have keeps : Keeps sessionId site (.arrive id user args fails) := by
        intro override' _ decided'
        have own := only override' decided'
        rw [← own.1, ← own.2, read]
        exact ⟨calm, rfl⟩
      have holds (client : Nat) (read : List Json)
          (held : ((site.hold id (some request)).journal sessionId).held client = some read) :
          (site.journal sessionId).held client = some read ∨
            read = (site.journal sessionId).value := by
        rw [held_hold] at held
        split at held
        · by_cases same : other = sessionId
          · simp only [found.1, same, Option.filter, beq_self_eq_true, if_true, Option.map_some,
              Option.some.injEq] at held
            rw [← held, found.2.1, same]
            exact .inr rfl
          · simp [found.1, same] at held
        · exact .inl held
      rw [after]
      exact .quiet keeps rfl rfl holds

/-- A request that is done holds nothing more. -/
theorem held_finish {site : Site} {id client : Nat} {request : Pending} {fails : Bool}
    {sessionId : String} {read : List Json}
    (held : ((site.finish request id fails).journal sessionId).held client = some read) :
    (site.journal sessionId).held client = some read := by
  have after : ((site.finish request id fails).journal sessionId).held client =
      if client = id then none else (site.journal sessionId).held client := by
    have kept := held_hold (if fails then site else site.store request) sessionId id client none
    cases fails with
    | true => exact kept
    | false => exact kept
  rw [after] at held
  split at held
  · simp at held
  · exact held

/-- The answer to a request that is done. -/
theorem answered_finish (site : Site) (id : Nat) (request : Pending) (fails : Bool)
    (sessionId : String) :
    (site.finish request id fails).answered sessionId = site.answered sessionId ++
      if request.sessionId = sessionId then [request.override] else [] := by
  cases fails with
  | true => simp [Site.finish]
  | false => simp [Site.finish]

/-- A request that is done writes the trail it read with its decision, or the decision is lost. -/
theorem moves_finish {site : Site} {id : Nat} {request : Pending}
    (waits : site.requests id = some request) (fails : Bool) (sessionId : String) :
    Journal.Moves (Keeps sessionId site (.finish id fails)) (site.journal sessionId)
      ((site.finish request id fails).journal sessionId) := by
  have trail : (site.finish request id fails).trail sessionId =
      (if fails then site else site.store request).trail sessionId := rfl
  by_cases same : request.sessionId = sessionId
  · have reported : (site.finish request id fails).answered sessionId =
        site.answered sessionId ++ [request.override] := by
      rw [answered_finish, if_pos same]
    have asks (keeps : Keeps sessionId site (.finish id fails)) := keeps request waits same
    by_cases writes : fails = false ∧ (site.config sessionId).isSome = true
    · have held : (site.journal sessionId).held id = some request.overrides := by
        simp [Site.journal, waits, same]
      apply Journal.Moves.wrote id request.overrides request.override held
      · constructor
        · exact fun keeps => (asks keeps).2.2
        · intro whole other waits' _
          rw [waits] at waits'
          cases waits'
          exact ⟨writes.1, writes.2, whole⟩
      · rw [Site.journal, trail, writes.1]
        simp [trail_store, same, writes.2]
      · exact reported
      · exact fun _ _ => held_finish
    · have lost : ¬ Keeps sessionId site (.finish id fails) := by
        intro keeps
        exact writes ⟨(asks keeps).1, (asks keeps).2.1⟩
      apply Journal.Moves.dropped request.override lost _ reported fun _ _ => held_finish
      rw [Site.journal, trail]
      cases fails with
      | true => rfl
      | false =>
        have missing : ¬ (site.config sessionId).isSome = true := by simpa using writes
        simp [trail_store, same, missing, Site.journal]
  · apply Journal.Moves.quiet
    · intro other waits' own
      rw [waits] at waits'
      cases waits'
      exact absurd own same
    · rw [Site.journal, trail]
      cases fails with
      | true => rfl
      | false => simp [trail_store, same, Site.journal]
    · rw [Site.journal, answered_finish, if_neg same, List.append_nil]
      rfl
    · exact fun _ _ held => .inl (held_finish held)

/-- Each step reads the trail, writes it with a decision more, or loses a decision. -/
theorem moves_step (site : Site) (step : Step) (sessionId : String) :
    Journal.Moves (Keeps sessionId site step) (site.journal sessionId)
      ((site.step step).journal sessionId) := by
  obtain ⟨id, user, args, fails, rfl, free, after⟩ | ⟨id, fails, request, rfl, waits, after⟩ |
    ⟨after, keeps⟩ := step_cases site step
  · rw [after]
    exact moves_arrive free user args fails sessionId
  · rw [after]
    exact moves_finish waits fails sessionId
  · rw [after]
    exact .quiet (keeps sessionId) rfl rfl fun _ _ held => .inl held

/-- A field of the configuration is as given, in the column and in what the requests under way have
read. -/
def Settled (sessionId name : String) (value : Option Json) (site : Site) : Prop :=
  site.setting sessionId name = value ∧
    ∀ id request, site.requests id = some request → request.sessionId = sessionId →
      request.fields.lookup name = value

section Settings

variable {sessionId name : String} {value : Option Json} {site : Site}

/-- An answer changes no field. -/
theorem Settled.answer (settled : Settled sessionId name value site) (other : String)
    (override : Json) : Settled sessionId name value (site.answer other override) := settled

/-- A request that has read the field, or none, is put under an id. -/
theorem Settled.hold (settled : Settled sessionId name value site) (id : Nat)
    {request : Option Pending} (fresh : ∀ own, request = some own → own.sessionId = sessionId →
      own.fields.lookup name = value) : Settled sessionId name value (site.hold id request) := by
  constructor
  · exact settled.1
  · intro other own waits same
    by_cases here : other = id
    · have put : request = some own := by simpa [Site.hold, here] using waits
      exact fresh own put same
    · have kept : site.requests other = some own := by simpa [Site.hold, here] using waits
      exact settled.2 other own kept same

/-- A request writes back the field that it has read. -/
theorem Settled.store (settled : Settled sessionId name value site) (apart : name ≠ "overrides")
    {id : Nat} {request : Pending} (waits : site.requests id = some request) :
    Settled sessionId name value (site.store request) := by
  constructor
  · by_cases same : request.sessionId = sessionId
    · cases there : site.config sessionId with
      | none =>
        have kept : (site.store request).config sessionId = site.config sessionId := by
          simp [Site.store, same, there]
        rw [Site.setting, kept]
        exact settled.1
      | some column =>
        have written : (site.store request).config sessionId = some request.column := by
          simp [Site.store, same, there]
        rw [Site.setting, written, readConfig_column, Option.bind_some,
          lookup_assign_of_ne apart]
        exact settled.2 id request waits same
    · have kept : (site.store request).config sessionId = site.config sessionId := by
        have apart' : sessionId ≠ request.sessionId := fun equal => same equal.symm
        simp [Site.store, apart']
      rw [Site.setting, kept]
      exact settled.1
  · exact settled.2

/-- No step changes a field other than the trail. -/
theorem Settled.step (apart : name ≠ "overrides") (step : Step)
    (settled : Settled sessionId name value site) :
    Settled sessionId name value (site.step step) := by
  obtain ⟨id, user, args, fails, -, -, after⟩ | ⟨id, fails, request, -, waits, after⟩ |
    ⟨after, -⟩ := step_cases site step
  · rw [after]
    obtain ⟨-, after'⟩ | ⟨other, override, -, ⟨-, after'⟩ | ⟨request, -, read, after'⟩⟩ :=
      arrive_cases site id user args fails
    · rw [after']
      exact settled
    · rw [after']
      exact settled.answer other override
    · rw [after']
      apply settled.hold id
      intro own put same
      cases put
      have found := overrides_read site other read
      have whole := settled.1
      rw [Site.setting, ← same, found.1, found.2.2] at whole
      exact whole
  · have stored : Settled sessionId name value (if fails then site else site.store request) := by
      cases fails with
      | true => exact settled
      | false => exact settled.store apart waits
    rw [after]
    exact (stored.hold id (by simp)).answer request.sessionId request.override
  · rw [after]
    exact settled

end Settings

/-- After any run the trail of a session has some of the answered decisions after the original ones,
in the order of the answers, and all of them exactly when no step lost one; every other field of
the configuration is as it was. -/
theorem overrides_kept (config : String → Option Column) (steps : List Step) (sessionId : String) :
    let start : Site := { config }
    let final := runAll Site.step start steps
    (∃ kept, kept.Sublist (final.answered sessionId) ∧
      final.trail sessionId = start.trail sessionId ++ kept ∧
      (kept = final.answered sessionId ↔
        EveryCall Site.step (Keeps sessionId) start steps)) ∧
      ∀ name, name ≠ "overrides" → final.setting sessionId name = start.setting sessionId name := by
  intro start final
  constructor
  · have moves (site : Site) (step : Step) := moves_step site step sessionId
    exact Journal.runAll_kept moves start steps (fun _ => rfl) rfl
  · intro name apart
    have initial : Settled sessionId name (start.setting sessionId name) start := by
      constructor
      · rfl
      · intro id request waits _
        simp [start] at waits
    have ends : Settled sessionId name (start.setting sessionId name) final :=
      runAll_invariant (Settled sessionId name (start.setting sessionId name))
        (fun _ step settled => settled.step apart step) steps start initial
    exact ends.1

end FlockOs.SessionOverrides
