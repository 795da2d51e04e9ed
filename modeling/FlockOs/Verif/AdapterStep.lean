import FlockOs.EngagementAdapters

/-!
# What each engagement gateway keeps

The texts in the log of the site are those of payloads, and its nonces are those of the log. The
indexes of the reference describe its rows. Every call keeps both.
-/

namespace FlockOs.EngagementAdapters

open Lib Engagement EngagementStage
open EngagementFrappe (nonceMember)

section Texts

variable {codec : Codec} {cache : Cache} {sessionId : String} {row : Participation}

/-- Two payloads with one text are one. -/
theorem Codec.dumps_injective (codec : Codec) : Function.Injective codec.dumps := by
  intro left right same
  have read := codec.loads_dumps left
  rw [same, codec.loads_dumps] at read
  exact (Option.some.inj read).symm

/-- The defaults leave the nonce alone. -/
theorem nonceMember_fromPayload (payload : Participation) :
    nonceMember (participationFromPayload payload) = nonceMember payload := rfl

/-- The defaults leave a row alone exactly when its role is set. -/
theorem fromPayload_eq_iff : participationFromPayload row = row ↔ row.role ≠ "" := by
  constructor
  · intro same unset
    have role : (truthy (some row.role)).getD "member" = row.role :=
      congrArg Participation.role same
    rw [unset] at role
    exact absurd role (by decide)
  · intro given
    rw [participationFromPayload, truthy_some given]
    rfl

end Texts

/-- The sets of a site describe its log. -/
structure CacheSound (codec : Codec) (cache : Cache) : Prop where
  /-- The log holds texts of payloads. -/
  texts : ∀ sessionId, ∀ text ∈ (cache.log sessionId).members, ∃ row, codec.dumps row = text
  /-- The nonces are those of the log. -/
  nonces : ∀ sessionId member, member ∈ cache.nonceSeen sessionId ↔
    ∃ row ∈ cache.payloads codec sessionId, nonceMember row = member
  /-- A time stands under itself. -/
  buckets : ∀ key, ∀ entry ∈ (cache.throttle key).entries, entry.1 = entry.2

/-- The indexes of the reference describe its rows. -/
structure ReferenceSound (reference : Reference) : Prop where
  /-- The rows of a session are its own. -/
  own : ∀ sessionId, ∀ row ∈ reference.store.participations sessionId, row.sessionId = sessionId
  /-- The nonces are those of the rows. -/
  nonces : ∀ key, key ∈ reference.store.nonceSeen ↔
    ∃ row ∈ reference.store.participations key.1, InMemory.nonceKey row = key
  /-- The attendees are those of the rows in the window. -/
  attendees : ∀ sessionId, reference.attendees sessionId =
    firstPerKey id (((reference.store.participations sessionId).filter fun row =>
      !row.statusFlags.outOfScope).map (·.attendeeKey))
  /-- The attendees of an address are those of its rows. -/
  addresses : ∀ sessionId address, reference.store.ipAttendees (sessionId, address) =
    if address = "" then ∅
    else (((reference.store.participations sessionId).filter fun row =>
      row.ipAddress = some address).map (·.attendeeKey)).toFinset

section Updates

variable {codec : Codec} {cache : Cache} {row : Participation} {sessionId : String}

@[simp] theorem append_log_self : (cache.append codec row).log row.sessionId =
    (cache.log row.sessionId).add row.submittedAt (codec.dumps row) := Function.update_self ..

@[simp] theorem append_log_of_ne (other : sessionId ≠ row.sessionId) :
    (cache.append codec row).log sessionId = cache.log sessionId := Function.update_of_ne other ..

@[simp] theorem append_nonceSeen_self : (cache.append codec row).nonceSeen row.sessionId =
    insert (nonceMember row) (cache.nonceSeen row.sessionId) := Function.update_self ..

@[simp] theorem append_nonceSeen_of_ne (other : sessionId ≠ row.sessionId) :
    (cache.append codec row).nonceSeen sessionId = cache.nonceSeen sessionId :=
  Function.update_of_ne other ..

@[simp] theorem setBucket_throttle_self (key : String) (bucket : SortedSet Rat Rat) :
    (cache.setBucket key bucket).throttle key = bucket := Function.update_self ..

@[simp] theorem setBucket_throttle_of_ne {key other : String} (apart : other ≠ key)
    (bucket : SortedSet Rat Rat) :
    (cache.setBucket key bucket).throttle other = cache.throttle other :=
  Function.update_of_ne apart ..

end Updates

section CacheKept

variable {codec : Codec} {cache : Cache}

/-- The payloads of a set of texts are those whose text it holds. -/
theorem mem_loads {set : SortedSet Rat String}
    (texts : ∀ text ∈ set.members, ∃ row, codec.dumps row = text) (row : Participation) :
    row ∈ set.members.filterMap codec.loads ↔ codec.dumps row ∈ set.members := by
  rw [List.mem_filterMap]
  constructor
  · intro ⟨text, there, read⟩
    obtain ⟨other, written⟩ := texts text there
    rw [← written, codec.loads_dumps] at read
    rw [← Option.some.inj read, written]
    exact there
  · intro there
    exact ⟨_, there, codec.loads_dumps row⟩

/-- A site without a log is sound. -/
theorem CacheSound.start (rows : String → Option SessionRow) :
    CacheSound codec { sessions := rows } where
  texts _ _ there := by cases there
  nonces _ _ := by
    constructor
    · intro there
      exact absurd there (Finset.notMem_empty _)
    · intro ⟨_, there, _⟩
      cases there
  buckets _ _ there := by cases there

/-- A change of the sessions leaves the sets alone. -/
theorem CacheSound.withStatus (sound : CacheSound codec cache) (sessionId : String)
    (status : SessionStatus) (stamp : Option Rat) :
    CacheSound codec (cache.withStatus sessionId status stamp) :=
  ⟨sound.texts, sound.nonces, sound.buckets⟩

/-- A bucket whose times stand under themselves keeps a site sound. -/
theorem CacheSound.setBucket (sound : CacheSound codec cache) (key : String)
    {bucket : SortedSet Rat Rat} (own : ∀ entry ∈ bucket.entries, entry.1 = entry.2) :
    CacheSound codec (cache.setBucket key bucket) := by
  refine ⟨sound.texts, sound.nonces, fun other entry there => ?_⟩
  by_cases same : other = key
  · rw [same, setBucket_throttle_self] at there
    exact own entry there
  · rw [setBucket_throttle_of_ne same] at there
    exact sound.buckets other entry there

/-- What is left of a bucket. -/
theorem CacheSound.recent (sound : CacheSound codec cache) (key : String) (now : Rat) :
    ∀ entry ∈ (cache.recent key now).entries, entry.1 = entry.2 :=
  fun entry there => sound.buckets key entry (List.mem_of_mem_filter there)

/-- A time added to a bucket stands under itself. -/
theorem entries_add {bucket : SortedSet Rat Rat} (now : Rat)
    (own : ∀ entry ∈ bucket.entries, entry.1 = entry.2) :
    ∀ entry ∈ (bucket.add now now).entries, entry.1 = entry.2 := by
  intro entry there
  cases List.mem_orderedInsert _ |>.mp there with
  | inl new => rw [new]
  | inr old => exact own entry (List.mem_of_mem_filter old)

/-- The texts of a log after a new row. -/
theorem texts_add {set : SortedSet Rat String} (row : Participation)
    (texts : ∀ text ∈ set.members, ∃ row, codec.dumps row = text) :
    ∀ text ∈ (set.add row.submittedAt (codec.dumps row)).members,
      ∃ row, codec.dumps row = text := by
  intro text there
  cases SortedSet.mem_members_add.mp there with
  | inl new => exact ⟨row, new.symm⟩
  | inr old => exact texts text old

/-- A new row keeps a site sound. -/
theorem CacheSound.append (sound : CacheSound codec cache) (row : Participation) :
    CacheSound codec (cache.append codec row) := by
  refine ⟨fun sessionId text there => ?_, fun sessionId member => ?_, sound.buckets⟩
  · by_cases same : sessionId = row.sessionId
    · rw [same, append_log_self] at there
      exact texts_add row (sound.texts row.sessionId) text there
    · rw [append_log_of_ne same] at there
      exact sound.texts sessionId text there
  · by_cases same : sessionId = row.sessionId
    · have before := mem_loads (sound.texts row.sessionId)
      have after := mem_loads (texts_add row (sound.texts row.sessionId))
      rw [same, append_nonceSeen_self, Finset.mem_insert, sound.nonces, Cache.payloads,
        Cache.payloads, append_log_self]
      constructor
      · intro either
        cases either with
        | inl new =>
          exact ⟨row, (after row).mpr (SortedSet.mem_members_add.mpr (.inl rfl)), new.symm⟩
        | inr old =>
          obtain ⟨other, there, own⟩ := old
          exact ⟨other, (after other).mpr
            (SortedSet.mem_members_add.mpr (.inr ((before other).mp there))), own⟩
      · intro ⟨other, there, own⟩
        cases SortedSet.mem_members_add.mp ((after other).mp there) with
        | inl new =>
          rw [codec.dumps_injective new] at own
          exact .inl own.symm
        | inr old => exact .inr ⟨other, (before other).mpr old, own⟩
    · rw [append_nonceSeen_of_ne same, sound.nonces, Cache.payloads, Cache.payloads,
        append_log_of_ne same]

/-- Every call keeps a site sound. -/
theorem CacheSound.perform (sound : CacheSound codec cache) (zone : Rat → Rat)
    (call : GatewayCall) : CacheSound codec (cache.perform codec zone call).2 := by
  cases call with
  | setSessionStatus sessionId status now clock =>
    cases now with
    | none => exact sound.withStatus sessionId status none
    | some now =>
      rw [Cache.perform, Cache.setSessionStatus]
      cases fromTimestamp now with
      | error raised => exact sound
      | ok stamp => exact sound.withStatus sessionId status (some stamp)
  | recordParticipation row =>
    rw [Cache.perform, Cache.recordParticipation]
    split
    · exact sound
    · exact sound.append row
  | throttleAllows key now _ maxPerSecond =>
    rw [Cache.perform, Cache.throttleAllows]
    split
    · exact sound.setBucket key (sound.recent key now)
    · exact sound.setBucket key (entries_add now (sound.recent key now))
  | getSession | hasAttendee | attendees | participations | sameIpAttendeeCount => exact sound

end CacheKept

section ReferenceKept

variable {reference : Reference} {row : Participation} {sessionId : String}

@[simp] theorem append_participations_self (store : InMemory) :
    (store.append row).participations row.sessionId =
      store.participations row.sessionId ++ [row] := Function.update_self ..

@[simp] theorem append_participations_of_ne (store : InMemory) (other : sessionId ≠ row.sessionId) :
    (store.append row).participations sessionId = store.participations sessionId :=
  Function.update_of_ne other ..

/-- A reference without rows is sound. -/
theorem ReferenceSound.start (sessions : String → Option EngagementSession) :
    ReferenceSound { store := { sessions := sessions } } where
  own _ _ there := by cases there
  nonces _ := by
    constructor
    · intro there
      exact absurd there (Finset.notMem_empty _)
    · intro ⟨_, there, _⟩
      cases there
  attendees _ := rfl
  addresses _ address := by
    by_cases unset : address = ""
    · rw [if_pos unset]
    · rw [if_neg unset]
      rfl

/-- The attendee index after a new row describes the rows. -/
theorem indexed_attendees (sound : ReferenceSound reference) (row : Participation)
    (sessionId : String) :
    reference.indexed row sessionId =
      firstPerKey id ((((reference.store.append row).participations sessionId).filter fun row =>
        !row.statusFlags.outOfScope).map (·.attendeeKey)) := by
  by_cases same : sessionId = row.sessionId
  · rw [same, append_participations_self, List.filter_append, List.map_append, Reference.indexed]
    cases outside : row.statusFlags.outOfScope with
    | true =>
      rw [if_pos rfl, sound.attendees, List.filter_cons_of_neg (by simp [outside]),
        List.filter_nil, List.map_nil, List.append_nil]
    | false =>
      rw [if_neg Bool.false_ne_true, Function.update_self,
        List.filter_cons_of_pos (by simp [outside]), List.filter_nil, List.map_singleton,
        firstPerKey_concat, Reference.joinKeys, sound.attendees, List.map_id, id_eq]
      by_cases known : row.attendeeKey ∈
          ((reference.store.participations row.sessionId).filter fun row =>
            !row.statusFlags.outOfScope).map (·.attendeeKey)
      · rw [if_pos (mem_firstPerKey_id.mpr known), if_pos known, List.append_nil]
      · rw [if_neg (mt mem_firstPerKey_id.mp known), if_neg known]
  · rw [append_participations_of_ne _ same, Reference.indexed]
    split
    · exact sound.attendees sessionId
    · rw [Function.update_of_ne same]
      exact sound.attendees sessionId

/-- An address is seen anew exactly by a row that carries it. -/
theorem seenFrom_eq (store : InMemory) {address : String} (given : address ≠ "") :
    store.seenFrom row (row.sessionId, address) =
      store.ipAttendees (row.sessionId, address) ∪
        (([row].filter fun row => row.ipAddress = some address).map (·.attendeeKey)).toFinset := by
  rw [InMemory.seenFrom]
  cases carried : truthy row.ipAddress with
  | none =>
    have other : ¬ row.ipAddress = some address := by
      intro same
      rw [same, truthy_some given] at carried
      cases carried
    simp [other]
  | some own =>
    have stored := truthy_eq_some carried
    by_cases same : own = address
    · rw [same] at stored ⊢
      simp [stored, Finset.union_comm]
    · have apart : (row.sessionId, address) ≠ (row.sessionId, own) := by
        intro pair
        exact same (Prod.mk.inj pair).2.symm
      simp [stored, same, Function.update_of_ne apart]

/-- The attendees by address after a new row describe the rows. -/
theorem seenFrom_addresses (sound : ReferenceSound reference) (row : Participation)
    (sessionId address : String) :
    reference.store.seenFrom row (sessionId, address) =
      if address = "" then ∅
      else ((((reference.store.append row).participations sessionId).filter fun row =>
        row.ipAddress = some address).map (·.attendeeKey)).toFinset := by
  have before := sound.addresses sessionId address
  have elsewhere (apart : ∀ own, truthy row.ipAddress = some own →
      (sessionId, address) ≠ (row.sessionId, own)) :
      reference.store.seenFrom row (sessionId, address) =
        reference.store.ipAttendees (sessionId, address) := by
    rw [InMemory.seenFrom]
    cases carried : truthy row.ipAddress with
    | none => rfl
    | some own => exact Function.update_of_ne (apart own carried) ..
  by_cases unset : address = ""
  · rw [if_pos unset] at before ⊢
    rw [← before]
    refine elsewhere fun own carried pair => truthy_nonempty carried ?_
    rw [← (Prod.mk.inj pair).2, unset]
  · rw [if_neg unset] at before ⊢
    by_cases same : sessionId = row.sessionId
    · rw [same] at before ⊢
      rw [seenFrom_eq _ unset, before, append_participations_self, List.filter_append,
        List.map_append, List.toFinset_append]
    · rw [append_participations_of_ne _ same, ← before]
      exact elsewhere fun own _ pair => same (Prod.mk.inj pair).1

/-- A new row keeps a reference sound. -/
theorem ReferenceSound.append (sound : ReferenceSound reference) (row : Participation) :
    ReferenceSound
      { store := reference.store.append row
        attendees := reference.indexed row } := by
  refine ⟨fun sessionId other there => ?_, fun key => ?_, indexed_attendees sound row,
    seenFrom_addresses sound row⟩
  · by_cases same : sessionId = row.sessionId
    · rw [same, append_participations_self] at there
      cases List.mem_append.mp there with
      | inl old => rw [same]; exact sound.own row.sessionId other old
      | inr new => rw [same, List.mem_singleton.mp new]
    · rw [append_participations_of_ne _ same] at there
      exact sound.own sessionId other there
  · show key ∈ insert (InMemory.nonceKey row) reference.store.nonceSeen ↔ _
    rw [Finset.mem_insert, sound.nonces]
    by_cases same : key.1 = row.sessionId
    · rw [same, append_participations_self]
      simp only [List.mem_append, List.mem_singleton, or_and_right, exists_or,
        exists_eq_left]
      rw [or_comm, @eq_comm _ key]
    · rw [append_participations_of_ne _ same]
      refine or_iff_right fun new => same ?_
      rw [new]
      rfl

/-- Every call keeps a reference sound. -/
theorem ReferenceSound.perform (sound : ReferenceSound reference) (call : GatewayCall) :
    ReferenceSound (reference.perform call).2 := by
  cases call with
  | setSessionStatus sessionId status now clock =>
    rw [Reference.perform, Reference.setSessionStatus, InMemory.setSessionStatus]
    cases reference.store.sessions sessionId with
    | none => exact sound
    | some session => exact ⟨sound.own, sound.nonces, sound.attendees, sound.addresses⟩
  | recordParticipation row =>
    rw [Reference.perform, Reference.recordParticipation]
    split
    · exact sound
    · exact sound.append row
  | throttleAllows key now _ maxPerSecond =>
    rw [Reference.perform, Reference.throttleAllows]
    split
    · exact ⟨sound.own, sound.nonces, sound.attendees, sound.addresses⟩
    · exact ⟨sound.own, sound.nonces, sound.attendees, sound.addresses⟩
  | getSession | hasAttendee | attendees | participations | sameIpAttendeeCount => exact sound

end ReferenceKept

end FlockOs.EngagementAdapters
