import FlockOs.AuthCache
import FlockOs.Lib.Recency

/-!
# The cache as a bounded map of recent entries

A run of the cache is logged: what was stored, which keys were hit and which entries were evicted.
The entries stand in the order of their last uses, so the first of them is the oldest; each is what
was last stored under its key, and a stored entry that is not there was evicted or has expired.
-/

namespace FlockOs

open Lib

/-- A call of the cache, with the time of its `Date.now()`. -/
inductive CacheCall where
  | get (key : String) (now : Int)
  | set (key : String) (value : SocketIdentity) (now : Int)
deriving DecidableEq, Repr

/-- The time of a call. -/
def CacheCall.now : CacheCall → Int
  | .get _ now => now
  | .set _ _ now => now

/-- What happened to a key. -/
inductive CacheEvent where
  /-- An entry was stored. -/
  | stored (key : String) (value : SocketIdentity) (now : Int)
  /-- The entry was returned. -/
  | hit (key : String)
  /-- The entry was dropped to make room. -/
  | evicted (key : String)
deriving DecidableEq, Repr

namespace CacheEvent

/-- Stores and hits use their key. -/
def uses : CacheEvent → String → Bool
  | .stored key _ _, wanted => key = wanted
  | .hit key, wanted => key = wanted
  | .evicted _, _ => false

/-- The last entry stored under a key and its time, unless it was evicted since. -/
def live : List CacheEvent → String → Option (SocketIdentity × Int)
  | [], _ => none
  | .stored key value now :: earlier, wanted =>
    if key = wanted then some (value, now) else live earlier wanted
  | .hit _ :: earlier, wanted => live earlier wanted
  | .evicted key :: earlier, wanted => if key = wanted then none else live earlier wanted

end CacheEvent

open CacheEvent (uses live)

/-- A cache and what has happened to it, the latest event first. -/
structure CacheRun where
  /-- The cache. -/
  cache : AuthCache
  /-- The events. -/
  log : List CacheEvent := []

namespace AuthCache

/-- The entries that go to make room for an entry of the key. -/
def evictions (cache : AuthCache) (key : String) : List AuthEntry :=
  let others := cache.entries.remove key
  others.rows.filter fun entry => entry ∉ (evict cache.max others).rows

/-- A logged call. -/
def step (run : CacheRun) : CacheCall → CacheRun
  | .get key now =>
    match run.cache.get key now with
    | (some _, cache) => ⟨cache, .hit key :: run.log⟩
    | (none, cache) => ⟨cache, run.log⟩
  | .set key value now =>
    ⟨run.cache.set key value now, .stored key value now ::
      ((run.cache.evictions key).map (.evicted ·.key) ++ run.log)⟩

/-- What a call does: a lookup returns the last entry stored under its key if it was stored less
than the lifetime ago and was not evicted, and nothing otherwise; a store evicts only entries that
were used before every other entry that was there. -/
def Meets (ttlMs : Int) (run : CacheRun) : CacheCall → Prop
  | .get key now =>
    (run.cache.get key now).1.map (·.identity) =
      ((live run.log key).filter fun (_, stored) => now < stored + ttlMs).map (·.1)
  | .set key _ _ =>
    ∀ gone ∈ run.cache.evictions key, ∀ other ∈ (run.cache.entries.remove key).rows,
      other ≠ gone → lastUse uses run.log gone.key < lastUse uses run.log other.key

/-- There is room in the end. -/
theorem length_roomy_lt {max : Int} (bounded : 1 ≤ max) :
    ∀ rows : List AuthEntry, ((roomy max rows).length : Int) < max
  | [] => Int.lt_of_lt_of_le Int.zero_lt_one bounded
  | oldest :: rest => by
    rw [roomy]
    split
    next => exact length_roomy_lt bounded rest
    next small => exact Int.not_le.mp small

/-- Where there is room nothing goes. -/
theorem roomy_of_lt {max : Int} {rows : List AuthEntry} (room : (rows.length : Int) < max) :
    roomy max rows = rows := by
  cases rows with
  | nil => rfl
  | cons oldest rest => rw [roomy, if_neg (Int.not_le.mpr room)]

/-- From entries that are not too many at most the first one goes. -/
theorem roomy_cases {max : Int} {rows : List AuthEntry} (fits : (rows.length : Int) ≤ max) :
    roomy max rows = rows ∨ ∃ oldest, rows = oldest :: roomy max rows := by
  cases rows with
  | nil => exact .inl rfl
  | cons oldest rest =>
    rw [roomy]
    split
    next =>
      have room : (rest.length : Int) < max := by
        rw [List.length_cons] at fits
        omega
      exact .inr ⟨oldest, by rw [roomy_of_lt room]⟩
    next => exact .inl rfl

/-- Removing an entry keeps the others in their order. -/
theorem remove_sublist (entries : Table AuthEntry AuthEntry.key) (key : String) :
    (entries.remove key).rows.Sublist entries.rows := List.filter_sublist

/-- The entries of a cache, given its log, at a time. -/
structure Held (clock : Int) (run : CacheRun) : Prop where
  /-- The bound is kept. -/
  sized : (run.cache.entries.rows.length : Int) ≤ run.cache.max
  /-- Every entry is the last one stored under its key. -/
  kept : ∀ entry ∈ run.cache.entries.rows, ∃ stored,
    live run.log entry.key = some (entry.identity, stored) ∧
      entry.exp = stored + run.cache.ttlMs
  /-- What was stored last and is not there has expired, if it was not evicted. -/
  expired : ∀ key identity stored, live run.log key = some (identity, stored) →
    key ∉ run.cache.entries.rows.map AuthEntry.key → stored + run.cache.ttlMs ≤ clock
  /-- The entries stand in the order of their last uses. -/
  ordered : run.cache.entries.rows.Pairwise fun first second =>
    lastUse uses run.log first.key < lastUse uses run.log second.key

variable {run : CacheRun} {clock now : Int} {key : String}

/-- Time passes. -/
theorem Held.later (held : Held clock run) (later : clock ≤ now) : Held now run :=
  { held with
    expired := fun key identity stored last absent =>
      Int.le_trans (held.expired key identity stored last absent) later }

/-- A lookup does what it should. -/
theorem Held.meets_get (held : Held clock run) (later : clock ≤ now) :
    Meets run.cache.ttlMs run (.get key now) := by
  rw [Meets, get]
  cases found : run.cache.entries.find? key with
  | none =>
    have absent : key ∉ run.cache.entries.rows.map AuthEntry.key := by
      intro inside
      obtain ⟨entry, member, same⟩ := List.mem_map.mp inside
      exact (run.cache.entries.find?_eq_none).mp found entry member same
    cases last : live run.log key with
    | none => rfl
    | some store =>
      have past := Int.le_trans (held.expired key store.1 store.2 last absent) later
      rw [Option.filter_some, if_neg]
      · rfl
      · simpa using past
  | some entry =>
    obtain ⟨inside, same⟩ := (run.cache.entries.find?_eq_some).mp found
    obtain ⟨stored, last, exp⟩ := held.kept entry inside
    rw [← same, last, Option.filter_some]
    dsimp only
    rw [exp]
    by_cases past : stored + run.cache.ttlMs ≤ now
    · rw [if_pos past, if_neg (by simpa using past)]
      rfl
    · rw [if_neg past, if_pos (by simpa using past)]
      rfl

/-- A store evicts the oldest entry. -/
theorem Held.meets_set (held : Held clock run) (ttlMs : Int) (value : SocketIdentity) :
    Meets ttlMs run (.set key value now) := by
  intro gone evicted other there apart
  obtain ⟨inside, dropped⟩ := List.mem_filter.mp evicted
  have left : gone ∉ roomy run.cache.max (run.cache.entries.remove key).rows :=
    of_decide_eq_true dropped
  have fits : ((run.cache.entries.remove key).rows.length : Int) ≤ run.cache.max :=
    Int.le_trans (Int.ofNat_le.mpr (List.length_filter_le _ _)) held.sized
  have ordered := held.ordered.sublist (remove_sublist run.cache.entries key)
  rcases roomy_cases fits with all | ⟨oldest, first⟩
  · rw [all] at left
    exact absurd inside left
  · rw [first] at inside there ordered
    obtain rfl := (List.mem_cons.mp inside).resolve_right left
    have later := (List.mem_cons.mp there).resolve_left apart
    exact (List.pairwise_cons.mp ordered).1 other later

/-- The entries with one put at the end. -/
theorem mem_promote_iff {entries : Table AuthEntry AuthEntry.key} {entry other : AuthEntry} :
    other ∈ (promote entries entry).rows ↔
      (other ∈ entries.rows ∧ other.key ≠ entry.key) ∨ other = entry := by
  rw [promote, Table.mem_add, Table.mem_remove]

/-- There are fewer entries without one that is there. -/
theorem length_remove_lt {entries : Table AuthEntry AuthEntry.key} {entry : AuthEntry}
    (inside : entry ∈ entries.rows) :
    (entries.remove entry.key).rows.length < entries.rows.length :=
  List.length_filter_lt_length_iff_exists.mpr ⟨entry, inside, by simp⟩

/-- A lookup keeps the invariant. -/
theorem Held.get (held : Held clock run) (later : clock ≤ now) :
    Held now (step run (.get key now)) := by
  rw [step, AuthCache.get]
  cases found : run.cache.entries.find? key with
  | none => exact held.later later
  | some entry =>
    obtain ⟨inside, rfl⟩ := (run.cache.entries.find?_eq_some).mp found
    obtain ⟨stored, last, exp⟩ := held.kept entry inside
    dsimp only
    by_cases past : entry.exp ≤ now
    · -- The entry has expired and is dropped.
      rw [if_pos past]
      refine ⟨?_, ?_, ?_, held.ordered.sublist (remove_sublist _ _)⟩
      · exact Int.le_trans (Int.ofNat_le.mpr (Nat.le_of_lt (length_remove_lt inside))) held.sized
      · exact fun other member => held.kept other (Table.mem_remove.mp member).1
      · intro key identity time known absent
        by_cases same : key = entry.key
        · obtain rfl := same
          cases last.symm.trans known
          exact exp ▸ past
        · refine Int.le_trans (held.expired key identity time known fun there => ?_) later
          obtain ⟨other, member, rfl⟩ := List.mem_map.mp there
          exact absent (List.mem_map_of_mem (Table.mem_remove.mpr ⟨member, same⟩))
    · -- The entry is put at the end.
      rw [if_neg past]
      refine ⟨?_, ?_, ?_, ?_⟩
      · show ((((run.cache.entries.remove entry.key).rows ++ [entry]).length : Nat) : Int) ≤ _
        have fewer := length_remove_lt inside
        have sized := held.sized
        rw [List.length_append, List.length_singleton]
        show _ ≤ run.cache.max
        omega
      · intro other member
        rcases mem_promote_iff.mp member with ⟨there, _⟩ | rfl
        · exact held.kept other there
        · exact held.kept other inside
      · intro key identity time known absent
        refine Int.le_trans (held.expired key identity time known fun there => absent ?_) later
        obtain ⟨other, member, rfl⟩ := List.mem_map.mp there
        by_cases same : other.key = entry.key
        · exact List.mem_map.mpr ⟨entry, mem_promote_iff.mpr (.inr rfl), same.symm⟩
        · exact List.mem_map_of_mem (mem_promote_iff.mpr (.inl ⟨member, same⟩))
      · have idle : ∀ other ∈ (run.cache.entries.remove entry.key).rows,
            ∀ event ∈ ([] : List CacheEvent), uses event other.key = false := fun _ _ => nofun
        refine pairwise_lastUse_concat (held.ordered.sublist (remove_sublist _ _)) idle
          (decide_eq_true rfl) fun other member => ?_
        exact decide_eq_false (Ne.symm (Table.mem_remove.mp member).2)

/-- Evictions of other keys leave what was stored last. -/
theorem live_append_evicted {gone : List AuthEntry} {log : List CacheEvent}
    (others : ∀ entry ∈ gone, entry.key ≠ key) :
    live (gone.map (.evicted ·.key) ++ log) key = live log key := by
  induction gone with
  | nil => rfl
  | cons entry gone ih =>
    obtain ⟨first, rest⟩ := List.forall_mem_cons.mp others
    show (if entry.key = key then none else live (gone.map (.evicted ·.key) ++ log) key) = _
    rw [if_neg first, ih rest]

/-- Nothing is live under a key that is evicted. -/
theorem not_evicted_of_live {gone : List AuthEntry} {log : List CacheEvent}
    {store : SocketIdentity × Int}
    (known : live (gone.map (.evicted ·.key) ++ log) key = some store) :
    ∀ entry ∈ gone, entry.key ≠ key := by
  induction gone with
  | nil => exact nofun
  | cons entry gone ih =>
    change (if entry.key = key then none else live (gone.map (.evicted ·.key) ++ log) key) = _
      at known
    split at known
    next => cases known
    next other => exact List.forall_mem_cons.mpr ⟨other, ih known⟩

/-- An entry that stays is not evicted. -/
theorem evictions_apart {cache : AuthCache} {other : AuthEntry}
    (left : other ∈ (evict cache.max (cache.entries.remove key)).rows) :
    ∀ gone ∈ cache.evictions key, gone.key ≠ other.key := by
  intro gone member same
  obtain ⟨inside, dropped⟩ := List.mem_filter.mp member
  have there := (roomy_sublist cache.max _).subset left
  rw [(cache.entries.remove key).eq_of_key inside there same] at dropped
  exact of_decide_eq_true dropped left

/-- The entries after a store. -/
theorem mem_set_iff {cache : AuthCache} {value : SocketIdentity} {other : AuthEntry} :
    other ∈ (cache.set key value now).entries.rows ↔
      other ∈ (evict cache.max (cache.entries.remove key)).rows ∨
        other = ⟨key, value, now + cache.ttlMs⟩ :=
  Table.mem_add (fresh_of_removed (roomy_sublist cache.max (cache.entries.remove key).rows))

/-- A store keeps the invariant. -/
theorem Held.set (held : Held clock run) (bounded : 1 ≤ run.cache.max) (later : clock ≤ now)
    (value : SocketIdentity) : Held now (step run (.set key value now)) := by
  have others : ∀ other ∈ (evict run.cache.max (run.cache.entries.remove key)).rows,
      other ∈ run.cache.entries.rows ∧ other.key ≠ key := fun other left =>
    Table.mem_remove.mp ((roomy_sublist run.cache.max _).subset left)
  refine ⟨?_, ?_, ?_, ?_⟩
  · show (((roomy run.cache.max (run.cache.entries.remove key).rows ++
      [AuthEntry.mk key value (now + run.cache.ttlMs)]).length : Nat) : Int) ≤ run.cache.max
    have room := length_roomy_lt bounded (run.cache.entries.remove key).rows
    rw [List.length_append, List.length_singleton]
    omega
  · intro other member
    rcases mem_set_iff.mp member with left | rfl
    · obtain ⟨there, apart⟩ := others other left
      obtain ⟨stored, last, exp⟩ := held.kept other there
      refine ⟨stored, ?_, exp⟩
      show (if key = other.key then _ else live _ other.key) = _
      rw [if_neg (Ne.symm apart), live_append_evicted (evictions_apart left), last]
    · exact ⟨now, if_pos rfl, rfl⟩
  · intro wanted identity time known absent
    change (if key = wanted then _ else live _ wanted) = _ at known
    split at known
    next same =>
      obtain rfl := same
      exact absurd (List.mem_map.mpr ⟨_, mem_set_iff.mpr (.inr rfl), rfl⟩) absent
    next apart =>
      have evicted := not_evicted_of_live known
      rw [live_append_evicted evicted] at known
      refine Int.le_trans (held.expired wanted identity time known fun there => absent ?_) later
      obtain ⟨other, member, rfl⟩ := List.mem_map.mp there
      have inside := Table.mem_remove.mpr ⟨member, Ne.symm apart⟩
      refine List.mem_map_of_mem (mem_set_iff.mpr (.inl ?_))
      by_contra dropped
      exact evicted other (List.mem_filter.mpr ⟨inside, decide_eq_true dropped⟩) rfl
  · refine pairwise_lastUse_concat ?_ ?_ (decide_eq_true rfl) ?_
    · exact held.ordered.sublist ((roomy_sublist _ _).trans (remove_sublist _ _))
    · intro other _ event member
      obtain ⟨gone, _, rfl⟩ := List.mem_map.mp member
      rfl
    · exact fun other left => decide_eq_false (Ne.symm (others other left).2)

/-- A step fixes the bound and the lifetime. -/
theorem step_fixed (run : CacheRun) (call : CacheCall) :
    (step run call).cache.max = run.cache.max ∧ (step run call).cache.ttlMs = run.cache.ttlMs := by
  cases call with
  | get key now =>
    rw [step, AuthCache.get]
    cases run.cache.entries.find? key with
    | none => exact ⟨rfl, rfl⟩
    | some entry =>
      dsimp only
      by_cases past : entry.exp ≤ now
      · rw [if_pos past]
        exact ⟨rfl, rfl⟩
      · rw [if_neg past]
        exact ⟨rfl, rfl⟩
  | set key value now => exact ⟨rfl, rfl⟩

/-- A step keeps the invariant, and does what it should. -/
theorem Held.step (held : Held clock run) (bounded : 1 ≤ run.cache.max) (call : CacheCall)
    (later : clock ≤ call.now) :
    Meets run.cache.ttlMs run call ∧ Held call.now (step run call) := by
  cases call with
  | get key now => exact ⟨held.meets_get later, held.get later⟩
  | set key value now => exact ⟨held.meets_set _ value, held.set bounded later value⟩

/-- A run does what it should on a clock that does not go back. -/
theorem Held.throughout {ttlMs max : Int} (bounded : 1 ≤ max) {calls : List CacheCall} {run : CacheRun}
    {clock : Int} (held : Held clock run) (sameMax : run.cache.max = max)
    (sameTtl : run.cache.ttlMs = ttlMs)
    (forward : (clock :: calls.map CacheCall.now).Pairwise (· ≤ ·)) :
    EveryState AuthCache.step (fun run => (run.cache.entries.rows.length : Int) ≤ max) run calls ∧
      EveryCall AuthCache.step (Meets ttlMs) run calls := by
  have sized := held.sized
  rw [sameMax] at sized
  induction calls generalizing run clock with
  | nil => exact ⟨sized, trivial⟩
  | cons call calls ih =>
    obtain ⟨later, rest⟩ := List.pairwise_cons.mp forward
    obtain ⟨meets, next⟩ := held.step (sameMax ▸ bounded) call (later _ List.mem_cons_self)
    obtain ⟨fixedMax, fixedTtl⟩ := step_fixed run call
    have sizedNext := next.sized
    rw [fixedMax.trans sameMax] at sizedNext
    obtain ⟨states, met⟩ := ih next (fixedMax.trans sameMax) (fixedTtl.trans sameTtl) rest sizedNext
    rw [sameTtl] at meets
    exact ⟨⟨sized, states⟩, meets, met⟩

/-- An empty cache holds nothing. -/
theorem held_empty {ttlMs max : Int} (bounded : 1 ≤ max) (clock : Int) :
    Held clock ⟨{ ttlMs, max }, []⟩ :=
  ⟨Int.le_trans Int.one_nonneg bounded, nofun, fun _ _ _ => nofun, List.Pairwise.nil⟩

/-- Over every sequence of calls on a clock that does not go back, the cache never has more entries
than its bound, a lookup returns the last entry stored under its key exactly if it was stored less
than the lifetime ago and was not evicted, and a store evicts only the entry whose last store or
hit is the oldest. -/
theorem bounded_ttl_lru (ttlMs max : Int) (bounded : 1 ≤ max) (calls : List CacheCall)
    (forward : (calls.map CacheCall.now).Pairwise (· ≤ ·)) :
    EveryState step (fun run => (run.cache.entries.rows.length : Int) ≤ max)
        ⟨{ ttlMs, max }, []⟩ calls ∧
      EveryCall step (Meets ttlMs) ⟨{ ttlMs, max }, []⟩ calls := by
  cases calls with
  | nil => exact ⟨(held_empty bounded 0).sized, trivial⟩
  | cons call calls =>
    refine (held_empty bounded call.now).throughout bounded rfl rfl (List.pairwise_cons.mpr ⟨?_, forward⟩)
    intro now member
    rcases List.mem_cons.mp member with rfl | member
    · exact Int.le_refl _
    · exact (List.pairwise_cons.mp forward).1 now member

/-- A bound of two: the second key goes, for the first was hit after it was stored. -/
theorem bounded_ttl_lru_two :
    EveryState step (fun run => (run.cache.entries.rows.length : Int) ≤ 2)
        ⟨{ ttlMs := 60, max := 2 }, []⟩
        [.set "S-1" ⟨some "ann", none, some "S-1", none⟩ 0,
          .set "S-2" ⟨some "bob", none, some "S-2", none⟩ 5, .get "S-1" 10,
          .set "S-3" ⟨some "cat", none, some "S-3", none⟩ 10, .get "S-2" 20, .get "S-1" 60] ∧
      EveryCall step (Meets 60) ⟨{ ttlMs := 60, max := 2 }, []⟩
        [.set "S-1" ⟨some "ann", none, some "S-1", none⟩ 0,
          .set "S-2" ⟨some "bob", none, some "S-2", none⟩ 5, .get "S-1" 10,
          .set "S-3" ⟨some "cat", none, some "S-3", none⟩ 10, .get "S-2" 20, .get "S-1" 60] :=
  bounded_ttl_lru 60 2 (by decide) _ (by decide)

end AuthCache

end FlockOs
