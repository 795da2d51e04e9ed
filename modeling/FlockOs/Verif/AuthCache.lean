import FlockOs.AuthCache

/-!
# Cached identities

A connection that the cache lets through has the identity of the latest grant stored under its
key. The key says neither the site nor whether it is a session id, so the identity was granted
here only where that grant was.
-/

namespace FlockOs

open Lib

/-- What a handshake presents to be recognised by: its session id, or else its authorization. -/
inductive Credential where
  /-- The session id of the cookie. -/
  | sid (value : String)
  /-- The value of the authorization header. -/
  | authorization (value : String)
deriving DecidableEq, Repr

/-- The credential of a handshake. -/
def Handshake.credential (handshake : Handshake) : Option Credential :=
  match AuthCache.sidCookie ((truthy handshake.cookie).getD "") with
  | some value => some (.sid value)
  | none => (truthy handshake.authorization).map .authorization

/-- Two connections to the same site with the same credential. -/
def Handshake.SameOrigin (first second : Handshake) : Prop :=
  first.site = second.site ∧ first.credential = second.credential

instance (first second : Handshake) : Decidable (first.SameOrigin second) :=
  inferInstanceAs (Decidable (_ ∧ _))

/-- The text of a credential. -/
def Credential.text : Credential → String
  | .sid value => value
  | .authorization value => value

/-- The key of the cache is the text of the credential, whichever of the two it is. -/
theorem cacheKey_eq (handshake : Handshake) :
    AuthCache.cacheKey handshake = handshake.credential.map Credential.text := by
  rw [AuthCache.cacheKey, Handshake.credential]
  cases AuthCache.sidCookie ((truthy handshake.cookie).getD "") with
  | some value => rfl
  | none => cases truthy handshake.authorization <;> rfl

namespace AuthCache

variable {cache : AuthCache} {key : String} {entry : AuthEntry} {now : Int}

/-- A use of the cache stores nothing. -/
structure Used (cache used : AuthCache) : Prop where
  /-- The lifetime of entries is fixed. -/
  ttlMs : used.ttlMs = cache.ttlMs
  /-- Every entry was there. -/
  entries : ∀ entry ∈ used.entries.rows, entry ∈ cache.entries.rows

/-- A cache that is left alone is used. -/
theorem Used.refl (cache : AuthCache) : Used cache cache := ⟨rfl, fun _ inside => inside⟩

/-- Putting an entry of the cache at the end adds none. -/
theorem mem_promote {entries : Table AuthEntry AuthEntry.key} (inside : entry ∈ entries.rows)
    {other : AuthEntry} (member : other ∈ (promote entries entry).rows) :
    other ∈ entries.rows := by
  rw [promote, Table.mem_add, Table.mem_remove] at member
  rcases member with ⟨kept, -⟩ | same
  · exact kept
  · exact same ▸ inside

/-- A lookup stores nothing. -/
theorem get_used (cache : AuthCache) (key : String) (now : Int) :
    Used cache (cache.get key now).2 := by
  rw [get]
  cases found : cache.entries.find? key with
  | none => exact .refl cache
  | some entry =>
    have inside := ((cache.entries.find?_eq_some).mp found).1
    dsimp only
    split
    · exact ⟨rfl, fun _ member => (Table.mem_remove.mp member).1⟩
    · exact ⟨rfl, fun _ member => mem_promote inside member⟩

/-- A lookup that hits finds an unexpired entry of the key. -/
theorem get_hit (hit : (cache.get key now).1 = some entry) :
    cache.entries.find? key = some entry ∧ now < entry.exp := by
  rw [get] at hit
  cases found : cache.entries.find? key with
  | none =>
    rw [found] at hit
    cases hit
  | some other =>
    rw [found] at hit
    dsimp only at hit
    split at hit
    · cases hit
    · rename_i fresh
      cases hit
      exact ⟨rfl, Int.not_le.mp fresh⟩

/-- The entries after a store: the stored one, and others of other keys. -/
theorem mem_set {value : SocketIdentity} {other : AuthEntry}
    (member : other ∈ (cache.set key value now).entries.rows) :
    other = ⟨key, value, now + cache.ttlMs⟩ ∨ other ∈ cache.entries.rows ∧ other.key ≠ key := by
  simp only [set, Table.mem_add] at member
  rcases member with left | same
  · have kept := (roomy_sublist cache.max _).subset left
    exact .inr (Table.mem_remove.mp kept)
  · exact .inl same

/-- The middleware stores nothing before it asks. -/
theorem authenticateCached_used (cache : AuthCache) (handshake : Handshake) (now : Int) :
    Used cache (cache.authenticateCached handshake now).2 := by
  rw [authenticateCached]
  cases cacheKey handshake with
  | none => exact ⟨rfl, fun _ inside => inside⟩
  | some key =>
    have used := get_used cache key now
    dsimp only
    cases found : cache.get key now with
    | mk answer next =>
      rw [found] at used
      cases answer with
      | none => exact ⟨used.ttlMs, used.entries⟩
      | some entry => exact used

/-- A connection that the middleware lets through by itself has an unexpired entry. -/
theorem authenticateCached_hit {handshake : Handshake}
    (hit : (cache.authenticateCached handshake now).1 = some entry) :
    ∃ key, cacheKey handshake = some key ∧ cache.entries.find? key = some entry ∧
      now < entry.exp := by
  rw [authenticateCached] at hit
  cases keyed : cacheKey handshake with
  | none =>
    rw [keyed] at hit
    cases hit
  | some key =>
    rw [keyed] at hit
    refine ⟨key, rfl, get_hit ?_⟩
    dsimp only at hit
    cases found : cache.get key now with
    | mk answer next =>
      rw [found] at hit
      cases answer with
      | none => cases hit
      | some other => exact hit

end AuthCache

namespace SocketServer

variable {server : SocketServer} {handshake : Handshake} {identity : SocketIdentity}
  {entry : AuthEntry} {now : Int}

/-- The latest grant that was stored under a key. -/
def latest (server : SocketServer) (key : String) : Option SocketGrant :=
  server.grants.find? fun grant => AuthCache.storeKey grant.identity = some key

/-- Every entry of the cache keeps the latest grant that was stored under its key. -/
def Kept (server : SocketServer) : Prop :=
  ∀ entry ∈ server.cache.entries.rows, ∃ grant, server.latest entry.key = some grant ∧
    grant.identity = entry.identity ∧ entry.exp = grant.now + server.cache.ttlMs

/-- Every connection that was let through has an identity that was granted to its site and
credential, less than the lifetime of an entry before, or by the wrapped middleware just then. -/
def Vouched (server : SocketServer) : Prop :=
  ∀ passage ∈ server.passages, ∃ grant ∈ server.grants,
    grant.handshake.SameOrigin passage.handshake ∧ grant.identity = passage.identity ∧
      (passage.now - grant.now < server.cache.ttlMs ∨
        passage.replayed = false ∧ grant.now = passage.now)

instance (server : SocketServer) : Decidable server.Vouched :=
  inferInstanceAs (Decidable (∀ _ ∈ _, ∃ _ ∈ _, _))

/-- Where the cache holds an unexpired entry under the key of a connection, the latest grant that
was stored under the key went to the same site and credential. -/
def OwnKey (server : SocketServer) : SocketEvent → Prop
  | .connect handshake now =>
    ∀ key ∈ AuthCache.cacheKey handshake,
      (∃ entry ∈ server.cache.entries.find? key, now < entry.exp) →
        ∀ grant ∈ server.latest key, grant.handshake.SameOrigin handshake
  | .grant _ _ _ => True
  | .refuse _ => True

instance (server : SocketServer) : ∀ event, Decidable (server.OwnKey event)
  | .connect _ _ => inferInstanceAs (Decidable (∀ _ ∈ _, (∃ _ ∈ _, _) → ∀ _ ∈ _, _))
  | .grant _ _ _ => inferInstanceAs (Decidable True)
  | .refuse _ => inferInstanceAs (Decidable True)

/-- The server after a connection: its cache was used, and the connection is let through with an
unexpired entry or asked about. -/
theorem connect_cases (server : SocketServer) (handshake : Handshake) (now : Int) :
    AuthCache.Used server.cache (server.connect handshake now).cache ∧
    (server.connect handshake now).grants = server.grants ∧
    ((server.connect handshake now).passages = server.passages ∨
      ∃ key entry, AuthCache.cacheKey handshake = some key ∧
        server.cache.entries.find? key = some entry ∧ now < entry.exp ∧
        (server.connect handshake now).passages =
          ⟨handshake, entry.identity, now, true⟩ :: server.passages) := by
  have used := server.cache.authenticateCached_used handshake now
  rw [connect]
  cases outcome : server.cache.authenticateCached handshake now with
  | mk answer next =>
    rw [outcome] at used
    cases answer with
    | none => exact ⟨used, rfl, .inl rfl⟩
    | some entry =>
      have hit : (server.cache.authenticateCached handshake now).1 = some entry := by
        rw [outcome]
      obtain ⟨key, keyed, found, fresh⟩ := AuthCache.authenticateCached_hit hit
      exact ⟨used, rfl, .inr ⟨key, entry, keyed, found, fresh, rfl⟩⟩

/-- A connection leaves every entry with its grant. -/
theorem kept_connect (kept : server.Kept) (handshake : Handshake) (now : Int) :
    (server.connect handshake now).Kept := by
  obtain ⟨used, grants, _⟩ := server.connect_cases handshake now
  intro entry inside
  rw [latest, grants, used.ttlMs]
  exact kept entry (used.entries entry inside)

/-- A grant is the latest under the key that it is stored under, and leaves the others'. -/
theorem kept_grant (kept : server.Kept) (handshake : Handshake) (identity : SocketIdentity)
    (now : Int) : (server.grant handshake identity now).Kept := by
  intro entry inside
  have later (stored : AuthCache.storeKey identity = some entry.key) :
      (server.grant handshake identity now).latest entry.key = some ⟨handshake, identity, now⟩ :=
    List.find?_cons_of_pos (decide_eq_true stored)
  have before (apart : AuthCache.storeKey identity ≠ some entry.key) :
      (server.grant handshake identity now).latest entry.key = server.latest entry.key :=
    List.find?_cons_of_neg (by simpa using apart)
  have lifetime : (server.grant handshake identity now).cache.ttlMs = server.cache.ttlMs := by
    rw [grant, AuthCache.capture]
    cases AuthCache.storeKey identity <;> rfl
  rw [lifetime]
  change entry ∈ (server.cache.capture identity now).entries.rows at inside
  rw [AuthCache.capture] at inside
  cases stored : AuthCache.storeKey identity with
  | none =>
    rw [stored] at inside before
    rw [before nofun]
    exact kept entry inside
  | some key =>
    rw [stored] at inside before later
    rcases AuthCache.mem_set inside with same | ⟨there, differs⟩
    · cases same
      exact ⟨_, later rfl, rfl, rfl⟩
    · rw [before fun same => differs (Option.some.inj same).symm]
      exact kept entry there

/-- Every event leaves every entry with its grant. -/
theorem kept_perform (kept : server.Kept) (event : SocketEvent) : (server.perform event).Kept := by
  cases event with
  | connect handshake now => exact kept_connect kept handshake now
  | grant asked identity now =>
    rw [perform]
    cases server.asked[asked]? with
    | none => exact kept
    | some handshake => exact kept_grant kept handshake identity now
  | refuse asked => exact kept

/-- A connection that is let through under its own key is vouched for. -/
theorem vouched_connect (kept : server.Kept) (vouched : server.Vouched)
    (own : server.OwnKey (.connect handshake now)) :
    (server.connect handshake now).Vouched := by
  obtain ⟨used, grants, passages⟩ := server.connect_cases handshake now
  intro passage inside
  rw [grants, used.ttlMs]
  rcases passages with same | ⟨key, entry, keyed, found, fresh, more⟩
  · rw [same] at inside
    exact vouched passage inside
  · rw [more] at inside
    rcases List.mem_cons.mp inside with new | old
    · obtain ⟨there, named⟩ := (server.cache.entries.find?_eq_some).mp found
      obtain ⟨grant, newest, identity, expiry⟩ := kept entry there
      rw [named] at newest
      have origin := own key keyed ⟨entry, found, fresh⟩ grant newest
      rw [new]
      refine ⟨grant, List.mem_of_find?_eq_some newest, origin, identity, .inl ?_⟩
      show now - grant.now < server.cache.ttlMs
      omega
    · exact vouched passage old

/-- A connection that the wrapped middleware lets through is vouched for. -/
theorem vouched_grant (vouched : server.Vouched) (handshake : Handshake)
    (identity : SocketIdentity) (now : Int) :
    (server.grant handshake identity now).Vouched := by
  have lifetime : (server.grant handshake identity now).cache.ttlMs = server.cache.ttlMs := by
    rw [grant, AuthCache.capture]
    cases AuthCache.storeKey identity <;> rfl
  intro passage inside
  rw [lifetime]
  rcases List.mem_cons.mp inside with new | old
  · rw [new]
    exact ⟨_, List.mem_cons_self, ⟨rfl, rfl⟩, rfl, .inr ⟨rfl, rfl⟩⟩
  · obtain ⟨earlier, there, vouches⟩ := vouched passage old
    exact ⟨earlier, List.mem_cons_of_mem _ there, vouches⟩

/-- An event in which every key is its own leaves every passage vouched for. -/
theorem vouched_perform (kept : server.Kept) (vouched : server.Vouched) {event : SocketEvent}
    (own : server.OwnKey event) : (server.perform event).Vouched := by
  cases event with
  | connect handshake now => exact vouched_connect kept vouched own
  | grant asked identity now =>
    rw [perform]
    cases server.asked[asked]? with
    | none => exact vouched
    | some handshake => exact vouched_grant vouched handshake identity now
  | refuse asked => exact vouched

/-- Throughout a run in which no connection finds what was granted to another site or credential
under its key, every identity that is let through was granted here. -/
theorem granted_here (ttlMs max : Int) (events : List SocketEvent)
    (own : EveryCall perform OwnKey (start ttlMs max) events) :
    EveryState perform Vouched (start ttlMs max) events := by
  have initial : (start ttlMs max).Kept ∧ (start ttlMs max).Vouched := ⟨nofun, nofun⟩
  refine everyState_of_everyCall (fun server => server.Kept ∧ server.Vouched) ?_ ?_ initial own
  · intro server event ⟨kept, vouched⟩ allowed
    exact ⟨kept_perform kept event, vouched_perform kept vouched allowed⟩
  · intro server sound
    exact sound.2

/-- A session id at one site. -/
def northTab : Handshake := ⟨"/north", some "theme=dark; sid=S-1", none⟩

/-- The same session id at another site. -/
def southTab : Handshake := { northTab with site := "/south" }

/-- The owner of the session. -/
def leader : SocketIdentity := ⟨some "leader@north", some "System User", some "S-1", none⟩

/-- A second tab of the same site. -/
theorem second_tab_granted :
    EveryState perform Vouched (start 60000 50000)
      [.connect northTab 0, .grant 0 leader 40, .connect northTab 100] :=
  granted_here 60000 50000 [.connect northTab 0, .grant 0 leader 40, .connect northTab 100]
    (by decide)

/-- The session id of the one site lets a connection to the other through, whom the wrapped
middleware has not been asked about. -/
theorem south_let_through :
    ¬ EveryState perform Vouched (start 60000 50000)
      [.connect northTab 0, .grant 0 leader 40, .connect southTab 100] := by
  intro throughout
  exact absurd throughout.last (by decide)

end SocketServer

end FlockOs
