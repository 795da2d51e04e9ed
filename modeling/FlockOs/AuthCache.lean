import FlockOs.Base
import FlockOs.Lib.Table
import FlockOs.Lib.Runs

/-!
# The cache of socket identities

`flock_auth_cache.js`: the middleware that `wrap` puts around the authentication of a socket. It
lets a connection through with an identity that it has kept under the session id or the
authorization of the handshake, and asks the wrapped middleware otherwise. The wrapped middleware
is not part of the repository: whom it grants and when is an event from outside.
-/

namespace FlockOs

open Lib

/-- What a connection presents. -/
structure Handshake where
  /-- The namespace that it connects to, one for each site. -/
  site : String
  /-- The `cookie` header. -/
  cookie : Option String
  /-- The `authorization` header. -/
  authorization : Option String
deriving DecidableEq, Repr

namespace AuthCache

/-- The characters of `\s`. -/
def isSpace (char : Char) : Bool :=
  let code := char.toNat
  (9 ≤ code && code ≤ 13) || code = 0x20 || code = 0xA0 || code = 0x1680 ||
    (0x2000 ≤ code && code ≤ 0x200A) || code = 0x2028 || code = 0x2029 || code = 0x202F ||
    code = 0x205F || code = 0x3000 || code = 0xFEFF

/-- `sid=([^;]+)` at the beginning of a text. -/
def sidHere : List Char → Option String
  | 's' :: 'i' :: 'd' :: '=' :: rest =>
    let value := rest.takeWhile (· ≠ ';')
    if value = [] then none else some (String.ofList value)
  | _ => none

/-- `;\s*sid=([^;]+)` at the first place where it matches. -/
def sidLater : List Char → Option String
  | [] => none
  | ';' :: rest => (sidHere (rest.dropWhile isSpace)).or (sidLater rest)
  | _ :: rest => sidLater rest

/-- The session id that `(?:^|;\s*)sid=([^;]+)` finds in a cookie. -/
def sidCookie (cookie : String) : Option String :=
  (sidHere cookie.toList).or (sidLater cookie.toList)

/-- `cacheKey`. -/
def cacheKey (handshake : Handshake) : Option String :=
  match sidCookie ((truthy handshake.cookie).getD "") with
  | some sid => some sid
  | none => truthy handshake.authorization

end AuthCache

/-- What the wrapped middleware sets on a socket. -/
structure SocketIdentity where
  /-- `socket.user`. -/
  user : Option String
  /-- `socket.user_type`. -/
  userType : Option String
  /-- `socket.sid`. -/
  sid : Option String
  /-- `socket.authorization_header`. -/
  authorizationHeader : Option String
deriving DecidableEq, Repr

/-- An identity kept under a key. -/
structure AuthEntry where
  /-- The key. -/
  key : String
  /-- The identity. -/
  identity : SocketIdentity
  /-- `exp`. -/
  exp : Int
deriving DecidableEq, Repr

/-- `stats`. -/
structure AuthStats where
  /-- Connections let through by the cache. -/
  hits : Nat := 0
  /-- Connections that the wrapped middleware was asked about. -/
  misses : Nat := 0
  /-- Entries dropped for want of room. -/
  evictions : Nat := 0
  /-- Entries stored. -/
  stores : Nat := 0
deriving DecidableEq, Repr

/-- The cache; its entries in the order in which they were used. -/
structure AuthCache where
  /-- `ttlMs`. -/
  ttlMs : Int
  /-- `max`. -/
  max : Int
  /-- `_entries`. -/
  entries : Table AuthEntry AuthEntry.key := .empty _
  /-- `stats`. -/
  stats : AuthStats := {}

namespace AuthCache

/-- The rows that are left when the oldest go until there is room. -/
def roomy (max : Int) : List AuthEntry → List AuthEntry
  | [] => []
  | oldest :: rest => if (oldest :: rest).length ≥ max then roomy max rest else oldest :: rest

/-- Making room drops rows. -/
theorem roomy_sublist (max : Int) : ∀ rows, List.Sublist (roomy max rows) rows
  | [] => .slnil
  | oldest :: rest => by
    rw [roomy]
    split
    · exact (roomy_sublist max rest).cons oldest
    · exact List.Sublist.refl _

/-- The entries after making room. -/
def evict (max : Int) (entries : Table AuthEntry AuthEntry.key) :
    Table AuthEntry AuthEntry.key where
  rows := roomy max entries.rows
  keyed := ((roomy_sublist max entries.rows).map AuthEntry.key).nodup entries.keyed

/-- An entry of a key that was removed is new wherever rows were only dropped since. -/
theorem fresh_of_removed {entries left : Table AuthEntry AuthEntry.key} {entry : AuthEntry}
    (dropped : List.Sublist left.rows (entries.remove entry.key).rows) :
    entry.key ∉ left.rows.map AuthEntry.key := by
  intro inside
  obtain ⟨other, member, same⟩ := List.mem_map.mp inside
  exact (Table.mem_remove.mp (dropped.subset member)).2 same

/-- The entry is put at the end. -/
def promote (entries : Table AuthEntry AuthEntry.key) (entry : AuthEntry) :
    Table AuthEntry AuthEntry.key :=
  (entries.remove entry.key).add entry (fresh_of_removed (List.Sublist.refl _))

/-- `AuthCache.get`, at the time of its `Date.now()`. -/
def get (cache : AuthCache) (key : String) (now : Int) : Option AuthEntry × AuthCache :=
  match cache.entries.find? key with
  | none => (none, cache)
  | some entry =>
    if entry.exp ≤ now then (none, { cache with entries := cache.entries.remove key })
    else
      (some entry, { cache with
        entries := promote cache.entries entry
        stats := { cache.stats with hits := cache.stats.hits + 1 } })

/-- `AuthCache.set`, at the time of its `Date.now()`. -/
def set (cache : AuthCache) (key : String) (value : SocketIdentity) (now : Int) : AuthCache :=
  let entry : AuthEntry := ⟨key, value, now + cache.ttlMs⟩
  let others := cache.entries.remove key
  let left := evict cache.max others
  { cache with
    entries := left.add entry (fresh_of_removed (roomy_sublist cache.max others.rows))
    stats := { cache.stats with
      evictions := cache.stats.evictions + (others.rows.length - left.rows.length)
      stores := cache.stats.stores + 1 } }

/-- `authenticate_cached` up to the wrapped middleware: the identity that is replayed, if any. -/
def authenticateCached (cache : AuthCache) (handshake : Handshake) (now : Int) :
    Option AuthEntry × AuthCache :=
  match (match cacheKey handshake with
    | none => (none, cache)
    | some key => cache.get key now) with
  | (some entry, used) => (some entry, used)
  | (none, used) =>
    (none, { used with stats := { used.stats with misses := used.stats.misses + 1 } })

/-- The key that a granted identity is stored under. -/
def storeKey (identity : SocketIdentity) : Option String :=
  match (truthy identity.sid).or (truthy identity.authorizationHeader), truthy identity.user with
  | some key, some _ => some key
  | _, _ => none

/-- The callback of the wrapped middleware, called without an error. -/
def capture (cache : AuthCache) (identity : SocketIdentity) (now : Int) : AuthCache :=
  match storeKey identity with
  | some key => cache.set key identity now
  | none => cache

end AuthCache

/-- What happens to the sockets of the server. -/
inductive SocketEvent where
  /-- A socket connects; the cache reads the clock at `now`. -/
  | connect (handshake : Handshake) (now : Int)
  /-- The wrapped middleware calls back without an error for a connection that it was asked about:
  the socket carries the identity. -/
  | grant (asked : Nat) (identity : SocketIdentity) (now : Int)
  /-- The wrapped middleware calls back with an error. -/
  | refuse (asked : Nat)
deriving DecidableEq, Repr

/-- The wrapped middleware granted an identity to a connection. -/
structure SocketGrant where
  /-- The connection. -/
  handshake : Handshake
  /-- The identity. -/
  identity : SocketIdentity
  /-- The time. -/
  now : Int
deriving DecidableEq, Repr

/-- A connection that is let through. -/
structure SocketPassage where
  /-- The connection. -/
  handshake : Handshake
  /-- The identity that it is let through with. -/
  identity : SocketIdentity
  /-- The time. -/
  now : Int
  /-- The identity comes from the cache. -/
  replayed : Bool
deriving DecidableEq, Repr

/-- The middleware and what has happened. -/
structure SocketServer where
  /-- The one cache of the middleware. -/
  cache : AuthCache
  /-- The connections that the wrapped middleware was asked about, in order. -/
  asked : List Handshake
  /-- What the wrapped middleware has granted, the latest first. -/
  grants : List SocketGrant
  /-- The connections let through, the latest first. -/
  passages : List SocketPassage

namespace SocketServer

/-- The middleware when it has been wired. -/
def start (ttlMs max : Int) : SocketServer where
  cache := { ttlMs, max }
  asked := []
  grants := []
  passages := []

/-- A socket connects. -/
def connect (server : SocketServer) (handshake : Handshake) (now : Int) : SocketServer :=
  match server.cache.authenticateCached handshake now with
  | (some entry, used) =>
    { server with
      cache := used
      passages := ⟨handshake, entry.identity, now, true⟩ :: server.passages }
  | (none, used) => { server with cache := used, asked := server.asked ++ [handshake] }

/-- The wrapped middleware calls back for a connection. -/
def grant (server : SocketServer) (handshake : Handshake) (identity : SocketIdentity) (now : Int) :
    SocketServer :=
  { server with
    cache := server.cache.capture identity now
    grants := ⟨handshake, identity, now⟩ :: server.grants
    passages := ⟨handshake, identity, now, false⟩ :: server.passages }

/-- What an event makes of the server. -/
def perform (server : SocketServer) : SocketEvent → SocketServer
  | .connect handshake now => server.connect handshake now
  | .grant asked identity now =>
    match server.asked[asked]? with
    | some handshake => server.grant handshake identity now
    | none => server
  | .refuse _ => server

end SocketServer

end FlockOs
