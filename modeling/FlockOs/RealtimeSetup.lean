import FlockOs.Lib.Exec

/-!
# The wirings of the realtime server

The four scripts `wire-socketio-*.sh` that put marked blocks into Frappe's `realtime/index.js`, and
the hooks of `realtime_setup.py` that run them after a migration. A file is the list of its lines;
`awk` ends each line that it prints.
-/

namespace FlockOs.RealtimeSetup

open Lib

/-- `realtime/index.js`. -/
structure Index where
  lines : List String
  /-- The last line ends in a newline. -/
  ended : Bool := true
deriving DecidableEq, Repr

/-- Some symbols stand in a row somewhere among others. -/
def occurs (part : List Char) : List Char → Bool
  | [] => part.isEmpty
  | char :: rest => part.isPrefixOf (char :: rest) || occurs part rest

/-- A line has a text in it. -/
def contains (part line : String) : Bool := occurs part.toList line.toList

/-- `grep -q` of a text without special symbols, and `grep -qF`. -/
def grep (part : String) (lines : List String) : Bool := lines.any (contains part)

/-- What `awk` prints for the lines of a file. -/
def awk (print : List String → List String) (index : Index) : Index := ⟨print index.lines, true⟩

/-- The `awk` program of `--revert`: the lines from a start mark to an end mark are not printed, and
some lines are printed for the start mark. -/
def printOutside (markStart markEnd : String) (restore : List String) :
    Bool → List String → List String
  | _, [] => []
  | skip, line :: rest =>
    if contains markStart line then restore ++ printOutside markStart markEnd restore true rest
    else if contains markEnd line then printOutside markStart markEnd restore false rest
    else if skip then printOutside markStart markEnd restore true rest
    else line :: printOutside markStart markEnd restore false rest

/-- What the scripts have of their own. -/
structure Script where
  /-- `MARK_START`. -/
  markStart : String
  /-- `MARK_END`. -/
  markEnd : String
  /-- The anchor is found, where the script looks for it before it changes the file. -/
  anchorFound : List String → Bool := fun _ => true
  /-- What is printed for a line. -/
  print : String → List String
  /-- What `--revert` prints for the block. -/
  restore : List String := []
  /-- The check of the changed file. -/
  landed : List String → Bool

/-- The arguments of a script. -/
inductive Mode where
  | wire
  /-- `--check`. -/
  | check
  /-- `--revert`. -/
  | revert
  /-- `--check --revert`. -/
  | checkAndRevert
deriving DecidableEq, Repr

/-- The file that a script leaves, and its exit status. -/
def Script.call (script : Script) (mode : Mode) (index : Index) : Index × Nat :=
  match mode with
  | .checkAndRevert => (index, 2)
  | .check => (index, if grep script.markStart index.lines then 0 else 1)
  | .revert =>
    if grep script.markStart index.lines then
      (awk (printOutside script.markStart script.markEnd script.restore false) index, 0)
    else (index, 0)
  | .wire =>
    if grep script.markStart index.lines then (index, 0)
    else if script.anchorFound index.lines then
      let changed := awk (List.flatMap script.print) index
      if script.landed changed.lines then (changed, 0) else (index, 1)
    else (index, 1)

/-- The line of a start mark. -/
def startLine (indent markStart name : String) : String :=
  indent ++ "// " ++ markStart ++ " (managed by scripts/dev/" ++ name ++ " — do not edit)"

/-- `MARK_START`. -/
def handlerStart : String := "FLOCK_OS_REALTIME_HANDLER_START"
/-- `MARK_END`. -/
def handlerEnd : String := "FLOCK_OS_REALTIME_HANDLER_END"
/-- The line behind which the block stands. -/
def handlerAnchor : String := "frappe_handlers(realtime, socket);"
/-- `HANDLER_REL`. -/
def handlerRel : String := "../../flock_os/realtime/handlers/flock_room_handlers"

/-- The block. -/
def handlerBlock : List String :=
  [startLine "\t" handlerStart "wire-socketio-handler.sh",
    "\ttry \x7b require(\"" ++ handlerRel ++ "\")(socket, \x7b frappe_request: " ++
      "require(\"./utils\").frappe_request \x7d); \x7d catch (err) \x7b " ++
      "console.error(\"flock_os realtime handler:\", (err && err.message) || err); \x7d",
    "\t// " ++ handlerEnd]

/-- The script. -/
def wireHandler : Script where
  markStart := handlerStart
  markEnd := handlerEnd
  print line := if contains handlerAnchor line then line :: handlerBlock else [line]
  landed lines := grep handlerStart lines

/-- `MARK_START`. -/
def authCacheStart : String := "FLOCK_OS_REALTIME_AUTH_CACHE_START"
/-- `MARK_END`. -/
def authCacheEnd : String := "FLOCK_OS_REALTIME_AUTH_CACHE_END"
/-- `PRISTINE_LINE`. -/
def pristineLine : String := "realtime.use(authenticate);"
/-- `CACHE_REL`. -/
def cacheRel : String := "../../flock_os/realtime/middlewares/flock_auth_cache"

/-- The block. -/
def authCacheBlock : List String :=
  [startLine "" authCacheStart "wire-socketio-auth-cache.sh",
    "realtime.use(require(\"" ++ cacheRel ++ "\").wrap(authenticate));",
    "// " ++ authCacheEnd]

/-- The script. -/
def wireAuthCache : Script where
  markStart := authCacheStart
  markEnd := authCacheEnd
  anchorFound := grep pristineLine
  print line := if contains pristineLine line then authCacheBlock else [line]
  restore := [pristineLine]
  landed lines := grep authCacheStart lines && !grep pristineLine lines

/-- `MARK_START`. -/
def redisAdapterStart : String := "FLOCK_OS_REALTIME_REDIS_ADAPTER_START"
/-- `MARK_END`. -/
def redisAdapterEnd : String := "FLOCK_OS_REALTIME_REDIS_ADAPTER_END"
/-- `ANCHOR`. -/
def connectionAnchor : String := "realtime.on(\"connection\", on_connection);"
/-- `ADAPTER_REL`. -/
def adapterRel : String := "../../flock_os/realtime/adapters/flock_redis_adapter"

/-- The block. -/
def redisAdapterBlock : List String :=
  [startLine "" redisAdapterStart "wire-socketio-redis-adapter.sh",
    "try \x7b",
    "\tconst \x7b createRedisAdapter, resolveAdapterClients \x7d = require(\"" ++ adapterRel ++
      "\");",
    "\tconst _flockAdapterClients = resolveAdapterClients(\x7b get_redis_subscriber, " ++
      "createRedisClient: require(\"@redis/client\").createClient \x7d);",
    "\tconst _flockAdapterPub = _flockAdapterClients[0];",
    "\tconst _flockAdapterSub = _flockAdapterClients[1];",
    "\t_flockAdapterPub.on(\"error\", (e) => console.error(\"flock_os redis-adapter pub:\", " ++
      "(e && e.message) || e));",
    "\t_flockAdapterSub.on(\"error\", (e) => console.error(\"flock_os redis-adapter sub:\", " ++
      "(e && e.message) || e));",
    "\tPromise.all([_flockAdapterPub.connect(), _flockAdapterSub.connect()]).catch((err) => " ++
      "console.error(\"flock_os redis-adapter connect:\", (err && err.message) || err));",
    "\tio.adapter(createRedisAdapter(_flockAdapterPub, _flockAdapterSub));",
    "\x7d catch (err) \x7b console.error(\"flock_os realtime redis-adapter:\", " ++
      "(err && err.message) || err); \x7d",
    "// " ++ redisAdapterEnd]

/-- The script. -/
def wireRedisAdapter : Script where
  markStart := redisAdapterStart
  markEnd := redisAdapterEnd
  print line := if contains connectionAnchor line then redisAdapterBlock ++ [line] else [line]
  landed lines := grep redisAdapterStart lines

/-- `MARK_START`. -/
def metricsStart : String := "FLOCK_OS_REALTIME_METRICS_START"
/-- `MARK_END`. -/
def metricsEnd : String := "FLOCK_OS_REALTIME_METRICS_END"
/-- `METRICS_REL`. -/
def metricsRel : String := "../../flock_os/realtime/metrics/flock_prometheus"

/-- The block. -/
def metricsBlock : List String :=
  [startLine "" metricsStart "wire-socketio-metrics.sh",
    "try \x7b require(\"" ++ metricsRel ++ "\").attachMetrics(io); \x7d catch (err) \x7b " ++
      "console.error(\"flock_os realtime metrics:\", (err && err.message) || err); \x7d",
    "// " ++ metricsEnd]

/-- The script, which looks for its anchor in a line and puts the block before a line that is the
anchor. -/
def wireMetrics : Script where
  markStart := metricsStart
  markEnd := metricsEnd
  anchorFound := grep connectionAnchor
  print line := if line = connectionAnchor then metricsBlock ++ [line] else [line]
  landed lines := grep metricsStart lines && grep connectionAnchor lines

/-- The wirings. -/
inductive Wiring where
  | handler
  | authCache
  | redisAdapter
  | metrics
deriving DecidableEq, Repr

/-- The script of a wiring. -/
def Wiring.script : Wiring → Script
  | .handler => wireHandler
  | .authCache => wireAuthCache
  | .redisAdapter => wireRedisAdapter
  | .metrics => wireMetrics

/-- The file after a call of a script. -/
def Index.call (index : Index) (call : Wiring × Mode) : Index :=
  (call.1.script.call call.2 index).1

/-- What the hooks find. -/
structure Installation where
  /-- `find_bench_root`. -/
  benchRoot : Option String
  /-- `find_wire_script`. -/
  script : Wiring → Option String
  /-- `os.path.isfile` of the index. -/
  indexFound : Bool
  /-- The script can be run. -/
  runs : Wiring → Bool
  /-- What a script printed, or the text of its failure. -/
  detail : Wiring → Index → String

/-- `noun`. -/
def Wiring.noun : Wiring → String
  | .handler => "realtime handler"
  | .authCache => "realtime auth-cache"
  | .redisAdapter => "realtime redis-adapter"
  | .metrics => "realtime per-worker metrics"

/-- `consequence`. -/
def Wiring.consequence : Wiring → String
  | .handler => "the projector's broadcasts would silently reach no clients"
  | .authCache =>
    "the §8 15k WS auth wall would recur (connect p95 > 2 s, flock_ws_receive_errors > 0)"
  | .redisAdapter => "the scaled socketio tier could not fan broadcasts/rooms across node " ++
    "workers (§8 15k WS connection-setup wall would recur)"
  | .metrics => "Prometheus would have no per-worker socket.io scrape target, so the " ++
    "four critical §8 WS-SLO alerts (WSConnectSLOBreach, " ++
    "WSBroadcastSLOBreach, WSErrorCounterNonZero, WSessionsDropped) would " ++ "silently stop firing"

/-- `regression`. -/
def Wiring.regression : Wiring → String
  | .handler => "FLO-107"
  | .authCache => "FLO-116"
  | .redisAdapter => "FLO-121"
  | .metrics => "FLO-922"

/-- `RealtimeWiringError`. -/
structure RealtimeWiringError where
  wiring : Wiring
  message : String
deriving DecidableEq, Repr

/-- The error about a wiring that is missing. -/
def missing (wiring : Wiring) (script benchRoot detail : String) : RealtimeWiringError where
  wiring := wiring
  message := "flock_os " ++ wiring.noun ++ " wiring is MISSING after a bench update — " ++
    wiring.consequence ++ " (" ++ wiring.regression ++ " regression). Re-wire and restart, " ++
    "then re-run `bench migrate`:\n" ++ "  bash " ++ script ++ " --bench " ++ benchRoot ++ "\n" ++
    "  bench restart\n" ++ "wire script output:\n" ++
    (if detail = "" then "(no output)" else detail)

/-- The script is run on the file, if it can be. -/
def runScript (installation : Installation) (wiring : Wiring) (index : Index) : Index :=
  if installation.runs wiring then index.call (wiring, .wire) else index

/-- `_rewire_realtime` on the file that it found: the script is run on a file without the mark, and
the file must have the mark then. -/
def rewireIndex (installation : Installation) (wiring : Wiring) (script benchRoot : String) :
    Exec RealtimeWiringError Index Unit := do
  let index ← get
  if grep wiring.script.markStart index.lines then pure ()
  else do
    modify (runScript installation wiring)
    let changed ← get
    if grep wiring.script.markStart changed.lines then pure ()
    else throw (missing wiring script benchRoot (installation.detail wiring index))

/-- `_rewire_realtime`. -/
def rewireRealtime (installation : Installation) (wiring : Wiring) :
    Exec RealtimeWiringError Index Unit :=
  match installation.benchRoot, installation.script wiring with
  | some benchRoot, some script =>
    if installation.indexFound then rewireIndex installation wiring script benchRoot else pure ()
  | _, _ => pure ()

/-- The hooks of `after_migrate`, and of `after_install`, in their order. -/
def hooks : List Wiring := [.handler, .authCache, .redisAdapter, .metrics]

/-- `after_migrate`: the hooks up to one that raises. -/
def afterMigrate (installation : Installation) : Exec RealtimeWiringError Index Unit :=
  hooks.forM (rewireRealtime installation)

end FlockOs.RealtimeSetup
