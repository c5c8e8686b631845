import ReadLater.Service
import ReadLater.Config

/-!
# The program

The program runs in one of three modes, named by its first argument:

* `migrate <users…>` brings the stores of the named users up to date, one after the other; a
  user whose store fails is logged and the others go on; the run fails with every user's error,
  one per line;
* `healthcheck` asks the server on the configured port for its health, without reading the rest
  of the configuration;
* `serve` (also no argument, or one that names no mode) serves the API on the configured port
  until it is stopped. A port the server cannot listen on ends the run with that error.

Every mode but `healthcheck` first reads the configuration (a failure ends the run before
anything is logged), sets the log's threshold (an unknown level is logged and ignored) and logs
that the application starts.

* `App.Ending`, `App.Outcome`: how a run ends, and what it logged;
* `App.listenError`: why a port cannot be listened on;
* `App.run`: a run on the stores of a service.
-/

namespace ReadLater.App

open Store

/-- How a run of the program ends. -/
inductive Ending where
  /-- The program returned, with its error if it failed. -/
  | returned (error : Option String)
  /-- The program is serving requests on its port. -/
  | serving
  deriving Repr, Inhabited, DecidableEq

/-- A run of the program: its mode, how it ended, what it logged, and the log's threshold after
it (a later run in the same process starts from it). -/
structure Outcome where
  command : Command
  ending : Ending
  log : Array LogRecord
  threshold : LogLevel
  deriving Repr, Inhabited

/-- The largest port. -/
def maxPort : Nat := 65535

/-- Why a listener cannot take a port of the local host, none when it can: a port is a whole
number up to 65535 with an optional sign, or else a service name, which this host does not
know. -/
def listenError (port : String) : Option String :=
  let address := ":" ++ port
  if port.contains ':' then some ("listen tcp: address " ++ address ++ ": too many colons in address")
  else
    let (neg, digits) := match port.toList with
      | '+' :: ds => (false, ds)
      | '-' :: ds => (true, ds)
      | ds => (false, ds)
    if !digits.all Char.isDigit then some ("listen tcp: lookup tcp/" ++ port ++ ": unknown port")
    else
      let n := digits.foldl (fun n c => n * 10 + (c.toNat - 48)) 0
      if (neg && n > 0) || n > maxPort then some ("listen tcp: address " ++ port ++ ": invalid port")
      else none

/-- What a run works on: the stores on disk, and its own clock and log. -/
structure Host where
  disk : Disk
  ambient : Ambient

/-- Logs a record. -/
def Host.log (h : Host) (level : LogLevel) (message : String) (attrs : List (String × Json) := []) :
    Host :=
  { h with ambient := ((logAt level message attrs).run h.ambient).2 }

/-- Brings a user's store up to date: how many migrations were applied, or why the store cannot
be used. Migrations applied before a failure stay applied. -/
def migrateStore (h : Host) (opener : Opener) (user : String) : Except Failure Nat × Host :=
  match opener.open_ h.disk user with
  | .error f => (.error f, h)
  | .ok path =>
    let (((n, failure), db), amb) := ((ensureSchema user).run (h.disk.load path)).run h.ambient
    let h := { disk := h.disk.save path db, ambient := amb }
    match failure with
    | some f => (.error f, h)
    | none => (.ok n, h)

/-- The `migrate` mode: every user's store in turn, then the errors of those that failed. -/
def migrate (h : Host) (cfg : Config) (users : List String) : Option String × Host :=
  if users.isEmpty then (some "migrate requires at least one user id", h)
  else
    match Opener.ofDriver cfg.storeDriver cfg.storeDataDir cfg.databaseUrl with
    | .error e => (some e, h)
    | .ok opener =>
      let (errors, h) := users.foldl (fun (errors, h) user =>
        match migrateStore h opener user with
        | (.error f, h) =>
          (errors ++ ["user " ++ user ++ ": " ++ f.text],
            h.log .error "migration failed" [("user_id", .str user), ("error", .str f.text)])
        | (.ok n, h) =>
          (errors, h.log .info "store is up to date" [("user_id", .str user),
            ("applied", .nat n), ("schema_version", .nat latestVersion)])) ([], h)
      if errors.isEmpty then (none, h)
      else (some ("migration failed: " ++ "\n".intercalate errors), h)

/-- The `serve` mode up to listening: it serves, or ends with the listener's error after its
workers are stopped. -/
def serve (h : Host) (cfg : Config) : Ending × Host :=
  match Opener.ofDriver cfg.storeDriver cfg.storeDataDir cfg.databaseUrl with
  | .error e => (.returned (some e), h)
  | .ok _ =>
    let h := h.log .info "API server starting" [("addr", .str (":" ++ cfg.serverPort))]
    match listenError cfg.serverPort with
    | none => (.serving, h)
    | some e =>
      let h := h.log .info "すべてのアクターを停止しました"
      (.returned (some ("server listen error: " ++ e)), h)

/-- The error of a health check of the configured port, where no server answers. -/
def healthcheck (env : Environment) : String :=
  let port := env.text "SERVER_PORT" "8080"
  "health check failed: Get " ++ Text.quote ("http://localhost:" ++ port ++ "/health") ++
    ": dial tcp: connect: connection refused"

/-- Runs the program with an environment and arguments on the stores of a service, logging at a
threshold that an earlier run may have set: the outcome and the service after it, whose stores
and clock the run shares. -/
def run (s : Service) (threshold : LogLevel) (env : Environment) (args : List String) :
    Outcome × Service :=
  let (cmd, rest) := Command.parse args
  let h : Host := { disk := s.hosting.disk, ambient := { clock := s.hosting.ambient.clock, threshold } }
  let (ending, h) : Ending × Host :=
    if cmd == .healthcheck then (.returned (some (healthcheck env)), h)
    else
      match Config.load env with
      | .error e => (.returned (some ("initialization failed: failed to load config: " ++ e)), h)
      | .ok cfg =>
        let h := match LogLevel.parse cfg.logLevel with
          | .ok l => { h with ambient := { h.ambient with threshold := l } }
          | .error m => h.log .warn "LOG_LEVELが不正なためinfoで出力します" [("error", .str m)]
        let h := h.log .info "starting application" [("command", .str cmd.name),
          ("port", .str cfg.serverPort), ("store_driver", .str cfg.storeDriver)]
        match cmd with
        | .migrate =>
          let (e, h) := migrate h cfg rest
          (.returned e, h)
        | _ => serve h cfg
  let ambient := { s.hosting.ambient with clock := h.ambient.clock }
  let s := { s with hosting := { s.hosting with disk := h.disk, ambient } }
  ({ command := cmd, ending, log := h.ambient.log, threshold := h.ambient.threshold }, s)

end ReadLater.App
