import ReadLater.Clock.Duration
import ReadLater.Text.Case
import ReadLater.Text.Quote

/-!
# Configuration

The service reads its configuration from environment variables once, at start. The store driver
(`sqlite` or `postgres`, any case), the signing secret and the internal API token must be set,
and the database URL as well when the driver is `postgres`. Every other setting has a default,
which also stands in for a value that does not parse: a number must be a whole decimal number
within 64 bits, and a duration is written as `Clock.parseDuration` reads it.
-/

namespace ReadLater

/-- The settings of the service. -/
structure Config where
  storeDriver : String
  storeDataDir : String
  databaseUrl : String
  jwtSecret : String
  jwtIssuer : String
  internalApiToken : String
  /-- Nanoseconds a worker may stay idle before it stops. -/
  actorIdleTimeoutNs : Int
  rateLimitSyncPerMin : Int
  maxMutationsPerPush : Int
  maxIngestBatch : Int
  /-- Nanoseconds a fetch may take. -/
  fetchTimeoutNs : Int
  fetchMaxSize : Int
  logLevel : String
  serverPort : String
  corsAllowedOrigin : String
  deriving Repr, Inhabited

/-- The environment: variable names and their values. -/
abbrev Environment := List (String × String)

namespace Environment

/-- A variable's value, empty when unset. -/
def get (env : Environment) (key : String) : String :=
  ((env.filter (·.1 == key)).getLast?.map (·.2)).getD ""

/-- A variable's value, or a default when it is unset or empty. -/
def text (env : Environment) (key dflt : String) : String :=
  let v := env.get key
  if v.isEmpty then dflt else v

/-- A whole decimal number with an optional sign, within 64 signed bits. -/
def decimal? (s : String) : Option Int :=
  let (neg, digits) := match s.toList with
    | '-' :: rest => (true, rest)
    | '+' :: rest => (false, rest)
    | cs => (false, cs)
  if digits.isEmpty || !digits.all Char.isDigit then none
  else
    let n : Nat := digits.foldl (fun n c => n * 10 + (c.toNat - 48)) 0
    let v : Int := if neg then -(n : Int) else n
    if v < -9223372036854775808 || v > 9223372036854775807 then none else some v

/-- A number variable, or a default when it is unset or does not parse. -/
def number (env : Environment) (key : String) (dflt : Int) : Int :=
  (decimal? (env.get key)).getD dflt

/-- A duration variable in nanoseconds, or a default when it is unset or does not parse. -/
def duration (env : Environment) (key : String) (dflt : Int) : Int :=
  (Clock.parseDuration (env.get key)).getD dflt

end Environment

/-- The variables the configuration is read from. -/
def Config.variables : List String :=
  ["STORE_DRIVER", "STORE_DATA_DIR", "DATABASE_URL", "JWT_SECRET", "JWT_ISSUER",
    "INTERNAL_API_TOKEN", "ACTOR_IDLE_TIMEOUT", "RATE_LIMIT_SYNC_PER_MIN", "MAX_MUTATIONS_PER_PUSH",
    "MAX_INGEST_BATCH", "FETCH_TIMEOUT", "FETCH_MAX_SIZE_BYTES", "LOG_LEVEL", "SERVER_PORT",
    "CORS_ALLOWED_ORIGIN"]

/-- Reads the configuration from the environment, or says what is wrong with it. -/
def Config.load (env : Environment) : Except String Config := do
  let driver := Text.toLower (env.text "STORE_DRIVER" "sqlite")
  if driver != "sqlite" && driver != "postgres" then
    throw ("unsupported STORE_DRIVER " ++ Text.quote driver)
  let databaseUrl := env.get "DATABASE_URL"
  let jwtSecret := env.get "JWT_SECRET"
  let internalApiToken := env.get "INTERNAL_API_TOKEN"
  let missing :=
    (if driver == "postgres" && databaseUrl.isEmpty then ["DATABASE_URL"] else []) ++
    (if jwtSecret.isEmpty then ["JWT_SECRET"] else []) ++
    (if internalApiToken.isEmpty then ["INTERNAL_API_TOKEN"] else [])
  if !missing.isEmpty then
    throw ("required environment variables are not set: [" ++ " ".intercalate missing ++ "]")
  return {
    storeDriver := driver
    storeDataDir := env.text "STORE_DATA_DIR" "./data"
    databaseUrl
    jwtSecret
    jwtIssuer := env.text "JWT_ISSUER" ""
    internalApiToken
    actorIdleTimeoutNs := env.duration "ACTOR_IDLE_TIMEOUT" 300000000000
    rateLimitSyncPerMin := env.number "RATE_LIMIT_SYNC_PER_MIN" 300
    maxMutationsPerPush := env.number "MAX_MUTATIONS_PER_PUSH" 500
    maxIngestBatch := env.number "MAX_INGEST_BATCH" 1000
    fetchTimeoutNs := env.duration "FETCH_TIMEOUT" 10000000000
    fetchMaxSize := env.number "FETCH_MAX_SIZE_BYTES" 5242880
    logLevel := env.text "LOG_LEVEL" "info"
    serverPort := env.text "SERVER_PORT" "8080"
    corsAllowedOrigin := env.text "CORS_ALLOWED_ORIGIN" "" }

/-- The modes the program runs in. -/
inductive Command where
  | serve
  | migrate
  | healthcheck
  deriving DecidableEq, Repr, Inhabited

/-- The mode's name. -/
def Command.name : Command → String
  | .serve => "serve"
  | .migrate => "migrate"
  | .healthcheck => "healthcheck"

/-- The mode named by the first argument and the arguments after it; no argument, or one that
names no mode, serves with no arguments. -/
def Command.parse : List String → Command × List String
  | "serve" :: rest => (.serve, rest)
  | "migrate" :: rest => (.migrate, rest)
  | "healthcheck" :: rest => (.healthcheck, rest)
  | _ => (.serve, [])

end ReadLater
