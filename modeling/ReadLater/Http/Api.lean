import ReadLater.Http.Handlers
import ReadLater.Http.Route
import ReadLater.Http.Token
import ReadLater.Http.RateLimit

/-!
# The HTTP API

The API serves the service over HTTP. Every request passes, in order:

1. logging: the answer's status is counted and a record `http_request` is logged with the
   method, the path, the status and the authenticated user (level by status: 5xx error, 4xx
   warning, else info);
2. security headers on every answer (`nosniff`, `DENY`, `no-referrer`, `no-store`);
3. CORS headers when an origin is allowed, and a 204 for any `OPTIONS` request;
4. routing: `GET /health`, `GET /metrics` when served, and two groups:
   * `/api/replicache`: a bearer token signed with the secret (the token's subject is the user),
     then the rate limit, then `POST /push`, `GET /pull` and `POST /pull`;
   * `/internal/users/{userID}`: the internal bearer token, then `POST` and `GET /sources`,
     `DELETE /sources/{sourceID}`, `POST /sources/{sourceID}/ingest` and `/refresh`,
     `POST /identity-events` and `GET /schema`.

A group checks its credentials before it routes, so a path of the group that names no route is
refused without them. A path that no route takes is a 404, a route of another method a 405 with
the allowed methods, and a method outside HTTP's own a 405 without them.

* `Http.Settings`, `Http.Api`: how the API is set up, and its state (the rate limiter);
* `Api.serve`: the answer to a request, with the API and the service after it.
-/

namespace ReadLater.Http

/-- How the API is set up. -/
structure Settings where
  jwtSecret : String := ""
  /-- The issuer tokens must name; any when empty. -/
  jwtIssuer : String := ""
  /-- The token of the internal API; the internal API refuses everything when it is empty. -/
  internalToken : String := ""
  /-- The origin allowed to call from browsers; no CORS headers when empty. -/
  corsOrigin : String := ""
  fetcher : Option Fetcher := none
  /-- Whether the sync and user routes are served. -/
  serviceRoutes : Bool := true
  /-- Whether `/metrics` is served. -/
  metricsEndpoint : Bool := false
  /-- Whether `/health` asks the service. -/
  checkedHealth : Bool := true
  /-- Whether answers are counted by status. -/
  countStatuses : Bool := true

/-- The API: its settings and its rate limiter, if requests are limited. -/
structure Api where
  settings : Settings
  limiter : Option Limiter := none

/-- The endpoints of the API. -/
inductive Endpoint where
  | health
  | metrics
  | push
  | pull
  | createSource
  | listSources
  | deleteSource
  | ingest
  | refresh
  | identityEvent
  | schema
  deriving Repr, Inhabited, DecidableEq

/-- The methods of HTTP. -/
def knownMethods : List String :=
  ["GET", "HEAD", "POST", "PUT", "PATCH", "DELETE", "CONNECT", "OPTIONS", "TRACE"]

/-- The routes outside the groups. -/
def topRoutes (metrics : Bool) : List (Route Endpoint) :=
  [⟨"GET", [.lit "health"], .health⟩] ++
    (if metrics then [⟨"GET", [.lit "metrics"], .metrics⟩] else [])

/-- Where the sync group is mounted. -/
def syncPrefix : Pattern := [.lit "api", .lit "replicache"]

/-- The routes of the sync group. -/
def syncRoutes : List (Route Endpoint) :=
  [⟨"POST", [.lit "push"], .push⟩, ⟨"GET", [.lit "pull"], .pull⟩, ⟨"POST", [.lit "pull"], .pull⟩]

/-- Where the user group is mounted. -/
def userPrefix : Pattern := [.lit "internal", .lit "users", .param "userID"]

/-- The routes of the user group. -/
def userRoutes : List (Route Endpoint) :=
  [⟨"POST", [.lit "sources"], .createSource⟩,
   ⟨"GET", [.lit "sources"], .listSources⟩,
   ⟨"DELETE", [.lit "sources", .param "sourceID"], .deleteSource⟩,
   ⟨"POST", [.lit "sources", .param "sourceID", .lit "ingest"], .ingest⟩,
   ⟨"POST", [.lit "sources", .param "sourceID", .lit "refresh"], .refresh⟩,
   ⟨"POST", [.lit "identity-events"], .identityEvent⟩,
   ⟨"GET", [.lit "schema"], .schema⟩]

/-- The headers every answer carries. -/
def securityHeaders : Headers :=
  [("X-Content-Type-Options", "nosniff"), ("X-Frame-Options", "DENY"),
    ("Referrer-Policy", "no-referrer"), ("Cache-Control", "no-store")]

/-- The CORS headers for an allowed origin. -/
def corsHeaders (origin : String) : Headers :=
  if origin.isEmpty then []
  else [("Access-Control-Allow-Origin", origin),
    ("Access-Control-Allow-Methods", "GET, POST, OPTIONS"),
    ("Access-Control-Allow-Headers", "Authorization, Content-Type"),
    ("Access-Control-Max-Age", "86400"), ("Vary", "Origin")]

/-- The level a record of an answer is logged at. -/
def levelOf (status : Nat) : LogLevel :=
  if status ≥ 500 then .error else if status ≥ 400 then .warn else .info

/-- The answer of the metrics endpoint: its text format, no metrics written here. -/
def metricsAnswer : Response :=
  { status := 200,
    headers := [("Content-Type", "text/plain; version=0.0.4; charset=utf-8; escaping=underscores")] }

/-- What routing does with a request: the request, its target, and the parameters of the path. -/
structure Call where
  request : Request
  target : Target
  params : List (String × String) := []
  user : Option String := none

/-- A parameter of the path, empty when absent. -/
def Call.param (c : Call) (name : String) : String :=
  ((c.params.find? (·.1 == name)).map (·.2)).getD ""

namespace Api

/-- The instant of the service's clock, in nanoseconds. -/
def now (s : Service) : Int := s.hosting.ambient.clock.nanos

/-- Runs an endpoint for a call. -/
def run (api : Api) (s : Service) (c : Call) : Endpoint → Response × Service
  | .health => Handlers.health api.settings.checkedHealth s
  | .metrics => (metricsAnswer, s)
  | .push => Handlers.push s c.user c.request.body
  | .pull => Handlers.pull s c.user c.request.method c.target c.request.body
  | .createSource => Handlers.createSource s (c.param "userID") c.request.body
  | .listSources => Handlers.listSources s (c.param "userID")
  | .deleteSource => Handlers.deleteSource s (c.param "userID") (c.param "sourceID")
  | .ingest => Handlers.ingest s (c.param "userID") (c.param "sourceID") c.request.body
  | .refresh => Handlers.refresh api.settings.fetcher s (c.param "userID") (c.param "sourceID")
  | .identityEvent => Handlers.identityEvent s (c.param "userID") c.request.body
  | .schema => Handlers.schema s (c.param "userID")

/-- Routes a call in a table by a path. -/
def route (api : Api) (s : Service) (c : Call) (table : List (Route Endpoint)) (path : String) :
    Response × Service :=
  match Route.resolve table c.request.method path with
  | .found e ps => api.run s { c with params := c.params ++ ps } e
  | .wrongMethod allowed => (Response.methodNotAllowed allowed, s)
  | .notFound => (Response.notFound, s)

/-- An unauthorized answer. -/
def refuse (reason : String) : Response := Response.problem 401 (.unauthorized reason)

/-- What follows the limiter's decision on a user's request: the request goes on, or it is
refused with the time to wait and a warning is logged. Either way the limiter is kept. -/
def throttle (api : Api) (s : Service) (user : String) :
    Bool × Limiter → Option Response × Api × Service
  | (ok, l) =>
    let api := { api with limiter := some l }
    if ok then (none, api, s)
    else
      let r := Response.problem 429 .rateLimited
      (some { r with headers := ("Retry-After", toString l.retryAfter) :: r.headers }, api,
        s.log .warn "rate limit exceeded" [("user_id", .str user)])

/-- The rate limit for a user: whether the request goes on, the refusal otherwise. -/
def limit (api : Api) (s : Service) (user : String) : Option Response × Api × Service :=
  match api.limiter with
  | none => (none, api, s)
  | some l => api.throttle s user (l.allow user (now s))

/-- The sync group: the token, then the rate limit, then its routes. Also the authenticated
user, when there is one. -/
def syncGroup (api : Api) (s : Service) (c : Call) (rest : String) :
    Response × Api × Service × Option String :=
  let token := Token.bearer (c.request.headers.get "Authorization")
  if token.isEmpty then (refuse "missing bearer token", api, s, none)
  else
    match Token.verify api.settings.jwtSecret api.settings.jwtIssuer (now s) token with
    | .error e =>
      (refuse "invalid token", api,
        s.log .warn "トークンの検証に失敗しました" [("error", .str e.message)], none)
    | .ok claims =>
      if claims.subject.isEmpty then (refuse "token has no subject", api, s, none)
      else
        let user := claims.subject
        match api.limit s user with
        | (some r, api, s) => (r, api, s, some user)
        | (none, api, s) =>
          let (r, s) := api.route s { c with user := some user } syncRoutes rest
          (r, api, s, some user)

/-- The user group: the internal token, then its routes. -/
def userGroup (api : Api) (s : Service) (c : Call) (rest : String) : Response × Service :=
  let token := api.settings.internalToken
  if token.isEmpty || Token.bearer (c.request.headers.get "Authorization") != token then
    (refuse "invalid service token", s)
  else api.route s c userRoutes rest

/-- Routes a request whose method is one of HTTP's. -/
def dispatch (api : Api) (s : Service) (c : Call) : Response × Api × Service × Option String :=
  let path := c.target.routePath
  let groups := api.settings.serviceRoutes
  match (if groups then Route.mount syncPrefix path else none) with
  | some (_, rest) => api.syncGroup s c rest
  | none =>
    match (if groups then Route.mount userPrefix path else none) with
    | some (ps, rest) =>
      let (r, s) := api.userGroup s { c with params := ps } rest
      (r, api, s, none)
    | none =>
      let (r, s) := api.route s c (topRoutes api.settings.metricsEndpoint) path
      (r, api, s, none)

/-- Counts an answer by status and logs its record. -/
def record (api : Api) (s : Service) (req : Request) (path : String) (status : Nat)
    (user : Option String) : Service :=
  let s := if api.settings.countStatuses then
      s.count fun m => { m with httpStatuses := m.httpStatuses.bump (toString status) }
    else s
  s.log (levelOf status) "http_request" ([("method", .str req.method), ("path", .str path),
    ("status", .nat status)] ++ match user with
      | some u => [("user_id", .str u)]
      | none => [])

/-- The answer to a request, with the API and the service after it. -/
def serve (api : Api) (s : Service) (req : Request) : Response × Api × Service :=
  let pre := securityHeaders ++ corsHeaders api.settings.corsOrigin
  let (r, api, s, user, path) :=
    match req.readTarget with
    | none => (Response.notFound, api, s, none, req.target)
    | some t =>
      if req.method == "OPTIONS" then (Response.empty 204, api, s, none, t.path)
      else if !knownMethods.contains req.method then
        (Response.methodNotAllowed [], api, s, none, t.path)
      else
        let (r, api, s, user) := api.dispatch s { request := req, target := t }
        (r, api, s, user, t.path)
  let r := r.under pre
  (r, api, api.record s req path r.status user)

/-- The number of rate-limit buckets kept now, none when requests are not limited. -/
def limiterCount (api : Api) (s : Service) : Option Nat :=
  api.limiter.map fun l => l.count (now s)

end Api

end ReadLater.Http
