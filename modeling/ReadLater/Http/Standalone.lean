import ReadLater.Http.Api

/-!
# Handlers on their own

The handlers and middleware of the API can be served one at a time, without the router and its
chain, each at a fixed path. Nothing then authenticates a request, so the handlers that need a
user refuse every request, and the endpoints of a user's store see the empty user:

* `/push`, `/pull`: the sync handlers, which refuse a request without a user (401);
* `/limited`: the rate limit over a handler that answers `ok`, which refuses a request without a
  user (401);
* `/panic`: the recovery over a handler that fails, which answers an internal error (500);
* `/plain`: the logging over a handler that writes `ok` without a status (200, counted);
* `/health`: the health handler without a check;
* `/internal/sources`, `/internal/refresh`: the sources and refresh handlers of the empty user;
* `/router/…`: a router with no service routes and the metrics endpoint.

Any other path is a 404.
-/

namespace ReadLater.Http

namespace Api

/-- The router with no service routes that serves `/health` unchecked and `/metrics`. -/
def metricsOnly : Api :=
  { settings := { serviceRoutes := false, metricsEndpoint := true, checkedHealth := false,
                  countStatuses := false } }

/-- A text answer, whose type is told from its content. -/
def plainText (body : String) : Response :=
  { status := 200, headers := [("Content-Type", "text/plain; charset=utf-8")], body }

/-- The answer of a handler served on its own at a path, and the service after it. -/
def serveStandalone (api : Api) (s : Service) (req : Request) : Response × Service :=
  match req.readTarget with
  | none => (Response.notFound, s)
  | some t =>
    let path := t.path
    if path == "/push" then Handlers.push s none req.body
    else if path == "/pull" then Handlers.pull s none req.method t req.body
    else if path == "/limited" then (Handlers.unauthenticated, s)
    else if path == "/panic" then
      (Response.problem 500 .internalError,
        s.log .error "ハンドラでpanicが発生" [("panic", .str (t.param "v")),
          ("method", .str req.method), ("path", .str path)])
    else if path == "/plain" then
      let r := plainText "ok"
      (r, api.record s req path r.status none)
    else if path == "/health" then Handlers.health false s
    else if path == "/internal/sources" then
      if req.method == "POST" then Handlers.createSource s "" req.body
      else Handlers.listSources s ""
    else if path == "/internal/refresh" then Handlers.refresh api.settings.fetcher s "" ""
    else if path.startsWith "/router/" then
      let (r, _, s) := metricsOnly.serve s { req with target := (req.target.drop 7).toString }
      (r, s)
    else (Response.notFound, s)

end Api

end ReadLater.Http
