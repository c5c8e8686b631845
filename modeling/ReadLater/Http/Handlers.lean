import ReadLater.Http.Message
import ReadLater.Service
import ReadLater.Feed.Fetch
import ReadLater.Config

/-!
# Endpoint handlers

Each endpoint of the API reads its request, runs one or two operations of the service and
answers. The rules they share:

* a body is the first JSON value of the request, checked against the request's record type;
  a body that cannot be read is a 400 validation problem (`リクエストボディの解析に失敗しました: …`);
* a failure of the service is answered with the HTTP status of its problem (`statusOf`); the
  closing of the service is a 503, and any other failure a logged 500 internal error;
* values are answered as JSON with status 200, a newly created source with 201.

A refresh fetches the feed of a source over the network and ingests its posts; every refresh is
counted as `ok` or `failed`, and a failed one is logged.

* `Handlers.createSource`, `listSources`, `deleteSource`, `ingest`, `refresh`, `identityEvent`,
  `schema`: the endpoints of a user's store;
* `Handlers.push`, `Handlers.pull`: the sync endpoints of an authenticated user;
* `Handlers.health`: whether the service takes requests.
-/

namespace ReadLater.Http

open Sync Store

/-- The network and size limit that refreshes fetch feeds with. -/
structure Fetcher where
  transport : Feed.Transport
  maxSize : Nat

/-- The HTTP status that answers a problem. -/
def statusOf (p : Problem) : Nat := p.status

namespace Handlers

/-- The answer to a failure of the service: its problem with the problem's status; the closing of
the service as 503; anything else as an internal error, which is logged. -/
def failure (s : Service) (f : Failure) : Response × Service :=
  match f.problem? with
  | some p => (Response.problem (statusOf p) p, s)
  | none =>
    if f.isRegistryClosed then (Response.problem 503 .shuttingDown, s)
    else (Response.problem 500 .internalError,
      s.log .error "internal server error" [("error", .str f.text)])

/-- Answers a step of the service: its value as JSON with a status, or its failure. -/
def answer {α : Type} (r : Service.Step α) (status : α → Nat) (enc : α → Json) :
    Response × Service :=
  match r with
  | (.ok a, s) => (Response.json (status a) (enc a), s)
  | (.error f, s) => failure s f

/-- A validation problem answered with 400. -/
def invalid (reason : String) : Response := Response.problem 400 (.validation reason)

/-- The body of a request read as a record of a shape, or the 400 answer. -/
def readBody (shape : Shape) (body : String) : Except Response Json :=
  match shape.readBody body with
  | .ok j => .ok j
  | .error m => .error (invalid ("リクエストボディの解析に失敗しました: " ++ m))

/-! ## Request records -/

/-- A subscription request. -/
def subscribeShape : Shape :=
  .record "sources.SubscribeRequest" [("provider", .text "model.Provider"),
    ("providerId", .text "string"), ("name", .text "string"), ("config", .raw)]

/-- A push request. -/
def pushShape : Shape :=
  .record "model.PushRequest" [("clientId", .text "string"), ("clientGroupId", .text "string"),
    ("mutations", .list "[]model.Mutation"
      (.record "model.Mutation" [("id", .int64), ("name", .text "string"), ("args", .raw)]))]

/-- A pull request. -/
def pullShape : Shape :=
  .record "model.PullRequest" [("sinceVersion", .int64), ("clientGroupId", .text "string")]

/-- The fields of an item to ingest. -/
def itemFields : List (String × Shape) :=
  ["providerItemId", "contentType", "canonicalUrl", "title", "summary", "author", "publisher",
    "publishedAt", "thumbnailUrl"].map (·, .text "string") ++ [("durationSeconds", .optInt64)]

/-- An ingest request. -/
def ingestShape : Shape :=
  .record "handler.ingestRequest"
    [("items", .list "[]handler.ingestItemRequest" (.record "handler.ingestItemRequest" itemFields))]

/-- An identity event. -/
def identityShape : Shape :=
  .record "model.IdentityEvent" [("type", .text "string"),
    ("data", .record "model.IdentityPayload" [("email", .text "string"),
      ("first_name", .text "string"), ("last_name", .text "string"),
      ("image_url", .text "string")])]

/-- A subscription request from its record. -/
def subscribeRequestOf (j : Json) : SubscribeRequest :=
  { provider := j.textField "provider", providerId := j.textField "providerId",
    name := j.textField "name",
    config := match j.field? "config" with
      | none | some .null => ""
      | some v => Json.render v }

/-- A push request from its record. -/
def pushRequestOf (j : Json) : PushRequest :=
  ⟨j.textField "clientId", j.textField "clientGroupId", (j.listField "mutations").map fun m =>
    { id := m.intField "id", name := m.textField "name", args := m.field? "args" }⟩

/-- An identity event from its record. -/
def identityEventOf (j : Json) : IdentityEvent :=
  let d := (j.field? "data").getD .null
  ⟨j.textField "type", ⟨d.textField "email", d.textField "first_name", d.textField "last_name",
    d.textField "image_url"⟩⟩

/-- The items of an ingest request, or the 400 answer naming the first publication time that
cannot be read. -/
def incomingOf (items : List Json) : Except Response (List Incoming) :=
  let rec go (i : Nat) : List Json → Except Response (List Incoming)
    | [] => .ok []
    | x :: rest =>
      match Clock.parsePublishedAt (x.textField "publishedAt") with
      | .error m => .error (invalid s!"items[{i}].publishedAt: {m}")
      | .ok t =>
        let item : Incoming := {
          providerItemId := x.textField "providerItemId"
          contentType := x.textField "contentType"
          canonicalUrl := x.textField "canonicalUrl"
          title := x.textField "title"
          summary := x.textField "summary"
          author := x.textField "author"
          publisher := x.textField "publisher"
          publishedAt := t
          thumbnailUrl := x.textField "thumbnailUrl"
          durationSeconds := x.optIntField "durationSeconds" }
        (item :: ·) <$> go (i + 1) rest
  go 0 items

/-! ## A user's store -/

/-- Subscribes a user to a source: 201 with the new source, 200 with one already there. -/
def createSource (s : Service) (user body : String) : Response × Service :=
  match readBody subscribeShape body with
  | .error r => (r, s)
  | .ok j =>
    answer (s.subscribe user (subscribeRequestOf j)) (fun (_, created) => if created then 201 else 200)
      (fun (src, _) => src.toJson)

/-- The sources of a user, oldest first. -/
def listSources (s : Service) (user : String) : Response × Service :=
  answer (s.listSources user) (fun _ => 200) fun xs => .arr (xs.map Source.toJson)

/-- Unsubscribes a user from a source; the version after it. -/
def deleteSource (s : Service) (user sourceId : String) : Response × Service :=
  answer (s.unsubscribe user sourceId) (fun _ => 200) fun v => .obj [("version", .int v)]

/-- Ingests a batch of items into one of a user's sources. -/
def ingest (s : Service) (user sourceId body : String) : Response × Service :=
  match readBody ingestShape body with
  | .error r => (r, s)
  | .ok j =>
    match incomingOf (j.listField "items") with
    | .error r => (r, s)
    | .ok items => answer (s.ingest user sourceId items) (fun _ => 200) IngestReport.toJson

/-- Folds an identity event into a user's profile: whether it changed, and the profile when
there is one. -/
def identityEvent (s : Service) (user body : String) : Response × Service :=
  match readBody identityShape body with
  | .error r => (r, s)
  | .ok j =>
    answer (s.applyIdentity user (identityEventOf j)) (fun _ => 200) fun (p, applied) =>
      .obj ([("applied", .bool applied)] ++ match p with
        | some p => [("profile", p.toJson)]
        | none => [])

/-- The schema status of a user's store. -/
def schema (s : Service) (user : String) : Response × Service :=
  answer (s.schema user) (fun _ => 200) SchemaStatus.toJson

/-- Fetches the feed of one of a user's sources and ingests its posts: the report and the number
of posts fetched. -/
def runRefresh (fetcher : Option Fetcher) (s : Service) (user sourceId : String) :
    Except Failure (IngestReport × Nat) × Service :=
  match s.getSource user sourceId with
  | (.error f, s) => (.error f, s)
  | (.ok src, s) =>
    match fetcher with
    | none => (.error (.problem (.refreshUnsupported src.provider.name)), s)
    | some f =>
      match Feed.feedUrlForSource src.provider.name src.providerId src.config with
      | .error p => (.error (.problem p), s)
      | .ok url =>
        match Feed.fetchItems f.transport f.maxSize url with
        | .error p => (.error (.problem p), s)
        | .ok items =>
          match s.ingest user sourceId items with
          | (.ok rep, s) => (.ok (rep, items.length), s)
          | (.error e, s) => (.error e, s)

/-- Refreshes one of a user's sources: the number of posts fetched and the ingest report. The
refresh is counted by result, and a failed one is logged. -/
def refresh (fetcher : Option Fetcher) (s : Service) (user sourceId : String) :
    Response × Service :=
  let (r, s) := runRefresh fetcher s user sourceId
  let result := match r with
    | .ok _ => "ok"
    | .error _ => "failed"
  let s := s.count fun m => { m with refreshes := m.refreshes.bump result }
  match r with
  | .ok (rep, n) => (Response.json 200 (.obj [("fetched", .nat n), ("result", rep.toJson)]), s)
  | .error f =>
    let s := s.log .warn "ソース更新に失敗しました"
      [("user_id", .str user), ("source_id", .str sourceId), ("error", .str f.text)]
    failure s f

/-! ## Sync -/

/-- The answer to a sync request that carries no user. -/
def unauthenticated : Response := Response.problem 401 (.unauthorized "unauthenticated request")

/-- Applies a push of an authenticated user. -/
def push (s : Service) (user : Option String) (body : String) : Response × Service :=
  match user with
  | none => (unauthenticated, s)
  | some u =>
    match readBody pushShape body with
    | .error r => (r, s)
    | .ok j => answer (s.push u (pushRequestOf j)) (fun _ => 200) PushReport.toJson

/-- Answers a pull of an authenticated user. A GET reads `sinceVersion` (a whole number; none
is 0) and `clientGroupId` from the query, any other method reads the body. -/
def pull (s : Service) (user : Option String) (method : String) (t : Target) (body : String) :
    Response × Service :=
  match user with
  | none => (unauthenticated, s)
  | some u =>
    let req : Except Response PullRequest :=
      if method == "GET" then
        let raw := t.param "sinceVersion"
        match (if raw.isEmpty then some 0 else Environment.decimal? raw) with
        | none => .error (invalid "sinceVersion must be an integer")
        | some v => .ok ⟨v, t.param "clientGroupId"⟩
      else (readBody pullShape body).map fun j => ⟨j.intField "sinceVersion", j.textField "clientGroupId"⟩
    match req with
    | .error r => (r, s)
    | .ok req => answer (s.pull u req) (fun _ => 200) PullReport.toJson

/-! ## Health -/

/-- Whether the service takes requests: `ok`, or `unavailable` with 503 (logged) once it is
closed. Without a check the answer is always `ok`. -/
def health (checked : Bool) (s : Service) : Response × Service :=
  match (if checked then s.health else .ok ()) with
  | .ok () => (Response.json 200 (.obj [("status", .str "ok")]), s)
  | .error f =>
    (Response.json 503 (.obj [("status", .str "unavailable")]),
      s.log .warn "health check failed" [("error", .str f.text)])

end Handlers

end ReadLater.Http
