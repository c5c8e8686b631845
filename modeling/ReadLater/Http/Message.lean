import ReadLater.Problem
import ReadLater.Json.Write
import ReadLater.Text.Case
import ReadLater.Net.Url

/-!
# Requests and responses

The API answers HTTP requests. A request is a method, a target (the path with its query, as
written), headers and a body; a response is a status, headers and a body. Header names are
matched in any letter case.

The answers of the API take a few fixed forms:

* `Response.json`: a JSON document with `Content-Type: application/json`, ended by a newline;
* `Response.problem`: a problem as `{code, message, category, action, details?}`;
* `Response.notFound`: the plain text `404 page not found`;
* `Response.methodNotAllowed`: an empty 405 that lists the allowed methods in `Allow`.

Middleware sets headers before the handler runs; `Response.under` puts such headers under a
response, the handler's own headers taking precedence.
-/

namespace ReadLater.Http

/-- Header fields in order. -/
abbrev Headers := List (String × String)

namespace Headers

/-- Whether a field has a name, in any letter case. -/
def named (name : String) (f : String × String) : Bool := Text.toLower f.1 == Text.toLower name

/-- The values of a name, in order. -/
def values (hs : Headers) (name : String) : List String := (hs.filter (named name)).map (·.2)

/-- The first value of a name, or empty. -/
def get (hs : Headers) (name : String) : String := ((hs.values name).head?).getD ""

/-- The fields with a name set to one value. -/
def set (hs : Headers) (name value : String) : Headers :=
  hs.filter (fun f => !named name f) ++ [(name, value)]

end Headers

/-- A request to the API. -/
structure Request where
  method : String := "GET"
  /-- The path and query as sent. -/
  target : String := "/"
  headers : Headers := []
  body : String := ""
  deriving Repr, Inhabited

/-- The target of a request read as a URL: its path decoded, the escaped path when it is not
the standard escaping, and its query. -/
structure Target where
  path : String
  /-- The path as sent, when its escaping is not the standard one; empty otherwise. -/
  rawPath : String := ""
  query : Net.Query := []
  deriving Repr, Inhabited

/-- Reads the target of a request, none when it is no URL path. -/
def Request.readTarget (r : Request) : Option Target :=
  match Net.parseBody (Text.Bytes.ofString r.target) with
  | .ok u => some { path := Text.Bytes.text u.path, rawPath := Text.Bytes.text u.rawPath,
                    query := u.query }
  | .error _ => none

/-- The path that routes see: the path as sent when its escaping is not standard, the decoded
path otherwise, and `/` for an empty path. -/
def Target.routePath (t : Target) : String :=
  let p := if t.rawPath.isEmpty then t.path else t.rawPath
  if p.isEmpty then "/" else p

/-- The first value of a query parameter, or empty. -/
def Target.param (t : Target) (name : String) : String :=
  Text.Bytes.text (t.query.get (Text.Bytes.ofString name))

/-- A response from the API. -/
structure Response where
  status : Nat := 200
  headers : Headers := []
  body : String := ""
  deriving Repr, Inhabited

namespace Response

/-- A JSON document, ended by a newline. -/
def json (status : Nat) (j : Json) : Response :=
  { status, headers := [("Content-Type", "application/json")], body := Json.render j ++ "\n" }

/-- The body that reports a problem. -/
def problemBody (p : Problem) : Json :=
  .obj ([("code", .str p.code), ("message", .str p.message), ("category", .str p.category),
    ("action", .str p.action)] ++
    match p.details with
    | some d => [("details", .obj d)]
    | none => [])

/-- A problem answered with a status. -/
def problem (status : Nat) (p : Problem) : Response := json status (problemBody p)

/-- The answer for a path that no route takes. -/
def notFound : Response :=
  { status := 404,
    headers := [("Content-Type", "text/plain; charset=utf-8"), ("X-Content-Type-Options", "nosniff")],
    body := "404 page not found\n" }

/-- The answer for a method that the route of a path does not take. -/
def methodNotAllowed (allowed : List String) : Response :=
  { status := 405, headers := allowed.map fun m => ("Allow", m) }

/-- An empty answer with a status. -/
def empty (status : Nat) : Response := { status }

/-- Headers set before the handler ran, under the handler's own: a name the handler set keeps
only the handler's values. -/
def under (hs : Headers) (r : Response) : Response :=
  { r with headers := hs.filter (fun f => !r.headers.any fun g => Headers.named g.1 f) ++ r.headers }

end Response

end ReadLater.Http
