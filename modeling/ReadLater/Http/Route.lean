/-!
# Routes

A route takes requests of one method whose path matches a pattern. A pattern is a list of
segments, each a literal or a named parameter; a path matches when it has the same number of
segments (split at `/` after the leading one), each literal equal and each parameter taking its
segment. A parameter may take an empty segment when more of the path follows it, but not the
empty end of a path.

A group of routes is mounted under a prefix pattern: the group takes the prefix itself and every
path that continues it with `/`, and routes the rest (`/` when nothing is left).

Resolving a path in a table gives the matching route of the request's method with the values of
its parameters, or the methods of the routes that match the path when none is of that method,
or nothing.

* `Route.matchSegments`, `Route.matchPrefix`, `Route.mount`: patterns against paths;
* `Route.resolve`: a path and method in a table.
-/

namespace ReadLater.Http

/-- A segment of a pattern. -/
inductive Segment where
  | lit (text : String)
  | param (name : String)
  deriving Repr, Inhabited, DecidableEq

/-- A pattern: its segments after the leading `/`. -/
abbrev Pattern := List Segment

/-- A route of a table: a method, a pattern and what answers it. -/
structure Route (α : Type) where
  method : String
  pattern : Pattern
  target : α
  deriving Repr, Inhabited

/-- How a path and method resolve in a table. -/
inductive Resolution (α : Type) where
  | found (target : α) (params : List (String × String))
  /-- The path matches routes of other methods only. -/
  | wrongMethod (allowed : List String)
  | notFound
  deriving Repr, Inhabited

namespace Route

/-- The segments of a path after its leading `/`. -/
def segments (path : String) : List String := (path.drop 1).toString.splitOn "/"

/-- The parameters of a pattern that matches segments exactly. -/
def matchSegments : Pattern → List String → Option (List (String × String))
  | [], [] => some []
  | .lit t :: ps, s :: ss => if t == s then matchSegments ps ss else none
  | .param n :: ps, s :: ss =>
    if s.isEmpty && ss.isEmpty then none
    else (matchSegments ps ss).map ((n, s) :: ·)
  | _, _ => none

/-- The parameters of a pattern that matches the first segments of a path, and the segments
left after them. -/
def matchPrefix : Pattern → List String → Option (List (String × String) × List String)
  | [], ss => some ([], ss)
  | .lit t :: ps, s :: ss => if t == s then matchPrefix ps ss else none
  | .param n :: ps, s :: ss =>
    if s.isEmpty && ss.isEmpty then none
    else (matchPrefix ps ss).map fun (kv, rest) => ((n, s) :: kv, rest)
  | _ :: _, [] => none

/-- Where a mounted group takes a path: the parameters of its prefix and the path left for the
group, none when the path is not under the prefix. -/
def mount (stem : Pattern) (path : String) : Option (List (String × String) × String) :=
  (matchPrefix stem (segments path)).map fun (params, rest) =>
    (params, if rest.isEmpty then "/" else "/" ++ "/".intercalate rest)

/-- Resolves a method and path in a table: the first route of that method whose pattern matches,
else the methods of the routes that match. -/
def resolve {α : Type} (table : List (Route α)) (method path : String) : Resolution α :=
  let ss := segments path
  let matching := table.filterMap fun r => (matchSegments r.pattern ss).map (r, ·)
  match matching.find? (·.1.method == method) with
  | some (r, ps) => .found r.target ps
  | none =>
    if matching.isEmpty then .notFound
    else .wrongMethod (matching.map (·.1.method)).eraseDups

end Route

end ReadLater.Http
