/-!
# Slash-separated paths

Paths in their shortest equivalent form, by purely lexical rules: repeated slashes become one,
`.` segments go, a `..` segment removes the segment before it (and at the root of an absolute
path it is dropped), and the empty path is `.`. Joining puts a slash between the non-empty parts
and cleans the result.
-/

namespace ReadLater.Text

/-- The segments of a path after removing `.` and resolving `..`; `rooted` when the path starts
at the root. Segments are kept reversed while they are built. -/
def cleanSegments (rooted : Bool) : List String → List String → List String
  | [], acc => acc.reverse
  | s :: rest, acc =>
    if s.isEmpty || s == "." then cleanSegments rooted rest acc
    else if s == ".." then
      match acc with
      | top :: below => if top == ".." then cleanSegments rooted rest (s :: acc)
                        else cleanSegments rooted rest below
      | [] => if rooted then cleanSegments rooted rest [] else cleanSegments rooted rest [s]
    else cleanSegments rooted rest (s :: acc)

/-- The shortest path naming the same file. -/
def cleanPath (p : String) : String :=
  let rooted := p.startsWith "/"
  let segs := cleanSegments rooted (p.splitOn "/") []
  let body := "/".intercalate segs
  if rooted then "/" ++ body
  else if body.isEmpty then "." else body

/-- Two paths joined by a slash, cleaned; an empty part is left out. -/
def joinPath (a b : String) : String :=
  if a.isEmpty then (if b.isEmpty then "" else cleanPath b)
  else if b.isEmpty then cleanPath a
  else cleanPath (a ++ "/" ++ b)

end ReadLater.Text
