import ReadLater.Clock.Instant
import ReadLater.Text.Space

/-!
# Feeds, read

RSS, Atom and JSON feeds are read into one shape: a channel with a title and posts. A post
keeps what the service takes from it (its id, link, title, description, people, times, image,
enclosures) and the elements of namespaces beyond the feed's own, grouped by the prefix of their
namespace, such as the iTunes `itunes:duration` or the Media RSS `media:group`.

* `Feed.Extension`, `Feed.Extensions`: elements of other namespaces, with their children;
* `Feed.Person`, `Feed.nameAndAddress`: people, as feeds write them;
* `Feed.Post`, `Feed.Channel`: the feed.
-/

namespace ReadLater.Feed

open Clock

/-- An element of a namespace beyond the feed's own: its local name, trimmed text, attributes
by local name (the last of a name counts), and child elements in order. -/
inductive Extension where
  | mk (name : String) (value : String) (attrs : List (String × String)) (children : List Extension)
  deriving Repr, Inhabited

namespace Extension

/-- The element's local name. -/
def name : Extension → String
  | .mk n _ _ _ => n

/-- The element's trimmed text. -/
def value : Extension → String
  | .mk _ v _ _ => v

/-- The value of an attribute, empty when the element has none of that name. -/
def attr (e : Extension) (key : String) : String :=
  match e with
  | .mk _ _ attrs _ => (((attrs.filter (·.1 == key)).getLast?).map (·.2)).getD ""

/-- The child elements with a local name, in order. -/
def childrenNamed (e : Extension) (key : String) : List Extension :=
  match e with
  | .mk _ _ _ children => children.filter (·.name == key)

end Extension

/-- Elements of other namespaces, in order, each with the prefix of its namespace. -/
abbrev Extensions := List (String × Extension)

/-- Whether some element has a prefix. -/
def Extensions.has (exts : Extensions) (pre : String) : Bool := exts.any (·.1 == pre)

/-- The elements with a prefix and a local name, in order. -/
def Extensions.named (exts : Extensions) (pre key : String) : List Extension :=
  (exts.filter fun (p, e) => p == pre && e.name == key).map (·.2)

/-- The text of the first element with a prefix and a local name, empty when there is none. -/
def Extensions.firstValue (exts : Extensions) (pre key : String) : String :=
  ((exts.named pre key).head?.map (·.value)).getD ""

/-- The texts of the elements with a prefix and a local name, none when there are none. -/
def Extensions.values? (exts : Extensions) (pre key : String) : Option (List String) :=
  match exts.named pre key with
  | [] => none
  | es => some (es.map (·.value))

/-- Whether `sub` occurs in `s`. -/
def textContains (s sub : String) : Bool :=
  let cs := s.toList
  let ss := sub.toList
  (List.range (cs.length + 1)).any fun i => (cs.drop i).take ss.length == ss

/-- A person: a name and an email address, either possibly empty. -/
structure Person where
  name : String := ""
  email : String := ""
  deriving DecidableEq, Repr, Inhabited

/-- Whether a character is white space as patterns read it. -/
def isPatternSpace (c : Char) : Bool :=
  c == ' ' || c == '\t' || c == '\n' || c == '\r' || c == '\x0c'

/-- The name and address in text such as `Jo Doe (jo@example.com)`,
`jo@example.com (Jo Doe)`, a bare name or a bare address. Text of no such form gives neither. -/
def nameAndAddress (text : String) : Person :=
  let cs := text.toList
  -- `address (name)`: the address runs to the first blank after its `@`
  let addressFirst : Option Person := do
    let at_ ← cs.idxOf? '@'
    if at_ == 0 then none
    let afterAt := cs.drop (at_ + 1)
    let addrTail := afterAt.takeWhile (!isPatternSpace ·)
    if addrTail.isEmpty then none
    let rest := afterAt.drop addrTail.length
    let blanks := rest.takeWhile isPatternSpace
    if blanks.isEmpty then none
    match rest.drop blanks.length with
    | '(' :: inner =>
      if inner.getLast? != some ')' then none
      let name := inner.dropLast
      if name.isEmpty || name.contains '@' then none
      some { name := String.ofList name, email := String.ofList (cs.take (at_ + 1) ++ addrTail) }
    | _ => none
  -- `name (address)`: the name is the longest start, free of `@`, before blanks and `(`
  let nameFirst : Option Person := do
    if cs.getLast? != some ')' then none
    let body := cs.dropLast
    let candidates := (List.range (body.length + 1)).reverse.filterMap fun k =>
      let name := body.take k
      let rest := body.drop k
      if name.isEmpty || name.contains '@' then none
      else
        let blanks := rest.takeWhile isPatternSpace
        if blanks.isEmpty then none
        else match rest.drop blanks.length with
          | '(' :: addr =>
            match addr.idxOf? '@' with
            | some i =>
              if i == 0 then none
              else
                let tail := addr.drop (i + 1)
                if tail.isEmpty || tail.contains ')' then none
                else some { name := String.ofList name, email := String.ofList addr }
            | none => none
          | _ => none
    candidates.head?
  match addressFirst with
  | some p => p
  | none =>
    match nameFirst with
    | some p => p
    | none =>
      if cs.isEmpty then {}
      else if !(cs.contains '@' || cs.contains '(' || cs.contains ')') then { name := text }
      else
        match cs.idxOf? '@' with
        | some i =>
          let before := cs.take i
          let after := cs.drop (i + 1)
          if before.isEmpty || after.isEmpty || after.contains '@' || cs.contains '(' ||
              cs.contains ')' then {}
          else { email := text }
        | none => {}

/-- A file a post carries, such as an episode's audio. -/
structure Enclosure where
  url : String := ""
  mediaType : String := ""
  length : String := ""
  deriving DecidableEq, Repr, Inhabited

/-- What the iTunes elements of a post say. -/
structure PodcastDetails where
  author : String := ""
  duration : String := ""
  image : String := ""
  deriving DecidableEq, Repr, Inhabited

/-- The iTunes details of the elements of a post. -/
def PodcastDetails.ofExtensions (exts : Extensions) : PodcastDetails where
  author := exts.firstValue "itunes" "author"
  duration := exts.firstValue "itunes" "duration"
  image := (((exts.named "itunes" "image").head?).map (·.attr "href")).getD ""

/-- A post of a feed. -/
structure Post where
  title : String := ""
  description : String := ""
  link : String := ""
  guid : String := ""
  author : Option Person := none
  authors : List Person := []
  published : Option Instant := none
  updated : Option Instant := none
  /-- The URL of the post's own image, empty when it has none. -/
  image : String := ""
  /-- The iTunes details, when the post has iTunes elements. -/
  podcast : Option PodcastDetails := none
  enclosures : List Enclosure := []
  extensions : Extensions := []
  deriving Repr, Inhabited

/-- A feed: its title, posts, and the iTunes image of the whole feed (empty when none). -/
structure Channel where
  title : String := ""
  posts : List Post := []
  podcastImage : String := ""
  deriving Repr, Inhabited

end ReadLater.Feed
