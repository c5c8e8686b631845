import ReadLater.Clock.Instant
import ReadLater.Json.Value

/-!
# Entries: the user's copy of an item

An entry puts one item into the user's triage: it is in the inbox, bookmarked for later or
archived. Bookmarking stamps the time and clears an archive stamp; archiving stamps the time and
keeps the bookmark stamp; returning to the inbox clears both.
-/

namespace ReadLater

open Clock

/-- The three places of an entry. -/
inductive TriageState where
  | inbox
  | bookmarked
  | archived
  deriving DecidableEq, Repr, Inhabited

namespace TriageState

/-- The state's name. -/
def name : TriageState → String
  | .inbox => "INBOX"
  | .bookmarked => "BOOKMARKED"
  | .archived => "ARCHIVED"

/-- The state of an exact name. -/
def parse? (s : String) : Option TriageState :=
  [TriageState.inbox, .bookmarked, .archived].find? (·.name == s)

end TriageState

/-- The user's copy of an item. -/
structure Entry where
  id : String
  itemId : String
  state : TriageState
  ingestedAt : Instant
  bookmarkedAt : Option Instant := none
  archivedAt : Option Instant := none
  version : Int
  deriving DecidableEq, Repr, Inhabited

namespace Entry

/-- The entry moved to a state at an instant, with its stamps set as the state asks. -/
def moveTo (e : Entry) (target : TriageState) (now : Instant) : Entry :=
  match target with
  | .bookmarked => { e with state := target, bookmarkedAt := some now, archivedAt := none }
  | .archived => { e with state := target, archivedAt := some now }
  | .inbox => { e with state := target, bookmarkedAt := none, archivedAt := none }

/-- The entry as clients receive it. -/
def toJson (e : Entry) : Json :=
  .obj [("id", .str e.id), ("itemId", .str e.itemId), ("state", .str e.state.name),
    ("ingestedAt", .str e.ingestedAt.render),
    ("bookmarkedAt", .opt (fun t => .str t.render) e.bookmarkedAt),
    ("archivedAt", .opt (fun t => .str t.render) e.archivedAt)]

end Entry

end ReadLater
