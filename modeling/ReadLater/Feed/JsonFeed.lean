import ReadLater.Feed.Model
import ReadLater.Feed.Dates
import ReadLater.Json.Read
import ReadLater.Text.Case

/-!
# Reading JSON Feed

A JSON Feed is an object with a `title` and `items`. Members are matched by name in any letter
case, a later member winning, and members the reader does not know are ignored; a known member
of the wrong type makes the feed unreadable, while `null` leaves a member unset. Of an item the
reader keeps its id, URL, title, summary, image (or banner image), dates (RFC 3339 only), author
(or first of its authors) and attachments.

* `Feed.readJsonFeed`: the channel of a JSON Feed document.
-/

namespace ReadLater.Feed

open Clock

/-- The last member whose name matches a key in any letter case. -/
def memberOf (members : List (String × Json)) (key : String) : Option Json :=
  (members.reverse.find? fun (k, _) => Text.toLower k == key).map (·.2)

/-- A string member: empty when absent or null. -/
def stringMember (members : List (String × Json)) (key : String) : Except String String :=
  match memberOf members key with
  | none | some .null => .ok ""
  | some (.str s) => .ok s
  | some _ => .error ("json: cannot read member " ++ key ++ " as a string")

/-- Checks that a member, when present and not null, is of a kind. -/
def checkMember (members : List (String × Json)) (key : String) (kind : String) :
    Except String Unit :=
  match memberOf members key with
  | none | some .null => .ok ()
  | some v => if v.kind == kind then .ok ()
    else .error ("json: cannot read member " ++ key ++ " as " ++ kind)

/-- A person object: its name read as a name and address. -/
def jsonPerson (j : Json) : Except String (Option Person) :=
  match j with
  | .null => .ok none
  | .obj ms => do
    let name ← stringMember ms "name"
    let _ ← stringMember ms "url"
    let _ ← stringMember ms "avatar"
    return some (nameAndAddress name)
  | _ => .error "json: cannot read author as an object"

/-- An attachment object as an enclosure. -/
def jsonAttachment (j : Json) : Except String (Option Enclosure) :=
  match j with
  | .null => .ok none
  | .obj ms => do
    let url ← stringMember ms "url"
    let mediaType ← stringMember ms "mime_type"
    let _ ← stringMember ms "title"
    checkMember ms "size_in_bytes" "number"
    checkMember ms "duration_in_seconds" "number"
    return some { url, mediaType }
  | _ => .error "json: cannot read attachment as an object"

/-- The string members of an item. -/
def itemStrings : List String :=
  ["id", "url", "external_url", "title", "content_html", "content_text", "summary", "image",
    "banner_image", "date_published", "date_modified", "language"]

/-- An item object as a post; null is no post. -/
def jsonItem (j : Json) : Except String (Option Post) :=
  match j with
  | .null => .ok none
  | .obj ms => do
    for key in itemStrings do
      let _ ← stringMember ms key
    checkMember ms "tags" "array"
    let author ← match memberOf ms "author" with
      | none => pure none
      | some a => jsonPerson a
    let authors ← match memberOf ms "authors" with
      | none | some .null => pure []
      | some (.arr xs) => xs.filterMapM jsonPerson
      | some _ => throw "json: cannot read authors as an array"
    let enclosures ← match memberOf ms "attachments" with
      | none | some .null => pure []
      | some (.arr xs) => xs.filterMapM jsonAttachment
      | some _ => throw "json: cannot read attachments as an array"
    let image ← stringMember ms "image"
    let banner ← stringMember ms "banner_image"
    let published ← stringMember ms "date_published"
    let modified ← stringMember ms "date_modified"
    return some {
      title := ← stringMember ms "title"
      description := ← stringMember ms "summary"
      link := ← stringMember ms "url"
      guid := ← stringMember ms "id"
      author
      authors
      published := if published.isEmpty then none else parseRfc3339 published
      updated := if modified.isEmpty then none else parseRfc3339 modified
      image := if image != "" then image else banner
      enclosures }
  | _ => .error "json: cannot read item as an object"

/-- The string members of a feed. -/
def feedStrings : List String :=
  ["version", "title", "home_page_url", "feed_url", "description", "user_comment", "next_url",
    "icon", "favicon", "language"]

/-- The channel of a JSON Feed document. -/
def readJsonFeed (text : String) : Except String Channel := do
  let doc ← match Json.parse? text with
    | .ok d => pure d
    | .error e => throw e.message
  match doc with
  | .null => return {}
  | .obj ms =>
    for key in feedStrings do
      let _ ← stringMember ms key
    checkMember ms "expired" "boolean"
    checkMember ms "hubs" "array"
    let _ ← match memberOf ms "author" with
      | none => pure none
      | some a => jsonPerson a
    let posts ← match memberOf ms "items" with
      | none | some .null => pure []
      | some (.arr xs) => xs.filterMapM jsonItem
      | some _ => throw "json: cannot read items as an array"
    return { title := ← stringMember ms "title", posts }
  | _ => throw "json: cannot read feed as an object"

end ReadLater.Feed
