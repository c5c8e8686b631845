import ReadLater.Clock.Instant
import ReadLater.Json.Value

/-!
# Items

An item is a piece of content independent of how it reached the user: a video, an article, an
episode. It is known by its provider's id when a provider delivered it, and by its URL when the
user saved it by hand. Its descriptive fields follow the provider: a later delivery overwrites
the fields it carries and keeps the others.

* `ContentKind`: the six kinds of content, with `article` for an unspecified kind;
* `Item`: the stored item with its row version and timestamps;
* `Item.toJson`: the item as clients receive it.
-/

namespace ReadLater

open Clock

/-- The kinds of content. -/
inductive ContentKind where
  | video
  | article
  | audio
  | podcast
  | post
  | other
  deriving DecidableEq, Repr, Inhabited

namespace ContentKind

/-- The kind's name. -/
def name : ContentKind → String
  | .video => "video"
  | .article => "article"
  | .audio => "audio"
  | .podcast => "podcast"
  | .post => "post"
  | .other => "other"

/-- Every kind. -/
def all : List ContentKind := [.video, .article, .audio, .podcast, .post, .other]

/-- The kind of an exact name; the empty name stands for `article`. -/
def parse? (s : String) : Option ContentKind :=
  if s.isEmpty then some .article else all.find? (·.name == s)

end ContentKind

/-- A stored item. -/
structure Item where
  id : String
  kind : ContentKind
  /-- The provider that delivered it, with the provider's id; none for an item saved by URL. -/
  provider : Option String
  providerId : Option String
  canonicalUrl : String := ""
  title : String := ""
  summary : String := ""
  author : String := ""
  publisher : String := ""
  publishedAt : Option Instant := none
  thumbnailUrl : String := ""
  durationSeconds : Option Int := none
  /-- The store version of the item's last change. -/
  version : Int
  createdAt : Instant
  updatedAt : Instant
  deriving DecidableEq, Repr, Inhabited

namespace Item

/-- The item as clients receive it. -/
def toJson (i : Item) : Json :=
  .obj [("id", .str i.id), ("contentType", .str i.kind.name),
    ("provider", .opt .str i.provider), ("providerId", .opt .str i.providerId),
    ("canonicalUrl", .str i.canonicalUrl), ("title", .str i.title), ("summary", .str i.summary),
    ("author", .str i.author), ("publisher", .str i.publisher),
    ("publishedAt", .opt (fun t => .str t.render) i.publishedAt),
    ("thumbnailUrl", .str i.thumbnailUrl), ("durationSeconds", .opt .int i.durationSeconds),
    ("createdAt", .str i.createdAt.render), ("updatedAt", .str i.updatedAt.render)]

end Item

end ReadLater
