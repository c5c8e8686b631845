import ReadLater.Clock.Instant
import ReadLater.Json.Read

/-!
# Sources

A source is a subscription to a channel, show, mailbox or feed of one provider. It is unique
per provider and provider id within a user's store, carries a display name and a free JSON
configuration kept as written, and is never changed after it is created.
-/

namespace ReadLater

open Clock

/-- The providers that deliver content. -/
inductive Provider where
  | youtube
  | spotify
  | gmail
  | rss
  deriving DecidableEq, Repr, Inhabited

namespace Provider

/-- The provider's name. -/
def name : Provider → String
  | .youtube => "YOUTUBE"
  | .spotify => "SPOTIFY"
  | .gmail => "GMAIL"
  | .rss => "RSS"

/-- The provider of an exact name. -/
def parse? (s : String) : Option Provider :=
  [Provider.youtube, .spotify, .gmail, .rss].find? (·.name == s)

end Provider

/-- A subscription. -/
structure Source where
  id : String
  provider : Provider
  providerId : String
  name : String
  /-- The configuration as written: a JSON text. -/
  config : String
  version : Int
  createdAt : Instant
  deriving DecidableEq, Repr, Inhabited

namespace Source

/-- The configuration as a JSON value: an empty object when none was given. -/
def configJson (s : Source) : Json :=
  if s.config.isEmpty then .obj []
  else match Json.parse? s.config with
    | .ok j => j
    | .error _ => .obj []

/-- The source as clients receive it. -/
def toJson (s : Source) : Json :=
  .obj [("id", .str s.id), ("provider", .str s.provider.name), ("providerId", .str s.providerId),
    ("name", .str s.name), ("config", s.configJson), ("createdAt", .str s.createdAt.render)]

end Source

end ReadLater
