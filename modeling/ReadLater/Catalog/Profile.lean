import ReadLater.Clock.Instant
import ReadLater.Json.Value

/-!
# Profiles

Each store holds at most one profile: the user's display fields as the identity provider last
reported them. It is created by the first event that carries them and keeps its creation time
on every later change.
-/

namespace ReadLater

open Clock

/-- The user's profile. -/
structure Profile where
  /-- The user's id. -/
  id : String
  email : String
  firstName : String
  lastName : String
  imageUrl : String
  version : Int
  createdAt : Instant
  updatedAt : Instant
  deriving DecidableEq, Repr, Inhabited

namespace Profile

/-- Whether two profiles show the same display fields. -/
def sameDisplay (a b : Profile) : Bool :=
  a.email == b.email && a.firstName == b.firstName && a.lastName == b.lastName &&
    a.imageUrl == b.imageUrl

/-- The profile as clients receive it. -/
def toJson (p : Profile) : Json :=
  .obj [("id", .str p.id), ("email", .str p.email), ("firstName", .str p.firstName),
    ("lastName", .str p.lastName), ("imageUrl", .str p.imageUrl),
    ("createdAt", .str p.createdAt.render), ("updatedAt", .str p.updatedAt.render)]

end Profile

end ReadLater
