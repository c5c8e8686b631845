import ReadLater.Feed.Reader
import ReadLater.Ingest
import ReadLater.Config

/-!
# Posts as incoming items

A feed's posts become the items a provider delivers. A post is identified by its guid, or else
its link (both trimmed); a post with neither is dropped. Its kind is told by its enclosures (the
first audio or video one: audio is a podcast when the post has iTunes elements) or by YouTube
elements (video), and is otherwise an article. The id stands in for a missing link when it is
an http or https URL.

* the summary is the description, else the first non-empty `media:group` description;
* the author is the post's author, else its first listed author;
* the date is the publication date, else the update date, in UTC;
* the thumbnail is the post's image, else its iTunes image, else the first `media:group`
  thumbnail with a URL, else the feed's iTunes image;
* the duration is the iTunes duration, as seconds, `MM:SS` or `HH:MM:SS` (any number of parts,
  each a whole number that is not negative, summed in 64 bits).

* `Feed.convertPosts`: the items of a feed.
-/

namespace ReadLater.Feed

open Clock

/-- The kind of a post. -/
def contentKindOf (p : Post) : ContentKind :=
  let byEnclosure := p.enclosures.findSome? fun e =>
    if e.mediaType.startsWith "audio/" then
      some (if p.podcast.isSome then ContentKind.podcast else .audio)
    else if e.mediaType.startsWith "video/" then some .video
    else none
  match byEnclosure with
  | some k => k
  | none => if p.extensions.has "yt" then .video else .article

/-- The first non-empty value a `media:group` child of a name gives: its `url` attribute for a
thumbnail, its text otherwise. -/
def mediaGroup (p : Post) (child : String) : String :=
  let values := (p.extensions.named "media" "group").flatMap fun g =>
    (g.childrenNamed child).map fun c => if child == "thumbnail" then c.attr "url" else c.value
  (values.find? (· != "")).getD ""

/-- The thumbnail of a post in a channel. -/
def thumbnailOf (ch : Channel) (p : Post) : String :=
  if p.image != "" then p.image
  else
    let itunesImage := (p.podcast.map (·.image)).getD ""
    if itunesImage != "" then itunesImage
    else
      let fromGroup := mediaGroup p "thumbnail"
      if fromGroup != "" then fromGroup else ch.podcastImage

/-- A value kept in 64 signed bits, wrapping around. -/
def wrap64 (x : Int) : Int := (x + 9223372036854775808) % 18446744073709551616 - 9223372036854775808

/-- An iTunes duration in seconds: colon-separated whole numbers that are not negative, each
part worth sixty of the next. -/
def parseItunesDuration (raw : String) : Option Int :=
  let s := Text.trim raw
  if s.isEmpty then none
  else
    ((s.toList.splitOn ':').map String.ofList).foldlM (fun total part => do
      let n ← Environment.decimal? part
      if n < 0 then none
      return wrap64 (total * 60 + n)) 0

/-- A post of a channel as an incoming item, none when it has no id. -/
def convertPost (ch : Channel) (p : Post) : Option Incoming :=
  let id := Text.trim p.guid
  let id := if id.isEmpty then Text.trim p.link else id
  if id.isEmpty then none
  else
    let link := if p.link.isEmpty && (id.startsWith "http://" || id.startsWith "https://") then id
      else p.link
    let author := (p.author.map (·.name)).getD ""
    let author := if author.isEmpty then ((p.authors.head?).map (·.name)).getD "" else author
    some {
      providerItemId := id
      contentType := (contentKindOf p).name
      canonicalUrl := link
      title := p.title
      summary := if p.description.isEmpty then mediaGroup p "description" else p.description
      author
      publisher := ch.title
      publishedAt := p.published <|> p.updated
      thumbnailUrl := thumbnailOf ch p
      durationSeconds := p.podcast.bind fun d => parseItunesDuration d.duration }

/-- The items of a channel, in order. -/
def convertPosts (ch : Channel) : List Incoming := ch.posts.filterMap (convertPost ch)

end ReadLater.Feed
