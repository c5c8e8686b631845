import ReadLater.Markup.Tokenizer
import ReadLater.Net.Url
import ReadLater.Json.Read
import ReadLater.Problem
import ReadLater.Text.Case
import ReadLater.Text.Space

/-!
# Finding feeds

A source is refreshed from a feed. The URL a user gives may be the feed itself or a web page
that announces its feeds in its head, as `<link rel="alternate" type="application/rss+xml"
href="...">`. A response is taken as a feed by its media type, or, for an XML or unknown type,
by how its first 4 KiB read: an `<rss` or `<rdf:RDF` element, or a `<feed` element in the Atom
namespace. Among announced feeds, one on the page's own host is preferred, then Atom, then the
first.

* `Feed.isFeed`, `Feed.isHtml`: what a response is;
* `Feed.findFeedLinks`, `Feed.selectBest`: the feeds a page announces, and the one to follow;
* `Feed.feedUrlForSource`: where a source's feed is;
* `Feed.retryableStatus`: whether a failed fetch is worth trying again later.
-/

namespace ReadLater.Feed

open Text

/-- The kinds of feeds a page may announce. -/
inductive FeedKind where
  | rss
  | atom
  deriving DecidableEq, Repr, Inhabited

/-- The kind's name. -/
def FeedKind.name : FeedKind → String
  | .rss => "rss"
  | .atom => "atom"

/-- The kind of a name. -/
def FeedKind.ofName? : String → Option FeedKind
  | "rss" => some .rss
  | "atom" => some .atom
  | _ => none

/-- A feed a page announces: its absolute URL, kind and title. -/
structure FeedLink where
  url : String
  kind : FeedKind
  title : String
  deriving DecidableEq, Repr, Inhabited

/-- Whether `sub` occurs in `s`. -/
def Bytes.hasInfix (sub s : Bytes) : Bool :=
  (List.range (s.length + 1)).any fun i => (s.drop i).take sub.length == sub

/-- The media type of a `Content-Type` value, lowercased, without parameters. -/
def mediaType (contentType : String) : String :=
  Text.toLower (Text.trim ((contentType.splitOn ";").headD ""))

/-- Media types that are feeds. -/
def feedMediaTypes : List String := ["application/rss+xml", "application/atom+xml", "application/feed+json"]

/-- Media types of XML that may be feeds. -/
def xmlMediaTypes : List String := ["text/xml", "application/xml"]

/-- Whether the first 4 KiB of a body read as a feed. -/
def looksLikeFeed (body : Bytes) : Bool :=
  let s := Bytes.ofString (Text.toLower (Bytes.text (body.take 4096)))
  Bytes.hasInfix (Bytes.ofString "<rss") s || Bytes.hasInfix (Bytes.ofString "<rdf:rdf") s ||
    (Bytes.hasInfix (Bytes.ofString "<feed") s &&
      Bytes.hasInfix (Bytes.ofString "http://www.w3.org/2005/atom") s)

/-- Whether a response with a content type and a body is a feed. -/
def isFeed (contentType : String) (body : Bytes) : Bool :=
  let mt := mediaType contentType
  if feedMediaTypes.contains mt then true
  else if !xmlMediaTypes.contains mt && !mt.isEmpty then false
  else looksLikeFeed body

/-- Whether a content type is HTML. -/
def isHtml (contentType : String) : Bool :=
  Bytes.hasInfix (Bytes.ofString "html") (Bytes.ofString (mediaType contentType))

/-- The feed a `link` element announces, from its attributes, resolved against the page. -/
def linkedFeed (base : Net.Url) (attrs : List (Bytes × Bytes)) : Option FeedLink := do
  let get := fun (k : String) => (attrs.filter (·.1 == Bytes.ofString k)).getLast?.map (·.2)
  let rel := Text.toLower ((get "rel").map Bytes.text |>.getD "")
  let typ := Text.toLower ((get "type").map Bytes.text |>.getD "")
  let href := (get "href").map Bytes.text |>.getD ""
  let title := (get "title").map Bytes.text |>.getD ""
  if rel != "alternate" || href.isEmpty then none
  let kind ← if typ == "application/rss+xml" then some FeedKind.rss
    else if typ == "application/atom+xml" then some .atom else none
  match Net.Url.parse href with
  | .error _ => none
  | .ok ref => some ⟨(Net.Url.resolve base ref).render, kind, title⟩

/-- The feeds announced in the head of a page, resolved against the page's URL. Reading stops at
the end of the head or the start of the body. -/
def findFeedLinks (body : Bytes) (baseUrl : String) : List FeedLink :=
  match Net.Url.parse baseUrl with
  | .error _ => []
  | .ok base => scan base false (Markup.tokenize body)
where
  scan (base : Net.Url) (inHead : Bool) : List Markup.Token → List FeedLink
    | [] => []
    | t :: rest =>
      let visit := fun (name : Bytes) (attrs : List (Bytes × Bytes)) =>
        if name == Bytes.ofString "head" then some (scan base true rest)
        else if name == Bytes.ofString "body" then none
        else if name == Bytes.ofString "link" && inHead && !attrs.isEmpty then
          match linkedFeed base attrs with
          | some f => some (f :: scan base inHead rest)
          | none => some (scan base inHead rest)
        else some (scan base inHead rest)
      match t with
      | .endTag name => if name == Bytes.ofString "head" then [] else scan base inHead rest
      | .startTag name attrs | .selfClosingTag name attrs => (visit name attrs).getD []
      | _ => scan base inHead rest

/-- The lowercased host of a URL, empty when it does not parse. -/
def hostOf (raw : String) : String :=
  match Net.Url.parse raw with
  | .ok u => Text.toLower (Bytes.text (Net.Url.hostname u))
  | .error _ => ""

/-- The feed to follow among those a page announces: one on the page's host first, then Atom,
then the first announced. -/
def selectBest (candidates : List FeedLink) (pageUrl : String) : Option FeedLink :=
  let host := hostOf pageUrl
  let score := fun (c : FeedLink) =>
    (if hostOf c.url == host then 100 else 0) + (if c.kind == .atom then 10 else 0)
  candidates.foldl (fun best c =>
    match best with
    | some b => if score c > score b then some c else best
    | none => some c) none

/-- The feed of a YouTube channel. -/
def youtubeFeedUrl (channelId : String) : String :=
  "https://www.youtube.com/feeds/videos.xml?channel_id=" ++
    Bytes.text (Net.escape .queryComponent (Bytes.ofString channelId))

/-- The feed URL a source's configuration names, if any: the last member named `feed_url` in
any letter case that holds a string. The configuration must be a JSON object or null, and such
members must hold strings or null. -/
def configuredFeedUrl (config : String) : Except Unit String :=
  match Json.parse? config with
  | .error _ => .error ()
  | .ok .null => .ok ""
  | .ok (.obj members) =>
    members.foldlM (fun url (k, v) =>
      if Text.toLower k != "feed_url" then .ok url
      else match v with
        | .str s => .ok s
        | .null => .ok url
        | _ => .error ()) ""
  | .ok _ => .error ()

/-- Where a source's feed is: for RSS the configured `feed_url`, else the source's own id; for
YouTube the channel's feed. Other providers are not fetched by the server. -/
def feedUrlForSource (provider providerId config : String) : Except Problem String :=
  if provider == "RSS" then
    match configuredFeedUrl (if config.isEmpty then "\x7b\x7d" else config) with
    | .error () => .error (.validation "source config is not valid JSON")
    | .ok url => .ok (if url.isEmpty then providerId else url)
  else if provider == "YOUTUBE" then .ok (youtubeFeedUrl providerId)
  else .error (.refreshUnsupported provider)

/-- Whether a failed fetch with an HTTP status is worth trying again later: too many requests,
or a server error. -/
def retryableStatus (status : Int) : Bool := status == 429 || status ≥ 500

end ReadLater.Feed
