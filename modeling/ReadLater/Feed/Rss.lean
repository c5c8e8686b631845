import ReadLater.Feed.Elements
import ReadLater.Feed.Dates

/-!
# Reading RSS

RSS 2.0 (a root `rss` with a `channel` holding `item`s) and RSS 1.0 (a root `rdf:RDF` with the
`channel` and the `item`s side by side) are read alike. Of a channel the reader keeps the title
and the elements of other namespaces; of an item its title, description, link, author, date,
enclosure, guid and elements of other namespaces. Text elements are read from what is written
inside them (see `Feed.readText`), so a malformed reference in one makes the whole feed
unreadable. Elements a reader does not know are passed over.

The channel becomes a `Feed.Channel`: Dublin Core elements stand in for a missing title,
description or author, and for a missing or unreadable date, and the iTunes image of the
channel is kept.

* `Feed.readRss`: the channel of an RSS document.
-/

namespace ReadLater.Feed

open Text Xml Clock

/-- An RSS item as written. -/
structure RssItem where
  title : String := ""
  description : String := ""
  link : String := ""
  author : String := ""
  published : Option Instant := none
  enclosure : Option Enclosure := none
  guid : Option String := none
  extensions : Extensions := []
  deriving Repr, Inhabited

/-- An RSS channel as written. -/
structure RssChannel where
  title : String := ""
  items : List RssItem := []
  extensions : Extensions := []
  deriving Repr, Inhabited

/-- Reads an enclosure: its attributes, then any text inside it. -/
def readEnclosure (c : Cursor) : Except String (Enclosure × Cursor) := do
  c.expect .startTag "enclosure"
  let e : Enclosure := { url := c.attribute "url", length := c.attribute "length",
                         mediaType := c.attribute "type" }
  let (_, c) ← c.nextText
  c.expect .endTag "enclosure"
  return (e, c)

/-- Reads an element holding named text children, checking its end tag. -/
def readGroup (tag : String) (names : List String) (c : Cursor) : Except String Cursor := do
  c.expect .startTag tag
  let (_, c) ← readFields names c
  c.expect .endTag tag
  return c

/-- Reads an element of which only the attributes count. -/
def readEmpty (tag : String) (c : Cursor) : Except String Cursor := do
  c.expect .startTag tag
  let c ← c.skip
  c.expect .endTag tag
  return c

/-- Reads an item at the cursor, up to its end tag. -/
def readRssItem (c : Cursor) : Except String (RssItem × Cursor) := do
  c.expect .startTag "item"
  let (item, c) ← go c {} (c.steps.size + 1)
  c.expect .endTag "item"
  return (item, c)
where
  go (c : Cursor) (item : RssItem) : Nat → Except String (RssItem × Cursor)
    | 0 => .ok (item, c)
    | fuel + 1 => do
      let c ← c.nextTag
      if c.kind == .endTag then return (item, c)
      let name := lowerText c.name.localName
      if c.isExtension then
        let (extensions, c) ← addExtension item.extensions c
        go c { item with extensions } fuel
      else if name == "title" then
        let (title, c) ← readText c
        go c { item with title } fuel
      else if name == "description" then
        let (description, c) ← readText c
        go c { item with description } fuel
      else if name == "encoded" then
        if c.prefixOf? c.name.space.trimAscii.toString == some "content" then
          let (_, c) ← readText c
          go c item fuel
        else
          let c ← c.skip
          go c item fuel
      else if name == "link" then
        let (link, c) ← readText c
        go c { item with link } fuel
      else if name == "author" then
        let (author, c) ← readText c
        go c { item with author } fuel
      else if name == "comments" || name == "source" || name == "category" then
        let (_, c) ← readText c
        go c item fuel
      else if name == "pubdate" then
        let (text, c) ← readText c
        go c { item with published := parseDate text } fuel
      else if name == "enclosure" then
        let (e, c) ← readEnclosure c
        go c { item with enclosure := some e } fuel
      else if name == "guid" then
        c.expect .startTag "guid"
        let (guid, c) ← readText c
        c.expect .endTag "guid"
        go c { item with guid := some guid } fuel
      else
        let c ← c.skip
        go c item fuel

/-- The text children of a channel that are read and not kept. -/
def channelTextNames : List String :=
  ["description", "link", "language", "copyright", "managingeditor", "webmaster", "pubdate",
    "lastbuilddate", "generator", "docs", "ttl", "rating"]

/-- Reads a channel at the cursor, up to its end tag. -/
def readRssChannel (c : Cursor) : Except String (RssChannel × Cursor) := do
  c.expect .startTag "channel"
  let (ch, c) ← go c {} (c.steps.size + 1)
  c.expect .endTag "channel"
  return ({ ch with items := ch.items.reverse }, c)
where
  go (c : Cursor) (ch : RssChannel) : Nat → Except String (RssChannel × Cursor)
    | 0 => .ok (ch, c)
    | fuel + 1 => do
      let c ← c.nextTag
      if c.kind == .endTag then return (ch, c)
      let name := lowerText c.name.localName
      if c.isExtension then
        let (extensions, c) ← addExtension ch.extensions c
        go c { ch with extensions } fuel
      else if name == "title" then
        let (title, c) ← readText c
        go c { ch with title } fuel
      else if channelTextNames.contains name || name == "category" then
        let (_, c) ← readText c
        go c ch fuel
      else if name == "skiphours" then
        let c ← readGroup "skiphours" ["hour"] c
        go c ch fuel
      else if name == "skipdays" then
        let c ← readGroup "skipdays" ["day"] c
        go c ch fuel
      else if name == "item" then
        let (item, c) ← readRssItem c
        go c { ch with items := item :: ch.items } fuel
      else if name == "cloud" then
        let c ← readEmpty "cloud" c
        go c ch fuel
      else if name == "image" then
        let c ← readGroup "image" ["url", "title", "link", "width", "height", "description"] c
        go c ch fuel
      else if name == "textinput" then
        let c ← readGroup "textinput" ["title", "description", "name", "link"] c
        go c ch fuel
      else
        let c ← c.skip
        go c ch fuel

/-- The first Dublin Core value of a name, when there is such an element. -/
def dublinCore? (exts : Extensions) (key : String) : Option String :=
  ((exts.values? "dc" key).map fun vs => vs.headD "")

/-- The person an item names: its author, else the Dublin Core author or creator, else the
iTunes author. -/
def RssItem.person? (item : RssItem) : Option Person :=
  if item.author != "" then some (nameAndAddress item.author)
  else match dublinCore? item.extensions "author" with
    | some a => some (nameAndAddress a)
    | none =>
      match dublinCore? item.extensions "creator" with
      | some a => some (nameAndAddress a)
      | none =>
        let itunesAuthor := if item.extensions.has "itunes" then
          item.extensions.firstValue "itunes" "author" else ""
        if itunesAuthor != "" then some (nameAndAddress itunesAuthor) else none

/-- The image of an item: its iTunes image, else the first Media RSS content that is an image. -/
def RssItem.image (item : RssItem) : String :=
  let itunesImage := if item.extensions.has "itunes" then
    (PodcastDetails.ofExtensions item.extensions).image else ""
  if itunesImage != "" then itunesImage
  else
    let contents := item.extensions.named "media" "content"
    match contents.find? fun e =>
        textContains (e.attr "type") "image" || textContains (e.attr "medium") "image" with
    | some e => e.attr "url"
    | none => ""

/-- An item as a post. -/
def RssItem.toPost (item : RssItem) : Post :=
  let dcDate := (dublinCore? item.extensions "date").bind parseDate
  let person := item.person?
  { title := if item.title != "" then item.title
      else (dublinCore? item.extensions "title").getD ""
    description := if item.description != "" then item.description
      else (dublinCore? item.extensions "description").getD ""
    link := item.link
    guid := item.guid.getD ""
    author := person
    authors := person.toList
    published := item.published <|> dcDate
    updated := dcDate
    image := item.image
    podcast := if item.extensions.has "itunes" then
      some (PodcastDetails.ofExtensions item.extensions) else none
    enclosures := item.enclosure.toList
    extensions := item.extensions }

/-- The channel of an RSS document, with the items outside it added after its own. -/
def readRss (doc : Bytes) : Except String Channel := do
  let c ← (Cursor.ofDocument doc).findRoot
  let rootCheck := fun (c : Cursor) =>
    match c.expect .startTag "rss", c.expect .startTag "rdf" with
    | .error a, .error b => Except.error (a ++ " or " ++ b)
    | _, _ => Except.ok ()
  rootCheck c
  let (channel, items, c) ← go c none [] (c.steps.size + 1)
  match c.expect .endTag "rss", c.expect .endTag "rdf" with
  | .error a, .error b => throw (a ++ " or " ++ b)
  | _, _ => pure ()
  let channel := channel.getD {}
  let items := channel.items ++ items.reverse
  let title := if channel.title != "" then channel.title
    else (dublinCore? channel.extensions "title").getD ""
  let podcastImage := if channel.extensions.has "itunes" then
    (((channel.extensions.named "itunes" "image").head?).map (·.attr "href")).getD "" else ""
  return { title, posts := items.map RssItem.toPost, podcastImage }
where
  go (c : Cursor) (channel : Option RssChannel) (items : List RssItem) : Nat →
      Except String (Option RssChannel × List RssItem × Cursor)
    | 0 => .ok (channel, items, c)
    | fuel + 1 => do
      let c ← c.nextTag
      if c.kind == .endTag then return (channel, items, c)
      if c.isExtension then
        let c ← c.skip
        go c channel items fuel
      else
        let name := lowerText c.name.localName
        if name == "channel" then
          let (ch, c) ← readRssChannel c
          go c (some ch) items fuel
        else if name == "item" then
          let (item, c) ← readRssItem c
          go c channel (item :: items) fuel
        else if name == "textinput" then
          let c ← readGroup "textinput" ["title", "description", "name", "link"] c
          go c channel items fuel
        else if name == "image" then
          let c ← readGroup "image" ["url", "title", "link", "width", "height", "description"] c
          go c channel items fuel
        else
          let c ← c.skip
          go c channel items fuel

end ReadLater.Feed
