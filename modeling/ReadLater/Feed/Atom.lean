import ReadLater.Feed.Elements
import ReadLater.Feed.Dates

/-!
# Reading Atom

An Atom feed is a root `feed` holding `entry`s. Text constructs (`title`, `summary`,
`content`, `rights`, and the like) carry a `type`: plain text and HTML have their references
read, XHTML and HTML lose a `div` that wraps them whole, CDATA sections are stripped, and any
other type is base64 that is decoded when it can be. Links carry a relation, `alternate` when
none is given; the post's link is its first alternate link, and its enclosures are its links of
relation `enclosure`. A post is dated by `published` (or `issued`) and `updated` (or
`modified`).

* `Feed.readAtomText`: a text construct;
* `Feed.readAtom`: the channel of an Atom document.
-/

namespace ReadLater.Feed

open Text Xml Clock

/-- The value of a base64 digit. -/
def base64Digit (c : Char) : Option Nat :=
  if 'A' ≤ c && c ≤ 'Z' then some (c.toNat - 65)
  else if 'a' ≤ c && c ≤ 'z' then some (c.toNat - 71)
  else if '0' ≤ c && c ≤ '9' then some (c.toNat + 4)
  else if c == '+' then some 62
  else if c == '/' then some 63
  else none

/-- Standard padded base64, with line breaks ignored; none when it is not such text. -/
def decodeBase64 (s : String) : Option Bytes :=
  let cs := s.toList.filter fun c => c != '\n' && c != '\r'
  if cs.length % 4 != 0 then none
  else go cs [] (cs.length + 1)
where
  go (cs : List Char) (acc : Bytes) : Nat → Option Bytes
    | 0 => some acc
    | fuel + 1 =>
      match cs with
      | [] => some acc
      | [a, b, '=', '='] => do
        let x ← base64Digit a
        let y ← base64Digit b
        if y % 16 != 0 then none
        some (acc ++ [UInt8.ofNat (x * 4 + y / 16)])
      | [a, b, c, '='] => do
        let x ← base64Digit a
        let y ← base64Digit b
        let z ← base64Digit c
        if z % 4 != 0 then none
        some (acc ++ [UInt8.ofNat (x * 4 + y / 16), UInt8.ofNat ((y % 16) * 16 + z / 4)])
      | a :: b :: c :: d :: rest => do
        let x ← base64Digit a
        let y ← base64Digit b
        let z ← base64Digit c
        let w ← base64Digit d
        go rest (acc ++ [UInt8.ofNat (x * 4 + y / 16), UInt8.ofNat ((y % 16) * 16 + z / 4),
          UInt8.ofNat ((z % 4) * 64 + w)]) fuel
      | _ => none

/-- Markup that is one `div` element and nothing else, without that element's tags. -/
def stripWrappingDiv (content : String) : String :=
  let s := Text.trim content
  let cs := s.toList
  let openEnd := cs.idxOf? '>'
  let close := "</div>".toList
  match openEnd with
  | some i =>
    let opening := String.ofList (cs.take (i + 1))
    let isDiv := (opening.startsWith "<div>" || opening.startsWith "<div ") ||
      (lowerText opening).startsWith "<div>" || (lowerText opening).startsWith "<div "
    let endsDiv := (lowerText (String.ofList (cs.drop (cs.length - close.length)))).toList == close
    if isDiv && endsDiv && cs.length ≥ i + 1 + close.length then
      let inner := (cs.drop (i + 1)).take (cs.length - (i + 1) - close.length)
      let innerText := String.ofList inner
      if textContains (lowerText innerText) "<div" then content else innerText
    else content
  | none => content

/-- A text construct at the cursor, by its `type` and `mode`. The cursor moves to its end. -/
def readAtomText (c : Cursor) : Except String (String × Cursor) := do
  let attrs := c.attrs
  let lastAttr := fun (key : String) =>
    (((attrs.filter (·.name.localName == key)).getLast?).map (·.value)).getD ""
  let typ := lowerText (lastAttr "type")
  let mode := lowerText (lastAttr "mode")
  let (inner, c) ← c.innerXml
  let result := Text.trim (Bytes.text inner)
  if hasCdata result then return (stripCdata result, c)
  if typ == "text" || typ.startsWith "text/" || (typ == "" && mode == "") then
    return (← decodeEntities result, c)
  if textContains typ "xhtml" then return (stripWrappingDiv result, c)
  if typ == "html" then return (← decodeEntities (stripWrappingDiv result), c)
  match decodeBase64 result with
  | some bs => return (Bytes.text bs, c)
  | none => return (result, c)

/-- A link as written. -/
structure AtomLink where
  href : String := ""
  rel : String := "alternate"
  mediaType : String := ""
  length : String := ""
  deriving Repr, Inhabited

/-- Reads a link at the cursor: its attributes; whatever it holds is passed over. -/
def readAtomLink (c : Cursor) : Except String (AtomLink × Cursor) := do
  c.expect .startTag "link"
  let rel := c.attribute "rel"
  let l : AtomLink := { href := c.attribute "href", rel := if rel == "" then "alternate" else rel,
                        mediaType := c.attribute "type", length := c.attribute "length" }
  let c ← c.skip
  c.expect .endTag "link"
  return (l, c)

/-- Reads a person at the cursor, with the tag it is written with. -/
def readAtomPerson (tag : String) (c : Cursor) : Except String (Person × Cursor) := do
  c.expect .startTag tag
  let (p, c) ← go c {} (c.steps.size + 1)
  c.expect .endTag tag
  return (p, c)
where
  go (c : Cursor) (p : Person) : Nat → Except String (Person × Cursor)
    | 0 => .ok (p, c)
    | fuel + 1 => do
      let c ← c.nextTag
      if c.kind == .endTag then return (p, c)
      let name := lowerText c.name.localName
      if name == "name" then
        let (n, c) ← readAtomText c
        go c { p with name := n } fuel
      else if name == "email" then
        let (e, c) ← readAtomText c
        go c { p with email := e } fuel
      else if name == "uri" || name == "url" || name == "homepage" then
        let (_, c) ← readAtomText c
        go c p fuel
      else
        let c ← c.skip
        go c p fuel

/-- An entry as written. -/
structure AtomEntry where
  id : String := ""
  title : String := ""
  summary : String := ""
  updated : Option Instant := none
  published : Option Instant := none
  authors : List Person := []
  links : List AtomLink := []
  extensions : Extensions := []
  deriving Repr, Inhabited

/-- Names of text constructs of an entry that are read and not kept. -/
def entryTextNames : List String := ["rights", "copyright", "content"]

/-- Reads an entry at the cursor, up to its end tag. -/
def readAtomEntry (c : Cursor) : Except String (AtomEntry × Cursor) := do
  c.expect .startTag "entry"
  let (e, c) ← go c {} (c.steps.size + 1)
  c.expect .endTag "entry"
  return ({ e with authors := e.authors.reverse, links := e.links.reverse }, c)
where
  go (c : Cursor) (e : AtomEntry) : Nat → Except String (AtomEntry × Cursor)
    | 0 => .ok (e, c)
    | fuel + 1 => do
      let c ← c.nextTag
      if c.kind == .endTag then return (e, c)
      let name := lowerText c.name.localName
      if c.isExtension then
        let (extensions, c) ← addExtension e.extensions c
        go c { e with extensions } fuel
      else if name == "title" then
        let (title, c) ← readAtomText c
        go c { e with title } fuel
      else if name == "id" then
        let (id, c) ← readAtomText c
        go c { e with id } fuel
      else if name == "summary" then
        let (summary, c) ← readAtomText c
        go c { e with summary } fuel
      else if entryTextNames.contains name then
        let (_, c) ← readAtomText c
        go c e fuel
      else if name == "updated" || name == "modified" then
        let (t, c) ← readAtomText c
        go c { e with updated := parseDate t } fuel
      else if name == "published" || name == "issued" then
        let (t, c) ← readAtomText c
        go c { e with published := parseDate t } fuel
      else if name == "author" then
        let (p, c) ← readAtomPerson "author" c
        go c { e with authors := p :: e.authors } fuel
      else if name == "contributor" then
        let (_, c) ← readAtomPerson "contributor" c
        go c e fuel
      else if name == "link" then
        let (l, c) ← readAtomLink c
        go c { e with links := l :: e.links } fuel
      else if name == "category" then
        let c ← c.skip
        go c e fuel
      else
        let c ← c.skip
        go c e fuel

/-- An entry as a post. -/
def AtomEntry.toPost (e : AtomEntry) : Post :=
  let author := e.authors.head?
  { title := e.title
    description := e.summary
    link := ((e.links.find? (·.rel == "alternate")).map (·.href)).getD ""
    guid := e.id
    author
    authors := e.authors
    published := e.published
    updated := e.updated
    enclosures := (e.links.filter (·.rel == "enclosure")).map fun l =>
      { url := l.href, mediaType := l.mediaType, length := l.length }
    extensions := e.extensions }

/-- Names of text constructs of a feed that are read and not kept. -/
def feedTextNames : List String :=
  ["id", "subtitle", "tagline", "icon", "logo", "rights", "copyright", "generator"]

/-- The channel of an Atom document. -/
def readAtom (doc : Bytes) : Except String Channel := do
  let c ← (Cursor.ofDocument doc).findRoot
  c.expect .startTag "feed"
  let (title, entries, c) ← go c "" [] (c.steps.size + 1)
  c.expect .endTag "feed"
  return { title, posts := entries.reverse.map AtomEntry.toPost }
where
  go (c : Cursor) (title : String) (entries : List AtomEntry) : Nat →
      Except String (String × List AtomEntry × Cursor)
    | 0 => .ok (title, entries, c)
    | fuel + 1 => do
      let c ← c.nextTag
      if c.kind == .endTag then return (title, entries, c)
      let name := lowerText c.name.localName
      if c.isExtension then
        let (_, c) ← addExtension [] c
        go c title entries fuel
      else if name == "title" then
        let (t, c) ← readAtomText c
        go c t entries fuel
      else if name == "updated" || name == "modified" || feedTextNames.contains name then
        let (_, c) ← readAtomText c
        go c title entries fuel
      else if name == "link" then
        let (_, c) ← readAtomLink c
        go c title entries fuel
      else if name == "author" || name == "contributor" then
        let (_, c) ← readAtomPerson name c
        go c title entries fuel
      else if name == "entry" then
        let (e, c) ← readAtomEntry c
        go c title (e :: entries) fuel
      else
        let c ← c.skip
        go c title entries fuel

end ReadLater.Feed
