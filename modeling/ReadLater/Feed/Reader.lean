import ReadLater.Feed.Rss
import ReadLater.Feed.Atom
import ReadLater.Feed.JsonFeed

/-!
# Reading a feed of any format

The format of a feed is told from its start: past leading blanks and byte-order-mark bytes, a
`<` starts XML, whose first element is `rss` or `rdf` (RSS) or `feed` (Atom) in any letter
case, and a `{` starts a JSON Feed when the text is valid JSON. Anything else is not a feed.
The whole text is then read by the reader of its format.

* `Feed.Format`, `Feed.detectFormat`: the formats, and the format of a text;
* `Feed.readFeed`: the channel of a feed, or the reason it cannot be read.
-/

namespace ReadLater.Feed

open Text Xml

/-- The formats of feeds. -/
inductive Format where
  | rss
  | atom
  | json
  deriving DecidableEq, Repr, Inhabited

/-- Whether a byte may come before a feed's first character. -/
def isLeadingByte (b : UInt8) : Bool :=
  b == 32 || b == 13 || b == 10 || b == 9 || b == 0xFE || b == 0xFF || b == 0 || b == 0xEF ||
    b == 0xBB || b == 0xBF

/-- The format of a feed's text, none when it is no feed. -/
def detectFormat (doc : Bytes) : Option Format :=
  let rest := doc.dropWhile isLeadingByte
  match rest with
  | 60 :: _ =>
    match (Cursor.ofDocument rest).findRoot with
    | .error _ => none
    | .ok c =>
      let name := lowerText c.name.localName
      if name == "rdf" || name == "rss" then some .rss
      else if name == "feed" then some .atom
      else none
  | 123 :: _ => if Json.valid (Bytes.text rest) then some .json else none
  | _ => none

/-- The channel of a feed, or the reason it cannot be read. -/
def readFeed (doc : Bytes) : Except String Channel :=
  match detectFormat doc with
  | some .rss => readRss doc
  | some .atom => readAtom doc
  | some .json => readJsonFeed (Bytes.text doc)
  | none => .error "Failed to detect feed type"

end ReadLater.Feed
