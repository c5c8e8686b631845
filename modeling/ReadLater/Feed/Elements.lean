import ReadLater.Xml.Cursor
import ReadLater.Feed.Model
import ReadLater.Text.Space

/-!
# Reading the elements of XML feeds

What RSS and Atom readers share:

* `Feed.decodeEntities`: the five predefined entities and numeric references of text taken as
  written; any other `&` is an error, since such text cannot be read back for sure;
* `Feed.stripCdata`: the contents of CDATA sections, with the text after each section read for
  its references;
* `Feed.readText`: the text of an element, taken from what is written inside it;
* `Feed.readExtension`, `Feed.addExtension`: an element of another namespace, with its
  children;
* `Feed.readFields`: an element whose children of some names are read as text and the rest
  passed over.
-/

namespace ReadLater.Feed

open Text Xml

/-- What follows `&` in text: the text it stands for and the rest, or the reason it stands for
nothing. A reference ends at the next `;`. -/
def entityAt (data : List Char) : Except String (List Char × List Char) := do
  if data.isEmpty then throw "truncated entity"
  let some stop := data.idxOf? ';' | throw "truncated entity"
  let body := data.take stop
  let rest := data.drop (stop + 1)
  match body with
  | '#' :: digits =>
    let (hex, digits) := match digits with
      | 'x' :: ds => (true, ds)
      | ds => (false, ds)
    let value := digits.foldlM (fun (n : Nat) c =>
      if hex then
        if c.isDigit then some (n * 16 + (c.toNat - 48))
        else if 'a' ≤ c && c ≤ 'f' then some (n * 16 + (c.toNat - 87))
        else if 'A' ≤ c && c ≤ 'F' then some (n * 16 + (c.toNat - 55))
        else none
      else if c.isDigit then some (n * 10 + (c.toNat - 48)) else none) 0
    match value with
    | some n =>
      if digits.isEmpty || n ≥ 4294967296 then throw "invalid numeric reference"
      let c := if n ≥ 0xD800 && n ≤ 0xDFFF || n > 0x10FFFF then '�' else Char.ofNat n
      return ([c], rest)
    | none => throw "invalid numeric reference"
  | _ =>
    let name := String.ofList body
    if name == "lt" then return (['<'], rest)
    else if name == "gt" then return (['>'], rest)
    else if name == "quot" then return (['"'], rest)
    else if name == "apos" then return (['\x27'], rest)
    else if name == "amp" then return (['&'], rest)
    else throw ("unknown predefined entity &" ++ name ++ ";")

/-- Text with its predefined entities and numeric references read. -/
def decodeEntities (text : String) : Except String String :=
  go text.toList [] (text.length + 1)
where
  go (cs : List Char) (acc : List Char) : Nat → Except String String
    | 0 => .ok (String.ofList acc.reverse)
    | fuel + 1 =>
      match cs.idxOf? '&' with
      | none => .ok (String.ofList (acc.reverse ++ cs))
      | some i => do
        let (out, rest) ← entityAt (cs.drop (i + 1))
        go rest (out.reverse ++ (cs.take i).reverse ++ acc) fuel

/-- The position of `sub` in `s` at or after `start`. -/
def indexFrom (s sub : Bytes) (start : Nat) : Option Nat :=
  ((List.range (s.length + 1)).drop start).find? fun i => (s.drop i).take sub.length == sub

/-- The start of a CDATA section. -/
def cdataOpen : Bytes := Bytes.ofString "<![CDATA["

/-- The end of a CDATA section. -/
def cdataClose : Bytes := Bytes.ofString "]]>"

/-- The contents of the CDATA sections of text. The scan resumes after each section at the
byte position of the section's end added to where the scan stood, so that text before a later
section is passed over; text after the last section is read for references, and is dropped if
that fails. -/
def stripCdata (text : String) : String :=
  let s := Bytes.ofString text
  Bytes.text (go s 0 [] (s.length + 1))
where
  go (s : Bytes) (curr : Nat) (acc : Bytes) : Nat → Bytes
    | 0 => acc
    | fuel + 1 =>
      if curr ≥ s.length then acc
      else
        let tail := fun (_ : Unit) =>
          match decodeEntities (Bytes.text (s.drop curr)) with
          | .ok d => acc ++ Bytes.ofString d
          | .error _ => acc
        match indexFrom s cdataOpen curr with
        | none => tail ()
        | some start =>
          match indexFrom s cdataClose start with
          | none => tail ()
          | some stop =>
            let from_ := start + cdataOpen.length
            go s (curr + stop + cdataClose.length) (acc ++ (s.drop from_).take (stop - from_)) fuel

/-- Whether text holds a CDATA section's start. -/
def hasCdata (text : String) : Bool := (indexFrom (Bytes.ofString text) cdataOpen 0).isSome

/-- The text of the current element, from what is written inside it: trimmed, with CDATA
sections stripped when it has any, else its references read. The cursor moves to its end. -/
def readText (c : Cursor) : Except String (String × Cursor) := do
  let (inner, c) ← c.innerXml
  let s := Text.trim (Bytes.text inner)
  if hasCdata s then return (stripCdata s, c)
  return (← decodeEntities s, c)

mutual

/-- An element of another namespace at the cursor: its name, attributes, text and children.
The cursor moves to its end. -/
def readExtension : Nat → Cursor → Except String (Extension × Cursor)
  | 0, _ => .error "unexpected EOF"
  | fuel + 1, c =>
    let name := c.name.localName
    let attrs := c.attrs.map fun a => (a.name.localName, a.value)
    match extensionBody fuel c "" [] with
    | .error e => .error e
    | .ok (value, children, c) =>
      match c.expect .endTag name with
      | .error e => .error e
      | .ok () => .ok (.mk name (Text.trim value) attrs children.reverse, c)

/-- The text and children of an element of another namespace, up to its end. -/
def extensionBody : Nat → Cursor → String → List Extension →
    Except String (String × List Extension × Cursor)
  | 0, _, _, _ => .error "unexpected EOF"
  | fuel + 1, c, value, children =>
    match c.next with
    | .error e => .error e
    | .ok c =>
      match c.kind with
      | .endTag => .ok (value, children, c)
      | .startTag =>
        match readExtension fuel c with
        | .error e => .error e
        | .ok (child, c) => extensionBody fuel c value (child :: children)
      | .text => extensionBody fuel c (value ++ c.text) children
      | _ => .error "unexpected EOF"

end

/-- Prefixes of well-known namespaces, used whatever prefix a feed declares them with. -/
def knownPrefixes : List (String × String) := [
  ("http://webns.net/mvcb/", "admin"),
  ("http://purl.org/rss/1.0/modules/aggregation/", "ag"),
  ("http://purl.org/rss/1.0/modules/annotate/", "annotate"),
  ("http://media.tangent.org/rss/1.0/", "audio"),
  ("http://backend.userland.com/blogChannelModule", "blogChannel"),
  ("http://web.resource.org/cc/", "cc"),
  ("http://www.microsoft.com/schemas/rss/core/2005", "cf"),
  ("http://purl.org/rss/1.0/modules/company", "company"),
  ("http://purl.org/rss/1.0/modules/content/", "content"),
  ("http://conversationsnetwork.org/rssNamespace-1.0/", "conversationsNetwork"),
  ("http://cyber.law.harvard.edu/rss/creativeCommonsRssModule.html", "creativeCommons"),
  ("http://purl.org/dc/elements/1.1/", "dc"),
  ("http://purl.org/dc/terms/", "dcterms"),
  ("http://purl.org/rss/1.0/modules/email/", "email"),
  ("http://purl.org/rss/1.0/modules/event/", "ev"),
  ("http://purl.org/syndication/history/1.0", "fh"),
  ("http://www.w3.org/2003/01/geo/wgs84_pos#", "geo"),
  ("http://geourl.org/rss/module/", "geourl"),
  ("http://www.georss.org/georss", "georss"),
  ("http://www.opengis.net/gml", "gml"),
  ("http://postneo.com/icbm", "icbm"),
  ("http://purl.org/rss/1.0/modules/image/", "image"),
  ("urn:atom-extension:indexing", "indexing"),
  ("http://www.itunes.com/dtds/podcast-1.0.dtd", "itunes"),
  ("http://rssnamespace.org/feedburner/ext/1.0", "feedburner"),
  ("http://xmlns.com/foaf/0.1/", "foaf"),
  ("http://purl.org/rss/1.0/modules/link/", "l"),
  ("http://search.yahoo.com/mrss/", "media"),
  ("http://www.w3.org/1999/xhtml", "xhtml"),
  ("http://purl.org/rss/1.0/modules/reference/", "ref"),
  ("http://purl.org/rss/1.0/modules/richequiv/", "reqv"),
  ("http://purl.org/rss/1.0/modules/search/", "search"),
  ("http://purl.org/rss/1.0/modules/slash/", "slash"),
  ("http://schemas.xmlsoap.org/soap/envelope/", "soap"),
  ("http://purl.org/rss/1.0/modules/servicestatus/", "ss"),
  ("http://hacks.benhammersley.com/rss/streaming/", "str"),
  ("http://purl.org/rss/1.0/modules/subscription/", "sub"),
  ("http://purl.org/rss/1.0/modules/syndication/", "sy"),
  ("http://schemas.pocketsoap.com/rss/myDescModule/", "szf"),
  ("http://purl.org/rss/1.0/modules/taxonomy/", "taxo"),
  ("http://purl.org/rss/1.0/modules/threading/", "thr"),
  ("http://madskills.com/public/xml/rss/module/trackback/", "trackback"),
  ("http://wellformedweb.org/CommentAPI/", "wfw"),
  ("http://purl.org/rss/1.0/modules/wiki/", "wiki"),
  ("http://www.usemod.com/cgi-bin/mb.pl?ModWiki", "wiki"),
  ("http://schemas.xmlsoap.org/wsdl/", "wsdl"),
  ("http://www.w3.org/1999/xlink", "xlink"),
  ("http://www.w3.org/1999/02/22-rdf-syntax-ns#", "rdf"),
  ("http://www.w3.org/2000/01/rdf-schema#", "rdfs"),
  ("http://purl.org/rss/1.0/", "rss")]

/-- The prefix elements of a namespace are grouped under: the well-known one, else the one the
document declared, else the namespace as written. -/
def prefixFor (c : Cursor) (space : String) : String :=
  match (knownPrefixes.find? (·.1 == space)).map (·.2) with
  | some p => p
  | none => (c.prefixOf? space).getD space

/-- Reads an element of another namespace at the cursor and adds it to the elements read. -/
def addExtension (exts : Extensions) (c : Cursor) : Except String (Extensions × Cursor) := do
  let pre := prefixFor c c.name.space
  let (e, c) ← readExtension (c.steps.size + 1) c
  return (exts ++ [(pre, e)], c)

/-- Reads an element whose children of the given names are read as text and the rest passed
over: the texts by name, in order, and the cursor at the element's end. -/
def readFields (names : List String) (c : Cursor) :
    Except String (List (String × String) × Cursor) :=
  go c [] (c.steps.size + 1)
where
  go (c : Cursor) (acc : List (String × String)) : Nat →
      Except String (List (String × String) × Cursor)
    | 0 => .ok (acc.reverse, c)
    | fuel + 1 => do
      let c ← c.nextTag
      if c.kind == .endTag then return (acc.reverse, c)
      let name := lowerText c.name.localName
      if names.contains name then
        let (t, c) ← readText c
        go c ((name, t) :: acc) fuel
      else
        let c ← c.skip
        go c acc fuel

end ReadLater.Feed
