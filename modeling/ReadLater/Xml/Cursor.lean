import ReadLater.Xml.Decoder

/-!
# Walking XML events

Feed readers walk a document's events one at a time, keeping only where they are: the current
event, and the namespaces declared so far with the prefixes the document gave them. A walk may
move to the next event of any kind, to the next tag, skip the rest of an element, or take an
element whole as the markup written inside it.

* `Xml.Cursor`: a position in a document's events;
* `Xml.Cursor.next`, `Xml.Cursor.nextTag`, `Xml.Cursor.skip`: moving on;
* `Xml.Cursor.innerXml`, `Xml.Cursor.nextText`: taking an element's content;
* `Xml.Cursor.isExtension`: whether the current element belongs to a namespace beyond the feed's
  own.
-/

namespace ReadLater.Xml

open Text

/-- A position in a document's events. -/
structure Cursor where
  steps : Array Step
  src : Array UInt8
  /-- The number of steps read; the current event is the last of them. -/
  index : Nat
  /-- Namespace URLs declared so far and their prefixes (trimmed, lowercased), latest first. -/
  prefixes : List (String × String) := []
  deriving Inhabited

/-- The cursor before the first event of a document. -/
def Cursor.ofDocument (doc : Bytes) : Cursor :=
  let (steps, src) := decode doc
  { steps, src, index := 0 }

/-- The current step, none before the first. -/
def Cursor.step? (c : Cursor) : Option Step :=
  if c.index == 0 then none else c.steps[c.index - 1]?

/-- The current event, none before the first. -/
def Cursor.event? (c : Cursor) : Option Event := c.step?.map (·.event)

/-- The name of the current tag (the last tag read, after other events). -/
def Cursor.name (c : Cursor) : Name :=
  go c.index (c.index + 1)
where
  go (i : Nat) : Nat → Name
    | 0 => { localName := "" }
    | fuel + 1 =>
      if i == 0 then { localName := "" }
      else match ((c.steps[i - 1]?).map (·.event) : Option Event) with
        | some (.start n _) | some (.stop n) => n
        | _ => go (i - 1) fuel

/-- The attributes of the current start tag. -/
def Cursor.attrs (c : Cursor) : List Attr :=
  match c.event? with
  | some (.start _ attrs) => attrs
  | _ => []

/-- The value of the first attribute with a local name, empty when there is none. -/
def Cursor.attribute (c : Cursor) (key : String) : String :=
  ((c.attrs.find? (·.name.localName == key)).map (·.value)).getD ""

/-- The prefixes a start tag declares: URL and prefix, both trimmed, the prefix lowercased. -/
def declaredPrefixes (attrs : List Attr) : List (String × String) :=
  attrs.filterMap fun a =>
    if a.name.space == "xmlns" then
      some (a.value.trimAscii.toString, lowerText a.name.localName.trimAscii.toString)
    else if a.name.localName == "xmlns" then some (a.value.trimAscii.toString, "")
    else none

/-- The prefix the document gave a namespace URL. -/
def Cursor.prefixOf? (c : Cursor) (url : String) : Option String :=
  (c.prefixes.find? (·.1 == url)).map (·.2)

/-- Moves to the next event of any kind; past the end it stays at the end. An error stops the
walk with its message. -/
def Cursor.nextToken (c : Cursor) : Except String Cursor :=
  match c.event? with
  | some .finish => .ok c
  | _ =>
    match c.steps[c.index]? with
    | none => .ok c
    | some ⟨.fault m, _, _⟩ => .error m
    | some ⟨.start _ attrs, _, _⟩ =>
      .ok { c with index := c.index + 1,
                   prefixes := (declaredPrefixes attrs).foldl (fun ps d => d :: ps) c.prefixes }
    | some _ => .ok { c with index := c.index + 1 }

/-- The kinds of events a walk stops at. -/
inductive Kind where
  | startTag
  | endTag
  | text
  | endDocument
  | other
  deriving DecidableEq, Repr, Inhabited

/-- The kind of the current event. -/
def Cursor.kind (c : Cursor) : Kind :=
  match c.event? with
  | some (.start _ _) => .startTag
  | some (.stop _) => .endTag
  | some (.text _) => .text
  | some .finish => .endDocument
  | _ => .other

/-- The name of a kind in messages. -/
def Kind.label : Kind → String
  | .startTag => "StartTag"
  | .endTag => "EndTag"
  | .text => "Text"
  | .endDocument => "EndDocument"
  | .other => "StartDocument"

/-- The character data of the current event. -/
def Cursor.text (c : Cursor) : String :=
  match c.event? with
  | some (.text s) => s
  | _ => ""

/-- Moves to the next tag, text or end of the document, passing over the rest. -/
def Cursor.next (c : Cursor) : Except String Cursor :=
  go c (c.steps.size + 1)
where
  go (c : Cursor) : Nat → Except String Cursor
    | 0 => .ok c
    | fuel + 1 => do
      let c ← c.nextToken
      if c.kind == .other then go c fuel else return c

/-- Moves to the next start or end tag, passing over text; the document may not end first. -/
def Cursor.nextTag (c : Cursor) : Except String Cursor :=
  go c (c.steps.size + 1)
where
  go (c : Cursor) : Nat → Except String Cursor
    | 0 => .ok c
    | fuel + 1 => do
      let c ← c.next
      match c.kind with
      | .startTag | .endTag => return c
      | .endDocument =>
        throw "Failed to find NextTag before reaching the end of the document."
      | _ => go c fuel

/-- Moves to the end tag of the current element, passing over everything inside it. -/
def Cursor.skip (c : Cursor) : Except String Cursor :=
  go c 0 (c.steps.size + 1)
where
  go (c : Cursor) (depth : Nat) : Nat → Except String Cursor
    | 0 => .ok c
    | fuel + 1 => do
      let c ← c.nextToken
      match c.kind with
      | .startTag => go c (depth + 1) fuel
      | .endTag => if depth == 0 then return c else go c (depth - 1) fuel
      | .endDocument => return c
      | _ => go c depth fuel

/-- The line the decoder has reached at the current event. -/
def Cursor.line (c : Cursor) : Nat :=
  lineAt c.src ((c.step?.map (·.after)).getD 0)

/-- Checks that the current event is a tag of a kind with a name (any letter case). -/
def Cursor.expect (c : Cursor) (kind : Kind) (name : String) : Except String Unit :=
  if c.kind == kind && lowerText c.name.localName == lowerText name then .ok ()
  else .error ("Expected Space:* Name:" ++ name ++ " Event:" ++ kind.label ++ " but got Space:" ++
    c.name.space ++ " Name:" ++ c.name.localName ++ " Event:" ++ c.kind.label ++ " at line: " ++
    toString c.line)

/-- The markup written inside the current element, taken whole: the cursor moves to its end
tag. Namespaces declared inside are not recorded. -/
def Cursor.innerXml (c : Cursor) : Except String (Bytes × Cursor) :=
  match c.step? with
  | some ⟨.start _ _, _, from_⟩ => go from_ c.index 0 (c.steps.size + 1)
  | _ => .error "DecodeElement can only be called from a StartTag event"
where
  go (from_ : Nat) (i : Nat) (depth : Nat) : Nat → Except String (Bytes × Cursor)
    | 0 => .error "unexpected EOF"
    | fuel + 1 =>
      match c.steps[i]? with
      | none => .error "unexpected EOF"
      | some ⟨.fault m, _, _⟩ => .error m
      | some ⟨.finish, _, _⟩ => .error "unexpected EOF"
      | some ⟨.start _ _, _, _⟩ => go from_ (i + 1) (depth + 1) fuel
      | some ⟨.stop _, before, _⟩ =>
        if depth == 0 then .ok (slice c.src from_ before, { c with index := i + 1 })
        else go from_ (i + 1) (depth - 1) fuel
      | some _ => go from_ (i + 1) depth fuel

/-- The text directly inside the current element, which may hold no tags: the cursor moves to
its end tag. -/
def Cursor.nextText (c : Cursor) : Except String (String × Cursor) := do
  if c.kind != .startTag then throw "parser must be on StartTag to get NextText()"
  let c ← c.next
  if c.kind != .endTag && c.kind != .text then
    throw "parser must be on EndTag or Text to read text"
  go c "" (c.steps.size + 1)
where
  go (c : Cursor) (acc : String) : Nat → Except String (String × Cursor)
    | 0 => .ok (acc, c)
    | fuel + 1 =>
      if c.kind != .text then .ok (acc, c)
      else do
        let acc := acc ++ c.text
        let c ← c.next
        if c.kind != .endTag && c.kind != .text then
          throw ("Event Text must be immediately followed by EndTag or Text but got " ++
            c.kind.label)
        go c acc fuel

/-- Moves to the first start tag of the document. -/
def Cursor.findRoot (c : Cursor) : Except String Cursor :=
  go c (c.steps.size + 1)
where
  go (c : Cursor) : Nat → Except String Cursor
    | 0 => .ok c
    | fuel + 1 => do
      let c ← c.next
      match c.kind with
      | .startTag => return c
      | .endDocument => throw "Failed to find root node before document ended."
      | _ => go c fuel

/-- Whether the current element belongs to a namespace beyond the feed's own: one the document
declared with a prefix other than `rss`, `rdf` or `content`, or an undeclared prefix. -/
def Cursor.isExtension (c : Cursor) : Bool :=
  let space := c.name.space.trimAscii.toString
  match c.prefixOf? space with
  | some p => !(p == "" || p == "rss" || p == "rdf" || p == "content")
  | none => c.name.space != ""

end ReadLater.Xml
