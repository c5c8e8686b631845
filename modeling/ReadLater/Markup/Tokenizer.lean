import ReadLater.Markup.Entity

/-!
# Splitting HTML into tokens

An HTML document is a run of text, tags, comments and declarations. The tokenizer reads it left
to right, as browsers do before building a tree:

* text runs until a `<` that opens a tag (`<` then a letter), an end tag (`</`), or a comment or
  declaration (`<!` or `<?`); any other `<` is text;
* a tag has a name and attributes; a name or value may be quoted with `"` or `'`, or bare;
* after the start tag of `script`, `style`, `textarea`, `title`, `iframe`, `noembed`,
  `noframes`, `noscript` or `xmp`, everything up to the matching end tag is text (for
  `plaintext`, everything to the end); `script` also follows the escaping rules for `<!--`;
* comments end at `-->`; other declarations end at the next `>`.

Text reads its character references, except inside the raw elements (all of the above but
`textarea` and `title`), where it stays as written and a NUL reads as U+FFFD. Line breaks
`\r\n` and `\r` become `\n`.

Reading stops at the end of the input, and also inside a tag that the input cuts short: what
came before stays read.

* `Markup.Token`: the tokens;
* `Markup.tokenize`: the tokens of a document, in order.
-/

namespace ReadLater.Markup

open Text

/-- A token of an HTML document. Names are lowercased. -/
inductive Token where
  | text (data : Bytes)
  | startTag (name : Bytes) (attrs : List (Bytes × Bytes))
  | selfClosingTag (name : Bytes) (attrs : List (Bytes × Bytes))
  | endTag (name : Bytes)
  | comment
  | doctype
  deriving DecidableEq, Repr, Inhabited

/-- Whether a byte is white space inside a tag. -/
def isTagSpace (c : UInt8) : Bool := c == 32 || c == 10 || c == 13 || c == 9 || c == 12

/-- Whether a byte is an ASCII letter. -/
def isAsciiLetter (c : UInt8) : Bool := (65 ≤ c && c ≤ 90) || (97 ≤ c && c ≤ 122)

/-- ASCII letters lowercased. -/
def lowerAscii (s : Bytes) : Bytes := s.map fun c => if 65 ≤ c && c ≤ 90 then c + 32 else c

/-- Line breaks `\r\n` and `\r` as `\n`. -/
def convertNewlines : Bytes → Bytes
  | [] => []
  | 13 :: 10 :: rest => 10 :: convertNewlines rest
  | 13 :: rest => 10 :: convertNewlines rest
  | c :: rest => c :: convertNewlines rest

/-- A NUL byte as U+FFFD. -/
def replaceNul (s : Bytes) : Bytes := s.flatMap fun c => if c == 0 then Bytes.ofString "�" else [c]

/-- The elements whose content is read as text up to their end tag. -/
def rawElements : List String :=
  ["iframe", "noembed", "noframes", "noscript", "plaintext", "script", "style", "textarea",
    "title", "xmp"]

/-- A document being read: its bytes, as an array for reading at positions. -/
abbrev Source := Array UInt8

/-- The byte at a position, if the document has one there. -/
def Source.at (src : Source) (i : Nat) : Option UInt8 := src[i]?

/-- The bytes from `a` up to `b`. -/
def Source.slice (src : Source) (a b : Nat) : Bytes := (src.extract a b).toList

/-- The first position at or after `i` that holds no white space. -/
def skipTagSpace (src : Source) (i : Nat) : Nat :=
  go i (src.size + 1)
where
  go (i : Nat) : Nat → Nat
    | 0 => i
    | fuel + 1 =>
      match src.at i with
      | some c => if isTagSpace c then go (i + 1) fuel else i
      | none => i

/-- The position just past the next `>` at or after `i`, or the end. -/
def pastCloseAngle (src : Source) (i : Nat) : Nat :=
  go i (src.size + 1)
where
  go (i : Nat) : Nat → Nat
    | 0 => i
    | fuel + 1 =>
      match src.at i with
      | some 62 => i + 1
      | some _ => go (i + 1) fuel
      | none => src.size

/-- The end of a tag name that starts at `start` (its first byte already known): the end and
the position after it, or none at the end of the input. -/
def readTagName (src : Source) (start : Nat) : Option (Nat × Nat) :=
  go (start + 1) (src.size + 1)
where
  go (i : Nat) : Nat → Option (Nat × Nat)
    | 0 => none
    | fuel + 1 =>
      match src.at i with
      | none => none
      | some c =>
        if isTagSpace c then some (i, i + 1)
        else if c == 47 || c == 62 then some (i, i)
        else go (i + 1) fuel

/-- An attribute name from `start`: its end, or none at the end of the input. An `=` as its
first byte belongs to the name. -/
def readAttrKey (src : Source) (start : Nat) : Option Nat :=
  go start (src.size + 1)
where
  go (i : Nat) : Nat → Option Nat
    | 0 => none
    | fuel + 1 =>
      match src.at i with
      | none => none
      | some c =>
        if c == 61 && i == start then go (i + 1) fuel
        else if c == 61 || isTagSpace c || c == 47 || c == 62 then some i
        else go (i + 1) fuel

/-- The position of byte `q` at or after `i`, or none. -/
def findByte (src : Source) (q : UInt8) (i : Nat) : Option Nat :=
  go i (src.size + 1)
where
  go (i : Nat) : Nat → Option Nat
    | 0 => none
    | fuel + 1 =>
      match src.at i with
      | none => none
      | some c => if c == q then some i else go (i + 1) fuel

/-- An attribute value after its name, at `i`: the value's bounds and the position after it,
or none at the end of the input. -/
def readAttrValue (src : Source) (i : Nat) : Option ((Nat × Nat) × Nat) := do
  let j := skipTagSpace src i
  let c ← src.at j
  if c == 47 then return ((i, i), j + 1)
  if c != 61 then return ((i, i), j)
  let k := skipTagSpace src (j + 1)
  let q ← src.at k
  if q == 62 then return ((i, i), k)
  if q == 39 || q == 34 then
    let close ← findByte src q (k + 1)
    return ((k + 1, close), close + 1)
  -- a bare value ends at white space or `>`
  let rec bare (m : Nat) : Nat → Option ((Nat × Nat) × Nat)
    | 0 => none
    | fuel + 1 =>
      match src.at m with
      | none => none
      | some c =>
        if isTagSpace c then some ((k, m), m + 1)
        else if c == 62 then some ((k, m), m)
        else bare (m + 1) fuel
  bare (k + 1) (src.size + 1)

/-- The attributes of a tag from `i` up to its `>`: the bounds of each name and value and the
position after the `>`, or none at the end of the input. -/
def readAttrs (src : Source) (i : Nat) : Option (List ((Nat × Nat) × (Nat × Nat)) × Nat) :=
  go i [] (src.size + 1)
where
  go (i : Nat) (acc : List ((Nat × Nat) × (Nat × Nat))) : Nat →
      Option (List ((Nat × Nat) × (Nat × Nat)) × Nat)
    | 0 => none
    | fuel + 1 => do
      let c ← src.at i
      if c == 62 then return (acc.reverse, i + 1)
      let keyEnd ← readAttrKey src i
      let (val, after) ← readAttrValue src keyEnd
      let acc := if keyEnd > i then ((i, keyEnd), val) :: acc else acc
      let next := skipTagSpace src after
      if next ≥ src.size then none
      go next acc fuel

/-- A tag whose name starts at `start`: the name's bounds, the attributes and the position after
the tag, or none when the input ends inside it. -/
def readTag (src : Source) (start : Nat) :
    Option ((Nat × Nat) × List ((Nat × Nat) × (Nat × Nat)) × Nat) := do
  let (nameEnd, after) ← readTagName src start
  let i := skipTagSpace src after
  if i ≥ src.size then none
  let (attrs, stop) ← readAttrs src i
  return ((start, nameEnd), attrs, stop)

/-- Whether the bytes at `i` close the raw element `tag`: its name in any case and then white
space, `/` or `>`. Reaching the end of the input is reported apart. -/
inductive EndTagCheck where
  | closes
  | not
  | atEnd
  deriving DecidableEq, Repr

/-- Checks for the name of a raw element's end tag at `i`, just after `</`. -/
def checkRawEnd (src : Source) (tag : Bytes) (i : Nat) : EndTagCheck :=
  let rec name (k : Nat) : Bytes → EndTagCheck
    | [] =>
      match src.at k with
      | none => .atEnd
      | some c => if isTagSpace c || c == 47 || c == 62 then .closes else .not
    | t :: ts =>
      match src.at k with
      | none => .atEnd
      | some c => if c == t || c == t - 32 then name (k + 1) ts else .not
  name i tag

/-- The end of the text of a raw element other than `script`: the `<` of its end tag, or the
end of the input. -/
def rawTextEnd (src : Source) (tag : Bytes) (i : Nat) : Nat :=
  go i (src.size + 1)
where
  go (i : Nat) : Nat → Nat
    | 0 => src.size
    | fuel + 1 =>
      match src.at i with
      | none => src.size
      | some 60 =>
        match src.at (i + 1) with
        | none => src.size
        | some 47 =>
          match checkRawEnd src tag (i + 2) with
          | .closes => i
          | .atEnd => src.size
          | .not => go (i + 2) fuel
        | some _ => go (i + 1) fuel
      | some _ => go (i + 1) fuel

/-- The states of a script's text, after the rules for `<!--` and nested `<script>` inside it. -/
inductive ScriptState where
  | data | lessThan | escapeStart | escapeStartDash
  | escaped | escapedDash | escapedDashDash | escapedLessThan
  | doubleEscaped | doubleEscapedDash | doubleEscapedDashDash | doubleEscapedLessThan
  deriving DecidableEq, Repr

/-- The bytes of the word `script`. -/
def scriptWord : Bytes := Bytes.ofString "script"

/-- The end of a script's text: the `<` of its end tag, or the end of the input. -/
def scriptTextEnd (src : Source) (i : Nat) : Nat :=
  go .data i (2 * src.size + 2)
where
  go (st : ScriptState) (i : Nat) : Nat → Nat
    | 0 => src.size
    | fuel + 1 =>
      match src.at i with
      | none => src.size
      | some c =>
        match st with
        | .data => go (if c == 60 then .lessThan else .data) (i + 1) fuel
        | .lessThan =>
          if c == 47 then
            match checkRawEnd src scriptWord (i + 1) with
            | .closes => i - 1
            | .atEnd => src.size
            | .not => go .data (i + 1) fuel
          else if c == 33 then go .escapeStart (i + 1) fuel
          else go .data i fuel
        | .escapeStart => if c == 45 then go .escapeStartDash (i + 1) fuel else go .data i fuel
        | .escapeStartDash => if c == 45 then go .escapedDashDash (i + 1) fuel else go .data i fuel
        | .escaped =>
          if c == 45 then go .escapedDash (i + 1) fuel
          else if c == 60 then go .escapedLessThan (i + 1) fuel
          else go .escaped (i + 1) fuel
        | .escapedDash =>
          if c == 45 then go .escapedDashDash (i + 1) fuel
          else if c == 60 then go .escapedLessThan (i + 1) fuel
          else go .escaped (i + 1) fuel
        | .escapedDashDash =>
          if c == 45 then go .escapedDashDash (i + 1) fuel
          else if c == 60 then go .escapedLessThan (i + 1) fuel
          else if c == 62 then go .data (i + 1) fuel
          else go .escaped (i + 1) fuel
        | .escapedLessThan =>
          if c == 47 then
            match checkRawEnd src scriptWord (i + 1) with
            | .closes => i - 1
            | .atEnd => src.size
            | .not => go .escaped (i + 1) fuel
          else if isAsciiLetter c then
            -- a nested script start tag begins a doubly escaped run
            match checkRawEnd src scriptWord i with
            | .closes => go .doubleEscaped (i + 7) fuel
            | .atEnd => src.size
            | .not => go .escaped i fuel
          else go .escaped i fuel
        | .doubleEscaped =>
          if c == 45 then go .doubleEscapedDash (i + 1) fuel
          else if c == 60 then go .doubleEscapedLessThan (i + 1) fuel
          else go .doubleEscaped (i + 1) fuel
        | .doubleEscapedDash =>
          if c == 45 then go .doubleEscapedDashDash (i + 1) fuel
          else if c == 60 then go .doubleEscapedLessThan (i + 1) fuel
          else go .doubleEscaped (i + 1) fuel
        | .doubleEscapedDashDash =>
          if c == 45 then go .doubleEscapedDashDash (i + 1) fuel
          else if c == 60 then go .doubleEscapedLessThan (i + 1) fuel
          else if c == 62 then go .data (i + 1) fuel
          else go .doubleEscaped (i + 1) fuel
        | .doubleEscapedLessThan =>
          if c == 47 then
            match checkRawEnd src scriptWord (i + 1) with
            | .closes => go .escaped (i + 8) fuel
            | .atEnd => src.size
            | .not => go .doubleEscaped (i + 1) fuel
          else go .doubleEscaped i fuel

/-- The end of a comment whose text starts at `i`, just after `<!--`: the position after its
closing `-->` (or `--!>`, or a `>` right after the opening dashes), or the end of the input. -/
def commentEnd (src : Source) (i : Nat) : Nat :=
  go i 0 true (src.size + 1)
where
  go (i dashes : Nat) (beginning : Bool) : Nat → Nat
    | 0 => src.size
    | fuel + 1 =>
      match src.at i with
      | none => src.size
      | some 45 => go (i + 1) (dashes + 1) beginning fuel
      | some 62 => if dashes ≥ 2 || beginning then i + 1 else go (i + 1) 0 false fuel
      | some 33 =>
        if dashes ≥ 2 then
          match src.at (i + 1) with
          | none => src.size
          | some 62 => i + 2
          | some 45 => go (i + 2) 1 false fuel
          | some _ => go (i + 2) 0 false fuel
        else go (i + 1) 0 false fuel
      | some _ => go (i + 1) 0 false fuel

/-- A declaration after `<!` at `i`: a comment, a doctype, or a bogus comment up to `>`. -/
def readDeclaration (src : Source) (i : Nat) : Token × Nat :=
  if i + 2 > src.size then (.comment, src.size)
  else if src.at i == some 45 && src.at (i + 1) == some 45 then (.comment, commentEnd src (i + 2))
  else if lowerAscii (src.slice i (i + 7)) == Bytes.ofString "doctype" then
    (.doctype, pastCloseAngle src (i + 7))
  else (.comment, pastCloseAngle src i)

/-- The data of a text token: line breaks normalised; references read unless the text is raw;
NUL read as U+FFFD in the text of raw and escapable raw elements. -/
def textData (raw escapable : Bool) (s : Bytes) : Bytes :=
  let s := convertNewlines s
  let s := if raw || escapable then replaceNul s else s
  if raw then s else unescape false s

/-- A tag's attributes, names lowercased and values with their references read. -/
def attrsOf (src : Source) (attrs : List ((Nat × Nat) × (Nat × Nat))) : List (Bytes × Bytes) :=
  attrs.map fun ((ka, kb), (va, vb)) =>
    (lowerAscii (src.slice ka kb), unescape true (convertNewlines (src.slice va vb)))

/-- The outcome of reading one token: the token, the position after it and the raw element
whose text comes next (empty for none); or the end of reading. -/
abbrev Step := Option (Token × Nat × Bytes)

/-- Reads one token of ordinary content from `p`. -/
def readContent (src : Source) (p : Nat) : Step :=
  go p (src.size + 1)
where
  textUpTo (stop : Nat) : Step :=
    if p < stop then some (.text (textData false false (src.slice p stop)), stop, []) else none
  go (j : Nat) : Nat → Step
    | 0 => textUpTo src.size
    | fuel + 1 =>
      match findByte src 60 j with
      | none => textUpTo src.size
      | some k =>
        match src.at (k + 1) with
        | none => textUpTo src.size
        | some c =>
          let opens := isAsciiLetter c || c == 47 || c == 33 || c == 63
          if !opens then go (k + 1) fuel
          else if p < k then textUpTo k
          else if isAsciiLetter c then
            match readTag src (k + 1) with
            | none => none
            | some ((na, nb), attrs, stop) =>
              let name := lowerAscii (src.slice na nb)
              let raw := if rawElements.any (fun r => Bytes.ofString r == name) then name else []
              if src.at (stop - 2) == some 47 then
                some (.selfClosingTag name (attrsOf src attrs), stop, raw)
              else some (.startTag name (attrsOf src attrs), stop, raw)
          else if c == 47 then
            match src.at (k + 2) with
            | none => textUpTo src.size
            | some 62 => some (.comment, k + 3, [])
            | some d =>
              if isAsciiLetter d then
                match readTag src (k + 2) with
                | none => none
                | some ((na, nb), _, stop) => some (.endTag (lowerAscii (src.slice na nb)), stop, [])
              else some (.comment, pastCloseAngle src (k + 2), [])
          else if c == 33 then
            let (t, stop) := readDeclaration src (k + 2)
            some (t, stop, [])
          else some (.comment, pastCloseAngle src (k + 1), [])

/-- Reads one token from `p`, where `raw` names the raw element whose text comes first. -/
def readToken (src : Source) (p : Nat) (raw : Bytes) : Step :=
  if raw.isEmpty then readContent src p
  else
    let stop :=
      if raw == Bytes.ofString "plaintext" then src.size
      else if raw == scriptWord then scriptTextEnd src p
      else rawTextEnd src raw p
    let escapable := raw == Bytes.ofString "textarea" || raw == Bytes.ofString "title"
    if p < stop then
      some (.text (textData (!escapable) escapable (src.slice p stop)), stop,
        if raw == Bytes.ofString "plaintext" then raw else [])
    else readContent src p

/-- The tokens of a document, in order, until its end or a tag it cuts short. -/
def tokenize (doc : Bytes) : List Token :=
  let src : Source := doc.toArray
  go src 0 [] (src.size + 1)
where
  go (src : Source) (p : Nat) (raw : Bytes) : Nat → List Token
    | 0 => []
    | fuel + 1 =>
      if p ≥ src.size then []
      else
        match readToken src p raw with
        | none => []
        | some (t, q, raw') => t :: (if q ≤ p then [] else go src q raw' fuel)

end ReadLater.Markup
