import ReadLater.Text.Utf8
import ReadLater.Text.Quote
import ReadLater.Markup.Entity

/-!
# Reading XML

The decoder reads an XML document into a run of events: start tags, end tags, character data,
and the rest (comments, processing instructions, declarations). It is lenient in the way feed
readers need:

* an attribute may have no value (it then stands for its own name) or a bare value of letters,
  digits, `_`, `:` and `-`;
* a reference to an entity it does not know, or one without its `;`, stays as written; the five
  predefined entities and numeric references are read;
* an end tag that does not match the open element closes that element, and is tried again on
  the element around it.

Names are translated: a prefix declared with `xmlns:p="..."` (or the default namespace of
`xmlns="..."`) is replaced by its URL; an undeclared prefix stays as written.

Anything else that is not XML stops the reading with an error that names the line, as
`XML syntax error on line 3: unexpected EOF`: a document that ends inside an element, an end
tag with no element open, text with bytes that are not UTF-8 or characters that XML does not
allow, and malformed markup. A declaration of a version other than 1.0 is refused; one of a
single-byte Western encoding reads the rest of the document in Windows-1252.

* `Xml.Event`, `Xml.Step`: what the decoder reads, and where;
* `Xml.decode`: the events of a document, ending with the end of the document or an error.
-/

namespace ReadLater.Xml

open Text

/-- A qualified name: the namespace (a prefix as written, or the URL it stands for once
translated) and the local part. -/
structure Name where
  space : String := ""
  localName : String
  deriving DecidableEq, Repr, Inhabited

/-- An attribute. -/
structure Attr where
  name : Name
  value : String
  deriving DecidableEq, Repr, Inhabited

/-- What the decoder reads. -/
inductive Event where
  /-- A start tag, its name and its attributes translated. -/
  | start (name : Name) (attrs : List Attr)
  /-- An end tag; one that closes a mismatched element carries that element's name as written. -/
  | stop (name : Name)
  /-- Character data, references read. -/
  | text (data : String)
  /-- A comment, processing instruction or declaration. -/
  | other
  /-- The reading stopped here, for this reason. -/
  | fault (message : String)
  /-- The document ended. -/
  | finish
  deriving Repr, Inhabited

/-- An event and where it lies: the position before the decoder read it and the one after. -/
structure Step where
  event : Event
  before : Nat
  after : Nat
  deriving Repr, Inhabited

/-- Why reading stopped: malformed markup at a position, or a reason of its own. -/
inductive Failure where
  | malformed (message : String) (pos : Nat)
  | plain (message : String)
  deriving Repr, Inhabited

/-- The line of a position: one more than the line breaks before it. -/
def lineAt (src : Array UInt8) (pos : Nat) : Nat :=
  1 + ((src.extract 0 pos).toList.filter (· == 10)).length

/-- The text of a failure. -/
def Failure.message (src : Array UInt8) : Failure → String
  | .malformed m pos => "XML syntax error on line " ++ toString (lineAt src pos) ++ ": " ++ m
  | .plain m => m

/-- The failure of a document that ends too soon. -/
def endOfInput (src : Array UInt8) : Failure := .malformed "unexpected EOF" src.size

/-- Whether a byte may appear in a name. -/
def isNameByte (c : UInt8) : Bool :=
  (65 ≤ c && c ≤ 90) || (97 ≤ c && c ≤ 122) || (48 ≤ c && c ≤ 57) || c == 95 || c == 58 ||
    c == 46 || c == 45

/-- Whether a character may start a name. -/
def isNameStart (c : Char) : Bool :=
  c.isAlpha || c == '_' || c == ':' ||
    (c.toNat ≥ 0xC0 && c.toNat != 0xD7 && c.toNat != 0xF7 && c.toNat != 0x37E &&
      !(0x2000 ≤ c.toNat && c.toNat ≤ 0x206F) && !(0xD800 ≤ c.toNat && c.toNat ≤ 0xDFFF) &&
      c.toNat != 0xFFFE && c.toNat != 0xFFFF)

/-- Whether a character may continue a name. -/
def isNameRest (c : Char) : Bool :=
  isNameStart c || c.isDigit || c == '-' || c == '.' || c.toNat == 0xB7 ||
    (0x300 ≤ c.toNat && c.toNat ≤ 0x36F)

/-- Whether bytes are a well-formed name. -/
def isName (bs : Bytes) : Bool :=
  let ps := Bytes.pieces bs
  match ps with
  | [] => false
  | .char c :: rest =>
    isNameStart c && rest.all fun
      | .char d => isNameRest d
      | .stray _ => false
  | .stray _ :: _ => false

/-- Whether a character may appear in a document. -/
def inCharacterRange (n : Nat) : Bool :=
  n == 9 || n == 10 || n == 13 || (0x20 ≤ n && n ≤ 0xD7FF) || (0xE000 ≤ n && n ≤ 0xFFFD) ||
    (0x10000 ≤ n && n ≤ 0x10FFFF)

/-- A code point as `U+` and at least four uppercase hexadecimal digits. -/
def codePointText (n : Nat) : String :=
  let digits := (Nat.toDigits 16 n).map Char.toUpper
  "U+" ++ String.ofList (List.replicate (4 - digits.length) '0' ++ digits)

/-- Checks that character data is UTF-8 of characters a document may hold. -/
def checkChars (data : Bytes) (pos : Nat) : Except Failure Unit :=
  (Bytes.pieces data).forM fun
    | .stray _ => .error (.malformed "invalid UTF-8" pos)
    | .char c =>
      if inCharacterRange c.toNat then .ok ()
      else .error (.malformed ("illegal character code " ++ codePointText c.toNat) pos)

/-- The first position at or after `i` that holds no space, tab or line break. -/
def skipSpace (src : Array UInt8) (i : Nat) : Nat :=
  go i (src.size + 1)
where
  go (i : Nat) : Nat → Nat
    | 0 => i
    | fuel + 1 =>
      match src[i]? with
      | some c => if c == 32 || c == 13 || c == 10 || c == 9 then go (i + 1) fuel else i
      | none => i

/-- The end of a run of name bytes from `i`; the input may not end inside it. Bytes past ASCII
count as name bytes, to be checked as characters afterwards. -/
def nameEnd (src : Array UInt8) (i : Nat) : Except Failure Nat :=
  go i (src.size + 1)
where
  go (i : Nat) : Nat → Except Failure Nat
    | 0 => .ok i
    | fuel + 1 =>
      match src[i]? with
      | none => .error (endOfInput src)
      | some c => if c < 0x80 && !isNameByte c then .ok i else go (i + 1) fuel

/-- The bytes from `a` up to `b`. -/
def slice (src : Array UInt8) (a b : Nat) : Bytes := (src.extract a b).toList

/-- A name from `i`: none when no name starts there, else the name and the position after it. -/
def readName (src : Array UInt8) (i : Nat) : Except Failure (Option (String × Nat)) := do
  let j ← nameEnd src i
  if j == i then
    if src[i]?.isNone then throw (endOfInput src)
    return none
  let bs := slice src i j
  if !isName bs then throw (.malformed ("invalid XML name: " ++ Bytes.text bs) j)
  return some (Bytes.text bs, j)

/-- A qualified name from `i`, and the position after what was read: none when there is no
name, or one with more than one colon. -/
def readQualified (src : Array UInt8) (i : Nat) : Except Failure (Option Name × Nat) := do
  match ← readName src i with
  | none => return (none, i)
  | some (s, j) =>
    match s.splitOn ":" with
    | [space, part] =>
      if space.isEmpty || part.isEmpty then return (some { localName := s }, j)
      else return (some { space, localName := part }, j)
    | [_] => return (some { localName := s }, j)
    | _ => return (none, j)

/-- The character a predefined entity stands for. -/
def predefined? (name : Bytes) : Option UInt8 :=
  if name == Bytes.ofString "lt" then some 60
  else if name == Bytes.ofString "gt" then some 62
  else if name == Bytes.ofString "amp" then some 38
  else if name == Bytes.ofString "apos" then some 39
  else if name == Bytes.ofString "quot" then some 34
  else none

/-- A numeric reference's digits as a number, when they fit in 64 bits. -/
def referenceValue (hex : Bool) (digits : Bytes) : Option Nat :=
  if digits.isEmpty then none
  else
    let v := digits.foldl (fun n c =>
      n * (if hex then 16 else 10) + ((Markup.hexDigitValue c).getD 0)) 0
    if v ≥ 18446744073709551616 then none else some v

/-- The end of a run of digits from `i`; the input may not end inside it. -/
def digitsEnd (src : Array UInt8) (hex : Bool) (i : Nat) : Except Failure Nat :=
  go i (src.size + 1)
where
  go (i : Nat) : Nat → Except Failure Nat
    | 0 => .ok i
    | fuel + 1 =>
      match src[i]? with
      | none => .error (endOfInput src)
      | some c =>
        let digit := (48 ≤ c && c ≤ 57) || (hex && ((97 ≤ c && c ≤ 102) || (65 ≤ c && c ≤ 70)))
        if digit then go (i + 1) fuel else .ok i

/-- A reference after its `&` at `amp`: the bytes it reads as and the position after it. What
is not a known reference stays as written. -/
def readReference (src : Array UInt8) (amp : Nat) : Except Failure (Bytes × Nat) := do
  let i := amp + 1
  match src[i]? with
  | none => throw (endOfInput src)
  | some 35 =>
    let some b := src[i + 1]? | throw (endOfInput src)
    let hex := b == 120
    let start := if hex then i + 2 else i + 1
    if src[start]?.isNone then throw (endOfInput src)
    let k ← digitsEnd src hex start
    let some e := src[k]? | throw (endOfInput src)
    if e != 59 then return (slice src amp k, k)
    match referenceValue hex (slice src start k) with
    | some n => if n ≤ 0x10FFFF then return (Markup.encodePoint n, k + 1)
                else return (slice src amp (k + 1), k + 1)
    | none => return (slice src amp (k + 1), k + 1)
  | some _ =>
    let j ← nameEnd src i
    let some e := src[j]? | throw (endOfInput src)
    if e != 59 then return (slice src amp j, j)
    let name := slice src i j
    match (if isName name then predefined? name else none) with
    | some c => return ([c], j + 1)
    | none => return (slice src amp (j + 1), j + 1)

/-- Character data from `i` up to a `<` (or the end), up to a closing quote, or, in a CDATA
section, up to `]]>`; the data and the position after it. References are read outside CDATA,
and line breaks `\r\n` and `\r` become `\n`. -/
def readText (src : Array UInt8) (quote : Option UInt8) (cdata : Bool) :
    Nat → Nat → Bytes → UInt8 → UInt8 → Except Failure (Bytes × Nat)
  | 0, i, acc, _, _ => .ok (acc.reverse, i)
  | fuel + 1, i, acc, b0, b1 =>
    match src[i]? with
    | none =>
      if cdata then .error (.malformed "unexpected EOF in CDATA section" i) else .ok (acc.reverse, i)
    | some b =>
      if quote.isNone && b0 == 93 && b1 == 93 && b == 62 then
        if cdata then .ok ((acc.drop 2).reverse, i + 1)
        else .error (.malformed "unescaped ]]> not in CDATA section" (i + 1))
      else if b == 60 && !cdata then
        if quote.isSome then .error (.malformed "unescaped < inside quoted string" (i + 1))
        else .ok (acc.reverse, i)
      else if quote == some b then .ok (acc.reverse, i + 1)
      else if b == 38 && !cdata then
        match readReference src i with
        | .error e => .error e
        | .ok (out, j) => readText src quote cdata fuel j (out.reverse ++ acc) 0 0
      else
        let acc := if b == 13 then 10 :: acc else if b1 == 13 && b == 10 then acc else b :: acc
        readText src quote cdata fuel (i + 1) acc b1 b

/-- Checked character data from `i`, as `readText` reads it. -/
def readData (src : Array UInt8) (quote : Option UInt8) (cdata : Bool) (i : Nat) :
    Except Failure (Bytes × Nat) := do
  let (data, j) ← readText src quote cdata (src.size + 1) i [] 0 0
  checkChars data j
  return (data, j)

/-- Whether a byte may appear in a bare attribute value. -/
def isBareValueByte (c : UInt8) : Bool :=
  (65 ≤ c && c ≤ 90) || (97 ≤ c && c ≤ 122) || (48 ≤ c && c ≤ 57) || c == 95 || c == 58 || c == 45

/-- An attribute value from `i`: quoted, or bare. -/
def readAttrValue (src : Array UInt8) (i : Nat) : Except Failure (String × Nat) := do
  let some b := src[i]? | throw (endOfInput src)
  if b == 34 || b == 39 then
    let (data, j) ← readData src (some b) false (i + 1)
    return (Bytes.text data, j)
  let j := go i (src.size + 1)
  if src[j]?.isNone then throw (endOfInput src)
  return (Bytes.text (slice src i j), j)
where
  go (i : Nat) : Nat → Nat
    | 0 => i
    | fuel + 1 =>
      match src[i]? with
      | some c => if isBareValueByte c then go (i + 1) fuel else i
      | none => i

/-- A token as written, before names are translated. -/
inductive Raw where
  | start (name : Name) (attrs : List Attr) (empty : Bool)
  | stop (name : Name)
  | text (data : Bytes)
  | other
  | declaration (target : String) (content : Bytes)
  deriving Repr, Inhabited

/-- The attributes of a start tag from `i`, up to its `>` or `/>`: the attributes, whether the
tag closes itself, and the position after it. -/
def readAttrs (src : Array UInt8) : Nat → Nat → List Attr → Except Failure (List Attr × Bool × Nat)
  | 0, i, acc => .ok (acc.reverse, false, i)
  | fuel + 1, i, acc => do
    let i := skipSpace src i
    let some b := src[i]? | throw (endOfInput src)
    if b == 47 then
      let some c := src[i + 1]? | throw (endOfInput src)
      if c != 62 then throw (.malformed "expected /> in element" (i + 2))
      return (acc.reverse, true, i + 2)
    if b == 62 then return (acc.reverse, false, i + 1)
    let (some name, j) ← readQualified src i
      | throw (.malformed "expected attribute name in element" i)
    let k := skipSpace src j
    let some e := src[k]? | throw (endOfInput src)
    if e != 61 then readAttrs src fuel k ({ name, value := name.localName } :: acc)
    else
      let (value, after) ← readAttrValue src (skipSpace src (k + 1))
      readAttrs src fuel after ({ name, value } :: acc)

/-- The end of a comment whose body starts at `i`: the position after its `-->`. Two dashes
may appear only there. -/
def commentEnd (src : Array UInt8) : Nat → Nat → UInt8 → UInt8 → Except Failure Nat
  | 0, i, _, _ => .ok i
  | fuel + 1, i, b0, b1 =>
    match src[i]? with
    | none => .error (endOfInput src)
    | some b =>
      if b0 == 45 && b1 == 45 then
        if b != 62 then .error (.malformed "invalid sequence \"--\" not allowed in comments" (i + 1))
        else .ok (i + 1)
      else commentEnd src fuel (i + 1) b1 b

/-- The end of a comment inside a declaration: the position after its `-->`. -/
def innerCommentEnd (src : Array UInt8) : Nat → Nat → UInt8 → UInt8 → Except Failure Nat
  | 0, i, _, _ => .ok i
  | fuel + 1, i, b0, b1 =>
    match src[i]? with
    | none => .error (endOfInput src)
    | some b =>
      if b0 == 45 && b1 == 45 && b == 62 then .ok (i + 1) else innerCommentEnd src fuel (i + 1) b1 b

/-- How many of the bytes of `!--` follow at `i`, and the byte that broke the run if one did. -/
def commentOpening (src : Array UInt8) (i : Nat) : Except Failure (Option (Nat × UInt8)) := do
  let want : List UInt8 := [33, 45, 45]
  let rec go : List UInt8 → Nat → Except Failure (Option (Nat × UInt8))
    | [], _ => .ok none
    | w :: ws, k =>
      match src[i + k]? with
      | none => .error (endOfInput src)
      | some c => if c == w then go ws (k + 1) else .ok (some (k, c))
  go want 0

mutual

/-- The end of a declaration such as `<!DOCTYPE ...>` from `i`: the position after its `>`.
Quoted `>` do not count, nested `<...>` are balanced, and comments inside are skipped. -/
def declarationEnd (src : Array UInt8) : Nat → Nat → UInt8 → Int → Except Failure Nat
  | 0, i, _, _ => .ok i
  | fuel + 1, i, inquote, depth =>
    match src[i]? with
    | none => .error (endOfInput src)
    | some b =>
      if inquote == 0 && b == 62 && depth == 0 then .ok (i + 1)
      else declarationByte src fuel (i + 1) b inquote depth

/-- A byte of a declaration, with the position after it. -/
def declarationByte (src : Array UInt8) : Nat → Nat → UInt8 → UInt8 → Int → Except Failure Nat
  | 0, i, _, _, _ => .ok i
  | fuel + 1, i, b, inquote, depth =>
    if inquote != 0 && b == inquote then declarationEnd src fuel i 0 depth
    else if inquote != 0 then declarationEnd src fuel i inquote depth
    else if b == 39 || b == 34 then declarationEnd src fuel i b depth
    else if b == 62 then declarationEnd src fuel i inquote (depth - 1)
    else if b == 60 then
      match commentOpening src i with
      | .error e => .error e
      | .ok (some (k, c)) => declarationByte src fuel (i + k + 1) c inquote (depth + 1)
      | .ok none =>
        match innerCommentEnd src (src.size + 1) (i + 3) 0 0 with
        | .error e => .error e
        | .ok j => declarationEnd src fuel j inquote depth
    else declarationEnd src fuel i inquote depth

end

/-- The end of a processing instruction's body from `i`: the body and the position after its
`?>`. -/
def instructionEnd (src : Array UInt8) (start : Nat) : Nat → Nat → UInt8 → Except Failure (Bytes × Nat)
  | 0, i, _ => .ok (slice src start i, i)
  | fuel + 1, i, b0 =>
    match src[i]? with
    | none => .error (endOfInput src)
    | some b =>
      if b0 == 63 && b == 62 then .ok (slice src start (i - 1), i + 1)
      else instructionEnd src start fuel (i + 1) b

/-- The next token from `i`, with the position after it; none at the end of the input. -/
def rawToken (src : Array UInt8) (i : Nat) : Except Failure (Option (Raw × Nat)) := do
  let some b := src[i]? | return none
  if b != 60 then
    let (data, j) ← readData src none false i
    return some (.text data, j)
  let some c := src[i + 1]? | throw (endOfInput src)
  if c == 47 then
    let (some name, j) ← readQualified src (i + 2)
      | throw (.malformed "expected element name after </" (i + 2))
    let k := skipSpace src j
    let some e := src[k]? | throw (endOfInput src)
    if e != 62 then
      throw (.malformed ("invalid characters between </" ++ name.localName ++ " and >") (k + 1))
    return some (.stop name, k + 1)
  if c == 63 then
    let some (target, j) ← readName src (i + 2)
      | throw (.malformed "expected target name after <?" (i + 2))
    let k := skipSpace src j
    let (body, after) ← instructionEnd src k (src.size + 1) k 0
    return some (.declaration target body, after)
  if c == 33 then
    let some d := src[i + 2]? | throw (endOfInput src)
    if d == 45 then
      let some e := src[i + 3]? | throw (endOfInput src)
      if e != 45 then throw (.malformed "invalid sequence <!- not part of <!--" (i + 4))
      let j ← commentEnd src (src.size + 1) (i + 4) 0 0
      return some (.other, j)
    if d == 91 then
      let want := Bytes.ofString "CDATA["
      let rec check : List UInt8 → Nat → Except Failure Unit
        | [], _ => .ok ()
        | w :: ws, k =>
          match src[k]? with
          | none => .error (endOfInput src)
          | some x => if x == w then check ws (k + 1) else .error (.malformed "invalid <![ sequence" (k + 1))
      check want (i + 3)
      let (data, j) ← readData src none true (i + 9)
      return some (.text data, j)
    let j ← declarationEnd src (2 * src.size + 2) (i + 2) 0 0
    return some (.other, j)
  let (some name, j) ← readQualified src (i + 1)
    | throw (.malformed "expected element name after <" (i + 1))
  let (attrs, empty, after) ← readAttrs src (src.size + 1) j []
  return some (.start name attrs empty, after)

/-- The value a processing instruction gives a parameter, as in `version="1.0"`. -/
def instructionParam (param : String) (content : String) : String :=
  let key := param ++ "="
  match content.splitOn key with
  | _ :: after :: _ =>
    match after.toList with
    | q :: rest =>
      if q == '\x27' || q == '"' then
        let value := rest.takeWhile (· != q)
        if value.length == rest.length then "" else String.ofList value
      else ""
    | [] => ""
  | _ => ""

/-- Labels of the single-byte Western encoding. -/
def westernLabels : List String :=
  ["ansi_x3.4-1968", "ascii", "cp1252", "cp819", "csisolatin1", "ibm819", "iso-8859-1",
    "iso-ir-100", "iso8859-1", "iso88591", "iso_8859-1", "iso_8859-1:1987", "l1", "latin1",
    "us-ascii", "windows-1252", "x-cp1252"]

/-- Labels of UTF-8. -/
def utf8Labels : List String := ["unicode-1-1-utf-8", "utf-8", "utf8"]

/-- Windows-1252 bytes as UTF-8. -/
def westernToUtf8 (bs : Bytes) : Bytes :=
  bs.flatMap fun b =>
    if b < 0x80 then [b]
    else if b < 0xA0 then Markup.encodePoint (Markup.windows1252.getD (b.toNat - 0x80) 0xFFFD)
    else Markup.encodePoint b.toNat

/-- ASCII letters lowercased. -/
def lowerText (s : String) : String := s.map fun c => if c.isUpper then c.toLower else c

/-- The input once an XML declaration is read at `after`: the rest re-encoded when the
declaration names a Western encoding. -/
def applyDeclaration (src : Array UInt8) (content : String) (after : Nat) :
    Except Failure (Array UInt8) := do
  let ver := instructionParam "version" content
  if ver != "" && ver != "1.0" then
    throw (.plain ("xml: unsupported version " ++ quote ver ++ "; only version 1.0 is supported"))
  let enc := instructionParam "encoding" content
  if enc == "" || lowerText enc == "utf-8" then return src
  let label := lowerText (enc.trimAscii.toString)
  if utf8Labels.contains label then return src
  if westernLabels.contains label then
    return (src.extract 0 after) ++ (westernToUtf8 (slice src after src.size)).toArray
  throw (.plain ("xml: opening charset " ++ quote enc ++ ": unsupported charset: " ++ quote enc))

/-- An entry of the decoder's stack: an open element as written, or a namespace binding an
element made, with the binding it hides. -/
inductive Frame where
  | element (name : Name)
  | binding (pre : String) (hidden : Option String)
  deriving Repr, Inhabited

/-- Where the decoder is. -/
structure Decoder where
  src : Array UInt8
  pos : Nat
  stack : List Frame := []
  /-- Namespace prefixes in scope and their URLs, innermost first. -/
  scope : List (String × String) := []
  /-- An end tag still to hand out: of an element that closed itself, or one to try again. -/
  pending : Option Name := none
  deriving Inhabited

/-- The URL a prefix is bound to. -/
def lookupPrefix (scope : List (String × String)) (pre : String) : Option String :=
  (scope.find? (·.1 == pre)).map (·.2)

/-- A scope with a prefix bound anew. -/
def bindPrefix (scope : List (String × String)) (pre url : String) : List (String × String) :=
  (pre, url) :: scope.filter (·.1 != pre)

/-- The URL of XML's own `xml` prefix. -/
def xmlUrl : String := "http://www.w3.org/XML/1998/namespace"

/-- A name translated in a scope: a declared prefix is replaced by its URL, an element without
a prefix takes the default namespace, and `xmlns` names stay. -/
def translate (scope : List (String × String)) (n : Name) (isElement : Bool) : Name :=
  if n.space == "xmlns" then n
  else if n.space == "" && !isElement then n
  else if n.space == "" && n.localName == "xmlns" then n
  else
    let space := if n.space == "xml" then xmlUrl else n.space
    match lookupPrefix scope space with
    | some v => { n with space := v }
    | none => { n with space }

/-- The bindings a start tag makes, in order. -/
def tagBindings (attrs : List Attr) : List (String × String) :=
  attrs.filterMap fun a =>
    if a.name.space == "xmlns" then some (a.name.localName, a.value)
    else if a.name.space == "" && a.name.localName == "xmlns" then some ("", a.value)
    else none

/-- Restores the bindings on top of the stack. -/
def unwind : List Frame → List (String × String) → List Frame × List (String × String)
  | .binding pre hidden :: rest, scope =>
    unwind rest (match hidden with
      | some v => bindPrefix scope pre v
      | none => scope.filter (·.1 != pre))
  | stack, scope => (stack, scope)

/-- Closes the innermost element with an end tag: the event and the decoder after it. -/
def closeElement (d : Decoder) (name : Name) (pos : Nat) : Except Failure (Event × Decoder) :=
  match d.stack with
  | .element open_ :: rest =>
    if open_.localName != name.localName then
      .ok (.stop open_, { d with stack := rest, pending := some name })
    else if open_.space != name.space then
      let ns := if name.space == "" then "\"\"" else name.space
      .error (.malformed ("element <" ++ open_.localName ++ "> in space " ++ open_.space ++
        " closed by </" ++ name.localName ++ "> in space " ++ ns) pos)
    else
      let translated := translate d.scope name true
      let (stack, scope) := unwind rest d.scope
      .ok (.stop translated, { d with stack, scope })
  | _ => .error (.malformed ("unexpected end element </" ++ name.localName ++ ">") pos)

/-- The next event and the decoder after it; none at the end of the document. -/
def Decoder.next (d : Decoder) : Except Failure (Option (Event × Decoder)) := do
  match d.pending with
  | some name =>
    let (ev, d) ← closeElement { d with pending := none } name d.pos
    return some (ev, d)
  | none =>
    match ← rawToken d.src d.pos with
    | none =>
      if d.stack.isEmpty then return none
      throw (endOfInput d.src)
    | some (raw, after) =>
      match raw with
      | .text data => return some (.text (Bytes.text data), { d with pos := after })
      | .other => return some (.other, { d with pos := after })
      | .declaration target body =>
        if target == "xml" then
          let src ← applyDeclaration d.src (Bytes.text body) after
          return some (.other, { d with src, pos := after })
        return some (.other, { d with pos := after })
      | .stop name =>
        let (ev, d) ← closeElement { d with pos := after } name after
        return some (ev, d)
      | .start name attrs empty =>
        let (stack, scope) := (tagBindings attrs).foldl (fun (stack, scope) (pre, url) =>
          (Frame.binding pre (lookupPrefix scope pre) :: stack, bindPrefix scope pre url))
          (d.stack, d.scope)
        let ev := Event.start (translate scope name true)
          (attrs.map fun a => { a with name := translate scope a.name false })
        let pending := if empty then some name else none
        let stack := Frame.element name :: stack
        return some (ev, { d with pos := after, stack, scope, pending })

/-- Reads events until the end or an error, each with where it lies. -/
def run (d : Decoder) (acc : Array Step) : Nat → Array Step × Array UInt8
  | 0 => (acc.push ⟨.finish, d.pos, d.pos⟩, d.src)
  | fuel + 1 =>
    match d.next with
    | .error f => (acc.push ⟨.fault (f.message d.src), d.pos, d.pos⟩, d.src)
    | .ok none => (acc.push ⟨.finish, d.pos, d.pos⟩, d.src)
    | .ok (some (ev, d')) => run d' (acc.push ⟨ev, d.pos, d'.pos⟩) fuel

/-- The events of a document, ending with its end or the error that stopped the reading, and
the input as finally read (re-encoded after a declaration of a Western encoding). Each step
reads at least one byte or closes an element, so twice the length bounds the steps. -/
def decode (doc : Bytes) : Array Step × Array UInt8 :=
  let src := doc.toArray
  run { src, pos := 0 } #[] (10 * src.size + 10)

end ReadLater.Xml
