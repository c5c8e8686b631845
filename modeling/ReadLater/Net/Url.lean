import ReadLater.Text.Quote

/-!
# URLs

A URL is read into its parts (RFC 3986): scheme, a rootless part or an authority (user
information and host) and a path, a query and a fragment. Parts that may hold escapes are kept
decoded, as byte sequences, together with the text they were written as whenever that text
differs from the standard escaping of the decoded bytes, so that writing a URL back gives the
text it was read from wherever that text was well escaped.

* `Net.escape` and `Net.unescape`: percent escapes, by component (a space is `+` in a query
  component; a host may escape only bytes outside ASCII, and `%25` before a zone);
* `Net.Url.parse`: reading a URL, with the reason when it is malformed;
* `Net.Url.render`: writing it back;
* `Net.Url.resolve`: a reference resolved against a base (RFC 3986 §5.2, dot segments removed);
* `Net.Query`: query parameters, read from `a=1&b=2` and written with sorted names.
-/

namespace ReadLater.Net

open Text

/-- The bytes of an ASCII text. -/
def lit (s : String) : Bytes := Bytes.ofString s

/-- The byte of an ASCII character. -/
def byte (c : Char) : UInt8 := c.toNat.toUInt8

/-- The components of a URL, which differ in what they escape. -/
inductive Component where
  | path
  | pathSegment
  | host
  | zone
  | userinfo
  | queryComponent
  | fragment
  deriving DecidableEq, Repr, Inhabited

/-- Whether a byte is an ASCII letter or digit. -/
def isAlnum (c : UInt8) : Bool :=
  (byte 'a' ≤ c && c ≤ byte 'z') || (byte 'A' ≤ c && c ≤ byte 'Z') || (byte '0' ≤ c && c ≤ byte '9')

/-- Whether a byte is one of the characters of an ASCII text. -/
def oneOf (c : UInt8) (s : String) : Bool := (lit s).contains c

/-- Whether a byte is escaped when it is written in a component. Letters, digits and `-_.~` never
are; a host also keeps the sub-delimiters, `:`, brackets and `<>"`; of the reserved characters a
path escapes only `?`, a path segment also `/;,`, user information `@/?:`, a query component all,
and a fragment none; a fragment also keeps `!()*`. Every other byte is escaped. -/
def mustEscape (c : UInt8) (part : Component) : Bool :=
  if isAlnum c then false
  else if (part == .host || part == .zone) && oneOf c "!$&\x27()*+,;=:[]<>\"" then false
  else if oneOf c "-_.~" then false
  else if oneOf c "$&+,/:;=?@" then
    match part with
    | .path => c == byte '?'
    | .pathSegment => oneOf c "/;,?"
    | .userinfo => oneOf c "@/?:"
    | .queryComponent => true
    | .fragment => false
    | .host | .zone => true
  else if part == .fragment && oneOf c "!()*" then false
  else true

/-- The uppercase hexadecimal digit of a number below 16. -/
def upperHex (n : Nat) : UInt8 :=
  if n < 10 then (byte '0') + n.toUInt8 else (byte 'A') + (n - 10).toUInt8

/-- Whether a byte is a hexadecimal digit. -/
def isHex (c : UInt8) : Bool :=
  isAlnum c && (c ≤ byte '9' || (byte 'a' ≤ c && c ≤ byte 'f') || (byte 'A' ≤ c && c ≤ byte 'F'))

/-- The value of a hexadecimal digit. -/
def hexValue (c : UInt8) : Nat :=
  if c ≤ byte '9' then c.toNat - '0'.toNat
  else if byte 'a' ≤ c then c.toNat - 'a'.toNat + 10
  else c.toNat - 'A'.toNat + 10

/-- Bytes written for a component: each byte that must be escaped as `%XX`, and a space in a query
component as `+`. -/
def escape (part : Component) (s : Bytes) : Bytes :=
  s.flatMap fun c =>
    if c == byte ' ' && part == .queryComponent then [byte '+']
    else if mustEscape c part then [byte '%', upperHex (c.toNat / 16), upperHex (c.toNat % 16)]
    else [c]

/-- Why a URL cannot be read. -/
inductive UrlError where
  /-- A `%` without two hexadecimal digits, or an escape a host may not use. -/
  | badEscape (s : Bytes)
  /-- A character that a host may not hold. -/
  | badHostChar (s : Bytes)
  | controlChar
  | missingScheme
  | colonInFirstSegment
  | badUserinfo
  | missingBracket
  | badPort (s : Bytes)
  deriving Repr, Inhabited, DecidableEq

/-- The text of a reason. -/
def UrlError.message : UrlError → String
  | .badEscape s => "invalid URL escape " ++ quoteBytes s
  | .badHostChar s => "invalid character " ++ quoteBytes s ++ " in host name"
  | .controlChar => "net/url: invalid control character in URL"
  | .missingScheme => "missing protocol scheme"
  | .colonInFirstSegment => "first path segment in URL cannot contain colon"
  | .badUserinfo => "net/url: invalid userinfo"
  | .missingBracket => "missing \x27]\x27 in host"
  | .badPort s => "invalid port " ++ quoteBytes s ++ " after host"

/-- The three bytes `%25`, the escape that introduces a zone. -/
def percent25 : Bytes := lit "%25"

/-- Decodes the escapes of a component, checking every byte from the front: a `%` needs two
hexadecimal digits; a host escapes only bytes from 0x80 (and `%25`), and holds no other ASCII byte
that it would escape; a zone escapes only bytes a host may hold, a space, or `%`. In a query
component `+` is a space. -/
def unescape (part : Component) : Bytes → Except UrlError Bytes
  | [] => .ok []
  | c :: rest =>
    if c == byte '%' then
      match rest with
      | h1 :: h2 :: more =>
        if isHex h1 && isHex h2 then
          let v := (hexValue h1 * 16 + hexValue h2).toUInt8
          let three := [c, h1, h2]
          if part == .host && hexValue h1 < 8 && three != percent25 then .error (.badEscape three)
          else if part == .zone && three != percent25 && v != byte ' ' && mustEscape v .host then
            .error (.badEscape three)
          else (v :: ·) <$> unescape part more
        else .error (.badEscape [c, h1, h2])
      | _ => .error (.badEscape (c :: rest))
    else if (part == .host || part == .zone) && c < 0x80 && c != byte '+' && mustEscape c part then
      .error (.badHostChar [c])
    else
      let d := if c == byte '+' && part == .queryComponent then byte ' ' else c
      (d :: ·) <$> unescape part rest

/-- Whether escaped text decodes to the given bytes. -/
def unescapesTo (part : Component) (raw target : Bytes) : Bool :=
  match unescape part raw with
  | .ok d => d == target
  | .error _ => false

/-- Whether escaped text is well escaped for a component: it holds no byte that the component
escapes, apart from the sub-delimiters, `:@`, brackets and `%`. -/
def wellEscaped (part : Component) (s : Bytes) : Bool :=
  s.all fun c => oneOf c "!$&\x27()*+,;=:@[]%" || !mustEscape c part

namespace Bytes

/-- The part before the first `sep` and, when there is one, the part after it. -/
def cut (sep : UInt8) : Bytes → Bytes × Option Bytes
  | [] => ([], none)
  | c :: rest =>
    if c == sep then ([], some rest)
    else let (a, b) := cut sep rest; (c :: a, b)

/-- The part before the last `sep` and the part after it, when there is one. -/
def cutLast (sep : UInt8) (s : Bytes) : Option (Bytes × Bytes) :=
  match cut sep s.reverse with
  | (_, none) => none
  | (after, some before) => some (before.reverse, after.reverse)

/-- Whether one sequence starts another. -/
def startsWith (s p : Bytes) : Bool := s.take p.length == p

/-- Lexicographic order of byte sequences. -/
def before : Bytes → Bytes → Bool
  | [], [] => false
  | [], _ :: _ => true
  | _ :: _, [] => false
  | a :: as, b :: bs => a < b || (a == b && before as bs)

/-- ASCII letters in lower case. -/
def lowerAscii (s : Bytes) : Bytes :=
  s.map fun c => if byte 'A' ≤ c && c ≤ byte 'Z' then c + 32 else c

end Bytes

/-- User information of an authority. -/
structure Userinfo where
  username : Bytes
  password : Option Bytes := none
  deriving Repr, Inhabited, DecidableEq

/-- User information as written in a URL. -/
def Userinfo.render (u : Userinfo) : Bytes :=
  escape .userinfo u.username ++
    (match u.password with
     | some p => byte ':' :: escape .userinfo p
     | none => [])

/-- A URL read into its parts. Escaped parts are held decoded; `rawPath` and `rawFragment` hold
the text they were written as when it is not their standard escaping, else they are empty. -/
structure Url where
  scheme : Bytes := []
  rootless : Bytes := []
  user : Option Userinfo := none
  host : Bytes := []
  path : Bytes := []
  rawPath : Bytes := []
  /-- The URL had a scheme and a path starting with `/` but no authority. -/
  omitHost : Bool := false
  /-- The URL ended in a `?` with nothing after it. -/
  forceQuery : Bool := false
  rawQuery : Bytes := []
  fragment : Bytes := []
  rawFragment : Bytes := []
  deriving Repr, Inhabited, DecidableEq

/-- Why a text is not a URL: the text and the reason. -/
structure ParseError where
  input : Bytes
  reason : UrlError
  deriving Repr, Inhabited

/-- The text of the reason, naming the text. -/
def ParseError.message (e : ParseError) : String :=
  "parse " ++ quoteBytes e.input ++ ": " ++ e.reason.message

/-- Whether a port written after a host, with its colon, is empty or `:` and digits. -/
def validPort : Bytes → Bool
  | [] => true
  | c :: ds => c == byte ':' && ds.all fun d => byte '0' ≤ d && d ≤ byte '9'

/-- The scheme in front of a URL and the rest. A scheme is a letter, then letters, digits and
`+-.`, ended by `:`; text that does not start that way has none. -/
def splitScheme (s : Bytes) : Except UrlError (Bytes × Bytes) :=
  let rec go (acc : Bytes) : Bytes → Except UrlError (Bytes × Bytes)
    | [] => .ok ([], s)
    | c :: cs =>
      if (byte 'a' ≤ c && c ≤ byte 'z') || (byte 'A' ≤ c && c ≤ byte 'Z') then go (c :: acc) cs
      else if (byte '0' ≤ c && c ≤ byte '9') || oneOf c "+-." then
        if acc.isEmpty then .ok ([], s) else go (c :: acc) cs
      else if c == byte ':' then
        if acc.isEmpty then .error .missingScheme else .ok (acc.reverse, cs)
      else .ok ([], s)
  go [] s

/-- Reads a host, possibly with a port: a bracketed literal may carry a zone after `%25`. -/
def parseHost (host : Bytes) : Except UrlError Bytes :=
  if Bytes.startsWith host (lit "[") then
    match Bytes.cutLast (byte ']') host with
    | none => .error .missingBracket
    | some (inside, afterBracket) =>
      if !validPort afterBracket then .error (.badPort afterBracket)
      else
        let tail := byte ']' :: afterBracket
        match findZone inside with
        | some z => do
          let h1 ← unescape .host (inside.take z)
          let h2 ← unescape .zone (inside.drop z)
          let h3 ← unescape .host tail
          return h1 ++ h2 ++ h3
        | none => unescape .host host
  else
    match Bytes.cutLast (byte ':') host with
    | some (_, port) =>
      if !validPort (byte ':' :: port) then .error (.badPort (byte ':' :: port))
      else unescape .host host
    | none => unescape .host host
where
  /-- The position of the first `%25` in a text. -/
  findZone (s : Bytes) : Option Nat :=
    (List.range s.length).find? fun i => Bytes.startsWith (s.drop i) percent25

/-- Whether user information holds only the characters it may: letters, digits and
`-._:~!$&'()*+,;=%@`. -/
def validUserinfo (s : Bytes) : Bool :=
  s.all fun c => isAlnum c || oneOf c "-._:~!$&\x27()*+,;=%@"

/-- Reads an authority: user information before the last `@`, then the host. -/
def parseAuthority (auth : Bytes) : Except UrlError (Option Userinfo × Bytes) :=
  match Bytes.cutLast (byte '@') auth with
  | none => do return (none, ← parseHost auth)
  | some (info, hostPart) => do
    let host ← parseHost hostPart
    if !validUserinfo info then throw .badUserinfo
    match Bytes.cut (byte ':') info with
    | (name, none) => return (some ⟨← unescape .userinfo name, none⟩, host)
    | (name, some pass) =>
      let name ← unescape .userinfo name
      let pass ← unescape .userinfo pass
      return (some ⟨name, some pass⟩, host)

/-- Whether a byte is an ASCII control character. -/
def isControl (c : UInt8) : Bool := c < 0x20 || c == 0x7F

/-- A path read with its escapes, keeping its text when that is not the standard escaping. -/
def readPath (p : Bytes) : Except UrlError (Bytes × Bytes) := do
  let path ← unescape .path p
  return (path, if escape .path path == p then [] else p)

/-- Reads a URL without its fragment. -/
def parseBody (raw : Bytes) : Except UrlError Url := do
  if raw.any isControl then throw .controlChar
  if raw == lit "*" then return { path := lit "*" }
  let (scheme, rest) ← splitScheme raw
  let scheme := Bytes.lowerAscii scheme
  let (rest, forceQuery, rawQuery) :=
    if rest.getLast? == some (byte '?') && rest.count (byte '?') == 1 then (rest.dropLast, true, [])
    else match Bytes.cut (byte '?') rest with
      | (a, some q) => (a, false, q)
      | (a, none) => (a, false, [])
  let slash := Bytes.startsWith rest (lit "/")
  if !slash && !scheme.isEmpty then
    return { scheme, rootless := rest, forceQuery, rawQuery }
  if !slash && (Bytes.cut (byte '/') rest).1.contains (byte ':') then throw .colonInFirstSegment
  let (user, host, omitHost, rest) ←
    if (!scheme.isEmpty || !Bytes.startsWith rest (lit "///")) && Bytes.startsWith rest (lit "//") then do
      let (authority, rest) := match Bytes.cut (byte '/') (rest.drop 2) with
        | (a, some r) => (a, byte '/' :: r)
        | (a, none) => (a, [])
      let (user, host) ← parseAuthority authority
      pure (user, host, false, rest)
    else pure (none, [], !scheme.isEmpty && slash, rest)
  let (path, rawPath) ← readPath rest
  return { scheme, user, host, omitHost, path, rawPath, forceQuery, rawQuery }

namespace Url

/-- Reads a URL. The fragment after the first `#` is decoded last; a failure names the text
before the `#`, or the whole text when the fragment is at fault. -/
def parse (s : String) : Except ParseError Url :=
  let raw := Bytes.ofString s
  match Bytes.cut (byte '#') raw with
  | (body, frag) =>
    match parseBody body with
    | .error e => .error ⟨body, e⟩
    | .ok u =>
      match frag with
      | none | some [] => .ok u
      | some f =>
        match unescape .fragment f with
        | .error e => .error ⟨raw, e⟩
        | .ok d => .ok { u with fragment := d, rawFragment := if escape .fragment d == f then [] else f }

/-- The path as written: its recorded text when that is well escaped and decodes to the path,
else the standard escaping (`*` stays as it is). -/
def escapedPath (u : Url) : Bytes :=
  if !u.rawPath.isEmpty && wellEscaped .path u.rawPath && unescapesTo .path u.rawPath u.path then
    u.rawPath
  else if u.path == lit "*" then lit "*"
  else escape .path u.path

/-- The fragment as written, on the rule of `escapedPath`. -/
def escapedFragment (u : Url) : Bytes :=
  if !u.rawFragment.isEmpty && wellEscaped .fragment u.rawFragment &&
      unescapesTo .fragment u.rawFragment u.fragment then
    u.rawFragment
  else escape .fragment u.fragment

/-- The URL written back as bytes. -/
def renderBytes (u : Url) : Bytes :=
  let head := if u.scheme.isEmpty then [] else u.scheme ++ [byte ':']
  let body :=
    if !u.rootless.isEmpty then u.rootless
    else
      let auth :=
        if !u.scheme.isEmpty || !u.host.isEmpty || u.user.isSome then
          if u.omitHost && u.host.isEmpty && u.user.isNone then []
          else
            (if !u.host.isEmpty || !u.path.isEmpty || u.user.isSome then lit "//" else []) ++
            (match u.user with
             | some ui => ui.render ++ [byte '@']
             | none => []) ++
            escape .host u.host
        else []
      let path := u.escapedPath
      let sep := if !path.isEmpty && path.head? != some (byte '/') && !u.host.isEmpty then [byte '/'] else []
      let dot :=
        if (head ++ auth ++ sep).isEmpty && (Bytes.cut (byte '/') path).1.contains (byte ':') then lit "./"
        else []
      auth ++ sep ++ dot ++ path
  let query := if u.forceQuery || !u.rawQuery.isEmpty then byte '?' :: u.rawQuery else []
  let frag := if u.fragment.isEmpty then [] else byte '#' :: u.escapedFragment
  head ++ body ++ query ++ frag

/-- The URL written back. -/
def render (u : Url) : String := (renderBytes u).text

/-- The host without its port, and without the brackets of a literal address. -/
def hostname (u : Url) : Bytes :=
  let h := match Bytes.cutLast (byte ':') u.host with
    | some (name, port) => if validPort (byte ':' :: port) then name else u.host
    | none => u.host
  if Bytes.startsWith h (lit "[") && h.getLast? == some (byte ']') then (h.drop 1).dropLast else h

/-- The port after the host, or empty. -/
def port (u : Url) : Bytes :=
  match Bytes.cutLast (byte ':') u.host with
  | some (_, port) => if validPort (byte ':' :: port) then port else []
  | none => []

/-- Whether the URL names its scheme. -/
def isAbsolute (u : Url) : Bool := !u.scheme.isEmpty

end Url

/-- Removes dot segments from a path, after a relative reference is joined to its base:
`.` segments go, `..` removes the segment before it, and a path that ended in a dot segment ends
in `/`. The result starts with a single `/` unless it is empty. -/
def removeDots (full : Bytes) : Bytes :=
  if full.isEmpty then []
  else
    let segments := full.splitOn (byte '/')
    -- the path written so far, and whether no segment has been written since its start
    let step := fun (acc : Bytes × Bool) (seg : Bytes) =>
      let (out, first) := acc
      if seg == lit "." then (out, false)
      else if seg == lit ".." then
        match Bytes.cutLast (byte '/') (out.drop 1) with
        | none => ([byte '/'], true)
        | some (kept, _) => (byte '/' :: kept, first)
      else (out ++ (if first then [] else [byte '/']) ++ seg, false)
    let (out, _) := segments.foldl step ([byte '/'], true)
    let last := segments.getLast?
    let out := if last == some (lit ".") || last == some (lit "..") then out ++ [byte '/'] else out
    if (out.drop 1).head? == some (byte '/') then out.drop 1 else out

/-- The path of a reference resolved against the path of its base. -/
def resolvePath (base ref : Bytes) : Bytes :=
  let full :=
    if ref.isEmpty then base
    else if ref.head? != some (byte '/') then
      match Bytes.cutLast (byte '/') base with
      | some (dir, _) => dir ++ [byte '/'] ++ ref
      | none => ref
    else ref
  removeDots full

namespace Url

/-- Sets the path from escaped text that is known to be well formed. -/
def withPath (u : Url) (p : Bytes) : Url :=
  match readPath p with
  | .ok (path, rawPath) => { u with path, rawPath }
  | .error _ => u

/-- A reference resolved against this URL as its base (RFC 3986 §5.2.2). -/
def resolve (base ref : Url) : Url :=
  let url := if ref.scheme.isEmpty then { ref with scheme := base.scheme } else ref
  if !ref.scheme.isEmpty || !ref.host.isEmpty || ref.user.isSome then
    url.withPath (resolvePath ref.escapedPath [])
  else if !ref.rootless.isEmpty then
    { url with user := none, host := [], path := [] }
  else
    let url :=
      if ref.path.isEmpty && !ref.forceQuery && ref.rawQuery.isEmpty then
        let url := { url with rawQuery := base.rawQuery }
        if ref.fragment.isEmpty then { url with fragment := base.fragment, rawFragment := base.rawFragment }
        else url
      else url
    if ref.path.isEmpty && !base.rootless.isEmpty then
      { url with rootless := base.rootless, user := none, host := [], path := [] }
    else
      { url with host := base.host, user := base.user }.withPath
        (resolvePath base.escapedPath ref.escapedPath)

/-- Reads a text and resolves it against this URL. -/
def parseRef (base : Url) (s : String) : Except ParseError Url :=
  (base.resolve ·) <$> parse s

end Url

/-! ## Query parameters -/

/-- Query parameters: each name with its values, names in order of first appearance. -/
abbrev Query := List (Bytes × List Bytes)

namespace Query

/-- Adds a value to a name. -/
def add (q : Query) (k v : Bytes) : Query :=
  if q.any (·.1 == k) then q.map fun e => if e.1 == k then (k, e.2 ++ [v]) else e
  else q ++ [(k, [v])]

/-- Replaces the values of a name by one value. -/
def set (q : Query) (k v : Bytes) : Query :=
  if q.any (·.1 == k) then q.map fun e => if e.1 == k then (k, [v]) else e
  else q ++ [(k, [v])]

/-- The first value of a name, or empty. -/
def get (q : Query) (k : Bytes) : Bytes :=
  match q.find? (·.1 == k) with
  | some (_, v :: _) => v
  | _ => []

/-- Reads the parameters of a query, skipping a pair that holds `;` or a bad escape. -/
def parse (raw : Bytes) : Query :=
  (raw.splitOn (byte '&')).foldl (fun q pair =>
    if pair.isEmpty || pair.contains (byte ';') then q
    else
      let (k, v) := match Bytes.cut (byte '=') pair with
        | (k, some v) => (k, v)
        | (k, none) => (k, [])
      match unescape .queryComponent k, unescape .queryComponent v with
      | .ok k, .ok v => q.add k v
      | _, _ => q) []

/-- Writes parameters as `k=v` pairs joined by `&`, names sorted, values in their order. -/
def encode (q : Query) : Bytes :=
  let sorted := q.mergeSort fun a b => !Bytes.before b.1 a.1
  List.intercalate [byte '&'] (sorted.flatMap fun (k, vs) =>
    vs.map fun v => escape .queryComponent k ++ [byte '='] ++ escape .queryComponent v)

end Query

/-- The parameters of a URL's query. -/
def Url.query (u : Url) : Query := Query.parse u.rawQuery

/-- A network address split into host and port at its last colon: a host with a colon must be
bracketed, the brackets only around the host, and the port may be empty; none when the address
is not of that form. -/
def splitHostPort? (addr : Bytes) : Option (Bytes × Bytes) := do
  let (hostPart, port) ← Bytes.cutLast (byte ':') addr
  let host ←
    if Bytes.startsWith addr (lit "[") then
      -- the first closing bracket must stand just before the last colon
      let (inside, after) := Bytes.cut (byte ']') (addr.drop 1)
      match after with
      | none => none
      | some after =>
        if after.length != port.length + 1 then none
        else if inside.contains (byte '[') then none
        else some inside
    else if hostPart.contains (byte ':') || hostPart.contains (byte '[') ||
        hostPart.contains (byte ']') then none
    else some hostPart
  if port.contains (byte '[') || port.contains (byte ']') then none
  return (host, port)

end ReadLater.Net
