import ReadLater.Net.Url
import ReadLater.Problem
import ReadLater.Store.Key
import ReadLater.Text.FilePath
import ReadLater.Text.Space

/-!
# Stores on a PostgreSQL server

On a shared PostgreSQL server each user's store is a schema of its own, `u_<key>`, and every
connection pins its `search_path` to that schema. A connection is described either by a URL
(`postgres://…` or `postgresql://…`) or by `key=value` settings; the schema is added as a query
parameter of the URL, or appended as one more setting.

The first statement on a store creates its schema, and that is where the connection settings
are read and the server is dialled. No server can be reached here: the settings are checked in
the order a client library checks them, and a socket path that exists nowhere fails to connect.

* `Postgres.withSearchPath`: the connection description with the schema added;
* `Postgres.settings`: the settings a description stands for;
* `Postgres.openFailure`: why opening a user's store fails.
-/

namespace ReadLater.Store.Postgres

open Text Net

/-- The schema of a user's store. -/
def schemaName (user : String) : String := "u_" ++ storeKey user

/-- Whether a description is a URL. -/
def isUrl (dsn : String) : Bool := dsn.startsWith "postgres://" || dsn.startsWith "postgresql://"

/-- The description with the store's schema as its search path. -/
def withSearchPath (dsn schema : String) : Except String String :=
  if isUrl dsn then
    match Url.parse dsn with
    | .error e => .error ("invalid DATABASE_URL: " ++ e.message)
    | .ok u =>
      let q := u.query.set (lit "search_path") (lit schema)
      .ok { u with rawQuery := q.encode }.render
  else .ok (dsn ++ " search_path=" ++ schema)

/-- Connection settings: each name with its value, later settings winning. -/
abbrev Settings := List (String × String)

/-- The value of a setting. -/
def Settings.get? (o : Settings) (k : String) : Option String := (o.reverse.find? (·.1 == k)).map (·.2)

/-- A setting value quoted for a settings text: in single quotes, with `\` before `'` and `\`. -/
def quoteValue (v : String) : String :=
  "\x27" ++ String.join (v.toList.map fun c =>
    if c == '\x27' then "\\\x27" else if c == '\\' then "\\\\" else String.singleton c) ++ "\x27"

/-- A URL description as settings text: user, password, host and port, database and every query
parameter, each that is not empty, sorted. -/
def urlSettings (dsn : String) : Except String String :=
  match Url.parse dsn with
  | .error e => .error e.message
  | .ok u =>
    let scheme := u.scheme.text
    if scheme != "postgres" && scheme != "postgresql" then
      .error ("invalid connection protocol: " ++ scheme)
    else
      let user : List (String × String) := match u.user with
        | some ui => [("user", ui.username.text), ("password", (ui.password.getD []).text)]
        | none => []
      let hostPort : List (String × String) := match splitHostPort? u.host with
        | some (h, p) => [("host", h.text), ("port", p.text)]
        | none => [("host", u.host.text)]
      let db : List (String × String) := if u.path.isEmpty then [] else [("dbname", Bytes.text (u.path.drop 1))]
      let params := u.query.map fun (k, _) => (k.text, (u.query.get k).text)
      let kvs := (user ++ hostPort ++ db ++ params).filter (!·.2.isEmpty)
        |>.map fun (k, v) => k ++ "=" ++ quoteValue v
      .ok (" ".intercalate (kvs.mergeSort fun a b => decide (a ≤ b)))

/-- Reads `key=value` settings separated by blanks; a value may be quoted in single quotes, and
`\` escapes the next character. A key that runs to the end of the text is ignored. -/
def readSettings (fuel : Nat) (o : Settings) (cs : List Char) : Except String Settings :=
  match fuel with
  | 0 => .ok o
  | fuel + 1 =>
    match cs.dropWhile isSpace with
    | [] => .ok o
    | cs =>
      let key := cs.takeWhile fun c => !isSpace c && c != '='
      let rest := cs.dropWhile fun c => !isSpace c && c != '='
      if rest.isEmpty then .ok o
      else
        match rest.dropWhile isSpace with
        | '=' :: afterEq =>
          let keyText := String.ofList key
          match afterEq.dropWhile isSpace with
          | [] => .ok (o ++ [(keyText, "")])
          | '\x27' :: quoted =>
            match quotedValue quoted [] with
            | .ok (v, rest) => readSettings fuel (o ++ [(keyText, v)]) rest
            | .error e => .error e
          | vs =>
            match plainValue vs [] with
            | .ok (v, rest) => readSettings fuel (o ++ [(keyText, v)]) rest
            | .error e => .error e
        | _ => .error ("missing \"=\" after " ++ quote (String.ofList key) ++
            " in connection info string\"")
where
  /-- A value up to the next blank. -/
  plainValue : List Char → List Char → Except String (String × List Char)
    | [], acc => .ok (String.ofList acc.reverse, [])
    | '\\' :: [], _ => .error "missing character after backslash"
    | '\\' :: c :: rest, acc => plainValue rest (c :: acc)
    | c :: rest, acc =>
      if isSpace c then .ok (String.ofList acc.reverse, c :: rest) else plainValue rest (c :: acc)
  /-- A value up to the closing quote. -/
  quotedValue : List Char → List Char → Except String (String × List Char)
    | [], _ => .error "unterminated quoted string literal in connection string"
    | '\x27' :: rest, acc => .ok (String.ofList acc.reverse, rest)
    | '\\' :: c :: rest, acc => quotedValue rest (c :: acc)
    | '\\' :: [], _ => .error "unterminated quoted string literal in connection string"
    | c :: rest, acc => quotedValue rest (c :: acc)

/-- Whether an encoding name means UTF-8, ignoring case and everything but letters and digits. -/
def isUtf8Name (name : String) : Bool :=
  let s := String.ofList (name.toList.filterMap fun c =>
    if 'A' ≤ c && c ≤ 'Z' then some (Char.ofNat (c.toNat + 32))
    else if ('a' ≤ c && c ≤ 'z') || ('0' ≤ c && c ≤ '9') then some c
    else none)
  s == "utf8" || s == "unicode"

/-- The settings a description stands for, over the defaults `host=localhost port=5432`, with
the settings that a client requires checked. -/
def settings (dsn : String) : Except String Settings := do
  let text ← if isUrl dsn then urlSettings dsn else pure dsn
  let o ← readSettings (text.length + 1) [("host", "localhost"), ("port", "5432")] text.toList
  if let some enc := o.get? "client_encoding" then
    if !isUtf8Name enc then throw "client_encoding must be absent or \x27UTF8\x27"
  if let some style := o.get? "datestyle" then
    if style != "ISO, MDY" then
      throw ("setting datestyle must be absent or ISO, MDY; got " ++ style)
  for key in ["disable_prepared_binary_result", "binary_parameters"] do
    if let some v := o.get? key then
      if v != "yes" && v != "no" then throw ("unrecognized value " ++ quote v ++ " for " ++ key)
  return o

/-- Whether a text is a decimal integer with an optional sign. -/
def isInteger (s : String) : Bool :=
  let ds := match s.toList with
    | '+' :: ds | '-' :: ds => ds
    | ds => ds
  !ds.isEmpty && ds.all Char.isDigit

/-- Why dialling the server of some settings fails: a socket directory (a host starting with `/`)
has no socket, and no other host answers. -/
def dialFailure (o : Settings) : String :=
  let host := (o.get? "host").getD "localhost"
  let port := (o.get? "port").getD "5432"
  match o.get? "connect_timeout" with
  | some t =>
    if t != "0" && !isInteger t then
      "invalid value for parameter connect_timeout: strconv.ParseInt: parsing " ++ quote t ++
        ": invalid syntax"
    else dialed host port
  | none => dialed host port
where
  dialed (host port : String) : String :=
    if host.startsWith "/" then
      "dial unix " ++ joinPath host (".s.PGSQL." ++ port) ++ ": connect: no such file or directory"
    else if host == "localhost" then "dial tcp 127.0.0.1:" ++ port ++ ": connect: connection refused"
    else "dial tcp: lookup " ++ host ++ ": no such host"

/-- Why opening a user's store on the server of a description fails. -/
def openFailure (dsn user : String) : Failure :=
  if user.isEmpty then .other "empty user id"
  else
    let schema := schemaName user
    match withSearchPath dsn schema with
    | .error e => .other e
    | .ok full =>
      let cause := match settings full with
        | .error e => e
        | .ok o => dialFailure o
      .wrapped ("failed to create schema " ++ schema) (.other cause)

end ReadLater.Store.Postgres
