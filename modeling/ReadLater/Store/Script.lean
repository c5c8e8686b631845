import ReadLater.Store.Database

/-!
# Maintenance scripts

Operators can run SQL scripts on a store directly, to repair it or to take parts of it out of
service. A script is a sequence of statements separated by `;`; they run in order, each on its
own, and the first that fails stops the script, leaving the statements before it applied.

The statements a store understands here:

* `CREATE TRIGGER name BEFORE INSERT|UPDATE|DELETE ON table BEGIN SELECT RAISE(ABORT, 'text'); END`:
  every later statement of that kind on that table fails with the text;
* `DROP TABLE table` and `DELETE FROM table`;
* `CREATE TABLE _migrations(version INTEGER)`: a ledger of migrations without names or checksums.

Any other statement is a syntax error near its first word.
-/

namespace ReadLater.Store

/-- A token of a script. -/
inductive Token where
  /-- A keyword or a name. -/
  | word (s : String)
  /-- A string literal, unquoted. -/
  | literal (s : String)
  /-- Any other character. -/
  | mark (c : Char)
  deriving DecidableEq, Repr, Inhabited

namespace Token

/-- The token as it is written, for messages. -/
def written : Token → String
  | .word s => s
  | .literal s => "\x27" ++ s ++ "\x27"
  | .mark c => String.singleton c

/-- Whether the token is a keyword, in any case. -/
def isKeyword (t : Token) (k : String) : Bool :=
  match t with
  | .word s => s.toUpper == k
  | _ => false

end Token

/-- Whether a character may continue a name. -/
def isNameChar (c : Char) : Bool := c.isAlphanum || c == '_' || c == '$'

/-- The rest of a string literal after its opening quote, with `''` standing for a quote. -/
def literalBody : List Char → List Char → Option (String × List Char)
  | [], _ => none
  | '\x27' :: '\x27' :: rest, acc => literalBody rest ('\x27' :: acc)
  | '\x27' :: rest, acc => some (String.ofList acc.reverse, rest)
  | c :: rest, acc => literalBody rest (c :: acc)

/-- Splits a script into tokens; blanks separate them. An unterminated literal ends the script. -/
def tokenize (fuel : Nat) (cs : List Char) : List Token :=
  match fuel with
  | 0 => []
  | fuel + 1 =>
    match cs with
    | [] => []
    | c :: rest =>
      if c.isWhitespace then tokenize fuel rest
      else if c == '\x27' then
        match literalBody rest [] with
        | some (s, rest) => .literal s :: tokenize fuel rest
        | none => [.literal (String.ofList rest)]
      else if isNameChar c then
        .word (String.ofList (cs.takeWhile isNameChar)) :: tokenize fuel (cs.dropWhile isNameChar)
      else .mark c :: tokenize fuel rest

/-- The table a name stands for, in any case. -/
def tableNamed (name : String) : Except Fault Table :=
  match Table.ofName? name.toLower with
  | some t => .ok t
  | none => .error (.noSuchTable name)

/-- Runs one statement from the front of the tokens; the store after it and the tokens after it. -/
def runStatement (db : Database) : List Token → Except Fault (Database × List Token)
  | .word c :: .word t :: .word name :: .word b :: .word ev :: .word on :: .word tbl :: .word bg ::
      .word sel :: .word raise :: .mark '(' :: .word abort :: .mark ',' :: .literal msg ::
      .mark ')' :: .mark ';' :: .word e :: rest =>
    if c.toUpper == "CREATE" && t.toUpper == "TRIGGER" && b.toUpper == "BEFORE" &&
        on.toUpper == "ON" && bg.toUpper == "BEGIN" && sel.toUpper == "SELECT" &&
        raise.toUpper == "RAISE" && abort.toUpper == "ABORT" && e.toUpper == "END" then
      match Event.ofKeyword? ev, Table.ofName? tbl.toLower with
      | some event, some table => do
        let db ← db.createTrigger ⟨name, event, table, msg⟩
        return (db, rest)
      | some _, none => .error (.noSuchTable ("main." ++ tbl))
      | none, _ => .error (.syntaxNear ev)
    else .error (.syntaxNear c)
  | .word d :: .word t :: .word name :: rest =>
    if d.toUpper == "DROP" && t.toUpper == "TABLE" then do
      let table ← tableNamed name
      return (← db.dropTable table, rest)
    else if d.toUpper == "DELETE" && t.toUpper == "FROM" then do
      let table ← tableNamed name
      return (← db.deleteAll table, rest)
    else if d.toUpper == "CREATE" && t.toUpper == "TABLE" && name.toLower == Table.migrations.name then
      match rest with
      | .mark '(' :: .word _ :: .word _ :: .mark ')' :: rest => do return (← db.createBareLedger, rest)
      | tok :: _ => .error (.syntaxNear tok.written)
      | [] => .error (.syntaxNear name)
    else .error (.syntaxNear d)
  | tok :: _ => .error (.syntaxNear tok.written)
  | [] => .ok (db, [])

/-- Runs statements until the tokens end or one fails; the store keeps what ran before. -/
def runStatements (fuel : Nat) (db : Database) (ts : List Token) : Database × Option Fault :=
  match fuel with
  | 0 => (db, none)
  | fuel + 1 =>
    match ts with
    | [] => (db, none)
    | .mark ';' :: rest => runStatements fuel db rest
    | _ =>
      match runStatement db ts with
      | .ok (db, rest) => runStatements fuel db rest
      | .error f => (db, some f)

/-- Runs a script on a store: the store after it, and the fault that stopped it. -/
def Database.runScript (db : Database) (script : String) : Database × Option Fault :=
  let ts := tokenize (script.length + 1) script.toList
  runStatements (ts.length + 1) db ts

end ReadLater.Store
