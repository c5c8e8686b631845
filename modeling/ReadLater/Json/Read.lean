import ReadLater.Json.Value
import ReadLater.Text.Quote

/-!
# Reading JSON text

A recursive-descent reader over the characters of a text. It accepts exactly RFC 8259 JSON and,
when it refuses, says why in the words of the usual scanner: which character was found, and what
was being looked for ("invalid character 'x' after array element").

* `Json.readValue` reads one value and returns what follows it;
* `Json.parse?` reads a whole document (blanks around it allowed);
* `Json.decodeFirst?` reads the first value of a stream, as a streaming decoder does: a request
  body may carry more after its first value, and an empty body is the end of the stream (`EOF`);
* `Json.valid` says whether a text is one JSON document.

The reader is total: it carries fuel bounded by the length of the text, and every step that
recurses has taken at least one character.
-/

namespace ReadLater

/-- Why a text is not JSON. -/
inductive JsonError where
  /-- A character that cannot stand where it stands; `context` says what was expected. -/
  | invalid (c : Char) (context : String)
  /-- The text ended inside a value. -/
  | truncated
  /-- The text holds no value at all. -/
  | empty
  deriving Repr, BEq, Inhabited

namespace JsonError

/-- The character as the scanner quotes it: in single quotes, escaped like a Go string. -/
def quoteChar (c : Char) : String :=
  if c == '\'' then "'\\''"
  else if c == '"' then "'\"'"
  else
    let q := Text.quote (String.singleton c)
    "'" ++ ((q.drop 1).dropEnd 1).toString ++ "'"

/-- The message of a whole-document read (`unexpected end of JSON input` at the end). -/
def message : JsonError → String
  | .invalid c ctx => s!"invalid character {quoteChar c} {ctx}"
  | .truncated => "unexpected end of JSON input"
  | .empty => "unexpected end of JSON input"

/-- The message of a streaming read: the stream ends with `EOF`, or `unexpected EOF` inside a value. -/
def streamMessage : JsonError → String
  | .invalid c ctx => s!"invalid character {quoteChar c} {ctx}"
  | .truncated => "unexpected EOF"
  | .empty => "EOF"

end JsonError

namespace Json

/-- The four blanks of JSON. -/
def isBlank (c : Char) : Bool := c == ' ' || c == '\t' || c == '\n' || c == '\r'

/-- Drops leading blanks. -/
def skipBlank : List Char → List Char
  | c :: cs => if isBlank c then skipBlank cs else c :: cs
  | [] => []

theorem skipBlank_length_le (cs : List Char) : (skipBlank cs).length ≤ cs.length := by
  induction cs with
  | nil => simp [skipBlank]
  | cons c cs ih =>
    unfold skipBlank
    split
    · exact Nat.le_succ_of_le ih
    · exact Nat.le_refl _

/-- The first byte of a character's UTF-8 form, read as a character: the scanner works on
bytes, so a stray multi-byte character is reported by its first byte. -/
def firstByteChar (c : Char) : Char :=
  if c.toNat < 0x80 then c
  else
    let b := (String.singleton c).toUTF8
    Char.ofNat (b.get! 0).toNat

private def hexVal (c : Char) : Option Nat :=
  if '0' ≤ c && c ≤ '9' then some (c.toNat - '0'.toNat)
  else if 'a' ≤ c && c ≤ 'f' then some (c.toNat - 'a'.toNat + 10)
  else if 'A' ≤ c && c ≤ 'F' then some (c.toNat - 'A'.toNat + 10)
  else none

/-- Four hexadecimal digits after `\u`. -/
def readHex4 : List Char → Except JsonError (Nat × List Char)
  | a :: b :: c :: d :: rest =>
    match hexVal a, hexVal b, hexVal c, hexVal d with
    | some x, some y, some z, some w => .ok (((x * 16 + y) * 16 + z) * 16 + w, rest)
    | none, _, _, _ => .error (.invalid (firstByteChar a) "in \\u hexadecimal character escape")
    | _, none, _, _ => .error (.invalid (firstByteChar b) "in \\u hexadecimal character escape")
    | _, _, none, _ => .error (.invalid (firstByteChar c) "in \\u hexadecimal character escape")
    | _, _, _, none => .error (.invalid (firstByteChar d) "in \\u hexadecimal character escape")
  | cs =>
    match cs.find? (fun c => (hexVal c).isNone) with
    | some c => .error (.invalid (firstByteChar c) "in \\u hexadecimal character escape")
    | none => .error .truncated

/-- A code point from a `\u` escape: a surrogate pair makes one character, a lone surrogate
becomes the replacement character. -/
def escapedChar (hi : Nat) (rest : List Char) : Char × List Char :=
  if 0xD800 ≤ hi && hi < 0xDC00 then
    match rest with
    | '\\' :: 'u' :: more =>
      match readHex4 more with
      | .ok (lo, after) =>
        if 0xDC00 ≤ lo && lo < 0xE000 then
          (Char.ofNat (0x10000 + (hi - 0xD800) * 0x400 + (lo - 0xDC00)), after)
        else (Char.ofNat 0xFFFD, rest)
      | .error _ => (Char.ofNat 0xFFFD, rest)
    | _ => (Char.ofNat 0xFFFD, rest)
  else if 0xDC00 ≤ hi && hi < 0xE000 then (Char.ofNat 0xFFFD, rest)
  else (Char.ofNat hi, rest)

/-- The body of a string literal after its opening quote, up to and without the closing quote. -/
def readStringBody (fuel : Nat) (acc : List Char) : List Char → Except JsonError (String × List Char)
  | [] => .error .truncated
  | c :: cs =>
    match fuel with
    | 0 => .error .truncated
    | fuel + 1 =>
      if c == '"' then .ok (String.ofList acc.reverse, cs)
      else if c == '\\' then
        match cs with
        | [] => .error .truncated
        | e :: more =>
          match e with
          | '"' => readStringBody fuel ('"' :: acc) more
          | '\\' => readStringBody fuel ('\\' :: acc) more
          | '/' => readStringBody fuel ('/' :: acc) more
          | 'b' => readStringBody fuel ('\x08' :: acc) more
          | 'f' => readStringBody fuel ('\x0c' :: acc) more
          | 'n' => readStringBody fuel ('\n' :: acc) more
          | 'r' => readStringBody fuel ('\r' :: acc) more
          | 't' => readStringBody fuel ('\t' :: acc) more
          | 'u' =>
            match readHex4 more with
            | .ok (n, after) =>
              let (ch, after') := escapedChar n after
              readStringBody fuel (ch :: acc) after'
            | .error e => .error e
          | other => .error (.invalid (firstByteChar other) "in string escape code")
      else if c.toNat < 0x20 then .error (.invalid c "in string literal")
      else readStringBody fuel (c :: acc) cs

/-- The digits at the front. -/
def takeDigits : List Char → List Char × List Char
  | c :: cs =>
    if c.isDigit then
      let (ds, rest) := takeDigits cs
      (c :: ds, rest)
    else ([], c :: cs)
  | [] => ([], [])

/-- A number literal; returns its text and what follows. -/
def readNumber (cs : List Char) : Except JsonError (String × List Char) := do
  let (sign, afterSign) := match cs with
    | '-' :: r => (['-'], r)
    | r => ([], r)
  -- the integer part: `0`, or a non-zero digit and more digits
  let (intPart, afterInt) ← match afterSign with
    | '0' :: r => pure (['0'], r)
    | c :: r =>
      if c.isDigit then
        let (ds, rest) := takeDigits r
        pure (c :: ds, rest)
      else throw (JsonError.invalid (firstByteChar c) "in numeric literal")
    | [] => throw JsonError.truncated
  let (fracPart, afterFrac) ← match afterInt with
    | '.' :: r =>
      match r with
      | c :: _ =>
        if c.isDigit then
          let (ds, rest) := takeDigits r
          pure ('.' :: ds, rest)
        else throw (JsonError.invalid (firstByteChar c) "after decimal point in numeric literal")
      | [] => throw JsonError.truncated
    | r => pure ([], r)
  let (expPart, afterExp) ← match afterFrac with
    | e :: r =>
      if e == 'e' || e == 'E' then
        let (esign, r') := match r with
          | '+' :: r'' => (['+'], r'')
          | '-' :: r'' => (['-'], r'')
          | r'' => ([], r'')
        match r' with
        | c :: _ =>
          if c.isDigit then
            let (ds, rest) := takeDigits r'
            pure (e :: esign ++ ds, rest)
          else throw (JsonError.invalid (firstByteChar c) "in exponent of numeric literal")
        | [] => throw JsonError.truncated
      else pure ([], e :: r)
    | [] => pure ([], [])
  pure (String.ofList (sign ++ intPart ++ fracPart ++ expPart), afterExp)

/-- A literal word (`true`, `false`, `null`) after its first letter. -/
def readWord (word : String) (expected : List Char) (cs : List Char) :
    Except JsonError (List Char) :=
  match expected, cs with
  | [], rest => .ok rest
  | _ :: _, [] => .error .truncated
  | e :: es, c :: rest =>
    if c == e then readWord word es rest
    else .error (.invalid (firstByteChar c) s!"in literal {word} (expecting {JsonError.quoteChar e})")

mutual

/-- One value, after any blanks; returns the value and what follows it. -/
def readValue (fuel : Nat) (cs : List Char) : Except JsonError (Json × List Char) :=
  match fuel with
  | 0 => .error .truncated
  | fuel + 1 =>
    match skipBlank cs with
    | [] => .error .truncated
    | c :: rest =>
      if c == '{' then readObject fuel [] rest
      else if c == '[' then readArray fuel [] rest
      else if c == '"' then
        match readStringBody (rest.length + 1) [] rest with
        | .ok (s, after) => .ok (.str s, after)
        | .error e => .error e
      else if c == '-' || c.isDigit then
        match readNumber (c :: rest) with
        | .ok (lit, after) => .ok (.num lit, after)
        | .error e => .error e
      else if c == 't' then (readWord "true" ['r', 'u', 'e'] rest).map (fun r => (.bool true, r))
      else if c == 'f' then (readWord "false" ['a', 'l', 's', 'e'] rest).map (fun r => (.bool false, r))
      else if c == 'n' then (readWord "null" ['u', 'l', 'l'] rest).map (fun r => (.null, r))
      else .error (.invalid (firstByteChar c) "looking for beginning of value")

/-- Members of an object after `{` (or after a `,`), in reverse order in `acc`. -/
def readObject (fuel : Nat) (acc : List (String × Json)) (cs : List Char) :
    Except JsonError (Json × List Char) :=
  match fuel with
  | 0 => .error .truncated
  | fuel + 1 =>
    match skipBlank cs with
    | [] => .error .truncated
    | c :: rest =>
      if c == '}' && acc.isEmpty then .ok (.obj [], rest)
      else if c == '"' then
        match readStringBody (rest.length + 1) [] rest with
        | .error e => .error e
        | .ok (key, afterKey) =>
          match skipBlank afterKey with
          | [] => .error .truncated
          | ':' :: afterColon =>
            match readValue fuel afterColon with
            | .error e => .error e
            | .ok (v, afterValue) =>
              match skipBlank afterValue with
              | [] => .error .truncated
              | d :: more =>
                if d == ',' then readObject fuel ((key, v) :: acc) more
                else if d == '}' then .ok (.obj ((key, v) :: acc).reverse, more)
                else .error (.invalid (firstByteChar d) "after object key:value pair")
          | d :: _ => .error (.invalid (firstByteChar d) "after object key")
      else .error (.invalid (firstByteChar c) "looking for beginning of object key string")

/-- Elements of an array after `[` (or after a `,`), in reverse order in `acc`. -/
def readArray (fuel : Nat) (acc : List Json) (cs : List Char) :
    Except JsonError (Json × List Char) :=
  match fuel with
  | 0 => .error .truncated
  | fuel + 1 =>
    match skipBlank cs with
    | [] => .error .truncated
    | c :: rest =>
      if c == ']' && acc.isEmpty then .ok (.arr [], rest)
      else
        match readValue fuel (c :: rest) with
        | .error e => .error e
        | .ok (v, afterValue) =>
          match skipBlank afterValue with
          | [] => .error .truncated
          | d :: more =>
            if d == ',' then readArray fuel (v :: acc) more
            else if d == ']' then .ok (.arr (v :: acc).reverse, more)
            else .error (.invalid (firstByteChar d) "after array element")

end

/-- The fuel that suffices for a text: every step takes a character. -/
def fuelFor (cs : List Char) : Nat := 2 * cs.length + 2

/-- A whole document: one value with blanks around it and nothing else. -/
def parse? (text : String) : Except JsonError Json :=
  let cs := text.toList
  if (skipBlank cs).isEmpty then .error .empty
  else
    match readValue (fuelFor cs) cs with
    | .error e => .error e
    | .ok (v, rest) =>
      match skipBlank rest with
      | [] => .ok v
      | c :: _ => .error (.invalid (firstByteChar c) "after top-level value")

/-- Whether a text is one JSON document. -/
def valid (text : String) : Bool :=
  match parse? text with
  | .ok _ => true
  | .error _ => false

/-- The first value of a stream; anything after it is left unread. A number at the very end of
the stream is complete, since nothing can follow it. -/
def decodeFirst? (text : String) : Except JsonError Json :=
  let cs := text.toList
  if (skipBlank cs).isEmpty then .error .empty
  else (readValue (fuelFor cs) cs).map (·.1)

end Json

end ReadLater
