import ReadLater.Json.Value
import ReadLater.Text.Quote

/-!
# Writing JSON

Documents are written compactly: no blank between tokens, members in their stored order, numbers
as their literal. Inside strings the quote, the backslash and every control character are
escaped, and so are `<`, `>`, `&`, U+2028 and U+2029, so that a written document can be embedded
in HTML or a script without change.
-/

namespace ReadLater.Json

/-- One character of a string literal as written. -/
def escapeChar (c : Char) : String :=
  if c == '"' then "\\\""
  else if c == '\\' then "\\\\"
  else if c == '\n' then "\\n"
  else if c == '\r' then "\\r"
  else if c == '\t' then "\\t"
  else if c.toNat < 0x20 || c == '<' || c == '>' || c == '&' || c.toNat == 0x2028 ||
      c.toNat == 0x2029 then
    "\\u" ++ Text.hexDigits 4 c.toNat
  else String.singleton c

/-- A string literal: the text in double quotes, escaped. -/
def quoteString (s : String) : String :=
  "\"" ++ String.join (s.toList.map escapeChar) ++ "\""

mutual

/-- The compact text of a value. -/
def render : Json → String
  | .null => "null"
  | .bool b => if b then "true" else "false"
  | .num n => n
  | .str s => quoteString s
  | .arr items => "[" ++ renderItems items ++ "]"
  | .obj members => "\x7b" ++ renderMembers members ++ "\x7d"

/-- Array elements separated by commas. -/
def renderItems : List Json → String
  | [] => ""
  | [j] => render j
  | j :: rest => render j ++ "," ++ renderItems rest

/-- Object members separated by commas. -/
def renderMembers : List (String × Json) → String
  | [] => ""
  | [(k, v)] => quoteString k ++ ":" ++ render v
  | (k, v) :: rest => quoteString k ++ ":" ++ render v ++ "," ++ renderMembers rest

end

end ReadLater.Json
