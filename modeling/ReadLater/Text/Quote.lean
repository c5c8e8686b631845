import ReadLater.Text.Printable
import ReadLater.Text.Utf8

/-!
# Quoted strings

Error messages quote user text the way a Go-style `%q` does: in double quotes, with a backslash
before `"` and `\`, printable characters kept, the usual single-letter escapes for the common
control characters, `\x..` for the other ASCII controls, and `\u....` / `\U........` for every
other character that is not printable.

* `Text.hexDigits`: fixed-width lowercase hexadecimal;
* `Text.escapeChar`: one character inside quotes;
* `Text.quote`: a whole string;
* `Text.quoteBytes`: a byte sequence, with `\x..` for each byte that starts no well-formed character.
-/

namespace ReadLater.Text

/-- The lowercase hexadecimal digit of a number below 16. -/
def hexDigit (n : Nat) : Char :=
  if n < 10 then Char.ofNat ('0'.toNat + n) else Char.ofNat ('a'.toNat + n - 10)

/-- `n` in lowercase hexadecimal, padded with zeros to `width` digits (the low digits are kept). -/
def hexDigits (width n : Nat) : String :=
  String.ofList ((List.range width).reverse.map (fun i => hexDigit (n / Nat.pow 16 i % 16)))

/-- One character as it appears inside double quotes. -/
def escapeChar (c : Char) : String :=
  if c == '"' then "\\\""
  else if c == '\\' then "\\\\"
  else if isPrintable c then String.singleton c
  else if c == '\x07' then "\\a"
  else if c == '\x08' then "\\b"
  else if c == '\x0c' then "\\f"
  else if c == '\n' then "\\n"
  else if c == '\r' then "\\r"
  else if c == '\t' then "\\t"
  else if c == '\x0b' then "\\v"
  else if c.toNat < 0x20 || c.toNat == 0x7F then "\\x" ++ hexDigits 2 c.toNat
  else if c.toNat < 0x10000 then "\\u" ++ hexDigits 4 c.toNat
  else "\\U" ++ hexDigits 8 c.toNat

/-- A string in double quotes with its characters escaped. -/
def quote (s : String) : String :=
  "\"" ++ String.join (s.toList.map escapeChar) ++ "\""

/-- A byte sequence in double quotes: its characters escaped as in `quote`, and each byte that
starts no well-formed character written as `\x..`. -/
def quoteBytes (bs : Bytes) : String :=
  "\"" ++ String.join ((Bytes.pieces bs).map fun
    | .char c => escapeChar c
    | .stray b => "\\x" ++ hexDigits 2 b.toNat) ++ "\""

end ReadLater.Text
