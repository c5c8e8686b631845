import ReadLater.Text.Utf8

/-!
# Base64 with the URL alphabet

Web tokens write their three parts in base64 with the URL and file name alphabet (`-` and `_`
for the last two digits) and no padding.

* `Base64.encodeUrl`: four digits for every three bytes, and two or three digits for a last
  group of one or two bytes;
* `Base64.decodeUrl`: the inverse on well-formed text. Line breaks are skipped; a `=`, any other
  character outside the alphabet, or a last group of a single digit make the text unreadable.
  Bits of the last digit beyond the last whole byte are ignored.
-/

namespace ReadLater.Text.Base64

/-- The digit of a six-bit value. -/
def digit (n : Nat) : UInt8 :=
  if n < 26 then (65 + n).toUInt8
  else if n < 52 then (97 + n - 26).toUInt8
  else if n < 62 then (48 + n - 52).toUInt8
  else if n == 62 then 45
  else 95

/-- The six-bit value of a digit, none for a byte outside the alphabet. -/
def value? (b : UInt8) : Option Nat :=
  let n := b.toNat
  if 65 ≤ n && n ≤ 90 then some (n - 65)
  else if 97 ≤ n && n ≤ 122 then some (n - 97 + 26)
  else if 48 ≤ n && n ≤ 57 then some (n - 48 + 52)
  else if n == 45 then some 62
  else if n == 95 then some 63
  else none

/-- The digits of a byte string. -/
def encodeUrl : Bytes → Bytes
  | a :: b :: c :: rest =>
    let n := a.toNat * 65536 + b.toNat * 256 + c.toNat
    [digit (n / 262144), digit (n / 4096 % 64), digit (n / 64 % 64), digit (n % 64)] ++
      encodeUrl rest
  | [a, b] =>
    let n := a.toNat * 65536 + b.toNat * 256
    [digit (n / 262144), digit (n / 4096 % 64), digit (n / 64 % 64)]
  | [a] =>
    let n := a.toNat * 65536
    [digit (n / 262144), digit (n / 4096 % 64)]
  | [] => []

/-- The bytes of a group of two to four six-bit values; none for a lone value. -/
def group : List Nat → Option Bytes
  | [a, b, c, d] =>
    let n := a * 262144 + b * 4096 + c * 64 + d
    some [(n / 65536).toUInt8, (n / 256 % 256).toUInt8, (n % 256).toUInt8]
  | [a, b, c] =>
    let n := a * 262144 + b * 4096 + c * 64
    some [(n / 65536).toUInt8, (n / 256 % 256).toUInt8]
  | [a, b] => some [(a * 4 + b / 16).toUInt8]
  | [] => some []
  | _ => none

/-- Reads six-bit values four at a time. -/
def decodeValues : List Nat → Option Bytes
  | a :: b :: c :: d :: rest => do
    let head ← group [a, b, c, d]
    let tail ← decodeValues rest
    return head ++ tail
  | vs => group vs

/-- The bytes that digits stand for, none when the text is not base64 of the URL alphabet
without padding. -/
def decodeUrl (s : Bytes) : Option Bytes := do
  let vs ← (s.filter fun b => b != 10 && b != 13).mapM value?
  decodeValues vs

end ReadLater.Text.Base64
