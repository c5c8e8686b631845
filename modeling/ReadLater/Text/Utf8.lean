/-!
# UTF-8 byte sequences

Parts of a URL are byte sequences once their escapes are decoded, and a decoded escape need not
be valid UTF-8. This module reads such sequences back as text:

* `Text.Bytes.ofString`: the UTF-8 encoding of a string;
* `Text.Bytes.front?`: the character that a sequence starts with, and its width in bytes, when
  the sequence starts with a well-formed encoding (no overlong form, no surrogate, nothing above
  U+10FFFF);
* `Text.Bytes.text`: the text of a sequence, where each byte that starts no well-formed encoding
  stands for one U+FFFD, so well-formed sequences read back as they were written.
-/

namespace ReadLater.Text

/-- A sequence of bytes. -/
abbrev Bytes := List UInt8

namespace Bytes

/-- The UTF-8 encoding of a string. -/
def ofString (s : String) : Bytes := s.toUTF8.toList

/-- Whether a byte continues a multi-byte encoding. -/
def isTail (b : UInt8) : Bool := 0x80 ≤ b && b ≤ 0xBF

/-- The six low bits of a continuation byte. -/
def tailBits (b : UInt8) : Nat := b.toNat % 64

/-- The character a sequence starts with and its width in bytes, when it is well-formed there. -/
def front? : Bytes → Option (Char × Nat)
  | [] => none
  | b0 :: rest =>
    if b0 < 0x80 then some (Char.ofNat b0.toNat, 1)
    else if 0xC2 ≤ b0 && b0 ≤ 0xDF then
      match rest with
      | b1 :: _ => if isTail b1 then some (Char.ofNat ((b0.toNat % 32) * 64 + tailBits b1), 2) else none
      | [] => none
    else if 0xE0 ≤ b0 && b0 ≤ 0xEF then
      let lo : UInt8 := if b0 == 0xE0 then 0xA0 else 0x80
      let hi : UInt8 := if b0 == 0xED then 0x9F else 0xBF
      match rest with
      | b1 :: b2 :: _ =>
        if lo ≤ b1 && b1 ≤ hi && isTail b2 then
          some (Char.ofNat ((b0.toNat % 16) * 4096 + tailBits b1 * 64 + tailBits b2), 3)
        else none
      | _ => none
    else if 0xF0 ≤ b0 && b0 ≤ 0xF4 then
      let lo : UInt8 := if b0 == 0xF0 then 0x90 else 0x80
      let hi : UInt8 := if b0 == 0xF4 then 0x8F else 0xBF
      match rest with
      | b1 :: b2 :: b3 :: _ =>
        if lo ≤ b1 && b1 ≤ hi && isTail b2 && isTail b3 then
          some (Char.ofNat ((b0.toNat % 8) * 262144 + tailBits b1 * 4096 + tailBits b2 * 64 +
            tailBits b3), 4)
        else none
      | _ => none
    else none

/-- A piece of a byte sequence: a well-formed character, or a byte that starts none. -/
inductive Piece where
  | char (c : Char)
  | stray (b : UInt8)
  deriving Repr, DecidableEq, Inhabited

/-- Dropping from a sequence leaves it shorter than the sequence with one more byte. -/
theorem length_drop_lt_succ (rest : Bytes) (k : Nat) : (rest.drop k).length < rest.length + 1 := by
  simp only [List.length_drop]; omega

/-- A sequence cut into characters and stray bytes, front to back. -/
def pieces (bs : Bytes) : List Piece :=
  match bs with
  | [] => []
  | b :: rest =>
    match front? (b :: rest) with
    | some (c, n) => .char c :: pieces (rest.drop (n - 1))
    | none => .stray b :: pieces rest
termination_by bs.length
decreasing_by
  · exact length_drop_lt_succ rest (n - 1)
  · exact Nat.lt_succ_self _

/-- The characters of a sequence; a stray byte reads as U+FFFD. -/
def chars (bs : Bytes) : List Char :=
  (pieces bs).map fun
    | .char c => c
    | .stray _ => '\uFFFD'

/-- The text of a sequence, reading each stray byte as U+FFFD. -/
def text (bs : Bytes) : String := String.ofList (chars bs)

end Bytes

end ReadLater.Text
