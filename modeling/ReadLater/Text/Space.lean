/-!
# White space

The white-space characters of the Unicode character database: the ASCII blanks tab, line feed,
vertical tab, form feed, carriage return and space, then U+0085, U+00A0, U+1680, U+2000 to U+200A,
U+2028, U+2029, U+202F, U+205F and U+3000. Trimming and splitting into words use this class.

* `Text.isSpace`: the class;
* `Text.trim`: a string without white space at either end;
* `Text.fields`: the words of a string, between runs of white space.
-/

namespace ReadLater.Text

/-- Whether a character is white space. -/
def isSpace (c : Char) : Bool :=
  let n := c.toNat
  if n < 0x100 then
    n == 0x20 || (0x09 ≤ n && n ≤ 0x0D) || n == 0x85 || n == 0xA0
  else
    n == 0x1680 || (0x2000 ≤ n && n ≤ 0x200A) || n == 0x2028 || n == 0x2029 ||
      n == 0x202F || n == 0x205F || n == 0x3000

/-- The characters without the white space at their start. -/
def dropSpace (cs : List Char) : List Char := cs.dropWhile isSpace

/-- A string without white space at either end. -/
def trim (s : String) : String :=
  String.ofList (dropSpace (dropSpace s.toList).reverse).reverse

/-- The words of a list of characters, after a word already begun (`acc`, reversed). -/
def fieldsAux : List Char → List Char → List String
  | [], acc => if acc.isEmpty then [] else [String.ofList acc.reverse]
  | c :: cs, acc =>
    if isSpace c then
      if acc.isEmpty then fieldsAux cs [] else String.ofList acc.reverse :: fieldsAux cs []
    else fieldsAux cs (c :: acc)

/-- The words of a string: the maximal runs of characters that are not white space. -/
def fields (s : String) : List String := fieldsAux s.toList []

/-- Whether a string is empty or white space only. -/
def isBlank (s : String) : Bool := s.toList.all isSpace

end ReadLater.Text
