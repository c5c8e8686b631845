import ReadLater.Text.Utf8

/-!
# Character references

HTML text names characters by references: `&amp;` by name, `&#38;` in decimal, `&#x26;` in
hexadecimal. A name is looked up with its closing semicolon; the older names that may be written
without one (the Latin-1 names and `amp`, `lt`, `gt`, `quot`) are also found as the longest such
prefix of what follows the ampersand, outside attribute values. A number in the range of the
Windows-1252 control block reads as the character that code page puts there, and a number that
names no character reads as U+FFFD. A reference that names nothing stays as it is written.

* `Markup.entities`: the named references;
* `Markup.unescape`: a text with its references replaced by the characters they name.
-/

namespace ReadLater.Markup

open Text

/-- The named character references, with the code point each names. Names that may be written
without a semicolon appear both with and without one. -/
def entities : List (String × Nat) :=
  let legacy : List (String × Nat) := [
    ("nbsp", 160), ("iexcl", 161), ("cent", 162), ("pound", 163), ("curren", 164), ("yen", 165),
    ("brvbar", 166), ("sect", 167), ("uml", 168), ("copy", 169), ("ordf", 170), ("laquo", 171),
    ("not", 172), ("shy", 173), ("reg", 174), ("macr", 175), ("deg", 176), ("plusmn", 177),
    ("sup2", 178), ("sup3", 179), ("acute", 180), ("micro", 181), ("para", 182), ("middot", 183),
    ("cedil", 184), ("sup1", 185), ("ordm", 186), ("raquo", 187), ("frac14", 188), ("frac12", 189),
    ("frac34", 190), ("iquest", 191), ("Agrave", 192), ("Aacute", 193), ("Acirc", 194),
    ("Atilde", 195), ("Auml", 196), ("Aring", 197), ("AElig", 198), ("Ccedil", 199),
    ("Egrave", 200), ("Eacute", 201), ("Ecirc", 202), ("Euml", 203), ("Igrave", 204),
    ("Iacute", 205), ("Icirc", 206), ("Iuml", 207), ("ETH", 208), ("Ntilde", 209), ("Ograve", 210),
    ("Oacute", 211), ("Ocirc", 212), ("Otilde", 213), ("Ouml", 214), ("times", 215),
    ("Oslash", 216), ("Ugrave", 217), ("Uacute", 218), ("Ucirc", 219), ("Uuml", 220),
    ("Yacute", 221), ("THORN", 222), ("szlig", 223), ("agrave", 224), ("aacute", 225),
    ("acirc", 226), ("atilde", 227), ("auml", 228), ("aring", 229), ("aelig", 230),
    ("ccedil", 231), ("egrave", 232), ("eacute", 233), ("ecirc", 234), ("euml", 235),
    ("igrave", 236), ("iacute", 237), ("icirc", 238), ("iuml", 239), ("eth", 240),
    ("ntilde", 241), ("ograve", 242), ("oacute", 243), ("ocirc", 244), ("otilde", 245),
    ("ouml", 246), ("divide", 247), ("oslash", 248), ("ugrave", 249), ("uacute", 250),
    ("ucirc", 251), ("uuml", 252), ("yacute", 253), ("thorn", 254), ("yuml", 255),
    ("quot", 34), ("amp", 38), ("lt", 60), ("gt", 62),
    ("QUOT", 34), ("AMP", 38), ("LT", 60), ("GT", 62), ("COPY", 169), ("REG", 174)]
  let named : List (String × Nat) := [
    ("apos", 39), ("OElig", 338), ("oelig", 339), ("Scaron", 352), ("scaron", 353),
    ("Yuml", 376), ("circ", 710), ("tilde", 732), ("ensp", 8194), ("emsp", 8195),
    ("thinsp", 8201), ("zwnj", 8204), ("zwj", 8205), ("lrm", 8206), ("rlm", 8207),
    ("ndash", 8211), ("mdash", 8212), ("lsquo", 8216), ("rsquo", 8217), ("sbquo", 8218),
    ("ldquo", 8220), ("rdquo", 8221), ("bdquo", 8222), ("dagger", 8224), ("Dagger", 8225),
    ("permil", 8240), ("lsaquo", 8249), ("rsaquo", 8250), ("euro", 8364), ("fnof", 402),
    ("Alpha", 913), ("Beta", 914), ("Gamma", 915), ("Delta", 916), ("Epsilon", 917),
    ("Zeta", 918), ("Eta", 919), ("Theta", 920), ("Iota", 921), ("Kappa", 922), ("Lambda", 923),
    ("Mu", 924), ("Nu", 925), ("Xi", 926), ("Omicron", 927), ("Pi", 928), ("Rho", 929),
    ("Sigma", 931), ("Tau", 932), ("Upsilon", 933), ("Phi", 934), ("Chi", 935), ("Psi", 936),
    ("Omega", 937), ("alpha", 945), ("beta", 946), ("gamma", 947), ("delta", 948),
    ("epsilon", 949), ("zeta", 950), ("eta", 951), ("theta", 952), ("iota", 953),
    ("kappa", 954), ("lambda", 955), ("mu", 956), ("nu", 957), ("xi", 958), ("omicron", 959),
    ("pi", 960), ("rho", 961), ("sigmaf", 962), ("sigma", 963), ("tau", 964), ("upsilon", 965),
    ("phi", 966), ("chi", 967), ("psi", 968), ("omega", 969), ("thetasym", 977), ("upsih", 978),
    ("piv", 982), ("bull", 8226), ("hellip", 8230), ("prime", 8242), ("Prime", 8243),
    ("oline", 8254), ("frasl", 8260), ("weierp", 8472), ("image", 8465), ("real", 8476),
    ("trade", 8482), ("alefsym", 8501), ("larr", 8592), ("uarr", 8593), ("rarr", 8594),
    ("darr", 8595), ("harr", 8596), ("crarr", 8629), ("lArr", 8656), ("uArr", 8657),
    ("rArr", 8658), ("dArr", 8659), ("hArr", 8660), ("forall", 8704), ("part", 8706),
    ("exist", 8707), ("empty", 8709), ("nabla", 8711), ("isin", 8712), ("notin", 8713),
    ("ni", 8715), ("prod", 8719), ("sum", 8721), ("minus", 8722), ("lowast", 8727),
    ("radic", 8730), ("prop", 8733), ("infin", 8734), ("ang", 8736), ("and", 8743), ("or", 8744),
    ("cap", 8745), ("cup", 8746), ("int", 8747), ("there4", 8756), ("sim", 8764), ("cong", 8773),
    ("asymp", 8776), ("ne", 8800), ("equiv", 8801), ("le", 8804), ("ge", 8805), ("sub", 8834),
    ("sup", 8835), ("nsub", 8836), ("sube", 8838), ("supe", 8839), ("oplus", 8853),
    ("otimes", 8855), ("perp", 8869), ("sdot", 8901), ("lceil", 8968), ("rceil", 8969),
    ("lfloor", 8970), ("rfloor", 8971), ("lang", 10216), ("rang", 10217), ("loz", 9674),
    ("spades", 9824), ("clubs", 9827), ("hearts", 9829), ("diams", 9830),
    ("Tab", 9), ("NewLine", 10), ("excl", 33), ("num", 35), ("dollar", 36), ("percnt", 37),
    ("lpar", 40), ("rpar", 41), ("ast", 42), ("midast", 42), ("plus", 43), ("comma", 44),
    ("period", 46), ("sol", 47), ("colon", 58), ("semi", 59), ("equals", 61), ("quest", 63),
    ("commat", 64), ("lsqb", 91), ("lbrack", 91), ("bsol", 92), ("rsqb", 93), ("rbrack", 93),
    ("Hat", 94), ("lowbar", 95), ("UnderBar", 95), ("grave", 96), ("DiacriticalGrave", 96),
    ("lcub", 123), ("lbrace", 123), ("verbar", 124), ("vert", 124), ("VerticalLine", 124),
    ("rcub", 125), ("rbrace", 125), ("NonBreakingSpace", 160), ("half", 189), ("div", 247),
    ("pm", 177), ("PlusMinus", 177), ("centerdot", 183), ("CenterDot", 183), ("die", 168),
    ("Dot", 168), ("DoubleDot", 168), ("Cedilla", 184), ("DiacriticalAcute", 180),
    ("strns", 175), ("circledR", 174), ("TRADE", 8482), ("hyphen", 8208), ("dash", 8208),
    ("horbar", 8213), ("Vert", 8214), ("hairsp", 8202), ("ZeroWidthSpace", 8203),
    ("emsp13", 8196), ("emsp14", 8197), ("numsp", 8199), ("puncsp", 8200),
    ("MediumSpace", 8287), ("NoBreak", 8288), ("lsquor", 8218), ("rsquor", 8217),
    ("ldquor", 8222), ("rdquor", 8221), ("nldr", 8229), ("mldr", 8230), ("bullet", 8226),
    ("check", 10003), ("checkmark", 10003), ("cross", 10007), ("star", 9734), ("starf", 9733),
    ("bigstar", 9733), ("phone", 9742), ("female", 9792), ("male", 9794), ("sharp", 9839),
    ("flat", 9837), ("natural", 9838), ("copysr", 8471), ("incare", 8453), ("frac13", 8531),
    ("frac23", 8532), ("frac15", 8533), ("frac18", 8539), ("frac38", 8540), ("frac58", 8541),
    ("frac78", 8542), ("leq", 8804), ("geq", 8805), ("leftarrow", 8592), ("rightarrow", 8594),
    ("LeftArrow", 8592), ("RightArrow", 8594), ("uparrow", 8593), ("downarrow", 8595)]
  legacy ++ (legacy ++ named).map fun (n, c) => (n ++ ";", c)

/-- The longest name written without a semicolon. -/
def longestBareName : Nat := 6

/-- The code point a reference name stands for. -/
def entityNamed? (name : Bytes) : Option Nat :=
  (entities.find? fun (n, _) => Bytes.ofString n == name).map (·.2)

/-- What the Windows-1252 code page puts at 0x80 to 0x9F, read for references to that block. -/
def windows1252 : List Nat :=
  [0x20AC, 0x81, 0x201A, 0x192, 0x201E, 0x2026, 0x2020, 0x2021, 0x2C6, 0x2030, 0x160, 0x2039,
    0x152, 0x8D, 0x17D, 0x8F, 0x90, 0x2018, 0x2019, 0x201C, 0x201D, 0x2022, 0x2013, 0x2014,
    0x2DC, 0x2122, 0x161, 0x203A, 0x153, 0x9D, 0x17E, 0x178]

/-- The UTF-8 encoding of a code point; one that names no character encodes U+FFFD. -/
def encodePoint (n : Nat) : Bytes :=
  if n ≥ 0xD800 && n ≤ 0xDFFF || n > 0x10FFFF then Bytes.ofString "�"
  else Bytes.ofString (String.singleton (Char.ofNat n))

/-- The character a numeric reference names: its value is kept in 32 signed bits, as digits
past that wrap around; the Windows-1252 block is mapped, and zero, surrogates, values past
U+10FFFF and negative values read as U+FFFD. -/
def numericPoint (v : Nat) : Nat :=
  let w := v % 4294967296
  if w ≥ 2147483648 then 0xFFFD
  else if 0x80 ≤ w && w ≤ 0x9F then windows1252.getD (w - 0x80) 0xFFFD
  else if w == 0 || (0xD800 ≤ w && w ≤ 0xDFFF) || w > 0x10FFFF then 0xFFFD
  else w

/-- Whether a byte is an ASCII letter or digit. -/
def isAlnumByte (c : UInt8) : Bool :=
  (48 ≤ c && c ≤ 57) || (65 ≤ c && c ≤ 90) || (97 ≤ c && c ≤ 122)

/-- The value of a hexadecimal digit, if it is one. -/
def hexDigitValue (c : UInt8) : Option Nat :=
  if 48 ≤ c && c ≤ 57 then some (c.toNat - 48)
  else if 97 ≤ c && c ≤ 102 then some (c.toNat - 87)
  else if 65 ≤ c && c ≤ 70 then some (c.toNat - 55)
  else none

/-- The value of a decimal digit, if it is one. -/
def decimalDigitValue (c : UInt8) : Option Nat :=
  if 48 ≤ c && c ≤ 57 then some (c.toNat - 48) else none

/-- The leading digits of a text in a base, with their value. -/
def leadingDigits (digit : UInt8 → Option Nat) (base : Nat) : Bytes → Nat × Nat → Nat × Nat
  | [], acc => acc
  | c :: rest, (n, v) =>
    match digit c with
    | some d => leadingDigits digit base rest (n + 1, (v * base + d) % 4294967296)
    | none => (n, v)

/-- Reads one reference at the front of a text that starts with `&`: what it stands for and
how many bytes it takes. `inAttr` is set inside attribute values, where a bare name followed
by `=` is left alone and bare prefixes are not looked for. -/
def readReference (inAttr : Bool) (s : Bytes) : Bytes × Nat :=
  let amp : Bytes × Nat := (s.take 1, 1)
  if s.length ≤ 1 then amp
  else if s[1]? == some 35 then
    -- a numeric reference
    if s.length ≤ 3 then amp
    else
      let hex := s[2]? == some 120 || s[2]? == some 88
      let start := if hex then 3 else 2
      let (n, v) := leadingDigits (if hex then hexDigitValue else decimalDigitValue)
        (if hex then 16 else 10) (s.drop start) (0, 0)
      let stop := start + n
      let stop := if s[stop]? == some 59 then stop + 1 else stop
      if stop ≤ 3 then amp else (encodePoint (numericPoint v), stop)
  else
    let nameLen := ((s.drop 1).takeWhile isAlnumByte).length
    let i := if s[1 + nameLen]? == some 59 then 2 + nameLen else 1 + nameLen
    let name := (s.take i).drop 1
    let verbatim : Bytes × Nat := (s.take i, i)
    if name.isEmpty then verbatim
    else if inAttr && name.getLast? != some 59 && s[i]? == some 61 then verbatim
    else
      match entityNamed? name with
      | some c => (encodePoint c, i)
      | none =>
        if inAttr then verbatim
        else
          let maxLen := min (name.length - 1) longestBareName
          let bare := ((List.range (maxLen + 1)).reverse.filter (· > 1)).findSome? fun j =>
            (entityNamed? (name.take j)).map fun c => (encodePoint c, j + 1)
          bare.getD verbatim

/-- A text with its character references replaced by the characters they name. -/
def unescape (inAttr : Bool) (s : Bytes) : Bytes :=
  go s [] (s.length + 1)
where
  go (s : Bytes) (acc : List Bytes) : Nat → Bytes
    | 0 => (acc.reverse.flatten) ++ s
    | fuel + 1 =>
      match s with
      | [] => acc.reverse.flatten
      | c :: rest =>
        if c == 38 then
          let (out, n) := readReference inAttr s
          go (s.drop (max n 1)) (out :: acc) fuel
        else
          let plain := (c :: rest).takeWhile (· != 38)
          go (s.drop plain.length) (plain :: acc) fuel

end ReadLater.Markup
