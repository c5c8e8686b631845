import ReadLater.Text.Utf8

/-!
# IP addresses

An IP address is kept as sixteen bytes; an IPv4 address `a.b.c.d` is kept in its IPv4-mapped
form `::ffff:a.b.c.d`, so that both kinds compare in one space, and it is written back in dotted
form.

* IPv4 text has four decimal fields of at most 255, with no leading zeros;
* IPv6 text has up to eight groups of one to four hexadecimal digits, at most one `::` standing
  for one or more zero groups, and may end in an IPv4 address; an address with a zone (`%eth0`)
  is not taken;
* written back, IPv6 drops leading zeros in each group and writes the longest run of two or more
  zero groups (the first such run on a tie) as `::`.

A network is an address prefix of some bits. An IPv4 network holds exactly the IPv4 addresses
(mapped ones included) that share its prefix; an IPv6 network holds the other addresses that
share its prefix.
-/

namespace ReadLater.Net

open Text

/-- An IP address as sixteen bytes. -/
structure Address where
  bytes : List Nat
  deriving DecidableEq, Repr, Inhabited

/-- The twelve bytes that put an IPv4 address in the IPv6 space. -/
def mappedPrefix : List Nat := [0, 0, 0, 0, 0, 0, 0, 0, 0, 0, 255, 255]

/-- An IPv4 address from its four bytes. -/
def Address.ofV4 (b : List Nat) : Address := ⟨mappedPrefix ++ b⟩

/-- The four bytes of an IPv4 address, when the address is one. -/
def Address.v4? (a : Address) : Option (List Nat) :=
  if a.bytes.take 12 == mappedPrefix then some (a.bytes.drop 12) else none

/-- Whether a byte is a decimal digit. -/
def isDecimal (c : UInt8) : Bool := 48 ≤ c && c ≤ 57

/-- Splits a text at a separator byte. -/
def splitAt (sep : UInt8) (s : Bytes) : List Bytes :=
  go s [] []
where
  go : Bytes → Bytes → List Bytes → List Bytes
    | [], cur, acc => (cur.reverse :: acc).reverse
    | c :: rest, cur, acc => if c == sep then go rest [] (cur.reverse :: acc) else go rest (c :: cur) acc

/-- The four bytes of dotted IPv4 text. -/
def parseV4 (s : Bytes) : Option (List Nat) :=
  let fields := splitAt 46 s
  if fields.length != 4 then none
  else fields.mapM fun f =>
    if f.isEmpty || f.length > 3 || !f.all isDecimal then none
    else if f.length > 1 && f.head? == some 48 then none
    else
      let v := f.foldl (fun n c => n * 10 + (c.toNat - 48)) 0
      if v > 255 then none else some v

/-- The value of a hexadecimal digit. -/
def hexValue? (c : UInt8) : Option Nat :=
  if 48 ≤ c && c ≤ 57 then some (c.toNat - 48)
  else if 97 ≤ c && c ≤ 102 then some (c.toNat - 87)
  else if 65 ≤ c && c ≤ 70 then some (c.toNat - 55)
  else none

/-- A group of IPv6 text: one to four hexadecimal digits. -/
def parseGroup (g : Bytes) : Option Nat :=
  if g.isEmpty || g.length > 4 then none
  else g.foldlM (fun n c => (hexValue? c).map (n * 16 + ·)) 0

/-- The bytes of a list of IPv6 groups, the last of which may be IPv4 text. -/
def groupBytes (gs : List Bytes) : Option (List Nat) :=
  match gs.getLast? with
  | none => some []
  | some last =>
    if last.contains 46 then do
      let v4 ← parseV4 last
      let front ← (gs.dropLast).mapM parseGroup
      return front.flatMap (fun v => [v / 256, v % 256]) ++ v4
    else do
      let vs ← gs.mapM parseGroup
      return vs.flatMap fun v => [v / 256, v % 256]

/-- Splits IPv6 text at its `::`, if it has exactly one. -/
def splitEllipsis (s : Bytes) : Option (Option (Bytes × Bytes)) :=
  let rec find (i : Nat) : Bytes → Option Nat
    | 58 :: 58 :: _ => some i
    | _ :: rest => find (i + 1) rest
    | [] => none
  match find 0 s with
  | none => some none
  | some i =>
    let after := s.drop (i + 2)
    if (find 0 after).isSome then none else some (some (s.take i, after))

/-- The groups of a side of IPv6 text around `::`: none for an empty side. -/
def sideGroups (s : Bytes) : List Bytes := if s.isEmpty then [] else splitAt 58 s

/-- The sixteen bytes of IPv6 text without a zone. -/
def parseV6 (s : Bytes) : Option (List Nat) := do
  if s.contains 37 then none
  match ← splitEllipsis s with
  | none =>
    let bs ← groupBytes (splitAt 58 s)
    if bs.length == 16 then some bs else none
  | some (front, back) =>
    -- the IPv4 tail may only follow the last group
    let fb ← (sideGroups front).mapM parseGroup
    let bb ← groupBytes (sideGroups back)
    let fb := fb.flatMap fun v => [v / 256, v % 256]
    if fb.length + bb.length ≥ 16 then none
    else some (fb ++ List.replicate (16 - fb.length - bb.length) 0 ++ bb)

/-- The address written in a text: IPv4 when a `.` comes before any `:` or `%`, IPv6 when a `:`
does. -/
def Address.parse? (s : Bytes) : Option Address :=
  match s.find? (fun c => c == 46 || c == 58 || c == 37) with
  | some 46 => (parseV4 s).map Address.ofV4
  | some 58 => (parseV6 s).map Address.mk
  | _ => none

/-- A group in lowercase hexadecimal without leading zeros. -/
def hexGroup (v : Nat) : String :=
  let d := fun (n : Nat) => if n < 10 then Char.ofNat (48 + n) else Char.ofNat (87 + n)
  let digits := [v / 4096, v / 256 % 16, v / 16 % 16, v % 16]
  let digits := digits.dropWhile (· == 0)
  if digits.isEmpty then "0" else String.ofList (digits.map d)

/-- The longest run of two or more zero groups, the first on a tie: its start and end. -/
def longestZeroRun (gs : List Nat) : Option (Nat × Nat) :=
  let runs := (List.range 8).filterMap fun i =>
    let len := ((gs.drop i).takeWhile (· == 0)).length
    if len ≥ 2 then some (i, i + len) else none
  runs.foldl (fun best (a, b) =>
    match best with
    | some (x, y) => if b - a > y - x then some (a, b) else best
    | none => some (a, b)) none

/-- An address in its usual text form. -/
def Address.render (a : Address) : String :=
  match a.v4? with
  | some b => ".".intercalate (b.map toString)
  | none =>
    let gs := (List.range 8).map fun i => a.bytes.getD (2 * i) 0 * 256 + a.bytes.getD (2 * i + 1) 0
    match longestZeroRun gs with
    | none => ":".intercalate (gs.map hexGroup)
    | some (x, y) =>
      ":".intercalate ((gs.take x).map hexGroup) ++ "::" ++ ":".intercalate ((gs.drop y).map hexGroup)

/-- A network: the addresses that share a prefix of some bits with a base address. -/
structure Network where
  base : Address
  bits : Nat
  /-- Whether the network is written as IPv4. -/
  isV4 : Bool
  deriving Repr, Inhabited

/-- Whether two byte lists agree on their first `bits` bits. -/
def samePrefix (bits : Nat) : List Nat → List Nat → Bool
  | a :: as, b :: bs =>
    if bits ≥ 8 then a == b && samePrefix (bits - 8) as bs
    else if bits == 0 then true
    else a / Nat.pow 2 (8 - bits) == b / Nat.pow 2 (8 - bits)
  | _, _ => true

/-- Whether a network holds an address. -/
def Network.contains (n : Network) (a : Address) : Bool :=
  match n.isV4, a.v4?, n.base.v4? with
  | true, some b, some nb => samePrefix n.bits nb b
  | false, none, _ => samePrefix n.bits n.base.bytes a.bytes
  | _, _, _ => false

/-- A network from text `address/bits`. -/
def Network.parse? (s : String) : Option Network := do
  match (Bytes.ofString s).splitOn 47 with
  | [addr, bits] =>
    let a ← Address.parse? addr
    let n ← (Bytes.text bits).toNat?
    return ⟨a, n, a.v4?.isSome⟩
  | _ => none

end ReadLater.Net
