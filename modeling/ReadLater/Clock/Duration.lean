import ReadLater.Text.Utf8

/-!
# Durations

A duration is written as an optional sign and a run of numbers with units, such as `300ms`,
`1.5h` or `2h45m`. Each number is decimal digits with an optional fraction, and units are `ns`,
`us` (or `µs`, `μs`), `ms`, `s`, `m` and `h`. A bare `0` is zero. The total is a whole number of
nanoseconds that fits in 64 signed bits; a fraction's nanoseconds are rounded down. Anything
else is not a duration.
-/

namespace ReadLater.Clock

open Text

/-- The units of durations, in nanoseconds. -/
def durationUnits : List (String × Nat) :=
  [("ns", 1), ("us", 1000), ("µs", 1000), ("μs", 1000), ("ms", 1000000), ("s", 1000000000),
    ("m", 60000000000), ("h", 3600000000000)]

/-- Whether a byte is a decimal digit. -/
def isDigitAscii (c : UInt8) : Bool := 48 ≤ c && c ≤ 57

/-- The leading digits of a text as a number, none when it passes 2^63. -/
def leadingNumber (s : Bytes) : Option (Nat × Bytes) :=
  let ds := s.takeWhile isDigitAscii
  let v := ds.foldl (fun n c => n * 10 + (c.toNat - 48)) 0
  if v > 9223372036854775808 then none else some (v, s.drop ds.length)

/-- The leading digits of a fraction: their value and scale, digits past 63 bits being skipped
without scaling, and the rest. -/
def leadingFractionDigits (s : Bytes) : Nat × Nat × Bytes :=
  let ds := s.takeWhile isDigitAscii
  let (v, scale, _) := ds.foldl (fun (v, scale, overflowed) c =>
    if overflowed then (v, scale, true)
    else if v > 922337203685477580 then (v, scale, true)
    else
      let y := v * 10 + (c.toNat - 48)
      if y > 9223372036854775808 then (v, scale, true) else (y, scale * 10, false)) (0, 1, false)
  (v, scale, s.drop ds.length)

/-- Reads the terms of a duration after its sign, adding to a total of nanoseconds. -/
def durationTerms (s : Bytes) (total : Nat) : Nat → Option Nat
  | 0 => none
  | fuel + 1 =>
    match s with
    | [] => some total
    | c :: _ =>
      if !(c == 46 || isDigitAscii c) then none
      else do
        let (v, rest) ← leadingNumber s
        let pre := rest.length != s.length
        let (f, scale, rest, post) :=
          match rest with
          | 46 :: more =>
            let (f, scale, r) := leadingFractionDigits more
            (f, scale, r, r.length != more.length)
          | _ => (0, 1, rest, false)
        if !pre && !post then none
        let unitText := rest.takeWhile fun c => !(c == 46 || isDigitAscii c)
        if unitText.isEmpty then none
        let unit ← (durationUnits.find? fun (u, _) => Bytes.ofString u == unitText).map (·.2)
        if v > 9223372036854775808 / unit then none
        let v := v * unit + f * unit / scale
        if v > 9223372036854775808 then none
        let total := total + v
        if total > 9223372036854775808 then none
        durationTerms (rest.drop unitText.length) total fuel

/-- The nanoseconds a duration text stands for, or none when it is not a duration. -/
def parseDuration (text : String) : Option Int := do
  let s := Bytes.ofString text
  let (neg, s) := match s with
    | 45 :: rest => (true, rest)
    | 43 :: rest => (false, rest)
    | _ => (false, s)
  if s == [48] then return 0
  if s.isEmpty then none
  let total ← durationTerms s 0 (s.length + 1)
  if neg then return -(total : Int)
  if total > 9223372036854775807 then none
  return total

end ReadLater.Clock
