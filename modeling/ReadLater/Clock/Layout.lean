import ReadLater.Clock.Instant
import ReadLater.Text.Utf8
import ReadLater.Text.Quote

/-!
# Reading times by reference layouts

A layout shows how a time is written by writing one fixed reference moment, Monday January 2
15:04:05 2006 at UTC-7, in the wanted form: `2006` stands for a four-digit year, `01` for a
two-digit month, `Jan` for a month's short name, `15` for a 24-hour hour, `-0700` for a numeric
zone, `.000` for a fraction with three digits, and so on. Everything else in a layout stands
for itself, and a run of blanks in the layout matches a run of blanks in the text.

Reading a text by a layout fails where the text departs from it, naming the element of the
layout and the rest of the text at that point, or when a value is out of range. Month and day
names match in any case. A time with no zone is taken as UTC; a numeric zone is applied; a zone
named by letters is taken as UTC, since it names no offset that can be trusted; and a time that
names UTC itself (`Z`, `UTC`) is in UTC even when a numeric zone follows.

* `Clock.Element`: the elements a layout is made of;
* `Clock.nextElement`: the first element of a layout, with the text before and after it;
* `Clock.readByLayout`: the moment a text names by a layout, or the reason it names none.
-/

namespace ReadLater.Clock

open Text

/-- The elements of a layout. -/
inductive Element where
  | longMonth | month | numMonth | zeroMonth
  | longWeekDay | weekDay
  | day | underDay | zeroDay | underYearDay | zeroYearDay
  | hour | hour12 | zeroHour12 | minute | zeroMinute | second | zeroSecond
  | longYear | year | upperPM | lowerPM | zoneName
  | isoZone | isoSecondsZone | isoShortZone | isoColonZone | isoColonSecondsZone
  | numZone | numSecondsZone | numShortZone | numColonZone | numColonSecondsZone
  /-- A fraction of exactly `n` digits. -/
  | fracExact (n : Nat)
  /-- A fraction of any number of digits, or none. -/
  | fracAny (n : Nat)
  deriving DecidableEq, Repr, Inhabited

/-- The byte of an ASCII character. -/
def ascii (c : Char) : UInt8 := c.toNat.toUInt8

/-- The bytes of an ASCII text. -/
def asciiBytes (s : String) : Bytes := Bytes.ofString s

/-- Whether a sequence starts with an ASCII text. -/
def startsWithText (s : Bytes) (p : String) : Bool := s.take p.length == asciiBytes p

/-- Whether a byte is a decimal digit. -/
def isDigitByte (c : UInt8) : Bool := ascii '0' ≤ c && c ≤ ascii '9'

/-- Whether the byte at a position is a decimal digit. -/
def digitAt (s : Bytes) (i : Nat) : Bool :=
  match s[i]? with
  | some c => isDigitByte c
  | none => false

/-- The two-character elements that start with `0`, by their second character `1` to `6`. -/
def zeroElements : List Element := [.zeroMonth, .zeroDay, .zeroHour12, .zeroMinute, .zeroSecond, .year]

/-- The element that starts a layout at its front, with its length, if one does. -/
def elementAt (l : Bytes) : Option (Element × Nat) :=
  match l with
  | [] => none
  | c :: rest =>
    if c == ascii 'J' then
      if startsWithText l "January" then some (.longMonth, 7)
      else if startsWithText l "Jan" && !(match l.drop 3 with
          | d :: _ => ascii 'a' ≤ d && d ≤ ascii 'z'
          | [] => false) then some (.month, 3)
      else none
    else if c == ascii 'M' then
      if startsWithText l "Monday" then some (.longWeekDay, 6)
      else if startsWithText l "Mon" && !(match l.drop 3 with
          | d :: _ => ascii 'a' ≤ d && d ≤ ascii 'z'
          | [] => false) then some (.weekDay, 3)
      else if startsWithText l "MST" then some (.zoneName, 3)
      else none
    else if c == ascii '0' then
      match rest with
      | d :: _ =>
        if ascii '1' ≤ d && d ≤ ascii '6' then
          zeroElements[(d - ascii '1').toNat]?.map (·, 2)
        else if startsWithText l "002" then some (.zeroYearDay, 3)
        else none
      | [] => none
    else if c == ascii '1' then
      if startsWithText l "15" then some (.hour, 2) else some (.numMonth, 1)
    else if c == ascii '2' then
      if startsWithText l "2006" then some (.longYear, 4) else some (.day, 1)
    else if c == ascii '_' then
      if startsWithText l "_2" then
        if startsWithText l "_2006" then none else some (.underDay, 2)
      else if startsWithText l "__2" then some (.underYearDay, 3)
      else none
    else if c == ascii '3' then some (.hour12, 1)
    else if c == ascii '4' then some (.minute, 1)
    else if c == ascii '5' then some (.second, 1)
    else if c == ascii 'P' then if startsWithText l "PM" then some (.upperPM, 2) else none
    else if c == ascii 'p' then if startsWithText l "pm" then some (.lowerPM, 2) else none
    else if c == ascii '-' then
      if startsWithText l "-070000" then some (.numSecondsZone, 7)
      else if startsWithText l "-07:00:00" then some (.numColonSecondsZone, 9)
      else if startsWithText l "-0700" then some (.numZone, 5)
      else if startsWithText l "-07:00" then some (.numColonZone, 6)
      else if startsWithText l "-07" then some (.numShortZone, 3)
      else none
    else if c == ascii 'Z' then
      if startsWithText l "Z070000" then some (.isoSecondsZone, 7)
      else if startsWithText l "Z07:00:00" then some (.isoColonSecondsZone, 9)
      else if startsWithText l "Z0700" then some (.isoZone, 5)
      else if startsWithText l "Z07:00" then some (.isoColonZone, 6)
      else if startsWithText l "Z07" then some (.isoShortZone, 3)
      else none
    else if c == ascii '.' || c == ascii ',' then
      match rest with
      | d :: _ =>
        if d == ascii '0' || d == ascii '9' then
          let n := (rest.takeWhile (· == d)).length
          if digitAt rest n then none
          else some (if d == ascii '0' then .fracExact n else .fracAny n, n + 1)
        else none
      | [] => none
    else none

/-- The first element of a layout: the literal text before it, the element with the text that
writes it, and the rest of the layout; none when the layout holds no element. -/
def nextElement (l : Bytes) : Bytes × Option (Element × Bytes × Bytes) :=
  go [] l (l.length + 1)
where
  go (acc : Bytes) (l : Bytes) : Nat → Bytes × Option (Element × Bytes × Bytes)
    | 0 => (acc.reverse ++ l, none)
    | fuel + 1 =>
      -- a literal `_` before `2006` stands for itself
      if startsWithText l "_2006" then go (ascii '_' :: acc) (l.drop 1) fuel
      else
        match elementAt l with
        | some (e, n) => (acc.reverse, some (e, l.take n, l.drop n))
        | none =>
          match l with
          | [] => (acc.reverse, none)
          | c :: rest => go (c :: acc) rest fuel

/-- Why a text does not match a layout. -/
structure LayoutError where
  layout : Bytes
  value : Bytes
  /-- The part of the layout that did not match. -/
  layoutPart : Bytes
  /-- The rest of the text where it did not match. -/
  valuePart : Bytes
  /-- A value out of range, as `: month out of range`; empty for a mismatch. -/
  message : String
  deriving Repr, Inhabited

/-- A text quoted for a message about times: in double quotes, with a backslash before `"` and
`\`, and every byte of a control character or of a character outside ASCII as `\x..`. -/
def quoteTime (s : Bytes) : String :=
  "\"" ++ String.join ((Bytes.pieces s).map fun
    | .char c =>
      if c.toNat ≥ 0x80 || c.toNat < 0x20 then
        String.join ((Bytes.ofString (String.singleton c)).map fun b => "\\x" ++ hexDigits 2 b.toNat)
      else if c == '"' || c == '\\' then "\\" ++ String.singleton c
      else String.singleton c
    | .stray b => "\\x" ++ hexDigits 2 b.toNat) ++ "\""

/-- The text of a reason. -/
def LayoutError.text (e : LayoutError) : String :=
  if e.message.isEmpty then
    "parsing time " ++ quoteTime e.value ++ " as " ++ quoteTime e.layout ++ ": cannot parse " ++
      quoteTime e.valuePart ++ " as " ++ quoteTime e.layoutPart
  else "parsing time " ++ quoteTime e.value ++ e.message

/-- Drops blanks from the front. -/
def dropBlanks (s : Bytes) : Bytes := s.dropWhile (· == ascii ' ')

theorem length_dropBlanks_le (s : Bytes) : (dropBlanks s).length ≤ s.length :=
  (List.dropWhile_sublist _).length_le

/-- Takes a literal part of a layout off the front of a text; a run of blanks in the layout
matches any run of blanks in the text. On a mismatch, the rest of the text at that point. -/
def skipLiteral : Bytes → Bytes → Except Bytes Bytes
  | [], value => .ok value
  | p :: ps, value =>
    if p == ascii ' ' then
      match value with
      | v :: _ => if v != ascii ' ' then .error value else skipLiteral (dropBlanks ps) (dropBlanks value)
      | [] => skipLiteral (dropBlanks ps) []
    else
      match value with
      | v :: vs => if v == p then skipLiteral ps vs else .error value
      | [] => .error value
termination_by ps _ => ps.length
decreasing_by
  all_goals simp_wf
  all_goals
    have h := length_dropBlanks_le ps
    omega

/-- The value of decimal digits, none if there are none or some byte is no digit; an optional
sign in front. -/
def decimal (s : Bytes) : Option Int :=
  let (neg, ds) := match s with
    | c :: rest => if c == ascii '-' then (true, rest) else if c == ascii '+' then (false, rest) else (false, s)
    | [] => (false, s)
  -- an empty run of digits reads as zero
  if ds.all isDigitByte then
    let n : Nat := ds.foldl (fun n c => n * 10 + (c.toNat - 48)) 0
    if n > 9223372036854775808 then none else some (if neg then -(n : Int) else n)
  else none

/-- One or two digits (exactly two when `fixed`), and the rest. -/
def number2 (s : Bytes) (fixed : Bool) : Option (Int × Bytes) :=
  match s with
  | a :: rest =>
    if !isDigitByte a then none
    else
      match rest with
      | b :: more =>
        if isDigitByte b then some ((a.toNat - 48) * 10 + (b.toNat - 48), more)
        else if fixed then none else some (a.toNat - 48, rest)
      | [] => if fixed then none else some (a.toNat - 48, rest)
  | [] => none

/-- One to three digits (exactly three when `fixed`), and the rest. -/
def number3 (s : Bytes) (fixed : Bool) : Option (Int × Bytes) :=
  let ds := (s.take 3).takeWhile isDigitByte
  if ds.isEmpty || (fixed && ds.length != 3) then none
  else some (ds.foldl (fun n c => n * 10 + (c.toNat - 48 : Int)) 0, s.drop ds.length)

/-- Names in any case: the index of the first name that starts the text, and the rest. -/
def lookupName (names : List String) (s : Bytes) : Option (Nat × Bytes) :=
  let lower := fun (c : UInt8) => c ||| 0x20
  let fits := fun (n : String) =>
    let nb := asciiBytes n
    s.length ≥ nb.length && (List.zip (s.take nb.length) nb).all fun (a, b) =>
      a == b || (lower a == lower b && ascii 'a' ≤ lower a && lower a ≤ ascii 'z')
  ((List.range names.length).find? fun i => fits (names.getD i "")).map fun i =>
    (i, s.drop (names.getD i "").length)

/-- Short and long month and day names. -/
def shortMonths : List String :=
  ["Jan", "Feb", "Mar", "Apr", "May", "Jun", "Jul", "Aug", "Sep", "Oct", "Nov", "Dec"]
def longMonths : List String :=
  ["January", "February", "March", "April", "May", "June", "July", "August", "September",
    "October", "November", "December"]
def shortDays : List String := ["Sun", "Mon", "Tue", "Wed", "Thu", "Fri", "Sat"]
def longDays : List String :=
  ["Sunday", "Monday", "Tuesday", "Wednesday", "Thursday", "Friday", "Saturday"]

/-- Whether a byte separates seconds from their fraction. -/
def isFractionMark (c : UInt8) : Bool := c == ascii '.' || c == ascii ','

/-- Nanoseconds from a fraction written as a mark and `n - 1` digits (at most nine are used). -/
def fractionNanos (s : Bytes) (n : Nat) : Option Int := do
  let c ← s.head?
  if !isFractionMark c then none
  let n := min n 10
  let v ← decimal ((s.take n).drop 1)
  return v * (Nat.pow 10 (10 - n) : Int)

/-- The length of a zone offset that follows a sign, for zones written `+hh` or `-hh`: the
sign and digits of an hour up to 23; zero when there is none. -/
def signedOffsetLength (s : Bytes) : Nat :=
  match s with
  | c :: rest =>
    if c != ascii '-' && c != ascii '+' then 0
    else
      let ds := rest.takeWhile isDigitByte
      match decimal ds with
      | some v => if ds.isEmpty || v > 23 then 0 else 1 + ds.length
      | none => 0
  | [] => 0

/-- The length of a zone name at the front of a text: three to five capitals (four or five must
end in `T`, or be `WITA`), `ChST` or `MeST`, `GMT` with an optional signed hour, or a signed hour. -/
def zoneNameLength (s : Bytes) : Option Nat :=
  if s.length < 3 then none
  else if startsWithText s "ChST" || startsWithText s "MeST" then some 4
  else if startsWithText s "GMT" then
    let rest := s.drop 3
    if rest.isEmpty then some 3 else some (3 + signedOffsetLength rest)
  else if s.head? == some (ascii '+') || s.head? == some (ascii '-') then
    let n := signedOffsetLength s
    if n > 0 then some n else none
  else
    let upper := ((s.take 6).takeWhile fun c => ascii 'A' ≤ c && c ≤ ascii 'Z').length
    if upper == 3 then some 3
    else if upper == 4 && (s[3]? == some (ascii 'T') || startsWithText s "WITA") then some 4
    else if upper == 5 && s[4]? == some (ascii 'T') then some 5
    else none

/-- What a text says of a time, element by element. -/
structure Reading where
  year : Int := 0
  month : Int := -1
  day : Int := -1
  yearDay : Int := -1
  hour : Int := 0
  minute : Int := 0
  second : Int := 0
  nanos : Int := 0
  /-- The offset east of UTC in seconds, when the text gives one. -/
  offset : Option Int := none
  /-- Whether the text names UTC itself (`Z` or `UTC`), which wins over any offset. -/
  utc : Bool := false
  am : Bool := false
  pm : Bool := false
  deriving Repr, Inhabited

/-- The outcome of one element: the reading and the rest of the text, or a value out of range
(with the rest), or a mismatch. -/
inductive ElementOutcome where
  | ok (r : Reading) (rest : Bytes)
  | outOfRange (what : String) (rest : Bytes)
  | bad
  deriving Inhabited

/-- Reads a numeric zone of the given shape: sign, hours, minutes and seconds as the shape
writes them. -/
def readOffset (shape : Element) (r : Reading) (value : Bytes) : ElementOutcome :=
  let parts : Option (Bytes × Bytes × Bytes × Bytes × Bytes) :=
    if shape == .isoColonZone || shape == .numColonZone then
      if value.length < 6 || value[3]? != some (ascii ':') then none
      else some (value.take 1, (value.drop 1).take 2, (value.drop 4).take 2, asciiBytes "00", value.drop 6)
    else if shape == .numShortZone || shape == .isoShortZone then
      if value.length < 3 then none
      else some (value.take 1, (value.drop 1).take 2, asciiBytes "00", asciiBytes "00", value.drop 3)
    else if shape == .isoColonSecondsZone || shape == .numColonSecondsZone then
      if value.length < 9 || value[3]? != some (ascii ':') || value[6]? != some (ascii ':') then none
      else some (value.take 1, (value.drop 1).take 2, (value.drop 4).take 2, (value.drop 7).take 2,
        value.drop 9)
    else if shape == .isoSecondsZone || shape == .numSecondsZone then
      if value.length < 7 then none
      else some (value.take 1, (value.drop 1).take 2, (value.drop 3).take 2, (value.drop 5).take 2,
        value.drop 7)
    else
      if value.length < 5 then none
      else some (value.take 1, (value.drop 1).take 2, (value.drop 3).take 2, asciiBytes "00", value.drop 5)
  match parts with
  | none => .bad
  | some (sign, hh, mm, ss, rest) =>
    -- each part is read only when the one before it was
    let h := number2 hh true
    let m := if h.isSome then number2 mm true else none
    let sec := if m.isSome then number2 ss true else none
    let hv := (h.map (·.1)).getD 0
    let mv := (m.map (·.1)).getD 0
    let sv := (sec.map (·.1)).getD 0
    let range :=
      if sv > 60 then some "time zone offset second"
      else if mv > 60 then some "time zone offset minute"
      else if hv > 24 then some "time zone offset hour"
      else none
    match range with
    | some what => .outOfRange what rest
    | none =>
      let seconds := (hv * 60 + mv) * 60 + sv
      if sec.isNone then .bad
      else if sign == asciiBytes "+" then .ok { r with offset := some seconds } rest
      else if sign == asciiBytes "-" then .ok { r with offset := some (-seconds) } rest
      else .bad

/-- Reads one element from the front of a text; `after` is the rest of the layout, which decides
whether seconds may carry a fraction of their own. -/
def readElement (e : Element) (after : Bytes) (r : Reading) (value : Bytes) : ElementOutcome :=
  let num2 := fun (fixed : Bool) (set : Int → Reading) (check : Int → Option String) =>
    match number2 value fixed with
    | some (n, rest) =>
      match check n with
      | some what => ElementOutcome.outOfRange what rest
      | none => .ok (set n) rest
    | none => .bad
  match e with
  | .year =>
    if value.length < 2 then .bad
    else
      match decimal (value.take 2) with
      | some y => .ok { r with year := if y ≥ 69 then y + 1900 else y + 2000 } (value.drop 2)
      | none => .bad
  | .longYear =>
    if value.length < 4 || !digitAt value 0 then .bad
    else
      match decimal (value.take 4) with
      | some y => .ok { r with year := y } (value.drop 4)
      | none => .bad
  | .month =>
    match lookupName shortMonths value with
    | some (i, rest) => .ok { r with month := i + 1 } rest
    | none => .bad
  | .longMonth =>
    match lookupName longMonths value with
    | some (i, rest) => .ok { r with month := i + 1 } rest
    | none => .bad
  | .numMonth | .zeroMonth =>
    num2 (e == .zeroMonth) (fun n => { r with month := n })
      (fun n => if n ≤ 0 || 12 < n then some "month" else none)
  | .weekDay =>
    match lookupName shortDays value with
    | some (_, rest) => .ok r rest
    | none => .bad
  | .longWeekDay =>
    match lookupName longDays value with
    | some (_, rest) => .ok r rest
    | none => .bad
  | .day | .underDay | .zeroDay =>
    let value := if e == .underDay && value.head? == some (ascii ' ') then value.drop 1 else value
    match number2 value (e == .zeroDay) with
    | some (n, rest) => .ok { r with day := n } rest
    | none => .bad
  | .underYearDay | .zeroYearDay =>
    let value := if e == .underYearDay then
      (if value.head? == some (ascii ' ') then value.drop 1 else value) |>
        fun v => if v.head? == some (ascii ' ') then v.drop 1 else v
      else value
    match number3 value (e == .zeroYearDay) with
    | some (n, rest) => .ok { r with yearDay := n } rest
    | none => .bad
  | .hour =>
    num2 false (fun n => { r with hour := n }) (fun n => if n < 0 || 24 ≤ n then some "hour" else none)
  | .hour12 | .zeroHour12 =>
    num2 (e == .zeroHour12) (fun n => { r with hour := n })
      (fun n => if n < 0 || 12 < n then some "hour" else none)
  | .minute | .zeroMinute =>
    num2 (e == .zeroMinute) (fun n => { r with minute := n })
      (fun n => if n < 0 || 60 ≤ n then some "minute" else none)
  | .second | .zeroSecond =>
    match number2 value (e == .zeroSecond) with
    | none => .bad
    | some (n, rest) =>
      if n < 0 || 60 ≤ n then .outOfRange "second" rest
      else
        let r := { r with second := n }
        -- a fraction in the text that the layout does not write
        let hasFraction := match rest with
          | c :: d :: _ => isFractionMark c && isDigitByte d
          | _ => false
        let layoutFraction := match (nextElement after).2 with
          | some (.fracExact _, _, _) | some (.fracAny _, _, _) => true
          | _ => false
        if hasFraction && !layoutFraction then
          let n := 2 + ((rest.drop 2).takeWhile isDigitByte).length
          match fractionNanos rest n with
          | some ns => .ok { r with nanos := ns } (rest.drop n)
          | none => .bad
        else .ok r rest
  | .upperPM | .lowerPM =>
    if value.length < 2 then .bad
    else
      let p := value.take 2
      let (am, pm) := if e == .upperPM then ("AM", "PM") else ("am", "pm")
      if p == asciiBytes pm then .ok { r with pm := true } (value.drop 2)
      else if p == asciiBytes am then .ok { r with am := true } (value.drop 2)
      else .bad
  | .isoZone | .isoShortZone | .isoColonZone | .isoSecondsZone | .isoColonSecondsZone =>
    if value.head? == some (ascii 'Z') then .ok { r with utc := true } (value.drop 1)
    else readOffset e r value
  | .numZone | .numShortZone | .numColonZone | .numSecondsZone | .numColonSecondsZone =>
    readOffset e r value
  | .zoneName =>
    if startsWithText value "UTC" then .ok { r with utc := true } (value.drop 3)
    else
      match zoneNameLength value with
      | some n => .ok r (value.drop n)
      | none => .bad
  | .fracExact n =>
    if value.length < n + 1 then .bad
    else
      match fractionNanos value (n + 1) with
      | some ns =>
        if ns < 0 then .outOfRange "fractional second" (value.drop (n + 1))
        else .ok { r with nanos := ns } (value.drop (n + 1))
      | none => .bad
  | .fracAny _ =>
    match value with
    | c :: d :: _ =>
      if !isFractionMark c || !isDigitByte d then .ok r value
      else
        let k := 1 + ((value.drop 1).takeWhile isDigitByte).length
        match fractionNanos value k with
        | some ns => .ok { r with nanos := ns } (value.drop k)
        | none => .bad
    | _ => .ok r value

/-- Days before each month of a common year, from January. -/
def daysBefore : List Int := [0, 31, 59, 90, 120, 151, 181, 212, 243, 273, 304, 334, 365]

/-- Reads a text by a layout: the reading of every element, or the reason. -/
def readElements (layout value : Bytes) : Except LayoutError (Reading × Bytes) :=
  go layout value {} (layout.length + 1)
where
  go (l v : Bytes) (r : Reading) : Nat → Except LayoutError (Reading × Bytes)
    | 0 => .ok (r, v)
    | fuel + 1 =>
      let (pre, next) := nextElement l
      match skipLiteral pre v with
      | .error rest => .error ⟨layout, value, pre, rest, ""⟩
      | .ok v =>
        match next with
        | none =>
          if v.isEmpty then .ok (r, v)
          else .error ⟨layout, value, [], v, ": extra text: " ++ quoteTime v⟩
        | some (e, text, after) =>
          match readElement e after r v with
          | .ok r rest => go after rest r fuel
          | .outOfRange what rest => .error ⟨layout, value, text, rest, ": " ++ what ++ " out of range"⟩
          | .bad => .error ⟨layout, value, text, v, ""⟩

/-- The moment a text names by a layout. A time with no numeric zone is taken as UTC, and so is a
time that names UTC, whatever offset follows. -/
def readByLayout (layout value : Bytes) : Except LayoutError Instant := do
  let (r, rest) ← readElements layout value
  let fail := fun (msg : String) => (LayoutError.mk layout value [] rest msg)
  let hour := if r.pm && r.hour < 12 then r.hour + 12 else if r.am && r.hour == 12 then 0 else r.hour
  let (month, day) ← if r.yearDay ≥ 0 then do
      let leap := Civil.isLeap r.year
      let (yd, fixed) :=
        if leap && r.yearDay == 31 + 29 then (r.yearDay, some ((2 : Int), (29 : Int)))
        else if leap && r.yearDay > 31 + 29 then (r.yearDay - 1, none)
        else (r.yearDay, none)
      if yd < 1 || yd > 365 then throw (fail ": day-of-year out of range")
      let (m, d) := match fixed with
        | some md => md
        | none =>
          let m0 := (yd - 1) / 31 + 1
          let m := if daysBefore.getD m0.toNat 0 < yd then m0 + 1 else m0
          (m, yd - daysBefore.getD (m - 1).toNat 0)
      if r.month ≥ 0 && r.month != m then throw (fail ": day-of-year does not match month")
      if r.day ≥ 0 && r.day != d then throw (fail ": day-of-year does not match day")
      pure (m, d)
    else pure (if r.month < 0 then 1 else r.month, if r.day < 0 then 1 else r.day)
  if day < 1 || day > (Civil.monthDays r.year month.toNat : Nat) then throw (fail ": day out of range")
  let days := Civil.toDays ⟨r.year, month.toNat, day.toNat⟩
  let offset := if r.utc then 0 else r.offset.getD 0
  let secs := days * 86400 + hour * 3600 + r.minute * 60 + r.second - offset
  return ⟨secs * Instant.perSecond + r.nanos⟩

end ReadLater.Clock
