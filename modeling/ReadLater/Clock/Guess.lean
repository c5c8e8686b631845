import ReadLater.Clock.Layout

/-!
# Reading times written in any common way

Feeds and providers write times in dozens of ways: `2006-01-02T15:04:05Z`, `Mon, 02 Jan 2006
15:04:05 -0700`, `January 2, 2006`, `12 Feb 2006, 19:17`, `2014/03/31`, Unix seconds, and more.
Rather than trying a fixed list of layouts, the reader walks the text once, character by
character, through a machine of states that recognises its shape: at each separator it learns
where the year, month, day, hour, minute, second and zone are, and writes the matching element
of a layout over a copy of the text. The copy then serves as the layout to read the text by
(`Clock.readByLayout`). A text of digits only is read by its length: Unix seconds,
milliseconds, microseconds or nanoseconds, or a compact date.

A few shapes are reread after a small change: a comma before a fraction of seconds becomes a
period, a suffix such as `th` after a day is dropped, a short day name in front is dropped, and
a month abbreviated with four letters and a period loses its fourth letter. A colon before
milliseconds is read as a period.

Month numbers are taken before day numbers where both are possible (`03/04/2005` is March 4).
A text whose shape is not recognised fails with `Could not find format for "..."`.

* `Clock.DateShape`, `Clock.TimeShape`: the states of the machine;
* `Clock.Guess`: what the machine has learned so far;
* `Clock.readAnyTime`: the moment a text names, or why none was found.
-/

namespace ReadLater.Clock

open Text

/-- Where the reader stands in the date part of a text. -/
inductive DateShape where
  | start | digit | digitSt
  | yearDash | yearDashAlphaDash | yearDashDash | yearDashDashWs | yearDashDashT | yearDashDashOffset
  | digitDash | digitDashAlpha | digitDashAlphaDash
  | digitDot | digitDotDot
  | digitSlash | digitYearSlash | digitSlashAlpha | digitColon
  | digitChineseYear | digitChineseYearWs
  | digitWs | digitWsMoYear | digitWsMolong
  | alpha | alphaWs | alphaWsDigit | alphaWsDigitMore | alphaWsDigitMoreWs | alphaWsDigitMoreWsYear
  | alphaWsMonth | alphaWsDigitYearMaybe | alphaWsMonthMore | alphaWsMonthSuffix | alphaWsMore
  | alphaWsAlpha | alphaWsAlphaYearMaybe | alphaPeriodWsDigit
  | weekdayComma | weekdayAbbrevComma
  deriving DecidableEq, Repr, Inhabited

/-- Where the reader stands in the time part of a text. -/
inductive TimeShape where
  | ignore | start
  | ws | wsAlpha | wsAlphaWs | wsAlphaZoneOffset | wsAlphaZoneOffsetWs | wsAlphaZoneOffsetWsYear
  | wsAlphaZoneOffsetWsExtra | wsAMPMMaybe | wsAMPM | wsOffset | wsOffsetWs | wsOffsetColonAlpha
  | wsOffsetColon | wsYear | offset | offsetColon
  | period | periodOffset | periodOffsetColon | periodOffsetColonWs | periodWs | periodWsAlpha
  | periodWsOffset | periodWsOffsetWsAlpha | periodWsOffsetColon | periodWsOffsetColonAlpha
  | zulu | zuluDigit
  deriving DecidableEq, Repr, Inhabited

/-- What the reader has learned of a text: its states, the text, the layout written over a copy
of it, and where each part starts and how long it is (zero for not yet seen). -/
structure Guess where
  date : DateShape := .start
  time : TimeShape := .ignore
  text : Array UInt8
  layout : Array UInt8
  yearAt : Int := 0
  yearLen : Int := 0
  monthAt : Int := 0
  monthLen : Int := 0
  dayAt : Int := 0
  dayLen : Int := 0
  hourAt : Int := 0
  hourLen : Int := 0
  minuteAt : Int := 0
  minuteLen : Int := 0
  secondAt : Int := 0
  secondLen : Int := 0
  fracAt : Int := 0
  fracLen : Int := 0
  offsetAt : Int := 0
  zoneAt : Int := 0
  zoneLen : Int := 0
  firstLen : Int := 0
  extra : Int := 0
  skip : Int := 0
  /-- A month named in full at the front, lowercased. -/
  fullMonth : Bytes := []
  /-- The moment, when the text is a count since the Unix epoch. -/
  stamp : Option Instant := none
  deriving Repr, Inhabited

/-! ## Classes of characters -/

/-- Whether a character is a decimal digit of some script. -/
def isDigitRune (c : Char) : Bool :=
  let n := c.toNat
  ('0' ≤ c && c ≤ '9') || (0x660 ≤ n && n ≤ 0x669) || (0x6F0 ≤ n && n ≤ 0x6F9) ||
    (0x966 ≤ n && n ≤ 0x96F) || (0xFF10 ≤ n && n ≤ 0xFF19)

/-- Whether a character is a letter of some script. -/
def isLetterRune (c : Char) : Bool :=
  let n := c.toNat
  (n < 0x80 && c.isAlpha) || n == 0xAA || n == 0xB5 || n == 0xBA ||
    (0xC0 ≤ n && n ≤ 0x2C1 && n != 0xD7 && n != 0xF7) ||
    (0x370 ≤ n && n ≤ 0x3FF && n != 0x375 && n != 0x37E && n != 0x384 && n != 0x385 &&
      n != 0x387 && n != 0x3F6) ||
    (0x400 ≤ n && n ≤ 0x481) || (0x48A ≤ n && n ≤ 0x52F) ||
    (0x531 ≤ n && n ≤ 0x556) || (0x561 ≤ n && n ≤ 0x587) ||
    (0x5D0 ≤ n && n ≤ 0x5EA) || (0x620 ≤ n && n ≤ 0x64A) ||
    (0x3041 ≤ n && n ≤ 0x3096) || (0x30A1 ≤ n && n ≤ 0x30FA) ||
    (0x3400 ≤ n && n ≤ 0x4DBF) || (0x4E00 ≤ n && n ≤ 0x9FFF) ||
    (0xAC00 ≤ n && n ≤ 0xD7A3) || (0xFF21 ≤ n && n ≤ 0xFF3A) || (0xFF41 ≤ n && n ≤ 0xFF5A)

/-- The months named in full, lowercased. -/
def fullMonthNames : List String :=
  ["january", "february", "march", "april", "may", "june", "july", "august", "september",
    "october", "november", "december"]

/-- The days of the week, short and in full, lowercased. -/
def dayNames : List String :=
  ["mon", "tue", "wed", "thu", "fri", "sat", "sun", "monday", "tuesday", "wednesday", "thursday",
    "friday", "saturday", "sunday"]

/-- ASCII letters lowercased. -/
def lowerBytes (s : Bytes) : Bytes :=
  s.map fun c => if ascii 'A' ≤ c && c ≤ ascii 'Z' then c + 32 else c

/-! ## Writing the layout -/

namespace Guess

/-- A guess about a text, with the layout a copy of the text. -/
def ofText (s : Bytes) : Guess := { text := s.toArray, layout := s.toArray }

/-- The byte of the text at a position, zero outside it. -/
def byteAt (g : Guess) (i : Int) : UInt8 := if i < 0 then 0 else g.text.getD i.toNat 0

/-- Whether the byte after a position is `c`. -/
def nextIs (g : Guess) (i : Int) (c : Char) : Bool :=
  (g.text.size : Int) > i + 1 && g.byteAt (i + 1) == ascii c

/-- Writes an element over the layout from a position, when it fits. -/
def put (g : Guess) (start : Int) (val : String) : Guess :=
  let bs := asciiBytes val
  if start < 0 || (g.layout.size : Int) < start + bs.length then g
  else
    let layout := bs.zipIdx.foldl (fun a (b, k) => a.setIfInBounds (start.toNat + k) b) g.layout
    { g with layout }

/-- Writes the month element for a month of one or two digits. -/
def putMonth (g : Guess) : Guess :=
  if g.monthLen == 2 then g.put g.monthAt "01"
  else if g.monthLen == 1 then g.put g.monthAt "1" else g

/-- Writes the day element for a day of one or two digits. -/
def putDay (g : Guess) : Guess :=
  if g.dayLen == 2 then g.put g.dayAt "02"
  else if g.dayLen == 1 then g.put g.dayAt "2" else g

/-- Writes the year element for a year of two or four digits. -/
def putYear (g : Guess) : Guess :=
  if g.yearLen == 2 then g.put g.yearAt "06"
  else if g.yearLen == 4 then g.put g.yearAt "2006" else g

/-- Cuts the text and the layout before an extra part, when there is one. -/
def trimExtra (g : Guess) : Guess :=
  if g.extra > 0 && (g.layout.size : Int) > g.extra then
    { g with layout := g.layout.extract 0 g.extra.toNat, text := g.text.extract 0 g.extra.toNat }
  else g

/-- Closes the date parts still open at a position. -/
def closeDate (g : Guess) (stop : Int) : Guess :=
  let g := if g.yearAt > 0 then
      (if g.yearLen == 0 then { g with yearLen := stop - g.yearAt } else g).putYear
    else g
  let g := if g.monthAt > 0 && g.monthLen == 0 then { g with monthLen := stop - g.monthAt }.putMonth
    else g
  if g.dayAt > 0 && g.dayLen == 0 then { g with dayLen := stop - g.dayAt }.putDay else g

/-- Closes the time parts still open at a position: hour, minute and second elements, and zeros
for the digits of a fraction. -/
def closeTime (g : Guess) (stop : Int) : Guess :=
  let g := if g.hourAt > 0 then
      if g.hourLen == 2 then g.put g.hourAt "15"
      else if g.hourLen == 1 then g.put g.hourAt "3" else g
    else g
  let g := if g.minuteAt > 0 then
      let g := if g.minuteLen == 0 then { g with minuteLen := stop - g.minuteAt } else g
      if g.minuteLen == 2 then g.put g.minuteAt "04" else g.put g.minuteAt "4"
    else g
  let g := if g.secondAt > 0 then
      let g := if g.secondLen == 0 then { g with secondLen := stop - g.secondAt } else g
      if g.secondLen == 2 then g.put g.secondAt "05" else g.put g.secondAt "5"
    else g
  if g.fracAt > 0 then
    let layout := (List.range g.fracLen.toNat).foldl
      (fun a k => a.setIfInBounds (g.fracAt.toNat + k) (ascii '0')) g.layout
    { g with layout }
  else g

/-- Closes a zone name at a position, writing the zone element over a name of three letters, or
of four after a blank. -/
def closeZone (g : Guess) (stop : Int) : Guess :=
  let g := { g with zoneLen := stop - g.zoneAt }
  if g.zoneLen == 4 then g.put g.zoneAt " MST"
  else if g.zoneLen == 3 then g.put g.zoneAt "MST" else g

end Guess

/-! ## The machine -/

/-- One move of the machine: go on after a position, stop the part at a position, fail, or start
over on a changed text. -/
inductive Move where
  | next (g : Guess) (i : Int)
  | stop (g : Guess) (i : Int)
  | fail (message : String)
  | again (text : Bytes)
  deriving Inhabited

/-- The failure for a text whose shape is not recognised. -/
def unknownShape (text : Bytes) : String := "Could not find format for " ++ quoteBytes text

/-- The text with the bytes from `a` up to `b` left out. -/
def cutOut (s : Array UInt8) (a b : Int) : Bytes :=
  (s.extract 0 a.toNat).toList ++ (s.extract b.toNat s.size).toList

/-- One move over a character of the date part, at position `i` (its last byte). -/
def dateMove (g : Guess) (i : Int) (r : Char) : Move :=
  let unknown := Move.fail (unknownShape g.text.toList)
  match g.date with
  | .start =>
    if isDigitRune r then .next { g with date := .digit } i
    else if isLetterRune r then .next { g with date := .alpha } i
    else unknown
  | .digit =>
    let first := fun (g : Guess) => Move.next { g with firstLen := i } i
    if r == '-' || r == '−' then
      if i == 4 then first ({ g with date := .yearDash, yearAt := 0, yearLen := i, monthAt := i + 1 }.put 0 "2006")
      else first { g with date := .digitDash }
    else if r == '/' then
      if i == 4 then first { g with date := .digitYearSlash, yearLen := i, monthAt := i + 1 }.putYear
      else if (g.text.size : Int) > i + 2 && isLetterRune (Char.ofNat (g.byteAt (i + 1)).toNat) then
        -- a month by name after the day, as in 08/May/2005
        first { g with date := .digitSlashAlpha, monthAt := i + 1, dayAt := 0, dayLen := i }.putDay
      else if g.monthLen == 0 then
        first { { g with date := .digitSlash, monthLen := i }.putMonth with dayAt := i + 1 }
      else first { g with date := .digitSlash }
    else if r == ':' then
      if i == 4 then first { g with date := .digitColon, yearLen := i, monthAt := i + 1 }.putYear
      else if g.monthLen == 0 then
        first { { g with date := .digitColon, monthLen := i }.putMonth with dayAt := i + 1 }
      else first { g with date := .digitColon }
    else if r == '.' then
      if i == 4 then first { g with date := .digitDot, yearLen := i, monthAt := i + 1 }.putYear
      else first { { g with date := .digitDot, monthAt := 0, monthLen := i }.putMonth with dayAt := i + 1 }
    else if r == ' ' then
      if i == 6 then first { g with date := .digitSt }
      else first { g with date := .digitWs, dayAt := 0, dayLen := i }
    else if r == '年' then first { g with date := .digitChineseYear }
    else if r == ',' then unknown
    else .next g i
  | .yearDash =>
    if r == '-' then
      .next { g with monthLen := i - g.monthAt, dayAt := i + 1, date := .yearDashDash }.putMonth i
    else if isLetterRune r then .next { g with date := .yearDashAlphaDash } i
    else .next g i
  | .yearDashDash =>
    if r == '+' || r == '-' then
      .next { g with offsetAt := i, dayLen := i - g.dayAt, date := .yearDashDashOffset }.putDay i
    else if r == ' ' then
      .stop { g with dayLen := i - g.dayAt, date := .yearDashDashWs, time := .start }.putDay i
    else if r == 'T' then
      .stop { g with dayLen := i - g.dayAt, date := .yearDashDashT, time := .start }.putDay i
    else .next g i
  | .yearDashDashOffset =>
    if r == ':' then .next (g.put g.offsetAt "-07:00") i else .next g i
  | .yearDashAlphaDash =>
    if r == '-' then
      .next { { g with monthLen := i - g.monthAt }.put g.monthAt "Jan" with dayAt := i + 1 } i
    else .next g i
  | .digitDash =>
    if isLetterRune r then .next { g with date := .digitDashAlpha, monthAt := i } i else unknown
  | .digitDashAlpha =>
    if r == '-' then
      .next { { g with monthLen := i - g.monthAt }.put g.monthAt "Jan" with
        yearAt := i + 1, date := .digitDashAlphaDash } i
    else .next g i
  | .digitDashAlphaDash =>
    if r == ' ' then
      let length := i - (g.monthAt + g.monthLen + 1)
      let g :=
        if length == 4 then
          { { g with yearLen := 4 }.put g.yearAt "2006" with dayAt := 0, dayLen := g.firstLen }.putDay
        else if length == 2 then
          { { g with yearLen := 2 }.put g.yearAt "06" with dayAt := 0, dayLen := g.firstLen }.putDay
        else g
      .stop { g with time := .start } i
    else .next g i
  | .digitYearSlash =>
    if r == ' ' || r == ':' then
      let g := { g with time := .start }
      .stop (if g.dayLen == 0 then { g with dayLen := i - g.dayAt }.putDay else g) i
    else if r == '/' then
      if g.monthLen == 0 then
        .next { { g with monthLen := i - g.monthAt }.putMonth with dayAt := i + 1 } i
      else .next g i
    else .next g i
  | .digitSlashAlpha =>
    if r == '/' then
      if g.monthLen == 0 then .next { (g.put g.monthAt "Jan") with yearAt := i + 1 } i else .next g i
    else if r == ' ' || r == ':' then
      let g := { g with time := .start }
      .stop (if g.yearLen == 0 then { g with yearLen := i - g.yearAt }.putYear else g) i
    else .next g i
  | .digitSlash =>
    if r == ' ' then
      let g := { g with time := .start }
      .stop (if g.yearLen == 0 then { g with yearLen := i - g.yearAt }.putYear
        else if g.dayLen == 0 then { g with dayLen := i - g.dayAt }.putDay else g) i
    else if r == '/' then
      if g.yearLen > 0 then
        if g.monthLen == 0 then
          .next { { g with monthLen := i - g.monthAt }.putMonth with dayAt := i + 1 } i
        else .next g i
      else if g.dayLen == 0 then
        .next { { g with dayLen := i - g.dayAt }.putDay with yearAt := i + 1 } i
      else .next g i
    else .next g i
  | .digitColon =>
    if r == ' ' then
      let g := { g with time := .start }
      .stop (if g.yearLen == 0 then { g with yearLen := i - g.yearAt }.putYear
        else if g.dayLen == 0 then { g with dayLen := i - g.dayAt }.putDay else g) i
    else if r == ':' then
      if g.yearLen > 0 then
        if g.monthLen == 0 then
          .next { { g with monthLen := i - g.monthAt }.putMonth with dayAt := i + 1 } i
        else .next g i
      else if g.dayLen == 0 then
        .next { { g with dayLen := i - g.dayAt }.putDay with yearAt := i + 1 } i
      else .next g i
    else .next g i
  | .digitWs =>
    if r == ' ' then
      let g := { g with yearAt := i + 1, dayAt := 0, dayLen := g.firstLen }.putDay
      let g := { g with time := .start }
      if i > g.dayLen + 4 then .next { g with date := .digitWsMolong } i
      else
        let g := { g with monthAt := g.dayLen + 1 }
        .next { { g with monthLen := i - g.monthAt }.put g.monthAt "Jan" with date := .digitWsMoYear } i
    else .next g i
  | .digitWsMoYear =>
    if r == ',' then .stop { g with yearLen := i - g.yearAt }.putYear (i + 1)
    else if r == ' ' then .stop { g with yearLen := i - g.yearAt }.putYear i
    else .next g i
  | .digitWsMolong => .next g i
  | .digitSt => .stop ({ g with time := .start }.put 0 "060102") (i - 1)
  | .digitChineseYear =>
    if r == ' ' then .next { g with date := .digitChineseYearWs } i else .next g i
  | .digitDot =>
    if r == '.' then
      if g.monthAt == 0 then
        .next { { g with dayLen := i - g.dayAt, yearAt := i + 1 }.putDay with date := .digitDotDot } i
      else
        .next { { g with monthLen := i - g.monthAt, dayAt := i + 1 }.putMonth with date := .digitDotDot } i
    else .next g i
  | .digitDotDot => .next g i
  | .alpha =>
    if r == ' ' then
      let word := lowerBytes (g.text.extract 0 i.toNat).toList
      if i > 3 && fullMonthNames.any (fun m => asciiBytes m == word) then
        let shape := if (g.text.size : Int) - i < 10 then DateShape.alphaWsMonth else .alphaWsMore
        .next { g with fullMonth := word, dayAt := i + 1, date := shape } i
      -- a short day name in front says nothing: the rest is read on its own
      else if i ≤ 3 && dayNames.any (fun d => asciiBytes d == word) then
        .again (g.text.extract (i + 1).toNat g.text.size).toList
      else .next { g with date := .alphaWs } i
    else if r == ',' then
      if i == 3 then .next ({ g with date := .weekdayAbbrevComma }.put 0 "Mon") i
      else .next { g with date := .weekdayComma, skip := i + 2 } (i + 1)
    else if r == '.' then
      if i == 3 then .next ({ g with date := .alphaPeriodWsDigit, monthLen := i }.put 0 "Jan") i
      else if i == 4 then .again (cutOut g.text (i - 1) i)
      else unknown
    else .next g i
  | .alphaWs =>
    if isLetterRune r then
      .next ({ (g.put 0 "Mon") with date := .alphaWsAlpha }.put i "Jan") i
    else if isDigitRune r then
      .next { (g.put 0 "Jan") with date := .alphaWsDigit, dayAt := i } i
    else .next g i
  | .alphaWsDigit =>
    if r == ',' then
      .next { { g with dayLen := i - g.dayAt }.putDay with date := .alphaWsDigitMore } i
    else if r == ' ' then
      .next { { g with dayLen := i - g.dayAt }.putDay with
        yearAt := i + 1, date := .alphaWsDigitYearMaybe, time := .start } i
    else if isLetterRune r then .next { g with date := .alphaWsMonthSuffix } (i - 1)
    else .next g i
  | .alphaWsDigitYearMaybe =>
    -- a colon shows the number was an hour, not a year
    if r == ':' then .stop { g with date := .alphaWsDigit, yearAt := 0 } (i - 3)
    else if r == ' ' then .stop { g with yearLen := i - g.yearAt }.putYear i
    else .next g i
  | .alphaWsDigitMore =>
    if r == ' ' then .next { g with yearAt := i + 1, date := .alphaWsDigitMoreWs } i else .next g i
  | .alphaWsDigitMoreWs =>
    if r == '\x27' then .next { g with yearAt := i + 1 } i
    else if r == ' ' || r == ',' then
      .stop { { g with date := .alphaWsDigitMoreWsYear, yearLen := i - g.yearAt }.putYear with
        time := .start } i
    else .next g i
  | .alphaWsAlpha =>
    if r == ' ' then
      if g.dayAt > 0 then
        .next { { g with dayLen := i - g.dayAt }.putDay with
          yearAt := i + 1, date := .alphaWsAlphaYearMaybe, time := .start } i
      else .next g i
    else if isDigitRune r then
      .next (if g.dayAt == 0 then { g with dayAt := i } else g) i
    else .next g i
  | .alphaWsAlphaYearMaybe =>
    if r == ':' then .stop { g with date := .alphaWsAlpha, yearAt := 0 } (i - 3)
    else if r == ' ' then .stop { g with yearLen := i - g.yearAt }.putYear i
    else .next g i
  | .alphaWsMonth =>
    if r == ' ' || r == ',' then
      .next (if g.dayLen == 0 then { g with dayLen := i - g.dayAt }.putDay else g) i
    else if "sSrRtTnN".toList.contains r then .next { g with date := .alphaWsMonthSuffix } (i - 1)
    else .next (if g.dayLen > 0 && g.yearAt == 0 then { g with yearAt := i } else g) i
  | .alphaWsMonthMore =>
    if r == ',' then .stop { { g with yearLen := i - g.yearAt }.putYear with time := .start } (i + 1)
    else if r == ' ' then .stop { { g with yearLen := i - g.yearAt }.putYear with time := .start } i
    else .next g i
  | .alphaWsMonthSuffix =>
    let suffix := fun (a b : Char) =>
      if g.nextIs i a || g.nextIs i b then
        if (g.text.size : Int) > i + 2 then Move.again (cutOut g.text i (i + 2)) else .next g i
      else .next g i
    if r == 't' || r == 'T' then suffix 'h' 'H'
    else if r == 'n' || r == 'N' then suffix 'd' 'D'
    else if r == 's' || r == 'S' then suffix 't' 'T'
    else if r == 'r' || r == 'R' then suffix 'd' 'D'
    else .next g i
  | .alphaWsMore =>
    if r == ',' then
      if g.nextIs i ' ' then
        .next { { g with dayLen := i - g.dayAt }.putDay with
          yearAt := i + 2, date := .alphaWsMonthMore } (i + 1)
      else .next g i
    else if r == ' ' then
      .next { { g with dayLen := i - g.dayAt }.putDay with yearAt := i + 1, date := .alphaWsMonthMore } i
    else if isDigitRune r then .next g i
    else if isLetterRune r then
      .next { { g with dayLen := i - g.dayAt }.putDay with date := .alphaWsMonthSuffix } (i - 1)
    else .next g i
  | .alphaPeriodWsDigit =>
    if r == ' ' then .next g i
    else if isDigitRune r then .next { g with date := .alphaWsDigit, dayAt := i } i
    else unknown
  | .weekdayComma =>
    let g := if g.dayAt == 0 then { g with dayAt := i } else g
    if r == ' ' || r == '-' then
      if g.monthAt == 0 then .next { g with monthAt := i + 1, dayLen := i - g.dayAt }.putDay i
      else if g.yearAt == 0 then
        .next ({ g with yearAt := i + 1, monthLen := i - g.monthAt }.put g.monthAt "Jan") i
      else .stop { g with time := .start } i
    else .next g i
  | .weekdayAbbrevComma =>
    if r == ' ' || r == '-' then
      if g.dayAt == 0 then .next { g with dayAt := i + 1 } i
      else if g.monthAt == 0 then .next { { g with dayLen := i - g.dayAt }.putDay with monthAt := i + 1 } i
      else if g.yearAt == 0 then
        .next { { g with monthLen := i - g.monthAt }.put g.monthAt "Jan" with yearAt := i + 1 } i
      else .stop { { g with yearLen := i - g.yearAt }.putYear with time := .start } i
    else .next g i
  | _ => .stop g i

/-- One move over a byte of the time part, at position `i`; `src` is the text the machine walks. -/
def timeMove (src : Array UInt8) (g : Guess) (i : Int) (r : Char) : Move :=
  let srcAt := fun (k : Int) => if k < 0 then (0 : UInt8) else src.getD k.toNat 0
  match g.time with
  | .start =>
    let g := if g.hourAt == 0 then { g with hourAt := i } else g
    if r == ',' then
      -- a comma before a fraction is read as a period
      .again ((g.text.setIfInBounds i.toNat (ascii '.')).toList)
    else if r == '-' || r == '+' then
      let g := if g.secondAt == 0 then { g with minuteLen := i - g.minuteAt }
        else
          let g := if g.secondLen == 0 then { g with secondLen := i - g.secondAt } else g
          if g.fracAt > 0 && g.fracLen == 0 then { g with fracLen := i - g.fracAt } else g
      .next { g with time := .offset, offsetAt := i } i
    else if r == '.' then
      .next { g with time := .period, secondLen := i - g.secondAt, fracAt := i + 1 } i
    else if r == 'Z' then
      let g := if g.secondAt == 0 then { g with minuteLen := i - g.minuteAt }
        else { g with secondLen := i - g.secondAt }
      .next { g with time := .zulu } i
    else if r == 'a' || r == 'A' then
      if g.nextIs i 't' || g.nextIs i 'T' then
        -- the word "at" before a time
        if g.nextIs (i + 1) ' ' then .next { g with hourAt := 0 } (i + 2) else .next g (i + 1)
      else if r == 'a' && g.nextIs i 'm' then .next ((g.closeTime i).put i "am") i
      else if r == 'A' && g.nextIs i 'M' then .next ((g.closeTime i).put i "PM") i
      else .next g i
    else if r == 'p' && g.nextIs i 'm' then .next ((g.closeTime i).put i "pm") i
    else if r == 'P' && g.nextIs i 'M' then .next ((g.closeTime i).put i "PM") i
    else if r == ' ' then .next { (g.closeTime i) with time := .ws } i
    else if r == ':' then
      if g.minuteAt == 0 then .next { g with minuteAt := i + 1, hourLen := i - g.hourAt } i
      else if g.secondAt == 0 then .next { g with secondAt := i + 1, minuteLen := i - g.minuteAt } i
      else
        -- a colon before milliseconds: read as a period in the text as in the layout
        let g := { g with secondLen := i - g.secondAt, fracAt := i + 1 }
        let g := (g.put g.secondAt "05").put i "."
        .next { g with text := g.text.setIfInBounds i.toNat (ascii '.') } i
    else .next g i
  | .offset => .next (if r == ':' then { g with time := .offsetColon } else g) i
  | .ws =>
    if r == 'A' || r == 'P' then .next { g with zoneAt := i, time := .wsAMPMMaybe } i
    else if r == '+' || r == '-' then .next { g with offsetAt := i, time := .wsOffset } i
    else if isLetterRune r then .next { g with zoneAt := i, time := .wsAlpha } i
    else if isDigitRune r then .next { g with time := .wsYear, yearAt := i } i
    else .next g i
  | .wsAlpha =>
    if r == '+' || r == '-' then .next { (g.closeZone i) with time := .wsAlphaZoneOffset, offsetAt := i } i
    else if r == ' ' then .next { (g.closeZone i) with time := .wsAlphaWs, yearAt := i + 1 } i
    else .next g i
  | .wsAlphaZoneOffset =>
    if r == ' ' then
      .next { (g.put g.offsetAt "-0700") with yearAt := i + 1, time := .wsAlphaZoneOffsetWs } i
    else .next g i
  | .wsAlphaZoneOffsetWs =>
    if isDigitRune r then .next { g with time := .wsAlphaZoneOffsetWsYear } i
    else .next { g with extra := i - 1, time := .wsAlphaZoneOffsetWsExtra } i
  | .wsAlphaZoneOffsetWsYear =>
    if isDigitRune r then
      let g := { g with yearLen := i - g.yearAt + 1 }
      .next (if g.yearLen == 4 then g.putYear else g) i
    else .next g i
  | .wsAMPMMaybe =>
    if r == 'M' then
      let g := { g with time := .wsAMPM }.put (i - 1) "PM"
      .next (if g.hourLen == 2 then g.put g.hourAt "03"
        else if g.hourLen == 1 then g.put g.hourAt "3" else g) i
    else .next { g with time := .wsAlpha } i
  | .wsOffset =>
    if r == ':' then .next { g with time := .wsOffsetColon } i
    else if r == ' ' then .next { (g.put g.offsetAt "-0700") with yearAt := i + 1, time := .wsOffsetWs } i
    else .next g i
  | .wsOffsetWs =>
    if r == '=' then
      -- a monotonic clock reading printed after the zone
      if srcAt (i - 1) == ascii 'm' then .next { g with extra := i - 2 }.trimExtra i else .next g i
    else if r == '+' || r == '-' || r == '(' then
      .next { g with extra := i - 1, time := .wsOffset }.trimExtra i
    else if isDigitRune r then
      let g := { g with yearLen := i - g.yearAt + 1 }
      .next (if g.yearLen == 4 then g.putYear else g) i
    else if isLetterRune r then .next (if g.zoneAt == 0 then { g with zoneAt := i } else g) i
    else .next g i
  | .wsOffsetColon =>
    if isLetterRune r then .stop { g with time := .wsOffsetColonAlpha } i else .next g i
  | .period =>
    if r == ' ' then .next { g with fracLen := i - g.fracAt, time := .periodWs } i
    else if r == '+' || r == '-' then
      .next { g with fracLen := i - g.fracAt, offsetAt := i, time := .periodOffset } i
    else if isLetterRune r then .next { g with fracLen := i - g.fracAt, time := .periodWsAlpha } i
    else .next g i
  | .periodOffset => .next (if r == ':' then { g with time := .periodOffsetColon } else g) i
  | .periodOffsetColon =>
    if r == ' ' then
      .next { (g.put g.offsetAt "-07:00") with time := .periodOffsetColonWs, zoneAt := i + 1 } i
    else .next g i
  | .periodWs =>
    let g := if g.offsetAt == 0 then { g with offsetAt := i } else g
    if r == '+' || r == '-' then .next { g with fracLen := i - g.fracAt - 1, time := .periodWsOffset } i
    else if isLetterRune r then .stop { g with time := .periodWsOffsetWsAlpha } i
    else .next g i
  | .periodWsOffset =>
    if r == ':' then .next { g with time := .periodWsOffsetColon } i
    else if r == ' ' then .next (g.put g.offsetAt "-0700") i
    else if r == '+' || r == '-' then .next { g with extra := i - 1 }.trimExtra i
    else if isLetterRune r then .next { g with time := .periodWsOffsetWsAlpha } i
    else .next g i
  | .periodWsOffsetWsAlpha =>
    if r == '=' && srcAt (i - 1) == ascii 'm' then .next { g with extra := i - 2 }.trimExtra i
    else .next g i
  | .periodWsOffsetColon =>
    if r == ' ' then .next (g.put g.offsetAt "-07:00") i
    else if isLetterRune r then .next { g with zoneAt := i, time := .periodWsOffsetColonAlpha } i
    else .next g i
  | .zulu => .next (if isDigitRune r then { g with time := .zuluDigit } else g) i
  | _ => .next g i

/-- How a walk over a part ended: the guess and the position it stopped at, a failure, or a
changed text to start over on. -/
inductive Walk where
  | done (g : Guess) (i : Int)
  | fail (message : String)
  | again (text : Bytes)
  deriving Inhabited

/-- Walks the date part from position `i`, reading a character of several bytes as one. -/
def walkDate (g : Guess) (i : Int) : Nat → Walk
  | 0 => .done g i
  | fuel + 1 =>
    if i < 0 || (g.text.size : Int) ≤ i then .done g i
    else
      let (r, width) := (Bytes.front? (g.text.extract i.toNat (i.toNat + 4)).toList).getD ('�', 1)
      let i := i + ((width - 1 : Nat) : Int)
      match dateMove g i r with
      | .next g i => walkDate g (i + 1) fuel
      | .stop g i => .done g i
      | .fail m => .fail m
      | .again t => .again t

/-- Walks the time part from position `i` over the bytes of `src`. -/
def walkTime (src : Array UInt8) (g : Guess) (i : Int) : Nat → Walk
  | 0 => .done g i
  | fuel + 1 =>
    if i < 0 || (src.size : Int) ≤ i then .done g i
    else
      match timeMove src g i (Char.ofNat (src.getD i.toNat 0).toNat) with
      | .next g i => walkTime src g (i + 1) fuel
      | .stop g i => .done g i
      | .fail m => .fail m
      | .again t => .again t

/-- Settles the time part after its walk ended at `i`: zones and fractions still open. -/
def settleTime (g : Guess) (i : Int) : Guess :=
  let g := match g.time with
    | .wsAlphaWs | .wsYear => { g with yearLen := i - g.yearAt }.putYear
    | .wsAlphaZoneOffsetWsExtra => g.trimExtra
    | .wsAlphaZoneOffset =>
      if i - g.offsetAt < 4 then g.put g.offsetAt "-07" else g.put g.offsetAt "-0700"
    | .period => { g with fracLen := i - g.fracAt }
    | .offset => if i - g.offsetAt < 4 then g.put g.offsetAt "-07" else g.put g.offsetAt "-0700"
    | .wsOffset | .periodOffset | .periodWsOffset => g.put g.offsetAt "-0700"
    | .wsOffsetColon | .offsetColon | .periodOffsetColon => g.put g.offsetAt "-07:00"
    | .periodWsOffsetColonAlpha =>
      let g := { g with zoneLen := i - g.zoneAt }
      if g.zoneLen == 3 then g.put g.zoneAt "MST"
      else if g.zoneLen == 4 then g.put g.zoneAt "MST " else g
    | _ => g
  g.closeTime i

/-- The value of a text of decimal digits that fits in 63 bits. -/
def digitCount (s : Array UInt8) : Option Int :=
  let ds := s.toList
  if !ds.isEmpty && ds.all isDigitByte then
    let n := ds.foldl (fun n c => n * 10 + (c.toNat - 48)) (0 : Nat)
    if n < 9223372036854775808 then some (n : Int) else none
  else none

/-- The layout for a text of digits only, by its length, or the moment it counts. -/
def digitsOnly (g : Guess) : Except String Guess :=
  let n := g.text.size
  let count := fun (scale : Int) =>
    match digitCount g.text with
    | some v => .ok { g with stamp := some ⟨v * scale⟩ }
    | none => .error (unknownShape g.text.toList)
  if n == 19 then count 1
  else if n == 16 then count 1000
  else if n == 14 then .ok { g with layout := (asciiBytes "20060102150405").toArray }
  else if n == 13 then count 1000000
  else if n == 10 then count 1000000000
  else if n == 8 then .ok { g with layout := (asciiBytes "20060102").toArray }
  else if n == 4 then .ok { g with layout := (asciiBytes "2006").toArray }
  else if n < 4 then .error ("unrecognized format, too short " ++ (Bytes.text g.text.toList))
  else .error (unknownShape g.text.toList)

/-- Settles the date part once the walk over the text `src` is over, or fails for a shape with no
layout. -/
def settleDate (src : Array UInt8) (g : Guess) (i : Int) : Except String Guess :=
  match g.date with
  | .digit => digitsOnly g
  | .yearDash | .yearDashDash | .yearDashDashWs | .yearDashDashT | .yearDashDashOffset
  | .digitDotDot | .digitWsMoYear | .alphaWsMonthMore | .alphaWsDigitMoreWsYear | .alphaWsAlpha
  | .alphaWsDigit | .alphaWsDigitYearMaybe | .alphaWsAlphaYearMaybe | .digitSlash | .digitSlashAlpha | .digitYearSlash
  | .digitColon | .weekdayComma | .weekdayAbbrevComma | .digitSt => .ok g
  | .yearDashAlphaDash => .ok { g with dayLen := i - g.dayAt }.putDay
  | .digitDashAlphaDash =>
    let length := (src.size : Int) - (g.monthAt + g.monthLen + 1)
    if length == 4 then
      .ok { { g with yearLen := 4 }.put g.yearAt "2006" with dayAt := 0, dayLen := g.firstLen }.putDay
    else if length == 2 then
      .ok { { g with yearLen := 2 }.put g.yearAt "06" with dayAt := 0, dayLen := g.firstLen }.putDay
    else .ok g
  | .digitDot => .ok { g with monthLen := i - g.monthAt }.putMonth
  | .digitWsMolong =>
    .ok { g with layout := (asciiBytes (if g.dayLen == 2 then "02 January 2006" else "2 January 2006")).toArray }
  | .alphaWsMonth | .alphaWsDigitMoreWs => .ok { g with yearLen := i - g.yearAt }.putYear
  | .digitChineseYear => .ok { g with layout := (Bytes.ofString "2006年01月02日").toArray }
  | .digitChineseYearWs => .ok { g with layout := (Bytes.ofString "2006年01月02日 15:04:05").toArray }
  | _ => .error (unknownShape src.toList)

/-- Where the time part starts after the date walk stopped at `i`: past the stopping character
and any blanks. -/
def timeStartAt (text : Array UInt8) (i : Int) : Int :=
  let i := if i < (text.size : Int) then i + 1 else i
  let blanks := ((text.toList.drop i.toNat).takeWhile (· == ascii ' ')).length
  i + blanks

/-- Learns the shape of a text: the guess with its layout, or why none was found. A changed text
to start over on is handed back as `again`. -/
def learnShape (text : Bytes) : Walk :=
  let g := Guess.ofText text
  let fuel := 2 * text.length + 4
  match walkDate g 0 fuel with
  | .fail m => .fail m
  | .again t => .again t
  | .done g i =>
    let g := g.closeDate i
    let timed : Walk :=
      if g.time == .start then
        let src := g.text
        match walkTime src g (timeStartAt src i) fuel with
        | .done g j => .done (settleTime g j) j
        | w => w
      else .done g i
    match timed with
    | .done g j =>
      match settleDate text.toArray g j with
      | .ok g => .done g j
      | .error m => .fail m
    | w => w

/-- Reads a text by the layout learned for it. -/
def Guess.read (g : Guess) : Except String Instant :=
  match g.stamp with
  | some t => .ok t
  | none =>
    let g :=
      if !g.fullMonth.isEmpty && g.monthAt == 0 then
        { g with layout := (asciiBytes "January").toArray ++ g.layout.extract g.fullMonth.length g.layout.size }
      else g
    let g :=
      if g.skip > 0 && (g.layout.size : Int) > g.skip then
        { g with layout := g.layout.extract g.skip.toNat g.layout.size,
                 text := g.text.extract g.skip.toNat g.text.size }
      else g
    match readByLayout g.layout.toList g.text.toList with
    | .ok t => .ok t
    | .error e => .error e.text

/-- The moment a text names, read in UTC when it names no zone; `fuel` bounds the number of
times the text is changed and read again. -/
def readAnyTimeWith (text : Bytes) : Nat → Except String Instant
  | 0 => .error (unknownShape text)
  | fuel + 1 =>
    match learnShape text with
    | .done g _ => g.read
    | .fail m => .error m
    | .again t => readAnyTimeWith t fuel

/-- The moment a text names, read in UTC when it names no zone. Every change before a reread
removes a character or turns a comma into a period, so twice the length bounds the rereads. -/
def readAnyTime (s : String) : Except String Instant :=
  let bs := Bytes.ofString s
  readAnyTimeWith bs (2 * bs.length + 2)

end ReadLater.Clock
