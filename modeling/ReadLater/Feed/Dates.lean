import ReadLater.Clock.Layout
import ReadLater.Text.Space

/-!
# Dates in feeds

Feeds write dates in many ways: RFC 822 and RFC 1123 in RSS, RFC 3339 in Atom, and a long
tail of variants with or without day names, seconds, commas or zones. A date is read by the
first of a list of layouts that reads it whole (see `Clock.readByLayout`); a zone named by
letters is taken as UTC.

* `Feed.dateLayouts`: the layouts, in the order they are tried;
* `Feed.parseDate`: the moment a feed's date names, if any layout reads it.
-/

namespace ReadLater.Feed

open Text Clock

/-- The layouts feed dates are read by, in the order they are tried. -/
def dateLayouts : List String := [
  "02 Jan 06 15:04 MST",
  "02 Jan 06 15:04 -0700",
  "2006-01-02T15:04:05Z07:00",
  "Mon Jan _2 15:04:05 MST 2006",
  "Mon Jan 02 15:04:05 -0700 2006",
  "Monday, 02-Jan-06 15:04:05 MST",
  "Mon, 02 Jan 2006 15:04:05 -0700",
  "Mon, 02 Jan 2006 15:04:05 MST",
  "Mon Jan _2 15:04:05 2006",
  "Mon, January 2 2006 15:04:05 -0700",
  "Mon, January 02, 2006, 15:04:05 MST",
  "Mon, January 02, 2006 15:04:05 MST",
  "Mon, Jan 2, 2006 15:04 MST",
  "Mon, Jan 2 2006 15:04 MST",
  "Mon, Jan 2, 2006 15:04:05 MST",
  "Mon, Jan 2 2006 15:04:05 -700",
  "Mon, Jan 2 2006 15:04:05 -0700",
  "Mon Jan 2 15:04 2006",
  "Mon Jan 2 15:04:05 2006 MST",
  "Mon Jan 02, 2006 3:04 pm",
  "Mon, Jan 02,2006 15:04:05 MST",
  "Mon Jan 02 2006 15:04:05 -0700",
  "Monday, January 2, 2006 15:04:05 MST",
  "Monday, January 2, 2006 03:04 PM",
  "Monday, January 2, 2006",
  "Monday, January 02, 2006",
  "Monday, 2 January 2006 15:04:05 MST",
  "Monday, 2 January 2006 15:04:05 -0700",
  "Monday, 2-Jan-06 15:04:05 MST",
  "Monday, 02-Jan-06 15:04:05 MST",
  "Mon, 2 January 2006 15:04 MST",
  "Mon, 2 January 2006, 15:04 -0700",
  "Mon, 2 January 2006, 15:04:05 MST",
  "Mon, 2 January 2006 15:04:05 MST",
  "Mon, 2 January 2006 15:04:05 -0700",
  "Mon, 2 January 2006",
  "Mon, 2 Jan 2006 3:04:05 PM -0700",
  "Mon, 2 Jan 2006 15:4:5 MST",
  "Mon, 2 Jan 2006 15:4:5 -0700 GMT",
  "Mon, 2, Jan 2006 15:4",
  "Mon, 2 Jan 2006 15:04:05 MST",
  "Mon, 2 Jan 2006 15:04:05 -0700 MST",
  "Mon, 2 Jan 2006 15:04:05 -0700 (MST)",
  "Mon, 2 Jan 2006 15:04:05 UT",
  "Mon, 2 Jan 2006 15:04:05 -0700",
  "Mon, 2 Jan 2006 15:04:05",
  "Mon, 2 Jan 2006 15:04 MST",
  "Mon, 2 Jan 2006 15:04 -0700",
  "Mon, 2 Jan 2006",
  "Mon, 2 Jan 06 15:04:05 MST",
  "Mon, 2 Jan 06 15:04:05 -0700",
  "Mon, 2 Jan 06 15:04 MST",
  "Mon, 02 January 2006",
  "Mon, 02 Jan 2006 15:04:05 -07:00",
  "Mon, 02 Jan 2006 15:04:05 00",
  "Mon, 02 Jan 2006 15:04:05 --0700",
  "Mon, 02 Jan 2006 15:04:05 GMT-0700",
  "Mon, 02 Jan 2006 15:04 MST",
  "Mon, 02 Jan 2006 15:04 -0700",
  "Mon, 02 Jan 2006",
  "Mon, 02 Jan 06 15:04:05 MST",
  "Mon, 02 Jan 06 15:04:05 -0700",
  "Mon, 02 Jan 06 15:04 MST",
  "Mon, 02 Jan 06 15:04 -0700",
  "Mon,02 Jan 2006 15:04:05 MST",
  "Mon,2 Jan 2006 15:04:05 MST",
  "Mon 2 Jan 2006 15:04:05 MST",
  "Mon 2 Jan 2006 15:04:05 -0700",
  "Mon 02 Jan 2006 15:04:05 MST",
  "Mon 02 Jan 2006 15:04:05 -0700",
  "Mon Jan 02 15:04:05 MST 2006",
  "Mon Jan 2 15:04:05 MST 2006",
  "Mon January 2 2006 15:04:05 MST",
  "Mon January 02 2006 15:04:05 -0700",
  "January 2, 2006 15:04:05 MST",
  "January 2, 2006, 3:04 p.m.",
  "January 2, 2006 3:04 PM",
  "January 2, 2006",
  "January 02, 2006 15:04:05 MST",
  "January 02, 2006 15:04",
  "January 02, 2006 03:04 PM",
  "January 02, 2006",
  "Jan 2, 2006 3:04:05 PM MST",
  "Jan 2, 2006 3:04:05 PM",
  "Jan 2, 2006 15:04:05 MST",
  "Jan 2, 2006",
  "Jan 02 2006 03:04:05PM",
  "Jan 02, 2006",
  "6/1/2 15:04",
  "6-1-2 15:04",
  "2 January 2006 15:04:05 MST",
  "2 January 2006 15:04:05 -0700",
  "2 January 2006",
  "2 Jan 2006 15:04:05 Z",
  "2 Jan 2006 15:04:05 MST",
  "2 Jan 2006 15:04:05 -0700",
  "2 Jan 2006",
  "2.1.2006 15:04:05",
  "2/1/2006",
  "2-1-2006",
  "2006 January 02",
  "2006-1-2T15:04:05Z",
  "2006-1-2 15:04:05",
  "2006-1-2",
  "2006-1-02T15:04:05Z",
  "2006-01-2",
  "2006-01-02T15:04:05-07:00",
  "2006-01-02T15:04:05-0700",
  "2006-01-02T15:04:05Z0700",
  "2006-01-02T15:04:05Z",
  "2006-01-02T15:04:05",
  "2006-01-02T15:04-07:00",
  "2006-01-02T15:04Z",
  "2006-01-02T15:04",
  "2006-01-02 at 15:04:05",
  "2006-01-02 15:04:05Z",
  "2006-01-02 15:04:05 MST",
  "2006-01-02 15:04:05-0700",
  "2006-01-02 15:04:05-07:00",
  "2006-01-02 15:04:05 -0700",
  "2006-01-02 15:04:05",
  "2006-01-02 15:04",
  "2006/01/02",
  "2006-01-02",
  "15:04 02.01.2006 -0700",
  "1/2/2006 3:04:05 PM MST",
  "1/2/2006 3:04:05 PM",
  "1/2/2006 15:04:05 MST",
  "1/2/2006",
  "06/1/2 15:04",
  "06-1-2 15:04",
  "02 Monday, Jan 2006 15:04",
  "02 Jan 2006 15:04:05 UT",
  "02 Jan 2006 15:04:05 -0700",
  "02 Jan 2006 15:04:05 MST",
  "02 Jan 2006 15:04:05",
  "02 Jan 2006 15:04 MST",
  "02 Jan 2006 15:04 -0700",
  "02 Jan 2006",
  "02.01.2006 15:04:05",
  "02-01-2006 15:04:05 MST",
  "02/01/2006 15:04 MST",
  "02/01/2006 15:04:05",
  "02/01/2006"]

/-- The moment a feed's date names: the text trimmed, read by the first layout that reads it
whole; none for blank text or text no layout reads. -/
def parseDate (text : String) : Option Instant :=
  let s := Text.trim text
  if s.isEmpty then none
  else
    let value := Bytes.ofString s
    dateLayouts.findSome? fun layout =>
      match readByLayout (Bytes.ofString layout) value with
      | .ok t => some t
      | .error _ => none

/-- The moment an RFC 3339 date names, if it is one. -/
def parseRfc3339 (text : String) : Option Instant :=
  match readByLayout (Bytes.ofString "2006-01-02T15:04:05Z07:00") (Bytes.ofString text) with
  | .ok t => some t
  | .error _ => none

end ReadLater.Feed
