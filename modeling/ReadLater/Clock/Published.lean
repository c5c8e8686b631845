import ReadLater.Clock.Guess
import ReadLater.Text.Space
import ReadLater.Text.Quote

/-!
# Publication times

Providers write publication times in many formats. A blank time means none is known; any other
text must be read as a moment (`Clock.readAnyTime`), with UTC for a time that names no zone.
-/

namespace ReadLater.Clock

/-- The publication time written in a text: none for a blank text, else the moment it names. -/
def parsePublishedAt (raw : String) : Except String (Option Instant) :=
  let s := Text.trim raw
  if s.isEmpty then .ok none
  else match readAnyTime s with
    | .ok t => .ok (some t)
    | .error m => .error ("unrecognized publishedAt " ++ Text.quote s ++ ": " ++ m)

end ReadLater.Clock
