import ReadLater.Markup.Strip
import ReadLater.Net.Url
import ReadLater.Text.Space

/-!
# Cleaning provider text

Fields that providers deliver are cleaned before they are stored, since clients show them as
plain text: text loses its markup (`Markup.stripMarkup`) and its runs of white space, and a URL is
kept only when it is an absolute http or https URL with a host, in its normal form.
-/

namespace ReadLater.Content

open Text

/-- Plain text: markup removed, character references read, words joined by single spaces. -/
def cleanText (raw : String) : String :=
  if raw.isEmpty then ""
  else " ".intercalate (Text.fields (Bytes.text (Markup.stripMarkup (Bytes.ofString raw))))

/-- An absolute http(s) URL with a host, in its normal form; otherwise the empty string. -/
def cleanUrl (raw : String) : String :=
  let t := Text.trim raw
  if t.isEmpty then ""
  else
    match Net.Url.parse t with
    | .error _ => ""
    | .ok u =>
      let scheme := Net.Bytes.lowerAscii u.scheme
      if u.host.isEmpty then ""
      else if scheme == Bytes.ofString "http" || scheme == Bytes.ofString "https" then u.render
      else ""

end ReadLater.Content
