import ReadLater.Markup.Tokenizer

/-!
# The text of a document without its markup

Stripping keeps only the text a reader would see, and drops every tag, comment and
declaration. The text inside `script` and `style` is dropped, and so is the text inside the
elements whose content is never shown: `frame`, `frameset`, `iframe`, `noembed`, `noframes`,
`noscript`, `nostyle`, `object` and `title`. Those are counted as they open and close, and text
is shown again once as many have closed as opened; a stray end tag counts as a close.
-/

namespace ReadLater.Markup

open Text

/-- The elements whose content is hidden. -/
def hiddenElements : List String :=
  ["frame", "frameset", "iframe", "noembed", "noframes", "noscript", "nostyle", "object", "script",
    "style", "title"]

/-- Whether a name is `script` or `style`, whose text is code. -/
def isCodeElement (name : Bytes) : Bool :=
  name == Bytes.ofString "script" || name == Bytes.ofString "style"

/-- Whether an element's content is hidden. -/
def isHidden (name : Bytes) : Bool := hiddenElements.any fun h => Bytes.ofString h == name

/-- What stripping keeps track of: the text kept so far (last piece first), how many hidden
elements are open, whether text is hidden, and the element opened last. -/
structure Stripping where
  kept : List Bytes := []
  hiddenDepth : Int := 0
  hidden : Bool := false
  lastOpened : Bytes := []
  deriving Repr, Inhabited

/-- Takes one token into account. -/
def Stripping.step (s : Stripping) : Token → Stripping
  | .startTag name _ =>
    let s := { s with lastOpened := name }
    if isCodeElement name then s
    else if isHidden name then { s with hidden := true, hiddenDepth := s.hiddenDepth + 1 }
    else s
  | .endTag name =>
    let s := if s.lastOpened == name then { s with lastOpened := [] } else s
    if isCodeElement name then s
    else if isHidden name then
      let depth := s.hiddenDepth - 1
      { s with hiddenDepth := depth, hidden := if depth == 0 then false else s.hidden }
    else s
  | .text data =>
    if s.hidden || isCodeElement s.lastOpened then s else { s with kept := data :: s.kept }
  | _ => s

/-- The text of a document once its markup is stripped, character references read. -/
def stripMarkup (doc : Bytes) : Bytes :=
  ((tokenize doc).foldl Stripping.step {}).kept.reverse.flatten

end ReadLater.Markup
