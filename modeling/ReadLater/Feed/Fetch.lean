import ReadLater.Feed.Convert
import ReadLater.Feed.Discovery
import ReadLater.Net.Guard
import ReadLater.Problem

/-!
# Fetching a feed

A source's feed is fetched over a transport: a function from a URL to a response, or to the
reason the request failed. The client asks for the URL (checked first by `Net.validateUrl`),
follows redirects that name a `Location` (at most ten requests in all), and takes the body of a
200 response, cut at the size limit. A page of HTML that is not itself a feed is searched for
the feed it announces, which is fetched once in turn; the body is then read as a feed and its
posts become incoming items.

Failures are `FETCH_FAILED` problems. A transport failure (`Get "url": reason`) and a status
of 429 or 5xx are worth trying again; other statuses are not.

* `Feed.Response`, `Feed.Transport`: the network as the client sees it;
* `Feed.clientGet`: a request with its redirects;
* `Feed.fetchItems`: the incoming items of a feed URL.
-/

namespace ReadLater.Feed

open Text

/-- A response: status, headers and body. -/
structure Response where
  status : Nat := 200
  headers : List (String × String) := []
  body : Bytes := []
  deriving Repr, Inhabited

/-- The first value of a header, by name in any letter case; empty when absent. -/
def Response.header (r : Response) (name : String) : String :=
  ((r.headers.find? fun (k, _) => Text.toLower k == Text.toLower name).map (·.2)).getD ""

/-- The network: what a GET of a URL answers, or why it failed. -/
abbrev Transport := String → Except String Response

/-- Whether a status sends the client on to the `Location` it names. -/
def isRedirect (status : Nat) : Bool := [301, 302, 303, 307, 308].contains status

/-- The URL a `Location` names, relative to the URL that answered with it. -/
def followLocation (current location : String) : Except String String :=
  match Net.Url.parse current, Net.Url.parse location with
  | .ok base, .ok ref => .ok (Net.Url.resolve base ref).render
  | _, .error e => .error e.message
  | .error e, _ => .error e.message

/-- A GET of a URL with its redirects: the last response, or the client's error. -/
def clientGet (transport : Transport) (url : String) : Except String Response :=
  go url 1 11
where
  go (u : String) (sent : Nat) : Nat → Except String Response
    | 0 => .error ("Get " ++ quote u ++ ": stopped after 10 redirects")
    | fuel + 1 =>
      match transport u with
      | .error e => .error ("Get " ++ quote u ++ ": " ++ e)
      | .ok r =>
        let loc := r.header "Location"
        if !isRedirect r.status || loc.isEmpty then .ok r
        else
          match followLocation u loc with
          | .error e =>
            .error ("Get " ++ quote u ++ ": failed to parse Location header " ++ quote loc ++ ": " ++ e)
          | .ok next =>
            if sent ≥ 10 then .error ("Get " ++ quote loc ++ ": stopped after 10 redirects")
            else go next (sent + 1) fuel

/-- The content type and body (cut at the size limit) of a URL that answers 200. -/
def fetchBody (transport : Transport) (maxSize : Nat) (url : String) :
    Except Problem (String × Bytes) :=
  match Net.validateUrl url with
  | .error e => .error (.fetchFailed e none none)
  | .ok () =>
    let target := match Net.Url.parse url with
      | .ok u => u.render
      | .error _ => url
    match clientGet transport target with
    | .error e => .error (.fetchFailed e none (some true))
    | .ok r =>
      if r.status != 200 then
        .error (.fetchFailed ("HTTP " ++ toString r.status ++ " from " ++ url) (some r.status)
          (some (retryableStatus r.status)))
      else .ok (r.header "Content-Type", r.body.take maxSize)

/-- The incoming items of a feed URL. A page of HTML that is not a feed leads to the feed it
announces, preferring one on its own host, then Atom. -/
def fetchItems (transport : Transport) (maxSize : Nat) (feedUrl : String) :
    Except Problem (List Incoming) := do
  let (contentType, body) ← fetchBody transport maxSize feedUrl
  let body ← if !isFeed contentType body && isHtml contentType then
      match selectBest (findFeedLinks body feedUrl) feedUrl with
      | none => throw (.fetchFailed ("no feed link found in " ++ feedUrl) none none)
      | some best => pure (← fetchBody transport maxSize best.url).2
    else pure body
  match readFeed body with
  | .error e => throw (.fetchFailed ("unparseable feed: " ++ e) none none)
  | .ok ch => return convertPosts ch

end ReadLater.Feed
