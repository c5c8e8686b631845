import ReadLater.Json.Read
import ReadLater.Json.Write
import ReadLater.Text.Base64
import ReadLater.Text.Case
import ReadLater.Text.Space
import ReadLater.Crypto.Hmac

/-!
# Bearer tokens

Clients of the sync API present a signed web token (RFC 7519) as `Authorization: Bearer <token>`.
A token is three base64 parts joined by dots: a header naming the signing algorithm, the claims,
and the HMAC-SHA-256 of the first two parts under the service's secret.

A token is accepted when all of these hold, checked in this order:

* it has exactly three parts, the first two base64 of JSON: an object header and an object of
  claims whose registered members have their types (`iss`, `sub`, `jti` text, `aud` text or a
  list of texts, `exp`, `nbf`, `iat` numbers or texts holding numbers);
* the header's `alg` is `HS256`, and the signature is that of the first two parts;
* the expiry `exp` is present and still ahead, and the start `nbf`, when present, has come;
  times are whole seconds, the fraction cut towards the past;
* the issuer is the expected one, when one is expected.

* `Token.bearer`: the token of an `Authorization` value;
* `Token.verify`: the claims of an accepted token, or why it was refused;
* `Token.issue`: a token for a subject that expires after a duration.
-/

namespace ReadLater.Http.Token

open Text

/-- The token of an `Authorization` value: what follows `Bearer ` (in any letter case), trimmed;
empty when the value is no longer than that prefix or names another scheme. -/
def bearer (authorization : String) : String :=
  let cs := authorization.toList
  if cs.length ≤ 7 || Text.toLower (String.ofList (cs.take 7)) != "bearer " then ""
  else Text.trim (String.ofList (cs.drop 7))

/-- The registered claims of a token. Times are whole seconds since the epoch. -/
structure Claims where
  issuer : String := ""
  subject : String := ""
  audience : List String := []
  expiresAt : Option Int := none
  notBefore : Option Int := none
  issuedAt : Option Int := none
  id : String := ""
  deriving Repr, Inhabited, DecidableEq

/-- Why a token was refused. -/
inductive Refusal where
  /-- The token is not three readable parts. -/
  | malformed (reason : String)
  /-- The header names no algorithm that is known. -/
  | unverifiable (reason : String)
  /-- The algorithm is not the one accepted, or the signature does not match. -/
  | badSignature (reason : String)
  | expired
  | notYetValid
  | missingExpiry
  | wrongIssuer
  deriving Repr, Inhabited, DecidableEq

/-- The text of a refusal. -/
def Refusal.message : Refusal → String
  | .malformed r => "token is malformed: " ++ r
  | .unverifiable r => "token is unverifiable: " ++ r
  | .badSignature r => "token signature is invalid: " ++ r
  | .expired => "token has invalid claims: token is expired"
  | .notYetValid => "token has invalid claims: token is not valid yet"
  | .missingExpiry => "token has invalid claims: token is missing required claim: exp claim is required"
  | .wrongIssuer => "token has invalid claims: token has invalid issuer"

/-! ## Numbers of seconds -/

/-- The parts of a JSON number literal: sign, digits as one natural number, and the power of
ten they are scaled by; none when the text is no number literal. -/
def numberParts? (s : String) : Option (Bool × Nat × Int) :=
  let (neg, cs) := match s.toList with
    | '-' :: rest => (true, rest)
    | cs => (false, cs)
  let intPart := cs.takeWhile Char.isDigit
  let rest := cs.dropWhile Char.isDigit
  let okInt := !intPart.isEmpty && (intPart.length == 1 || intPart.head? != some '0')
  let (frac, rest) := match rest with
    | '.' :: more => (some (more.takeWhile Char.isDigit), more.dropWhile Char.isDigit)
    | _ => (none, rest)
  let (expo, rest) := match rest with
    | c :: more =>
      if c == 'e' || c == 'E' then
        let (eneg, more) := match more with
          | '-' :: m => (true, m)
          | '+' :: m => (false, m)
          | m => (false, m)
        let ds := more.takeWhile Char.isDigit
        (some (eneg, ds), more.dropWhile Char.isDigit)
      else (none, rest)
    | [] => (none, rest)
  let okFrac := match frac with
    | some ds => !ds.isEmpty
    | none => true
  let okExp := match expo with
    | some (_, ds) => !ds.isEmpty
    | none => true
  if !okInt || !okFrac || !okExp || !rest.isEmpty then none
  else
    let digits := intPart ++ frac.getD []
    let m := digits.foldl (fun n c => n * 10 + (c.toNat - 48)) 0
    let e : Int := match expo with
      | some (eneg, ds) =>
        let v : Int := ds.foldl (fun n c => n * 10 + (c.toNat - 48)) 0
        if eneg then -v else v
      | none => 0
    some (neg, m, e - (frac.getD []).length)

/-- The nearest double to a decimal, none when it is too large for one. Decimals far below the
smallest double are zero. -/
def toDouble? (neg : Bool) (m : Nat) (e : Int) : Option Float :=
  let size := (Nat.toDigits 10 m).length
  if m == 0 then some 0
  else if e + size > 400 then none
  else if e + size < -400 then some 0
  else
    let f := Float.ofScientific m (decide (e < 0)) e.natAbs
    if f.isInf then none else some (if neg then -f else f)

/-- The whole seconds of a double, cut towards the past; a value beyond 64 bits reads as the
smallest 64-bit number. -/
def wholeSeconds (f : Float) : Int :=
  if f ≥ 9223372036854775808.0 || f < -9223372036854775808.0 then -9223372036854775808
  else if f ≥ 0 then (f.floor.toUInt64.toNat : Int)
  else -((-f).ceil.toUInt64.toNat : Int)

/-- The seconds of a time claim: a number, or a text that holds a number literal. -/
def secondsOf? (j : Json) : Option Int :=
  let lit? := match j with
    | .num l => some l
    | .str s => some s
    | _ => none
  match lit? with
  | none => none
  | some l => do
    let (neg, m, e) ← numberParts? l
    let f ← toDouble? neg m e
    return wholeSeconds f

/-! ## Reading claims -/

/-- The registered claim names. -/
def claimNames : List String := ["iss", "sub", "aud", "exp", "nbf", "iat", "jti"]

/-- The claim a member name stands for: exactly, or else up to letter case. -/
def claimFor? (key : String) : Option String :=
  if claimNames.contains key then some key
  else claimNames.find? (· == Text.toLower key)

/-- One member folded into the claims; `null` empties a time and leaves the rest. -/
def Claims.absorb (c : Claims) (name : String) (v : Json) : Except String Claims :=
  match name, v with
  | _, .null =>
    match name with
    | "exp" => .ok { c with expiresAt := none }
    | "nbf" => .ok { c with notBefore := none }
    | "iat" => .ok { c with issuedAt := none }
    | _ => .ok c
  | "iss", .str s => .ok { c with issuer := s }
  | "sub", .str s => .ok { c with subject := s }
  | "jti", .str s => .ok { c with id := s }
  | "aud", .str s => .ok { c with audience := [s] }
  | "aud", .arr xs =>
    match xs.mapM (fun x => match x with | .str s => some s | _ => none) with
    | some ss => .ok { c with audience := ss }
    | none => .error "aud"
  | "exp", j => (secondsOf? j).elim (.error "exp") fun t => .ok { c with expiresAt := some t }
  | "nbf", j => (secondsOf? j).elim (.error "nbf") fun t => .ok { c with notBefore := some t }
  | "iat", j => (secondsOf? j).elim (.error "iat") fun t => .ok { c with issuedAt := some t }
  | n, _ => .error n

/-- The claims of a JSON document: an object's registered members in order, a later member
overwriting an earlier one; `null` is no claims. Every member is read, and the first one of the
wrong type makes the document unreadable. -/
def Claims.read (j : Json) : Except String Claims :=
  match j with
  | .null => .ok {}
  | .obj ms =>
    let (c, err) := ms.foldl (fun (c, err) (k, v) =>
      match claimFor? k with
      | none => (c, err)
      | some name =>
        match c.absorb name v with
        | .ok c => (c, err)
        | .error e => (c, err <|> some e)) (({} : Claims), (none : Option String))
    match err with
    | some e => .error e
    | none => .ok c
  | _ => .error "claims"

/-- The algorithms a header may name. -/
def knownAlgorithms : List String :=
  ["HS256", "HS384", "HS512", "RS256", "RS384", "RS512", "ES256", "ES384", "ES512", "PS256",
    "PS384", "PS512", "EdDSA", "none"]

/-- The JSON document that a base64 part holds. -/
def readPart (part : String) : Option (Except JsonError Json) :=
  (Base64.decodeUrl (Bytes.ofString part)).map fun bs => Json.parse? (Bytes.text bs)

/-- The three parts of a token: exactly two dots. -/
def parts? (token : String) : Option (String × String × String) :=
  match token.splitOn "." with
  | [a, b, c] => some (a, b, c)
  | _ => none

/-- The signature of a text under a secret, in base64. -/
def sign (secret text : String) : String :=
  let mac := Crypto.hmacSha256 secret.toUTF8 text.toUTF8
  Bytes.text (Base64.encodeUrl mac.toList)

/-- Checks the times and issuer of claims at an instant (nanoseconds since the epoch). -/
def Claims.check (c : Claims) (expectedIssuer : String) (nowNanos : Int) : Except Refusal Unit := do
  match c.expiresAt with
  | none => throw .missingExpiry
  | some exp => if !(nowNanos < exp * 1000000000) then throw .expired
  if let some nbf := c.notBefore then
    if nowNanos < nbf * 1000000000 then throw .notYetValid
  if !expectedIssuer.isEmpty && c.issuer != expectedIssuer then throw .wrongIssuer

/-- The claims of a token signed with a secret, checked at an instant (nanoseconds since the
epoch) against an expected issuer (none when empty). -/
def verify (secret expectedIssuer : String) (nowNanos : Int) (token : String) :
    Except Refusal Claims := do
  let some (h, p, s) := parts? token
    | throw (.malformed "token contains an invalid number of segments")
  let header ← match readPart h with
    | none => throw (.malformed "could not base64 decode header")
    | some (.error _) => throw (.malformed "could not JSON decode header")
    | some (.ok j) =>
      match j with
      | .obj _ | .null => pure j
      | _ => throw (.malformed "could not JSON decode header")
  let claims ← match readPart p with
    | none => throw (.malformed "could not base64 decode claim")
    | some (.error _) => throw (.malformed "could not JSON decode claim")
    | some (.ok j) =>
      match Claims.read j with
      | .ok c => pure c
      | .error _ => throw (.malformed "could not JSON decode claim")
  let alg ← match header.field? "alg" with
    | some (.str a) => pure a
    | _ => throw (.unverifiable "signing method (alg) is unspecified")
  if !knownAlgorithms.contains alg then throw (.unverifiable "signing method (alg) is unavailable")
  if alg != "HS256" then throw (.badSignature ("signing method " ++ alg ++ " is invalid"))
  let some sig := Base64.decodeUrl (Bytes.ofString s)
    | throw (.malformed "could not base64 decode signature")
  if sig != (Crypto.hmacSha256 secret.toUTF8 (h ++ "." ++ p).toUTF8).toList then
    throw (.badSignature "signature is invalid")
  claims.check expectedIssuer nowNanos
  return claims

/-- A part of a token: a JSON document in base64. -/
def encodePart (j : Json) : String := Bytes.text (Base64.encodeUrl (Bytes.ofString (Json.render j)))

/-- A token for a subject from an issuer (left out when empty), issued at an instant and
expiring a duration later (both in nanoseconds), signed with a secret. -/
def issue (secret issuer subject : String) (nowNanos ttlNanos : Int) : String :=
  let secs (t : Int) : Json := Json.int (t.fdiv 1000000000)
  let header := Json.obj [("alg", .str "HS256"), ("typ", .str "JWT")]
  let claims := Json.obj ((if issuer.isEmpty then [] else [("iss", .str issuer)]) ++
    (if subject.isEmpty then [] else [("sub", .str subject)]) ++
    [("exp", secs (nowNanos + ttlNanos)), ("iat", secs nowNanos)])
  let body := encodePart header ++ "." ++ encodePart claims
  body ++ "." ++ sign secret body

end ReadLater.Http.Token
