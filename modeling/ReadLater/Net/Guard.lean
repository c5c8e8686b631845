import ReadLater.Net.Url
import ReadLater.Net.Address
import ReadLater.Text.Quote

/-!
# Guarding outgoing requests

Sources are fetched from addresses that users give, so a request must not reach the service's
own network: loopback, private and link-local ranges, the shared address space of carriers, and
names that only resolve inside a network. Before any name is resolved, a URL is checked on its
own: it must parse, use http or https, have a host, and that host must be neither an address in
a blocked network nor a blocked name.

* `Net.blockedNetworks`, `Net.isBlockedName`: what may not be reached;
* `Net.validateUrl`: the check, with the reason a URL is refused;
* `Net.ClientSettings`: the settings of the client that fetches sources.
-/

namespace ReadLater.Net

open Text

/-- The networks that may not be reached. -/
def blockedNetworks : List Network :=
  ["10.0.0.0/8", "172.16.0.0/12", "192.168.0.0/16", "127.0.0.0/8", "169.254.0.0/16", "0.0.0.0/8",
    "100.64.0.0/10", "::1/128", "fe80::/10", "fc00::/7"].filterMap Network.parse?

/-- Whether a lowercased host name is one that only resolves inside a network. -/
def isBlockedName (host : String) : Bool :=
  host == "localhost" || host.endsWith ".localhost" || host.endsWith ".local" ||
    host.endsWith ".internal"

/-- Checks a URL before it is fetched: unit when it may be fetched, else the reason. -/
def validateUrl (raw : String) : Except String Unit :=
  if raw.isEmpty then .error "empty URL"
  else
    match Url.parse raw with
    | .error e => .error ("invalid URL: " ++ e.message)
    | .ok u =>
      let scheme := Bytes.lowerAscii u.scheme
      if scheme != Bytes.ofString "http" && scheme != Bytes.ofString "https" then
        .error ("disallowed scheme: " ++ quote (Bytes.text u.scheme))
      else
        let host := Bytes.lowerAscii u.hostname
        if host.isEmpty then .error ("empty host in URL: " ++ raw)
        else
          match Address.parse? host with
          | some a =>
            if blockedNetworks.any (·.contains a) then .error ("blocked IP address: " ++ a.render)
            else .ok ()
          | none =>
            let name := Bytes.text host
            if isBlockedName name then .error ("blocked host: " ++ name) else .ok ()

/-- The settings of the client that fetches sources: its timeout, and the schemes and ports it
may connect to. Every address it connects to is checked again after the name is resolved. -/
structure ClientSettings where
  timeoutMs : Nat
  schemes : List String := ["http", "https"]
  ports : List Nat := [80, 443]
  deriving Repr, Inhabited

/-- The client that fetches sources, with a timeout. -/
def safeClient (timeoutMs : Nat) : ClientSettings := { timeoutMs }

end ReadLater.Net
