import TicketMarket.Url.Parse

/-! # Endpoints

What the HTTP client makes of an endpoint text before a request leaves. It reads the
text as a URL and refuses a text that is no URL, naming none; it refuses a URL without a
host, naming it. It then takes the credentials out of the URL, since they travel in a
header instead; credentials that do not percent-decode to UTF-8 are left where they are.
Last it refuses a scheme other than `http` and `https`, and a URL that is no valid
request target: one longer than 65534 bytes, or whose domain holds `"`, a backquote, `{`
or `}`. A request that is sent names the URL without its credentials. -/
set_option autoImplicit false
namespace TicketMarket

/-- What an endpoint text is, as far as sending a request goes. -/
inductive Endpoint where
  /-- No URL at all. -/
  | malformed
  /-- A URL that no request can be built for. -/
  | refused (url : String)
  /-- A URL a request is sent to. -/
  | web (url : String)
  deriving DecidableEq, Repr

namespace Endpoint

/-- The URL without its credentials, unless the user name does not decode, or it is
empty and the password does not decode. -/
def withoutCredentials (u : Url) : Url :=
  match u.authority with
  | none => u
  | some a =>
    match Url.decodeText? a.username with
    | none => u
    | some user =>
      let password := if a.password.isEmpty then none else Url.decodeText? a.password
      if user.isEmpty && password.isNone then u
      else { u with authority := some { a with username := "", password := "" } }

/-- Characters a request target's domain may not hold, though a URL's may. -/
def unsentInDomain (c : Char) : Bool := c == '"' || c == '\x60' || c == '{' || c == '}'

/-- Whether a URL is a valid request target. -/
def isRequestTarget (u : Url) : Bool :=
  let hostOk := match u.authority.bind (·.host) with
    | some (.domain name) => !name.any unsentInDomain
    | _ => true
  hostOk && u.render.utf8ByteSize ≤ 65534

/-- Classify an endpoint text. -/
def ofText (text : String) : Endpoint :=
  match Url.parse text with
  | .error _ => .malformed
  | .ok u =>
    if !u.hasHost then .refused u.render
    else
      let u := withoutCredentials u
      if (u.scheme != "http" && u.scheme != "https") || !isRequestTarget u then .refused u.render
      else .web u.render

end Endpoint
end TicketMarket
