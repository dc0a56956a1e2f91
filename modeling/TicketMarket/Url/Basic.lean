import TicketMarket.Url.Host

/-! # URLs

A URL is a scheme, an optional authority (credentials, a host and the number after it),
a path, and an optional query and fragment, each part already percent-encoded as the URL
writes it. The special schemes, `http`, `https`, `ws`, `wss`, `ftp` and `file`, always
have an authority and a path of segments; the first five name the number after the host
that is left out when given. A URL of another scheme may have no authority, and its path
may then be one unsplit text. A URL is written back part by part; a path of segments
without an authority whose first segment is empty is written after `/.`, so that it is
not read back as a host. -/
set_option autoImplicit false
namespace TicketMarket
namespace Url

/-- The number after the host that a special scheme uses when none is given. -/
def defaultPortNumber : String → Option Nat
  | "http" | "ws" => some 80
  | "https" | "wss" => some 443
  | "ftp" => some 21
  | _ => none

/-- Whether a scheme is one of the special schemes. -/
def isSpecial (scheme : String) : Bool :=
  (defaultPortNumber scheme).isSome || scheme == "file"

/-- The path of a URL. -/
inductive UrlPath where
  /-- Segments, each written after a slash. -/
  | segments (segs : List String)
  /-- One text, for a URL of another scheme whose path does not start with a slash. -/
  | unsplit (text : String)
  deriving DecidableEq, Repr

/-- The authority of a URL. A password is written only when it is not empty, and the
credentials only when one of them is not. `host` is `none` for an empty host. -/
structure Authority where
  username : String
  password : String
  host : Option Host
  portNumber : Option Nat
  deriving DecidableEq, Repr

end Url

/-- A parsed URL. -/
structure Url where
  scheme : String
  authority : Option Url.Authority
  path : Url.UrlPath
  query : Option String
  fragment : Option String
  deriving DecidableEq, Repr

namespace Url

/-- A path as a URL writes it. -/
def UrlPath.render : UrlPath → String
  | .segments segs => String.join (segs.map ("/" ++ ·))
  | .unsplit text => text

/-- An authority as a URL writes it, after the two slashes. -/
def Authority.render (a : Authority) : String :=
  let credentials :=
    if a.username.isEmpty && a.password.isEmpty then ""
    else a.username ++ (if a.password.isEmpty then "" else ":" ++ a.password) ++ "@"
  credentials ++ ((a.host.map Host.render).getD "") ++ ((a.portNumber.map (":" ++ toString ·)).getD "")

/-- Whether the path would read back as an authority without a mark before it. -/
def needsDotMark (u : Url) : Bool :=
  u.authority.isNone && match u.path with
    | .segments ("" :: _ :: _) => true
    | _ => false

/-- A URL as text. -/
def render (u : Url) : String :=
  u.scheme ++ ":" ++ ((u.authority.map ("//" ++ ·.render)).getD "") ++
    (if u.needsDotMark then "/." else "") ++ u.path.render ++
    ((u.query.map ("?" ++ ·)).getD "") ++ ((u.fragment.map ("#" ++ ·)).getD "")

/-- Whether the URL has a host that is not empty. -/
def hasHost (u : Url) : Bool :=
  match u.authority with
  | some a => a.host.isSome
  | none => false

end Url
end TicketMarket
