import TicketMarket.Url.Ip
import TicketMarket.Url.Domain

/-! # Hosts

The host of a URL is a domain, an IPv4 address or an IPv6 address. In a web URL the host
text is percent-decoded and written in ASCII first, and a domain that ends in a number
must be an IPv4 address. A URL of any other scheme keeps its host name as written, only
percent-encoding controls and characters beyond ASCII, but refuses the characters that
would end or split a host. Both read a bracketed text as an IPv6 address. -/
set_option autoImplicit false
namespace TicketMarket
namespace Url

/-- A host of a URL. -/
inductive Host where
  | domain (name : String)
  | ipv4 (address : Nat)
  | ipv6 (groups : List Nat)
  deriving DecidableEq, Repr

namespace Host

/-- The IPv6 address of a bracketed host text, if the text is bracketed. -/
def bracketed? (text : String) : Option (Option Host) :=
  if text.startsWith "[" then
    some (if text.endsWith "]" then
      (Ipv6.parse? (String.ofList (text.toList.drop 1).dropLast)).map .ipv6
    else none)
  else none

/-- The host of a web URL. -/
def parseWeb? (text : String) : Option Host :=
  match bracketed? text with
  | some host => host
  | none => do
    let name ← Domain.toAscii (← decodeText? text)
    if name.isEmpty then none
    else if Ipv4.endsInNumber name then (Ipv4.parse? name).map .ipv4
    else pure (.domain name)

/-- Characters that the host of a URL of another scheme may not hold. -/
def forbiddenInName (c : Char) : Bool :=
  c.toNat == 0 || "\t\n\r #/:<>?@[\\]^|".contains c

/-- The host of a URL of another scheme. -/
def parseOther? (text : String) : Option Host :=
  match bracketed? text with
  | some host => host
  | none =>
    if text.any forbiddenInName then none
    else some (.domain (encode .controls text.toList))

/-- A host as a URL writes it. -/
def render : Host → String
  | .domain name => name
  | .ipv4 address => Ipv4.render address
  | .ipv6 groups => "[" ++ Ipv6.render groups ++ "]"

end Host
end Url
end TicketMarket
