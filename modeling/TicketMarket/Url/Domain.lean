import TicketMarket.Url.DomainChars
import TicketMarket.Url.Punycode

/-! # Domains in ASCII

A domain of a web URL is written in ASCII before it is used (the ToASCII operation of
UTS 46 as URLs use it: nontransitional, hyphens and label lengths not checked). Every
character is first replaced by what it stands for: ASCII letters by their lower case,
other characters as `DomainChars` says, and a disallowed character makes the domain
unusable. Then each label, the text between dots, is written in ASCII: a label already in
ASCII stays as it is, a label marked `xn--` must be sound Punycode of a label with a
character beyond ASCII, all of them valid, and any other label is written as `xn--`
followed by its Punycode. A domain whose ASCII form holds a forbidden character is
unusable too. -/
set_option autoImplicit false
namespace TicketMarket
namespace Url
namespace Domain

/-- Characters that no domain may hold: controls, the space, DEL and `#%/:<>?@[\]^|`. -/
def forbidden (c : Char) : Bool :=
  c.toNat ≤ 0x20 || c.toNat == 0x7F || "#%/:<>?@[\\]^|".contains c

/-- The characters a domain's characters stand for; `none` if one is disallowed. -/
def mapChars : List Char → Option (List Char)
  | [] => some []
  | c :: rest => do
    let tail ← mapChars rest
    if c.toNat < 0x80 then pure (c.toLower :: tail)
    else
      match DomainChars.status c with
      | .valid => pure (c :: tail)
      | .ignored => pure tail
      | .mapped image => pure (image ++ tail)
      | .disallowed => none

/-- Whether a character may stand in a label decoded from Punycode. -/
def validDecoded (c : Char) : Bool :=
  if c.toNat < 0x80 then c == c.toLower && c != '.' && !forbidden c
  else DomainChars.status c == .valid

/-- The mark of a label written in Punycode. -/
def acePrefix : List Char := ['x', 'n', '-', '-']

/-- The ASCII form of one label. -/
def labelToAscii (label : List Char) : Option (List Char) :=
  if label.take 4 == acePrefix then
    match Punycode.decode (label.drop 4) with
    | some decoded =>
      if decoded.any (0x80 ≤ ·.toNat) && decoded.all validDecoded then some label else none
    | none => none
  else if label.all (·.toNat < 0x80) then some label
  else some (acePrefix ++ (Punycode.encode label).toList)

/-- The labels of a domain: the texts between its dots. -/
def labels (cs : List Char) : List (List Char) :=
  (String.ofList cs).splitOn "." |>.map String.toList

/-- A domain in ASCII, or `none` if it cannot be written so. -/
def toAscii (text : String) : Option String := do
  let mapped ← mapChars text.toList
  let ascii ← (labels mapped).mapM labelToAscii
  let out := ".".intercalate (ascii.map String.ofList)
  if out.any forbidden then none else pure out

end Domain
end Url
end TicketMarket
