import TicketMarket.Text.Printable
/-! # Quoted text for diagnostics

Diagnostics show a text between quotes with everything unreadable spelled out:
`\0 \t \r \n \\` by name, the quote itself behind a backslash, and a character that is
not printable, or that only extends the character before it, as `\u{hex}` in lower-case
hex without leading zeros. Everything else stands as it is, non-ASCII letters included.

Which characters are unprintable and which only extend the one before them is the
business of `Printable`. -/
set_option autoImplicit false
namespace TicketMarket
namespace Escape

/-- Lower-case hex digits of a number, without leading zeros. -/
def hexDigits (n : Nat) : String :=
  String.ofList (Nat.toDigits 16 n)

/-- The `\u{…}` spelling of a character. -/
def unicodeEscape (c : Char) : String := "\\u\x7b" ++ hexDigits c.toNat ++ "\x7d"

/-- The spelling of one character between the quotes `q`. -/
def escapeChar (q : Char) (c : Char) : String :=
  if c == '\x00' then "\\0"
  else if c == '\t' then "\\t"
  else if c == '\r' then "\\r"
  else if c == '\n' then "\\n"
  else if c == '\\' then "\\\\"
  else if c == q then "\\" ++ String.singleton q
  else if Printable.isExtending c || !Printable.isPrintable c then unicodeEscape c
  else String.singleton c

/-- A text between double quotes. -/
def quoteText (s : String) : String :=
  "\"" ++ String.join (s.toList.map (escapeChar '"')) ++ "\""

/-- A character between single quotes. -/
def quoteChar (c : Char) : String := "'" ++ escapeChar '\'' c ++ "'"

end Escape
end TicketMarket
