import TicketMarket.Json.Read
import TicketMarket.Json.Write
import TicketMarket.Text.Escape

/-! # Decoding records straight from JSON text

`Json.parse` builds a whole document first and only says whether the text is one. A record
decoder that reads the text as a stream instead can say what went wrong and where, and
that is how configuration files are read: every error names its line, counted from 1, and
its column, counted in bytes from the start of the line.

`Scan` is that reader. Its cursor keeps the text already consumed, so a position is
always the one just after the consumed text (`Scan.fail`) or just after the next byte
(`Scan.failAhead`), the two places a streaming reader reports from. The grammar and the
number rules are those of `Json.parse`. On top of the tokens sit the pieces of a derived
record decoder:

* `Scan.record` reads a record from an object or from an array of its fields in order;
  after the fields it still reads the closing bracket, and an error without a position
  gets the position reached then;
* `Scan.fields` reads an object's members: a known field at most once, any other member
  checked for well-formedness and skipped (`Scan.skipValue`, which has no depth limit);
* `Scan.items` reads up to a given number of array items;
* `Scan.text` reads a string, `Scan.optional` a value that may be `null`.

A value of the wrong type is refused with `invalid type: <what was found>, expected
<what was wanted>`, after reading the whole offending value. -/
set_option autoImplicit false
namespace TicketMarket
namespace Json

/-- What a streaming read can fail on. -/
inductive Fault where
  | eofWhileParsingList
  | eofWhileParsingObject
  | eofWhileParsingString
  | eofWhileParsingValue
  | expectedColon
  | expectedListCommaOrEnd
  | expectedObjectCommaOrEnd
  | expectedSomeIdent
  | expectedSomeValue
  | invalidEscape
  | invalidNumber
  | numberOutOfRange
  | controlCharacter
  | keyMustBeAString
  | loneLeadingSurrogate
  | trailingComma
  | trailingCharacters
  | unexpectedEndOfHexEscape
  | message (text : String)
  deriving DecidableEq, Repr

/-- A name in the backquotes that messages put around names. -/
def ticked (name : String) : String :=
  String.singleton (Char.ofNat 96) ++ name ++ String.singleton (Char.ofNat 96)

/-- The message of a fault. -/
def Fault.text : Fault → String
  | .eofWhileParsingList => "EOF while parsing a list"
  | .eofWhileParsingObject => "EOF while parsing an object"
  | .eofWhileParsingString => "EOF while parsing a string"
  | .eofWhileParsingValue => "EOF while parsing a value"
  | .expectedColon => "expected " ++ ticked ":"
  | .expectedListCommaOrEnd => "expected " ++ ticked "," ++ " or " ++ ticked "]"
  | .expectedObjectCommaOrEnd => "expected " ++ ticked "," ++ " or " ++ ticked "\x7d"
  | .expectedSomeIdent => "expected ident"
  | .expectedSomeValue => "expected value"
  | .invalidEscape => "invalid escape"
  | .invalidNumber => "invalid number"
  | .numberOutOfRange => "number out of range"
  | .controlCharacter => "control character (\\u0000-\\u001F) found while parsing a string"
  | .keyMustBeAString => "key must be a string"
  | .loneLeadingSurrogate => "lone leading surrogate in hex escape"
  | .trailingComma => "trailing comma"
  | .trailingCharacters => "trailing characters"
  | .unexpectedEndOfHexEscape => "unexpected end of hex escape"
  | .message text => text

/-- A fault and where it happened; line 0 means not placed yet. -/
structure ReadError where
  fault : Fault
  line : Nat
  column : Nat
  deriving DecidableEq, Repr

/-- The message of an error, with its position once it has one. -/
def ReadError.text (e : ReadError) : String :=
  if e.line == 0 then e.fault.text
  else e.fault.text ++ " at line " ++ toString e.line ++ " column " ++ toString e.column

/-- A reading position: the text consumed so far, nearest character first, and the rest. -/
structure Cursor where
  before : List Char
  rest : List Char
  deriving DecidableEq, Repr

/-- The number of bytes the characters take in UTF-8. -/
def byteCount : List Char → Nat
  | [] => 0
  | c :: rest => c.utf8Size + byteCount rest

/-- The line and byte column just after a consumed text given nearest character first. -/
def lineColumn (before : List Char) : Nat × Nat :=
  (1 + before.count '\n', byteCount (before.takeWhile (· != '\n')))

/-- The line and byte column after `k` more bytes of `rest`, a wide character counting
byte by byte. -/
def lineColumnAfter (before : List Char) : List Char → Nat → Nat × Nat
  | [], _ => lineColumn before
  | _, 0 => lineColumn before
  | c :: rest, k + 1 =>
    if c.utf8Size ≤ k + 1 then lineColumnAfter (c :: before) rest (k + 1 - c.utf8Size)
    else
      let (line, column) := lineColumn before
      (line, column + k + 1)

/-- A reader of JSON text that fails with a placed error. -/
abbrev Scan := ExceptT ReadError (StateM Cursor)

namespace Scan

/-- The position just after the consumed text. -/
def here : Scan (Nat × Nat) := do return lineColumn (← get).before

/-- The position just after the next byte, or the end. -/
def ahead : Scan (Nat × Nat) := do
  let c ← get
  return lineColumnAfter c.before c.rest 1

/-- Fail at the position just after the consumed text. -/
def fail {α : Type} (f : Fault) : Scan α := do
  let (line, column) ← here
  throw ⟨f, line, column⟩

/-- Fail at the position just after the next byte. -/
def failAhead {α : Type} (f : Fault) : Scan α := do
  let (line, column) ← ahead
  throw ⟨f, line, column⟩

/-- Fail with a message that is placed later, by the record being read. -/
def complain {α : Type} (text : String) : Scan α := throw ⟨.message text, 0, 0⟩

/-- Give an error the position reached now, unless it has one. -/
def place (e : ReadError) : Scan ReadError := do
  if e.line == 0 then
    let (line, column) ← here
    return { e with line := line, column := column }
  else return e

/-- The outcome of `x`, keeping what it consumed either way. -/
def observe {α : Type} (x : Scan α) : Scan (Except ReadError α) := ExceptT.lift x.run

/-- The next character, not consumed. -/
def peek : Scan (Option Char) := do return (← get).rest.head?

/-- Consume the next character. -/
def eat : Scan Unit := modify fun c =>
  match c.rest with
  | [] => c
  | x :: r => ⟨x :: c.before, r⟩

/-- The number of characters left, a bound on every loop. -/
def left : Scan Nat := do return (← get).rest.length

/-- Consume blanks, then peek. -/
def blanks : Scan (Option Char) := do
  let c ← get
  let (skipped, rest) := c.rest.span isBlank
  modify fun _ => (⟨skipped.reverse ++ c.before, rest⟩ : Cursor)
  return rest.head?

/-- The rest of a keyword whose first letter was consumed. -/
def ident (word : List Char) : Scan Unit :=
  word.forM fun expected => do
    match ← peek with
    | none => fail .eofWhileParsingValue
    | some c => if c == expected then eat else failAhead .expectedSomeIdent

/-! ## Numbers -/

/-- Consume decimal digits. -/
def skipDigitRun : Nat → Scan Unit
  | 0 => pure ()
  | fuel + 1 => do
    match ← peek with
    | some c => if c.isDigit then do eat; skipDigitRun fuel else pure ()
    | none => pure ()

/-- The double `significand * 10 ^ exponent`, refused when it overflows. -/
def fromParts (positive : Bool) (significand : Nat) (exponent : Int) : Scan Float :=
  match scaleByTen positive significand exponent with
  | some f => pure f
  | none => fail .numberOutOfRange

/-- The digits of an exponent after its first one, accumulated in `e`. An exponent past
the 32-bit range gives zero, or overflows when it points upwards at a non-zero
significand. -/
def exponentDigits (positive expPositive : Bool) (significand : Nat) (start : Int) :
    Nat → Nat → Scan Float
  | 0, e => fromParts positive significand (clampInt32 (if expPositive then start + e else start - e))
  | fuel + 1, e => do
    match ← peek with
    | some d =>
      if d.isDigit then do
        eat
        if wouldPass e (digitVal d) int32Max.toNat then
          if significand != 0 && expPositive then fail .numberOutOfRange
          else do
            skipDigitRun (← left)
            pure (if positive then 0.0 else -0.0)
        else exponentDigits positive expPositive significand start fuel (e * 10 + digitVal d)
      else fromParts positive significand (clampInt32 (if expPositive then start + e else start - e))
    | none => fromParts positive significand (clampInt32 (if expPositive then start + e else start - e))

/-- An exponent, from its `e` on, scaling `significand * 10 ^ start`. -/
def exponent (positive : Bool) (significand : Nat) (start : Int) : Scan Float := do
  eat
  let expPositive ← match ← peek with
    | some '+' => do eat; pure true
    | some '-' => do eat; pure false
    | _ => pure true
  match ← peek with
  | none => fail .eofWhileParsingValue
  | some c =>
    if c.isDigit then do
      eat
      exponentDigits positive expPositive significand start (← left) (digitVal c)
    else failAhead .invalidNumber

/-- What follows the fraction digits: an exponent or the end of the number. At least one
digit must have followed the point. -/
def fractionEnd (positive : Bool) (significand : Nat) (before after : Int) : Scan Float := do
  if after == 0 then
    match ← peek with
    | some _ => failAhead .invalidNumber
    | none => failAhead .eofWhileParsingValue
  else
    match ← peek with
    | some 'e' | some 'E' => exponent positive significand (before + after)
    | _ => fromParts positive significand (before + after)

/-- The fraction digits; once the significand would overflow, further digits are dropped. -/
def fractionDigits (positive : Bool) (before : Int) : Nat → Nat → Int → Scan Float
  | 0, significand, after => fractionEnd positive significand before after
  | fuel + 1, significand, after => do
    match ← peek with
    | some d =>
      if d.isDigit then
        if wouldPass significand (digitVal d) uint64Max then do
          skipDigitRun (fuel + 1)
          match ← peek with
          | some 'e' | some 'E' => exponent positive significand (before + after)
          | _ => fromParts positive significand (before + after)
        else do
          eat
          fractionDigits positive before fuel (significand * 10 + digitVal d) (after - 1)
      else fractionEnd positive significand before after
    | none => fractionEnd positive significand before after

/-- A fraction, from its point on. -/
def fraction (positive : Bool) (significand : Nat) (before : Int) : Scan Float := do
  eat
  fractionDigits positive before (← left) significand 0

/-- The digits of an integer too long for 64 bits: each raises the exponent. -/
def longInteger (positive : Bool) (significand : Nat) : Nat → Int → Scan Float
  | 0, e => fromParts positive significand e
  | fuel + 1, e => do
    match ← peek with
    | some '.' => fraction positive significand e
    | some 'e' | some 'E' => exponent positive significand e
    | some d =>
      if d.isDigit then do
        eat
        longInteger positive significand fuel (e + 1)
      else fromParts positive significand e
    | none => fromParts positive significand e

/-- What follows the integer digits: a fraction, an exponent, or nothing. -/
def afterInteger (positive : Bool) (significand : Nat) : Scan Number := do
  match ← peek with
  | some '.' => return .float (← fraction positive significand 0)
  | some 'e' | some 'E' => return .float (← exponent positive significand 0)
  | _ =>
    if positive then return .unsigned significand
    else if significand == 0 || significand > Nat.pow 2 63 then
      return .float (-(Float.ofNat significand))
    else return .negative (-(significand : Int))

/-- The integer digits after the first. -/
def integerDigits (positive : Bool) : Nat → Nat → Scan Number
  | 0, significand => afterInteger positive significand
  | fuel + 1, significand => do
    match ← peek with
    | some d =>
      if d.isDigit then
        if wouldPass significand (digitVal d) uint64Max then
          return .float (← longInteger positive significand (fuel + 1) 0)
        else do
          eat
          integerDigits positive fuel (significand * 10 + digitVal d)
      else afterInteger positive significand
    | none => afterInteger positive significand

/-- A number, after its minus sign if it has one. -/
def number (positive : Bool) : Scan Number := do
  match ← peek with
  | none => fail .eofWhileParsingValue
  | some '0' => do
    eat
    match ← peek with
    | some d => if d.isDigit then failAhead .invalidNumber else afterInteger positive 0
    | none => afterInteger positive 0
  | some c =>
    if c.isDigit then do
      eat
      integerDigits positive (← left) (digitVal c)
    else failAhead .invalidNumber

/-- Check an exponent's syntax, from its `e` on. -/
def skipExponent : Scan Unit := do
  eat
  match ← peek with
  | some '+' | some '-' => eat
  | _ => pure ()
  match ← peek with
  | some d => if d.isDigit then do eat; skipDigitRun (← left) else failAhead .invalidNumber
  | none => failAhead .invalidNumber

/-- Check a number's syntax, after its minus sign if it has one, without its value: a
number that is skipped is never out of range. -/
def skipNumber : Scan Unit := do
  match ← peek with
  | some '0' => do
    eat
    match ← peek with
    | some d => if d.isDigit then failAhead .invalidNumber else pure ()
    | none => pure ()
  | some c => if c.isDigit then do eat; skipDigitRun (← left) else failAhead .invalidNumber
  | none => failAhead .invalidNumber
  match ← peek with
  | some '.' => do
    eat
    let n ← left
    skipDigitRun n
    if (← left) == n then failAhead .invalidNumber
    else
      match ← peek with
      | some 'e' | some 'E' => skipExponent
      | _ => pure ()
  | some 'e' | some 'E' => skipExponent
  | _ => pure ()

/-! ## Strings -/

/-- The value of four hexadecimal digits. -/
def hexQuad (cs : List Char) : Option Nat :=
  cs.foldlM (fun acc c => (hexVal? c).map (acc * 16 + ·)) 0

/-- The four hexadecimal digits of a `\u` escape. Fewer than four bytes left is the end
of the text; a wide character among them is no digit. -/
def hex4 : Scan Nat := do
  let c ← get
  let four := c.rest.take 4
  if four.length == 4 && four.all (·.toNat < 128) then
    modify fun _ => (⟨four.reverse ++ c.before, c.rest.drop 4⟩ : Cursor)
    match hexQuad four with
    | some n => pure n
    | none => fail .invalidEscape
  else if byteCount four ≥ 4 then
    let (line, column) := lineColumnAfter c.before c.rest 4
    throw ⟨.invalidEscape, line, column⟩
  else do
    modify fun _ => (⟨c.rest.reverse ++ c.before, []⟩ : Cursor)
    fail .eofWhileParsingString

/-- The character of a `\u` escape after its `u`, with the second half of a surrogate
pair. A lone surrogate is refused. -/
def unicodeEscape : Scan Char := do
  let n ← hex4
  if 0xDC00 ≤ n && n ≤ 0xDFFF then fail .loneLeadingSurrogate
  else if n < 0xD800 || n > 0xDBFF then pure (Char.ofNat n)
  else
    match ← peek with
    | none => fail .eofWhileParsingString
    | some '\\' => do
      eat
      match ← peek with
      | none => fail .eofWhileParsingString
      | some 'u' => do
        eat
        let m ← hex4
        if m < 0xDC00 || m > 0xDFFF then fail .loneLeadingSurrogate
        else pure (Char.ofNat ((n - 0xD800) * 0x400 + (m - 0xDC00) + 0x10000))
      | some _ => failAhead .unexpectedEndOfHexEscape
    | some _ => failAhead .unexpectedEndOfHexEscape

/-- The character a one-letter escape stands for. -/
def shortEscape : Char → Option Char
  | '"' => some '"'
  | '\\' => some '\\'
  | '/' => some '/'
  | 'b' => some '\x08'
  | 'f' => some '\x0c'
  | 'n' => some '\n'
  | 'r' => some '\r'
  | 't' => some '\t'
  | _ => none

/-- The rest of a string after its opening quote, accumulated nearest character first. -/
def stringBody : Nat → List Char → Scan String
  | 0, _ => fail .eofWhileParsingString
  | fuel + 1, acc => do
    match ← peek with
    | none => fail .eofWhileParsingString
    | some '"' => do eat; pure (String.ofList acc.reverse)
    | some '\\' => do
      eat
      match ← peek with
      | none => fail .eofWhileParsingString
      | some e =>
        match shortEscape e with
        | some ch => do eat; stringBody fuel (ch :: acc)
        | none =>
          if e == 'u' then do
            eat
            let ch ← unicodeEscape
            stringBody fuel (ch :: acc)
          else failAhead .invalidEscape
    | some c =>
      if c.toNat < 0x20 then failAhead .controlCharacter
      else do eat; stringBody fuel (c :: acc)

/-- A string after its opening quote. -/
def string : Scan String := do stringBody ((← left) + 1) []

/-- Check the rest of a string after its opening quote, without its value: a skipped
string may hold any `\u` escape. -/
def skipStringBody : Nat → Scan Unit
  | 0 => fail .eofWhileParsingString
  | fuel + 1 => do
    match ← peek with
    | none => fail .eofWhileParsingString
    | some '"' => eat
    | some '\\' => do
      eat
      match ← peek with
      | none => fail .eofWhileParsingString
      | some e =>
        if (shortEscape e).isSome then do eat; skipStringBody fuel
        else if e == 'u' then do
          eat
          let _ ← hex4
          skipStringBody fuel
        else failAhead .invalidEscape
    | some c =>
      if c.toNat < 0x20 then fail .controlCharacter
      else do eat; skipStringBody fuel

/-! ## Skipping values -/

/-- Where skipping a value stands: a value is due; the container `frame` (`[` or `{`) is
open and may close next, after a comma when `afterItem`; or its next item is due, from the
key on for an object. -/
inductive SkipStep where
  | value
  | close (frame : Char) (afterItem : Bool)
  | member (frame : Char)
  deriving DecidableEq, Repr

/-- Skip values, checking their syntax; `around` holds the containers around the current
one, innermost first. -/
def skipLoop : Nat → SkipStep → List Char → Scan Unit
  | 0, _, _ => fail .eofWhileParsingValue
  | fuel + 1, .value, around => do
    let opened ← match ← blanks with
      | none => failAhead .eofWhileParsingValue
      | some 'n' => do eat; ident ['u', 'l', 'l']; pure none
      | some 't' => do eat; ident ['r', 'u', 'e']; pure none
      | some 'f' => do eat; ident ['a', 'l', 's', 'e']; pure none
      | some '-' => do eat; skipNumber; pure none
      | some '"' => do eat; skipStringBody ((← left) + 1); pure none
      | some '[' => do eat; pure (some '[')
      | some '\x7b' => do eat; pure (some '\x7b')
      | some c => if c.isDigit then do skipNumber; pure none else failAhead .expectedSomeValue
    match opened with
    | some frame => skipLoop fuel (.close frame false) around
    | none =>
      match around with
      | [] => pure ()
      | frame :: outer => skipLoop fuel (.close frame true) outer
  | fuel + 1, .close frame afterItem, around => do
    let closer := if frame == '[' then ']' else '\x7d'
    let next ← blanks
    if next == some ',' && afterItem then do
      eat
      skipLoop fuel (.member frame) around
    else if next == some closer then do
      eat
      match around with
      | [] => pure ()
      | outer :: rest => skipLoop fuel (.close outer true) rest
    else
      match next with
      | some _ =>
        if afterItem then
          failAhead (if frame == '[' then .expectedListCommaOrEnd else .expectedObjectCommaOrEnd)
        else skipLoop fuel (.member frame) around
      | none => failAhead (if frame == '[' then .eofWhileParsingList else .eofWhileParsingObject)
  | fuel + 1, .member frame, around => do
    if frame == '\x7b' then
      match ← blanks with
      | some '"' => eat
      | some _ => failAhead .keyMustBeAString
      | none => failAhead .eofWhileParsingObject
      skipStringBody ((← left) + 1)
      match ← blanks with
      | some ':' => eat
      | some _ => failAhead .expectedColon
      | none => failAhead .eofWhileParsingObject
    skipLoop fuel .value (frame :: around)

/-- Skip one value, checking its syntax. -/
def skipValue : Scan Unit := do skipLoop (3 * (← left) + 3) .value []

/-! ## Records -/

/-- How a decoder names a value it did not expect. -/
def unexpectedNumber : Number → String
  | .unsigned k => "integer " ++ ticked (toString k)
  | .negative k => "integer " ++ ticked (toString k)
  | .float f => "floating point " ++ ticked (numberText (.float f))

/-- Refuse the value ahead as of the wrong type, after reading it. -/
def invalidType {α : Type} (expecting : String) : Scan α := do
  let found ← match ← peek with
    | some 'n' => do eat; ident ['u', 'l', 'l']; pure "null"
    | some 't' => do eat; ident ['r', 'u', 'e']; pure ("boolean " ++ ticked "true")
    | some 'f' => do eat; ident ['a', 'l', 's', 'e']; pure ("boolean " ++ ticked "false")
    | some '-' => do eat; pure (unexpectedNumber (← number false))
    | some '"' => do eat; pure ("string " ++ Escape.quoteText (← string))
    | some '[' => pure "sequence"
    | some '\x7b' => pure "map"
    | some c =>
      if c.isDigit then do pure (unexpectedNumber (← number true))
      else failAhead .expectedSomeValue
    | none => failAhead .expectedSomeValue
  throw (← place ⟨.message ("invalid type: " ++ found ++ ", expected " ++ expecting), 0, 0⟩)

/-- A string value. -/
def text : Scan String := do
  match ← blanks with
  | none => failAhead .eofWhileParsingValue
  | some '"' => do eat; string
  | some _ => invalidType "a string"

/-- A value that may be `null`. -/
def optional {α : Type} (x : Scan α) : Scan (Option α) := do
  match ← blanks with
  | some 'n' => do eat; ident ['u', 'l', 'l']; pure none
  | _ => some <$> x

/-- The colon after a member's key. -/
def colon : Scan Unit := do
  match ← blanks with
  | some ':' => eat
  | some _ => failAhead .expectedColon
  | none => failAhead .eofWhileParsingObject

/-- The position of a name in a list of names. -/
def indexIn (name : String) : List String → Option Nat
  | [] => none
  | n :: rest => if n == name then some 0 else (indexIn name rest).map (· + 1)

/-- Members of an object until its closing brace, which stays unread. The value of a
field of `names` is read by `field` into its slot of `seen`, and a second one is refused;
other members are checked and skipped. -/
def fieldLoop {β : Type} (names : List String) (field : Scan β) :
    Nat → Bool → List (Option β) → Scan (List (Option β))
  | 0, _, seen => pure seen
  | fuel + 1, first, seen => do
    let more ← match ← blanks with
      | none => failAhead .eofWhileParsingObject
      | some '\x7d' => pure false
      | some c =>
        if first then
          if c == '"' then pure true else failAhead .keyMustBeAString
        else if c == ',' then do
          eat
          match ← blanks with
          | some '"' => pure true
          | some '\x7d' => failAhead .trailingComma
          | some _ => failAhead .keyMustBeAString
          | none => failAhead .eofWhileParsingValue
        else failAhead .expectedObjectCommaOrEnd
    if !more then return seen
    eat
    let key ← string
    match indexIn key names with
    | some i =>
      if (seen.getD i none).isSome then complain ("duplicate field " ++ ticked key)
      else do
        colon
        let v ← field
        fieldLoop names field fuel false (seen.set i (some v))
    | none => do
      colon
      skipValue
      fieldLoop names field fuel false seen

/-- The fields `names` of an object whose opening brace was read, each perhaps missing. -/
def fields {β : Type} (names : List String) (field : Scan β) : Scan (List (Option β)) := do
  fieldLoop names field ((← left) + 1) true (names.map fun _ => none)

/-- Whether an array whose opening bracket was read has another item, after its comma. -/
def nextItem (first : Bool) : Scan Bool := do
  match ← blanks with
  | none => failAhead .eofWhileParsingList
  | some ']' => pure false
  | some c =>
    if first then pure true
    else if c == ',' then do
      eat
      match ← blanks with
      | some ']' => failAhead .trailingComma
      | some _ => pure true
      | none => failAhead .eofWhileParsingValue
    else failAhead .expectedListCommaOrEnd

/-- Up to `n` items of an array whose opening bracket was read; fewer when it ends. -/
def items {β : Type} (item : Scan β) : Nat → Bool → Scan (List β)
  | 0, _ => pure []
  | n + 1, first => do
    if ← nextItem first then
      let v ← item
      return v :: (← items item n false)
    else return []

/-- The closing brace of an object whose fields were read. -/
def endObject : Scan Unit := do
  match ← blanks with
  | some '\x7d' => eat
  | some ',' => failAhead .trailingComma
  | some _ => failAhead .trailingCharacters
  | none => failAhead .eofWhileParsingObject

/-- The closing bracket of an array whose items were read. -/
def endArray : Scan Unit := do
  match ← blanks with
  | some ']' => eat
  | some ',' => do
    eat
    match ← blanks with
    | some ']' => failAhead .trailingComma
    | _ => failAhead .trailingCharacters
  | some _ => failAhead .trailingCharacters
  | none => failAhead .eofWhileParsingList

/-- Finish a record: read its closing bracket even after an error, then report the
record's error first, placed where the reading stopped. -/
def close {α : Type} (result : Except ReadError α) (closing : Scan Unit) : Scan α := do
  let closed ← observe closing
  match result, closed with
  | .ok v, .ok () => pure v
  | .error e, _ => throw (← place e)
  | .ok _, .error e => throw (← place e)

/-- A record named by `expecting`, read by `ofObject` from an object or by `ofArray` from
an array of its fields in order, each reader starting after the opening bracket. -/
def record {α : Type} (expecting : String) (ofObject ofArray : Scan α) : Scan α := do
  match ← blanks with
  | none => failAhead .eofWhileParsingValue
  | some '[' => do
    eat
    close (← observe ofArray) endArray
  | some '\x7b' => do
    eat
    close (← observe ofObject) endObject
  | some _ => invalidType expecting

/-- Read a whole text with `x`: only blanks may follow the value. -/
def document {α : Type} (x : Scan α) (input : String) : Except ReadError α :=
  let whole : Scan α := do
    let v ← x
    match ← blanks with
    | some _ => failAhead .trailingCharacters
    | none => pure v
  (whole.run.run ⟨[], input.toList⟩).1

end Scan

end Json
end TicketMarket
