import TicketMarket.Url.Basic

/-! # Reading URLs

A URL is read from its text in the order of the URL Standard's basic parser, without a
base URL to resolve against:

* leading and trailing controls and spaces are dropped, and so is every tab and line
  break inside the text;
* the scheme is a letter followed by letters, digits, `+`, `-` and `.`, up to a colon,
  and is kept in lower case; a text without one is no URL;
* after a special scheme any number of slashes and backslashes, none included, lead to
  the authority; after another scheme only `//` does;
* in the authority the last `@` ends the credentials, a colon outside brackets ends the
  host, and the number after it is decimal, at most 65535, and dropped when it is the
  scheme's own;
* the path is split at slashes, and at backslashes too under a special scheme; segments
  `.` and `..`, also written with `%2e`, are resolved as they close;
* the query runs from `?` to `#`, the fragment from `#` to the end.

Each part is percent-encoded with its own encode set as it is read. Windows drive
letters in `file` URLs are not treated apart. -/
set_option autoImplicit false
namespace TicketMarket
namespace Url

/-- Why a text is not a URL. -/
inductive ParseError where
  | noScheme
  | emptyHost
  | invalidHost
  | invalidPort
  deriving DecidableEq, Repr

/-- The characters the parser reads: the text without leading and trailing controls and
spaces, and without any tab, line feed or carriage return. -/
def significant (text : String) : List Char :=
  let trim (cs : List Char) : List Char := cs.dropWhile (·.toNat ≤ 0x20)
  (trim (trim text.toList).reverse).reverse.filter fun c => c != '\t' && c != '\n' && c != '\r'

/-- Whether a character may stand in a scheme after its first letter. -/
def schemeChar (c : Char) : Bool := c.isAlphanum || c == '+' || c == '-' || c == '.'

/-- The scheme in lower case and what follows its colon. -/
def readScheme : List Char → Option (String × List Char)
  | c :: rest =>
    if c.isAlpha then
      match rest.dropWhile schemeChar with
      | ':' :: after =>
        some (String.ofList ((c :: rest.takeWhile schemeChar).map Char.toLower), after)
      | _ => none
    else none
  | [] => none

/-- Whether a character ends the authority. -/
def endsAuthority (special : Bool) (c : Char) : Bool :=
  c == '/' || c == '?' || c == '#' || (special && c == '\\')

/-- Whether a character separates path segments. -/
def isSeparator (special : Bool) (c : Char) : Bool := c == '/' || (special && c == '\\')

/-- The position of the last `@` in `cs`. -/
def lastAt (cs : List Char) : Option Nat :=
  ((cs.zipIdx.filter (·.1 == '@')).getLast?).map (·.2)

/-- The credentials' text and what follows it. An `@` that opens the authority leaves no
credentials, but the host after it must not be empty. -/
def splitCredentials (special : Bool) (cs : List Char) :
    Except ParseError (List Char × List Char) :=
  match lastAt (cs.takeWhile (!endsAuthority special ·)) with
  | none => .ok ([], cs)
  | some 0 =>
    match cs.drop 1 with
    | c :: _ => if endsAuthority special c then .error .emptyHost else .ok ([], cs.drop 1)
    | [] => .ok ([], [])
  | some i => .ok (cs.take i, cs.drop (i + 1))

/-- The user name and password of the credentials' text, percent-encoded: the password
follows the first colon. -/
def credentials (info : List Char) : String × String :=
  (encode .userinfo (info.takeWhile (· != ':')), encode .userinfo ((info.dropWhile (· != ':')).drop 1))

/-- The host text at the start of `cs` and what follows it: the host ends at a colon
outside brackets or at the end of the authority. -/
def takeHost (special : Bool) : Bool → List Char → List Char × List Char
  | _, [] => ([], [])
  | inside, c :: rest =>
    if (c == ':' && !inside) || endsAuthority special c then ([], c :: rest)
    else
      let (host, more) :=
        takeHost special (if c == '[' then true else if c == ']' then false else inside) rest
      (c :: host, more)

/-- The number after the host's colon and what follows it. The digits must reach the end
of the authority; no digits, or the scheme's own number, leave the number out. -/
def readPortNumber (scheme : String) (cs : List Char) : Except ParseError (Option Nat × List Char) :=
  let digits := cs.takeWhile Char.isDigit
  let rest := cs.dropWhile Char.isDigit
  let value := digits.foldl (fun n d => 10 * n + (d.toNat - 48)) 0
  let endsWell := match rest with
    | c :: _ => c == '/' || c == '\\' || c == '?' || c == '#'
    | [] => true
  if !endsWell || 65535 < value then .error .invalidPort
  else if digits.isEmpty || defaultPortNumber scheme == some value then .ok (none, rest)
  else .ok (some value, rest)

/-- The segments of a path text, split at its separators. -/
def splitSegments (special : Bool) : List Char → List (List Char)
  | [] => [[]]
  | c :: rest =>
    if isSeparator special c then [] :: splitSegments special rest
    else
      match splitSegments special rest with
      | seg :: segs => (c :: seg) :: segs
      | [] => [[c]]

/-- Whether a segment means "this directory". -/
def isSingleDot (s : String) : Bool := s == "." || s.toLower == "%2e"

/-- Whether a segment means "the parent directory". -/
def isDoubleDot (s : String) : Bool :=
  let l := s.toLower
  l == ".." || l == ".%2e" || l == "%2e." || l == "%2e%2e"

/-- Add a segment to a path, resolving `.` and `..`. A dot segment that closes the path
leaves an empty last segment, so the path ends in a slash. -/
def pushSegment (path : List String) (seg : String) (last : Bool) : List String :=
  if isDoubleDot seg then path.dropLast ++ (if last then [""] else [])
  else if isSingleDot seg then path ++ (if last then [""] else [])
  else path ++ [seg]

/-- Add the segments `segs` to `path` in order. -/
def resolve (path : List String) : List String → List String
  | [] => path
  | [seg] => pushSegment path seg true
  | seg :: rest => resolve (pushSegment path seg false) rest

/-- The segments of a path text, percent-encoded and resolved. -/
def segmentsOf (special : Bool) (cs : List Char) : List String :=
  resolve [] ((splitSegments special cs).map (encode .path))

/-- The path text and what follows it. -/
def splitPath (cs : List Char) : List Char × List Char :=
  (cs.takeWhile (fun c => c != '?' && c != '#'), cs.dropWhile (fun c => c != '?' && c != '#'))

/-- The fragment, if the text is one. -/
def fragment? : List Char → Option String
  | '#' :: rest => some (encode .fragment rest)
  | _ => none

/-- The query and fragment that follow the path. -/
def queryAndFragment (special : Bool) : List Char → Option String × Option String
  | '?' :: rest =>
    (some (encode (if special then .specialQuery else .query) (rest.takeWhile (· != '#'))),
      fragment? (rest.dropWhile (· != '#')))
  | cs => (none, fragment? cs)

/-- The path of a special URL: a first separator is skipped, and the path is never empty. -/
def specialPath (pathText : List Char) : UrlPath :=
  match pathText with
  | c :: rest => if isSeparator true c then .segments (segmentsOf true rest)
    else .segments (segmentsOf true pathText)
  | [] => .segments [""]

/-- A URL from its scheme, authority and what follows the authority. -/
def assemble (scheme : String) (authority : Option Authority) (path : UrlPath)
    (after : List Char) : Url :=
  let (query, fragment) := queryAndFragment (isSpecial scheme) after
  ⟨scheme, authority, path, query, fragment⟩

/-- A URL whose authority starts `cs`. -/
def withAuthority (scheme : String) (special : Bool) (cs : List Char) : Except ParseError Url := do
  let (info, cs) ← splitCredentials special cs
  let (user, pass) := credentials info
  let (hostChars, cs) := takeHost special false cs
  let hostText := String.ofList hostChars
  let host ←
    if hostText.isEmpty then
      if special || cs.head? == some ':' then throw ParseError.emptyHost else pure none
    else
      match (if special then Host.parseWeb? else Host.parseOther?) hostText with
      | some h => pure (some h)
      | none => throw ParseError.invalidHost
  if host.isNone && !(user.isEmpty && pass.isEmpty) then throw ParseError.emptyHost
  let (portNumber, cs) ← match cs with
    | ':' :: rest => readPortNumber scheme rest
    | _ => pure (none, cs)
  let (pathText, after) := splitPath cs
  let path :=
    if special then specialPath pathText
    else match pathText with
      | [] => .segments []
      | '/' :: rest => .segments (segmentsOf false rest)
      | _ => .segments (segmentsOf false pathText)
  pure (assemble scheme (some ⟨user, pass, host, portNumber⟩) path after)

/-- A `file` URL from what follows `file:`. A host of `localhost` counts as none. -/
def fileUrl (cs : List Char) : Except ParseError Url :=
  match cs with
  | a :: b :: rest =>
    if isSeparator true a && isSeparator true b then do
      let hostChars := rest.takeWhile (!endsAuthority true ·)
      let host ←
        if hostChars.isEmpty then pure none
        else match Host.parseWeb? (String.ofList hostChars) with
          | some (.domain "localhost") => pure none
          | some h => pure (some h)
          | none => throw ParseError.invalidHost
      let (pathText, after) := splitPath (rest.dropWhile (!endsAuthority true ·))
      pure (assemble "file" (some ⟨"", "", host, none⟩) (specialPath pathText) after)
    else plain
  | _ => plain
where
  /-- A `file` URL without a host. -/
  plain : Except ParseError Url :=
    let (pathText, after) := splitPath cs
    pure (assemble "file" (some ⟨"", "", none, none⟩) (specialPath pathText) after)

/-- Read a URL. -/
def parse (text : String) : Except ParseError Url :=
  match readScheme (significant text) with
  | none => .error .noScheme
  | some (scheme, rest) =>
    if scheme == "file" then fileUrl rest
    else if isSpecial scheme then withAuthority scheme true (rest.dropWhile (isSeparator true))
    else
      match rest with
      | '/' :: '/' :: more => withAuthority scheme false more
      | '/' :: more =>
        let (pathText, after) := splitPath more
        pure (assemble scheme none (.segments (segmentsOf false pathText)) after)
      | _ =>
        let (pathText, after) := splitPath rest
        pure (assemble scheme none (.unsplit (encode .controls pathText)) after)

end Url
end TicketMarket
