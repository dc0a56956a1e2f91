import TicketMarket.Data.Assoc
import TicketMarket.Text.Alphanumeric

/-! # Dotenv files

A dotenv file sets variables that are not set already, one `KEY=value` per line. Blank
lines and lines starting with `#` are skipped, and a line may start with `export`. A key
starts with an ASCII letter or `_` and goes on with letters, digits, `_` and `.`.

A value runs to the end of the line. Blanks end it, and after them only more blanks or a
`#` comment may follow. Single quotes keep everything literally. Double quotes and bare
text take `\\`, `\'`, `\"`, `\$`, an escaped blank and `\n` as escapes. Outside single
quotes, `$NAME` and `${NAME}` stand for a variable: its value in the environment, or the
value an earlier line gave it, or nothing; a bare name is a run of letters and digits of
any script. A quoted value may span several lines; in finding where it ends, a backslash
hides the character after it, inside single quotes too. A line that does not read stops
the loading there; the lines before it still count. -/
set_option autoImplicit false
namespace TicketMarket
namespace Dotenv

/-- Where a scan of a line's end stands: whether it is inside quotes, after a backslash,
after a blank, or at a comment. -/
inductive EndState where
  | complete
  | blank
  | escape
  | weakOpen
  | weakOpenEscape
  | strongOpen
  | strongOpenEscape
  | comment
  deriving DecidableEq, Repr

/-- Whether a character is whitespace the Unicode way. -/
def isSpace (c : Char) : Bool :=
  let n := c.toNat
  (0x09 ≤ n && n ≤ 0x0D) || n == 0x20 || n == 0x85 || n == 0xA0 || n == 0x1680 ||
    (0x2000 ≤ n && n ≤ 0x200A) || n == 0x2028 || n == 0x2029 || n == 0x202F ||
    n == 0x205F || n == 0x3000

/-- Scan a piece of a line from state `s`: the state at its end, and the position of a
comment if one starts. -/
def scanEnd : EndState → List Char → Nat → EndState × Option Nat
  | s, [], _ => (s, none)
  | s, c :: rest, pos =>
    let next : Option EndState := match s with
      | .blank =>
        if c == '#' then none
        else some (if c == '\\' then .escape else if c == '"' then .weakOpen
          else if c == '\'' then .strongOpen else .complete)
      | .escape => some .complete
      | .complete =>
        some (if isSpace c && c != '\n' && c != '\r' then .blank
          else if c == '\\' then .escape else if c == '"' then .weakOpen
          else if c == '\'' then .strongOpen else .complete)
      | .weakOpen => some (if c == '\\' then .weakOpenEscape else if c == '"' then .complete else .weakOpen)
      | .weakOpenEscape => some .weakOpen
      | .strongOpen => some (if c == '\\' then .strongOpenEscape else if c == '\'' then .complete else .strongOpen)
      | .strongOpenEscape => some .strongOpen
      | .comment => none
    match next with
    | none => (.comment, some pos)
    | some s' => scanEnd s' rest (pos + 1)

/-- The physical lines of a text, each with its line feed if it has one. -/
def physicalLines (text : String) : List (List Char) :=
  let rec go : List Char → List Char → List (List Char)
    | [], acc => if acc.isEmpty then [] else [acc.reverse]
    | '\n' :: rest, acc => ('\n' :: acc).reverse :: go rest []
    | c :: rest, acc => go rest (c :: acc)
  go text.toList []

/-- Drop one line feed, and a carriage return before it, from the end. -/
def dropLineEnd (cs : List Char) : List Char :=
  match cs.reverse with
  | '\n' :: '\r' :: rest => rest.reverse
  | '\n' :: rest => rest.reverse
  | _ => cs

/-- Join physical lines into logical ones: a line inside quotes or after a backslash goes
on with the next, and a comment after a blank ends it. A logical line that never ends is
an error, which ends the list. -/
def logical : EndState → List Char → List (List Char) → List (Except Unit String)
  | s, _, [] => if s == .complete then [] else [.error ()]
  | s, buf, line :: more =>
    let buf' := buf ++ line
    if (buf'.dropWhile isSpace).head? == some '#' then .ok "" :: logical .complete [] more
    else
      match scanEnd s line 0 with
      | (.complete, _) => .ok (String.ofList (dropLineEnd buf')) :: logical .complete [] more
      | (.comment, some pos) => .ok (String.ofList (buf ++ line.take pos)) :: logical .complete [] more
      | (s', _) => logical s' buf' more

/-- How a `$` reference is being read. -/
inductive Reference where
  | none
  | bare
  | braced
  deriving DecidableEq, Repr

/-- The state of reading a value. -/
structure ValueState where
  strong : Bool := false
  weak : Bool := false
  escaped : Bool := false
  expectingEnd : Bool := false
  reference : Reference := .none
  name : List Char := []
  out : List Char := []

/-- Whether a character may continue a `$NAME` reference: a letter or digit of any
script. -/
def isNameChar (c : Char) : Bool := Alphanumeric.isAlphanumeric c

/-- Read a value, looking references up with `lookup`. -/
def readValue (lookup : String → Option String) (input : List Char) : Except Unit String :=
  let subst (st : ValueState) : List Char :=
    st.out ++ ((lookup (String.ofList st.name)).getD "").toList
  let rec go (st : ValueState) : List Char → Except Unit ValueState
    | [] => .ok st
    | c :: rest =>
      if st.expectingEnd then
        if c == ' ' || c == '\t' then go st rest
        else if c == '#' then .ok st
        else .error ()
      else if st.escaped then
        if c == '\\' || c == '\'' || c == '"' || c == '$' || c == ' ' then
          go { st with out := st.out ++ [c], escaped := false } rest
        else if c == 'n' then go { st with out := st.out ++ ['\n'], escaped := false } rest
        else .error ()
      else if st.strong then
        if c == '\'' then go { st with strong := false } rest
        else go { st with out := st.out ++ [c] } rest
      else if st.reference != .none then
        if isNameChar c then go { st with name := st.name ++ [c] } rest
        else if st.reference == .bare then
          if c == '\x7b' && st.name.isEmpty then go { st with reference := .braced } rest
          else
            let out := subst st
            if c == '$' then go { st with out := out, name := [], reference := .bare } rest
            else go { st with out := out ++ [c], name := [], reference := .none } rest
        else if c == '\x7d' then go { st with out := subst st, name := [], reference := .none } rest
        else go { st with name := st.name ++ [c] } rest
      else if c == '$' then go { st with reference := .bare } rest
      else if st.weak then
        if c == '"' then go { st with weak := false } rest
        else if c == '\\' then go { st with escaped := true } rest
        else go { st with out := st.out ++ [c] } rest
      else if c == '\'' then go { st with strong := true } rest
      else if c == '"' then go { st with weak := true } rest
      else if c == '\\' then go { st with escaped := true } rest
      else if c == ' ' || c == '\t' then go { st with expectingEnd := true } rest
      else go { st with out := st.out ++ [c] } rest
  match go {} input with
  | .error () => .error ()
  | .ok st =>
    if st.reference == .braced || st.strong || st.weak then .error ()
    else .ok (String.ofList (subst st))

/-- A key: an ASCII letter or `_`, then letters, digits, `_` and `.`. -/
def readKey (cs : List Char) : Except Unit (String × List Char) :=
  match cs with
  | c :: _ =>
    if c.isAlpha || c == '_' then
      let key := cs.takeWhile fun d => d.isAlphanum || d == '_' || d == '.'
      .ok (String.ofList key, cs.drop key.length)
    else .error ()
  | [] => .error ()

/-- The text after an `=`. -/
def expectEqual : List Char → Except Unit (List Char)
  | '=' :: rest => .ok rest
  | _ => .error ()

/-- Read one logical line, trimmed of blanks at both ends: nothing for a blank or comment
line, else a key and value. -/
def readLine (lookup : String → Option String) (line : String) :
    Except Unit (Option (String × String)) := do
  let cs := ((line.toList.reverse.dropWhile isSpace).reverse).dropWhile isSpace
  if cs.isEmpty || cs.head? == some '#' then return none
  let (key, rest) ← readKey cs
  let rest := rest.dropWhile isSpace
  let (key, rest) ←
    if key == "export" then
      match expectEqual rest with
      | .ok r => pure (key, r)
      | .error () => do
        let (k, r) ← readKey rest
        let r ← expectEqual (r.dropWhile isSpace)
        pure (k, r)
    else do
      let r ← expectEqual rest
      pure (key, r)
  let rest := rest.dropWhile isSpace
  if rest.isEmpty || rest.head? == some '#' then return some (key, "")
  let value ← readValue lookup rest
  return some (key, value)

/-- Load a dotenv text over the environment `env`: the variables it sets, in order, each
only if it was not set before. References see the environment, then what earlier lines
set or gave. A byte-order mark at the very start of the text is no part of it. -/
def load (env : String → Option String) (text : String) : List (String × String) :=
  let rec go (set : List (String × String)) (given : List (String × String)) :
      List (Except Unit String) → List (String × String)
    | [] => set
    | .error () :: _ => set
    | .ok line :: more =>
      let lookup := fun k => (env k).orElse fun _ =>
        (Assoc.lookup k set).orElse fun _ => Assoc.lookup k given
      match readLine lookup line with
      | .error () => set
      | .ok none => go set given more
      | .ok (some (k, v)) =>
        let set := if (env k).isSome || (Assoc.lookup k set).isSome then set else set ++ [(k, v)]
        go set (Assoc.insert k v given) more
  let body := match text.toList with
    | '\uFEFF' :: rest => rest
    | cs => cs
  go [] [] (logical .complete [] (physicalLines (String.ofList body)))

/-- Every name a file's text could set or refer to: the longest runs of characters that a
key or a reference may hold, with and without dots. Looking these up in advance gives
`load` every variable of the environment it can ask for. -/
def mentions (text : String) : List String :=
  let runs (keep : Char → Bool) : List String :=
    ((text.toList.splitBy fun a b => keep a == keep b).filter fun r =>
      r.all keep).map String.ofList
  runs (fun c => isNameChar c || c == '_' || c == '.') ++ runs (fun c => isNameChar c || c == '_')

end Dotenv
end TicketMarket
