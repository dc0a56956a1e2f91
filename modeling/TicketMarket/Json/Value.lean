/-! # JSON documents

The document model behind every wire form of the marketplace. A number keeps the class
its literal was read in (an unsigned 64-bit integer, a negative 64-bit integer, or a
double), because a field that wants an integer refuses a fraction even when its value is
whole. An object keeps its members in the order written; `Json.get?` answers with the
last member of a key, so a repeated key means its last value. -/
set_option autoImplicit false
namespace TicketMarket

/-- A JSON number in the class its literal was read in. `unsigned` holds integers below
`2 ^ 64`, `negative` integers from `-2 ^ 63` to `-1`, and `float` everything else. -/
inductive Number where
  | unsigned (n : Nat)
  | negative (n : Int)
  | float (f : Float)

/-- A JSON document. Members of an object stay in the order they were written. -/
inductive Json where
  | null
  | bool (b : Bool)
  | num (n : Number)
  | str (s : String)
  | arr (items : List Json)
  | obj (members : List (String × Json))

namespace Json

instance : Inhabited Json := ⟨.null⟩

/-- The value of the last member named `key`, if the document is an object with one. -/
def get? (key : String) : Json → Option Json
  | .obj members => (members.reverse.find? (·.1 == key)).map (·.2)
  | _ => none

/-- An unsigned integer as a document. -/
def nat (n : Nat) : Json := .num (.unsigned n)

/-- A signed integer as a document, in the class a reader would give its literal. -/
def int (n : Int) : Json :=
  if n < 0 then .num (.negative n) else .num (.unsigned n.toNat)

/-- A double as a document. -/
def float (f : Float) : Json := .num (.float f)

/-- An optional document, with `null` for a missing one. -/
def opt : Option Json → Json
  | some j => j
  | none => .null

/-- Whether the document is `null`. -/
def isNull : Json → Bool
  | .null => true
  | _ => false

/-- The members of an object, in order. -/
def members? : Json → Option (List (String × Json))
  | .obj members => some members
  | _ => none

/-- The items of an array. -/
def items? : Json → Option (List Json)
  | .arr items => some items
  | _ => none

/-- The text of a string. -/
def str? : Json → Option String
  | .str s => some s
  | _ => none

/-- The truth value of a boolean. -/
def bool? : Json → Option Bool
  | .bool b => some b
  | _ => none

/-- An integer literal that is at most `bound`; a fraction or a negative number is
refused. -/
def natBelow? (bound : Nat) : Json → Option Nat
  | .num (.unsigned n) => if n ≤ bound then some n else none
  | _ => none

/-- An integer literal from `lo` to `hi`, of either sign. -/
def intWithin? (lo hi : Int) : Json → Option Int
  | .num (.unsigned n) => if (n : Int) ≤ hi then some n else none
  | .num (.negative n) => if lo ≤ n then some n else none
  | _ => none

/-- A number of any class as a double. -/
def toFloat? : Json → Option Float
  | .num (.unsigned n) => some (Float.ofNat n)
  | .num (.negative n) => some (Float.ofInt n)
  | .num (.float f) => some f
  | _ => none

/-- Whether `key` names a member of the object. -/
def has (key : String) (j : Json) : Bool := (j.get? key).isSome

/-- Replace the member named `key`, or add it at the end. -/
def set (key : String) (value : Json) : Json → Json
  | .obj members =>
    if members.any (·.1 == key) then
      .obj (members.map fun m => if m.1 == key then (key, value) else m)
    else .obj (members ++ [(key, value)])
  | j => j

end Json

end TicketMarket
