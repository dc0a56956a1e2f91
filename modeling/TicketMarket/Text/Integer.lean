/-! # Reading unsigned integers

`Integer.read radix max text` reads an unsigned integer of at most `max`. One leading
`+` is allowed and leading zeros are; a sign alone, a `-`, blanks and separators are not.
The text is read left to right and the first fault wins: a byte that is no digit, or a
digit after which the value passes `max`. -/
set_option autoImplicit false
namespace TicketMarket
namespace Integer

/-- Why a text is no unsigned integer in range. -/
inductive ReadError where
  | empty
  | invalidDigit
  | tooLarge
  deriving DecidableEq, Repr

/-- The wording of a read error. -/
def ReadError.message : ReadError → String
  | .empty => "cannot parse integer from empty string"
  | .invalidDigit => "invalid digit found in string"
  | .tooLarge => "number too large to fit in target type"

/-- The value of a digit byte in `radix` (at most sixteen), lower or upper case. -/
def digitIn (radix b : Nat) : Option Nat :=
  let v? :=
    if 48 ≤ b ∧ b ≤ 57 then some (b - 48)
    else if 97 ≤ b ∧ b ≤ 122 then some (b - 87)
    else if 65 ≤ b ∧ b ≤ 90 then some (b - 55)
    else none
  match v? with
  | some v => if v < radix then some v else none
  | none => none

/-- Accumulate digit bytes onto `acc`, stopping at the first fault. -/
def accumulate (radix max : Nat) : Nat → List Nat → Except ReadError Nat
  | acc, [] => .ok acc
  | acc, b :: rest =>
    match digitIn radix b with
    | none => .error .invalidDigit
    | some d =>
      let next := acc * radix + d
      if next > max then .error .tooLarge else accumulate radix max next rest

/-- The unsigned integer a text stands for, in `radix`, if it is at most `max`. -/
def read (radix max : Nat) (text : String) : Except ReadError Nat :=
  match text.toUTF8.toList.map (·.toNat) with
  | [] => .error .empty
  | [43] | [45] => .error .invalidDigit
  | 43 :: rest => accumulate radix max 0 rest
  | bytes => accumulate radix max 0 bytes

/-- A decimal integer of at most `max`. -/
def readDecimal (max : Nat) (text : String) : Except ReadError Nat := read 10 max text

end Integer
end TicketMarket
