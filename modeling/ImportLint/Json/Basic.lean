import ImportLint.Text

/-!
# JSON — values

A JSON value keeps its members in the order of the text and its numbers exactly.
-/

namespace ImportLint

/-- A decimal number: its sign, its digits and the power of ten they are multiplied by. -/
structure Decimal where
  negative : Bool
  digits : Nat
  exponent : Int
deriving DecidableEq, Repr, Inhabited

inductive Json where
  | null
  | bool (value : Bool)
  | number (value : Decimal)
  | string (value : Text)
  | array (items : List Json)
  | object (members : List (Text × Json))
deriving Repr, Inhabited

def Json.ofNat (n : Nat) : Json := .number ⟨false, n, 0⟩

def Json.ofString (s : String) : Json := .string s.toList

/-- The first member of a name. -/
def Json.member? (name : Text) : Json → Option Json
  | .object members => members.lookup name
  | _ => none

end ImportLint
