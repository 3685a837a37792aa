import ImportLint.Json.Basic

/-!
# JSON — printing

`Json.pretty` writes a value over several lines, two spaces for each level.  Only quotes,
backslashes and control characters below U+0020 are escaped.
-/

namespace ImportLint.Json

def hexDigit (n : Nat) : Char :=
  if n < 10 then Char.ofNat (48 + n) else Char.ofNat (87 + n)

/-- How a character is written inside a string. -/
def escapeChar (c : Char) : Text :=
  match c with
  | '"' => ['\\', '"']
  | '\\' => ['\\', '\\']
  | '\n' => ['\\', 'n']
  | '\r' => ['\\', 'r']
  | '\t' => ['\\', 't']
  | c =>
    if c.toNat = 8 then ['\\', 'b']
    else if c.toNat = 12 then ['\\', 'f']
    else if c.toNat < 32 then
      ['\\', 'u', '0', '0', hexDigit (c.toNat / 16), hexDigit (c.toNat % 16)]
    else [c]

/-- A string with its quotes. -/
def quote (t : Text) : Text := '"' :: t.flatMap escapeChar ++ ['"']

/-- A number: digits, and the power of ten if there is one. -/
def printDecimal (d : Decimal) : Text :=
  (if d.negative then ['-'] else []) ++ (Nat.repr d.digits).toList
    ++ (if d.exponent = 0 then [] else 'e' :: d.exponent.repr.toList)

/-- A new line at a level of nesting. -/
def newline (level : Nat) : Text := '\n' :: List.replicate (2 * level) ' '

mutual

/-- A value whose first line stands at the given level of nesting. -/
def prettyAt (level : Nat) : Json → Text
  | .null => ['n', 'u', 'l', 'l']
  | .bool true => ['t', 'r', 'u', 'e']
  | .bool false => ['f', 'a', 'l', 's', 'e']
  | .number d => printDecimal d
  | .string t => quote t
  | .array [] => ['[', ']']
  | .array (v :: vs) =>
    '[' :: newline (level + 1) ++ prettyAt (level + 1) v ++ prettyItems (level + 1) vs
      ++ newline level ++ [']']
  | .object [] => ['\x7b', '\x7d']
  | .object ((k, v) :: ms) =>
    '\x7b' :: newline (level + 1) ++ quote k ++ [':', ' '] ++ prettyAt (level + 1) v
      ++ prettyMembers (level + 1) ms ++ newline level ++ ['\x7d']

/-- The items after the first. -/
def prettyItems (level : Nat) : List Json → Text
  | [] => []
  | v :: vs => ',' :: newline level ++ prettyAt level v ++ prettyItems level vs

/-- The members after the first. -/
def prettyMembers (level : Nat) : List (Text × Json) → Text
  | [] => []
  | (k, v) :: ms =>
    ',' :: newline level ++ quote k ++ [':', ' '] ++ prettyAt level v ++ prettyMembers level ms

end

/-- A value over several lines. -/
def pretty (v : Json) : Text := prettyAt 0 v

end ImportLint.Json
