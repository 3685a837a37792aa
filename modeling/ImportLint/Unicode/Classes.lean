import ImportLint.Unicode.Categories
import ImportLint.Unicode.Diacritics
import ImportLint.Unicode.Hidden

/-!
# Unicode — character classes

* `Unicode.isLetter`: letters and letter numbers.
* `Unicode.isIdStart`, `Unicode.isIdContinue`: the characters of identifiers.
* `Unicode.isSpaceSeparator`: blanks that separate words.
* `Unicode.isHidden`: characters that cannot be told from how they look.
-/

namespace ImportLint.Unicode

/-- Whether a code point lies in one of some increasing ranges. -/
def within (ranges : List (Nat × Nat)) (n : Nat) : Bool :=
  match ranges with
  | [] => false
  | (lo, hi) :: rest => if n < lo then false else n ≤ hi || within rest n

def isLetter (c : Char) : Bool :=
  if c.toNat < 128 then c.isAlpha else within letters c.toNat

def isNonspacingMark (c : Char) : Bool := within nonspacingMarks c.toNat

def isDigit (c : Char) : Bool :=
  if c.toNat < 128 then c.isDigit else within digits c.toNat

def isConnector (c : Char) : Bool := c == '_' || within connectors c.toNat

/-- Characters that may begin an identifier though they are no letters. -/
def otherIdStart : List (Nat × Nat) :=
  [(0x1885, 0x1886), (0x2118, 0x2118), (0x212E, 0x212E), (0x309B, 0x309C)]

/-- Characters that may continue an identifier though their category does not say so. -/
def otherIdContinue : List (Nat × Nat) :=
  [(0xB7, 0xB7), (0x387, 0x387), (0x1369, 0x1371), (0x19DA, 0x19DA), (0x200C, 0x200D),
    (0x30FB, 0x30FB), (0xFF65, 0xFF65)]

/-- Letters that are reserved for patterns. -/
def isPatternLetter (n : Nat) : Bool := n == 0x2E2F

/-- May begin an identifier. -/
def isIdStart (c : Char) : Bool :=
  let n := c.toNat
  if n < 128 then c.isAlpha
  else (within letters n && !isPatternLetter n) || within otherIdStart n

/-- May stand inside an identifier. -/
def isIdContinue (c : Char) : Bool :=
  let n := c.toNat
  if n < 128 then c.isAlphanum || c == '_'
  else isIdStart c || within nonspacingMarks n || within spacingMarks n || within digits n
    || within connectors n || within otherIdContinue n

/-- The category of separating blanks. -/
def isSpaceSeparator (c : Char) : Bool :=
  let n := c.toNat
  n == 0x20 || n == 0xA0 || n == 0x1680 || (0x2000 ≤ n && n ≤ 0x200A) || n == 0x202F
    || n == 0x205F || n == 0x3000

def isDiacritic (c : Char) : Bool := within diacritics c.toNat

/-- A character that cannot be told from how it looks. -/
def isHidden (c : Char) : Bool := within hidden c.toNat

end ImportLint.Unicode
