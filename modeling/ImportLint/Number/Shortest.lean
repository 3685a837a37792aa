/-!
# Numbers — the shortest decimal of a double

A double is `m · 2 ^ q`.  Of the decimals that are nearer to it than to any other double, the
shortest is taken, and of equally short ones the nearest.

* `shortestDecimal`: digits and exponent of that decimal.
* `printDouble`: the decimal written out without an exponent.
-/

namespace ImportLint.Number

/-- A finite double above zero: `mantissa · 2 ^ exponent`. -/
structure Binary where
  mantissa : Nat
  exponent : Int
deriving DecidableEq, Repr, Inhabited

/-- The parts of a double's bits: sign, and the number unless it is infinite or no number. -/
def Binary.ofBits (bits : UInt64) : Bool × Option Binary :=
  let n := bits.toNat
  let fraction : Nat := n % Nat.pow 2 52
  let biased : Nat := n / Nat.pow 2 52 % Nat.pow 2 11
  let number : Option Binary :=
    if biased = 2047 then none
    else if biased = 0 then some ⟨fraction, -1074⟩
    else some ⟨Nat.pow 2 52 + fraction, Int.ofNat biased - 1075⟩
  (n / Nat.pow 2 63 = 1, number)

/-- The number, and the bounds of the interval that rounds to it, all times a common factor;
and that factor. -/
def scaled (b : Binary) : Nat × Nat × Nat × Nat :=
  let m := b.mantissa
  -- four parts to a unit: the lower half interval is shorter above a power of two
  let below := if m = Nat.pow 2 52 && b.exponent > -1074 then 4 * m - 1 else 4 * m - 2
  match b.exponent with
  | .ofNat q => (4 * m * Nat.pow 2 q, below * Nat.pow 2 q, (4 * m + 2) * Nat.pow 2 q, 4)
  | .negSucc q => (4 * m, below, 4 * m + 2, 4 * Nat.pow 2 (q + 1))

/-- The nearest multiple of `10 ^ power` in the interval that rounds to a number, if there is
one: how many times the power. -/
def onGrid (b : Binary) (power : Int) : Option Nat :=
  let (value, low, high, unit) := scaled b
  let (value, low, high, step) := match power with
    | .ofNat p => (value, low, high, unit * Nat.pow 10 p)
    | .negSucc p => let f := Nat.pow 10 (p + 1); (value * f, low * f, high * f, unit)
  let inside (n : Nat) : Bool :=
    if b.mantissa % 2 = 0 then low ≤ n * step && n * step ≤ high
    else low < n * step && n * step < high
  let down := value / step
  let up := down + 1
  match inside down && down != 0, inside up with
  | true, true => if 2 * value ≤ (down + up) * step then some down else some up
  | true, false => some down
  | false, true => some up
  | false, false => none

/-- The exponent of the leading decimal digit of a number. -/
def leadingPower (b : Binary) : Int :=
  let (value, _, _, unit) := scaled b
  if unit ≤ value then ((Nat.toDigits 10 (value / unit)).length : Int) - 1
  else
    let digits : Int := (Nat.toDigits 10 (unit / value)).length
    0 - digits

/-- Tries finer and finer grids. -/
def searchGrids (b : Binary) : Nat → Int → Nat × Int
  | 0, power => ((onGrid b power).getD b.mantissa, power)
  | n + 1, power =>
    match onGrid b power with
    | some digits => (digits, power)
    | none => searchGrids b n (power - 1)

/-- The shortest decimal that rounds to a number: digits, and the power of ten they count. -/
def shortestDecimal (b : Binary) : Nat × Int := searchGrids b 20 (leadingPower b + 1)

/-- Digits times a power of ten, without an exponent. -/
def positional (digits : Nat) (power : Int) : List Char :=
  let ds := Nat.toDigits 10 digits
  match power with
  | .ofNat p => ds ++ List.replicate p '0'
  | .negSucc p =>
    let places := p + 1
    let ds := List.replicate (places + 1 - ds.length) '0' ++ ds
    ds.take (ds.length - places) ++ '.' :: ds.drop (ds.length - places)

/-- A double written with at least one place behind the point. -/
def printDouble (x : Float) : String :=
  if x.isNaN then "NaN"
  else
    let (negative, number) := Binary.ofBits x.toBits
    let sign := if negative then "-" else ""
    match number with
    | none => sign ++ "inf"
    | some b =>
      if b.mantissa = 0 then sign ++ "0.0"
      else
        let (digits, power) := shortestDecimal b
        let text := positional digits power
        sign ++ String.ofList (if text.contains '.' then text else text ++ ['.', '0'])

end ImportLint.Number
