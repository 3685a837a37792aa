import ImportLint.Json.Basic

/-!
# JSON — reading

A reader for strict JSON texts: no comments, no trailing commas, blanks are space, tab, line
feed and carriage return.

* `Json.read`: one value at the front of a text, and the rest of the text.
* `Json.parse`: the value that a whole text is.

Under a lenient policy only the syntax counts: escapes of lone surrogates stand for U+FFFD,
numbers have no largest value and nesting no limit.
-/

namespace ImportLint.Json

/-- What a reader checks beyond the syntax. -/
structure Policy where
  /-- Escapes must spell characters and numbers must fit a double. -/
  exact : Bool
deriving Repr, Inhabited

def isSpace (c : Char) : Bool := c == ' ' || c == '\t' || c == '\n' || c == '\r'

def skipSpace (cs : Text) : Text := cs.dropWhile isSpace

/-- The value of a hexadecimal digit. -/
def hexValue? (c : Char) : Option Nat :=
  let n := c.toNat
  if 48 ≤ n && n ≤ 57 then some (n - 48)
  else if 97 ≤ n && n ≤ 102 then some (n - 87)
  else if 65 ≤ n && n ≤ 70 then some (n - 55)
  else none

/-- Four hexadecimal digits. -/
def readHex4 : Text → Option (Nat × Text)
  | a :: b :: c :: d :: rest => do
    let a ← hexValue? a
    let b ← hexValue? b
    let c ← hexValue? c
    let d ← hexValue? d
    return (((a * 16 + b) * 16 + c) * 16 + d, rest)
  | _ => none

def isLeadSurrogate (n : Nat) : Bool := 0xD800 ≤ n && n ≤ 0xDBFF

def isTrailSurrogate (n : Nat) : Bool := 0xDC00 ≤ n && n ≤ 0xDFFF

/-- The character that two surrogates spell. -/
def pairedChar (lead trail : Nat) : Char :=
  Char.ofNat (0x10000 + (lead - 0xD800) * 0x400 + (trail - 0xDC00))

/-- What follows a backslash and `u`. -/
def readUnicodeEscape (policy : Policy) (cs : Text) : Option (Char × Text) := do
  let (n, rest) ← readHex4 cs
  if isLeadSurrogate n then
    let paired : Option (Char × Text) :=
      match rest with
      | '\\' :: 'u' :: more =>
        match readHex4 more with
        | some (m, rest) => if isTrailSurrogate m then some (pairedChar n m, rest) else none
        | none => none
      | _ => none
    match paired with
    | some done => some done
    | none => if policy.exact then none else some ('\uFFFD', rest)
  else if isTrailSurrogate n then
    if policy.exact then none else some ('\uFFFD', rest)
  else some (Char.ofNat n, rest)

/-- What follows a backslash. -/
def readEscape (policy : Policy) : Text → Option (Char × Text)
  | '"' :: r => some ('"', r)
  | '\\' :: r => some ('\\', r)
  | '/' :: r => some ('/', r)
  | 'b' :: r => some (Char.ofNat 8, r)
  | 'f' :: r => some (Char.ofNat 12, r)
  | 'n' :: r => some ('\n', r)
  | 'r' :: r => some ('\r', r)
  | 't' :: r => some ('\t', r)
  | 'u' :: r => readUnicodeEscape policy r
  | _ => none

/-- The characters of a string up to its closing quote. -/
def readStringTail (policy : Policy) : Nat → Text → Option (Text × Text)
  | 0, _ => none
  | _ + 1, [] => none
  | fuel + 1, c :: cs =>
    if c = '"' then some ([], cs)
    else if c = '\\' then do
      let (c, rest) ← readEscape policy cs
      let (t, rest) ← readStringTail policy fuel rest
      return (c :: t, rest)
    else if c.toNat < 32 then none
    else do
      let (t, rest) ← readStringTail policy fuel cs
      return (c :: t, rest)

/-- A string behind its opening quote. -/
def readString (policy : Policy) (cs : Text) : Option (Text × Text) :=
  readStringTail policy (cs.length + 1) cs

def isDigit (c : Char) : Bool := 48 ≤ c.toNat && c.toNat ≤ 57

def digitsValue (ds : Text) : Nat := ds.foldl (fun n d => n * 10 + (d.toNat - 48)) 0

/-- Digits, at least one. -/
def readDigits (cs : Text) : Option (Text × Text) :=
  match cs.takeWhile isDigit with
  | [] => none
  | ds => some (ds, cs.dropWhile isDigit)

/-- Digits of which the first is no idle zero. -/
def readInteger (cs : Text) : Option (Text × Text) := do
  let (ds, rest) ← readDigits cs
  match ds with
  | '0' :: _ :: _ => none
  | _ => some (ds, rest)

/-- A fraction behind its point, or nothing. -/
def readFraction : Text → Option (Text × Text)
  | '.' :: rest => readDigits rest
  | rest => some ([], rest)

/-- An exponent, or zero. -/
def readExponent : Text → Option (Int × Text)
  | c :: rest =>
    if c = 'e' || c = 'E' then
      match rest with
      | '+' :: rest => (readDigits rest).map fun (ds, r) => ((digitsValue ds : Int), r)
      | '-' :: rest => (readDigits rest).map fun (ds, r) => (-(digitsValue ds : Int), r)
      | rest => (readDigits rest).map fun (ds, r) => ((digitsValue ds : Int), r)
    else some (0, c :: rest)
  | [] => some (0, [])

/-- Whether a number stays finite when it is read as a double: the first nineteen digits, times
a power of ten. -/
def fitsDouble (d : Decimal) : Bool :=
  let surplus := (Nat.repr d.digits).length - 19
  let exponent := d.exponent + surplus
  d.digits == 0 || exponent ≤ 0
    || (exponent ≤ 308
      && !(Float.ofNat (d.digits / Nat.pow 10 surplus)
        * Float.ofScientific 1 false exponent.toNat).isInf)

def readNumber (policy : Policy) (cs : Text) : Option (Json × Text) := do
  let (negative, rest) := match cs with
    | '-' :: rest => (true, rest)
    | _ => (false, cs)
  let (whole, rest) ← readInteger rest
  let (fraction, rest) ← readFraction rest
  let (exponent, rest) ← readExponent rest
  let value : Decimal := ⟨negative, digitsValue (whole ++ fraction), exponent - fraction.length⟩
  if policy.exact && !fitsDouble value then none
  else some (.number value, rest)

/-- Reads a value; `depth` is how many more levels of arrays and objects are allowed, where
there is a limit.  The fuel bounds the recursion; the length of the text plus one is enough. -/
def readAt (policy : Policy) : Nat → Option Nat → Text → Option (Json × Text)
  | 0, _, _ => none
  | fuel + 1, depth, cs =>
    match skipSpace cs with
    | 'n' :: 'u' :: 'l' :: 'l' :: rest => some (.null, rest)
    | 't' :: 'r' :: 'u' :: 'e' :: rest => some (.bool true, rest)
    | 'f' :: 'a' :: 'l' :: 's' :: 'e' :: rest => some (.bool false, rest)
    | '"' :: rest => (readString policy rest).map fun (t, r) => (.string t, r)
    | '[' :: rest =>
      if depth == some 0 then none
      else match skipSpace rest with
        | ']' :: rest => some (.array [], rest)
        | rest => (items fuel (depth.map (· - 1)) (rest.length + 1) rest).map
            fun (vs, r) => (.array vs, r)
    | '\x7b' :: rest =>
      if depth == some 0 then none
      else match skipSpace rest with
        | '\x7d' :: rest => some (.object [], rest)
        | rest => (members fuel (depth.map (· - 1)) (rest.length + 1) rest).map
            fun (ms, r) => (.object ms, r)
    | rest => readNumber policy rest
where
  items (fuel : Nat) (depth : Option Nat) : Nat → Text → Option (List Json × Text)
    | 0, _ => none
    | more + 1, cs => do
      let (v, rest) ← readAt policy fuel depth cs
      match skipSpace rest with
      | ',' :: rest =>
        let (vs, rest) ← items fuel depth more rest
        return (v :: vs, rest)
      | ']' :: rest => return ([v], rest)
      | _ => none
  members (fuel : Nat) (depth : Option Nat) : Nat → Text → Option (List (Text × Json) × Text)
    | 0, _ => none
    | more + 1, cs => do
      match skipSpace cs with
      | '"' :: rest =>
        let (k, rest) ← readString policy rest
        match skipSpace rest with
        | ':' :: rest =>
          let (v, rest) ← readAt policy fuel depth rest
          match skipSpace rest with
          | ',' :: rest =>
            let (ms, rest) ← members fuel depth more rest
            return ((k, v) :: ms, rest)
          | '\x7d' :: rest => return ([(k, v)], rest)
          | _ => none
        | _ => none
      | _ => none

/-- One value at the front of a text; `depth` limits the nesting. -/
def read (policy : Policy) (depth : Option Nat) (cs : Text) : Option (Json × Text) :=
  readAt policy (cs.length + 1) depth cs

/-- The value that a text is, with nothing but blanks around it. -/
def parse (cs : Text) : Option Json := do
  let (v, rest) ← read ⟨true⟩ none cs
  if (skipSpace rest).isEmpty then some v else none

end ImportLint.Json
