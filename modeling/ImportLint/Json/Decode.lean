import ImportLint.Json.Relaxed
import ImportLint.Number.Shortest
import ImportLint.Text.Quoted

/-!
# Relaxed JSON — decoding

What a form stands for.  Strings must spell characters, whole numbers fit 64 bits, hexadecimal
ones 32 bits, and all others a double.

* `Relaxed.decodeString`, `Relaxed.decodeNumber`: the value of one form.
* `Relaxed.check`: every value inside a form that nobody asks for.
* `Relaxed.expectString`, `expectBool`, `expectList`, `expectRecord`: a form that must be of a
  type.  The first fault in the order of the text is reported.
-/

namespace ImportLint.Relaxed

/-- A decoding that can fail with a reason. -/
abbrev Decoded := Except String

/-- A number written in hexadecimal digits, of at most 32 bits. -/
def parseHex (ds : Text) : Decoded Nat :=
  match ds.mapM Json.hexValue? with
  | some (v :: vs) =>
    let n := vs.foldl (fun n d => n * 16 + d) v
    if n < UInt32.size then .ok n else .error "error parsing hex"
  | _ => .error "error parsing hex"

/-- The character that an escape of one letter stands for. -/
def unescape (c : Char) : Char :=
  match c with
  | 'b' => Char.ofNat 8
  | 'f' => Char.ofNat 12
  | 'n' => '\n'
  | 'r' => '\r'
  | 't' => '\t'
  | 'v' => Char.ofNat 11
  | c => c

/-- The character of a surrogate pair.  The plane is set by its lowest bit alone, so that only every
other plane can be written. -/
def pairedChar (lead trail : Nat) : Char :=
  Char.ofNat (((lead - 0xD800) * 0x400 + (trail - 0xDC00)) ||| 0x10000)

/-- The characters of a string. -/
def decodeString : List Piece → Decoded Text
  | [] => .ok []
  | .literal c :: rest => (decodeString rest).map (c :: ·)
  | .escaped c :: rest => (decodeString rest).map (unescape c :: ·)
  | .nul :: rest => (decodeString rest).map (Char.ofNat 0 :: ·)
  | .hex ds :: rest => do
    let n ← parseHex ds
    let t ← decodeString rest
    return Char.ofNat n :: t
  | .unicode ds :: rest => do
    let n ← parseHex ds
    if Json.isTrailSurrogate n then throw "unexpected unicode trail surrogate"
    else if Json.isLeadSurrogate n then
      match rest with
      | [] => throw "missing unicode trail surrogate"
      | p :: rest =>
        let m ← parseHex p.text
        if Json.isTrailSurrogate m then
          let t ← decodeString rest
          return pairedChar n m :: t
        else throw "expecting unicode trail surrogate"
    else
      let t ← decodeString rest
      return Char.ofNat n :: t

/-- What a number stands for. -/
inductive Numeral where
  | integer (value : Int)
  | float (value : Float)

/-- Digits times a power of ten, as the nearest double. -/
def nearestDouble (digits : Nat) (exponent : Int) : Float :=
  let size : Int := (Nat.repr digits).length
  if digits = 0 || exponent + size < -400 then 0
  else if exponent + size > 400 then 1 / 0
  else match exponent with
    | .ofNat e => Float.ofScientific digits false e
    | .negSucc e => Float.ofScientific digits true (e + 1)

/-- A decimal number without sign. -/
def decimalDouble (cs : Text) : Option Float := do
  let whole := cs.takeWhile Json.isDigit
  let (fraction, rest) := match cs.dropWhile Json.isDigit with
    | '.' :: rest => (rest.takeWhile Json.isDigit, rest.dropWhile Json.isDigit)
    | rest => ([], rest)
  if whole.isEmpty && fraction.isEmpty then none
  let (exponent, rest) ← Json.readExponent rest
  if rest.isEmpty then
    return nearestDouble (Json.digitsValue (whole ++ fraction)) (exponent - fraction.length)
  else none

/-- The sign of a spelling, and the rest. -/
def splitSign : Text → Bool × Text
  | '-' :: rest => (true, rest)
  | '+' :: rest => (false, rest)
  | rest => (false, rest)

def decodeFloat (cs : Text) : Decoded Float :=
  let (negative, rest) := splitSign cs
  if rest = "Infinity".toList then .ok (if negative then -1 / 0 else 1 / 0)
  else if rest = "NaN".toList then .ok (0 / 0)
  else match decimalDouble rest with
    | none => .error "error parsing number"
    | some x =>
      if x.isInf then .error "error parsing number: too large"
      else .ok (if negative then -x else x)

def decodeInteger (cs : Text) : Decoded Int :=
  let (negative, rest) := splitSign cs
  if rest.isEmpty || !rest.all Json.isDigit then .error "error parsing integer"
  else
    let n := Json.digitsValue rest
    let value : Int := if negative then -(n : Int) else n
    if Int64.minValue.toInt ≤ value && value ≤ Int64.maxValue.toInt then .ok value
    else .error "error parsing integer"

/-- Whether a spelling is read as a floating point number. -/
def isFloat (cs : Text) : Bool :=
  cs.contains '.' || cs.contains 'e' || cs.contains 'E'
    || cs == "Infinity".toList || cs == "-Infinity".toList || cs == "NaN".toList
    || cs == "-NaN".toList

/-- The number that a spelling stands for.  A hexadecimal number has no sign: with one, it is
neither an integer nor a floating point number. -/
def decodeNumber (cs : Text) : Decoded Numeral :=
  let plain : Decoded Numeral :=
    if isFloat cs then (decodeFloat cs).map .float else (decodeInteger cs).map .integer
  match cs with
  | '0' :: x :: ds =>
    if x = 'x' || x = 'X' then (parseHex ds).map fun n => .integer n else plain
  | _ => plain

/-! ### Types -/

/-- How a fault names the value that was found. -/
def describe : Form → Decoded String
  | .null => .ok "unit value"
  | .bool true => .ok "boolean `true`"
  | .bool false => .ok "boolean `false`"
  | .string pieces => (decodeString pieces).map fun t => "string " ++ String.ofList (Text.quoted t)
  | .number spelling => (decodeNumber spelling).map fun
    | .integer n => "integer `" ++ n.repr ++ "`"
    | .float x => "floating point `" ++ Number.printDouble x ++ "`"
  | .array _ => .ok "sequence"
  | .object _ => .ok "map"

/-- The fault of a value of another type. -/
def mismatch {α : Type} (found : Form) (wanted : String) : Decoded α := do
  let got ← describe found
  throw ("invalid type: " ++ got ++ ", expected " ++ wanted)

mutual

/-- Decodes a value for its faults alone. -/
def check : Form → Decoded Unit
  | .null => .ok ()
  | .bool _ => .ok ()
  | .string pieces => (decodeString pieces).map fun _ => ()
  | .number spelling => (decodeNumber spelling).map fun _ => ()
  | .array items => checkItems items
  | .object members => checkMembers members

def checkItems : List Form → Decoded Unit
  | [] => .ok ()
  | v :: vs => do check v; checkItems vs

def checkMembers : List (List Piece × Form) → Decoded Unit
  | [] => .ok ()
  | (k, v) :: ms => do
    let _ ← decodeString k
    check v
    checkMembers ms

end

def expectString : Form → Decoded Text
  | .string pieces => decodeString pieces
  | other => mismatch other "a string"

def expectBool : Form → Decoded Bool
  | .bool b => .ok b
  | other => mismatch other "a boolean"

/-- A list of which every item is of the expected type. -/
def expectList {α : Type} (item : Form → Decoded α) : Form → Decoded (List α)
  | .array items => items.mapM item
  | other => mismatch other "a sequence"

/-- A value or `null`. -/
def expectOptional {α : Type} (value : Form → Decoded α) : Form → Decoded (Option α)
  | .null => .ok none
  | other => (value other).map some

/-! ### Records -/

/-- A field of a record: its name, and how a value is put into it. -/
structure RecordField (α : Type) where
  name : Text
  put : Form → α → Decoded α

/-- Reads members in the order of the text.  A member that is no field is decoded for its
faults alone; a field stands at most once. -/
def readMembers {α : Type} (fields : List (RecordField α)) (seen : List Text) (record : α) :
    List (List Piece × Form) → Decoded α
  | [] => .ok record
  | (k, v) :: rest => do
    let key ← decodeString k
    match fields.find? (·.name == key) with
    | none =>
      check v
      readMembers fields seen record rest
    | some field =>
      if seen.contains key then throw ("duplicate field `" ++ String.ofList key ++ "`")
      else
        let record ← field.put v record
        readMembers fields (key :: seen) record rest

/-- Reads items as the fields in their order; further items are not looked at. -/
def readItems {α : Type} (record : α) : List (RecordField α) → List Form → Decoded α
  | field :: fields, v :: rest => do readItems (← field.put v record) fields rest
  | _, _ => .ok record

/-- A record, written with names or as the list of its fields. -/
def expectRecord {α : Type} (name : String) (fields : List (RecordField α)) (empty : α) :
    Form → Decoded α
  | .object members => readMembers fields [] empty members
  | .array items => readItems empty fields items
  | other => mismatch other ("struct " ++ name)

end ImportLint.Relaxed
