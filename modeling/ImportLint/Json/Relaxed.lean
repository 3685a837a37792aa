import ImportLint.Json.Reader
import ImportLint.Unicode.Classes

/-!
# Relaxed JSON — syntax

JSON with comments, trailing commas, single quotes, bare keys and more forms of numbers, as
configs are written.  Reading stops at the form: strings keep their escapes and numbers their
spelling, so that a value is decoded only when it is asked for.

* `Relaxed.parse`: the form of a whole text.
-/

namespace ImportLint.Relaxed

/-- A part of a string as it was written, without backslash and letter of the escape. -/
inductive Piece where
  | literal (c : Char)
  /-- An escaped character other than those below. -/
  | escaped (c : Char)
  | nul
  /-- Two hexadecimal digits. -/
  | hex (digits : Text)
  /-- Four hexadecimal digits. -/
  | unicode (digits : Text)
deriving DecidableEq, Repr, Inhabited

/-- The characters that a piece was written with. -/
def Piece.text : Piece → Text
  | .literal c => [c]
  | .escaped c => [c]
  | .nul => ['0']
  | .hex digits => digits
  | .unicode digits => digits

/-- A value as it was written. -/
inductive Form where
  | null
  | bool (value : Bool)
  | string (pieces : List Piece)
  | number (spelling : Text)
  | array (items : List Form)
  | object (members : List (List Piece × Form))
deriving Repr, Inhabited

def isLineEnd (c : Char) : Bool :=
  c == '\n' || c == '\r' || c.toNat == 0x2028 || c.toNat == 0x2029

def isSpace (c : Char) : Bool :=
  c == '\t' || c.toNat == 0x0B || c.toNat == 0x0C || c.toNat == 0xFEFF
    || Unicode.isSpaceSeparator c || isLineEnd c

/-- The rest behind the end of a block comment, if it has one. -/
def endOfBlock : Text → Option Text
  | '*' :: '/' :: rest => some rest
  | _ :: rest => endOfBlock rest
  | [] => none

/-- Drops blanks and comments; a block comment without end stays. -/
def skip : Nat → Text → Text
  | 0, cs => cs
  | fuel + 1, cs =>
    match cs.dropWhile isSpace with
    | '/' :: '/' :: rest => skip fuel (rest.dropWhile fun c => !isLineEnd c)
    | '/' :: '*' :: rest =>
      match endOfBlock rest with
      | some rest => skip fuel rest
      | none => '/' :: '*' :: rest
    | rest => rest

def skipSpace (cs : Text) : Text := skip (cs.length + 1) cs

def isHex (c : Char) : Bool := (Json.hexValue? c).isSome

/-- An escape behind its backslash; a line end continues the string and is no piece. -/
def readEscape : Text → Option (Option Piece × Text)
  | '0' :: rest => some (some .nul, rest)
  | 'x' :: a :: b :: rest => if isHex a && isHex b then some (some (.hex [a, b]), rest) else none
  | 'u' :: a :: b :: c :: d :: rest =>
    if isHex a && isHex b && isHex c && isHex d then some (some (.unicode [a, b, c, d]), rest)
    else none
  | '\r' :: '\n' :: rest => some (none, rest)
  | c :: rest =>
    if isLineEnd c then some (none, rest)
    else if Json.isDigit c || c == 'x' || c == 'u' then none
    else some (some (.escaped c), rest)
  | [] => none

/-- The pieces of a string up to its closing quote. -/
def readString (quote : Char) : Nat → Text → Option (List Piece × Text)
  | 0, _ => none
  | _ + 1, [] => none
  | fuel + 1, c :: cs =>
    if c = quote then some ([], cs)
    else if c = '\\' then do
      let (piece, rest) ← readEscape cs
      let (pieces, rest) ← readString quote fuel rest
      return (piece.toList ++ pieces, rest)
    else if isLineEnd c then none
    else do
      let (pieces, rest) ← readString quote fuel cs
      return (.literal c :: pieces, rest)

def isKeyStart (c : Char) : Bool := c == '$' || c == '_' || Unicode.isLetter c

def isKeyPart (c : Char) : Bool :=
  isKeyStart c || Unicode.isNonspacingMark c || Unicode.isDiacritic c || Unicode.isDigit c
    || Unicode.isConnector c || c.toNat == 0x200C || c.toNat == 0x200D

/-- One character of a bare key. -/
def readKeyChar (allowed : Char → Bool) : Text → Option (Piece × Text)
  | '\\' :: 'u' :: a :: b :: c :: d :: rest =>
    if isHex a && isHex b && isHex c && isHex d then some (.unicode [a, b, c, d], rest) else none
  | c :: rest => if allowed c && c != '\\' then some (.literal c, rest) else none
  | [] => none

/-- The rest of a bare key. -/
def readKeyTail : Nat → Text → List Piece × Text
  | 0, cs => ([], cs)
  | fuel + 1, cs =>
    match readKeyChar isKeyPart cs with
    | some (p, rest) => let (ps, rest) := readKeyTail fuel rest; (p :: ps, rest)
    | none => ([], cs)

/-- The key of a member. -/
def readKey (cs : Text) : Option (List Piece × Text) :=
  match readKeyChar isKeyStart cs with
  | some (p, rest) => let (ps, rest) := readKeyTail rest.length rest; some (p :: ps, rest)
  | none =>
    match cs with
    | '"' :: rest => readString '"' (rest.length + 1) rest
    | '\'' :: rest => readString '\'' (rest.length + 1) rest
    | _ => none

/-- How many characters an exponent takes, if there is one. -/
def exponentLength : Text → Nat
  | c :: rest =>
    if c = 'e' || c = 'E' then
      let (sign, rest) := match rest with
        | '+' :: r => (1, r)
        | '-' :: r => (1, r)
        | r => (0, r)
      match (rest.takeWhile Json.isDigit).length with
      | 0 => 0
      | n => 1 + sign + n
    else 0
  | [] => 0

/-- How many characters a whole number takes: a single zero, or digits that begin with none. -/
def wholeLength : Text → Nat
  | '0' :: _ => 1
  | cs => (cs.takeWhile Json.isDigit).length

/-- How many characters a decimal number takes; zero if there is none. -/
def decimalLength (cs : Text) : Nat :=
  let whole := wholeLength cs
  match whole, cs.drop whole with
  | 0, '.' :: rest =>
    match (rest.takeWhile Json.isDigit).length with
    | 0 => 0
    | n => 1 + n + exponentLength (rest.drop n)
  | 0, _ => 0
  | whole, '.' :: rest =>
    let n := (rest.takeWhile Json.isDigit).length
    whole + 1 + n + exponentLength (rest.drop n)
  | whole, rest => whole + exponentLength rest

/-- How many characters a number without its sign takes; zero if there is none. -/
def unsignedLength (cs : Text) : Nat :=
  let hex := match cs with
    | '0' :: x :: rest => if x = 'x' || x = 'X' then (rest.takeWhile isHex).length else 0
    | _ => 0
  if hex ≠ 0 then hex + 2
  else if decimalLength cs ≠ 0 then decimalLength cs
  else if Text.startsWith "Infinity".toList cs then 8
  else if Text.startsWith "NaN".toList cs then 3
  else 0

/-- The spelling of a number. -/
def readNumber (cs : Text) : Option (Text × Text) :=
  let sign := match cs with
    | '+' :: _ => 1
    | '-' :: _ => 1
    | _ => 0
  match unsignedLength (cs.drop sign) with
  | 0 => none
  | n => some (cs.take (sign + n), cs.drop (sign + n))

/-- Reads a value.  The fuel bounds the recursion; the length of the text plus one is enough. -/
def readValue : Nat → Text → Option (Form × Text)
  | 0, _ => none
  | fuel + 1, cs =>
    match cs with
    | 'n' :: 'u' :: 'l' :: 'l' :: rest => some (.null, rest)
    | 't' :: 'r' :: 'u' :: 'e' :: rest => some (.bool true, rest)
    | 'f' :: 'a' :: 'l' :: 's' :: 'e' :: rest => some (.bool false, rest)
    | '"' :: rest => (readString '"' (rest.length + 1) rest).map fun (t, r) => (.string t, r)
    | '\'' :: rest => (readString '\'' (rest.length + 1) rest).map fun (t, r) => (.string t, r)
    | '[' :: rest =>
      match skipSpace rest with
      | ']' :: rest => some (.array [], rest)
      | rest => (items fuel (rest.length + 1) rest).map fun (vs, r) => (.array vs, r)
    | '\x7b' :: rest =>
      match skipSpace rest with
      | '\x7d' :: rest => some (.object [], rest)
      | rest => (members fuel (rest.length + 1) rest).map fun (ms, r) => (.object ms, r)
    | cs => (readNumber cs).map fun (n, r) => (.number n, r)
where
  items (fuel : Nat) : Nat → Text → Option (List Form × Text)
    | 0, _ => none
    | more + 1, cs => do
      let (v, rest) ← readValue fuel cs
      match skipSpace rest with
      | ',' :: rest =>
        match skipSpace rest with
        | ']' :: rest => return ([v], rest)
        | rest =>
          let (vs, rest) ← items fuel more rest
          return (v :: vs, rest)
      | ']' :: rest => return ([v], rest)
      | _ => none
  members (fuel : Nat) : Nat → Text → Option (List (List Piece × Form) × Text)
    | 0, _ => none
    | more + 1, cs => do
      let (k, rest) ← readKey cs
      match skipSpace rest with
      | ':' :: rest =>
        let (v, rest) ← readValue fuel (skipSpace rest)
        match skipSpace rest with
        | ',' :: rest =>
          match skipSpace rest with
          | '\x7d' :: rest => return ([(k, v)], rest)
          | rest =>
            let (ms, rest) ← members fuel more rest
            return ((k, v) :: ms, rest)
        | '\x7d' :: rest => return ([(k, v)], rest)
        | _ => none
      | _ => none

/-- The form of a text that is one value, with blanks and comments around it. -/
def parse (cs : Text) : Option Form := do
  let (v, rest) ← readValue (cs.length + 1) (skipSpace cs)
  if (skipSpace rest).isEmpty then some v else none

end ImportLint.Relaxed
