import ImportLint.Syntax.Input
import ImportLint.Syntax.Token

/-!
# Syntax — strings and templates

* `escape`: an escape sequence and what it stands for.
* `quoted`: a string; one without closing quote ends with its line.
* `templatePart`: a part of a template up to its end or its next substitution.
-/

namespace ImportLint.Syntax.Reader

/-! ### Digits -/

def isDigitOf (radix : Nat) (c : Char) : Bool :=
  (c.isDigit || ('a' ≤ c && c ≤ 'f') || ('A' ≤ c && c ≤ 'F')) && Numeral.digitValue c < radix

/-- A separator next to these characters, or before all digits, does not stand between two
digits. -/
def forbidsSeparator (radix : Nat) : Option Char → Bool
  | none => true
  | some c =>
    if radix = 16 then ['.', 'X', '_', 'x'].contains c
    else ['.', 'B', 'E', 'O', '_', 'b', 'e', 'o'].contains c

/-- At most `count` digits, with separators between them. -/
def digitsWith (radix start : Nat) (before : Option Char) : Nat → Nat → Reader Text
  | _, 0 => return []
  | 0, _ => return []
  | count + 1, fuel + 1 => do
    match ← peek with
    | none => return []
    | some c =>
      if c = '_' then
        let next ← peekSecond
        if !next.any (isDigitOf radix) || forbidsSeparator radix before
            || forbidsSeparator radix next then
          reportFrom start .misplacedSeparator
        advance
        digitsWith radix start before (count + 1) fuel
      else if isDigitOf radix c then
        advance
        return c :: (← digitsWith radix start (some c) count fuel)
      else return []

def digits (radix count : Nat) : Reader Text := do
  digitsWith radix (← pos) none count (← limit)

/-- As many hexadecimal digits as there are, up to the one behind which their value no longer fits
32 bits. -/
def anyHex : Reader Text := do
  let before ← get
  let ds ← digits 16 (← limit)
  let fits (n : Nat) : Bool := Numeral.natural 16 (ds.take n) < UInt32.size
  match (List.range (ds.length + 1)).find? fun n => !fits n with
  | none => return ds
  | some n =>
    set before
    digits 16 n

/-! ### Escapes -/

/-- The first characters of half of a surrogate pair, which is no character and stays as it was
written. -/
def halfPair (before : Input) (curly : Bool) : Reader Text := do
  modify fun i => { before with faults := i.faults }
  let written := before.rest.take (if curly then 6 else 4)
  let written := if curly then written.takeWhile (· != '\x7d') else written
  skip written.length
  if curly then return '\\' :: 'u' :: '\x7b' :: written ++ ['\x7d']
  else return '\\' :: 'u' :: written

/-- A character by its code point, behind `\u`. -/
def codePoint : Reader Text := do
  let curly ← eat '\x7b'
  let before ← get
  let ds ← if curly then anyHex else digits 16 4
  let value := Numeral.natural 16 ds
  let failHere (wanted : String) : Reader Text := do failFrom (← pos) (.badEscape wanted)
  if !curly && ds.length < 4 then failHere "4 hex characters"
  else if ds.isEmpty || UInt32.size ≤ value then failHere "1-6 hex characters"
  else if 0x10FFFF < value then failHere "1-6 hex characters in the range 0 to 10FFFF."
  else
    let cs ← if Nat.isValidChar value then pure [Char.ofNat value] else halfPair before curly
    if ← pure curly <&&> notM (eat '\x7d') then failFrom before.pos .invalidUnicodeEscape
    return cs

/-- Octal digits that continue a character code below 256. -/
def octalTail : Nat → Nat → Reader Nat
  | 0, value => return value
  | count + 1, value => do
    match ← peek with
    | none => return value
    | some c =>
      let next := value * 8 + Numeral.digitValue c
      if isDigitOf 8 c && next < 256 then
        advance
        octalTail count next
      else return value

/-- An escape at its backslash and what it stands for; a line end continues the text. -/
def escape (inTemplate : Bool) : Reader Text := do
  let start ← pos
  advance
  match ← peek with
  | none => fail start start .invalidEscape
  | some c =>
    let simple (d : Char) : Reader Text := do
      advance
      return [d]
    match c with
    | 'n' => simple '\n'
    | 'r' => simple '\r'
    | 't' => simple '\t'
    | 'b' => simple (Char.ofNat 8)
    | 'v' => simple (Char.ofNat 11)
    | 'f' => simple (Char.ofNat 12)
    | '\r' =>
      advance
      let _ ← eat '\n'
      return []
    | 'x' =>
      advance
      let ds ← digits 16 2
      if ds.length < 2 then failFrom start (.badEscape "2 hex characters")
      return [Char.ofNat (Numeral.natural 16 ds)]
    | 'u' =>
      advance
      tryCatch codePoint fun f => failFrom start f.fault
    | c =>
      if isLineEnd c then
        advance
        return []
      else if isDigitOf 8 c then
        advance
        if c = '0' && !(← peek).any (isDigitOf 8) then return [Char.ofNat 0]
        if inTemplate then failFrom start .legacyOctal
        reportFrom start .legacyOctal
        return [Char.ofNat (← octalTail 2 (Numeral.digitValue c))]
      else simple c

/-! ### Strings -/

/-- The value of a string up to its closing quote; none if there is no such quote in the line. -/
def quotedTail (quote : Char) : Nat → Text → Reader (Text × Bool)
  | 0, value => return (value.reverse, false)
  | fuel + 1, value => do
    match ← peek with
    | none => return (value.reverse, false)
    | some c =>
      if c = quote then
        advance
        return (value.reverse, true)
      else if c = '\\' then
        let cs ← escape false
        quotedTail quote fuel (cs.reverse ++ value)
      else if c = '\n' || c = '\r' then return (value.reverse, false)
      else
        advance
        quotedTail quote fuel (c :: value)

/-- A string at its opening quote. -/
def quoted (quote : Char) : Reader Token := do
  let start ← pos
  let before ← get
  advance
  let (value, closed) ← quotedTail quote before.limit []
  if !closed then reportFrom start .unterminatedString
  return .string value (← since before)

/-! ### Templates -/

/-- The last bad escape in a part of a template. -/
def templateTail (start : Nat) : Nat → Option Fault → Reader (Option Fault)
  | 0, _ => failFrom start .unterminatedTemplate
  | fuel + 1, bad => do
    match ← peek with
    | none => failFrom start .unterminatedTemplate
    | some c =>
      if c = '`' || (c = '$' && (← peekSecond) == some '\x7b') then return bad
      else if c = '\\' then
        let found ← tryCatch (do let _ ← escape true; return none) (fun f => return some f)
        templateTail start fuel (found <|> bad)
      else
        if isLineEnd c then markLineBreak
        advance
        templateTail start fuel bad

/-- A part of a template that began at `start`, or what ends the part if that has been read. -/
def templatePart (start : Nat) (partRead : Bool) : Reader Token := do
  let before ← get
  match partRead, before.rest with
  | true, '`' :: _ =>
    advance
    return .symbol "`"
  | true, '$' :: '\x7b' :: _ =>
    skip 2
    return .symbol "$\x7b"
  | _, _ =>
    let bad ← templateTail start before.limit none
    return .template (← since before) bad

end ImportLint.Syntax.Reader
