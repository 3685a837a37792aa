import ImportLint.Syntax.Lexeme.Quoted

/-!
# Syntax — words, numbers and symbols

* `word`: a name or a reserved word; escapes in it stand for their characters.
* `number`: a numeral of any form.
* `regex`: a regular expression at its opening slash.
* `plain`: the token at the next character.
-/

namespace ImportLint.Syntax.Reader

/-! ### Words -/

/-- The characters of a word, and whether it has escapes. -/
def wordTail : Nat → Text → Bool → Reader (Text × Bool)
  | 0, text, escaped => return (text.reverse, escaped)
  | fuel + 1, text, escaped => do
    match ← peek with
    | none => return (text.reverse, escaped)
    | some c =>
      if isNamePart c then
        advance
        wordTail fuel (c :: text) escaped
      else if c = '\\' then
        let start ← pos
        advance
        if (← peek) != some 'u' then fail start start .unicodeEscapeExpected
        advance
        let cs ← codePoint
        if !cs.head?.any isNamePart then reportFrom start .invalidIdentifierChar
        wordTail fuel (cs.reverse ++ text) true
      else return (text.reverse, escaped)

/-- A word, at a character that can begin one or at an escape; reserved words are written without
escapes. -/
def word (reserved : String → Bool) : Reader Token := do
  let start ← pos
  let (text, escaped) ← wordTail (← limit) [] false
  let name := String.ofList text
  if escaped && reserved name then failFrom start (.escapedReservedWord name)
  return .word name

/-! ### Numbers -/

/-- A name cannot begin right behind a number. -/
def noName : Reader Unit := do
  if (← peek).any isNameStart then
    let p ← pos
    fail p p .identifierAfterNumber

def someDigits (radix : Nat) : Reader Text := do
  let start ← pos
  let ds ← digits radix (← limit)
  if ds.isEmpty then failFrom start (.digitExpected radix)
  return ds

/-- A number with a letter that tells its radix. -/
def radixNumber (radix : Nat) : Reader Token := do
  let before ← get
  skip 2
  let _ ← someDigits radix
  if ← eat 'n' then return .bigint (← since before)
  noName
  return .number (← since before)

/-- The places behind the point, and the exponent. -/
def fraction (before : Input) : Reader Token := do
  if ← eat '.' then
    let _ ← digits 10 before.limit
  if (← peek) == some 'e' || (← peek) == some 'E' then
    advance
    match ← peek with
    | none =>
      let p ← pos
      fail p p .exponentExpected
    | some c =>
      if c = '+' || c = '-' then advance
      let _ ← someDigits 10
  noName
  return .number (← since before)

/-- A number that begins with a digit.  A leading zero with more behind it makes it octal if all its
digits are. -/
def decimalNumber (typed : Bool) : Reader Token := do
  let start ← pos
  let before ← get
  let ds ← someDigits 10
  let legacy := ds.head? == some '0' && 1 < (← since before).length
  if ← eat 'n' then return .bigint (← since before)
  if legacy && ds.all (isDigitOf 8) then
    noName
    if typed then reportFrom start .octalLiteral
    reportFrom start .legacyOctal
    return .number (← since before)
  if legacy then reportFrom start .legacyDecimal
  fraction before

def number (typed : Bool) : Reader Token := do
  match ← rest with
  | '.' :: _ => fraction (← get)
  | '0' :: 'x' :: _ | '0' :: 'X' :: _ => radixNumber 16
  | '0' :: 'o' :: _ | '0' :: 'O' :: _ => radixNumber 8
  | '0' :: 'b' :: _ | '0' :: 'B' :: _ => radixNumber 2
  | _ => decimalNumber typed

/-! ### Regular expressions -/

/-- The body up to the slash that ends it: slashes do not count behind a backslash and in a
class. -/
def regexBody (start : Nat) (escaped inClass : Bool) : Nat → Reader Unit
  | 0 => failFrom start .unterminatedRegex
  | fuel + 1 => do
    match ← peek with
    | none => failFrom start .unterminatedRegex
    | some c =>
      if isLineEnd c then failFrom start .unterminatedRegex
      if !escaped && !inClass && c = '/' then return
      advance
      regexBody start (!escaped && c = '\\')
        (if escaped then inClass else c = '[' || (inClass && c != ']')) fuel

def regex : Reader Token := do
  let start ← pos
  advance
  let before ← get
  regexBody start false false before.limit
  let body ← since before
  advance
  let flags ← if (← peek).any isNameStart then Prod.fst <$> wordTail (← limit) [] false else pure []
  return .regex body flags

/-! ### Symbols -/

/-- The symbols, longer before shorter. -/
def symbols : List String :=
  [">>>=", "...", "===", "!==", "**=", "<<=", ">>=", ">>>", "&&=", "||=", "??=", "=>", "==", "!=",
    "<=", ">=", "&&", "||", "??", "++", "--", "+=", "-=", "*=", "/=", "%=", "&=", "|=", "^=",
    "<<", ">>", "**", "\x7b", "\x7d", "(", ")", "[", "]", ";", ",", "<", ">", "+", "-", "*", "/",
    "%", "&", "|", "^", "!", "~", "?", ":", "=", ".", "@", "#", "`"]

def symbol? : Reader (Option Token) := do
  let text ← rest
  match symbols.find? fun s => s.toList.isPrefixOf text with
  | none => return none
  | some s =>
    skip s.length
    return some (.symbol s)

/-! ### Marks of unfinished merges, and comments of other languages -/

/-- What is reported and skipped up to the end of its line: where it may stand, its text, the
bytes it counts for if that number is fixed, and the error. -/
structure LineMark where
  needsLineBreak : Bool
  text : String
  length : Option Nat
  fault : SyntaxFault

def lineMarks : List LineMark :=
  [⟨true, "<<<<<<< ", some 7, .mergeMarker⟩, ⟨true, ">>>>>>> ", some 7, .mergeMarker⟩,
    ⟨true, "=======", some 7, .mergeMarker⟩, ⟨true, "-->", some 3, .legacyComment⟩,
    ⟨false, "<!--", none, .legacyComment⟩]

/-- Reports and skips a mark, if there is one. -/
def lineMark : Reader Bool := do
  let lineBreak := (← get).lineBreak
  let text ← rest
  let start ← pos
  match lineMarks.find? fun m =>
      (lineBreak || !m.needsLineBreak) && m.text.toList.isPrefixOf text with
  | none => return false
  | some m =>
    match m.length with
    | some n =>
      report start (start + n) m.fault
      skipLine
      skipBlanks
    | none =>
      skipLine
      skipBlanks
      reportFrom start m.fault
    return true

/-- Which tokens there are. -/
structure Reading where
  /-- Types can be written. -/
  typed : Bool
  /-- Angle brackets are single tokens, as in types. -/
  singleAngles : Bool
  /-- The words that cannot be written with escapes. -/
  reserved : String → Bool

/-- The token at the next character. -/
def plainWith (r : Reading) : Nat → Reader (Option Token)
  | 0 => return none
  | fuel + 1 => do
    let start ← pos
    match ← rest with
    | [] => return none
    | c :: cs =>
      if isNameStart c || c = '\\' then return some (← word r.reserved)
      else if c.isDigit || (c = '.' && cs.head?.any Char.isDigit) then
        return some (← number r.typed)
      else if c = '\'' || c = '"' then return some (← quoted c)
      else if r.singleAngles && (c = '<' || c = '>') then
        advance
        return some (.symbol (String.ofList [c]))
      else if ← lineMark then plainWith r fuel
      else if (← get).lineBreak && (← startsWith "||||||| ") then
        report start (start + 7) .mergeMarker
        skipLine
        skipBlanks
        fail start (start + 7) .mergeMarker
      else match ← symbol? with
        | some t => return some t
        | none =>
          advance
          fail start start (.unexpectedChar c)

/-- The token at the next character, if the input has not ended. -/
def plain (r : Reading) : Reader (Option Token) := do plainWith r (← limit)

end ImportLint.Syntax.Reader
