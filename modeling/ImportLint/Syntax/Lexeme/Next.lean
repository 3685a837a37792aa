import ImportLint.Syntax.Lexeme.Nesting
import ImportLint.Syntax.Lexeme.Plain

/-!
# Syntax — the next token

* `Scan.next`: the next token of a source and what is left behind it.
-/

namespace ImportLint.Syntax

namespace Reader

/-! ### Markup -/

/-- The text between two tags, up to the next tag or substitution. -/
def markupTextTail (start : Nat) : Nat → Reader Unit
  | 0 => failFrom start .unterminatedMarkup
  | fuel + 1 => do
    match ← peek with
    | none => failFrom start .unterminatedMarkup
    | some c =>
      if c = '<' || c = '\x7b' then return
      let p ← pos
      if c = '>' then report p p (.unexpectedMarkup ["`\x7b'>'\x7d`", "`&gt;`"])
      if c = '\x7d' then report p p (.unexpectedMarkup ["`\x7b'\x7d'\x7d`", "`&rbrace;`"])
      advance
      markupTextTail start fuel

/-- A string in a tag: without escapes, and it may span lines. -/
def markupStringTail (start : Nat) (quote : Char) : Nat → Reader Unit
  | 0 => return
  | fuel + 1 => do
    match ← peek with
    | none => reportFrom start .unterminatedString
    | some c =>
      advance
      if c != quote then markupStringTail start quote fuel

def markupString (quote : Char) : Reader Token := do
  let start ← pos
  let before ← get
  advance
  markupStringTail start quote before.limit
  let raw ← since before
  return .string (raw.drop 1).dropLast raw

def markupName : Reader Token := do
  return .markupName (← takeWhile fun c => isNamePart c || c = '-')

/-- A token that only markup has. -/
def markup (n : Nesting) (r : Reading) : Reader (Option Token) := do
  let before ← get
  match n.current, before.rest with
  | some .markup, '<' :: _ | some .markup, '\x7b' :: _ =>
    if before.rest.head? == some '<' && n.expressionAllowed then
      advance
      return some .markupStart
    plain r
  | some .markup, _ =>
    markupTextTail before.pos before.limit
    return some (.markupText (← since before))
  | some .openingTag, c :: _ | some .closingTag, c :: _ =>
    if isNameStart c then return some (← markupName)
    if c = '>' then
      advance
      return some .markupEnd
    if (c = '\'' || c = '"') && n.current == some .openingTag then
      return some (← markupString c)
    if c = '<' && n.expressionAllowed && (← peekSecond) != some '!' then
      advance
      return some .markupStart
    plain r
  | _, '<' :: c :: _ =>
    if n.expressionAllowed && c != '!' && !((← get).lineBreak && (← startsWith "<<<<<<< ")) then
      advance
      return some .markupStart
    plain r
  | _, _ => plain r

end Reader

/-- A source that is being cut into tokens. -/
structure Scan where
  input : Input
  nesting : Nesting := {}
  /-- Nothing has been read yet. -/
  isFirst : Bool := true
  /-- Where the template began that is being read. -/
  templateStart : Nat := 0
  /-- A regular expression is to be read from here. -/
  regexStart : Option Input := none
deriving DecidableEq, Repr, Inhabited

namespace Scan

/-- Spaces count inside templates and between tags. -/
def keepsSpaces (s : Scan) : Bool :=
  match s.nesting.current with
  | some .template | some .markup => true
  | _ => false

/-- The token that begins at the next character, if the source has not ended. -/
def token (d : Dialect) (c : Context) (s : Scan) : Reader (Option Token) := do
  let reading : Reader.Reading :=
    { typed := d.types, singleAngles := d.types && c.inType && !c.wideAngles,
      reserved := Word.isReserved }
  if (← Reader.rest).isEmpty then return none
  match s.nesting.current with
  | some .template => return some (← Reader.templatePart s.templateStart s.nesting.partRead)
  | _ =>
    if d.markup && !c.inPropertyName && !c.inType then Reader.markup s.nesting reading
    else Reader.plain reading

/-- What stands at the next character: the line that names an interpreter, or blanks and a
token.  Also tells where the token begins. -/
def read (d : Dialect) (c : Context) (s : Scan) (i : Input) :
    Nat × Except Fault (Option Token) × Input :=
  if s.isFirst && "#!".toList.isPrefixOf i.rest then
    let (_, j) := Reader.skipLine.run.run i
    (i.pos, .ok (some .shebang), j)
  else
    let j := if s.keepsSpaces then i else (Reader.skipBlanks.run.run i).2
    (j.pos, (token d c s).run.run j)

/-- The next token, unless the source has ended, and the source behind it.  A failure is a token
too. -/
def next (d : Dialect) (c : Context) (s : Scan) : Option Lexeme × Scan :=
  let (start, answer, i) : Nat × Except Fault (Option Token) × Input :=
    match s.regexStart with
    | some i =>
      let (t, j) := Reader.regex.run.run { i with faults := s.input.faults }
      (s.input.pos, t.map some, j)
    | none => read d c s { s.input with lineBreak := s.isFirst }
  let found := match answer with
    | .ok t => t
    | .error f => some (.error f)
  match found with
  | none => (none, { s with input := i, isFirst := false })
  | some t =>
    let nesting := s.nesting.after d.markup i.lineBreak t
    let opens := t == .symbol "`" && s.nesting.current != some .template
    (some ⟨t, ⟨start, i.pos⟩, i.lineBreak⟩,
      { s with
        input := i, nesting, isFirst := false
        templateStart := if opens then start else s.templateStart })

end Scan

end ImportLint.Syntax
