import ImportLint.Syntax.Lexeme.Next
import ImportLint.Syntax.Tree

/-!
# Grammar — tokens one after another

A parser works on one token and sometimes looks at the one behind it.  Tokens are read late,
for what encloses them and the context decide what they are.

* `Parser`: reads a source; it can fail, and what has been read stays read.
* `sees`, `eat`, `expect`: the next token by how it is written.
* `report`, `fail`: errors to go on behind, and errors that end the reading.
* `attempt`, `lookAhead`: readings that are taken back.
-/

namespace ImportLint.Syntax

/-- A token that may not have been read yet. -/
inductive Slot where
  | unread
  | finished
  | lexeme (l : Lexeme)
deriving DecidableEq, Repr, Inhabited

namespace Slot

def token : Slot → Option Token
  | lexeme l => some l.token
  | _ => none

/-- The end of a source counts as a new line. -/
def lineBreak : Slot → Bool
  | lexeme l => l.lineBreak
  | _ => true

end Slot

structure State where
  dialect : Dialect
  context : Context
  scan : Scan
  current : Slot := .unread
  ahead : Slot := .unread
  /-- The token that was read last. -/
  previous : Span := ⟨0, 0⟩
  labels : List String := []
  /-- Where an arrow function may begin. -/
  arrowStart : Option Nat := none
  /-- The last commas of arrays and objects, by where these begin. -/
  trailingCommas : List (Nat × Span) := []
deriving Inhabited

abbrev Parser := ExceptT Fault (StateM State)

namespace Parser

/-! ### Tokens -/

/-- Reads a token.  Where errors are dropped, those of reading it are too. -/
def pull : Parser Slot := do
  let s ← get
  let (l, scan) := s.scan.next s.dialect s.context
  let scan :=
    if s.context.quiet then { scan with input.faults := s.scan.input.faults } else scan
  set { s with scan }
  return match l with
    | some l => .lexeme l
    | none => .finished

/-- The current token, read if it has to be. -/
def slot : Parser Slot := do
  match (← get).current with
  | .unread =>
    let found ← match (← get).ahead with
      | .unread => pull
      | l => pure l
    modify fun s => { s with current := found, ahead := .unread }
    return found
  | l => return l

/-- The token behind the current one. -/
def aheadSlot : Parser Slot := do
  let _ ← slot
  match (← get).ahead with
  | .unread =>
    let found ← pull
    modify fun s => { s with ahead := found }
    return found
  | l => return l

/-- The current token; none at the end of the source. -/
def token? : Parser (Option Token) := return (← slot).token

def aheadToken? : Parser (Option Token) := return (← aheadSlot).token

def isFinished : Parser Bool := return (← token?).isNone

/-- A line has ended before the current token. -/
def lineBreak : Parser Bool := return (← slot).lineBreak

/-- A line ends between the current token and the next. -/
def lineBreakAhead : Parser Bool := return (← aheadSlot).lineBreak

/-- The token that was read last. -/
def previous : Parser Span := return (← get).previous

/-- Where the current token begins. -/
def here : Parser Nat := do
  match ← slot with
  | .lexeme l => return l.span.lo
  | _ => return (← previous).hi

/-- The current token if it has been read, else the one before. -/
def span : Parser Span := do
  match (← get).current with
  | .lexeme l => return l.span
  | _ => previous

/-- From `lo` to the end of the token that was read last. -/
def spanFrom (lo : Nat) : Parser Span := return ⟨lo, (← previous).hi⟩

/-- Moves to the next token; the current one is returned. -/
def bump : Parser (Option Token) := do
  match ← slot with
  | .lexeme l =>
    modify fun s => { s with current := .unread, previous := l.span }
    return some l.token
  | _ => return none

/-- How the current token is shown. -/
def shown : Parser String := do
  match ← token? with
  | some t => return t.shown
  | none => return "<eof>"

/-! ### Context -/

def dialect : Parser Dialect := return (← get).dialect

def context : Parser Context := return (← get).context

/-- Types can be written. -/
def typed : Parser Bool := return (← dialect).types

/-- Reads in another context. -/
def within {α : Type} (change : Context → Context) (p : Parser α) : Parser α := fun s =>
  let (answer, t) := p { s with context := change s.context }
  (answer, { t with context := s.context })

def withIn {α : Type} (allowed : Bool) (p : Parser α) : Parser α :=
  within (fun c => { c with allowIn := allowed }) p

def inType {α : Type} (p : Parser α) : Parser α :=
  within (fun c => { c with inType := true }) p

/-! ### Errors -/

def add (f : Fault) : Parser Unit :=
  modify fun s => { s with scan.input.faults := f :: s.scan.input.faults }

/-- Notes an error, unless errors are dropped.  A token that could not be read comes first. -/
def note (f : Fault) : Parser Unit := do
  if !(← context).quiet then
    if let some (.error g) := ← token? then
      let _ ← bump
      add g
    add f

/-- Notes an error and goes on. -/
def report (place : Span) (fault : SyntaxFault) : Parser Unit := note ⟨place, fault⟩

def reportHere (fault : SyntaxFault) : Parser Unit := do report (← span) fault

/-- Notes what a module may not say though other sources may.  A token that could not be read is
left for later. -/
def reportStrict (place : Span) (fault : SyntaxFault) : Parser Unit := do
  if !(← context).quiet then add ⟨place, fault⟩

/-- Ends the reading.  A token that could not be read is noted besides. -/
def fail {α : Type} (place : Span) (fault : SyntaxFault) : Parser α := do
  if let some (.error f) := ← token? then
    let _ ← bump
    note f
  throw ⟨place, fault⟩

def failHere {α : Type} (fault : SyntaxFault) : Parser α := do fail (← span) fault

def failExpected {α : Type} (wanted : String) : Parser α := do
  let place ← span
  fail place (.expected wanted (← shown))

def failUnexpected {α : Type} (wanted : String) : Parser α := do
  let got ← shown
  failHere (.unexpected got wanted)

/-- The current token; a token that could not be read is an error, and so is the end. -/
def token : Parser Token := do
  match ← slot with
  | .lexeme ⟨.error f, _, _⟩ =>
    let _ ← bump
    throw f
  | .lexeme l => return l.token
  | _ =>
    let hi := (← get).scan.input.pos
    throw ⟨⟨hi, hi⟩, .unexpectedEnd⟩

/-! ### Tokens by how they are written -/

/-- Whether a token is the word or the symbol `text`. -/
def isWritten (text : String) : Option Token → Bool
  | some (.word w) => w == text
  | some (.symbol s) => s == text
  | _ => false

def sees (text : String) : Parser Bool := return isWritten text (← token?)

def seesAny (texts : List String) : Parser Bool := do
  let t ← token?
  return texts.any (isWritten · t)

def seesAhead (text : String) : Parser Bool := return isWritten text (← aheadToken?)

/-- Moves over the current token if it is `text`. -/
def eat (text : String) : Parser Bool := do
  if ← sees text then
    let _ ← bump
    return true
  return false

def expect (text : String) : Parser Unit := do
  if !(← eat text) then failExpected text

/-- A statement can end here. -/
def seesEnd : Parser Bool := do
  match ← slot with
  | .finished => return true
  | s => return isWritten ";" s.token || isWritten "\x7d" s.token || s.lineBreak

/-- Ends a statement, if it can end here. -/
def eatEnd : Parser Bool := do
  if ← sees ";" then
    let _ ← bump
    return true
  seesEnd

def expectEnd : Parser Unit := do
  if !(← eatEnd) then failExpected ";"

/-- A word that can be a name. -/
def isReference : Option Token → Bool
  | some (.word w) => !Word.isReserved w
  | _ => false

def isWord : Option Token → Bool
  | some (.word _) => true
  | _ => false

def seesWord : Parser Bool := return isWord (← token?)

def seesReference : Parser Bool := return isReference (← token?)

/-! ### Readings that are taken back -/

/-- A reading whose errors are dropped; without a result nothing has been read. -/
def attempt {α : Type} (p : Parser (Option α)) : Parser (Option α) := fun s =>
  if !s.dialect.types then (.ok none, s)
  else
    match p { s with context.quiet := true } with
    | (.ok (some a), t) => (.ok (some a), { t with context.quiet := s.context.quiet })
    | _ => (.ok none, s)

/-- What a reading would find. -/
def lookAhead {α : Type} (p : Parser α) : Parser α := fun s =>
  ((p { s with context.quiet := true }).1, s)

/-- The outcome of a reading that may fail. -/
def outcome {α : Type} (p : Parser α) : Parser (Except Fault α) := fun s =>
  let (answer, s) := p s
  (.ok answer, s)

/-! ### Repetition -/

def loopWith {α β : Type} (step : α → Parser (α ⊕ β)) : Nat → α → Parser β
  | 0, _ => failHere .unexpectedEnd
  | n + 1, a => do
    match ← step a with
    | .inl a => loopWith step n a
    | .inr b => return b

/-- Repeats a step until it gives a result. -/
def loop {α β : Type} (step : α → Parser (α ⊕ β)) (a : α) : Parser β := do
  loopWith step (← get).scan.input.limit a

/-- What a parser reads until it finds nothing more. -/
def many {α : Type} (p : Parser (Option α)) : Parser (List α) :=
  loop (α := List α)
    (fun found => do
      match ← p with
      | some a => return .inl (a :: found)
      | none => return .inr found.reverse)
    []

end Parser

end ImportLint.Syntax
