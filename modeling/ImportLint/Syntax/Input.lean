import ImportLint.Syntax.Fault
import ImportLint.Unicode.Classes

/-!
# Syntax — the input

What is left of a source, and where it begins.  Every move goes through `Input.advance`, so the
position is always the number of bytes before the rest.

* `Reader`: a reading of the input; it can fail, and what has been read stays read.
* `skipBlanks`: blanks and comments.
-/

namespace ImportLint.Syntax

structure Input where
  rest : Text
  /-- More than the number of characters of the source. -/
  limit : Nat
  pos : Nat := 0
  /-- A line has ended since the last token. -/
  lineBreak : Bool := false
  /-- Errors that did not stop the reading, newest first. -/
  faults : List Fault := []
deriving DecidableEq, Repr, Inhabited

abbrev Reader := ExceptT Fault (StateM Input)

def isLineEnd (c : Char) : Bool :=
  c == '\n' || c == '\r' || c.toNat == 0x2028 || c.toNat == 0x2029

def isBlank (c : Char) : Bool := c.toNat == 0 || c.toNat == 0xFEFF || Text.isBlank c

/-- May begin a name. -/
def isNameStart (c : Char) : Bool := c == '$' || c == '_' || Unicode.isIdStart c

/-- May continue a name. -/
def isNamePart (c : Char) : Bool := c == '$' || Unicode.isIdContinue c

/-- Behind the next character. -/
def Input.advance (i : Input) : Input :=
  match i.rest with
  | [] => i
  | c :: cs => { i with rest := cs, pos := i.pos + c.utf8Size }

namespace Reader

def rest : Reader Text := return (← get).rest

def pos : Reader Nat := return (← get).pos

/-- More than the number of characters that can be read. -/
def limit : Reader Nat := return (← get).limit

/-- The next character. -/
def peek : Reader (Option Char) := return (← rest).head?

/-- The character behind the next. -/
def peekSecond : Reader (Option Char) := return (← rest).tail.head?

def advance : Reader Unit := modify Input.advance

def skip (count : Nat) : Reader Unit := modify (Nat.repeat Input.advance count)

/-- Moves over the next character if it is `c`. -/
def eat (c : Char) : Reader Bool := do
  if (← peek) == some c then
    advance
    return true
  return false

/-- Whether the rest begins with `text`. -/
def startsWith (text : String) : Reader Bool := return text.toList.isPrefixOf (← rest)

/-- The characters up to the first that is none of a class. -/
def takeWhile (p : Char → Bool) : Reader Text := do
  let taken := (← rest).takeWhile p
  modify fun i => { i with rest := i.rest.dropWhile p, pos := i.pos + Text.byteLength taken }
  return taken

/-- The first characters of a text, up to a number of bytes. -/
def takeBytes : Nat → Text → Text
  | 0, _ => []
  | _, [] => []
  | n, c :: cs => c :: takeBytes (n - c.utf8Size) cs

/-- What has been read since the input was `before`. -/
def since (before : Input) : Reader Text := return takeBytes ((← pos) - before.pos) before.rest

def fail {α : Type} (lo hi : Nat) (fault : SyntaxFault) : Reader α := throw ⟨⟨lo, hi⟩, fault⟩

/-- Fails for what has been read since `lo`. -/
def failFrom {α : Type} (lo : Nat) (fault : SyntaxFault) : Reader α := do fail lo (← pos) fault

/-- Notes an error and goes on. -/
def report (lo hi : Nat) (fault : SyntaxFault) : Reader Unit :=
  modify fun i => { i with faults := ⟨⟨lo, hi⟩, fault⟩ :: i.faults }

def reportFrom (lo : Nat) (fault : SyntaxFault) : Reader Unit := do report lo (← pos) fault

def markLineBreak : Reader Unit := modify fun i => { i with lineBreak := true }

/-! ### Blanks and comments -/

def skipLine : Reader Unit := do let _ ← takeWhile fun c => !isLineEnd c

/-- Reads a block comment behind its `/*`.  One without end is reported where the source ends. -/
def skipBlock : Nat → Reader Unit
  | 0 => return
  | fuel + 1 => do
    match ← peek with
    | none => reportFrom (← pos) .unterminatedComment
    | some c =>
      if ← startsWith "*/" then skip 2
      else
        if isLineEnd c then markLineBreak
        advance
        skipBlock fuel

def skipBlanksWith : Nat → Reader Unit
  | 0 => return
  | fuel + 1 => do
    match ← peek with
    | none => return
    | some c =>
      if isLineEnd c then
        markLineBreak
        advance
        skipBlanksWith fuel
      else if isBlank c then
        advance
        skipBlanksWith fuel
      else if ← startsWith "//" then
        skipLine
        skipBlanksWith fuel
      else if ← startsWith "/*" then
        skip 2
        skipBlock fuel
        skipBlanksWith fuel
      else return

/-- Skips blanks and comments. -/
def skipBlanks : Reader Unit := do skipBlanksWith (← limit)

end Reader

end ImportLint.Syntax
