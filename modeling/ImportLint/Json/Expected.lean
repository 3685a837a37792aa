import ImportLint.Json.Relaxed

/-!
# Relaxed JSON — what a malformed text lacks

An error shows the place furthest into a text up to which it can be read, and the parts of the
syntax that could stand there.  So each part that is tried in vain is noted with its place.

* `Relaxed.lackOf`: where a malformed text ends to be one, and what is expected there.
* `Relaxed.Lack.message`: how that is drawn.
-/

namespace ImportLint.Relaxed

/-- A part of the syntax that an error can name, in the order in which errors name them. -/
inductive Part where
  | endOfText
  | array
  | boolean
  | escapedChar
  | char
  | hexEscape
  | key
  | null
  | nulEscape
  | number
  | object
  | string
  | unicodeEscape
deriving DecidableEq, Repr, Inhabited

namespace Part

def all : List Part :=
  [endOfText, array, boolean, escapedChar, char, hexEscape, key, null, nulEscape, number, object,
    string, unicodeEscape]

def name : Part → String
  | endOfText => "EOI"
  | array => "array"
  | boolean => "boolean"
  | escapedChar => "char_escape_sequence"
  | char => "char_literal"
  | hexEscape => "hex_escape_sequence"
  | key => "identifier"
  | null => "null"
  | nulEscape => "nul_escape_sequence"
  | number => "number"
  | object => "object"
  | string => "string"
  | unicodeEscape => "unicode_escape_sequence"

end Part

/-! ### Tracing -/

/-- A part that was tried in vain, and how many characters were left there. -/
structure Miss where
  left : Nat
  part : Part
deriving DecidableEq, Repr

/-- Reads a part and gives what is left behind it.  What was tried in vain stays noted. -/
abbrev Tracer := Text → OptionT (StateM (List Miss)) Text

namespace Tracer

def first (a b : Tracer) : Tracer := fun cs => a cs <|> b cs

def next (a b : Tracer) : Tracer := fun cs => do b (← a cs)

/-- A part that is noted if it is tried in vain. -/
def named (p : Part) (a : Tracer) : Tracer := fun cs =>
  a cs <|> do
    modify (⟨cs.length, p⟩ :: ·)
    failure

/-- Up to `n` times in a row. -/
def many (a : Tracer) : Nat → Tracer
  | 0 => pure
  | n + 1 => first (next a (many a n)) pure

def one (allowed : Char → Bool) : Tracer
  | c :: cs => if allowed c then pure cs else failure
  | [] => failure

def exactly (text : Text) : Tracer := fun cs =>
  if Text.startsWith text cs then pure (cs.drop text.length) else failure

/-- Behind blanks and comments. -/
def spaced (a : Tracer) : Tracer := fun cs => a (skipSpace cs)

def hexDigits (count : Nat) : Tracer := fun cs =>
  if count ≤ (cs.takeWhile isHex).length then pure (cs.drop count) else failure

def unicodeEscape : Tracer := named .unicodeEscape (hexDigits 4)

def escapedChar (c : Char) : Bool := !Json.isDigit c && c != 'x' && c != 'u' && !isLineEnd c

/-- An escape behind its backslash. -/
def escape : Tracer :=
  first (named .escapedChar (one escapedChar)) <|
  first (named .nulEscape (one (· == '0'))) <|
  first (next (one (· == 'x')) (named .hexEscape (hexDigits 2)))
    (next (one (· == 'u')) unicodeEscape)

def stringChar (quote : Char) : Tracer :=
  let backslash := one (· == '\\')
  first (next backslash escape) <|
  first (next backslash (first (exactly ['\r', '\n']) (one isLineEnd))) fun cs =>
    if cs.head? = some quote then failure
    else named .char (one fun c => c != '\\' && !isLineEnd c) cs

def quoted (quote : Char) : Tracer := fun cs =>
  next (one (· == quote)) (next (many (stringChar quote) cs.length) (one (· == quote))) cs

def string : Tracer := named .string (first (quoted '"') (quoted '\''))

/-- One character of a bare key. -/
def keyChar (allowed : Char → Bool) : Tracer :=
  first (one fun c => allowed c && c != '\\') (next (exactly ['\\', 'u']) unicodeEscape)

def key : Tracer :=
  first
    (named .key fun cs => next (keyChar isKeyStart) (many (keyChar isKeyPart) cs.length) cs)
    string

/-- Elements with commas between them, behind the opening bracket. -/
def elements (element : Tracer) (close : Char) : Tracer :=
  let closing := spaced (one (· == close))
  let comma := spaced (one (· == ','))
  let further := next comma (spaced element)
  first closing fun cs =>
    next (spaced element) (next (many further cs.length) (next (first comma pure) closing)) cs

/-- A value; the fuel bounds its depth. -/
def value : Nat → Tracer
  | 0 => fun _ => failure
  | fuel + 1 =>
    let member := next key (next (spaced (one (· == ':'))) (spaced (value fuel)))
    first (named .null (exactly "null".toList)) <|
    first (named .boolean (first (exactly "true".toList) (exactly "false".toList))) <|
    first string <|
    first (named .number fun cs => OptionT.mk (pure ((readNumber cs).map Prod.snd))) <|
    first (named .object (next (one (· == '\x7b')) (elements member '\x7d')))
      (named .array (next (one (· == '[')) (elements (value fuel) ']')))

/-- A whole text. -/
def text : Tracer := fun cs =>
  next (spaced (value (cs.length + 1)))
    (spaced (named .endOfText fun cs => if cs.isEmpty then pure [] else failure)) cs

end Tracer

/-! ### Drawing -/

/-- Where a text ends to be well-formed: its line, as it is shown, and what is expected. -/
structure Lack where
  line : Nat
  column : Nat
  shown : Text
  expected : List Part
deriving DecidableEq, Repr, Inhabited

/-- Line and column behind a text, both counted from one. -/
def placeBehind : Text → Nat × Nat → Nat × Nat
  | '\r' :: '\n' :: cs, (line, _) => placeBehind cs (line + 1, 1)
  | '\n' :: cs, (line, _) => placeBehind cs (line + 1, 1)
  | _ :: cs, (line, column) => placeBehind cs (line, column + 1)
  | [], place => place

/-- The line around a place; its end is made visible if it is the place. -/
def lineAround (before behind : Text) : Text :=
  let start := (before.reverse.takeWhile (· != '\n')).reverse
  let line := start ++ behind.takeWhile (· != '\n')
  if behind.head? == some '\n' || behind.head? == some '\r' then
    let whole := if behind.contains '\n' then line ++ ['\n'] else line
    whole.map fun c => if c = '\r' then '␍' else if c = '\n' then '␊' else c
  else line.filter (· != '\r')

/-- What a malformed text lacks. -/
def lackOf (cs : Text) : Lack :=
  let (_, misses) := (Tracer.text cs).run []
  let left := misses.foldl (fun n m => min n m.left) cs.length
  let expected := Part.all.filter fun p => misses.contains ⟨left, p⟩
  let before := cs.take (cs.length - left)
  let (line, column) := placeBehind before (1, 1)
  ⟨line, column, lineAround before (cs.drop (cs.length - left)), expected⟩

/-- Alternatives in words. -/
def alternatives : List String → String
  | [] => ""
  | [a] => a
  | [a, b] => a ++ " or " ++ b
  | as => String.intercalate ", " as.dropLast ++ ", or " ++ as.getLast?.getD ""

/-- A lack with the line it is in. -/
def Lack.message (l : Lack) : String :=
  let number := toString l.line
  let margin := String.ofList (List.replicate number.length ' ')
  let indent := (l.shown.take (l.column - 1)).map fun c => if c = '\t' then '\t' else ' '
  String.intercalate "\n" [
    margin ++ "--> " ++ number ++ ":" ++ toString l.column,
    margin ++ " |",
    number ++ " | " ++ String.ofList l.shown,
    margin ++ " | " ++ String.ofList indent ++ "^---",
    margin ++ " |",
    margin ++ " = expected " ++ alternatives (l.expected.map Part.name)]

end ImportLint.Relaxed
