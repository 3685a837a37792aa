import ImportLint.Number.Shortest
import ImportLint.Syntax.Fault

/-!
# Syntax — tokens

Words and symbols are known by how they are written; which words are reserved is a property of
the word, not of the token.

* `Token`: what the grammar is written in.
* `Token.shown`: a token as an error shows it.
* `Word.isKeyword`, `Word.isReserved`: the reserved words.
* `Token.precedence`: how tightly a binary operator binds.
-/

namespace ImportLint.Syntax

inductive Token where
  | word (name : String)
  | symbol (text : String)
  | string (value raw : Text)
  | number (raw : Text)
  | bigint (raw : Text)
  | regex (body flags : Text)
  /-- A part of a template without substitutions; a bad escape in it is an error unless the
  template is tagged. -/
  | template (raw : Text) (fault : Option Fault)
  | markupName (name : Text)
  | markupText (raw : Text)
  | markupStart
  | markupEnd
  | shebang
  | error (fault : Fault)
deriving DecidableEq, Repr, Inhabited

/-- A token and the bytes it is written with. -/
structure Lexeme where
  token : Token
  span : Span
  /-- A line ends between it and the token before. -/
  lineBreak : Bool
deriving DecidableEq, Repr, Inhabited

/-! ### Words -/

namespace Word

/-- The words that are never names by themselves, whatever surrounds them. -/
def isKeyword (w : String) : Bool :=
  ["await", "break", "case", "catch", "continue", "debugger", "default", "do", "else", "finally",
    "for", "function", "if", "return", "switch", "throw", "try", "var", "let", "const", "while",
    "with", "new", "this", "super", "class", "extends", "export", "import", "yield", "in",
    "instanceof", "typeof", "void", "delete"].contains w

def isLiteral (w : String) : Bool := w == "null" || w == "true" || w == "false"

/-- A word that can be a name without looking at what surrounds it. -/
def isPlain (w : String) : Bool := !isKeyword w && !isLiteral w

/-- Keywords behind which an expression begins. -/
def beforeExpression (w : String) : Bool :=
  ["await", "case", "default", "do", "else", "return", "throw", "new", "extends", "yield", "in",
    "instanceof", "typeof", "void", "delete"].contains w

/-- Keywords and literals with which an expression can begin. -/
def startsExpression (w : String) : Bool :=
  isPlain w || isLiteral w
    || ["await", "function", "new", "this", "super", "class", "import", "yield", "typeof", "void",
      "delete"].contains w

/-- Words that modules reserve besides the keywords. -/
def isFutureReserved (w : String) : Bool :=
  ["enum", "implements", "package", "protected", "interface", "private", "public"].contains w

/-- No reference in a module. -/
def isReserved (w : String) : Bool := isKeyword w || isLiteral w || isFutureReserved w

/-- Reserved also outside of modules. -/
def isAlwaysReserved (w : String) : Bool :=
  ["break", "case", "catch", "class", "const", "continue", "debugger", "default", "delete", "do",
    "else", "enum", "export", "extends", "false", "finally", "for", "function", "if", "import",
    "in", "instanceof", "new", "null", "package", "return", "super", "switch", "this", "throw",
    "true", "try", "typeof", "var", "void", "while", "with"].contains w

/-- Names that cannot be bound. -/
def isUnbindable (w : String) : Bool := w == "eval" || w == "arguments"

/-- Words that name types of the language, and so no interfaces. -/
def namesType (w : String) : Bool :=
  ["string", "null", "number", "object", "any", "unknown", "boolean", "bigint", "symbol", "void",
    "never", "intrinsic"].contains w

end Word

/-! ### Numerals -/

namespace Numeral

def digitValue (c : Char) : Nat :=
  if c.isDigit then c.toNat - 48
  else if 'a' ≤ c && c ≤ 'f' then c.toNat - 87
  else if 'A' ≤ c && c ≤ 'F' then c.toNat - 55
  else 0

def natural (radix : Nat) (digits : Text) : Nat :=
  digits.foldl (fun n c => n * radix + digitValue c) 0

/-- The exponent behind `e`. -/
def exponent (digits : Text) : Int :=
  match digits with
  | '-' :: ds => - (natural 10 ds : Int)
  | '+' :: ds => natural 10 ds
  | ds => natural 10 ds

def decimal (digits : Text) : Float :=
  let mantissa := digits.takeWhile fun c => c != 'e' && c != 'E'
  let power := exponent ((digits.dropWhile fun c => c != 'e' && c != 'E').drop 1)
  let whole := mantissa.takeWhile (· != '.')
  let places := (mantissa.dropWhile (· != '.')).drop 1
  let n := natural 10 (whole ++ places)
  match power - places.length with
  | .ofNat e => if n = 0 then 0 else Float.ofScientific n false e
  | .negSucc e => Float.ofScientific n true (e + 1)

/-- A numeral as its value is written. -/
def shown (raw : Text) : String :=
  let value := match raw.filter (· != '_') with
    | '0' :: 'x' :: ds | '0' :: 'X' :: ds => Float.ofNat (natural 16 ds)
    | '0' :: 'o' :: ds | '0' :: 'O' :: ds => Float.ofNat (natural 8 ds)
    | '0' :: 'b' :: ds | '0' :: 'B' :: ds => Float.ofNat (natural 2 ds)
    | '0' :: ds =>
      if !ds.isEmpty && ds.all fun c => '0' ≤ c && c ≤ '7' then Float.ofNat (natural 8 ds)
      else decimal ('0' :: ds)
    | ds => decimal ds
  let text := Number.printDouble value
  if text.endsWith ".0" then (text.dropEnd 2).toString else text

/-- A numeral of a big integer as its value is written. -/
def shownBig (raw : Text) : String :=
  let n := match raw.filter fun c => c != '_' && c != 'n' with
    | '0' :: 'x' :: ds | '0' :: 'X' :: ds => natural 16 ds
    | '0' :: 'o' :: ds | '0' :: 'O' :: ds => natural 8 ds
    | '0' :: 'b' :: ds | '0' :: 'B' :: ds => natural 2 ds
    | ds => natural 10 ds
  String.ofList (Nat.toDigits 10 n)

end Numeral

/-! ### Operators -/

namespace Token

/-- How tightly a binary operator binds; none for all other tokens. -/
def precedence : Token → Option Nat
  | symbol s =>
    if s == "||" || s == "??" then some 1
    else if s == "&&" then some 2
    else if s == "|" then some 3
    else if s == "^" then some 4
    else if s == "&" then some 5
    else if ["==", "!=", "===", "!=="].contains s then some 6
    else if ["<", "<=", ">", ">="].contains s then some 7
    else if ["<<", ">>", ">>>"].contains s then some 8
    else if s == "+" || s == "-" then some 9
    else if s == "*" || s == "/" || s == "%" then some 10
    else if s == "**" then some 11
    else none
  | _ => none

/-- A binary operator that is no word. -/
def isOperator (t : Token) : Bool := t.precedence.isSome

def isAssignment : Token → Bool
  | symbol s =>
    ["=", "+=", "-=", "*=", "/=", "%=", "**=", "<<=", ">>=", ">>>=", "&=", "|=", "^=", "&&=",
      "||=", "??="].contains s
  | _ => false

/-- An expression begins behind this token, if one can. -/
def beforeExpression : Token → Bool
  | word w => Word.beforeExpression w
  | symbol s =>
    isOperator (symbol s) || isAssignment (symbol s)
      || ["=>", "...", "!", "(", "\x7b", "[", ";", ",", ":", "?", "~", "$\x7b"].contains s
  | markupText _ => true
  | _ => false

/-- An expression can begin with this token. -/
def startsExpression : Token → Bool
  | word w => Word.startsExpression w
  | symbol s =>
    ["!", "(", "\x7b", "[", "++", "--", "~", "`", "+", "-", "<", "/", "/=", "#"].contains s
  | string .. | number _ | bigint _ | regex .. | template .. | markupStart => true
  | _ => false

/-- What can stand behind `let` in a declaration. -/
def followsLet : Token → Bool
  | word w => Word.isPlain w || w == "let" || w == "yield" || w == "await"
  | symbol s => s == "\x7b" || s == "["
  | _ => false

/-- A token as an error shows it. -/
def shown : Token → String
  | word w => w
  | symbol s => s
  | string value raw =>
    "string literal (" ++ String.ofList value ++ ", " ++ String.ofList raw ++ ")"
  | number raw => "numeric literal (" ++ Numeral.shown raw ++ ", " ++ String.ofList raw ++ ")"
  | bigint raw => "bigint literal (" ++ Numeral.shownBig raw ++ ", " ++ String.ofList raw ++ ")"
  | regex body flags =>
    "regexp literal (" ++ String.ofList body ++ ", " ++ String.ofList flags ++ ")"
  | template raw _ => "template token (" ++ String.ofList raw ++ ")"
  | markupName name => "jsx name (" ++ String.ofList name ++ ")"
  | markupText raw => "jsx text (" ++ String.ofList raw ++ ")"
  | markupStart => "< (jsx tag start)"
  | markupEnd => "> (jsx tag end)"
  | shebang => "#!"
  | error f => f.asToken

end Token

end ImportLint.Syntax
