import ImportLint.Syntax.Dialect
import ImportLint.Syntax.Token

/-!
# Syntax — what encloses a token

The same characters are different tokens inside a template, inside markup and elsewhere.  What
encloses the next token is a stack that each token changes.

* `Nesting.after`: the stack behind a token.
-/

namespace ImportLint.Syntax

inductive Enclosure where
  | blockBrace
  | expressionBrace
  /-- A brace that returns to a template or to markup. -/
  | substitution
  | statementParen (isFor : Bool)
  | expressionParen
  | template
  | functionExpression
  | classExpression
  | openingTag
  | closingTag
  | markup
deriving DecidableEq, Repr, Inhabited

/-- An expression, so that none can follow it. -/
def Enclosure.isExpression : Enclosure → Bool
  | expressionBrace | substitution | expressionParen | template | functionExpression
  | classExpression | markup => true
  | _ => false

structure Nesting where
  /-- Innermost first. -/
  stack : List Enclosure := [.blockBrace]
  /-- An expression can begin at the next token. -/
  expressionAllowed : Bool := true
  previous : Option Token := none
deriving DecidableEq, Repr, Inhabited

namespace Nesting

def current (n : Nesting) : Option Enclosure := n.stack.head?

/-- Whether a brace at this place opens a block. -/
def opensBlock (n : Nesting) (lineBreak : Bool) : Bool :=
  match n.previous, n.current with
  | some (.symbol ":"), some .blockBrace => true
  | some (.symbol ":"), some .expressionBrace => false
  | some (.word "return"), _ | some (.word "yield"), _ => lineBreak
  | some (.word "else"), _ | some (.symbol ";"), _ | none, _ | some (.symbol ")"), _ => true
  | some (.symbol "\x7b"), c =>
    n.stack.take 2 == [.expressionBrace, .openingTag] || c == some .blockBrace
  | some (.symbol "<"), _ | some (.symbol ">"), _ | some (.symbol "=>"), _ => true
  | _, _ => !n.expressionAllowed

/-- Behind a closing parenthesis or brace. -/
def close (stack : List Enclosure) : List Enclosure × Bool :=
  match stack with
  | [] | [_] => (stack, true)
  | .blockBrace :: .functionExpression :: rest => (rest, false)
  | .blockBrace :: .classExpression :: rest => (rest, false)
  | .substitution :: rest => (rest, rest.head? != some .template)
  | out :: rest => (rest, !out.isExpression)

/-- Behind the end of a tag; the tag that closes an element ends the markup. -/
def closeTag (stack : List Enclosure) (selfClosing : Bool) : List Enclosure × Bool :=
  match stack with
  | .openingTag :: rest =>
    if selfClosing then (rest.drop 1, rest[1]? == some .markup) else (rest, true)
  | .closingTag :: rest => (rest.drop 1, rest[1]? == some .markup)
  | _ :: rest => (rest, true)
  | [] => ([], true)

/-- The stack behind a token, and whether an expression can begin there. -/
def step (n : Nesting) (markup lineBreak : Bool) (next : Token) : List Enclosure × Bool :=
  let stack := n.stack
  match next with
  | .word w =>
    if Word.isKeyword w && n.previous == some (.symbol ".") then (stack, false)
    else if w == "function" then
      (if n.expressionAllowed && !n.opensBlock lineBreak then .functionExpression :: stack
        else stack, false)
    else if w == "class" then
      (if n.expressionAllowed && !n.opensBlock lineBreak then .classExpression :: stack
        else stack, false)
    else if w == "of" && n.current == some (.statementParen true) then
      (stack, !n.previous.any Token.beforeExpression)
    else if Word.isPlain w then
      (stack, lineBreak && [some (.word "let"), some (.word "const"), some (.word "var")].contains
        n.previous)
    else (stack, Word.beforeExpression w)
  | .symbol ")" | .symbol "\x7d" => close stack
  | .symbol ":" =>
    match stack with
    | .functionExpression :: rest | .classExpression :: rest => (rest, true)
    | _ => (stack, true)
  | .symbol "\x7b" =>
    match markup, n.current with
    | true, some .openingTag => (.expressionBrace :: stack, true)
    | true, some .markup => (.substitution :: stack, true)
    | _, _ =>
      (if n.opensBlock lineBreak then .blockBrace :: stack else .expressionBrace :: stack, true)
  | .symbol "/" =>
    if markup && n.previous == some .markupStart then (.closingTag :: stack.drop 2, false)
    else (stack, true)
  | .symbol "$\x7b" => (.substitution :: stack, true)
  | .symbol "(" =>
    match n.previous with
    | some (.word "if") | some (.word "with") | some (.word "while") =>
      (.statementParen false :: stack, true)
    | some (.word "for") => (.statementParen true :: stack, true)
    | _ => (.expressionParen :: stack, true)
  | .symbol "++" | .symbol "--" => (stack, n.expressionAllowed)
  | .symbol "`" =>
    match stack with
    | .template :: rest => (rest, false)
    | _ => (.template :: stack, false)
  | .markupStart => (.openingTag :: .markup :: stack, false)
  | .markupEnd => closeTag stack (n.previous == some (.symbol "/"))
  | t => (stack, t.beforeExpression)

/-- What encloses the token behind `next`. -/
def after (n : Nesting) (markup lineBreak : Bool) (next : Token) : Nesting :=
  let (stack, expressionAllowed) := n.step markup lineBreak next
  { stack, expressionAllowed, previous := some next }

/-- The part of a template has been read, and what ends it follows. -/
def partRead (n : Nesting) : Bool :=
  match n.previous with
  | some (.template ..) => true
  | _ => false

end Nesting

end ImportLint.Syntax
