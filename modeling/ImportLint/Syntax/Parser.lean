import ImportLint.Syntax.Grammar.Markup
import ImportLint.Syntax.Grammar.Modules
import ImportLint.Syntax.Grammar.Primary

/-!
# Syntax — the parser

* `Parser.phrase`: the parser of all phrases.
* `Module.ofText`: what a text says as a module, and what is wrong with it.
-/

namespace ImportLint.Syntax

namespace Parser

/-- The parser of all phrases, up to a depth. -/
def phrase : Nat → {α : Type} → Phrase α → Parser α
  | 0, _, _ => failHere .unexpectedEnd
  | depth + 1, _, p =>
    match p with
    | .expression => expression (phrase depth)
    | .assignment => assignment (phrase depth)
    | .plainAssignment => plainAssignment (phrase depth)
    | .binary => binary (phrase depth)
    | .unary => unary (phrase depth)
    | .leftHand => leftHand (phrase depth) (primary (phrase depth))
    | .construction => construction (phrase depth) (primary (phrase depth))
    | .subscripts base noCall noComputed => subscripts (phrase depth) base noCall noComputed
    | .object => object (phrase depth)
    | .template isTagged => templateOf isTagged (withIn true (phrase depth .expression))
    | .element => element (phrase depth)
    | .arguments isImport => arguments (phrase depth) isImport
    | .decorators beforeExport => decorators (phrase depth) beforeExport
    | .type => type (phrase depth)
    | .plainType => plainType (phrase depth)
    | .operatorType => operatorType (phrase depth)
    | .typeArguments => typeArguments (phrase depth)
    | .typeParameters allowInOut allowConst => typeParameters (phrase depth) allowInOut allowConst
    | .pattern noLet => pattern (phrase depth) noLet
    | .block => block (phrase depth)
    | .statement isItem => statement (phrase depth) isItem
    | .item => moduleItem (phrase depth)
    | .moduleBlock => moduleBlock (phrase depth)
    | .classMember => classMember (phrase depth)

/-- The items of a module up to the end of its source. -/
def items (depth : Nat) : Parser (List Tree) := do
  if (← token?) == some .shebang then
    let _ ← bump
  many do
    if ← isFinished then return none
    return some (← phrase depth .item)

end Parser

/-- What a text says as a module: its items, or the error that ended the reading.  `faults` are
the errors that did not, in the order in which they were found. -/
structure Module where
  items : Except Fault (List Tree)
  faults : List Fault

/-- What a text says as a module. -/
def Module.ofText (d : Dialect) (text : Text) : Module :=
  let limit := text.length + 8
  let (items, s) := (Parser.items (64 * limit)).run.run
    { dialect := d, context := { inDeclare := d.declarations }
      scan := { input := { rest := text, limit } } }
  ⟨items, s.scan.input.faults.reverse⟩

end ImportLint.Syntax
