import ImportLint.Syntax.Grammar.Operators
import ImportLint.Syntax.Grammar.Variables

/-!
# Grammar — loops

* `whileLoop`, `doWhile`, `forLoop`: the three kinds of loops.
-/

namespace ImportLint.Syntax.Parser

variable (go : Descend)

/-- An expression that may hold `in`. -/
def wholeExpression : Parser Tree := withIn true (go .expression)

/-- The body of a loop. -/
def loopBody : Parser Tree :=
  within (fun c => { c with breakAllowed := true, continueAllowed := true })
    (go (.statement false))

/-- An expression in parentheses. -/
def condition : Parser Tree := do
  expect "("
  let e ← wholeExpression go
  expect ")"
  return e

def whileLoop (start : Nat) : Parser Tree := do
  let _ ← bump
  let test ← condition go
  let body ← loopBody go
  return .node .whileLoop (← spanFrom start) [test, body]

def doWhile (start : Nat) : Parser Tree := do
  let _ ← bump
  let body ← loopBody go
  expect "while"
  let test ← condition go
  let _ ← eatEnd
  return .node .doWhile (← spanFrom start) [body, test]

/-! ### Heads -/

/-- The head of a loop: what it runs over, if it runs over something, and its parts. -/
structure Head where
  each : Option Kind
  parts : List Tree

/-- The rest of a head behind what it begins with. -/
def countingHead (first : List Tree) : Parser Head := do
  let test ← if ← eat ";" then pure [] else
    let e ← wholeExpression go
    expect ";"
    pure [e]
  let update ← if ← sees ")" then pure [] else
    let e ← wholeExpression go
    pure [e]
  return ⟨none, first ++ test ++ update⟩

/-- What a loop runs over, at `of` or `in`. -/
def headOver (target : Tree) : Parser Head := do
  if ← eat "of" then
    let source ← withIn true (go .assignment)
    return ⟨some .forOf, [target, source]⟩
  let _ ← bump
  if target.kind = .resources then report target.span .usingInForIn
  let source ← wholeExpression go
  return ⟨some .forIn, [target, source]⟩

/-- A loop over something binds one variable, without a value and a type. -/
def checkHeadVariables (v : Variables) : Parser Unit := do
  match v.tree.parts with
  | [.node .declarator _ (p :: value)] =>
    if !value.isEmpty then report p.span .initializerInForIn
    if v.isTyped then report p.span .typeInForOf
  | ds =>
    for d in ds.drop 1 do
      if let p :: _ := d.parts then report p.span .tooManyBindings

/-- A name that is disposed of, behind what was read as the name `using`. -/
def headResource? (first : Tree) : Parser Bool := do
  if !(← typed) then return false
  let isUsing :=
    match first with
    | .node .await _ [e] => e.isName "using"
    | e => e.isName "using"
  if !(← pure isUsing <&&> notM (sees "of")) then return false
  seesAhead "of" <||> seesAhead "in"

/-- A head that begins with an expression. -/
def expressionHead : Parser Head := do
  let start ← here
  let first ← withIn false (go .expression)
  if ← headResource? first then
    let p ← bindingName false
    let place ← spanFrom start
    let _ ← token
    return ← headOver go (.node .resources place [.node .declarator place [p]])
  if ← seesAny ["of", "in"] then
    let isIn ← sees "in"
    let p ← toPattern .target first
    if ← pure isIn <&&> typed then
      if p.kind = .arrayPattern || p.kind = .objectPattern then report p.span .patternInForIn
    return ← headOver go p
  expect ";"
  countingHead go [first]

/-- `let` that is no name. -/
def seesLet : Parser Bool := do
  if ← sees "let" then return (← aheadToken?).any Token.followsLet
  return false

def loopHead : Parser Head := do
  if ← seesAny ["const", "var"] <||> seesLet then
    let v ← variableDeclaration go true
    if ← seesAny ["of", "in"] then
      checkHeadVariables v
      return ← headOver go v.tree
    expect ";"
    return ← countingHead go [v.tree]
  if ← eat ";" then return ← countingHead go []
  expressionHead go

/-- A loop with a head; `await` stands only in one that runs over values. -/
def forLoop (start : Nat) : Parser Tree := do
  let _ ← bump
  let first ← here
  let awaits ← eat "await"
  let place ← spanFrom first
  expect "("
  let head ← within (fun c => { c with inForHead := true, inForAwaitHead := awaits }) (loopHead go)
  expect ")"
  let body ← loopBody go
  if awaits && head.each != some .forOf then fail place .forAwaitOnlyOf
  return .node (head.each.getD .forLoop) (← spanFrom start) (head.parts ++ [body])

end ImportLint.Syntax.Parser
