import ImportLint.Syntax.Grammar.Declarations
import ImportLint.Syntax.Grammar.Loops

/-!
# Grammar — statements

* `block`: statements between braces.
* `statement`: a statement that is no item of a module.
-/

namespace ImportLint.Syntax.Parser

variable (go : Descend)

/-! ### Blocks -/

/-- What stands before a closing brace, and the brace. -/
def untilBrace (one : Parser Tree) : Parser (List Tree) := do
  let found ← many do
    if (← isFinished) || (← sees "\x7d") then return none
    return some (← one)
  if ← isFinished then
    let place ← span
    report place (.expected "\x7d" (← shown))
  else let _ ← bump
  return found

/-- Statements between braces. -/
def block : Parser Tree := do
  let start ← here
  expect "\x7b"
  let found ← untilBrace (go (.statement true))
  return .node .block (← spanFrom start) found

/-! ### Statements that begin with a keyword -/

/-- A label behind a jump, if it does not end. -/
def label? : Parser (Option Tree) := do
  if ← eatEnd then return none
  let n ← reference
  expectEnd
  return some n

def jump (start : Nat) (isBreak : Bool) : Parser Tree := do
  let _ ← bump
  let label ← label?
  let place ← spanFrom start
  let known := (← get).labels
  let isUnknown := label.any fun l => !l.name?.any known.contains
  let c ← context
  if isBreak then
    if isUnknown then report place .breakLabel
    else if !c.breakAllowed then report place .breakOutside
  else if !c.continueAllowed then report place .continueOutside
  else if isUnknown then report place .continueLabel
  return .leaf .jump place

def conditional (start : Nat) : Parser Tree := do
  let _ ← bump
  let test ← condition go
  let yes ← go (.statement false)
  let no ← if ← eat "else" then pure [← go (.statement false)] else pure []
  return .node .conditional (← spanFrom start) (test :: yes :: no)

def returnStatement (start : Nat) : Parser Tree := do
  let _ ← bump
  let found ← outcome do
    let value ← if ← seesEnd then pure [] else pure [← wholeExpression go]
    expectEnd
    return Tree.node .returned (← spanFrom start) value
  if !(← context).inFunction then report (← spanFrom start) .returnOutside
  match found with
  | .ok t => return t
  | .error f => throw f

def throwStatement (start : Nat) : Parser Tree := do
  let _ ← bump
  if ← lineBreak then failHere .lineBreakInThrow
  let e ← wholeExpression go
  expectEnd
  return .node .thrown (← spanFrom start) [e]

/-- The cases of a switch; one of them is the default. -/
def cases : Parser (List Tree) :=
  loop (α := Bool × List Tree)
    (fun (hasDefault, found) => do
      if !(← seesAny ["case", "default"]) then return .inr found.reverse
      let start ← here
      let isDefault ← sees "default"
      let _ ← bump
      if isDefault && hasDefault then failHere .multipleDefaults
      let test ← if isDefault then pure [] else pure [← wholeExpression go]
      expect ":"
      let body ← many do
        if (← isFinished) || (← seesAny ["case", "default", "\x7d"]) then return none
        return some (← go (.statement true))
      let kind : Kind := if isDefault then .defaultCase else .case
      let c := Tree.node kind (← spanFrom start) (test ++ body)
      return .inl (hasDefault || isDefault, c :: found))
    (false, [])

def switchStatement (start : Nat) : Parser Tree := do
  let _ ← bump
  let e ← condition go
  expect "\x7b"
  let found ← within (fun c => { c with breakAllowed := true }) (cases go)
  expect "\x7d"
  return .node .switch (← spanFrom start) (e :: found)

/-- What is done with an error, if something is. -/
def handler? : Parser (Option Tree) := do
  let start ← here
  if !(← eat "catch") then return none
  let p ← if ← eat "(" then
      let p ← pattern go false
      let _ ← typed <&&> typeAnnotation? go
      expect ")"
      pure [p]
    else pure []
  let b ← go .block
  return some (.node .handler (← spanFrom start) (p ++ [b]))

/-- What is done at the end, if something is. -/
def finalizer? : Parser (Option Tree) := do
  if ← eat "finally" then return some (← go .block)
  return none

def attemptStatement (start : Nat) : Parser Tree := do
  let _ ← bump
  let b ← go .block
  let behind ← here
  let handler ← handler? go
  let finalizer ← finalizer? go
  if handler.isNone && finalizer.isNone then report ⟨behind, behind⟩ .semicolonExpected
  return .node .attempt (← spanFrom start) (b :: handler.toList ++ finalizer.toList)

/-- A handler or an end without what they belong to. -/
def strayHandler : Parser Tree := do
  let place ← span
  report place .semicolonExpected
  let _ ← outcome (handler? go)
  let _ ← outcome (finalizer? go)
  return .node .expressionStatement place [.invalid place]

def withStatement (start : Nat) : Parser Tree := do
  if ← typed then reportHere .withStatement
  reportStrict (← span) .withInStrict
  let _ ← bump
  let e ← condition go
  let body ← within (fun c => { c with inFunction := true }) (go (.statement false))
  return .node .withObject (← spanFrom start) [e, body]

/-- Resources that are awaited, or an expression that begins with `await`. -/
def awaitUsing? (start : Nat) : Parser (Option Tree) := do
  if !(← seesAhead "using") then return none
  let _ ← bump
  if let some t := ← resources? go start then return some t
  let e ← awaited go start
  let e ← withIn true (binaryTail go e 0)
  let _ ← eatEnd
  return some (.node .expressionStatement (← spanFrom start) [e])

/-- A statement that begins with the word `word`, unless an expression does. -/
def wordStatement? (start : Nat) (decorators : List Tree) (isItem : Bool) (word : String) :
    Parser (Option Tree) := do
  let declaresType : Parser Bool := do
    if ← notM typed then return false
    if !isWord (← aheadToken?) then return false
    notM lineBreakAhead
  match word with
  | "break" => some <$> jump start true
  | "continue" => some <$> jump start false
  | "debugger" =>
    let _ ← bump
    expectEnd
    return some (.leaf .debugger (← spanFrom start))
  | "do" => some <$> doWhile go start
  | "for" => some <$> forLoop go start
  | "function" =>
    if !isItem then reportHere .declarationNotAllowed
    some <$> namedFunction go .functionDeclaration none false true
  | "class" =>
    if !isItem then reportHere .declarationNotAllowed
    some <$> classWith go .classDeclaration start decorators true false
  | "if" => some <$> conditional go start
  | "return" => some <$> returnStatement go start
  | "switch" => some <$> switchStatement go start
  | "throw" => some <$> throwStatement go start
  | "catch" => some <$> strayHandler go
  | "finally" => some <$> strayHandler go
  | "try" => some <$> attemptStatement go start
  | "with" => some <$> withStatement go start
  | "while" => some <$> whileLoop go start
  | "var" => return some (← variableDeclaration go false).tree
  | "const" => if isItem then return some (← variableDeclaration go false).tree else return none
  | "let" =>
    if ← pure isItem <&&> seesLet then return some (← variableDeclaration go false).tree
    return none
  | "await" => if isItem then awaitUsing? go start else return none
  | "using" => if isItem then resources? go start else return none
  | "interface" =>
    if ← declaresType then
      let _ ← bump
      return some (← interfaceDeclaration go start)
    return none
  | "type" =>
    if ← declaresType then
      let _ ← bump
      return some (← typeAlias go start)
    return none
  | "enum" =>
    if ← declaresType then
      let _ ← bump
      return some (← enumDeclaration go start)
    return none
  | "async" =>
    if ← seesAsyncFunction then return some (← asyncFunction go .functionDeclaration false true)
    return none
  | _ => return none

/-! ### Statements that begin with an expression -/

/-- A statement behind its label. -/
def labelled (label : Tree) (name : String) : Parser Tree :=
  within (fun c => { c with breakAllowed := true }) do
    let twins := (← get).labels.filter (· == name)
    modify fun s => { s with labels := name :: s.labels }
    let body ←
      if ← sees "function" then
        let f ← namedFunction go .functionDeclaration none false true
        report f.span .labelledFunction
        if f.kind != .functionDeclaration false false then report f.span .labelledGenerator
        pure f
      else go (.statement false)
    for _ in twins do report label.span (.duplicateLabel name)
    modify fun s => { s with labels := s.labels.erase name }
    return .node .labelled (← spanFrom label.span.lo) [label, body]

/-- The end of a statement that is an expression. -/
def expressionEnd (start : Nat) (e : Tree) : Parser Tree := do
  if ← eatEnd then return .node .expressionStatement (← spanFrom start) [e]
  if (← token?).any Token.isOperator then
    reportHere .semicolonExpected
    let e ← binaryTail go e 0
    return .node .expressionStatement (← spanFrom start) [e]
  failHere .endOfStatementExpected

/-- What a name begins that is no keyword in itself. -/
def nameStatement? (start : Nat) (decorators : List Tree) (n : Tree) (name : String) :
    Parser (Option Tree) := do
  if !(← typed) then return none
  if let some t := ← declarationBehind? go n.span.lo decorators name then return some t
  if ← pure (name == "static" || name == "abstract") <&&> eat "interface" then
    report n.span .interfaceName
    return some (← interfaceDeclaration go start)
  return none

def expressionStatement (start : Nat) (decorators : List Tree) : Parser Tree := do
  let e ← wholeExpression go
  match e.name? with
  | none => expressionEnd go start e
  | some name =>
    if ← eat ":" then labelled go e name
    else
      match ← nameStatement? go start decorators e name with
      | some t => return t
      | none => expressionEnd go start e

/-! ### Statements -/

/-- A statement behind decorators. -/
def statementBehind (start : Nat) (decorators : List Tree) (isItem : Bool) : Parser Tree :=
  within (fun c => { c with colonFollows := false }) do
    if ← typed <&&> sees "const" <&&> seesAhead "enum" then
      let _ ← bump
      let _ ← bump
      return ← enumDeclaration go start
    match ← token with
    | .word w =>
      match ← wordStatement? go start decorators isItem w with
      | some t => return t
      | none => expressionStatement go start decorators
    | .symbol "\x7b" => go .block
    | .symbol ";" =>
      let _ ← bump
      return .leaf .empty (← spanFrom start)
    | _ => expressionStatement go start decorators

/-- An expression that begins with `import`; no item of a module can stand here. -/
def importStatement : Parser Tree := do
  let start ← here
  if ← sees "import" <&&> (seesAhead "(" <||> seesAhead ".") then
    let e ← go .expression
    let _ ← eatEnd
    return .node .expressionStatement (← spanFrom start) [e]
  failHere .moduleOnly

/-- A statement that is no item of a module; declarations can stand here if `isItem`. -/
def statement (isItem : Bool) : Parser Tree := do
  let start ← here
  let decorators ← go (.decorators true)
  if ← seesAny ["import", "export"] then importStatement go
  else statementBehind go start decorators isItem

end ImportLint.Syntax.Parser
