import ImportLint.Syntax.Grammar.Classes
import ImportLint.Syntax.Grammar.Variables

/-!
# Grammar — declarations of types

* `declarationAt?`, `declarationBehind?`: a declaration at its keyword, and behind what was read
  as a name and turns out to be its keyword.
* `ambient?`: what is declared to be elsewhere.
-/

namespace ImportLint.Syntax.Parser

variable (go : Descend)

/-! ### Types -/

/-- An interface behind its keyword. -/
def interfaceDeclaration (start : Nat) : Parser Tree := do
  let n ← anyName
  if n.name?.any Word.namesType then report n.span .interfaceName
  typeParameters? go true false
  if ← eat "extends" then
    let _ ← interfaces go
  if ← sees "extends" then
    reportHere .extendsSeen
    let _ ← many do
      if (← isFinished) || (← sees "\x7b") then return none
      return some (← bump)
  interfaceBody go
  return .leaf .types (← spanFrom start)

/-- A name for a type behind its keyword. -/
def typeAlias (start : Nat) : Parser Tree := do
  let _ ← anyName
  typeParameters? go true false
  typeBehind go "="
  expectEnd
  return .leaf .types (← spanFrom start)

/-! ### Enumerations -/

/-- The value of a member behind its name.  A token that cannot stand there counts as a comma. -/
def memberValue : Parser (List Tree) := do
  if ← eat "=" then return [← go .assignment]
  if ← seesAny [",", "\x7d"] then return []
  let start ← here
  let _ ← bump
  modify fun s => { s with current := .lexeme ⟨.symbol ",", s.previous, false⟩ }
  report ⟨start, start⟩ .semicolonExpected
  return []

def enumMember : Parser (List Tree) := do
  let start ← here
  match ← token with
  | .string .. =>
    let _ ← literal
  | .number _ =>
    let _ ← bump
    report (← spanFrom start) .numericEnumMember
  | .symbol "[" =>
    let _ ← bump
    let _ ← go .expression
    report (← spanFrom start) .computedEnumMember
    expect "]"
  | _ =>
    let _ ← anyName
  memberValue go

/-- An enumeration behind its keyword. -/
def enumDeclaration (start : Nat) : Parser Tree := do
  let _ ← anyName
  expect "\x7b"
  let values ← loop (α := List Tree)
    (fun found => do
      if ← sees "\x7d" then return .inr found
      let found := found ++ (← enumMember go)
      if ← eat "," then return .inl found
      if ← sees "\x7d" then return .inr found
      let place ← span
      report place (.expected "," (← shown))
      return .inl found)
    []
  expect "\x7d"
  return .node .enum (← spanFrom start) values

/-! ### Modules in a module -/

/-- A namespace behind its keyword. -/
def namespaceDeclaration : Parser Tree := do
  let _ ← anyName
  let _ ← many do
    if ← eat "." then return some (← anyName)
    return none
  go .moduleBlock

/-- A module that is elsewhere, at its name. -/
def ambientModule (start : Nat) : Parser Tree := do
  if ← sees "global" then
    let _ ← anyName
  else
    match ← token with
    | .string .. => let _ ← literal
    | _ => failUnexpected "global or a string literal"
  if ← sees "\x7b" then return ← go .moduleBlock
  expectEnd
  return .leaf .types (← spanFrom start)

/-- A module or a namespace behind its keyword. -/
def moduleDeclaration? (start : Nat) (isKeyword : Bool) : Parser (Option Tree) := do
  match ← token with
  | .string .. => return some (← ambientModule go start)
  | _ =>
    if ← pure isKeyword <||> seesReference then return some (← namespaceDeclaration go)
    return none

/-! ### Keywords -/

/-- A declaration that begins with the word `word`, which is the current token. -/
def declarationAt? (start : Nat) (decorators : List Tree) (word : String) :
    Parser (Option Tree) := do
  match word with
  | "abstract" =>
    let _ ← bump
    return some (← classWith go .classDeclaration start decorators true true)
  | "enum" =>
    let _ ← bump
    return some (← enumDeclaration go start)
  | "interface" =>
    let _ ← bump
    return some (← interfaceDeclaration go start)
  | "module" =>
    if ← lineBreak then return none
    let _ ← bump
    moduleDeclaration? go start true
  | "namespace" =>
    let _ ← bump
    return some (← namespaceDeclaration go)
  | "type" =>
    let _ ← bump
    return some (← typeAlias go start)
  | _ => return none

/-- What is declared to be elsewhere, behind `declare`. -/
def ambient? (start : Nat) (decorators : List Tree) : Parser (Option Tree) := do
  if (← context).inDeclare && !(← dialect).declarations then
    report (← spanFrom start) .ambientDeclare
  within (fun c => { c with inDeclare := true }) do
    match ← token? with
    | some (.word "function") =>
      return some (← namedFunction go .functionDeclaration none false true)
    | some (.word "class") =>
      return some (← classWith go .classDeclaration start decorators true false)
    | some (.word "const") | some (.word "var") | some (.word "let") =>
      if ← sees "const" <&&> seesAhead "enum" then
        let _ ← bump
        let _ ← bump
        return some (← enumDeclaration go start)
      return some (← variableDeclaration go false).tree
    | some (.word "global") => return some (← ambientModule go start)
    | some (.word w) => declarationAt? go start decorators w
    | _ => return none

/-- A declaration behind the name `word`, which turns out to be its keyword. -/
def declarationBehind? (start : Nat) (decorators : List Tree) (word : String) :
    Parser (Option Tree) := do
  match word with
  | "declare" => ambient? go start decorators
  | "global" =>
    if ← sees "\x7b" then return some (← go .moduleBlock)
    return none
  | "abstract" =>
    if ← sees "class" <&&> notM lineBreak then
      return some (← classWith go .classDeclaration start decorators true true)
    return none
  | "module" =>
    if ← lineBreak then return none
    moduleDeclaration? go start false
  | "namespace" =>
    if ← seesReference then return some (← namespaceDeclaration go)
    return none
  | _ => return none

end ImportLint.Syntax.Parser
