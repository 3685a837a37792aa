import ImportLint.Syntax.Grammar.Statements

/-!
# Grammar — items of modules

* `importItem`, `exportItem`: imports and exports.
* `moduleItem`: a statement or an item of a module.
* `moduleBlock`: the items of a module that is declared in another.
-/

namespace ImportLint.Syntax.Parser

variable (go : Descend)

/-! ### Sources -/

/-- A string that has to be there. -/
def stringRequired : Parser Tree := do
  let _ ← token
  match ← stringLiteral? with
  | some s => return s
  | none => failUnexpected "a string literal"

/-- What a source is loaded with, if it is said. -/
def attributes? : Parser (List Tree) := do
  let _ ← slot
  if !(← typed) || (← lineBreak) then return []
  if ← eat "assert" <||> eat "with" then return [← go .object]
  return []

/-- `from` and a source. -/
def fromSource : Parser (List Tree) := do
  expect "from"
  let source ← stringRequired
  return source :: (← attributes? go)

/-! ### Imports -/

/-- A name that an import binds. -/
def importedName : Parser Tree :=
  within (fun c => { c with inAsync := false, inGenerator := false }) (bindingName false)

/-- How names are written behind `type` in a list of imports or exports. -/
inductive TypeItem where
  /-- `type` is the name itself, and another name follows. -/
  | renamed
  /-- The name behind `type`, and another name for it. -/
  | named
  /-- `type` is no modifier of the name that was read. -/
  | finished
  /-- The name behind `type`; what follows it has not been read. -/
  | modified (name : Tree)

/-- What stands behind `type` in a list. -/
def typeItem (word : Tree) (next : Parser Tree) (twice : Option SyntaxFault) : Parser TypeItem := do
  let reportTwice : Parser Unit := do
    if let some f := twice then report word.span f
  let first ← anyName
  if !first.isName "as" then
    reportTwice
    return .modified first
  if !(← seesWord) then
    reportTwice
    return .finished
  let second ← next
  if !second.isName "as" then return .renamed
  if ← seesWord then
    let _ ← next
    reportTwice
    return .named
  return .renamed

/-- A name in a list of imports. -/
def importedItem (typesOnly : Bool) : Parser Unit := do
  let n ← bindingOfModule
  match n with
  | .node (.string value) place _ =>
    if ← eat "as" then
      let _ ← bindingName false
    else fail place (.importBindingString (String.ofList value))
  | _ =>
    let isModifier ← typed <&&> pure (n.isName "type") <&&> seesWord
    let twice := if typesOnly then some SyntaxFault.typeModifierInImport else none
    let found ← if isModifier then typeItem n (bindingName false) twice else pure (.modified n)
    match found with
    | .modified _ =>
      if ← eat "as" then
        let _ ← bindingName false
    | _ => return

/-- Names between braces, up to the closing brace. -/
def bracedNames (one : Parser α) : Parser (List α) := do
  let found ← loop (α := List α)
    (fun found => do
      if (← isFinished) || (← sees "\x7d") then return .inr found.reverse
      let n ← one
      if ← sees "\x7d" then return .inr (n :: found).reverse
      expect ","
      return .inl (n :: found))
    []
  expect "\x7d"
  return found

/-- An import by assignment, behind its name. -/
def importEquals (start : Nat) : Parser Tree := do
  expect "="
  let source ←
    if ← sees "require" <&&> seesAhead "(" then
      let _ ← bump
      expect "("
      let s ← stringRequired
      expect ")"
      pure [s]
    else
      entityName false
      pure []
  expectEnd
  return .node .importEquals (← spanFrom start) source

/-- When an import takes place. -/
inductive Phase where
  | evaluation
  | defer
  | source
deriving DecidableEq

/-- What an import begins with. -/
inductive ImportStart where
  /-- No name for the default export. -/
  | unnamed (phase : Phase) (typesOnly : Bool)
  /-- A name for the default export. -/
  | named (phase : Phase) (typesOnly : Bool)
  /-- A name that is assigned. -/
  | assigned

/-- What follows the name `type` in an import where there are types; the name is for the default
export if nothing does. -/
def importType? : Parser (Option (ImportStart × Tree)) := do
  if ← seesAny ["*", "\x7b"] then
    return some (.unnamed .evaluation true, .leaf .hole (← previous))
  if ← seesReference then
    if ← notM (sees "from") <||> seesAhead "from" then
      return some (.named .evaluation true, ← importedName)
    if ← seesAhead "=" then return some (.named .evaluation true, ← anyName)
  return none

/-- What follows the name of a phase; without it the name is for the default export. -/
def importPhase (phase : Phase) (typesOnly : Bool) : Parser ImportStart := do
  if ← seesAny ["*", "\x7b"] then return .unnamed phase typesOnly
  if ← seesReference <&&> (notM (sees "from") <||> seesAhead "from") then
    let _ ← importedName
    return .named phase typesOnly
  return .named .evaluation typesOnly

/-- The names before a list. -/
def importStart : Parser ImportStart := do
  if ← notM seesReference then return .unnamed .evaluation false
  let n ← importedName
  let behindType ← if ← typed <&&> pure (n.isName "type") then importType? else pure none
  let (found, n) := behindType.getD (.named .evaluation false, n)
  match found with
  | .named _ typesOnly =>
    if ← typed <&&> sees "=" then return .assigned
    if n.isName "defer" then importPhase .defer typesOnly
    else if n.isName "source" then importPhase .source typesOnly
    else return found
  | _ => return found

/-- The names of an import in a list.  A source is not looked into, and what is deferred has no
names of its own. -/
def importList (phase : Phase) (typesOnly : Bool) : Parser Unit := do
  if ← pure (phase != .source) <&&> eat "*" then
    expect "as"
    let _ ← importedName
  else if ← pure (phase == .evaluation) <&&> eat "\x7b" then
    let _ ← bracedNames (importedItem typesOnly)

def importItem : Parser Tree := do
  if ← seesAhead "." <||> seesAhead "(" then return ← importStatement go
  let start ← here
  let _ ← bump
  if let some s := ← stringLiteral? then
    let attributes ← attributes? go
    expectEnd
    return .node .importFrom (← spanFrom start) (s :: attributes)
  match ← importStart with
  | .assigned => return ← importEquals start
  | .unnamed phase typesOnly => importList phase typesOnly
  | .named phase typesOnly =>
    if !(← sees "from") then expect ","
    importList phase typesOnly
  let source ← fromSource go
  expectEnd
  return .node .importFrom (← spanFrom start) source

/-! ### Exports -/

/-- A name in a list of exports. -/
def exportedItem (typesOnly : Bool) : Parser Tree := do
  let n ← bindingOfModule
  let isModifier ← typed <&&> pure (n.isName "type") <&&> seesWord
  let twice := if typesOnly then some SyntaxFault.typeModifierInExport else none
  let found ← if isModifier then typeItem n anyName twice else pure (.modified n)
  match found with
  | .modified m =>
    if ← eat "as" then
      let _ ← bindingOfModule
    return m
  | .renamed => return n
  | _ => return .leaf (.name "as") n.span

/-- A name that is exported from another module only. -/
def checkExported (n : Tree) : Parser Unit := do
  match n with
  | .node (.name w) place _ => if Word.isAlwaysReserved w then report place (.exportNeedsFrom w)
  | .node (.string _) place _ => report place .exportBindingString
  | _ => return

/-- A source and the end of the statement. -/
def exportSource : Parser (List Tree) := do
  let source ← fromSource go
  let _ ← eatEnd
  return source

/-- Names that are exported, behind what stands before them. -/
def exportedNames (start : Nat) (typesOnly : Bool) : Parser Tree := do
  if ← sees "*" then
    let isNamed ← seesAhead "as"
    let _ ← bump
    if isNamed then
      expect "as"
      let _ ← bindingOfModule
    let source ← exportSource go
    let kind : Kind := if isNamed then .exportNames else .exportAll
    return .node kind (← spanFrom start) source
  expect "\x7b"
  let names ← bracedNames (exportedItem typesOnly)
  if ← sees "from" then
    let source ← exportSource go
    return .node .exportNames (← spanFrom start) source
  names.forM checkExported
  let _ ← eatEnd
  return .leaf .exportNames (← spanFrom start)

/-- What is exported without a name. -/
def defaultExport (start : Nat) (decorators : List Tree) : Parser Tree := do
  let place ← here
  let late ← if ← sees "@" then go (.decorators false) else pure []
  if !late.isEmpty && !decorators.isEmpty then fail (← spanFrom place) .decoratorsTwice
  let decorators := if late.isEmpty then decorators else late
  let first ← here
  let declared (t : Tree) : Parser Tree := do
    return .node .exportDefaultDeclaration (← spanFrom start) [t]
  if ← typed then
    if ← sees "abstract" <&&> seesAhead "class" <&&> notM lineBreakAhead then
      let _ ← bump
      return ← declared (← classWith go .classDeclaration first decorators false true)
    if ← sees "abstract" <&&> seesAhead "interface" then
      reportHere .abstractOnlyOnClass
      let _ ← bump
    if ← eat "interface" then return ← declared (← interfaceDeclaration go first)
  if ← sees "class" then
    declared (← classWith go .classDeclaration first decorators false false)
  else if ← seesAsyncFunction then
    declared (← asyncFunction go .functionDeclaration false false)
  else if ← sees "function" then
    declared (← namedFunction go .functionDeclaration none false false)
  else
    let e ← withIn true (go .assignment)
    expectEnd
    return .node .exportDefault (← spanFrom start) [e]

/-- Exports that only come with types. -/
def typedExport? (start : Nat) (decorators : List Tree) : Parser (Option Tree) := do
  let declared (t : Tree) : Parser (Option Tree) := do
    return some (.node .exportDeclaration (← spanFrom start) [t])
  let first ← here
  if ← eat "declare" then
    if let some t := ← ambient? go first decorators then return ← declared t
  if let some (.word w) := ← token? then
    let place ← here
    if let some t := ← attempt (declarationAt? go place decorators w) then return ← declared t
  if ← eat "import" then
    if ← sees "type" then
      if isWord (← aheadToken?) then
        let _ ← bump
    let _ ← anyName
    return some (← importEquals start)
  if ← eat "=" then
    let e ← go .expression
    expectEnd
    return some (.node .exportEquals (← spanFrom start) [e])
  if ← eat "as" then
    expect "namespace"
    let _ ← name false
    expectEnd
    return some (.leaf .exportNamespace (← spanFrom start))
  return none

/-- A declaration that is exported, if there is one. -/
def exportedDeclaration? (start : Nat) (decorators : List Tree) : Parser (Option Tree) := do
  let first ← here
  let late ← if ← sees "@" then go (.decorators false) else pure []
  if !late.isEmpty && !decorators.isEmpty then fail (← spanFrom first) .decoratorsTwice
  let decorators := if late.isEmpty then decorators else late
  if ← sees "class" then
    return some (← classWith go .classDeclaration (← here) decorators true false)
  if ← seesAsyncFunction then
    return some (← asyncFunction go .functionDeclaration false true)
  if ← sees "function" then
    return some (← namedFunction go .functionDeclaration none false true)
  if ← typed <&&> sees "const" <&&> seesAhead "enum" then
    let _ ← bump
    let _ ← bump
    return some (← enumDeclaration go start)
  if ← seesAny ["var", "const"] <||> seesLet then return some (← variableDeclaration go false).tree
  return none

def exportItem (decorators : List Tree) : Parser Tree := do
  let start ← here
  let _ ← bump
  let _ ← token
  if ← typed then
    if let some t := ← typedExport? go start decorators then return t
  let typesOnly ← typed <&&> eat "type"
  if typesOnly then exportedNames go start true
  else if ← eat "default" then defaultExport go start decorators
  else
    match ← exportedDeclaration? go start decorators with
    | some t => return .node .exportDeclaration (← spanFrom start) [t]
    | none => exportedNames go start false

/-! ### Items -/

/-- A statement or an item of a module. -/
def moduleItem : Parser Tree := do
  let start ← here
  let decorators ← go (.decorators true)
  if ← sees "import" then importItem go
  else if ← sees "export" then exportItem go decorators
  else statementBehind go start decorators true

/-- The items of a module that is declared in another, between braces. -/
def moduleBlock : Parser Tree := do
  let start ← here
  expect "\x7b"
  let found ← untilBrace (go .item)
  return .node .moduleBlock (← spanFrom start) found

end ImportLint.Syntax.Parser
