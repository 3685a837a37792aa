import ImportLint.Syntax.Grammar.Patterns

/-!
# Grammar — variables

* `variableDeclaration`: a declaration of variables, as a statement or in the head of a loop.
* `resources?`: variables that are disposed of at the end of their block.
-/

namespace ImportLint.Syntax.Parser

variable (go : Descend)

/-- Variables, and whether the first has a type. -/
structure Variables where
  tree : Tree
  isTyped : Bool

/-- What a variable gets at first, behind the variable. -/
def initializer (start : Nat) (word : String) (inHead : Bool) (p : Tree) : Parser (List Tree) := do
  if ← pure inHead <&&> seesAny ["in", "of"] then return []
  if ← eat "=" then return [← go .assignment]
  if !(← context).inDeclare then
    if word == "const" then report (← spanFrom start) .constWithoutInitializer
    else if p.name?.isNone then fail (← spanFrom start) .patternWithoutInitializer
  return []

/-- A variable behind the word that declares it. -/
def declarator (word : String) (inHead : Bool) : Parser Variables := do
  let start ← here
  let p ← pattern go (word != "var")
  if ← pure p.name?.isSome <&&> typed then
    let _ ← eat "!"
  let isTyped ← typed <&&> typeAnnotation? go
  let place ← spanFrom start
  let p := if isTyped && p.name?.isSome then stretch p place else p
  let value ← initializer go start word inHead p
  return ⟨.node .declarator (← spanFrom start) (p :: value), isTyped⟩

/-- In the head of a loop nothing is declared. -/
def declaresNothing : Parser Bool := do
  if !(← seesAny ["in", "of"]) then return false
  let found ← outcome (lookAhead do
    let _ ← bump
    let _ ← go .assignment
    expect ")")
  return found.isOk

/-- Declarators with commas between them. -/
def declarators (keyword : Span) (one : Parser Variables) : Parser (List Variables) :=
  loop (α := List Variables)
    (fun found => do
      if (← isFinished) || (← sees ";") then
        let last ← previous
        report (if last = keyword then ⟨last.hi, last.hi⟩ else last) .trailingComma
        return .inr found.reverse
      let d ← one
      if ← eat "," then return .inl (d :: found)
      return .inr (d :: found).reverse)
    []

/-- Moves behind the end of the statement, or to what is no token. -/
def skipStatement : Parser Unit :=
  loop (α := Unit)
    (fun _ => do
      if ← eatEnd then return .inr ()
      let _ ← bump
      match ← token? with
      | some (.error _) => return .inr ()
      | _ => return .inl ())
    ()

/-- Variables from the word on that declares them. -/
def variableDeclaration (inHead : Bool) : Parser Variables := do
  let start ← here
  let word ← shown
  let _ ← bump
  let keyword ← previous
  if ← pure inHead <&&> typed <&&> declaresNothing go then
    report ⟨keyword.hi, keyword.hi⟩ .emptyDeclarationList
    return ⟨.leaf .variableDeclaration keyword, false⟩
  let found ← declarators keyword
    (within (fun c => { c with allowIn := c.allowIn || word != "var" || !inHead })
      (declarator go word inHead))
  if ← pure !inHead <&&> notM eatEnd then
    reportHere .semicolonExpected
    let _ ← outcome (go .expression)
    skipStatement
  return ⟨.node .variableDeclaration (← spanFrom start) (found.map Variables.tree),
    found.head?.any Variables.isTyped⟩

/-- Variables that are disposed of at the end of their block, if `using` begins them. -/
def resources? (start : Nat) : Parser (Option Tree) := do
  if ← lineBreakAhead then return none
  if !isReference (← aheadToken?) then return none
  let _ ← bump
  let found ← declarators ⟨0, 0⟩ (declarator go "var" false)
  let place ← spanFrom start
  if !(← typed) then report place .usingNotEnabled
  for v in found do
    match v.tree.parts with
    | p :: value =>
      if p.name?.isNone then report place .usingName
      if value.isEmpty then report place .usingWithoutInitializer
    | [] => pure ()
  return some (.node .resources place (found.map Variables.tree))

end ImportLint.Syntax.Parser
