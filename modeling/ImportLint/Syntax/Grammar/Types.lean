import ImportLint.Syntax.Grammar.Patterns

/-!
# Grammar — types

Types are read and not kept.

* `type`: a type; `returnType`: one that a function returns, or what it tells of a parameter.
* `typeParameters`, `typeArguments`: what stands between angle brackets.
* `interfaceBody`: the members of an interface.
-/

namespace ImportLint.Syntax.Parser

variable (go : Descend)

/-! ### Angle brackets -/

/-- A type behind a word, in an expression. -/
def typeBehindWord : Parser Unit :=
  inType do
    let _ ← bump
    go .type

/-- Leaves the tag that an angle bracket was taken for. -/
def leaveTag : Parser Unit :=
  modify fun s => { s with scan.nesting.stack := s.scan.nesting.stack.drop 2 }

def seesMarkup : Parser Bool := return (← token?) == some .markupStart

/-- Reads as if nothing enclosed the place. -/
def unenclosed {α : Type} (p : Parser α) : Parser α := fun s =>
  let stack := s.scan.nesting.stack
  let (answer, t) := p { s with scan.nesting.stack := stack.drop (stack.length - 1) }
  (answer, { t with scan.nesting.stack := stack })

/-- Elements with commas between them, up to the token that ends the list. -/
def delimited {α : Type} (ends : String) (element : Parser α) : Parser (List α) :=
  loop (α := List α)
    (fun found => do
      if ← sees ends then return .inr found.reverse
      let a ← element
      if ← eat "," then return .inl (a :: found)
      if ← sees ends then return .inr (a :: found).reverse
      expect ","
      return .inl (a :: found))
    []

def typeArguments : Parser Unit := do
  inType do unenclosed do
    if ← sees "<<" then
      modify fun s =>
        match s.current with
        | .lexeme l =>
          { s with current := .lexeme ⟨.symbol "<", ⟨l.span.lo + 1, l.span.hi⟩, false⟩ }
        | _ => s
    else expect "<"
    let _ ← delimited ">" (go .type)
  modify fun s => { s with scan.nesting.expressionAllowed := false }
  expect ">"

/-- A modifier of a type parameter. -/
structure Variance where
  isIn : Bool := false
  isOut : Bool := false

/-- The modifiers of a type parameter. -/
def parameterModifiers (allowInOut allowConst : Bool) : Parser Unit :=
  loop (α := Variance)
    (fun v => do
      match ← modifier? ["public", "private", "protected", "readonly", "abstract", "const",
          "override", "in", "out"] false with
      | none => return .inr ()
      | some "const" =>
        if !allowConst then report (← previous) (.modifierOnlyOnFunctionParameter "const")
        return .inl v
      | some "in" =>
        if !allowInOut then report (← previous) (.modifierOnlyOnClassParameter "in")
        else if v.isIn then report (← previous) (.modifierSeen "in")
        else if v.isOut then report (← previous) (.modifierOrder "in" "out")
        return .inl { v with isIn := true }
      | some "out" =>
        if !allowInOut then report (← previous) (.modifierOnlyOnClassParameter "out")
        else if v.isOut then report (← previous) (.modifierSeen "out")
        return .inl { v with isOut := true }
      | some w =>
        report (← previous) (.modifierOnTypeParameter w)
        return .inl v)
    {}

/-- A type behind a token, if the token is there. -/
def typeBehind? (text : String) : Parser Unit :=
  inType do
    if ← eat text then go .type

def shownOption : Parser String := do
  match ← token? with
  | some t => return "Some(" ++ t.shown ++ ")"
  | none => return "None"

/-- A type behind a token that has to be there. -/
def typeBehind (text : String) : Parser Unit :=
  inType do
    if !(← eat text) then
      let got ← shownOption
      failHere (.unexpected got text)
    go .type

def typeParameter (allowInOut allowConst : Bool) : Parser Span := do
  let start ← here
  parameterModifiers allowInOut allowConst
  let _ ← inType anyName
  typeBehind? go "extends"
  typeBehind? go "="
  spanFrom start

/-- Type parameters, and where each of them stands. -/
def typeParameters (allowInOut allowConst : Bool) : Parser (List Span) :=
  inType do unenclosed do
    match ← token? with
    | some (.symbol "<") | some .markupStart => let _ ← bump
    | _ => failUnexpected "< (jsx tag start)"
    let found ← delimited ">" (typeParameter go allowInOut allowConst)
    expect ">"
    return found

def typeParameters? (allowInOut allowConst : Bool) : Parser Unit := do
  if ← sees "<" then
    let _ ← typeParameters go allowInOut allowConst

/-! ### Functions -/

/-- The type of what a function returns, behind `text`. -/
def returnType (text : String) : Parser Unit :=
  inType do
    if !(← eat text) then
      let got ← shownOption
      failHere (.expected text got)
    let asserts ← if ← sees "asserts" then pure (isReference (← aheadToken?)) else pure false
    if asserts then
      let _ ← bump
      let _ ← token
    let tells ←
      if ← seesReference then
        if ← seesAhead "is" then pure (!(← lineBreakAhead)) else pure false
      else pure false
    if !asserts && !tells then go .type
    else
      let _ ← anyName
      if tells then
        let _ ← bump
        go .type

/-- The parameters of a signature, behind the opening parenthesis. -/
def signatureParameters : Parser (List Tree) := do
  let ps ← parameters go
  for p in ps do
    if (patternOf p).kind = .withDefault then
      failUnexpected
        "an identifier, [ for an array pattern, \x7b for an object patter or ... for a rest pattern"
  expect ")"
  return ps

def functionType (isConstructor : Bool) : Parser Unit := do
  if isConstructor then
    let _ ← eat "abstract"
    expect "new"
  typeParameters? go false true
  expect "("
  let _ ← signatureParameters go
  returnType go "=>"

/-- Moves over the beginning of a parameter. -/
def skipParameterStart : Parser Bool := do
  let _ ← eatModifier
  if ← seesWord then
    let _ ← bump
    return true
  if ← seesAny ["\x7b", "["] then
    match ← outcome (pattern go false) with
    | .ok _ => return true
    | .error _ => return false
  return false

/-- Behind this parenthesis there are parameters. -/
def opensParameters : Parser Bool := do
  let _ ← bump
  if ← seesAny [")", "..."] then return true
  if ← skipParameterStart go then
    if ← seesAny [":", ",", "?", "="] then return true
    if ← eat ")" then return ← sees "=>"
  return false

/-! ### Names of types -/

/-- A name with points. -/
def entityName (allowReserved : Bool) : Parser Unit := do
  let first ← anyName
  if first.isName "void" then
    let p ← here
    report ⟨p, (← previous).hi⟩ .semicolonExpected
  loop (α := Unit)
    (fun _ => do
      if !(← eat ".") then return .inr ()
      let p ← here
      if !(← sees "#") && !(← seesWord) then
        report ⟨p, p⟩ .identifierNameExpected
        return .inr ()
      let _ ← if allowReserved then anyName else name false
      return .inl ())
    ()

def someTypeArguments : Parser Unit :=
  within (fun c => { c with wideAngles := false }) (typeArguments go)

def typeReference : Parser Unit := do
  let start ← here
  let modified ← eatModifier
  entityName true
  if !(← lineBreak) && (← seesAny ["<", "<<"]) then someTypeArguments go
  if modified then report (← spanFrom start) .parameterProperty

/-- How the module of a type is loaded, behind the brace. -/
def importAttributes : Parser Unit := do
  expect "with"
  expect ":"
  if !(← sees "\x7b") then failExpected "\x7b"
  let _ ← go .object
  let _ ← eat ","
  expect "\x7d"

/-- The type of a module. -/
def importType : Parser Unit := do
  let _ ← bump
  expect "("
  let _ ← slot
  let place ← span
  match ← token with
  | .string .. => let _ ← bump
  | _ =>
    let _ ← bump
    report place .importTypeSource
  if ← eat "," <&&> eat "\x7b" then importAttributes go
  expect ")"
  if ← eat "." then entityName false
  if ← sees "<" then someTypeArguments go

/-- The type of a name or a module. -/
def typeQuery : Parser Unit := do
  let _ ← bump
  if ← sees "import" then importType go else entityName true
  if !(← lineBreak) && (← sees "<") then someTypeArguments go

/-! ### Members -/

def memberEnd : Parser Unit := do
  if !(← eat ",") then expectEnd

def returnType? : Parser Unit := do
  if ← sees ":" then returnType go ":"

/-- A signature behind what says how it is called. -/
def callSignature : Parser Unit := do
  typeParameters? go false true
  expect "("
  let _ ← signatureParameters go
  returnType? go
  memberEnd

/-- Behind this bracket there is the parameter of an index. -/
def opensIndex : Parser Bool := do
  let _ ← bump
  if ← seesReference then
    let _ ← bump
    seesAny [":", ","]
  else return false

/-- A member that stands for all keys. -/
def indexSignature? : Parser Bool := do
  if !(← sees "[") then return false
  if !(← lookAhead opensIndex) then return false
  let _ ← bump
  let n ← anyName
  if ← eat "," then report n.span .indexParameter else expect ":"
  inType (go .type)
  expect "]"
  let _ ← typeAnnotation? go
  memberEnd
  return true

/-- The key of a member of a type. -/
def propertyName : Parser Unit := do
  if ← eat "[" then
    let _ ← go .assignment
    expect "]"
  else
    within (fun c => { c with inPropertyName := true }) do
      match ← token with
      | .string .. | .number _ => let _ ← go .construction
      | _ =>
        let n ← memberName
        if n.kind = .privateName then report n.span .privateInInterface

/-- A member that reads or writes. -/
def accessorSignature (isReadonly : Bool) : Parser (Option Unit) := do
  if isReadonly then failHere .readonlyAccessor
  let reads ← eat "get"
  if !reads then expect "set"
  propertyName go
  expect "("
  if reads then
    expect ")"
    let _ ← typeAnnotation? go
  else
    if (← signatureParameters go).isEmpty then failHere .setterParameter
  memberEnd
  return some ()

def propertySignature (isReadonly : Bool) : Parser Unit := do
  propertyName go
  let _ ← eat "?"
  if ← seesAny ["(", "<"] then
    if isReadonly then failHere .readonlyMethod
    callSignature go
  else
    let _ ← typeAnnotation? go
    memberEnd

/-- A member of a type. -/
def typeMember : Parser Unit := do
  if ← seesAny ["(", "<"] then return ← callSignature go
  if ← sees "new" then
    if ← lookAhead (do let _ ← bump; seesAny ["(", "<"]) then
      let _ ← bump
      return ← callSignature go
  let isReadonly := (← modifier? ["readonly"] false).isSome
  if ← indexSignature? go then return
  if (← attempt (accessorSignature go isReadonly)).isSome then return
  propertySignature go isReadonly

def typeMembers : Parser Unit := do
  expect "\x7b"
  loop (α := Unit)
    (fun _ => do
      if ← sees "\x7d" then return .inr ()
      typeMember go
      return .inl ())
    ()
  expect "\x7d"

/-- The members of an interface. -/
def interfaceBody : Parser Unit := inType (typeMembers go)

/-! ### Types with brackets -/

/-- Behind this brace there is a parameter that runs over keys. -/
def opensMapped : Parser Bool := do
  let _ ← bump
  if ← eat "+" <||> eat "-" then return ← sees "readonly"
  let _ ← eat "readonly"
  if !(← eat "[") then return false
  if !(← seesReference) then return false
  let _ ← bump
  sees "in"

/-- A type with a member for each key of a type. -/
def mappedType : Parser Unit := do
  expect "\x7b"
  if ← seesAny ["+", "-"] then
    let _ ← bump
    expect "readonly"
  else let _ ← eat "readonly"
  expect "["
  let _ ← anyName
  typeBehind go "in"
  if ← eat "as" then go .type
  expect "]"
  if ← seesAny ["+", "-"] then
    let _ ← bump
    expect "?"
  else let _ ← eat "?"
  typeBehind? go ":"
  expectEnd
  expect "\x7d"

/-- The name of an item. -/
def itemName : Parser (Option Unit) := do
  let _ ← eat "..."
  let _ ← anyName
  let _ ← eat "?"
  expect ":"
  return some ()

/-- An item of a tuple: whether it may be missing; none for the rest. -/
def tupleItem : Parser (Option Bool) := do
  let _ ← attempt itemName
  if ← eat "..." then
    go .type
    return none
  go .type
  return some (← eat "?")

/-- Items that may be missing stand behind those that may not. -/
def tupleType : Parser Unit := do
  let start ← here
  expect "["
  let items ← loop (α := List (Option Bool))
    (fun items => do
      if ← sees "]" then return .inr items.reverse
      let item ← tupleItem go
      if ← eat "," then return .inl (item :: items)
      if ← sees "]" then return .inr (item :: items).reverse
      expect ","
      return .inl (item :: items))
    []
  expect "]"
  let behind := items.dropWhile (· != some true)
  if behind.contains (some false) then fail (← spanFrom start) .requiredAfterOptional

/-! ### Types -/

def thisType : Parser Unit := expect "this"

/-- What a function tells of `this`. -/
def tellOfThis : Parser Unit := do
  if ← eat "is" then inType (go .type)

/-- The words that are types by themselves. -/
def isTypeWord (w : String) : Bool :=
  ["void", "null", "any", "boolean", "bigint", "never", "number", "object", "string", "symbol",
    "unknown", "undefined", "intrinsic"].contains w

def templateType : Parser Unit := do
  let _ ← templateOf false do
    go .type
    return .leaf .hole (← previous)

/-- A type without operators. -/
def primaryType : Parser Unit := do
  match ← token with
  | .word "import" => importType go
  | .word "this" =>
    thisType
    if !(← lineBreak) && (← sees "is") then tellOfThis go
  | .word "typeof" => typeQuery go
  | .word "true" | .word "false" | .string .. | .number _ | .bigint _ => let _ ← literal
  | .word w =>
    if !(Word.isPlain w || ["void", "yield", "null", "await", "break"].contains w) then unknown
    else if ← pure (w == "asserts") <&&> seesAhead "this" then
      let _ ← bump
      thisType
      tellOfThis go
    else if ← pure (isTypeWord w) <&&> notM (seesAhead ".") then let _ ← bump
    else
      let _ ← aheadSlot
      typeReference go
  | .symbol "`" => templateType go
  | .symbol "-" =>
    let _ ← bump
    match ← token with
    | .number _ | .bigint _ => let _ ← literal
    | _ => failUnexpected "numeric literal or bigint literal"
  | .symbol "\x7b" => if ← lookAhead opensMapped then mappedType go else typeMembers go
  | .symbol "[" => tupleType go
  | .symbol "(" =>
    let _ ← bump
    go .type
    expect ")"
  | _ => unknown
where
  unknown : Parser Unit :=
    failUnexpected
      ("an identifier, void, yield, null, await, break, a string literal, a numeric literal, "
        ++ "true, false, `, -, import, this, typeof, \x7b, [, (")

/-- Arrays and members of a type. -/
def arrayType : Parser Unit := do
  primaryType go
  loop (α := Unit)
    (fun _ => do
      if ← lineBreak <||> notM (eat "[") then return .inr ()
      if !(← eat "]") then
        go .type
        expect "]"
      return .inl ())
    ()

/-- The bound of a type that is inferred; what follows decides whether it is one. -/
def inferBound : Parser (Option Unit) := do
  expect "extends"
  go .plainType
  if (← context).plainTypes || !(← sees "?") then return some ()
  return none

def operatorType : Parser Unit := do
  if ← seesAny ["keyof", "unique", "readonly"] then
    let _ ← bump
    go .operatorType
  else if ← sees "infer" then
    let _ ← bump
    let _ ← anyName
    let _ ← attempt (inferBound go)
  else arrayType go

/-- Types joined by an operator, which may stand before the first too. -/
def joinedTypes (operator : String) (part : Parser Unit) : Parser Unit := do
  let _ ← eat operator
  part
  loop (α := Unit)
    (fun _ => do
      if !(← eat operator) then return .inr ()
      part
      return .inl ())
    ()

def plainType : Parser Unit := do
  let isFunction ←
    if ← sees "<" then pure true
    else if ← sees "(" then lookAhead (opensParameters go)
    else pure false
  if isFunction then functionType go false
  else
    let isConstructor ←
      if ← sees "abstract" then seesAhead "new" else sees "new"
    if isConstructor then functionType go true
    else joinedTypes "|" (joinedTypes "&" (operatorType go))

def type : Parser Unit := do
  plainType go
  let joins := !(← lineBreak) && !(← context).plainTypes
  if ← pure joins <&&> eat "extends" then
    within (fun c => { c with plainTypes := true }) (plainType go)
    expect "?"
    within (fun c => { c with plainTypes := false }) (go .type)
    expect ":"
    within (fun c => { c with plainTypes := false }) (go .type)

/-! ### Arguments that may be operators -/

/-- An expression of the left-hand kind can begin here. -/
def startsLeftHand : Parser Bool := do
  match ← token? with
  | some (.word w) =>
    return ["this", "super", "null", "true", "false", "function", "class", "new",
        "import"].contains w || !Word.isReserved w
  | some (.symbol s) => return ["`", "(", "[", "\x7b", "/", "/="].contains s
  | some (.number _) | some (.bigint _) | some (.string ..) | some (.regex ..) => return true
  | _ => return false

/-- An expression can begin here. -/
def startsExpression : Parser Bool := do
  if ← startsLeftHand then return true
  seesAny ["+", "-", "~", "!", "delete", "typeof", "void", "++", "--", "<", "await", "yield", "#"]

/-- Type arguments in an expression, if what follows shows that they are. -/
def typeArguments? : Parser Bool := do
  let found ← attempt do
    typeArguments go
    if ← seesAny ["<", ">", "+", "-", "(", "`"] then return none
    if ← lineBreak then return some ()
    if (← token?).any Token.isOperator then return some ()
    if ← startsExpression then return none
    return some ()
  return found.isSome

end ImportLint.Syntax.Parser
