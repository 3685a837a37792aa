import ImportLint.Syntax.Grammar.Functions

/-!
# Grammar — classes

* `decorators`: what is written before a class or one of its members.
* `classWith`: a class from its keyword on.
* `classMember`: one of its members.
-/

namespace ImportLint.Syntax.Parser

variable (go : Descend)

/-! ### Decorators -/

/-- An expression in parentheses, or a name and members of it, with what it is called with. -/
def decorator : Parser Tree := do
  let start ← here
  let _ ← bump
  let e ←
    if ← eat "(" then
      let e ← go .expression
      expect ")"
      pure e
    else
      let n ← name false
      go (.subscripts n false true)
  let isTyped ← typed <&&> sees "<"
  if isTyped then go .typeArguments
  let e ←
    if ← pure isTyped <||> sees "(" then
      let found ← go (.arguments false)
      pure (Tree.node .call (← spanFrom e.span.lo) (e :: found))
    else pure e
  return .node .decorator (← spanFrom start) [e]

/-- The decorators of a class or a member; an export can follow them if `beforeExport`. -/
def decorators (beforeExport : Bool) : Parser (List Tree) := do
  if !(← dialect).decorators then return []
  let found ← many do
    if ← sees "@" then return some (← decorator go)
    return none
  if ← pure (!found.isEmpty && !beforeExport) <&&> sees "export" then
    let c ← context
    if !c.inClass && !c.inFunction then failHere .exportNotAllowed
  return found

/-! ### Members -/

/-- What is written before the key of a member. -/
structure Modifiers where
  start : Nat
  decorators : List Tree
  accessible : Bool
  declares : Option Span := none
  /-- The word `static` before all other modifiers. -/
  early : Option Span := none
  isStatic : Bool := false
  isAbstract : Bool := false
  overrides : Bool := false
  isReadonly : Option Span := none
  isAccessor : Bool := false
  /-- The last of them. -/
  last : Option Span := none

/-- A method is called from here on. -/
def seesMethod : Parser Bool := do
  if ← sees "(" then return true
  if !(← typed) then return false
  if ← sees "<" then return true
  return (← token?) == some .markupStart

/-- A member ends or gets a value here; if `atLineEnd`, a new line ends it too. -/
def seesProperty (atLineEnd : Bool) : Parser Bool := do
  if ← typed then
    if ← seesAny ["!", ":"] then return true
  if ← seesAny ["=", "\x7d"] then return true
  if atLineEnd then seesEnd else sees ";"

def eatOptional : Parser Bool := do
  if ← typed then eat "?" else return false

/-- A member that is called, behind its key. -/
def methodBehind (m : Modifiers) (k : Tree) (list : Parser (List Tree))
    (isAsync isGenerator : Bool) : Parser Tree := do
  let f ← functionWith go .function m.start list isAsync isGenerator
  let place ← spanFrom m.start
  if k.kind = .privateName then
    if m.accessible then report ⟨m.start, k.span.hi⟩ .accessOnPrivate
  else if m.isAbstract && 1 < f.parts.length then report place .abstractWithBody
  return .node (.method (m.isAbstract && k.kind != .privateName)) place (m.decorators ++ [k, f])

/-- A member that holds a value, behind its key. -/
def propertyBehind (m : Modifiers) (k : Tree) (optional : Bool) : Parser Tree := do
  if isConstructorKey k then fail k.span .constructorProperty
  if k.kind = .privateName then
    if m.declares.isSome then report k.span (.privateModifier "declare")
    if m.isAbstract then report k.span (.privateModifier "abstract")
  if (← typed) && !optional then
    let _ ← eat "!"
  if ← typed then
    let _ ← typeAnnotation? go
  within (fun c => { c with allowIn := true, inField := true }) do
    let value ←
      if ← eat "=" then
        let e ← go .assignment
        pure [e]
      else pure []
    if !(← eatEnd) then reportHere .semicolonExpected
    let place ← spanFrom m.start
    let isPrivate := k.kind = .privateName
    if !m.isAccessor then
      if isPrivate && m.accessible then report ⟨m.start, k.span.hi⟩ .accessOnPrivate
      if !isPrivate && m.isAbstract && !value.isEmpty then report place .abstractWithInitializer
    let isAbstract := m.isAbstract && !isPrivate && !m.isAccessor
    return .node (.property isAbstract) place (m.decorators ++ k :: value)

/-- A member named by the word that was read last, if one goes on here. -/
def memberNamed? (m : Modifiers) (word : String) (atLineEnd : Bool) : Parser (Option Tree) := do
  let k := Tree.leaf (.name word) (← previous)
  if ← seesMethod then
    let _ ← eatOptional
    return some (← methodBehind go m k (parameters go) false false)
  if ← seesProperty atLineEnd <||> (typed <&&> sees "?") then
    let optional ← eatOptional
    return some (← propertyBehind go m k optional)
  return none

/-- Modifiers whose order is free or wrong. -/
def moreModifiers (m : Modifiers) : Parser Modifiers :=
  loop (α := Modifiers)
    (fun m => do
      match ← modifier? ["abstract", "readonly", "override", "static"] true with
      | none => return .inr m
      | some w =>
        let place ← previous
        let m := { m with last := some place }
        match w with
        | "abstract" =>
          if m.isAbstract then report place (.modifierSeen "abstract")
          else if m.overrides then report place (.modifierOrder "abstract" "override")
          return .inl { m with isAbstract := true }
        | "override" =>
          if m.overrides then report place (.modifierSeen "override")
          else if m.isReadonly.isSome then report place (.modifierOrder "override" "readonly")
          else if m.declares.isSome then report place (.modifiersConflict "override" "declare")
          else if !(← context).hasSuperclass then report place .overrideWithoutBase
          return .inl { m with overrides := true }
        | "readonly" =>
          if m.isReadonly.isSome then report place (.modifierSeen "readonly")
          return .inl { m with isReadonly := m.isReadonly <|> some place }
        | _ =>
          if m.overrides then report place (.modifierOrder "static" "override")
          return .inl { m with isStatic := true })
    m

def staticBlock (start : Nat) : Parser Tree := do
  let b ← within (fun c => { c with inStaticBlock := true, inField := true }) (go .block)
  return .node .staticBlock (← spanFrom start) [b]

/-- Type parameters of a constructor, which has none. -/
def constructorTypeParameters : Parser Unit := do
  if (← typed) && (← sees "<") then
    let start ← here
    if ← seesAhead ">" then
      let _ ← bump
      let second ← here
      let _ ← bump
      report (← spanFrom start) .emptyTypeParameters
      report (← spanFrom second) .typeParametersOnConstructor
    else
      for place in ← typeParameters go false true do report place .typeParametersOnConstructor

/-- A constructor behind its key. -/
def constructorBehind (m : Modifiers) : Parser Tree := do
  if (← typed) && m.overrides then report (← spanFrom m.start) (.modifierOnConstructor "override")
  constructorTypeParameters go
  let first ← here
  expect "("
  let ps ← constructorParameters go
  expect ")"
  let place ← spanFrom first
  if (← typed) && (← sees ":") then
    let _ ← bump
    let start ← here
    inType (go .type)
    report (← spanFrom start) .typeOnConstructor
  let body ← functionBody go false false (areSimple ps)
  if body.isNone then
    for p in ps do
      if p.kind = .parameterProperty then report p.span .parameterProperty
    if ← typed then
      for p in ps do
        if (patternOf p).kind = .withDefault then report (patternOf p).span .parameterInitializer
  if let some s := m.early then report s (.modifierOnConstructor "static")
  if m.isAbstract then
    if let some l := m.last then report l .abstractOnlyOnClass
  return .node .constructor (← spanFrom m.start) (.node .parameters place ps :: body.toList)

/-- The word that makes a property an accessor, behind other modifiers. -/
def eatAccessor (m : Modifiers) : Parser Bool := do
  if m.isAccessor then return true
  typed <&&> pure m.isReadonly.isNone <&&> notM (seesAhead "(") <&&> eat "accessor"

/-- A member that reads or writes, behind the word that says so. -/
def accessorBehind (m : Modifiers) (word : Tree) : Parser Tree := do
  let k ← classKey go
  if m.isReadonly.isSome then report word.span .readonlyAccessor
  if isConstructorKey k then report word.span .constructorAccessor
  let list := if word.isName "get" then getterParameters go word.span
    else setterParameters go word.span
  methodBehind go m k list false false

/-- A member behind its key. -/
def memberBehind (m : Modifiers) (k : Tree) (optional : Bool) : Parser Tree := do
  if ← seesMethod then
    if let some d := m.declares then report d .declareOnMember
    if m.isReadonly.isSome then fail (← spanFrom m.start) .readonlyMethod
    if isConstructorKey k && (m.early.isNone || (← typed)) then
      return ← within (fun c => { c with inField := false }) (constructorBehind go m)
    return ← methodBehind go m k (parameters go) false false
  let isAccessor ←
    if k.isName "get" || k.isName "set" then
      if ← seesProperty false then pure false
      else if ← lineBreak then pure !(← sees "*")
      else pure true
    else pure false
  if !isAccessor then
    if ← seesProperty true then return ← propertyBehind go m k optional
  if k.isName "async" && !(← lineBreak) then
    let late := (← modifier? ["override"] false).isSome
    if late then report (← previous) (.modifierOrder "override" "async")
    let isGenerator ← eat "*"
    let k ← classKey go
    if isConstructorKey k then fail k.span .asyncConstructor
    if m.isReadonly.isSome then fail (← spanFrom m.start) .readonlyMethod
    let _ ← eatOptional
    return ← methodBehind go { m with overrides := m.overrides || late } k (parameters go) true
      isGenerator
  if isAccessor then return ← accessorBehind go m k
  failUnexpected "* for generator, private key, identifier or async"

/-- A member behind the words that stand before all others. -/
def memberFrom (m : Modifiers) : Parser Tree := do
  let m ← moreModifiers m
  let m := { m with isAccessor := ← eatAccessor m }
  if m.isStatic && (← sees "\x7b") then
    if let some d := m.declares then report d .modifierNotAllowed
    if m.accessible then reportHere .modifierNotAllowed
    return ← staticBlock go m.start
  if ← sees "static" <&&> seesAhead "\x7b" then
    if let some l := m.last then report l .modifierNotAllowed
    if let some s := m.early then report s .modifierNotAllowed
    let _ ← bump
    return ← staticBlock go m.start
  if (← typed) && !m.isAbstract && !m.overrides && !m.accessible then
    if ← indexSignature? go then return .leaf .signature (← spanFrom m.start)
  if ← eat "*" then
    let k ← classKey go
    if m.isReadonly.isSome then report (← spanFrom m.start) .readonlyMethod
    if isConstructorKey k then report (← spanFrom m.start) .generatorConstructor
    return ← methodBehind go m k (parameters go) false true
  let isNamedReadonly ← if m.isReadonly.isSome then seesAny ["!", ":"] else pure false
  let k ←
    if isNamedReadonly then pure (Tree.leaf (.name "readonly") (m.isReadonly.getD ⟨0, 0⟩))
    else classKey go
  let optional ← eatOptional
  memberBehind go m k optional

/-- A member of a class. -/
def classMember : Parser Tree := do
  let start ← here
  let decorators ← go (.decorators false)
  let eatDeclare : Parser Bool := do if ← typed then eat "declare" else return false
  let early ← eatDeclare
  let accessible ← access?
  let declares ← if early then pure true else eatDeclare
  let m : Modifiers := { start, decorators, accessible }
  let named ← if declares then memberNamed? go m "declare" true else pure none
  if let some t := named then return t
  let m ← if declares then pure { m with declares := some (← spanFrom start) } else pure m
  let isStatic ← eat "static"
  let named ← if isStatic then memberNamed? go m "static" false else pure none
  if let some t := named then return t
  let m ← if isStatic then pure { m with isStatic, early := some (← previous) } else pure m
  let isAccessor ← typed <&&> eat "accessor"
  let named ← if isAccessor then memberNamed? go m "accessor" true else pure none
  if let some t := named then return t
  memberFrom go { m with isAccessor }

/-! ### Classes -/

/-- What a class extends. -/
def superclass : Parser Tree := do
  let start ← here
  let e ← go .leftHand
  if e.kind != .typed .instantiation && (← typed) && (← sees "<") then go .typeArguments
  return .node .heritage (← spanFrom start) [e]

/-- An interface, as a name with type arguments. -/
def interface : Parser Tree := do
  let start ← here
  let n ← anyName
  let e ← go (.subscripts n true true)
  match e.kind with
  | .name _ | .member | .typed .instantiation => pure ()
  | _ => report (← spanFrom start) .interfaceExtends
  if e.kind != .typed .instantiation && (← sees "<") then go .typeArguments
  return .node .heritage (← spanFrom start) [e]

/-- The interfaces behind `extends` or `implements`. -/
def interfaces : Parser (List Tree) :=
  loop (α := List Tree)
    (fun found => do
      if ← seesAny ["\x7b", "implements", "extends"] then return .inr found.reverse
      let i ← interface go
      if ← eat "," then return .inl (i :: found)
      if ← seesAny ["\x7b", "implements", "extends"] then return .inr (i :: found).reverse
      expect ","
      return .inl (i :: found))
    []

/-- What a class extends and implements. -/
def classHeritage : Parser (Bool × List Tree) := do
  let mut found : List Tree := []
  let mut extended := false
  if ← eat "extends" then
    found := [← superclass go]
    extended := true
    if ← typed <&&> eat "," then
      let more ← interfaces go
      for i in more do report i.span .extendsMany
      found := found ++ more
  if ← eat "extends" then
    report (← previous) .extendsSeen
    found := found ++ [← superclass go]
  if ← typed <&&> eat "implements" then found := found ++ (← interfaces go)
  if ← typed <&&> eat "implements" then
    report (← previous) .implementsSeen
    found := found ++ (← interfaces go)
  if ← typed <&&> eat "extends" then
    report (← previous) .extendsAfterImplements
    found := found ++ [← superclass go]
    extended := true
  return (extended, found)

/-- The members up to the closing brace; only one constructor has a body. -/
def classBody : Parser (List Tree) :=
  loop (α := Bool × List Tree)
    (fun (constructed, found) => do
      if (← isFinished) || (← sees "\x7d") then return .inr found.reverse
      if ← eat ";" then return .inl (constructed, found)
      let m ← within (fun c => { c with superAllowed := true }) (go .classMember)
      if m.kind = .constructor && 1 < m.parts.length && !(← context).inDeclare then
        if constructed then report m.span .duplicateConstructor
        return .inl (true, m :: found)
      return .inl (constructed, m :: found))
    (false, [])

/-- A class from its keyword on.  Only abstract classes have abstract members. -/
def classWith (kind : Kind) (start : Nat) (decorators : List Tree) (isRequired isAbstract : Bool) :
    Parser Tree :=
  within (fun c => { c with inClass := true }) do
    expect "class"
    let n ← ownName isRequired true
    if ← typed then
      if let some t := n then
        if (t.name?.map Word.namesType).getD false then report t.span .className
      typeParameters? go true true
    let (extended, heritage) ← classHeritage go
    expect "\x7b"
    let members ← within (fun c => { c with hasSuperclass := extended }) (classBody go)
    if ← isFinished then
      let place ← span
      report place (.expected "\x7d" (← shown))
    else expect "\x7d"
    if !isAbstract then
      for m in members do
        if m.kind = .method true || m.kind = .property true then
          report m.span .abstractOutsideClass
    return .node kind (← spanFrom start) (decorators ++ heritage ++ members)

end ImportLint.Syntax.Parser
