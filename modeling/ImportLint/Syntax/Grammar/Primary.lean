import ImportLint.Syntax.Grammar.Calls
import ImportLint.Syntax.Grammar.Classes
import ImportLint.Syntax.Grammar.Operators

/-!
# Grammar — primary expressions

* `parenthesised`: an expression in parentheses, or an arrow function that begins with them.
* `primary`: what operators, calls and members are made of.
-/

namespace ImportLint.Syntax.Parser

variable (go : Descend)

/-! ### Regular expressions -/

/-- Reports flags that no regular expression has, and one that is there twice. -/
def checkFlags (place : Span) (flags : Text) : Parser Unit := do
  let known := "dgimsuvy".toList
  if flags.any fun c => !known.contains c then report place .unknownFlag
  if let some c := known.find? fun c => 1 < flags.count c then report place (.repeatedFlag c)

/-- Reads the slash at `start` again, as the beginning of a regular expression, and so for every
further token. -/
def readRegex (slash : Text) (start : Nat) : Parser (Option Token) := do
  modify fun s =>
    let input := s.scan.input
    let slashed := { input with rest := slash ++ input.rest, pos := start, lineBreak := false }
    { s with scan.regexStart := some slashed }
  token?

/-- A regular expression at its slash.  Without its end nothing more can be read. -/
def regex? : Parser (Option Tree) := do
  let start ← here
  let slash ← shown
  let _ ← bump
  match ← readRegex slash.toList start with
  | some (.regex _ flags) =>
    modify fun s => { s with scan.regexStart := none }
    let _ ← bump
    let place ← spanFrom start
    checkFlags place flags
    return some (.leaf .literal place)
  | _ => return none

/-! ### Items between parentheses -/

/-- The expression of an item, without its dots. -/
def Item.value (i : Item) : Tree :=
  match i.tree with
  | .node .spread _ [e] => e
  | t => t

/-- An item that a name begins where there are types; a question mark behind it may say that it
can be missing. -/
def namedItem : Parser Tree := do
  let start ← here
  if ← eat "..." then
    let e ← withIn true (go .binary)
    return .node .spread (← spanFrom start) [e]
  let e ← go .binary
  assignmentBehind go start e

/-- A reference, or dots and a reference. -/
def seesNamed : Parser Bool := do
  if ← seesReference then return true
  if ← sees "..." then return isReference (← aheadToken?)
  return false

/-- An item, and whether it can be missing. -/
def questioned (start : Nat) (t : Tree) : Parser (Tree × Bool) := do
  if !(← typed) || !(← sees "?") then return (t, false)
  let next ← aheadToken?
  if [",", "=", ":", ")"].any (isWritten · next) then
    let _ ← bump
    let _ ← slot
    if t.kind = .spread then report (← previous) .restOptional
    if (Item.value ⟨false, t⟩).name?.isNone then fail t.span .optionalPattern
    return (t, true)
  if t.kind = .spread then return (t, false)
  let _ ← bump
  return (← choiceBehind go start t false, false)

/-- An item that is a parameter, for it has a type or can be missing. -/
def typedItem (start : Nat) (t : Tree) : Parser Tree := do
  let first ← here
  if ← eat "?" then report (← spanFrom first) .restOptional
  let p ← toPattern .binding (Item.value ⟨false, t⟩)
  let p ← if t.kind = .spread then pure (Tree.node .rest (← spanFrom start) [p]) else pure p
  let last ← previous
  let p ← annotate go start p
  let place ← spanFrom start
  let p := if p.name?.isSome && place.hi != last.hi then stretch p place else p
  if ← eat "=" then
    let value ← go .assignment
    return .node .withDefault (← spanFrom start) [p, value]
  return p

def item : Parser Item := do
  let start ← here
  modify fun s => { s with arrowStart := some start }
  let modified ← eatModifier
  let first ← here
  let t ← if ← typed <&&> seesNamed then namedItem go else withIn true (spreadable go)
  let (t, optional) ← questioned go first t
  let isPattern ← pure optional <||> (typed <&&> sees ":")
  let t ← if isPattern then typedItem go first t else pure t
  if modified then report (← spanFrom start) .parameterProperty
  return ⟨isPattern, t⟩

/-- An arrow among the items, behind a first item that is a name. -/
def arrowAmong (found : List Item) : Parser (List Item) := do
  match found.reverse with
  | first :: _ =>
    if first.value.name?.isNone then return found
    let ps ← toParameters found.reverse none
    let e ← arrowBehind go first.tree.span.lo ps false
    return ⟨false, e⟩ :: found
  | [] => return found

/-- Items between parentheses, and the comma behind the last. -/
def parenItems : Parser (List Item × Option Span) :=
  within (fun c => { c with colonFollows := false, allowIn := true }) do
    expect "("
    let found ← loop (α := List Item)
      (fun found => do
        if (← isFinished) || (← sees ")") then return .inr (found.reverse, none)
        let found := (← item go) :: found
        let found ← if ← eat "=>" then arrowAmong go found else pure found
        if ← sees ")" then return .inr (found.reverse, none)
        expect ","
        if ← sees ")" then return .inr (found.reverse, some (← previous))
        return .inl found)
      []
    expect ")"
    return found

/-! ### Arrows and parentheses -/

/-- An arrow that returns a type, in a choice; the colon may belong to the choice instead. -/
def typedArrow? (start : Nat) (isAsync : Bool) (found : List Item) (comma : Option Span) :
    Parser (Option Tree) := do
  let c ← context
  if !(← pure c.inConditional <&&> typed <&&> sees ":") then return none
  attempt do
    returnType go ":"
    expect "=>"
    let ps ← toParameters found comma
    let e ← arrowBehind go start ps isAsync
    if c.startsBranch && !(← sees ":" <||> seesEnd) then return none
    return some e

/-- The type that an arrow returns, if an arrow follows. -/
def arrowType? : Parser Bool := do
  let c ← context
  if !(← pure !c.colonFollows <&&> typed <&&> sees ":") then return false
  let found ← attempt do
    returnType go ":"
    if ← sees "=>" then return some ()
    return none
  return found.isSome

/-- An operator behind a block that is the body of an arrow: there is a statement end or
parentheses missing. -/
def operatorBehindArrow (e : Tree) : Parser Tree := do
  let isBlock := e.parts.getLast?.map Tree.kind == some .block
  if ← pure isBlock <&&> (return (← token?).any Token.isOperator) then
    reportHere .semicolonExpected
    let e ← binaryTail go e 0
    if !(← seesEnd) then reportHere .semicolonExpected
    return e
  return e

/-- What stands between parentheses as an expression. -/
def parens (start : Nat) : List Tree → Parser Tree
  | [] => do fail ⟨start, (← previous).hi⟩ .emptyParentheses
  | t :: ts => do
    for u in t :: ts do
      if let .node .spread _ [e] := u then fail e.span .spreadInParentheses
    let inner :=
      match ts.getLast? with
      | none => t
      | some last => Tree.node .sequence (t.span.to last.span) (t :: ts)
    return .node .paren (← spanFrom start) [inner]

/-- Members that only a pattern can have. -/
def checkMembers (found : List Item) : Parser Unit := do
  for i in found do
    if i.value.kind = .object then
      for m in i.value.parts do
        if m.kind = .withDefault then report m.span .assignmentProperty

/-- An expression in parentheses, or an arrow function that begins with them; behind `async`, a
call or an arrow function. -/
def parenthesised (canBeArrow : Bool) (async? : Option Span) : Parser Tree := do
  let start ← match async? with
    | some s => pure s.lo
    | none => here
  let (found, comma) ← parenItems go
  if let some e := ← typedArrow? go start async?.isSome found comma then return e
  let returns ← arrowType? go
  if ← pure (found.any Item.isPattern || returns) <||> sees "=>" then
    if ← lineBreak then fail (← spanFrom start) .lineBreakBeforeArrow
    if !canBeArrow then fail (← spanFrom start) .arrowNotAllowed
    expect "=>"
    let ps ← toParameters found comma
    let e ← arrowBehind go start ps async?.isSome
    return ← operatorBehindArrow go e
  checkMembers found
  match async? with
  | some s =>
    return .node .call (← spanFrom start) (.leaf (.name "async") s :: found.map Item.tree)
  | none => parens start (found.map Item.tree)

/-! ### Primary expressions -/

/-- Behind the name `async`, with a name before the arrow. -/
def asyncArrow (start : Nat) (async : Tree) : Parser Tree := do
  let c ← context
  if ← pure c.inForHead <&&> sees "of" <&&> notM (seesAhead "=>") then
    if !c.inForAwaitHead then report (← previous) .asyncInForOf
    return async
  let p ← bindingName false
  if ← typed <&&> pure (p.isName "as") <&&> notM (sees "=>") then
    inType (go .type)
    return .node (.typed .cast) (← spanFrom start) [async]
  expect "=>"
  arrowBehind go start [p] true

/-- A name, or an arrow function with one parameter. -/
def nameOrArrow (start : Nat) (canBeArrow : Bool) : Parser Tree := do
  let n ← reference
  if let some w := n.name? then
    if w == "let" || w == "static" then reportStrict n.span (.strictIdentifier w)
  if !canBeArrow || (← lineBreak) then return n
  if ← pure (n.isName "async") <&&> seesReference then asyncArrow go start n
  else if ← eat "=>" then
    if n.isUnbindable then reportStrict n.span .strictBinding
    arrowBehind go start [n] false
  else return n

/-- Behind `async`: a function or an arrow function. -/
def async? (start : Nat) (canBeArrow : Bool) : Parser (Option Tree) := do
  if ← seesAsyncFunction then return some (← asyncFunction go .function true false)
  if !canBeArrow then return none
  if ← typed <&&> seesAhead "<" then
    let found ← attempt do
      let _ ← bump
      genericAsyncArrow? go start
    if found.isSome then return found
  if ← seesAhead "(" <&&> notM lineBreakAhead then
    let _ ← bump
    return some (← parenthesised go true (some (← previous)))
  return none

/-- What begins with a word that names nothing, or with decorators. -/
def classOrName (start : Nat) (canBeArrow : Bool) : Parser Tree := do
  let decorators ← go (.decorators false)
  if ← sees "class" then return ← classWith go .classValue start decorators false false
  let isName ← sees "let" <||> seesReference <||> (typed <&&> sees "await")
  if isName then return ← nameOrArrow go start canBeArrow
  if ← eat "#" then
    let n ← anyName
    return .node .privateName (← spanFrom start) [n]
  failHere .expressionExpected

/-- What operators, calls and members are made of. -/
def primary : Parser Tree := do
  let _ ← slot
  let start ← here
  let canBeArrow := (← get).arrowStart == some start
  let found? ← match ← token? with
    | some (.word "this") =>
      let _ ← bump
      pure (some (Tree.leaf .this (← previous)))
    | some (.word "async") => async? go start canBeArrow
    | some (.word "function") => some <$> namedFunction go .function none true false
    | some (.word "null") | some (.word "true") | some (.word "false") | some (.number _)
    | some (.bigint _) | some (.string ..) => some <$> literal
    | some (.symbol "[") =>
      some <$> within (fun c => { c with colonFollows := false }) (array go)
    | some (.symbol "\x7b") => some <$> object go
    | some (.symbol "/") | some (.symbol "/=") => regex?
    | some (.symbol "`") =>
      let found ← within (fun c => { c with colonFollows := false }) (go (.template false))
      pure (some (Tree.node .template (← spanFrom start) found))
    | some (.symbol "(") => some <$> parenthesised go canBeArrow none
    | _ => pure none
  match found? with
  | some t => return t
  | none => classOrName go start canBeArrow

end ImportLint.Syntax.Parser
