import ImportLint.Syntax.Grammar.Objects

/-!
# Grammar — calls and members

* `arguments`: what a function is called with.
* `subscripts`: what is called, or whose member is taken, and more of this.
* `construction`: an object that is made, or what a member is taken of.
* `leftHand`: all these together.
-/

namespace ImportLint.Syntax.Parser

variable (go : Descend)

/-! ### Arguments -/

def arguments (isImport : Bool) : Parser (List Tree) := do
  let start ← here
  within (fun c => { c with colonFollows := false }) do
    expect "("
    let found ← loop (α := List Tree)
      (fun found => do
        if (← isFinished) || (← sees ")") then return .inr found.reverse
        if !found.isEmpty then
          expect ","
          if ← sees ")" then
            if isImport && !(← typed) then fail (← spanFrom start) .trailingCommaInImport
            return .inr found.reverse
        return .inl ((← withIn true (spreadable go)) :: found))
      []
    expect ")"
    return found

/-! ### Subscripts -/

/-- An expression without the marks that it is not missing. -/
def withoutMarks : Nat → Tree → Tree
  | fuel + 1, .node (.typed .nonNull) _ [e] => withoutMarks fuel e
  | _, t => t

/-- What is taken of a chain is a chain. -/
def chained (isOptional : Bool) (base whole : Tree) : Parser Tree := do
  if isOptional || (withoutMarks (← limit) base).kind = .chain then
    return .node .chain whole.span [whole]
  return whole

def isImport (t : Tree) : Bool := t.kind = .importKeyword

def isSuper (t : Tree) : Bool := t.kind = .superKeyword

/-- A member of something; without types, of the superclass only where that is known. -/
def memberOf (base property : Tree) (isOptional noCall : Bool) : Parser Tree := do
  let whole := Tree.node .member (← spanFrom base.span.lo) [base, property]
  if isSuper base then
    if ← pure !(← context).superAllowed <&&> notM typed then failHere .invalidSuper
    if isOptional then failHere (if noCall then .invalidSuperCall else .invalidSuper)
    if property.kind = .privateName then
      let _ ← slot
      failHere .invalidSuperCall
    return whole
  chained isOptional base whole

/-- Type arguments as part of an expression. -/
def instantiated (start : Nat) (e : Tree) : Parser Tree := do
  return .node (.typed .instantiation) (← spanFrom start) [e]

/-- A template that a function reads. -/
def taggedTemplate (tag : Tree) : Parser Tree := do
  let found ← within (fun c => { c with colonFollows := false }) (go (.template true))
  let place ← spanFrom tag.span.lo
  if (withoutMarks (← limit) tag).kind = .chain then report place .chainedTemplate
  return .node .tagged place (tag :: found)

/-- An arrow with type parameters, behind `async`. -/
def genericAsyncArrow? (start : Nat) : Parser (Option Tree) := do
  let opens ← if ← sees "<" then pure true else pure ((← token?) == some .markupStart)
  if !opens then return none
  let found ← attempt do
    let _ ← go (.typeParameters false false)
    expect "("
    let ps ← parameters go
    expect ")"
    if ← sees ":" then returnType go ":"
    expect "=>"
    return some ps
  match found with
  | none => return none
  | some ps =>
    let e ← within (fun c => { c with inAsync := true, inGenerator := false })
      (arrowBehind go start (ps.map patternOf) true)
    return some e

/-- Type arguments and what they are for; whether subscripts can follow. -/
def typedSubscript (start : Nat) (base : Tree) (noCall : Bool) : Parser (Option (Tree × Bool)) := do
  let atAsync := (← get).arrowStart == some base.span.lo && base.isName "async"
  let arrow ← if !noCall && atAsync then genericAsyncArrow? go start else pure none
  if let some e := arrow then return some (e, true)
  go .typeArguments
  if !noCall && (← sees "(") then
    let found ← arguments go (isImport base)
    let whole := Tree.node .call (← spanFrom start) (base :: found)
    return some (if base.kind = .chain then .node .chain whole.span [whole] else whole, true)
  if ← sees "`" then return some (← taggedTemplate go base, true)
  if ← seesAny ["=", "as"] then return some (← instantiated start base, false)
  if noCall then failUnexpected "`"
  failUnexpected "( or `"

/-- `?` and `.` in a row. -/
def eatQuestion : Parser Bool := do
  if !(← sees "?") then return false
  if !(← seesAhead ".") then return false
  eat "?"

/-- One subscript; whether more can follow. -/
def plainSubscript (start : Nat) (base : Tree) (noCall noComputed : Bool) :
    Parser (Tree × Bool) := do
  let isTyped ← if (← typed) && (← sees "<") then typeArguments? go else pure false
  let wrap (e : Tree) : Parser Tree := if isTyped then instantiated start e else pure e
  if isImport base && !(← seesAny [".", "("]) then failUnexpected "`.` or `(`"
  let isOptional ← eatQuestion
  let pointed (text : String) : Parser Bool := do
    if isOptional && (← sees ".") then seesAhead text else return false
  if !noComputed then
    if ← pointed "[" then let _ ← bump
    if ← eat "[" then
      let first := (← previous).lo
      let e ← withIn true (go .expression)
      expect "]"
      let property := Tree.node .computed (← spanFrom first) [e]
      return (← wrap (← memberOf base property isOptional noCall), true)
  let isCall ←
    if ← pointed "(" then
      let _ ← bump
      pure true
    else if ← typed <&&> pointed "<" then
      let _ ← bump
      go .typeArguments
      pure true
    else if noCall then pure false
    else sees "("
  if isCall then
    let found ← arguments go (isImport base)
    let whole := Tree.node .call (← spanFrom start) (base :: found)
    if isOptional && (isSuper base || isImport base) then failHere .optionalSuperCall
    return (← chained isOptional base whole, true)
  if ← eat "." then
    let property ← memberName
    return (← wrap (← memberOf base property isOptional noCall), true)
  if isSuper base then failHere (if noCall then .invalidSuperCall else .invalidSuper)
  if isImport base then failHere .invalidImport
  let e ← wrap base
  if ← sees "`" then return (← taggedTemplate go e, true)
  return (e, false)

/-- The mark that something is not missing. -/
def nonNull (start : Nat) (base : Tree) : Parser Tree := do
  modify fun s => { s with scan.nesting.expressionAllowed := false }
  let _ ← bump
  if isSuper base then failHere (.nonNullNotAllowed "super")
  if isImport base then failHere (.nonNullNotAllowed "import")
  return .node (.typed .nonNull) (← spanFrom start) [base]

def subscript (start : Nat) (base : Tree) (noCall noComputed : Bool) : Parser (Tree × Bool) := do
  let _ ← slot
  if ← typed then
    if !(← lineBreak) && (← sees "!") then return (← nonNull start base, true)
    if !isSuper base && (← seesAny ["<", "<<"]) then
      if let some found := ← attempt (typedSubscript go start base noCall) then return found
  plainSubscript go start base noCall noComputed

/-- What is called, or whose member is taken, and more of this. -/
def subscripts (base : Tree) (noCall noComputed : Bool) : Parser Tree :=
  loop (α := Tree)
    (fun t => do
      let (t, more) ← subscript go base.span.lo t noCall noComputed
      return if more then .inl t else .inr t)
    base

/-! ### Imports -/

/-- A module that is loaded, or what it knows of itself, behind `import`. -/
def importBehind (start : Nat) (noCall : Bool) : Parser Tree := do
  let keyword := Tree.leaf .importKeyword (← previous)
  if ← eat "." then
    let n ← anyName
    if n.isName "meta" then
      subscripts go (.leaf .metaProperty (← spanFrom start)) noCall false
    else if n.isName "defer" || n.isName "source" then
      subscripts go (.leaf .importKeyword (← spanFrom start)) noCall false
    else failUnexpected "meta"
  else subscripts go keyword noCall false

/-! ### Objects that are made -/

/-- What function was called to make an object. -/
def newTarget (start : Nat) : Parser Tree := do
  if !(← eat "target") then failUnexpected "target"
  let place ← spanFrom start
  let c ← context
  if !c.inOwnFunction && !c.inParameters && !c.inField then report place .invalidNewTarget
  subscripts go (.leaf .metaProperty place) true false

/-- What is made cannot be part of a chain. -/
def checkConstructed (callee : Tree) : Parser Unit := do
  match callee with
  | .node .chain place _ => fail place .chainedConstructor
  | .node .member _ (.node .chain place _ :: _) => fail place .chainedConstructor
  | _ => return

variable (primary : Parser Tree)

/-- Behind `new`. -/
def constructionBehind (start : Nat) : Parser Tree := do
  if ← eat "." then return ← newTarget go start
  let callee ← go .construction
  if callee.kind = .arrow then return callee
  checkConstructed callee
  if (← typed) && (← seesAny ["<", "<<"]) then
    let _ ← attempt do
      within (fun c => { c with wideAngles := false }) (go .typeArguments)
      if !(← sees "(") then expect "("
      return some ()
  if ← sees "(" then
    let found ← arguments go false
    let e := Tree.node .construct (← spanFrom start) (callee :: found)
    return ← subscripts go e true false
  return .node .construct (← spanFrom start) [callee]

/-- An object that is made, or what a member is taken of. -/
def construction : Parser Tree :=
  within (fun c => { c with wideAngles := true }) do
    let start ← here
    if ← eat "new" then return ← constructionBehind go start
    if ← eat "super" then
      return ← subscripts go (.leaf .superKeyword (← spanFrom start)) true false
    if ← eat "import" then return ← importBehind go start true
    let e ← primary
    if e.kind = .arrow then return e
    let isTyped ← if (← typed) && (← sees "<") then typeArguments? go else pure false
    let e ← if isTyped then instantiated e.span.lo e else pure e
    subscripts go e true false

/-- Everything that can be assigned to or called. -/
def leftHand : Parser Tree := do
  let start ← here
  if (← dialect).markup then
    match ← token with
    | .markupText _ =>
      let _ ← bump
      return .leaf .literal (← previous)
    | .markupStart => return ← go .element
    | .symbol "<" => if !(← seesAhead "!") then return ← go .element
    | _ => pure ()
  if ← eat "super" then return ← subscripts go (.leaf .superKeyword (← spanFrom start)) false false
  if ← eat "import" then return ← importBehind go start false
  let callee ← construction go primary
  if callee.kind = .arrow then return callee
  let isTyped ←
    if (← typed) && (← seesAny ["<", "<<"]) then
      let found ← attempt do
        go .typeArguments
        if ← sees "(" then return some ()
        return none
      pure found.isSome
    else pure false
  if ← sees "(" then
    let found ← arguments go false
    let whole := Tree.node .call (← spanFrom start) (callee :: found)
    let e ← chained false callee whole
    return ← subscripts go e false false
  if isTyped then expect "("
  return callee

end ImportLint.Syntax.Parser
