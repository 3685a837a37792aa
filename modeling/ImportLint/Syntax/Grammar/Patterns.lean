import ImportLint.Syntax.Grammar.Names

/-!
# Grammar — patterns and parameters

* `pattern`: what a declaration binds.
* `parameters`: the parameters of a function; `constructorParameters`: those of a constructor,
  which can declare members.
-/

namespace ImportLint.Syntax.Parser

variable (go : Descend)

/-! ### Types of patterns -/

/-- A type behind a colon, if there is one. -/
def typeAnnotation? : Parser Bool := do
  if ← sees ":" then
    inType do
      let _ ← bump
      go .type
    return true
  return false

/-- The tree over more of the source. -/
def stretch (t : Tree) (s : Span) : Tree := .node t.kind s t.parts

/-! ### Modifiers -/

/-- A modifier stands before what it modifies. -/
def canFollowModifier : Parser (Option Unit) := do
  let _ ← bump
  if ← lineBreak then return none
  match ← token? with
  | some (.word _) | some (.string ..) | some (.number _) | some (.bigint _) => return some ()
  | t => return if ["[", "\x7b", "*", "...", "#"].any (isWritten · t) then some () else none

/-- One of some modifiers; `static` before a brace is none if `stopAtBlock`. -/
def modifier? (allowed : List String) (stopAtBlock : Bool) : Parser (Option String) := do
  if !(← typed) then return none
  match ← token with
  | .word w =>
    if !allowed.contains w then return none
    if ← pure (stopAtBlock && w == "static") <&&> seesAhead "\x7b" then return none
    if (← attempt canFollowModifier).isSome then return some w
    return none
  | _ => return none

/-- Who may use a member. -/
def access? : Parser Bool := do
  match ← modifier? ["public", "protected", "private", "in", "out"] false with
  | none => return false
  | some w =>
    if w == "in" || w == "out" then
      report (← previous) (.modifierOnlyOnClassParameter w)
      return false
    return true

/-- Moves over a modifier of a parameter where there can be none. -/
def eatModifier : Parser Bool := do
  if !(← typed) then return false
  if !(← seesAny ["public", "protected", "private", "readonly"]) then return false
  let next ← aheadToken?
  if isWord next || isWritten "\x7b" next || isWritten "[" next then
    let _ ← modifier? ["public", "protected", "private", "readonly"] false
    return true
  return false

/-! ### Binding patterns -/

/-- A pattern and the value that it has if there is none. -/
def bindingElement : Parser Tree := do
  let start ← here
  let left ← go (.pattern false)
  if ← eat "=" then
    let value ← withIn true (go .assignment)
    if (← context).inDeclare then report (← spanFrom start) .parameterInitializer
    return .node .withDefault (← spanFrom start) [left, value]
  return left

/-- A question mark behind a pattern, which only declarations have. -/
def eatOptionalMark : Parser Unit := do
  if (← dialect).declarations || (← context).inDeclare then
    let _ ← eat "?"

def arrayPattern : Parser Tree := do
  let start ← here
  let _ ← bump
  let items ← loop (α := Option Span × List Tree)
    (fun (rest, items) => do
      if (← isFinished) || (← sees "]") then return .inr items.reverse
      if ← eat "," then return .inl (rest, .leaf .hole (← previous) :: items)
      if let some place := rest then report place .restNotLast
      let first ← here
      if ← eat "..." then
        let target ← go (.pattern false)
        let place ← spanFrom first
        if !(← sees "]") then
          expect ","
          if ← sees "]" then report (← previous) .commaAfterRest
        return .inl (some place, .node .rest place [target] :: items)
      else
        let item ← bindingElement go
        if !(← sees "]") then expect ","
        return .inl (rest, item :: items))
    (none, [])
  expect "]"
  eatOptionalMark
  return .node .arrayPattern (← spanFrom start) items

/-- A member of an object that is taken apart. -/
def memberPattern : Parser Tree := do
  let start ← here
  if ← eat "..." then
    let target ← go (.pattern false)
    return .node .rest (← spanFrom start) [target]
  let k ← key go
  if ← eat ":" then
    let target ← bindingElement go
    return .node .entry (← spanFrom start) [k, target]
  if k.name?.isNone then failUnexpected "an identifier"
  if ← eat "=" then
    let value ← withIn true (go .assignment)
    return .node .withDefault (← spanFrom start) [k, value]
  return .node .shorthand (← spanFrom start) [k]

/-- Members between braces; the last comma if it ends the list. -/
def braced (member : Parser Tree) : Parser (List Tree × Option Span) := do
  let _ ← bump
  loop (α := List Tree × Option Span)
    (fun (members, comma) => do
      if ← eat "\x7d" then return .inr (members.reverse, comma)
      let m ← member
      if ← sees "\x7d" then return .inl (m :: members, comma)
      expect ","
      if ← sees "\x7d" then return .inl (m :: members, some (← previous))
      return .inl (m :: members, comma))
    ([], none)

/-- The rest of an object is a name and comes last. -/
def checkRest (comma : Option Span) : List Tree → Parser Unit
  | [] => return
  | [.node .rest place [target]] => do
    if target.name?.isNone then fail place .restWithoutIdentifier
    if let some c := comma then report c .commaAfterRest
  | [_] => return
  | m :: ms => do
    if m.kind = .rest then report m.span .restNotLast
    checkRest comma ms

def objectPattern : Parser Tree := do
  let start ← here
  let (members, comma) ← within (fun c => { c with colonFollows := false })
    (braced (memberPattern go))
  let place ← spanFrom start
  checkRest comma members
  eatOptionalMark
  return .node .objectPattern place members

/-- What a declaration binds. -/
def pattern (noLet : Bool) : Parser Tree := do
  match ← token with
  | .word _ => bindingName noLet
  | .symbol "[" => arrayPattern go
  | .symbol "\x7b" => objectPattern go
  | _ => failUnexpected "yield, an identifier, [ or \x7b"

/-! ### Parameters -/

/-- The type of a pattern. -/
def annotate (start : Nat) (p : Tree) : Parser Tree := do
  if !(← typed) then return p
  match p.kind with
  | .name _ =>
    let _ ← typeAnnotation? go
    return p
  | .arrayPattern | .objectPattern | .rest =>
    if ← typeAnnotation? go then return stretch p (← spanFrom start)
    return p
  | _ => return p

/-- One parameter. -/
def parameterPattern : Parser Tree := do
  let start ← here
  let modified ← eatModifier
  let first ← here
  let p ← pattern go false
  let optional ← if ← typed then eat "?" else pure false
  let behind ← previous
  let p ← annotate go first p
  let last ← previous
  let p ←
    if ← eat "=" then
      if optional then
        report (if last = behind then p.span else p.span.to last) .optionalWithInitializer
      let value ← go .assignment
      if (← context).inDeclare then report (← spanFrom start) .parameterInitializer
      pure (Tree.node .withDefault (← spanFrom start) [p, value])
    else pure p
  if modified then report (← spanFrom start) .parameterProperty
  return p

/-- The rest of the parameters, behind its dots. -/
def restParameter (start : Nat) (allowDefault : Bool) : Parser Tree := do
  let p ← pattern go false
  let p ←
    if ← pure allowDefault <&&> eat "=" then
      let value ← go .assignment
      report p.span .restWithInitializer
      pure (Tree.node .withDefault (← spanFrom start) [p, value])
    else pure p
  if ← typed then
    let _ ← typeAnnotation? go
  let r := Tree.node .rest (← spanFrom start) [p]
  if ← pure allowDefault <&&> typed <&&> eat "?" then report (← previous) .restOptional
  return r

/-- Parameters up to the closing parenthesis; `one` reads one that is no rest. -/
def parameterList (one : Nat → List Tree → Parser Tree) (allowDefault : Bool) :
    Parser (List Tree) :=
  loop (α := Option Span × List Tree)
    (fun (rest, ps) => do
      if (← isFinished) || (← sees ")") then return .inr ps.reverse
      if let some place := rest then report place .restParameterNotLast
      let start ← here
      let decorators ← go (.decorators false)
      let first ← here
      if ← eat "..." then
        let r ← restParameter go first allowDefault
        let p := Tree.node .parameter (← spanFrom start) (decorators ++ [r])
        if !(← sees ")") then
          expect ","
          if ← sees ")" then report (← previous) .commaAfterRest
        return .inl (some r.span, p :: ps)
      let p ← one start decorators
      if !(← sees ")") then expect ","
      return .inl (rest, p :: ps))
    (none, [])

/-- The parameters of a function. -/
def parameters : Parser (List Tree) :=
  parameterList go
    (fun start decorators => do
      let p ← parameterPattern go
      return .node .parameter (← spanFrom start) (decorators ++ [p]))
    true

/-- A parameter of a constructor that declares a member too has a name. -/
def constructorParameter (start : Nat) (decorators : List Tree) : Parser Tree := do
  let accessible ← access?
  let overrides := (← modifier? ["override"] false).isSome
  let isReadonly := (← modifier? ["readonly"] false).isSome
  let declares := accessible || overrides || isReadonly
  let p ← parameterPattern go
  if declares then
    match p with
    | .node (.name _) _ _ => pure ()
    | .node .withDefault _ (_ :: _) => pure ()
    | _ => fail p.span .parameterPropertyPattern
    return .node .parameterProperty (← spanFrom start) (decorators ++ [p])
  return .node .parameter (← spanFrom start) (decorators ++ [p])

/-- The parameters of a constructor; some declare members. -/
def constructorParameters : Parser (List Tree) :=
  parameterList go (constructorParameter go) false

/-- The pattern of a parameter. -/
def patternOf (parameter : Tree) : Tree := (parameter.parts.getLast?).getD parameter

/-- A list of parameters in which each is a name. -/
def areSimple (parameters : List Tree) : Bool :=
  parameters.all fun p => (patternOf p).name?.isSome

end ImportLint.Syntax.Parser
