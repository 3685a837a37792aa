import ImportLint.Syntax.Grammar.Types

/-!
# Grammar — functions

* `functionWith`: a function behind its name.
* `functionBody`, `arrowBody`: the bodies of functions and of arrows.
* `namedFunction`: a function from its keyword on.
-/

namespace ImportLint.Syntax.Parser

variable (go : Descend)

/-! ### Bodies -/

/-- A statement that is a string alone. -/
def directive? : Tree → Option Tree
  | .node .expressionStatement _ [.node (.string v) s ps] => some (.node (.string v) s ps)
  | _ => none

/-- The statement that asks for strict rules, among those that come first. -/
def strictDirective (block : Tree) : Option Span :=
  (block.parts.takeWhile fun s => (directive? s).isSome).findSome? fun s =>
    match directive? s with
    | some (.node (.string v) place _) =>
      if v = "use strict".toList && place.hi - place.lo = 12 then some s.span else none
    | _ => none

/-- A function whose parameters are not all names cannot ask for strict rules. -/
def checkDirective (simple : Bool) (block : Tree) : Parser Unit := do
  if !simple then
    if let some place := strictDirective block then report place .illegalDirective

/-- Labels and the like do not reach into functions. -/
def apart {α : Type} (p : Parser α) : Parser α := fun s =>
  let (answer, t) := p { s with labels := [], arrowStart := none, trailingCommas := [] }
  (answer, { t with
    labels := s.labels, arrowStart := s.arrowStart, trailingCommas := s.trailingCommas })

/-- Reads the body of a function. -/
def inBody {α : Type} (isAsync isGenerator isArrow : Bool) (p : Parser α) : Parser α := do
  if (← context).inDeclare && (← typed) && (← sees "\x7b") then
    reportHere .ambientImplementation
  apart (within
    (fun c => { c with
      inAsync := isAsync, inGenerator := isGenerator
      inOwnFunction := !isArrow || c.inOwnFunction
      inFunction := true, breakAllowed := false, continueAllowed := false, colonFollows := false })
    p)

/-- The body of a function; a declaration of types can do without. -/
def functionBody (isAsync isGenerator simple : Bool) : Parser (Option Tree) :=
  inBody isAsync isGenerator false do
    if (← typed) && !(← sees "\x7b") then
      if ← eatEnd then return none
    let b ← withIn true (go .block)
    checkDirective simple b
    return some b

/-- The body of an arrow: a block or a value. -/
def arrowBody (isAsync simple : Bool) : Parser Tree :=
  inBody isAsync false true do
    if ← sees "\x7b" then
      let b ← go .block
      checkDirective simple b
      return b
    go .assignment

/-- An arrow behind its parameters. -/
def arrowBehind (start : Nat) (parameters : List Tree) (isAsync : Bool) : Parser Tree := do
  let simple := parameters.all fun p => p.name?.isSome
  let body ← arrowBody go isAsync simple
  let span : Span :=
    match parameters.head?, parameters.getLast? with
    | some a, some b => a.span.to b.span
    | _, _ => ⟨start, start⟩
  return .node .arrow (← spanFrom start) [.node .parameters span parameters, body]

/-! ### Functions -/

/-- The type parameters of a function; their bracket may have been taken for a tag. -/
def ownTypeParameters? : Parser Unit := do
  if ← seesMarkup then
    leaveTag
    let _ ← typeParameters go false true
  else typeParameters? go false true

/-- A function behind its name; `kind` is what it is. -/
def functionWith (kind : Bool → Bool → Kind) (start : Nat) (list : Parser (List Tree))
    (isAsync isGenerator : Bool) : Parser Tree :=
  within (fun c => { c with
      inAsync := isAsync, inGenerator := isGenerator, inField := false }) do
    if ← typed then inType (ownTypeParameters? go)
    let first ← here
    expect "("
    let ps ← within (fun c => { c with inParameters := true, inFunction := false }) list
    expect ")"
    let place ← spanFrom first
    if (← typed) && (← sees ":") then returnType go ":"
    let body ← functionBody go isAsync isGenerator (areSimple ps)
    if (← typed) && body.isNone then
      for p in ps do
        if (patternOf p).kind = .withDefault then report (patternOf p).span .parameterInitializer
    return .node (kind isAsync isGenerator) (← spanFrom start)
      (.node .parameters place ps :: body.toList)

def function (kind : Bool → Bool → Kind) (start : Nat) (isAsync isGenerator : Bool) :
    Parser Tree :=
  functionWith go kind start (parameters go) isAsync isGenerator

/-- A function from its keyword on, behind `async` if that stands at `asyncStart`. -/
def namedFunction (kind : Bool → Bool → Kind) (asyncStart : Option Nat)
    (isValue isRequired : Bool) : Parser Tree := do
  let start ← match asyncStart with
    | some p => pure p
    | none => here
  let _ ← bump
  let isAsync := asyncStart.isSome
  let isGenerator ← eat "*"
  let outside (c : Context) : Context := { c with superAllowed := false, inField := false }
  let _ ← within
    (fun c => if isValue then { outside c with inAsync := isAsync, inGenerator := isGenerator }
      else outside c)
    (ownName isRequired false)
  within (fun c => { outside c with colonFollows := false }) do
    let f ← function go kind start isAsync isGenerator
    if isValue && f.parts.length < 2 then failUnexpected "\x7b"
    return f

/-- A function that begins with `async`. -/
def asyncFunction (kind : Bool → Bool → Kind) (isValue isRequired : Bool) : Parser Tree := do
  let start ← here
  expect "async"
  namedFunction go kind (some start) isValue isRequired

/-- `async` and `function` in one line. -/
def seesAsyncFunction : Parser Bool := do
  if !(← sees "async") then return false
  if !(← seesAhead "function") then return false
  return !(← lineBreakAhead)

/-! ### Accessors -/

def isThis (parameter : Tree) : Bool := (patternOf parameter).isName "this"

/-- The parameters of a member that reads: none. -/
def getterParameters (place : Span) : Parser (List Tree) := do
  let ps ← parameters go
  if ps.any fun p => !isThis p then report place .getterParameter
  return ps

/-- The parameters of a member that writes: one. -/
def setterParameters (place : Span) : Parser (List Tree) := do
  let ps ← parameters go
  if (ps.filter fun p => !isThis p).length != 1 then report place .setterParameter
  if let some p := ps.head? then
    if (patternOf p).kind = .rest then report (patternOf p).span .restInSetter
  return ps

end ImportLint.Syntax.Parser
