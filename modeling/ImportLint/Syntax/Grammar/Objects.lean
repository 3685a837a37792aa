import ImportLint.Syntax.Grammar.Targets

/-!
# Grammar — objects and arrays

* `object`: the members between braces.
* `array`: the items between brackets.
-/

namespace ImportLint.Syntax.Parser

variable (go : Descend)

/-- A function that is a member of an object. -/
def memberFunction (start : Nat) (k : Tree) (list : Parser (List Tree))
    (isAsync isGenerator : Bool) : Parser Tree := do
  let f ← within (fun c => { c with superAllowed := true })
    (functionWith go .function start list isAsync isGenerator)
  return .node (.method false) (← spanFrom start) [k, f]

/-- A member behind `get`, `set` or `async`. -/
def wordedMember (start : Nat) (w : String) (modified : Option Span) : Parser Tree := do
  if let some place := modified then report place .modifierNotHere
  let isGenerator ← if w == "async" then eat "*" else pure false
  let k ← key go
  if w == "async" then memberFunction go start k (parameters go) true isGenerator
  else if w == "get" then memberFunction go start k (getterParameters go k.span) false false
  else
    let m ← memberFunction go start k (setterParameters go k.span) false false
    -- a member that writes nothing is reported once more
    match m.parts with
    | [_, .node _ _ (.node .parameters _ [] :: _)] =>
      report k.span .setterParameter
      return m
    | _ => return m

/-- What stands behind the name of a member that is no key. -/
def shorthandMember (start : Nat) (k : Tree) (n : String) (modified : Option Span) :
    Parser Tree := do
  if ← eat "?" then report (← previous) .optionalMember
  if ← seesAny ["=", ",", "\x7d"] then
    if ← eat "=" then
      let value ← withIn true (go .assignment)
      return .node .withDefault (← spanFrom start) [k, value]
    return .node .shorthand k.span [k]
  if n == "get" || n == "set" || n == "async" then return ← wordedMember go start n modified
  if ← typed then
    failUnexpected
      "... , *,  (, [, :, , ?, =, an identifier, public, protected, private, readonly, <."
  failUnexpected "... , *,  (, [, :, , ?, = or an identifier"

/-- What can stand behind the key of a member where there are types. -/
def canFollowKey (k : Tree) : Parser Bool := do
  match ← token? with
  | some (.word _) | some (.string ..) | some (.number _) | some (.bigint _) => return true
  | t =>
    if ["(", "[", ":", ",", "?", "=", "*", "<", "\x7b"].any (isWritten · t) then return true
    return isWritten "\x7d" t && k.name?.isSome

/-- A member of an object. -/
def member : Parser Tree := do
  let start ← here
  if ← eat "..." then
    let e ← withIn true (go .assignment)
    return .node .spread (← spanFrom start) [e]
  if ← eat "*" then
    let k ← key go
    return ← memberFunction go start k (parameters go) false true
  let modified ← eatModifier
  let place ← previous
  let k ← key go
  if (← typed) && !(← canFollowKey k) then
    reportHere .semicolonExpected
    let place ← spanFrom start
    return .node .entry place [k, .invalid place]
  if ← eat ":" then
    let value ← withIn true (go .assignment)
    return .node .entry (k.span.to value.span) [k, value]
  let isCalled ← if ← sees "(" then pure true else if ← typed then sees "<" else pure false
  if isCalled then return ← memberFunction go start k (parameters go) false false
  match k.name? with
  | some n => shorthandMember go start k n (if modified then some place else none)
  | none => failUnexpected "identifier"

/-- An object at its brace. -/
def object : Parser Tree :=
  within (fun c => { c with colonFollows := false }) do
    let start ← here
    let (members, comma) ← braced (member go)
    let place ← spanFrom start
    if let some c := comma then
      modify fun s => { s with trailingCommas := (start, c) :: s.trailingCommas }
    return .node .object place members

/-- An expression, or several behind dots. -/
def spreadable : Parser Tree := do
  let start ← here
  if ← eat "..." then
    let e ← withIn true (go .assignment)
    return .node .spread (← spanFrom start) [e]
  go .assignment

/-- An array at its bracket. -/
def array : Parser Tree := do
  let start ← here
  let _ ← bump
  let items ← loop (α := List Tree)
    (fun items => do
      if (← isFinished) || (← sees "]") then return .inr items.reverse
      if ← eat "," then return .inl (.leaf .hole (← previous) :: items)
      let item ← withIn true (spreadable go)
      if !(← sees "]") then
        expect ","
        if ← sees "]" then
          let comma ← previous
          modify fun s => { s with trailingCommas := (start, comma) :: s.trailingCommas }
      return .inl (item :: items))
    []
  expect "]"
  return .node .array (← spanFrom start) items

end ImportLint.Syntax.Parser
