import ImportLint.Syntax.Grammar.Phrase

/-!
# Grammar — names, literals and keys

* `name`: a name that is bound or refers; `bindingName`: one that is bound.
* `anyName`: a word, reserved or not.
* `literal`, `templateOf`: literals and templates.
* `key`: the key of a member.
-/

namespace ImportLint.Syntax.Parser

/-! ### Names -/

/-- A string that is the current token. -/
def stringLiteral? : Parser (Option Tree) := do
  match ← token? with
  | some (.string value _) =>
    let _ ← bump
    return some (.leaf (.string value) (← previous))
  | _ => return none

/-- The word of a token that is one. -/
def takeWord : Parser String := do
  match ← token with
  | .word w =>
    let _ ← bump
    return w
  | _ => failHere .identifierExpected

/-- A name; `yield` is one if `yields`.  `await` is none in a module. -/
def name (yields : Bool) : Parser Tree := do
  let start ← here
  let w ← takeWord
  let place ← previous
  let c ← context
  if w == "enum" then report place (.strictIdentifier w)
  if ["yield", "let", "static", "implements", "interface", "package", "private",
      "protected", "public"].contains w then
    reportStrict place (.strictIdentifier w)
  let found (ok : Bool) : Parser Tree := do
    if !ok then fail place .identifierExpected
    return .leaf (.name w) (← spanFrom start)
  if w == "await" then
    if c.inDeclare then found true
    else if c.inStaticBlock then found false
    else fail place .asyncIdentifier
  else if w == "this" then found (← typed)
  else if w == "let" then found true
  else if w == "yield" then found yields
  else if Word.isPlain w then
    if w == "arguments" && c.inField then report place .argumentsInField
    found true
  else found false

/-- A name that refers to something. -/
def reference : Parser Tree := do
  name (!(← context).inGenerator)

/-- A name that is bound. -/
def bindingName (noLet : Bool) : Parser Tree := do
  if noLet && (← sees "let") then
    failUnexpected "let is reserved in const, let, class declaration"
  let n ← name true
  if n.isUnbindable then reportStrict n.span .strictBinding
  let c ← context
  if (c.awaits && n.isName "await") || (c.inGenerator && n.isName "yield") then
    fail n.span .identifierExpected
  return n

/-- The name of a function or a class, if there is one. -/
def ownName (isRequired noLet : Bool) : Parser (Option Tree) := do
  if isRequired then return some (← bindingName noLet)
  if ← seesReference then return some (← bindingName noLet)
  return none

/-- A word, reserved or not. -/
def anyName : Parser Tree := do
  let start ← here
  match ← token with
  | .word w =>
    let _ ← bump
    return .leaf (.name w) (← spanFrom start)
  | .markupName n =>
    if !(← context).inType then failHere .identifierExpected
    let _ ← bump
    return .leaf (.name (String.ofList n)) (← spanFrom start)
  | _ => failHere .identifierExpected

def privateName : Parser Tree := do
  let start ← here
  expect "#"
  if (← here) != (← previous).hi then fail (← spanFrom start) .spaceAfterHash
  let n ← anyName
  return .node .privateName (← spanFrom start) [n]

/-- A name behind a point. -/
def memberName : Parser Tree := do
  if ← sees "#" then privateName else anyName

/-- The name of an import or export: a word or a string. -/
def bindingOfModule : Parser Tree := do
  if let some s := ← stringLiteral? then return s
  if ← seesWord then return ← anyName
  failUnexpected "identifier or string"

/-! ### Literals -/

/-- A literal that is the current token. -/
def literal : Parser Tree := do
  match ← token with
  | .string value _ =>
    let _ ← bump
    return .leaf (.string value) (← previous)
  | .number _ | .bigint _ | .word "null" | .word "true" | .word "false" =>
    let _ ← bump
    return .leaf .literal (← previous)
  | _ => failHere .expressionExpected

/-- A part of a template without substitutions, and whether it is the last. -/
def templatePart (isTagged : Bool) : Parser Bool := do
  match ← token with
  | .template _ fault =>
    let _ ← bump
    match fault with
    | some f => if !isTagged then throw f
    | none => pure ()
    sees "`"
  | _ => failUnexpected "template token"

/-- A template: its parts, and what stands between them. -/
def templateOf (isTagged : Bool) (substitution : Parser Tree) : Parser (List Tree) := do
  let _ ← bump
  let found ← loop (α := List Tree)
    (fun found => do
      if ← templatePart isTagged then return .inr found.reverse
      expect "$\x7b"
      let e ← substitution
      expect "\x7d"
      return .inl (e :: found))
    []
  expect "`"
  return found

/-! ### Keys -/

variable (go : Descend)

/-- A key in brackets, at the bracket. -/
def computedKey (start : Nat) : Parser Tree := do
  let _ ← bump
  let first ← here
  let e ← withIn true (go .assignment)
  let e ←
    if (← typed) && (← sees ",") then
      let more ← many do
        if ← eat "," then return some (← withIn true (go .assignment))
        return none
      let place ← spanFrom first
      report place .commaInComputedName
      pure (Tree.node .sequence place (e :: more))
    else pure e
  expect "]"
  return .node .computed (← spanFrom start) [e]

/-- The key of a member. -/
def key : Parser Tree :=
  within (fun c => { c with inPropertyName := true }) do
    let start ← here
    match ← token with
    | .string .. | .number _ | .bigint _ => literal
    | .word _ => anyName
    | .symbol "[" => computedKey go start
    | _ => failUnexpected "identifier, string literal, numeric literal or [ for the computed key"

/-- The key of a member of a class. -/
def classKey : Parser Tree := do
  if ← sees "#" then
    let n ← privateName
    if n.parts.any (Tree.isName · "constructor") then report n.span .privateConstructor
    return n
  key go

/-- The key names the constructor of its class. -/
def isConstructorKey (k : Tree) : Bool :=
  k.isName "constructor" || k.kind = .string "constructor".toList

end ImportLint.Syntax.Parser
