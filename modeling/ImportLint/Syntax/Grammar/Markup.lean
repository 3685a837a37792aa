import ImportLint.Syntax.Grammar.Names

/-!
# Grammar — markup

* `element`: an element from its first bracket on, or a fragment, whose tags are empty.
-/

namespace ImportLint.Syntax.Parser

variable (go : Descend)

/-! ### Names -/

/-- A part of the name of a tag or an attribute. -/
def markupWord : Parser String := do
  match ← token with
  | .markupName n =>
    let _ ← bump
    return String.ofList n
  | _ =>
    if (← context).looseMarkup then
      let n ← reference
      return n.name?.getD ""
    failUnexpected "jsx identifier"

/-- The name of an attribute, or the beginning of the name of a tag. -/
def attributeName : Parser String := do
  let first ← markupWord
  if ← eat ":" then return first ++ ":" ++ (← markupWord)
  return first

/-- The name of a tag. -/
def tagName : Parser String := do
  let first ← attributeName
  let more ← many do
    if ← eat "." then return some ("." ++ (← markupWord))
    return none
  return String.join (first :: more)

/-! ### Tags -/

def eatTagEnd : Parser Bool := do
  if (← token?) == some .markupEnd then
    let _ ← bump
    return true
  return false

/-- An expression between braces, if there is one. -/
def substitution : Parser (Option Tree) := do
  let _ ← bump
  if ← eat "\x7d" then return none
  let _ ← eat "..."
  let e ← go .expression
  expect "\x7d"
  return some e

/-- What an attribute is set to. -/
def attributeValue : Parser (List Tree) := do
  let start ← here
  match ← token with
  | .symbol "\x7b" =>
    match ← substitution go with
    | some e => return [e]
    | none => fail (← spanFrom start) .emptyAttribute
  | .string .. => return [← literal]
  | .markupStart => return [← go .element]
  | _ => failHere .invalidAttribute

def tagAttribute : Parser (List Tree) := do
  if ← eat "\x7b" then
    expect "..."
    let e ← go .assignment
    expect "\x7d"
    return [e]
  let _ ← attributeName
  if ← eat "=" then
    within (fun c => { c with inConditional := false, colonFollows := false }) (attributeValue go)
  else return []

/-- A tag that opens an element. -/
structure OpeningTag where
  /-- None for a fragment. -/
  name : Option String
  /-- Nothing follows it in the element. -/
  isClosed : Bool
  values : List Tree

/-- Behind the bracket of the tag that opens an element. -/
def openingTag : Parser OpeningTag := do
  if ← eatTagEnd then return ⟨none, false, []⟩
  let name ← within (fun c => { c with wideAngles := false }) tagName
  if ← typed <&&> sees "<" then
    let _ ← attempt (some <$> go .typeArguments)
  let values ← many do
    match ← token? with
    | none | some .markupEnd | some (.symbol "/") => return none
    | _ => return some (← tagAttribute go)
  let isClosed ← eat "/"
  let ends ← eatTagEnd
  let ends ← if (← context).looseMarkup then pure ends <||> eat ">" else pure ends
  if !ends then failUnexpected "> (jsx closing tag)"
  return ⟨some name, isClosed, values.flatten⟩

/-- The tag that closes an element, at its bracket. -/
def closingTag : Parser (Option String × Span) := do
  let start ← here
  let _ ← bump
  let _ ← token
  let _ ← bump
  if ← eatTagEnd then return (none, ← spanFrom start)
  let name ← tagName
  if !(← eatTagEnd) then failExpected Token.markupEnd.shown
  return (some name, ← spanFrom start)

/-! ### Elements -/

/-- What stands between the tags of an element, and the tag that closes it. -/
def content : Parser (List Tree × Option String × Span) :=
  loop (α := List Tree)
    (fun found => do
      match ← token with
      | .markupStart =>
        if ← seesAhead "/" then
          let (name, place) ← closingTag
          return .inr (found.reverse, name, place)
        return .inl ((← go .element) :: found)
      | .markupText _ =>
        let _ ← bump
        return .inl found
      | .symbol "\x7b" =>
        if ← seesAhead "..." then
          let _ ← bump
          let _ ← bump
          let e ← go .expression
          expect "\x7d"
          return .inl (e :: found)
        match ← substitution go with
        | some e => return .inl (e :: found)
        | none => return .inl found
      | _ => failUnexpected "< (jsx tag start), jsx text or \x7b")
    []

/-- The tags of an element have the same name. -/
def checkTags (opening closing : Option String) (place : Span) : Parser Unit := do
  if opening != closing then
    fail place (match opening with
      | some name => .closingTagExpected name
      | none => .closingFragmentExpected)

/-- An element from its first bracket on. -/
def element : Parser Tree := do
  let start ← here
  let isLoose := (← token) == .symbol "<"
  let _ ← bump
  within (fun c => { c with looseMarkup := isLoose, wideAngles := false }) do
    let tag ← openingTag go
    if tag.isClosed then return .node .markup (← spanFrom start) tag.values
    let (found, name, place) ← content go
    checkTags tag.name name place
    return .node .markup (← spanFrom start) (tag.values ++ found)

end ImportLint.Syntax.Parser
