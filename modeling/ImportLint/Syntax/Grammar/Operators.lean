import ImportLint.Syntax.Grammar.Targets

/-!
# Grammar — operators

* `unary`, `binary`: operators before one operand and between two.
* `choice`: a test and two branches.
* `plainAssignment`, `assignment`: all these, and what is assigned.
* `expression`: assignments between commas.
-/

namespace ImportLint.Syntax.Parser

variable (go : Descend)

/-! ### Before an operand -/

/-- A type before an expression, behind its bracket. -/
def assertion (start : Nat) : Parser Tree := do
  if ← eat "const" then
    expect ">"
    let e ← go .unary
    return .node (.typed .constant) (← spanFrom start) [e]
  inType (go .type)
  expect ">"
  let e ← go .unary
  return .node (.typed .assertion) (← spanFrom start) [e]

/-- An expression without the parentheses around it. -/
def withoutParens : Nat → Tree → Tree
  | fuel + 1, .node .paren _ [e] => withoutParens fuel e
  | _, t => t

/-- A member of something other than the superclass. -/
def isMember (t : Tree) : Bool :=
  match t with
  | .node .member _ (o :: _) => o.kind != .superKeyword
  | .node .chain _ [e] => e.kind = .member
  | _ => false

/-- Only members can be deleted. -/
def checkDeleted (operand : Tree) : Parser Unit := do
  if operand.name?.isSome then reportStrict operand.span .deleteIdentifier
  if ← typed then
    let inner := withoutParens (← limit) operand
    if !isMember inner then report inner.span .deleteNoReference

/-- An operator and its operand; without an operand an error is noted. -/
def prefixed (start : Nat) (operator : String) : Parser Tree := do
  let _ ← bump
  let behind := (← here) - 1
  let operand ← match ← outcome (go .unary) with
    | .ok e => pure e
    | .error f =>
      note f
      pure (Tree.invalid ⟨behind, behind⟩)
  if operator == "delete" then checkDeleted operand
  return .node (.unary operator) ⟨start, operand.span.hi⟩ [operand]

/-- What is awaited, behind `await`. -/
def awaited (start : Nat) : Parser Tree := do
  let place ← spanFrom start
  if ← sees "*" then failHere .awaitStar
  let c ← context
  if ← pure !c.inAsync <&&> (seesAny [")", "]", ","] <||> seesEnd) then
    report place .asyncIdentifier
    return .leaf (.name "await") place
  if c.inFunction && !c.inAsync then reportHere .awaitInFunction
  if c.inParameters && !c.inFunction then report place .awaitInParameter
  let e ← go .unary
  return .node .await (← spanFrom start) [e]

/-- An operand, and a step behind it. -/
def stepped (start : Nat) : Parser Tree := do
  let e ← go .leftHand
  if e.kind = .arrow then return e
  if ← lineBreak then return e
  if ← seesAny ["++", "--"] then
    checkTarget e false
    let _ ← bump
    return .node .update (← spanFrom start) [e]
  return e

def unary : Parser Tree := do
  let start ← here
  let d ← dialect
  if ← pure (d.types && !d.markup) <&&> eat "<" then return ← assertion go start
  match ← token? with
  | some (.symbol "++") | some (.symbol "--") =>
    let _ ← bump
    let e ← go .unary
    checkTarget e false
    return .node .update (← spanFrom start) [e]
  | some (.symbol "+") | some (.symbol "-") | some (.symbol "~") | some (.symbol "!")
  | some (.word "delete") | some (.word "void") | some (.word "typeof") =>
    prefixed go start (← shown)
  | some (.word "await") =>
    let _ ← bump
    awaited go start
  | _ => stepped go start

/-! ### Between operands -/

/-- A binary operator that is the current token, and how tightly it binds. -/
def operator? : Parser (Option (String × Nat)) := do
  match ← token? with
  | some (.word "in") => return if (← context).allowIn then some ("in", 7) else none
  | some (.word "instanceof") => return some ("instanceof", 7)
  | some t => return t.precedence.map (t.shown, ·)
  | none => return none

def isLogical (t : Tree) : Bool := t.kind = .binary "&&" || t.kind = .binary "||"

/-- `??` between other logical operators needs parentheses. -/
def checkOperands (operator : String) (left right : Tree) : Parser Unit := do
  if operator == "??" then
    if isLogical left then report left.span .logicalMix
    if isLogical right then report right.span .logicalMix

/-- Another logical operator behind `??` needs parentheses. -/
def checkLogical (t : Tree) : Parser Unit := do
  match t with
  | .node (.binary operator) place (left :: _) =>
    if (operator == "&&" || operator == "||") && left.kind = .binary "??" then
      report place .logicalMix
  | _ => return

/-- A type behind an expression. -/
def typedTail? (left : Tree) (least : Nat) : Parser (Option Tree) := do
  if !(← typed) || (← lineBreak) then return none
  let start := left.span.lo
  if ← pure (decide (least < 7)) <&&> sees "as" then
    if ← seesAhead "const" then
      let _ ← bump
      let _ ← bump
      return some (.node (.typed .constant) (← spanFrom start) [left])
    typeBehindWord go
    return some (.node (.typed .cast) (← spanFrom start) [left])
  if ← sees "satisfies" then
    typeBehindWord go
    return some (.node (.typed .satisfies) (← spanFrom start) [left])
  return none

/-- Operators and operands behind an operand, while they bind more tightly than `least`. -/
def binaryTailWith (fuel : Nat) (left : Tree) (least : Nat) : Parser Tree := do
  match fuel with
  | 0 => failHere .unexpectedEnd
  | fuel + 1 =>
    if let some e := ← typedTail? go left least then return ← binaryTailWith fuel e least
    match ← operator? with
    | none =>
      checkLogical left
      return left
    | some (operator, precedence) =>
      if precedence ≤ least then
        checkLogical left
        return left
      let _ ← bump
      if operator == "**" then
        match left.kind with
        | .unary _ | .await => failHere .unaryBeforePower
        | _ => pure ()
      let operand ← go .unary
      let right ← binaryTailWith fuel operand
        (if operator == "**" then precedence - 1 else precedence)
      checkOperands operator left right
      let whole := Tree.node (.binary operator) (left.span.to right.span) [left, right]
      checkLogical whole
      binaryTailWith fuel whole least

def binaryTail (left : Tree) (least : Nat) : Parser Tree := do
  binaryTailWith go (← limit) left least

def binary : Parser Tree := do
  match ← outcome (go .unary) with
  | .ok e => if e.kind = .arrow then return e else binaryTail go e 0
  | .error f =>
    let next ← token
    let isOperator := next.isOperator || next == .word "instanceof"
      || (next == .word "in" && (← context).allowIn)
    if !isOperator then throw f
    reportHere .expressionExpected
    binaryTail go (.invalid f.span) 0

/-! ### Choices -/

/-- The branches of a choice, behind its test. -/
def choiceBehind (start : Nat) (test : Tree) (atBranch : Bool) : Parser Tree := do
  let branch (c : Context) (colon : Bool) : Context :=
    { c with
      inConditional := true, colonFollows := colon, startsBranch := atBranch || c.startsBranch }
  let yes ← within
    (fun c => { branch c true with allowIn := atBranch || c.allowIn })
    (go .assignment)
  expect ":"
  let no ← within (fun c => branch c false) (go .assignment)
  return .node .choice ⟨start, no.span.hi⟩ [test, yes, no]

def choice : Parser Tree := do
  let start ← here
  let test ← go .binary
  if test.kind = .arrow then return test
  if ← eat "?" then return ← choiceBehind go start test true
  return test

/-! ### Assignments -/

/-- What is assigned, behind the target. -/
def assignmentBehind (start : Nat) (e : Tree) : Parser Tree := do
  match ← token? with
  | some (.symbol operator) =>
    if !Token.isAssignment (.symbol operator) then return e
    let target ←
      if operator == "=" then toPattern .target e
      else
        if !isSimpleTarget (← limit) e then
          report e.span (if ← typed then .notReference else .notAssignable)
        if ← pure e.isUnbindable <&&> typed then reportStrict e.span .strictUse
        pure e
    if !hasTargetKind target then fail target.span .invalidTarget
    let _ ← bump
    let value ← go .assignment
    return .node (.assign operator) (← spanFrom start) [target, value]
  | _ => return e

/-- What a generator hands out. -/
def yielded : Parser Tree := do
  let start ← here
  let _ ← bump
  let c ← context
  if c.inParameters && !c.inFunction then fail (← previous) .yieldInParameter
  let isAlone ←
    if ← seesEnd then pure true
    else if ← seesAny ["*", "/", "/="] then pure false
    else pure (!(← token?).any Token.startsExpression)
  if isAlone then return .leaf .yield (← spanFrom start)
  let _ ← eat "*"
  let e ← go .assignment
  return .node .yield (← spanFrom start) [e]

/-- An arrow function can begin with this token. -/
def startsArrow : Token → Bool
  | .word w => Word.isPlain w || w == "yield"
  | .symbol s => s == "("
  | _ => false

/-- An assignment that does not begin with type parameters. -/
def plainAssignment : Parser Tree := do
  let start ← here
  if ← pure (← context).inGenerator <&&> sees "yield" then return ← yielded go
  let arrows := startsArrow (← token)
  modify fun s => { s with arrowStart := if arrows then some start else none }
  let e ← choice go
  match e.kind with
  | .arrow | .choice | .binary _ | .unary _ | .update => return e
  | _ => assignmentBehind go start e

/-- An arrow with type parameters. -/
def genericArrow? : Parser (Option Tree) := do
  if !(← typed) then return none
  let opens ← sees "<" <||> seesMarkup
  if !opens then return none
  match ← aheadToken? with
  | some (.word _) | some (.markupName _) =>
    within (fun c => { c with colonFollows := false }) do
      attempt do
        if ← seesMarkup then
          if (← get).scan.nesting.current == some .openingTag then leaveTag
        let _ ← go (.typeParameters false true)
        let e ← go .plainAssignment
        if e.kind != .arrow then failUnexpected "("
        return some e
  | _ => return none

def assignment : Parser Tree := do
  let d ← dialect
  let whole : Parser Tree := do
    if let some e := ← genericArrow? go then return e
    go .plainAssignment
  if ← pure (d.types && d.markup) <&&> seesMarkup then
    if let some e := ← attempt (some <$> whole) then return e
    leaveTag
  whole

/-- Assignments between commas. -/
def expression : Parser Tree := do
  let first ← go .assignment
  if !(← sees ",") then return first
  let more ← many do
    if ← eat "," then return some (← go .assignment)
    return none
  return .node .sequence (← spanFrom first.span.lo) (first :: more)

end ImportLint.Syntax.Parser
