import ImportLint.Syntax.Grammar.Functions

/-!
# Grammar — expressions as patterns

What is assigned to is first read as an expression, for only what follows shows what it is.

* `checkTarget`: whether an expression can be assigned to.
* `toPattern`: an expression as the pattern that it looks like.
* `toParameters`: what stands between parentheses as the parameters of an arrow.
-/

namespace ImportLint.Syntax.Parser

/-- An expression that one value can be assigned to. -/
def isSimpleTarget : Nat → Tree → Bool
  | 0, _ => false
  | fuel + 1, t =>
    match t with
    | .node (.name n) _ _ => !Word.isUnbindable n
    | .node .paren _ [e] => isSimpleTarget fuel e
    | .node .member _ (o :: _) =>
      match o.kind with
      | .member => isSimpleTarget fuel o
      | .chain => false
      | _ => true
    | .node (.typed .constant) _ _ => false
    | .node (.typed _) _ [e] => isSimpleTarget fuel e
    | _ => false

/-- An expression whose kind can be assigned to. -/
def hasTargetKind (t : Tree) : Bool :=
  match t.kind with
  | .name _ | .member | .chain | .paren | .invalid | .arrayPattern | .objectPattern => true
  | .typed form => form != .constant
  | _ => false

/-- Not only the kind of the target is wrong. -/
def isWrongTarget (denyCall : Bool) : Nat → Tree → Bool
  | 0, _ => true
  | fuel + 1, t =>
    match t with
    | .node (.string _) _ _ | .node .literal _ _ | .node (.binary _) _ _ => false
    | .node .call _ _ => denyCall
    | .node .paren _ [e] => isWrongTarget denyCall fuel e
    | _ => true

/-- More than the number of steps that the source takes. -/
def limit : Parser Nat := return (← get).scan.input.limit

/-- Reports an expression that cannot be assigned to; with types, its kind is reported besides. -/
def checkTarget (t : Tree) (denyCall : Bool) : Parser Unit := do
  let fuel ← limit
  let isSimple := isSimpleTarget fuel t
  if !isSimple then report t.span .notReference
  if ← typed then
    if t.isUnbindable then reportStrict t.span .strictUse
    else if !isSimple && isWrongTarget denyCall fuel t then report t.span .notReference

/-- What an expression is read again as. -/
inductive Role where
  | binding
  | bindingElement
  | target
  | targetElement
deriving DecidableEq, Repr

def Role.element : Role → Role
  | .binding | .bindingElement => .bindingElement
  | .target | .targetElement => .targetElement

/-- The kinds of expressions that are their own targets in an array or an object. -/
def isOwnTarget (t : Tree) : Bool :=
  match t.kind with
  | .member | .call | .construct | .literal | .string _ | .name _ | .function .. | .classValue
  | .paren | .template | .typed .cast => true
  | _ => false

def isLiteralPattern (t : Tree) : Bool := t.kind = .array || t.kind = .object

def noPattern (t : Tree) : Parser Tree := do
  report t.span .invalidPattern
  return .invalid t.span

/-- The comma behind the last item of the array or object at `lo`. -/
def trailingComma? (lo : Nat) : Parser (Option Span) := do
  return ((← get).trailingCommas.find? fun c => c.1 = lo).map Prod.snd

def reportTrailingComma (lo : Nat) : Parser Unit := do
  if let some c := ← trailingComma? lo then report c .commaAfterRest

/-- A member of an object as a member of a pattern; `convert` reads values again. -/
def memberToPattern (convert : Tree → Parser Tree) (role : Role) (lo : Nat) (isLast : Bool)
    (m : Tree) : Parser Tree := do
  match m with
  | .node .shorthand .. | .node .withDefault .. => return m
  | .node .entry place [k, v] => return .node .entry place [k, ← convert v]
  | .node .spread place [e] =>
    if isLast then reportTrailingComma lo else report place .restNotLast
    let p ←
      if role.element = .bindingElement then
        if e.name?.isSome then pure e
        else
          report place .restWithoutIdentifier
          pure (Tree.invalid place)
      else convert e
    if p.kind = .withDefault then report place .restWithInitializer
    return .node .rest place [p]
  | _ => fail m.span .invalidPattern

def membersToPattern (convert : Tree → Parser Tree) (role : Role) (lo : Nat) :
    List Tree → Parser (List Tree)
  | [] => return []
  | m :: ms => do
    let p ← memberToPattern convert role lo ms.isEmpty m
    return p :: (← membersToPattern convert role lo ms)

/-- The items of an array as items of a pattern.  A rest stands last, before no comma. -/
def itemsToPattern (convert : Tree → Parser Tree) (lo : Nat) : List Tree → Parser (List Tree)
  | [] => return []
  | t :: ts => do
    match t with
    | .node .hole .. =>
      if ts.all fun u => u.kind = .hole then return []
      return t :: (← itemsToPattern convert lo ts)
    | .node .spread place [e] =>
      if ts.isEmpty then
        if e.kind = .assign "=" then report place .restWithInitializer
        reportTrailingComma lo
        return [.node .rest place [← convert e]]
      report place .restNotLast
      itemsToPattern convert lo ts
    | _ =>
      let p ← convert t
      return p :: (← itemsToPattern convert lo ts)

def toPatternWith : Nat → Role → Tree → Parser Tree
  | 0, _, t => noPattern t
  | fuel + 1, role, t => do
    if t.kind = .invalid then return t
    if role = .target && !isLiteralPattern t then
      checkTarget t true
      return t
    if role = .targetElement && !isLiteralPattern t then
      if isOwnTarget t then
        if !isSimpleTarget (← limit) t then report t.span .notAssignable
        return t
      match t.kind with
      | .assign _ => pure ()
      | _ => report t.span .invalidPattern
    match t with
    | .node (.assign "=") place [left, value] =>
      let left ←
        if left.kind = .arrayPattern || left.kind = .objectPattern then pure left
        else toPatternWith fuel role left
      return .node .withDefault place [left, value]
    | .node .object place ms =>
      let ms ← membersToPattern (toPatternWith fuel role.element) role place.lo ms
      return .node .objectPattern place ms
    | .node .array place ts =>
      let ts ← itemsToPattern (toPatternWith fuel role.element) place.lo ts
      return .node .arrayPattern place ts
    | .node (.name _) _ _ => return t
    | _ => noPattern t

/-- An expression as the pattern that it looks like. -/
def toPattern (role : Role) (t : Tree) : Parser Tree := do toPatternWith (← limit) role t

/-! ### Parameters of arrows -/

/-- What stands between parentheses: an expression, or what can only be a pattern. -/
structure Item where
  isPattern : Bool
  tree : Tree

/-- Reports names that cannot be bound. -/
def checkBound : Nat → Tree → Parser Unit
  | 0, _ => return
  | fuel + 1, t =>
    match t with
    | .node (.name _) place _ => do if t.isUnbindable then reportStrict place .strictBinding
    | .node .arrayPattern _ ts | .node .objectPattern _ ts => ts.forM (checkBound fuel)
    | .node .rest _ [p] | .node .entry _ [_, p] | .node .shorthand _ [p] => checkBound fuel p
    | .node .withDefault _ (p :: _) => checkBound fuel p
    | _ => return

def itemsToParameters (comma : Option Span) : List Item → Parser (List Tree)
  | [] => return []
  | [⟨true, p⟩] => do
    if p.kind = .rest then
      if let some c := comma then report c .commaAfterRest
    return [p]
  | [⟨false, .node .spread place [e]⟩] => do
    if e.kind = .assign "=" then report place .restWithInitializer
    if let some c := comma then report c .commaAfterRest
    return [.node .rest place [← toPattern .binding e]]
  | [⟨false, t⟩] => do return [← toPattern .binding t]
  | ⟨isPattern, t⟩ :: items => do
    if t.kind = .rest || t.kind = .spread then
      report t.span .restParameterNotLast
      itemsToParameters comma items
    else
      let p ← if isPattern then pure t else toPattern .binding t
      return p :: (← itemsToParameters comma items)

/-- What stands between parentheses as the parameters of an arrow. -/
def toParameters (items : List Item) (comma : Option Span) : Parser (List Tree) := do
  let ps ← itemsToParameters comma items
  ps.forM (checkBound (← limit))
  return ps

end ImportLint.Syntax.Parser
