import ImportLint.Text

/-!
# Globs — patterns

A pattern is a list of tokens.  `?` and `*` stop at slashes, `**` between slashes stands for any
number of directories, `[a-z]` is one byte of a class, and the branches of an alternative stand
between `{` and `}`, separated by commas.

* `Glob.parse`: the tokens of a pattern.
* `GlobFault`: why a text is no pattern.
-/

namespace ImportLint

/-- Why a text is no pattern. -/
inductive GlobFault where
  | unclosedClass
  | invalidRange (low high : Char)
  | unopenedAlternates
  | unclosedAlternates
  | danglingEscape
deriving DecidableEq, Repr, Inhabited

def GlobFault.message : GlobFault → String
  | .unclosedClass => "unclosed character class; missing ']'"
  | .invalidRange low high =>
    String.ofList ("invalid range; '".toList ++ [low] ++ "' > '".toList ++ [high, '\''])
  | .unopenedAlternates =>
    "unopened alternate group; missing '\x7b' (maybe escape '\x7d' with '[\x7d]'?)"
  | .unclosedAlternates =>
    "unclosed alternate group; missing '\x7d' (maybe escape '\x7b' with '[\x7b]'?)"
  | .danglingEscape => "dangling '\\'"

namespace Glob

/-- A piece of a pattern. -/
inductive Token where
  | literal (c : Char)
  /-- One byte that is no slash. -/
  | anyByte
  /-- Any number of bytes that are no slashes. -/
  | anyRun
  /-- Nothing or any directories at the start, up to and with a slash. -/
  | leadingDirectories
  /-- A slash and anything after it. -/
  | trailingDirectories
  /-- A slash, or any directories between two slashes. -/
  | innerDirectories
  /-- One byte in, or not in, the ranges. -/
  | byteClass (negated : Bool) (ranges : List (Char × Char))
  | alternates (branches : List (List Token))
deriving Repr, Inhabited

/-- What to do with a class that is not closed. -/
inductive OpenClass where
  /-- The pattern is refused. -/
  | refused
  /-- The bracket, and every later one, stands for itself. -/
  | literal
deriving DecidableEq, Repr, Inhabited

/-! ### Classes -/

/-- A class that is being read. -/
structure ClassScan where
  negated : Bool
  /-- The ranges so far, the last one first. -/
  ranges : List (Char × Char) := []
  isFirst : Bool := true
  inRange : Bool := false
deriving Repr, Inhabited

namespace ClassScan

def single (s : ClassScan) (c : Char) : ClassScan :=
  { s with ranges := (c, c) :: s.ranges, isFirst := false, inRange := false }

/-- Makes `c` the upper end of the last range. -/
def close (s : ClassScan) (c : Char) : Except GlobFault ClassScan :=
  match s.ranges with
  | (low, _) :: rest =>
    if c.toNat < low.toNat then .error (.invalidRange low c)
    else .ok { s with ranges := (low, c) :: rest, isFirst := false, inRange := false }
  | [] => .ok (s.single c)

/-- One more character of a class. -/
def step (s : ClassScan) (c : Char) : Except GlobFault ClassScan :=
  if s.isFirst && c == ']' then .ok (s.single c)
  else if c == '-' && !s.isFirst && !s.inRange then .ok { s with inRange := true }
  else if s.inRange then s.close c
  else .ok (s.single c)

/-- Whether `c` is the bracket that ends the class. -/
def endsAt (s : ClassScan) (c : Char) : Bool := c == ']' && !s.isFirst

/-- The token of a class that has ended.  A last dash stands for itself. -/
def token (s : ClassScan) : Token :=
  let ranges := if s.inRange then ('-', '-') :: s.ranges else s.ranges
  .byteClass s.negated ranges.reverse

/-- Whether the class ends within a text. -/
def isClosed (s : ClassScan) : Text → Except GlobFault Bool
  | [] => .ok false
  | c :: cs =>
    if s.endsAt c then .ok true
    else do (← s.step c).isClosed cs

/-- The class that opens before a text, and the number of characters that negate it. -/
def opening : Text → ClassScan
  | '!' :: _ | '^' :: _ => { negated := true }
  | _ => { negated := false }

end ClassScan

/-! ### Patterns -/

/-- An alternative that is being read. -/
structure OpenGroup where
  /-- The tokens before the alternative, the last one first. -/
  outer : List Token
  /-- The finished branches, the last one first. -/
  branches : List (List Token) := []
deriving Repr, Inhabited

/-- The state between two characters of a pattern. -/
structure Reading where
  /-- The tokens of the branch that is being read, the last one first. -/
  tokens : List Token := []
  /-- The alternatives around it, the innermost first. -/
  groups : List OpenGroup := []
  /-- The class that is being read. -/
  scan : Option ClassScan := none
  /-- A bracket opens a class. -/
  hasClasses : Bool := true
deriving Repr, Inhabited

namespace Reading

def push (r : Reading) (t : Token) : Reading := { r with tokens := t :: r.tokens }

def openGroup (r : Reading) : Reading :=
  { r with tokens := [], groups := { outer := r.tokens } :: r.groups }

/-- A comma separates branches within an alternative and stands for itself elsewhere. -/
def comma (r : Reading) : Reading :=
  match r.groups with
  | [] => r.push (.literal ',')
  | g :: gs =>
    { r with tokens := [], groups := { g with branches := r.tokens.reverse :: g.branches } :: gs }

def closeGroup (r : Reading) : Except GlobFault Reading :=
  match r.groups with
  | [] => .error .unopenedAlternates
  | g :: gs =>
    let branches := (r.tokens.reverse :: g.branches).reverse
    .ok { r with tokens := .alternates branches :: g.outer, groups := gs }

/-- Two stars that do not stand between slashes. -/
def pushRuns (r : Reading) : Reading := (r.push .anyRun).push .anyRun

/-- Two stars after a slash, which they absorb. -/
def pushDirectories (r : Reading) (t : Token) : Reading :=
  match r.tokens with
  | .leadingDirectories :: _ => r
  | .trailingDirectories :: _ => r
  | _ :: ts => { r with tokens := t :: ts }
  | [] => r.push t

/-- Two stars here may stand for directories. -/
def followsSlash (r : Reading) (previous : Option Char) : Bool :=
  previous == some '/'
    || (!r.groups.isEmpty && (previous == some ',' || previous == some '\x7b'))

/-- The tokens of a pattern that has been read to its end. -/
def finish (r : Reading) : Except GlobFault (List Token) :=
  match r.groups with
  | [] => .ok r.tokens.reverse
  | _ :: _ => .error .unclosedAlternates

end Reading

/-- Reads on.  `previous` is the character before the text. -/
def feed (policy : OpenClass) (r : Reading) (previous : Option Char) :
    Text → Except GlobFault Reading
  | [] => .ok r
  | c :: cs =>
    match r.scan with
    | some s =>
      if s.isFirst && s.ranges.isEmpty && s.negated && previous == some '[' then
        -- the mark that negates the class
        feed policy r (some c) cs
      else if s.endsAt c then feed policy { r.push s.token with scan := none } (some c) cs
      else do
        let s ← s.step c
        feed policy { r with scan := some s } (some c) cs
    | none =>
      match c, cs with
      | '?', cs => feed policy (r.push .anyByte) (some '?') cs
      | '*', '*' :: '/' :: rest =>
        if r.tokens.isEmpty then feed policy (r.push .leadingDirectories) (some '/') rest
        else if r.followsSlash previous then
          feed policy (r.pushDirectories .innerDirectories) (some '/') rest
        else feed policy (r.pushRuns.push (.literal '/')) (some '/') rest
      | '*', ['*'] =>
        if r.tokens.isEmpty then .ok (r.push .leadingDirectories)
        else if r.followsSlash previous then .ok (r.pushDirectories .trailingDirectories)
        else .ok r.pushRuns
      | '*', '*' :: rest =>
        let ends := rest.head? == some ',' || rest.head? == some '\x7d'
        if !r.tokens.isEmpty && r.followsSlash previous && ends && !r.groups.isEmpty then
          feed policy (r.pushDirectories .trailingDirectories) (some '*') rest
        else feed policy r.pushRuns (some '*') rest
      | '*', cs => feed policy (r.push .anyRun) (some '*') cs
      | '[', cs =>
        if r.hasClasses then
          let s := ClassScan.opening cs
          match s.isClosed (if s.negated then cs.drop 1 else cs) with
          | .error e => .error e
          | .ok true => feed policy { r with scan := some s } (some '[') cs
          | .ok false =>
            match policy with
            | .refused => .error .unclosedClass
            | .literal =>
              feed policy { r.push (.literal '[') with hasClasses := false } (some '[') cs
        else feed policy (r.push (.literal '[')) (some '[') cs
      | '\x7b', cs => feed policy r.openGroup (some '\x7b') cs
      | '\x7d', cs =>
        match r.closeGroup with
        | .error e => .error e
        | .ok r => feed policy r (some '\x7d') cs
      | ',', cs => feed policy r.comma (some ',') cs
      | '\\', d :: rest => feed policy (r.push (.literal d)) (some d) rest
      | '\\', [] => .error .danglingEscape
      | c, cs => feed policy (r.push (.literal c)) (some c) cs

/-- The tokens of a pattern. -/
def parse (policy : OpenClass) (pattern : Text) : Except GlobFault (List Token) :=
  (feed policy {} none pattern).bind Reading.finish

end Glob

end ImportLint
