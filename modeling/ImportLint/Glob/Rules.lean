import ImportLint.Glob.Match
import ImportLint.Path.Basic

/-!
# Globs — ordered rules

A list of rules as it stands in an ignore file: one pattern to a line, later lines outweigh
earlier ones, `!` takes a match back, a trailing slash asks for a directory, and a pattern
without an inner slash matches at any depth.

* `GlobRule.ofLine`: the rule on a line, if it holds one.
* `RuleList.verdict`: what the last matching rule says about a path.
-/

namespace ImportLint

/-- A line that holds no pattern, and why. -/
structure RuleFault where
  line : Text
  fault : GlobFault
deriving DecidableEq, Repr, Inhabited

def RuleFault.message (f : RuleFault) : String :=
  "error parsing glob '" ++ String.ofList f.line ++ "': " ++ f.fault.message

/-- One line of an ignore file. -/
structure GlobRule where
  tokens : List Glob.Token
  /-- Takes matches back. -/
  isNegated : Bool
  /-- Is about directories only. -/
  onlyDirectories : Bool
deriving Repr, Inhabited

namespace GlobRule

/-- The line without white space at its end, unless the last blank is escaped. -/
def content (line : Text) : Text :=
  if Text.endsWith ['\\', ' '] line then line else Text.trimEnd line

/-- The sign and the anchor of a line, and what follows them. -/
def splitMarks (line : Text) : Bool × Bool × Text :=
  match line with
  | '\\' :: '!' :: rest => (false, false, '!' :: rest)
  | '\\' :: '#' :: rest => (false, false, '#' :: rest)
  | '!' :: '/' :: rest => (true, true, rest)
  | '!' :: rest => (true, false, rest)
  | '/' :: rest => (false, true, rest)
  | rest => (false, false, rest)

/-- The pattern without a trailing slash, and whether there was one.  An escape before the
slash goes with it. -/
def splitDirectoryMark (t : Text) : Text × Bool :=
  match Text.stripEnd ['/'] t with
  | none => (t, false)
  | some t => ((Text.stripEnd ['\\'] t).getD t, true)

/-- The pattern for a whole path below the directory of the rule. -/
def wholePattern (anchored : Bool) (t : Text) : Text :=
  let t :=
    if anchored || t.contains '/' || t == ['*', '*'] then t
    else ['*', '*', '/'] ++ t
  if Text.endsWith ['/', '*', '*'] t then t ++ ['/', '*'] else t

/-- The rule on a line; comments and blank lines hold none. -/
def ofLine (policy : Glob.OpenClass) (line : Text) : Except RuleFault (Option GlobRule) :=
  if line.head? == some '#' then .ok none
  else
    let line := content line
    if line.isEmpty then .ok none
    else
      let (negated, anchored, t) := splitMarks line
      let (t, onlyDirectories) := splitDirectoryMark t
      match Glob.parse policy (wholePattern anchored t) with
      | .error fault => .error ⟨line, fault⟩
      | .ok tokens => .ok (some ⟨tokens, negated, onlyDirectories⟩)

end GlobRule

/-- What the rules say about a path. -/
inductive Verdict where
  | ignored
  | kept
deriving DecidableEq, Repr, Inhabited

/-- Rules about everything below a directory, in the order of their lines. -/
structure RuleList where
  base : Path
  rules : List GlobRule
deriving Repr, Inhabited

namespace RuleList

/-- A path as the rules see it: from their directory on. -/
def relative (r : RuleList) (p : Path) : Text :=
  if r.base.chars == ['.'] || !p.chars.contains '/' then p.chars
  else match Text.stripStart r.base.chars p.chars with
    | some rest => (Text.stripStart ['/'] rest).getD rest
    | none => p.chars

/-- What the last rule that matches a path says, if any does. -/
def verdict (r : RuleList) (p : Path) (isDirectory : Bool) : Option Verdict :=
  let path := r.relative p
  let matching := r.rules.filter fun rule =>
    (!rule.onlyDirectories || isDirectory) && Glob.covers rule.tokens path
  matching.getLast?.map fun rule => if rule.isNegated then .kept else .ignored

end RuleList

/-- The rules of an ignore file; lines that hold no pattern are passed over. -/
def RuleList.ofText (base : Path) (text : Text) : RuleList :=
  let lines := (Text.splitOn '\n' text).map fun l => (Text.stripEnd ['\r'] l).getD l
  let lines := match lines with
    | [] => []
    | first :: rest => first.dropWhile (· == Char.ofNat 0xFEFF) :: rest
  ⟨base, lines.filterMap fun line =>
    match GlobRule.ofLine .literal line with
    | .ok rule => rule
    | .error _ => none⟩

end ImportLint
