import ImportLint.Glob.Sets
import ImportLint.Package.Specifier

/-!
# Projects — file patterns

The patterns of a project, turned into rules about the paths below its root.  What is included
must match a pattern; what is excluded is left out even then.

* `anchor`: a pattern as a glob seen from the root.
* `SourceFilter.allRules`: the rules of two lists of patterns.
* `SourceFilter.ofPatterns`: the filter with these rules, if they can be compiled.
* `SourceFilter.verdict`: whether a path is taken.
-/

namespace ImportLint

/-- Matches everything below a directory. -/
def everything : Text := ['*', '*', '/', '*']

/-- Folders that are left out at any depth unless a project says otherwise. -/
def defaultExcluded : List Text :=
  [dependencyFolder, "bower_components".toList, "jspm_packages".toList]

/-- Characters that make a pattern more than a path. -/
def hasWildcard (pattern : Text) : Bool :=
  pattern.any fun c => c == '*' || c == '?' || c == '[' || c == ']'

/-- The text without any `./` at its start. -/
def dropDotSlashes : Text → Text
  | '.' :: '/' :: rest => dropDotSlashes rest
  | t => t

def dropTrailingSlashes (t : Text) : Text := (t.reverse.dropWhile (· == '/')).reverse

/-- A pattern as seen from the root; there is none for an absolute path elsewhere. -/
def relativePattern (root : Path) (pattern : Text) : Option Text :=
  let trimmed : Path := ⟨Text.trim pattern⟩
  match trimmed.stripBase root with
  | some below => some below.chars
  | none => if trimmed.isAbsolute then none else some (dropDotSlashes trimmed.chars)

/-- A pattern as a glob seen from the root.  One that names a directory stands for everything
in it. -/
def anchor (root : Path) (isDirectory : Path → Bool) (pattern : Text) : Option Text :=
  (relativePattern root pattern).map fun relative =>
    let relative := dropTrailingSlashes relative
    if relative.isEmpty then '/' :: everything
    else if !hasWildcard relative && isDirectory (root.join ⟨relative⟩) then
      '/' :: relative ++ '/' :: everything
    else if Text.startsWith ['*', '*'] relative then relative
    else '/' :: relative

/-- Which of the two lists a pattern stands in. -/
inductive PatternRole where
  | included
  | excluded
deriving DecidableEq, Repr, Inhabited

def PatternRole.label : PatternRole → String
  | .included => "include"
  | .excluded => "exclude"

/-- Why two lists of patterns make no filter. -/
inductive PatternFault where
  /-- A pattern is no glob. -/
  | malformed (role : PatternRole) (pattern : Text) (fault : RuleFault)
  /-- All are globs, but their rules cannot be compiled together. -/
  | refused (reason : String)
deriving DecidableEq, Repr, Inhabited

def PatternFault.message : PatternFault → String
  | .malformed role pattern fault =>
    "invalid " ++ role.label ++ " pattern '" ++ String.ofList pattern ++ "': " ++ fault.message
  | .refused reason => "invalid file patterns: " ++ reason

/-- The rules that say which files belong to a project. -/
structure SourceFilter where
  rules : RuleList
deriving Repr, Inhabited

namespace SourceFilter

/-- The glob of a pattern in a list: an excluded one carries a `!`, and the default folders are
not bound to the root. -/
def globOf (root : Path) (isDirectory : Path → Bool) : PatternRole → Text → Option Text
  | .included, pattern => anchor root isDirectory pattern
  | .excluded, pattern =>
    if defaultExcluded.contains pattern then some ('!' :: pattern)
    else (anchor root isDirectory pattern).map ('!' :: ·)

/-- The rules of a list of patterns. -/
def rulesOf (root : Path) (isDirectory : Path → Bool) (role : PatternRole) :
    List Text → Except PatternFault (List GlobRule)
  | [] => .ok []
  | pattern :: rest => do
    let rule ← match globOf root isDirectory role pattern with
      | none => .ok none
      | some glob => (GlobRule.ofLine .refused glob).mapError (PatternFault.malformed role pattern)
    let rules ← rulesOf root isDirectory role rest
    return rule.toList ++ rules

/-- The rules of included patterns first, so that those of excluded ones outweigh them. -/
def allRules (root : Path) (isDirectory : Path → Bool) (included excluded : List Text) :
    Except PatternFault (List GlobRule) := do
  let taken ← rulesOf root isDirectory .included included
  let left ← rulesOf root isDirectory .excluded excluded
  return taken ++ left

/-- The filter of two lists of patterns. -/
def ofPatterns (root : Path) (isDirectory : Path → Bool) (included excluded : List Text)
    (compiler : SetCompiler := .standard) : Except PatternFault SourceFilter := do
  let rules ← allRules root isDirectory included excluded
  match compiler.refusal rules with
  | some reason => throw (.refused reason)
  | none => return ⟨⟨root, rules⟩⟩

/-- Whether the filter takes or leaves a path; a directory that no rule names is neither. -/
def verdict (f : SourceFilter) (p : Path) (isDirectory : Bool) : Option Verdict :=
  match f.rules.verdict p isDirectory with
  | some .ignored => some .kept
  | some .kept => some .ignored
  | none =>
    if f.rules.rules.any (!·.isNegated) && !isDirectory then some .ignored else none

end SourceFilter

end ImportLint
