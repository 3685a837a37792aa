import ImportLint.SearchPaths

/-!
# Linting — options

* `LintOptions.withNodePath`: the global directories of a colon-separated variable added.
* `LintOptions.globalSearchPaths`: the global directories that count.
* `LintOptions.isIgnored`: codes that are not reported.
-/

namespace ImportLint

/-- The options of a run. -/
structure LintOptions where
  /-- Directories of globally installed libraries. -/
  globalPaths : List Path := []
  /-- Where the tool itself lies; its own dependency folders are not global. -/
  toolDir : Option Path := none
  /-- Where the default libraries lie. -/
  libDir : Option Path := none
  /-- Codes of diagnostics that are dropped. -/
  ignoreCodes : List Nat := []
deriving DecidableEq, Repr, Inhabited

namespace LintOptions

/-- Adds the directories of a list separated by colons; empty entries name none. -/
def withNodePath (o : LintOptions) (value? : Option Text) : LintOptions :=
  match value? with
  | none => o
  | some value =>
    let entries := (Text.splitOn ':' value).filter (!·.isEmpty)
    { o with globalPaths := o.globalPaths ++ entries.map Path.mk }

/-- The global directories without the dependency folders of the tool. -/
def globalSearchPaths (o : LintOptions) : List Path :=
  subtractCallerChain o.globalPaths o.toolDir

def isIgnored (o : LintOptions) (code : Nat) : Bool := o.ignoreCodes.contains code

end LintOptions

end ImportLint
