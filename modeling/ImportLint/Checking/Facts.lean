import ImportLint.ModuleKind

/-!
# Checking — what a source says

* `SourceFacts`: the references of a source, and its syntax errors.
-/

namespace ImportLint

/-- A string literal that names a module, and where it stands: in bytes, with its quotes. -/
structure Reference where
  specifier : Text
  start : Nat
  length : Nat
deriving DecidableEq, Repr, Inhabited

/-- A syntax error, and where it stands. -/
structure SyntaxProblem where
  start : Nat
  length : Nat
  message : String
deriving DecidableEq, Repr, Inhabited

structure SourceFacts where
  references : List Reference := []
  problems : List SyntaxProblem := []
deriving DecidableEq, Repr, Inhabited

end ImportLint
