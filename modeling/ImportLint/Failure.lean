import ImportLint.Json.Expected
import ImportLint.Path.Basic

/-!
# Failures

What can go wrong, as causes.  `LintError.message` is the one place where they are worded.

* `IoFailure`: a file system call that did not succeed.
* `ConfigFault`: a project config that cannot be decoded.
* `LintError`: every error of the library.
-/

namespace ImportLint

/-- Why a file system call did not succeed. -/
inductive IoKind where
  | notFound
  | notADirectory
  | isADirectory
  | permissionDenied
  | invalidData
  | timedOut
  | filesystemLoop
  | other
deriving DecidableEq, Repr, Inhabited

namespace IoKind

/-- Nothing is there, as opposed to something having gone wrong. -/
def isAbsence : IoKind → Bool
  | .notFound | .notADirectory => true
  | _ => false

/-- The words for a failure of which only the kind is known. -/
def description : IoKind → String
  | .notFound => "entity not found"
  | .notADirectory => "not a directory"
  | .isADirectory => "is a directory"
  | .permissionDenied => "permission denied"
  | .invalidData => "invalid data"
  | .timedOut => "timed out"
  | .filesystemLoop => "filesystem loop or indirection limit (e.g. symlink loop)"
  | .other => "other error"

end IoKind

/-- A file system call that did not succeed. -/
structure IoFailure where
  kind : IoKind
  message : String
deriving DecidableEq, Repr, Inhabited

def IoFailure.ofKind (kind : IoKind) : IoFailure := ⟨kind, kind.description⟩

/-- Why the text of a project config cannot be decoded. -/
inductive ConfigFault where
  /-- The text is not a value of the relaxed JSON syntax. -/
  | malformed (lack : Relaxed.Lack)
  /-- A value that cannot be represented, or of the wrong type. -/
  | value (reason : String)
deriving DecidableEq, Repr, Inhabited

def ConfigFault.message : ConfigFault → String
  | .malformed lack => lack.message
  | .value reason => reason

/-- Every error of the library.  Plain absence is never one. -/
inductive LintError where
  /-- A project config could not be read. -/
  | configRead (path : Path) (cause : IoFailure)
  /-- A project config is not of the expected form. -/
  | configParse (path : Path) (fault : ConfigFault)
  /-- A project config holds a value that is not allowed. -/
  | configInvalid (path : Path) (reason : String)
  /-- A source file could not be read. -/
  | fileRead (path : Path) (cause : IoFailure)
  /-- It could not be told whether a file is there. -/
  | stat (path : Path) (cause : IoFailure)
  /-- The checking engine failed. -/
  | engine (reason : String)
  /-- The arguments name no file to lint. -/
  | noInputs
deriving DecidableEq, Repr, Inhabited

namespace LintError

def message : LintError → String
  | configRead path cause => s!"cannot read project config '{path}': {cause.message}"
  | configParse path fault => s!"invalid project config '{path}': {fault.message}"
  | configInvalid path reason => s!"invalid project config '{path}': {reason}"
  | fileRead path cause => s!"cannot read '{path}': {cause.message}"
  | stat path cause => s!"cannot inspect '{path}': {cause.message}"
  | engine reason => s!"type-check engine: {reason}"
  | noInputs => "no lintable files found"

/-- Advice to print beside the message. -/
def hint : LintError → Option String
  | configParse .. => some "project config must be a JSON object"
  | configInvalid .. => some "supported targets: ES3, ES5, ES2015-ES2022, ESNext"
  | stat .. => some "check file permissions in the project tree"
  | noInputs => some "pass .ts/.tsx files or directories containing them"
  | _ => none

/-- Comes from reading a project config. -/
def isConfigError : LintError → Bool
  | configRead .. | configParse .. | configInvalid .. => true
  | _ => false

/-- The words of the underlying cause. -/
def source : LintError → Option String
  | configRead _ cause | fileRead _ cause | stat _ cause => some cause.message
  | configParse _ fault => some fault.message
  | _ => none

end LintError

end ImportLint
